import ItcFramework.Coord.RegistryConsistency

/-!
# Process slots that are granted again

The registry of the coordinator with the `pid` of each slot and its exit handler (`itccoord.c`),
over runs in which slots go round: `disconnect_from_process` destroys the `list_mboxes_tree` of a
slot and leaves its root as it is, and `handle_locate_coord_request` grants the slot again.

* `CoordLife.Clean` — the list of a slot is a tree of mailboxes of the slot's current owner.
* `CoordLife.Inv` — the invariant: besides the one of the registry, no slot in use has a root that
  dangles, and all mailboxes of a slot are younger than its last grant.
* `recycled_iff` — every access finds a clean list in just the runs that grant no slot whose list
  was destroyed, and in which a process removes no mailbox of another one.
-/

set_option autoImplicit false

namespace ItcFramework

open ByteImage HeapModel SearchTree Transition

/-! ## Slots over a run -/

/-- The registry with the `pid` of each slot. `grantedAt` records the first unused address at the
time of a slot's last grant: the mailboxes of its current owner lie from there on. -/
structure CoordLife where
  inst : ItccoordInst
  pids : Nat → Int
  grantedAt : Nat → Nat

namespace CoordLife

def init (pid : Int) : CoordLife := ⟨.init, fun i => if i = 1 then pid else -1, fun _ => 0⟩

/-- The slots whose list the next call may read: for a message of a connected process, when a
process in `used_list` is disconnected, and in the exit handler. -/
def Reads (w : CoordLife) (proc : Nat) : Prop :=
  w.inst.Connected proc ∨ proc ∈ w.inst.usedList ∨
    proc < MAX_SUPPORTED_PROCESSES ∧ w.pids proc ≠ -1

/-- The list is a valid tree of mailboxes that the current owner of the slot has registered. -/
def Clean (w : CoordLife) (proc : Nat) : Prop :=
  ∃ t, (w.inst.processes proc).listMboxesTree = .root t ∧
    Ordered CString.strcmp (mboxName w.inst.heap) t.toList ∧
    ∀ mbox ∈ t.toList, w.grantedAt proc ≤ mbox ∧
      ∃ mboxId name, w.inst.Names mbox mboxId name ∧ procOf mboxId = proc

end CoordLife

/-! ## The exit handler -/

/-- The loop of `itccoord_exit_handler`, whose `find_process` gives the slot `i` for
`i << ITC_COORD_SHIFT`; false where a socket cannot be closed. -/
def destroyLists (closes : Nat → Bool) (w : CoordLife) : List Nat → Except MemFault Bool
  | [] => .ok true
  | i :: rest =>
      if ! closes i then .ok false
      else if w.pids i ≠ -1 then do
        let _ ← (w.inst.processes i).listMboxesTree.get
        destroyLists closes w rest
      else destroyLists closes w rest

/-- `itccoord_exit_handler`, as far as it destroys the trees. -/
def itccoordExitHandler (closes : Nat → Bool) (w : CoordLife) :
    Except MemFault (Heap ItcMboxInfo) := do
  if ! (← destroyLists closes w (List.range MAX_SUPPORTED_PROCESSES)) then return w.inst.heap
  w.inst.mboxTree.toList.foldlM Heap.free w.inst.heap

/-! ## Steps -/

inductive LifeAction where
  | locate (myPid : Int)
  | serve (act : CoordAction)
  /-- A disconnection whose `q_enqueue` gets no node. -/
  | lose (proc : Nat)
  /-- A process that never connected and whose socket cannot be closed. -/
  | abandon (proc : Nat)

def pidsAfter (pids : Nat → Int) : CoordAction → Nat → Int
  | .disconnect proc => Function.update pids proc (-1)
  | _ => pids

/-- The steps of the registry, with the slots that leave both queues. -/
inductive LifeStep (impl : TreeImpl Nat) (w : CoordLife) : LifeAction → CoordLife → Prop where
  | locate {inst : ItccoordInst} {proc : Nat} {rest : List Nat} (myPid : Int)
      (hfree : w.inst.freeList = proc :: rest) (h : CoordStep impl w.inst .locateCoord inst) :
      LifeStep impl w (.locate myPid)
        ⟨inst, Function.update w.pids proc myPid,
          Function.update w.grantedAt proc w.inst.heap.next⟩
  | serve {inst : ItccoordInst} {act : CoordAction} (hact : act ≠ .locateCoord)
      (h : CoordStep impl w.inst act inst) :
      LifeStep impl w (.serve act) ⟨inst, pidsAfter w.pids act, w.grantedAt⟩
  | lose {inst : ItccoordInst} {proc : Nat} (hused : proc ∈ w.inst.usedList)
      (h : disconnectFromProcess impl w.inst proc = .ok inst) :
      LifeStep impl w (.lose proc) ⟨{ inst with freeList := w.inst.freeList },
        Function.update w.pids proc (-1), w.grantedAt⟩
  | abandon {proc : Nat} (hused : proc ∈ w.inst.usedList)
      (hstate : (w.inst.processes proc).state = .listening) :
      LifeStep impl w (.abandon proc)
        ⟨{ w.inst with usedList := w.inst.usedList.erase proc }.setState proc .unused,
          Function.update w.pids proc (-1), w.grantedAt⟩

/-- What every call finds in the lists, and that none of them visits or frees a node that was
freed. -/
structure Recycles (impl : TreeImpl Nat) (w : CoordLife) : Prop where
  clean : ∀ proc, w.Reads proc → w.Clean proc
  add : ∀ mboxId name, procOf mboxId ≠ MAX_SUPPORTED_PROCESSES →
    ∃ s', handleAddMbox impl w.inst mboxId name = .ok s'
  rmv : ∀ mboxId name, procOf mboxId ≠ MAX_SUPPORTED_PROCESSES →
    ∃ s', handleRemoveMbox impl w.inst mboxId name = .ok s'
  disconnect : ∀ proc ∈ w.inst.usedList, ∃ s', disconnectFromProcess impl w.inst proc = .ok s'
  exit : ∀ closes, ∃ heap, itccoordExitHandler closes w = .ok heap

/-- The slot that is granted has not been left with mailboxes before, and a connected process
removes a mailbox of its own, or none. -/
def LifeGuard (w : CoordLife) : LifeAction → Prop
  | .locate _ => ∀ proc ∈ w.inst.freeList.head?,
      (w.inst.processes proc).listMboxesTree ≠ .dangling
  | .serve (.rmvMbox mboxId name) => w.inst.Connected (procOf mboxId) →
      ∀ mbox ∈ w.inst.mboxTree.toList, ∀ mboxId', w.inst.Names mbox mboxId' name →
        procOf mboxId' = procOf mboxId
  | _ => True

/-! ## What the handlers leave alone -/

/-- The queues and the states are the same, and no more roots dangle. -/
structure ItccoordInst.SlotsKept (s s' : ItccoordInst) : Prop where
  freeList : s'.freeList = s.freeList
  usedList : s'.usedList = s.usedList
  state : ∀ i, (s'.processes i).state = (s.processes i).state
  root : ∀ i, (s'.processes i).listMboxesTree = .dangling →
    (s.processes i).listMboxesTree = .dangling

namespace ItccoordInst

variable {s s' : ItccoordInst}

theorem SlotsKept.refl (s : ItccoordInst) : s.SlotsKept s :=
  ⟨rfl, rfl, fun _ => rfl, fun _ h => h⟩

theorem SlotsKept.setList (s : ItccoordInst) (heap : Heap ItcMboxInfo)
    (mboxTree list : SearchTree.Tree Nat) (proc : Nat) : s.SlotsKept ({ s with heap, mboxTree }.setList proc list) where
  freeList := rfl
  usedList := rfl
  state i := by
    by_cases hi : i = proc
    · subst hi
      rw [ItccoordInst.setList, setProc_self]
    · rw [ItccoordInst.setList, setProc_ne _ _ hi]
  root i hi := by
    by_cases hip : i = proc
    · subst hip
      rw [ItccoordInst.setList, setProc_self] at hi
      cases hi
    · rwa [ItccoordInst.setList, setProc_ne _ _ hip] at hi

theorem SlotsKept.connected (h : s.SlotsKept s') (i : Nat) : s'.Connected i ↔ s.Connected i := by
  rw [Connected, h.state, Connected]

theorem walk_eq {β : Type} {heap : Heap ItcMboxInfo} {c : Nat → Ordering}
    {t : SearchTree.Tree Nat} {r r' : β} (hcall : walk heap c t r = .ok r') : r' = r := by
  unfold walk at hcall
  split at hcall
  · exact (Except.ok.inj hcall).symm
  · cases hcall

/-- A registration does nothing, or allocates the mailbox in vain, or enters it under a new name. -/
theorem handleAddMbox_cases {impl : TreeImpl Nat} {mboxId : MboxId} {name : CString}
    (hcall : handleAddMbox impl s mboxId name = .ok s') :
    s' = s ∨ s' = { s with heap := s.heap.push ⟨mboxId, name⟩ } ∨
      ∃ proc list, findProcess mboxId = .ok (some proc) ∧ s.mboxTree.find
          (mboxNameCmpfunc2 (s.heap.push ⟨mboxId, name⟩) s.heap.next) = none ∧
        s' = { s with
          heap := s.heap.push ⟨mboxId, name⟩
          mboxTree := impl.tsearch (mboxNameCmpfunc2 (s.heap.push ⟨mboxId, name⟩) s.heap.next)
            s.heap.next s.mboxTree }.setList proc list := by
  unfold handleAddMbox at hcall
  obtain ⟨proc, hproc, hcall⟩ := bind_eq_ok hcall
  cases proc with
  | none =>
    cases hcall
    exact .inl rfl
  | some proc =>
    simp only at hcall
    split at hcall
    · cases hcall
      exact .inl rfl
    · obtain ⟨found, hfound, hcall⟩ := bind_eq_ok hcall
      have hfind := walk_eq hfound
      cases found with
      | some mbox =>
        cases hcall
        exact .inr (.inl rfl)
      | none =>
        obtain ⟨mboxTree, htree, hcall⟩ := bind_eq_ok hcall
        obtain ⟨list, -, hcall⟩ := bind_eq_ok hcall
        obtain ⟨list', -, hcall⟩ := bind_eq_ok hcall
        obtain rfl := walk_eq htree
        cases hcall
        exact .inr (.inr ⟨proc, list', hproc, hfind.symm, rfl⟩)

theorem handleAddMbox_kept {impl : TreeImpl Nat} {mboxId : MboxId} {name : CString}
    (hcall : handleAddMbox impl s mboxId name = .ok s') : s.SlotsKept s' := by
  rcases handleAddMbox_cases hcall with rfl | rfl | ⟨proc, list, -, -, rfl⟩
  · exact .refl s'
  · exact ⟨rfl, rfl, fun _ => rfl, fun _ h => h⟩
  · exact .setList ..

/-- A removal does nothing, or frees the mailbox that is found by its name. -/
theorem handleRemoveMbox_cases {impl : TreeImpl Nat} {mboxId : MboxId} {name : CString}
    (hcall : handleRemoveMbox impl s mboxId name = .ok s') :
    (s' = s ∧ ∀ proc, findProcess mboxId = .ok (some proc) → s.Connected proc →
        s.mboxTree.find (mboxNameCmpfunc s.heap name) = none) ∨
      ∃ proc mbox heap list, findProcess mboxId = .ok (some proc) ∧
        s.mboxTree.find (mboxNameCmpfunc s.heap name) = some mbox ∧
        s.heap.free mbox = .ok heap ∧ s' = { s with
          heap
          mboxTree := impl.tdelete (mboxNameCmpfunc s.heap name) s.mboxTree }.setList proc list := by
  unfold handleRemoveMbox at hcall
  obtain ⟨proc, hproc, hcall⟩ := bind_eq_ok hcall
  cases proc with
  | none =>
    cases hcall
    refine .inl ⟨rfl, fun proc hproc' => ?_⟩
    rw [hproc] at hproc'
    cases hproc'
  | some proc =>
    simp only at hcall
    split at hcall
    · rename_i hstate
      cases hcall
      refine .inl ⟨rfl, fun proc' hproc' hconn => ?_⟩
      rw [hproc] at hproc'
      cases hproc'
      exact absurd hconn hstate
    · obtain ⟨found, hfound, hcall⟩ := bind_eq_ok hcall
      obtain rfl := walk_eq hfound
      cases hfind : s.mboxTree.find (mboxNameCmpfunc s.heap name) with
      | none =>
        rw [hfind] at hcall
        cases hcall
        exact .inl ⟨rfl, fun _ _ _ => rfl⟩
      | some mbox =>
        rw [hfind] at hcall
        obtain ⟨mboxTree, htree, hcall⟩ := bind_eq_ok hcall
        obtain ⟨list, -, hcall⟩ := bind_eq_ok hcall
        obtain ⟨list', -, hcall⟩ := bind_eq_ok hcall
        obtain ⟨heap, hfree, hcall⟩ := bind_eq_ok hcall
        obtain rfl := walk_eq htree
        cases hcall
        exact .inr ⟨proc, mbox, heap, list', hproc, rfl, hfree, rfl⟩

theorem handleRemoveMbox_kept {impl : TreeImpl Nat} {mboxId : MboxId} {name : CString}
    (hcall : handleRemoveMbox impl s mboxId name = .ok s') : s.SlotsKept s' := by
  rcases handleRemoveMbox_cases hcall with ⟨rfl, -⟩ | ⟨proc, mbox, heap, list, -, -, -, rfl⟩
  · exact .refl s'
  · exact .setList ..

/-- A process index that `find_process` can look up is not the one behind the array. -/
theorem findProcess_index {mboxId : MboxId} {proc : Option Nat}
    (hcall : findProcess mboxId = .ok proc) : procOf mboxId ≠ MAX_SUPPORTED_PROCESSES := by
  intro heq
  rw [findProcess, heq, if_neg (Nat.lt_irrefl _), if_neg (Nat.lt_irrefl _)] at hcall
  cases hcall

theorem handleAddMbox_index {impl : TreeImpl Nat} {mboxId : MboxId} {name : CString}
    (hcall : handleAddMbox impl s mboxId name = .ok s') :
    procOf mboxId ≠ MAX_SUPPORTED_PROCESSES := by
  unfold handleAddMbox at hcall
  obtain ⟨proc, hfind, -⟩ := bind_eq_ok hcall
  exact findProcess_index hfind

theorem handleRemoveMbox_index {impl : TreeImpl Nat} {mboxId : MboxId} {name : CString}
    (hcall : handleRemoveMbox impl s mboxId name = .ok s') :
    procOf mboxId ≠ MAX_SUPPORTED_PROCESSES := by
  unfold handleRemoveMbox at hcall
  obtain ⟨proc, hfind, -⟩ := bind_eq_ok hcall
  exact findProcess_index hfind

theorem disconnectFromProcess_release {impl : TreeImpl Nat} {proc : Nat}
    (hcall : disconnectFromProcess impl s proc = .ok s') :
    ∃ list heap mboxTree,
      list.toList.foldlM (deleteCounterpartMailboxesInMailboxtree impl s.heap) s.mboxTree =
        .ok mboxTree ∧
      list.toList.foldlM Heap.free s.heap = .ok heap ∧
      s' = s.release proc list heap mboxTree := by
  unfold disconnectFromProcess at hcall
  obtain ⟨list, -, hcall⟩ := bind_eq_ok hcall
  obtain ⟨mboxTree, htree, hcall⟩ := bind_eq_ok hcall
  obtain ⟨heap, hheap, hcall⟩ := bind_eq_ok hcall
  cases hcall
  exact ⟨list, heap, mboxTree, htree, hheap, rfl⟩

end ItccoordInst

/-! ## The invariant -/

structure CoordLife.Inv (w : CoordLife) : Prop where
  registry : w.inst.Inv
  used : ∀ proc ∈ w.inst.usedList, (w.inst.processes proc).listMboxesTree ≠ .dangling
  /-- The coordinator's own slot is in no queue. -/
  own : w.inst.Connected 1
  apart : 1 ∉ w.inst.freeList ++ w.inst.usedList
  granted : ∀ proc, w.inst.Connected proc ∨ w.pids proc ≠ -1 →
    proc ∈ w.inst.usedList ∨ proc = 1
  next : ∀ proc, w.grantedAt proc ≤ w.inst.heap.next
  since : ∀ mbox ∈ w.inst.mboxTree.toList, ∀ proc, ownerOf w.inst.heap mbox = some proc →
    w.grantedAt proc ≤ mbox

namespace CoordLife

variable {w w' : CoordLife}

theorem setState_list (s : ItccoordInst) (proc : Nat) (state : ProcessState) (i : Nat) :
    ((s.setState proc state).processes i).listMboxesTree = (s.processes i).listMboxesTree := by
  by_cases hi : i = proc
  · rw [hi, ItccoordInst.setState, ItccoordInst.setProc_self]
  · rw [ItccoordInst.setState, ItccoordInst.setProc_ne _ _ hi]

theorem Inv.init (pid : Int) : (CoordLife.init pid).Inv where
  registry := .init
  used _ hproc := by cases hproc
  own := rfl
  apart := by
    show 1 ∉ List.range' 2 (MAX_SUPPORTED_PROCESSES - 2) ++ []
    simp
  granted proc hproc := by
    by_cases hown : proc = 1
    · exact .inr hown
    · rcases hproc with hconn | hpid
      · simp only [CoordLife.init, ItccoordInst.Connected, ItccoordInst.init, hown, if_false]
          at hconn
        split at hconn
        · cases hconn
        · cases hconn
      · exact absurd (if_neg hown) hpid
  next _ := Nat.zero_le _
  since mbox hmbox := by cases hmbox

theorem Inv.reads (h : w.Inv) {proc : Nat} (hreads : w.Reads proc) :
    (w.inst.processes proc).listMboxesTree ≠ .dangling := by
  have hslot : proc ∈ w.inst.usedList ∨ proc = 1 := by
    rcases hreads with hconn | hused | ⟨-, hpid⟩
    · exact h.granted proc (.inl hconn)
    · exact .inl hused
    · exact h.granted proc (.inr hpid)
  rcases hslot with hused | rfl
  · exact h.used proc hused
  · obtain ⟨t, ht, -⟩ := h.registry.connected 1 h.own
    rw [ht]
    exact TreeRoot.noConfusion

theorem Inv.clean (h : w.Inv) {proc : Nat} (hreads : w.Reads proc) : w.Clean proc := by
  obtain ⟨t, ht, hlist⟩ := h.registry.listOf (h.reads hreads)
  refine ⟨t, ht, hlist.ordered, fun mbox hmbox => ?_⟩
  obtain ⟨hmem, howner⟩ := (hlist.mem mbox).mp hmbox
  obtain ⟨⟨mboxId, name⟩, hinfo, hproc⟩ := ownerOf_some howner
  exact ⟨h.since mbox hmem proc howner, mboxId, name, hinfo, hproc⟩

theorem Inv.rmv (h : w.Inv) (impl : TreeImpl Nat) {mboxId : MboxId} (name : CString)
    (hidx : procOf mboxId ≠ MAX_SUPPORTED_PROCESSES) :
    ∃ s', handleRemoveMbox impl w.inst mboxId name = .ok s' := by
  rcases Nat.lt_or_gt_of_ne hidx with hlt | hgt
  rotate_left
  · exact ⟨w.inst, by rw [handleRemoveMbox, ItccoordInst.findProcess_none hgt]; rfl⟩
  rw [handleRemoveMbox, ItccoordInst.findProcess_some hlt]
  by_cases hconn : w.inst.Connected (procOf mboxId)
  rotate_left
  · have hstate : (w.inst.processes (procOf mboxId)).state ≠ .connected := hconn
    simp only [bind, Except.bind, if_pos hstate]
    exact ⟨w.inst, rfl⟩
  obtain ⟨list, hroot, hlist⟩ := h.registry.connected _ hconn
  have hall : ∀ mbox ∈ w.inst.mboxTree.toList, (w.inst.heap.cells mbox).isSome := by
    intro mbox hmbox
    obtain ⟨info, hinfo, -⟩ := h.registry.live hmbox
    rw [hinfo]
    rfl
  have halll : ∀ mbox ∈ list.toList, (w.inst.heap.cells mbox).isSome := fun mbox hmbox =>
    hall mbox ((hlist.mem mbox).mp hmbox).1
  have hstate : (w.inst.processes (procOf mboxId)).state = .connected := hconn
  simp only [bind, Except.bind, hstate, ne_eq, not_true_eq_false, if_false, walk_ok hall, hroot,
    TreeRoot.get, walk_ok halll]
  cases hfind : w.inst.mboxTree.find (mboxNameCmpfunc w.inst.heap name) with
  | none => exact ⟨w.inst, rfl⟩
  | some mbox =>
    obtain ⟨info, hinfo, -⟩ := h.registry.live (SearchTree.Tree.find_some hfind).1
    obtain ⟨heap, hfree, -⟩ := Heap.free_of_live hinfo
    simp only [hfree]
    exact ⟨_, rfl⟩

theorem Inv.destroyLists (h : w.Inv) (closes : Nat → Bool) {l : List Nat}
    (hl : ∀ i ∈ l, i < MAX_SUPPORTED_PROCESSES) :
    ∃ done, destroyLists closes w l = .ok done := by
  induction l with
  | nil => exact ⟨true, rfl⟩
  | cons i rest ih =>
    obtain ⟨done, hrest⟩ := ih fun j hj => hl j (List.mem_cons_of_mem _ hj)
    rw [ItcFramework.destroyLists]
    split
    · exact ⟨false, rfl⟩
    · split
      · rename_i hpid
        obtain ⟨t, ht, -⟩ := h.clean (.inr (.inr ⟨hl i List.mem_cons_self, hpid⟩))
        rw [ht]
        exact ⟨done, hrest⟩
      · exact ⟨done, hrest⟩

theorem Inv.exit (h : w.Inv) (closes : Nat → Bool) :
    ∃ heap, itccoordExitHandler closes w = .ok heap := by
  obtain ⟨done, hlists⟩ := h.destroyLists closes (l := List.range MAX_SUPPORTED_PROCESSES)
    fun i hi => List.mem_range.mp hi
  simp only [itccoordExitHandler, hlists, bind, Except.bind]
  cases done with
  | false => exact ⟨_, rfl⟩
  | true =>
    obtain ⟨heap, hfree, -⟩ := Heap.foldlM_free h.registry.ordered.nodup fun mbox hmbox =>
      (h.registry.live hmbox).imp fun _ hi => hi.1
    exact ⟨heap, hfree⟩

theorem Inv.recycles (h : w.Inv) (impl : TreeImpl Nat) : Recycles impl w where
  clean _ hreads := h.clean hreads
  add _ name hidx := (h.registry.addMbox impl name hidx).imp fun _ hs => hs.1
  rmv _ name hidx := h.rmv impl name hidx
  disconnect proc hproc := (h.registry.disconnect impl (h.used proc hproc)).imp fun _ hs => hs.1
  exit closes := h.exit closes

/-! ### Steps -/

/-- A message changes no queue and no state. -/
theorem Inv.message (h : w.Inv) {inst : ItccoordInst} (hinv : inst.Inv)
    (hkept : w.inst.SlotsKept inst) (hsince : w.inst.Since inst) :
    CoordLife.Inv ⟨inst, w.pids, w.grantedAt⟩ where
  registry := hinv
  used proc hproc := fun hroot => by
    rw [hkept.usedList] at hproc
    exact h.used proc hproc (hkept.root proc hroot)
  own := (hkept.connected 1).mpr h.own
  apart := by
    show 1 ∉ inst.freeList ++ inst.usedList
    rw [hkept.freeList, hkept.usedList]
    exact h.apart
  granted proc hproc := by
    show proc ∈ inst.usedList ∨ proc = 1
    rw [hkept.usedList]
    exact h.granted proc (hproc.imp_left (hkept.connected proc).mp)
  next proc := Nat.le_trans (h.next proc) hsince.next
  since mbox hmbox proc howner := by
    rcases hsince.entry mbox hmbox with hnew | ⟨hold, heq⟩
    · exact Nat.le_trans (h.next proc) hnew
    · exact h.since mbox hold proc (heq ▸ howner)

/-- One slot leaves `used_list`, not connected any more. -/
theorem Inv.leave (h : w.Inv) {inst : ItccoordInst} {proc : Nat} (hproc : proc ∈ w.inst.usedList)
    (hinv : inst.Inv) (hsince : w.inst.Since inst)
    (hused : inst.usedList = w.inst.usedList.erase proc)
    (hfree : ∀ i ∈ inst.freeList, i ∈ w.inst.freeList ∨ i = proc)
    (hself : ¬ inst.Connected proc)
    (hkeep : ∀ i, i ≠ proc → inst.processes i = w.inst.processes i) :
    CoordLife.Inv ⟨inst, Function.update w.pids proc (-1), w.grantedAt⟩ := by
  have hne : proc ≠ 1 := fun heq => h.apart (heq ▸ List.mem_append_right _ hproc)
  have hnd : w.inst.usedList.Nodup := (List.nodup_append.mp h.registry.queued).2.1
  have hmem : ∀ {i}, i ∈ inst.usedList ↔ i ≠ proc ∧ i ∈ w.inst.usedList := by
    intro i
    rw [hused]
    exact hnd.mem_erase_iff
  refine ⟨hinv, fun i hi => ?_, ?_, fun hone => ?_, fun i hi => ?_, fun i => ?_, ?_⟩
  · obtain ⟨hip, hi⟩ := hmem.mp hi
    rw [hkeep i hip]
    exact h.used i hi
  · rw [ItccoordInst.Connected, hkeep 1 hne.symm]
    exact h.own
  · rcases List.mem_append.mp hone with hone | hone
    · rcases hfree 1 hone with hone | hone
      · exact h.apart (List.mem_append_left _ hone)
      · exact hne hone.symm
    · exact h.apart (List.mem_append_right _ (hmem.mp hone).2)
  · have hip : i ≠ proc := by
      rintro rfl
      rcases hi with hconn | hpid
      · exact hself hconn
      · exact hpid (Function.update_self ..)
    have hold : w.inst.Connected i ∨ w.pids i ≠ -1 := by
      refine hi.imp (fun hconn => ?_) fun hpid => ?_
      · rwa [ItccoordInst.Connected, hkeep i hip] at hconn
      · exact fun heq => hpid ((Function.update_of_ne hip ..).trans heq)
    exact (h.granted i hold).imp_left fun hi => hmem.mpr ⟨hip, hi⟩
  · exact Nat.le_trans (h.next i) hsince.next
  · intro mbox hmbox i howner
    rcases hsince.entry mbox hmbox with hnew | ⟨hold, heq⟩
    · exact Nat.le_trans (h.next i) hnew
    · exact h.since mbox hold i (heq ▸ howner)

/-- Of a slot that is disconnected, with room for it in `free_list` or without. -/
theorem Inv.disconnect (h : w.Inv) {impl : TreeImpl Nat} {inst : ItccoordInst} {proc : Nat}
    (hproc : proc ∈ w.inst.usedList) (hcall : disconnectFromProcess impl w.inst proc = .ok inst)
    {freeList : List Nat} (hfree : freeList.Sublist inst.freeList) :
    CoordLife.Inv ⟨{ inst with freeList }, Function.update w.pids proc (-1), w.grantedAt⟩ := by
  obtain ⟨inst', hcall', hinv, hsince⟩ := h.registry.disconnect impl (h.used proc hproc)
  rw [hcall] at hcall'
  cases hcall'
  have hinv := hinv hproc
  obtain ⟨list, heap, mboxTree, -, -, rfl⟩ := ItccoordInst.disconnectFromProcess_release hcall
  have hnot : ¬ (w.inst.release proc list heap mboxTree).Connected proc := by
    rw [ItccoordInst.Connected, ItccoordInst.release, ItccoordInst.setProc_self]
    exact ProcessState.noConfusion
  refine h.leave hproc (hinv.queues ?_ (fun i hi => ?_) fun i hi => ?_)
    ⟨hsince.next, hsince.entry⟩ rfl (fun i hi => ?_) hnot fun i hi => ?_
  · exact hinv.queued.sublist (hfree.append_right _)
  · rw [List.mem_append] at hi ⊢
    exact hi.imp_left fun hi => hfree.subset hi
  · exact hinv.idle i (hfree.subset hi)
  · have hi : i ∈ w.inst.freeList ++ [proc] := hfree.subset hi
    rw [List.mem_append, List.mem_singleton] at hi
    exact hi
  · exact ItccoordInst.setProc_ne _ _ hi

theorem Inv.abandon (h : w.Inv) {proc : Nat} (hproc : proc ∈ w.inst.usedList)
    (hstate : (w.inst.processes proc).state = .listening) :
    CoordLife.Inv ⟨{ w.inst with usedList := w.inst.usedList.erase proc }.setState proc .unused,
      Function.update w.pids proc (-1), w.grantedAt⟩ := by
  have hnot : ¬ w.inst.Connected proc := by
    rw [ItccoordInst.Connected, hstate]
    exact ProcessState.noConfusion
  have hset : (w.inst.setState proc .unused).Inv :=
    h.registry.setState hnot hproc ProcessState.noConfusion
  have hself : ¬ (w.inst.setState proc .unused).Connected proc := by
    rw [ItccoordInst.Connected, ItccoordInst.setState, ItccoordInst.setProc_self]
    exact ProcessState.noConfusion
  have hinv : ({ w.inst.setState proc .unused with
      freeList := w.inst.freeList, usedList := w.inst.usedList.erase proc } : ItccoordInst).Inv := by
    apply hset.queues
    · exact h.registry.queued.sublist (List.erase_sublist.append_left _)
    · intro i hi
      rw [List.mem_append] at hi
      exact List.mem_append.mpr (hi.imp_right List.mem_of_mem_erase)
    · exact fun i hi => hset.idle i hi
  exact h.leave hproc hinv ⟨Nat.le_refl _, fun _ hmbox => .inr ⟨hmbox, rfl⟩⟩ rfl
    (fun i hi => .inl hi) hself
    fun i hi => ItccoordInst.setProc_ne _ _ hi

theorem Inv.connect (h : w.Inv) {proc : Nat} (hproc : proc ∈ w.inst.usedList)
    (hinv : (w.inst.setState proc .connected).Inv) :
    CoordLife.Inv ⟨w.inst.setState proc .connected, w.pids, w.grantedAt⟩ := by
  have hne : (1 : Nat) ≠ proc := fun heq => h.apart (heq ▸ List.mem_append_right _ hproc)
  refine ⟨hinv, fun i hi => ?_, ?_, h.apart, fun i hi => ?_, h.next, h.since⟩
  · rw [setState_list]
    exact h.used i hi
  · rw [ItccoordInst.Connected, ItccoordInst.setState, ItccoordInst.setProc_ne _ _ hne]
    exact h.own
  · by_cases hip : i = proc
    · exact .inl (hip ▸ hproc)
    · apply h.granted i
      refine hi.imp_left fun hconn => ?_
      rwa [ItccoordInst.Connected, ItccoordInst.setState, ItccoordInst.setProc_ne _ _ hip] at hconn

theorem Inv.locate (h : w.Inv) {impl : TreeImpl Nat} {inst : ItccoordInst} {proc : Nat}
    {rest : List Nat} (hfree : w.inst.freeList = proc :: rest)
    (hstep : CoordStep impl w.inst .locateCoord inst)
    (hroot : (w.inst.processes proc).listMboxesTree ≠ .dangling) (myPid : Int) :
    CoordLife.Inv ⟨inst, Function.update w.pids proc myPid,
      Function.update w.grantedAt proc w.inst.heap.next⟩ := by
  have hguard : CoordGuard w.inst .locateCoord := trivial
  have hinv := h.registry.step hguard hstep
  cases hstep with
  | @locateCoord proc' rest' hfree' =>
    rw [hfree] at hfree'
    cases hfree'
    have hmem : proc ∈ w.inst.freeList := by
      rw [hfree]
      exact List.mem_cons_self
    have hne : (1 : Nat) ≠ proc := fun heq => h.apart (heq ▸ List.mem_append_left _ hmem)
    refine ⟨hinv, fun i hi => ?_, ?_, fun hone => ?_, fun i hi => ?_, fun i => ?_, ?_⟩
    · rw [setState_list]
      rcases List.mem_append.mp hi with hi | hi
      · exact h.used i hi
      · rw [List.mem_singleton.mp hi]
        exact hroot
    · rw [ItccoordInst.Connected, ItccoordInst.setState, ItccoordInst.setProc_ne _ _ hne]
      exact h.own
    · apply h.apart
      rw [hfree]
      have hone : 1 ∈ rest ++ (w.inst.usedList ++ [proc]) := hone
      rw [List.mem_append, List.mem_append, List.mem_singleton] at hone
      rw [List.cons_append, List.mem_cons, List.mem_append]
      tauto
    · show i ∈ w.inst.usedList ++ [proc] ∨ i = 1
      by_cases hip : i = proc
      · exact .inl (List.mem_append_right _ (List.mem_singleton.mpr hip))
      · have hold : w.inst.Connected i ∨ w.pids i ≠ -1 := by
          refine hi.imp (fun hconn => ?_) fun hpid => ?_
          · rwa [ItccoordInst.Connected, ItccoordInst.setState, ItccoordInst.setProc_ne _ _ hip]
              at hconn
          · exact fun heq => hpid ((Function.update_of_ne hip ..).trans heq)
        exact (h.granted i hold).imp_left (List.mem_append_left _)
    · show Function.update w.grantedAt proc w.inst.heap.next i ≤ w.inst.heap.next
      by_cases hip : i = proc
      · rw [hip, Function.update_self]
      · rw [Function.update_of_ne hip]
        exact h.next i
    · intro mbox hmbox i howner
      show Function.update w.grantedAt proc w.inst.heap.next i ≤ mbox
      by_cases hip : i = proc
      · -- the slot was free, so nothing is registered under its ids
        subst hip
        obtain ⟨j, howner', hconn⟩ := h.registry.owned mbox hmbox
        cases howner.symm.trans howner'
        exact absurd hconn (h.registry.idle i hmem)
      · rw [Function.update_of_ne hip]
        exact h.since mbox hmbox i howner

theorem Inv.step (h : w.Inv) {impl : TreeImpl Nat} {act : LifeAction} (hguard : LifeGuard w act)
    (hstep : LifeStep impl w act w') : w'.Inv := by
  cases hstep with
  | locate myPid hfree hcoord =>
    exact h.locate hfree hcoord (hguard _ (by rw [hfree]; rfl)) myPid
  | lose hused hcall =>
    refine h.disconnect hused hcall ?_
    obtain ⟨list, heap, mboxTree, -, -, rfl⟩ := ItccoordInst.disconnectFromProcess_release hcall
    exact List.sublist_append_left ..
  | abandon hused hstate => exact h.abandon hused hstate
  | @serve inst act hact hcoord =>
    cases hcoord with
    | locateCoord => exact absurd rfl hact
    | @addMbox _ mboxId name hcall =>
      obtain ⟨inst', hcall', hinv, hsince⟩ := h.registry.addMbox impl name
        (ItccoordInst.handleAddMbox_index hcall)
      rw [hcall] at hcall'
      cases hcall'
      exact h.message hinv (ItccoordInst.handleAddMbox_kept hcall) hsince
    | @rmvMbox _ mboxId name hcall =>
      obtain ⟨inst', hcall', hinv, hsince, -⟩ := h.registry.rmvMbox_proc impl
        (ItccoordInst.handleRemoveMbox_index hcall) hguard
      rw [hcall] at hcall'
      cases hcall'
      exact h.message hinv (ItccoordInst.handleRemoveMbox_kept hcall) hsince
    | @connect proc hused hstate =>
      have hroot := h.used proc hused
      have hinv : (w.inst.setState proc .connected).Inv := h.registry.setState
        (by rw [ItccoordInst.Connected, hstate]; exact ProcessState.noConfusion) hused
        fun _ => hroot
      exact h.connect hused hinv
    | disconnect hused hcall => exact h.disconnect hused hcall (List.Sublist.refl _)

/-! ### The guard is exact -/

/-- Removing a mailbox of another process leaves its node, freed, in the list of that process. -/
theorem Inv.rmv_foreign (h : w.Inv) {impl : TreeImpl Nat} {mboxId mboxId' : MboxId}
    {name : CString} {inst : ItccoordInst} {mbox : Nat}
    (hcall : handleRemoveMbox impl w.inst mboxId name = .ok inst)
    (hconn : w.inst.Connected (procOf mboxId)) (hmbox : mbox ∈ w.inst.mboxTree.toList)
    (hnames : w.inst.Names mbox mboxId' name) (hother : procOf mboxId' ≠ procOf mboxId)
    (hclean : CoordLife.Clean ⟨inst, w.pids, w.grantedAt⟩ (procOf mboxId')) : False := by
  have hfind := (find_byKey h.registry.ordered).mpr ⟨hmbox, mboxName_of_live hnames⟩
  have hslot := h.registry.slots _ (.inr (.inr hconn))
  -- the other process has the node in its list
  have howner : ownerOf w.inst.heap mbox = some (procOf mboxId') := by
    rw [ownerOf, hnames]
    rfl
  obtain ⟨proc, howner', hconn'⟩ := h.registry.owned mbox hmbox
  obtain rfl := Option.some.inj (howner.symm.trans howner')
  obtain ⟨t, ht, hlist⟩ := h.registry.connected _ hconn'
  have hmem : mbox ∈ t.toList := (hlist.mem mbox).mpr ⟨hmbox, howner⟩
  rcases ItccoordInst.handleRemoveMbox_cases hcall with ⟨-, hnone⟩ | ⟨proc, mbox', heap, list,
    hproc, hfind', hfree, rfl⟩
  · have hnotfound := hnone _ (ItccoordInst.findProcess_some hslot) hconn
    rw [mboxNameCmpfunc_eq, hfind] at hnotfound
    cases hnotfound
  · rw [mboxNameCmpfunc_eq, hfind] at hfind'
    obtain rfl := Option.some.inj hfind'
    rw [ItccoordInst.findProcess_some hslot] at hproc
    obtain rfl := Option.some.inj (Except.ok.inj hproc)
    obtain ⟨t', ht', -, hlive⟩ := hclean
    obtain rfl : t' = t := by
      rw [ItccoordInst.setList, ItccoordInst.setProc_ne _ _ hother, ht] at ht'
      exact (TreeRoot.root.inj ht').symm
    obtain ⟨-, id, name', hlive, -⟩ := hlive mbox hmem
    obtain ⟨heap', hfree', hdead, -⟩ := Heap.free_of_live hnames
    rw [hfree] at hfree'
    cases hfree'
    have hcell : heap.cells mbox = some ⟨id, name'⟩ := hlive
    rw [hdead] at hcell
    cases hcell

theorem Inv.guard_of_recycles (h : w.Inv) {impl : TreeImpl Nat} {act : LifeAction}
    (hstep : LifeStep impl w act w') (hrec : Recycles impl w') : LifeGuard w act := by
  cases hstep with
  | lose => trivial
  | abandon => trivial
  | @locate inst proc rest myPid hfree hcoord =>
    intro proc' hproc'
    rw [hfree, List.head?_cons, Option.mem_some_iff] at hproc'
    subst hproc'
    cases hcoord with
    | @locateCoord proc' rest' hfree' =>
      rw [hfree] at hfree'
      cases hfree'
      obtain ⟨t, ht, -⟩ := hrec.clean proc
        (.inr (.inl (List.mem_append_right _ (List.mem_singleton_self proc))))
      rw [setState_list] at ht
      have hroot : (w.inst.processes proc).listMboxesTree = .root t := ht
      rw [hroot]
      exact TreeRoot.noConfusion
  | @serve inst act hact hcoord =>
    cases hcoord with
    | locateCoord => trivial
    | addMbox => trivial
    | connect => trivial
    | disconnect => trivial
    | @rmvMbox _ mboxId name hcall =>
      intro hconn mbox hmbox mboxId' hnames
      by_contra hother
      obtain ⟨info, hinfo, hconn'⟩ := h.registry.live hmbox
      obtain rfl : info = ⟨mboxId', name⟩ := Option.some.inj (hinfo.symm.trans hnames)
      have hkept := ItccoordInst.handleRemoveMbox_kept hcall
      exact h.rmv_foreign hcall hconn hmbox hnames hother
        (hrec.clean _ (.inl ((hkept.connected _).mpr hconn')))

end CoordLife

/-- **Slots that are granted again start clean in just the runs that meet the condition**: every
state of a run finds each list that may be read next valid, and only with mailboxes of the slot's
current owner, exactly when no slot is granted after its list was destroyed and no process
removes the mailbox of another one. -/
theorem recycled_iff (impl : TreeImpl Nat) (pid : Int) (as : List LifeAction) (w : CoordLife) :
    Recycles impl (.init pid) ∧ (Run (Into (LifeStep impl) (Recycles impl)) (.init pid) as w ↔
      Run (Guarded (LifeStep impl) LifeGuard) (.init pid) as w) :=
  ⟨(CoordLife.Inv.init pid).recycles impl,
    Run.into_iff_guarded (I := CoordLife.Inv) (fun _ _ _ hi hg hs => hi.step hg hs)
      (fun _ hi => hi.recycles impl) (fun _ _ _ hi hs hrec => hi.guard_of_recycles hs hrec)
      (.init pid)⟩

/-- Processes take the slots in the order of `free_list`. -/
theorem locates_run (impl : TreeImpl Nat) (pid : Int) {l rest : List Nat} {w : CoordLife}
    (hfree : w.inst.freeList = l ++ rest) :
    ∃ w', Run (LifeStep impl) w (List.replicate l.length (.locate pid)) w' ∧
      w'.inst.freeList = rest ∧ w'.inst.mboxTree = w.inst.mboxTree ∧
      ∀ i, i ∉ l → w'.inst.processes i = w.inst.processes i := by
  induction l generalizing w with
  | nil => exact ⟨w, .nil w, hfree, rfl, fun _ _ => rfl⟩
  | cons proc l ih =>
    obtain ⟨w₁, hstep, hw₁⟩ : ∃ w₁, LifeStep impl w (.locate pid) w₁ ∧
        w₁.inst = { w.inst with
          freeList := l ++ rest, usedList := w.inst.usedList ++ [proc] }.setState proc .listening :=
      ⟨_, .locate pid hfree (.locateCoord hfree), rfl⟩
    obtain ⟨w', hrun, hfree', htree, hkeep⟩ := ih (w := w₁) (by rw [hw₁]; rfl)
    refine ⟨w', .cons hstep hrun, hfree', by rw [htree, hw₁]; rfl, fun i hi => ?_⟩
    rw [List.mem_cons, not_or] at hi
    rw [hkeep i hi.2, hw₁]
    exact ItccoordInst.setProc_ne _ _ hi.1

/-- **The second owner of a slot meets the freed nodes of the first**: process 2 registers `"a"`
and goes, its slot comes round after 252 others, and the registration of `"b"` walks through a
list that was destroyed. -/
theorem recycled_slot_dangles :
    ∃ w, Run (LifeStep (TreeImpl.plain Nat)) (.init 100)
        ([.locate 200, .serve (.connect 2), .serve (.addMbox 0x00200001 ⟨[97], by decide⟩),
          .serve (.disconnect 2)] ++ List.replicate 252 (.locate 201) ++
          [.locate 202, .serve (.connect 2)]) w ∧
      handleAddMbox (TreeImpl.plain Nat) w.inst 0x00200001 ⟨[98], by decide⟩ =
        .error .useAfterFree ∧
      ¬ Recycles (TreeImpl.plain Nat) w := by
  let connected : ItccoordInst := ({ ItccoordInst.init with
    freeList := List.range' 3 252, usedList := [2] }.setState 2 .listening).setState 2 .connected
  -- the first owner of the slot
  obtain ⟨s₁, s₂, hadd, hdis, hused, hfree, htree, hroot⟩ : ∃ s₁ s₂,
      handleAddMbox (TreeImpl.plain Nat) connected 0x00200001 ⟨[97], by decide⟩ = .ok s₁ ∧
      disconnectFromProcess (TreeImpl.plain Nat) s₁ 2 = .ok s₂ ∧ s₁.usedList = [2] ∧
      s₂.freeList = List.range' 3 252 ++ [2] ∧ s₂.mboxTree = .leaf ∧
      (s₂.processes 2).listMboxesTree = .dangling := ⟨_, _, rfl, rfl, rfl, rfl, rfl, rfl⟩
  have hmem : 2 ∈ s₁.usedList := by rw [hused]; exact List.mem_singleton_self 2
  obtain ⟨w₂, hrun₂, hw₂⟩ : ∃ w₂, Run (LifeStep (TreeImpl.plain Nat)) (.init 100)
      [.locate 200, .serve (.connect 2), .serve (.addMbox 0x00200001 ⟨[97], by decide⟩),
        .serve (.disconnect 2)] w₂ ∧ w₂.inst = s₂ :=
    ⟨_, .cons (.locate 200 (show _ = 2 :: List.range' 3 252 from rfl) (.locateCoord rfl)) <|
      .cons (.serve nofun (.connect (List.mem_singleton_self 2) rfl)) <|
      .cons (.serve nofun (.addMbox hadd)) <|
      .cons (.serve nofun (.disconnect hmem hdis)) (.nil _), rfl⟩
  -- the slot comes round
  obtain ⟨w₃, hrun₃, hfree₃, htree₃, hkeep₃⟩ := locates_run (TreeImpl.plain Nat) 201
    (l := List.range' 3 252) (by rw [hw₂]; exact hfree)
  rw [List.length_range'] at hrun₃
  obtain ⟨w₄, hstep₄, hw₄⟩ : ∃ w₄, LifeStep (TreeImpl.plain Nat) w₃ (.locate 202) w₄ ∧
      w₄.inst = { w₃.inst with
        freeList := [], usedList := w₃.inst.usedList ++ [2] }.setState 2 .listening :=
    ⟨_, .locate 202 hfree₃ (.locateCoord hfree₃), rfl⟩
  have hroot₄ : (w₄.inst.processes 2).listMboxesTree = .dangling := by
    rw [hw₄, CoordLife.setState_list]
    show (w₃.inst.processes 2).listMboxesTree = .dangling
    rw [hkeep₃ 2 (by decide), hw₂, hroot]
  have hused₄ : 2 ∈ w₄.inst.usedList := by
    rw [hw₄]
    exact List.mem_append_right _ (List.mem_singleton_self 2)
  have hstate₄ : (w₄.inst.processes 2).state = .listening := by rw [hw₄]; rfl
  refine ⟨⟨w₄.inst.setState 2 .connected, w₄.pids, w₄.grantedAt⟩, ?_, ?_, fun hrec => ?_⟩
  · exact (hrun₂.append hrun₃).append
      (.cons hstep₄ (.cons (.serve nofun (.connect hused₄ hstate₄)) (.nil _)))
  · have htree₄ : w₄.inst.mboxTree = .leaf := by
      rw [hw₄]
      show w₃.inst.mboxTree = .leaf
      rw [htree₃, hw₂, htree]
    have hproc : findProcess 0x00200001 = .ok (some 2) := by decide
    have hconn : ((w₄.inst.setState 2 .connected).processes 2).state = .connected := by
      rw [ItccoordInst.setState, ItccoordInst.setProc_self]
    have hdang : ((w₄.inst.setState 2 .connected).processes 2).listMboxesTree = .dangling := by
      rw [CoordLife.setState_list, hroot₄]
    have htree' : (w₄.inst.setState 2 .connected).mboxTree = .leaf := htree₄
    simp only [handleAddMbox, hproc, bind, Except.bind, hconn, ne_eq, not_true_eq_false, if_false,
      Heap.alloc, htree', SearchTree.Tree.find, hdang, TreeRoot.get]
    rfl
  · obtain ⟨t, ht, -⟩ := hrec.clean 2 (.inr (.inl hused₄))
    rw [CoordLife.setState_list, hroot₄] at ht
    cases ht

end ItcFramework
