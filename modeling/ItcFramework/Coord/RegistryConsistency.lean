import ItcFramework.Coord.Registry
import ItcFramework.Lib.Transition

/-!
# Consistency of the coordinator's registry

* `ItccoordInst.Inv` — both trees are ordered by name, and each mailbox of `mbox_tree` is in the
  list of the process that its id belongs to, and in no other list.
* `registry_consistent` — the registry over the runs in which every removal names the
  registered id, no id has process index 255 and no process slot comes back into use after its
  list was destroyed.
* `rmv_mbox_of_non_owner` — a removal under an id that did not register the name takes the
  mailbox of another process out of `mbox_tree`, and frees it.
-/

set_option autoImplicit false

namespace ItcFramework

open ByteImage HeapModel SearchTree Transition

/-! ## What is claimed -/

namespace ItccoordInst

/-- The mailbox at the address `mbox`, as `(id, name)`. -/
def Names (s : ItccoordInst) (mbox : Nat) (mboxId : MboxId) (name : CString) : Prop :=
  s.heap.cells mbox = some ⟨mboxId, name⟩

/-- The list of a process holds `mbox`. -/
def InList (s : ItccoordInst) (proc mbox : Nat) : Prop :=
  ∃ t, (s.processes proc).listMboxesTree = .root t ∧ mbox ∈ t.toList

/-- The registry is consistent: `mbox_tree` is the union of the lists of the connected
processes, an entry sits in the list of the process that owns its id, and every node of a tree
points to a live mailbox. -/
structure RegistryOk (s : ItccoordInst) : Prop where
  union : ∀ mbox, mbox ∈ s.mboxTree.toList ↔ ∃ proc, s.Connected proc ∧ s.InList proc mbox
  owner : ∀ proc mbox mboxId name, s.Connected proc → s.InList proc mbox →
    s.Names mbox mboxId name → procOf mboxId = proc
  live : ∀ mbox ∈ s.mboxTree.toList, ∃ mboxId name, s.Names mbox mboxId name
  lists : ∀ proc, s.Connected proc → ∃ t, (s.processes proc).listMboxesTree = .root t ∧
    ∀ mbox ∈ t.toList, ∃ mboxId name, s.Names mbox mboxId name

/-- What the next message or disconnection does: none of them faults, a message from an index
outside `processes[]` changes nothing, and a removal takes out the entry that its id registered
under its name, if there is one, and leaves all others as they are. -/
structure MessagesOk (impl : TreeImpl Nat) (s : ItccoordInst) : Prop where
  foreign : ∀ mboxId name, procOf mboxId > MAX_SUPPORTED_PROCESSES →
    handleAddMbox impl s mboxId name = .ok s ∧ handleRemoveMbox impl s mboxId name = .ok s
  add : ∀ mboxId name, procOf mboxId ≠ MAX_SUPPORTED_PROCESSES →
    ∃ s', handleAddMbox impl s mboxId name = .ok s'
  rmv : ∀ mboxId name, procOf mboxId ≠ MAX_SUPPORTED_PROCESSES →
    (s.Connected (procOf mboxId) → ∀ mbox ∈ s.mboxTree.toList, ∀ mboxId',
      s.Names mbox mboxId' name → mboxId' = mboxId) →
    ∃ s', handleRemoveMbox impl s mboxId name = .ok s' ∧
      ∀ mbox mboxId' name', (mbox ∈ s'.mboxTree.toList ∧ s'.Names mbox mboxId' name' ↔
        (mbox ∈ s.mboxTree.toList ∧ s.Names mbox mboxId' name') ∧
          ¬ (mboxId' = mboxId ∧ name' = name))
  disconnect : ∀ proc, (s.processes proc).listMboxesTree ≠ .dangling →
    ∃ s', disconnectFromProcess impl s proc = .ok s'

end ItccoordInst

/-- The condition on a step: a mailbox id does not have the process index 255; a removal from a
connected process names a mailbox that is registered under its id, or none; and a slot whose
list was destroyed is not connected or disconnected again. -/
def CoordGuard (s : ItccoordInst) : CoordAction → Prop
  | .addMbox mboxId _ => procOf mboxId ≠ MAX_SUPPORTED_PROCESSES
  | .rmvMbox mboxId name => procOf mboxId ≠ MAX_SUPPORTED_PROCESSES ∧
      (s.Connected (procOf mboxId) → ∀ mbox ∈ s.mboxTree.toList, ∀ mboxId',
        s.Names mbox mboxId' name → mboxId' = mboxId)
  | .locateCoord => True
  | .connect proc => (s.processes proc).listMboxesTree ≠ .dangling
  | .disconnect proc => (s.processes proc).listMboxesTree ≠ .dangling

/-! ## The invariant -/

/-- The process whose id the mailbox has. -/
def ownerOf (heap : Heap ItcMboxInfo) (mbox : Nat) : Option Nat :=
  (heap.cells mbox).map fun info => procOf info.mboxId

/-- A mailbox list: ordered by name, and exactly the registered mailboxes of the process. -/
structure ListOf (heap : Heap ItcMboxInfo) (mboxTree : SearchTree.Tree Nat) (proc : Nat)
    (t : SearchTree.Tree Nat) : Prop where
  ordered : Ordered CString.strcmp (mboxName heap) t.toList
  mem : ∀ mbox, mbox ∈ t.toList ↔ mbox ∈ mboxTree.toList ∧ ownerOf heap mbox = some proc

structure ItccoordInst.Inv (s : ItccoordInst) : Prop where
  ordered : Ordered CString.strcmp (mboxName s.heap) s.mboxTree.toList
  owned : ∀ mbox ∈ s.mboxTree.toList, ∃ proc, ownerOf s.heap mbox = some proc ∧ s.Connected proc
  connected : ∀ proc, s.Connected proc →
    ∃ t, (s.processes proc).listMboxesTree = .root t ∧ ListOf s.heap s.mboxTree proc t
  others : ∀ proc, ¬ s.Connected proc → (s.processes proc).listMboxesTree = .root .leaf ∨
    (s.processes proc).listMboxesTree = .dangling
  slots : ∀ proc, proc ∈ s.freeList ∨ proc ∈ s.usedList ∨ s.Connected proc →
    proc < MAX_SUPPORTED_PROCESSES
  queued : (s.freeList ++ s.usedList).Nodup
  idle : ∀ proc ∈ s.freeList, ¬ s.Connected proc

section
variable {heap : Heap ItcMboxInfo} {mbox : Nat}

theorem ownerOf_some {proc : Nat} (h : ownerOf heap mbox = some proc) :
    ∃ info, heap.cells mbox = some info ∧ procOf info.mboxId = proc := by
  unfold ownerOf at h
  exact Option.map_eq_some_iff.mp h

theorem mboxName_of_live {info : ItcMboxInfo} (h : heap.cells mbox = some info) :
    mboxName heap mbox = info.mboxName := by
  rw [mboxName, h]
  rfl

/-- Walking through live objects succeeds. -/
theorem walk_ok {β : Type} {c : Nat → Ordering} {t : SearchTree.Tree Nat} {r : β}
    (hlive : ∀ mbox ∈ t.toList, (heap.cells mbox).isSome) : walk heap c t r = .ok r := by
  refine if_pos (List.all_eq_true.mpr fun mbox hmbox => ?_)
  exact hlive mbox (SearchTree.Tree.visited_subset c t mbox hmbox)

theorem mboxNameCmpfunc_eq (heap : Heap ItcMboxInfo) (name : CString) :
    mboxNameCmpfunc heap name = byKey CString.strcmp (mboxName heap) name := rfl

theorem mboxNameCmpfunc2_eq (heap : Heap ItcMboxInfo) (mbox : Nat) :
    mboxNameCmpfunc2 heap mbox = byKey CString.strcmp (mboxName heap) (mboxName heap mbox) := rfl

end

namespace ItccoordInst

variable {s s' : ItccoordInst}

theorem Inv.live (h : s.Inv) {mbox : Nat} (hmbox : mbox ∈ s.mboxTree.toList) :
    ∃ info, s.heap.cells mbox = some info ∧ s.Connected (procOf info.mboxId) := by
  obtain ⟨proc, howner, hconn⟩ := h.owned mbox hmbox
  obtain ⟨info, hinfo, rfl⟩ := ownerOf_some howner
  exact ⟨info, hinfo, hconn⟩

theorem Inv.init : ItccoordInst.init.Inv where
  ordered := List.Pairwise.nil
  owned mbox hmbox := by cases hmbox
  connected proc _ := ⟨.leaf, rfl, List.Pairwise.nil, fun mbox => by
    simp [ItccoordInst.init, SearchTree.Tree.toList]⟩
  others proc _ := .inl rfl
  slots proc hproc := by
    rcases hproc with hfree | hused | hconn
    · simp only [ItccoordInst.init, List.mem_range'_1, MAX_SUPPORTED_PROCESSES] at hfree ⊢
      omega
    · cases hused
    · simp only [Connected, ItccoordInst.init] at hconn
      simp only [MAX_SUPPORTED_PROCESSES]
      split at hconn
      · cases hconn
      · split at hconn
        · omega
        · cases hconn
  queued := by
    simp only [ItccoordInst.init, List.append_nil]
    exact List.nodup_range'
  idle proc hproc := by
    simp only [ItccoordInst.init, List.mem_range'_1] at hproc
    simp only [Connected, ItccoordInst.init]
    rw [if_neg (by omega), if_neg (by omega)]
    exact ProcessState.noConfusion

/-- A slot without a dangling root has the list of its registered mailboxes. -/
theorem Inv.listOf (h : s.Inv) {proc : Nat}
    (hroot : (s.processes proc).listMboxesTree ≠ .dangling) :
    ∃ t, (s.processes proc).listMboxesTree = .root t ∧ ListOf s.heap s.mboxTree proc t := by
  by_cases hconn : s.Connected proc
  · exact h.connected proc hconn
  · refine ⟨.leaf, (h.others proc hconn).resolve_right hroot, List.Pairwise.nil, fun mbox => ?_⟩
    constructor
    · intro hmem
      cases hmem
    · rintro ⟨hmem, howner⟩
      obtain ⟨proc', howner', hproc'⟩ := h.owned mbox hmem
      rw [howner] at howner'
      cases howner'
      exact absurd hproc' hconn

/-- **The invariant says that the registry is consistent.** -/
theorem Inv.registryOk (h : s.Inv) : s.RegistryOk where
  union mbox := by
    constructor
    · intro hmbox
      obtain ⟨proc, howner, hconn⟩ := h.owned mbox hmbox
      obtain ⟨t, ht, hlist⟩ := h.connected proc hconn
      exact ⟨proc, hconn, t, ht, (hlist.mem mbox).mpr ⟨hmbox, howner⟩⟩
    · rintro ⟨proc, hconn, t, ht, hmbox⟩
      obtain ⟨t', ht', hlist⟩ := h.connected proc hconn
      rw [ht] at ht'
      cases ht'
      exact ((hlist.mem mbox).mp hmbox).1
  owner proc mbox mboxId name hconn hin hnames := by
    obtain ⟨t, ht, hmbox⟩ := hin
    obtain ⟨t', ht', hlist⟩ := h.connected proc hconn
    rw [ht] at ht'
    cases ht'
    obtain ⟨info, hinfo, rfl⟩ := ownerOf_some ((hlist.mem mbox).mp hmbox).2
    rw [Names, hinfo] at hnames
    cases hnames
    rfl
  live mbox hmbox := by
    obtain ⟨info, hinfo, -⟩ := h.live hmbox
    exact ⟨_, _, hinfo⟩
  lists proc hconn := by
    obtain ⟨t, ht, hlist⟩ := h.connected proc hconn
    refine ⟨t, ht, fun mbox hmbox => ?_⟩
    obtain ⟨info, hinfo, -⟩ := h.live ((hlist.mem mbox).mp hmbox).1
    exact ⟨_, _, hinfo⟩

/-! ### Slots -/

theorem setProc_self (s : ItccoordInst) (i : Nat) (proc : ItcProcess) :
    (s.setProc i proc).processes i = proc := if_pos rfl

theorem setProc_ne (s : ItccoordInst) {i j : Nat} (proc : ItcProcess) (h : j ≠ i) :
    (s.setProc i proc).processes j = s.processes j := if_neg h

/-- Slots move between the queues, or leave them. -/
theorem Inv.queues (h : s.Inv) {freeList usedList : List Nat}
    (hnd : (freeList ++ usedList).Nodup)
    (hsub : ∀ proc ∈ freeList ++ usedList, proc ∈ s.freeList ++ s.usedList)
    (hidle : ∀ proc ∈ freeList, ¬ s.Connected proc) : { s with freeList, usedList }.Inv where
  ordered := h.ordered
  owned := h.owned
  connected := h.connected
  others := h.others
  slots proc hproc := h.slots proc <| by
    have hmem : proc ∈ freeList ++ usedList → proc ∈ s.freeList ∨ proc ∈ s.usedList := fun hm =>
      List.mem_append.mp (hsub proc hm)
    rcases hproc with hfree | hused | hconn
    · exact (hmem (List.mem_append_left _ hfree)).imp_right .inl
    · exact (hmem (List.mem_append_right _ hused)).imp_right .inl
    · exact .inr (.inr hconn)
  queued := hnd
  idle := hidle

/-- A slot without mailboxes changes its state. -/
theorem Inv.setState (h : s.Inv) {proc : Nat} {state : ProcessState} (hnot : ¬ s.Connected proc)
    (hslot : proc ∈ s.usedList)
    (hroot : state = .connected → (s.processes proc).listMboxesTree ≠ .dangling) :
    (s.setState proc state).Inv := by
  have hne : ∀ {j}, s.Connected j → j ≠ proc := fun hj heq => hnot (heq ▸ hj)
  have hiff : ∀ {j}, j ≠ proc → ((s.setState proc state).Connected j ↔ s.Connected j) := by
    intro j hj
    rw [Connected, ItccoordInst.setState, setProc_ne _ _ hj, Connected]
  have hlist : ∀ j, ((s.setState proc state).processes j).listMboxesTree =
      (s.processes j).listMboxesTree := by
    intro j
    by_cases hj : j = proc
    · rw [hj, ItccoordInst.setState, setProc_self]
    · rw [ItccoordInst.setState, setProc_ne _ _ hj]
  refine ⟨h.ordered, fun mbox hmbox => ?_, fun j hj => ?_, fun j hj => ?_, fun j hj => ?_,
    h.queued, fun j hj => ?_⟩
  · obtain ⟨j, howner, hconn⟩ := h.owned mbox hmbox
    exact ⟨j, howner, (hiff (hne hconn)).mpr hconn⟩
  · rw [hlist]
    refine h.listOf fun hdang => ?_
    by_cases hjp : j = proc
    · subst hjp
      rw [Connected, ItccoordInst.setState, setProc_self] at hj
      exact hroot hj hdang
    · obtain ⟨t, ht, -⟩ := h.connected j ((hiff hjp).mp hj)
      rw [ht] at hdang
      cases hdang
  · rw [hlist]
    by_cases hjp : j = proc
    · exact h.others j (hjp ▸ hnot)
    · exact h.others j fun hconn => hj ((hiff hjp).mpr hconn)
  · by_cases hjp : j = proc
    · exact h.slots j (.inr (.inl (hjp ▸ hslot)))
    · rw [hiff hjp] at hj
      exact h.slots j hj
  · have hjp : j ≠ proc := fun heq =>
      (List.nodup_append.mp h.queued).2.2 j hj proc hslot heq
    rw [hiff hjp]
    exact h.idle j hj

theorem setList_connected (s : ItccoordInst) (i : Nat) (list : SearchTree.Tree Nat) (j : Nat) :
    (s.setList i list).Connected j ↔ s.Connected j := by
  by_cases hj : j = i
  · subst hj
    rw [Connected, setList, setProc_self, Connected]
  · rw [Connected, setList, setProc_ne _ _ hj, Connected]

/-- The trees and the heap change, and with them the list of one process. -/
theorem Inv.setTrees (h : s.Inv) {proc : Nat} {heap : Heap ItcMboxInfo}
    {mboxTree list : SearchTree.Tree Nat}
    (hproc : s.Connected proc) (hord : Ordered CString.strcmp (mboxName heap) mboxTree.toList)
    (howned : ∀ mbox ∈ mboxTree.toList, ∃ proc, ownerOf heap mbox = some proc ∧ s.Connected proc)
    (hlist : ListOf heap mboxTree proc list)
    (hothers : ∀ j t, j ≠ proc → ListOf s.heap s.mboxTree j t → ListOf heap mboxTree j t) :
    ({ s with heap, mboxTree }.setList proc list).Inv where
  ordered := hord
  owned mbox hmbox := by
    obtain ⟨j, howner, hj⟩ := howned mbox hmbox
    exact ⟨j, howner, (setList_connected _ _ _ _).mpr hj⟩
  connected j hj := by
    rw [setList_connected] at hj
    by_cases hjp : j = proc
    · subst hjp
      refine ⟨list, ?_, hlist⟩
      rw [setList, setProc_self]
    · obtain ⟨t, ht, hl⟩ := h.connected j hj
      refine ⟨t, ?_, hothers j t hjp hl⟩
      rw [setList, setProc_ne _ _ hjp]
      exact ht
  others j hj := by
    rw [setList_connected] at hj
    have hjp : j ≠ proc := fun heq => hj (heq ▸ hproc)
    rw [setList, setProc_ne _ _ hjp]
    exact h.others j hj
  slots j hj := by
    rw [setList_connected] at hj
    exact h.slots j hj
  queued := h.queued
  idle j hj := by
    rw [setList_connected]
    exact h.idle j hj

/-- What may be in `mbox_tree` later: mailboxes that were in it before, under the same id, and
new ones. -/
structure Since (s s' : ItccoordInst) : Prop where
  next : s.heap.next ≤ s'.heap.next
  entry : ∀ mbox ∈ s'.mboxTree.toList, s.heap.next ≤ mbox ∨
    mbox ∈ s.mboxTree.toList ∧ ownerOf s'.heap mbox = ownerOf s.heap mbox

theorem Since.refl (s : ItccoordInst) : s.Since s :=
  ⟨Nat.le_refl _, fun _ hmbox => .inr ⟨hmbox, rfl⟩⟩

/-! ### A mailbox is added -/

theorem findProcess_some {mboxId : MboxId} (h : procOf mboxId < MAX_SUPPORTED_PROCESSES) :
    findProcess mboxId = .ok (some (procOf mboxId)) := by
  rw [findProcess, if_neg (by omega), if_pos h]

theorem findProcess_none {mboxId : MboxId} (h : procOf mboxId > MAX_SUPPORTED_PROCESSES) :
    findProcess mboxId = .ok none := if_pos h

/-- **`handle_add_mbox`** keeps the invariant, and never faults. -/
theorem Inv.addMbox (h : s.Inv) (impl : TreeImpl Nat) {mboxId : MboxId} (name : CString)
    (hidx : procOf mboxId ≠ MAX_SUPPORTED_PROCESSES) :
    ∃ s', handleAddMbox impl s mboxId name = .ok s' ∧ s'.Inv ∧ s.Since s' := by
  rcases Nat.lt_or_gt_of_ne hidx with hlt | hgt
  rotate_left
  · exact ⟨s, by rw [handleAddMbox, findProcess_none hgt]; rfl, h, .refl s⟩
  by_cases hconn : s.Connected (procOf mboxId)
  rotate_left
  · have hstate : (s.processes (procOf mboxId)).state ≠ .connected := hconn
    refine ⟨s, ?_, h, .refl s⟩
    rw [handleAddMbox, findProcess_some hlt]
    simp only [bind, Except.bind, if_pos hstate]
    rfl
  obtain ⟨list, hroot, hlist⟩ := h.connected _ hconn
  -- the new object has an address of its own, so no key in the trees changes
  have hlive : ∀ mbox ∈ s.mboxTree.toList, ∃ info, s.heap.cells mbox = some info ∧
      (s.heap.push ⟨mboxId, name⟩).cells mbox = some info := by
    intro mbox hmbox
    obtain ⟨info, hinfo, -⟩ := h.live hmbox
    exact ⟨info, hinfo, Heap.push_of_live hinfo⟩
  have hkey : ∀ mbox ∈ s.mboxTree.toList,
      mboxName (s.heap.push ⟨mboxId, name⟩) mbox = mboxName s.heap mbox := by
    intro mbox hmbox
    obtain ⟨info, hinfo, hinfo'⟩ := hlive mbox hmbox
    rw [mboxName_of_live hinfo, mboxName_of_live hinfo']
  have hown : ∀ mbox ∈ s.mboxTree.toList,
      ownerOf (s.heap.push ⟨mboxId, name⟩) mbox = ownerOf s.heap mbox := by
    intro mbox hmbox
    obtain ⟨info, hinfo, hinfo'⟩ := hlive mbox hmbox
    rw [ownerOf, ownerOf, hinfo, hinfo']
  have hnew : mboxName (s.heap.push ⟨mboxId, name⟩) s.heap.next = name :=
    mboxName_of_live (Heap.push_next _ _)
  have hnext : s.heap.next ∉ s.mboxTree.toList := by
    intro hmem
    obtain ⟨info, hinfo, -⟩ := hlive _ hmem
    exact absurd (Heap.lt_next hinfo) (Nat.lt_irrefl _)
  have hgrow : s.heap.next ≤ (s.heap.push ⟨mboxId, name⟩).next := Nat.le_succ _
  generalize hheap : s.heap.push ⟨mboxId, name⟩ = heap at hlive hkey hown hnew hgrow
  have hord : Ordered CString.strcmp (mboxName heap) s.mboxTree.toList := h.ordered.congr hkey
  have hordl : Ordered CString.strcmp (mboxName heap) list.toList :=
    hlist.ordered.congr fun mbox hmbox => hkey mbox ((hlist.mem mbox).mp hmbox).1
  have hall : ∀ mbox ∈ s.mboxTree.toList, (heap.cells mbox).isSome := by
    intro mbox hmbox
    obtain ⟨info, -, hinfo'⟩ := hlive mbox hmbox
    rw [hinfo']
    rfl
  have halll : ∀ mbox ∈ list.toList, (heap.cells mbox).isSome := fun mbox hmbox =>
    hall mbox ((hlist.mem mbox).mp hmbox).1
  have hrun : handleAddMbox impl s mboxId name =
      (s.mboxTree.find (byKey CString.strcmp (mboxName heap) name)).elim
        (.ok ({ s with
          heap
          mboxTree := impl.tsearch (byKey CString.strcmp (mboxName heap) name) s.heap.next
            s.mboxTree }.setList (procOf mboxId)
          (impl.tsearch (byKey CString.strcmp (mboxName heap) name) s.heap.next list)))
        fun _ => .ok { s with heap } := by
    have hstate : (s.processes (procOf mboxId)).state = .connected := hconn
    rw [handleAddMbox, findProcess_some hlt]
    simp only [bind, Except.bind, hstate, ne_eq, not_true_eq_false, if_false, Heap.alloc, hheap,
      mboxNameCmpfunc2_eq, hnew, walk_ok hall, hroot, TreeRoot.get, walk_ok halll]
    cases s.mboxTree.find (byKey CString.strcmp (mboxName heap) name) with
    | some mbox => rfl
    | none => rfl
  cases hfind : s.mboxTree.find (byKey CString.strcmp (mboxName heap) name) with
  | some mbox =>
    rw [hfind] at hrun
    refine ⟨_, hrun, ⟨hord, fun mbox hmbox => ?_, fun proc hproc => ?_, h.others, h.slots,
      h.queued, h.idle⟩, hgrow, fun mbox hmbox => .inr ⟨hmbox, hown mbox hmbox⟩⟩
    · obtain ⟨proc, howner, hproc⟩ := h.owned mbox hmbox
      exact ⟨proc, (hown mbox hmbox).trans howner, hproc⟩
    · obtain ⟨t, ht, hl⟩ := h.connected proc hproc
      refine ⟨t, ht, hl.ordered.congr fun m hm => hkey m ((hl.mem m).mp hm).1, fun m => ?_⟩
      rw [hl.mem]
      exact and_congr_right fun hm => by rw [hown m hm]
  | none =>
    rw [hfind] at hrun
    have hfresh : ∀ mbox ∈ s.mboxTree.toList, mboxName heap mbox ≠ mboxName heap s.heap.next := by
      intro mbox hmbox heq
      rw [hnew] at heq
      have := (find_byKey hord).mpr ⟨hmbox, heq⟩
      rw [hfind] at this
      cases this
    obtain ⟨hord', hmem⟩ := impl.tsearch_spec hord hfresh
    obtain ⟨hordl', hmeml⟩ := impl.tsearch_spec hordl fun mbox hmbox =>
      hfresh mbox ((hlist.mem mbox).mp hmbox).1
    rw [hnew] at hord' hmem hordl' hmeml
    have hownnew : ownerOf heap s.heap.next = some (procOf mboxId) := by
      rw [← hheap, ownerOf, Heap.push_next]
      rfl
    refine ⟨_, hrun, h.setTrees hconn hord' ?_ ⟨hordl', ?_⟩ ?_, hgrow, fun mbox hmbox => ?_⟩
    rotate_left 3
    · rcases (hmem mbox).mp hmbox with rfl | hold
      · exact .inl (Nat.le_refl _)
      · exact .inr ⟨hold, hown mbox hold⟩
    · intro mbox hmbox
      rcases (hmem mbox).mp hmbox with rfl | hold
      · exact ⟨_, hownnew, hconn⟩
      · obtain ⟨j, howner, hj⟩ := h.owned mbox hold
        exact ⟨j, (hown mbox hold).trans howner, hj⟩
    · intro mbox
      rw [hmeml, hmem, hlist.mem]
      constructor
      · rintro (rfl | ⟨hold, howner⟩)
        · exact ⟨.inl rfl, hownnew⟩
        · exact ⟨.inr hold, (hown mbox hold).trans howner⟩
      · rintro ⟨rfl | hold, howner⟩
        · exact .inl rfl
        · exact .inr ⟨hold, (hown mbox hold) ▸ howner⟩
    · intro j t hj hl
      refine ⟨hl.ordered.congr fun m hm => hkey m ((hl.mem m).mp hm).1, fun mbox => ?_⟩
      rw [hl.mem, hmem]
      constructor
      · rintro ⟨hold, howner⟩
        exact ⟨.inr hold, (hown mbox hold).trans howner⟩
      · rintro ⟨rfl | hold, howner⟩
        · rw [hownnew] at howner
          exact absurd (Option.some.inj howner).symm hj
        · exact ⟨hold, (hown mbox hold) ▸ howner⟩

/-! ### A mailbox is removed -/

/-- Freeing an object that no node of the tree points to changes no key of it. -/
theorem keys_of_frame {heap heap' : Heap ItcMboxInfo} {mbox : Nat}
    (hframe : heap'.cells mbox = heap.cells mbox) :
    mboxName heap' mbox = mboxName heap mbox ∧ ownerOf heap' mbox = ownerOf heap mbox := by
  rw [mboxName, mboxName, ownerOf, ownerOf, hframe]
  exact ⟨rfl, rfl⟩

/-- **`handle_remove_mbox`** under an id of the process that registered the name keeps the
invariant, never faults, and takes out the entry of that name. -/
theorem Inv.rmvMbox_proc (h : s.Inv) (impl : TreeImpl Nat) {mboxId : MboxId} {name : CString}
    (hidx : procOf mboxId ≠ MAX_SUPPORTED_PROCESSES)
    (hreg : s.Connected (procOf mboxId) → ∀ mbox ∈ s.mboxTree.toList, ∀ mboxId',
      s.Names mbox mboxId' name → procOf mboxId' = procOf mboxId) :
    ∃ s', handleRemoveMbox impl s mboxId name = .ok s' ∧ s'.Inv ∧ s.Since s' ∧
      ∀ mbox mboxId' name', (mbox ∈ s'.mboxTree.toList ∧ s'.Names mbox mboxId' name' ↔
        (mbox ∈ s.mboxTree.toList ∧ s.Names mbox mboxId' name') ∧
          ¬ (s.Connected (procOf mboxId) ∧ name' = name)) := by
  -- where nothing is removed, the process is not connected or no entry has this name
  have hsame : (s.Connected (procOf mboxId) → ∀ mbox ∈ s.mboxTree.toList, ∀ mboxId',
        ¬ s.Names mbox mboxId' name) →
      ∀ mbox mboxId' name', (mbox ∈ s.mboxTree.toList ∧ s.Names mbox mboxId' name' ↔
        (mbox ∈ s.mboxTree.toList ∧ s.Names mbox mboxId' name') ∧
          ¬ (s.Connected (procOf mboxId) ∧ name' = name)) := by
    intro hno mbox mboxId' name'
    refine ⟨fun hm => ⟨hm, ?_⟩, And.left⟩
    rintro ⟨hconn, rfl⟩
    exact hno hconn mbox hm.1 mboxId' hm.2
  rcases Nat.lt_or_gt_of_ne hidx with hlt | hgt
  rotate_left
  · refine ⟨s, by rw [handleRemoveMbox, findProcess_none hgt]; rfl, h, .refl s, hsame ?_⟩
    intro hconn
    have hslot := h.slots _ (.inr (.inr hconn))
    omega
  by_cases hconn : s.Connected (procOf mboxId)
  rotate_left
  · have hstate : (s.processes (procOf mboxId)).state ≠ .connected := hconn
    refine ⟨s, ?_, h, .refl s, hsame fun hc => absurd hc hconn⟩
    rw [handleRemoveMbox, findProcess_some hlt]
    simp only [bind, Except.bind, if_pos hstate]
    rfl
  obtain ⟨list, hroot, hlist⟩ := h.connected _ hconn
  have hall : ∀ mbox ∈ s.mboxTree.toList, (s.heap.cells mbox).isSome := by
    intro mbox hmbox
    obtain ⟨info, hinfo, -⟩ := h.live hmbox
    rw [hinfo]
    rfl
  have halll : ∀ mbox ∈ list.toList, (s.heap.cells mbox).isSome := fun mbox hmbox =>
    hall mbox ((hlist.mem mbox).mp hmbox).1
  have hstate : (s.processes (procOf mboxId)).state = .connected := hconn
  cases hfind : s.mboxTree.find (byKey CString.strcmp (mboxName s.heap) name) with
  | none =>
    refine ⟨s, ?_, h, .refl s, hsame ?_⟩
    · rw [handleRemoveMbox, findProcess_some hlt]
      simp only [bind, Except.bind, hstate, ne_eq, not_true_eq_false, if_false,
        mboxNameCmpfunc_eq, walk_ok hall, hfind]
      rfl
    · intro _ mbox hmbox mboxId' hnames
      have := (find_byKey h.ordered).mpr ⟨hmbox, mboxName_of_live hnames⟩
      rw [hfind] at this
      cases this
  | some mbox =>
    obtain ⟨hmbox, hname⟩ := (find_byKey h.ordered).mp hfind
    obtain ⟨⟨mboxId', name'⟩, hinfo, -⟩ := h.live hmbox
    obtain rfl : name' = name := by rw [← hname, mboxName_of_live hinfo]
    have hproc : procOf mboxId' = procOf mboxId := hreg hconn mbox hmbox mboxId' hinfo
    obtain ⟨heap, hfree, hdead, hframe, hnext⟩ := Heap.free_of_live hinfo
    have hmboxl : mbox ∈ list.toList := by
      rw [hlist.mem, ownerOf, hinfo]
      exact ⟨hmbox, congrArg some hproc⟩
    obtain ⟨hord', hmem⟩ := impl.tdelete_spec h.ordered hmbox
    obtain ⟨hordl', hmeml⟩ := impl.tdelete_spec hlist.ordered hmboxl
    rw [hname] at hord' hmem hordl' hmeml
    have hkeep : ∀ {m}, m ≠ mbox → mboxName heap m = mboxName s.heap m ∧
        ownerOf heap m = ownerOf s.heap m := fun hm => keys_of_frame (hframe _ hm)
    refine ⟨_, ?_, h.setTrees hconn (hord'.congr fun m hm => (hkeep ((hmem m).mp hm).1).1) ?_
      ⟨hordl'.congr fun m hm => (hkeep ((hmeml m).mp hm).1).1, ?_⟩ ?_, ⟨Nat.le_of_eq hnext.symm,
      fun m hm => .inr ⟨((hmem m).mp hm).2, (hkeep ((hmem m).mp hm).1).2⟩⟩, ?_⟩
    · rw [handleRemoveMbox, findProcess_some hlt]
      simp only [bind, Except.bind, hstate, ne_eq, not_true_eq_false, if_false,
        mboxNameCmpfunc_eq, walk_ok hall, hfind, hroot, TreeRoot.get, walk_ok halll, hfree]
      rfl
    · intro m hm
      obtain ⟨hne, hold⟩ := (hmem m).mp hm
      obtain ⟨j, howner, hj⟩ := h.owned m hold
      exact ⟨j, (hkeep hne).2.trans howner, hj⟩
    · intro m
      rw [hmeml, hmem, hlist.mem]
      constructor
      · rintro ⟨hne, hold, howner⟩
        exact ⟨⟨hne, hold⟩, (hkeep hne).2.trans howner⟩
      · rintro ⟨⟨hne, hold⟩, howner⟩
        exact ⟨hne, hold, (hkeep hne).2 ▸ howner⟩
    · intro j t hj hl
      have hnot : ∀ m ∈ t.toList, m ≠ mbox := by
        rintro m hm rfl
        have howner := ((hl.mem m).mp hm).2
        rw [ownerOf, hinfo] at howner
        exact hj ((Option.some.inj howner).symm.trans hproc)
      refine ⟨hl.ordered.congr fun m hm => (hkeep (hnot m hm)).1, fun m => ?_⟩
      rw [hmem]
      constructor
      · intro hm
        obtain ⟨hold, howner⟩ := (hl.mem m).mp hm
        exact ⟨⟨hnot m hm, hold⟩, (hkeep (hnot m hm)).2.trans howner⟩
      · rintro ⟨⟨hne, hold⟩, howner⟩
        exact (hl.mem m).mpr ⟨hold, (hkeep hne).2 ▸ howner⟩
    · intro m mboxId'' name''
      constructor
      · rintro ⟨hm, hnames⟩
        obtain ⟨hne, hold⟩ := (hmem m).mp hm
        have hnames' : s.Names m mboxId'' name'' := (hframe m hne).symm.trans hnames
        refine ⟨⟨hold, hnames'⟩, ?_⟩
        rintro ⟨-, rfl⟩
        have hf := (find_byKey h.ordered).mpr ⟨hold, mboxName_of_live hnames'⟩
        rw [hfind] at hf
        exact hne (Option.some.inj hf).symm
      · rintro ⟨⟨hold, hnames⟩, hnot⟩
        have hne : m ≠ mbox := by
          rintro rfl
          rw [Names, hinfo] at hnames
          cases hnames
          exact hnot ⟨hconn, rfl⟩
        exact ⟨(hmem m).mpr ⟨hne, hold⟩, (hframe m hne).trans hnames⟩

/-- Under the registered id it takes out the entry of that id and name. -/
theorem Inv.rmvMbox (h : s.Inv) (impl : TreeImpl Nat) {mboxId : MboxId} {name : CString}
    (hidx : procOf mboxId ≠ MAX_SUPPORTED_PROCESSES)
    (hreg : s.Connected (procOf mboxId) → ∀ mbox ∈ s.mboxTree.toList, ∀ mboxId',
      s.Names mbox mboxId' name → mboxId' = mboxId) :
    ∃ s', handleRemoveMbox impl s mboxId name = .ok s' ∧ s'.Inv ∧
      ∀ mbox mboxId' name', (mbox ∈ s'.mboxTree.toList ∧ s'.Names mbox mboxId' name' ↔
        (mbox ∈ s.mboxTree.toList ∧ s.Names mbox mboxId' name') ∧
          ¬ (mboxId' = mboxId ∧ name' = name)) := by
  obtain ⟨s', hrun, hinv, -, hentries⟩ := h.rmvMbox_proc impl hidx fun hconn mbox hmbox mboxId' hn =>
    congrArg procOf (hreg hconn mbox hmbox mboxId' hn)
  refine ⟨s', hrun, hinv, fun mbox mboxId' name' => (hentries mbox mboxId' name').trans ?_⟩
  refine and_congr_right fun hentry => not_congr (and_congr_left fun hname => ?_)
  subst hname
  constructor
  · exact fun hconn => hreg hconn mbox hentry.1 mboxId' hentry.2
  · rintro rfl
    obtain ⟨info, hinfo, hconn⟩ := h.live hentry.1
    have hnames := hentry.2
    rw [Names, hinfo] at hnames
    cases hnames
    exact hconn

/-! ### A process goes -/

/-- The callback of `twalk`, for the mailboxes of a list: they leave `mbox_tree`. -/
theorem foldlM_deleteCounterpart (impl : TreeImpl Nat) {heap : Heap ItcMboxInfo}
    {mboxTree : SearchTree.Tree Nat} {l : List Nat}
    (hord : Ordered CString.strcmp (mboxName heap) mboxTree.toList)
    (hlive : ∀ mbox ∈ mboxTree.toList, ∃ info, heap.cells mbox = some info)
    (hnd : l.Nodup) (hsub : ∀ mbox ∈ l, mbox ∈ mboxTree.toList) :
    ∃ mboxTree', l.foldlM (deleteCounterpartMailboxesInMailboxtree impl heap) mboxTree =
        .ok mboxTree' ∧ Ordered CString.strcmp (mboxName heap) mboxTree'.toList ∧
      ∀ mbox, mbox ∈ mboxTree'.toList ↔ mbox ∉ l ∧ mbox ∈ mboxTree.toList := by
  induction l generalizing mboxTree with
  | nil => exact ⟨mboxTree, rfl, hord, by simp⟩
  | cons pnode l ih =>
    obtain ⟨hp, hnd⟩ := List.nodup_cons.mp hnd
    have hmbox := hsub pnode List.mem_cons_self
    obtain ⟨info, hinfo⟩ := hlive pnode hmbox
    have hall : ∀ mbox ∈ mboxTree.toList, (heap.cells mbox).isSome := by
      intro mbox hmem
      obtain ⟨i, hi⟩ := hlive mbox hmem
      rw [hi]
      rfl
    obtain ⟨hord₁, hmem₁⟩ := impl.tdelete_spec hord hmbox
    have hfind := (find_byKey hord).mpr ⟨hmbox, rfl⟩
    rw [mboxName_of_live hinfo] at hord₁ hmem₁ hfind
    have hdel : deleteCounterpartMailboxesInMailboxtree impl heap mboxTree pnode =
        .ok (impl.tdelete (byKey CString.strcmp (mboxName heap) info.mboxName) mboxTree) := by
      simp only [deleteCounterpartMailboxesInMailboxtree, Heap.read_of_live hinfo, bind,
        Except.bind, mboxNameCmpfunc_eq, walk_ok hall, hfind]
    obtain ⟨mboxTree', hfold, hord', hmem'⟩ := ih hord₁
      (fun mbox hm => hlive mbox ((hmem₁ mbox).mp hm).2) hnd (fun mbox hm =>
        (hmem₁ mbox).mpr ⟨fun heq => hp (heq ▸ hm), hsub mbox (List.mem_cons_of_mem _ hm)⟩)
    refine ⟨mboxTree', ?_, hord', fun mbox => ?_⟩
    · rw [List.foldlM_cons, hdel]
      exact hfold
    · rw [hmem', hmem₁, List.mem_cons, not_or]
      tauto

/-- **`disconnect_from_process`** keeps the invariant and never faults, unless the slot's list
was destroyed before. -/
theorem Inv.disconnect (h : s.Inv) (impl : TreeImpl Nat) {proc : Nat}
    (hroot : (s.processes proc).listMboxesTree ≠ .dangling) :
    ∃ s', disconnectFromProcess impl s proc = .ok s' ∧ (proc ∈ s.usedList → s'.Inv) ∧
      s.Since s' := by
  obtain ⟨list, ht, hlist⟩ := h.listOf hroot
  have hlive : ∀ mbox ∈ s.mboxTree.toList, ∃ info, s.heap.cells mbox = some info :=
    fun mbox hmbox => (h.live hmbox).imp fun _ hi => hi.1
  have hsub : ∀ mbox ∈ list.toList, mbox ∈ s.mboxTree.toList := fun mbox hm =>
    ((hlist.mem mbox).mp hm).1
  obtain ⟨mboxTree, hfold, hord, hmem⟩ :=
    foldlM_deleteCounterpart impl h.ordered hlive hlist.ordered.nodup hsub
  obtain ⟨heap, hfree, hdead, hframe, hnext⟩ := Heap.foldlM_free hlist.ordered.nodup
    fun mbox hm => hlive mbox (hsub mbox hm)
  have hkeep : ∀ {m}, m ∉ list.toList → mboxName heap m = mboxName s.heap m ∧
      ownerOf heap m = ownerOf s.heap m := fun hm => keys_of_frame (hframe _ hm)
  refine ⟨s.release proc list heap mboxTree, ?_, fun hused => ?_, Nat.le_of_eq hnext.symm,
    fun m hm => .inr ⟨((hmem m).mp hm).2, (hkeep ((hmem m).mp hm).1).2⟩⟩
  · simp only [disconnectFromProcess, ht, TreeRoot.get, bind, Except.bind, hfold, hfree]
    rfl
  have hne : ∀ {j}, j ≠ proc → (s.release proc list heap mboxTree).processes j = s.processes j :=
    fun hj => setProc_ne _ _ hj
  have hself : (s.release proc list heap mboxTree).processes proc =
      ⟨.unused, if list = SearchTree.Tree.leaf then .root .leaf else .dangling⟩ :=
    setProc_self _ _ _
  have hiff : ∀ {j}, j ≠ proc →
      ((s.release proc list heap mboxTree).Connected j ↔ s.Connected j) := by
    intro j hj
    rw [Connected, hne hj, Connected]
  have hnot : ¬ (s.release proc list heap mboxTree).Connected proc := by
    rw [Connected, hself]
    exact ProcessState.noConfusion
  have hperm : (s.freeList ++ [proc] ++ s.usedList.erase proc).Perm (s.freeList ++ s.usedList) := by
    rw [List.append_assoc]
    exact (List.perm_cons_erase hused).symm.append_left _
  constructor
  · exact hord.congr fun m hm => (hkeep ((hmem m).mp hm).1).1
  · intro mbox hmbox
    obtain ⟨hnl, hold⟩ := (hmem mbox).mp hmbox
    obtain ⟨j, howner, hj⟩ := h.owned mbox hold
    refine ⟨j, (hkeep hnl).2.trans howner, (hiff ?_).mpr hj⟩
    rintro rfl
    exact hnl ((hlist.mem mbox).mpr ⟨hold, howner⟩)
  · intro j hj
    have hjp : j ≠ proc := fun heq => hnot (heq ▸ hj)
    obtain ⟨t, ht', hl⟩ := h.connected j ((hiff hjp).mp hj)
    have hout : ∀ m ∈ t.toList, m ∉ list.toList := by
      intro m hm hml
      have h₁ := ((hl.mem m).mp hm).2
      rw [((hlist.mem m).mp hml).2] at h₁
      exact hjp (Option.some.inj h₁).symm
    refine ⟨t, ?_, hl.ordered.congr fun m hm => (hkeep (hout m hm)).1, fun m => ?_⟩
    · rw [hne hjp]
      exact ht'
    · constructor
      · intro hm
        obtain ⟨hold, howner⟩ := (hl.mem m).mp hm
        exact ⟨(hmem m).mpr ⟨hout m hm, hold⟩, (hkeep (hout m hm)).2.trans howner⟩
      · rintro ⟨hm, howner⟩
        obtain ⟨hnl, hold⟩ := (hmem m).mp hm
        exact (hl.mem m).mpr ⟨hold, (hkeep hnl).2 ▸ howner⟩
  · intro j hj
    by_cases hjp : j = proc
    · subst hjp
      rw [hself]
      dsimp only
      split
      · exact .inl rfl
      · exact .inr rfl
    · rw [hne hjp]
      exact h.others j fun hconn => hj ((hiff hjp).mpr hconn)
  · intro j hj
    have hj' : j ∈ s.freeList ++ [proc] ++ s.usedList.erase proc ∨ s.Connected j := by
      rcases hj with hj | hj | hj
      · exact .inl (List.mem_append_left _ hj)
      · exact .inl (List.mem_append_right _ hj)
      · have hjp : j ≠ proc := by
          rintro rfl
          exact hnot hj
        exact .inr ((hiff hjp).mp hj)
    rcases hj' with hj' | hj'
    · rw [hperm.mem_iff, List.mem_append] at hj'
      exact h.slots j (hj'.imp_right .inl)
    · exact h.slots j (.inr (.inr hj'))
  · exact hperm.nodup_iff.mpr h.queued
  · intro j hj
    rcases List.mem_append.mp hj with hj | hj
    · have hjp : j ≠ proc := fun heq =>
        (List.nodup_append.mp h.queued).2.2 j hj proc hused heq
      rw [hiff hjp]
      exact h.idle j hj
    · rw [List.mem_singleton.mp hj]
      exact hnot

/-! ### Steps and runs -/

theorem Inv.messagesOk (h : s.Inv) (impl : TreeImpl Nat) : s.MessagesOk impl where
  foreign mboxId name hgt := by
    rw [handleAddMbox, handleRemoveMbox, findProcess_none hgt]
    exact ⟨rfl, rfl⟩
  add mboxId name hidx := (h.addMbox impl name hidx).imp fun _ hs => hs.1
  rmv mboxId name hidx hreg := (h.rmvMbox impl hidx hreg).imp fun _ hs => ⟨hs.1, hs.2.2⟩
  disconnect proc hroot := (h.disconnect impl hroot).imp fun _ hs => hs.1

theorem Inv.step (h : s.Inv) {impl : TreeImpl Nat} {act : CoordAction} (hguard : CoordGuard s act)
    (hstep : CoordStep impl s act s') : s'.Inv := by
  cases hstep with
  | @addMbox _ mboxId name hrun =>
    obtain ⟨s₁, hrun', hinv, -⟩ := h.addMbox impl name hguard
    rw [hrun] at hrun'
    cases hrun'
    exact hinv
  | @rmvMbox _ mboxId name hrun =>
    obtain ⟨s₁, hrun', hinv, -⟩ := h.rmvMbox impl hguard.1 hguard.2
    rw [hrun] at hrun'
    cases hrun'
    exact hinv
  | @locateCoord proc rest hfree =>
    have hidle : ∀ j ∈ rest, ¬ s.Connected j := fun j hj =>
      h.idle j (by rw [hfree]; exact List.mem_cons_of_mem _ hj)
    have hperm : (rest ++ (s.usedList ++ [proc])).Perm (s.freeList ++ s.usedList) := by
      rw [hfree, ← List.append_assoc]
      exact List.perm_append_singleton _ _
    exact (h.queues (hperm.nodup_iff.mpr h.queued) (fun _ => hperm.mem_iff.mp) hidle).setState
      (h.idle proc (by rw [hfree]; exact List.mem_cons_self))
      (List.mem_append_right _ (List.mem_singleton_self _)) nofun
  | @connect proc hused hstate =>
    refine h.setState ?_ hused fun _ => hguard
    rw [Connected, hstate]
    exact ProcessState.noConfusion
  | @disconnect _ proc hused hrun =>
    obtain ⟨s₁, hrun', hinv, -⟩ := h.disconnect impl hguard
    rw [hrun] at hrun'
    cases hrun'
    exact hinv hused

end ItccoordInst

/-- **The registry stays consistent** in every run whose steps meet `CoordGuard`, and in every
state reached the next message and the next disconnection do what they should. -/
theorem registry_consistent (impl : TreeImpl Nat) (as : List CoordAction) (s : ItccoordInst)
    (hrun : Run (Guarded (CoordStep impl) CoordGuard) .init as s) :
    s.RegistryOk ∧ s.MessagesOk impl := by
  have hinv : s.Inv := hrun.invariant_of_guard
    (fun _ _ _ hi hguard hstep => hi.step hguard hstep) .init
  exact ⟨hinv.registryOk, hinv.messagesOk impl⟩

/-- The state in which processes 2 and 3 are connected. -/
def twoConnected : ItccoordInst :=
  (({ (({ ItccoordInst.init with
      freeList := List.range' 3 252, usedList := [2] }.setState 2 .listening).setState 2
        .connected) with
      freeList := List.range' 4 251, usedList := [2, 3] }.setState 3 .listening).setState 3
        .connected)

theorem twoConnected_run : Run (Guarded (CoordStep (TreeImpl.plain Nat)) CoordGuard) .init
    [.locateCoord, .connect 2, .locateCoord, .connect 3] twoConnected :=
  .cons ⟨trivial, .locateCoord (show _ = 2 :: List.range' 3 252 from rfl)⟩ <|
  .cons ⟨TreeRoot.noConfusion, .connect (List.mem_singleton_self 2) rfl⟩ <|
  .cons ⟨trivial, .locateCoord (show _ = 3 :: List.range' 4 251 from rfl)⟩ <|
  .cons ⟨TreeRoot.noConfusion, .connect (List.mem_append_right [2] (List.mem_singleton_self 3))
    rfl⟩ (.nil _)

/-- Process 2 announces `"a"` and process 3 `"b"`, `"a"` is removed, and process 3 ends. -/
theorem registry_consistent_emptied :
    ∃ s, Run (Guarded (CoordStep (TreeImpl.plain Nat)) CoordGuard) .init
      ([.locateCoord, .connect 2, .locateCoord, .connect 3] ++
        [.addMbox 0x00200001 ⟨[97], by decide⟩, .addMbox 0x00300001 ⟨[98], by decide⟩,
          .rmvMbox 0x00200001 ⟨[97], by decide⟩, .disconnect 3]) s ∧
      s.mboxTree = .leaf ∧ s.RegistryOk ∧ s.MessagesOk (TreeImpl.plain Nat) := by
  obtain ⟨s₁, s₂, s₃, s, hadd₁, hadd₂, hrmv, hend, htree, ha, hb, hused, hlist, hempty⟩ :
      ∃ s₁ s₂ s₃ s,
      handleAddMbox (TreeImpl.plain Nat) twoConnected 0x00200001 ⟨[97], by decide⟩ = .ok s₁ ∧
      handleAddMbox (TreeImpl.plain Nat) s₁ 0x00300001 ⟨[98], by decide⟩ = .ok s₂ ∧
      handleRemoveMbox (TreeImpl.plain Nat) s₂ 0x00200001 ⟨[97], by decide⟩ = .ok s₃ ∧
      disconnectFromProcess (TreeImpl.plain Nat) s₃ 3 = .ok s ∧
      s₂.mboxTree.toList = [0, 1] ∧
      s₂.heap.cells 0 = some ⟨0x00200001, ⟨[97], by decide⟩⟩ ∧
      s₂.heap.cells 1 = some ⟨0x00300001, ⟨[98], by decide⟩⟩ ∧
      s₃.usedList = [2, 3] ∧ (s₃.processes 3).listMboxesTree = .root (.node .leaf 1 .leaf) ∧
      s.mboxTree = .leaf :=
    ⟨_, _, _, _, rfl, rfl, rfl, rfl, rfl, rfl, rfl, rfl, rfl, rfl⟩
  have howner : CoordGuard s₂ (.rmvMbox 0x00200001 ⟨[97], by decide⟩) := by
    refine ⟨by decide, fun _ mbox hmbox mboxId' hnames => ?_⟩
    rw [htree, List.mem_cons, List.mem_singleton] at hmbox
    unfold ItccoordInst.Names at hnames
    obtain rfl | rfl := hmbox
    · rw [ha] at hnames
      cases hnames
      rfl
    · rw [hb] at hnames
      cases hnames
  have hkept : CoordGuard s₃ (.disconnect 3) := by
    rw [CoordGuard, hlist]
    exact TreeRoot.noConfusion
  have hmember : 3 ∈ s₃.usedList := by
    rw [hused]
    decide
  have hindex₁ : CoordGuard twoConnected (.addMbox 0x00200001 ⟨[97], by decide⟩) :=
    show procOf 0x00200001 ≠ 255 by decide
  have hindex₂ : CoordGuard s₁ (.addMbox 0x00300001 ⟨[98], by decide⟩) :=
    show procOf 0x00300001 ≠ 255 by decide
  have hrun := twoConnected_run.append <| .cons ⟨hindex₁, .addMbox hadd₁⟩ <|
    .cons ⟨hindex₂, .addMbox hadd₂⟩ <| .cons ⟨howner, .rmvMbox hrmv⟩ <|
    .cons ⟨hkept, .disconnect hmember hend⟩ (.nil s)
  exact ⟨s, hrun, hempty, registry_consistent _ _ s hrun⟩

/-- Process 2 announces `"a"`, and a removal of `"a"` arrives under an id of process 3: the
mailbox leaves `mbox_tree` and stays in the list of process 2, freed. -/
theorem rmv_mbox_of_non_owner :
    ∃ s, Run (CoordStep (TreeImpl.plain Nat)) .init
      ([.locateCoord, .connect 2, .locateCoord, .connect 3] ++
        [.addMbox 0x00200001 ⟨[97], by decide⟩, .rmvMbox 0x00300001 ⟨[97], by decide⟩]) s ∧
      s.InList 2 0 ∧ s.heap.cells 0 = none ∧ ¬ s.RegistryOk := by
  obtain ⟨s₁, s, hadd, hrmv, htree, hstate, hlist, hcell⟩ : ∃ s₁ s,
      handleAddMbox (TreeImpl.plain Nat) twoConnected 0x00200001 ⟨[97], by decide⟩ = .ok s₁ ∧
      handleRemoveMbox (TreeImpl.plain Nat) s₁ 0x00300001 ⟨[97], by decide⟩ = .ok s ∧
      s.mboxTree = .leaf ∧ (s.processes 2).state = .connected ∧
      (s.processes 2).listMboxesTree = .root (.node .leaf 0 .leaf) ∧ s.heap.cells 0 = none :=
    ⟨_, _, rfl, rfl, rfl, rfl, rfl, rfl⟩
  have hin : s.InList 2 0 := ⟨_, hlist, List.mem_singleton_self 0⟩
  refine ⟨s, twoConnected_run.forget_guard.append (.cons (.addMbox hadd) <|
    .cons (.rmvMbox hrmv) (.nil s)), hin, hcell, fun hok => ?_⟩
  have hmem := (hok.union 0).mpr ⟨2, hstate, hin⟩
  rw [htree] at hmem
  cases hmem

end ItcFramework
