import ItcFramework.Itc.Slots

/-!
# Mailboxes by name within a process

`local_locating_mbox_tree` is keyed by the names that are in the mailboxes. `insert_mbox_to_tree`
leaves a name that is there alone, and `remove_mbox_from_tree` removes whatever mailbox has the
name.

* `LookupExact s` — `locate_local_mbox` returns a mailbox in use with the name, if there is one,
  and the tree leads to mailboxes in use only.
* `Index` — the invariant: the tree is ordered by the names, and every name in use is in it.
* `LookupAnswered` — the calls that keep it: a mailbox that is deleted is the only one in use with
  its name.
* `name_lookup_exact` — along every run of such calls the lookup is exact.
-/

set_option autoImplicit false

namespace ItcFramework

open ByteImage HeapModel SearchTree Transition ItcInstance

variable {σ : Type} {E : ItcEnv σ}

/-! ## The index -/

/-- Mailbox `i` is in use and has the name. -/
def HasName (s : ItcInstance σ) (name : CString) (i : Nat) : Prop :=
  i < s.nrMboxes.toNat ∧ (s.mboxes i).mboxState = .inuse ∧ (s.mboxes i).name = name

/-- **In-process name lookup is exact.** -/
structure LookupExact (s : ItcInstance σ) : Prop where
  found : ∀ name i, locateLocalMbox s name = some i → HasName s name i
  missing : ∀ name, locateLocalMbox s name = none → ∀ i, ¬ HasName s name i
  nodes : ∀ i ∈ s.localLocatingMboxTree.toList, HasName s (s.mboxes i).name i

def nameOf (mboxes : Nat → ItcMailbox) (i : Nat) : CString := (mboxes i).name

/-- The tree holds one mailbox for each name in use. -/
structure Index (nr : Nat) (mboxes : Nat → ItcMailbox) (tree : SearchTree.Tree Nat) : Prop where
  ordered : Ordered CString.strcmp (nameOf mboxes) tree.toList
  nodes : ∀ i ∈ tree.toList, i < nr ∧ (mboxes i).mboxState = .inuse
  indexed : ∀ i, i < nr → (mboxes i).mboxState = .inuse →
    ∃ j ∈ tree.toList, (mboxes j).name = (mboxes i).name

namespace Index

variable {nr i : Nat} {mboxes mboxes' : Nat → ItcMailbox} {tree tree' : SearchTree.Tree Nat}

theorem find_iff (h : Index nr mboxes tree) (name : CString) (i : Nat) :
    tree.find (mboxNameCmp mboxes name) = some i ↔
      i ∈ tree.toList ∧ (mboxes i).name = name :=
  find_byKey h.ordered

/-- Only the mailboxes in use matter. -/
theorem congr (h : Index nr mboxes tree)
    (hstate : ∀ i, (mboxes' i).mboxState = .inuse ↔ (mboxes i).mboxState = .inuse)
    (hname : ∀ i, (mboxes i).mboxState = .inuse → (mboxes' i).name = (mboxes i).name) :
    Index nr mboxes' tree where
  ordered := h.ordered.congr fun i hi => hname i (h.nodes i hi).2
  nodes i hi := ⟨(h.nodes i hi).1, (hstate i).mpr (h.nodes i hi).2⟩
  indexed := by
    intro i hi hinuse
    have hinuse' := (hstate i).mp hinuse
    obtain ⟨j, hj, heq⟩ := h.indexed i hi hinuse'
    refine ⟨j, hj, ?_⟩
    rw [hname j (h.nodes j hj).2, hname i hinuse']
    exact heq

/-- A mailbox comes into use, and its name is in the tree. -/
theorem activate (h : Index nr mboxes tree) (hi : i < nr)
    (hunused : (mboxes i).mboxState = .unused) (hinuse : (mboxes' i).mboxState = .inuse)
    (hother : ∀ j, j ≠ i → mboxes' j = mboxes j)
    (hord : Ordered CString.strcmp (nameOf mboxes') tree'.toList)
    (hmem : ∀ j ∈ tree'.toList, j = i ∨ j ∈ tree.toList)
    (hkept : ∀ j ∈ tree.toList, j ∈ tree'.toList)
    (hname : ∃ j ∈ tree'.toList, (mboxes' j).name = (mboxes' i).name) :
    Index nr mboxes' tree' where
  ordered := hord
  nodes := by
    intro j hj
    rcases hmem j hj with rfl | hj
    · exact ⟨hi, hinuse⟩
    · have hji : j ≠ i := by
        rintro rfl
        rw [(h.nodes j hj).2] at hunused
        cases hunused
      rw [hother j hji]
      exact h.nodes j hj
  indexed := by
    intro j hj hjinuse
    by_cases hji : j = i
    · rw [hji]
      exact hname
    · rw [hother j hji] at hjinuse ⊢
      obtain ⟨k, hk, heq⟩ := h.indexed j hj hjinuse
      have hki : k ≠ i := by
        rintro rfl
        rw [(h.nodes k hk).2] at hunused
        cases hunused
      exact ⟨k, hkept k hk, by rw [hother k hki]; exact heq⟩

/-- The names in the tree do not change when an unused mailbox does. -/
theorem ordered_of_unused (h : Index nr mboxes tree) (hunused : (mboxes i).mboxState = .unused)
    (hother : ∀ j, j ≠ i → mboxes' j = mboxes j) :
    Ordered CString.strcmp (nameOf mboxes') tree.toList := by
  refine h.ordered.congr fun j hj => ?_
  have hji : j ≠ i := by
    rintro rfl
    rw [(h.nodes j hj).2] at hunused
    cases hunused
  rw [nameOf, nameOf, hother j hji]

/-- A mailbox goes out of use and out of the tree, and no other one in use has its name. -/
theorem retire (h : Index nr mboxes tree) (hunused : (mboxes' i).mboxState = .unused)
    (hother : ∀ j, j ≠ i → mboxes' j = mboxes j)
    (hord : Ordered CString.strcmp (nameOf mboxes) tree'.toList)
    (hmem : ∀ j, j ∈ tree'.toList ↔ j ≠ i ∧ j ∈ tree.toList)
    (hunique : ∀ j, j < nr → (mboxes j).mboxState = .inuse → (mboxes j).name = (mboxes i).name →
      j = i) : Index nr mboxes' tree' where
  ordered := by
    refine hord.congr fun j hj => ?_
    rw [nameOf, nameOf, hother j ((hmem j).mp hj).1]
  nodes := by
    intro j hj
    obtain ⟨hji, hj⟩ := (hmem j).mp hj
    rw [hother j hji]
    exact h.nodes j hj
  indexed := by
    intro j hj hjinuse
    have hji : j ≠ i := by
      rintro rfl
      rw [hunused] at hjinuse
      cases hjinuse
    rw [hother j hji] at hjinuse ⊢
    obtain ⟨k, hk, heq⟩ := h.indexed j hj hjinuse
    have hki : k ≠ i := by
      rintro rfl
      exact hji (hunique j hj hjinuse heq.symm)
    exact ⟨k, (hmem k).mpr ⟨hki, hk⟩, by rw [hother k hki]; exact heq⟩

end Index

theorem Index.exact {s : ItcInstance σ}
    (h : Index s.nrMboxes.toNat s.mboxes s.localLocatingMboxTree) : LookupExact s where
  found := by
    intro name i hfind
    obtain ⟨hmem, hname⟩ := (h.find_iff name i).mp hfind
    obtain ⟨hi, hinuse⟩ := h.nodes i hmem
    exact ⟨hi, hinuse, hname⟩
  missing := by
    rintro name hfind i ⟨hi, hinuse, hname⟩
    obtain ⟨j, hj, heq⟩ := h.indexed i hi hinuse
    have hfound := (h.find_iff name j).mpr ⟨hj, heq.trans hname⟩
    rw [locateLocalMbox, hfound] at hfind
    cases hfind
  nodes i hi := ⟨(h.nodes i hi).1, (h.nodes i hi).2, rfl⟩

/-! ## The two operations on the tree -/

/-- A name that is in the tree, or that `tsearch` has the memory for, is in the tree afterwards. -/
theorem insertMboxToTreeMem_spec {s : ItcInstance σ} {mem : Bool} (E : ItcEnv σ) (i : Nat)
    (hord : Ordered CString.strcmp (nameOf s.mboxes) s.localLocatingMboxTree.toList)
    (hin : mem = true ∨
      ∃ j ∈ s.localLocatingMboxTree.toList, (s.mboxes j).name = (s.mboxes i).name) :
    ∃ t, insertMboxToTreeMem E mem s i = s.setTree t ∧
      Ordered CString.strcmp (nameOf s.mboxes) t.toList ∧
      (∀ j ∈ t.toList, j = i ∨ j ∈ s.localLocatingMboxTree.toList) ∧
      (∀ j ∈ s.localLocatingMboxTree.toList, j ∈ t.toList) ∧
      ∃ j ∈ t.toList, (s.mboxes j).name = (s.mboxes i).name := by
  simp only [insertMboxToTreeMem]
  cases hfind : s.localLocatingMboxTree.find (mboxNameCmp2 s.mboxes i) with
  | some j =>
    obtain ⟨hj, heq⟩ := (find_byKey hord).mp hfind
    exact ⟨_, rfl, hord, fun _ => .inr, fun _ => id, j, hj, heq⟩
  | none =>
    have hnew : ∀ j ∈ s.localLocatingMboxTree.toList, nameOf s.mboxes j ≠ nameOf s.mboxes i := by
      intro j hj heq
      have hfound := (find_byKey hord).mpr ⟨hj, heq⟩
      have hnone : s.localLocatingMboxTree.find
        (byKey CString.strcmp (nameOf s.mboxes) (nameOf s.mboxes i)) = none := hfind
      rw [hnone] at hfound
      cases hfound
    rcases hin with rfl | ⟨j, hj, heq⟩
    · obtain ⟨hord', hmem⟩ := E.tree.tsearch_spec hord hnew
      exact ⟨_, rfl, hord', fun j => (hmem j).mp, fun j hj => (hmem j).mpr (.inr hj), i,
        (hmem i).mpr (.inl rfl), rfl⟩
    · exact absurd heq (hnew j hj)

theorem removeMboxFromTree_spec {s : ItcInstance σ} (E : ItcEnv σ) (i : Nat)
    (hord : Ordered CString.strcmp (nameOf s.mboxes) s.localLocatingMboxTree.toList)
    (hunique : ∀ j ∈ s.localLocatingMboxTree.toList, (s.mboxes j).name = (s.mboxes i).name →
      j = i) :
    ∃ t, removeMboxFromTree E s i = s.setTree t ∧
      Ordered CString.strcmp (nameOf s.mboxes) t.toList ∧
      ∀ j, j ∈ t.toList ↔ j ≠ i ∧ j ∈ s.localLocatingMboxTree.toList := by
  simp only [removeMboxFromTree]
  cases hfind : s.localLocatingMboxTree.find (mboxNameCmp2 s.mboxes i) with
  | some j =>
    obtain ⟨hj, heq⟩ := (find_byKey hord).mp hfind
    obtain rfl := hunique j hj heq
    obtain ⟨hord', hmem⟩ := E.tree.tdelete_spec hord hj
    exact ⟨_, rfl, hord', hmem⟩
  | none =>
    refine ⟨s.localLocatingMboxTree, rfl, hord, fun j => ⟨fun hj => ⟨?_, hj⟩, And.right⟩⟩
    rintro rfl
    have hnone : s.localLocatingMboxTree.find
      (byKey CString.strcmp (nameOf s.mboxes) (nameOf s.mboxes j)) = none := hfind
    rw [(find_byKey hord).mpr ⟨hj, rfl⟩] at hnone
    cases hnone

/-! ## The free slots -/

theorem ItcInstance.Numbered.congr {s s' : ItcInstance σ} (h : s.Numbered)
    (hsame : SameSlots s s') : s'.Numbered where
  my := by rw [hsame.my]; exact h.my
  mask := hsame.mask.trans h.mask
  nrPos := by rw [hsame.nr]; exact h.nrPos
  nrLt := by rw [hsame.nr]; exact h.nrLt
  localMask := by rw [hsame.localMask, hsame.nr]; exact h.localMask
  ids := by
    intro i hi
    rw [hsame.nr] at hi
    rw [hsame.mboxId, hsame.my]
    exact h.ids i hi
  localInst := {
    my := by rw [hsame.queues.my, hsame.my]; exact h.localInst.my
    mask := hsame.queues.mask.trans h.localInst.mask
    localMask := by rw [hsame.queues.localMask, hsame.nr]; exact h.localInst.localMask
    nr := by rw [hsame.queues.nr, hsame.nr]; exact h.localInst.nr
    allocated := hsame.queues.allocated.trans h.localInst.allocated }

theorem ItcInstance.Numbered.setMbox {s : ItcInstance σ} (h : s.Numbered) {i : Nat}
    {mbox : ItcMailbox} (hid : mbox.mboxId = (s.mboxes i).mboxId) : (s.setMbox i mbox).Numbered :=
  { h with
    ids := by
      intro j hj
      by_cases hji : j = i
      · rw [hji] at hj ⊢
        rw [show (s.setMbox i mbox).mboxes i = mbox from if_pos rfl, hid]
        exact h.ids i hj
      · rw [setMbox_ne s mbox hji]
        exact h.ids j hj }

theorem ItcInstance.Numbered.setData {s : ItcInstance σ} (h : s.Numbered) (i : Nat)
    (data : LocalMboxData) (heap : Heap ItcMessage) :
    (s.setLocal (s.localInst.setData i data) heap).Numbered :=
  { h with localInst := h.localInst.setData i data }

/-- A free slot is unused and has no rx queue, and the threads own distinct slots that are not
free. -/
structure FreeSlots (s : ItcInstance σ) : Prop where
  numbered : s.Numbered
  nrLt : s.nrMboxes.toNat < 2 ^ mboxBits
  nodup : s.freeMboxesQueue.Nodup
  free : ∀ i ∈ s.freeMboxesQueue, i < s.nrMboxes.toNat ∧ (s.mboxes i).mboxState = .unused ∧
    (s.localInst.localmbxData i).rxq = none
  thread : ∀ tid i, s.myThreadlocalMbox tid = some i →
    i < s.nrMboxes.toNat ∧ i ∉ s.freeMboxesQueue
  threadInj : ∀ tid tid' i, s.myThreadlocalMbox tid = some i → s.myThreadlocalMbox tid' = some i →
    tid = tid'

namespace FreeSlots

variable {s s' : ItcInstance σ}

theorem congr (h : FreeSlots s) (hsame : SameSlots s s') : FreeSlots s' where
  numbered := h.numbered.congr hsame
  nrLt := by rw [hsame.nr]; exact h.nrLt
  nodup := by rw [hsame.free]; exact h.nodup
  free := by
    intro i hi
    rw [hsame.free] at hi
    obtain ⟨hlt, hunused, hrxq⟩ := h.free i hi
    exact ⟨by rw [hsame.nr]; exact hlt, by rw [hsame.mboxState]; exact hunused,
      (hsame.queues.rxq i).mpr hrxq⟩
  thread := by
    intro tid i ht
    rw [hsame.thread] at ht
    rw [hsame.nr, hsame.free]
    exact h.thread tid i ht
  threadInj := by
    intro tid tid' i ht ht'
    rw [hsame.thread] at ht ht'
    exact h.threadInj tid tid' i ht ht'

theorem setTree (h : FreeSlots s) (t : SearchTree.Tree Nat) : FreeSlots (s.setTree t) :=
  ⟨{ h.numbered with }, h.nrLt, h.nodup, h.free, h.thread, h.threadInj⟩

/-- The slot at the head of the queue is taken out of it. -/
theorem setFree {i : Nat} {rest : List Nat} (h : FreeSlots s)
    (hfree : s.freeMboxesQueue = i :: rest) : FreeSlots (s.setFree rest) where
  numbered := { h.numbered with }
  nrLt := h.nrLt
  nodup := by
    have hnodup := h.nodup
    rw [hfree] at hnodup
    exact (List.nodup_cons.mp hnodup).2
  free j hj := h.free j (by rw [hfree]; exact List.mem_cons_of_mem i hj)
  thread := by
    intro tid j ht
    obtain ⟨hlt, hj⟩ := h.thread tid j ht
    rw [hfree, List.mem_cons, not_or] at hj
    exact ⟨hlt, hj.2⟩
  threadInj := h.threadInj

/-- A slot that is not free may change, as long as its id stays. -/
theorem setMbox {i : Nat} {mbox : ItcMailbox} (h : FreeSlots s)
    (hid : mbox.mboxId = (s.mboxes i).mboxId) (hi : i ∉ s.freeMboxesQueue) :
    FreeSlots (s.setMbox i mbox) where
  numbered := h.numbered.setMbox hid
  nrLt := h.nrLt
  nodup := h.nodup
  free := by
    intro j hj
    have hji : j ≠ i := by
      rintro rfl
      exact hi hj
    rw [setMbox_ne s mbox hji]
    exact h.free j hj
  thread := h.thread
  threadInj := h.threadInj

/-- So may its rx queue, and any queue may go. -/
theorem setData {i : Nat} {data : LocalMboxData} (h : FreeSlots s)
    (hi : i ∉ s.freeMboxesQueue ∨ data.rxq = none) (heap : Heap ItcMessage) :
    FreeSlots (s.setLocal (s.localInst.setData i data) heap) where
  numbered := h.numbered.setData i data heap
  nrLt := h.nrLt
  nodup := h.nodup
  free := by
    intro j hj
    obtain ⟨hlt, hunused, hrxq⟩ := h.free j hj
    refine ⟨hlt, hunused, ?_⟩
    simp only [setLocal_localInst, LocalInst.setData]
    split
    · rename_i hji
      rcases hi with hi | hnone
      · exact absurd (hji ▸ hj) hi
      · exact hnone
    · exact hrxq
  thread := h.thread
  threadInj := h.threadInj

/-- A thread takes a slot that nobody has. -/
theorem setThread {i tid : Nat} (h : FreeSlots s) (hi : i < s.nrMboxes.toNat)
    (hfree : i ∉ s.freeMboxesQueue) (hnone : ∀ tid, s.myThreadlocalMbox tid ≠ some i) :
    FreeSlots (s.setThread tid (some i)) where
  numbered := { h.numbered with }
  nrLt := h.nrLt
  nodup := h.nodup
  free := h.free
  thread := by
    intro u j hu
    simp only [setThread_myThreadlocalMbox] at hu
    split at hu
    · cases hu
      exact ⟨hi, hfree⟩
    · exact h.thread u j hu
  threadInj := by
    intro u v j hu hv
    simp only [setThread_myThreadlocalMbox] at hu hv
    split at hu
    · rename_i hut
      split at hv
      · rename_i hvt
        rw [hut, hvt]
      · cases hu
        exact absurd hv (hnone v)
    · split at hv
      · cases hv
        exact absurd hu (hnone u)
      · exact h.threadInj u v j hu hv

/-- A thread gives its slot back. -/
theorem release {me tid : Nat} (h : FreeSlots s) (ht : s.myThreadlocalMbox tid = some me)
    (hunused : (s.mboxes me).mboxState = .unused)
    (hrxq : (s.localInst.localmbxData me).rxq = none) :
    FreeSlots ((s.setFree (s.freeMboxesQueue ++ [me])).setThread tid none) where
  numbered := { h.numbered with }
  nrLt := h.nrLt
  nodup := by
    refine List.nodup_append.mpr ⟨h.nodup, List.nodup_singleton me, ?_⟩
    intro j hj k hk heq
    rw [heq, List.mem_singleton.mp hk] at hj
    exact (h.thread tid me ht).2 hj
  free := by
    intro j hj
    rcases List.mem_append.mp hj with hj | hj
    · exact h.free j hj
    · rw [List.mem_singleton.mp hj]
      exact ⟨(h.thread tid me ht).1, hunused, hrxq⟩
  thread := by
    intro u j hu
    simp only [setThread_myThreadlocalMbox] at hu
    split at hu
    · cases hu
    · rename_i hut
      obtain ⟨hlt, hj⟩ := h.thread u j hu
      refine ⟨hlt, fun hmem => ?_⟩
      rcases List.mem_append.mp hmem with hmem | hmem
      · exact hj hmem
      · rw [List.mem_singleton.mp hmem] at hu
        exact hut (h.threadInj u tid me hu ht)
  threadInj := by
    intro u v j hu hv
    simp only [setThread_myThreadlocalMbox] at hu hv
    split at hu
    · cases hu
    · split at hv
      · cases hv
      · exact h.threadInj u v j hu hv

end FreeSlots

/-! ## Steps -/

/-- **The invariant of the runs.** -/
structure LookupInv (s : ItcInstance σ) : Prop where
  slots : FreeSlots s
  index : Index s.nrMboxes.toNat s.mboxes s.localLocatingMboxTree

theorem LookupInv.congr {s s' : ItcInstance σ} (h : LookupInv s) (hsame : SameSlots s s') :
    LookupInv s' where
  slots := h.slots.congr hsame
  index := by
    rw [hsame.nr, hsame.tree]
    exact h.index.congr (fun i => by rw [hsame.mboxState]) fun i _ => hsame.name i

theorem LookupInv.init (proc : Nat) {nrMboxes : UInt32} (hpos : nrMboxes ≠ 0)
    (hlt : nrMboxes.toNat < 2 ^ mboxBits) (maxMsgsize : Nat) (kernel : σ) :
    LookupInv (ItcInstance.init proc nrMboxes maxMsgsize kernel) where
  slots := {
    numbered := (ItcInstance.Inv.init proc hpos hlt maxMsgsize kernel).layout.numbered
    nrLt := hlt
    nodup := List.nodup_range
    free := fun i hi => ⟨List.mem_range.mp hi, rfl, rfl⟩
    thread := fun _ _ h => by cases h
    threadInj := fun _ _ _ h => by cases h }
  index := {
    ordered := List.Pairwise.nil
    nodes := fun _ h => by cases h
    indexed := fun _ _ h => by cases h }

/-- The calls that keep the lookup exact: a mailbox that comes into use gets into the tree, and one
that is deleted is the only one in use with its name. -/
def LookupAnswered (s : ItcInstance σ) : MailboxEvent → Prop
  | .createMailbox tid name _ answers _ =>
      s.myThreadlocalMbox tid = none → answers.rc = true → s.freeMboxesQueue ≠ [] →
        answers = .all ∨ ITC_MAX_NAME_LENGTH < name.strlen ∨ ∃ i, HasName s name i
  | .deleteMailbox tid mboxId _ _ =>
      ∀ me, s.myThreadlocalMbox tid = some me → (s.mboxes me).mboxId = mboxId →
        ∀ i, HasName s (s.mboxes me).name i → i = me
  | .other _ => True

/-- `local_create_mbox` for a slot without an rx queue. -/
theorem localCreateMboxMem_eq {inst : LocalInst} {mboxId : MboxId} {i : Nat}
    (hfind : findLocalmbxData inst mboxId = .ok i) (hrxq : (inst.localmbxData i).rxq = none)
    (mem : Bool) (flags : UInt32) :
    localCreateMboxMem mem inst mboxId flags =
      if mem then (ITC_OK, inst.setData i ⟨mboxId, flags, some initQueue⟩)
      else (ITC_SYSCALL_ERROR, inst) := by
  simp only [localCreateMboxMem, hfind, hrxq]

theorem localCreateMboxMem_changes {mem : Bool} {inst inst' : LocalInst} {mboxId : MboxId}
    {flags rc : UInt32} {i : Nat} (hfind : findLocalmbxData inst mboxId = .ok i)
    (hcreate : localCreateMboxMem mem inst mboxId flags = (rc, inst')) :
    inst' = inst ∨ ∃ data, inst' = inst.setData i data := by
  simp only [localCreateMboxMem, hfind] at hcreate
  split at hcreate
  · cases hcreate
    exact .inl rfl
  · split at hcreate
    · cases hcreate
      exact .inr ⟨_, rfl⟩
    · cases hcreate
      exact .inl rfl

/-- `local_delete_mbox` fails, or takes the rx queue away. -/
theorem localDeleteMbox_changes {fuel : Nat} {inst inst' : LocalInst}
    {heap heap' : Heap ItcMessage} {mboxId : MboxId} {rc : UInt32}
    (hdelete : localDeleteMbox fuel inst heap mboxId = .ok (some (rc, inst', heap'))) :
    rc ≠ ITC_OK ∧ inst' = inst ∨
      ∃ i, findLocalmbxData inst mboxId = .ok i ∧ inst' = inst.setData i ⟨0, 0, none⟩ := by
  unfold localDeleteMbox at hdelete
  split at hdelete
  · rename_i hfind
    cases hdelete
    exact .inl ⟨findLocalmbxData_error hfind, rfl⟩
  · rename_i i hfind
    split at hdelete
    · cases hdelete
      exact .inl ⟨by decide, rfl⟩
    · obtain ⟨out, -, hdelete⟩ := bind_some_eq_ok hdelete rfl
      cases hdelete
      exact .inr ⟨i, hfind, rfl⟩

theorem prepare_self (s : ItcInstance σ) (tid i : Nat) (rest : List Nat) (name : CString)
    (flags : UInt32) (inst : LocalInst) :
    (s.prepare tid i rest name flags inst).mboxes i = (s.mboxes i).create tid name flags :=
  if_pos rfl

theorem prepare_ne (s : ItcInstance σ) (tid i : Nat) (rest : List Nat) (name : CString)
    (flags : UInt32) (inst : LocalInst) (j : Nat) (hj : j ≠ i) :
    (s.prepare tid i rest name flags inst).mboxes j = s.mboxes j :=
  if_neg hj

section Steps

variable {s s' : ItcInstance σ} {fuel tid : Nat}

theorem FreeSlots.prepare {i : Nat} {rest : List Nat} {inst : LocalInst} (h : FreeSlots s)
    (hfree : s.freeMboxesQueue = i :: rest) (tid : Nat) (name : CString) (flags : UInt32)
    (hinst : inst = s.localInst ∨ ∃ data, inst = s.localInst.setData i data) :
    FreeSlots (s.prepare tid i rest name flags inst) := by
  have hnodup := h.nodup
  rw [hfree] at hnodup
  have hi := (List.nodup_cons.mp hnodup).1
  have hprepared : FreeSlots ((s.setFree rest).setMbox i ((s.mboxes i).create tid name flags)) :=
    (h.setFree hfree).setMbox (ItcMailbox.create_mboxId _ _ _ _) hi
  rcases hinst with rfl | ⟨data, rfl⟩
  · exact hprepared.congr (.setLocal (.refl _) s.heap)
  · exact hprepared.setData (.inl hi) s.heap

theorem LookupInv.createMailbox {name : CString} {flags : UInt32} {answers : CreateAnswers}
    {ret : MboxId} (h : LookupInv s)
    (hanswered : LookupAnswered s (.createMailbox tid name flags answers ret))
    (hcase : CreateCase E s tid name flags answers ret s') : LookupInv s' := by
  cases hcase with
  | refused _ => exact h
  | noRc _ _ => exact h
  | tooLong _ hfree _ => exact ⟨h.slots.setFree hfree, h.index⟩
  | @failed i rest rc inst ht hrc hfree hname hlocal hfailed =>
    obtain ⟨hi, hunused, hrxq⟩ := h.slots.free i (by rw [hfree]; exact List.mem_cons_self)
    have hfind := h.slots.numbered.findLocal_id h.slots.nrLt hi
    have hinst := localCreateMboxMem_changes hfind hlocal
    rw [localCreateMboxMem_eq hfind hrxq] at hlocal
    -- the mailbox is in use but not in the tree, so its name must be there already
    obtain ⟨j, hj, hjinuse, hjname⟩ : ∃ j, HasName s name j := by
      rcases hanswered ht hrc (by rw [hfree]; exact List.cons_ne_nil i rest) with rfl | hlong | hhas
      · cases hlocal
        rcases hfailed with hrc | hset
        · exact absurd rfl hrc
        · cases hset
      · omega
      · exact hhas
    obtain ⟨k, hk, hkname⟩ := h.index.indexed j hj hjinuse
    have hki : k ≠ i := by
      rintro rfl
      rw [(h.index.nodes k hk).2] at hunused
      cases hunused
    have hself := prepare_self s tid i rest name flags inst
    have hother := prepare_ne s tid i rest name flags inst
    refine ⟨h.slots.prepare hfree tid name flags hinst,
      h.index.activate hi hunused (by rw [hself]; rfl) hother
        (h.index.ordered_of_unused hunused hother) (fun _ => .inr) (fun _ => id) ⟨k, hk, ?_⟩⟩
    rw [hother k hki, hself, ItcMailbox.create_name, hkname, hjname]
  | @created i rest inst s' ht hrc hfree hname hlocal hsame =>
    obtain ⟨hi, hunused, -⟩ := h.slots.free i (by rw [hfree]; exact List.mem_cons_self)
    have hfind := h.slots.numbered.findLocal_id h.slots.nrLt hi
    have hinst := localCreateMboxMem_changes hfind hlocal
    have hself := prepare_self s tid i rest name flags inst
    have hother := prepare_ne s tid i rest name flags inst
    have hknown : answers.tsearch = true ∨
        ∃ j ∈ (s.prepare tid i rest name flags inst).localLocatingMboxTree.toList,
          ((s.prepare tid i rest name flags inst).mboxes j).name =
            ((s.prepare tid i rest name flags inst).mboxes i).name := by
      rcases hanswered ht hrc (by rw [hfree]; exact List.cons_ne_nil i rest) with
        rfl | hlong | ⟨j, hj, hjinuse, hjname⟩
      · exact .inl rfl
      · omega
      · obtain ⟨k, hk, hkname⟩ := h.index.indexed j hj hjinuse
        have hki : k ≠ i := by
          rintro rfl
          rw [(h.index.nodes k hk).2] at hunused
          cases hunused
        exact .inr ⟨k, hk, by
          rw [hother k hki, hself, ItcMailbox.create_name, hkname, hjname]⟩
    obtain ⟨t, htree, hord, hmem, hkept, hin⟩ := insertMboxToTreeMem_spec
      (s := s.prepare tid i rest name flags inst) E i (h.index.ordered_of_unused hunused hother)
      hknown
    rw [htree] at hsame
    have hnodup := h.slots.nodup
    rw [hfree] at hnodup
    have hprepared := (h.slots.prepare hfree tid name flags hinst).setTree t
    have hinv : LookupInv (((s.prepare tid i rest name flags inst).setTree t).setThread tid
        (some i)) := by
      refine ⟨hprepared.setThread hi (List.nodup_cons.mp hnodup).1 fun u hu => ?_,
        h.index.activate hi hunused (by rw [setThread_mboxes, setTree_mboxes, hself]; rfl) hother
          hord hmem hkept hin⟩
      exact (h.slots.thread u i hu).2 (by rw [hfree]; exact List.mem_cons_self)
    exact hinv.congr hsame

/-- Taking a mailbox out of use, when no other one in use has its name. -/
theorem LookupInv.retire {me : Nat} (h : LookupInv s) (E : ItcEnv σ)
    (ht : s.myThreadlocalMbox tid = some me)
    (hunique : ∀ i, HasName s (s.mboxes me).name i → i = me) : LookupInv (s.retire E me) := by
  obtain ⟨-, hme⟩ := h.slots.thread tid me ht
  obtain ⟨t, htree, hord, hmem⟩ := removeMboxFromTree_spec E me h.index.ordered
    fun j hj hname => hunique j ⟨(h.index.nodes j hj).1, (h.index.nodes j hj).2, hname⟩
  rw [ItcInstance.retire, htree]
  refine ⟨(h.slots.setTree t).setMbox (ItcMailbox.close_mboxId _) hme, ?_⟩
  refine h.index.retire (i := me) ?_ (fun j hj => if_neg hj) hord hmem
    fun j hj hinuse hname => hunique j ⟨hj, hinuse, hname⟩
  simp only [setMbox_mboxes, if_true, ItcMailbox.close_mboxState]

/-- Taking its rx queue away. -/
theorem LookupInv.localDelete {rc : UInt32} {mboxId : MboxId} {inst : LocalInst}
    {heap : Heap ItcMessage} (h : LookupInv s)
    (hlocal : localDeleteMbox fuel s.localInst s.heap mboxId = .ok (some (rc, inst, heap))) :
    LookupInv (s.setLocal inst heap) := by
  rcases localDeleteMbox_changes hlocal with ⟨-, rfl⟩ | ⟨i, -, rfl⟩
  · exact h.congr (.setLocal (.refl _) heap)
  · exact ⟨h.slots.setData (.inr rfl) heap, h.index⟩

/-- Clearing the mailbox. -/
theorem LookupInv.clear {me : Nat} (h : LookupInv s) (hunused : (s.mboxes me).mboxState = .unused)
    (hme : me ∉ s.freeMboxesQueue) : LookupInv (s.setMbox me (s.mboxes me).clear) where
  slots := h.slots.setMbox (ItcMailbox.clear_mboxId _) hme
  index := by
    refine h.index.congr (fun i => ?_) fun i hinuse => ?_
    · by_cases hi : i = me
      · rw [hi, setMbox_mboxes, if_pos rfl, ItcMailbox.clear_mboxState]
      · rw [setMbox_ne s _ hi]
    · have hi : i ≠ me := by
        rintro rfl
        rw [hunused] at hinuse
        cases hinuse
      rw [setMbox_ne s _ hi]

theorem LookupInv.deleteMailbox {mboxId : MboxId} {node ret : Bool} (h : LookupInv s)
    (hanswered : LookupAnswered s (.deleteMailbox tid mboxId node ret))
    (hcase : DeleteCase E s tid mboxId node ret s') : LookupInv s' := by
  cases hcase with
  | refused _ => exact h
  | @failed me s₁ _ _ _ _ ht hid hsame hlocal =>
    exact ((h.retire E ht (hanswered me ht hid.symm)).congr hsame).localDelete hlocal
  | @nodeless me s₁ _ inst heap ht hid hsame hlocal _ =>
    have hretired := h.retire E ht (hanswered me ht hid.symm)
    have hunused : ((s₁.setLocal inst heap).mboxes me).mboxState = .unused := by
      rw [setLocal_mboxes, hsame.mboxState, ItcInstance.retire, setMbox_mboxes, if_pos rfl,
        ItcMailbox.close_mboxState]
    have hme : me ∉ (s₁.setLocal inst heap).freeMboxesQueue := by
      obtain ⟨t, htree⟩ := removeMboxFromTree_eq E s me
      rw [setLocal_freeMboxesQueue, hsame.free, ItcInstance.retire, htree]
      exact (h.slots.thread tid me ht).2
    exact ((hretired.congr hsame).localDelete hlocal).clear hunused hme
  | @deleted me s₁ _ inst heap ht hid hsame hlocal =>
    obtain ⟨hlt, hfree⟩ := h.slots.thread tid me ht
    have hretired := h.retire E ht (hanswered me ht hid.symm)
    obtain ⟨t, htree⟩ := removeMboxFromTree_eq E s me
    have hunused : ((s₁.setLocal inst heap).mboxes me).mboxState = .unused := by
      rw [setLocal_mboxes, hsame.mboxState, ItcInstance.retire, setMbox_mboxes, if_pos rfl,
        ItcMailbox.close_mboxState]
    have hme : me ∉ (s₁.setLocal inst heap).freeMboxesQueue := by
      rw [setLocal_freeMboxesQueue, hsame.free, ItcInstance.retire, htree]
      exact hfree
    have hclear := ((hretired.congr hsame).localDelete hlocal).clear hunused hme
    have ht₁ : s₁.myThreadlocalMbox tid = some me := by
      rw [hsame.thread, ItcInstance.retire, htree]
      exact ht
    have hid₁ : (s₁.mboxes me).mboxId = mboxId := by
      rw [hsame.mboxId, ItcInstance.retire, setMbox_mboxes, if_pos rfl, ItcMailbox.close_mboxId, hid]
    have hlt₁ : me < s₁.nrMboxes.toNat := by
      rw [hsame.nr, ItcInstance.retire, htree]
      exact hlt
    have hslots₁ := (hretired.congr hsame).slots
    have hfind := hslots₁.numbered.findLocal_id hslots₁.nrLt hlt₁
    rw [hid₁] at hfind
    have hrxq : (inst.localmbxData me).rxq = none := by
      rcases localDeleteMbox_changes hlocal with ⟨hrc, -⟩ | ⟨i, hi, rfl⟩
      · exact absurd rfl hrc
      · rw [hfind] at hi
        cases hi
        simp only [LocalInst.setData, if_true]
    have hunused' : (((s₁.setLocal inst heap).setMbox me
        ((s₁.setLocal inst heap).mboxes me).clear).mboxes me).mboxState = .unused := by
      rw [setMbox_mboxes, if_pos rfl, ItcMailbox.clear_mboxState]
      exact hunused
    exact ⟨hclear.slots.release ht₁ hunused' hrxq, hclear.index⟩

/-- **A call keeps the lookup exact.** -/
theorem LookupInv.step {a : MailboxEvent} (h : LookupInv s) (hanswered : LookupAnswered s a)
    (hstep : MailboxStep E s a s') : LookupInv s' := by
  cases hstep with
  | createMailbox call => exact h.createMailbox hanswered (createMailbox_cases call)
  | deleteMailbox call => exact h.deleteMailbox hanswered (deleteMailbox_cases call)
  | other hother call => exact h.congr (call.sameSlots hother)

end Steps

/-- **In-process lookup.** In every run in which no mailbox is deleted while another one in use has
its name, and each mailbox that comes into use gets into the tree, `locate_local_mbox` is exact. -/
theorem name_lookup_exact (E : ItcEnv σ) (proc : Nat) (nrMboxes : UInt32) (hpos : nrMboxes ≠ 0)
    (hlt : nrMboxes.toNat < 2 ^ mboxBits) (maxMsgsize : Nat) (kernel : σ)
    (as : List MailboxEvent) (s : ItcInstance σ)
    (hrun : Run (Guarded (MailboxStep E) LookupAnswered) (.init proc nrMboxes maxMsgsize kernel)
      as s) : LookupExact s := by
  have h : LookupInv s := hrun.invariant_of_guard
    (fun s a s' h hanswered hstep => h.step hanswered hstep)
    (.init proc hpos hlt maxMsgsize kernel)
  exact h.index.exact

/-- Two threads with different names, and the first deletes its mailbox. -/
theorem name_lookup_exact_pair :
    ∃ (as : List MailboxEvent) (s : ItcInstance Unit), as.length = 3 ∧
      locateLocalMbox s ⟨[65], by decide⟩ = some 1 ∧ LookupExact s := by
  let name : CString := ⟨[65], by decide⟩
  let s₀ : ItcInstance Unit := .init 1 3 0 ()
  let c₁ := returned (0, s₀) (itcCreateMailboxZz ItcEnv.willing 0 .all s₀ 0 .empty 0)
  let c₂ := returned (0, s₀) (itcCreateMailboxZz ItcEnv.willing 0 .all c₁.2 1 name 0)
  let d₃ := returned (false, s₀) (itcDeleteMailboxZz ItcEnv.willing 1 true c₂.2 0 c₁.1)
  let e₁ : MailboxEvent := .createMailbox 0 .empty 0 .all c₁.1
  let e₂ : MailboxEvent := .createMailbox 1 name 0 .all c₂.1
  let e₃ : MailboxEvent := .deleteMailbox 0 c₁.1 true d₃.1
  have hcall₁ : itcCreateMailboxZz ItcEnv.willing 0 .all s₀ 0 .empty 0 =
      .ok (some (c₁.1, c₁.2)) := returned_eq (by decide +kernel)
  have hcall₂ : itcCreateMailboxZz ItcEnv.willing 0 .all c₁.2 1 name 0 =
      .ok (some (c₂.1, c₂.2)) := returned_eq (by decide +kernel)
  have hcall₃ : itcDeleteMailboxZz ItcEnv.willing 1 true c₂.2 0 c₁.1 =
      .ok (some (d₃.1, d₃.2)) := returned_eq (by decide +kernel)
  have hfound : locateLocalMbox d₃.2 name = some 1 := by decide +kernel
  have hthread : c₂.2.myThreadlocalMbox 0 = some 0 := by decide +kernel
  have hnr : c₂.2.nrMboxes.toNat = 3 := by decide +kernel
  have hunique : ∀ i, i < 3 → (c₂.2.mboxes i).name = (c₂.2.mboxes 0).name →
      (c₂.2.mboxes i).mboxState = .inuse → i = 0 := by decide +kernel
  have hstep₁ : Guarded (MailboxStep ItcEnv.willing) LookupAnswered s₀ e₁ c₁.2 :=
    ⟨fun _ _ _ => .inl rfl, .createMailbox hcall₁⟩
  have hstep₂ : Guarded (MailboxStep ItcEnv.willing) LookupAnswered c₁.2 e₂ c₂.2 :=
    ⟨fun _ _ _ => .inl rfl, .createMailbox hcall₂⟩
  have hstep₃ : Guarded (MailboxStep ItcEnv.willing) LookupAnswered c₂.2 e₃ d₃.2 := by
    refine ⟨fun me hme _ i hi => ?_, .deleteMailbox hcall₃⟩
    rw [hthread] at hme
    cases hme
    exact hunique i (hnr ▸ hi.1) hi.2.2 hi.2.1
  have h := name_lookup_exact ItcEnv.willing 1 3 (by decide) (by decide) 0 () _ _
    (.cons hstep₁ (.cons hstep₂ (.cons hstep₃ (.nil _))))
  exact ⟨[e₁, e₂, e₃], _, rfl, hfound, h⟩

/-- Two threads with the same name: when the first deletes its mailbox, the other is not found. -/
theorem mailbox_unfindable :
    ∃ (as : List MailboxEvent) (s : ItcInstance Unit),
      Run (MailboxStep ItcEnv.willing) (.init 1 3 0 ()) as s ∧
      (s.mboxes 1).mboxState = .inuse ∧ locateLocalMbox s (s.mboxes 1).name = none ∧
      ¬ LookupExact s := by
  let s₀ : ItcInstance Unit := .init 1 3 0 ()
  let c₁ := returned (0, s₀) (itcCreateMailboxZz ItcEnv.willing 0 .all s₀ 0 .empty 0)
  let c₂ := returned (0, s₀) (itcCreateMailboxZz ItcEnv.willing 0 .all c₁.2 1 .empty 0)
  let d₃ := returned (false, s₀) (itcDeleteMailboxZz ItcEnv.willing 1 true c₂.2 0 c₁.1)
  have hcall₁ : itcCreateMailboxZz ItcEnv.willing 0 .all s₀ 0 .empty 0 =
      .ok (some (c₁.1, c₁.2)) := returned_eq (by decide +kernel)
  have hcall₂ : itcCreateMailboxZz ItcEnv.willing 0 .all c₁.2 1 .empty 0 =
      .ok (some (c₂.1, c₂.2)) := returned_eq (by decide +kernel)
  have hcall₃ : itcDeleteMailboxZz ItcEnv.willing 1 true c₂.2 0 c₁.1 =
      .ok (some (d₃.1, d₃.2)) := returned_eq (by decide +kernel)
  have hinuse : (d₃.2.mboxes 1).mboxState = .inuse := by decide +kernel
  have hnone : locateLocalMbox d₃.2 (d₃.2.mboxes 1).name = none := by decide +kernel
  have hnr : 1 < d₃.2.nrMboxes.toNat := by decide +kernel
  refine ⟨_, d₃.2, .cons (.createMailbox hcall₁) (.cons (.createMailbox hcall₂)
    (.cons (.deleteMailbox hcall₃) (.nil _))), hinuse, hnone, fun h => ?_⟩
  exact h.missing _ hnone 1 ⟨hnr, hinuse, rfl⟩

end ItcFramework
