import ItcFramework.Itc.Accounting

/-!
# The mailbox slots of a process

`itc_create_mailbox_zz` takes a slot out of `free_mboxes_queue` before it has checked anything,
and `itc_delete_mailbox_zz` puts it back last. Here the two calls are taken with what `malloc` and
`pthread_setspecific` answer them.

* `MailboxStep` — one call of any thread; `MailboxStep.createMailbox_cases` and
  `MailboxStep.deleteMailbox_cases` say what the two can do.
* `SlotsConserved` — every slot is free once, or in use and owned by one thread.
* `SlotAnswered` — the calls that lose no slot: a create has its `rc`, and one that takes a slot a
  name that fits, and `malloc` and `pthread_setspecific` answer.
* `itcCreateMailboxZz_returns` — what such a create has done.
* `mailbox_slots_conserved` — along every run of such calls the slots are conserved.
-/

set_option autoImplicit false

namespace ItcFramework

open ByteImage HeapModel Transition ItcInstance

variable {σ : Type} {E : ItcEnv σ}

/-! ## The calls and what they are answered -/

/-- What `itc_create_mailbox_zz` is answered. -/
structure CreateAnswers where
  /-- The thread has its `rc`, or `malloc` gives it one. -/
  rc : Bool
  /-- By `malloc` in `init_queue`. -/
  rxq : Bool
  setspecific : Bool
  /-- By `malloc` in `tsearch`. -/
  tsearch : Bool
  deriving DecidableEq, Repr

def CreateAnswers.all : CreateAnswers := ⟨true, true, true, true⟩

/-- `local_create_mbox`; `mem` is what `malloc` answers. -/
def localCreateMboxMem (mem : Bool) (inst : LocalInst) (mboxId : MboxId) (flags : UInt32) :
    UInt32 × LocalInst :=
  match findLocalmbxData inst mboxId with
  | .error rc => (rc, inst)
  | .ok i =>
      match (inst.localmbxData i).rxq with
      | some _ => (ITC_ALREADY_USED, inst)
      | none =>
          if mem then (ITC_OK, inst.setData i ⟨mboxId, flags, some initQueue⟩)
          else (ITC_SYSCALL_ERROR, inst)

/-- `insert_mbox_to_tree`; `mem` is what `malloc` answers in `tsearch`, which inserts nothing
without memory. -/
def insertMboxToTreeMem (E : ItcEnv σ) (mem : Bool) (s : ItcInstance σ) (mbox : Nat) :
    ItcInstance σ :=
  let c := mboxNameCmp2 s.mboxes mbox
  match s.localLocatingMboxTree.find c with
  | some _ => s
  | none => if mem then s.setTree (E.tree.tsearch c mbox s.localLocatingMboxTree) else s

def itcCreateMailboxZz (E : ItcEnv σ) (fuel : Nat) (answers : CreateAnswers) (s : ItcInstance σ)
    (tid : Nat) (name : CString) (flags : UInt32) :
    Except MemFault (Option (MboxId × ItcInstance σ)) :=
  match s.myThreadlocalMbox tid with
  | some _ => .ok (some (ITC_NO_MBOX_ID, s))
  | none =>
      -- `return false`, which is no `ITC_NO_MBOX_ID`
      if ¬ answers.rc then .ok (some (0, s)) else
      match s.freeMboxesQueue with
      | [] => .ok (some (ITC_NO_MBOX_ID, s))
      | i :: rest =>
          let s := s.setFree rest
          if name.strlen > ITC_MAX_NAME_LENGTH then .ok (some (ITC_NO_MBOX_ID, s))
          -- `strcpy` needs a byte more than the name has
          else if name.strlen + 1 > ITC_MAX_NAME_LENGTH then .error .outOfBounds
          else do
            let mbox := (s.mboxes i).create tid name flags
            let (rc, localInst) := localCreateMboxMem answers.rxq s.localInst mbox.mboxId flags
            let s := (s.setMbox i mbox).setLocal localInst s.heap
            if rc ≠ ITC_OK then return some (ITC_NO_MBOX_ID, s)
            if ¬ answers.setspecific then return some (ITC_NO_MBOX_ID, s)
            let s := (insertMboxToTreeMem E answers.tsearch s i).setThread tid (some i)
            let some s ← notifyCoord E fuel s tid ITC_NOTIFY_COORD_ADD_MBOX mbox.mboxId name
              | return none
            return some (mbox.mboxId, s)

/-- `itc_delete_mailbox_zz`; a thread that has a mailbox has its `rc`; `node` is what `malloc` answers in `q_enqueue`. -/
def itcDeleteMailboxZz (E : ItcEnv σ) (fuel : Nat) (node : Bool) (s : ItcInstance σ) (tid : Nat)
    (mboxId : MboxId) : Except MemFault (Option (Bool × ItcInstance σ)) :=
  match s.myThreadlocalMbox tid with
  | none => .ok (some (false, s))
  | some me =>
      if mboxId ≠ (s.mboxes me).mboxId then .ok (some (false, s))
      else if ¬ (s.mboxes me).pRxqInfo then .error .nullDeref else do
      let s := removeMboxFromTree E s me
      let s := s.setMbox me (s.mboxes me).close
      let some s ← notifyCoord E fuel s tid ITC_NOTIFY_COORD_RMV_MBOX mboxId (s.mboxes me).name
        | return none
      let some (rc, localInst, heap) ← localDeleteMbox fuel s.localInst s.heap mboxId
        | return none
      let s := s.setLocal localInst heap
      if rc ≠ ITC_OK then return some (false, s)
      let s := s.setMbox me (s.mboxes me).clear
      if ¬ node then return some (false, s)
      let s := s.setFree (s.freeMboxesQueue ++ [me])
      return some (true, s.setThread tid none)

/-- `itc_get_name_zz`: the string it stores, `none` when it returns `false`. -/
def itcGetName (s : ItcInstance σ) (tid : Nat) (mboxId : MboxId) : Option CString :=
  match s.myThreadlocalMbox tid with
  | none => none
  | some me => if mboxId ≠ (s.mboxes me).mboxId then none else some (s.mboxes me).name

theorem localCreateMboxMem_true (inst : LocalInst) (mboxId : MboxId) (flags : UInt32) :
    localCreateMboxMem true inst mboxId flags = localCreateMbox inst mboxId flags := by
  unfold localCreateMboxMem localCreateMbox
  rfl

theorem insertMboxToTreeMem_eq (E : ItcEnv σ) (mem : Bool) (s : ItcInstance σ) (mbox : Nat) :
    ∃ t, insertMboxToTreeMem E mem s mbox = s.setTree t := by
  simp only [insertMboxToTreeMem]
  split
  · exact ⟨s.localLocatingMboxTree, rfl⟩
  · split
    · exact ⟨_, rfl⟩
    · exact ⟨s.localLocatingMboxTree, rfl⟩

/-- **With every answer the call is the one of the other modules.** -/
theorem itcCreateMailboxZz_all (fuel : Nat) (s : ItcInstance σ) (tid : Nat) (name : CString)
    (flags : UInt32) :
    itcCreateMailboxZz E fuel .all s tid name flags = itcCreateMailbox E fuel s tid name flags := by
  unfold itcCreateMailboxZz itcCreateMailbox
  rw [CreateAnswers.all, funext fun i => funext fun m => funext (localCreateMboxMem_true i m)]
  rfl

/-- A create that has its `rc`, its rx queue and its destructor does what it does with every
answer, whatever `tsearch` finds. -/
theorem itcCreateMailboxZz_returns {q : Queues} {answers : CreateAnswers} {s : ItcInstance σ}
    {name : CString} (h : s.Inv q) (hname : name.strlen < ITC_MAX_NAME_LENGTH)
    (hrc : answers.rc = true) (hrxq : answers.rxq = true) (hset : answers.setspecific = true)
    (fuel tid : Nat) (flags : UInt32) :
    Returns (itcCreateMailboxZz E fuel answers s tid name flags) (Created s q tid name flags) := by
  unfold itcCreateMailboxZz
  cases ht : s.myThreadlocalMbox tid with
  | some _ => exact .result .failed
  | none =>
    cases hfree : s.freeMboxesQueue with
    | nil =>
      simp only [hrc, not_true_eq_false, if_false]
      exact .result .failed
    | cons i rest =>
      obtain ⟨hlt, hq⟩ := h.slots.free i (by rw [hfree]; exact List.mem_cons_self)
      obtain ⟨hcreate, -⟩ := localCreateMbox_spec h.holds (h.layout.findLocal_id hlt) flags hq
      have hlong : ¬ name.strlen > ITC_MAX_NAME_LENGTH := by omega
      have hfull : ¬ name.strlen + 1 > ITC_MAX_NAME_LENGTH := by omega
      obtain ⟨t, htree⟩ := insertMboxToTreeMem_eq E answers.tsearch
        (((s.setFree rest).setMbox i ((s.mboxes i).create tid name flags)).setLocal
          (s.localInst.setData i ⟨(s.mboxes i).mboxId, flags, some initQueue⟩) s.heap) i
      simp only [hrc, hrxq, hset, localCreateMboxMem_true, if_neg hlong, if_neg hfull,
        setFree_localInst, setFree_mboxes, ItcMailbox.create_mboxId, hcreate, setFree_heap, ne_eq,
        not_true_eq_false, if_false, htree]
      exact announce_returns h ht hfree hname fuel flags t

theorem itcDeleteMailboxZz_true (fuel : Nat) (s : ItcInstance σ) (tid : Nat) (mboxId : MboxId) :
    itcDeleteMailboxZz E fuel true s tid mboxId = itcDeleteMailbox E fuel s tid mboxId := by
  unfold itcDeleteMailboxZz itcDeleteMailbox
  simp only [not_true_eq_false, if_false]
  rfl

/-! ## What the other calls leave alone -/

/-- The same mailboxes have an rx queue, and `local_init` is not called again. -/
structure SameQueues (inst inst' : LocalInst) : Prop where
  my : inst'.myMboxIdInItccoord = inst.myMboxIdInItccoord
  mask : inst'.itccoordMask = inst.itccoordMask
  localMask : inst'.localMboxMask = inst.localMboxMask
  nr : inst'.nrLocalmbxDatas = inst.nrLocalmbxDatas
  allocated : inst'.isAllocated = inst.isAllocated
  rxq : ∀ i, (inst'.localmbxData i).rxq = none ↔ (inst.localmbxData i).rxq = none

namespace SameQueues

variable {inst inst' inst'' : LocalInst}

theorem refl (inst : LocalInst) : SameQueues inst inst :=
  ⟨rfl, rfl, rfl, rfl, rfl, fun _ => Iff.rfl⟩

theorem trans (h : SameQueues inst inst') (h' : SameQueues inst' inst'') :
    SameQueues inst inst'' where
  my := h'.my.trans h.my
  mask := h'.mask.trans h.mask
  localMask := h'.localMask.trans h.localMask
  nr := h'.nr.trans h.nr
  allocated := h'.allocated.trans h.allocated
  rxq i := (h'.rxq i).trans (h.rxq i)

theorem setRxq {i : Nat} {rxq rxq' : RxQueue} (hrxq : (inst.localmbxData i).rxq = some rxq) :
    SameQueues inst (inst.setRxq i rxq') := by
  refine ⟨rfl, rfl, rfl, rfl, rfl, fun j => ?_⟩
  simp only [LocalInst.setRxq, LocalInst.setData]
  split
  · rename_i hji
    rw [hji, hrxq]
    exact iff_of_false (Option.some_ne_none rxq') (Option.some_ne_none rxq)
  · exact Iff.rfl

end SameQueues

theorem localSend_sameQueues {mem : Bool} {inst inst' : LocalInst} {heap heap' : Heap ItcMessage}
    {message : Nat} {toMbox : MboxId} {rc : UInt32}
    (hsend : localSend mem inst heap message toMbox = .ok (rc, inst', heap')) :
    SameQueues inst inst' := by
  unfold localSend at hsend
  split at hsend
  · cases hsend
    exact .refl inst
  · split at hsend
    · cases hsend
      exact .refl inst
    · rename_i hrxq
      obtain ⟨out, -, hout⟩ := bind_eq_ok hsend
      cases hout
      exact .setRxq hrxq

theorem localReceive_sameQueues {inst inst' : LocalInst} {heap heap' : Heap ItcMessage}
    {mboxId : MboxId} {rc : UInt32} {message : Option Nat}
    (hreceive : localReceive inst heap mboxId = .ok (rc, message, inst', heap')) :
    SameQueues inst inst' := by
  unfold localReceive at hreceive
  split at hreceive
  · cases hreceive
    exact .refl inst
  · split at hreceive
    · cases hreceive
      exact .refl inst
    · rename_i hrxq
      obtain ⟨out, -, hout⟩ := bind_eq_ok hreceive
      cases hout
      exact .setRxq hrxq

/-- The slots are the same but for what is in the rx queues and the counters of it. -/
structure SameSlots (s s' : ItcInstance σ) : Prop where
  free : s'.freeMboxesQueue = s.freeMboxesQueue
  thread : s'.myThreadlocalMbox = s.myThreadlocalMbox
  tree : s'.localLocatingMboxTree = s.localLocatingMboxTree
  nr : s'.nrMboxes = s.nrMboxes
  my : s'.myMboxIdInItccoord = s.myMboxIdInItccoord
  mask : s'.itccoordMask = s.itccoordMask
  localMask : s'.localMboxMask = s.localMboxMask
  mboxes : ∀ i, s'.mboxes i = { s.mboxes i with rxqInfo := (s'.mboxes i).rxqInfo }
  queues : SameQueues s.localInst s'.localInst

namespace SameSlots

variable {s s' s'' : ItcInstance σ}

theorem refl (s : ItcInstance σ) : SameSlots s s :=
  ⟨rfl, rfl, rfl, rfl, rfl, rfl, rfl, fun _ => rfl, .refl _⟩

/-- Messages come and go. -/
theorem setHeap (s : ItcInstance σ) (heap : Heap ItcMessage) : SameSlots s (s.setHeap heap) :=
  ⟨rfl, rfl, rfl, rfl, rfl, rfl, rfl, fun _ => rfl, .refl _⟩

theorem setLocal {inst : LocalInst} (h : SameQueues s.localInst inst) (heap : Heap ItcMessage) :
    SameSlots s (s.setLocal inst heap) :=
  ⟨rfl, rfl, rfl, rfl, rfl, rfl, rfl, fun _ => rfl, h⟩

theorem setSysvmq (s : ItcInstance σ) (inst : SysvmqInstance) (k : σ) (heap : Heap ItcMessage) :
    SameSlots s (s.setSysvmq inst k heap) :=
  ⟨rfl, rfl, rfl, rfl, rfl, rfl, rfl, fun _ => rfl, .refl _⟩

theorem trans (h : SameSlots s s') (h' : SameSlots s' s'') : SameSlots s s'' where
  free := h'.free.trans h.free
  thread := h'.thread.trans h.thread
  tree := h'.tree.trans h.tree
  nr := h'.nr.trans h.nr
  my := h'.my.trans h.my
  mask := h'.mask.trans h.mask
  localMask := h'.localMask.trans h.localMask
  mboxes := by
    intro i
    rw [h'.mboxes i, h.mboxes i]
  queues := h.queues.trans h'.queues

theorem mboxId (h : SameSlots s s') (i : Nat) : (s'.mboxes i).mboxId = (s.mboxes i).mboxId := by
  rw [h.mboxes i]

theorem name (h : SameSlots s s') (i : Nat) : (s'.mboxes i).name = (s.mboxes i).name := by
  rw [h.mboxes i]

theorem mboxState (h : SameSlots s s') (i : Nat) :
    (s'.mboxes i).mboxState = (s.mboxes i).mboxState := by
  rw [h.mboxes i]

theorem setRxqInfo (s : ItcInstance σ) (i : Nat) (info : RxqInfo) :
    SameSlots s (s.setRxqInfo i info) := by
  refine ⟨rfl, rfl, rfl, rfl, rfl, rfl, rfl, fun j => ?_, .refl _⟩
  by_cases hji : j = i
  · rw [hji, setRxqInfo_mboxes_self]
  · rw [setRxqInfo_ne s info hji]

theorem notifyReceiver (s : ItcInstance σ) (o : Option Nat) :
    SameSlots s (notifyReceiver s o) := by
  cases o with
  | none => exact .refl s
  | some i =>
    simp only [ItcFramework.notifyReceiver]
    split
    · exact setRxqInfo s i _
    · exact .refl s

end SameSlots

theorem itcSend_sameSlots {s : ItcInstance σ} {fuel tid : Nat} {msg : Option Nat}
    {toMbox fromMbox : MboxId} {r : SendResult σ}
    (hsend : itcSend E fuel s tid msg toMbox fromMbox = .ok (some r)) : SameSlots s r.s := by
  rcases itcSend_changes hsend with hs | ⟨heap, -, hs | ⟨p, taken, s₁, htrans, hs⟩⟩
  · rw [hs]
    exact .refl s
  · rw [hs]
    exact .setHeap s heap
  · obtain ⟨rc, inst, heap₁, hlocal, hs₁⟩ := transSend_changes htrans
    have hinst := SameSlots.setLocal (s := s.setHeap heap) (localSend_sameQueues hlocal) heap₁
    have hsame : SameSlots s s₁ := by
      refine (SameSlots.setHeap s heap).trans ?_
      rcases hs₁ with rfl | ⟨sysvmqInst, k, heap₂, -, rfl⟩
      · exact hinst
      · exact hinst.trans (.setSysvmq _ sysvmqInst k heap₂)
    rcases hs with hs | hs
    · rw [hs]
      exact hsame
    · rw [hs]
      exact hsame.trans (.notifyReceiver s₁ _)

theorem itcFree_sameSlots {s s' : ItcInstance σ} {msg : Nat} (hfree : itcFree s msg = .ok s') :
    SameSlots s s' := by
  obtain ⟨out, -, hfree⟩ := bind_eq_ok hfree
  cases hfree
  exact .setHeap s _

theorem sendOrFree_sameSlots {s s' : ItcInstance σ} {fuel tid msg : Nat}
    {toMbox fromMbox : MboxId} {sent : Bool}
    (hsend : sendOrFree E fuel s tid msg toMbox fromMbox = .ok (some (sent, s'))) :
    SameSlots s s' := by
  obtain ⟨r, hcall, hs⟩ := sendOrFree_changes hsend
  have hsame := itcSend_sameSlots hcall
  rcases hs with ⟨-, rfl⟩ | ⟨-, hfree⟩
  · exact hsame
  · exact hsame.trans (itcFree_sameSlots hfree)

theorem notifyCoord_sameSlots {s s' : ItcInstance σ} {fuel tid : Nat} {msgno : UInt32}
    {mboxId : MboxId} {name : CString}
    (hcall : notifyCoord E fuel s tid msgno mboxId name = .ok (some s')) : SameSlots s s' := by
  rcases notifyCoord_changes hcall with rfl | ⟨m, msg, sent, hsend⟩
  · exact .refl s'
  · have halloc : SameSlots s (s.alloc m).2 := .setHeap s _
    exact halloc.trans (sendOrFree_sameSlots hsend)

theorem itcReceive_sameSlots {s s' : ItcInstance σ} {tid : Nat} {ret : Option Nat}
    (hcall : itcReceive s tid = .ok (some (ret, s'))) : SameSlots s s' := by
  rcases itcReceive_changes hcall with rfl | ⟨me, rc, message, inst, heap, info, hreceive, rfl⟩
  · exact .refl s'
  · have hlocal : SameSlots s (s.setLocal inst heap) :=
      .setLocal (localReceive_sameQueues hreceive) heap
    exact hlocal.trans (.setRxqInfo _ me info)

theorem itcGetFd_sameSlots {s s' : ItcInstance σ} {tid : Nat} (hcall : itcGetFd s tid = .ok s') :
    SameSlots s s' := by
  rcases itcGetFd_changes hcall with rfl | ⟨me, info, rfl⟩
  · exact .refl s'
  · exact .setRxqInfo s me info

/-! ## One call -/

inductive MailboxEvent where
  | createMailbox (tid : Nat) (name : CString) (flags : UInt32) (answers : CreateAnswers)
      (ret : MboxId)
  | deleteMailbox (tid : Nat) (mboxId : MboxId) (node ret : Bool)
  | other (a : ItcEvent)

/-- Neither a mailbox is created nor deleted. -/
def ItcEvent.IsOther : ItcEvent → Prop
  | .createMailbox .. | .deleteMailbox .. => False
  | _ => True

inductive MailboxStep (E : ItcEnv σ) : ItcInstance σ → MailboxEvent → ItcInstance σ → Prop where
  | createMailbox {s s' : ItcInstance σ} {fuel tid : Nat} {name : CString} {flags : UInt32}
      {answers : CreateAnswers} {ret : MboxId}
      (call : itcCreateMailboxZz E fuel answers s tid name flags = .ok (some (ret, s'))) :
      MailboxStep E s (.createMailbox tid name flags answers ret) s'
  | deleteMailbox {s s' : ItcInstance σ} {fuel tid : Nat} {mboxId : MboxId} {node ret : Bool}
      (call : itcDeleteMailboxZz E fuel node s tid mboxId = .ok (some (ret, s'))) :
      MailboxStep E s (.deleteMailbox tid mboxId node ret) s'
  | other {s s' : ItcInstance σ} {a : ItcEvent} (hother : a.IsOther) (call : ItcStep E s a s') :
      MailboxStep E s (.other a) s'

theorem ItcStep.sameSlots {s s' : ItcInstance σ} {a : ItcEvent} (hstep : ItcStep E s a s')
    (hother : a.IsOther) : SameSlots s s' := by
  cases hstep with
  | alloc _ => exact .setHeap s _
  | write _ => exact .setHeap s _
  | free call => exact itcFree_sameSlots call
  | createMailbox _ => exact hother.elim
  | send call => exact itcSend_sameSlots call
  | receive call => exact itcReceive_sameSlots call
  | getFd call => exact itcGetFd_sameSlots call
  | deleteMailbox _ => exact hother.elim

/-- The slot as `itc_create_mailbox_zz` has it when the transports have been asked. -/
def ItcInstance.prepare (s : ItcInstance σ) (tid i : Nat) (rest : List Nat) (name : CString)
    (flags : UInt32) (inst : LocalInst) : ItcInstance σ :=
  ((s.setFree rest).setMbox i ((s.mboxes i).create tid name flags)).setLocal inst s.heap

/-- What `itc_create_mailbox_zz` can have done. -/
inductive CreateCase (E : ItcEnv σ) (s : ItcInstance σ) (tid : Nat) (name : CString)
    (flags : UInt32) (answers : CreateAnswers) : MboxId → ItcInstance σ → Prop where
  | refused (hno : s.myThreadlocalMbox tid ≠ none ∨ s.freeMboxesQueue = []) :
      CreateCase E s tid name flags answers ITC_NO_MBOX_ID s
  | noRc (ht : s.myThreadlocalMbox tid = none) (hrc : answers.rc = false) :
      CreateCase E s tid name flags answers 0 s
  | tooLong {i : Nat} {rest : List Nat} (ht : s.myThreadlocalMbox tid = none)
      (hfree : s.freeMboxesQueue = i :: rest) (hlong : ITC_MAX_NAME_LENGTH < name.strlen) :
      CreateCase E s tid name flags answers ITC_NO_MBOX_ID (s.setFree rest)
  | failed {i : Nat} {rest : List Nat} {rc : UInt32} {inst : LocalInst}
      (ht : s.myThreadlocalMbox tid = none) (hrc : answers.rc = true)
      (hfree : s.freeMboxesQueue = i :: rest) (hname : name.strlen < ITC_MAX_NAME_LENGTH)
      (hlocal : localCreateMboxMem answers.rxq s.localInst (s.mboxes i).mboxId flags = (rc, inst))
      (hfailed : rc ≠ ITC_OK ∨ answers.setspecific = false) :
      CreateCase E s tid name flags answers ITC_NO_MBOX_ID (s.prepare tid i rest name flags inst)
  | created {i : Nat} {rest : List Nat} {inst : LocalInst} {s' : ItcInstance σ}
      (ht : s.myThreadlocalMbox tid = none) (hrc : answers.rc = true)
      (hfree : s.freeMboxesQueue = i :: rest) (hname : name.strlen < ITC_MAX_NAME_LENGTH)
      (hlocal : localCreateMboxMem answers.rxq s.localInst (s.mboxes i).mboxId flags =
        (ITC_OK, inst))
      (hsame : SameSlots ((insertMboxToTreeMem E answers.tsearch
        (s.prepare tid i rest name flags inst) i).setThread tid (some i)) s') :
      CreateCase E s tid name flags answers (s.mboxes i).mboxId s'

theorem createMailbox_cases {s s' : ItcInstance σ} {fuel tid : Nat} {name : CString}
    {flags : UInt32} {answers : CreateAnswers} {ret : MboxId}
    (hcall : itcCreateMailboxZz E fuel answers s tid name flags = .ok (some (ret, s'))) :
    CreateCase E s tid name flags answers ret s' := by
  unfold itcCreateMailboxZz at hcall
  split at hcall
  · rename_i me ht
    cases hcall
    exact .refused (.inl (by rw [ht]; exact Option.some_ne_none me))
  · rename_i ht
    split at hcall
    · rename_i hrc
      cases hcall
      exact .noRc ht (Bool.eq_false_of_not_eq_true hrc)
    · rename_i hrc
      replace hrc := not_not.mp hrc
      split at hcall
      · rename_i hfree
        cases hcall
        exact .refused (.inr hfree)
      · rename_i i rest hfree
        simp only at hcall
        split at hcall
        · rename_i hlong
          cases hcall
          exact .tooLong ht hfree hlong
        · split at hcall
          · cases hcall
          · rename_i hfits
            have hname : name.strlen < ITC_MAX_NAME_LENGTH := by omega
            generalize hlocal : localCreateMboxMem answers.rxq (s.setFree rest).localInst
              ((s.mboxes i).create tid name flags).mboxId flags = out at hcall
            obtain ⟨rc, inst⟩ := out
            simp only [setFree_mboxes, hlocal] at hcall
            split at hcall
            · rename_i hfailed
              cases hcall
              exact .failed ht hrc hfree hname hlocal (.inl hfailed)
            · rename_i hok
              rw [not_not.mp hok] at hlocal
              split at hcall
              · rename_i hset
                cases hcall
                exact .failed ht hrc hfree hname hlocal (.inr (Bool.eq_false_of_not_eq_true hset))
              · obtain ⟨s₁, hnotify, hcall⟩ := bind_some_eq_ok hcall rfl
                cases hcall
                exact .created ht hrc hfree hname hlocal (notifyCoord_sameSlots hnotify)

/-- The mailbox as `itc_delete_mailbox_zz` has it before it notifies the coordinator. -/
def ItcInstance.retire (E : ItcEnv σ) (s : ItcInstance σ) (me : Nat) : ItcInstance σ :=
  (removeMboxFromTree E s me).setMbox me (s.mboxes me).close

/-- What `itc_delete_mailbox_zz` can have done. -/
inductive DeleteCase (E : ItcEnv σ) (s : ItcInstance σ) (tid : Nat) (mboxId : MboxId) (node : Bool) :
    Bool → ItcInstance σ → Prop where
  | refused (hno : ∀ me, s.myThreadlocalMbox tid = some me → mboxId ≠ (s.mboxes me).mboxId) :
      DeleteCase E s tid mboxId node false s
  | failed {me : Nat} {s₁ : ItcInstance σ} {fuel : Nat} {rc : UInt32} {inst : LocalInst}
      {heap : Heap ItcMessage} (ht : s.myThreadlocalMbox tid = some me)
      (hid : mboxId = (s.mboxes me).mboxId) (hsame : SameSlots (s.retire E me) s₁)
      (hlocal : localDeleteMbox fuel s₁.localInst s₁.heap mboxId = .ok (some (rc, inst, heap))) :
      DeleteCase E s tid mboxId node false (s₁.setLocal inst heap)
  | nodeless {me : Nat} {s₁ : ItcInstance σ} {fuel : Nat} {inst : LocalInst}
      {heap : Heap ItcMessage} (ht : s.myThreadlocalMbox tid = some me)
      (hid : mboxId = (s.mboxes me).mboxId) (hsame : SameSlots (s.retire E me) s₁)
      (hlocal : localDeleteMbox fuel s₁.localInst s₁.heap mboxId =
        .ok (some (ITC_OK, inst, heap))) (hnode : node = false) :
      DeleteCase E s tid mboxId node false
        ((s₁.setLocal inst heap).setMbox me (s₁.mboxes me).clear)
  | deleted {me : Nat} {s₁ : ItcInstance σ} {fuel : Nat} {inst : LocalInst}
      {heap : Heap ItcMessage} (ht : s.myThreadlocalMbox tid = some me)
      (hid : mboxId = (s.mboxes me).mboxId) (hsame : SameSlots (s.retire E me) s₁)
      (hlocal : localDeleteMbox fuel s₁.localInst s₁.heap mboxId =
        .ok (some (ITC_OK, inst, heap))) :
      DeleteCase E s tid mboxId node true (s₁.giveBack tid me inst heap)

theorem deleteMailbox_cases {s s' : ItcInstance σ} {fuel tid : Nat} {mboxId : MboxId}
    {node ret : Bool}
    (hcall : itcDeleteMailboxZz E fuel node s tid mboxId = .ok (some (ret, s'))) :
    DeleteCase E s tid mboxId node ret s' := by
  unfold itcDeleteMailboxZz at hcall
  split at hcall
  · rename_i ht
    cases hcall
    refine .refused fun me hme => ?_
    rw [ht] at hme
    cases hme
  · rename_i me ht
    split at hcall
    · rename_i hid
      cases hcall
      refine .refused fun me' hme => ?_
      rw [ht] at hme
      cases hme
      exact hid
    · rename_i hid
      split at hcall
      · cases hcall
      · obtain ⟨s₁, hnotify, hcall⟩ := bind_some_eq_ok hcall rfl
        obtain ⟨⟨rc, inst, heap⟩, hlocal, hcall⟩ := bind_some_eq_ok hcall rfl
        have hclose : (removeMboxFromTree E s me).mboxes me = s.mboxes me := by
          obtain ⟨t, htree⟩ := removeMboxFromTree_eq E s me
          rw [htree, setTree_mboxes]
        have hsame : SameSlots (s.retire E me) s₁ := by
          have hnotified := notifyCoord_sameSlots hnotify
          rwa [hclose] at hnotified
        simp only at hcall
        split at hcall
        · cases hcall
          exact .failed ht (not_not.mp hid) hsame hlocal
        · rename_i hrc
          rw [not_not.mp hrc] at hlocal
          split at hcall
          · rename_i hnode
            cases hcall
            exact .nodeless ht (not_not.mp hid) hsame hlocal
              (Bool.eq_false_of_not_eq_true hnode)
          · cases hcall
            exact .deleted ht (not_not.mp hid) hsame hlocal

/-! ## Conservation -/

/-- **Every slot is free once, or in use and owned by one thread.** -/
def SlotsConserved (s : ItcInstance σ) : Prop :=
  ∀ i, i < s.nrMboxes.toNat →
    (s.freeMboxesQueue.count i = 1 ∧ (s.mboxes i).mboxState = .unused ∧
      ∀ tid, s.myThreadlocalMbox tid ≠ some i) ∨
    (i ∉ s.freeMboxesQueue ∧ (s.mboxes i).mboxState = .inuse ∧
      ∃! tid, s.myThreadlocalMbox tid = some i)

/-- What a call that creates a mailbox has to do to the slots: nothing when it fails, and to store
the whole name when it succeeds. -/
def CreateKept (s : ItcInstance σ) (s' : ItcInstance σ) : MailboxEvent → Prop
  | .createMailbox tid name _ _ ret =>
      (ret = ITC_NO_MBOX_ID → s'.freeMboxesQueue = s.freeMboxesQueue ∧ s'.mboxes = s.mboxes) ∧
      (ret ≠ ITC_NO_MBOX_ID → ∃ i, i < s'.nrMboxes.toNat ∧ s'.myThreadlocalMbox tid = some i ∧
        (s'.mboxes i).mboxId = ret ∧ (s'.mboxes i).name = name ∧
        name.strlen + 1 ≤ ITC_MAX_NAME_LENGTH ∧ itcGetName s' tid ret = some name)
  | _ => True

/-- The calls that lose no slot. Messages in between are their callers' own. -/
def SlotAnswered (s : ItcInstance σ) : MailboxEvent → Prop
  | .createMailbox tid name _ answers _ =>
      s.myThreadlocalMbox tid = none → answers.rc = true ∧ (s.freeMboxesQueue ≠ [] →
        name.strlen < ITC_MAX_NAME_LENGTH ∧ answers.rxq = true ∧ answers.setspecific = true)
  | .deleteMailbox tid mboxId node _ =>
      (∃ me, s.myThreadlocalMbox tid = some me ∧ (s.mboxes me).mboxId = mboxId) → node = true
  | .other (.write msg _) => s.Held msg
  | .other (.free msg) => s.Held msg
  | .other (.send _ msg _ _ _) => ∀ d, msg = some d → s.Held d.1
  | .other _ => True

/-- A slot that is not free is in use and has an owner. -/
def SlotsCovered (s : ItcInstance σ) : Prop :=
  ∀ i, i < s.nrMboxes.toNat → i ∉ s.freeMboxesQueue →
    (s.mboxes i).mboxState = .inuse ∧ ∃ tid, s.myThreadlocalMbox tid = some i

theorem SlotsCovered.congr {s s' : ItcInstance σ} (h : SlotsCovered s) (hsame : SameSlots s s') :
    SlotsCovered s' := by
  intro i hi hfree
  rw [hsame.nr] at hi
  rw [hsame.free] at hfree
  rw [hsame.mboxState, hsame.thread]
  exact h i hi hfree

/-- The invariant of the process gives the rest. -/
theorem SlotsCovered.conserved {s : ItcInstance σ} {q : Queues} (h : SlotsCovered s)
    (hinv : s.Inv q) : SlotsConserved s := by
  intro i hi
  by_cases hfree : i ∈ s.freeMboxesQueue
  · obtain ⟨-, hq⟩ := hinv.slots.free i hfree
    refine .inl ⟨List.count_eq_one_of_mem hinv.slots.freeNodup hfree, ?_, fun tid ht => ?_⟩
    · cases hstate : (s.mboxes i).mboxState with
      | unused => rfl
      | inuse => exact absurd hq (hinv.slots.inuse i hi hstate)
    · exact hinv.slots.thread tid i ht hq
  · obtain ⟨hstate, tid, ht⟩ := h i hi hfree
    exact .inr ⟨hfree, hstate, tid, ht, fun tid' ht' => hinv.slots.threadInj tid' tid i ht' ht⟩

/-- **The invariant of the runs.** -/
def SlotsInv (s : ItcInstance σ) : Prop := (∃ q, s.Inv q) ∧ SlotsCovered s

theorem SlotsInv.init (proc : Nat) {nrMboxes : UInt32} (hpos : nrMboxes ≠ 0)
    (hlt : nrMboxes.toNat < 2 ^ mboxBits) (maxMsgsize : Nat) (kernel : σ) :
    SlotsInv (ItcInstance.init proc nrMboxes maxMsgsize kernel) := by
  refine ⟨⟨_, .init proc hpos hlt maxMsgsize kernel⟩, fun i hi hfree => ?_⟩
  exact absurd (List.mem_range.mpr hi) hfree

section Steps

variable {s s' : ItcInstance σ} {fuel tid : Nat}

/-- A call that has its `rc` and takes no slot changes nothing. -/
theorem createMailbox_refused {name : CString} {flags : UInt32} {answers : CreateAnswers}
    (hrc : s.myThreadlocalMbox tid = none → answers.rc = true)
    (hno : ¬ (s.myThreadlocalMbox tid = none ∧ s.freeMboxesQueue ≠ [])) :
    itcCreateMailboxZz E fuel answers s tid name flags = .ok (some (ITC_NO_MBOX_ID, s)) := by
  unfold itcCreateMailboxZz
  cases ht : s.myThreadlocalMbox tid with
  | some me => rfl
  | none =>
    cases hfree : s.freeMboxesQueue with
    | nil => simp only [hrc ht, not_true_eq_false, if_false]
    | cons i rest => exact absurd ⟨ht, by rw [hfree]; exact List.cons_ne_nil i rest⟩ hno

theorem deleteMailbox_refused {mboxId : MboxId} {node : Bool}
    (hno : ¬ ∃ me, s.myThreadlocalMbox tid = some me ∧ (s.mboxes me).mboxId = mboxId) :
    itcDeleteMailboxZz E fuel node s tid mboxId = .ok (some (false, s)) := by
  unfold itcDeleteMailboxZz
  cases ht : s.myThreadlocalMbox tid with
  | none => rfl
  | some me =>
    have hid : mboxId ≠ (s.mboxes me).mboxId := fun heq => hno ⟨me, ht, heq.symm⟩
    simp only [if_pos hid]

theorem SlotsInv.createMailbox {name : CString} {flags : UInt32} {answers : CreateAnswers}
    {ret : MboxId} (h : SlotsInv s)
    (hanswered : SlotAnswered s (.createMailbox tid name flags answers ret))
    (hcall : itcCreateMailboxZz E fuel answers s tid name flags = .ok (some (ret, s'))) :
    SlotsInv s' ∧ CreateKept s s' (.createMailbox tid name flags answers ret) := by
  by_cases htakes : s.myThreadlocalMbox tid = none ∧ s.freeMboxesQueue ≠ []
  · obtain ⟨hrc, htaken⟩ := hanswered htakes.1
    obtain ⟨hname, hrxq, hset⟩ := htaken htakes.2
    obtain ⟨⟨q, hinv⟩, hcovered⟩ := h
    have hcase := createMailbox_cases hcall
    have hcreated :=
      (itcCreateMailboxZz_returns hinv hname hrc hrxq hset fuel tid flags).of_eq hcall
    cases hcreated with
    | failed =>
      exact ⟨⟨⟨q, hinv⟩, hcovered⟩, fun _ => ⟨rfl, rfl⟩, fun hne => absurd rfl hne⟩
    | @created i rest s₁ ht hfree hinv' hheap hmboxes hnr hthread =>
      have hi := (hinv.slots.free i (by rw [hfree]; exact List.mem_cons_self)).1
      have hne := hinv.layout.id_ne hi
      have hself : s'.mboxes i = (s.mboxes i).create tid name flags := by
        rw [hmboxes]
        exact if_pos rfl
      have htid : s'.myThreadlocalMbox tid = some i := by
        rw [hthread]
        exact if_pos rfl
      have hrest : s'.freeMboxesQueue = rest := by
        generalize hret : (s.mboxes i).mboxId = ret at hcase
        cases hcase with
        | refused _ => exact absurd hret hne
        | noRc _ hno =>
          rw [hrc] at hno
          cases hno
        | tooLong _ _ _ => exact absurd hret hne
        | failed _ _ _ _ _ _ => exact absurd hret hne
        | @created i' rest' inst _ _ _ hfree' _ _ hsame =>
          rw [hfree] at hfree'
          cases hfree'
          obtain ⟨t, htree⟩ := insertMboxToTreeMem_eq E answers.tsearch
            (s.prepare tid i rest name flags inst) i
          rw [htree] at hsame
          exact hsame.free
      refine ⟨⟨⟨_, hinv'⟩, fun j hj hjfree => ?_⟩, fun heq => absurd heq hne, fun _ => ?_⟩
      · by_cases hji : j = i
        · rw [hji, hself]
          exact ⟨rfl, tid, htid⟩
        · rw [hnr] at hj
          have hjold : j ∉ s.freeMboxesQueue := by
            rw [hfree, List.mem_cons, not_or]
            exact ⟨hji, fun hmem => hjfree (hrest ▸ hmem)⟩
          obtain ⟨hstate, u, hu⟩ := hcovered j hj hjold
          refine ⟨?_, u, ?_⟩
          · rw [hmboxes]
            simp only [if_neg hji]
            exact hstate
          · have hut : u ≠ tid := by
              rintro rfl
              rw [ht] at hu
              cases hu
            rw [hthread]
            simp only [if_neg hut]
            exact hu
      · have hid : (s'.mboxes i).mboxId = (s.mboxes i).mboxId := by
          rw [hself, ItcMailbox.create_mboxId]
        have hstored : (s'.mboxes i).name = name := by rw [hself, ItcMailbox.create_name]
        refine ⟨i, by rw [hnr]; exact hi, htid, hid, hstored, hname, ?_⟩
        simp only [itcGetName, htid, hid, ne_eq, not_true_eq_false, if_false, hstored]
  · rw [createMailbox_refused (fun ht => (hanswered ht).1) htakes] at hcall
    cases hcall
    exact ⟨h, fun _ => ⟨rfl, rfl⟩, fun hne => absurd rfl hne⟩

theorem SlotsInv.deleteMailbox {mboxId : MboxId} {node ret : Bool} (h : SlotsInv s)
    (hanswered : SlotAnswered s (.deleteMailbox tid mboxId node ret))
    (hcall : itcDeleteMailboxZz E fuel node s tid mboxId = .ok (some (ret, s'))) :
    SlotsInv s' := by
  by_cases hmy : ∃ me, s.myThreadlocalMbox tid = some me ∧ (s.mboxes me).mboxId = mboxId
  · obtain rfl := hanswered hmy
    obtain ⟨⟨q, hinv⟩, hcovered⟩ := h
    have hcase := deleteMailbox_cases hcall
    rw [itcDeleteMailboxZz_true] at hcall
    have hdeleted := (itcDeleteMailbox_returns hinv fuel tid mboxId).of_eq hcall
    cases hdeleted with
    | failed _ =>
      exact ⟨⟨q, hinv⟩, hcovered⟩
    | @deleted me l s₁ ht hid hq hinv' hfreed hheap hmboxes hnr hthread =>
      have hback : s'.freeMboxesQueue = s.freeMboxesQueue ++ [me] := by
        cases hcase with
        | @deleted me' s₂ fuel inst heap ht' _ hsame =>
          rw [ht] at ht'
          cases ht'
          obtain ⟨t, htree⟩ := removeMboxFromTree_eq E s me
          rw [retire, htree] at hsame
          rw [giveBack, setThread_freeMboxesQueue, setFree_freeMboxesQueue, hsame.free]
          rfl
      refine ⟨⟨_, hinv'⟩, fun j hj hjfree => ?_⟩
      rw [hback, List.mem_append, List.mem_singleton, not_or] at hjfree
      rw [hnr] at hj
      obtain ⟨hstate, u, hu⟩ := hcovered j hj hjfree.1
      refine ⟨?_, u, ?_⟩
      · rw [hmboxes]
        simp only [if_neg hjfree.2]
        exact hstate
      · have hut : u ≠ tid := by
          rintro rfl
          rw [ht] at hu
          exact hjfree.2 (Option.some.inj hu).symm
        rw [hthread]
        simp only [if_neg hut]
        exact hu
  · rw [deleteMailbox_refused hmy] at hcall
    cases hcall
    exact h

/-- The calls on messages keep the invariant of the process. -/
theorem ItcInstance.Inv.other {q : Queues} {a : ItcEvent} (h : s.Inv q)
    (hanswered : SlotAnswered s (.other a)) (hother : a.IsOther) (hstep : ItcStep E s a s') :
    ∃ q', s'.Inv q' := by
  cases hstep with
  | alloc call => exact ⟨q, h.ofHeap (h.messages.alloc _) h.layout.sysvmqInst⟩
  | write call =>
    obtain ⟨m, hm⟩ := hanswered
    exact ⟨q, h.ofHeld hm (Heap.write_frame call)⟩
  | free call =>
    obtain ⟨m, hm⟩ := hanswered
    obtain ⟨heap', rfl, hframe⟩ := itcFree_ok hm call
    exact ⟨q, h.ofHeld hm hframe⟩
  | createMailbox _ => exact hother.elim
  | @send fuel tid msg toMbox fromMbox r call =>
    cases msg with
    | none =>
      rw [itcSend_null] at call
      cases call
      exact ⟨q, h⟩
    | some p =>
      obtain ⟨m, hm⟩ : s.Held p := hanswered _ rfl
      cases (itcSend_returns h hm fuel tid _ fromMbox).of_eq call with
      | rejected _ => exact ⟨q, h⟩
      | host _ hhost => exact (hhost.inv h hm).1
  | @receive _ tid ret call =>
    have hreceived := (itcReceive_returns h tid).of_eq call
    cases hreceived with
    | nothing _ hinv _ =>
      exact ⟨q, hinv⟩
    | message _ _ _ hinv _ =>
      exact ⟨_, hinv⟩
  | getFd call => exact ⟨q, (itcGetFd_inv h call).1⟩
  | deleteMailbox _ => exact hother.elim

/-- **An answered call conserves the slots.** -/
theorem SlotsInv.step {a : MailboxEvent} (h : SlotsInv s) (hanswered : SlotAnswered s a)
    (hstep : MailboxStep E s a s') : SlotsInv s' ∧ CreateKept s s' a := by
  cases hstep with
  | createMailbox call => exact h.createMailbox hanswered call
  | deleteMailbox call => exact ⟨h.deleteMailbox hanswered call, trivial⟩
  | other hother call =>
    obtain ⟨⟨q, hinv⟩, hcovered⟩ := h
    exact ⟨⟨hinv.other hanswered hother call, hcovered.congr (call.sameSlots hother)⟩, trivial⟩

end Steps

/-- **Slot conservation.** In every run in which no create with too long a name takes a slot and
the system answers, each slot is free once or in use by one thread, a create that fails changes no
slot, and one that succeeds stores the name. -/
theorem mailbox_slots_conserved (E : ItcEnv σ) (proc : Nat) (nrMboxes : UInt32)
    (hpos : nrMboxes ≠ 0) (hlt : nrMboxes.toNat < 2 ^ mboxBits) (maxMsgsize : Nat) (kernel : σ)
    (as : List MailboxEvent) (s : ItcInstance σ)
    (hrun : Run (Guarded (MailboxStep E) SlotAnswered) (.init proc nrMboxes maxMsgsize kernel) as s) :
    SlotsConserved s ∧
      ∀ a s', SlotAnswered s a → MailboxStep E s a s' → CreateKept s s' a := by
  have h : SlotsInv s := hrun.invariant_of_guard
    (fun s a s' h hanswered hstep => (h.step hanswered hstep).1)
    (.init proc hpos hlt maxMsgsize kernel)
  obtain ⟨⟨q, hinv⟩, hcovered⟩ := h
  refine ⟨hcovered.conserved hinv, fun a s' hanswered hstep => ?_⟩
  exact (SlotsInv.step ⟨⟨q, hinv⟩, hcovered⟩ hanswered hstep).2

/-- Two threads create mailboxes, and the first deletes its own. -/
theorem mailbox_slots_conserved_pair :
    ∃ (as : List MailboxEvent) (s : ItcInstance Unit), as.length = 3 ∧
      s.freeMboxesQueue = [2, 0] ∧ SlotsConserved s := by
  let s₀ : ItcInstance Unit := .init 1 3 0 ()
  let c₁ := returned (0, s₀) (itcCreateMailboxZz ItcEnv.willing 0 .all s₀ 0 .empty 0)
  let c₂ := returned (0, s₀) (itcCreateMailboxZz ItcEnv.willing 0 .all c₁.2 1 .empty 0)
  let d₃ := returned (false, s₀) (itcDeleteMailboxZz ItcEnv.willing 1 true c₂.2 0 c₁.1)
  let e₁ : MailboxEvent := .createMailbox 0 .empty 0 .all c₁.1
  let e₂ : MailboxEvent := .createMailbox 1 .empty 0 .all c₂.1
  let e₃ : MailboxEvent := .deleteMailbox 0 c₁.1 true d₃.1
  have hempty : CString.empty.strlen < ITC_MAX_NAME_LENGTH := by decide
  have hcall₁ : itcCreateMailboxZz ItcEnv.willing 0 .all s₀ 0 .empty 0 =
      .ok (some (c₁.1, c₁.2)) := returned_eq (by decide +kernel)
  have hcall₂ : itcCreateMailboxZz ItcEnv.willing 0 .all c₁.2 1 .empty 0 =
      .ok (some (c₂.1, c₂.2)) := returned_eq (by decide +kernel)
  have hcall₃ : itcDeleteMailboxZz ItcEnv.willing 1 true c₂.2 0 c₁.1 =
      .ok (some (d₃.1, d₃.2)) := returned_eq (by decide +kernel)
  have hfree : d₃.2.freeMboxesQueue = [2, 0] := by decide +kernel
  have hstep₁ : Guarded (MailboxStep ItcEnv.willing) SlotAnswered s₀ e₁ c₁.2 :=
    ⟨fun _ => ⟨rfl, fun _ => ⟨hempty, rfl, rfl⟩⟩, .createMailbox hcall₁⟩
  have hstep₂ : Guarded (MailboxStep ItcEnv.willing) SlotAnswered c₁.2 e₂ c₂.2 :=
    ⟨fun _ => ⟨rfl, fun _ => ⟨hempty, rfl, rfl⟩⟩, .createMailbox hcall₂⟩
  have hstep₃ : Guarded (MailboxStep ItcEnv.willing) SlotAnswered c₂.2 e₃ d₃.2 :=
    ⟨fun _ => rfl, .deleteMailbox hcall₃⟩
  have h := mailbox_slots_conserved ItcEnv.willing 1 3 (by decide) (by decide) 0 () _ _
    (.cons hstep₁ (.cons hstep₂ (.cons hstep₃ (.nil _))))
  exact ⟨[e₁, e₂, e₃], _, rfl, hfree, h.1⟩

/-- A name of 256 bytes. -/
def longName : CString :=
  ⟨List.replicate 256 65, fun h => absurd (List.eq_of_mem_replicate h) (by decide)⟩

/-- The slot taken for a name that is too long is in no use and never free again. -/
theorem mailbox_slot_lost :
    ∃ (as : List MailboxEvent) (s : ItcInstance Unit),
      Run (MailboxStep ItcEnv.willing) (.init 1 3 0 ()) as s ∧
      as = [.createMailbox 0 longName 0 .all ITC_NO_MBOX_ID] ∧
      s.freeMboxesQueue = [1, 2] ∧ ¬ SlotsConserved s := by
  obtain ⟨⟨ret, s⟩, hcall, hanswer⟩ := answer_eq (b := (ITC_NO_MBOX_ID, [1, 2], MboxState.unused, 3))
    (f := fun r : MboxId × ItcInstance Unit =>
      (r.1, r.2.freeMboxesQueue, (r.2.mboxes 0).mboxState, r.2.nrMboxes.toNat))
    (by decide +kernel : (itcCreateMailboxZz ItcEnv.willing 0 .all (.init 1 3 0 ()) 0 longName
      0).map (Option.map _) = .ok (some _))
  simp only [Prod.mk.injEq] at hanswer
  obtain ⟨rfl, hfree, hstate, hnr⟩ := hanswer
  refine ⟨_, s, .cons (.createMailbox hcall) (.nil _), rfl, hfree, fun h => ?_⟩
  rcases h 0 (by omega) with ⟨hcount, -⟩ | ⟨-, hinuse, -⟩
  · rw [hfree] at hcount
    cases hcount
  · rw [hstate] at hinuse
    cases hinuse

end ItcFramework
