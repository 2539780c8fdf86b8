import ItcFramework.Coord.IncomingRequest
import ItcFramework.Itc.HostRuns

/-!
# What the calls of a process tell the coordinator

`itc_create_mailbox_zz` and `itc_delete_mailbox_zz` send a notification to the coordinator after,
and before, the mailbox is in use.

* `HasRequest` — a message that the rx thread passes on and from which the coordinator reads a
  request.
* `notifyCoord_sends` — when the coordinator runs the notification does not fail: its text is the
  last in the queue of the coordinator's process.
* `ItcStep.tells` — what a call puts into that queue, and what becomes of the mailboxes in use.
* `ItcStep.coordinator`, `relay_queued`, `itcReceive_first_of_some` — what becomes of the mail of
  the coordinator when `main` does something else, when the rx thread passes a message on, and when
  `main` receives one.
-/

set_option autoImplicit false

namespace ItcFramework

open ByteImage HeapModel ItcInstance Coordinator

variable {E : ItcEnv KernelQueues} {s s' : ItcInstance KernelQueues} {q : Queues} {M : Nat}

/-- `itccoord_mbox_id`. -/
def coordMboxId : MboxId := (1 <<< ITC_COORD_SHIFT) ||| 1

/-! ## Messages that carry requests -/

/-- The rx thread passes the message on, and the coordinator reads `r` from it. -/
structure HasRequest (e : Endian) (m : ItcMessage) (r : Request) : Prop where
  reads : readRequest e m = .ok r
  passes : m.Passes

/-- Sender and receiver do not matter. -/
theorem HasRequest.stamp {e : Endian} {m : ItcMessage} {r : Request} (h : HasRequest e m r)
    (myMbox toMbox : MboxId) : HasRequest e (m.stamp myMbox toMbox) r := ⟨h.reads, h.passes⟩

theorem readRequest_add {e : Endian} {a : Allocator} {mboxId : MboxId} {name : CString}
    {m : ItcMessage} (h : idNameMsg e a ITC_NOTIFY_COORD_ADD_MBOX mboxId name = .ok m) :
    readRequest e m = .ok (.addMbox mboxId name) := by
  obtain ⟨hmsgno, hid, hname⟩ := idNameMsg_reads h
  simp only [readRequest, hmsgno, bind, Except.bind, if_true, hid, hname]
  rfl

theorem readRequest_rmv {e : Endian} {a : Allocator} {mboxId : MboxId} {name : CString}
    {m : ItcMessage} (h : idNameMsg e a ITC_NOTIFY_COORD_RMV_MBOX mboxId name = .ok m) :
    readRequest e m = .ok (.rmvMbox mboxId name) := by
  obtain ⟨hmsgno, hid, hname⟩ := idNameMsg_reads h
  have hne : ITC_NOTIFY_COORD_RMV_MBOX ≠ ITC_NOTIFY_COORD_ADD_MBOX := by decide
  simp only [readRequest, hmsgno, bind, Except.bind, if_neg hne, if_true, hid, hname]
  rfl

/-- A user's message has the length that its header says. -/
theorem UserMessage.body_length (u : UserMessage) : u.msg.body.length = u.msg.size.toNat + 1 := by
  have hlen := image_length_of_wellFormed .little u.wellFormed
  rw [ItcMessage.image_length] at hlen
  omega

theorem idNameMsg_passes {e : Endian} {a : Allocator} {msgno : UInt32} {mboxId : MboxId}
    {name : CString} {m : ItcMessage} (h : idNameMsg e a msgno mboxId name = .ok m) :
    m.Passes := by
  obtain ⟨-, u, rfl, hbody⟩ := idNameMsg_made h
  have hlen := u.body_length
  rw [hbody] at hlen
  simp only [List.length_append, word_length, List.length_singleton] at hlen
  rw [ItcMessage.Passes]
  omega

/-! ## Notifying -/

/-- The sysvmq transport accepts messages for a process that is running. -/
theorem sysvmqAccepts_running (hE : E.kernel = limitKernel M) {toMbox : MboxId}
    (hv : ValidProc toMbox) (hrunning : (s.kernel (procOf toMbox)).isSome) :
    s.SysvmqAccepts E toMbox := by
  refine ⟨hv, ?_⟩
  rw [contact]
  split
  · rw [queueOf, hE]
    simp only [limitKernel, Option.bind_some, if_pos hrunning]
    exact Option.some_ne_none _
  · exact Option.some_ne_none _

/-- A send to another process that is running returns `true`. -/
theorem itcSend_running {fuel tid me p : Nat} {u : UserMessage} {toMbox fromMbox : MboxId}
    {r : SendResult KernelQueues} (hE : E.kernel = limitKernel M) (h : s.Inv q)
    (hv : ValidProc toMbox) (hrunning : (s.kernel (procOf toMbox)).isSome)
    (hremote : toMbox &&& ITC_COORD_MASK ≠ s.myMboxIdInItccoord)
    (ht : s.myThreadlocalMbox tid = some me)
    (hfrom : fromMbox = ITC_MY_MBOX_ID ∨ fromMbox = (s.mboxes me).mboxId)
    (hu : s.heap.cells p = some u.msg)
    (hsend : itcSend E fuel s tid (some p) toMbox fromMbox = .ok (some r)) : r.ret = true := by
  have hnone : findMbox s toMbox = none := if_neg (by rw [h.layout.mask]; exact hremote)
  have hme := (h.slots.queue me (h.slots.thread tid me ht)).1
  have hother : toMbox ≠ (s.mboxes me).mboxId := by
    rintro rfl
    rw [h.layout.ids me hme] at hremote
    exact hremote (mboxId_and_coordMask h.layout.my (Nat.lt_trans hme h.layout.nrLt))
  cases (itcSend_returns h hu fuel tid toMbox fromMbox).of_eq hsend with
  | rejected hno => exact absurd ⟨me, ht, rfl, hother, hfrom⟩ (hno _)
  | host _ hhost =>
    cases hhost with
    | inactive hinactive =>
      obtain ⟨i, hi, -⟩ := hinactive
      rw [hnone] at hi
      cases hi
    | queued => rfl
    | refused _ _ hsysvmq => exact absurd (sysvmqAccepts_running hE hv hrunning) hsysvmq
    | taken => rfl

/-- **A notification to a coordinator that runs arrives in its queue.** -/
theorem notifyCoord_sends {fuel tid me : Nat} {msgno : UInt32} {mboxId : MboxId} {name : CString}
    (hE : E.kernel = limitKernel M) (h : s.Inv q) (hcontacts : ContactOk s.kernel s.sysvmqInst)
    (hname : name.strlen < ITC_MAX_NAME_LENGTH) (hv : ValidProc s.itccoordMboxId)
    (hrunning : (s.kernel (procOf s.itccoordMboxId)).isSome)
    (hother : procOf s.itccoordMboxId ≠ procOf s.myMboxIdInItccoord)
    (ht : s.myThreadlocalMbox tid = some me) (hid : mboxId = (s.mboxes me).mboxId)
    (hcall : notifyCoord E fuel s tid msgno mboxId name = .ok (some s')) :
    ∃ u : UserMessage, idNameMsg E.endian E.malloc msgno mboxId name = .ok u.msg ∧
      Posted E.endian s s'
        (toProc (procOf s.itccoordMboxId) (u.stamp mboxId s.itccoordMboxId)) := by
  have hmask : s.itccoordMboxId &&& ITC_COORD_MASK ≠ s.myMboxIdInItccoord :=
    mt (and_coordMask_eq_iff h.layout.my s.itccoordMboxId).mp hother
  obtain ⟨u, hu, -⟩ := idNameMsg_ok E.endian E.malloc msgno mboxId (name_fits E.malloc hname)
  refine ⟨u, hu, ?_⟩
  rw [notifyCoord, if_neg (by rw [h.layout.mask]; exact Ne.symm hmask), hu] at hcall
  obtain ⟨_, ⟨⟩, hcall⟩ := bind_eq_ok hcall
  obtain ⟨⟨sent, s₁⟩, hsend, hcall⟩ := bind_some_eq_ok hcall rfl
  cases hcall
  obtain ⟨r, hsend, hfree⟩ := sendOrFree_changes hsend
  have hinv : (s.alloc u.msg).2.Inv q := h.ofHeap (h.messages.alloc u.msg) h.layout.sysvmqInst
  have hcell : (s.alloc u.msg).2.heap.cells s.heap.next = some u.msg := Heap.push_next s.heap u.msg
  have hret : r.ret = true := itcSend_running (s := (s.alloc u.msg).2) hE hinv hv hrunning hmask
    ht (.inr hid) hcell hsend
  have hposted := itcSend_posts (s := (s.alloc u.msg).2) hE hcontacts
    (not_localAccepts (s := s) h.layout hmask) hcell hsend
  have hmy : (s.alloc u.msg).2.myMboxId tid = mboxId := by
    rw [hid]
    show s.myMboxId tid = _
    rw [myMboxId, ht]
    rfl
  rw [hret, if_pos rfl, hmy] at hposted
  rcases hfree with ⟨-, rfl⟩ | ⟨hno, -⟩
  · exact hposted.congr ⟨rfl, rfl, rfl⟩ (.refl _)
  · rw [hret] at hno
    cases hno

/-! ## The mailboxes in use -/

namespace ItcInstance

/-- The mailboxes of a process that are in use. -/
def inUse {σ : Type} (s : ItcInstance σ) : Set ItcMboxInfo :=
  {info | ∃ i, i < s.nrMboxes.toNat ∧ (s.mboxes i).mboxState = .inuse ∧
    info = ⟨(s.mboxes i).mboxId, (s.mboxes i).name⟩}

/-- The mailboxes of threads are in use. -/
def ThreadsInUse {σ : Type} (s : ItcInstance σ) : Prop :=
  ∀ tid me, s.myThreadlocalMbox tid = some me → (s.mboxes me).mboxState = .inuse

end ItcInstance

theorem SameSlots.inUse (h : SameSlots s s') : s'.inUse = s.inUse := by
  ext info
  simp only [ItcInstance.inUse, Set.mem_ofPred_eq, h.nr, h.mboxState, h.mboxId, h.name]

theorem SameSlots.threadsInUse (h : SameSlots s s') (hs : s.ThreadsInUse) : s'.ThreadsInUse := by
  intro tid me ht
  rw [h.thread] at ht
  rw [h.mboxState]
  exact hs tid me ht

/-- What a call puts into the queue of the coordinator, and what becomes of the mailboxes in use. -/
inductive Tells (e : Endian) (s s' : ItcInstance KernelQueues) :
    ItcEvent → List UserMessage → Prop where
  | nothing {a : ItcEvent} (hsame : s'.inUse = s.inUse) : Tells e s s' a []
  | created {tid : Nat} {name : CString} {flags : UInt32} {ret : MboxId} {u : UserMessage}
      (hrequest : HasRequest e u.msg (.addMbox ret name))
      (hreceiver : u.msg.receiver = s.itccoordMboxId)
      (hown : procOf ret = procOf s.myMboxIdInItccoord) (hret : ret ≠ ITC_NO_MBOX_ID)
      (hinUse : s'.inUse = insert ⟨ret, name⟩ s.inUse) :
      Tells e s s' (.createMailbox tid name flags ret) [u]
  | deleted {tid : Nat} {mboxId : MboxId} {name : CString} {u : UserMessage}
      (hrequest : HasRequest e u.msg (.rmvMbox mboxId name))
      (hreceiver : u.msg.receiver = s.itccoordMboxId)
      (hmem : ⟨mboxId, name⟩ ∈ s.inUse) (hinUse : s'.inUse = s.inUse \ {⟨mboxId, name⟩}) :
      Tells e s s' (.deleteMailbox tid mboxId true) [u]
  | sent {tid p : Nat} {m : Option ItcMessage} {u : UserMessage} {toMbox fromMbox : MboxId}
      {ret : Bool} (hu : s.heap.cells p = some u.msg) (hto : procOf toMbox = 1)
      (hsame : s'.inUse = s.inUse) :
      Tells e s s' (.send tid (some (p, m)) toMbox fromMbox ret) [u.stamp (s.myMboxId tid) toMbox]

theorem Created.inUse {tid : Nat} {name : CString} {flags : UInt32} {ret : MboxId}
    (h : s.Inv q) (hcreated : Created s q tid name flags (ret, s')) (hret : ret ≠ ITC_NO_MBOX_ID) :
    procOf ret = procOf s.myMboxIdInItccoord ∧ s'.inUse = insert ⟨ret, name⟩ s.inUse := by
  cases hcreated with
  | failed => exact absurd rfl hret
  | @created i rest _ ht hfree hinv hheap hmboxes hnr hthread =>
    obtain ⟨hi, hq⟩ := h.slots.free i (by rw [hfree]; exact List.mem_cons_self)
    refine ⟨h.layout.procOf_id hi, ?_⟩
    have hunused : (s.mboxes i).mboxState ≠ .inuse := fun hinuse => h.slots.inuse i hi hinuse hq
    ext info
    simp only [ItcInstance.inUse, Set.mem_insert_iff, Set.mem_ofPred_eq, hnr, hmboxes]
    constructor
    · rintro ⟨j, hj, hstate, rfl⟩
      by_cases hji : j = i
      · simp only [if_pos hji]
        exact .inl rfl
      · simp only [if_neg hji] at hstate ⊢
        exact .inr ⟨j, hj, hstate, rfl⟩
    · rintro (rfl | ⟨j, hj, hstate, rfl⟩)
      · refine ⟨i, hi, ?_, ?_⟩
        · simp only [if_true]
          rfl
        · simp only [if_true]
          rfl
      · have hji : j ≠ i := by
          rintro rfl
          exact hunused hstate
        refine ⟨j, hj, ?_, ?_⟩
        · simp only [if_neg hji]
          exact hstate
        · simp only [if_neg hji]

/-- The thread has its mailbox, which is empty and in use. -/
theorem Created.mbox {tid : Nat} {name : CString} {flags : UInt32} {ret : MboxId}
    (hcreated : Created s q tid name flags (ret, s')) (hret : ret ≠ ITC_NO_MBOX_ID) :
    ∃ i q', (s'.mboxes i).mboxId = ret ∧ s'.Inv q' ∧ q' i = some [] ∧
      (s'.mboxes i).mboxState = .inuse ∧ s'.myThreadlocalMbox tid = some i := by
  cases hcreated with
  | failed => exact absurd rfl hret
  | @created i rest _ ht hfree hinv hheap hmboxes hnr hthread =>
    have hself : s'.mboxes i = (s.mboxes i).create tid name flags := by
      rw [hmboxes]
      exact if_pos rfl
    refine ⟨i, _, ?_, hinv, Function.update_self .., ?_, ?_⟩
    · rw [hself]
      rfl
    · rw [hself]
      rfl
    · rw [hthread]
      exact if_pos rfl

theorem Created.threadsInUse {tid : Nat} {name : CString} {flags : UInt32} {ret : MboxId}
    (h : s.Inv q) (hs : s.ThreadsInUse) (hcreated : Created s q tid name flags (ret, s')) :
    s'.ThreadsInUse := by
  cases hcreated with
  | failed => exact hs
  | @created i rest _ ht hfree hinv hheap hmboxes hnr hthread =>
    obtain ⟨hi, hq⟩ := h.slots.free i (by rw [hfree]; exact List.mem_cons_self)
    intro t me hme
    simp only [hthread] at hme
    rw [hmboxes]
    by_cases hmei : me = i
    · simp only [if_pos hmei]
      rfl
    · simp only [if_neg hmei]
      split at hme
      · cases hme
        exact absurd rfl hmei
      · exact hs t me hme

theorem Deleted.inUse {tid : Nat} {mboxId : MboxId} (h : s.Inv q) (hs : s.ThreadsInUse)
    (hdeleted : Deleted s q tid mboxId (true, s')) :
    ∃ me, s.myThreadlocalMbox tid = some me ∧ mboxId = (s.mboxes me).mboxId ∧
      ⟨mboxId, (s.mboxes me).name⟩ ∈ s.inUse ∧
      s'.inUse = s.inUse \ {⟨mboxId, (s.mboxes me).name⟩} := by
  cases hdeleted with
  | @deleted me l _ ht hid hq hinv hfreed hheap hmboxes hnr hthread =>
    obtain ⟨hme, -⟩ := h.slots.queue me (h.slots.thread tid me ht)
    refine ⟨me, ht, hid, ⟨me, hme, hs tid me ht, by rw [hid]⟩, ?_⟩
    ext info
    simp only [ItcInstance.inUse, Set.mem_sdiff, Set.mem_singleton_iff, Set.mem_ofPred_eq, hnr,
      hmboxes]
    constructor
    · rintro ⟨j, hj, hstate, rfl⟩
      by_cases hjm : j = me
      · simp only [if_pos hjm] at hstate
        cases hstate
      · simp only [if_neg hjm] at hstate ⊢
        refine ⟨⟨j, hj, hstate, rfl⟩, ?_⟩
        intro heq
        rw [hid] at heq
        exact hjm (h.layout.ids_inj hj hme (ItcMboxInfo.mk.inj heq).1)
    · rintro ⟨⟨j, hj, hstate, rfl⟩, hne⟩
      have hjm : j ≠ me := by
        rintro rfl
        exact hne (by rw [hid])
      refine ⟨j, hj, ?_, ?_⟩
      · simp only [if_neg hjm]
        exact hstate
      · simp only [if_neg hjm]

theorem Deleted.threadsInUse {tid : Nat} {mboxId : MboxId} {ret : Bool} (h : s.Inv q)
    (hs : s.ThreadsInUse) (hdeleted : Deleted s q tid mboxId (ret, s')) : s'.ThreadsInUse := by
  cases hdeleted with
  | failed _ => exact hs
  | @deleted me l _ ht hid hq hinv hfreed hheap hmboxes hnr hthread =>
    intro t j hj
    simp only [hthread] at hj
    split at hj
    · cases hj
    · rename_i htid
      have hjm : j ≠ me := fun heq => htid (h.slots.threadInj t tid me (heq ▸ hj) ht)
      rw [hmboxes]
      simp only [if_neg hjm]
      exact hs t j hj

/-! ## Calls -/

/-- What is assumed of a process that is not the coordinator's. -/
structure TellsCoord (s : ItcInstance KernelQueues) : Prop where
  contacts : ContactOk s.kernel s.sysvmqInst
  coord : s.itccoordMboxId = coordMboxId
  running : (s.kernel 1).isSome
  other : procOf s.myMboxIdInItccoord ≠ 1

theorem TellsCoord.congr (h : TellsCoord s) (hsame : SameSysvmq s s')
    (hmy : s'.myMboxIdInItccoord = s.myMboxIdInItccoord) : TellsCoord s' where
  contacts := by rw [hsame.kernel, hsame.inst]; exact h.contacts
  coord := hsame.coord.trans h.coord
  running := by rw [hsame.kernel]; exact h.running
  other := by rw [hmy]; exact h.other

/-- The notification of such a process. -/
theorem TellsCoord.notify (h : TellsCoord s) (hE : E.kernel = limitKernel M) (hinv : s.Inv q)
    {fuel tid me : Nat} {msgno : UInt32} {mboxId : MboxId} {name : CString}
    (hname : name.strlen < ITC_MAX_NAME_LENGTH) (ht : s.myThreadlocalMbox tid = some me)
    (hid : mboxId = (s.mboxes me).mboxId)
    (hcall : notifyCoord E fuel s tid msgno mboxId name = .ok (some s')) :
    ∃ u : UserMessage, idNameMsg E.endian E.malloc msgno mboxId name = .ok u.msg ∧
      Posted E.endian s s' (toProc 1 (u.stamp mboxId coordMboxId)) := by
  have hproc : procOf s.itccoordMboxId = 1 := by
    rw [h.coord]
    decide
  have hv : ValidProc s.itccoordMboxId := by
    rw [ValidProc, hproc]
    decide
  obtain ⟨u, hu, hposted⟩ := notifyCoord_sends hE hinv h.contacts hname hv
    (by rw [hproc]; exact h.running) (by rw [hproc]; exact h.other.symm) ht hid hcall
  rw [hproc, h.coord] at hposted
  exact ⟨u, hu, hposted⟩

theorem toProc_self (m : UserMessage) (i : Nat) : toProc i m i = [m] := if_pos rfl

/-- **A new mailbox is announced.** -/
theorem itcCreateMailbox_tells {fuel tid : Nat} {name : CString} {flags : UInt32} {ret : MboxId}
    (hE : E.kernel = limitKernel M) (h : s.Inv q) (htells : TellsCoord s)
    (hname : name.strlen < ITC_MAX_NAME_LENGTH)
    (hcall : itcCreateMailbox E fuel s tid name flags = .ok (some (ret, s'))) :
    ∃ new, Posted E.endian s s' new ∧
      Tells E.endian s s' (.createMailbox tid name flags ret) (new 1) := by
  have hcreated := (itcCreateMailbox_returns h hname fuel tid flags).of_eq hcall
  by_cases hret : ret = ITC_NO_MBOX_ID
  · have hsame : s' = s := by
      cases hcreated with
      | failed => rfl
      | @created i rest _ _ hfree =>
        have hi := (h.slots.free i (by rw [hfree]; exact List.mem_cons_self)).1
        exact absurd hret (h.layout.id_ne hi)
    subst hsame
    exact ⟨toNobody, .nothing htells.contacts (.refl _), .nothing rfl⟩
  · obtain ⟨hown, hinUse⟩ := hcreated.inUse h hret
    rcases itcCreateMailbox_notifies h hname hcall with
      rfl | ⟨q₁, i, s₁, hinv, hsame, hmy, ht, hid, hnotify⟩
    · exact ⟨toNobody, .nothing htells.contacts (.refl _), .nothing rfl⟩
    · obtain ⟨u, hu, hposted⟩ := (htells.congr hsame hmy).notify hE hinv hname ht hid hnotify
      refine ⟨_, hposted.congr hsame (.refl _), ?_⟩
      rw [toProc_self]
      have hrequest : HasRequest E.endian u.msg (.addMbox ret name) :=
        ⟨readRequest_add hu, idNameMsg_passes hu⟩
      exact .created (hrequest.stamp _ _) htells.coord.symm hown hret hinUse

/-- **A mailbox that goes is withdrawn.** -/
theorem itcDeleteMailbox_tells {fuel tid : Nat} {mboxId : MboxId} {ret : Bool}
    (hE : E.kernel = limitKernel M) (h : s.Inv q) (htells : TellsCoord s) (hs : s.ThreadsInUse)
    (hcall : itcDeleteMailbox E fuel s tid mboxId = .ok (some (ret, s'))) :
    ∃ new, Posted E.endian s s' new ∧
      Tells E.endian s s' (.deleteMailbox tid mboxId ret) (new 1) := by
  rcases itcDeleteMailbox_notifies h hcall with
    ⟨rfl, rfl⟩ | ⟨me, s₁, s₂, hinv, hsame, hmy, ht, ht₁, hid, hid₁, hnotify, hafter⟩
  · exact ⟨toNobody, .nothing htells.contacts (.refl _), .nothing rfl⟩
  · have hdeleted := (itcDeleteMailbox_returns h fuel tid mboxId).of_eq hcall
    obtain rfl : ret = true := by
      cases hdeleted with
      | failed hno => exact absurd hid (hno me ht)
      | deleted => rfl
    obtain ⟨me', hme', -, hmem, hinUse⟩ := hdeleted.inUse h hs
    obtain rfl := Option.some.inj (hme'.symm.trans ht)
    obtain ⟨u, hu, hposted⟩ :=
      (htells.congr hsame hmy).notify hE hinv (h.slots.names _) ht₁ hid₁ hnotify
    refine ⟨_, hposted.congr hsame hafter, ?_⟩
    rw [toProc_self]
    have hrequest : HasRequest E.endian u.msg (.rmvMbox mboxId (s.mboxes me').name) :=
      ⟨readRequest_rmv hu, idNameMsg_passes hu⟩
    exact .deleted (hrequest.stamp _ _) htells.coord.symm hmem hinUse

/-- **What a call tells the coordinator.** -/
theorem ItcStep.tells {a : ItcEvent} (hE : E.kernel = limitKernel M) (hmem : E.qitemMem = true)
    (h : s.Inv q) (htells : TellsCoord s) (hs : s.ThreadsInUse) (hown : UsesOwn s a)
    (hknows : KnowsOwn s a) (hstep : ItcStep E s a s') :
    ∃ new, Posted E.endian s s' new ∧ Tells E.endian s s' a (new 1) := by
  have hnothing {a : ItcEvent} (hsame : SameSysvmq s s') (hslots : SameSlots s s') :
      ∃ new, Posted E.endian s s' new ∧ Tells E.endian s s' a (new 1) :=
    ⟨toNobody, .nothing htells.contacts hsame, .nothing hslots.inUse⟩
  cases hstep with
  | alloc _ => exact hnothing ⟨rfl, rfl, rfl⟩ (.setHeap s _)
  | write _ => exact hnothing ⟨rfl, rfl, rfl⟩ (.setHeap s _)
  | free call => exact hnothing (itcFree_same call) (itcFree_sameSlots call)
  | createMailbox call => exact itcCreateMailbox_tells hE h htells hown call
  | deleteMailbox call => exact itcDeleteMailbox_tells hE h htells hs call
  | receive call =>
    refine hnothing ?_ (itcReceive_sameSlots call)
    rcases itcReceive_changes call with rfl | ⟨_, _, _, _, _, _, -, rfl⟩
    · exact .refl s'
    · exact ⟨rfl, rfl, rfl⟩
  | getFd call =>
    refine hnothing ?_ (itcGetFd_sameSlots call)
    rcases itcGetFd_changes call with rfl | ⟨_, _, rfl⟩
    · exact .refl s'
    · exact ⟨rfl, rfl, rfl⟩
  | @send fuel tid msg toMbox fromMbox r call =>
    have hslots := itcSend_sameSlots call
    cases msg with
    | none =>
      rw [itcSend_null] at call
      cases call
      exact hnothing ⟨rfl, rfl, rfl⟩ hslots
    | some p =>
      obtain ⟨u, hu⟩ : s.Held p := hown _ rfl
      by_cases hproc : procOf toMbox = procOf s.myMboxIdInItccoord
      · obtain ⟨i, hi, rfl⟩ := hknows toMbox rfl hproc
        have hposted := itcSend_posts_own hmem h htells.contacts hi hu call
        exact ⟨toNobody, hposted, .nothing hslots.inUse⟩
      · have hno : ¬ LocalAccepts E.qitemMem s.localInst toMbox :=
          not_localAccepts h.layout (mt (and_coordMask_eq_iff h.layout.my toMbox).mp hproc)
        refine ⟨_, itcSend_posts hE htells.contacts hno hu call, ?_⟩
        split
        · rw [toProc]
          split
          · rename_i hto
            exact .sent hu hto.symm hslots.inUse
          · exact .nothing hslots.inUse
        · exact .nothing hslots.inUse

/-- The threads of a process keep their mailboxes in use. -/
theorem ItcStep.threadsInUse {a : ItcEvent} (h : s.Inv q) (hs : s.ThreadsInUse)
    (hown : UsesOwn s a) (hstep : ItcStep E s a s') : s'.ThreadsInUse := by
  cases hstep with
  | alloc _ => exact (SameSlots.setHeap s _).threadsInUse hs
  | write _ => exact (SameSlots.setHeap s _).threadsInUse hs
  | free call => exact (itcFree_sameSlots call).threadsInUse hs
  | send call => exact (itcSend_sameSlots call).threadsInUse hs
  | receive call => exact (itcReceive_sameSlots call).threadsInUse hs
  | getFd call => exact (itcGetFd_sameSlots call).threadsInUse hs
  | @createMailbox _ fuel tid name flags ret call =>
    exact ((itcCreateMailbox_returns h hown fuel tid flags).of_eq call).threadsInUse h hs
  | @deleteMailbox _ fuel tid mboxId ret call =>
    exact ((itcDeleteMailbox_returns h fuel tid mboxId).of_eq call).threadsInUse h hs

/-! ## The coordinator -/

/-- What `main` does between two messages: it answers requests. -/
def CoordMay : ItcEvent → Prop
  | .createMailbox .. | .deleteMailbox .. | .receive .. => False
  | .send _ _ toMbox _ _ => procOf toMbox ≠ 1
  | _ => True

/-- The rx queues are what they were. -/
structure SameRxQueues (s : ItcInstance KernelQueues) (q : Queues)
    (s' : ItcInstance KernelQueues) : Prop where
  inv : s'.Inv q
  kept : ∀ i l, q i = some l → ∀ p ∈ l, s'.heap.cells p = s.heap.cells p

theorem SameRxQueues.of_held {p : Nat} {u : UserMessage} (h : s.Inv q) (h' : s'.Inv q)
    (hu : s.heap.cells p = some u.msg)
    (hframe : ∀ p', p' ≠ p → s'.heap.cells p' = s.heap.cells p') : SameRxQueues s q s' := by
  refine ⟨h', fun i l hq p' hp' => hframe p' ?_⟩
  rintro rfl
  exact h.messages.not_mem hu hq hp'

/-- **What the coordinator does between two messages leaves its own mail alone.** -/
theorem ItcStep.coordinator {a : ItcEvent} (hE : E.kernel = limitKernel M) (h : s.Inv q)
    (hcontacts : ContactOk s.kernel s.sysvmqInst) (hmy : procOf s.myMboxIdInItccoord = 1)
    (hown : UsesOwn s a) (hmay : CoordMay a) (hstep : ItcStep E s a s') :
    ∃ new, Posted E.endian s s' new ∧ new 1 = [] ∧ SameRxQueues s q s' ∧ SameSlots s s' := by
  have hnothing (hsame : SameSysvmq s s') (hqueues : SameRxQueues s q s')
      (hslots : SameSlots s s') :
      ∃ new, Posted E.endian s s' new ∧ new 1 = [] ∧ SameRxQueues s q s' ∧ SameSlots s s' :=
    ⟨toNobody, .nothing hcontacts hsame, rfl, hqueues, hslots⟩
  cases hstep with
  | @alloc size msgno m _ =>
    have h' : (s.alloc m).2.Inv q := h.ofHeap (h.messages.alloc m) h.layout.sysvmqInst
    refine hnothing ⟨rfl, rfl, rfl⟩ ⟨h', fun i l hq p hp => ?_⟩ (.setHeap s _)
    obtain ⟨u, hu⟩ := h.messages.queued i l hq p hp
    exact Heap.push_of_ne s.heap m (Nat.ne_of_lt (Heap.lt_next hu))
  | write call =>
    obtain ⟨u, hu⟩ := hown
    have hframe := Heap.write_frame call
    exact hnothing ⟨rfl, rfl, rfl⟩ (.of_held h (h.ofHeld hu hframe) hu hframe) (.setHeap s _)
  | free call =>
    obtain ⟨u, hu⟩ := hown
    have hslots := itcFree_sameSlots call
    have hsame := itcFree_same call
    obtain ⟨heap', rfl, hframe⟩ := itcFree_ok hu call
    exact hnothing hsame (.of_held h (h.ofHeld hu hframe) hu hframe) hslots
  | getFd call =>
    obtain ⟨h', hheap⟩ := itcGetFd_inv h call
    refine hnothing ?_ ⟨h', fun _ _ _ _ _ => by rw [hheap]⟩ (itcGetFd_sameSlots call)
    rcases itcGetFd_changes call with rfl | ⟨_, _, rfl⟩
    · exact .refl s'
    · exact ⟨rfl, rfl, rfl⟩
  | createMailbox _ => exact hmay.elim
  | deleteMailbox _ => exact hmay.elim
  | receive _ => exact hmay.elim
  | @send fuel tid msg toMbox fromMbox r call =>
    have hslots := itcSend_sameSlots call
    cases msg with
    | none =>
      rw [itcSend_null] at call
      cases call
      exact hnothing ⟨rfl, rfl, rfl⟩ ⟨h, fun _ _ _ _ _ => rfl⟩ hslots
    | some p =>
      obtain ⟨u, hu⟩ : s.Held p := hown _ rfl
      have hremote : toMbox &&& ITC_COORD_MASK ≠ s.myMboxIdInItccoord := by
        intro heq
        exact hmay (((and_coordMask_eq_iff h.layout.my toMbox).mp heq).trans hmy)
      have hnone : findMbox s toMbox = none := if_neg (by rw [h.layout.mask]; exact hremote)
      refine ⟨_, itcSend_posts hE hcontacts (not_localAccepts h.layout hremote) hu call, ?_, ?_,
        hslots⟩
      · split
        · exact if_neg (Ne.symm hmay)
        · rfl
      cases (itcSend_returns h hu fuel tid toMbox fromMbox).of_eq call with
      | rejected _ => exact ⟨h, fun _ _ _ _ _ => rfl⟩
      | host _ hhost =>
        cases hhost with
        | inactive _ hheap => exact .of_held h (h.ofHeld hu hheap.frame) hu hheap.frame
        | queued _ _ _ hfind =>
          rw [hnone] at hfind
          cases hfind
        | refused _ _ _ hconf hheap =>
          exact .of_held h (h.ofHeap (h.messages.of_held hu hheap.frame) hconf) hu hheap.frame
        | taken _ _ _ hconf _ hheap =>
          refine .of_held h ((h.ofHeap (h.messages.of_held hu hheap.frame) hconf).notifyReceiver _)
            hu fun p' hp' => ?_
          rw [notifyReceiver_heap]
          exact hheap.frame p' hp'

/-- **The rx thread puts a message for a mailbox in use into its queue.** -/
theorem relay_queued {fuel tid me i : Nat} {l : List Nat} {u : UserMessage}
    {r : SendResult KernelQueues} (hmem : E.qitemMem = true) (h : s.Inv q)
    (ht : s.myThreadlocalMbox tid = some me) (hne : me ≠ i)
    (hinuse : (s.mboxes i).mboxState = .inuse) (hq : q i = some l)
    (hto : u.msg.receiver = (s.mboxes i).mboxId)
    (hsend : itcSend E fuel (s.alloc u.msg).2 tid (some s.heap.next) u.msg.receiver ITC_MY_MBOX_ID =
      .ok (some r)) :
    ∃ q', r.s.Inv q' ∧ q' i = some (l ++ [s.heap.next]) ∧
      r.s.heap.cells s.heap.next = some (u.stamp (s.myMboxId tid) (s.mboxes i).mboxId).queued ∧
      ∀ p ∈ l, r.s.heap.cells p = s.heap.cells p := by
  have h' : (s.alloc u.msg).2.Inv q := h.ofHeap (h.messages.alloc u.msg) h.layout.sysvmqInst
  have hcell : (s.alloc u.msg).2.heap.cells s.heap.next = some u.msg := Heap.push_next s.heap u.msg
  obtain ⟨hi, -⟩ := h.slots.queue i (by rw [hq]; exact Option.some_ne_none l)
  obtain ⟨hme, -⟩ := h.slots.queue me (h.slots.thread tid me ht)
  have hmy : s.myMboxId tid = (s.mboxes me).mboxId := by rw [myMboxId, ht]; rfl
  have hother : (s.mboxes i).mboxId ≠ s.myMboxId tid := by
    rw [hmy]
    exact fun heq => hne (h.layout.ids_inj hme hi heq.symm)
  rw [hto] at hsend
  cases (itcSend_returns h' hcell fuel tid _ ITC_MY_MBOX_ID).of_eq hsend with
  | rejected hno => exact absurd ⟨me, ht, hmy.symm, hother, .inl rfl⟩ (hno (s.myMboxId tid))
  | @host myMbox _ hmay hhost =>
    obtain ⟨me', hme', hid, -⟩ := hmay
    obtain rfl := Option.some.inj (ht.symm.trans hme')
    rcases hhost.ofId (s := (s.alloc u.msg).2) h' hmem hi with
      ⟨_, hnot, -, -⟩ | ⟨l', rxq, heap', hq', hholds, hheap, rfl⟩
    · exact absurd hinuse hnot
    · obtain rfl := Option.some.inj (hq.symm.trans hq')
      have hqueued := h'.setQueue (s := (s.alloc u.msg).2) (s.mboxes i).rxqInfo.onSend hq' hholds
        (h'.messages.enqueue hq' hcell hheap.self hheap.frame)
      refine ⟨_, hqueued, Function.update_self .., ?_, fun p hp => ?_⟩
      · rw [hmy, show (s.mboxes me).mboxId = myMbox from hid]
        exact hheap.self
      · obtain ⟨m, hm⟩ := h.messages.queued i l hq p hp
        have hlt := Heap.lt_next hm
        exact (hheap.frame p (Nat.ne_of_lt hlt)).trans (Heap.push_of_ne _ _ (Nat.ne_of_lt hlt))

theorem ItcStep.createCall {s s' : ItcInstance KernelQueues} {tid : Nat} {name : CString}
    {flags : UInt32} {ret : MboxId} (hstep : ItcStep E s (.createMailbox tid name flags ret) s') :
    ∃ fuel, itcCreateMailbox E fuel s tid name flags = .ok (some (ret, s')) := by
  cases hstep with
  | createMailbox call => exact ⟨_, call⟩

/-- A call that has received a message. -/
theorem ItcStep.received {tid p : Nat} {myMbox : MboxId} {m : ItcMessage}
    (hstep : ItcStep E s (.receive tid myMbox (some (p, some m))) s') :
    itcReceive s tid = .ok (some (some p, s')) ∧ s'.delivery p = (p, some m) := by
  generalize hev : ItcEvent.receive tid myMbox (some (p, some m)) = a at hstep
  cases hstep with
  | receive call =>
    injection hev with htid _ hret
    obtain ⟨p', rfl, hp'⟩ := Option.map_eq_some_iff.mp hret.symm
    obtain rfl : p' = p := congrArg Prod.fst hp'
    rw [htid]
    exact ⟨call, hp'⟩
  | _ => cases hev

/-- What `main` receives is the first message of its queue. -/
theorem itcReceive_first_of_some {tid i p : Nat} {l : List Nat} {m : ItcMessage} (h : s.Inv q)
    (ht : s.myThreadlocalMbox tid = some i) (hq : q i = some l)
    (hcall : itcReceive s tid = .ok (some (some p, s'))) (hm : s'.delivery p = (p, some m)) :
    ∃ (u : UserMessage) (rest : List Nat) (q' : Queues), l = p :: rest ∧ m = u.msg ∧
      s.heap.cells p = some u.queued ∧ s'.Inv q' ∧ q' i = some rest ∧
      ∀ p' ∈ rest, s'.heap.cells p' = s.heap.cells p' := by
  cases (itcReceive_returns h tid).of_eq hcall with
  | @message _ i' _ rest u ht' hq' hu hinv hheap =>
    obtain rfl := Option.some.inj (ht.symm.trans ht')
    obtain rfl := Option.some.inj (hq.symm.trans hq')
    refine ⟨u, rest, _, rfl, ?_, hu, hinv, Function.update_self .., fun p' hp' => ?_⟩
    · have hdelivery := congrArg Prod.snd hm
      rw [delivery, hheap.self, Option.map_some, Option.some.injEq] at hdelivery
      rw [← hdelivery, ← u.flags_eq]
    · refine hheap.frame p' ?_
      rintro rfl
      exact (List.nodup_cons.mp (h.messages.nodup i _ hq)).1 hp'

end ItcFramework
