import ItcFramework.Itc.SendCases

/-!
# What the calls of a process do

One lemma for each call, in terms of the abstract queues: what it returns, which queue changes,
and that the invariant holds again. No call of a process whose invariant holds has a memory
fault.
-/

set_option autoImplicit false

namespace ItcFramework

open ByteImage HeapModel

variable {σ : Type} {E : ItcEnv σ} {s : ItcInstance σ} {q : Queues}

/-! ## The counters of a mailbox -/

/-- The counters of a mailbox whose queue has `n` messages. -/
structure RxqInfo.Counts (info : RxqInfo) (n : Nat) : Prop where
  rxqLen : info.rxqLen = n
  rxqFd : info.isFdCreated = true → info.rxqFd = if n = 0 then 0 else 1

namespace RxqInfo.Counts

variable {info : RxqInfo} {n : Nat}

theorem onSend (h : info.Counts n) : info.onSend.Counts (n + 1) := by
  refine ⟨?_, fun hfd => ?_⟩
  · simp only [RxqInfo.onSend, h.rxqLen, Nat.cast_add, Nat.cast_one]
  · have hfd' : info.isFdCreated = true := hfd
    have hrxqFd := h.rxqFd hfd'
    rw [if_neg (Nat.succ_ne_zero n)]
    simp only [RxqInfo.onSend, hfd', h.rxqLen, eventfdWrite, true_and, Nat.cast_eq_zero]
    split
    · rename_i hn
      rw [hrxqFd, if_pos hn]
    · rename_i hn
      rw [hrxqFd, if_neg hn]

/-- The eventfd is readable whenever the receiver reads it. -/
theorem onReceive (h : info.Counts (n + 1)) :
    ∃ info', info.onReceive = some info' ∧ info'.Counts n ∧
      info'.isFdCreated = info.isFdCreated := by
  have hlen : info.rxqLen - 1 = n := by
    rw [h.rxqLen]
    push_cast
    omega
  unfold RxqInfo.onReceive
  simp only [hlen, Nat.cast_eq_zero]
  by_cases hfd : info.isFdCreated = true
  · have hrxqFd := h.rxqFd hfd
    rw [if_neg (Nat.succ_ne_zero n)] at hrxqFd
    by_cases hn : n = 0
    · rw [if_pos ⟨hfd, hn⟩, hrxqFd, eventfdRead, if_neg Nat.one_ne_zero]
      exact ⟨_, rfl, ⟨rfl, fun _ => by rw [if_pos hn]⟩, rfl⟩
    · rw [if_neg fun hboth => hn hboth.2]
      exact ⟨_, rfl, ⟨rfl, fun _ => by rw [if_neg hn]; exact hrxqFd⟩, rfl⟩
  · rw [if_neg fun hboth => hfd hboth.1]
    exact ⟨_, rfl, ⟨rfl, fun hfd' => absurd hfd' hfd⟩, rfl⟩

theorem onGetFd (h : info.Counts n) : info.onGetFd.Counts n := by
  unfold RxqInfo.onGetFd
  split
  · exact h
  · refine ⟨h.rxqLen, fun _ => ?_⟩
    simp only [h.rxqLen, ne_eq, Nat.cast_eq_zero, eventfdWrite, Nat.zero_add, ite_not]

end RxqInfo.Counts

/-- Every mailbox with an rx queue counts its messages. -/
def ItcInstance.Accounting (s : ItcInstance σ) (q : Queues) : Prop :=
  ∀ i l, q i = some l → (s.mboxes i).rxqInfo.Counts l.length

namespace ItcInstance

theorem Accounting.setRxqInfo (h : s.Accounting q) {i : Nat} {l : List Nat} {info : RxqInfo}
    (hinfo : info.Counts l.length) :
    (s.setRxqInfo i info).Accounting (Function.update q i (some l)) := by
  intro j l' hj
  by_cases hji : j = i
  · rw [hji, Function.update_self] at hj
    cases hj
    rw [hji, setRxqInfo_mboxes_self]
    exact hinfo
  · rw [Function.update_of_ne hji] at hj
    rw [setRxqInfo_ne s info hji]
    exact h j l' hj

/-! ## Sending -/

/-- The calls of `itc_send_zz` that get as far as the message, with the caller's mailbox id. -/
def MaySend (s : ItcInstance σ) (tid : Nat) (toMbox fromMbox myMbox : MboxId) : Prop :=
  ∃ me, s.myThreadlocalMbox tid = some me ∧ (s.mboxes me).mboxId = myMbox ∧ toMbox ≠ myMbox ∧
    (fromMbox = ITC_MY_MBOX_ID ∨ fromMbox = myMbox)

/-- What `itc_send_zz` within the host has done with a user's message. -/
inductive Sent (E : ItcEnv σ) (s : ItcInstance σ) (q : Queues) (tid p : Nat) (m : UserMessage)
    (toMbox fromMbox : MboxId) : SendResult σ → Prop where
  | rejected (hno : ∀ myMbox, ¬ s.MaySend tid toMbox fromMbox myMbox) :
      Sent E s q tid p m toMbox fromMbox ⟨false, some p, none, s⟩
  | host {myMbox : MboxId} {r : SendResult σ} (hmay : s.MaySend tid toMbox fromMbox myMbox)
      (hsend : HostSend E s q myMbox p m toMbox r) : Sent E s q tid p m toMbox fromMbox r

/-- There is nothing to send. -/
theorem itcSend_null (fuel tid : Nat) (toMbox fromMbox : MboxId) :
    itcSend E fuel s tid none toMbox fromMbox = .ok (some ⟨false, none, none, s⟩) := by
  unfold itcSend
  split
  · rfl
  · simp only [ite_self]

theorem itcSend_returns {p : Nat} {m : UserMessage} (h : s.Inv q)
    (hm : s.heap.cells p = some m.msg) (fuel tid : Nat) (toMbox fromMbox : MboxId) :
    Returns (itcSend E fuel s tid (some p) toMbox fromMbox)
      (Sent E s q tid p m toMbox fromMbox) := by
  unfold itcSend
  cases ht : s.myThreadlocalMbox tid with
  | none =>
    refine .result (.rejected ?_)
    rintro myMbox ⟨me, hme, -⟩
    rw [ht] at hme
    cases hme
  | some me =>
    simp only
    split
    · rename_i hself
      refine .result (.rejected ?_)
      rintro myMbox ⟨me', hme', rfl, hne, -⟩
      rw [ht] at hme'
      cases hme'
      exact hne hself
    · rename_i hne
      split
      · rename_i hfrom
        refine .result (.rejected ?_)
        rintro myMbox ⟨me', hme', rfl, -, hmy⟩
        rw [ht] at hme'
        cases hme'
        exact hmy.elim hfrom.1 hfrom.2
      · rename_i hfrom
        have hmay : s.MaySend tid toMbox fromMbox (s.mboxes me).mboxId := by
          refine ⟨me, ht, rfl, hne, ?_⟩
          by_cases hmy : fromMbox = ITC_MY_MBOX_ID
          · exact .inl hmy
          · exact .inr (not_not.mp fun hother => hfrom ⟨hmy, hother⟩)
        exact (sendWithinHost_returns h hm fuel _ toMbox).mono fun r hr => .host hmay hr

/-- The invariant does not depend on messages in users' hands, nor on the sysvmq contacts. -/
theorem Inv.ofHeap (h : s.Inv q) {heap' : Heap ItcMessage} {inst : SysvmqInstance} {k : σ}
    (hmessages : Messages heap' q) (hconf : inst.Configured) :
    (s.setSysvmq inst k heap').Inv q where
  layout := { h.layout with sysvmqInst := hconf }
  holds := h.holds
  messages := hmessages
  slots := ⟨h.slots.queue, h.slots.inuse, h.slots.closed, h.slots.freeNodup, h.slots.free,
    h.slots.thread, h.slots.threadInj, h.slots.names⟩

theorem Inv.ofHeld (h : s.Inv q) {p : Nat} {m : UserMessage} {heap' : Heap ItcMessage}
    (hm : s.heap.cells p = some m.msg)
    (hframe : ∀ p', p' ≠ p → heap'.cells p' = s.heap.cells p') : (s.setHeap heap').Inv q :=
  h.ofHeap (h.messages.of_held hm hframe) h.layout.sysvmqInst

/-- A message in a user's hands is freed, and nothing else changes. -/
theorem itcFree_user {p : Nat} {m : UserMessage} (hm : s.heap.cells p = some m.msg) :
    ∃ heap', itcFree s p = .ok (s.setHeap heap') ∧ heap'.cells p = none ∧
      (∀ p', p' ≠ p → heap'.cells p' = s.heap.cells p') ∧ heap'.next = s.heap.next := by
  obtain ⟨heap', hfree, hdead, hframe, hnext⟩ := itcFreeZz_user hm
  refine ⟨heap', ?_, hdead, hframe, hnext⟩
  simp only [itcFree, hfree, bind, Except.bind]
  rfl

theorem itcFree_ok {s' : ItcInstance σ} {p : Nat} {m : UserMessage}
    (hm : s.heap.cells p = some m.msg) (hcall : itcFree s p = .ok s') :
    ∃ heap', s' = s.setHeap heap' ∧ ∀ p', p' ≠ p → heap'.cells p' = s.heap.cells p' := by
  obtain ⟨heap', hfree, -, hframe, -⟩ := itcFree_user hm
  rw [hfree] at hcall
  cases hcall
  exact ⟨heap', rfl, hframe⟩

/-- The counters of a mailbox do not matter for the invariant. -/
theorem Inv.setRxqInfo (h : s.Inv q) {i : Nat} {info : RxqInfo}
    (hfd : q i = none → info.isFdCreated = false) : (s.setRxqInfo i info).Inv q where
  layout := h.layout.setMbox rfl
  holds := h.holds
  messages := h.messages
  slots := h.slots.setMbox rfl id hfd rfl

theorem Inv.notifyReceiver (h : s.Inv q) (o : Option Nat) : (notifyReceiver s o).Inv q := by
  unfold ItcFramework.notifyReceiver
  cases o with
  | none => exact h
  | some i =>
    simp only
    split
    · exact h.setRxqInfo (h.slots.closed i)
    · exact h

/-- The queue of one mailbox changes. -/
theorem Inv.setQueue (h : s.Inv q) {i : Nat} {l l' : List Nat} {heap' : Heap ItcMessage}
    {rxq : RxQueue} (info : RxqInfo) (hq : q i = some l)
    (hholds : (s.localInst.setRxq i rxq).Holds (Function.update q i (some l')))
    (hmessages : Messages heap' (Function.update q i (some l'))) :
    ((s.setLocal (s.localInst.setRxq i rxq) heap').setRxqInfo i info).Inv
      (Function.update q i (some l')) := by
  have hne : q i ≠ none := by rw [hq]; exact Option.some_ne_none l
  have hslots : (s.setLocal (s.localInst.setRxq i rxq) heap').Slots q :=
    ⟨h.slots.queue, h.slots.inuse, h.slots.closed, h.slots.freeNodup, h.slots.free,
      h.slots.thread, h.slots.threadInj, h.slots.names⟩
  have hlayout : (s.setLocal (s.localInst.setRxq i rxq) heap').Layout :=
    { h.layout with localInst := h.layout.localInst.setData i _ }
  exact {
    layout := hlayout.setMbox rfl
    holds := hholds
    messages := hmessages
    slots := (hslots.setRxqInfo hne).congr (update_eq_none_iff hq) }

end ItcInstance

open ItcInstance

/-- **A send keeps the invariant**, and touches no message but its own. -/
theorem HostSend.inv {myMbox toMbox : MboxId} {p : Nat} {m : UserMessage} {r : SendResult σ}
    (h : s.Inv q) (hm : s.heap.cells p = some m.msg) (hsend : HostSend E s q myMbox p m toMbox r) :
    (∃ q', r.s.Inv q') ∧ (∀ p', p' ≠ p → r.s.heap.cells p' = s.heap.cells p') := by
  cases hsend with
  | inactive hinactive hheap =>
    exact ⟨⟨q, h.ofHeld hm hheap.frame⟩, hheap.frame⟩
  | queued hactive haccepts hq hfind hholds hheap =>
    exact ⟨⟨_, h.setQueue _ hq hholds (h.messages.enqueue hq hm hheap.self hheap.frame)⟩,
      hheap.frame⟩
  | refused hactive hlocal hsysvmq hconf hheap =>
    exact ⟨⟨q, h.ofHeap (h.messages.of_held hm hheap.frame) hconf⟩, hheap.frame⟩
  | taken hactive hlocal hsysvmq hconf hcopied hheap =>
    refine ⟨⟨q, (h.ofHeap (h.messages.of_held hm hheap.frame) hconf).notifyReceiver _⟩, ?_⟩
    unfold notifyReceiver
    split
    · exact hheap.frame
    · split
      · exact hheap.frame
      · exact hheap.frame

/-- A send to a mailbox of this process: not in use, or its queue takes the message. -/
theorem HostSend.ofId {myMbox : MboxId} {p i : Nat} {m : UserMessage} {r : SendResult σ}
    (h : s.Inv q) (hmem : E.qitemMem = true) (hi : i < s.nrMboxes.toNat)
    (hsend : HostSend E s q myMbox p m (s.mboxes i).mboxId r) :
    (∃ heap', (s.mboxes i).mboxState ≠ .inuse ∧
        OnlyAt s.heap heap' p (some (m.stamp myMbox (s.mboxes i).mboxId).msg) ∧
        r = ⟨false, some p, none, s.setHeap heap'⟩) ∨
      ∃ l rxq heap', q i = some l ∧
        (s.localInst.setRxq i rxq).Holds (Function.update q i (some (l ++ [p]))) ∧
        OnlyAt s.heap heap' p (some (m.stamp myMbox (s.mboxes i).mboxId).queued) ∧
        r = ⟨true, none, some .rxQueue,
          (s.setLocal (s.localInst.setRxq i rxq) heap').setRxqInfo i
            (s.mboxes i).rxqInfo.onSend⟩ := by
  have hfind := h.layout.findMbox_id hi
  have haccepts : ¬ s.Inactive (s.mboxes i).mboxId →
      LocalAccepts E.qitemMem s.localInst (s.mboxes i).mboxId := by
    intro hactive
    have hinuse : (s.mboxes i).mboxState = .inuse := by
      by_contra hne
      exact hactive ⟨i, hfind, hne⟩
    refine ⟨hmem, i, h.layout.findLocal_id hi, fun hnone => ?_⟩
    have hholds := h.holds i
    rw [hnone] at hholds
    cases hq : q i with
    | none => exact h.slots.inuse i hi hinuse hq
    | some l =>
      rw [hq] at hholds
      cases hholds
  cases hsend with
  | inactive hinactive hheap =>
    obtain ⟨j, hj, hstate⟩ := hinactive
    rw [hfind] at hj
    cases hj
    exact .inl ⟨_, hstate, hheap, rfl⟩
  | queued _ _ hq hfind' hholds hheap =>
    rw [hfind] at hfind'
    cases hfind'
    exact .inr ⟨_, _, _, hq, hholds, hheap, rfl⟩
  | refused hactive hlocal => exact absurd (haccepts hactive) hlocal
  | taken hactive hlocal => exact absurd (haccepts hactive) hlocal

/-! ## Notifying the coordinator -/

/-- A message for another process that the process frees itself when it cannot be sent. -/
theorem sendOrFree_remote {p : Nat} {m : UserMessage} {toMbox : MboxId} (h : s.Inv q)
    (hm : s.heap.cells p = some m.msg) (hremote : findMbox s toMbox = none) (fuel tid : Nat)
    (fromMbox : MboxId) :
    Returns (sendOrFree E fuel s tid p toMbox fromMbox) fun r =>
      ∃ heap' inst k, inst.Configured ∧ OnlyAt s.heap heap' p none ∧
        r.2 = s.setSysvmq inst k heap' := by
  obtain ⟨o, hsend, hout⟩ := itcSend_returns (E := E) h hm fuel tid toMbox fromMbox
  simp only [sendOrFree, hsend, bind, Except.bind]
  cases o with
  | none => exact .running
  | some r =>
    cases hout r rfl with
    | rejected _ =>
      obtain ⟨heap', hfree, hdead, hframe, hnext⟩ := itcFree_user hm
      simp only [Bool.false_eq_true, if_false, hfree]
      exact .result ⟨heap', s.sysvmqInst, s.kernel, h.layout.sysvmqInst, ⟨hdead, hframe, hnext⟩,
        rfl⟩
    | host _ hhost =>
      cases hhost with
      | inactive hinactive =>
        obtain ⟨i, hi, -⟩ := hinactive
        rw [hremote] at hi
        cases hi
      | queued _ _ _ hfind =>
        rw [hremote] at hfind
        cases hfind
      | refused _ _ _ hconf hheap =>
        obtain ⟨heap₂, hfree, hdead, hframe, hnext⟩ := itcFreeZz_user hheap.self
        simp only [Bool.false_eq_true, if_false, itcFree, setSysvmq_heap, hfree, bind, Except.bind]
        exact .result ⟨heap₂, _, _, hconf, hheap.trans ⟨hdead, hframe, hnext⟩, rfl⟩
      | taken _ _ _ hconf _ hheap =>
        simp only [if_true, hremote, notifyReceiver]
        exact .result ⟨_, _, _, hconf, hheap, rfl⟩

/-- Names within the limit fit a message. -/
theorem name_fits (a : Allocator) {name : CString} (hname : name.strlen < ITC_MAX_NAME_LENGTH) :
    offMboxname + name.strlen + 1 + ITC_HEADER_SIZE + 1 ≤ a.maxMallocsize := by
  have hge := a.ge
  simp only [ITC_MAX_NAME_LENGTH, offMboxname, ITC_HEADER_SIZE, ITC_MAX_MSGSIZE] at *
  omega

/-- **Notifying the coordinator leaves no message behind** and changes no mailbox. -/
theorem notifyCoord_returns {name : CString} (h : s.Inv q)
    (hname : name.strlen < ITC_MAX_NAME_LENGTH) (fuel tid : Nat) (msgno : UInt32)
    (mboxId : MboxId) :
    Returns (notifyCoord E fuel s tid msgno mboxId name) fun s' =>
      ∃ heap' inst k, inst.Configured ∧ (∀ p, heap'.cells p = s.heap.cells p) ∧
        s' = s.setSysvmq inst k heap' := by
  unfold notifyCoord
  split
  · exact .result ⟨s.heap, s.sysvmqInst, s.kernel, h.layout.sysvmqInst, fun _ => rfl, rfl⟩
  · rename_i hother
    obtain ⟨m, hm, -⟩ := idNameMsg_ok E.endian E.malloc msgno mboxId (name_fits E.malloc hname)
    have hinv : (s.alloc m.msg).2.Inv q :=
      h.ofHeap (h.messages.alloc m.msg) h.layout.sysvmqInst
    have hremote : findMbox (s.alloc m.msg).2 s.itccoordMboxId = none := by
      have hne : ¬ s.itccoordMboxId &&& s.itccoordMask = s.myMboxIdInItccoord := Ne.symm hother
      exact if_neg hne
    obtain ⟨o, hsend, hout⟩ := sendOrFree_remote (E := E) (p := s.heap.next) hinv
      (Heap.push_next s.heap m.msg) hremote fuel tid mboxId
    simp only [hm, bind, Except.bind]
    have hcall : sendOrFree E fuel (s.alloc m.msg).2 tid (s.alloc m.msg).1
        (s.alloc m.msg).2.itccoordMboxId mboxId = .ok o := hsend
    rw [hcall]
    cases o with
    | none => exact .running
    | some r =>
      obtain ⟨heap', inst, k, hconf, hheap, hs'⟩ := hout r rfl
      refine .result ⟨heap', inst, k, hconf, fun p => ?_, hs'⟩
      by_cases hp : p = s.heap.next
      · rw [hp, hheap.self, s.heap.fresh _ (Nat.le_refl _)]
      · rw [hheap.frame p hp]
        exact Heap.push_of_ne _ _ hp

/-! ## Receiving -/

section Receive

variable {tid me : Nat} (h : s.Inv q) (ht : s.myThreadlocalMbox tid = some me)

include h ht

theorem itcReceive_empty (hq : q me = some []) :
    ∃ rxq, itcReceive s tid = .ok (some (none,
        (s.setLocal (s.localInst.setRxq me rxq) s.heap).setRxqInfo me
          { (s.mboxes me).rxqInfo with isInRx := false })) ∧
      ((s.setLocal (s.localInst.setRxq me rxq) s.heap).setRxqInfo me
          { (s.mboxes me).rxqInfo with isInRx := false }).Inv q := by
  obtain ⟨hlt, hp⟩ := h.slots.queue me (by rw [hq]; exact Option.some_ne_none _)
  obtain ⟨rxq, hrecv, hholds⟩ :=
    localReceive_nil h.holds (h.layout.findLocal_id hlt) s.heap hq
  have hupdate : Function.update q me (some []) = q := by rw [← hq, Function.update_eq_self]
  refine ⟨rxq, ?_, ?_⟩
  · simp only [itcReceive, ht, hp, not_true_eq_false, if_false, hrecv, bind, Except.bind]
    rfl
  · have hholds' : (s.localInst.setRxq me rxq).Holds (Function.update q me (some [])) := by
      rw [hupdate]
      exact hholds
    have hmessages : Messages s.heap (Function.update q me (some [])) := by
      rw [hupdate]
      exact h.messages
    have hinv := h.setQueue { (s.mboxes me).rxqInfo with isInRx := false } hq hholds' hmessages
    rwa [hupdate] at hinv

theorem itcReceive_first {p : Nat} {l : List Nat} (hq : q me = some (p :: l)) :
    ∃ (m : UserMessage) (rxq : RxQueue) (heap' : Heap ItcMessage),
      s.heap.cells p = some m.queued ∧ OnlyAt s.heap heap' p (some m.msg) ∧
      itcReceive s tid = .ok ((s.mboxes me).rxqInfo.onReceive.map fun info =>
        (some p, (s.setLocal (s.localInst.setRxq me rxq) heap').setRxqInfo me info)) ∧
      ∀ info, ((s.setLocal (s.localInst.setRxq me rxq) heap').setRxqInfo me info).Inv
        (Function.update q me (some l)) := by
  obtain ⟨hlt, hp⟩ := h.slots.queue me (by rw [hq]; exact Option.some_ne_none _)
  obtain ⟨m, hm⟩ := h.messages.queued me _ hq p List.mem_cons_self
  obtain ⟨rxq, heap', hrecv, hholds, hself, hframe, hnext⟩ :=
    localReceive_cons h.holds (h.layout.findLocal_id hlt) hq hm
  refine ⟨m, rxq, heap', hm, ⟨hself, hframe, hnext⟩, ?_, fun info =>
    h.setQueue info hq hholds (h.messages.dequeue hq hframe)⟩
  simp only [itcReceive, ht, hp, not_true_eq_false, if_false, hrecv, bind, Except.bind]
  cases (s.mboxes me).rxqInfo.onReceive with
  | none => rfl
  | some info => rfl

theorem itcReceive_message {p : Nat} {l : List Nat} (hq : q me = some (p :: l))
    (hcounts : (s.mboxes me).rxqInfo.Counts (p :: l).length) :
    ∃ (m : UserMessage) (rxq : RxQueue) (heap' : Heap ItcMessage) (info : RxqInfo),
      s.heap.cells p = some m.queued ∧
      itcReceive s tid = .ok (some (some p,
        (s.setLocal (s.localInst.setRxq me rxq) heap').setRxqInfo me info)) ∧
      OnlyAt s.heap heap' p (some m.msg) ∧ info.Counts l.length ∧
      ((s.setLocal (s.localInst.setRxq me rxq) heap').setRxqInfo me info).Inv
        (Function.update q me (some l)) := by
  obtain ⟨m, rxq, heap', hm, hheap, hcall, hinv⟩ := itcReceive_first h ht hq
  obtain ⟨info, hinfo, hcounts', -⟩ := hcounts.onReceive
  rw [hinfo] at hcall
  exact ⟨m, rxq, heap', info, hm, hcall, hheap, hcounts', hinv info⟩

theorem itcGetFd_spec {l : List Nat} (hq : q me = some l) :
    itcGetFd s tid = .ok (s.setRxqInfo me (s.mboxes me).rxqInfo.onGetFd) ∧
      (s.setRxqInfo me (s.mboxes me).rxqInfo.onGetFd).Inv q := by
  have hne : q me ≠ none := by rw [hq]; exact Option.some_ne_none _
  obtain ⟨-, hp⟩ := h.slots.queue me hne
  refine ⟨?_, h.setRxqInfo fun hnone => absurd hnone hne⟩
  simp only [itcGetFd, ht, hp, not_true_eq_false, if_false]

end Receive

/-- What `itc_get_fd_zz` has done: nothing, or read the counter of the caller's own mailbox. -/
theorem itcGetFd_cases (h : s.Inv q) {tid : Nat} {s' : ItcInstance σ}
    (hcall : itcGetFd s tid = .ok s') :
    s' = s ∨ ∃ me l, s.myThreadlocalMbox tid = some me ∧ q me = some l ∧
      s' = s.setRxqInfo me (s.mboxes me).rxqInfo.onGetFd ∧ s'.Inv q := by
  cases ht : s.myThreadlocalMbox tid with
  | none =>
    rw [itcGetFd, ht] at hcall
    cases hcall
    exact .inl rfl
  | some me =>
    obtain ⟨l, hq⟩ := Option.ne_none_iff_exists'.mp (h.slots.thread tid me ht)
    obtain ⟨hspec, hinv⟩ := itcGetFd_spec h ht hq
    rw [hspec] at hcall
    cases hcall
    exact .inr ⟨me, l, rfl, hq, rfl, hinv⟩

theorem itcGetFd_inv (h : s.Inv q) {tid : Nat} {s' : ItcInstance σ}
    (hcall : itcGetFd s tid = .ok s') : s'.Inv q ∧ s'.heap = s.heap := by
  rcases itcGetFd_cases h hcall with rfl | ⟨me, l, -, -, rfl, hinv⟩
  · exact ⟨h, rfl⟩
  · exact ⟨hinv, rfl⟩

/-- What an attempt of `itc_receive_zz` has done: found nothing, or taken the first message. -/
inductive Received (s : ItcInstance σ) (q : Queues) (tid : Nat) :
    Option Nat × ItcInstance σ → Prop where
  | nothing {s' : ItcInstance σ} (hempty : ∀ me, s.myThreadlocalMbox tid = some me → q me = some [])
      (hinv : s'.Inv q) (hheap : s'.heap = s.heap) : Received s q tid (none, s')
  | message {s' : ItcInstance σ} {me p : Nat} {l : List Nat} {m : UserMessage}
      (ht : s.myThreadlocalMbox tid = some me) (hq : q me = some (p :: l))
      (hm : s.heap.cells p = some m.queued) (hinv : s'.Inv (Function.update q me (some l)))
      (hheap : OnlyAt s.heap s'.heap p (some m.msg)) : Received s q tid (some p, s')

theorem itcReceive_returns (h : s.Inv q) (tid : Nat) :
    Returns (itcReceive s tid) (Received s q tid) := by
  cases ht : s.myThreadlocalMbox tid with
  | none =>
    simp only [itcReceive, ht]
    exact .result (.nothing (fun me hme => by rw [ht] at hme; cases hme) h rfl)
  | some me =>
    obtain ⟨l, hq⟩ := Option.ne_none_iff_exists'.mp (h.slots.thread tid me ht)
    cases l with
    | nil =>
      obtain ⟨rxq, hcall, hinv⟩ := itcReceive_empty h ht hq
      rw [hcall]
      refine .result (.nothing (fun me' hme => ?_) hinv rfl)
      rw [ht] at hme
      cases hme
      exact hq
    | cons p l =>
      obtain ⟨m, rxq, heap', hm, hheap, hcall, hinv⟩ := itcReceive_first h ht hq
      rw [hcall]
      cases (s.mboxes me).rxqInfo.onReceive with
      | none => exact .running
      | some info => exact .result (.message ht hq hm (hinv info) hheap)

/-! ## Creating a mailbox -/

theorem insertMboxToTree_eq (E : ItcEnv σ) (s : ItcInstance σ) (mbox : Nat) :
    ∃ t, insertMboxToTree E s mbox = s.setTree t := by
  simp only [insertMboxToTree]
  split
  · exact ⟨s.localLocatingMboxTree, rfl⟩
  · exact ⟨_, rfl⟩

theorem removeMboxFromTree_eq (E : ItcEnv σ) (s : ItcInstance σ) (mbox : Nat) :
    ∃ t, removeMboxFromTree E s mbox = s.setTree t := by
  simp only [removeMboxFromTree]
  split
  · exact ⟨s.localLocatingMboxTree, rfl⟩
  · exact ⟨_, rfl⟩

/-- The process with mailbox `i` handed to thread `tid`. -/
def ItcInstance.claim (s : ItcInstance σ) (tid i : Nat) (rest : List Nat) (mbox : ItcMailbox)
    (inst : LocalInst) (t : SearchTree.Tree Nat) : ItcInstance σ :=
  ((((s.setFree rest).setMbox i mbox).setLocal inst s.heap).setTree t).setThread tid (some i)

theorem ItcInstance.Inv.claim (h : s.Inv q) {i : Nat} {rest : List Nat} {inst : LocalInst}
    (tid : Nat) (name : CString) (flags : UInt32) (t : SearchTree.Tree Nat)
    (hfree : s.freeMboxesQueue = i :: rest) (hname : name.strlen < ITC_MAX_NAME_LENGTH)
    (hconf : inst.Configured s.myMboxIdInItccoord s.nrMboxes)
    (hholds : inst.Holds (Function.update q i (some []))) :
    (s.claim tid i rest ((s.mboxes i).create tid name flags) inst t).Inv
      (Function.update q i (some [])) := by
  obtain ⟨hlt, hq⟩ := h.slots.free i (by rw [hfree]; exact List.mem_cons_self)
  have hnd := h.slots.freeNodup
  rw [hfree] at hnd
  obtain ⟨hi, hnd⟩ := List.nodup_cons.mp hnd
  have hlayout : (s.setMbox i ((s.mboxes i).create tid name flags)).Layout :=
    h.layout.setMbox rfl
  refine ⟨{ hlayout with localInst := hconf }, hholds, h.messages.create i, ?_⟩
  have hself : (s.claim tid i rest ((s.mboxes i).create tid name flags) inst t).mboxes i =
      (s.mboxes i).create tid name flags := if_pos rfl
  have hother : ∀ j, j ≠ i → (s.claim tid i rest ((s.mboxes i).create tid name flags)
      inst t).mboxes j = s.mboxes j := fun j hj => if_neg hj
  have hthread : ∀ u, (s.claim tid i rest ((s.mboxes i).create tid name flags)
      inst t).myThreadlocalMbox u = if u = tid then some i else s.myThreadlocalMbox u :=
    fun u => rfl
  refine ⟨?_, ?_, ?_, hnd, ?_, ?_, ?_, ?_⟩
  · intro j hj
    by_cases hji : j = i
    · rw [hji, hself]
      exact ⟨hlt, rfl⟩
    · rw [Function.update_of_ne hji] at hj
      rw [hother j hji]
      exact h.slots.queue j hj
  · intro j hj hinuse
    by_cases hji : j = i
    · rw [hji, Function.update_self]
      exact Option.some_ne_none _
    · rw [hother j hji] at hinuse
      rw [Function.update_of_ne hji]
      exact h.slots.inuse j hj hinuse
  · intro j hj
    by_cases hji : j = i
    · rw [hji, Function.update_self] at hj
      cases hj
    · rw [Function.update_of_ne hji] at hj
      rw [hother j hji]
      exact h.slots.closed j hj
  · intro j hj
    have hji : j ≠ i := fun heq => hi (heq ▸ hj)
    rw [Function.update_of_ne hji]
    exact h.slots.free j (by rw [hfree]; exact List.mem_cons_of_mem _ hj)
  · intro u j hu
    rw [hthread] at hu
    by_cases hji : j = i
    · rw [hji, Function.update_self]
      exact Option.some_ne_none _
    · rw [Function.update_of_ne hji]
      split at hu
      · cases hu
        exact absurd rfl hji
      · exact h.slots.thread u j hu
  · intro u v j hu hv
    rw [hthread] at hu hv
    split at hu
    · rename_i hu'
      split at hv
      · rename_i hv'
        rw [hu', hv']
      · cases hu
        exact absurd hq (h.slots.thread v _ hv)
    · split at hv
      · cases hv
        exact absurd hq (h.slots.thread u _ hu)
      · exact h.slots.threadInj u v j hu hv
  · intro j
    by_cases hji : j = i
    · rw [hji, hself]
      exact hname
    · rw [hother j hji]
      exact h.slots.names j

/-- What `itc_create_mailbox_zz` has done: nothing, or it has handed out a free mailbox. -/
inductive Created (s : ItcInstance σ) (q : Queues) (tid : Nat) (name : CString)
    (flags : UInt32) : MboxId × ItcInstance σ → Prop where
  | failed : Created s q tid name flags (ITC_NO_MBOX_ID, s)
  | created {i : Nat} {rest : List Nat} {s' : ItcInstance σ}
      (ht : s.myThreadlocalMbox tid = none) (hfree : s.freeMboxesQueue = i :: rest)
      (hinv : s'.Inv (Function.update q i (some [])))
      (hheap : ∀ p, s'.heap.cells p = s.heap.cells p)
      (hmboxes : s'.mboxes =
        fun j => if j = i then (s.mboxes i).create tid name flags else s.mboxes j)
      (hnr : s'.nrMboxes = s.nrMboxes)
      (hthread : s'.myThreadlocalMbox =
        fun t => if t = tid then some i else s.myThreadlocalMbox t) :
      Created s q tid name flags ((s.mboxes i).mboxId, s')

/-- A free mailbox is claimed, and the coordinator told about it. -/
theorem announce_returns {name : CString} {i tid : Nat} {rest : List Nat} (h : s.Inv q)
    (ht : s.myThreadlocalMbox tid = none) (hfree : s.freeMboxesQueue = i :: rest)
    (hname : name.strlen < ITC_MAX_NAME_LENGTH) (fuel : Nat) (flags : UInt32)
    (t : SearchTree.Tree Nat) :
    Returns (do
      let some s' ← notifyCoord E fuel (((((s.setFree rest).setMbox i
          ((s.mboxes i).create tid name flags)).setLocal (s.localInst.setData i
          ⟨(s.mboxes i).mboxId, flags, some initQueue⟩) s.heap).setTree t).setThread tid (some i))
          tid ITC_NOTIFY_COORD_ADD_MBOX (s.mboxes i).mboxId name
        | return none
      return some ((s.mboxes i).mboxId, s')) (Created s q tid name flags) := by
  obtain ⟨hlt, hq⟩ := h.slots.free i (by rw [hfree]; exact List.mem_cons_self)
  obtain ⟨-, hholds⟩ := localCreateMbox_spec h.holds (h.layout.findLocal_id hlt) flags hq
  have hconf := h.layout.localInst.setData i ⟨(s.mboxes i).mboxId, flags, some initQueue⟩
  have hinv := h.claim tid name flags t hfree hname hconf hholds
  obtain ⟨o, hnotify, hout⟩ := notifyCoord_returns (E := E) hinv hname fuel tid
    ITC_NOTIFY_COORD_ADD_MBOX (s.mboxes i).mboxId
  have hcall : notifyCoord E fuel (((((s.setFree rest).setMbox i
      ((s.mboxes i).create tid name flags)).setLocal (s.localInst.setData i
      ⟨(s.mboxes i).mboxId, flags, some initQueue⟩) s.heap).setTree t).setThread tid (some i))
      tid ITC_NOTIFY_COORD_ADD_MBOX (s.mboxes i).mboxId name = .ok o := hnotify
  simp only [hcall, bind, Except.bind]
  cases o with
  | none => exact .running
  | some s' =>
    obtain ⟨heap', inst, k, hconf', hcells, rfl⟩ := hout s' rfl
    refine .result (.created ht hfree ?_ hcells rfl rfl rfl)
    exact hinv.ofHeap (hinv.messages.frame fun _ _ _ p _ => hcells p) hconf'

theorem itcCreateMailbox_returns {name : CString} (h : s.Inv q)
    (hname : name.strlen < ITC_MAX_NAME_LENGTH) (fuel tid : Nat) (flags : UInt32) :
    Returns (itcCreateMailbox E fuel s tid name flags) (Created s q tid name flags) := by
  unfold itcCreateMailbox
  cases ht : s.myThreadlocalMbox tid with
  | some _ => exact .result .failed
  | none =>
    cases hfree : s.freeMboxesQueue with
    | nil => exact .result .failed
    | cons i rest =>
      obtain ⟨hlt, hq⟩ := h.slots.free i (by rw [hfree]; exact List.mem_cons_self)
      obtain ⟨hcreate, -⟩ := localCreateMbox_spec h.holds (h.layout.findLocal_id hlt) flags hq
      have hlong : ¬ name.strlen > ITC_MAX_NAME_LENGTH := by omega
      have hfull : ¬ name.strlen + 1 > ITC_MAX_NAME_LENGTH := by omega
      obtain ⟨t, htree⟩ := insertMboxToTree_eq E
        (((s.setFree rest).setMbox i ((s.mboxes i).create tid name flags)).setLocal
          (s.localInst.setData i ⟨(s.mboxes i).mboxId, flags, some initQueue⟩) s.heap) i
      simp only [if_neg hlong, if_neg hfull, setFree_localInst, setFree_mboxes,
        ItcMailbox.create_mboxId, hcreate, setFree_heap, ne_eq, not_true_eq_false, if_false, htree]
      exact announce_returns h ht hfree hname fuel flags t

/-! ## Deleting a mailbox -/

/-- The process once thread `tid` has given its mailbox `me` back. -/
def ItcInstance.giveBack (s : ItcInstance σ) (tid me : Nat) (inst : LocalInst)
    (heap : Heap ItcMessage) : ItcInstance σ :=
  (((s.setLocal inst heap).setMbox me (s.mboxes me).clear).setFree
    (s.freeMboxesQueue ++ [me])).setThread tid none

theorem ItcInstance.Inv.giveBack (h : s.Inv q) {tid me : Nat} {l : List Nat}
    {r : UInt32 × LocalInst × Heap ItcMessage} (ht : s.myThreadlocalMbox tid = some me)
    (hq : q me = some l) (hstate : (s.mboxes me).mboxState = .unused)
    (hfd : (s.mboxes me).rxqInfo.isFdCreated = false)
    (hdel : LocalDeleted s.localInst q s.heap me l r) :
    (s.giveBack tid me r.2.1 r.2.2).Inv (Function.update q me none) := by
  have hne : q me ≠ none := by rw [hq]; exact Option.some_ne_none l
  obtain ⟨hlt, -⟩ := h.slots.queue me hne
  have hlayout : (s.setMbox me (s.mboxes me).clear).Layout := h.layout.setMbox rfl
  have hconf : r.2.1.Configured s.myMboxIdInItccoord s.nrMboxes := by
    rw [hdel.inst]
    exact h.layout.localInst.setData me _
  refine ⟨{ hlayout with localInst := hconf }, hdel.holds, h.messages.delete hq hdel.frame, ?_⟩
  have hself : (s.giveBack tid me r.2.1 r.2.2).mboxes me = (s.mboxes me).clear := if_pos rfl
  have hother : ∀ j, j ≠ me → (s.giveBack tid me r.2.1 r.2.2).mboxes j = s.mboxes j :=
    fun j hj => if_neg hj
  have hthread : ∀ u, (s.giveBack tid me r.2.1 r.2.2).myThreadlocalMbox u =
      if u = tid then none else s.myThreadlocalMbox u := fun u => rfl
  have hfree : (s.giveBack tid me r.2.1 r.2.2).freeMboxesQueue = s.freeMboxesQueue ++ [me] := rfl
  refine ⟨?_, ?_, ?_, ?_, ?_, ?_, ?_, ?_⟩
  · intro j hj
    by_cases hjm : j = me
    · rw [hjm, Function.update_self] at hj
      exact absurd rfl hj
    · rw [Function.update_of_ne hjm] at hj
      rw [hother j hjm]
      exact h.slots.queue j hj
  · intro j hj hinuse
    by_cases hjm : j = me
    · rw [hjm, hself, ItcMailbox.clear_mboxState, hstate] at hinuse
      cases hinuse
    · rw [hother j hjm] at hinuse
      rw [Function.update_of_ne hjm]
      exact h.slots.inuse j hj hinuse
  · intro j hj
    by_cases hjm : j = me
    · rw [hjm, hself]
      exact hfd
    · rw [Function.update_of_ne hjm] at hj
      rw [hother j hjm]
      exact h.slots.closed j hj
  · rw [hfree]
    refine List.nodup_append.mpr ⟨h.slots.freeNodup, List.nodup_singleton me, ?_⟩
    intro x hx y hy
    rw [List.mem_singleton.mp hy]
    intro heq
    rw [heq] at hx
    exact hne (h.slots.free me hx).2
  · intro j hj
    rw [hfree] at hj
    rcases List.mem_append.mp hj with hj | hj
    · have hjm : j ≠ me := fun heq => hne (h.slots.free me (heq ▸ hj)).2
      rw [Function.update_of_ne hjm]
      exact h.slots.free j hj
    · rw [List.mem_singleton.mp hj, Function.update_self]
      exact ⟨hlt, rfl⟩
  · intro u j hu
    rw [hthread] at hu
    split at hu
    · cases hu
    · rename_i hut
      have hjm : j ≠ me := fun heq => hut (h.slots.threadInj u tid me (heq ▸ hu) ht)
      rw [Function.update_of_ne hjm]
      exact h.slots.thread u j hu
  · intro u v j hu hv
    rw [hthread] at hu hv
    split at hu
    · cases hu
    · split at hv
      · cases hv
      · exact h.slots.threadInj u v j hu hv
  · intro j
    by_cases hjm : j = me
    · rw [hjm, hself, ItcMailbox.clear_name]
      decide
    · rw [hother j hjm]
      exact h.slots.names j

/-- What `itc_delete_mailbox_zz` has done: nothing, or it has discarded the messages of the
thread's mailbox and given it back. -/
inductive Deleted (s : ItcInstance σ) (q : Queues) (tid : Nat) (mboxId : MboxId) :
    Bool × ItcInstance σ → Prop where
  | failed (hno : ∀ me, s.myThreadlocalMbox tid = some me → mboxId ≠ (s.mboxes me).mboxId) :
      Deleted s q tid mboxId (false, s)
  | deleted {me : Nat} {l : List Nat} {s' : ItcInstance σ}
      (ht : s.myThreadlocalMbox tid = some me) (hid : mboxId = (s.mboxes me).mboxId)
      (hq : q me = some l)
      (hinv : s'.Inv (Function.update q me none)) (hfreed : ∀ p ∈ l, s'.heap.cells p = none)
      (hheap : ∀ p, p ∉ l → s'.heap.cells p = s.heap.cells p)
      (hmboxes : s'.mboxes =
        fun j => if j = me then (s.mboxes me).close.clear else s.mboxes j)
      (hnr : s'.nrMboxes = s.nrMboxes)
      (hthread : s'.myThreadlocalMbox =
        fun t => if t = tid then none else s.myThreadlocalMbox t) :
      Deleted s q tid mboxId (true, s')

theorem itcDeleteMailbox_returns (h : s.Inv q) (fuel tid : Nat) (mboxId : MboxId) :
    Returns (itcDeleteMailbox E fuel s tid mboxId) (Deleted s q tid mboxId) := by
  unfold itcDeleteMailbox
  cases ht : s.myThreadlocalMbox tid with
  | none =>
    refine .result (.failed ?_)
    intro me hme
    rw [ht] at hme
    cases hme
  | some me =>
    by_cases hid : mboxId = (s.mboxes me).mboxId
    · have hne := h.slots.thread tid me ht
      obtain ⟨l, hq⟩ := Option.ne_none_iff_exists'.mp hne
      obtain ⟨hlt, hp⟩ := h.slots.queue me hne
      obtain ⟨t, htree⟩ := removeMboxFromTree_eq E s me
      have htreeInv : (s.setTree t).Inv q := ⟨⟨h.layout.my, h.layout.mask, h.layout.nrPos,
        h.layout.nrLt, h.layout.localMask, h.layout.ids, h.layout.localInst, h.layout.sysvmqInst⟩,
        h.holds, h.messages, ⟨h.slots.queue, h.slots.inuse, h.slots.closed, h.slots.freeNodup,
        h.slots.free, h.slots.thread, h.slots.threadInj, h.slots.names⟩⟩
      have hinv : ((s.setTree t).setMbox me (s.mboxes me).close).Inv q :=
        ⟨htreeInv.layout.setMbox rfl, h.holds, h.messages,
          htreeInv.slots.setMbox rfl (fun hs => by cases hs) (fun _ => rfl) rfl⟩
      have hclose : ((s.setTree t).setMbox me (s.mboxes me).close).mboxes me =
          (s.mboxes me).close := if_pos rfl
      obtain ⟨o, hnotify, hout⟩ := notifyCoord_returns (E := E) hinv (hinv.slots.names me) fuel tid
        ITC_NOTIFY_COORD_RMV_MBOX mboxId
      simp only [hp, hid, htree, setTree_mboxes, ne_eq, not_true_eq_false, if_false]
      rw [hid] at hnotify
      rw [hnotify]
      simp only [bind, Except.bind]
      cases o with
      | none => exact .running
      | some s₁ =>
        obtain ⟨heap₁, inst₁, k₁, hconf₁, hcells₁, rfl⟩ := hout s₁ rfl
        have hinv₁ := hinv.ofHeap (hinv.messages.frame fun _ _ _ p _ => hcells₁ p) hconf₁
          (k := k₁)
        have hfind := hinv₁.layout.findLocal_id hlt
        obtain ⟨o, hdelete, hout₁⟩ := localDeleteMbox_returns hinv₁.holds hfind hq
          (h.messages.nodup me l hq) (hinv₁.messages.queued me l hq) fuel
        have hself : (((s.setTree t).setMbox me (s.mboxes me).close).setSysvmq inst₁ k₁
            heap₁).mboxes me = (s.mboxes me).close := hclose
        rw [hself, ItcMailbox.close_mboxId] at hdelete
        simp only [hdelete]
        cases o with
        | none => exact .running
        | some r =>
          have hdel := hout₁ r rfl
          obtain ⟨rc, inst', heap'⟩ := r
          have hrc : rc = ITC_OK := hdel.rc
          simp only [hrc, not_true_eq_false, if_false]
          have hstate := congrArg ItcMailbox.mboxState hself
          have hfd := congrArg (fun mbox : ItcMailbox => mbox.rxqInfo.isFdCreated) hself
          have hback := hinv₁.giveBack ht hq hstate hfd hdel
          refine .result (.deleted ht rfl hq hback hdel.freed ?_ ?_ rfl rfl)
          · intro p hp
            exact (hdel.frame p hp).trans (hcells₁ p)
          · funext j
            by_cases hjm : j = me
            · rw [if_pos hjm, hjm]
              exact (if_pos rfl).trans (congrArg ItcMailbox.clear hself)
            · rw [if_neg hjm]
              exact (if_neg hjm).trans (if_neg hjm)
    · simp only [hid, ne_eq, not_false_eq_true, if_true]
      refine .result (.failed ?_)
      intro me' hme'
      rw [ht] at hme'
      cases hme'
      exact hid

end ItcFramework
