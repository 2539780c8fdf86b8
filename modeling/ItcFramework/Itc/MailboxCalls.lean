import ItcFramework.Itc.Accounting
import ItcFramework.Itc.MailboxThreads

/-!
# Calls on a mailbox happen at once

The calls of a process are atomic steps in `Itc/Process.lean`. This is how the threads of a mailbox
see them, statement by statement and in any interleaving: a call takes effect when its thread takes
the mutex.

* `finishCall` — what the critical section at a place does, `mailbox_finishes` — so the code.
* `Shows` — the process shows the mailbox to its threads.
* `finishCall_shows` — a critical section is a call of the process, or none.
* `mailbox_threads_refine` — every run of the threads is a run of the process.
-/

set_option autoImplicit false

namespace ItcFramework

open ByteImage HeapModel Transition Monitor ItcInstance LoggedMailbox MailboxPlace

/-! ## Critical sections -/

def finishNotInRx (message : Option Nat) (d : LoggedMailbox) : LoggedMailbox :=
  (d.setInfo (d.mbox.rxqInfo.setInRx false)).logReturned message

def finishEventfd (message : Nat) (d : LoggedMailbox) : LoggedMailbox :=
  match d.mbox.rxqInfo.readFd with
  | none => d
  | some info => finishNotInRx (some message) (d.setInfo info)

def finishRxqLen (message : Nat) (d : LoggedMailbox) : LoggedMailbox :=
  finishEventfd message (d.setInfo d.mbox.rxqInfo.decLen)

def finishReceive (tmo : Int) (d : LoggedMailbox) : LoggedMailbox :=
  match d.localReceive with
  | none => d
  | some (some message, d) => finishRxqLen message d
  | some (none, d) => if tmo = ITC_NO_WAIT then finishNotInRx none d else d

def finishSend (d : LoggedMailbox) : LoggedMailbox :=
  d.setInfo d.mbox.rxqInfo.writeFd.incLen

/-- What the critical section that is at a place makes of the mailbox. -/
def finishCall : MailboxPlace → LoggedMailbox → LoggedMailbox
  | sendLocal message, d => ((d.localSend message).map finishSend).getD d
  | sendEventfd, d => finishSend d
  | sendRxqLen, d => d.setInfo d.mbox.rxqInfo.incLen
  | recvIsInRx tmo, d => finishReceive tmo (d.setInfo (d.mbox.rxqInfo.setInRx true))
  | recvLocal tmo, d => finishReceive tmo d
  | recvRxqLen message, d => finishRxqLen message d
  | recvEventfd message, d => finishEventfd message d
  | recvNotInRx _ message, d => finishNotInRx message d
  | recvNothing, d => finishNotInRx none d
  | getFdEventfd, d => d.setInfo d.mbox.rxqInfo.onGetFd
  | _, d => d

theorem finishNotInRx_none (d : LoggedMailbox) :
    finishNotInRx none d = d.setInfo (d.mbox.rxqInfo.setInRx false) := by
  simp only [finishNotInRx, logReturned, Option.toList_none, List.append_nil]

theorem mailbox_finishes : Finishes mailboxOutline mailboxCode finishCall where
  unlock k next d hcode := by
    cases k with
    | sendUnlock | recvUnlock _ _ | recvUnlockNothing | getFdUnlock => rfl
    | _ => cases hcode
  wait k woken expired d hcode := by
    cases k with
    | recvWait _ => rfl
    | _ => cases hcode
  signal k next d hcode := by
    cases k with
    | sendSignal =>
      cases hcode
      rfl
    | _ => cases hcode
  access k f d next d' hcode _ hf := by
    cases k with
    | sendLocal message =>
      cases hcode
      obtain ⟨d₁, hd₁, heq⟩ := Option.map_eq_some_iff.mp hf
      cases heq
      simp only [finishCall, hd₁, Option.map_some, Option.getD_some]
    | sendEventfd | sendRxqLen | recvIsInRx _ | recvRxqLen _ | recvNotInRx _ _ | getFdEventfd =>
      cases hcode
      cases hf
      rfl
    | recvNothing =>
      cases hcode
      cases hf
      exact finishNotInRx_none d
    | recvEventfd message =>
      cases hcode
      obtain ⟨info, hinfo, heq⟩ := Option.map_eq_some_iff.mp hf
      cases heq
      simp only [finishCall, finishEventfd, hinfo]
    | recvLocal tmo =>
      cases hcode
      obtain ⟨⟨r, d₁⟩, hd₁, heq⟩ := Option.map_eq_some_iff.mp hf
      cases r with
      | some message =>
        cases heq
        simp only [finishCall, finishReceive, hd₁]
      | none =>
        simp only [Prod.mk.injEq] at heq
        obtain ⟨rfl, rfl⟩ := heq
        simp only [finishCall, finishReceive, hd₁]
        split
        · rfl
        · rfl
    | _ => cases hcode

/-! ## The process -/

/-- Two views of the counters that differ in `is_in_rx` at most, which nothing reads. -/
def RxqInfo.Alike (info info' : RxqInfo) : Prop := info.setInRx false = info'.setInRx false

namespace RxqInfo.Alike

variable {info info' : RxqInfo}

theorem setInRx (h : info.Alike info') (isInRx : Bool) : info.Alike (info'.setInRx isInRx) := h

theorem onSend (h : info.Alike info') : info.onSend.Alike info'.writeFd.incLen := by
  obtain ⟨rxqFd, isFdCreated, rxqLen, isInRx⟩ := info
  obtain ⟨rxqFd', isFdCreated', rxqLen', isInRx'⟩ := info'
  cases h
  rfl

theorem onGetFd (h : info.Alike info') : info.onGetFd.Alike info'.onGetFd := by
  obtain ⟨rxqFd, isFdCreated, rxqLen, isInRx⟩ := info
  obtain ⟨rxqFd', isFdCreated', rxqLen', isInRx'⟩ := info'
  cases h
  unfold RxqInfo.Alike RxqInfo.onGetFd
  split
  · rfl
  · rfl

theorem onReceive (h : info.Alike info') :
    info.onReceive = info'.decLen.readFd.map fun info => info.setInRx false := by
  obtain ⟨rxqFd, isFdCreated, rxqLen, isInRx⟩ := info
  obtain ⟨rxqFd', isFdCreated', rxqLen', isInRx'⟩ := info'
  cases h
  by_cases hempty : isFdCreated = true ∧ rxqLen - 1 = 0
  · simp [RxqInfo.onReceive, RxqInfo.readFd, RxqInfo.decLen, RxqInfo.setInRx, hempty,
      Function.comp_def]
  · simp [RxqInfo.onReceive, RxqInfo.readFd, RxqInfo.decLen, RxqInfo.setInRx, hempty]

end RxqInfo.Alike

variable {σ : Type} {E : ItcEnv σ}

/-- The process shows the mailbox `i`, which the thread `owner` has, as `d`. -/
structure Shows (owner i : Nat) (t : Traced σ) (q : Queues) (d : LoggedMailbox) : Prop where
  accounted : AccountedBy t.s q t.log
  thread : t.s.myThreadlocalMbox owner = some i
  inuse : (t.s.mboxes i).mboxState = .inuse
  rxq : d.mbox.rxq = q i
  rxqInfo : (t.s.mboxes i).rxqInfo.Alike d.mbox.rxqInfo
  created : (t.s.mboxes i).mboxId ∈ t.log.created
  sent : (t.log.sent (t.s.mboxes i).mboxId).map Prod.fst = d.sent
  returned : (t.log.received (t.s.mboxes i).mboxId).map Prod.fst = d.returned

/-- What the other threads need to send: mailboxes of their own, and the messages. -/
def CanSend (s : ItcInstance σ) (as : List (Event Nat MailboxPlace)) : Prop :=
  ∀ u m, Event.acquire u (sendLocal m) ∈ as → s.myThreadlocalMbox u ≠ none ∧ s.Held m

/-- The messages that are sent. -/
def sends (as : List (Event Nat MailboxPlace)) : List Nat :=
  as.filterMap fun
    | .acquire _ (sendLocal m) => some m
    | _ => none

/-- **A send to a mailbox in use puts the message into its rx queue.** -/
theorem itcSend_inuse {s : ItcInstance σ} {q : Queues} {tid me i p : Nat} {l : List Nat}
    {m : UserMessage} (h : s.Inv q) (hmem : E.qitemMem = true) (fuel : Nat)
    (ht : s.myThreadlocalMbox tid = some me) (hne : me ≠ i)
    (hinuse : (s.mboxes i).mboxState = .inuse) (hq : q i = some l)
    (hm : s.heap.cells p = some m.msg) :
    ∃ s', itcSend E fuel s tid (some p) (s.mboxes i).mboxId ITC_MY_MBOX_ID =
        .ok (some ⟨true, none, some .rxQueue, s'⟩) ∧
      s'.mboxes i = { s.mboxes i with rxqInfo := (s.mboxes i).rxqInfo.onSend } ∧
      s'.myThreadlocalMbox = s.myThreadlocalMbox ∧
      ∀ p', p' ≠ p → s'.heap.cells p' = s.heap.cells p' := by
  obtain ⟨hi, hp⟩ := h.slots.queue i (by rw [hq]; exact Option.some_ne_none l)
  obtain ⟨hme, -⟩ := h.slots.queue me (h.slots.thread tid me ht)
  have hto : (s.mboxes i).mboxId ≠ (s.mboxes me).mboxId :=
    fun heq => hne (h.layout.ids_inj hme hi heq.symm)
  obtain ⟨heap₁, hwrite, hself, hframe, hnext⟩ :=
    Heap.write_of_live (b := m.msg.stamp (s.mboxes me).mboxId (s.mboxes i).mboxId) hm
  have hstamped : OnlyAt s.heap heap₁ p
      (some (m.stamp (s.mboxes me).mboxId (s.mboxes i).mboxId).msg) := ⟨hself, hframe, hnext⟩
  have hfind := h.layout.findMbox_id hi
  have hfind₁ : findMbox (s.setHeap heap₁) (s.mboxes i).mboxId = some i := hfind
  obtain ⟨rxq, heap', htrans, -, hheap⟩ := transSend_local (E := E) (s := s.setHeap heap₁) fuel
    h.holds hmem (h.layout.findLocal_id hi) hq hstamped.self
  refine ⟨(s.setLocal (s.localInst.setRxq i rxq) heap').setRxqInfo i (s.mboxes i).rxqInfo.onSend,
    ?_, setRxqInfo_mboxes_self _ _ _, rfl, (hstamped.trans hheap).frame⟩
  simp only [itcSend, ht, if_neg hto, ne_eq, not_true_eq_false, false_and, if_false,
    sendWithinHost, Heap.read_of_live hm, hwrite, hfind₁, Option.any_some, setHeap_mboxes, hinuse,
    bne_self_eq_false, Bool.false_eq_true, bind, Except.bind, htrans, Option.isSome_some, if_true,
    notifyReceiver, setLocal_mboxes, hp]
  rfl

/-- What `itc_receive_zz` makes of the counters of a mailbox with the messages `l`. -/
def RxqInfo.AfterReceive (info info' : RxqInfo) : List Nat → Prop
  | [] => info' = info.setInRx false
  | _ :: _ => info.onReceive = some info'

/-- **A receive takes the first message of the caller's rx queue**, and touches no message but that. -/
theorem itcReceive_inuse {s : ItcInstance σ} {q : Queues} {tid i : Nat} {l : List Nat}
    (h : s.Inv q) (hcounts : (s.mboxes i).rxqInfo.Counts l.length)
    (ht : s.myThreadlocalMbox tid = some i) (hq : q i = some l) :
    ∃ s' info, itcReceive s tid = .ok (some (l.head?, s')) ∧
      s'.mboxes i = { s.mboxes i with rxqInfo := info } ∧
      (s.mboxes i).rxqInfo.AfterReceive info l ∧
      s'.myThreadlocalMbox = s.myThreadlocalMbox ∧ ∀ p, s.Held p → s'.Held p := by
  cases l with
  | nil =>
    obtain ⟨rxq, hcall, -⟩ := itcReceive_empty h ht hq
    exact ⟨_, _, hcall, setRxqInfo_mboxes_self _ _ _, rfl, rfl, fun p hp => hp⟩
  | cons m l =>
    obtain ⟨c, rxq, heap', hc, hheap, hcall, -⟩ := itcReceive_first h ht hq
    obtain ⟨info, hinfo, -⟩ := hcounts.onReceive
    rw [hinfo] at hcall
    refine ⟨_, info, hcall, setRxqInfo_mboxes_self _ _ _, hinfo, rfl, ?_⟩
    rintro p ⟨c', hc'⟩
    have hp : p ≠ m := by
      rintro rfl
      exact h.messages.not_mem hc' hq List.mem_cons_self
    exact ⟨c', (hheap.frame p hp).trans hc'⟩

namespace Shows

variable {owner i : Nat} {t : Traced σ} {q : Queues} {d : LoggedMailbox}

/-- What the threads have sent and not received is what the process holds. -/
theorem queued (h : Shows owner i t q d) : ∃ l, q i = some l ∧ d.sent = d.returned ++ l := by
  obtain ⟨l, hq⟩ := Option.ne_none_iff_exists'.mp (h.accounted.inv.slots.thread owner i h.thread)
  refine ⟨l, hq, ?_⟩
  rw [← h.sent, ← h.returned, h.accounted.logged.entries i l hq, List.map_append, List.map_map]
  have hfst : Prod.fst ∘ t.s.delivery = id := rfl
  rw [hfst, List.map_id]

/-- The counters change, and nothing else. -/
theorem setInfo (h : Shows owner i t q d) {info : RxqInfo}
    (hinfo : (t.s.mboxes i).rxqInfo.Alike info) : Shows owner i t q (d.setInfo info) :=
  { h with rxqInfo := hinfo }

/-- After a call the log tells the queue. -/
theorem ofLog (h : AccountedBy t.s q t.log) (hthread : t.s.myThreadlocalMbox owner = some i)
    (hinuse : (t.s.mboxes i).mboxState = .inuse)
    (hinfo : (t.s.mboxes i).rxqInfo.Alike d.mbox.rxqInfo)
    (hcreated : (t.s.mboxes i).mboxId ∈ t.log.created)
    (hsent : (t.log.sent (t.s.mboxes i).mboxId).map Prod.fst = d.sent)
    (hreturned : (t.log.received (t.s.mboxes i).mboxId).map Prod.fst = d.returned) {l : List Nat}
    (hrxq : d.mbox.rxq = some l) (hfifo : d.sent = d.returned ++ l) : Shows owner i t q d := by
  refine ⟨h, hthread, hinuse, ?_, hinfo, hcreated, hsent, hreturned⟩
  obtain ⟨l', hq⟩ := Option.ne_none_iff_exists'.mp (h.inv.slots.thread owner i hthread)
  have hentries := congrArg (List.map Prod.fst) (h.logged.entries i l' hq)
  have hfst : Prod.fst ∘ t.s.delivery = id := rfl
  rw [List.map_append, List.map_map, hsent, hreturned, hfst, List.map_id, hfifo] at hentries
  rw [hrxq, hq, List.append_cancel_left hentries]

/-- **The critical section of a sender is a call of `itc_send_zz`.** -/
theorem send (h : Shows owner i t q d) (hmem : E.qitemMem = true) {u m : Nat} (hne : u ≠ owner)
    (hthread : t.s.myThreadlocalMbox u ≠ none) (hheld : t.s.Held m) :
    ∃ a t' q', Guarded (Traced.Step E) Traced.Allowed t a t' ∧
      Shows owner i t' q' (finishCall (sendLocal m) d) ∧
      t'.s.myThreadlocalMbox = t.s.myThreadlocalMbox ∧
      ∀ p, p ≠ m → t.s.Held p → t'.s.Held p := by
  obtain ⟨l, hq, hfifo⟩ := h.queued
  obtain ⟨me, hme⟩ := Option.ne_none_iff_exists'.mp hthread
  obtain ⟨c, hc⟩ := hheld
  have hmei : me ≠ i := by
    rintro rfl
    exact hne (h.accounted.inv.slots.threadInj u owner me hme h.thread)
  obtain ⟨s', hcall, hmbox, hthreads, hframe⟩ :=
    itcSend_inuse h.accounted.inv hmem 0 hme hmei h.inuse hq hc
  have hid : (s'.mboxes i).mboxId = (t.s.mboxes i).mboxId := by rw [hmbox]
  have hmsg : ∀ p, some m = some p → t.s.Held p := by
    rintro p ⟨⟩
    exact ⟨c, hc⟩
  obtain ⟨q', haccounted⟩ := h.accounted.send hmem hmsg h.created hcall
  have hallowed : Traced.Allowed t
      (.send u (some (s'.delivery m)) (t.s.mboxes i).mboxId ITC_MY_MBOX_ID true) := by
    refine ⟨?_, h.created⟩
    rintro dl ⟨⟩
    exact ⟨c, hc⟩
  refine ⟨_, ⟨s', _⟩, q', ⟨hallowed, .send hcall, rfl⟩, ?_, hthreads, ?_⟩
  · simp only [finishCall, LoggedMailbox.localSend, h.rxq, hq, Option.map_some, Option.getD_some]
    refine .ofLog (l := l ++ [m]) haccounted (by rw [hthreads, h.thread])
      (by rw [hmbox, h.inuse]) ?_ ?_ ?_ ?_ rfl ?_
    · rw [hmbox]
      exact h.rxqInfo.onSend
    · rw [hid]
      exact h.created
    · rw [hid]
      simp only [Function.update_self, List.map_append, h.sent]
      rfl
    · rw [hid]
      exact h.returned
    · exact (congrArg (· ++ [m]) hfifo).trans (List.append_assoc _ _ _)
  · rintro p hp ⟨c', hc'⟩
    exact ⟨c', (hframe p hp).trans hc'⟩

/-- **The critical section of the receiver is a call of `itc_receive_zz`**, or it goes to sleep. -/
theorem receive (h : Shows owner i t q d) (tmo : Int) :
    ∃ as t' q', Run (Guarded (Traced.Step E) Traced.Allowed) t as t' ∧
      Shows owner i t' q' (finishReceive tmo d) ∧
      t'.s.myThreadlocalMbox = t.s.myThreadlocalMbox ∧ ∀ p, t.s.Held p → t'.s.Held p := by
  obtain ⟨l, hq, hfifo⟩ := h.queued
  by_cases hsleep : l = [] ∧ tmo ≠ ITC_NO_WAIT
  · refine ⟨[], t, q, .nil _, ?_, rfl, fun _ => id⟩
    simpa only [finishReceive, LoggedMailbox.localReceive, h.rxq, hq, hsleep.1, Option.map_some,
      if_neg hsleep.2] using h
  · obtain ⟨s', info, hcall, hmbox, hinfo, hthreads, hheld⟩ := itcReceive_inuse h.accounted.inv
      (h.accounted.accounting i l hq) h.thread hq
    obtain ⟨s₁, q', hcall₁, haccounted⟩ := h.accounted.receive h.thread hq
    rw [hcall] at hcall₁
    cases hcall₁
    have hid : (s'.mboxes i).mboxId = (t.s.mboxes i).mboxId := by rw [hmbox]
    have hmy : t.s.myMboxId owner = (t.s.mboxes i).mboxId := by
      rw [myMboxId, h.thread, Option.elim_some]
    have hstep : Guarded (Traced.Step E) Traced.Allowed t
        (.receive owner (t.s.myMboxId owner) (l.head?.map s'.delivery))
        ⟨s', t.log.record (.receive owner (t.s.myMboxId owner) (l.head?.map s'.delivery))⟩ :=
      ⟨trivial, .receive hcall, rfl⟩
    refine ⟨[_], _, q', .cons hstep (.nil _), ?_, hthreads, hheld⟩
    cases l with
    | nil =>
      have htmo : tmo = ITC_NO_WAIT := by
        by_contra hne
        exact hsleep ⟨rfl, hne⟩
      have hd : finishReceive tmo d = d.setInfo (d.mbox.rxqInfo.setInRx false) := by
        simp only [finishReceive, LoggedMailbox.localReceive, h.rxq, hq, Option.map_some,
          if_pos htmo, finishNotInRx_none]
      rw [hd]
      refine .ofLog (l := []) haccounted (by rw [hthreads, h.thread]) (by rw [hmbox, h.inuse])
        ?_ ?_ ?_ ?_ (h.rxq.trans hq) hfifo
      · rw [hmbox, hinfo]
        exact h.rxqInfo
      · rw [hid]
        exact h.created
      · rw [hid]
        exact h.sent
      · rw [hid]
        exact h.returned
    | cons m l =>
      have hreceive : (t.s.mboxes i).rxqInfo.onReceive = some info := hinfo
      rw [h.rxqInfo.onReceive] at hreceive
      obtain ⟨info', hread, rfl⟩ := Option.map_eq_some_iff.mp hreceive
      have hd : finishReceive tmo d = finishNotInRx (some m)
          ({ d with mbox := { d.mbox with rxq := some l } }.setInfo info') := by
        simp only [finishReceive, LoggedMailbox.localReceive, h.rxq, hq, Option.map_some,
          finishRxqLen, finishEventfd]
        rw [show (LoggedMailbox.setInfo { d with mbox := { d.mbox with rxq := some l } }
          d.mbox.rxqInfo.decLen).mbox.rxqInfo.readFd = some info' from hread]
        rfl
      rw [hd]
      refine .ofLog (l := l) haccounted (by rw [hthreads, h.thread]) (by rw [hmbox, h.inuse])
        ?_ ?_ ?_ ?_ rfl ?_
      · rw [hmbox]
        rfl
      · rw [hid]
        exact h.created
      · rw [hid]
        exact h.sent
      · rw [hid]
        simp only [Log.record, List.head?_cons, Option.map_some, hmy, Function.update_self,
          List.map_append, h.returned]
        rfl
      · simp only [finishNotInRx, logReturned, LoggedMailbox.setInfo, hfifo, Option.toList_some,
          List.append_assoc]
        rfl

/-- **The critical section of `itc_get_fd_zz` is a call of it.** -/
theorem getFd (h : Shows owner i t q d) :
    ∃ t', Guarded (Traced.Step E) Traced.Allowed t (.getFd owner) t' ∧
      Shows owner i t' q (d.setInfo d.mbox.rxqInfo.onGetFd) ∧
      t'.s.myThreadlocalMbox = t.s.myThreadlocalMbox ∧ ∀ p, t.s.Held p → t'.s.Held p := by
  obtain ⟨l, hq, hfifo⟩ := h.queued
  obtain ⟨hcall, -⟩ := itcGetFd_spec h.accounted.inv h.thread hq
  have hmbox := setRxqInfo_mboxes_self t.s i (t.s.mboxes i).rxqInfo.onGetFd
  have hthreads : (t.s.setRxqInfo i (t.s.mboxes i).rxqInfo.onGetFd).myThreadlocalMbox =
      t.s.myThreadlocalMbox := rfl
  have hheap : (t.s.setRxqInfo i (t.s.mboxes i).rxqInfo.onGetFd).heap = t.s.heap := rfl
  generalize t.s.setRxqInfo i (t.s.mboxes i).rxqInfo.onGetFd = s' at hcall hmbox hthreads hheap
  have hstep : Guarded (Traced.Step E) Traced.Allowed t (.getFd owner) ⟨s', t.log⟩ :=
    ⟨trivial, .getFd hcall, rfl⟩
  have hheld : ∀ p, t.s.Held p → s'.Held p := by
    rintro p ⟨c, hc⟩
    exact ⟨c, by rw [hheap, hc]⟩
  refine ⟨_, hstep, ?_, hthreads, hheld⟩
  refine .ofLog (l := l) (h.accounted.getFd hcall) (by rw [hthreads, h.thread]) ?_ ?_ ?_ ?_ ?_
    (h.rxq.trans hq) hfifo
  · rw [hmbox]
    exact h.inuse
  · rw [hmbox]
    exact h.rxqInfo.onGetFd
  · rw [hmbox]
    exact h.created
  · rw [hmbox]
    exact h.sent
  · rw [hmbox]
    exact h.returned

end Shows

/-! ## Runs -/

/-- While the mutex is free, no message is between the rx queue and the receiver. -/
theorem LoggedMailbox.Settled.no_message {d : LoggedMailbox} {m : Nat} {l : List Nat}
    (h : d.Settled none) (h' : d.Queued (some m) l) : False := by
  obtain ⟨l', hl', -⟩ := h
  have hfifo := List.append_cancel_left (hl'.fifo.symm.trans h'.fifo)
  have hrxq := hl'.rxq.symm.trans h'.rxq
  cases hrxq
  exact List.cons_ne_self m l hfifo.symm

/-- Nor is a message in the rx queue that has not been counted. -/
theorem LoggedMailbox.Settled.counted {d : LoggedMailbox} {m : Nat} {l : List Nat}
    (h : d.Settled none) (h' : d.Queued none (l ++ [m]))
    (hlen : d.mbox.rxqInfo.rxqLen = l.length) : False := by
  obtain ⟨l', hl', hcounts⟩ := h
  have hrxq := hl'.rxq.symm.trans h'.rxq
  cases hrxq
  have hlen' := hcounts.rxqLen
  rw [hlen, List.length_append, List.length_singleton, Nat.cast_inj] at hlen'
  omega

/-- **A critical section is what the process makes of one call**, or of none. -/
theorem finishCall_shows (hmem : E.qitemMem = true) {owner i u : Nat} {t : Traced σ} {q : Queues}
    {d : LoggedMailbox} {k : MailboxPlace} (h : Shows owner i t q d) (hd : d.Settled none)
    (henters : mailboxOutline.Enters k) (hruns : MailboxRuns owner u k)
    (hsend : ∀ m, k = sendLocal m → t.s.myThreadlocalMbox u ≠ none ∧ t.s.Held m) :
    ∃ as t' q', Run (Guarded (Traced.Step E) Traced.Allowed) t as t' ∧
      Shows owner i t' q' (finishCall k d) ∧
      t'.s.myThreadlocalMbox = t.s.myThreadlocalMbox ∧
      ∀ p, k ≠ sendLocal p → t.s.Held p → t'.s.Held p := by
  have hasserts := henters.asserts d hd
  have hnone : ∀ {d' : LoggedMailbox}, Shows owner i t q d' →
      ∃ as t' q', Run (Guarded (Traced.Step E) Traced.Allowed) t as t' ∧
        Shows owner i t' q' d' ∧ t'.s.myThreadlocalMbox = t.s.myThreadlocalMbox ∧
        ∀ p, k ≠ sendLocal p → t.s.Held p → t'.s.Held p :=
    fun h' => ⟨[], t, q, .nil _, h', rfl, fun _ _ => id⟩
  cases k with
  | sendLocal m =>
    obtain ⟨hthread, hheld⟩ := hsend m rfl
    obtain ⟨a, t', q', hstep, hshows, hthreads, hkept⟩ := h.send hmem hruns hthread hheld
    refine ⟨[a], t', q', .cons hstep (.nil _), hshows, hthreads, fun p hp => hkept p ?_⟩
    rintro rfl
    exact hp rfl
  | recvIsInRx tmo =>
    have hinfo : Shows owner i t q (d.setInfo (d.mbox.rxqInfo.setInRx true)) :=
      h.setInfo (h.rxqInfo.setInRx true)
    obtain ⟨as, t', q', hrun, hshows, hthreads, hkept⟩ := hinfo.receive (E := E) tmo
    exact ⟨as, t', q', hrun, hshows, hthreads, fun p _ => hkept p⟩
  | recvLocal tmo =>
    obtain ⟨as, t', q', hrun, hshows, hthreads, hkept⟩ := h.receive (E := E) tmo
    exact ⟨as, t', q', hrun, hshows, hthreads, fun p _ => hkept p⟩
  | getFdEventfd =>
    obtain ⟨t', hstep, hshows, hthreads, hkept⟩ := h.getFd (E := E)
    exact ⟨_, t', q, .cons hstep (.nil _), hshows, hthreads, fun p _ => hkept p⟩
  | recvNothing =>
    refine hnone ?_
    simp only [finishCall, finishNotInRx_none]
    exact h.setInfo (h.rxqInfo.setInRx false)
  | recvNotInRx tmo message =>
    cases message with
    | none =>
      refine hnone ?_
      simp only [finishCall, finishNotInRx_none]
      exact h.setInfo (h.rxqInfo.setInRx false)
    | some m =>
      obtain ⟨l, hl, -⟩ := hasserts
      exact (hd.no_message hl).elim
  | sendEventfd =>
    obtain ⟨l, m, hl, hcounts⟩ := hasserts
    exact (hd.counted hl hcounts.rxqLen).elim
  | sendRxqLen =>
    obtain ⟨l, m, hl, hwritten⟩ := hasserts
    exact (hd.counted hl hwritten.rxqLen).elim
  | recvRxqLen m =>
    obtain ⟨l, hl, -⟩ := hasserts
    exact (hd.no_message hl).elim
  | recvEventfd m =>
    obtain ⟨l, hl, -⟩ := hasserts
    exact (hd.no_message hl).elim
  | _ => exact hnone h

theorem run_shows (hmem : E.qitemMem = true) {owner i : Nat} {s s' : MailboxThreads.State}
    {as : List (Event Nat MailboxPlace)} (hrun : Run (MailboxThreads.Step owner) s as s') :
    ∀ {t : Traced σ} {q : Queues}, mailboxOutline.Sound s →
      Awaited LoggedMailbox.HasMessage owner (MailboxRuns owner) OwesSignal s →
      Shows owner i t q (s.view finishCall) → CanSend t.s as → (sends as).Nodup →
      ∃ es t' q', Run (Guarded (Traced.Step E) Traced.Allowed) t es t' ∧
        Shows owner i t' q' (s'.view finishCall) := by
  induction hrun with
  | nil s =>
    intro t q _ _ h _ _
    exact ⟨[], t, q, .nil _, h⟩
  | @cons s s₁ s' a as head tail ih =>
    intro t q hs ha h hsend hnodup
    have hs₁ := hs.step (mailbox_valid owner) head
    have ha₁ := ha.step (mailbox_valid owner) (mailbox_waits owner) hs head
    have hview := head.view_eq (mailbox_valid owner) mailbox_finishes hs
    cases a with
    | acquire u k =>
      obtain ⟨hfree, henters, hpc⟩ := head.acquire_enters (mailbox_valid owner) hs
      have hd : (s.view finishCall).Settled none := by
        rw [State.view_free hfree]
        exact hs.inv hfree
      have hruns := ha₁.runs u
      rw [hpc] at hruns
      obtain ⟨es₁, t₁, q₁, hrun₁, h₁, hthreads, hkept⟩ :=
        finishCall_shows hmem h hd henters hruns fun m hm => hsend u m (hm ▸ List.mem_cons_self)
      rw [← show s₁.view finishCall = finishCall k (s.view finishCall) from hview] at h₁
      have hnodup' : (sends as).Nodup := by
        unfold sends at hnodup ⊢
        rw [List.filterMap_cons] at hnodup
        split at hnodup
        · exact hnodup
        · exact hnodup.of_cons
      have hsend₁ : CanSend t₁.s as := by
        intro v m hm
        obtain ⟨hthread, hheld⟩ := hsend v m (List.mem_cons_of_mem _ hm)
        refine ⟨by rwa [hthreads], hkept m ?_ hheld⟩
        rintro rfl
        have hin : m ∈ sends as := List.mem_filterMap.mpr ⟨_, hm, rfl⟩
        exact (List.nodup_cons.mp hnodup).1 hin
      obtain ⟨es, t', q', hrun', h'⟩ := ih hs₁ ha₁ h₁ hsend₁ hnodup'
      exact ⟨es₁ ++ es, t', q', hrun₁.append hrun', h'⟩
    | call _ _ | act _ | wake _ _ | spurious _ | expire _ =>
      rw [← show s₁.view finishCall = s.view finishCall from hview] at h
      exact ih hs₁ ha₁ h (fun v m hm => hsend v m (List.mem_cons_of_mem _ hm)) hnodup

/-- **The threads of a mailbox do what the process does call by call.** For every interleaving of
their statements there is a run of the process, with the calls in the order in which they took the
mutex, that ends with the same rx queue and counters, and has sent and received the same messages in
the same order. -/
theorem mailbox_threads_refine (E : ItcEnv σ) (hmem : E.qitemMem = true) (owner i : Nat)
    (rxqInfo : RxqInfo) (t : Traced σ) (q : Queues) (h : Shows owner i t q (.init rxqInfo))
    (as : List (Event Nat MailboxPlace)) (s : MailboxThreads.State)
    (hrun : Run (MailboxThreads.Step owner) (MailboxThreads.init rxqInfo) as s)
    (hsend : CanSend t.s as) (hnodup : (sends as).Nodup) :
    ∃ es t' q', Run (Guarded (Traced.Step E) Traced.Allowed) t es t' ∧
      Shows owner i t' q' (s.view finishCall) := by
  have ha : Awaited LoggedMailbox.HasMessage owner (MailboxRuns owner) OwesSignal
      (MailboxThreads.init rxqInfo) := .start fun _ => ⟨idle none, rfl, trivial⟩
  exact run_shows hmem hrun (MailboxThreads.init_sound rxqInfo) ha h hsend hnodup

/-- Two threads of the coordinator's process, the first of which sends to the second. -/
theorem mailbox_threads_refine_pair :
    ∃ (t : Traced Unit) (q : Queues) (s : MailboxThreads.State),
      Shows 1 1 t q (.init ⟨0, false, 0, false⟩) ∧ s.data.mbox.rxq = some [0] ∧
      ∃ es t' q', Run (Guarded (Traced.Step ItcEnv.willing) Traced.Allowed) t es t' ∧
        Shows 1 1 t' q' (s.view finishCall) := by
  let s₀ : ItcInstance Unit := .init 1 3 0 ()
  let c₁ := returned (0, s₀) (itcCreateMailbox ItcEnv.willing 0 s₀ 0 .empty 0)
  let c₂ := returned (0, s₀) (itcCreateMailbox ItcEnv.willing 0 c₁.2 1 .empty 0)
  let s₃ := (c₂.2.alloc (.fresh .little 4 0)).2
  let e₁ : ItcEvent := .createMailbox 0 .empty 0 c₁.1
  let e₂ : ItcEvent := .createMailbox 1 .empty 0 c₂.1
  let log₁ := Log.empty.record e₁
  let log₂ := log₁.record e₂
  have hempty : CString.empty.strlen < ITC_MAX_NAME_LENGTH := by decide
  have hheld : s₃.Held 0 := by
    refine ⟨⟨.fresh .little 4 0, ItcMessage.fresh_wellFormed _ _ ?_ ?_, rfl⟩, ?_⟩
    · omega
    · omega
    · decide +kernel
  have hcreate₁ : itcCreateMailbox ItcEnv.willing 0 s₀ 0 .empty 0 = .ok (some (c₁.1, c₁.2)) :=
    returned_eq (by decide +kernel)
  have hcreate₂ : itcCreateMailbox ItcEnv.willing 0 c₁.2 1 .empty 0 = .ok (some (c₂.1, c₂.2)) :=
    returned_eq (by decide +kernel)
  have hstep₁ : Guarded (Traced.Step ItcEnv.willing) Traced.Allowed (.init 1 3 0 ()) e₁
      ⟨c₁.2, log₁⟩ := ⟨hempty, .createMailbox hcreate₁, rfl⟩
  have hstep₂ : Guarded (Traced.Step ItcEnv.willing) Traced.Allowed ⟨c₁.2, log₁⟩ e₂
      ⟨c₂.2, log₂⟩ := ⟨hempty, .createMailbox hcreate₂, rfl⟩
  have hstep₃ : Guarded (Traced.Step ItcEnv.willing) Traced.Allowed ⟨c₂.2, log₂⟩ (.alloc 4 0)
      ⟨s₃, log₂⟩ := ⟨trivial, .alloc (itcAllocZz_ok .little .least 0 (by omega) (by decide)), rfl⟩
  have hthread₀ : s₃.myThreadlocalMbox 0 = some 0 := by decide +kernel
  have hthread₁ : s₃.myThreadlocalMbox 1 = some 1 := by decide +kernel
  have hinuse : (s₃.mboxes 1).mboxState = .inuse := by decide +kernel
  have hinfo : (s₃.mboxes 1).rxqInfo = ⟨0, false, 0, false⟩ := by decide +kernel
  have hcreated : (s₃.mboxes 1).mboxId ∈ log₂.created := by decide +kernel
  have hsent : log₂.sent (s₃.mboxes 1).mboxId = [] := by decide +kernel
  have hreceived : log₂.received (s₃.mboxes 1).mboxId = [] := by decide +kernel
  clear_value log₂ s₃
  have hrun : Run (Guarded (Traced.Step ItcEnv.willing) Traced.Allowed) (.init 1 3 0 ())
      [e₁, e₂, .alloc 4 0] ⟨s₃, log₂⟩ := .cons hstep₁ (.cons hstep₂ (.cons hstep₃ (.nil _)))
  obtain ⟨q, haccounted⟩ := hrun.invariant_of_guard (I := Traced.Accounted)
    (fun _ _ _ h hallowed hstep => h.step rfl hallowed hstep)
    (.init 1 (by decide) (by decide) 0 ())
  have hshows : Shows 1 1 ⟨s₃, log₂⟩ q (.init ⟨0, false, 0, false⟩) :=
    .ofLog (l := []) haccounted hthread₁ hinuse (by rw [hinfo]; rfl) hcreated (by rw [hsent]; rfl)
      (by rw [hreceived]; rfl) rfl rfl
  have hthreads : ∃ s, Run (MailboxThreads.Step 1) (MailboxThreads.init ⟨0, false, 0, false⟩)
      [.call 0 (sendState 0), .act 0, .acquire 0 (sendLocal 0), .act 0] s ∧
      s.data.mbox.rxq = some [0] :=
    ⟨_, .cons (.call rfl rfl Nat.zero_ne_one) (.cons (.peek rfl rfl)
      (.cons (.lock rfl rfl rfl) (.cons (.access rfl rfl rfl) (.nil _)))), rfl⟩
  obtain ⟨s, hsrun, hrxq⟩ := hthreads
  have hsend : CanSend s₃ [.call 0 (sendState 0), .act 0, .acquire 0 (sendLocal 0), .act 0] := by
    intro u m hm
    simp only [List.mem_cons, reduceCtorEq, Event.acquire.injEq, sendLocal.injEq, List.not_mem_nil,
      or_false, false_or] at hm
    obtain ⟨rfl, rfl⟩ := hm
    exact ⟨by rw [hthread₀]; exact Option.some_ne_none _, hheld⟩
  exact ⟨_, q, s, hshows, hrxq, mailbox_threads_refine ItcEnv.willing rfl 1 1 _ _ q hshows _ s hsrun
    hsend (List.nodup_singleton 0)⟩

end ItcFramework
