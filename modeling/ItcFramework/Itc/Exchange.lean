import ItcFramework.Itc.Accounting
import ItcFramework.Itc.LocateSpecs
import ItcFramework.Itc.Slots

/-!
# What a waiting thread does to its rx queue

A synchronous request is an exchange: the thread sends something, waits for its reply in its
ordinary rx queue, and takes the first message it finds there.

* `ItcInstance.Receivable` — no receive blocks on its eventfd, so whatever is in a queue will be
  received (`Receives.all`).
* `WaitEnd.Awaited` — the reply to the very request that was sent. A reply that comes when its own
  request has been given up is other traffic.
* `Exchange.noneLost_iff` — an exchange loses nothing just where each wait finds the awaited reply
  first.
-/

set_option autoImplicit false

namespace ItcFramework

open ByteImage HeapModel ItcInstance Transition

variable {σ : Type} {E : ItcEnv σ} {s s' : ItcInstance σ}

/-! ## An address is used once -/

theorem setInRxqueue_evolves {heap heap' : Heap ItcMessage} {message : Nat} {b : Bool}
    (hcall : setInRxqueue heap message b = .ok heap') : Heap.Evolves heap heap' := by
  obtain ⟨m, -, hwrite⟩ := bind_eq_ok hcall
  exact .write hwrite

theorem enqueueMessage_evolves {mem : Bool} {rxq rxq' : RxQueue} {heap heap' : Heap ItcMessage}
    {message : Nat} {rc : UInt32}
    (hcall : enqueueMessage mem rxq heap message = .ok (rc, rxq', heap')) :
    Heap.Evolves heap heap' := by
  unfold enqueueMessage at hcall
  split at hcall
  · cases hcall
    exact .refl heap
  · simp only at hcall
    split at hcall
    · obtain ⟨rxq₁, -, hcall⟩ := bind_eq_ok hcall
      obtain ⟨heap₁, hmark, hcall⟩ := bind_eq_ok hcall
      cases hcall
      exact setInRxqueue_evolves hmark
    · obtain ⟨item, -, hcall⟩ := bind_eq_ok hcall
      obtain ⟨items, -, hcall⟩ := bind_eq_ok hcall
      obtain ⟨item', -, hcall⟩ := bind_eq_ok hcall
      obtain ⟨items', -, hcall⟩ := bind_eq_ok hcall
      obtain ⟨rxq₁, -, hcall⟩ := bind_eq_ok hcall
      obtain ⟨heap₁, hmark, hcall⟩ := bind_eq_ok hcall
      cases hcall
      exact setInRxqueue_evolves hmark

theorem dequeueMessage_evolves {rxq : RxQueue} {heap : Heap ItcMessage} {d : Dequeued}
    (hcall : dequeueMessage rxq heap = .ok d) : Heap.Evolves heap d.heap := by
  unfold dequeueMessage at hcall
  split at hcall
  · cases hcall
    exact .refl heap
  · obtain ⟨item, -, hcall⟩ := bind_eq_ok hcall
    simp only at hcall
    split at hcall
    · obtain ⟨items, -, hcall⟩ := bind_eq_ok hcall
      obtain ⟨heap₁, hmark, hcall⟩ := bind_eq_ok hcall
      cases hcall
      exact setInRxqueue_evolves hmark
    · split at hcall
      · cases hcall
      · obtain ⟨second, -, hcall⟩ := bind_eq_ok hcall
        split at hcall
        · obtain ⟨heap₁, hmark, hcall⟩ := bind_eq_ok hcall
          cases hcall
          exact setInRxqueue_evolves hmark
        · obtain ⟨items, -, hcall⟩ := bind_eq_ok hcall
          obtain ⟨items', -, hcall⟩ := bind_eq_ok hcall
          obtain ⟨heap₁, hmark, hcall⟩ := bind_eq_ok hcall
          cases hcall
          exact setInRxqueue_evolves hmark

theorem itcFreeZz_evolves {heap heap' : Heap ItcMessage} {msg : Nat} {freed : Bool}
    (hcall : itcFreeZz heap msg = .ok (freed, heap')) : Heap.Evolves heap heap' := by
  obtain ⟨m, -, hcall⟩ := bind_eq_ok hcall
  obtain ⟨allowed, -, hcall⟩ := bind_eq_ok hcall
  split at hcall
  · obtain ⟨heap₁, hfree, hcall⟩ := bind_eq_ok hcall
    cases hcall
    exact .free hfree
  · cases hcall
    exact .refl heap

theorem localSend_evolves {mem : Bool} {inst inst' : LocalInst} {heap heap' : Heap ItcMessage}
    {message : Nat} {toMbox : MboxId} {rc : UInt32}
    (hcall : localSend mem inst heap message toMbox = .ok (rc, inst', heap')) :
    Heap.Evolves heap heap' := by
  unfold localSend at hcall
  split at hcall
  · cases hcall
    exact .refl heap
  · split at hcall
    · cases hcall
      exact .refl heap
    · obtain ⟨⟨rc₁, rxq₁, heap₁⟩, henqueue, hcall⟩ := bind_eq_ok hcall
      cases hcall
      exact enqueueMessage_evolves henqueue

theorem localReceive_evolves {inst inst' : LocalInst} {heap heap' : Heap ItcMessage}
    {mboxId : MboxId} {rc : UInt32} {message : Option Nat}
    (hcall : localReceive inst heap mboxId = .ok (rc, message, inst', heap')) :
    Heap.Evolves heap heap' := by
  unfold localReceive at hcall
  split at hcall
  · cases hcall
    exact .refl heap
  · split at hcall
    · cases hcall
      exact .refl heap
    · obtain ⟨d, hdequeue, hcall⟩ := bind_eq_ok hcall
      cases hcall
      exact dequeueMessage_evolves hdequeue

theorem discardMessages_evolves {fuel : Nat} {rc rc' : UInt32} {rxq : RxQueue}
    {heap heap' : Heap ItcMessage}
    (hcall : discardMessages fuel rc rxq heap = .ok (some (rc', heap'))) :
    Heap.Evolves heap heap' := by
  induction fuel generalizing rc rxq heap with
  | zero => cases hcall
  | succ fuel ih =>
    obtain ⟨d, hdequeue, hcall⟩ := bind_eq_ok hcall
    have hd := dequeueMessage_evolves hdequeue
    simp only at hcall
    split at hcall
    · cases hcall
      exact hd
    · obtain ⟨⟨freed, heap₁⟩, hfree, hcall⟩ := bind_eq_ok hcall
      exact (hd.trans (itcFreeZz_evolves hfree)).trans (ih hcall)

theorem localDeleteMbox_evolves {fuel : Nat} {inst inst' : LocalInst}
    {heap heap' : Heap ItcMessage} {mboxId : MboxId} {rc : UInt32}
    (hcall : localDeleteMbox fuel inst heap mboxId = .ok (some (rc, inst', heap'))) :
    Heap.Evolves heap heap' := by
  unfold localDeleteMbox at hcall
  split at hcall
  · cases hcall
    exact .refl heap
  · split at hcall
    · cases hcall
      exact .refl heap
    · obtain ⟨out, hdiscard, hcall⟩ := bind_some_eq_ok hcall rfl
      cases hcall
      exact discardMessages_evolves hdiscard

theorem transSend_evolves {fuel message : Nat} {toMbox : MboxId} {taken : Option Taken}
    (hcall : transSend E fuel s message toMbox = .ok (some (taken, s'))) :
    Heap.Evolves s.heap s'.heap := by
  obtain ⟨rc, inst, heap₁, hlocal, hs⟩ := transSend_changes hcall
  have h₁ := localSend_evolves hlocal
  rcases hs with rfl | ⟨sysvmqInst, k, heap₂, h₂, rfl⟩
  · exact h₁
  · exact h₁.trans h₂

theorem itcSend_evolves {fuel tid : Nat} {msg : Option Nat} {toMbox fromMbox : MboxId}
    {r : SendResult σ} (hcall : itcSend E fuel s tid msg toMbox fromMbox = .ok (some r)) :
    Heap.Evolves s.heap r.s.heap := by
  rcases itcSend_changes hcall with hs | ⟨heap₁, h₁, hs | ⟨p, taken, s₁, htrans, hs⟩⟩
  · rw [hs]
    exact .refl _
  · rw [hs]
    exact h₁
  · have h₂ : Heap.Evolves s.heap s₁.heap := h₁.trans (transSend_evolves htrans)
    rcases hs with hs | hs
    · rw [hs]
      exact h₂
    · rw [hs, notifyReceiver_heap]
      exact h₂

theorem itcFree_evolves {msg : Nat} (hcall : itcFree s msg = .ok s') :
    Heap.Evolves s.heap s'.heap := by
  obtain ⟨⟨freed, heap₁⟩, hfree, hcall⟩ := bind_eq_ok hcall
  cases hcall
  exact itcFreeZz_evolves hfree

theorem sendOrFree_evolves {fuel tid msg : Nat} {toMbox fromMbox : MboxId} {sent : Bool}
    (hcall : sendOrFree E fuel s tid msg toMbox fromMbox = .ok (some (sent, s'))) :
    Heap.Evolves s.heap s'.heap := by
  obtain ⟨r, hsend, hs⟩ := sendOrFree_changes hcall
  have h₁ := itcSend_evolves hsend
  rcases hs with ⟨-, rfl⟩ | ⟨-, hfree⟩
  · exact h₁
  · exact h₁.trans (itcFree_evolves hfree)

theorem notifyCoord_evolves {fuel tid : Nat} {msgno : UInt32} {mboxId : MboxId} {name : CString}
    (hcall : notifyCoord E fuel s tid msgno mboxId name = .ok (some s')) :
    Heap.Evolves s.heap s'.heap := by
  rcases notifyCoord_changes hcall with rfl | ⟨m, msg, sent, hsend⟩
  · exact .refl _
  · exact (Heap.Evolves.push s.heap m).trans (sendOrFree_evolves hsend)

theorem itcReceive_evolves {tid : Nat} {ret : Option Nat}
    (hcall : itcReceive s tid = .ok (some (ret, s'))) : Heap.Evolves s.heap s'.heap := by
  rcases itcReceive_changes hcall with rfl | ⟨me, rc, message, inst, heap, info, hreceive, rfl⟩
  · exact .refl _
  · exact localReceive_evolves hreceive

theorem itcCreateMailbox_evolves {fuel tid : Nat} {name : CString} {flags : UInt32}
    {ret : MboxId} (hcall : itcCreateMailbox E fuel s tid name flags = .ok (some (ret, s'))) :
    Heap.Evolves s.heap s'.heap := by
  unfold itcCreateMailbox at hcall
  split at hcall
  · cases hcall
    exact .refl _
  · split at hcall
    · cases hcall
      exact .refl _
    · rename_i i rest _
      simp only at hcall
      split at hcall
      · cases hcall
        exact .refl _
      · split at hcall
        · cases hcall
        · split at hcall
          · cases hcall
            exact .refl _
          · obtain ⟨s₁, hnotify, hcall⟩ := bind_some_eq_ok hcall rfl
            cases hcall
            obtain ⟨t, htree⟩ := insertMboxToTree_eq E (((s.setFree rest).setMbox i
              ((s.mboxes i).create tid name flags)).setLocal (localCreateMbox s.localInst
                ((s.mboxes i).create tid name flags).mboxId flags).2 s.heap) i
            have h₁ := notifyCoord_evolves hnotify
            simp only [setFree_mboxes, setFree_localInst, setFree_heap] at h₁
            rw [htree] at h₁
            exact h₁

theorem itcDeleteMailbox_evolves {fuel tid : Nat} {mboxId : MboxId} {ret : Bool}
    (hcall : itcDeleteMailbox E fuel s tid mboxId = .ok (some (ret, s'))) :
    Heap.Evolves s.heap s'.heap := by
  unfold itcDeleteMailbox at hcall
  split at hcall
  · cases hcall
    exact .refl _
  · rename_i me _
    split at hcall
    · cases hcall
      exact .refl _
    · split at hcall
      · cases hcall
      · obtain ⟨t, htree⟩ := removeMboxFromTree_eq E s me
        simp only [htree] at hcall
        obtain ⟨s₁, hnotify, hcall⟩ := bind_some_eq_ok hcall rfl
        have h₁ := notifyCoord_evolves hnotify
        obtain ⟨⟨rc, inst, heap₁⟩, hdelete, hcall⟩ := bind_some_eq_ok hcall rfl
        have h₂ : Heap.Evolves s.heap heap₁ := h₁.trans (localDeleteMbox_evolves hdelete)
        simp only at hcall
        split at hcall
        · cases hcall
          exact h₂
        · cases hcall
          exact h₂

theorem ItcStep.evolves {a : ItcEvent} (hstep : ItcStep E s a s') :
    Heap.Evolves s.heap s'.heap := by
  cases hstep with
  | alloc _ => exact .push s.heap _
  | write call => exact .write call
  | free call => exact itcFree_evolves call
  | createMailbox call => exact itcCreateMailbox_evolves call
  | send call => exact itcSend_evolves call
  | receive call => exact itcReceive_evolves call
  | getFd call =>
    rcases itcGetFd_changes call with rfl | ⟨me, info, rfl⟩
    · exact .refl _
    · exact .refl _
  | deleteMailbox call => exact itcDeleteMailbox_evolves call

/-! ## The eventfd when a message is received -/

/-- The counters of a mailbox whose queue has `n` messages: no fewer have been announced, and the
eventfd is readable as long as one of them is announced. -/
structure RxqInfo.Covers (info : RxqInfo) (n : Nat) : Prop where
  rxqLen : (n : Int) ≤ info.rxqLen
  rxqFd : info.isFdCreated = true → info.rxqLen ≠ 0 → info.rxqFd ≠ 0

namespace RxqInfo.Covers

variable {info : RxqInfo} {n : Nat}

/-- A mailbox whose messages are all gone, and a new one. -/
theorem zero (hlen : info.rxqLen = 0) : info.Covers 0 :=
  ⟨Int.le_of_eq hlen.symm, fun _ hne => absurd hlen hne⟩

theorem onSend (h : info.Covers n) : info.onSend.Covers (n + 1) := by
  have hlen := h.rxqLen
  refine ⟨?_, fun hfd _ => ?_⟩
  · simp only [RxqInfo.onSend]
    push_cast
    omega
  · have hfd' : info.isFdCreated = true := hfd
    by_cases hzero : info.rxqLen = 0
    · simp only [RxqInfo.onSend, hfd', hzero, and_self, if_true, eventfdWrite]
      exact Nat.succ_ne_zero _
    · simp only [RxqInfo.onSend, hfd', hzero, and_false, if_false]
      exact h.rxqFd hfd' hzero

/-- A message more is announced than there is. -/
theorem mono {n' : Nat} (h : info.Covers n) (hle : n' ≤ n) : info.Covers n' :=
  ⟨Int.le_trans (Int.ofNat_le.mpr hle) h.rxqLen, h.rxqFd⟩

/-- The receiver that reads the eventfd finds it readable. -/
theorem onReceive (h : info.Covers (n + 1)) :
    ∃ info', info.onReceive = some info' ∧ info'.Covers n := by
  have hlen := h.rxqLen
  push_cast at hlen
  unfold RxqInfo.onReceive
  by_cases hlast : info.isFdCreated = true ∧ info.rxqLen - 1 = 0
  · have hfd := h.rxqFd hlast.1 (by omega)
    refine ⟨_, by rw [if_pos hlast, eventfdRead, if_neg hfd, Option.map_some], ?_, ?_⟩
    · simp only
      omega
    · intro _ hne
      exact absurd hlast.2 hne
  · refine ⟨_, by rw [if_neg hlast], ?_, fun hfd _ => ?_⟩
    · simp only
      omega
    · exact h.rxqFd hfd (by omega)

theorem onGetFd (h : info.Covers n) : info.onGetFd.Covers n := by
  unfold RxqInfo.onGetFd
  split
  · exact h
  · refine ⟨h.rxqLen, fun _ hne => ?_⟩
    have hlen : info.rxqLen ≠ 0 := hne
    simp only [hlen, ne_eq, not_false_eq_true, if_true, eventfdWrite]
    omega

end RxqInfo.Covers

/-! ## Receiving one after the other -/

namespace ItcInstance

/-- The messages in the rx queue of mailbox `i`, the first of them first. -/
def RxMessages (s : ItcInstance σ) (i : Nat) (l : List Nat) : Prop :=
  ∃ rxq, (s.localInst.localmbxData i).rxq = some rxq ∧ rxq.Holds l

theorem RxMessages.iff {q : Queues} (h : s.Inv q) (i : Nat) (l : List Nat) :
    s.RxMessages i l ↔ q i = some l := h.holds.iff i l

theorem RxMessages.unique {i : Nat} {l l' : List Nat} (h : s.RxMessages i l)
    (h' : s.RxMessages i l') : l = l' := by
  obtain ⟨rxq, hrxq, hl⟩ := h
  obtain ⟨rxq', hrxq', hl'⟩ := h'
  rw [hrxq] at hrxq'
  cases hrxq'
  exact hl.unique hl'

theorem RxMessages.live {q : Queues} {i p : Nat} {l : List Nat} (h : s.RxMessages i l)
    (hs : s.Inv q) (hp : p ∈ l) : ∃ m : UserMessage, s.heap.cells p = some m.queued :=
  hs.messages.queued i l ((RxMessages.iff hs i l).mp h) p hp

/-- What `dequeue_message` would find in the rx queue of mailbox `i`. -/
def first (s : ItcInstance σ) (i : Nat) : Option Nat :=
  (s.localInst.localmbxData i).rxq.bind fun rxq =>
    (dequeueMessage rxq s.heap).toOption.bind Dequeued.message

/-- It is the first of them. -/
theorem RxMessages.first_eq {q : Queues} {i : Nat} {l : List Nat} (h : s.RxMessages i l)
    (hs : s.Inv q) : s.first i = l.head? := by
  have hlive : ∀ p ∈ l, ∃ m : UserMessage, s.heap.cells p = some m.queued := fun p hp => h.live hs hp
  obtain ⟨rxq, hrxq, hl⟩ := h
  rw [first, hrxq, Option.bind_some]
  cases l with
  | nil =>
    rw [dequeueMessage_nil hl]
    rfl
  | cons p l =>
    obtain ⟨m, hm⟩ := hlive p List.mem_cons_self
    obtain ⟨_, _, hcall, -⟩ := dequeueMessage_cons hl hm
    rw [hcall]
    rfl

/-- The next calls of `itc_receive` by the thread give these messages, in this order. -/
inductive Receives (tid : Nat) : ItcInstance σ → List Delivery → Prop where
  | nil (s : ItcInstance σ) : Receives tid s []
  | cons {s s' : ItcInstance σ} {p : Nat} {ds : List Delivery}
      (call : itcReceive s tid = .ok (some (some p, s'))) (rest : Receives tid s' ds) :
      Receives tid s (s'.delivery p :: ds)

/-- Taking a message out of the queue clears a flag that no user sees. -/
theorem delivery_of_taken {p : Nat} {m : UserMessage} (hm : s.heap.cells p = some m.queued)
    (hheap : OnlyAt s.heap s'.heap p (some m.msg)) (p' : Nat) : s'.delivery p' = s.delivery p' := by
  by_cases hp : p' = p
  · rw [hp, delivery, delivery, hheap.self, hm]
    rfl
  · exact delivery_congr (hheap.frame p' hp)

/-- No mailbox has fewer messages announced than there are. -/
def Receivable (s : ItcInstance σ) : Prop :=
  ∀ i l, s.RxMessages i l → (s.mboxes i).rxqInfo.Covers l.length

namespace Receivable

variable {q : Queues}

theorem iff (h : s.Inv q) :
    s.Receivable ↔ ∀ i l, q i = some l → (s.mboxes i).rxqInfo.Covers l.length :=
  ⟨fun hr i l hq => hr i l ((RxMessages.iff h i l).mpr hq),
    fun hr i l hl => hr i l ((RxMessages.iff h i l).mp hl)⟩

/-- Neither a queue nor its counters change. -/
theorem congr (h : s.Receivable) (hlocal : s'.localInst = s.localInst)
    (hinfo : ∀ i, (s'.mboxes i).rxqInfo = (s.mboxes i).rxqInfo) : s'.Receivable := by
  rintro i l ⟨rxq, hrxq, hl⟩
  rw [hlocal] at hrxq
  rw [hinfo]
  exact h i l ⟨rxq, hrxq, hl⟩

/-- The queue of one mailbox and its counters change. -/
theorem update {i : Nat} {o : Option (List Nat)} (h : s.Receivable) (hs : s.Inv q)
    (hs' : s'.Inv (Function.update q i o))
    (hother : ∀ j, j ≠ i → (s'.mboxes j).rxqInfo = (s.mboxes j).rxqInfo)
    (hself : ∀ l, o = some l → (s'.mboxes i).rxqInfo.Covers l.length) : s'.Receivable := by
  refine (iff hs').mpr fun j l hj => ?_
  by_cases hji : j = i
  · rw [hji, Function.update_self] at hj
    rw [hji]
    exact hself l hj
  · rw [Function.update_of_ne hji] at hj
    rw [hother j hji]
    exact (iff hs).mp h j l hj

end Receivable

/-- **Whatever is in the queue will be received.** -/
theorem Receives.all {q : Queues} {tid me : Nat} {l : List Nat} (hs : s.Inv q)
    (hr : s.Receivable) (ht : s.myThreadlocalMbox tid = some me) (h : s.RxMessages me l) :
    Receives tid s (l.map s.delivery) := by
  induction l generalizing s q with
  | nil => exact .nil s
  | cons p l ih =>
    have hq := (RxMessages.iff hs me (p :: l)).mp h
    obtain ⟨m, rxq, heap', hm, hheap, hcall, hinv⟩ := itcReceive_first hs ht hq
    obtain ⟨info, hinfo, hcovers⟩ := (hr me _ h).onReceive
    rw [hinfo] at hcall
    have hs' := hinv info
    have hr' := hr.update hs hs'
      (fun j hj => by rw [setRxqInfo_ne (s.setLocal (s.localInst.setRxq me rxq) heap') info hj]; rfl)
      (by
        rintro _ ⟨⟩
        rw [setRxqInfo_mboxes_self]
        exact hcovers)
    have hdelivery : ∀ p', ((s.setLocal (s.localInst.setRxq me rxq) heap').setRxqInfo me
        info).delivery p' = s.delivery p' := delivery_of_taken hm hheap
    have hrest := ih hs' hr' ht ((RxMessages.iff hs' me l).mpr (Function.update_self _ _ _))
    rw [funext hdelivery] at hrest
    have hall := Receives.cons hcall hrest
    rw [hdelivery] at hall
    exact hall

end ItcInstance

/-! ## Exchanges -/

/-- What leaves the rx queue `me` of the thread alone: messages are added to it at most. -/
structure Quiet (tid me : Nat) (s s' : ItcInstance σ) : Prop where
  inv : ∃ q, s'.Inv q
  thread : s'.myThreadlocalMbox tid = some me
  queue : ∀ l, s.RxMessages me l → ∃ more, s'.RxMessages me (l ++ more)
  kept : ∀ l, s.RxMessages me l → ∀ p ∈ l, s'.heap.cells p = s.heap.cells p
  evolves : Heap.Evolves s.heap s'.heap
  receivable : s.Receivable → s'.Receivable

/-- The process when the wait for the answer to `request` is over, a message with the number
`reply`. -/
structure WaitEnd (σ : Type) where
  expired : Bool
  s : ItcInstance σ
  request : Nat
  reply : UInt32

/-- What the thread does then: nothing, or it takes the first message of its queue and frees it
once it has looked at it. -/
inductive Takes (tid me : Nat) (w : WaitEnd σ) (s' : ItcInstance σ) : Prop where
  | nothing (h : w.expired = true ∨ w.s.RxMessages me []) (hquiet : Quiet tid me w.s s')
  | first {p : Nat} {l : List Nat} (h : w.expired = false) (hq : w.s.RxMessages me (p :: l))
      (hs : ∃ q, s'.Inv q) (ht : s'.myThreadlocalMbox tid = some me) (hq' : s'.RxMessages me l)
      (hheap : OnlyAt w.s.heap s'.heap p none) (hreceivable : w.s.Receivable → s'.Receivable)

/-- An exchange and its waits, one after the other. -/
inductive Exchange (tid me : Nat) :
    ItcInstance σ → List (WaitEnd σ) → ItcInstance σ → Prop where
  | done {s s' : ItcInstance σ} (hquiet : Quiet tid me s s') : Exchange tid me s [] s'
  | wait {s s₁ s' : ItcInstance σ} {w : WaitEnd σ} {ws : List (WaitEnd σ)}
      (hquiet : Quiet tid me s w.s) (htakes : Takes tid me w s₁)
      (rest : Exchange tid me s₁ ws s') : Exchange tid me s (w :: ws) s'

/-- The message has the number. -/
def ItcInstance.HasMsgno (s : ItcInstance σ) (e : Endian) (p : Nat) (msgno : UInt32) : Prop :=
  ∃ m, s.heap.cells p = some m ∧ m.msgno e = .ok msgno

/-- The message is the reply that the wait is for. `answers p request` says that whoever serves the
message at `request` has made the one at `p` in answer to it. An address is used once, so a late
reply to an earlier request is none to this one. -/
def WaitEnd.Awaited (w : WaitEnd σ) (e : Endian) (answers : Nat → Nat → Prop) (p : Nat) : Prop :=
  w.s.HasMsgno e p w.reply ∧ answers p w.request

/-- When the wait is over, the first message of the queue is the awaited reply, if there is one
and the thread looks. -/
def WaitEnd.Clean (w : WaitEnd σ) (e : Endian) (answers : Nat → Nat → Prop) (me : Nat) : Prop :=
  w.expired = false → ∀ p l, w.s.RxMessages me (p :: l) → w.Awaited e answers p

/-- One of the waits has awaited the message, and taken it. -/
def TakenAsReply (e : Endian) (answers : Nat → Nat → Prop) (me : Nat) (ws : List (WaitEnd σ))
    (p : Nat) : Prop :=
  ∃ w ∈ ws, w.expired = false ∧ (∃ l, w.s.RxMessages me (p :: l)) ∧ w.Awaited e answers p

/-- **No message is lost in the exchange**: each that was in the queue when a wait was over has
been awaited, or is in the queue still, as it was. -/
def NoneLost (e : Endian) (answers : Nat → Nat → Prop) (me : Nat) (ws : List (WaitEnd σ))
    (s' : ItcInstance σ) : Prop :=
  ∀ w ∈ ws, ∀ l p, w.s.RxMessages me l → p ∈ l → TakenAsReply e answers me ws p ∨
    ∃ l', s'.RxMessages me l' ∧ p ∈ l' ∧ s'.delivery p = w.s.delivery p

namespace Quiet

variable {tid me : Nat} {s'' : ItcInstance σ}

theorem refl {q : Queues} (hs : s.Inv q) (ht : s.myThreadlocalMbox tid = some me) :
    Quiet tid me s s where
  inv := ⟨q, hs⟩
  thread := ht
  queue l hl := ⟨[], by rwa [List.append_nil]⟩
  kept _ _ _ _ := rfl
  evolves := .refl _
  receivable := id

theorem trans (h : Quiet tid me s s') (h' : Quiet tid me s' s'') : Quiet tid me s s'' where
  inv := h'.inv
  thread := h'.thread
  queue := by
    intro l hl
    obtain ⟨more, hmore⟩ := h.queue l hl
    obtain ⟨more', hmore'⟩ := h'.queue _ hmore
    rw [List.append_assoc] at hmore'
    exact ⟨more ++ more', hmore'⟩
  kept := by
    intro l hl p hp
    obtain ⟨more, hmore⟩ := h.queue l hl
    rw [h'.kept _ hmore p (List.mem_append_left more hp), h.kept l hl p hp]
  evolves := h.evolves.trans h'.evolves
  receivable := h'.receivable ∘ h.receivable

/-- A message in the queue stays there as it is. -/
theorem mem (h : Quiet tid me s s') {l : List Nat} {p : Nat} (hl : s.RxMessages me l)
    (hp : p ∈ l) : ∃ l', s'.RxMessages me l' ∧ p ∈ l' ∧ s'.delivery p = s.delivery p := by
  obtain ⟨more, hmore⟩ := h.queue l hl
  exact ⟨l ++ more, hmore, List.mem_append_left more hp, delivery_congr (h.kept l hl p hp)⟩

end Quiet

namespace Takes

variable {tid me : Nat} {w : WaitEnd σ}

/-- The first message is the only one that can leave the queue. -/
theorem mem (h : Takes tid me w s') {l : List Nat} {p : Nat} (hl : w.s.RxMessages me l)
    (hp : p ∈ l) : (w.expired = false ∧ ∃ l, w.s.RxMessages me (p :: l)) ∨
      ∃ l', s'.RxMessages me l' ∧ p ∈ l' ∧ s'.delivery p = w.s.delivery p := by
  cases h with
  | nothing _ hquiet => exact .inr (hquiet.mem hl hp)
  | @first p₀ l₀ hexp hq hs _ hq' hheap _ =>
    rw [hl.unique hq] at hp
    rcases List.mem_cons.mp hp with rfl | hp₀
    · exact .inl ⟨hexp, l₀, hq⟩
    · refine .inr ⟨l₀, hq', hp₀, delivery_congr (hheap.frame p ?_)⟩
      rintro rfl
      obtain ⟨q, hs⟩ := hs
      obtain ⟨m, hm⟩ := hq'.live hs hp₀
      rw [hheap.self] at hm
      cases hm

/-- A message that the thread takes is freed. -/
theorem freed (h : Takes tid me w s') {q : Queues} (hw : w.s.Inv q) (hexp : w.expired = false) {p : Nat}
    {l : List Nat} (hq : w.s.RxMessages me (p :: l)) :
    s'.heap.cells p = none ∧ p < s'.heap.next := by
  cases h with
  | nothing hnothing _ =>
    rcases hnothing with hexp' | hempty
    · rw [hexp] at hexp'
      cases hexp'
    · cases hq.unique hempty
  | first _ hq₀ _ _ _ hheap _ =>
    cases hq.unique hq₀
    obtain ⟨m, hm⟩ := hq.live hw List.mem_cons_self
    exact ⟨hheap.self, by rw [hheap.next]; exact Heap.lt_next hm⟩

end Takes

namespace Exchange

variable {tid me : Nat} {ws : List (WaitEnd σ)} {e : Endian}
  {answers : Nat → Nat → Prop}

theorem of_quiet (hquiet : Quiet tid me s s') {s'' : ItcInstance σ}
    (h : Exchange tid me s' ws s'') : Exchange tid me s ws s'' := by
  cases h with
  | done hquiet' => exact .done (hquiet.trans hquiet')
  | wait hquiet' htakes rest => exact .wait (hquiet.trans hquiet') htakes rest

theorem append (h : Exchange tid me s ws s') {ws' : List (WaitEnd σ)} {s'' : ItcInstance σ}
    (h' : Exchange tid me s' ws' s'') : Exchange tid me s (ws ++ ws') s'' := by
  induction h with
  | done hquiet => exact .of_quiet hquiet h'
  | wait hquiet htakes _ ih => exact .wait hquiet htakes (ih h')

theorem then_quiet (h : Exchange tid me s ws s') {s'' : ItcInstance σ}
    (hquiet : Quiet tid me s' s'') : Exchange tid me s ws s'' := by
  induction h with
  | done hquiet' => exact .done (hquiet'.trans hquiet)
  | wait hquiet' htakes _ ih => exact .wait hquiet' htakes (ih hquiet)

theorem thread (h : Exchange tid me s ws s') : s'.myThreadlocalMbox tid = some me := by
  induction h with
  | done hquiet => exact hquiet.thread
  | wait _ _ _ ih => exact ih

/-- The process is in order at the end of an exchange. -/
theorem inv (h : Exchange tid me s ws s') : ∃ q, s'.Inv q := by
  induction h with
  | done hquiet => exact hquiet.inv
  | wait _ _ _ ih => exact ih

/-- No receive blocks on its eventfd afterwards. -/
theorem receivable (h : Exchange tid me s ws s') : s.Receivable → s'.Receivable := by
  induction h with
  | done hquiet => exact hquiet.receivable
  | wait hquiet htakes _ ih =>
    intro hr
    have hw := hquiet.receivable hr
    cases htakes with
    | nothing _ hquiet₁ => exact ih (hquiet₁.receivable hw)
    | first _ _ _ _ _ _ hreceivable => exact ih (hreceivable hw)

/-- An address that was freed before is not seen again. -/
theorem dead (h : Exchange tid me s ws s') {p : Nat} (hlt : p < s.heap.next)
    (hp : s.heap.cells p = none) : s'.heap.cells p = none ∧
      ∀ w ∈ ws, ∀ l, w.s.RxMessages me l → p ∉ l := by
  induction h with
  | done hquiet => exact ⟨hquiet.evolves.dead p hlt hp, fun w hw => by cases hw⟩
  | @wait s s₁ s' w ws hquiet htakes _ ih =>
    have hw := hquiet.evolves.dead p hlt hp
    have hlt' := Nat.lt_of_lt_of_le hlt hquiet.evolves.next
    have hnot : ∀ l, w.s.RxMessages me l → p ∉ l := by
      intro l hl hmem
      obtain ⟨q, hinv⟩ := hquiet.inv
      obtain ⟨m, hm⟩ := hl.live hinv hmem
      rw [hw] at hm
      cases hm
    have hevolves : s₁.heap.cells p = none ∧ p < s₁.heap.next := by
      cases htakes with
      | nothing _ hquiet₁ =>
        exact ⟨hquiet₁.evolves.dead p hlt' hw, Nat.lt_of_lt_of_le hlt' hquiet₁.evolves.next⟩
      | @first p' l _ _ _ _ _ hheap _ =>
        rw [hheap.next]
        refine ⟨?_, hlt'⟩
        by_cases hpp : p = p'
        · rw [hpp]
          exact hheap.self
        · exact (hheap.frame p hpp).trans hw
    obtain ⟨hdead, hrest⟩ := ih hevolves.2 hevolves.1
    refine ⟨hdead, fun w' hw' => ?_⟩
    rcases List.mem_cons.mp hw' with rfl | hw'
    · exact hnot
    · exact hrest w' hw'

/-- In an exchange whose waits are clean, what is in the queue is awaited or stays there. -/
theorem kept (h : Exchange tid me s ws s') (hclean : ∀ w ∈ ws, w.Clean e answers me) {l : List Nat}
    {p : Nat} (hl : s.RxMessages me l) (hp : p ∈ l) :
    TakenAsReply e answers me ws p ∨ ∃ l', s'.RxMessages me l' ∧ p ∈ l' ∧ s'.delivery p = s.delivery p := by
  induction h generalizing l with
  | done hquiet => exact .inr (hquiet.mem hl hp)
  | @wait s s₁ s' w ws hquiet htakes _ ih =>
    obtain ⟨l', hl', hp', hdelivery⟩ := hquiet.mem hl hp
    rcases htakes.mem hl' hp' with ⟨hexp, l₀, hfirst⟩ | ⟨l₁, hl₁, hp₁, hdelivery₁⟩
    · have hreply := hclean w List.mem_cons_self hexp p l₀ hfirst
      exact .inl ⟨w, List.mem_cons_self, hexp, ⟨l₀, hfirst⟩, hreply⟩
    · rw [← hdelivery, ← hdelivery₁]
      rcases ih (fun w' hw' => hclean w' (List.mem_cons_of_mem w hw')) hl₁ hp₁ with
        ⟨w', hw', htaken⟩ | hstays
      · exact .inl ⟨w', List.mem_cons_of_mem w hw', htaken⟩
      · exact .inr hstays

/-- Where no message is lost, a message that is taken and freed was the awaited reply. -/
theorem clean (h : Exchange tid me s ws s') (hkept : NoneLost e answers me ws s') :
    ∀ w ∈ ws, w.Clean e answers me := by
  induction h with
  | done _ => exact fun w hw => by cases hw
  | @wait s s₁ s' w ws hquiet htakes rest ih =>
    have hgone : ∀ p l, w.expired = false → w.s.RxMessages me (p :: l) →
        s'.heap.cells p = none ∧ ∀ w' ∈ ws, ∀ l, w'.s.RxMessages me l → p ∉ l := by
      intro p l hexp hq
      obtain ⟨q, hinv⟩ := hquiet.inv
      obtain ⟨hdead, hlt⟩ := htakes.freed hinv hexp hq
      exact rest.dead hlt hdead
    have hrest : NoneLost e answers me ws s' := by
      intro w' hw' l p hl hp
      rcases hkept w' (List.mem_cons_of_mem w hw') l p hl hp with
        ⟨w₂, hw₂, hexp, ⟨l₂, hl₂⟩, hreply⟩ | hstays
      · rcases List.mem_cons.mp hw₂ with rfl | hw₂
        · exact absurd hp ((hgone p l₂ hexp hl₂).2 w' hw' l hl)
        · exact .inl ⟨w₂, hw₂, hexp, ⟨l₂, hl₂⟩, hreply⟩
      · exact .inr hstays
    intro w' hw'
    rcases List.mem_cons.mp hw' with rfl | hw'
    · intro hexp p l hq
      obtain ⟨hdead, hnot⟩ := hgone p l hexp hq
      rcases hkept w' List.mem_cons_self _ p hq List.mem_cons_self with
        ⟨w₂, hw₂, hexp₂, ⟨l₂, hl₂⟩, hreply⟩ | ⟨l', hl', hp', -⟩
      · rcases List.mem_cons.mp hw₂ with rfl | hw₂
        · exact hreply
        · exact absurd List.mem_cons_self (hnot w₂ hw₂ _ hl₂)
      · obtain ⟨q, hinv⟩ := rest.inv
        obtain ⟨m, hm⟩ := hl'.live hinv hp'
        rw [hdead] at hm
        cases hm
    · exact ih hrest w' hw'

end Exchange

end ItcFramework
