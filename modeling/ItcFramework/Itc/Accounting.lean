import ItcFramework.Itc.CallSpecs
import ItcFramework.Lib.Transition

/-!
# Mailbox accounting within a process

The threads of a process call `itc_create_mailbox`, `itc_send`, `itc_receive`, `itc_get_fd` and
`itc_delete_mailbox` in any order.

* `ItcStep` — one call; its event names the arguments and what the call returned.
* `Log` — what the events say about each mailbox id since it was last created: the messages whose
  send succeeded, and those that were received.
* `Traced.Accounted` — the invariant: each mailbox counts its messages, and what was sent to it is
  what was received from it and what lies in its rx queue.
* `mailbox_accounting` — it holds along every run, so that messages come out in the order they
  went in, and an `itc_receive` that follows a readable eventfd finds one.
-/

set_option autoImplicit false

namespace ItcFramework

open ByteImage HeapModel Transition ItcInstance

variable {σ : Type} {E : ItcEnv σ}

/-! ## Events and steps -/

/-- A message as a user sees it: where it is, and what is in it but for the flags. -/
abbrev Delivery := Nat × Option ItcMessage

namespace ItcInstance

def delivery (s : ItcInstance σ) (p : Nat) : Delivery :=
  (p, (s.heap.cells p).map fun m => { m with flags := 0 })

/-- The message at `p` is in a user's hands. -/
def Held (s : ItcInstance σ) (p : Nat) : Prop := ∃ m : UserMessage, s.heap.cells p = some m.msg

/-- The id of the caller's mailbox. -/
def myMboxId (s : ItcInstance σ) (tid : Nat) : MboxId :=
  (s.myThreadlocalMbox tid).elim ITC_NO_MBOX_ID fun me => (s.mboxes me).mboxId

end ItcInstance

inductive ItcEvent where
  | alloc (size : Nat) (msgno : UInt32)
  | write (msg : Nat) (m : UserMessage)
  | free (msg : Nat)
  | createMailbox (tid : Nat) (name : CString) (flags : UInt32) (ret : MboxId)
  | send (tid : Nat) (msg : Option Delivery) (toMbox fromMbox : MboxId) (ret : Bool)
  | receive (tid : Nat) (myMbox : MboxId) (ret : Option Delivery)
  | getFd (tid : Nat)
  | deleteMailbox (tid : Nat) (mboxId : MboxId) (ret : Bool)

/-- A call that returns, or what a user does with a message of its own. -/
inductive ItcStep (E : ItcEnv σ) : ItcInstance σ → ItcEvent → ItcInstance σ → Prop where
  | alloc {s : ItcInstance σ} {size : Nat} {msgno : UInt32} {m : ItcMessage}
      (call : itcAllocZz E.endian E.malloc true size msgno = .ok (some m)) :
      ItcStep E s (.alloc size msgno) (s.alloc m).2
  | write {s : ItcInstance σ} {msg : Nat} {m : UserMessage} {heap : Heap ItcMessage}
      (call : s.heap.write msg m.msg = .ok heap) : ItcStep E s (.write msg m) (s.setHeap heap)
  | free {s s' : ItcInstance σ} {msg : Nat} (call : itcFree s msg = .ok s') :
      ItcStep E s (.free msg) s'
  | createMailbox {s s' : ItcInstance σ} {fuel tid : Nat} {name : CString} {flags : UInt32}
      {ret : MboxId} (call : itcCreateMailbox E fuel s tid name flags = .ok (some (ret, s'))) :
      ItcStep E s (.createMailbox tid name flags ret) s'
  | send {s : ItcInstance σ} {fuel tid : Nat} {msg : Option Nat} {toMbox fromMbox : MboxId}
      {r : SendResult σ} (call : itcSend E fuel s tid msg toMbox fromMbox = .ok (some r)) :
      ItcStep E s (.send tid (msg.map r.s.delivery) toMbox fromMbox r.ret) r.s
  | receive {s s' : ItcInstance σ} {tid : Nat} {ret : Option Nat}
      (call : itcReceive s tid = .ok (some (ret, s'))) :
      ItcStep E s (.receive tid (s.myMboxId tid) (ret.map s'.delivery)) s'
  | getFd {s s' : ItcInstance σ} {tid : Nat} (call : itcGetFd s tid = .ok s') :
      ItcStep E s (.getFd tid) s'
  | deleteMailbox {s s' : ItcInstance σ} {fuel tid : Nat} {mboxId : MboxId} {ret : Bool}
      (call : itcDeleteMailbox E fuel s tid mboxId = .ok (some (ret, s'))) :
      ItcStep E s (.deleteMailbox tid mboxId ret) s'

/-- What has happened to the mailboxes: the ids handed out, and for each the messages sent to it
and received from it since it was last handed out. -/
structure Log where
  created : List MboxId
  sent : MboxId → List Delivery
  received : MboxId → List Delivery

def Log.empty : Log := ⟨[], fun _ => [], fun _ => []⟩

def Log.record (log : Log) : ItcEvent → Log
  | .createMailbox _ _ _ ret =>
      if ret = ITC_NO_MBOX_ID then log
      else ⟨ret :: log.created, Function.update log.sent ret [], Function.update log.received ret []⟩
  | .send _ (some d) toMbox _ true =>
      { log with sent := Function.update log.sent toMbox (log.sent toMbox ++ [d]) }
  | .receive _ myMbox (some d) =>
      { log with received := Function.update log.received myMbox (log.received myMbox ++ [d]) }
  | _ => log

/-- A process and its log. -/
structure Traced (σ : Type) where
  s : ItcInstance σ
  log : Log

namespace Traced

def Step (E : ItcEnv σ) (t : Traced σ) (a : ItcEvent) (t' : Traced σ) : Prop :=
  ItcStep E t.s a t'.s ∧ t'.log = t.log.record a

/-- How the calls are used: short names, messages that are the caller's own, and ids that
`itc_create_mailbox` has returned. -/
def Allowed (t : Traced σ) : ItcEvent → Prop
  | .write msg _ => t.s.Held msg
  | .free msg => t.s.Held msg
  | .createMailbox _ name _ _ => name.strlen < ITC_MAX_NAME_LENGTH
  | .send _ msg toMbox _ _ => (∀ d, msg = some d → t.s.Held d.1) ∧ toMbox ∈ t.log.created
  | _ => True

end Traced

/-! ## The log and the queues -/

theorem ItcInstance.delivery_congr {s s' : ItcInstance σ} {p : Nat}
    (h : s'.heap.cells p = s.heap.cells p) : s'.delivery p = s.delivery p := by
  rw [delivery, delivery, h]

/-- No mailbox has changed its id. -/
structure SameIds (s s' : ItcInstance σ) : Prop where
  nr : s'.nrMboxes = s.nrMboxes
  ids : ∀ i, (s'.mboxes i).mboxId = (s.mboxes i).mboxId

theorem SameIds.of_eq {s s' : ItcInstance σ} (hnr : s'.nrMboxes = s.nrMboxes)
    (hmboxes : s'.mboxes = s.mboxes) : SameIds s s' := ⟨hnr, fun i => by rw [hmboxes]⟩

theorem SameIds.of_update {s s' : ItcInstance σ} {i : Nat} {mbox : ItcMailbox}
    (hnr : s'.nrMboxes = s.nrMboxes)
    (hmboxes : s'.mboxes = fun j => if j = i then mbox else s.mboxes j)
    (hid : mbox.mboxId = (s.mboxes i).mboxId) : SameIds s s' := by
  refine ⟨hnr, fun j => ?_⟩
  rw [hmboxes]
  simp only
  split
  · rename_i hji
    rw [hji, hid]
  · rfl

/-- The ids of two mailboxes differ. -/
theorem ItcInstance.Layout.ids_inj {s : ItcInstance σ} (h : s.Layout) {i j : Nat}
    (hi : i < s.nrMboxes.toNat) (hj : j < s.nrMboxes.toNat)
    (heq : (s.mboxes i).mboxId = (s.mboxes j).mboxId) : i = j := by
  have hfind := h.findMbox_id hi
  rw [heq, h.findMbox_id hj] at hfind
  exact (Option.some.inj hfind).symm

/-- No mailbox has the id that stands for none. -/
theorem ItcInstance.Layout.id_ne {s : ItcInstance σ} (h : s.Layout) {i : Nat}
    (hi : i < s.nrMboxes.toNat) : (s.mboxes i).mboxId ≠ ITC_NO_MBOX_ID := by
  intro heq
  have hlt := h.nrLt
  have hmod := mboxId_mod h.my (Nat.lt_trans hi hlt) (Nat.le_refl _) (Nat.lt_trans hi hlt)
  rw [← h.ids i hi, heq] at hmod
  have hones : ITC_NO_MBOX_ID.toNat % 2 ^ mboxBits = 2 ^ mboxBits - 1 := rfl
  omega

/-- What was sent to a mailbox is what was received from it and what lies in its queue. -/
structure Logged (s : ItcInstance σ) (q : Queues) (log : Log) : Prop where
  entries : ∀ i l, q i = some l →
    log.sent (s.mboxes i).mboxId = log.received (s.mboxes i).mboxId ++ l.map s.delivery
  created : ∀ id ∈ log.created, ∃ i, i < s.nrMboxes.toNat ∧ (s.mboxes i).mboxId = id

namespace Logged

variable {s s' : ItcInstance σ} {q : Queues} {log log' : Log} {i : Nat}

theorem frame (h : Logged s q log) (hids : SameIds s s')
    (hframe : ∀ i l, q i = some l → ∀ p ∈ l, s'.delivery p = s.delivery p) :
    Logged s' q log where
  entries := by
    intro i l hq
    rw [hids.ids, List.map_congr_left (hframe i l hq)]
    exact h.entries i l hq
  created := by
    intro id hid
    obtain ⟨i, hi, hidi⟩ := h.created id hid
    exact ⟨i, by rw [hids.nr]; exact hi, by rw [hids.ids]; exact hidi⟩

/-- The queue of one mailbox changes, and with it what the log says of that mailbox. -/
theorem update (h : Logged s q log) (hids : SameIds s s') (hs : s.Inv q)
    (hi : i < s.nrMboxes.toNat) {o : Option (List Nat)}
    (hself : ∀ l, o = some l → log'.sent (s.mboxes i).mboxId =
      log'.received (s.mboxes i).mboxId ++ l.map s'.delivery)
    (hother : ∀ id, id ≠ (s.mboxes i).mboxId →
      log'.sent id = log.sent id ∧ log'.received id = log.received id)
    (hcreated : ∀ id ∈ log'.created, id = (s.mboxes i).mboxId ∨ id ∈ log.created)
    (hframe : ∀ j l, j ≠ i → q j = some l → ∀ p ∈ l, s'.delivery p = s.delivery p) :
    Logged s' (Function.update q i o) log' where
  entries := by
    intro j l hj
    rw [hids.ids]
    by_cases hji : j = i
    · rw [hji, Function.update_self] at hj
      rw [hji]
      exact hself l hj
    · rw [Function.update_of_ne hji] at hj
      have hlt := (hs.slots.queue j (by rw [hj]; exact Option.some_ne_none l)).1
      have hne : (s.mboxes j).mboxId ≠ (s.mboxes i).mboxId :=
        fun heq => hji (hs.layout.ids_inj hlt hi heq)
      rw [(hother _ hne).1, (hother _ hne).2, List.map_congr_left (hframe j l hji hj)]
      exact h.entries j l hj
  created := by
    intro id hid
    rcases hcreated id hid with rfl | hid
    · exact ⟨i, by rw [hids.nr]; exact hi, hids.ids i⟩
    · obtain ⟨j, hj, hidj⟩ := h.created id hid
      exact ⟨j, by rw [hids.nr]; exact hj, by rw [hids.ids]; exact hidj⟩

end Logged

/-! ## The calls -/

/-- The process holds the queues `q`, its mailboxes count them and the log tells them. -/
structure AccountedBy (s : ItcInstance σ) (q : Queues) (log : Log) : Prop where
  inv : s.Inv q
  accounting : s.Accounting q
  logged : Logged s q log

namespace AccountedBy

variable {s s' : ItcInstance σ} {q : Queues} {log : Log} {tid : Nat}

/-- Nothing happens to the messages in the queues. -/
theorem ofHeap (h : AccountedBy s q log) {heap' : Heap ItcMessage}
    (hframe : ∀ i l, q i = some l → ∀ p ∈ l, heap'.cells p = s.heap.cells p) :
    AccountedBy (s.setHeap heap') q log where
  inv := h.inv.ofHeap (h.inv.messages.frame hframe) h.inv.layout.sysvmqInst
  accounting := h.accounting
  logged := h.logged.frame (.of_eq rfl rfl) fun i l hq p hp => delivery_congr (hframe i l hq p hp)

theorem ofHeld (h : AccountedBy s q log) {p : Nat} (hp : s.Held p) {heap' : Heap ItcMessage}
    (hframe : ∀ p', p' ≠ p → heap'.cells p' = s.heap.cells p') :
    AccountedBy (s.setHeap heap') q log := by
  obtain ⟨m, hm⟩ := hp
  refine h.ofHeap fun i l hq p' hp' => hframe p' ?_
  intro heq
  rw [heq] at hp'
  exact h.inv.messages.not_mem hm hq hp'

theorem createMailbox (h : AccountedBy s q log) {fuel : Nat} {name : CString} {flags : UInt32}
    {ret : MboxId} (hname : name.strlen < ITC_MAX_NAME_LENGTH)
    (hcall : itcCreateMailbox E fuel s tid name flags = .ok (some (ret, s'))) :
    ∃ q', AccountedBy s' q' (log.record (.createMailbox tid name flags ret)) := by
  have hcreated := (itcCreateMailbox_returns h.inv hname fuel tid flags).of_eq hcall
  cases hcreated with
  | failed =>
    rw [Log.record, if_pos rfl]
    exact ⟨q, h⟩
  | @created i rest s₁ ht hfree hinv hheap hmboxes hnr hthread =>
    obtain ⟨hi, hq⟩ := h.inv.slots.free i (by rw [hfree]; exact List.mem_cons_self)
    rw [Log.record, if_neg (h.inv.layout.id_ne hi)]
    have hids : SameIds s s' := .of_update hnr hmboxes (ItcMailbox.create_mboxId _ _ _ _)
    refine ⟨_, hinv, ?_, h.logged.update hids h.inv hi ?_ ?_ ?_
      fun j l _ _ p _ => delivery_congr (hheap p)⟩
    · intro j l hj
      rw [hmboxes]
      by_cases hji : j = i
      · rw [hji, Function.update_self] at hj
        cases hj
        have hclosed := h.inv.slots.closed i hq
        simp only [if_pos hji]
        exact ⟨rfl, fun hfd => absurd (hclosed.symm.trans hfd) Bool.false_ne_true⟩
      · rw [Function.update_of_ne hji] at hj
        simp only [if_neg hji]
        exact h.accounting j l hj
    · rintro _ ⟨⟩
      simp only [Function.update_self, List.map_nil, List.append_nil]
    · intro id hid
      exact ⟨Function.update_of_ne hid _ _, Function.update_of_ne hid _ _⟩
    · intro id hid
      exact List.mem_cons.mp hid

/-- One message goes into the queue of a mailbox or comes out of it. -/
theorem setQueue (h : AccountedBy s q log) {i : Nat} {l l' : List Nat} {rxq : RxQueue}
    {heap' : Heap ItcMessage} {info : RxqInfo} {log' : Log} (hq : q i = some l)
    (hinv : ((s.setLocal (s.localInst.setRxq i rxq) heap').setRxqInfo i info).Inv
      (Function.update q i (some l')))
    (hcounts : info.Counts l'.length)
    (hkept : ∀ j l, q j = some l → ∀ p ∈ l,
      ((s.setLocal (s.localInst.setRxq i rxq) heap').setRxqInfo i info).delivery p = s.delivery p)
    (hself : log'.sent (s.mboxes i).mboxId = log'.received (s.mboxes i).mboxId ++
      l'.map ((s.setLocal (s.localInst.setRxq i rxq) heap').setRxqInfo i info).delivery)
    (hother : ∀ id, id ≠ (s.mboxes i).mboxId →
      log'.sent id = log.sent id ∧ log'.received id = log.received id)
    (hcreated : log'.created = log.created) :
    AccountedBy ((s.setLocal (s.localInst.setRxq i rxq) heap').setRxqInfo i info)
      (Function.update q i (some l')) log' := by
  have hi := (h.inv.slots.queue i (by rw [hq]; exact Option.some_ne_none l)).1
  have hids : SameIds s ((s.setLocal (s.localInst.setRxq i rxq) heap').setRxqInfo i info) :=
    .of_update rfl rfl rfl
  have hcounted : (s.setLocal (s.localInst.setRxq i rxq) heap').Accounting q := h.accounting
  refine ⟨hinv, hcounted.setRxqInfo hcounts, h.logged.update hids h.inv hi ?_ hother ?_
    fun j l _ => hkept j l⟩
  · rintro _ ⟨⟩
    exact hself
  · rw [hcreated]
    exact fun id hid => .inr hid

theorem send (h : AccountedBy s q log) (hmem : E.qitemMem = true) {fuel : Nat}
    {msg : Option Nat} {toMbox fromMbox : MboxId} {r : SendResult σ}
    (hmsg : ∀ p, msg = some p → s.Held p) (hto : toMbox ∈ log.created)
    (hcall : itcSend E fuel s tid msg toMbox fromMbox = .ok (some r)) :
    ∃ q', AccountedBy r.s q'
      (log.record (.send tid (msg.map r.s.delivery) toMbox fromMbox r.ret)) := by
  obtain ⟨i, hi, rfl⟩ := h.logged.created toMbox hto
  cases msg with
  | none =>
    rw [itcSend_null] at hcall
    cases hcall
    exact ⟨q, h⟩
  | some p =>
    obtain ⟨m, hm⟩ := hmsg p rfl
    cases (itcSend_returns h.inv hm fuel tid _ fromMbox).of_eq hcall with
    | rejected _ => exact ⟨q, h⟩
    | host _ hhost =>
      rcases hhost.ofId h.inv hmem hi with ⟨heap', -, hheap, rfl⟩ |
        ⟨l, rxq, heap', hq, hholds, hheap, rfl⟩
      · exact ⟨q, h.ofHeld ⟨m, hm⟩ hheap.frame⟩
      · have hinv := h.inv.setQueue (s.mboxes i).rxqInfo.onSend hq hholds
          (h.inv.messages.enqueue hq hm hheap.self hheap.frame)
        have hcounts : (s.mboxes i).rxqInfo.onSend.Counts (l ++ [p]).length := by
          rw [List.length_append]
          exact (h.accounting i l hq).onSend
        have hkept : ∀ j l, q j = some l → ∀ p' ∈ l, ((s.setLocal (s.localInst.setRxq i rxq)
            heap').setRxqInfo i (s.mboxes i).rxqInfo.onSend).delivery p' = s.delivery p' := by
          intro j l' hj p' hp'
          refine delivery_congr (hheap.frame p' ?_)
          intro heq
          rw [heq] at hp'
          exact h.inv.messages.not_mem hm hj hp'
        refine ⟨_, h.setQueue hq hinv hcounts hkept ?_ ?_ rfl⟩
        · simp only [Log.record, Option.map_some, Function.update_self, h.logged.entries i l hq,
            List.map_append, List.map_cons, List.map_nil, List.append_assoc,
            List.map_congr_left (hkept i l hq)]
        · intro id hid
          exact ⟨Function.update_of_ne hid _ _, rfl⟩

/-- **A receive takes the first message of the caller's queue**, and blocks on no eventfd. -/
theorem receive (h : AccountedBy s q log) {me : Nat} {l : List Nat}
    (ht : s.myThreadlocalMbox tid = some me) (hq : q me = some l) :
    ∃ s' q', itcReceive s tid = .ok (some (l.head?, s')) ∧
      AccountedBy s' q' (log.record (.receive tid (s.myMboxId tid) (l.head?.map s'.delivery))) := by
  cases l with
  | nil =>
    obtain ⟨rxq, hcall, hinv⟩ := itcReceive_empty h.inv ht hq
    refine ⟨_, q, hcall, hinv, ?_, h.logged.frame (.of_update rfl rfl rfl)
      fun _ _ _ _ _ => rfl⟩
    have hcounts : RxqInfo.Counts { (s.mboxes me).rxqInfo with isInRx := false } 0 :=
      ⟨(h.accounting me [] hq).rxqLen, (h.accounting me [] hq).rxqFd⟩
    have hupdate : Function.update q me (some []) = q := by rw [← hq, Function.update_eq_self]
    have hcounted : (s.setLocal (s.localInst.setRxq me rxq) s.heap).Accounting q := h.accounting
    have := hcounted.setRxqInfo (i := me) (l := []) hcounts
    rwa [hupdate] at this
  | cons p l =>
    obtain ⟨m, rxq, heap', info, hm, hcall, hheap, hcounts, hinv⟩ :=
      itcReceive_message h.inv ht hq (h.accounting me _ hq)
    have hmy : s.myMboxId tid = (s.mboxes me).mboxId := by
      rw [myMboxId, ht, Option.elim_some]
    -- taking the message out of the queue clears a flag and nothing else
    have hdelivery : ∀ p', ((s.setLocal (s.localInst.setRxq me rxq) heap').setRxqInfo me
        info).delivery p' = s.delivery p' := by
      intro p'
      by_cases hp : p' = p
      · have hself : ((s.setLocal (s.localInst.setRxq me rxq) heap').setRxqInfo me
            info).heap.cells p = some m.msg := hheap.self
        rw [hp, delivery, delivery, hself, hm]
        rfl
      · exact delivery_congr (hheap.frame p' hp)
    refine ⟨_, _, hcall, h.setQueue hq hinv hcounts (fun _ _ _ p' _ => hdelivery p') ?_ ?_ rfl⟩
    · simp only [Log.record, List.head?_cons, Option.map_some, hdelivery, hmy,
        Function.update_self, h.logged.entries me _ hq, List.map_cons, List.append_assoc,
        List.cons_append, List.nil_append, List.map_congr_left fun p' (_ : p' ∈ l) => hdelivery p']
    · intro id hid
      refine ⟨rfl, ?_⟩
      rw [← hmy] at hid
      exact Function.update_of_ne hid _ _

theorem getFd (h : AccountedBy s q log) (hcall : itcGetFd s tid = .ok s') :
    AccountedBy s' q log := by
  rcases itcGetFd_cases h.inv hcall with rfl | ⟨me, l, -, hq, rfl, hinv⟩
  · exact h
  · have hupdate : Function.update q me (some l) = q := by rw [← hq, Function.update_eq_self]
    have hcounted := h.accounting.setRxqInfo (i := me) (l := l) (h.accounting me l hq).onGetFd
    rw [hupdate] at hcounted
    exact ⟨hinv, hcounted, h.logged.frame (.of_update rfl rfl rfl) fun _ _ _ _ _ => rfl⟩

theorem deleteMailbox (h : AccountedBy s q log) {fuel : Nat} {mboxId : MboxId} {ret : Bool}
    (hcall : itcDeleteMailbox E fuel s tid mboxId = .ok (some (ret, s'))) :
    ∃ q', AccountedBy s' q' log := by
  have hdeleted := (itcDeleteMailbox_returns h.inv fuel tid mboxId).of_eq hcall
  cases hdeleted with
  | failed _ =>
    exact ⟨q, h⟩
  | @deleted me l s₁ ht hid hq hinv hfreed hheap hmboxes hnr hthread =>
    have hi := (h.inv.slots.queue me (by rw [hq]; exact Option.some_ne_none l)).1
    have hids : SameIds s s' := .of_update hnr hmboxes rfl
    refine ⟨_, hinv, ?_, h.logged.update hids h.inv hi ?_ ?_ ?_ ?_⟩
    · intro j l' hj
      rw [hmboxes]
      by_cases hjm : j = me
      · rw [hjm, Function.update_self] at hj
        cases hj
      · rw [Function.update_of_ne hjm] at hj
        simp only [if_neg hjm]
        exact h.accounting j l' hj
    · rintro _ ⟨⟩
    · exact fun _ _ => ⟨rfl, rfl⟩
    · exact fun id hid => .inr hid
    · intro j l' hjm hj p hp
      exact delivery_congr (hheap p (h.inv.messages.apart j me l' l hj hq hjm p hp))

end AccountedBy

/-! ## Runs -/

theorem ItcInstance.Inv.init (proc : Nat) {nrMboxes : UInt32} (hpos : nrMboxes ≠ 0)
    (hlt : nrMboxes.toNat < 2 ^ mboxBits) (maxMsgsize : Nat) (kernel : σ) :
    (ItcInstance.init proc nrMboxes maxMsgsize kernel).Inv fun _ => none where
  layout := {
    my := by
      have hofNat : (UInt32.ofNat (proc * 2 ^ 20)).toNat = proc * 2 ^ 20 % 2 ^ 32 :=
        UInt32.toNat_ofNat'
      simp only [ItcInstance.init, mboxBits, hofNat]
      omega
    mask := rfl
    nrPos := hpos
    nrLt := hlt
    localMask := rfl
    ids := fun _ _ => rfl
    localInst := ⟨rfl, rfl, rfl, rfl, rfl⟩
    sysvmqInst := .ofInit maxMsgsize }
  holds := fun _ => trivial
  messages := ⟨fun _ _ h => (by cases h), fun _ _ _ _ h => (by cases h), fun _ _ h => (by cases h)⟩
  slots := {
    queue := fun _ h => absurd rfl h
    inuse := fun _ _ h => by cases h
    closed := fun _ _ => rfl
    freeNodup := List.nodup_range
    free := fun i hi => ⟨List.mem_range.mp hi, rfl⟩
    thread := fun _ _ h => by cases h
    threadInj := fun _ _ _ h => by cases h
    names := fun _ => (by decide : CString.empty.strlen < ITC_MAX_NAME_LENGTH) }

namespace Traced

/-- **The invariant of the runs.** -/
def Accounted (t : Traced σ) : Prop := ∃ q, AccountedBy t.s q t.log

def init (proc : Nat) (nrMboxes : UInt32) (maxMsgsize : Nat) (kernel : σ) : Traced σ :=
  ⟨.init proc nrMboxes maxMsgsize kernel, .empty⟩

theorem Accounted.init (proc : Nat) {nrMboxes : UInt32} (hpos : nrMboxes ≠ 0)
    (hlt : nrMboxes.toNat < 2 ^ mboxBits) (maxMsgsize : Nat) (kernel : σ) :
    (Traced.init proc nrMboxes maxMsgsize kernel).Accounted :=
  ⟨fun _ => none, .init proc hpos hlt maxMsgsize kernel, fun _ _ h => (by cases h),
    fun _ _ h => (by cases h), fun _ h => (by cases h)⟩

/-- **A call keeps the accounts.** -/
theorem Accounted.step {t t' : Traced σ} {a : ItcEvent} (hmem : E.qitemMem = true)
    (h : t.Accounted) (hallowed : t.Allowed a) (hstep : Step E t a t') : t'.Accounted := by
  obtain ⟨q, h⟩ := h
  obtain ⟨s, log⟩ := t
  obtain ⟨s', log'⟩ := t'
  obtain ⟨hstep, hlog⟩ := hstep
  simp only at hlog hstep h
  subst hlog
  cases hstep with
  | alloc call =>
    refine ⟨q, h.ofHeap fun i l hq p hp => ?_⟩
    obtain ⟨m, hm⟩ := h.inv.messages.queued i l hq p hp
    exact Heap.push_of_ne _ _ (Nat.ne_of_lt (Heap.lt_next hm))
  | write call =>
    obtain ⟨m, hm⟩ := hallowed
    exact ⟨q, h.ofHeld ⟨m, hm⟩ (Heap.write_frame call)⟩
  | free call =>
    obtain ⟨m, hm⟩ := hallowed
    obtain ⟨heap', rfl, hframe⟩ := itcFree_ok hm call
    exact ⟨q, h.ofHeld ⟨m, hm⟩ hframe⟩
  | createMailbox call => exact h.createMailbox hallowed call
  | @send _ _ msg _ _ _ call =>
    obtain ⟨hmsg, hto⟩ := hallowed
    exact h.send hmem (fun p hp => hmsg _ (by rw [hp, Option.map_some])) hto call
  | @receive _ tid ret call =>
    cases ht : s.myThreadlocalMbox tid with
    | none =>
      simp only [itcReceive, ht] at call
      cases call
      exact ⟨q, h⟩
    | some me =>
      obtain ⟨l, hq⟩ := Option.ne_none_iff_exists'.mp (h.inv.slots.thread tid me ht)
      obtain ⟨s₁, q₁, hcall, h₁⟩ := h.receive ht hq
      rw [hcall] at call
      cases call
      exact ⟨q₁, h₁⟩
  | getFd call => exact ⟨q, h.getFd call⟩
  | deleteMailbox call => exact h.deleteMailbox call

end Traced

/-- What a user can rely on about the mailbox `i`, which is in use. -/
structure MailboxAccounted (t : Traced σ) (i : Nat) (rxq : RxQueue) (l : List Nat) : Prop where
  rxq : (t.s.localInst.localmbxData i).rxq = some rxq ∧ rxq.Holds l
  nodup : l.Nodup
  rxqLen : (t.s.mboxes i).rxqInfo.rxqLen = l.length
  rxqFd : (t.s.mboxes i).rxqInfo.isFdCreated = true →
    (t.s.mboxes i).rxqInfo.rxqFd = if 0 < (t.s.mboxes i).rxqInfo.rxqLen then 1 else 0
  fifo : t.log.sent (t.s.mboxes i).mboxId =
    t.log.received (t.s.mboxes i).mboxId ++ l.map t.s.delivery
  receive : ∀ tid, t.s.myThreadlocalMbox tid = some i →
    ∃ s', itcReceive t.s tid = .ok (some (l.head?, s'))
  readable : ∀ tid, t.s.myThreadlocalMbox tid = some i →
    (t.s.mboxes i).rxqInfo.isFdCreated = true → (t.s.mboxes i).rxqInfo.rxqFd ≠ 0 →
    ∃ p s', itcReceive t.s tid = .ok (some (some p, s'))

theorem AccountedBy.mailbox {t : Traced σ} {q : Queues} (h : AccountedBy t.s q t.log) {i : Nat}
    {l : List Nat} (hq : q i = some l) : ∃ rxq, MailboxAccounted t i rxq l := by
  have hholds := h.inv.holds i
  rw [hq] at hholds
  obtain ⟨rxq, hrxq, hl⟩ := hholds.of_some
  have hcounts := h.accounting i l hq
  have hreceive : ∀ tid, t.s.myThreadlocalMbox tid = some i →
      ∃ s', itcReceive t.s tid = .ok (some (l.head?, s')) := by
    intro tid ht
    obtain ⟨s', -, hcall, -⟩ := h.receive ht hq
    exact ⟨s', hcall⟩
  refine ⟨rxq, ⟨hrxq, hl⟩, h.inv.messages.nodup i l hq, hcounts.rxqLen, ?_,
    h.logged.entries i l hq, hreceive, ?_⟩
  · intro hfd
    rw [hcounts.rxqFd hfd, hcounts.rxqLen]
    split <;> split <;> omega
  · intro tid ht hfd hne
    obtain ⟨s', hcall⟩ := hreceive tid ht
    cases l with
    | nil => exact absurd (hcounts.rxqFd hfd) hne
    | cons p l => exact ⟨p, s', hcall⟩

/-- **Mailbox accounting.** Whatever the threads of a process do, a mailbox in use counts the
messages of its rx queue, its eventfd is readable when there is one, and they are the messages
sent to it and not yet received, in order. -/
theorem mailbox_accounting (E : ItcEnv σ) (hmem : E.qitemMem = true) (proc : Nat)
    (nrMboxes : UInt32) (hpos : nrMboxes ≠ 0) (hlt : nrMboxes.toNat < 2 ^ mboxBits)
    (maxMsgsize : Nat) (kernel : σ) (as : List ItcEvent) (t : Traced σ)
    (hrun : Run (Guarded (Traced.Step E) Traced.Allowed)
      (.init proc nrMboxes maxMsgsize kernel) as t)
    (i : Nat) (hi : i < t.s.nrMboxes.toNat) (hinuse : (t.s.mboxes i).mboxState = .inuse) :
    ∃ rxq l, MailboxAccounted t i rxq l := by
  obtain ⟨q, h⟩ := hrun.invariant_of_guard (I := Traced.Accounted)
    (fun t a t' h hallowed hstep => h.step hmem hallowed hstep)
    (.init proc hpos hlt maxMsgsize kernel)
  obtain ⟨l, hq⟩ := Option.ne_none_iff_exists'.mp (h.inv.slots.inuse i hi hinuse)
  obtain ⟨rxq, haccounted⟩ := h.mailbox hq
  exact ⟨rxq, l, haccounted⟩

/-- Two threads of the coordinator's process, and a message from one to the other. -/
theorem mailbox_accounting_pair :
    ∃ (as : List ItcEvent) (t : Traced Unit) (rxq : RxQueue) (l : List Nat), as.length = 4 ∧
      (t.s.mboxes 1).rxqInfo.rxqLen = 1 ∧ MailboxAccounted t 1 rxq l := by
  let s₀ : ItcInstance Unit := .init 1 3 0 ()
  let c₁ := returned (0, s₀) (itcCreateMailbox ItcEnv.willing 0 s₀ 0 .empty 0)
  let c₂ := returned (0, s₀) (itcCreateMailbox ItcEnv.willing 0 c₁.2 1 .empty 0)
  let s₃ := (c₂.2.alloc (.fresh .little 4 0)).2
  let r₄ := returned ⟨false, none, none, s₀⟩
    (itcSend ItcEnv.willing 0 s₃ 0 (some 0) 0x00100001 ITC_MY_MBOX_ID)
  let e₁ : ItcEvent := .createMailbox 0 .empty 0 c₁.1
  let e₂ : ItcEvent := .createMailbox 1 .empty 0 c₂.1
  let e₄ : ItcEvent := .send 0 (some (r₄.s.delivery 0)) 0x00100001 ITC_MY_MBOX_ID r₄.ret
  let log₁ := Log.empty.record e₁
  let log₂ := log₁.record e₂
  have hempty : CString.empty.strlen < ITC_MAX_NAME_LENGTH := by decide
  have hheld : s₃.Held 0 := by
    refine ⟨⟨.fresh .little 4 0, ItcMessage.fresh_wellFormed _ _ ?_ ?_, rfl⟩, ?_⟩
    · omega
    · omega
    · decide +kernel
  have hcreate₁ : itcCreateMailbox ItcEnv.willing 0 s₀ 0 .empty 0 = .ok (some (c₁.1, c₁.2)) :=
    returned_eq (by decide +kernel)
  have hcreate₂ : itcCreateMailbox ItcEnv.willing 0 c₁.2 1 .empty 0 = .ok (some (c₂.1, c₂.2)) :=
    returned_eq (by decide +kernel)
  have hstep₁ : Guarded (Traced.Step ItcEnv.willing) Traced.Allowed (.init 1 3 0 ()) e₁
      ⟨c₁.2, log₁⟩ := ⟨hempty, .createMailbox hcreate₁, rfl⟩
  have hstep₂ : Guarded (Traced.Step ItcEnv.willing) Traced.Allowed ⟨c₁.2, log₁⟩ e₂
      ⟨c₂.2, log₂⟩ := ⟨hempty, .createMailbox hcreate₂, rfl⟩
  have hstep₃ : Guarded (Traced.Step ItcEnv.willing) Traced.Allowed ⟨c₂.2, log₂⟩ (.alloc 4 0)
      ⟨s₃, log₂⟩ := ⟨trivial, .alloc (itcAllocZz_ok .little .least 0 (by omega) (by decide)), rfl⟩
  have hsend : itcSend ItcEnv.willing 0 s₃ 0 (some 0) 0x00100001 ITC_MY_MBOX_ID =
      .ok (some r₄) := returned_eq (by decide +kernel)
  have hto : (0x00100001 : MboxId) ∈ log₂.created := by decide +kernel
  have hlt : 1 < r₄.s.nrMboxes.toNat := by decide +kernel
  have hinuse : (r₄.s.mboxes 1).mboxState = .inuse := by decide +kernel
  have hlen : (r₄.s.mboxes 1).rxqInfo.rxqLen = 1 := by decide +kernel
  clear_value log₂ r₄ s₃
  have hstep₄ : Guarded (Traced.Step ItcEnv.willing) Traced.Allowed ⟨s₃, log₂⟩ e₄
      ⟨r₄.s, log₂.record e₄⟩ := by
    refine ⟨⟨?_, hto⟩, .send hsend, rfl⟩
    rintro _ ⟨⟩
    exact hheld
  obtain ⟨rxq, l, h⟩ := mailbox_accounting ItcEnv.willing rfl 1 3 (by decide) (by decide) 0 () _ _
    (.cons hstep₁ (.cons hstep₂ (.cons hstep₃ (.cons hstep₄ (.nil _))))) 1 hlt hinuse
  exact ⟨[e₁, e₂, .alloc 4 0, e₄], _, rxq, l, rfl, hlen, h⟩

end ItcFramework
