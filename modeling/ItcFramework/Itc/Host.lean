import ItcFramework.Itc.Forward
import ItcFramework.Itc.HostQueues

/-!
# The mailboxes of a host

The processes of a host whose threads send to each other's mailboxes over the System V queues, the
rx thread of each process sending on what comes for it.

* `HostStep` — a call of some thread of some process, or a pass of an rx thread.
* `Host.due` — what other processes have left for a mailbox since it was created.
* `CallFrame`, `AccountedBy.call` — what a call leaves alone, and that it keeps the accounts of its
  process whomever it sends to.
* `ItcStep.carried` — nobody but the rx thread sends from its mailbox.
-/

set_option autoImplicit false

namespace ItcFramework

open ByteImage HeapModel ItcInstance Transition

/-! ## The system -/

/-- The thread of each process that runs `sysvmq_rx_thread`. -/
def sysvmqRxTid : Nat := 0

structure Host where
  queues : KernelQueues
  procs : Nat → Traced KernelQueues
  rx : Nat → SysvmqRx
  /-- The messages whose texts are in the queue of a process. -/
  inTransit : Nat → List UserMessage
  /-- What other processes have left for a mailbox since it was created, and what was on its way to
  that id then. -/
  due : MboxId → List ItcMessage

/-- The process as it sees the queues of the host. -/
def Traced.onHost (t : Traced KernelQueues) (k : KernelQueues) : Traced KernelQueues :=
  ⟨t.s.setSysvmq t.s.sysvmqInst k t.s.heap, t.log⟩

namespace Host

/-- After `itc_init_zz` of the processes `p` with `nr p` mailboxes, where `nr p` is not zero. -/
def init (M : Nat) (nr : Nat → UInt32) : Host where
  queues := fun p => if nr p = 0 then none else some []
  procs := fun p => .init p (nr p) M fun _ => none
  rx := fun _ => .init M
  inTransit := fun _ => []
  due := fun _ => []

/-- The id that the call has handed out. -/
def createdId : ItcEvent → Option MboxId
  | .createMailbox _ _ _ ret => if ret = ITC_NO_MBOX_ID then none else some ret
  | _ => none

/-- After the call `a` of process `p`, which has put `new` into the queues. -/
def afterCall (h : Host) (p : Nat) (a : ItcEvent) (t : Traced KernelQueues)
    (new : Nat → List UserMessage) : Host where
  queues := t.s.kernel
  procs := Function.update h.procs p t
  rx := h.rx
  inTransit := fun i => h.inTransit i ++ new i
  due := fun id => (if createdId a = some id then contentsFor id (h.inTransit p) else h.due id) ++
    (h.procs p).s.posted a id

/-- `msgrcv` by the rx thread of process `p`, whose queue is `t :: ts`. -/
def received (h : Host) (M p : Nat) (t : Bytes) (ts : List Bytes) (rx : SysvmqRx) : Host :=
  let rest := (limitMsgrcv (M - 8) t ts).2
  { h with
    queues := Function.update h.queues p (some rest)
    rx := Function.update h.rx p rx
    inTransit := Function.update h.inTransit p
      ((h.inTransit p).drop (ts.length + 1 - rest.length)) }

theorem received_isSome {h : Host} {M p : Nat} {t : Bytes} {ts : List Bytes} {rx : SysvmqRx}
    (hqueue : h.queues p = some (t :: ts)) (i : Nat) :
    ((h.received M p t ts rx).queues i).isSome = (h.queues i).isSome := by
  by_cases hip : i = p
  · rw [hip, show (h.received M p t ts rx).queues p = _ from Function.update_self .., hqueue]
    rfl
  · rw [show (h.received M p t ts rx).queues i = _ from Function.update_of_ne hip _ _]

/-- After the rx thread of process `p` has sent on the message `msg`, which put `new` into the
queues. -/
def relayed (h : Host) (p msg : Nat) (message : ItcMessage) (r : SendResult KernelQueues)
    (new : Nat → List UserMessage) : Host where
  queues := r.s.kernel
  procs := Function.update h.procs p ⟨r.s, (h.procs p).log.record (.send sysvmqRxTid
    (some (r.s.delivery msg)) message.receiver ITC_MY_MBOX_ID r.ret)⟩
  rx := h.rx
  inTransit := fun i => h.inTransit i ++ new i
  due := h.due

end Host

inductive HostAction where
  | call (p : Nat) (a : ItcEvent)
  | rx (p : Nat)

open Host in
/-- The steps of a host. A call that never returns is no step. -/
inductive HostStep (E : ItcEnv KernelQueues) (M : Nat) : Host → HostAction → Host → Prop where
  | call {h : Host} {p : Nat} {a : ItcEvent} {t : Traced KernelQueues}
      {new : Nat → List UserMessage}
      (hstep : Traced.Step E ((h.procs p).onHost h.queues) a t)
      (hnew : t.s.kernel = h.queues.post E.endian new)
      (hqueued : ∀ i, h.queues i = none → new i = []) :
      HostStep E M h (.call p a) (h.afterCall p a t new)
  /-- The text is too long for the buffer and stays, or it is too short and is dropped. -/
  | skip {h : Host} {p : Nat} {t : Bytes} {ts : List Bytes} {rx : SysvmqRx}
      (hready : (h.procs p).s.myThreadlocalMbox sysvmqRxTid ≠ none)
      (hqueue : h.queues p = some (t :: ts))
      (hrx : sysvmqRxThread E.endian E.malloc (h.rx p) (limitMsgrcv (M - 8) t ts).1 =
        .ok (rx, none)) :
      HostStep E M h (.rx p) (h.received M p t ts rx)
  | relay {h : Host} {p fuel msg : Nat} {t : Bytes} {ts : List Bytes} {rx : SysvmqRx}
      {message : ItcMessage} {r : SendResult KernelQueues} {new : Nat → List UserMessage}
      (hready : (h.procs p).s.myThreadlocalMbox sysvmqRxTid ≠ none)
      (hqueue : h.queues p = some (t :: ts))
      (hrx : sysvmqRxThread E.endian E.malloc (h.rx p) (limitMsgrcv (M - 8) t ts).1 =
        .ok (rx, some message))
      (hsend : sendCopy E fuel ((h.procs p).onHost (h.received M p t ts rx).queues).s sysvmqRxTid
        message = .ok (some (msg, r)))
      (hnew : r.s.kernel = (h.received M p t ts rx).queues.post E.endian new)
      (hqueued : ∀ i, h.queues i = none → new i = []) :
      HostStep E M h (.rx p) ((h.received M p t ts rx).relayed p msg message r new)

/-- The thread that calls. -/
def ItcEvent.caller : ItcEvent → Option Nat
  | .createMailbox tid _ _ _ | .send tid _ _ _ _ | .receive tid _ _ | .getFd tid
  | .deleteMailbox tid _ _ => some tid
  | .alloc _ _ | .write _ _ | .free _ => none

/-- How a process is used: messages of the caller's own go to ids that were handed out, the rx
thread creates its mailbox before any other thread calls, and keeps it. -/
def HostMay (h : Host) : HostAction → Prop
  | .call p a =>
      (h.queues p).isSome ∧ UsesOwn (h.procs p).s a ∧
        (∀ id, a.SendsTo id → procOf id = 1 ∨ id ∈ (h.procs (procOf id)).log.created) ∧
        if (h.procs p).s.myThreadlocalMbox sysvmqRxTid = none then
          ∃ name flags ret, a = .createMailbox sysvmqRxTid name flags ret
        else a.caller ≠ some sysvmqRxTid
  | .rx _ => True

/-! ## One call -/

variable {E : ItcEnv KernelQueues} {s s' : ItcInstance KernelQueues} {q : Queues} {M : Nat}

/-- What no call changes of the threads of others, and what it changes of the mailboxes. -/
structure CallFrame (s : ItcInstance KernelQueues) (a : ItcEvent) (s' : ItcInstance KernelQueues) :
    Prop where
  ids : SameIds s s'
  threads : ∀ tid, a.caller ≠ some tid → s'.myThreadlocalMbox tid = s.myThreadlocalMbox tid
  inuse : ∀ i, (s'.mboxes i).mboxState = .inuse →
    (s.mboxes i).mboxState = .inuse ∨ Host.createdId a = some (s.mboxes i).mboxId
  created : ∀ id, Host.createdId a = some id →
    ∃ i, i < s.nrMboxes.toNat ∧ (s.mboxes i).mboxId = id

theorem CallFrame.of_sameSlots {a : ItcEvent} (h : SameSlots s s')
    (hnone : Host.createdId a = none) : CallFrame s a s' where
  ids := ⟨h.nr, fun i => by rw [h.mboxes i]⟩
  threads := fun tid _ => by rw [h.thread]
  inuse := fun i hi => .inl (by rw [h.mboxes i] at hi; exact hi)
  created := fun id hid => by rw [hnone] at hid; cases hid

/-- A thread that others leave alone keeps its mailbox. -/
theorem CallFrame.caller_mbox {a : ItcEvent} (h : CallFrame s a s') {tid : Nat}
    (htid : a.caller ≠ some tid) : s'.myMboxId tid = s.myMboxId tid := by
  rw [myMboxId, myMboxId, h.threads tid htid]
  cases s.myThreadlocalMbox tid with
  | none => rfl
  | some me => exact h.ids.ids me

theorem ItcStep.frame {a : ItcEvent} (h : s.Inv q) (hown : UsesOwn s a) (hstep : ItcStep E s a s') :
    CallFrame s a s' := by
  cases hstep with
  | alloc _ => exact .of_sameSlots (.setHeap s _) rfl
  | write _ => exact .of_sameSlots (.setHeap s _) rfl
  | free call => exact .of_sameSlots (itcFree_sameSlots call) rfl
  | send call => exact .of_sameSlots (itcSend_sameSlots call) rfl
  | receive call => exact .of_sameSlots (itcReceive_sameSlots call) rfl
  | getFd call => exact .of_sameSlots (itcGetFd_sameSlots call) rfl
  | @createMailbox _ fuel tid name flags ret call =>
    cases (itcCreateMailbox_returns h hown fuel tid flags).of_eq call with
    | failed => exact .of_sameSlots (.refl s) (by rw [Host.createdId, if_pos rfl])
    | @created i rest _ ht hfree hinv hheap hmboxes hnr hthread =>
      have hi := (h.slots.free i (by rw [hfree]; exact List.mem_cons_self)).1
      have hid : Host.createdId (.createMailbox tid name flags (s.mboxes i).mboxId) =
          some (s.mboxes i).mboxId := if_neg (h.layout.id_ne hi)
      refine ⟨.of_update hnr hmboxes rfl, fun t ht => ?_, fun j hj => ?_, fun id hid' => ?_⟩
      · rw [hthread]
        exact if_neg fun heq => ht (congrArg some heq.symm)
      · rw [hmboxes] at hj
        by_cases hji : j = i
        · exact .inr (by rw [hji, hid])
        · simp only [if_neg hji] at hj
          exact .inl hj
      · rw [hid] at hid'
        exact ⟨i, hi, Option.some.inj hid'⟩
  | @deleteMailbox _ fuel tid mboxId ret call =>
    cases (itcDeleteMailbox_returns h fuel tid mboxId).of_eq call with
    | failed _ => exact .of_sameSlots (.refl s) rfl
    | @deleted me l _ ht hid hq hinv hfreed hheap hmboxes hnr hthread =>
      refine ⟨.of_update hnr hmboxes rfl, fun t ht => ?_, fun j hj => ?_,
        fun _ hid' => by cases hid'⟩
      · rw [hthread]
        exact if_neg fun heq => ht (congrArg some heq.symm)
      · rw [hmboxes] at hj
        by_cases hjm : j = me
        · simp only [if_pos hjm] at hj
          cases hj
        · simp only [if_neg hjm] at hj
          exact .inl hj

/-! ## What the log says -/

/-- What the mailbox `R` has sent of these. -/
def carried (R : MboxId) (l : List Delivery) : List ItcMessage :=
  ((l.filterMap Prod.snd).filter fun m => m.sender = R).map ItcMessage.content

theorem carried_append (R : MboxId) (l l' : List Delivery) :
    carried R (l ++ l') = carried R l ++ carried R l' := by
  rw [carried, List.filterMap_append, List.filter_append, List.map_append, carried, carried]

theorem carried_other {R : MboxId} {p : Nat} {m : ItcMessage} (h : m.sender ≠ R) :
    carried R [(p, some m)] = [] := by
  simp only [carried, List.filterMap_cons, List.filterMap_nil, List.filter_cons, h, decide_false,
    Bool.false_eq_true, if_false, List.filter_nil, List.map_nil]

theorem carried_own (p : Nat) (m : ItcMessage) : carried m.sender [(p, some m)] = [m.content] := by
  simp only [carried, List.filterMap_cons, List.filterMap_nil, List.filter_cons, decide_true,
    if_true, List.filter_nil, List.map_cons, List.map_nil]

theorem UserMessage.delivered (m : UserMessage) : { m.queued with flags := 0 } = m.msg := by
  rw [UserMessage.queued]
  exact congrArg (fun flags => { m.msg with flags }) m.flags_eq.symm

/-- The send of a thread to a mailbox of its process that is in use, as it is logged. -/
theorem itcSend_delivery {fuel tid p i : Nat} {u : UserMessage} {fromMbox : MboxId}
    {r : SendResult KernelQueues} (hmem : E.qitemMem = true) (h : s.Inv q)
    (hi : i < s.nrMboxes.toNat) (hu : s.heap.cells p = some u.msg)
    (hsend : itcSend E fuel s tid (some p) (s.mboxes i).mboxId fromMbox = .ok (some r))
    (hret : r.ret = true) :
    r.s.delivery p = (p, some (u.stamp (s.myMboxId tid) (s.mboxes i).mboxId).msg) := by
  cases (itcSend_returns h hu fuel tid _ fromMbox).of_eq hsend with
  | rejected _ => cases hret
  | @host myMbox _ hmay hhost =>
    obtain ⟨me, hme, hid, -⟩ := hmay
    have hmy : s.myMboxId tid = myMbox := by rw [myMboxId, hme, ← hid]; rfl
    rcases hhost.ofId h hmem hi with ⟨heap', -, -, rfl⟩ | ⟨l, rxq, heap', -, -, hheap, rfl⟩
    · cases hret
    · rw [hmy]
      have hcell : (((s.setLocal (s.localInst.setRxq i rxq) heap').setRxqInfo i
          (s.mboxes i).rxqInfo.onSend).heap.cells p) =
          some (u.stamp myMbox (s.mboxes i).mboxId).queued := hheap.self
      rw [delivery, hcell, Option.map_some, UserMessage.delivered]

/-- What the threads other than the rx thread do adds nothing to what that one has sent. -/
theorem ItcStep.carried {a : ItcEvent} {log : Log} {R : MboxId} {i : Nat} (hmem : E.qitemMem = true)
    (h : s.Inv q) (hown : UsesOwn s a) (hi : i < s.nrMboxes.toNat)
    (hR : ∀ tid, a.caller = some tid → s.myMboxId tid ≠ R) (hstep : ItcStep E s a s')
    (hcreated : Host.createdId a ≠ some (s.mboxes i).mboxId) :
    carried R ((log.record a).sent (s.mboxes i).mboxId) =
      carried R (log.sent (s.mboxes i).mboxId) := by
  cases hstep with
  | alloc _ => rfl
  | write _ => rfl
  | free _ => rfl
  | getFd _ => rfl
  | deleteMailbox _ => rfl
  | @receive _ tid ret _ =>
    cases ret with
    | none => rfl
    | some _ => rfl
  | @createMailbox _ _ tid name flags ret _ =>
    simp only [Log.record]
    split
    · rfl
    · rename_i hret
      refine congrArg (ItcFramework.carried R) (Function.update_of_ne (fun heq => hcreated ?_) _ _)
      rw [Host.createdId, if_neg hret, heq]
  | @send fuel tid msg toMbox fromMbox r call =>
    cases msg with
    | none => rfl
    | some p =>
      cases hret : r.ret with
      | false => rfl
      | true =>
        simp only [Log.record, Option.map_some]
        by_cases hto : toMbox = (s.mboxes i).mboxId
        · obtain ⟨u, hu⟩ : s.Held p := hown _ rfl
          subst hto
          rw [Function.update_self, carried_append, itcSend_delivery hmem h hi hu call hret,
            carried_other (hR tid rfl), List.append_nil]
        · rw [Function.update_of_ne (Ne.symm hto)]

/-! ## The accounts of one process -/

namespace AccountedBy

variable {log : Log}

/-- Only the sysvmq transport and messages in users' hands change. -/
theorem setSysvmq (h : AccountedBy s q log) {inst : SysvmqInstance} {k : KernelQueues}
    {heap' : Heap ItcMessage} (hconf : inst.Configured)
    (hframe : ∀ i l, q i = some l → ∀ p ∈ l, heap'.cells p = s.heap.cells p) :
    AccountedBy (s.setSysvmq inst k heap') q log where
  inv := h.inv.ofHeap (h.inv.messages.frame hframe) hconf
  accounting := h.accounting
  logged := h.logged.frame (.of_eq rfl rfl) fun i l hq p hp => delivery_congr (hframe i l hq p hp)

/-- What is sent to other processes is no business of the mailboxes. -/
theorem record_remote (h : AccountedBy s q log) {tid : Nat} {d : Option Delivery}
    {toMbox fromMbox : MboxId} {ret : Bool}
    (hremote : toMbox &&& ITC_COORD_MASK ≠ s.myMboxIdInItccoord) :
    AccountedBy s q (log.record (.send tid d toMbox fromMbox ret)) := by
  cases d with
  | none => exact h
  | some d =>
    cases ret with
    | false => exact h
    | true =>
      refine ⟨h.inv, h.accounting, ⟨fun i l hq => ?_, h.logged.created⟩⟩
      have hi := (h.inv.slots.queue i (by rw [hq]; exact Option.some_ne_none l)).1
      have hne : (s.mboxes i).mboxId ≠ toMbox := by
        rintro rfl
        rw [h.inv.layout.ids i hi] at hremote
        exact hremote (mboxId_and_coordMask h.inv.layout.my (Nat.lt_trans hi h.inv.layout.nrLt))
      simp only [Log.record, Function.update_of_ne hne]
      exact h.logged.entries i l hq

theorem send_remote (h : AccountedBy s q log) {fuel tid p : Nat} {u : UserMessage}
    {toMbox fromMbox : MboxId} {r : SendResult KernelQueues} (hu : s.heap.cells p = some u.msg)
    (hremote : toMbox &&& ITC_COORD_MASK ≠ s.myMboxIdInItccoord)
    (hcall : itcSend E fuel s tid (some p) toMbox fromMbox = .ok (some r)) :
    AccountedBy r.s q (log.record (.send tid (some (r.s.delivery p)) toMbox fromMbox r.ret)) := by
  have hnone : findMbox s toMbox = none := if_neg (by rw [h.inv.layout.mask]; exact hremote)
  have hframe {heap' : Heap ItcMessage} {v : Option ItcMessage} (hheap : OnlyAt s.heap heap' p v) :
      ∀ i l, q i = some l → ∀ p' ∈ l, heap'.cells p' = s.heap.cells p' := by
    intro i l hq p' hp'
    refine hheap.frame p' ?_
    rintro rfl
    exact h.inv.messages.not_mem hu hq hp'
  cases (itcSend_returns h.inv hu fuel tid toMbox fromMbox).of_eq hcall with
  | rejected _ => exact h
  | host _ hhost =>
    cases hhost with
    | inactive hinactive =>
      obtain ⟨i, hi, -⟩ := hinactive
      rw [hnone] at hi
      cases hi
    | queued _ _ _ hfind =>
      rw [hnone] at hfind
      cases hfind
    | refused _ _ _ hconf hheap => exact h.setSysvmq hconf (hframe hheap)
    | taken _ _ _ hconf _ hheap =>
      simp only [hnone, notifyReceiver]
      exact (h.setSysvmq hconf (hframe hheap)).record_remote hremote

/-- **A call of any thread keeps the accounts**, whomever it sends to. -/
theorem call {s : ItcInstance KernelQueues} {a : ItcEvent} (h : AccountedBy s q log)
    (hmem : E.qitemMem = true) (hown : UsesOwn s a)
    (hto : ∀ id, a.SendsTo id → procOf id = procOf s.myMboxIdInItccoord → id ∈ log.created)
    (hstep : ItcStep E s a s') : ∃ q', AccountedBy s' q' (log.record a) := by
  have hkeep (hallowed : Traced.Allowed ⟨s, log⟩ a) : ∃ q', AccountedBy s' q' (log.record a) :=
    @Traced.Accounted.step _ E ⟨s, log⟩ ⟨s', log.record a⟩ a hmem ⟨q, h⟩ hallowed ⟨hstep, rfl⟩
  cases hstep with
  | alloc _ => exact hkeep trivial
  | write _ => exact hkeep hown
  | free _ => exact hkeep hown
  | createMailbox _ => exact hkeep hown
  | receive _ => exact hkeep trivial
  | getFd _ => exact hkeep trivial
  | deleteMailbox _ => exact hkeep trivial
  | @send fuel tid msg toMbox fromMbox r hcall =>
    by_cases hproc : procOf toMbox = procOf s.myMboxIdInItccoord
    · exact hkeep ⟨hown, hto toMbox rfl hproc⟩
    · cases msg with
      | none =>
        rw [itcSend_null] at hcall
        cases hcall
        exact ⟨q, h⟩
      | some p =>
        obtain ⟨u, hu⟩ : s.Held p := hown _ rfl
        exact ⟨q, h.send_remote hu
          (mt (and_coordMask_eq_iff h.inv.layout.my toMbox).mp hproc) hcall⟩

end AccountedBy

end ItcFramework
