import ItcFramework.Itc.Host
import ItcFramework.Itc.MailboxCalls

/-!
# Delivery within a host

* `Host.ProcessOk` — the invariant of a process in its host, kept by its own calls (`call`), by what
  others send to it (`other`) and by its rx thread (`skip`, `relay`).
* `host_exactly_once` — what is due to a mailbox is what it has received from the rx thread, what
  its rx queue holds from there and what is on its way, in order, each message once. Only messages
  below the minimum length are missing.
* `host_delivers` — the rx thread alone brings all of it into the rx queues.
-/

set_option autoImplicit false

namespace ItcFramework

open ByteImage HeapModel ItcInstance Transition

variable {E : ItcEnv KernelQueues} {s s' : ItcInstance KernelQueues} {q : Queues} {M : Nat}

/-! ## The invariant -/

/-- A message that the rx thread of its receiver does not drop. -/
def ItcMessage.Passes (m : ItcMessage) : Prop := 8 ≤ m.size.toNat

instance (m : ItcMessage) : Decidable m.Passes := Nat.decLe _ _

namespace Host

/-- The id of the rx thread's mailbox. -/
def rxMbox (h : Host) (p : Nat) : MboxId := (h.procs p).s.myMboxId sysvmqRxTid

/-- What is due to the mailbox `id` of process `p` has been sent on by the rx thread, or is on its
way. -/
def Accounts (h : Host) (p : Nat) (id : MboxId) : Prop :=
  (h.due id).filter (fun m => m.Passes) =
    carried (h.rxMbox p) ((h.procs p).log.sent id) ++
      (contentsFor id (h.inTransit p)).filter fun m => m.Passes

/-- Process `p`, which is running, in its host. The coordinator's process gets notifications from
the others, for which there are no accounts. -/
structure ProcessOk (E : ItcEnv KernelQueues) (M : Nat) (h : Host) (p : Nat) : Prop where
  process : ∃ q, (h.procs p).s.Inv q ∧ (p ≠ 1 → AccountedBy (h.procs p).s q (h.procs p).log)
  contacts : ContactOk h.queues (h.procs p).s.sysvmqInst
  my : procOf (h.procs p).s.myMboxIdInItccoord = p
  coord : procOf (h.procs p).s.itccoordMboxId = 1
  transit : h.queues p = some ((h.inTransit p).map fun m => m.msg.image E.endian)
  here : ∀ m ∈ h.inTransit p, procOf m.msg.receiver = p
  known : p ≠ 1 → ∀ m ∈ h.inTransit p, m.msg.receiver ∈ (h.procs p).log.created
  rxLen : (h.rx p).mtext.length = M - 8
  unready : (h.procs p).s.myThreadlocalMbox sysvmqRxTid = none →
    ∀ id, (h.procs p).log.sent id = []
  accounts : p ≠ 1 → ∀ i, i < (h.procs p).s.nrMboxes.toNat →
    ((h.procs p).s.mboxes i).mboxState = .inuse →
    ((h.procs p).s.mboxes i).mboxId ≠ h.rxMbox p → h.Accounts p ((h.procs p).s.mboxes i).mboxId

end Host

open Host

theorem ItcInstance.Layout.procOf_id (h : s.Layout) {i : Nat} (hi : i < s.nrMboxes.toNat) :
    procOf (s.mboxes i).mboxId = procOf s.myMboxIdInItccoord := by
  refine (and_coordMask_eq_iff h.my _).mp ?_
  rw [h.ids i hi]
  exact mboxId_and_coordMask h.my (Nat.lt_trans hi h.nrLt)

theorem SameIds.my (hids : SameIds s s') (h : s.Layout) (h' : s'.Layout) :
    s'.myMboxIdInItccoord = s.myMboxIdInItccoord := by
  have hpos : 0 < s.nrMboxes.toNat :=
    Nat.pos_of_ne_zero fun h0 => h.nrPos (UInt32.toNat_inj.mp h0)
  have hid := hids.ids 0
  rw [h.ids 0 hpos, h'.ids 0 (by rw [hids.nr]; exact hpos)] at hid
  rwa [show UInt32.ofNat 0 = 0 from rfl, UInt32.or_zero, UInt32.or_zero] at hid

/-- A thread other than the rx thread has another mailbox. -/
theorem ItcInstance.Inv.caller_ne (hinv : s.Inv q) {tid : Nat}
    (hready : s.myThreadlocalMbox sysvmqRxTid ≠ none) (htid : tid ≠ sysvmqRxTid) :
    s.myMboxId tid ≠ s.myMboxId sysvmqRxTid := by
  have hslot {t me : Nat} (ht : s.myThreadlocalMbox t = some me) : me < s.nrMboxes.toNat :=
    (hinv.slots.queue me (hinv.slots.thread t me ht)).1
  obtain ⟨r, hr⟩ := Option.ne_none_iff_exists'.mp hready
  have hrid : s.myMboxId sysvmqRxTid = (s.mboxes r).mboxId := by rw [myMboxId, hr]; rfl
  rw [hrid]
  cases ht : s.myThreadlocalMbox tid with
  | none =>
    rw [myMboxId, ht]
    exact (hinv.layout.id_ne (hslot hr)).symm
  | some me =>
    rw [myMboxId, ht]
    intro heq
    have hme := hinv.layout.ids_inj (hslot ht) (hslot hr) heq
    rw [hme] at ht
    exact htid (hinv.slots.threadInj tid sysvmqRxTid r ht hr)

/-- The ids that were handed out stay handed out. -/
theorem Log.created_subset (log : Log) (a : ItcEvent) : log.created ⊆ (log.record a).created := by
  intro id hid
  cases a with
  | createMailbox tid name flags ret =>
    rw [Log.record]
    split
    · exact hid
    · exact List.mem_cons_of_mem _ hid
  | send tid d toMbox fromMbox ret =>
    cases d with
    | none => exact hid
    | some d =>
      cases ret with
      | false => exact hid
      | true => exact hid
  | receive tid myMbox ret =>
    cases ret with
    | none => exact hid
    | some d => exact hid
  | _ => exact hid

/-- Nothing has been sent to a mailbox that was just created. -/
theorem Log.sent_created {log : Log} {a : ItcEvent} {id : MboxId} (h : createdId a = some id) :
    (log.record a).sent id = [] := by
  cases a with
  | createMailbox tid name flags ret =>
    rw [createdId] at h
    split at h
    · cases h
    · rename_i hret
      cases h
      rw [Log.record, if_neg hret]
      exact Function.update_self ..
  | _ => cases h

theorem Traced.posted_onHost (t : Traced KernelQueues) (k : KernelQueues) (a : ItcEvent)
    (id : MboxId) : (t.onHost k).s.posted a id = t.s.posted a id := by
  cases a with
  | send tid d toMbox fromMbox ret =>
    cases d with
    | none => rfl
    | some d =>
      cases ret with
      | false => rfl
      | true => rfl
  | _ => rfl

namespace Host.ProcessOk

variable {h h' : Host} {p : Nat}

/-- What happens to the other processes leaves this one as it is, but for what comes into its
queue. -/
theorem other (hok : ProcessOk E M h p) {l : List UserMessage} (hprocs : h'.procs p = h.procs p)
    (hrx : h'.rx p = h.rx p) (hqueues : ∀ i, (h.queues i).isSome → (h'.queues i).isSome)
    (hqueue : h'.queues p = (h.queues p).map (· ++ l.map fun m => m.msg.image E.endian))
    (htransit : h'.inTransit p = h.inTransit p ++ l) (hhere : ∀ m ∈ l, procOf m.msg.receiver = p)
    (hknown : p ≠ 1 → ∀ m ∈ l, m.msg.receiver ∈ (h.procs p).log.created)
    (hdue : p ≠ 1 → ∀ id, procOf id = p → h'.due id = h.due id ++ contentsFor id l) :
    ProcessOk E M h' p where
  process := by rw [hprocs]; exact hok.process
  contacts := by rw [hprocs]; exact hok.contacts.mono hqueues
  my := by rw [hprocs]; exact hok.my
  coord := by rw [hprocs]; exact hok.coord
  transit := by rw [hqueue, hok.transit, htransit, Option.map_some, List.map_append]
  here := by
    rw [htransit]
    exact fun m hm => (List.mem_append.mp hm).elim (hok.here m) (hhere m)
  known := by
    rw [htransit, hprocs]
    exact fun hp m hm => (List.mem_append.mp hm).elim (hok.known hp m) (hknown hp m)
  rxLen := by rw [hrx]; exact hok.rxLen
  unready := by rw [hprocs]; exact hok.unready
  accounts := by
    have hmbox : h'.rxMbox p = h.rxMbox p := by rw [rxMbox, hprocs, rxMbox]
    rw [hmbox, hprocs]
    intro hp i hi hinuse hne
    obtain ⟨q, hinv, -⟩ := hok.process
    have hid := (hinv.layout.procOf_id hi).trans hok.my
    have haccounts := hok.accounts hp i hi hinuse hne
    rw [Accounts] at haccounts ⊢
    rw [hdue hp _ hid, List.filter_append, haccounts, hmbox, hprocs, htransit, contentsFor_append,
      List.filter_append, List.append_assoc]

/-- The rx thread of another process. -/
theorem other_received {p' : Nat} (hok : ProcessOk E M h p') {t : Bytes} {ts : List Bytes}
    {rx : SysvmqRx} (hpp : p' ≠ p) : ProcessOk E M (h.received M p t ts rx) p' := by
  have hqueues (i : Nat) (hi : i ≠ p) : (h.received M p t ts rx).queues i = h.queues i :=
    Function.update_of_ne hi _ _
  refine hok.other (l := []) rfl (Function.update_of_ne hpp _ _) ?_ ?_ ?_
    (fun _ hm => absurd hm List.not_mem_nil) (fun _ _ hm => absurd hm List.not_mem_nil)
    (fun _ _ _ => (List.append_nil _).symm)
  · intro i hi
    by_cases hip : i = p
    · rw [hip, show (h.received M p t ts rx).queues p = _ from Function.update_self ..]
      rfl
    · rw [hqueues i hip]
      exact hi
  · rw [hqueues p' hpp, hok.transit]
    exact congrArg some (List.append_nil _).symm
  · rw [List.append_nil]
    exact Function.update_of_ne hpp _ _

/-- The process as it sees the queues. -/
theorem onHost (hok : ProcessOk E M h p) (k : KernelQueues) :
    ∃ q, ((h.procs p).onHost k).s.Inv q ∧
      (p ≠ 1 → AccountedBy ((h.procs p).onHost k).s q (h.procs p).log) := by
  obtain ⟨q, hinv, haccounted⟩ := hok.process
  refine ⟨q, hinv.ofHeap hinv.messages hinv.layout.sysvmqInst, fun hp => ?_⟩
  exact (haccounted hp).setSysvmq hinv.layout.sysvmqInst fun _ _ _ _ _ => rfl

/-- What it sends within the process is for mailboxes that exist. -/
theorem knowsOwn (hok : ProcessOk E M h p) (hp : p ≠ 1) {a : ItcEvent}
    (hmay : HostMay h (.call p a)) : KnowsOwn ((h.procs p).onHost h.queues).s a := by
  obtain ⟨q, -, haccounted⟩ := hok.process
  intro id hid hproc
  rw [show procOf ((h.procs p).onHost h.queues).s.myMboxIdInItccoord = p from hok.my] at hproc
  rcases hmay.2.2.1 id hid with h1 | hcreated
  · exact absurd (hproc.symm.trans h1) hp
  · rw [hproc] at hcreated
    exact (haccounted hp).logged.created id hcreated

/-- What a call puts into the queues. -/
theorem exists_posted (hok : ProcessOk E M h p) (hE : E.kernel = limitKernel M)
    (hmem : E.qitemMem = true) {a : ItcEvent} {t : Traced KernelQueues}
    (hmay : HostMay h (.call p a)) (hstep : Traced.Step E ((h.procs p).onHost h.queues) a t) :
    ∃ new, Posted E.endian ((h.procs p).onHost h.queues).s t.s new ∧
      ∀ i, i ≠ 1 → PostedBy (h.procs p).s a i (new i) := by
  obtain ⟨q, hinv, -⟩ := hok.onHost h.queues
  have hown₀ : UsesOwn ((h.procs p).onHost h.queues).s a := hmay.2.1
  have hmy : procOf ((h.procs p).onHost h.queues).s.myMboxIdInItccoord = p := hok.my
  obtain ⟨new, hposted, hby⟩ := hstep.1.posts hE hmem hinv hok.contacts hown₀ hok.coord
    fun hp => hok.knowsOwn (by rw [← hmy]; exact hp) hmay
  refine ⟨new, hposted, fun i hi => ⟨(hby i hi).receiver, fun id hid => ?_⟩⟩
  rw [← Traced.posted_onHost]
  exact (hby i hi).contents id hid

/-- A call that returns is a step of the host. -/
theorem exists_call (hok : ProcessOk E M h p) (hE : E.kernel = limitKernel M)
    (hmem : E.qitemMem = true) {a : ItcEvent} {t : Traced KernelQueues}
    (hmay : HostMay h (.call p a)) (hstep : Traced.Step E ((h.procs p).onHost h.queues) a t) :
    ∃ new, Guarded (HostStep E M) HostMay h (.call p a) (h.afterCall p a t new) := by
  obtain ⟨new, hposted, -⟩ := hok.exists_posted hE hmem hmay hstep
  exact ⟨new, hmay, .call hstep hposted.kernel hposted.queued⟩

/-- There is only one way in which the queues can have got what a call has put there. -/
theorem call_posts (hok : ProcessOk E M h p) (hE : E.kernel = limitKernel M)
    (hmem : E.qitemMem = true) {a : ItcEvent} {t : Traced KernelQueues}
    {new : Nat → List UserMessage} (hmay : HostMay h (.call p a))
    (hstep : Traced.Step E ((h.procs p).onHost h.queues) a t)
    (hnew : t.s.kernel = h.queues.post E.endian new)
    (hqueued : ∀ i, h.queues i = none → new i = []) :
    Posted E.endian ((h.procs p).onHost h.queues).s t.s new ∧
      ∀ i, i ≠ 1 → PostedBy (h.procs p).s a i (new i) := by
  obtain ⟨new', hposted, hby⟩ := hok.exists_posted hE hmem hmay hstep
  have hsame : new' = new :=
    KernelQueues.post_inj (hposted.kernel.symm.trans hnew) hposted.queued hqueued
  rw [hsame] at hposted hby
  exact ⟨hposted, hby⟩

/-- The rx thread has its mailbox still, and nobody else has sent from there. -/
theorem call_carried (hok : ProcessOk E M h p) (hmem : E.qitemMem = true) {a : ItcEvent}
    {t : Traced KernelQueues} (hmay : HostMay h (.call p a))
    (hstep : Traced.Step E ((h.procs p).onHost h.queues) a t) {i : Nat}
    (hi : i < (h.procs p).s.nrMboxes.toNat)
    (hcreated : createdId a ≠ some ((h.procs p).s.mboxes i).mboxId) :
    carried (t.s.myMboxId sysvmqRxTid) (t.log.sent ((h.procs p).s.mboxes i).mboxId) =
      carried (h.rxMbox p) ((h.procs p).log.sent ((h.procs p).s.mboxes i).mboxId) := by
  obtain ⟨q, hinv, -⟩ := hok.onHost h.queues
  obtain ⟨-, hown, -, hrx⟩ := hmay
  have hown₀ : UsesOwn ((h.procs p).onHost h.queues).s a := hown
  have hframe := hstep.1.frame hinv hown₀
  rw [hstep.2]
  split at hrx
  · -- nothing has been sent to any mailbox yet
    rename_i hnone
    obtain ⟨name, flags, ret, rfl⟩ := hrx
    have hsent : ((h.procs p).log.record (.createMailbox sysvmqRxTid name flags ret)).sent
        ((h.procs p).s.mboxes i).mboxId = [] := by
      rw [Log.record]
      split
      · exact hok.unready hnone _
      · rename_i hret
        rw [createdId, if_neg hret] at hcreated
        exact (Function.update_of_ne (fun heq => hcreated (congrArg some heq.symm)) _ _).trans
          (hok.unready hnone _)
    have hbefore := hok.unready hnone ((h.procs p).s.mboxes i).mboxId
    show carried _ (((h.procs p).log.record _).sent _) = _
    rw [hsent, hbefore]
    rfl
  · rename_i hready
    rw [hframe.caller_mbox hrx]
    refine ItcStep.carried (s := ((h.procs p).onHost h.queues).s) hmem hinv hown₀ hi ?_ hstep.1
      hcreated
    intro tid hcaller
    refine hinv.caller_ne hready ?_
    rintro rfl
    exact hrx hcaller

/-- **A call keeps the accounts of its own process.** -/
theorem call (hok : ProcessOk E M h p) (hE : E.kernel = limitKernel M) (hmem : E.qitemMem = true)
    {a : ItcEvent} {t : Traced KernelQueues} {new : Nat → List UserMessage}
    (hmay : HostMay h (.call p a)) (hstep : Traced.Step E ((h.procs p).onHost h.queues) a t)
    (hnew : t.s.kernel = h.queues.post E.endian new)
    (hqueued : ∀ i, h.queues i = none → new i = []) :
    ProcessOk E M (h.afterCall p a t new) p := by
  obtain ⟨hposted, hby⟩ := hok.call_posts hE hmem hmay hstep hnew hqueued
  obtain ⟨q, hinv, haccounted⟩ := hok.onHost h.queues
  obtain ⟨-, hown, hto, hrx⟩ := id hmay
  have hown₀ : UsesOwn ((h.procs p).onHost h.queues).s a := hown
  have hframe := hstep.1.frame hinv hown₀
  have hlog : t.log = (h.procs p).log.record a := hstep.2
  have hprocs : (h.afterCall p a t new).procs p = t := Function.update_self ..
  have hprocess : ∃ q', t.s.Inv q' ∧ (p ≠ 1 → AccountedBy t.s q' t.log) := by
    by_cases hp : p = 1
    · obtain ⟨tid, hothers⟩ := UsesOwn.others hown₀
      obtain ⟨q', hinv'⟩ := (hstep.1.kept hinv hothers).inv
      exact ⟨q', hinv', fun hne => absurd hp hne⟩
    · have hcreated : ∀ id, a.SendsTo id → procOf id = p → id ∈ (h.procs p).log.created := by
        intro id hid hproc
        rcases hto id hid with h1 | hcreated
        · exact absurd (hproc.symm.trans h1) hp
        · rwa [hproc] at hcreated
      obtain ⟨q', hq'⟩ := (haccounted hp).call hmem hown₀
        (fun id hid hproc => hcreated id hid (hproc.trans hok.my)) hstep.1
      rw [hlog]
      exact ⟨q', hq'.inv, fun _ => hq'⟩
  obtain ⟨q', hinv', -⟩ := id hprocess
  have hmy : t.s.myMboxIdInItccoord = (h.procs p).s.myMboxIdInItccoord :=
    hframe.ids.my hinv.layout hinv'.layout
  -- into its own queue it puts nothing
  have hnone : p ≠ 1 → new p = [] := by
    intro hp
    refine PostedBy.own (s := (h.procs p).s) (a := a) ?_ ?_
    · rw [hok.my]
      exact hby p hp
    · rw [hok.my]
      exact hposted.receivers p
  constructor
  · rw [hprocs]
    exact hprocess
  · rw [hprocs]
    exact hposted.contacts
  · rw [hprocs, hmy]
    exact hok.my
  · rw [hprocs, hposted.coord]
    exact hok.coord
  · show t.s.kernel p = some ((h.inTransit p ++ new p).map _)
    rw [hnew, KernelQueues.post, hok.transit, Option.map_some, List.map_append]
  · intro m hm
    rcases List.mem_append.mp hm with hm | hm
    · exact hok.here m hm
    · exact hposted.receivers p m hm
  · intro hp m hm
    rw [show (h.afterCall p a t new).inTransit p = h.inTransit p ++ new p from rfl, hnone hp,
      List.append_nil] at hm
    rw [hprocs, hlog]
    exact Log.created_subset _ _ (hok.known hp m hm)
  · exact hok.rxLen
  · intro hready id
    rw [hprocs] at hready ⊢
    rw [hlog]
    split at hrx
    · rename_i hunready
      obtain ⟨name, flags, ret, rfl⟩ := hrx
      rw [Log.record]
      split
      · exact hok.unready hunready id
      · by_cases hid : id = ret
        · rw [hid]
          exact Function.update_self ..
        · exact (Function.update_of_ne hid _ _).trans (hok.unready hunready id)
    · rename_i hunready
      rw [hframe.threads sysvmqRxTid hrx] at hready
      exact absurd hready hunready
  · intro hp i hi hinuse hne
    have hmbox : (h.afterCall p a t new).rxMbox p = t.s.myMboxId sysvmqRxTid := by
      rw [rxMbox, hprocs]
    rw [hmbox, hprocs] at hne
    rw [hprocs] at hi hinuse ⊢
    have hi₀ : i < (h.procs p).s.nrMboxes.toNat := by
      rw [hframe.ids.nr] at hi
      exact hi
    have hid : (t.s.mboxes i).mboxId = ((h.procs p).s.mboxes i).mboxId := hframe.ids.ids i
    have hproc : procOf ((h.procs p).s.mboxes i).mboxId = p :=
      (hinv.layout.procOf_id hi₀).trans hok.my
    have hposted₀ : (h.procs p).s.posted a ((h.procs p).s.mboxes i).mboxId = [] := by
      have hcontents := (hby p hp).contents _ hproc
      rw [hnone hp] at hcontents
      exact hcontents.symm
    rw [hid] at hne ⊢
    rw [Accounts, hmbox, hprocs,
      show (h.afterCall p a t new).inTransit p = h.inTransit p ++ new p from rfl, hnone hp,
      List.append_nil, show (h.afterCall p a t new).due ((h.procs p).s.mboxes i).mboxId =
        (if createdId a = some ((h.procs p).s.mboxes i).mboxId then
          contentsFor ((h.procs p).s.mboxes i).mboxId (h.inTransit p)
        else h.due ((h.procs p).s.mboxes i).mboxId) ++
          (h.procs p).s.posted a ((h.procs p).s.mboxes i).mboxId from rfl,
      hposted₀, List.append_nil]
    by_cases hcreated : createdId a = some ((h.procs p).s.mboxes i).mboxId
    · rw [if_pos hcreated, hlog, Log.sent_created hcreated]
      rfl
    · rw [if_neg hcreated, hok.call_carried hmem hmay hstep hi₀ hcreated]
      refine hok.accounts hp i hi₀ ((hframe.inuse i hinuse).resolve_right hcreated) ?_
      split at hrx
      · rename_i hunready
        rw [rxMbox, myMboxId, hunready]
        exact hinv.layout.id_ne hi₀
      · rwa [hframe.caller_mbox hrx] at hne

/-- What the rx thread finds in its queue. -/
theorem pass (hok : ProcessOk E M h p) (hM : M ≤ E.malloc.maxMallocsize) {t : Bytes}
    {ts : List Bytes} (hqueue : h.queues p = some (t :: ts)) :
    ∃ m rest, h.inTransit p = m :: rest ∧ ts = rest.map (fun m => m.msg.image E.endian) ∧
      if FitsRxBuffer M m then
        limitMsgrcv (M - 8) t ts = (.text t, ts) ∧
          ∃ rx, sysvmqRxThread E.endian E.malloc (h.rx p) (.text t) =
            .ok (rx, if PassesMinLength m then some m.msg else none) ∧ rx.mtext.length = M - 8
      else limitMsgrcv (M - 8) t ts = (.failed .other, t :: ts) := by
  have htransit := hok.transit
  rw [hqueue] at htransit
  cases hin : h.inTransit p with
  | nil =>
    rw [hin] at htransit
    cases htransit
  | cons m rest =>
    rw [hin, List.map_cons, Option.some.injEq, List.cons.injEq] at htransit
    obtain ⟨rfl, rfl⟩ := htransit
    have hlen := image_length_of_wellFormed E.endian m.wellFormed
    refine ⟨m, rest, rfl, rfl, ?_⟩
    by_cases hfit : FitsRxBuffer M m
    · rw [if_pos hfit]
      obtain ⟨rx, hrx, hrxlen⟩ := sysvmqRxThread_text (e := E.endian) hM hok.rxLen hfit
      simp only [FitsRxBuffer] at hfit
      exact ⟨if_pos (by omega), rx, hrx, hrxlen⟩
    · rw [if_neg hfit]
      have hge := m.wellFormed.size_ge
      simp only [FitsRxBuffer, ITC_HEADER_SIZE] at hfit hlen
      exact if_neg (by omega)

/-- A message that the rx thread passes on was the next one in transit. -/
theorem pass_some (hok : ProcessOk E M h p) (hM : M ≤ E.malloc.maxMallocsize) {t : Bytes}
    {ts : List Bytes} {rx : SysvmqRx} {message : ItcMessage}
    (hqueue : h.queues p = some (t :: ts))
    (hrx : sysvmqRxThread E.endian E.malloc (h.rx p) (limitMsgrcv (M - 8) t ts).1 =
      .ok (rx, some message)) :
    ∃ m rest, h.inTransit p = m :: rest ∧ ts = rest.map (fun m => m.msg.image E.endian) ∧
      message = m.msg ∧ PassesMinLength m ∧ (limitMsgrcv (M - 8) t ts).2 = ts ∧
      rx.mtext.length = M - 8 := by
  obtain ⟨m, rest, hin, hts, hpass⟩ := hok.pass hM hqueue
  by_cases hfit : FitsRxBuffer M m
  · rw [if_pos hfit] at hpass
    obtain ⟨hrcv, rx', hrx', hlen⟩ := hpass
    rw [hrcv, hrx'] at hrx
    by_cases hmin : PassesMinLength m
    · rw [if_pos hmin] at hrx
      cases hrx
      exact ⟨m, rest, hin, hts, rfl, hmin, congrArg Prod.snd hrcv, hlen⟩
    · rw [if_neg hmin] at hrx
      cases hrx
  · rw [if_neg hfit] at hpass
    rw [hpass] at hrx
    cases hrx

/-- A message that the rx thread drops, or cannot receive. -/
theorem skip (hok : ProcessOk E M h p) (hM : M ≤ E.malloc.maxMallocsize) {t : Bytes}
    {ts : List Bytes} {rx : SysvmqRx} (hqueue : h.queues p = some (t :: ts))
    (hrx : sysvmqRxThread E.endian E.malloc (h.rx p) (limitMsgrcv (M - 8) t ts).1 =
      .ok (rx, none)) : ProcessOk E M (h.received M p t ts rx) p := by
  obtain ⟨m, rest, hin, hts, hpass⟩ := hok.pass hM hqueue
  have hqueues : ∀ i, (h.queues i).isSome → ((h.received M p t ts rx).queues i).isSome :=
    fun i hi => (received_isSome hqueue i).trans hi
  have hrx' : (h.received M p t ts rx).rx p = rx := Function.update_self ..
  have hqueue' : (h.received M p t ts rx).queues p = some (limitMsgrcv (M - 8) t ts).2 :=
    Function.update_self ..
  have hin' : (h.received M p t ts rx).inTransit p =
      (m :: rest).drop (ts.length + 1 - (limitMsgrcv (M - 8) t ts).2.length) := by
    rw [← hin]
    exact Function.update_self ..
  by_cases hfit : FitsRxBuffer M m
  · rw [if_pos hfit] at hpass
    obtain ⟨hrcv, rx', hrx'', hlen⟩ := hpass
    rw [hrcv, hrx''] at hrx
    rw [hrcv] at hqueue' hin'
    have hshort : ¬ PassesMinLength m := by
      intro hmin
      rw [if_pos hmin] at hrx
      cases hrx
    rw [show ts.length + 1 - ts.length = 1 by omega, List.drop_one, List.tail_cons] at hin'
    rw [if_neg hshort] at hrx
    cases hrx
    refine ⟨hok.process, hok.contacts.mono hqueues, hok.my, hok.coord, ?_, ?_, ?_, ?_, hok.unready,
      ?_⟩
    · rw [hqueue', hin', hts]
    · rw [hin']
      exact fun m' hm' => hok.here m' (by rw [hin]; exact List.mem_cons_of_mem m hm')
    · rw [hin']
      exact fun hp m' hm' => hok.known hp m' (by rw [hin]; exact List.mem_cons_of_mem m hm')
    · rw [hrx']
      exact hlen
    · intro hp i hi hinuse hne
      have haccounts := hok.accounts hp i hi hinuse hne
      rw [Accounts, hin, contentsFor_cons, List.filter_append] at haccounts
      have hdropped : (if m.msg.receiver = ((h.procs p).s.mboxes i).mboxId then [m.msg.content]
          else []).filter (fun m => m.Passes) = [] := by
        split
        · exact List.filter_cons_of_neg (by rw [decide_eq_true_iff]; exact hshort)
        · rfl
      rw [hdropped, List.nil_append] at haccounts
      rw [Accounts, hin']
      exact haccounts
  · rw [if_neg hfit] at hpass
    rw [hpass] at hrx hqueue' hin'
    cases hrx
    rw [List.length_cons, Nat.sub_self, List.drop_zero, ← hin] at hin'
    refine ⟨hok.process, hok.contacts.mono hqueues, hok.my, hok.coord, ?_, ?_, ?_, ?_, hok.unready,
      ?_⟩
    · rw [hqueue', hin', ← hok.transit, hqueue]
    · rw [hin']
      exact hok.here
    · rw [hin']
      exact hok.known
    · rw [hrx']
      exact hok.rxLen
    · intro hp i hi hinuse hne
      rw [Accounts, hin']
      exact hok.accounts hp i hi hinuse hne

/-- What the rx thread sends on goes to a mailbox of the process, or into its queue again. -/
theorem relay_posts (hinv : s.Inv q) (hE : E.kernel = limitKernel M) (hmem : E.qitemMem = true)
    (hcontacts : ContactOk s.kernel s.sysvmqInst) {fuel tid : Nat} {m : UserMessage}
    {r : SendResult KernelQueues}
    (hproc : procOf m.msg.receiver = procOf s.myMboxIdInItccoord)
    (hknown : procOf s.myMboxIdInItccoord ≠ 1 →
      ∃ i, i < s.nrMboxes.toNat ∧ (s.mboxes i).mboxId = m.msg.receiver)
    (hsend : itcSend E fuel (s.alloc m.msg).2 tid (some s.heap.next) m.msg.receiver ITC_MY_MBOX_ID =
      .ok (some r)) :
    ∃ new, Posted E.endian s r.s new ∧
      ∀ i, i ≠ 1 ∨ procOf s.myMboxIdInItccoord ≠ 1 → new i = [] := by
  have hinv' : (s.alloc m.msg).2.Inv q :=
    hinv.ofHeap (hinv.messages.alloc m.msg) hinv.layout.sysvmqInst
  have hcell : (s.alloc m.msg).2.heap.cells s.heap.next = some m.msg :=
    Heap.push_next s.heap m.msg
  have hsame : SameSysvmq s (s.alloc m.msg).2 := ⟨rfl, rfl, rfl⟩
  by_cases hmy : procOf s.myMboxIdInItccoord = 1
  · by_cases haccepts : LocalAccepts E.qitemMem (s.alloc m.msg).2.localInst m.msg.receiver
    · exact ⟨toNobody, (itcSend_posts_local hinv' hcontacts haccepts hcell hsend).congr hsame
        (.refl _), fun _ _ => rfl⟩
    · refine ⟨_, (itcSend_posts (s := (s.alloc m.msg).2) hE hcontacts haccepts hcell
        hsend).congr hsame (.refl _), ?_⟩
      intro i hi
      split
      · rw [toProc, if_neg (by rw [hproc, hmy]; exact hi.resolve_right fun hne => hne hmy)]
      · rfl
  · obtain ⟨i, hi, hid⟩ := hknown hmy
    rw [← hid] at hsend
    exact ⟨toNobody, (itcSend_posts_own (s := (s.alloc m.msg).2) hmem hinv' hcontacts hi hcell
      hsend).congr hsame (.refl _), fun _ _ => rfl⟩

/-- A message for a mailbox in use, other than that of the caller, is taken. -/
theorem send_inuse (hinv : s.Inv q) (hmem : E.qitemMem = true) {fuel tid p i : Nat}
    {u : UserMessage} {r : SendResult KernelQueues} (hi : i < s.nrMboxes.toNat)
    (hu : s.heap.cells p = some u.msg) (hready : s.myThreadlocalMbox tid ≠ none)
    (hother : (s.mboxes i).mboxId ≠ s.myMboxId tid) (hinuse : (s.mboxes i).mboxState = .inuse)
    (hsend : itcSend E fuel s tid (some p) (s.mboxes i).mboxId ITC_MY_MBOX_ID = .ok (some r)) :
    r.ret = true := by
  obtain ⟨me, hme⟩ := Option.ne_none_iff_exists'.mp hready
  cases (itcSend_returns hinv hu fuel tid _ ITC_MY_MBOX_ID).of_eq hsend with
  | rejected hno =>
    refine absurd ⟨me, hme, ?_, hother, .inl rfl⟩ (hno (s.myMboxId tid))
    rw [myMboxId, hme]
    rfl
  | host _ hhost =>
    rcases hhost.ofId hinv hmem hi with ⟨_, hnot, -, -⟩ | ⟨_, _, _, -, -, -, rfl⟩
    · exact absurd hinuse hnot
    · rfl

/-- The accounts once the rx thread has sent a message on. -/
theorem relay_accounts {log : Log} (haccounted : AccountedBy s q log) (hmem : E.qitemMem = true)
    {fuel tid : Nat} {m : UserMessage} {r : SendResult KernelQueues}
    (hready : s.myThreadlocalMbox tid ≠ none) (hcreated : m.msg.receiver ∈ log.created)
    (hsend : itcSend E fuel (s.alloc m.msg).2 tid (some s.heap.next) m.msg.receiver ITC_MY_MBOX_ID =
      .ok (some r)) :
    (∃ q', AccountedBy r.s q' (log.record (.send tid (some (r.s.delivery s.heap.next))
      m.msg.receiver ITC_MY_MBOX_ID r.ret))) ∧
      ∀ i, i < s.nrMboxes.toNat → (s.mboxes i).mboxState = .inuse →
        (s.mboxes i).mboxId ≠ s.myMboxId tid →
        carried (s.myMboxId tid) ((log.record (.send tid (some (r.s.delivery s.heap.next))
          m.msg.receiver ITC_MY_MBOX_ID r.ret)).sent (s.mboxes i).mboxId) =
          carried (s.myMboxId tid) (log.sent (s.mboxes i).mboxId) ++
            if m.msg.receiver = (s.mboxes i).mboxId then [m.msg.content] else [] := by
  have hcell : (s.alloc m.msg).2.heap.cells s.heap.next = some m.msg :=
    Heap.push_next s.heap m.msg
  have halloc : AccountedBy (s.alloc m.msg).2 q log := by
    refine haccounted.ofHeap fun i l hq p hp => ?_
    obtain ⟨m', hm'⟩ := haccounted.inv.messages.queued i l hq p hp
    exact Heap.push_of_ne _ _ (Nat.ne_of_lt (Heap.lt_next hm'))
  have hheld : ∀ p, some s.heap.next = some p → (s.alloc m.msg).2.Held p := by
    rintro p ⟨⟩
    exact ⟨m, hcell⟩
  refine ⟨halloc.send hmem hheld hcreated hsend, ?_⟩
  intro i hi hinuse hother
  by_cases hto : m.msg.receiver = (s.mboxes i).mboxId
  · rw [if_pos hto]
    rw [hto] at hsend ⊢
    have hret := send_inuse (s := (s.alloc m.msg).2) halloc.inv hmem hi hcell hready hother hinuse
      hsend
    have hdelivery := itcSend_delivery (s := (s.alloc m.msg).2) hmem halloc.inv hi hcell hsend hret
    rw [hret]
    simp only [Log.record, Function.update_self]
    rw [carried_append, hdelivery]
    exact congrArg _ (carried_own s.heap.next
      (m.stamp (s.myMboxId tid) (s.mboxes i).mboxId).msg)
  · rw [if_neg hto, List.append_nil]
    cases r.ret with
    | false => rfl
    | true => exact congrArg _ (Function.update_of_ne (Ne.symm hto) _ _)

/-- **What the rx thread sends on is what was due.** -/
theorem relay (hok : ProcessOk E M h p) (hE : E.kernel = limitKernel M) (hmem : E.qitemMem = true)
    (hM : M ≤ E.malloc.maxMallocsize) {fuel msg : Nat} {t : Bytes} {ts : List Bytes} {rx : SysvmqRx}
    {message : ItcMessage} {r : SendResult KernelQueues} {new : Nat → List UserMessage}
    (hready : (h.procs p).s.myThreadlocalMbox sysvmqRxTid ≠ none)
    (hqueue : h.queues p = some (t :: ts))
    (hrx : sysvmqRxThread E.endian E.malloc (h.rx p) (limitMsgrcv (M - 8) t ts).1 =
      .ok (rx, some message))
    (hsend : sendCopy E fuel ((h.procs p).onHost (h.received M p t ts rx).queues).s sysvmqRxTid
      message = .ok (some (msg, r)))
    (hnew : r.s.kernel = (h.received M p t ts rx).queues.post E.endian new)
    (hqueued : ∀ i, h.queues i = none → new i = []) :
    ProcessOk E M ((h.received M p t ts rx).relayed p msg message r new) p ∧
      ∀ i, i ≠ p → new i = [] := by
  obtain ⟨m, rest, hin, hts, rfl, hmin, hrcv, hlen⟩ := hok.pass_some hM hqueue hrx
  have hkisSome : ∀ i, ((h.received M p t ts rx).queues i).isSome = (h.queues i).isSome :=
    received_isSome hqueue
  have hkp : (h.received M p t ts rx).queues p = some ts := by
    rw [show (h.received M p t ts rx).queues p = _ from Function.update_self .., hrcv]
  generalize hk : (h.received M p t ts rx).queues = k at hsend hnew hkisSome hkp
  have hin' : (h.received M p t ts rx).inTransit p = rest := by
    rw [show (h.received M p t ts rx).inTransit p = _ from Function.update_self .., hin, hrcv,
      Nat.add_sub_cancel_left]
    rfl
  have hm : m ∈ h.inTransit p := by
    rw [hin]
    exact List.mem_cons_self
  obtain ⟨q, hinv, haccounted⟩ := hok.onHost k
  obtain ⟨r', hcall, hsend⟩ := bind_some_eq_ok hsend rfl
  cases hsend
  have hmy : procOf ((h.procs p).onHost k).s.myMboxIdInItccoord = p := hok.my
  have hknown : p ≠ 1 → ∃ i, i < ((h.procs p).onHost k).s.nrMboxes.toNat ∧
      (((h.procs p).onHost k).s.mboxes i).mboxId = m.msg.receiver :=
    fun hp => (haccounted hp).logged.created _ (hok.known hp m hm)
  obtain ⟨new', hposted, hnone⟩ := relay_posts hinv hE hmem
    (hok.contacts.mono fun i hi => (hkisSome i).trans hi) (by rw [hmy]; exact hok.here m hm) (by rw [hmy]; exact hknown) hcall
  rw [hmy] at hnone
  have hsame : new' = new := by
    refine KernelQueues.post_inj (hposted.kernel.symm.trans hnew) hposted.queued fun i hi => ?_
    refine hqueued i (Option.not_isSome_iff_eq_none.mp ?_)
    rw [← hkisSome i, show k i = none from hi]
    exact Bool.false_ne_true
  rw [hsame] at hposted hnone
  have hothers : ∀ i, i ≠ p → new i = [] := by
    intro i hi
    by_cases hp : p = 1
    · exact hnone i (.inl (hp ▸ hi))
    · exact hnone i (.inr hp)
  have hslots := itcSend_sameSlots hcall
  have hthreads : r.s.myThreadlocalMbox = (h.procs p).s.myThreadlocalMbox := hslots.thread
  have hstate : ∀ i, (r.s.mboxes i).mboxState = ((h.procs p).s.mboxes i).mboxState :=
    hslots.mboxState
  have hids : ∀ i, (r.s.mboxes i).mboxId = ((h.procs p).s.mboxes i).mboxId :=
    hslots.mboxId
  have hprocess : ∃ q', r.s.Inv q' ∧ (p ≠ 1 → AccountedBy r.s q' ((h.procs p).log.record
      (.send sysvmqRxTid (some (r.s.delivery ((h.procs p).onHost k).s.heap.next)) m.msg.receiver
        ITC_MY_MBOX_ID r.ret))) := by
    by_cases hp : p = 1
    · have hcell : (((h.procs p).onHost k).s.alloc m.msg).2.heap.cells
          ((h.procs p).onHost k).s.heap.next = some m.msg := Heap.push_next _ m.msg
      have hinv' : (((h.procs p).onHost k).s.alloc m.msg).2.Inv q :=
        hinv.ofHeap (hinv.messages.alloc m.msg) hinv.layout.sysvmqInst
      obtain ⟨q', hq'⟩ := (((itcSend_returns hinv' hcell fuel sysvmqRxTid m.msg.receiver
        ITC_MY_MBOX_ID).of_eq hcall).inv hinv' hcell).1
      exact ⟨q', hq', fun hne => absurd hp hne⟩
    · obtain ⟨⟨q', hq'⟩, -⟩ := relay_accounts (haccounted hp) hmem hready (hok.known hp m hm) hcall
      exact ⟨q', hq'.inv, fun _ => hq'⟩
  have hprocs : ((h.received M p t ts rx).relayed p ((h.procs p).onHost k).s.heap.next m.msg r
      new).procs p = ⟨r.s, (h.procs p).log.record (.send sysvmqRxTid
        (some (r.s.delivery ((h.procs p).onHost k).s.heap.next)) m.msg.receiver ITC_MY_MBOX_ID
        r.ret)⟩ := Function.update_self ..
  have hin'' : ((h.received M p t ts rx).relayed p ((h.procs p).onHost k).s.heap.next m.msg r
      new).inTransit p = rest ++ new p := congrArg (· ++ new p) hin'
  refine ⟨?_, hothers⟩
  constructor
  · rw [hprocs]
    exact hprocess
  · rw [hprocs]
    exact hposted.contacts
  · rw [hprocs, hslots.my]
    exact hok.my
  · rw [hprocs, hposted.coord]
    exact hok.coord
  · show r.s.kernel p = _
    rw [hnew, hin'', KernelQueues.post, hkp, hts, Option.map_some, List.map_append]
  · rw [hin'']
    intro m' hm'
    rcases List.mem_append.mp hm' with hm' | hm'
    · exact hok.here m' (by rw [hin]; exact List.mem_cons_of_mem m hm')
    · exact hposted.receivers p m' hm'
  · rw [hin'', hprocs]
    intro hp m' hm'
    rw [hnone p (.inr hp), List.append_nil] at hm'
    exact Log.created_subset _ _
      (hok.known hp m' (by rw [hin]; exact List.mem_cons_of_mem m hm'))
  · show ((h.received M p t ts rx).rx p).mtext.length = M - 8
    rw [show (h.received M p t ts rx).rx p = rx from Function.update_self ..]
    exact hlen
  · rw [hprocs, hthreads]
    exact fun hunready => absurd hunready hready
  · have hrx : ((h.received M p t ts rx).relayed p ((h.procs p).onHost k).s.heap.next m.msg r
        new).rxMbox p = h.rxMbox p := by
      rw [rxMbox, hprocs, myMboxId, hthreads, rxMbox, myMboxId]
      exact congrArg _ (funext hids)
    rw [hprocs, hrx]
    intro hp i hi hinuse hne
    rw [hids] at hne ⊢
    rw [hstate] at hinuse
    rw [hslots.nr] at hi
    obtain ⟨-, hcarried⟩ := relay_accounts (haccounted hp) hmem hready (hok.known hp m hm) hcall
    have haccounts := hok.accounts hp i hi hinuse hne
    rw [Accounts, hin, contentsFor_cons, List.filter_append] at haccounts
    have hpasses : (if m.msg.receiver = ((h.procs p).s.mboxes i).mboxId then [m.msg.content]
        else []).filter (fun m => m.Passes) =
        if m.msg.receiver = ((h.procs p).s.mboxes i).mboxId then [m.msg.content] else [] := by
      split
      · exact List.filter_cons_of_pos (decide_eq_true hmin)
      · rfl
    rw [hpasses, ← List.append_assoc] at haccounts
    rw [Accounts, hrx, hprocs, hin'', hnone p (.inr hp), List.append_nil]
    exact haccounts.trans (congrArg (· ++ _) (hcarried i hi hinuse hne).symm)

/-- After `itc_init_zz`. -/
theorem init {nr : Nat → UInt32} (hp : nr p ≠ 0) (hlt : p < MAX_SUPPORTED_PROCESSES)
    (hnr : (nr p).toNat < 2 ^ mboxBits) :
    ProcessOk E M (Host.init M nr) p := by
  have hinv := ItcInstance.Inv.init (σ := KernelQueues) p hp hnr M fun _ => none
  have hmy : procOf (UInt32.ofNat (p * 2 ^ 20)) = p := by
    simp only [MAX_SUPPORTED_PROCESSES] at hlt
    rw [procOf_eq_div, UInt32.toNat_ofNat', mboxBits]
    omega
  constructor
  · exact ⟨_, hinv, fun _ => ⟨hinv, fun _ _ hq => (by cases hq),
      ⟨fun _ _ hq => (by cases hq), fun _ hid => (by cases hid)⟩⟩⟩
  · exact ⟨rfl, rfl, rfl, fun _ hne => absurd rfl hne⟩
  · exact hmy
  · show procOf ((1 <<< ITC_COORD_SHIFT) ||| 1) = 1
    decide
  · exact if_neg hp
  · exact fun _ hm => absurd hm List.not_mem_nil
  · exact fun _ _ hm => absurd hm List.not_mem_nil
  · simp only [Host.init, SysvmqRx.init, List.length_replicate]
  · exact fun _ _ => rfl
  · exact fun _ _ _ hinuse => by cases hinuse

end Host.ProcessOk

namespace Host

/-- Every running process is all right. -/
def Inv (E : ItcEnv KernelQueues) (M : Nat) (h : Host) : Prop :=
  ∀ p, (h.queues p).isSome → ProcessOk E M h p

variable {h h' : Host}

theorem Inv.init {nr : Nat → UInt32}
    (hnr : ∀ p, nr p ≠ 0 → p < MAX_SUPPORTED_PROCESSES ∧ (nr p).toNat < 2 ^ mboxBits) :
    (Host.init M nr).Inv E M := by
  intro p hrunning
  have hp : nr p ≠ 0 := by
    intro h0
    rw [show (Host.init M nr).queues p = none from if_pos h0] at hrunning
    cases hrunning
  obtain ⟨hlt, hbits⟩ := hnr p hp
  exact .init hp hlt hbits

/-- **Every step keeps the accounts of every process.** -/
theorem Inv.step {act : HostAction} (hE : E.kernel = limitKernel M) (hmem : E.qitemMem = true)
    (hM : M ≤ E.malloc.maxMallocsize) (hinv : h.Inv E M) (hmay : HostMay h act)
    (hstep : HostStep E M h act h') : h'.Inv E M := by
  intro p' hrunning
  cases hstep with
  | @call p a t new hcall hnew hqueued =>
    have hok := hinv p hmay.1
    obtain ⟨hposted, hby⟩ := hok.call_posts hE hmem hmay hcall hnew hqueued
    by_cases hpp : p' = p
    · rw [hpp]
      exact hok.call hE hmem hmay hcall hnew hqueued
    · have hrunning' : (h.queues p').isSome := by
        rw [show (h.afterCall p a t new).queues = _ from hnew, KernelQueues.post_isSome] at hrunning
        exact hrunning
      refine (hinv p' hrunning').other (l := new p') (Function.update_of_ne hpp _ _) rfl ?_ ?_ rfl
        (hposted.receivers p') ?_ ?_
      · intro i hi
        rw [show (h.afterCall p a t new).queues = _ from hnew, KernelQueues.post_isSome]
        exact hi
      · exact congrFun hnew p'
      · intro hp m hm
        have hproc := hposted.receivers p' m hm
        rcases hmay.2.2.1 _ ((hby p' hp).receiver m hm) with h1 | hcreated
        · exact absurd (hproc.symm.trans h1) hp
        · rwa [hproc] at hcreated
      · intro hp id hid
        obtain ⟨q, hs, -⟩ := hok.onHost h.queues
        have hnot : createdId a ≠ some id := by
          intro hcreated
          obtain ⟨i, hi, rfl⟩ := (hcall.1.frame hs hmay.2.1).created id hcreated
          exact hpp (hid.symm.trans ((hs.layout.procOf_id hi).trans hok.my))
        rw [(hby p' hp).contents id hid]
        exact congrArg (· ++ _) (if_neg hnot)
  | @skip p t ts rx hready hqueue hrx =>
    have hok := hinv p (by rw [hqueue]; rfl)
    by_cases hpp : p' = p
    · rw [hpp]
      exact hok.skip hM hqueue hrx
    · have hrunning' : (h.queues p').isSome := by
        rw [show (h.received M p t ts rx).queues p' = _ from Function.update_of_ne hpp _ _]
          at hrunning
        exact hrunning
      exact (hinv p' hrunning').other_received hpp
  | @relay p fuel msg t ts rx message r new hready hqueue hrx hsend hnew hqueued =>
    have hok := hinv p (by rw [hqueue]; rfl)
    obtain ⟨hrelay, hothers⟩ := hok.relay hE hmem hM hready hqueue hrx hsend hnew hqueued
    by_cases hpp : p' = p
    · rw [hpp]
      exact hrelay
    · have hqueue' : ((h.received M p t ts rx).relayed p msg message r new).queues =
          (h.received M p t ts rx).queues.post E.endian new := hnew
      have hrunning' : (h.queues p').isSome := by
        rw [hqueue', KernelQueues.post_isSome, show (h.received M p t ts rx).queues p' = _ from
          Function.update_of_ne hpp _ _] at hrunning
        exact hrunning
      have hreceived : ProcessOk E M (h.received M p t ts rx) p' :=
        (hinv p' hrunning').other_received hpp
      refine hreceived.other (l := []) (Function.update_of_ne hpp _ _) rfl ?_ ?_ ?_
        (fun _ hm => absurd hm List.not_mem_nil) (fun _ _ hm => absurd hm List.not_mem_nil)
        (fun _ _ _ => (List.append_nil _).symm)
      · intro i hi
        rw [hqueue', KernelQueues.post_isSome]
        exact hi
      · rw [hqueue', KernelQueues.post, hothers p' hpp]
      · exact congrArg _ (hothers p' hpp)

theorem Inv.run {as : List HostAction} (hE : E.kernel = limitKernel M) (hmem : E.qitemMem = true)
    (hM : M ≤ E.malloc.maxMallocsize) (hinv : h.Inv E M)
    (hrun : Run (Guarded (HostStep E M) HostMay) h as h') : h'.Inv E M :=
  hrun.invariant_of_guard (I := Host.Inv E M)
    (fun _ _ _ hinv hmay hstep => hinv.step hE hmem hM hmay hstep) hinv

/-- What a call may do extends a run. -/
theorem Inv.run_call {h₀ : Host} {as : List HostAction} {p : Nat} {a : ItcEvent}
    {t : Traced KernelQueues}
    (hinv : h₀.Inv E M) (hE : E.kernel = limitKernel M) (hmem : E.qitemMem = true)
    (hM : M ≤ E.malloc.maxMallocsize) (hrun : Run (Guarded (HostStep E M) HostMay) h₀ as h)
    (hmay : HostMay h (.call p a)) (hstep : Traced.Step E ((h.procs p).onHost h.queues) a t) :
    ∃ new, Run (Guarded (HostStep E M) HostMay) h₀ (as ++ [.call p a]) (h.afterCall p a t new) := by
  obtain ⟨new, hcall⟩ := (hinv.run hE hmem hM hrun p hmay.1).exists_call hE hmem hmay hstep
  exact ⟨new, hrun.append (.cons hcall (.nil _))⟩

/-- What the users of the mailbox `i` of process `p` can rely on. -/
structure MailboxDue (h : Host) (e : Endian) (p i : Nat) (rxq : RxQueue) (l : List Nat) : Prop where
  rxq : ((h.procs p).s.localInst.localmbxData i).rxq = some rxq ∧ rxq.Holds l
  transit : h.queues p = some ((h.inTransit p).map fun m => m.msg.image e)
  due : (h.due ((h.procs p).s.mboxes i).mboxId).filter (fun m => m.Passes) =
    carried (h.rxMbox p) ((h.procs p).log.received ((h.procs p).s.mboxes i).mboxId ++
      l.map (h.procs p).s.delivery) ++
      (contentsFor ((h.procs p).s.mboxes i).mboxId (h.inTransit p)).filter fun m => m.Passes

theorem ProcessOk.mailboxDue {p i : Nat} (hok : ProcessOk E M h p) (hp : p ≠ 1)
    (hi : i < (h.procs p).s.nrMboxes.toNat)
    (hinuse : ((h.procs p).s.mboxes i).mboxState = .inuse)
    (hother : ((h.procs p).s.mboxes i).mboxId ≠ h.rxMbox p) :
    ∃ rxq l, h.MailboxDue E.endian p i rxq l := by
  obtain ⟨q, hs, haccounted⟩ := hok.process
  obtain ⟨l, hq⟩ := Option.ne_none_iff_exists'.mp (hs.slots.inuse i hi hinuse)
  obtain ⟨rxq, hmailbox⟩ := (haccounted hp).mailbox (t := h.procs p) hq
  refine ⟨rxq, l, hmailbox.rxq, hok.transit, ?_⟩
  rw [← hmailbox.fifo]
  exact hok.accounts hp i hi hinuse hother

end Host

/-! ## Two processes -/

/-- The kernel of the host takes texts of up to 8192 bytes. -/
def ItcEnv.host : ItcEnv KernelQueues where
  endian := .little
  malloc := .least
  kernel := limitKernel 8192
  tree := .plain Nat
  qitemMem := true

theorem HostMay.createRx {h : Host} {p : Nat} {name : CString} {flags : UInt32} {ret : MboxId}
    (hrunning : (h.queues p).isSome) (hname : name.strlen < ITC_MAX_NAME_LENGTH)
    (hnone : (h.procs p).s.myThreadlocalMbox sysvmqRxTid = none) :
    HostMay h (.call p (.createMailbox sysvmqRxTid name flags ret)) := by
  refine ⟨hrunning, hname, fun _ h => h.elim, ?_⟩
  rw [if_pos hnone]
  exact ⟨name, flags, ret, rfl⟩

theorem HostMay.user {h : Host} {p : Nat} {a : ItcEvent}
    (hrunning : (h.queues p).isSome) (hown : UsesOwn (h.procs p).s a)
    (hto : ∀ id, a.SendsTo id → id ∈ (h.procs (procOf id)).log.created)
    (hready : (h.procs p).s.myThreadlocalMbox sysvmqRxTid ≠ none)
    (htid : a.caller ≠ some sysvmqRxTid) : HostMay h (.call p a) := by
  refine ⟨hrunning, hown, fun id hid => .inr (hto id hid), ?_⟩
  rw [if_neg hready]
  exact htid

/-- Processes 2 and 3 with three mailboxes each. -/
def pairNr (p : Nat) : UInt32 := if p = 2 ∨ p = 3 then 3 else 0

theorem pairNr_ok : ∀ p, pairNr p ≠ 0 →
    p < MAX_SUPPORTED_PROCESSES ∧ (pairNr p).toNat < 2 ^ mboxBits := by
  intro p hp
  rw [pairNr] at hp ⊢
  split at hp
  · rename_i hp'
    rw [if_pos hp']
    rcases hp' with rfl | rfl
    · exact ⟨by decide, by decide⟩
    · exact ⟨by decide, by decide⟩
  · exact absurd rfl hp

/-- A thread of process 2 has sent a message of eight bytes to a mailbox of process 3. -/
theorem pair_run :
    ∃ (as : List HostAction) (h : Host) (t : Bytes),
      Run (Guarded (HostStep .host 8192) HostMay) (.init 8192 pairNr) as h ∧
      h.queues 3 = some [t] ∧ t.length = 8 + ITC_HEADER_SIZE + 1 ∧
      (h.procs 3).s.nrMboxes = 3 ∧
      ((h.procs 3).s.mboxes 1).mboxState = .inuse ∧
      (h.procs 3).s.myThreadlocalMbox sysvmqRxTid = some 0 ∧
      ((h.procs 3).s.mboxes 1).mboxId ≠ h.rxMbox 3 := by
  let h₀ : Host := .init 8192 pairNr
  let s₁ := ((h₀.procs 3).onHost h₀.queues).s
  let c₁ := returned (0, s₁) (itcCreateMailbox .host 1 s₁ 0 .empty 0)
  let c₂ := returned (0, s₁) (itcCreateMailbox .host 1 c₁.2 1 .empty 0)
  let s₃ := ((h₀.procs 2).onHost c₂.2.kernel).s
  let c₃ := returned (0, s₃) (itcCreateMailbox .host 1 s₃ 0 .empty 0)
  let c₄ := returned (0, s₃) (itcCreateMailbox .host 1 c₃.2 1 .empty 0)
  let s₅ := (c₄.2.alloc (.fresh .little 8 0)).2
  let r₆ := returned ⟨false, none, none, s₃⟩
    (itcSend .host 1 s₅ 1 (some 2) 0x00300001 ITC_MY_MBOX_ID)
  let e₁ : ItcEvent := .createMailbox 0 .empty 0 c₁.1
  let e₂ : ItcEvent := .createMailbox 1 .empty 0 c₂.1
  let e₃ : ItcEvent := .createMailbox 0 .empty 0 c₃.1
  let e₄ : ItcEvent := .createMailbox 1 .empty 0 c₄.1
  let e₆ : ItcEvent := .send 1 (some (r₆.s.delivery 2)) 0x00300001 ITC_MY_MBOX_ID r₆.ret
  have hcreate₁ : itcCreateMailbox .host 1 s₁ 0 .empty 0 = .ok (some (c₁.1, c₁.2)) :=
    returned_eq (by decide +kernel)
  have hcreate₂ : itcCreateMailbox .host 1 c₁.2 1 .empty 0 = .ok (some (c₂.1, c₂.2)) :=
    returned_eq (by decide +kernel)
  have hcreate₃ : itcCreateMailbox .host 1 s₃ 0 .empty 0 = .ok (some (c₃.1, c₃.2)) :=
    returned_eq (by decide +kernel)
  have hcreate₄ : itcCreateMailbox .host 1 c₃.2 1 .empty 0 = .ok (some (c₄.1, c₄.2)) :=
    returned_eq (by decide +kernel)
  have hsend : itcSend .host 1 s₅ 1 (some 2) 0x00300001 ITC_MY_MBOX_ID =
      .ok (some r₆) := returned_eq (by decide +kernel)
  have hid₁ : c₁.1 = 0x00300000 := by decide +kernel
  have hid₂ : c₂.1 = 0x00300001 := by decide +kernel
  have hready₁ : c₁.2.myThreadlocalMbox 0 = some 0 := by decide +kernel
  have hready₂ : c₂.2.myThreadlocalMbox 0 = some 0 := by decide +kernel
  have hready₃ : c₃.2.myThreadlocalMbox 0 = some 0 := by decide +kernel
  have hready₄ : c₄.2.myThreadlocalMbox 0 = some 0 := by decide +kernel
  have hqueue₁ : (c₁.2.kernel 3).isSome := by decide +kernel
  have hqueue₂ : (c₂.2.kernel 2).isSome := by decide +kernel
  have hqueue₃ : (c₃.2.kernel 2).isSome := by decide +kernel
  have hqueue₄ : (c₄.2.kernel 2).isSome := by decide +kernel
  have hqueue₆ : (r₆.s.kernel 3).map (List.map List.length) = some [8 + ITC_HEADER_SIZE + 1] := by
    decide +kernel
  have hnr : c₂.2.nrMboxes = 3 := by decide +kernel
  have hinuse : (c₂.2.mboxes 1).mboxState = .inuse := by decide +kernel
  have hmbox₀ : c₂.2.myMboxId 0 = 0x00300000 := by decide +kernel
  have hmbox₁ : (c₂.2.mboxes 1).mboxId = 0x00300001 := by decide +kernel
  have hheld : s₅.Held 2 := by
    refine ⟨⟨.fresh .little 8 0, ItcMessage.fresh_wellFormed _ _ ?_ ?_, rfl⟩, ?_⟩
    · omega
    · omega
    · decide +kernel
  have hempty : CString.empty.strlen < ITC_MAX_NAME_LENGTH := by decide
  have hinv : h₀.Inv .host 8192 := .init pairNr_ok
  have hM : 8192 ≤ ItcEnv.host.malloc.maxMallocsize := by decide
  have hnone₃ : (h₀.procs 3).s.myThreadlocalMbox sysvmqRxTid = none := rfl
  have hnone₂ : (h₀.procs 2).s.myThreadlocalMbox sysvmqRxTid = none := rfl
  have hqueue₀ : (h₀.queues 3).isSome := rfl
  let log₁ := Log.empty.record e₁
  let log₂ := log₁.record e₂
  let log₃ := Log.empty.record e₃
  let log₄ := log₃.record e₄
  have hto : (0x00300001 : MboxId) ∈ log₂.created := by
    simp only [log₂, log₁, e₁, e₂, hid₁, hid₂]
    decide
  clear_value c₁ c₂ c₃ c₄ r₆
  obtain ⟨new₁, hrun₁⟩ := hinv.run_call (t := ⟨c₁.2, log₁⟩) rfl rfl hM (.nil _)
    (.createRx hqueue₀ hempty hnone₃) ⟨.createMailbox hcreate₁, rfl⟩
  let h₁ := h₀.afterCall 3 e₁ ⟨c₁.2, log₁⟩ new₁
  have hmay₂ : HostMay h₁ (.call 3 e₂) := .user hqueue₁ hempty (fun _ h => h.elim)
    (fun h => by cases hready₁.symm.trans h) (fun h => by cases h)
  obtain ⟨new₂, hrun₂⟩ := hinv.run_call (t := ⟨c₂.2, log₂⟩) rfl rfl hM hrun₁ hmay₂
    ⟨.createMailbox hcreate₂, rfl⟩
  let h₂ := h₁.afterCall 3 e₂ ⟨c₂.2, log₂⟩ new₂
  obtain ⟨new₃, hrun₃⟩ := hinv.run_call (h := h₂) (t := ⟨c₃.2, log₃⟩) rfl rfl hM hrun₂
    (.createRx hqueue₂ hempty hnone₂) ⟨.createMailbox hcreate₃, rfl⟩
  let h₃ := h₂.afterCall 2 e₃ ⟨c₃.2, log₃⟩ new₃
  have hmay₄ : HostMay h₃ (.call 2 e₄) := .user hqueue₃ hempty (fun _ h => h.elim)
    (fun h => by cases hready₃.symm.trans h) (fun h => by cases h)
  obtain ⟨new₄, hrun₄⟩ := hinv.run_call (t := ⟨c₄.2, log₄⟩) rfl rfl hM hrun₃ hmay₄
    ⟨.createMailbox hcreate₄, rfl⟩
  let h₄ := h₃.afterCall 2 e₄ ⟨c₄.2, log₄⟩ new₄
  have hmay₅ : HostMay h₄ (.call 2 (.alloc 8 0)) := .user hqueue₄ trivial (fun _ h => h.elim)
    (fun h => by cases hready₄.symm.trans h) (fun h => by cases h)
  obtain ⟨new₅, hrun₅⟩ := hinv.run_call (t := ⟨s₅, log₄⟩) rfl rfl hM hrun₄ hmay₅
    ⟨.alloc (itcAllocZz_ok .little .least 0 (by omega) (by decide)), rfl⟩
  let h₅ := h₄.afterCall 2 (.alloc 8 0) ⟨s₅, log₄⟩ new₅
  have hmay₆ : HostMay h₅ (.call 2 e₆) := by
    refine .user hqueue₄ ?_ ?_ (fun h => by cases hready₄.symm.trans h) (fun h => by cases h)
    · rintro _ ⟨⟩
      exact hheld
    · rintro _ ⟨⟩
      exact hto
  obtain ⟨new₆, hrun₆⟩ := hinv.run_call (t := ⟨r₆.s, log₄.record e₆⟩) rfl rfl hM hrun₅ hmay₆
    ⟨.send hsend, rfl⟩
  obtain ⟨ts, hts, hlen⟩ := Option.map_eq_some_iff.mp hqueue₆
  obtain ⟨t, rfl⟩ : ∃ t, ts = [t] := by
    rw [← List.length_eq_one_iff]
    simpa using congrArg List.length hlen
  exact ⟨_, _, t, hrun₆, hts, by simpa using hlen, hnr, hinuse, hready₂, by
    show (c₂.2.mboxes 1).mboxId ≠ c₂.2.myMboxId 0
    rw [hmbox₀, hmbox₁]
    decide⟩

/-! ## Exactly once -/

/-- **Between the processes of a host, each message is delivered once and in order.** In every run,
what other processes have left for a mailbox in use is what it has received from the rx thread of
its process, what its rx queue holds from there, and what is in the System V queue of the process;
only messages below the minimum length of the rx thread are missing. -/
theorem host_exactly_once (E : ItcEnv KernelQueues) (M : Nat) (hE : E.kernel = limitKernel M)
    (hmem : E.qitemMem = true) (hM : M ≤ E.malloc.maxMallocsize) (nr : Nat → UInt32)
    (hnr : ∀ p, nr p ≠ 0 → p < MAX_SUPPORTED_PROCESSES ∧ (nr p).toNat < 2 ^ mboxBits)
    (as : List HostAction) (h : Host)
    (hrun : Run (Guarded (HostStep E M) HostMay) (.init M nr) as h) (p : Nat) (hp : p ≠ 1)
    (hrunning : (h.queues p).isSome) (i : Nat) (hi : i < (h.procs p).s.nrMboxes.toNat)
    (hinuse : ((h.procs p).s.mboxes i).mboxState = .inuse)
    (hother : ((h.procs p).s.mboxes i).mboxId ≠ h.rxMbox p) :
    ∃ rxq l, h.MailboxDue E.endian p i rxq l :=
  ((Host.Inv.init hnr).run hE hmem hM hrun p hrunning).mailboxDue hp hi hinuse hother

theorem host_exactly_once_pair :
    ∃ (h : Host) (t : Bytes) (rxq : RxQueue) (l : List Nat), h.queues 3 = some [t] ∧
      h.MailboxDue .little 3 1 rxq l := by
  obtain ⟨as, h, t, hrun, hqueue, -, hnr, hinuse, -, hother⟩ := pair_run
  have hlt : 1 < (h.procs 3).s.nrMboxes.toNat := by
    rw [hnr]
    decide
  obtain ⟨rxq, l, hdue⟩ := host_exactly_once .host 8192 rfl rfl (by decide) pairNr pairNr_ok as h
    hrun 3 (by omega) (by rw [hqueue]; rfl) 1 hlt hinuse hother
  exact ⟨h, t, rxq, l, hqueue, hdue⟩

/-! ## Left to run -/

namespace Host

variable {h h' : Host} {p : Nat}

/-- What the rx thread of process `p` leaves alone. -/
structure RxFrame (p : Nat) (h h' : Host) : Prop where
  due : h'.due = h.due
  slots : SameSlots (h.procs p).s (h'.procs p).s
  received : (h'.procs p).log.received = (h.procs p).log.received

theorem RxFrame.trans {h'' : Host} (hr : RxFrame p h h') (hr' : RxFrame p h' h'') :
    RxFrame p h h'' :=
  ⟨hr'.due.trans hr.due, hr.slots.trans hr'.slots, hr'.received.trans hr.received⟩

/-- A send to a mailbox of the process returns. -/
theorem itcSend_own_returns (hinv : s.Inv q) (hmem : E.qitemMem = true) (tid : Nat) {p i : Nat}
    {u : UserMessage} (hi : i < s.nrMboxes.toNat) (hu : s.heap.cells p = some u.msg) :
    ∃ r, itcSend E 0 s tid (some p) (s.mboxes i).mboxId ITC_MY_MBOX_ID = .ok (some r) := by
  cases ht : s.myThreadlocalMbox tid with
  | none =>
    rw [itcSend, ht]
    exact ⟨_, rfl⟩
  | some me =>
    by_cases hself : (s.mboxes i).mboxId = (s.mboxes me).mboxId
    · simp only [itcSend, ht, if_pos hself]
      exact ⟨_, rfl⟩
    · by_cases hinuse : (s.mboxes i).mboxState = .inuse
      · obtain ⟨l, hq⟩ := Option.ne_none_iff_exists'.mp (hinv.slots.inuse i hi hinuse)
        obtain ⟨s', hsend, -⟩ := itcSend_inuse hinv hmem 0 ht (fun heq => hself (by rw [heq]))
          hinuse hq hu
        exact ⟨_, hsend⟩
      · obtain ⟨heap, hwrite, -⟩ :=
          Heap.write_of_live (b := u.msg.stamp (s.mboxes me).mboxId (s.mboxes i).mboxId) hu
        have hinactive : ((findMbox (s.setHeap heap) (s.mboxes i).mboxId).any fun i =>
            ((s.setHeap heap).mboxes i).mboxState != .inuse) = true := by
          rw [show findMbox (s.setHeap heap) (s.mboxes i).mboxId = some i from
            hinv.layout.findMbox_id hi, Option.any_some, bne_iff_ne]
          exact hinuse
        simp only [itcSend, ht, if_neg hself, ne_eq, not_true_eq_false, false_and, if_false,
          sendWithinHost, Heap.read_of_live hu, hwrite, bind, Except.bind, if_pos hinactive]
        exact ⟨_, rfl⟩

/-- **The rx thread takes a text that fits off its queue**, whatever becomes of the message. -/
theorem ProcessOk.exists_pass (hok : ProcessOk E M h p) (hmem : E.qitemMem = true)
    (hM : M ≤ E.malloc.maxMallocsize)
    (hready : (h.procs p).s.myThreadlocalMbox sysvmqRxTid ≠ none) {m : UserMessage}
    {rest : List UserMessage} (hin : h.inTransit p = m :: rest) (hfit : FitsRxBuffer M m)
    (hslot : ∃ i, i < (h.procs p).s.nrMboxes.toNat ∧
      ((h.procs p).s.mboxes i).mboxId = m.msg.receiver) :
    ∃ h', HostStep E M h (.rx p) h' ∧ (h'.queues p).isSome ∧ RxFrame p h h' ∧
      h'.inTransit p = rest := by
  have hqueue : h.queues p = some (m.msg.image E.endian ::
      rest.map fun m => m.msg.image E.endian) := by
    rw [hok.transit, hin]
    rfl
  obtain ⟨m', rest', hin', hts, hpass⟩ := hok.pass hM hqueue
  rw [hin] at hin'
  cases hin'
  rw [if_pos hfit] at hpass
  obtain ⟨hrcv, rx, hrx, -⟩ := hpass
  have hin'' : (h.received M p (m.msg.image E.endian) (rest.map fun m => m.msg.image E.endian)
      rx).inTransit p = rest := by
    rw [show (h.received M p _ _ rx).inTransit p = _ from Function.update_self .., hin, hrcv,
      Nat.add_sub_cancel_left]
    rfl
  by_cases hmin : PassesMinLength m
  · rw [if_pos hmin] at hrx
    have hkisSome : ∀ i, ((h.received M p (m.msg.image E.endian)
        (rest.map fun m => m.msg.image E.endian) rx).queues i).isSome = (h.queues i).isSome :=
      received_isSome hqueue
    generalize hk : (h.received M p (m.msg.image E.endian)
      (rest.map fun m => m.msg.image E.endian) rx).queues = k at hkisSome
    obtain ⟨q, hinv, -⟩ := hok.onHost k
    obtain ⟨i, hi, hid⟩ := hslot
    have hinv' : (((h.procs p).onHost k).s.alloc m.msg).2.Inv q :=
      hinv.ofHeap (hinv.messages.alloc m.msg) hinv.layout.sysvmqInst
    obtain ⟨r, hcall⟩ := itcSend_own_returns (s := (((h.procs p).onHost k).s.alloc m.msg).2)
      hinv' hmem sysvmqRxTid hi (Heap.push_next _ m.msg)
    rw [show ((((h.procs p).onHost k).s.alloc m.msg).2.mboxes i).mboxId = m.msg.receiver from hid]
      at hcall
    have hsend : sendCopy E 0 ((h.procs p).onHost k).s sysvmqRxTid m.msg =
        .ok (some (((h.procs p).onHost k).s.heap.next, r)) := by
      rw [sendCopy]
      simp only [bind, Except.bind]
      rw [show itcSend E 0 (((h.procs p).onHost k).s.alloc m.msg).2 sysvmqRxTid
        (some (((h.procs p).onHost k).s.alloc m.msg).1) m.msg.receiver ITC_MY_MBOX_ID = _ from
        hcall]
      rfl
    have hown := hcall
    rw [← show ((((h.procs p).onHost k).s.alloc m.msg).2.mboxes i).mboxId = m.msg.receiver from hid]
      at hown
    have hposted := itcSend_posts_own (s := (((h.procs p).onHost k).s.alloc m.msg).2) hmem hinv'
      (hok.contacts.mono fun i hi => (hkisSome i).trans hi) hi (Heap.push_next _ m.msg) hown
    have hnew : r.s.kernel = k.post E.endian toNobody := hposted.kernel
    rw [← hk] at hsend hnew
    refine ⟨_, .relay hready hqueue (by rw [hrcv]; exact hrx) hsend hnew
      (fun _ _ => rfl), ?_, ⟨rfl, ?_, ?_⟩, ?_⟩
    · show (r.s.kernel p).isSome
      rw [hnew, KernelQueues.post_isSome, hk]
      rw [hkisSome p, hqueue]
      rfl
    · rw [show ((h.received M p _ _ rx).relayed p _ m.msg r toNobody).procs p = _ from
        Function.update_self ..]
      exact (SameSlots.setSysvmq (h.procs p).s _ k _).trans
        ((SameSlots.setHeap _ _).trans (itcSend_sameSlots hcall))
    · rw [show ((h.received M p _ _ rx).relayed p _ m.msg r toNobody).procs p = _ from
        Function.update_self ..]
      cases r.ret with
      | false => rfl
      | true => rfl
    · rw [show ((h.received M p _ _ rx).relayed p _ m.msg r toNobody).inTransit p = _ from
        congrArg (· ++ []) hin'', List.append_nil]
  · rw [if_neg hmin] at hrx
    refine ⟨_, .skip hready hqueue (by rw [hrcv]; exact hrx), ?_, ⟨rfl, .refl _, rfl⟩, hin''⟩
    rw [show (h.received M p _ _ rx).queues p = _ from Function.update_self ..]
    rfl

/-- While every text in the queue fits, the rx thread takes them all off. -/
theorem Inv.drain (hinv : h.Inv E M) (hE : E.kernel = limitKernel M) (hmem : E.qitemMem = true)
    (hM : M ≤ E.malloc.maxMallocsize) (hp : p ≠ 1) (hrunning : (h.queues p).isSome)
    (hready : (h.procs p).s.myThreadlocalMbox sysvmqRxTid ≠ none)
    (hfit : ∀ m ∈ h.inTransit p, FitsRxBuffer M m) :
    ∃ h', Run (Guarded (HostStep E M) HostMay) h
        (List.replicate (h.inTransit p).length (.rx p)) h' ∧
      h'.Inv E M ∧ (h'.queues p).isSome ∧ RxFrame p h h' ∧ h'.inTransit p = [] := by
  generalize hl : h.inTransit p = l at hfit
  induction l generalizing h with
  | nil => exact ⟨h, .nil h, hinv, hrunning, ⟨rfl, .refl _, rfl⟩, hl⟩
  | cons m rest ih =>
    obtain ⟨q, -, haccounted⟩ := (hinv p hrunning).process
    have hslot := (haccounted hp).logged.created _
      ((hinv p hrunning).known hp m (by rw [hl]; exact List.mem_cons_self))
    obtain ⟨h₁, hstep, hrunning₁, hframe₁, hrest⟩ :=
      (hinv p hrunning).exists_pass hmem hM hready hl (hfit m List.mem_cons_self) hslot
    have hmay : HostMay h (.rx p) := trivial
    obtain ⟨h', hrun, hinv', hrunning', hframe', hempty⟩ := ih
      (hinv.step hE hmem hM hmay hstep) hrunning₁
      (by rw [hframe₁.slots.thread]; exact hready) hrest
      (fun m' hm' => hfit m' (List.mem_cons_of_mem m hm'))
    exact ⟨h', .cons ⟨trivial, hstep⟩ hrun, hinv', hrunning', hframe₁.trans hframe', hempty⟩

end Host

/-- Texts that the buffer of the rx thread can hold. -/
theorem Host.ProcessOk.fits {h : Host} {p : Nat} (hok : Host.ProcessOk E M h p) {ts : List Bytes}
    (hqueue : h.queues p = some ts) (hfit : ∀ t ∈ ts, t.length ≤ M - 8) :
    ∀ m ∈ h.inTransit p, FitsRxBuffer M m := by
  intro m hm
  have htransit := hok.transit
  rw [hqueue, Option.some.injEq] at htransit
  have hlen := image_length_of_wellFormed E.endian m.wellFormed
  have hle := hfit (m.msg.image E.endian) (by
    rw [htransit]
    exact List.mem_map_of_mem hm)
  have hge := m.wellFormed.size_ge
  simp only [FitsRxBuffer, ITC_HEADER_SIZE] at hlen ⊢
  omega

/-- **The rx thread of a process can bring to its mailboxes all that is due to them**: when every
text in its queue fits its buffer, its own passes alone leave nothing due that has not been received
or lies in the rx queue. -/
theorem host_delivers (E : ItcEnv KernelQueues) (M : Nat) (hE : E.kernel = limitKernel M)
    (hmem : E.qitemMem = true) (hM : M ≤ E.malloc.maxMallocsize) (nr : Nat → UInt32)
    (hnr : ∀ p, nr p ≠ 0 → p < MAX_SUPPORTED_PROCESSES ∧ (nr p).toNat < 2 ^ mboxBits)
    (as : List HostAction) (h : Host)
    (hrun : Run (Guarded (HostStep E M) HostMay) (.init M nr) as h) (p : Nat) (hp : p ≠ 1)
    (hready : (h.procs p).s.myThreadlocalMbox sysvmqRxTid ≠ none) (ts : List Bytes)
    (hqueue : h.queues p = some ts) (hfit : ∀ t ∈ ts, t.length ≤ M - 8) :
    ∃ h', Run (Guarded (HostStep E M) HostMay) h (List.replicate ts.length (.rx p)) h' ∧
      ∀ i, i < (h.procs p).s.nrMboxes.toNat → ((h.procs p).s.mboxes i).mboxState = .inuse →
        ((h.procs p).s.mboxes i).mboxId ≠ h.rxMbox p →
        ∃ rxq l, ((h'.procs p).s.localInst.localmbxData i).rxq = some rxq ∧ rxq.Holds l ∧
          (h.due ((h.procs p).s.mboxes i).mboxId).filter (fun m => m.Passes) =
            carried (h.rxMbox p) ((h.procs p).log.received ((h.procs p).s.mboxes i).mboxId ++
              l.map (h'.procs p).s.delivery) := by
  have hinv := (Host.Inv.init hnr).run hE hmem hM hrun
  have hrunning : (h.queues p).isSome := by rw [hqueue]; rfl
  have hok := hinv p hrunning
  have hlen : ts.length = (h.inTransit p).length := by
    have htransit := hok.transit
    rw [hqueue, Option.some.injEq] at htransit
    rw [htransit, List.length_map]
  obtain ⟨h', hrun', hinv', hrunning', hframe, hempty⟩ :=
    hinv.drain hE hmem hM hp hrunning hready (hok.fits hqueue hfit)
  rw [hlen]
  refine ⟨h', hrun', fun i hi hinuse hother => ?_⟩
  have hmbox : h'.rxMbox p = h.rxMbox p := by
    rw [Host.rxMbox, myMboxId, hframe.slots.thread, Host.rxMbox, myMboxId]
    exact congrArg _ (funext hframe.slots.mboxId)
  obtain ⟨rxq, l, hdue⟩ := (hinv' p hrunning').mailboxDue hp (by rw [hframe.slots.nr]; exact hi)
    (by rw [hframe.slots.mboxState]; exact hinuse)
    (by rw [hframe.slots.mboxId, hmbox]; exact hother)
  have hall := hdue.due
  rw [hframe.slots.mboxId, hframe.due, hmbox, hframe.received, hempty] at hall
  exact ⟨rxq, l, hdue.rxq.1, hdue.rxq.2, hall.trans (List.append_nil _)⟩

theorem host_delivers_pair :
    ∃ h h' : Host, Run (Guarded (HostStep .host 8192) HostMay) h [.rx 3] h' ∧
      ∃ rxq l, ((h'.procs 3).s.localInst.localmbxData 1).rxq = some rxq ∧ rxq.Holds l ∧
        (h.due ((h.procs 3).s.mboxes 1).mboxId).filter (fun m => m.Passes) =
          carried (h.rxMbox 3) ((h.procs 3).log.received ((h.procs 3).s.mboxes 1).mboxId ++
            l.map (h'.procs 3).s.delivery) := by
  obtain ⟨as, h, t, hrun, hqueue, hlen, hnr, hinuse, hready, hother⟩ := pair_run
  have hfit : ∀ t' ∈ [t], t'.length ≤ 8192 - 8 := by
    intro t' ht'
    rw [List.mem_singleton.mp ht', hlen, ITC_HEADER_SIZE]
    omega
  have hready' : (h.procs 3).s.myThreadlocalMbox sysvmqRxTid ≠ none := by
    rw [hready]
    exact Option.some_ne_none 0
  obtain ⟨h', hrun', hall⟩ := host_delivers .host 8192 rfl rfl (by decide) pairNr pairNr_ok as h
    hrun 3 (by omega) hready' [t] hqueue hfit
  have hlt : 1 < (h.procs 3).s.nrMboxes.toNat := by
    rw [hnr]
    decide
  exact ⟨h, h', hrun', hall 1 hlt hinuse hother⟩

end ItcFramework
