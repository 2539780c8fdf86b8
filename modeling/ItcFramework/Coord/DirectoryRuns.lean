import ItcFramework.Coord.Directory

/-!
# Runs of the directory

* `Directory.Inv` — the invariant: the notifications that `main` has not received lead from the
  registry to the mailboxes in use.
-/

set_option autoImplicit false

namespace ItcFramework

open ByteImage HeapModel ItcInstance SearchTree Transition Coordinator

variable {E : ItcEnv KernelQueues} {M : Nat} {impl : TreeImpl Nat} {P : Request → Prop}
  {d d' : Directory}

/-! ## The invariant -/

/-- A message for the coordinator: a notification about a mailbox that its process has created, or
a request; it is one of those that `P` allows. -/
structure ForCoord (P : Request → Prop) (e : Endian) (h : Host) (m : UserMessage) : Prop where
  receiver : m.msg.receiver = coordMboxId
  request : HasRequest e m.msg (request e m.msg)
  created : ∀ mboxId, (Coordinator.request e m.msg).notifies = some mboxId →
    mboxId ∈ (h.procs (procOf mboxId)).log.created ∧ procOf mboxId < MAX_SUPPORTED_PROCESSES
  only : P (Coordinator.request e m.msg)

theorem request_eq {e : Endian} {m : ItcMessage} {r : Request} (h : HasRequest e m r) :
    request e m = r := by
  rw [request, h.reads]
  rfl

theorem ForCoord.of_request {e : Endian} {h : Host} {m : UserMessage} {r : Request}
    (hto : m.msg.receiver = coordMboxId) (hr : HasRequest e m.msg r)
    (hcreated : ∀ mboxId, r.notifies = some mboxId →
      mboxId ∈ (h.procs (procOf mboxId)).log.created ∧ procOf mboxId < MAX_SUPPORTED_PROCESSES)
    (honly : P r) : ForCoord P e h m := by
  have heq := request_eq hr
  exact ⟨hto, by rw [heq]; exact hr, by rw [heq]; exact hcreated, by rw [heq]; exact honly⟩

theorem ForCoord.mono {e : Endian} {h h' : Host} {m : UserMessage} (hm : ForCoord P e h m)
    (hcreated : ∀ p, (h.procs p).log.created ⊆ (h'.procs p).log.created) : ForCoord P e h' m :=
  ⟨hm.receiver, hm.request, fun mboxId hid =>
    ⟨hcreated _ (hm.created mboxId hid).1, (hm.created mboxId hid).2⟩, hm.only⟩

theorem ForCoord.stamp {e : Endian} {h : Host} {m : UserMessage} (hm : ForCoord P e h m)
    (myMbox : MboxId) {toMbox : MboxId} (hto : m.msg.receiver = toMbox) :
    ForCoord P e h (m.stamp myMbox toMbox) :=
  ⟨hto.symm.trans hm.receiver, hm.request.stamp _ _, hm.created, hm.only⟩

theorem ForCoord.notifies_ne {e : Endian} {h : Host} {m : UserMessage} (hm : ForCoord P e h m)
    {p : Nat} (hp : (h.procs p).log.created = []) (mboxId : MboxId)
    (hid : (Coordinator.request e m.msg).notifies = some mboxId) : procOf mboxId ≠ p := by
  rintro rfl
  have hmem := (hm.created mboxId hid).1
  rw [hp] at hmem
  exact List.not_mem_nil hmem

namespace Directory

/-- The notifications on their way to `main`, in order. -/
structure Mail (P : Request → Prop) (e : Endian) (d : Directory) (ms : List UserMessage) : Prop where
  mail : d.host.CoordMail e ms
  letters : ∀ m ∈ ms, ForCoord P e d.host m
  run : Run (Registers d.inst.Connected) d.inst.registry (ms.map fun m => request e m.msg) d.inUse

/-- Process `p`, which is running and not the coordinator's. -/
structure ProcessOk (h : Host) (p : Nat) : Prop where
  small : p < MAX_SUPPORTED_PROCESSES
  coord : (h.procs p).s.itccoordMboxId = coordMboxId
  threads : (h.procs p).s.ThreadsInUse

/-- The accounts of the coordinator's process. -/
structure Counted (t : Traced KernelQueues) : Prop where
  created : coordMboxId ∈ t.log.created
  accounted : ∃ q, AccountedBy t.s q t.log

structure Inv (E : ItcEnv KernelQueues) (M : Nat) (P : Request → Prop) (d : Directory) : Prop
    where
  host : d.host.Inv E M
  ready : d.host.CoordReady
  counted : Counted (d.host.procs 1)
  inst : d.inst.Inv
  procs : ∀ p, p ≠ 1 → (d.host.queues p).isSome → ProcessOk d.host p
  own : ∀ p, p ≠ 1 → ∀ info ∈ (d.host.procs p).s.inUse,
    procOf info.mboxId = p ∧ info.mboxId ∈ (d.host.procs p).log.created
  names : ∀ info ∈ d.inUse, ∀ info' ∈ d.inUse, info.mboxName = info'.mboxName → info = info'
  mail : ∃ ms, Mail P E.endian d ms

/-! ## Mailboxes in use -/

theorem mem_inUse {info : ItcMboxInfo} :
    info ∈ d.inUse ↔ ∃ p, p ≠ 1 ∧ d.inst.Connected p ∧ info ∈ (d.host.procs p).s.inUse := Iff.rfl

/-- No process has other mailboxes in use. -/
theorem inUse_same (hconn : ∀ p, d'.inst.Connected p ↔ d.inst.Connected p)
    (hsame : ∀ p, p ≠ 1 → (d'.host.procs p).s.inUse = (d.host.procs p).s.inUse) :
    d'.inUse = d.inUse := by
  ext info
  rw [mem_inUse, mem_inUse]
  refine exists_congr fun p => and_congr_right fun hp => ?_
  rw [hsame p hp, hconn]

section OneProcess

variable {p : Nat} {x : ItcMboxInfo} (hp : p ≠ 1) (hconn : d.inst.Connected p)
  (hinst : d'.inst = d.inst)
  (hothers : ∀ p', p' ≠ p → (d'.host.procs p').s.inUse = (d.host.procs p').s.inUse)

include hp hconn hinst hothers

theorem inUse_insert
    (hinUse : (d'.host.procs p).s.inUse = insert x (d.host.procs p).s.inUse) :
    d'.inUse = insert x d.inUse := by
  ext info
  rw [Set.mem_insert_iff, mem_inUse, mem_inUse, hinst]
  constructor
  · rintro ⟨p', hp', hconn', hmem⟩
    by_cases hpp : p' = p
    · rw [hpp, hinUse, Set.mem_insert_iff] at hmem
      exact hmem.imp_right fun hmem => ⟨p, hp, hconn, hmem⟩
    · rw [hothers p' hpp] at hmem
      exact .inr ⟨p', hp', hconn', hmem⟩
  · rintro (rfl | ⟨p', hp', hconn', hmem⟩)
    · exact ⟨p, hp, hconn, by rw [hinUse]; exact Set.mem_insert info _⟩
    · refine ⟨p', hp', hconn', ?_⟩
      by_cases hpp : p' = p
      · rw [hpp, hinUse]
        rw [hpp] at hmem
        exact Set.mem_insert_of_mem x hmem
      · rw [hothers p' hpp]
        exact hmem

theorem inUse_sdiff
    (hown : ∀ p', p' ≠ 1 → ∀ info ∈ (d.host.procs p').s.inUse, procOf info.mboxId = p')
    (hx : x ∈ (d.host.procs p).s.inUse)
    (hinUse : (d'.host.procs p).s.inUse = (d.host.procs p).s.inUse \ {x}) :
    d'.inUse = d.inUse \ {x} := by
  ext info
  rw [Set.mem_sdiff, Set.mem_singleton_iff, mem_inUse, mem_inUse, hinst]
  constructor
  · rintro ⟨p', hp', hconn', hmem⟩
    by_cases hpp : p' = p
    · rw [hpp, hinUse] at hmem
      exact ⟨⟨p, hp, hconn, hmem.1⟩, hmem.2⟩
    · rw [hothers p' hpp] at hmem
      refine ⟨⟨p', hp', hconn', hmem⟩, ?_⟩
      rintro rfl
      exact hpp ((hown p' hp' info hmem).symm.trans (hown p hp info hx))
  · rintro ⟨⟨p', hp', hconn', hmem⟩, hne⟩
    refine ⟨p', hp', hconn', ?_⟩
    by_cases hpp : p' = p
    · rw [hpp, hinUse]
      rw [hpp] at hmem
      exact ⟨hmem, hne⟩
    · rw [hothers p' hpp]
      exact hmem

end OneProcess

/-! ## A call of another process -/

/-- What a call of process `p` has told the coordinator is right. -/
structure Told (P : Request → Prop) (E : ItcEnv KernelQueues) (d d' : Directory) (p : Nat)
    (l : List UserMessage) : Prop where
  run : Run (Registers d.inst.Connected) d.inUse (l.map fun m => request E.endian m.msg) d'.inUse
  letters : ∀ m ∈ l, ForCoord P E.endian d'.host m
  own : ∀ info ∈ (d'.host.procs p).s.inUse,
    procOf info.mboxId = p ∧ info.mboxId ∈ (d'.host.procs p).log.created
  names : ∀ info ∈ d'.inUse, ∀ info' ∈ d'.inUse, info.mboxName = info'.mboxName → info = info'

theorem Inv.told (hinv : Inv E M P d) {p : Nat} (hp : p ≠ 1) (hconn : d.inst.Connected p)
    (hrunning : (d.host.queues p).isSome) (hP : ∀ r, P r) {a : ItcEvent}
    (huser : d.UserMay E.endian p a) {t : Traced KernelQueues} {new : Nat → List UserMessage} {l : List UserMessage}
    (hlog : t.log = (d.host.procs p).log.record a)
    (htells : Tells E.endian ((d.host.procs p).onHost d.host.queues).s t.s a l) :
    Told P E d { d with host := d.host.afterCall p a t new } p l := by
  have hself : (d.host.afterCall p a t new).procs p = t := Function.update_self ..
  have hothers : ∀ p', p' ≠ p → ((d.host.afterCall p a t new).procs p').s.inUse =
      (d.host.procs p').s.inUse := fun p' hp' =>
    congrArg (fun t : Traced KernelQueues => t.s.inUse) (Function.update_of_ne hp' _ _)
  have hcreated : (d.host.procs p).log.created ⊆ t.log.created := by
    rw [hlog]
    exact Log.created_subset _ _
  have hmy : procOf (d.host.procs p).s.myMboxIdInItccoord = p := (hinv.host p hrunning).my
  have hok := hinv.procs p hp hrunning
  -- a call that leaves the mailboxes in use as they are
  have hquiet (l : List UserMessage) (hsame : t.s.inUse = (d.host.procs p).s.inUse)
      (hl : ∀ m ∈ l, m.msg.receiver = coordMboxId ∧
        ∃ r, HasRequest E.endian m.msg r ∧ r.notifies = none) :
      Told P E d { d with host := d.host.afterCall p a t new } p l := by
    have hinUse : ({ d with host := d.host.afterCall p a t new } : Directory).inUse = d.inUse := by
      refine inUse_same (fun _ => Iff.rfl) fun p' _ => ?_
      by_cases hpp : p' = p
      · show ((d.host.afterCall p a t new).procs p').s.inUse = _
        rw [hpp, hself, hsame]
      · exact hothers p' hpp
    refine ⟨?_, fun m hm => ?_, ?_, ?_⟩
    · rw [hinUse]
      clear hinUse
      induction l with
      | nil => exact .nil _
      | cons m l ih =>
        rw [List.forall_mem_cons] at hl
        obtain ⟨-, r, hr, hnone⟩ := hl.1
        refine .cons (.skip ?_) (ih hl.2)
        simp only [request_eq hr, hnone]
        intro mboxId hid
        cases hid
    · obtain ⟨hto, r, hr, hnone⟩ := hl m hm
      exact .of_request hto hr (fun mboxId hid => by rw [hnone] at hid; cases hid) (hP r)
    · show ∀ info ∈ ((d.host.afterCall p a t new).procs p).s.inUse, _ ∧
        _ ∈ ((d.host.afterCall p a t new).procs p).log.created
      rw [hself, hsame]
      exact fun info hinfo => (hinv.own p hp info hinfo).imp_right fun h => hcreated h
    · rw [hinUse]
      exact hinv.names
  cases htells with
  | nothing hsame => exact hquiet [] hsame fun m hm => absurd hm List.not_mem_nil
  | @sent tid msg m u toMbox fromMbox ret hu hto hsame =>
    refine hquiet _ hsame fun m' hm' => ?_
    obtain rfl := List.mem_singleton.mp hm'
    obtain ⟨hcoord, hreads⟩ := huser hto
    obtain ⟨r, hr, hnone⟩ := hreads u.msg hu
    exact ⟨hcoord, r, hr.stamp _ _, hnone⟩
  | @created tid name flags ret u hrequest hreceiver hown hret hinUse =>
    have hproc : procOf ret = p := hown.trans hmy
    have hret' : ret ∈ t.log.created := by
      rw [hlog, Log.record, if_neg hret]
      exact List.mem_cons_self
    have hnew : ∀ info ∈ d.inUse, info.mboxName ≠ name := huser
    have hall : ({ d with host := d.host.afterCall p (.createMailbox tid name flags ret) t new } :
        Directory).inUse = insert ⟨ret, name⟩ d.inUse :=
      inUse_insert hp hconn rfl hothers (by
        show ((d.host.afterCall p _ t new).procs p).s.inUse = _
        rw [hself]
        exact hinUse)
    refine ⟨?_, fun m hm => ?_, ?_, ?_⟩
    · rw [hall, List.map_singleton, request_eq hrequest]
      exact .cons (.add (by rw [hproc]; exact hconn) hnew) (.nil _)
    · obtain rfl := List.mem_singleton.mp hm
      refine .of_request (hreceiver.trans hok.coord) hrequest ?_ (hP _)
      rintro _ ⟨⟩
      rw [hproc]
      exact ⟨by rw [hself]; exact hret', hok.small⟩
    · show ∀ info ∈ ((d.host.afterCall p _ t new).procs p).s.inUse, _ ∧
        _ ∈ ((d.host.afterCall p _ t new).procs p).log.created
      rw [hself, hinUse]
      rintro info (rfl | hinfo)
      · exact ⟨hproc, hret'⟩
      · exact (hinv.own p hp info hinfo).imp_right fun h => hcreated h
    · rw [hall]
      rintro info (rfl | hinfo) info' (rfl | hinfo') heq
      · rfl
      · exact absurd heq.symm (hnew info' hinfo')
      · exact absurd heq (hnew info hinfo)
      · exact hinv.names info hinfo info' hinfo' heq
  | @deleted tid mboxId name u hrequest hreceiver hmem hinUse =>
    have hmem' : (⟨mboxId, name⟩ : ItcMboxInfo) ∈ (d.host.procs p).s.inUse := hmem
    obtain ⟨hproc, hcreated'⟩ := hinv.own p hp _ hmem'
    have hglobal : (⟨mboxId, name⟩ : ItcMboxInfo) ∈ d.inUse := ⟨p, hp, hconn, hmem'⟩
    have hall : ({ d with host := d.host.afterCall p (.deleteMailbox tid mboxId true) t new } :
        Directory).inUse = d.inUse \ {⟨mboxId, name⟩} :=
      inUse_sdiff hp hconn rfl hothers (fun p' hp' info hinfo => (hinv.own p' hp' info hinfo).1)
        hmem' (by
        show ((d.host.afterCall p _ t new).procs p).s.inUse = _
        rw [hself]
        exact hinUse)
    refine ⟨?_, fun m hm => ?_, ?_, ?_⟩
    · rw [hall, List.map_singleton, request_eq hrequest]
      refine .cons (.rmv (by rw [hproc]; exact hconn) fun info hinfo hname => ?_) (.nil _)
      exact congrArg ItcMboxInfo.mboxId (hinv.names info hinfo _ hglobal hname)
    · obtain rfl := List.mem_singleton.mp hm
      refine .of_request (hreceiver.trans hok.coord) hrequest ?_ (hP _)
      rintro _ ⟨⟩
      rw [hproc]
      exact ⟨by rw [hself]; exact hcreated hcreated', hok.small⟩
    · show ∀ info ∈ ((d.host.afterCall p _ t new).procs p).s.inUse, _ ∧
        _ ∈ ((d.host.afterCall p _ t new).procs p).log.created
      rw [hself, hinUse]
      exact fun info hinfo => (hinv.own p hp info hinfo.1).imp_right fun h => hcreated h
    · rw [hall]
      exact fun info hinfo info' hinfo' => hinv.names info hinfo.1 info' hinfo'.1

/-! ## The mail -/

/-- Messages come behind those that are there, and nothing else happens to the coordinator. -/
theorem Mail.grow {e : Endian} {ms l : List UserMessage} (hmail : Mail P e d ms)
    (hproc : d'.host.procs 1 = d.host.procs 1)
    (hqueue : d'.host.queues 1 = (d.host.queues 1).map (· ++ l.map fun m => m.msg.image e))
    (hinst : d'.inst = d.inst)
    (hcreated : ∀ p, (d.host.procs p).log.created ⊆ (d'.host.procs p).log.created)
    (hl : ∀ m ∈ l, ForCoord P e d'.host m)
    (hrun : Run (Registers d.inst.Connected) d.inUse (l.map fun m => request e m.msg) d'.inUse) :
    Mail P e d' (ms ++ l) where
  mail := by
    obtain ⟨lq, ls, ts, hrx, hcells, hts, rfl⟩ := hmail.mail.queued
    refine ⟨lq, ls, ts ++ l, ?_, ?_, ?_, List.append_assoc ..⟩
    · rw [hproc]
      exact hrx
    · rw [hproc]
      exact hcells
    · rw [hqueue, hts, Option.map_some, List.map_append]
  letters := fun m hm => (List.mem_append.mp hm).elim
    (fun hm => (hmail.letters m hm).mono hcreated) (hl m)
  run := by
    rw [hinst, List.map_append]
    exact hmail.run.append hrun

theorem CoordReady.grow {h h' : Host} (hready : h.CoordReady) (hproc : h'.procs 1 = h.procs 1)
    (hqueue : (h'.queues 1).isSome = (h.queues 1).isSome) : h'.CoordReady where
  running := by rw [hqueue]; exact hready.running
  mbox := by rw [hproc]; exact hready.mbox
  inuse := by rw [hproc]; exact hready.inuse
  mboxId := by rw [hproc]; exact hready.mboxId
  rx := by rw [hproc]; exact hready.rx

/-- **A call of another process** and what it tells the coordinator. -/
theorem Inv.call (hinv : Inv E M P d) (hE : E.kernel = limitKernel M) (hmem : E.qitemMem = true)
    (hM : M ≤ E.malloc.maxMallocsize) (hP : ∀ r, P r) {p : Nat} (hp : p ≠ 1)
    (hconn : d.inst.Connected p) {a : ItcEvent} (huser : d.UserMay E.endian p a) (hmay : HostMay d.host (.call p a))
    {t : Traced KernelQueues} {new : Nat → List UserMessage}
    (hstep : Traced.Step E ((d.host.procs p).onHost d.host.queues) a t)
    (hnew : t.s.kernel = d.host.queues.post E.endian new)
    (hqueued : ∀ i, d.host.queues i = none → new i = []) :
    Inv E M P { d with host := d.host.afterCall p a t new } := by
  have hrunning := hmay.1
  have hhost := hinv.host p hrunning
  have hok := hinv.procs p hp hrunning
  have hself : (d.host.afterCall p a t new).procs p = t := Function.update_self ..
  have hothers : ∀ p', p' ≠ p → (d.host.afterCall p a t new).procs p' = d.host.procs p' :=
    fun p' hp' => Function.update_of_ne hp' _ _
  have hqueues : (d.host.afterCall p a t new).queues = d.host.queues.post E.endian new := hnew
  obtain ⟨q, hs, -⟩ := hhost.onHost d.host.queues
  have htells : TellsCoord ((d.host.procs p).onHost d.host.queues).s := by
    refine ⟨hhost.contacts, hok.coord, hinv.ready.running, ?_⟩
    rw [show procOf ((d.host.procs p).onHost d.host.queues).s.myMboxIdInItccoord = p from hhost.my]
    exact hp
  have hthreads : ((d.host.procs p).onHost d.host.queues).s.ThreadsInUse := hok.threads
  have hown : UsesOwn ((d.host.procs p).onHost d.host.queues).s a := hmay.2.1
  obtain ⟨new', hposted, htold⟩ :=
    hstep.1.tells hE hmem hs htells hthreads hown (hhost.knowsOwn hp hmay)
  obtain rfl : new' = new :=
    KernelQueues.post_inj (hposted.kernel.symm.trans hnew) hposted.queued hqueued
  have htold : Told P E d { d with host := d.host.afterCall p a t new' } p (new' 1) :=
    hinv.told hp hconn hrunning hP huser hstep.2 htold
  have hcreated : ∀ p', (d.host.procs p').log.created ⊆
      ((d.host.afterCall p a t new').procs p').log.created := by
    intro p'
    by_cases hpp : p' = p
    · rw [hpp, hself, hstep.2]
      exact Log.created_subset _ _
    · rw [hothers p' hpp]
      exact List.Subset.refl _
  refine ⟨hinv.host.step hE hmem hM hmay (.call hstep hnew hqueued), ?_,
    by rw [hothers 1 hp.symm]; exact hinv.counted, hinv.inst, ?_, ?_, htold.names, ?_⟩
  · refine CoordReady.grow hinv.ready (hothers 1 hp.symm) ?_
    rw [hqueues, KernelQueues.post_isSome]
  · intro p' hp' hrunning'
    rw [hqueues, KernelQueues.post_isSome] at hrunning'
    by_cases hpp : p' = p
    · rw [hpp]
      refine ⟨hok.small, ?_, ?_⟩
      · rw [hself, hposted.coord]
        exact hok.coord
      · rw [hself]
        exact hstep.1.threadsInUse hs hthreads hown
    · obtain ⟨hsmall, hcoord, hthreads'⟩ := hinv.procs p' hp' hrunning'
      exact ⟨hsmall, by rw [hothers p' hpp]; exact hcoord, by rw [hothers p' hpp]; exact hthreads'⟩
  · intro p' hp'
    by_cases hpp : p' = p
    · rw [hpp]
      exact htold.own
    · rw [hothers p' hpp]
      exact hinv.own p' hp'
  · obtain ⟨ms, hmail⟩ := hinv.mail
    exact ⟨ms ++ new' 1, hmail.grow (hothers 1 hp.symm) (congrFun hqueues 1) rfl hcreated
      htold.letters htold.run⟩

/-! ## The coordinator's process -/

/-- What the coordinator's threads do to their process. -/
theorem CoordReady.own {h h' : Host} (hready : h.CoordReady)
    (hslots : SameSlots (h.procs 1).s (h'.procs 1).s)
    (hqueue : (h'.queues 1).isSome = (h.queues 1).isSome) : h'.CoordReady where
  running := by rw [hqueue]; exact hready.running
  mbox := by rw [hslots.thread]; exact hready.mbox
  inuse := by rw [hslots.mboxState]; exact hready.inuse
  mboxId := by rw [hslots.mboxId]; exact hready.mboxId
  rx := by rw [hslots.thread]; exact hready.rx

/-- Nothing happens to the other processes. -/
theorem Inv.others (hinv : Inv E M P d) {h' : Host} {inst' : ItccoordInst} {main' : MainPoint}
    (hhost : h'.Inv E M)
    (hready : h'.CoordReady) (hcounted : Counted (h'.procs 1))
    (hprocs : ∀ p, p ≠ 1 → h'.procs p = d.host.procs p)
    (hqueues : ∀ p, (h'.queues p).isSome = (d.host.queues p).isSome) (hinst : inst'.Inv)
    (hconn : ∀ p, inst'.Connected p ↔ d.inst.Connected p) {ms : List UserMessage}
    (hmail : h'.CoordMail E.endian ms) (hletters : ∀ m ∈ ms, ForCoord P E.endian h' m)
    (hrun : Run (Registers inst'.Connected) inst'.registry (ms.map fun m => request E.endian m.msg)
      d.inUse) : Inv E M P ⟨h', inst', main'⟩ := by
  have hall : (⟨h', inst', main'⟩ : Directory).inUse = d.inUse :=
    inUse_same hconn fun p hp => congrArg (fun t : Traced KernelQueues => t.s.inUse) (hprocs p hp)
  refine ⟨hhost, hready, hcounted, hinst, ?_, ?_, ?_, ms, hmail, hletters, ?_⟩
  · intro p hp hrunning
    rw [show (h'.queues p).isSome = _ from hqueues p] at hrunning
    obtain ⟨hsmall, hcoord, hthreads⟩ := hinv.procs p hp hrunning
    have hproc := hprocs p hp
    exact ⟨hsmall, by rw [hproc]; exact hcoord, by rw [hproc]; exact hthreads⟩
  · intro p hp
    rw [show (⟨h', inst', main'⟩ : Directory).host.procs p = _ from hprocs p hp]
    exact hinv.own p hp
  · rw [hall]
    exact hinv.names
  · rw [hall]
    exact hrun

/-- A step of the coordinator's process is one call that puts nothing into its own queue. -/
theorem Inv.ownCall (hinv : Inv E M P d) (hE : E.kernel = limitKernel M) (hmem : E.qitemMem = true)
    (hM : M ≤ E.malloc.maxMallocsize) {a : ItcEvent} (hmay : HostMay d.host (.call 1 a))
    {t : Traced KernelQueues} {new new' : Nat → List UserMessage}
    (hstep : Traced.Step E ((d.host.procs 1).onHost d.host.queues) a t)
    (hnew : t.s.kernel = d.host.queues.post E.endian new)
    (hqueued : ∀ i, d.host.queues i = none → new i = [])
    (hposted : Posted E.endian ((d.host.procs 1).onHost d.host.queues).s t.s new')
    (hnone : new' 1 = []) (hto : ∀ id, a.SendsTo id → procOf id ≠ 1)
    (hslots : SameSlots (d.host.procs 1).s t.s) {inst' : ItccoordInst} {main' : MainPoint}
    (hinst : inst'.Inv) (hconn : ∀ p, inst'.Connected p ↔ d.inst.Connected p)
    {l : List Nat} {ls ts ms : List UserMessage} (hrx : t.s.RxMessages coordMbox l)
    (hcells : l.map t.s.heap.cells = ls.map fun m => some m.queued)
    (hts : d.host.queues 1 = some (ts.map fun m => m.msg.image E.endian)) (hms : ms = ls ++ ts)
    (hletters : ∀ m ∈ ms, ForCoord P E.endian d.host m)
    (hrun : Run (Registers inst'.Connected) inst'.registry (ms.map fun m => request E.endian m.msg)
      d.inUse) :
    Inv E M P ⟨d.host.afterCall 1 a t new, inst', main'⟩ := by
  obtain rfl : new' = new :=
    KernelQueues.post_inj (hposted.kernel.symm.trans hnew) hposted.queued hqueued
  have hself : (d.host.afterCall 1 a t new').procs 1 = t := rfl
  have hothers : ∀ p, p ≠ 1 → (d.host.afterCall 1 a t new').procs p = d.host.procs p :=
    fun p hp => Function.update_of_ne hp _ _
  have hqueues : (d.host.afterCall 1 a t new').queues = d.host.queues.post E.endian new' := hnew
  have hisSome : ∀ p, ((d.host.afterCall 1 a t new').queues p).isSome =
      (d.host.queues p).isSome := by
    intro p
    rw [hqueues, KernelQueues.post_isSome]
  have hhost := hinv.host 1 hmay.1
  have hcounted : Counted ((d.host.afterCall 1 a t new').procs 1) := by
    obtain ⟨hcreated, q, haccounted⟩ := hinv.counted
    have hthere : AccountedBy ((d.host.procs 1).onHost d.host.queues).s q (d.host.procs 1).log :=
      haccounted.setSysvmq haccounted.inv.layout.sysvmqInst fun _ _ _ _ _ => rfl
    have hown : UsesOwn ((d.host.procs 1).onHost d.host.queues).s a := hmay.2.1
    obtain ⟨q', hq'⟩ := hthere.call hmem hown
      (fun id hid hproc => absurd (hproc.trans hhost.my) (hto id hid)) hstep.1
    have hlog : t.log = (d.host.procs 1).log.record a := hstep.2
    rw [← hlog] at hq'
    rw [hself]
    exact ⟨by rw [hlog]; exact Log.created_subset _ _ hcreated, q', hq'⟩
  refine hinv.others (hinv.host.step hE hmem hM hmay (.call hstep hnew hqueued)) ?_ hcounted hothers
    hisSome hinst hconn ⟨l, ls, ts, ?_, ?_, ?_, hms⟩ (fun m hm => ?_) hrun
  · exact CoordReady.own hinv.ready (by rw [hself]; exact hslots) (hisSome 1)
  · show ((d.host.afterCall 1 a t new').procs 1).s.RxMessages coordMbox l
    rw [hself]
    exact hrx
  · show l.map ((d.host.afterCall 1 a t new').procs 1).s.heap.cells = _
    rw [hself]
    exact hcells
  · show (d.host.afterCall 1 a t new').queues 1 = _
    rw [hqueues, KernelQueues.post, hnone, hts, Option.map_some, List.map_nil, List.append_nil]
  · refine (hletters m hm).mono fun p => ?_
    by_cases hp : p = 1
    · rw [hp, hself, hstep.2]
      exact Log.created_subset _ _
    · rw [hothers p hp]
      exact List.Subset.refl _

/-- **What `main` does between two messages.** -/
theorem Inv.coordinator (hinv : Inv E M P d) (hE : E.kernel = limitKernel M)
    (hmem : E.qitemMem = true) (hM : M ≤ E.malloc.maxMallocsize) {a : ItcEvent}
    (hcoord : CoordMay a) (hmay : HostMay d.host (.call 1 a)) {t : Traced KernelQueues}
    {new : Nat → List UserMessage}
    (hstep : Traced.Step E ((d.host.procs 1).onHost d.host.queues) a t)
    (hnew : t.s.kernel = d.host.queues.post E.endian new)
    (hqueued : ∀ i, d.host.queues i = none → new i = []) :
    Inv E M P { d with host := d.host.afterCall 1 a t new } := by
  have hhost := hinv.host 1 hmay.1
  obtain ⟨q, hs, -⟩ := hhost.onHost d.host.queues
  have hown : UsesOwn ((d.host.procs 1).onHost d.host.queues).s a := hmay.2.1
  obtain ⟨new', hposted, hnone, hqueues, hslots⟩ :=
    hstep.1.coordinator hE hs hhost.contacts hhost.my hown hcoord
  obtain ⟨ms, ⟨l, ls, ts, hrx, hcells, hts, hms⟩, hletters, hrun⟩ := hinv.mail
  have hq : q coordMbox = some l := (RxMessages.iff hs coordMbox l).mp hrx
  have hto : ∀ id, a.SendsTo id → procOf id ≠ 1 := by
    intro id hid
    cases a with
    | send tid msg toMbox fromMbox ret =>
      obtain rfl : toMbox = id := hid
      exact hcoord
    | _ => exact hid.elim
  refine hinv.ownCall hE hmem hM hmay hstep hnew hqueued hposted hnone hto
    ((SameSlots.setSysvmq _ _ _ _).trans hslots) hinv.inst (fun _ => Iff.rfl)
    ((RxMessages.iff hqueues.inv coordMbox l).mpr hq) ?_ hts hms hletters hrun
  rw [← hcells]
  exact List.map_congr_left fun p hp => hqueues.kept coordMbox l hq p hp

/-- `main` may receive. -/
theorem Inv.mayReceive (hinv : Inv E M P d) {ret : Option Delivery} :
    HostMay d.host (.call 1 (.receive coordTid coordMboxId ret)) := by
  refine ⟨hinv.ready.running, trivial, fun _ hid => hid.elim, ?_⟩
  rw [if_neg hinv.ready.rx]
  intro htid
  cases htid

/-- **A message that `main` receives** is the first of its mail: the registry has to follow it. -/
theorem Inv.receive (hinv : Inv E M P d) (hE : E.kernel = limitKernel M)
    (hmem : E.qitemMem = true) (hM : M ≤ E.malloc.maxMallocsize) {h' : Host} {p : Nat}
    {m : ItcMessage}
    (hreceive : HostStep E M d.host
      (.call 1 (.receive coordTid coordMboxId (some (p, some m)))) h') :
    ∃ S₁, Registers d.inst.Connected d.inst.registry (request E.endian m) S₁ ∧
      (∀ mboxId, (request E.endian m).notifies = some mboxId →
        procOf mboxId ≠ MAX_SUPPORTED_PROCESSES) ∧
      ∀ inst' main', inst'.Inv → d.inst.SlotsKept inst' → inst'.registry = S₁ →
        Inv E M P ⟨h', inst', main'⟩ := by
  cases hreceive with
  | @call _ _ t new hstep hnew hqueued =>
    have hhost := hinv.host 1 hinv.ready.running
    obtain ⟨q, hs, -⟩ := hhost.onHost d.host.queues
    obtain ⟨ms, ⟨l, ls, ts, hrx, hcells, hts, rfl⟩, hletters, hrun⟩ := hinv.mail
    have hq : q coordMbox = some l := (RxMessages.iff hs coordMbox l).mp hrx
    have hmbox : ((d.host.procs 1).onHost d.host.queues).s.myThreadlocalMbox coordTid =
        some coordMbox := hinv.ready.mbox
    obtain ⟨hcall, hsame⟩ := hstep.1.received
    have hslots := itcReceive_sameSlots hcall
    have hsysvmq : SameSysvmq ((d.host.procs 1).onHost d.host.queues).s t.s := by
      rcases itcReceive_changes hcall with heq | ⟨_, _, _, _, _, _, -, heq⟩
      · rw [heq]
        exact .refl _
      · rw [heq]
        exact ⟨rfl, rfl, rfl⟩
    obtain ⟨u, rest, q', rfl, rfl, hu, hs', hq', hkept⟩ :=
      itcReceive_first_of_some hs hmbox hq hcall hsame
    obtain ⟨u', ls', rfl⟩ : ∃ u' ls', ls = u' :: ls' := by
      cases ls with
      | nil => cases hcells
      | cons u' ls' => exact ⟨u', ls', rfl⟩
    rw [List.map_cons, List.map_cons, List.cons.injEq] at hcells
    have hmsg : u'.msg = u.msg :=
      UserMessage.queued_inj (Option.some.inj (hcells.1.symm.trans hu))
    rw [List.cons_append, List.forall_mem_cons] at hletters
    rw [List.cons_append, List.map_cons] at hrun
    rw [hmsg] at hrun
    obtain ⟨S₁, hreg, hrest⟩ : ∃ S₁, Registers d.inst.Connected d.inst.registry
        (request E.endian u.msg) S₁ ∧
        Run (Registers d.inst.Connected) S₁ ((ls' ++ ts).map fun m => request E.endian m.msg)
          d.inUse := by
      cases hrun with
      | cons head tail => exact ⟨_, head, tail⟩
    refine ⟨S₁, hreg, fun mboxId hid => ?_, ?_⟩
    · rw [← hmsg] at hid
      exact Nat.ne_of_lt (hletters.1.created mboxId hid).2
    · rintro inst' main' hinst hslotsKept rfl
      have hconn : d.inst.Connected = inst'.Connected :=
        funext fun i => propext (hslotsKept.connected i).symm
      rw [hconn] at hrest
      exact hinv.ownCall hE hmem hM hinv.mayReceive hstep hnew hqueued
        (.nothing hhost.contacts hsysvmq) rfl (fun _ hid => hid.elim)
        ((SameSlots.setSysvmq _ _ _ _).trans hslots) hinst hslotsKept.connected
        ((RxMessages.iff hs' coordMbox rest).mpr hq')
        ((List.map_congr_left hkept).trans hcells.2) hts rfl hletters.2 hrest

/-- **`main` serves a message**, and the registry follows it. -/
theorem Inv.serve (hinv : Inv E M P d) (hE : E.kernel = limitKernel M) (hmem : E.qitemMem = true)
    (hM : M ≤ E.malloc.maxMallocsize) {h' : Host} {p : Nat} {m : ItcMessage} {r : Request}
    {inst' : ItccoordInst} {main' : MainPoint}
    (hreceive : HostStep E M d.host
      (.call 1 (.receive coordTid coordMboxId (some (p, some m)))) h')
    (hrequest : readRequest E.endian m = .ok r)
    (hhandle : handleNotification impl d.inst r = .ok inst') :
    Inv E M P ⟨h', inst', main'⟩ := by
  have hr : request E.endian m = r := by
    rw [request, hrequest]
    rfl
  obtain ⟨S₁, hreg, hidx, hafter⟩ := hinv.receive hE hmem hM hreceive
  rw [hr] at hreg hidx
  obtain ⟨s', hcall, hinst, hkept, hregistry⟩ :=
    handleNotification_registers hinv.inst impl hidx hreg
  obtain rfl := Except.ok.inj (hcall.symm.trans hhandle)
  exact hafter s' main' hinst hkept hregistry

/-- **`main` takes a message for the answer of the gateway**: it loses no notification if it is
none. -/
theorem Inv.takeReply (hinv : Inv E M P d) (hE : E.kernel = limitKernel M)
    (hmem : E.qitemMem = true) (hM : M ≤ E.malloc.maxMallocsize) {h' : Host} {p : Nat}
    {m : ItcMessage}
    (hreceive : HostStep E M d.host
      (.call 1 (.receive coordTid coordMboxId (some (p, some m)))) h')
    (hnone : (request E.endian m).notifies = none) : Inv E M P ⟨h', d.inst, .idle⟩ := by
  obtain ⟨S₁, hreg, -, hafter⟩ := hinv.receive hE hmem hM hreceive
  exact hafter d.inst .idle hinv.inst (.refl d.inst) (hreg.eq_of_notifies_none hnone).symm

/-! ## The rx threads -/

theorem itcSend_coord {s : ItcInstance KernelQueues} {fuel tid : Nat} {msg : Option Nat}
    {toMbox fromMbox : MboxId} {r : SendResult KernelQueues}
    (hsend : itcSend E fuel s tid msg toMbox fromMbox = .ok (some r)) :
    r.s.itccoordMboxId = s.itccoordMboxId := by
  rcases itcSend_changes hsend with h | ⟨heap, -, h | ⟨p, taken, s₁, htrans, h⟩⟩
  · rw [h]
  · rw [h]
    rfl
  · have hs₁ : s₁.itccoordMboxId = s.itccoordMboxId := by
      obtain ⟨rc, inst, heap', -, h₁ | ⟨_, _, _, -, h₁⟩⟩ := transSend_changes htrans
      · rw [h₁]
        rfl
      · rw [h₁]
        rfl
    rcases h with h | h
    · rw [h, hs₁]
    · rw [h, (notifyReceiver_same s₁ _).coord, hs₁]

/-- What a pass of the rx thread of another process leaves alone. -/
theorem Inv.otherRx (hinv : Inv E M P d) {p : Nat} (hp : p ≠ 1) {h' : Host} (hhost : h'.Inv E M)
    (hothers : ∀ p', p' ≠ p → h'.procs p' = d.host.procs p')
    (hslots : SameSlots (d.host.procs p).s (h'.procs p).s)
    (hcoord : (h'.procs p).s.itccoordMboxId = (d.host.procs p).s.itccoordMboxId)
    (hcreated : (d.host.procs p).log.created ⊆ (h'.procs p).log.created)
    (hqueue : h'.queues 1 = d.host.queues 1)
    (hqueues : ∀ p', (h'.queues p').isSome = (d.host.queues p').isSome) :
    Inv E M P { d with host := h' } := by
  have hsame : ∀ p', (h'.procs p').s.inUse = (d.host.procs p').s.inUse := by
    intro p'
    by_cases hpp : p' = p
    · rw [hpp]
      exact hslots.inUse
    · rw [hothers p' hpp]
  have hgrown : ∀ p', (d.host.procs p').log.created ⊆ (h'.procs p').log.created := by
    intro p'
    by_cases hpp : p' = p
    · rw [hpp]
      exact hcreated
    · rw [hothers p' hpp]
      exact List.Subset.refl _
  have hall : ({ d with host := h' } : Directory).inUse = d.inUse :=
    inUse_same (fun _ => Iff.rfl) fun p' _ => hsame p'
  refine ⟨hhost, CoordReady.grow hinv.ready (hothers 1 hp.symm) (hqueues 1),
    by rw [hothers 1 hp.symm]; exact hinv.counted, hinv.inst, ?_, ?_, ?_, ?_⟩
  · intro p' hp' hrunning
    rw [show ({ d with host := h' } : Directory).host.queues p' = h'.queues p' from rfl,
      hqueues p'] at hrunning
    obtain ⟨hsmall, hcoord', hthreads⟩ := hinv.procs p' hp' hrunning
    by_cases hpp : p' = p
    · subst hpp
      exact ⟨hsmall, hcoord.trans hcoord', hslots.threadsInUse hthreads⟩
    · exact ⟨hsmall, by rw [hothers p' hpp]; exact hcoord', by rw [hothers p' hpp]; exact hthreads⟩
  · intro p' hp' info hinfo
    rw [show ({ d with host := h' } : Directory).host.procs p' = h'.procs p' from rfl, hsame p']
      at hinfo
    exact (hinv.own p' hp' info hinfo).imp_right fun h => hgrown p' h
  · rw [hall]
    exact hinv.names
  · obtain ⟨ms, hmail⟩ := hinv.mail
    refine ⟨ms ++ [], hmail.grow (hothers 1 hp.symm) ?_ rfl hgrown
      (fun _ hm => absurd hm List.not_mem_nil) ?_⟩
    · show h'.queues 1 = _
      rw [hqueue]
      cases d.host.queues 1 with
      | none => rfl
      | some ts => exact congrArg some (List.append_nil ts).symm
    · rw [hall]
      exact .nil _

/-- **A pass of the rx thread of another process.** -/
theorem Inv.rxOther (hinv : Inv E M P d) (hE : E.kernel = limitKernel M) (hmem : E.qitemMem = true)
    (hM : M ≤ E.malloc.maxMallocsize) {p : Nat} (hp : p ≠ 1) {h' : Host}
    (hstep : HostStep E M d.host (.rx p) h') : Inv E M P { d with host := h' } := by
  have hmay : HostMay d.host (.rx p) := trivial
  have hhost : h'.Inv E M := hinv.host.step hE hmem hM hmay hstep
  cases hstep with
  | @skip _ t ts rx hready hqueue hrx =>
    exact hinv.otherRx hp hhost (fun _ _ => rfl) (.refl _) rfl (List.Subset.refl _)
      (Function.update_of_ne hp.symm _ _) (Host.received_isSome hqueue)
  | @relay _ fuel msg t ts rx message r new hready hqueue hrx hsend hnew hqueued =>
    have hok := hinv.host p (by rw [hqueue]; rfl)
    obtain ⟨-, hothers⟩ := hok.relay hE hmem hM hready hqueue hrx hsend hnew hqueued
    obtain ⟨r', hcall, hsend'⟩ := bind_some_eq_ok hsend rfl
    cases hsend'
    have hself : ((d.host.received M p t ts rx).relayed p
        ((d.host.procs p).onHost (d.host.received M p t ts rx).queues).s.heap.next message r
        new).procs p = ⟨r.s, (d.host.procs p).log.record (.send sysvmqRxTid
          (some (r.s.delivery ((d.host.procs p).onHost
            (d.host.received M p t ts rx).queues).s.heap.next)) message.receiver ITC_MY_MBOX_ID
          r.ret)⟩ := Function.update_self ..
    have hqueues : ((d.host.received M p t ts rx).relayed p
        ((d.host.procs p).onHost (d.host.received M p t ts rx).queues).s.heap.next message r
        new).queues = (d.host.received M p t ts rx).queues.post E.endian new := hnew
    refine hinv.otherRx hp hhost (fun p' hp' => Function.update_of_ne hp' _ _) ?_ ?_ ?_ ?_ ?_
    · rw [hself]
      exact (SameSlots.setSysvmq _ _ _ _).trans
        ((SameSlots.setHeap _ _).trans (itcSend_sameSlots hcall))
    · have hcoord := itcSend_coord hcall
      rw [hself]
      exact hcoord
    · rw [hself]
      exact Log.created_subset _ _
    · rw [hqueues, KernelQueues.post, hothers 1 hp.symm,
        show (d.host.received M p t ts rx).queues 1 = _ from Function.update_of_ne hp.symm _ _]
      cases d.host.queues 1 with
      | none => rfl
      | some ts => exact congrArg some (List.append_nil ts)
    · intro p'
      rw [hqueues, KernelQueues.post_isSome]
      exact Host.received_isSome hqueue p'

/-- The texts in the queue of the coordinator are those of its mail. -/
theorem Inv.transit_eq (hinv : Inv E M P d) {ts : List UserMessage}
    (hts : d.host.queues 1 = some (ts.map fun m => m.msg.image E.endian)) :
    d.host.inTransit 1 = ts := by
  have htransit := (hinv.host 1 hinv.ready.running).transit
  rw [hts, Option.some.injEq] at htransit
  have hinj : Function.Injective fun m : UserMessage => m.msg.image E.endian :=
    fun _ _ heq => UserMessage.image_inj heq
  exact (List.map_injective_iff.mpr hinj htransit).symm

/-- **A pass of the rx thread of the coordinator** moves the first text to the rx queue, or cannot
receive it. -/
theorem Inv.rxCoord (hinv : Inv E M P d) (hE : E.kernel = limitKernel M) (hmem : E.qitemMem = true)
    (hM : M ≤ E.malloc.maxMallocsize) {h' : Host} (hstep : HostStep E M d.host (.rx 1) h') :
    Inv E M P { d with host := h' } := by
  have hmay : HostMay d.host (.rx 1) := trivial
  have hhost : h'.Inv E M := hinv.host.step hE hmem hM hmay hstep
  obtain ⟨ms, ⟨l, ls, us, hrxq, hcells, hus, rfl⟩, hletters, hrun⟩ := hinv.mail
  have hok := hinv.host 1 hinv.ready.running
  have hin := hinv.transit_eq hus
  cases hstep with
  | @skip _ t ts rx hready hqueue hrx =>
    obtain ⟨m, rest, hm, hts, hpass⟩ := hok.pass hM hqueue
    rw [hin] at hm
    subst hm
    have hqueue' : (d.host.received M 1 t ts rx).queues 1 = some (limitMsgrcv (M - 8) t ts).2 := rfl
    by_cases hfit : FitsRxBuffer M m
    · -- it is long enough, and would have been passed on
      rw [if_pos hfit] at hpass
      obtain ⟨hrcv, rx', hrx', -⟩ := hpass
      have hpasses : PassesMinLength m :=
        (hletters m (List.mem_append_right _ List.mem_cons_self)).request.passes
      rw [hrcv, hrx', if_pos hpasses] at hrx
      cases hrx
    · rw [if_neg hfit] at hpass
      rw [hpass, ← hqueue, hus] at hqueue'
      exact hinv.others hhost
        (CoordReady.own hinv.ready (.refl _) (Host.received_isSome hqueue 1)) hinv.counted
        (fun _ _ => rfl) (Host.received_isSome hqueue) hinv.inst (fun _ => Iff.rfl)
        ⟨l, ls, m :: rest, hrxq, hcells, hqueue', rfl⟩
        (fun m hm => (hletters m hm).mono fun _ => List.Subset.refl _) hrun
  | @relay _ fuel msg t ts rx message r new hready hqueue hrx hsend hnew hqueued =>
    obtain ⟨m, rest, hm, hts, rfl, -, hrcv, -⟩ := hok.pass_some hM hqueue hrx
    rw [hin] at hm
    subst hm
    have hk : (d.host.received M 1 t ts rx).queues 1 =
        some (rest.map fun m => m.msg.image E.endian) := by
      rw [← hts, show (d.host.received M 1 t ts rx).queues 1 =
        some (limitMsgrcv (M - 8) t ts).2 from rfl, hrcv]
    obtain ⟨r', hcall, hsend'⟩ := bind_some_eq_ok hsend rfl
    cases hsend'
    have hothers : ∀ p, p ≠ 1 → ((d.host.received M 1 t ts rx).relayed 1
        ((d.host.procs 1).onHost (d.host.received M 1 t ts rx).queues).s.heap.next m.msg r
        new).procs p = d.host.procs p := fun p hp => Function.update_of_ne hp _ _
    generalize hkq : (d.host.received M 1 t ts rx).queues = k at hsend hcall hnew hk hothers ⊢
    have hkisSome : ∀ p, (k p).isSome = (d.host.queues p).isSome := by
      rw [← hkq]
      exact Host.received_isSome hqueue
    obtain ⟨q, hs, -⟩ := hok.onHost k
    have hcontacts : ContactOk k ((d.host.procs 1).onHost k).s.sysvmqInst :=
      hok.contacts.mono fun p hp => by rw [hkisSome p]; exact hp
    obtain ⟨me, hme⟩ := Option.ne_none_iff_exists'.mp hready
    have hne : me ≠ coordMbox := by
      rintro rfl
      exact absurd (hs.slots.threadInj sysvmqRxTid coordTid coordMbox hme hinv.ready.mbox)
        (by decide)
    have hq : q coordMbox = some l := (RxMessages.iff hs coordMbox l).mp hrxq
    have hto : m.msg.receiver = (((d.host.procs 1).onHost k).s.mboxes coordMbox).mboxId :=
      (hletters m (List.mem_append_right _ List.mem_cons_self)).receiver.trans
        hinv.ready.mboxId.symm
    obtain ⟨q', hs', hq', hcell, hkept⟩ := relay_queued (s := ((d.host.procs 1).onHost k).s) hmem hs
      hme hne hinv.ready.inuse hq hto hcall
    have hposted : Posted E.endian ((d.host.procs 1).onHost k).s r.s toNobody := by
      have halloc : (((d.host.procs 1).onHost k).s.alloc m.msg).2.Inv q :=
        hs.ofHeap (hs.messages.alloc m.msg) hs.layout.sysvmqInst
      have hi := (hs.slots.queue coordMbox (by rw [hq]; exact Option.some_ne_none l)).1
      rw [hto] at hcall
      exact (itcSend_posts_own (s := (((d.host.procs 1).onHost k).s.alloc m.msg).2) hmem halloc
        hcontacts hi (Heap.push_next _ m.msg) hcall).congr ⟨rfl, rfl, rfl⟩ (.refl _)
    have hnone : ∀ i, k i = none → new i = [] := by
      intro i hi
      refine hqueued i (Option.not_isSome_iff_eq_none.mp ?_)
      rw [← hkisSome i, hi]
      exact Bool.false_ne_true
    obtain rfl : toNobody = new :=
      KernelQueues.post_inj (hposted.kernel.symm.trans hnew) hposted.queued hnone
    have hkernel : r.s.kernel = k := by rw [hnew, KernelQueues.post_toNobody]
    have hslots : SameSlots (d.host.procs 1).s r.s := (SameSlots.setSysvmq _ _ k _).trans
      ((SameSlots.setHeap _ _).trans (itcSend_sameSlots hcall))
    have hisSome : ∀ p, (r.s.kernel p).isSome = (d.host.queues p).isSome := by
      rw [hkernel]
      exact hkisSome
    let m' := m.stamp (((d.host.procs 1).onHost k).s.myMboxId sysvmqRxTid)
      (((d.host.procs 1).onHost k).s.mboxes coordMbox).mboxId
    have hcounted : Counted ⟨r.s, (d.host.procs 1).log.record (.send sysvmqRxTid
        (some (r.s.delivery ((d.host.procs 1).onHost k).s.heap.next)) m.msg.receiver ITC_MY_MBOX_ID
        r.ret)⟩ := by
      obtain ⟨hcreated, q₁, haccounted⟩ := hinv.counted
      have hthere : AccountedBy ((d.host.procs 1).onHost k).s q₁ (d.host.procs 1).log :=
        haccounted.setSysvmq haccounted.inv.layout.sysvmqInst fun _ _ _ _ _ => rfl
      have hknown : m.msg.receiver ∈ (d.host.procs 1).log.created := by
        rw [hto, show (((d.host.procs 1).onHost k).s.mboxes coordMbox).mboxId = _ from
          hinv.ready.mboxId]
        exact hcreated
      obtain ⟨hafter, -⟩ := Host.ProcessOk.relay_accounts hthere hmem hready hknown hcall
      exact ⟨Log.created_subset _ _ hcreated, hafter⟩
    refine hinv.others hhost (CoordReady.own hinv.ready hslots (hisSome 1)) hcounted hothers hisSome
      hinv.inst (fun _ => Iff.rfl) ⟨l ++ [((d.host.procs 1).onHost k).s.heap.next], ls ++ [m'], rest,
        (RxMessages.iff hs' coordMbox _).mpr hq', ?_, ?_, rfl⟩ ?_ ?_
    · show List.map r.s.heap.cells _ = _
      rw [List.map_append, List.map_append, List.map_singleton, List.map_singleton, hcell,
        ← hcells]
      exact congrArg (· ++ _) (List.map_congr_left hkept)
    · show r.s.kernel 1 = _
      rw [hkernel, hk]
    · have hm' : ForCoord P E.endian d.host m' :=
        (hletters m (List.mem_append_right _ List.mem_cons_self)).stamp _ hto
      intro u hu
      have hold : ForCoord P E.endian d.host u := by
        rw [List.append_assoc, List.mem_append, List.singleton_append, List.mem_cons] at hu
        rcases hu with hu | rfl | hu
        · exact hletters u (List.mem_append_left _ hu)
        · exact hm'
        · exact hletters u (List.mem_append_right _ (List.mem_cons_of_mem m hu))
      refine hold.mono fun p => ?_
      by_cases hp : p = 1
      · rw [hp]
        exact Log.created_subset _ _
      · rw [hothers p hp]
        exact List.Subset.refl _
    · have hsame : ((ls ++ [m']) ++ rest).map (fun m => request E.endian m.msg) =
          (ls ++ m :: rest).map fun m => request E.endian m.msg := by
        simp only [List.append_assoc, List.map_append, List.singleton_append, List.map_cons]
        rfl
      rw [hsame]
      exact hrun

/-! ## The sockets -/

/-- Nothing happens to the processes. -/
theorem Inv.sockets (hinv : Inv E M P d) {inst' : ItccoordInst} (hinst : inst'.Inv)
    (hnames : ∀ info ∈ (⟨d.host, inst', d.main⟩ : Directory).inUse,
      ∀ info' ∈ (⟨d.host, inst', d.main⟩ : Directory).inUse, info.mboxName = info'.mboxName → info = info')
    {ms : List UserMessage} (hmail : Mail P E.endian ⟨d.host, inst', d.main⟩ ms) :
    Inv E M P ⟨d.host, inst', d.main⟩ :=
  ⟨hinv.host, hinv.ready, hinv.counted, hinst, hinv.procs, hinv.own, hnames, ms, hmail⟩

theorem connected_setState {s : ItccoordInst} {p : Nat} {state : ProcessState} (i : Nat) :
    (s.setState p state).Connected i ↔
      if i = p then state = .connected else s.Connected i := by
  rw [ItccoordInst.Connected, ItccoordInst.setState]
  by_cases hi : i = p
  · rw [if_pos hi, hi, ItccoordInst.setProc_self]
  · rw [if_neg hi, ItccoordInst.setProc_ne _ _ hi]
    rfl

/-- **A process connects**, which has announced no mailbox. -/
theorem Inv.connect (hinv : Inv E M P d) {p : Nat} (hp : p ≠ 1)
    (hfresh : (d.host.procs p).log.created = []) {inst' : ItccoordInst} (hinst : inst'.Inv)
    (hregistry : inst'.registry = d.inst.registry)
    (hconn : ∀ i, inst'.Connected i ↔ d.inst.Connected i ∨ i = p) :
    Inv E M P ⟨d.host, inst', d.main⟩ := by
  have hall : (⟨d.host, inst', d.main⟩ : Directory).inUse = d.inUse := by
    ext info
    rw [mem_inUse, mem_inUse]
    refine exists_congr fun p' => and_congr_right fun hp' => ?_
    rw [show (⟨d.host, inst', d.main⟩ : Directory).inst.Connected p' ↔ _ from hconn p']
    refine and_congr_left fun hinfo => or_iff_left_of_imp ?_
    rintro rfl
    have hcreated := (hinv.own p' hp info hinfo).2
    rw [hfresh] at hcreated
    cases hcreated
  obtain ⟨ms, hmail, hletters, hrun⟩ := hinv.mail
  refine hinv.sockets hinst (by rw [hall]; exact hinv.names) ⟨hmail, hletters, ?_⟩
  rw [hall, show (⟨d.host, inst', d.main⟩ : Directory).inst.registry = d.inst.registry from hregistry]
  refine Registers.run_join hconn hrun fun r hr => ?_
  obtain ⟨m, hm, rfl⟩ := List.mem_map.mp hr
  exact (hletters m hm).notifies_ne hfresh

/-- **A process disconnects**, and its mailboxes and notifications do not count any more. -/
theorem Inv.disconnect (hinv : Inv E M P d) {p : Nat} {inst' : ItccoordInst} (hinst : inst'.Inv)
    (hregistry : inst'.registry = Registers.without p d.inst.registry)
    (hconn : ∀ i, inst'.Connected i ↔ d.inst.Connected i ∧ i ≠ p) :
    Inv E M P ⟨d.host, inst', d.main⟩ := by
  have hall : (⟨d.host, inst', d.main⟩ : Directory).inUse = Registers.without p d.inUse := by
    ext info
    rw [Registers.without, Set.mem_ofPred_eq, mem_inUse, mem_inUse]
    constructor
    · rintro ⟨p', hp', hconn', hinfo⟩
      obtain ⟨hold, hne⟩ := (hconn p').mp hconn'
      refine ⟨⟨p', hp', hold, hinfo⟩, ?_⟩
      rw [(hinv.own p' hp' info hinfo).1]
      exact hne
    · rintro ⟨⟨p', hp', hconn', hinfo⟩, hne⟩
      rw [(hinv.own p' hp' info hinfo).1] at hne
      exact ⟨p', hp', (hconn p').mpr ⟨hconn', hne⟩, hinfo⟩
  obtain ⟨ms, hmail, hletters, hrun⟩ := hinv.mail
  obtain ⟨S', hrun', rfl⟩ := (Registers.leave p hconn).run hregistry hrun
  refine hinv.sockets hinst ?_ ⟨hmail, hletters, ?_⟩
  · rw [hall]
    exact fun info hinfo info' hinfo' => hinv.names info hinfo.1 info' hinfo'.1
  · rw [hall]
    exact hrun'

/-- What `main` does at its sockets. -/
theorem Inv.coordStep (hinv : Inv E M P d) {act : CoordAction} {inst' : ItccoordInst}
    (hmay : DirectoryMay E.endian d (.sockets act)) (hstep : CoordStep impl d.inst act inst') :
    Inv E M P ⟨d.host, inst', d.main⟩ := by
  have hinst : CoordGuard d.inst act → inst'.Inv := fun hguard => hinv.inst.step hguard hstep
  cases hstep with
  | addMbox _ => exact hmay.elim
  | rmvMbox _ => exact hmay.elim
  | @locateCoord p rest hfree =>
    have hidle : ¬ d.inst.Connected p := hinv.inst.idle p (by rw [hfree]; exact List.mem_cons_self)
    have hconn : ∀ i, ({ d.inst with
        freeList := rest, usedList := d.inst.usedList ++ [p] }.setState p .listening).Connected i ↔
        d.inst.Connected i := by
      intro i
      rw [connected_setState]
      by_cases hi : i = p
      · rw [if_pos hi, hi]
        exact iff_of_false (fun h => by cases h) hidle
      · rw [if_neg hi]
        rfl
    refine hinv.others hinv.host hinv.ready hinv.counted (fun _ _ => rfl) (fun _ => rfl)
      (hinst trivial) hconn hinv.mail.choose_spec.mail hinv.mail.choose_spec.letters ?_
    rw [show ItccoordInst.Connected _ = d.inst.Connected from
      funext fun i => propext (hconn i)]
    exact hinv.mail.choose_spec.run
  | @connect p hused hstate =>
    obtain ⟨hp, hfresh, hlist⟩ := hmay
    refine hinv.connect hp hfresh (hinst hlist) rfl fun i => ?_
    rw [connected_setState]
    by_cases hi : i = p
    · rw [if_pos hi]
      exact iff_of_true rfl (.inr hi)
    · rw [if_neg hi]
      exact (or_iff_left hi).symm
  | @disconnect _ p hused hcall =>
    refine hinv.disconnect (hinst hmay) (hinv.inst.disconnect_registry hmay hcall) fun i => ?_
    obtain ⟨list, heap, mboxTree, -, -, rfl⟩ := ItccoordInst.disconnectFromProcess_release hcall
    rw [ItccoordInst.Connected, ItccoordInst.release]
    by_cases hi : i = p
    · rw [hi, ItccoordInst.setProc_self]
      exact iff_of_false (fun h => by cases h) fun h => h.2 rfl
    · rw [ItccoordInst.setProc_ne _ _ hi]
      exact (and_iff_left hi).symm

/-! ## Steps and runs -/

/-- **Every step keeps the invariant.** -/
theorem Inv.step (hinv : Inv E M P d) (hE : E.kernel = limitKernel M) (hmem : E.qitemMem = true)
    (hM : M ≤ E.malloc.maxMallocsize) (hP : ∀ r, P r) {act : DirectoryAction}
    (hmay : DirectoryMay E.endian d act) (hstep : DirectoryStep E M impl d act d') :
    Inv E M P d' := by
  cases hstep with
  | serve _ hreceive hrequest hhandle _ =>
    exact hinv.serve hE hmem hM hreceive hrequest hhandle
  | takeReply _ hreceive => exact hinv.takeReply hE hmem hM hreceive hmay
  | timeout _ _ =>
    exact ⟨hinv.host, hinv.ready, hinv.counted, hinv.inst, hinv.procs, hinv.own, hinv.names,
      hinv.mail.imp fun ms hmail => ⟨hmail.mail, hmail.letters, hmail.run⟩⟩
  | sockets _ hstep => exact hinv.coordStep hmay hstep
  | @host act h' hstep =>
    cases act with
    | rx p =>
      by_cases hp : p = 1
      · subst hp
        exact hinv.rxCoord hE hmem hM hstep
      · exact hinv.rxOther hE hmem hM hp hstep
    | call p a =>
      obtain ⟨hmay, huser⟩ := hmay
      cases hstep with
      | @call _ _ t new hstep hnew hqueued =>
        by_cases hp : p = 1
        · subst hp
          rw [if_pos rfl] at huser
          exact hinv.coordinator hE hmem hM huser hmay hstep hnew hqueued
        · rw [if_neg hp] at huser
          exact hinv.call hE hmem hM hP hp huser.1 huser.2 hmay hstep hnew hqueued

theorem Inv.run {as : List DirectoryAction} (hinv : Inv E M P d) (hE : E.kernel = limitKernel M)
    (hmem : E.qitemMem = true) (hM : M ≤ E.malloc.maxMallocsize) (hP : ∀ r, P r)
    (hrun : Run (Guarded (DirectoryStep E M impl) (DirectoryMay E.endian)) d as d') : Inv E M P d' :=
  hrun.invariant_of_guard (I := Inv E M P)
    (fun _ _ _ hinv hmay hstep => hinv.step hE hmem hM hP hmay hstep) hinv

/-! ## The start -/

/-- The coordinator's process may have created mailboxes, and nothing else has happened. -/
structure Starting (E : ItcEnv KernelQueues) (M : Nat) (nr : Nat → UInt32) (h : Host) : Prop where
  host : h.Inv E M
  others : ∀ p, p ≠ 1 → h.procs p = (Host.init M nr).procs p
  queues : h.queues = (Host.init M nr).queues
  accounted : ∃ q, AccountedBy (h.procs 1).s q (h.procs 1).log

/-- In the process of the coordinator a new mailbox is not announced. -/
theorem itcCreateMailbox_silent {s s' : ItcInstance KernelQueues} {q : Queues} {fuel tid : Nat}
    {name : CString} {flags : UInt32} {ret : MboxId} (h : s.Inv q)
    (hname : name.strlen < ITC_MAX_NAME_LENGTH)
    (hcoord : procOf s.itccoordMboxId = procOf s.myMboxIdInItccoord)
    (hcall : itcCreateMailbox E fuel s tid name flags = .ok (some (ret, s'))) :
    SameSysvmq s s' := by
  rcases itcCreateMailbox_notifies h hname hcall with
    rfl | ⟨q₁, i, s₁, hinv, hsame, hmy, -, -, hnotify⟩
  · exact .refl _
  · have hown : s₁.myMboxIdInItccoord = s₁.itccoordMboxId &&& s₁.itccoordMask := by
      rw [hinv.layout.mask, hsame.coord, hmy]
      exact ((and_coordMask_eq_iff h.layout.my _).mpr hcoord).symm
    rw [notifyCoord, if_pos hown] at hnotify
    cases hnotify
    exact hsame

/-- What a mailbox that is created in the process of the coordinator leaves. -/
theorem Starting.create {nr : Nat → UInt32} {h h' : Host} (hstart : Starting E M nr h)
    (hE : E.kernel = limitKernel M) (hmem : E.qitemMem = true) (hM : M ≤ E.malloc.maxMallocsize)
    {tid : Nat} {name : CString} {flags : UInt32} {ret : MboxId} (hret : ret ≠ ITC_NO_MBOX_ID)
    (hstep : Guarded (HostStep E M) HostMay h (.call 1 (.createMailbox tid name flags ret)) h') :
    Starting E M nr h' ∧
      (h'.procs 1).log = (h.procs 1).log.record (.createMailbox tid name flags ret) ∧
      (∀ tid', tid' ≠ tid →
        (h'.procs 1).s.myThreadlocalMbox tid' = (h.procs 1).s.myThreadlocalMbox tid') ∧
      ∃ i q', ((h'.procs 1).s.mboxes i).mboxId = ret ∧ (h'.procs 1).s.Inv q' ∧ q' i = some [] ∧
        ((h'.procs 1).s.mboxes i).mboxState = .inuse ∧
        (h'.procs 1).s.myThreadlocalMbox tid = some i := by
  obtain ⟨hmay, hstep⟩ := hstep
  have hhost := hstart.host.step hE hmem hM hmay hstep
  have hok := hstart.host 1 hmay.1
  cases hstep with
  | @call _ _ t new hstep hnew hqueued =>
    obtain ⟨q, hs, -⟩ := hok.onHost h.queues
    have hname : name.strlen < ITC_MAX_NAME_LENGTH := hmay.2.1
    have hown : UsesOwn ((h.procs 1).onHost h.queues).s (.createMailbox tid name flags ret) :=
      hmay.2.1
    obtain ⟨fuel, hcall⟩ := hstep.1.createCall
    have hlog : t.log = (h.procs 1).log.record (.createMailbox tid name flags ret) := hstep.2
    have hsame := itcCreateMailbox_silent hs hname (hok.coord.trans hok.my.symm) hcall
    have hkernel : t.s.kernel = h.queues := hsame.kernel
    have hframe := hstep.1.frame hs hown
    refine ⟨⟨hhost, fun p hp => ?_, ?_, ?_⟩, hlog,
      fun tid' htid => hframe.threads tid' fun heq => htid (Option.some.inj heq).symm,
      ((itcCreateMailbox_returns hs hname fuel tid flags).of_eq hcall).mbox hret⟩
    · exact (Function.update_of_ne hp _ _).trans (hstart.others p hp)
    · exact hkernel.trans hstart.queues
    · obtain ⟨q₀, haccounted⟩ := hstart.accounted
      have hthere : AccountedBy ((h.procs 1).onHost h.queues).s q₀ (h.procs 1).log :=
        haccounted.setSysvmq haccounted.inv.layout.sysvmqInst fun _ _ _ _ _ => rfl
      obtain ⟨q', hq'⟩ := hthere.call hmem hown (fun id hid _ => hid.elim) hstep.1
      rw [← hlog] at hq'
      exact ⟨q', hq'⟩

theorem inUse_init (p : Nat) (nr : UInt32) (k : KernelQueues) :
    (Traced.init p nr M k).s.inUse = ∅ := by
  ext info
  refine iff_of_false ?_ (Set.notMem_empty info)
  rintro ⟨i, -, hstate, -⟩
  cases hstate

/-- **The invariant holds at the start.** -/
theorem Inv.of_started (hE : E.kernel = limitKernel M) (hmem : E.qitemMem = true)
    (hM : M ≤ E.malloc.maxMallocsize) {nr : Nat → UInt32}
    (hnr : ∀ p, nr p ≠ 0 → p < MAX_SUPPORTED_PROCESSES ∧ (nr p).toNat < 2 ^ mboxBits)
    (hstart : Started E M nr d) : Inv E M P d := by
  obtain ⟨⟨rxName, rxFlags, rxId, name, flags, hrxId, hrun⟩, hinst, -⟩ := hstart
  have hcoordId : coordMboxId ≠ ITC_NO_MBOX_ID := by decide
  have hrunning : ((Host.init M nr).queues 1).isSome := by
    cases hrun with
    | cons head tail => exact head.1.1
  have hnr1 : nr 1 ≠ 0 := by
    intro h0
    rw [show (Host.init M nr).queues 1 = none from if_pos h0] at hrunning
    cases hrunning
  have h₀ : Starting E M nr (Host.init M nr) := by
    have hinv := ItcInstance.Inv.init (σ := KernelQueues) 1 hnr1 (hnr 1 hnr1).2 M fun _ => none
    exact ⟨.init hnr, fun _ _ => rfl, rfl, _, hinv, fun _ _ hq => (by cases hq),
      ⟨fun _ _ hq => (by cases hq), fun _ hid => (by cases hid)⟩⟩
  obtain ⟨h₁, hstep₁, hstep₂⟩ : ∃ h₁,
      Guarded (HostStep E M) HostMay (.init M nr)
        (.call 1 (.createMailbox sysvmqRxTid rxName rxFlags rxId)) h₁ ∧
      Guarded (HostStep E M) HostMay h₁ (.call 1 (.createMailbox coordTid name flags coordMboxId))
        d.host := by
    cases hrun with
    | cons head tail =>
      cases tail with
      | cons head' tail' =>
        cases tail'
        exact ⟨_, head, head'⟩
  obtain ⟨hstart₁, -, -, i₁, -, -, -, -, -, hrx⟩ := h₀.create hE hmem hM hrxId hstep₁
  obtain ⟨hstart₂, hlog, hthreads, i, q, hid, hs, hq, hinuse, hmbox⟩ :=
    hstart₁.create hE hmem hM hcoordId hstep₂
  have hi := (hs.slots.queue i (by rw [hq]; exact Option.some_ne_none [])).1
  obtain rfl : i = coordMbox := by
    have hmod := mboxId_mod hs.layout.my (Nat.lt_trans hi hs.layout.nrLt) (Nat.le_refl mboxBits)
      (Nat.lt_trans hi hs.layout.nrLt)
    rw [← hs.layout.ids i hi, hid] at hmod
    exact hmod.symm
  have hqueue : d.host.queues 1 = some [] := by
    rw [hstart₂.queues]
    exact if_neg hnr1
  have hempty : ∀ p, p ≠ 1 → (d.host.procs p).s.inUse = ∅ := by
    intro p hp
    rw [hstart₂.others p hp]
    exact inUse_init p _ _
  have hidle : ∀ p, p ≠ 1 → ¬ d.inst.Connected p := by
    intro p hp hconn
    rw [hinst, ItccoordInst.Connected] at hconn
    simp only [ItccoordInst.init, if_neg hp] at hconn
    split at hconn
    · cases hconn
    · cases hconn
  have hnobody : d.inUse = ∅ := by
    ext info
    refine iff_of_false ?_ (Set.notMem_empty info)
    rintro ⟨p, hp, hconn, -⟩
    exact hidle p hp hconn
  refine ⟨hstart₂.host, ⟨?_, hmbox, hinuse, hid, ?_⟩, ⟨?_, hstart₂.accounted⟩, ?_, ?_, ?_, ?_, [],
    ⟨[], [], [], (RxMessages.iff hs coordMbox []).mpr hq, rfl, hqueue, rfl⟩,
    fun m hm => absurd hm List.not_mem_nil, ?_⟩
  · rw [hqueue]
    rfl
  · rw [hthreads sysvmqRxTid (by decide), hrx]
    exact Option.some_ne_none i₁
  · rw [hlog, Log.record, if_neg hcoordId]
    exact List.mem_cons_self
  · rw [hinst]
    exact .init
  · intro p hp hrunning'
    rw [hstart₂.queues] at hrunning'
    have hp0 : nr p ≠ 0 := by
      intro h0
      rw [show (Host.init M nr).queues p = none from if_pos h0] at hrunning'
      cases hrunning'
    refine ⟨(hnr p hp0).1, ?_, ?_⟩
    · rw [hstart₂.others p hp]
      rfl
    · rw [hstart₂.others p hp]
      intro tid me ht
      cases ht
  · intro p hp info hinfo
    rw [hempty p hp] at hinfo
    exact hinfo.elim
  · rw [hnobody]
    exact fun info hinfo => hinfo.elim
  · have hregistry : d.inst.registry = ∅ := by
      rw [hinst]
      ext info
      refine iff_of_false ?_ (Set.notMem_empty info)
      intro hmem
      cases hmem
    rw [hnobody, hregistry]
    exact .nil _

end Directory

end ItcFramework
