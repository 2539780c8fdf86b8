import ItcFramework.Coord.DirectoryRuns

/-!
# The registry follows the mailboxes

* `directory_follows` — in every run, the messages that the coordinator has not received take its
  registry to the mailboxes that are in use.
* `directory_settles` — while no search leaves the host, the rx thread and `main` of the coordinator
  can always bring it there, and then a search for a name finds the mailbox that has it, and only
  that.
-/

set_option autoImplicit false

namespace ItcFramework

open ByteImage HeapModel ItcInstance SearchTree Transition Coordinator

variable {E : ItcEnv KernelQueues} {M : Nat} {P : Request → Prop} {d d' : Directory}

/-! ## What the registry answers -/

/-- **A search in the registry** finds what is registered under the name. -/
theorem ItccoordInst.Inv.tfindMbox_registry {s : ItccoordInst} (h : s.Inv) (name : CString) :
    ∃ o, tfindMbox s name = .ok o ∧
      ∀ info, o = some info ↔ info ∈ s.registry ∧ info.mboxName = name := by
  refine ⟨_, h.treeOk.tfindMbox name, fun info => ?_⟩
  rw [ItccoordInst.registered, mem_registry, Option.bind_eq_some_iff]
  constructor
  · rintro ⟨mbox, hfind, hinfo⟩
    obtain ⟨hmbox, hkey⟩ := (find_byKey h.ordered).mp hfind
    rw [mboxName_of_live hinfo] at hkey
    exact ⟨⟨mbox, hmbox, hinfo⟩, hkey⟩
  · rintro ⟨⟨mbox, hmbox, hinfo⟩, hname⟩
    refine ⟨mbox, (find_byKey h.ordered).mpr ⟨hmbox, ?_⟩, hinfo⟩
    rw [mboxName_of_live hinfo]
    exact hname

namespace Directory

/-- Nothing on its way to `main` leaves the host. -/
abbrev StaysHere (r : Request) : Prop := r.staysHere = true

/-- The mailboxes that are in use stay so when nothing happens to the other processes. -/
theorem inUse_others (hprocs : ∀ p, p ≠ 1 → d'.host.procs p = d.host.procs p)
    (hconn : ∀ p, d'.inst.Connected p ↔ d.inst.Connected p) : d'.inUse = d.inUse :=
  inUse_same hconn fun p hp => congrArg (fun t : Traced KernelQueues => t.s.inUse) (hprocs p hp)

/-! ## The rx thread takes everything off its queue -/

theorem rx_others {h h' : Host} {p p' : Nat} (hstep : HostStep E M h (.rx p) h') (hp : p' ≠ p) :
    h'.procs p' = h.procs p' := by
  cases hstep with
  | skip hready hqueue hrx => rfl
  | relay hready hqueue hrx hsend hnew hqueued => exact Function.update_of_ne hp _ _

/-- A pass of the coordinator's rx thread over a text that fits its buffer. -/
theorem Inv.exists_rx (hinv : Inv E M P d) (hmem : E.qitemMem = true)
    (hM : M ≤ E.malloc.maxMallocsize) {m : UserMessage} {rest : List UserMessage}
    (hin : d.host.inTransit 1 = m :: rest) (hfit : FitsRxBuffer M m) :
    ∃ h', HostStep E M d.host (.rx 1) h' ∧ h'.inTransit 1 = rest := by
  have hhost := hinv.host 1 hinv.ready.running
  obtain ⟨q, hs, -⟩ := hhost.process
  obtain ⟨ms, ⟨l, ls, ts, hrx, -, hts, rfl⟩, hletters, -⟩ := hinv.mail
  have hto : m.msg.receiver = coordMboxId := by
    refine (hletters m (List.mem_append_right _ ?_)).receiver
    rw [← hinv.transit_eq hts, hin]
    exact List.mem_cons_self
  have hq : q coordMbox = some l := (RxMessages.iff hs coordMbox l).mp hrx
  have hslot : ∃ i, i < (d.host.procs 1).s.nrMboxes.toNat ∧
      ((d.host.procs 1).s.mboxes i).mboxId = m.msg.receiver := by
    refine ⟨coordMbox, (hs.slots.queue coordMbox ?_).1, hinv.ready.mboxId.trans hto.symm⟩
    rw [hq]
    exact Option.some_ne_none l
  obtain ⟨h', hstep, -, -, hrest⟩ := hhost.exists_pass hmem hM hinv.ready.rx hin hfit hslot
  exact ⟨h', hstep, hrest⟩

theorem Inv.receiveAll (hinv : Inv E M P d) (impl : TreeImpl Nat) (hE : E.kernel = limitKernel M)
    (hmem : E.qitemMem = true) (hM : M ≤ E.malloc.maxMallocsize)
    (hfit : ∀ m ∈ d.host.inTransit 1, FitsRxBuffer M m) :
    ∃ d', Run (Guarded (DirectoryStep E M impl) (DirectoryMay E.endian)) d
        (List.replicate (d.host.inTransit 1).length (.host (.rx 1))) d' ∧
      Inv E M P d' ∧ d'.inUse = d.inUse ∧ d'.main = d.main ∧ d'.host.inTransit 1 = [] := by
  generalize hl : d.host.inTransit 1 = l at hfit
  induction l generalizing d with
  | nil => exact ⟨d, .nil d, hinv, rfl, rfl, hl⟩
  | cons m rest ih =>
    rw [List.forall_mem_cons] at hfit
    obtain ⟨h', hstep, hrest⟩ := hinv.exists_rx hmem hM hl hfit.1
    have hmay : DirectoryMay E.endian d (.host (.rx 1)) := trivial
    have hstep' : DirectoryStep E M impl d (.host (.rx 1)) { d with host := h' } := .host hstep
    obtain ⟨d', hrun, hinv', hinUse, hmain, hempty⟩ :=
      ih (hinv.rxCoord hE hmem hM hstep) hrest hfit.2
    refine ⟨d', .cons ⟨hmay, hstep'⟩ hrun, hinv', hinUse.trans ?_, hmain, hempty⟩
    exact inUse_others (fun p hp => rx_others hstep hp) fun _ => Iff.rfl

/-! ## `main` serves everything in its rx queue -/

/-- While there is a message in its rx queue, `main` receives it and takes the next turn. -/
theorem Inv.exists_serve (hinv : Inv E M StaysHere d) (impl : TreeImpl Nat)
    (hE : E.kernel = limitKernel M) (hmem : E.qitemMem = true) (hM : M ≤ E.malloc.maxMallocsize)
    (hidle : d.main = .idle) {p : Nat} {l : List Nat}
    (hrx : (d.host.procs 1).s.RxMessages coordMbox (p :: l)) :
    ∃ d', DirectoryStep E M impl d (.serve true) d' ∧ Inv E M StaysHere d' ∧
      d'.inUse = d.inUse ∧ d'.main = .idle ∧ d'.host.queues = d.host.queues ∧
      (d'.host.procs 1).s.RxMessages coordMbox l := by
  obtain ⟨-, q, haccounted⟩ := hinv.counted
  have hthere : AccountedBy ((d.host.procs 1).onHost d.host.queues).s q (d.host.procs 1).log :=
    haccounted.setSysvmq haccounted.inv.layout.sysvmqInst fun _ _ _ _ _ => rfl
  have hs := hthere.inv
  have hmbox : ((d.host.procs 1).onHost d.host.queues).s.myThreadlocalMbox coordTid =
      some coordMbox := hinv.ready.mbox
  have hq : q coordMbox = some (p :: l) := (RxMessages.iff hs coordMbox (p :: l)).mp hrx
  obtain ⟨u, rxq, heap', info, hu, hcall, hheap, -, hs'⟩ :=
    itcReceive_message hs hmbox hq (hthere.accounting coordMbox _ hq)
  generalize ht : (((d.host.procs 1).onHost d.host.queues).s.setLocal
    (((d.host.procs 1).onHost d.host.queues).s.localInst.setRxq coordMbox rxq) heap').setRxqInfo
      coordMbox info = s' at hcall hs'
  have hcell : s'.heap.cells p = some u.msg := by
    rw [← ht]
    exact hheap.self
  have hkernel : s'.kernel = d.host.queues := by rw [← ht]; rfl
  -- what it receives is the first of its mail, from which it reads a request
  obtain ⟨ms, ⟨l', ls, ts, hrx', hcells, hts, rfl⟩, hletters, hrun⟩ := hinv.mail
  obtain rfl := hrx.unique hrx'
  obtain ⟨u', ls', rfl⟩ : ∃ u' ls', ls = u' :: ls' := by
    cases ls with
    | nil => cases hcells
    | cons u' ls' => exact ⟨u', ls', rfl⟩
  rw [List.map_cons, List.map_cons, List.cons.injEq] at hcells
  have hmsg : u'.msg = u.msg :=
    UserMessage.queued_inj (Option.some.inj (hcells.1.symm.trans hu))
  have hletter := hletters u' List.mem_cons_self
  obtain ⟨S₁, hreg⟩ : ∃ S₁, Registers d.inst.Connected d.inst.registry
      (request E.endian u'.msg) S₁ := by
    cases hrun with
    | cons head tail => exact ⟨_, head⟩
  obtain ⟨inst', hhandle, -, hkept, -⟩ := handleNotification_registers hinv.inst impl
    (fun mboxId hid => Nat.ne_of_lt (hletter.created mboxId hid).2) hreg
  have hid : ((d.host.procs 1).onHost d.host.queues).s.myMboxId coordTid = coordMboxId := by
    rw [myMboxId, hmbox]
    exact hinv.ready.mboxId
  have hdelivery : s'.delivery p = (p, some u'.msg) := by
    rw [delivery, hcell, hmsg, Option.map_some, ← u.flags_eq]
  have hstep : ItcStep E ((d.host.procs 1).onHost d.host.queues).s
      (.receive coordTid coordMboxId (some (p, some u'.msg))) s' := by
    rw [← hid, ← hdelivery]
    exact .receive hcall
  let t : Traced KernelQueues := ⟨s', (d.host.procs 1).log.record
    (.receive coordTid coordMboxId (some (p, some u'.msg)))⟩
  have hnew : s'.kernel = d.host.queues.post E.endian toNobody := by
    rw [KernelQueues.post_toNobody, hkernel]
  have hreceive : HostStep E M d.host (.call 1 (.receive coordTid coordMboxId
      (some (p, some u'.msg)))) (d.host.afterCall 1 _ t toNobody) :=
    .call ⟨hstep, rfl⟩ hnew fun _ _ => rfl
  refine ⟨⟨_, inst', .idle⟩, .serve hidle hreceive hletter.request.reads hhandle
    (.of_staysHere hletter.only inst' true), hinv.serve hE hmem hM hreceive hletter.request.reads hhandle,
    inUse_others (fun p hp => Function.update_of_ne hp _ _) hkept.connected, rfl, hkernel, ?_⟩
  exact (RxMessages.iff hs' coordMbox l).mpr (Function.update_self ..)

theorem Inv.serveAll (hinv : Inv E M StaysHere d) (impl : TreeImpl Nat)
    (hE : E.kernel = limitKernel M) (hmem : E.qitemMem = true) (hM : M ≤ E.malloc.maxMallocsize)
    (hidle : d.main = .idle) {l : List Nat}
    (hrx : (d.host.procs 1).s.RxMessages coordMbox l) :
    ∃ d', Run (Guarded (DirectoryStep E M impl) (DirectoryMay E.endian)) d
        (List.replicate l.length (.serve true)) d' ∧
      Inv E M StaysHere d' ∧ d'.inUse = d.inUse ∧ d'.host.queues = d.host.queues ∧
      (d'.host.procs 1).s.RxMessages coordMbox [] := by
  induction l generalizing d with
  | nil => exact ⟨d, .nil d, hinv, rfl, rfl, hrx⟩
  | cons p l ih =>
    obtain ⟨d₁, hstep, hinv₁, hinUse₁, hidle₁, hqueues₁, hrx₁⟩ :=
      hinv.exists_serve impl hE hmem hM hidle hrx
    have hmay : DirectoryMay E.endian d (.serve true) := trivial
    obtain ⟨d', hrun, hinv', hinUse', hqueues', hrx'⟩ := ih hinv₁ hidle₁ hrx₁
    exact ⟨d', .cons ⟨hmay, hstep⟩ hrun, hinv', hinUse'.trans hinUse₁, hqueues'.trans hqueues₁,
      hrx'⟩

/-- What is known of the messages on their way. -/
theorem Inv.restrict {P' : Request → Prop} (hinv : Inv E M P d)
    (hP : ∀ ms, d.host.CoordMail E.endian ms → ∀ m ∈ ms, P' (request E.endian m.msg)) :
    Inv E M P' d := by
  obtain ⟨ms, hmail, hletters, hrun⟩ := hinv.mail
  refine ⟨hinv.host, hinv.ready, hinv.counted, hinv.inst, hinv.procs, hinv.own, hinv.names, ms,
    hmail, fun m hm => ?_, hrun⟩
  obtain ⟨hreceiver, hrequest, hcreated, -⟩ := hletters m hm
  exact ⟨hreceiver, hrequest, hcreated, hP ms hmail m hm⟩

/-- With no message for the coordinator on its way, the registry is right. -/
theorem Inv.settled (hinv : Inv E M P d) (hqueue : d.host.queues 1 = some [])
    (hrx : (d.host.procs 1).s.RxMessages coordMbox []) :
    d.host.CoordMail E.endian [] ∧ d.inst.registry = d.inUse := by
  obtain ⟨ms, ⟨l, ls, ts, hrx', hcells, hts, rfl⟩, -, hrun⟩ := hinv.mail
  obtain rfl := hrx.unique hrx'
  obtain rfl : ls = [] := List.map_eq_nil_iff.mp hcells.symm
  obtain rfl : ts = [] := by
    rw [hqueue, Option.some.injEq] at hts
    exact List.map_eq_nil_iff.mp hts.symm
  refine ⟨⟨[], [], [], hrx, rfl, hqueue, rfl⟩, ?_⟩
  generalize d.inst.registry = S, d.inUse = S' at hrun ⊢
  cases hrun
  rfl

end Directory

/-! ## A process that has announced a mailbox -/

/-- The coordinator and process 2, with three mailboxes each. -/
def coordNr (p : Nat) : UInt32 := if p = 1 ∨ p = 2 then 3 else 0

theorem coordNr_ok : ∀ p, coordNr p ≠ 0 →
    p < MAX_SUPPORTED_PROCESSES ∧ (coordNr p).toNat < 2 ^ mboxBits := by
  intro p hp
  rw [coordNr] at hp ⊢
  split at hp
  · rename_i hp'
    rw [if_pos hp']
    rcases hp' with rfl | rfl
    · exact ⟨by decide, by decide⟩
    · exact ⟨by decide, by decide⟩
  · exact absurd rfl hp

/-- Process 2 has connected and created the mailbox of its rx thread. -/
theorem directory_run :
    ∃ (d₀ d : Directory) (as : List DirectoryAction) (t : Bytes),
      Directory.Started .host 8192 coordNr d₀ ∧
      Run (Guarded (DirectoryStep .host 8192 (.plain Nat)) (DirectoryMay .little)) d₀ as d ∧
      d.main = .idle ∧ d.host.queues 1 = some [t] ∧ t.length ≤ 8192 - 8 ∧
      (∀ ms, d.host.CoordMail .little ms → ∀ m ∈ ms, (request .little m.msg).staysHere = true) ∧
      ⟨0x00200000, .empty⟩ ∈ d.inUse := by
  let h₀ : Host := .init 8192 coordNr
  let s₁ := ((h₀.procs 1).onHost h₀.queues).s
  let c₁ := returned (0, s₁) (itcCreateMailbox .host 1 s₁ 0 .empty 0)
  let c₂ := returned (0, s₁) (itcCreateMailbox .host 1 c₁.2 1 .empty 0)
  let s₃ := ((h₀.procs 2).onHost c₂.2.kernel).s
  let c₃ := returned (0, s₃) (itcCreateMailbox .host 1 s₃ 0 .empty 0)
  have hcreate₁ : itcCreateMailbox .host 1 s₁ 0 .empty 0 = .ok (some (c₁.1, c₁.2)) :=
    returned_eq (by decide +kernel)
  have hcreate₂ : itcCreateMailbox .host 1 c₁.2 1 .empty 0 = .ok (some (c₂.1, c₂.2)) :=
    returned_eq (by decide +kernel)
  have hcreate₃ : itcCreateMailbox .host 1 s₃ 0 .empty 0 = .ok (some (c₃.1, c₃.2)) :=
    returned_eq (by decide +kernel)
  have hid₁ : c₁.1 ≠ ITC_NO_MBOX_ID := by decide +kernel
  have hid₂ : c₂.1 = coordMboxId := by decide +kernel
  have hready₁ : c₁.2.myThreadlocalMbox 0 = some 0 := by decide +kernel
  have hqueue₁ : (c₁.2.kernel 1).isSome := by decide +kernel
  have hqueue₂ : (c₂.2.kernel 2).isSome := by decide +kernel
  have hrunning : (c₂.2.kernel 1).isSome := by decide +kernel
  have hqueue₃ : (c₃.2.kernel 1).any (fun ts => decide (ts.length = 1 ∧ ∀ t ∈ ts,
      t.length ≤ 8192 - 8 ∧ ((ItcMessage.ofImage .little t).toOption.map fun m =>
        (request .little m).staysHere) = some true)) = true := by decide +kernel
  have hfirst : c₂.2.first coordMbox = none := by decide +kernel
  have hnr : 0 < c₃.2.nrMboxes.toNat := by decide +kernel
  have hinuse : (c₃.2.mboxes 0).mboxState = .inuse := by decide +kernel
  have hmbox : (c₃.2.mboxes 0).mboxId = 0x00200000 := by decide +kernel
  have hname : (c₃.2.mboxes 0).name = .empty := by decide +kernel
  have hempty : CString.empty.strlen < ITC_MAX_NAME_LENGTH := by decide
  have hinv : h₀.Inv .host 8192 := .init coordNr_ok
  have hM : 8192 ≤ ItcEnv.host.malloc.maxMallocsize := by decide
  have hnone₁ : (h₀.procs 1).s.myThreadlocalMbox sysvmqRxTid = none := rfl
  have hnone₂ : (h₀.procs 2).s.myThreadlocalMbox sysvmqRxTid = none := rfl
  have hqueue₀ : (h₀.queues 1).isSome := rfl
  clear_value c₁ c₂ c₃
  obtain ⟨id₂, p₂⟩ := c₂
  obtain rfl : id₂ = coordMboxId := hid₂
  let log₁ := Log.empty.record (.createMailbox 0 .empty 0 c₁.1)
  let log₂ := log₁.record (.createMailbox 1 .empty 0 coordMboxId)
  obtain ⟨new₁, hrun₁⟩ := hinv.run_call (t := ⟨c₁.2, log₁⟩) rfl rfl hM (.nil _)
    (.createRx hqueue₀ hempty hnone₁) ⟨.createMailbox hcreate₁, rfl⟩
  let h₁ := h₀.afterCall 1 (.createMailbox 0 .empty 0 c₁.1) ⟨c₁.2, log₁⟩ new₁
  have hmay₂ : HostMay h₁ (.call 1 (.createMailbox 1 .empty 0 coordMboxId)) :=
    .user hqueue₁ hempty (fun _ h => h.elim) (fun h => by cases hready₁.symm.trans h)
      (fun h => by cases h)
  obtain ⟨new₂, hrun₂⟩ := hinv.run_call (t := ⟨p₂, log₂⟩) rfl rfl hM hrun₁ hmay₂
    ⟨.createMailbox hcreate₂, rfl⟩
  let h₂ := h₁.afterCall 1 (.createMailbox 1 .empty 0 coordMboxId) ⟨p₂, log₂⟩ new₂
  -- the coordinator has started, and process 2 connects to it
  let d₀ : Directory := ⟨h₂, .init, .idle⟩
  have hstart : Directory.Started .host 8192 coordNr d₀ :=
    ⟨⟨_, _, _, _, _, hid₁, hrun₂⟩, rfl, rfl⟩
  let i₁ : ItccoordInst := { ItccoordInst.init with
    freeList := List.range' 3 (MAX_SUPPORTED_PROCESSES - 3), usedList := [2] }.setState 2 .listening
  let i₂ := i₁.setState 2 .connected
  have hlocate : CoordStep (.plain Nat) .init .locateCoord i₁ := .locateCoord rfl
  have hconnect : CoordStep (.plain Nat) i₁ (.connect 2) i₂ := .connect List.mem_cons_self rfl
  have hmayConnect : DirectoryMay .little ⟨h₂, i₁, .idle⟩ (.sockets (.connect 2)) :=
    ⟨by decide, rfl, fun h => by cases h⟩
  let e₃ : ItcEvent := .createMailbox 0 .empty 0 c₃.1
  let t₃ : Traced KernelQueues := ⟨c₃.2, Log.empty.record e₃⟩
  obtain ⟨new₃, hmay₃, hcall₃⟩ := ((hinv.run rfl rfl hM hrun₂) 2 hqueue₂).exists_call (t := t₃)
    rfl rfl (.createRx hqueue₂ hempty hnone₂) ⟨.createMailbox hcreate₃, rfl⟩
  have hmayUser : DirectoryMay .little ⟨h₂, i₂, .idle⟩ (.host (.call 2 e₃)) := by
    refine ⟨hmay₃, rfl, ?_⟩
    rintro info ⟨p, hp, -, hinfo⟩
    -- no other mailbox is in use
    have hproc : h₂.procs p = h₀.procs p :=
      (Function.update_of_ne hp _ _).trans (Function.update_of_ne hp _ _)
    rw [hproc, show (h₀.procs p).s.inUse = ∅ from Directory.inUse_init p _ _] at hinfo
    exact hinfo.elim
  let d : Directory := ⟨h₂.afterCall 2 e₃ t₃ new₃, i₂, .idle⟩
  have hrun : Run (Guarded (DirectoryStep .host 8192 (.plain Nat)) (DirectoryMay .little)) d₀
      [.sockets .locateCoord, .sockets (.connect 2), .host (.call 2 e₃)] d :=
    .cons ⟨trivial, .sockets rfl hlocate⟩
      (.cons ⟨hmayConnect, .sockets rfl hconnect⟩ (.cons ⟨hmayUser, .host hcall₃⟩ (.nil d)))
  obtain ⟨ts, hts, hall⟩ := (Option.any_eq_true _ _).mp hqueue₃
  obtain ⟨hone, hfit⟩ := of_decide_eq_true hall
  obtain ⟨t, rfl⟩ := List.length_eq_one_iff.mp hone
  obtain ⟨hlen, hreads⟩ := hfit t List.mem_cons_self
  refine ⟨d₀, d, _, t, hstart, hrun, rfl, hts, hlen, ?_, 2, by decide, rfl, 0, hnr, hinuse, ?_⟩
  · rintro ms ⟨l, ls, us, hrx, hcells, hus, rfl⟩ m hm
    -- nothing is in the rx queue, and the one text in the other queue announces the mailbox
    have hqueued : ∃ q, p₂.Inv q := by
      obtain ⟨q, hq, -⟩ := ((hinv.run rfl rfl hM hrun₂) 1 hrunning).process
      exact ⟨q, hq⟩
    obtain ⟨q, hs⟩ := hqueued
    have hempty : l = [] := by
      have hrx' : p₂.RxMessages coordMbox l := hrx
      have hhead := hrx'.first_eq hs
      rw [hfirst] at hhead
      exact List.head?_eq_none_iff.mp hhead.symm
    subst hempty
    obtain rfl : ls = [] := List.map_eq_nil_iff.mp hcells.symm
    rw [List.nil_append] at hm
    have himages : us.map (fun m => m.msg.image .little) = [t] :=
      (Option.some.inj (hts.symm.trans hus)).symm
    have hm' : m.msg.image .little ∈ [t] := by
      rw [← himages]
      exact List.mem_map_of_mem hm
    rw [List.mem_singleton] at hm'
    rw [← hm', ItcMessage.ofImage_image] at hreads
    exact Option.some.inj hreads
  rw [show ((d.host.procs 2).s.mboxes 0).mboxId = _ from hmbox,
    show ((d.host.procs 2).s.mboxes 0).name = _ from hname]

/-! ## The registry follows -/

/-- **The registry of the coordinator follows the mailboxes of its host.** In every run, the
notifications that it has not received, in the order in which it will receive them, are handled
without a fault and leave exactly the mailboxes of connected processes that are in use. -/
theorem directory_follows (E : ItcEnv KernelQueues) (M : Nat) (hE : E.kernel = limitKernel M)
    (hmem : E.qitemMem = true) (hM : M ≤ E.malloc.maxMallocsize) (impl : TreeImpl Nat)
    (nr : Nat → UInt32)
    (hnr : ∀ p, nr p ≠ 0 → p < MAX_SUPPORTED_PROCESSES ∧ (nr p).toNat < 2 ^ mboxBits)
    (as : List DirectoryAction) (d₀ d : Directory) (hstart : Directory.Started E M nr d₀)
    (hrun : Run (Guarded (DirectoryStep E M impl) (DirectoryMay E.endian)) d₀ as d) :
    ∃ ms inst', d.host.CoordMail E.endian ms ∧
      (ms.map fun m => request E.endian m.msg).foldlM (handleNotification impl) d.inst =
        .ok inst' ∧
      inst'.registry = d.inUse := by
  have hinv : Directory.Inv E M (fun _ => True) d :=
    (Directory.Inv.of_started hE hmem hM hnr hstart).run hE hmem hM (fun _ => trivial) hrun
  obtain ⟨ms, hmail, hletters, hleads⟩ := hinv.mail
  obtain ⟨inst', hfold, hregistry⟩ := foldlM_registers hinv.inst impl (fun r hr mboxId hid => by
    obtain ⟨m, hm, rfl⟩ := List.mem_map.mp hr
    exact Nat.ne_of_lt ((hletters m hm).created mboxId hid).2) hleads
  exact ⟨ms, inst', hmail, hfold, hregistry⟩

theorem directory_follows_created :
    ∃ (d : Directory) (ms : List UserMessage) (inst' : ItccoordInst),
      ⟨0x00200000, .empty⟩ ∈ d.inUse ∧ d.host.CoordMail .little ms ∧
      (ms.map fun m => request .little m.msg).foldlM (handleNotification (.plain Nat)) d.inst =
        .ok inst' ∧
      inst'.registry = d.inUse := by
  obtain ⟨d₀, d, as, t, hstart, hrun, -, -, -, -, hmem⟩ := directory_run
  obtain ⟨ms, inst', hfollows⟩ := directory_follows .host 8192 rfl rfl (by decide) (.plain Nat)
    coordNr coordNr_ok as d₀ d hstart hrun
  exact ⟨d, ms, inst', hmem, hfollows⟩

/-- **The coordinator catches up**: when every text in its queue fits its buffer and nothing on its
way to `main` makes it ask the gateway, passes of its rx thread and turns of `main` alone take the
registry to the mailboxes that are in use, and a search then finds exactly those. -/
theorem directory_settles (E : ItcEnv KernelQueues) (M : Nat) (hE : E.kernel = limitKernel M)
    (hmem : E.qitemMem = true) (hM : M ≤ E.malloc.maxMallocsize) (impl : TreeImpl Nat)
    (nr : Nat → UInt32)
    (hnr : ∀ p, nr p ≠ 0 → p < MAX_SUPPORTED_PROCESSES ∧ (nr p).toNat < 2 ^ mboxBits)
    (as : List DirectoryAction) (d₀ d : Directory) (hstart : Directory.Started E M nr d₀)
    (hrun : Run (Guarded (DirectoryStep E M impl) (DirectoryMay E.endian)) d₀ as d)
    (hidle : d.main = .idle) (ts : List Bytes) (hqueue : d.host.queues 1 = some ts)
    (hfit : ∀ t ∈ ts, t.length ≤ M - 8)
    (hstays : ∀ ms, d.host.CoordMail E.endian ms →
      ∀ m ∈ ms, (request E.endian m.msg).staysHere = true) :
    ∃ (n : Nat) (d' : Directory),
      Run (Guarded (DirectoryStep E M impl) (DirectoryMay E.endian)) d
        (List.replicate ts.length (.host (.rx 1)) ++ List.replicate n (.serve true)) d' ∧
      d'.host.CoordMail E.endian [] ∧ d'.inUse = d.inUse ∧
      ∀ name, ∃ o, tfindMbox d'.inst name = .ok o ∧
        ∀ info, o = some info ↔ info ∈ d.inUse ∧ info.mboxName = name := by
  have hreached : Directory.Inv E M (fun _ => True) d :=
    (Directory.Inv.of_started hE hmem hM hnr hstart).run hE hmem hM (fun _ => trivial) hrun
  have hinv : Directory.Inv E M Directory.StaysHere d := hreached.restrict hstays
  have hhost := hinv.host 1 hinv.ready.running
  have hlen : ts.length = (d.host.inTransit 1).length := by
    have htransit := hhost.transit
    rw [hqueue, Option.some.injEq] at htransit
    rw [htransit, List.length_map]
  obtain ⟨d₁, hrun₁, hinv₁, hinUse₁, hidle₁, hempty⟩ :=
    hinv.receiveAll impl hE hmem hM (hhost.fits hqueue hfit)
  have hqueue₁ : d₁.host.queues 1 = some [] := by
    rw [(hinv₁.host 1 hinv₁.ready.running).transit, hempty, List.map_nil]
  obtain ⟨l, hrx⟩ : ∃ l, (d₁.host.procs 1).s.RxMessages coordMbox l := by
    obtain ⟨ms, ⟨l, ls, ts, hrx, -⟩, -, -⟩ := hinv₁.mail
    exact ⟨l, hrx⟩
  obtain ⟨d', hrun', hinv', hinUse', hqueues', hrx'⟩ :=
    hinv₁.serveAll impl hE hmem hM (hidle₁.trans hidle) hrx
  obtain ⟨hmail, hregistry⟩ := hinv'.settled (by rw [hqueues', hqueue₁]) hrx'
  have hsame : d'.inUse = d.inUse := hinUse'.trans hinUse₁
  rw [hlen]
  refine ⟨l.length, d', hrun₁.append hrun', hmail, hsame, fun name => ?_⟩
  rw [← hsame, ← hregistry]
  exact hinv'.inst.tfindMbox_registry name

theorem directory_settles_created :
    ∃ (d d' : Directory) (n : Nat), ⟨0x00200000, .empty⟩ ∈ d.inUse ∧
      Run (Guarded (DirectoryStep .host 8192 (.plain Nat)) (DirectoryMay .little)) d
        (.host (.rx 1) :: List.replicate n (.serve true)) d' ∧
      ∀ name, ∃ o, tfindMbox d'.inst name = .ok o ∧
        ∀ info, o = some info ↔ info ∈ d.inUse ∧ info.mboxName = name := by
  obtain ⟨d₀, d, as, t, hstart, hrun, hidle, hqueue, hlen, hstays, hmem⟩ := directory_run
  have hfit : ∀ t' ∈ [t], t'.length ≤ 8192 - 8 := by
    intro t' ht'
    rw [List.mem_singleton.mp ht']
    exact hlen
  obtain ⟨n, d', hrun', -, -, hfinds⟩ := directory_settles .host 8192 rfl rfl (by decide)
    (.plain Nat) coordNr coordNr_ok as d₀ d hstart hrun hidle [t] hqueue hfit hstays
  exact ⟨d, d', n, hmem, hrun', hfinds⟩

end ItcFramework
