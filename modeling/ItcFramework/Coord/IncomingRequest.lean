import ItcFramework.Coord.LocateReply
import ItcFramework.Itc.SyncRequest

/-!
# The coordinator at its rx queue

Embedding of `handle_incoming_request` and `handle_locate_mbox` (`itccoord.c`) with the ITC calls
they make in the coordinator's process. While a search through the gateway waits for its reply, the
notifications of other processes go into the same rx queue.

* `Coordinator.handleLocateMbox_exchange` — the search is an exchange;
* `Coordinator.handleLocateMbox_answers` — its answers are those of `handleLocateMbox`, given what
  the ITC calls have returned.
-/

set_option autoImplicit false

namespace ItcFramework

open ByteImage HeapModel ItcInstance SearchTree Transition

variable {σ : Type} {E : ItcEnv σ} {s s' : ItcInstance σ} {q : Queues} {own : Nat → Prop}
  {tid me : Nat}

/-- A process with the registry that it keeps if it is the coordinator. -/
structure Coordinator (σ : Type) where
  itc : ItcInstance σ
  registry : CoordLife

/-! ## `handle_locate_mbox` -/

/-- The end of the handler. -/
def replyToLocate (E : ItcEnv σ) (fuel : Nat) (s : ItcInstance σ) (tid : Nat)
    (fromMbox mboxId : MboxId) (pid : UInt32) (isExternal : Bool) (ns : CString) :
    Except MemFault (Option (ItcInstance σ)) := do
  let m ← locateMboxSyncReply E.endian E.malloc mboxId pid isExternal ns
  let (msg, s) := s.alloc m
  let some (_, s) ← sendOrFree E fuel s tid msg fromMbox ITC_MY_MBOX_ID | return none
  return some s

/-- The request leaves for the gateway; `false` when there is none or it cannot be sent. -/
def sendGatewayRequest (E : ItcEnv σ) (fuel : Nat) (s : ItcInstance σ) (tid : Nat)
    (registry : ItccoordInst) (itccoordMboxId : MboxId) (name : CString) :
    Except MemFault (Option (Bool × ItcInstance σ)) := do
  let m ← idNameMsg E.endian E.malloc ITC_LOCATE_MBOX_FROM_ITCGWS_REQUEST itccoordMboxId name
  let (req, s) := s.alloc m
  match ← tfindMbox registry ITC_GATEWAY_MBOX_TCP_CLI_NAME with
  | none =>
      let s ← itcFree s req
      return some (false, s)
  | some itcgw => sendOrFree E fuel s tid req itcgw.mboxId ITC_MY_MBOX_ID

/-- The first message after the request is taken for the reply. -/
def awaitGatewayReply (E : ItcEnv σ) (wait : Wait σ) (s : ItcInstance σ) (tid : Nat) :
    Except MemFault (Option (Option (MboxId × CString) × ItcInstance σ)) := do
  let some (msg, s) ← itcReceiveTmo wait s tid | return none
  match msg with
  | none => return some (none, s)
  | some msg =>
      let m ← s.heap.read msg
      let reply ← readGatewayReply E.endian m
      let s ← itcFree s msg
      return some (reply, s)

/-- What a request to locate a mailbox asks for. -/
structure LocateRequest where
  fromMbox : MboxId
  timeout : UInt32
  findOnlyInternal : Bool
  name : CString
  deriving DecidableEq, Repr

namespace Coordinator

/-- `handle_locate_mbox`; `uninitPid` is what is in `pid` when the gateway has answered. -/
def handleLocateMbox (E : ItcEnv σ) (fuel : Nat) (wait : Wait σ) (s : ItcInstance σ) (tid : Nat)
    (w : CoordLife) (itccoordMboxId : MboxId) (uninitPid : UInt32) (r : LocateRequest) :
    Except MemFault (Option (ItcInstance σ)) := do
  match ← tfindMbox w.inst r.name with
  | none =>
      if r.findOnlyInternal then
        replyToLocate E fuel s tid r.fromMbox ITC_NO_MBOX_ID (UInt32.ofInt (-1)) false .empty
      else
        let some (sent, s) ← sendGatewayRequest E fuel s tid w.inst itccoordMboxId r.name
          | return none
        if ¬ sent then return some s
        else
          let some (reply, s) ← awaitGatewayReply E wait s tid | return none
          match reply with
          | none => return some s
          | some (mboxId, ns) =>
              replyToLocate E fuel s tid r.fromMbox mboxId uninitPid true ns
  | some mbox =>
      match ← findProcess mbox.mboxId with
      | none => return some s
      | some proc =>
          if (w.inst.processes proc).state ≠ .connected then return some s
          else
            replyToLocate E fuel s tid r.fromMbox mbox.mboxId (UInt32.ofInt (w.pids proc)) false
              .empty

/-- The waits of `handle_locate_mbox`. -/
def locateMboxWaits (E : ItcEnv σ) (fuel : Nat) (wait : Wait σ) (s : ItcInstance σ) (tid : Nat)
    (w : CoordLife) (itccoordMboxId : MboxId) (r : LocateRequest) : List (WaitEnd σ) :=
  match tfindMbox w.inst r.name with
  | .ok none =>
      if r.findOnlyInternal then []
      else
        match sendGatewayRequest E fuel s tid w.inst itccoordMboxId r.name with
        | .ok (some (true, s')) =>
            [wait.finish s.heap.next ITC_LOCATE_MBOX_FROM_ITCGWS_REPLY s']
        | _ => []
  | _ => []

/-! ## `handle_incoming_request` -/

/-- The messages that the coordinator serves. -/
inductive Request where
  | addMbox (mboxId : MboxId) (name : CString)
  | rmvMbox (mboxId : MboxId) (name : CString)
  | locateMbox (r : LocateRequest)
  | unknown
  deriving DecidableEq, Repr

def readRequest (e : Endian) (m : ItcMessage) : Except MemFault Request := do
  let msgno ← m.msgno e
  if msgno = ITC_NOTIFY_COORD_ADD_MBOX then
    let mboxId ← load32 e m.body 4
    let name ← strAt m.body offMboxname
    return .addMbox mboxId name
  else if msgno = ITC_NOTIFY_COORD_RMV_MBOX then
    let mboxId ← load32 e m.body 4
    let name ← strAt m.body offMboxname
    return .rmvMbox mboxId name
  else if msgno = ITC_LOCATE_MBOX_SYNC_REQUEST then
    let fromMbox ← load32 e m.body 4
    let timeout ← load32 e m.body 8
    let findOnlyInternal ← load8 m.body 12
    let name ← strAt m.body offSyncName
    return .locateMbox ⟨fromMbox, timeout, findOnlyInternal != 0, name⟩
  else return .unknown

/-- The handler that the message number selects. -/
def handleRequest (E : ItcEnv σ) (impl : TreeImpl Nat) (fuel : Nat) (wait : Wait σ)
    (c : Coordinator σ) (tid : Nat) (itccoordMboxId : MboxId) (uninitPid : UInt32) :
    Request → Except MemFault (Option (Coordinator σ))
  | .addMbox mboxId name => do
      let inst ← handleAddMbox impl c.registry.inst mboxId name
      return some { c with registry := { c.registry with inst } }
  | .rmvMbox mboxId name => do
      let inst ← handleRemoveMbox impl c.registry.inst mboxId name
      return some { c with registry := { c.registry with inst } }
  | .locateMbox r => do
      let some itc ← handleLocateMbox E fuel wait c.itc tid c.registry itccoordMboxId uninitPid r
        | return none
      return some { c with itc }
  | .unknown => .ok (some c)

/-- `handle_incoming_request`, which does not look whether there is a message. -/
def handleIncomingRequest (E : ItcEnv σ) (impl : TreeImpl Nat) (fuel : Nat) (wait : Wait σ)
    (c : Coordinator σ) (tid : Nat) (itccoordMboxId : MboxId) (uninitPid : UInt32) :
    Except MemFault (Option (Coordinator σ)) := do
  let some (msg, s) ← itcReceive c.itc tid | return none
  match msg with
  | none => .error .nullDeref
  | some msg =>
      let m ← s.heap.read msg
      let request ← readRequest E.endian m
      let some c ← handleRequest E impl fuel wait { c with itc := s } tid itccoordMboxId uninitPid
        request | return none
      let itc ← itcFree c.itc msg
      return some { c with itc }

/-- The waits of `handle_incoming_request`. -/
def requestWaits (E : ItcEnv σ) (fuel : Nat) (wait : Wait σ) (c : Coordinator σ) (tid : Nat)
    (itccoordMboxId : MboxId) : List (WaitEnd σ) :=
  match itcReceive c.itc tid with
  | .ok (some (some msg, s)) =>
      match s.heap.read msg >>= readRequest E.endian with
      | .ok (.locateMbox r) => locateMboxWaits E fuel wait s tid c.registry itccoordMboxId r
      | _ => []
  | _ => []

end Coordinator

/-! ## The search is an exchange -/

/-- A message of the process's own that is sent or freed leaves the queue and the messages `own`
alone. -/
theorem allocSendOrFree_quiet {fuel : Nat} {u : UserMessage} {toMbox : MboxId} {b : Bool}
    (h : s.Inv q) (ht : s.myThreadlocalMbox tid = some me) (own : Nat → Prop)
    (hcall : sendOrFree E fuel (s.alloc u.msg).2 tid (s.alloc u.msg).1 toMbox ITC_MY_MBOX_ID =
      .ok (some (b, s'))) : Quiet tid me s s' ∧ Kept own s s' := by
  have halloc := Quiet.alloc h ht u.msg
  obtain ⟨q₁, h₁⟩ := halloc.inv
  have hheld : (s.alloc u.msg).2.heap.cells s.heap.next = some u.msg :=
    Heap.push_next s.heap u.msg
  refine ⟨halloc.trans (.sendOrFree h₁ halloc.thread hheld hcall), ?_⟩
  refine (Kept.alloc h u.msg own).sendOrFree hheld ?_ hcall
  intro m _ hm
  exact Nat.lt_irrefl _ (Heap.lt_next hm)

theorem replyToLocate_quiet {fuel : Nat} {fromMbox mboxId : MboxId} {pid : UInt32}
    {isExternal : Bool} {ns : CString} (h : s.Inv q) (ht : s.myThreadlocalMbox tid = some me)
    (own : Nat → Prop)
    (hcall : replyToLocate E fuel s tid fromMbox mboxId pid isExternal ns = .ok (some s')) :
    Quiet tid me s s' ∧ Kept own s s' := by
  obtain ⟨m, hm, hcall⟩ := bind_eq_ok hcall
  obtain ⟨u, rfl, -⟩ := syncMsg_made hm
  obtain ⟨out, hsend, hcall⟩ := bind_some_eq_ok hcall rfl
  cases hcall
  exact allocSendOrFree_quiet h ht own hsend

theorem sendGatewayRequest_quiet {fuel : Nat} {registry : ItccoordInst} {itccoordMboxId : MboxId}
    {name : CString} {b : Bool} (h : s.Inv q) (ht : s.myThreadlocalMbox tid = some me)
    (own : Nat → Prop)
    (hcall : sendGatewayRequest E fuel s tid registry itccoordMboxId name = .ok (some (b, s'))) :
    Quiet tid me s s' ∧ Kept own s s' := by
  obtain ⟨m, hm, hcall⟩ := bind_eq_ok hcall
  obtain ⟨-, u, rfl, -⟩ := idNameMsg_made hm
  obtain ⟨found, -, hcall⟩ := bind_eq_ok hcall
  cases found with
  | some itcgw => exact allocSendOrFree_quiet h ht own hcall
  | none =>
    obtain ⟨s₁, hfree, hcall⟩ := bind_eq_ok hcall
    cases hcall
    have halloc := Quiet.alloc h ht u.msg
    obtain ⟨q₁, h₁⟩ := halloc.inv
    have hheld : (s.alloc u.msg).2.heap.cells s.heap.next = some u.msg :=
      Heap.push_next s.heap u.msg
    refine ⟨halloc.trans (.free h₁ halloc.thread hheld hfree), ?_⟩
    refine (Kept.alloc h u.msg own).free hheld ?_ hfree
    intro m _ hm
    exact Nat.lt_irrefl _ (Heap.lt_next hm)

theorem awaitGatewayReply_exchange {wait : Wait σ} {reply : Option (MboxId × CString)}
    (request : Nat) (h : s.Inv q) (ht : s.myThreadlocalMbox tid = some me)
    (hwait : wait.Others E tid own)
    (hcall : awaitGatewayReply E wait s tid = .ok (some (reply, s'))) :
    Exchange tid me s [wait.finish request ITC_LOCATE_MBOX_FROM_ITCGWS_REPLY s] s' ∧
      Kept own s s' := by
  obtain ⟨⟨msg, s₁⟩, hreceive, hcall⟩ := bind_some_eq_ok hcall rfl
  obtain ⟨hkept, hmsg⟩ := itcReceiveTmo_spec h hwait.keeps hreceive
  cases msg with
  | none =>
    cases hcall
    refine ⟨.of_receiveTmo _ _ hwait h ht hreceive ?_ fun _ => rfl, hkept⟩
    intro p hp
    cases hp
  | some p =>
    obtain ⟨⟨m, hm⟩, hp⟩ := hmsg p rfl
    obtain ⟨_, -, hcall⟩ := bind_eq_ok hcall
    obtain ⟨_, -, hcall⟩ := bind_eq_ok hcall
    obtain ⟨s₂, hfree, hcall⟩ := bind_eq_ok hcall
    cases hcall
    refine ⟨.of_receiveTmo _ _ hwait h ht hreceive ?_ (fun hp => by cases hp),
      hkept.free hm hp hfree⟩
    rintro _ ⟨⟩
    exact hfree

namespace Coordinator

/-- **A search for a mailbox by the coordinator is an exchange**, and leaves the messages `own` of
the thread alone. -/
theorem handleLocateMbox_exchange {fuel : Nat} {wait : Wait σ} {w : CoordLife}
    {itccoordMboxId : MboxId} {uninitPid : UInt32} {r : LocateRequest} (h : s.Inv q)
    (ht : s.myThreadlocalMbox tid = some me) (hwait : wait.Others E tid own)
    (hcall : handleLocateMbox E fuel wait s tid w itccoordMboxId uninitPid r = .ok (some s')) :
    Exchange tid me s (locateMboxWaits E fuel wait s tid w itccoordMboxId r) s' ∧
      Kept own s s' := by
  obtain ⟨found, hfound, hcall⟩ := bind_eq_ok hcall
  simp only [locateMboxWaits, hfound]
  cases found with
  | some mbox =>
    obtain ⟨proc, -, hcall⟩ := bind_eq_ok hcall
    cases proc with
    | none =>
      cases hcall
      exact ⟨.done (.refl h ht), .refl h own⟩
    | some proc =>
      simp only at hcall
      split at hcall
      · cases hcall
        exact ⟨.done (.refl h ht), .refl h own⟩
      · exact (replyToLocate_quiet h ht own hcall).imp_left .done
  | none =>
    simp only at hcall ⊢
    split at hcall
    · rename_i hinternal
      rw [if_pos hinternal]
      exact (replyToLocate_quiet h ht own hcall).imp_left .done
    · rename_i hinternal
      rw [if_neg hinternal]
      obtain ⟨⟨sent, s₁⟩, hsend, hcall⟩ := bind_some_eq_ok hcall rfl
      simp only [hsend]
      obtain ⟨hquiet, hkept⟩ := sendGatewayRequest_quiet h ht own hsend
      cases sent with
      | false =>
        cases hcall
        exact ⟨.done hquiet, hkept⟩
      | true =>
        obtain ⟨q₁, h₁⟩ := hquiet.inv
        obtain ⟨⟨reply, s₂⟩, hawait, hcall⟩ := bind_some_eq_ok hcall rfl
        obtain ⟨hexchange, hkept₂⟩ := awaitGatewayReply_exchange _ h₁ hquiet.thread hwait hawait
        have hboth := Exchange.of_quiet hquiet hexchange
        cases reply with
        | none =>
          cases hcall
          exact ⟨hboth, hkept.trans hkept₂⟩
        | some reply =>
          obtain ⟨mboxId, ns⟩ := reply
          obtain ⟨q₂, h₂⟩ := hexchange.inv
          obtain ⟨hquiet₃, hkept₃⟩ := replyToLocate_quiet h₂ hexchange.thread own hcall
          exact ⟨hboth.then_quiet hquiet₃, (hkept.trans hkept₂).trans hkept₃⟩

/-- The request that is being served is the coordinator's own meanwhile. -/
theorem handleIncomingRequest_exchange {impl : TreeImpl Nat} {fuel : Nat} {wait : Wait σ}
    {c c' : Coordinator σ} {itccoordMboxId : MboxId} {uninitPid : UInt32} (h : c.itc.Inv q)
    (ht : c.itc.myThreadlocalMbox tid = some me)
    (hwait : ∀ msg s₁, itcReceive c.itc tid = .ok (some (some msg, s₁)) →
      wait.Others E tid fun p => p = msg)
    (hcall : handleIncomingRequest E impl fuel wait c tid itccoordMboxId uninitPid =
      .ok (some c')) :
    ∃ s₁, (c.itc.Receivable → s₁.Receivable) ∧
      Exchange tid me s₁ (requestWaits E fuel wait c tid itccoordMboxId) c'.itc := by
  obtain ⟨⟨msg, s₁⟩, hreceive, hcall⟩ := bind_some_eq_ok hcall rfl
  cases msg with
  | none => cases hcall
  | some msg =>
    have ht₁ : s₁.myThreadlocalMbox tid = some me := by
      rw [(itcReceive_sameSlots hreceive).thread, ht]
    obtain ⟨q₁, h₁, m, hm⟩ : ∃ q₁, s₁.Inv q₁ ∧ s₁.Held msg := by
      have hreceived := (itcReceive_returns h tid).of_eq hreceive
      cases hreceived with
      | @message s₂ _ p l m _ _ _ hinv hheap =>
        exact ⟨_, hinv, m, hheap.self⟩
    obtain ⟨m', hread, hcall⟩ := bind_eq_ok hcall
    obtain ⟨request, hrequest, hcall⟩ := bind_eq_ok hcall
    obtain ⟨o, hhandle, hcall⟩ := bind_eq_ok hcall
    have hread' : (s₁.heap.read msg >>= readRequest E.endian) = .ok request := by
      rw [hread]
      exact hrequest
    refine ⟨s₁, fun hr => hr.receive h hreceive, ?_⟩
    simp only [requestWaits, hreceive, hread']
    cases o with
    | none => cases hcall
    | some c₂ =>
      obtain ⟨s₃, hfree, hcall⟩ := bind_eq_ok hcall
      cases hcall
      -- the handlers of the notifications leave the process alone
      have hnone : c₂.itc = s₁ → Exchange tid me s₁ [] s₃ := by
        intro hsame
        rw [hsame] at hfree
        exact .done (.free h₁ ht₁ hm hfree)
      cases request with
      | addMbox mboxId name =>
        obtain ⟨inst, -, hhandle⟩ := bind_eq_ok hhandle
        cases hhandle
        exact hnone rfl
      | rmvMbox mboxId name =>
        obtain ⟨inst, -, hhandle⟩ := bind_eq_ok hhandle
        cases hhandle
        exact hnone rfl
      | unknown =>
        cases hhandle
        exact hnone rfl
      | locateMbox r =>
        obtain ⟨itc, hlocate, hhandle⟩ := bind_some_eq_ok hhandle rfl
        cases hhandle
        obtain ⟨hexchange, hkept⟩ :=
          handleLocateMbox_exchange h₁ ht₁ (hwait msg s₁ hreceive) hlocate
        obtain ⟨q₂, h₂⟩ := hexchange.inv
        exact hexchange.then_quiet
          (.free h₂ hexchange.thread (hkept.held msg m rfl hm) hfree)

/-- **A notification that is the first in the queue reaches the registry.** -/
theorem handleIncomingRequest_notified {impl : TreeImpl Nat} {fuel : Nat} {wait : Wait σ}
    {c c₂ : Coordinator σ} {s₁ : ItcInstance σ} {msg : Nat} {m : UserMessage} {request : Request}
    {itccoordMboxId : MboxId} {uninitPid : UInt32}
    (hreceive : itcReceive c.itc tid = .ok (some (some msg, s₁)))
    (hm : s₁.heap.cells msg = some m.msg) (hread : readRequest E.endian m.msg = .ok request)
    (hhandle : handleRequest E impl fuel wait { c with itc := s₁ } tid itccoordMboxId uninitPid
      request = .ok (some c₂)) (hitc : c₂.itc = s₁) :
    ∃ c', handleIncomingRequest E impl fuel wait c tid itccoordMboxId uninitPid = .ok (some c') ∧
      c'.registry = c₂.registry := by
  obtain ⟨heap', hfree, -⟩ := itcFree_user hm
  refine ⟨{ c₂ with itc := s₁.setHeap heap' }, ?_, rfl⟩
  simp only [handleIncomingRequest, hreceive, Heap.read_of_live hm, hread, hhandle, hitc, hfree,
    bind, Except.bind]
  rfl

/-- **The handler does what `handleLocateMbox` does** when that is given what the ITC calls have
returned. -/
theorem handleLocateMbox_answers {fuel : Nat} {wait : Wait σ} {w : CoordLife}
    {itccoordMboxId : MboxId} {uninitPid : UInt32} {r : LocateRequest}
    (hcall : handleLocateMbox E fuel wait s tid w itccoordMboxId uninitPid r = .ok (some s')) :
    ∃ (sys : LocateMboxSys) (sent : List Outgoing), ItcFramework.handleLocateMbox E.endian E.malloc
      sys w itccoordMboxId r.fromMbox r.timeout r.findOnlyInternal r.name = .ok sent := by
  -- the reply is built before it is sent
  have hreply : ∀ {s s' : ItcInstance σ} {mboxId : MboxId} {pid : UInt32} {isExternal : Bool}
      {ns : CString} (sys : LocateMboxSys),
      replyToLocate E fuel s tid r.fromMbox mboxId pid isExternal ns = .ok (some s') →
      ∃ sent, sendLocateReply E.endian E.malloc sys r.fromMbox mboxId pid isExternal ns =
        .ok sent := by
    intro s s' mboxId pid isExternal ns sys hcall
    obtain ⟨m, hm, -⟩ := bind_eq_ok hcall
    exact ⟨_, by rw [sendLocateReply, hm]; rfl⟩
  obtain ⟨found, hfound, hcall⟩ := bind_eq_ok hcall
  simp only [ItcFramework.handleLocateMbox, hfound, bind, Except.bind]
  cases found with
  | some mbox =>
    obtain ⟨proc, hproc, hcall⟩ := bind_eq_ok hcall
    simp only [hproc]
    cases proc with
    | none => exact ⟨.silent, [], rfl⟩
    | some proc =>
      simp only at hcall ⊢
      split at hcall
      · rename_i hstate
        simp only [if_pos hstate]
        exact ⟨.silent, [], rfl⟩
      · rename_i hstate
        simp only [if_neg hstate]
        exact ⟨.silent, hreply .silent hcall⟩
  | none =>
    simp only at hcall ⊢
    split at hcall
    · rename_i hinternal
      simp only [if_pos hinternal]
      exact ⟨.silent, hreply .silent hcall⟩
    · rename_i hinternal
      simp only [if_neg hinternal]
      obtain ⟨o, hsend, hcall⟩ := bind_eq_ok hcall
      obtain ⟨req, hreq, hsend⟩ := bind_eq_ok hsend
      obtain ⟨itcgw, hgw, hsend⟩ := bind_eq_ok hsend
      simp only [locateThroughGateway, hreq, hgw, bind, Except.bind]
      cases itcgw with
      | none => exact ⟨.silent, [], rfl⟩
      | some itcgw =>
        cases o with
        | none => cases hcall
        | some out =>
          obtain ⟨sent, s₁⟩ := out
          cases sent with
          | false => exact ⟨{ LocateMboxSys.silent with sendRequest := false }, [], rfl⟩
          | true =>
            obtain ⟨o, hawait, hcall⟩ := bind_eq_ok hcall
            obtain ⟨o', hreceive, hawait⟩ := bind_eq_ok hawait
            cases o' with
            | none =>
              cases hawait
              cases hcall
            | some out =>
              obtain ⟨msg, s₂⟩ := out
              cases msg with
              | none => exact ⟨.silent, _, rfl⟩
              | some msg =>
                obtain ⟨m, -, hawait⟩ := bind_eq_ok hawait
                obtain ⟨reply, hread, hawait⟩ := bind_eq_ok hawait
                obtain ⟨s₃, -, hawait⟩ := bind_eq_ok hawait
                cases hawait
                refine ⟨⟨true, fun _ => some m, true, uninitPid⟩, ?_⟩
                simp only [Bool.not_true, Bool.false_eq_true, if_false, hread]
                cases reply with
                | none => exact ⟨_, rfl⟩
                | some reply =>
                  obtain ⟨mboxId, ns⟩ := reply
                  obtain ⟨sent, hsent⟩ := hreply ⟨true, fun _ => some m, true, uninitPid⟩ hcall
                  simp only [hsent]
                  exact ⟨_, rfl⟩

end Coordinator

end ItcFramework
