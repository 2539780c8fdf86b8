import ItcFramework.Itc.CallSpecs

/-!
# Synchronous requests and sending out of the host

Embedding of the calls of `itc.c` that send a request and wait for its reply in the caller's
ordinary rx queue: `itc_locate_sync_zz` and `itc_get_namespace_zz`, and `itc_send_zz` for a
foreign namespace, which looks for the gateway's mailbox that way.
-/

set_option autoImplicit false

namespace ItcFramework

open ByteImage HeapModel ItcInstance

variable {σ : Type}

/-! ## Waiting -/

/-- How a waiting `itc_receive` goes: the other threads run meanwhile, until its time is up or it
looks into its queue for the last time. -/
abbrev Wait (σ : Type) := ItcInstance σ → Bool × ItcInstance σ

/-- `itc_receive(timeout)`. -/
def itcReceiveTmo (wait : Wait σ) (s : ItcInstance σ) (tid : Nat) :
    Except MemFault (Option (Option Nat × ItcInstance σ)) :=
  let (expired, s) := wait s
  if expired then .ok (some (none, s)) else itcReceive s tid

/-! ## `itc_locate_sync_zz` -/

/-- What the call returns, and what it stores in `*is_external` and `ns` if it does. -/
structure LocateResult where
  mboxId : MboxId
  out : Option (Bool × CString)
  deriving DecidableEq, Repr

/-- What `itc_locate_sync_zz` takes from a message: `none` when it is not a reply. -/
def readLocateReply (e : Endian) (m : ItcMessage) (findOnlyInternal : Bool) :
    Except MemFault (Option LocateResult) := do
  let msgno ← m.msgno e
  if msgno ≠ ITC_LOCATE_MBOX_SYNC_REPLY then return none
  let mboxId ← load32 e m.body 4
  if findOnlyInternal then return some ⟨mboxId, none⟩
  let isExternal ← load8 m.body 12
  let ns ← strAt m.body offSyncName
  return some ⟨mboxId, some (isExternal != 0, ns)⟩

/-- The request leaves for the coordinator; `false` when it cannot be sent. -/
def sendLocateRequest (E : ItcEnv σ) (fuel : Nat) (s : ItcInstance σ) (tid : Nat)
    (myMbox : MboxId) (timeout : UInt32) (name : CString) (findOnlyInternal : Bool) :
    Except MemFault (Option (Bool × ItcInstance σ)) := do
  let m ← locateMboxSyncRequest E.endian E.malloc myMbox timeout findOnlyInternal name
  let (msg, s) := s.alloc m
  sendOrFree E fuel s tid msg s.itccoordMboxId ITC_MY_MBOX_ID

/-- The first message after the request is taken for the reply. -/
def awaitLocateReply (E : ItcEnv σ) (wait : Wait σ) (s : ItcInstance σ) (tid : Nat)
    (findOnlyInternal : Bool) : Except MemFault (Option (LocateResult × ItcInstance σ)) := do
  let some (msg, s) ← itcReceiveTmo wait s tid | return none
  match msg with
  -- `return false`
  | none => return some (⟨0, none⟩, s)
  | some msg =>
      let m ← s.heap.read msg
      let reply ← readLocateReply E.endian m findOnlyInternal
      let s ← itcFree s msg
      return some (reply.getD ⟨ITC_NO_MBOX_ID, none⟩, s)

def itcLocateSync (E : ItcEnv σ) (fuel : Nat) (wait : Wait σ) (s : ItcInstance σ) (tid : Nat)
    (timeout : UInt32) (name : CString) (findOnlyInternal : Bool) :
    Except MemFault (Option (LocateResult × ItcInstance σ)) :=
  match s.myThreadlocalMbox tid with
  | none => .ok (some (⟨ITC_NO_MBOX_ID, none⟩, s))
  | some me =>
      match locateLocalMbox s name with
      | some mbox =>
          let out := if findOnlyInternal then none else some (false, CString.empty)
          .ok (some (⟨(s.mboxes mbox).mboxId, out⟩, s))
      | none => do
          let some (sent, s) ← sendLocateRequest E fuel s tid (s.mboxes me).mboxId timeout name
            findOnlyInternal | return none
          if ¬ sent then return some (⟨ITC_NO_MBOX_ID, none⟩, s)
          awaitLocateReply E wait s tid findOnlyInternal

/-! ## `itc_get_namespace_zz` -/

/-- The characters of a name, which are ASCII. -/
def asciiBytes (name : String) : Bytes := name.toList.map fun c => UInt8.ofNat c.toNat

def ITC_GATEWAY_MBOX_UDP_NAME : CString := ⟨asciiBytes "itc_gw_udp_mailbox", by decide⟩
def ITC_GATEWAY_MBOX_TCP_CLI_NAME : CString := ⟨asciiBytes "itcgw_tcpclient_mailbox", by decide⟩

def ITC_GET_NAMESPACE_REQUEST : UInt32 := ITC_PROTO_MSG_BASE + 0x8
def ITC_GET_NAMESPACE_REPLY : UInt32 := ITC_PROTO_MSG_BASE + 0x9

@[simps]
def ItcInstance.setNs (s : ItcInstance σ) (ns : CString) : ItcInstance σ := { s with ns }

@[simps]
def ItcInstance.setItcgwMboxid (s : ItcInstance σ) (itcgwMboxid : MboxId) : ItcInstance σ :=
  { s with itcgwMboxid }

def getNamespaceRequest (e : Endian) (a : Allocator) (mboxId : MboxId) :
    Except MemFault ItcMessage := do
  let msg ← deref (← itcAllocZz e a true 8 ITC_GET_NAMESPACE_REQUEST)
  let body ← store32 e msg.body 4 mboxId
  return { msg with body }

/-- What `itc_get_namespace_zz` takes from a message: `none` when it is not a reply. -/
def readNamespaceReply (e : Endian) (m : ItcMessage) : Except MemFault (Option CString) := do
  let msgno ← m.msgno e
  if msgno ≠ ITC_GET_NAMESPACE_REPLY then return none
  let ns ← strAt m.body 4
  return some ns

/-- The first message after the request is taken for the reply. -/
def awaitNamespaceReply (E : ItcEnv σ) (wait : Wait σ) (s : ItcInstance σ) (tid : Nat) :
    Except MemFault (Option (Option CString × ItcInstance σ)) := do
  let some (msg, s) ← itcReceiveTmo wait s tid | return none
  match msg with
  | none => return some (none, s)
  | some msg =>
      let m ← s.heap.read msg
      let reply ← readNamespaceReply E.endian m
      let s ← itcFree s msg
      match reply with
      | none => return some (none, s)
      | some ns => return some (some ns, s.setNs ns)

/-- `itc_get_namespace_zz`: the name it stores, `none` when it returns `false`. -/
def itcGetNamespace (E : ItcEnv σ) (fuel : Nat) (wait₁ wait₂ : Wait σ) (s : ItcInstance σ)
    (tid : Nat) (timeout : UInt32) : Except MemFault (Option (Option CString × ItcInstance σ)) :=
  match s.myThreadlocalMbox tid with
  | none => .ok (some (none, s))
  | some me =>
      if s.ns ≠ .empty then .ok (some (some s.ns, s)) else do
      let m ← getNamespaceRequest E.endian E.malloc (s.mboxes me).mboxId
      let (req, s) := s.alloc m
      let some (udp, s) ← itcLocateSync E fuel wait₁ s tid timeout ITC_GATEWAY_MBOX_UDP_NAME true
        | return none
      if udp.mboxId = ITC_NO_MBOX_ID then
        let s ← itcFree s req
        return some (none, s)
      let some (sent, s) ← sendOrFree E fuel s tid req udp.mboxId ITC_MY_MBOX_ID | return none
      if ¬ sent then return some (none, s)
      awaitNamespaceReply E wait₂ s tid

/-! ## `itc_send_zz` to a foreign namespace -/

/-- The gateway's mailbox, located once and for all. -/
def findItcgw (E : ItcEnv σ) (fuel : Nat) (wait : Wait σ) (s : ItcInstance σ) (tid : Nat) :
    Except MemFault (Option (MboxId × ItcInstance σ)) :=
  if s.itcgwMboxid ≠ ITC_NO_MBOX_ID then .ok (some (s.itcgwMboxid, s)) else do
  let some (r, s) ← itcLocateSync E fuel wait s tid 1000 ITC_GATEWAY_MBOX_TCP_CLI_NAME true
    | return none
  return some (r.mboxId, s.setItcgwMboxid r.mboxId)

/-- `handle_forward_itc_msg_to_itcgw` up to its `itc_send`: the request and where to send it, or
`none` when it returns `false`. -/
def prepareForward (E : ItcEnv σ) (fuel : Nat) (wait : Wait σ) (s : ItcInstance σ) (tid : Nat)
    (myMbox : MboxId) (message : Nat) (toMbox : MboxId) (ns : CString) :
    Except MemFault (Option (Option (Nat × MboxId) × ItcInstance σ)) := do
  let m ← s.heap.read message
  let heap ← s.heap.write message (m.stamp myMbox toMbox)
  let s := s.setHeap heap
  let some req ← fwdRequest E.endian E.malloc (m.stamp myMbox toMbox) ns
    | return some (none, s)
  let (req, s) := s.alloc req
  let some (itcgw, s) ← findItcgw E fuel wait s tid | return none
  if itcgw = ITC_NO_MBOX_ID then
    let s ← itcFree s req
    return some (none, s)
  return some (some (req, itcgw), s)

/-- The message itself stays behind, so what was taken of it is what its request carries. -/
def Taken.ofRequest (image : Bytes) : Taken → Taken
  | .lost => .lost
  | _ => .copied image

/-- `itc_send_zz` from the point where the message leaves the host. -/
def sendOutsideHost (E : ItcEnv σ) (fuel : Nat) (wait : Wait σ) (s : ItcInstance σ) (tid : Nat)
    (myMbox : MboxId) (message : Nat) (toMbox : MboxId) (ns : CString) :
    Except MemFault (Option (SendResult σ)) := do
  let some (request, s) ← prepareForward E fuel wait s tid myMbox message toMbox ns | return none
  match request with
  | none => return some ⟨false, some message, none, s⟩
  | some (req, itcgw) =>
      let some r ← itcSend E fuel s tid (some req) itcgw ITC_MY_MBOX_ID | return none
      if ¬ r.ret then
        let s ← itcFree r.s req
        return some ⟨false, some message, none, s⟩
      let m ← r.s.heap.read message
      let (freed, heap) ← itcFreeZz r.s.heap message
      let taken := r.taken.map (.ofRequest (m.header E.endian ++ m.userBytes))
      return some ⟨true, if freed then none else some message, taken, r.s.setHeap heap⟩

def itcSendZz (E : ItcEnv σ) (fuel : Nat) (wait : Wait σ) (s : ItcInstance σ) (tid : Nat)
    (msg : Option Nat) (toMbox fromMbox : MboxId) (ns : Option CString) :
    Except MemFault (Option (SendResult σ)) :=
  match ns with
  | none => itcSend E fuel s tid msg toMbox fromMbox
  | some ns =>
      if ns = s.ns then itcSend E fuel s tid msg toMbox fromMbox
      else
        match s.myThreadlocalMbox tid with
        | none => .ok (some ⟨false, msg, none, s⟩)
        | some me =>
            let myMbox := (s.mboxes me).mboxId
            if fromMbox ≠ ITC_MY_MBOX_ID ∧ fromMbox ≠ myMbox then
              .ok (some ⟨false, msg, none, s⟩)
            else
              match msg with
              | none => .ok (some ⟨false, none, none, s⟩)
              | some message => sendOutsideHost E fuel wait s tid myMbox message toMbox ns

end ItcFramework
