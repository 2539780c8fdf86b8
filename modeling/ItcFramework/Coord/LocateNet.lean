import ItcFramework.Coord.IncomingRequest
import ItcFramework.Gateway.MboxReply
import ItcFramework.Itc.Relay

/-!
# Locating mailboxes across hosts

The exchanges behind `itc_locate_sync`: the caller asks its coordinator, and the coordinator its
gateway, which asks the gateways of the other hosts. Every message goes through an ordinary mailbox
and says nothing about the request it answers. What a message is about is kept beside it here, as
its `Topic`, which no step of the code looks at.

* `LocateNet`, `LocateStep` — hosts with their coordinators and gateways, the calls that wait, and
  the messages and packets on their way; any call may stop waiting at any time.
* `LocateNet.Correct` — every call has returned `ITC_NO_MBOX_ID` or a mailbox of the name that it
  asked for, `ITC_NO_MBOX_ID` when its time was up, and no reply was taken for one to another name.
* `itcLocateSync_cases`, `handleLocateMbox_run` — the steps are those of the code.
-/

set_option autoImplicit false

namespace ItcFramework

open ByteImage HeapModel ItcInstance SearchTree Transition

variable {σ : Type}

/-! ## What is registered -/

/-- The mailboxes in `mbox_tree`. -/
def ItccoordInst.mailboxes (s : ItccoordInst) : List ItcMboxInfo :=
  s.mboxTree.toList.filterMap s.heap.cells

/-- The mailboxes in `local_locating_mbox_tree`. -/
def ItcInstance.mailboxes (s : ItcInstance σ) : List ItcMboxInfo :=
  s.localLocatingMboxTree.toList.map fun i => ⟨(s.mboxes i).mboxId, (s.mboxes i).name⟩

/-- A mailbox id is a right answer to the question for a name. -/
def IsAnswer (named : List ItcMboxInfo) (name : CString) (mboxId : MboxId) : Prop :=
  mboxId = ITC_NO_MBOX_ID ∨ ⟨mboxId, name⟩ ∈ named

theorem IsAnswer.mono {named named' : List ItcMboxInfo} {name : CString} {mboxId : MboxId}
    (h : IsAnswer named name mboxId) (hle : named ⊆ named') : IsAnswer named' name mboxId :=
  h.imp_right fun hmem => hle hmem

/-- What the coordinator finds is registered under that name. -/
theorem tfindMbox_mem {s : ItccoordInst} {name : CString} {mbox : ItcMboxInfo}
    (hfind : tfindMbox s name = .ok (some mbox)) : ⟨mbox.mboxId, name⟩ ∈ s.mailboxes := by
  obtain ⟨p, hwalk, hfind⟩ := bind_some_eq_ok hfind rfl
  have hfound := ItccoordInst.walk_eq hwalk
  obtain ⟨info, hread, hfind⟩ := bind_eq_ok hfind
  cases hfind
  have hcell := Heap.live_of_read hread
  obtain ⟨hmem, heq⟩ := SearchTree.Tree.find_some hfound.symm
  have hname : name = mbox.mboxName := by
    have hname := Std.LawfulEqCmp.eq_of_compare heq
    rwa [mboxName, hcell] at hname
  rw [ItccoordInst.mailboxes, List.mem_filterMap, hname]
  exact ⟨p, hmem, hcell⟩

/-- So is what a process finds. -/
theorem locateLocalMbox_mem {p : ItcInstance σ} {name : CString} {mbox : Nat}
    (hfind : locateLocalMbox p name = some mbox) :
    ⟨(p.mboxes mbox).mboxId, name⟩ ∈ p.mailboxes := by
  obtain ⟨hmem, heq⟩ := SearchTree.Tree.find_some hfind
  have hname : name = (p.mboxes mbox).name := Std.LawfulEqCmp.eq_of_compare heq
  rw [ItcInstance.mailboxes, List.mem_map, hname]
  exact ⟨mbox, hmem, rfl⟩

/-! ## The network -/

/-- What a message is about. -/
inductive Topic where
  | other
  | request (r : LocateRequest)
  | reply (name : CString)
  /-- The coordinator asks its gateway. -/
  | search (name : CString)
  | searchReply (name : CString)
  deriving DecidableEq, Repr

def Topic.reply? : Topic → Option CString
  | .reply name => some name
  | _ => none

def Topic.searchReply? : Topic → Option CString
  | .searchReply name => some name
  | _ => none

structure Letter where
  msg : ItcMessage
  topic : Topic
  deriving DecidableEq, Repr

/-- A packet of a TCP connection between two gateways, and the name it is about. -/
structure Packet where
  src : Nat
  dst : Nat
  bytes : Bytes
  name : CString
  deriving DecidableEq, Repr

/-- A call of `itc_locate_sync`; the server thread of a gateway makes it for a peer. -/
structure LocateCall where
  name : CString
  findOnlyInternal : Bool
  peer : Option Nat
  deriving DecidableEq, Repr

/-- What a call has returned. -/
structure Located where
  name : CString
  /-- No message came in time. -/
  expired : Bool
  mboxId : MboxId
  deriving DecidableEq, Repr

/-- The hosts of a network: what their processes run on, the coordinator's process and mailbox, and
those of the gateway's threads. -/
structure LocateHosts (σ : Type) where
  env : Nat → ItcEnv σ
  pid : Nat → Int
  itccoordMboxId : Nat → MboxId
  tcpClientMboxId : Nat → MboxId
  tcpServerMboxId : Nat → MboxId

structure LocateNet where
  registry : Nat → CoordLife
  /-- The rx queue of a mailbox of a host. -/
  queue : Nat → MboxId → List Letter
  /-- Messages on their way to a mailbox of a host. -/
  flight : List (Nat × MboxId × Letter)
  /-- What the owner of a mailbox waits for. -/
  calls : Nat → MboxId → Option LocateCall
  /-- The request for which the coordinator waits for its gateway. -/
  serving : Nat → Option LocateRequest
  /-- `itcgw_inst.itccoord_mbox_id` -/
  gwItccoordMboxId : Nat → MboxId
  /-- `ITCGW_LOCATE_MBOX_REQUEST` packets. -/
  asks : List Packet
  /-- `ITCGW_LOCATE_MBOX_REPLY` packets. -/
  tells : List Packet
  /-- Every mailbox that has been registered, with its name. -/
  named : List ItcMboxInfo
  returns : List Located
  /-- The names in the calls and searches that took a reply, and the names the replies were for. -/
  taken : List (CString × CString)

namespace LocateNet

def init (N : LocateHosts σ) : LocateNet where
  registry h := .init (N.pid h)
  queue _ _ := []
  flight := []
  calls _ _ := none
  serving _ := none
  gwItccoordMboxId _ := 0
  asks := []
  tells := []
  named := []
  returns := []
  taken := []

@[simps]
def setQueue (s : LocateNet) (h : Nat) (c : MboxId) (l : List Letter) : LocateNet :=
  { s with queue := fun h' c' => if h' = h ∧ c' = c then l else s.queue h' c' }

@[simps]
def setFlight (s : LocateNet) (flight : List (Nat × MboxId × Letter)) : LocateNet :=
  { s with flight }

@[simps]
def post (s : LocateNet) (h : Nat) (letters : List (MboxId × Letter)) : LocateNet :=
  { s with flight := s.flight ++ letters.map fun o => (h, o.1, o.2) }

@[simps]
def setCall (s : LocateNet) (h : Nat) (c : MboxId) (k : Option LocateCall) : LocateNet :=
  { s with calls := fun h' c' => if h' = h ∧ c' = c then k else s.calls h' c' }

@[simps]
def setServing (s : LocateNet) (h : Nat) (r : Option LocateRequest) : LocateNet :=
  { s with serving := fun h' => if h' = h then r else s.serving h' }

@[simps]
def setGwItccoord (s : LocateNet) (h : Nat) (mboxId : MboxId) : LocateNet :=
  { s with gwItccoordMboxId := fun h' => if h' = h then mboxId else s.gwItccoordMboxId h' }

@[simps]
def setPackets (s : LocateNet) (asks tells : List Packet) : LocateNet := { s with asks, tells }

@[simps]
def learn (s : LocateNet) (mailboxes : List ItcMboxInfo) : LocateNet :=
  { s with named := s.named ++ mailboxes }

@[simps]
def setRegistry (s : LocateNet) (h : Nat) (w : CoordLife) : LocateNet :=
  { s with
    registry := fun h' => if h' = h then w else s.registry h'
    named := s.named ++ w.inst.mailboxes }

/-- A message is taken for the reply to the question for `name`. -/
@[simps]
def take (s : LocateNet) (name : CString) (replyTo : Option CString) : LocateNet :=
  { s with taken := s.taken ++ replyTo.toList.map fun name' => (name, name') }

/-- A call returns, and the server thread tells its peer. -/
@[simps]
def finish (s : LocateNet) (h : Nat) (c : MboxId) (k : LocateCall) (expired : Bool)
    (mboxId : MboxId) (told : List Packet) : LocateNet :=
  { s with
    calls := fun h' c' => if h' = h ∧ c' = c then none else s.calls h' c'
    returns := s.returns ++ [⟨k.name, expired, mboxId⟩]
    tells := s.tells ++ told }

/-- The message is in the queue of the mailbox or on its way there. -/
def Holds (s : LocateNet) (h : Nat) (c : MboxId) (l : Letter) : Prop :=
  l ∈ s.queue h c ∨ (h, c, l) ∈ s.flight

end LocateNet

/-! ## What the parties do -/

/-- What `itc_locate_sync` returns when its `itc_receive` has given this message, or none. -/
def locateReturn (e : Endian) (findOnlyInternal : Bool) : Option ItcMessage → Except MemFault MboxId
  -- `return false`
  | none => .ok 0
  | some m => do
      let reply ← readLocateReply e m findOnlyInternal
      return (reply.getD ⟨ITC_NO_MBOX_ID, none⟩).mboxId

/-- What `handle_receive_locate_mbox` sends when its `itc_locate_sync` has returned; `sent` is what
`send()` answers. -/
def tellPeer (e : Endian) (pid : UInt32) (sent : Bool) (h : Nat) (k : LocateCall)
    (mboxId : MboxId) : List Packet :=
  match k.peer with
  | none => []
  | some peer =>
      if mboxId = ITC_NO_MBOX_ID ∨ ¬ sent then []
      else [⟨h, peer, locateReplyPacket e pid mboxId, k.name⟩]

/-- `handle_locate_mbox` once its `itc_receive` has given this message. -/
def answerFromGateway (e : Endian) (a : Allocator) (sys : LocateMboxSys) (fromMbox : MboxId)
    (m : ItcMessage) : Except MemFault (List Outgoing) := do
  match ← readGatewayReply e m with
  | none => return []
  | some (mboxId, ns) => sendLocateReply e a sys fromMbox mboxId sys.uninitPid true ns

/-- `handle_locate_mbox` comes to its `itc_receive`. -/
structure Searches (sys : LocateMboxSys) (s : ItccoordInst) (r : LocateRequest)
    (itcgw : ItcMboxInfo) : Prop where
  unknown : tfindMbox s r.name = .ok none
  external : r.findOnlyInternal = false
  gateway : tfindMbox s ITC_GATEWAY_MBOX_TCP_CLI_NAME = .ok (some itcgw)
  sent : sys.sendRequest = true

/-- The process `p` has a thread that owns mailbox `c`. -/
structure Owns (E : ItcEnv σ) (p : ItcInstance σ) (c : MboxId) : Prop where
  reached : Reached E p
  thread : ∃ tid me, p.myThreadlocalMbox tid = some me ∧ (p.mboxes me).mboxId = c

/-- No message of the exchanges. -/
def OtherMessage (e : Endian) (m : ItcMessage) : Prop :=
  ∀ msgno, m.msgno e = .ok msgno → msgno ≠ ITC_LOCATE_MBOX_SYNC_REQUEST ∧
    msgno ≠ ITC_LOCATE_MBOX_SYNC_REPLY ∧ msgno ≠ ITC_LOCATE_MBOX_FROM_ITCGWS_REQUEST ∧
    msgno ≠ ITC_LOCATE_MBOX_FROM_ITCGWS_REPLY

/-! ## Steps -/

inductive LocateAction where
  | registry (h : Nat) (act : LifeAction)
  | send (h : Nat) (dest : MboxId)
  | deliver (h : Nat) (dest : MboxId)
  /-- A message to a mailbox that is gone. -/
  | lose (h : Nat) (dest : MboxId)
  | receive (h : Nat) (c : MboxId)
  /-- The name is found in the caller's process. -/
  | locateHere (h : Nat) (c : MboxId) (k : LocateCall)
  /-- The request cannot be sent. -/
  | locateUnsent (h : Nat) (c : MboxId) (k : LocateCall)
  | locateAsks (h : Nat) (c : MboxId) (k : LocateCall)
  | locateExpires (h : Nat) (c : MboxId)
  | locateTakes (h : Nat) (c : MboxId)
  | serve (h : Nat)
  | serveLocate (h : Nat)
  | search (h : Nat) (r : LocateRequest)
  | searchExpires (h : Nat)
  | searchTakes (h : Nat)
  | gatewayAsks (h : Nat) (peers : List Nat)
  | gatewayTells (h : Nat)
  | disconnect

/-- What makes the owner of a mailbox call `itc_locate_sync`: the user, or for the server thread of
a gateway a packet of a peer. -/
inductive Begins (N : LocateHosts σ) (s : LocateNet) (h : Nat) (c : MboxId) :
    LocateCall → LocateNet → Prop where
  | user (name : CString) (findOnlyInternal : Bool) :
      Begins N s h c ⟨name, findOnlyInternal, none⟩ s
  | server {xs ys : List Packet} {k : Packet} {sock sock' : ByteStream} {rest : Bytes}
      {name : CString} (hc : c = N.tcpServerMboxId h) (hasks : s.asks = xs ++ k :: ys)
      (hdst : k.dst = h) (hsock : sock.bytes = k.bytes ++ rest)
      (hserver : handleReceiveTcpPacketAtServer (N.env h).endian (N.env h).malloc sock =
        .ok (.locateSync name, sock')) :
      Begins N s h c ⟨name, true, some k.src⟩ (s.setPackets (xs ++ ys) s.tells)

inductive LocateStep (N : LocateHosts σ) (s : LocateNet) : LocateAction → LocateNet → Prop where
  | registry {h : Nat} {act : LifeAction} {w : CoordLife}
      (hstep : LifeStep (N.env h).tree (s.registry h) act w) :
      LocateStep N s (.registry h act) (s.setRegistry h w)
  | send {h : Nat} {dest : MboxId} {m : ItcMessage} (hm : OtherMessage (N.env h).endian m) :
      LocateStep N s (.send h dest) (s.post h [(dest, ⟨m, .other⟩)])
  | deliver {h : Nat} {dest : MboxId} {l : Letter} {xs ys : List (Nat × MboxId × Letter)}
      (hflight : s.flight = xs ++ (h, dest, l) :: ys) :
      LocateStep N s (.deliver h dest)
        ((s.setFlight (xs ++ ys)).setQueue h dest (s.queue h dest ++ [l]))
  | lose {h : Nat} {dest : MboxId} {l : Letter} {xs ys : List (Nat × MboxId × Letter)}
      (hflight : s.flight = xs ++ (h, dest, l) :: ys) :
      LocateStep N s (.lose h dest) (s.setFlight (xs ++ ys))
  -- `itc_receive` by a thread that is not in a call, and not the coordinator
  | receive {h : Nat} {c : MboxId} {l : Letter} {rest : List Letter}
      (hidle : s.calls h c = none) (hc : c ≠ N.itccoordMboxId h) (hqueue : s.queue h c = l :: rest) :
      LocateStep N s (.receive h c) (s.setQueue h c rest)
  | locateHere {h : Nat} {c : MboxId} {k : LocateCall} {s₁ : LocateNet} {p : ItcInstance σ}
      {mbox : Nat} {pid : UInt32} {sent : Bool} (hidle : s.calls h c = none)
      (hbegin : Begins N s h c k s₁) (howner : Owns (N.env h) p c)
      (hlocal : locateLocalMbox p k.name = some mbox) :
      LocateStep N s (.locateHere h c k)
        ((s₁.learn p.mailboxes).finish h c k false (p.mboxes mbox).mboxId
          (tellPeer (N.env h).endian pid sent h k (p.mboxes mbox).mboxId))
  | locateUnsent {h : Nat} {c : MboxId} {k : LocateCall} {s₁ : LocateNet} {p : ItcInstance σ}
      (hidle : s.calls h c = none) (hbegin : Begins N s h c k s₁) (howner : Owns (N.env h) p c)
      (hlocal : locateLocalMbox p k.name = none) :
      LocateStep N s (.locateUnsent h c k) (s₁.finish h c k false ITC_NO_MBOX_ID [])
  | locateAsks {h : Nat} {c : MboxId} {k : LocateCall} {s₁ : LocateNet} {p : ItcInstance σ}
      {timeout : UInt32} {req : ItcMessage} (hidle : s.calls h c = none)
      (hbegin : Begins N s h c k s₁) (howner : Owns (N.env h) p c)
      (hlocal : locateLocalMbox p k.name = none)
      (hreq : locateMboxSyncRequest (N.env h).endian (N.env h).malloc c timeout k.findOnlyInternal
        k.name = .ok req) :
      LocateStep N s (.locateAsks h c k)
        ((s₁.post h [(N.itccoordMboxId h,
          ⟨req, .request ⟨c, timeout, k.findOnlyInternal, k.name⟩⟩)]).setCall h c (some k))
  | locateExpires {h : Nat} {c : MboxId} {k : LocateCall} {mboxId : MboxId} {pid : UInt32}
      {sent : Bool} (hcall : s.calls h c = some k)
      (hreturn : locateReturn (N.env h).endian k.findOnlyInternal none = .ok mboxId) :
      LocateStep N s (.locateExpires h c)
        (s.finish h c k true mboxId (tellPeer (N.env h).endian pid sent h k mboxId))
  | locateTakes {h : Nat} {c : MboxId} {k : LocateCall} {l : Letter} {rest : List Letter}
      {mboxId : MboxId} {pid : UInt32} {sent : Bool} (hcall : s.calls h c = some k)
      (hqueue : s.queue h c = l :: rest)
      (hreturn : locateReturn (N.env h).endian k.findOnlyInternal (some l.msg) = .ok mboxId) :
      LocateStep N s (.locateTakes h c)
        (((s.setQueue h c rest).take k.name l.topic.reply?).finish h c k false mboxId
          (tellPeer (N.env h).endian pid sent h k mboxId))
  -- the coordinator serves another message than a locate request
  | serve {h : Nat} {l : Letter} {rest : List Letter} {request : Coordinator.Request}
      (hidle : s.serving h = none) (hqueue : s.queue h (N.itccoordMboxId h) = l :: rest)
      (hread : Coordinator.readRequest (N.env h).endian l.msg = .ok request)
      (hother : ∀ r, request ≠ .locateMbox r) :
      LocateStep N s (.serve h) (s.setQueue h (N.itccoordMboxId h) rest)
  | serveLocate {h : Nat} {l : Letter} {rest : List Letter} {r : LocateRequest}
      {sys : LocateMboxSys} {sent : List Outgoing} (hidle : s.serving h = none)
      (hqueue : s.queue h (N.itccoordMboxId h) = l :: rest)
      (hread : Coordinator.readRequest (N.env h).endian l.msg = .ok (.locateMbox r))
      (hstays : ∀ itcgw, ¬ Searches sys (s.registry h).inst r itcgw)
      (hcall : handleLocateMbox (N.env h).endian (N.env h).malloc sys (s.registry h)
        (N.itccoordMboxId h) r.fromMbox r.timeout r.findOnlyInternal r.name = .ok sent) :
      LocateStep N s (.serveLocate h)
        ((s.setQueue h (N.itccoordMboxId h) rest).post h
          (sent.map fun o => (o.1, ⟨o.2, .reply r.name⟩)))
  | search {h : Nat} {l : Letter} {rest : List Letter} {r : LocateRequest} {sys : LocateMboxSys}
      {itcgw : ItcMboxInfo} {req : ItcMessage} (hidle : s.serving h = none)
      (hqueue : s.queue h (N.itccoordMboxId h) = l :: rest)
      (hread : Coordinator.readRequest (N.env h).endian l.msg = .ok (.locateMbox r))
      (hsearch : Searches sys (s.registry h).inst r itcgw)
      (hreq : idNameMsg (N.env h).endian (N.env h).malloc ITC_LOCATE_MBOX_FROM_ITCGWS_REQUEST
        (N.itccoordMboxId h) r.name = .ok req) :
      LocateStep N s (.search h r)
        (((s.setQueue h (N.itccoordMboxId h) rest).post h
          [(itcgw.mboxId, ⟨req, .search r.name⟩)]).setServing h (some r))
  | searchExpires {h : Nat} {r : LocateRequest} (hserving : s.serving h = some r) :
      LocateStep N s (.searchExpires h) (s.setServing h none)
  | searchTakes {h : Nat} {r : LocateRequest} {l : Letter} {rest : List Letter}
      {sys : LocateMboxSys} {sent : List Outgoing} (hserving : s.serving h = some r)
      (hqueue : s.queue h (N.itccoordMboxId h) = l :: rest)
      (hcall : answerFromGateway (N.env h).endian (N.env h).malloc sys r.fromMbox l.msg =
        .ok sent) :
      LocateStep N s (.searchTakes h)
        ((((s.setQueue h (N.itccoordMboxId h) rest).take r.name l.topic.searchReply?).post h
          (sent.map fun o => (o.1, ⟨o.2, .reply r.name⟩))).setServing h none)
  -- to the peers whose `send()` succeeds
  | gatewayAsks {h : Nat} {l : Letter} {rest : List Letter} {mboxId : MboxId} {name : CString}
      {pid : UInt32} {packet : Bytes} {peers : List Nat} (hpeers : peers ≠ [])
      (hqueue : s.queue h (N.tcpClientMboxId h) = l :: rest)
      (hmsgno : l.msg.msgno (N.env h).endian = .ok ITC_LOCATE_MBOX_FROM_ITCGWS_REQUEST)
      (hcoord : load32 (N.env h).endian l.msg.body 4 = .ok mboxId)
      (hname : strAt l.msg.body offMboxname = .ok name)
      (hpacket : locateMboxPacket (N.env h).endian pid l.msg = .ok packet) :
      LocateStep N s (.gatewayAsks h peers)
        (((s.setQueue h (N.tcpClientMboxId h) rest).setGwItccoord h mboxId).setPackets
          (s.asks ++ peers.map fun peer => ⟨h, peer, packet, name⟩) s.tells)
  | gatewayAlone {h : Nat} {l : Letter} {rest : List Letter} {mboxId : MboxId} {name : CString}
      {m : ItcMessage} (hqueue : s.queue h (N.tcpClientMboxId h) = l :: rest)
      (hmsgno : l.msg.msgno (N.env h).endian = .ok ITC_LOCATE_MBOX_FROM_ITCGWS_REQUEST)
      (hcoord : load32 (N.env h).endian l.msg.body 4 = .ok mboxId)
      (hname : strAt l.msg.body offMboxname = .ok name)
      (hreply : locateMboxFromItcgwsReply (N.env h).endian (N.env h).malloc ITC_NO_MBOX_ID .empty =
        .ok m) :
      LocateStep N s (.gatewayAsks h [])
        (((s.setQueue h (N.tcpClientMboxId h) rest).setGwItccoord h mboxId).post h
          [(mboxId, ⟨m, .searchReply name⟩)])
  | gatewayTells {h : Nat} {xs ys : List Packet} {k : Packet} {sock sock' : ByteStream}
      {rest : Bytes} {peer : Option CString} {m : ItcMessage} (htells : s.tells = xs ++ k :: ys)
      (hdst : k.dst = h) (hsock : sock.bytes = k.bytes ++ rest)
      (hclient : handleReceiveTcpPacketAtClient (N.env h).endian (N.env h).malloc peer sock =
        .ok (.sendReply m, sock')) :
      LocateStep N s (.gatewayTells h)
        ((s.setPackets s.asks (xs ++ ys)).post h
          [(s.gwItccoordMboxId h, ⟨m, .searchReply k.name⟩)])
  | disconnect {asks tells : List Packet} (hasks : asks.Sublist s.asks)
      (htells : tells.Sublist s.tells) : LocateStep N s .disconnect (s.setPackets asks tells)

/-! ## The steps of the code -/

/-- **A call of `itc_locate_sync`** finds the name in its own process, cannot send its request, or
returns what the first message after the request makes of it. -/
theorem itcLocateSync_cases {E : ItcEnv σ} {fuel tid : Nat} {wait : Wait σ} {p p' : ItcInstance σ}
    {timeout : UInt32} {name : CString} {findOnlyInternal : Bool} {r : LocateResult}
    (hcall : itcLocateSync E fuel wait p tid timeout name findOnlyInternal = .ok (some (r, p'))) :
    p.myThreadlocalMbox tid = none ∧ r.mboxId = ITC_NO_MBOX_ID ∨
    ∃ me, p.myThreadlocalMbox tid = some me ∧
      ((∃ mbox, locateLocalMbox p name = some mbox ∧ r.mboxId = (p.mboxes mbox).mboxId) ∨
      locateLocalMbox p name = none ∧ (r.mboxId = ITC_NO_MBOX_ID ∨
        ∃ req msg p₁ p₂, locateMboxSyncRequest E.endian E.malloc (p.mboxes me).mboxId timeout
            findOnlyInternal name = .ok req ∧
          itcReceiveTmo wait p₁ tid = .ok (some (msg, p₂)) ∧
          locateReturn E.endian findOnlyInternal (msg.bind p₂.heap.cells) = .ok r.mboxId)) := by
  unfold itcLocateSync at hcall
  cases ht : p.myThreadlocalMbox tid with
  | none =>
    rw [ht] at hcall
    cases hcall
    exact .inl ⟨rfl, rfl⟩
  | some me =>
    refine .inr ⟨me, rfl, ?_⟩
    rw [ht] at hcall
    cases hlocal : locateLocalMbox p name with
    | some mbox =>
      rw [hlocal] at hcall
      cases hcall
      exact .inl ⟨mbox, rfl, rfl⟩
    | none =>
      refine .inr ⟨rfl, ?_⟩
      rw [hlocal] at hcall
      obtain ⟨⟨sent, p₁⟩, hsend, hcall⟩ := bind_some_eq_ok hcall rfl
      cases sent with
      | false =>
        cases hcall
        exact .inl rfl
      | true =>
        obtain ⟨req, hreq, -⟩ := bind_eq_ok hsend
        obtain ⟨⟨msg, p₂⟩, hreceive, hcall⟩ := bind_some_eq_ok hcall rfl
        refine .inr ⟨req, msg, p₁, p₂, hreq, hreceive, ?_⟩
        cases msg with
        | none =>
          cases hcall
          rfl
        | some msg =>
          obtain ⟨m, hm, hcall⟩ := bind_eq_ok hcall
          obtain ⟨reply, hreply, hcall⟩ := bind_eq_ok hcall
          obtain ⟨p₃, -, hcall⟩ := bind_eq_ok hcall
          cases hcall
          have hcell := Heap.live_of_read hm
          simp only [Option.bind_some, hcell, locateReturn, hreply, bind, Except.bind]
          rfl

/-- **A search through the gateway** sends the request, waits, and answers with what it is given. -/
theorem handleLocateMbox_search {e : Endian} {a : Allocator} {sys : LocateMboxSys} {w : CoordLife}
    {itccoordMboxId : MboxId} {r : LocateRequest} {itcgw : ItcMboxInfo} {req : ItcMessage}
    (hsearch : Searches sys w.inst r itcgw)
    (hreq : idNameMsg e a ITC_LOCATE_MBOX_FROM_ITCGWS_REQUEST itccoordMboxId r.name = .ok req) :
    handleLocateMbox e a sys w itccoordMboxId r.fromMbox r.timeout r.findOnlyInternal r.name =
      match sys.receive r.timeout with
      | none => .ok [(itcgw.mboxId, req)]
      | some m => (answerFromGateway e a sys r.fromMbox m).map ((itcgw.mboxId, req) :: ·) := by
  obtain ⟨hunknown, hexternal, hgateway, hsent⟩ := hsearch
  simp only [handleLocateMbox, hunknown, hexternal, locateThroughGateway, hreq, hgateway, hsent,
    bind, Except.bind]
  cases sys.receive r.timeout with
  | none => rfl
  | some m =>
    simp only [answerFromGateway, bind, Except.bind]
    cases readGatewayReply e m with
    | error fault => rfl
    | ok reply =>
      cases reply with
      | none => rfl
      | some reply =>
        simp only
        cases sendLocateReply e a sys r.fromMbox reply.1 sys.uninitPid true reply.2 with
        | error fault => rfl
        | ok sent => rfl

/-- A search sends its request first, if there is memory for one. -/
theorem Searches.request {e : Endian} {a : Allocator} {sys : LocateMboxSys} {w : CoordLife}
    {itccoordMboxId : MboxId} {r : LocateRequest} {itcgw : ItcMboxInfo} {sent : List Outgoing}
    (hsearch : Searches sys w.inst r itcgw)
    (hcall : handleLocateMbox e a sys w itccoordMboxId r.fromMbox r.timeout r.findOnlyInternal
      r.name = .ok sent) :
    ∃ req, idNameMsg e a ITC_LOCATE_MBOX_FROM_ITCGWS_REQUEST itccoordMboxId r.name = .ok req := by
  obtain ⟨hunknown, hexternal, -, -⟩ := hsearch
  cases hreq : idNameMsg e a ITC_LOCATE_MBOX_FROM_ITCGWS_REQUEST itccoordMboxId r.name with
  | ok req => exact ⟨req, rfl⟩
  | error fault =>
    simp only [handleLocateMbox, hunknown, hexternal, locateThroughGateway, hreq, bind,
      Except.bind] at hcall
    cases hcall

/-- **A call of `handle_locate_mbox` is a run of the network**: it is served at once, or it searches
and its wait ends, without a message or with the next one in the queue. What it has sent is on its
way then. -/
theorem handleLocateMbox_run {N : LocateHosts σ} {s : LocateNet} {h : Nat} {l : Letter}
    {rest : List Letter} {r : LocateRequest} {sys : LocateMboxSys} {sent : List Outgoing}
    (hidle : s.serving h = none) (hqueue : s.queue h (N.itccoordMboxId h) = l :: rest)
    (hread : Coordinator.readRequest (N.env h).endian l.msg = .ok (.locateMbox r))
    (hwait : ∀ m, sys.receive r.timeout = some m → ∃ topic rest', rest = ⟨m, topic⟩ :: rest')
    (hcall : handleLocateMbox (N.env h).endian (N.env h).malloc sys (s.registry h)
      (N.itccoordMboxId h) r.fromMbox r.timeout r.findOnlyInternal r.name = .ok sent) :
    ∃ (acts : List LocateAction) (s' : LocateNet) (letters : List (MboxId × Letter)),
      Run (LocateStep N) s acts s' ∧ s'.serving h = none ∧
      s'.flight = s.flight ++ letters.map (fun o => (h, o.1, o.2)) ∧
      letters.map (fun o => (o.1, o.2.msg)) = sent := by
  by_cases hsearch : ∃ itcgw, Searches sys (s.registry h).inst r itcgw
  · obtain ⟨itcgw, hsearch⟩ := hsearch
    obtain ⟨req, hreq⟩ := hsearch.request hcall
    have hasks := LocateStep.search hidle hqueue hread hsearch hreq
    have hsearching : (((s.setQueue h (N.itccoordMboxId h) rest).post h
        [(itcgw.mboxId, ⟨req, .search r.name⟩)]).setServing h (some r)).serving h = some r :=
      if_pos rfl
    rw [handleLocateMbox_search hsearch hreq] at hcall
    cases hreceive : sys.receive r.timeout with
    | none =>
      rw [hreceive] at hcall
      cases hcall
      refine ⟨_, _, [(itcgw.mboxId, ⟨req, .search r.name⟩)], .cons hasks (.cons
        (.searchExpires hsearching) (.nil _)), ?_, rfl, rfl⟩
      simp
    | some m =>
      obtain ⟨topic, rest', rfl⟩ := hwait m hreceive
      rw [hreceive] at hcall
      dsimp only at hcall
      obtain ⟨answer, hanswer, rfl⟩ : ∃ answer, answerFromGateway (N.env h).endian
          (N.env h).malloc sys r.fromMbox m = .ok answer ∧ (itcgw.mboxId, req) :: answer = sent := by
        cases hanswer : answerFromGateway (N.env h).endian (N.env h).malloc sys r.fromMbox m with
        | error fault =>
          rw [hanswer] at hcall
          cases hcall
        | ok answer =>
          rw [hanswer] at hcall
          exact ⟨answer, rfl, Except.ok.inj hcall⟩
      refine ⟨_, _, (itcgw.mboxId, ⟨req, .search r.name⟩) ::
        answer.map fun o => (o.1, ⟨o.2, .reply r.name⟩), .cons hasks (.cons
        (.searchTakes (l := ⟨m, topic⟩) hsearching (if_pos ⟨rfl, rfl⟩) hanswer) (.nil _)), ?_, ?_, ?_⟩
      · simp
      · simp
      · simp [Function.comp_def]
  · refine ⟨_, _, sent.map fun o => (o.1, ⟨o.2, .reply r.name⟩),
      .cons (.serveLocate hidle hqueue hread (not_exists.mp hsearch) hcall) (.nil _), hidle, rfl, ?_⟩
    simp [Function.comp_def]

/-! ## What the coordinator replies -/

section Replies

variable {e : Endian} {a : Allocator} {sys : LocateMboxSys} {sent : List Outgoing}

theorem sendLocateReply_mem {fromMbox mboxId : MboxId} {pid : UInt32} {isExternal : Bool}
    {ns : CString} (hcall : sendLocateReply e a sys fromMbox mboxId pid isExternal ns = .ok sent) :
    ∀ o ∈ sent, o.1 = fromMbox ∧ locateMboxSyncReply e a mboxId pid isExternal ns = .ok o.2 := by
  obtain ⟨m, hm, hcall⟩ := bind_eq_ok hcall
  cases hcall
  intro o ho
  split at ho
  · obtain rfl := List.mem_singleton.mp ho
    exact ⟨rfl, hm⟩
  · cases ho

/-- What is sent by a handler that does not ask its gateway. -/
theorem handleLocateMbox_replies {w : CoordLife} {itccoordMboxId : MboxId} {r : LocateRequest}
    (hstays : ∀ itcgw, ¬ Searches sys w.inst r itcgw)
    (hcall : handleLocateMbox e a sys w itccoordMboxId r.fromMbox r.timeout r.findOnlyInternal
      r.name = .ok sent) :
    ∀ o ∈ sent, o.1 = r.fromMbox ∧ ∃ mboxId pid isExternal ns,
      locateMboxSyncReply e a mboxId pid isExternal ns = .ok o.2 ∧
        IsAnswer w.inst.mailboxes r.name mboxId := by
  have hreply : ∀ {mboxId : MboxId} {pid : UInt32} {isExternal : Bool} {ns : CString},
      IsAnswer w.inst.mailboxes r.name mboxId →
      sendLocateReply e a sys r.fromMbox mboxId pid isExternal ns = .ok sent →
      ∀ o ∈ sent, o.1 = r.fromMbox ∧ ∃ mboxId pid isExternal ns,
        locateMboxSyncReply e a mboxId pid isExternal ns = .ok o.2 ∧
          IsAnswer w.inst.mailboxes r.name mboxId := by
    intro mboxId pid isExternal ns hanswer hsend o ho
    obtain ⟨hdest, hm⟩ := sendLocateReply_mem hsend o ho
    exact ⟨hdest, mboxId, pid, isExternal, ns, hm, hanswer⟩
  obtain ⟨found, hfind, hcall⟩ := bind_eq_ok hcall
  cases found with
  | some mbox =>
    obtain ⟨o, -, hcall⟩ := bind_eq_ok hcall
    cases o with
    | none =>
      cases hcall
      exact fun o ho => by cases ho
    | some proc =>
      dsimp only at hcall
      split at hcall
      · cases hcall
        exact fun o ho => by cases ho
      · exact hreply (.inr (tfindMbox_mem hfind)) hcall
  | none =>
    dsimp only at hcall
    split at hcall
    · exact hreply (.inl rfl) hcall
    · rename_i hexternal
      obtain ⟨req, -, hcall⟩ := bind_eq_ok hcall
      obtain ⟨o, hgateway, hcall⟩ := bind_eq_ok hcall
      cases o with
      | none =>
        cases hcall
        exact fun o ho => by cases ho
      | some itcgw =>
        dsimp only at hcall
        split at hcall
        · cases hcall
          exact fun o ho => by cases ho
        · rename_i hsent
          refine absurd ⟨hfind, ?_, hgateway, ?_⟩ (hstays itcgw)
          · simpa using hexternal
          · simpa using hsent

/-- What it sends once the gateway has replied. -/
theorem answerFromGateway_replies {fromMbox : MboxId} {m : ItcMessage}
    (hcall : answerFromGateway e a sys fromMbox m = .ok sent) :
    ∀ o ∈ sent, o.1 = fromMbox ∧ ∃ mboxId pid isExternal ns,
      locateMboxSyncReply e a mboxId pid isExternal ns = .ok o.2 ∧
        ∃ ns', readGatewayReply e m = .ok (some (mboxId, ns')) := by
  obtain ⟨reply, hread, hcall⟩ := bind_eq_ok hcall
  cases reply with
  | none =>
    cases hcall
    exact fun o ho => by cases ho
  | some reply =>
    obtain ⟨mboxId, ns⟩ := reply
    intro o ho
    obtain ⟨hdest, hm⟩ := sendLocateReply_mem hcall o ho
    exact ⟨hdest, mboxId, _, _, _, hm, ns, hread⟩

end Replies

/-! ## What is expected of the calls -/

/-- **Locate answers the question that was asked.** -/
structure LocateNet.Correct (s : LocateNet) : Prop where
  answers : ∀ r ∈ s.returns, IsAnswer s.named r.name r.mboxId
  timeouts : ∀ r ∈ s.returns, r.expired = true → r.mboxId = ITC_NO_MBOX_ID
  matched : ∀ t ∈ s.taken, t.2 = t.1

end ItcFramework
