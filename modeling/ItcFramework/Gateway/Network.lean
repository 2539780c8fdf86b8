import ItcFramework.Gateway.Turns
import ItcFramework.Lib.Pipe
import ItcFramework.Lib.Transition

/-!
# A network of gateways

Any number of hosts of one byte order, each with its gateway: they greet one another, connect, and
forward messages and locate requests. A thread handles one message or one packet at a time; between
two such steps any other thread of any host may run, a thread may return and a process may exit.

* `GatewayHosts` — namespaces and addresses.
* `GatewayConn` — a TCP connection, with what its two ends make of what is written to it.
* `GatewayNet`, `GatewayStep` — the gateways and their connections. What the client thread of a host
  was asked for, and on which connections it has sent that, is kept beside them; no step looks at
  it.
-/

set_option autoImplicit false

namespace ItcFramework

open ByteImage SearchTree Transition

/-! ## Hosts -/

structure GatewayHost where
  ns : GwNamespace
  ip : UInt8 × UInt8 × UInt8 × UInt8
  pid : UInt32

def GatewayHost.tcpIp (h : GatewayHost) : CString := inetNtoa h.ip.1 h.ip.2.1 h.ip.2.2.1 h.ip.2.2.2

/-- `"tcp://%s:%hu/"` -/
def GatewayHost.addr (h : GatewayHost) : CString :=
  tcpAddr h.tcpIp (printHu ITC_GATEWAY_TCP_LISTENING_PORT)

/-- The hosts, with names and addresses that greetings and announcements carry. -/
structure GatewayHosts (H : Type) where
  endian : Endian
  malloc : Allocator
  tree : TreeImpl Nat
  host : H → GatewayHost
  /-- No `'>'`: the greeting is read back. -/
  nsPlain : ∀ h, 62 ∉ (host h).ns.name.bytes
  /-- The address fits `ITCGW_UDP_ADD_PEER`. -/
  addrFits : ∀ h, (host h).addr.strlen ≤ 24
  tcpIp_inj : ∀ h k, (host h).tcpIp = (host k).tcpIp → h = k

variable {H : Type}

/-- What `create_broadcast_message` gives. -/
def GatewayHosts.greeting (N : GatewayHosts H) (h : H) : Bytes :=
  createBroadcastMessage (N.host h).ns.name (N.host h).tcpIp ITC_GATEWAY_TCP_LISTENING_PORT

/-! ## Connections -/

/-- The server's end of a connection. -/
inductive ServerEnd where
  /-- Not accepted yet. -/
  | backlog
  | accepted (fd : Int)
  | closed
  deriving DecidableEq, Repr

/-- The host `client` has connected to the host `server`. -/
structure GatewayConn (H : Type) where
  client : H
  server : H
  /-- The client's socket; `none` when it is closed. -/
  clientFd : Option Int
  serverEnd : ServerEnd
  out : Pipe UInt8 Frame ServerEvent
  /-- With the name that was asked for and the mailbox that was found. -/
  back : Pipe UInt8 (CString × MboxId) ClientEvent

/-- What `connect()` leaves. -/
def GatewayConn.fresh (client server : H) (fd : Int) : GatewayConn H :=
  ⟨client, server, some fd, .backlog, .empty, .empty⟩

/-- The ends of the connections that a process holds are closed when it exits. -/
def GatewayConn.closedBy [DecidableEq H] (h : H) (c : GatewayConn H) : GatewayConn H :=
  { c with
    clientFd := if c.client = h then none else c.clientFd
    serverEnd := if c.server = h then .closed else c.serverEnd }

/-! ## The network -/

/-- A message in the mailbox of the client thread, and the frame it asks for. -/
structure ClientLetter where
  msg : ItcMessage
  topic : Option Frame

structure GatewayNode where
  udp : UdpTable
  client : PeerTable
  server : PeerTable
  udpMbox : List ItcMessage
  clientMbox : List ClientLetter
  itccoordMboxId : MboxId
  /-- The thread has not returned. -/
  clientUp : Bool
  serverUp : Bool

/-- The gateway after its set-up. -/
def GatewayNode.init : GatewayNode := ⟨.init, .init, .init, [], [], ITC_NO_MBOX_ID, true, true⟩

structure GatewayNet (H : Type) where
  node : H → GatewayNode
  conns : Nat → Option (GatewayConn H)
  /-- The frames that the client thread was asked for. -/
  asked : H → List Frame
  /-- The frames that it has dealt with, each with the connections it has sent it on. -/
  routed : H → List (Frame × List Nat)

namespace GatewayNet

def init : GatewayNet H := ⟨fun _ => .init, fun _ => none, fun _ => [], fun _ => []⟩

/-- The frames whose requests wait in the mailbox of the client thread. -/
def waiting (s : GatewayNet H) (h : H) : List Frame :=
  (s.node h).clientMbox.filterMap ClientLetter.topic

/-- The connection `i` goes from `h` to `k`. -/
def Joins (s : GatewayNet H) (i : Nat) (h k : H) : Prop :=
  ∃ c, s.conns i = some c ∧ c.client = h ∧ c.server = k

/-- The connection `i` has the socket `fd` of `h` at the client's end. -/
def HasClientFd (s : GatewayNet H) (h : H) (i : Nat) (fd : Int) : Prop :=
  ∃ c, s.conns i = some c ∧ c.client = h ∧ c.clientFd = some fd

/-- A socket that the kernel can give to a thread of `h`. -/
def FreshFd (s : GatewayNet H) (h : H) (fd : Int) : Prop :=
  0 ≤ fd ∧ ∀ i c, s.conns i = some c →
    (c.client = h → c.clientFd ≠ some fd) ∧ (c.server = h → c.serverEnd ≠ .accepted fd)

variable [DecidableEq H]

@[simps]
def setNode (s : GatewayNet H) (h : H) (n : GatewayNode) : GatewayNet H :=
  { s with node := fun h' => if h' = h then n else s.node h' }

@[simps]
def setConn (s : GatewayNet H) (i : Nat) (c : GatewayConn H) : GatewayNet H :=
  { s with conns := fun i' => if i' = i then some c else s.conns i' }

/-- A request for `f` is in the mailbox. -/
@[simps]
def ask (s : GatewayNet H) (h : H) (f : Frame) : GatewayNet H :=
  { s with asked := fun h' => if h' = h then s.asked h' ++ [f] else s.asked h' }

/-- Every `send()` of a packet writes it to its connection. -/
@[simps]
def sendOn (s : GatewayNet H) (is : List Nat) (packet : Bytes) (topic : Option Frame) :
    GatewayNet H :=
  { s with
    conns := fun i => (s.conns i).map fun c =>
      { c with out := c.out.writes packet topic (is.count i) } }

@[simps]
def route (s : GatewayNet H) (h : H) (topic : Option Frame) (is : List Nat) : GatewayNet H :=
  { s with
    routed := fun h' =>
      if h' = h then s.routed h' ++ topic.toList.map fun f => (f, is) else s.routed h' }

/-- The client thread has handled the first message of its mailbox. -/
def afterTurn (s : GatewayNet H) (h : H) (rest : List ClientLetter) (topic : Option Frame)
    (turn : ClientTurn) (is : List Nat) : GatewayNet H :=
  ((s.setNode h { s.node h with
      client := turn.client, clientMbox := rest
      itccoordMboxId := turn.itccoordMboxId }).sendOn is turn.packet topic).route h topic is

/-- The gateway of `h` exits, and the next one starts. -/
@[simps]
def exit (s : GatewayNet H) (h : H) : GatewayNet H :=
  { s with
    node := fun h' => if h' = h then .init else s.node h'
    conns := fun i => (s.conns i).map (GatewayConn.closedBy h) }

/-- `handle_receive_locate_mbox` after its `itc_locate_sync`. -/
def answered (e : Endian) (pid : UInt32) (event : ServerEvent) (mboxId : MboxId) (sent : Bool)
    (back : Pipe UInt8 (CString × MboxId) ClientEvent) :
    Pipe UInt8 (CString × MboxId) ClientEvent :=
  match event with
  | .locateSync name =>
      if mboxId = ITC_NO_MBOX_ID ∨ ¬ sent then back
      else back.write (locateReplyPacket e pid mboxId) (some (name, mboxId))
  | _ => back

end GatewayNet

/-! ## Steps -/

inductive GatewayAction (H : Type) where
  /-- The greeting of `h` comes to `k`. -/
  | greets (h k : H)
  | asks (h : H) (f : Frame)
  /-- A message that is no request and no announcement. -/
  | mail (h : H)
  | clientTakes (h : H) (sys : ClientSys)
  | clientConnects (h k : H) (sys : ClientSys)
  | accepts (k : H) (i : Nat)
  | serverTakes (k : H) (i : Nat)
  | serverEof (k : H) (i : Nat)
  | clientHears (h : H) (i : Nat)
  | clientEof (h : H) (i : Nat)
  | udpMail (k : H)
  | udpTakes (k : H)
  /-- A thread returns. -/
  | clientFails (h : H)
  | serverFails (h : H)
  | exits (h : H)

open GatewayNet in
inductive GatewayStep [DecidableEq H] (N : GatewayHosts H) (s : GatewayNet H) :
    GatewayAction H → GatewayNet H → Prop where
  | greetsKnown {h k : H} {stack : Greeting} {sent : Bool} {udp : UdpTable}
      (hcall : receiveBroadcast N.tree (s.node k).udp stack (N.greeting h) sent =
        .ok (true, udp, none)) :
      GatewayStep N s (.greets h k) (s.setNode k { s.node k with udp })
  | greetsNew {h k : H} {stack : Greeting} {sent : Bool} {udp : UdpTable} {addr ns : CString}
      {msg : ItcMessage} (hup : (s.node k).clientUp = true)
      (hcall : receiveBroadcast N.tree (s.node k).udp stack (N.greeting h) sent =
        .ok (true, udp, some (addr, ns)))
      (hmsg : udpAddPeerMsg N.endian N.malloc true addr ns = .ok msg) :
      GatewayStep N s (.greets h k)
        (s.setNode k { s.node k with
          udp, clientMbox := (s.node k).clientMbox ++ [⟨msg, none⟩] })
  | asks {h : H} {f : Frame} {msg : ItcMessage} (hup : (s.node h).clientUp = true)
      (hf : f.Admissible N.malloc) (hmsg : f.request N.endian N.malloc = .ok msg) :
      GatewayStep N s (.asks h f)
        ((s.setNode h { s.node h with
          clientMbox := (s.node h).clientMbox ++ [⟨msg, some f⟩] }).ask h f)
  | mail {h : H} {msg : ItcMessage} (hup : (s.node h).clientUp = true)
      (hmsg : OtherClientMessage N.endian msg) :
      GatewayStep N s (.mail h)
        (s.setNode h { s.node h with clientMbox := (s.node h).clientMbox ++ [⟨msg, none⟩] })
  | clientTakes {h : H} {sys : ClientSys} {l : ClientLetter} {rest : List ClientLetter}
      {turn : ClientTurn} {is : List Nat} (hup : (s.node h).clientUp = true)
      (hmbox : (s.node h).clientMbox = l :: rest)
      (hcall : handleReceiveItcmsgAtClient N.endian N.malloc (N.host h).pid N.tree sys
        (s.node h).client (s.node h).itccoordMboxId l.msg = .ok turn)
      (hconn : turn.connected = none) (his : List.Forall₂ (s.HasClientFd h) is turn.sockets) :
      GatewayStep N s (.clientTakes h sys) (s.afterTurn h rest l.topic turn is)
  -- `connect()` has succeeded, so a host has the address
  | clientConnects {h k : H} {sys : ClientSys} {l : ClientLetter} {rest : List ClientLetter}
      {turn : ClientTurn} {endpoint : TcpEndpoint} {fd : Int} {i : Nat}
      (hup : (s.node h).clientUp = true) (hmbox : (s.node h).clientMbox = l :: rest)
      (hcall : handleReceiveItcmsgAtClient N.endian N.malloc (N.host h).pid N.tree sys
        (s.node h).client (s.node h).itccoordMboxId l.msg = .ok turn)
      (hconn : turn.connected = some (endpoint, fd))
      (haddr : endpoint = ⟨(N.host k).tcpIp, ITC_GATEWAY_TCP_LISTENING_PORT⟩)
      (hfresh : s.FreshFd h fd) (hnew : s.conns i = none) :
      GatewayStep N s (.clientConnects h k sys)
        ((s.afterTurn h rest l.topic turn []).setConn i (.fresh h k fd))
  | accepts {k : H} {i : Nat} {c : GatewayConn H} {fd : Int} {ok : Bool} {server : PeerTable}
      (hup : (s.node k).serverUp = true) (hc : s.conns i = some c) (hserver : c.server = k)
      (hend : c.serverEnd = .backlog) (hfresh : s.FreshFd k fd)
      (hcall : handleAcceptNewConnection N.tree (s.node k).server
        (.accepted fd (acceptAddr (N.host c.client).tcpIp)) = (ok, server)) :
      GatewayStep N s (.accepts k i)
        ((s.setNode k { s.node k with server, serverUp := ok }).setConn i
          { c with serverEnd := .accepted fd })
  | serverTakes {k : H} {i j : Nat} {c : GatewayConn H} {fd : Int} {sock sock' : ByteStream}
      {event : ServerEvent} {mboxId : MboxId} {sent : Bool}
      (hup : (s.node k).serverUp = true) (hc : s.conns i = some c) (hserver : c.server = k)
      (hend : c.serverEnd = .accepted fd)
      (hslot : (s.node k).server.Connected j ∧ ((s.node k).server.peers j).fd = fd)
      (hpending : c.out.pending ≠ []) (hsock : sock.bytes = c.out.pending)
      (hcall : handleReceiveTcpPacketAtServer N.endian N.malloc sock = .ok (event, sock')) :
      GatewayStep N s (.serverTakes k i)
        (s.setConn i { c with
          out := c.out.read sock'.bytes event
          back := answered N.endian (N.host k).pid event mboxId sent c.back })
  -- the client's end is closed, and everything has been read
  | serverEof {k : H} {i j : Nat} {c : GatewayConn H} {fd : Int} {notified : Bool}
      {msg : ItcMessage} (hup : (s.node k).serverUp = true) (hc : s.conns i = some c)
      (hserver : c.server = k) (hend : c.serverEnd = .accepted fd)
      (hpending : c.out.pending = []) (hclosed : c.clientFd = none)
      (hfind : (s.node k).server.findSockfd fd = some j)
      (hmsg : udpRmvPeerMsg N.endian N.malloc ((s.node k).server.peers j).addr = .ok msg) :
      GatewayStep N s (.serverEof k i)
        ((s.setNode k { s.node k with
          server := (deleteTcpPeerResource N.tree (s.node k).server fd notified).2
          udpMbox := (s.node k).udpMbox ++ if notified then [msg] else [] }).setConn i
            { c with serverEnd := .closed })
  | clientHears {h : H} {i j : Nat} {c : GatewayConn H} {fd : Int} {sock sock' : ByteStream}
      {event : ClientEvent} (hup : (s.node h).clientUp = true) (hc : s.conns i = some c)
      (hclient : c.client = h) (hfd : c.clientFd = some fd)
      (hslot : (s.node h).client.Connected j ∧ ((s.node h).client.peers j).fd = fd)
      (hpending : c.back.pending ≠ []) (hsock : sock.bytes = c.back.pending)
      (hcall : handleReceiveTcpPacketAtClient N.endian N.malloc
        (((s.node h).client.findSockfd fd).map fun j => ((s.node h).client.peers j).ns) sock =
          .ok (event, sock')) :
      GatewayStep N s (.clientHears h i)
        (s.setConn i { c with back := c.back.read sock'.bytes event })
  | clientEof {h : H} {i j : Nat} {c : GatewayConn H} {fd : Int}
      (hup : (s.node h).clientUp = true) (hc : s.conns i = some c) (hclient : c.client = h)
      (hfd : c.clientFd = some fd) (hpending : c.back.pending = [])
      (hclosed : c.serverEnd = .closed)
      (hfind : (s.node h).client.findSockfd fd = some j) :
      GatewayStep N s (.clientEof h i)
        ((s.setNode h { s.node h with
          client := (handleTcpClientRmvPeer N.tree (s.node h).client fd).2 }).setConn i
            { c with clientFd := none })
  | udpMail {k : H} {msg : ItcMessage} :
      GatewayStep N s (.udpMail k)
        (s.setNode k { s.node k with udpMbox := (s.node k).udpMbox ++ [msg] })
  | udpTakes {k : H} {msg : ItcMessage} {rest : List ItcMessage} {turn : UdpTurn}
      (hmbox : (s.node k).udpMbox = msg :: rest)
      (hcall : handleReceiveItcmsgAtUdp N.endian N.malloc N.tree (N.host k).ns.name (s.node k).udp
        msg = .ok turn) :
      GatewayStep N s (.udpTakes k) (s.setNode k { s.node k with udp := turn.udp, udpMbox := rest })
  -- the mailbox of the thread goes with it
  | clientFails {h : H} :
      GatewayStep N s (.clientFails h)
        (s.setNode h { s.node h with clientUp := false, clientMbox := [] })
  | serverFails {h : H} :
      GatewayStep N s (.serverFails h) (s.setNode h { s.node h with serverUp := false })
  | exits {h : H} : GatewayStep N s (.exits h) (s.exit h)

end ItcFramework
