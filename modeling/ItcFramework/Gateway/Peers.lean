import ItcFramework.Gateway.AddPeer

/-!
# The three peer tables of the gateway

The UDP thread of `itc_gw.c` records the address of a broadcasting peer and asks the TCP client
thread to connect to it (`ITCGW_UDP_ADD_PEER`); the TCP server thread tells it to forget the
address when the peer's own connection is closed (`ITCGW_UDP_RMV_PEER`). The client thread tells
nobody what became of a request or of its connections, and when it returns its mailbox is deleted
with the requests in it.

* `Gateway`, `GwStep` — the tables, the two mailboxes, the connections whose other end is closed,
  and one step of any thread.
* `Gateway.Quiet` — no such message in flight and no unhandled close.
* `Gateway.Inv` — a recorded address has a connected slot in the client table, or is on its way
  in, or on its way out.
* `PeersSettled` — the steps that keep it: an announcement carries the address that is recorded, a
  request for a recorded address is met and not lost with the client thread, a client connection
  goes after the record does, and the record leaves the tree.
* `peer_tables_agree` — in every quiet state of a run of such steps a recorded address has a
  connected slot in the client table.
-/

set_option autoImplicit false

namespace ItcFramework

open ByteImage SearchTree Transition

/-! ## The threads -/

/-- The tables of the three threads, the requests in the mailboxes of the UDP and the client
thread, and the sockets whose other end is closed. A TCP thread that is not up has returned. -/
structure Gateway where
  udp : UdpTable
  server : PeerTable
  client : PeerTable
  /-- `ITCGW_UDP_RMV_PEER` in flight. -/
  udpMbox : List CString
  /-- `ITCGW_UDP_ADD_PEER` in flight. -/
  clientMbox : List ItcMessage
  serverClosed : List Int
  clientClosed : List Int
  serverUp : Bool
  clientUp : Bool

def Gateway.init : Gateway := ⟨.init, .init, .init, [], [], [], [], true, true⟩

/-- The address that the client thread reads from the message. -/
def Announces (req : ItcMessage) (addr : CString) : Prop :=
  strAt req.body offAddPeerAddr = .ok addr

namespace Gateway

/-- A socket the kernel can give out. -/
def FreshFd (g : Gateway) (fd : Int) : Prop := g.server.FreshFd fd ∧ g.client.FreshFd fd

/-- The address is in a slot of the UDP thread. -/
def Recorded (g : Gateway) (addr : CString) : Prop :=
  addr ≠ ITC_GATEWAY_NO_ADDR_STRING ∧ ∃ i, i < ITC_GATEWAY_MAX_PEERS ∧ g.udp.peers i = addr

def HasClient (g : Gateway) (addr : CString) : Prop :=
  ∃ i, g.client.Connected i ∧ (g.client.peers i).addr = addr

/-- The address is on its way in. -/
def Coming (g : Gateway) (addr : CString) : Prop := ∃ req ∈ g.clientMbox, Announces req addr

/-- The peer's own connection is closed, and the server thread has not seen it yet. -/
def Closing (g : Gateway) (addr : CString) : Prop :=
  ∃ i, g.server.Connected i ∧ (g.server.peers i).addr = addr ∧
    (g.server.peers i).fd ∈ g.serverClosed

/-- The address is on its way out. -/
def Leaving (g : Gateway) (addr : CString) : Prop := addr ∈ g.udpMbox ∨ g.Closing addr

/-- The record of an address is backed by a connection, or about to change. -/
def Backed (g : Gateway) (addr : CString) : Prop :=
  g.HasClient addr ∨ g.Leaving addr ∨ g.Coming addr

/-- No request is in flight, and no close is unhandled. -/
structure Quiet (g : Gateway) : Prop where
  udpMbox : g.udpMbox = []
  clientMbox : g.clientMbox = []
  server : ∀ i, g.server.Connected i → (g.server.peers i).fd ∉ g.serverClosed
  client : ∀ i, g.client.Connected i → (g.client.peers i).fd ∉ g.clientClosed

/-- The requests that `delete_tcp_peer_resource` sends. -/
def rmvRequests (g : Gateway) (sockfd : Int) (notified : Bool) : List CString :=
  match g.server.findSockfd sockfd with
  | none => []
  | some i => if notified then [(g.server.peers i).addr] else []

/-- The sockets left when one of them has been closed here, if it was found. -/
def unclosed (closed : List Int) (found : Option Nat) (sockfd : Int) : List Int :=
  if found.isSome then closed.filter (· != sockfd) else closed

end Gateway

/-- The message that `handle_receive_broadcast_msg` sends, if it sends one. -/
def addPeerMsgs (e : Endian) (a : Allocator) :
    Option (CString × CString) → Except MemFault (List ItcMessage)
  | none => .ok []
  | some (addr, ns) => do
      let req ← udpAddPeerMsg e a true addr ns
      return [req]

inductive GwEvent where
  | broadcast (ns tcpIp tcpPort : CString) (sent : Bool)
  | udpRmvPeer
  | addPeer (conn : Option Int)
  | rmvPeer (sockfd : Int)
  | accept (r : AcceptResult)
  | deletePeer (sockfd : Int) (notified : Bool)
  /-- The other end of a connection is closed. -/
  | closedAtServer (sockfd : Int)
  | closedAtClient (sockfd : Int)
  /-- A TCP thread returns because of a socket error. -/
  | serverFails
  | clientFails

/-- One step of a thread or of a peer. The process exits when a handler of the UDP thread returns
`false`, and the server thread returns when `handle_accept_new_connection` does. -/
inductive GwStep (e : Endian) (a : Allocator) (impl : WalkImpl Nat) (g : Gateway) :
    GwEvent → Gateway → Prop where
  | broadcast {ns tcpIp tcpPort : CString} {sent : Bool} {udp : UdpTable}
      {peer : Option (CString × CString)} {reqs : List ItcMessage}
      (call : handleReceiveBroadcastMsg impl.toTreeImpl g.udp ns tcpIp tcpPort sent =
        (true, udp, peer))
      (hmsg : addPeerMsgs e a peer = .ok reqs)
      -- nothing can be sent to the mailbox of a thread that has returned
      (hup : peer ≠ none → g.clientUp = true) :
      GwStep e a impl g (.broadcast ns tcpIp tcpPort sent)
        { g with udp, clientMbox := g.clientMbox ++ reqs }
  | udpRmvPeer {addr : CString} {rest : List CString} (hmsg : g.udpMbox = addr :: rest) :
      GwStep e a impl g .udpRmvPeer
        { g with udp := (handleUdpRmvPeer impl.toTreeImpl g.udp addr).2, udpMbox := rest }
  | addPeer {req : ItcMessage} {rest : List ItcMessage} {conn : Option Int}
      {stack : TcpEndpoint} {peer : AddPeer} (hup : g.clientUp = true)
      (hmsg : g.clientMbox = req :: rest) (hread : readUdpAddPeer stack req = .ok peer)
      (hfresh : ∀ fd, conn = some fd → g.FreshFd fd) :
      GwStep e a impl g (.addPeer conn)
        { g with
          client := (handleTcpClientAddPeer impl.toTreeImpl g.client peer.addr peer.ns conn).2
          clientMbox := rest }
  | rmvPeer {sockfd : Int} (hup : g.clientUp = true)
      (hslot : ∃ i, g.client.Connected i ∧ (g.client.peers i).fd = sockfd)
      (hclosed : sockfd ∈ g.clientClosed) :
      GwStep e a impl g (.rmvPeer sockfd)
        { g with
          client := (handleTcpClientRmvPeer impl.toTreeImpl g.client sockfd).2
          clientClosed := Gateway.unclosed g.clientClosed (g.client.findSockfd sockfd) sockfd }
  | accept {r : AcceptResult} (hup : g.serverUp = true)
      (hfresh : ∀ fd addr, r = .accepted fd addr → g.FreshFd fd) :
      GwStep e a impl g (.accept r)
        { g with
          server := (handleAcceptNewConnection impl.toTreeImpl g.server r).2
          serverUp := (handleAcceptNewConnection impl.toTreeImpl g.server r).1 }
  | deletePeer {sockfd : Int} {notified : Bool} (hup : g.serverUp = true)
      (hslot : ∃ i, g.server.Connected i ∧ (g.server.peers i).fd = sockfd)
      (hclosed : sockfd ∈ g.serverClosed) :
      GwStep e a impl g (.deletePeer sockfd notified)
        { g with
          server := (deleteTcpPeerResource impl.toTreeImpl g.server sockfd notified).2
          serverClosed := Gateway.unclosed g.serverClosed (g.server.findSockfd sockfd) sockfd
          udpMbox := g.udpMbox ++ g.rmvRequests sockfd notified }
  | closedAtServer {sockfd : Int}
      (hslot : ∃ i, g.server.Connected i ∧ (g.server.peers i).fd = sockfd) :
      GwStep e a impl g (.closedAtServer sockfd)
        { g with serverClosed := sockfd :: g.serverClosed }
  | closedAtClient {sockfd : Int}
      (hslot : ∃ i, g.client.Connected i ∧ (g.client.peers i).fd = sockfd) :
      GwStep e a impl g (.closedAtClient sockfd)
        { g with clientClosed := sockfd :: g.clientClosed }
  | serverFails : GwStep e a impl g .serverFails { g with serverUp := false }
  -- the destructor of the thread's mailbox discards what is in it
  | clientFails : GwStep e a impl g .clientFails { g with clientUp := false, clientMbox := [] }

/-- The steps that keep the tables in agreement. -/
def PeersSettled (g : Gateway) : GwEvent → Prop
  | .broadcast ns tcpIp tcpPort _ => g.udp.find (tcpAddr tcpIp tcpPort) = none →
      AddrFits (tcpAddr tcpIp tcpPort) ns ∨ g.Backed (tcpAddr tcpIp tcpPort)
  | .udpRmvPeer => ∀ addr rest i, g.udpMbox = addr :: rest → g.udp.find addr = some i →
      -- the cleared slot is still found where it is
      g.udp.tree.find (comparePeerUdpTree (setAddr g.udp.peers i ITC_GATEWAY_NO_ADDR_STRING) i) =
        some i
  | .addPeer conn => ∀ req rest addr, g.clientMbox = req :: rest → Announces req addr →
      g.Recorded addr →
      g.HasClient addr ∨ (conn ≠ none ∧ freeSlot g.client.peers ≠ none) ∨ g.Leaving addr ∨
        ∃ req' ∈ rest, Announces req' addr
  | .rmvPeer sockfd => ∀ i, g.client.findSockfd sockfd = some i →
      g.Recorded (g.client.peers i).addr →
        g.Leaving (g.client.peers i).addr ∨ g.Coming (g.client.peers i).addr
  | .deletePeer sockfd notified => notified = true ∨ ∀ i, g.server.findSockfd sockfd = some i →
      g.Recorded (g.server.peers i).addr → g.HasClient (g.server.peers i).addr ∨
        (g.server.peers i).addr ∈ g.udpMbox ∨ g.Coming (g.server.peers i).addr
  | .clientFails => ∀ addr, g.Recorded addr → g.Coming addr → g.HasClient addr ∨ g.Leaving addr
  | _ => True

/-! ## The tables of the TCP threads, slot by slot -/

namespace PeerTable

variable {impl : TreeImpl Nat} {tbl : PeerTable} {i j : Nat}

/-- The connected slots of `tbl` stay as they are, except slot `i`. -/
def KeepsBut (tbl tbl' : PeerTable) (o : Option Nat) : Prop :=
  ∀ j, tbl.Connected j → o ≠ some j → tbl'.Connected j ∧ tbl'.peers j = tbl.peers j

theorem Inv.add_keeps (h : tbl.Inv) (addr ns : CString) {conn : Option Int}
    (hfd : ∀ fd, conn = some fd → 0 ≤ fd) :
    tbl.KeepsBut (handleTcpClientAddPeer impl tbl addr ns conn).2 none := by
  intro j hj _
  unfold handleTcpClientAddPeer
  split
  · exact ⟨hj, rfl⟩
  · rename_i hnone
    split
    · exact ⟨hj, rfl⟩
    · rename_i newFd
      split
      · exact ⟨hj, rfl⟩
      · rename_i k hfree
        obtain ⟨hk, hfree'⟩ := freeSlot_some hfree
        have h0 := hfd newFd rfl
        refine ⟨((h.place hk hfree' (by simp only; omega) hnone).2 j).mpr (.inr hj), ?_⟩
        exact place_ne _ (hj.ne_free hfree)

theorem Inv.accept_keeps (h : tbl.Inv) {r : AcceptResult}
    (hfd : ∀ fd addr, r = .accepted fd addr → 0 ≤ fd) :
    tbl.KeepsBut (handleAcceptNewConnection impl tbl r).2 none := by
  intro j hj _
  cases r with
  | interrupted => exact ⟨hj, rfl⟩
  | failed => exact ⟨hj, rfl⟩
  | accepted newFd addr =>
    unfold handleAcceptNewConnection
    dsimp only
    split
    · exact ⟨hj, rfl⟩
    · rename_i hnone
      split
      · exact ⟨hj, rfl⟩
      · rename_i k hfree
        obtain ⟨hk, hfree'⟩ := freeSlot_some hfree
        have h0 := hfd newFd addr rfl
        refine ⟨((h.place hk hfree' (by simp only; omega) hnone).2 j).mpr (.inr hj), ?_⟩
        exact place_ne _ (hj.ne_free hfree)

theorem Inv.rmv_keeps (h : tbl.Inv) (sockfd : Int) :
    tbl.KeepsBut (handleTcpClientRmvPeer impl tbl sockfd).2 (tbl.findSockfd sockfd) := by
  intro j hj hne
  unfold handleTcpClientRmvPeer
  split
  · exact ⟨hj, rfl⟩
  · rename_i i hfind
    have hji : j ≠ i := fun heq => hne (by rw [hfind, heq])
    exact ⟨((h.detach_clearAddr (h.findSockfd_some hfind)).2 j).mpr ⟨hji, hj⟩,
      detach_clearAddr_ne hji⟩

theorem Inv.delete_keeps (h : tbl.Inv) (sockfd : Int) (notified : Bool) :
    tbl.KeepsBut (deleteTcpPeerResource impl tbl sockfd notified).2 (tbl.findSockfd sockfd) := by
  intro j hj hne
  unfold deleteTcpPeerResource
  split
  · exact ⟨hj, rfl⟩
  · rename_i i hfind
    have hji : j ≠ i := fun heq => hne (by rw [hfind, heq])
    have hconn := h.findSockfd_some hfind
    split
    · exact ⟨((h.detach_clearAddr hconn).2 j).mpr ⟨hji, hj⟩, detach_clearAddr_ne hji⟩
    · exact ⟨((h.detach hconn).2 j).mpr ⟨hji, hj⟩, detach_ne hji⟩

/-- A slot that a search by socket finds has the socket. -/
theorem findSockfd_fd {sockfd : Int} (h : tbl.findSockfd sockfd = some i) :
    (tbl.peers i).fd = sockfd := by
  obtain ⟨-, heq⟩ := SearchTree.Tree.find_some h
  unfold compareSockfdTcpTree at heq
  split at heq
  · rename_i hfd
    exact hfd.symm
  · split at heq <;> cases heq

/-- The address of a new peer that is connected. -/
theorem Inv.add_connects (h : tbl.Inv) (impl : TreeImpl Nat) (addr ns : CString) {newFd : Int}
    (hfd : 0 ≤ newFd) (hfree : freeSlot tbl.peers ≠ none) :
    ∃ i, (handleTcpClientAddPeer impl tbl addr ns (some newFd)).2.Connected i ∧
      ((handleTcpClientAddPeer impl tbl addr ns (some newFd)).2.peers i).addr = addr := by
  unfold handleTcpClientAddPeer
  split
  · rename_i i hfind
    obtain ⟨hmem, heq⟩ := (find_byKey h.ordered).mp hfind
    exact ⟨i, (h.mem i).mp hmem, heq⟩
  · rename_i hnone
    cases hslot : freeSlot tbl.peers with
    | none => exact absurd hslot hfree
    | some i =>
      obtain ⟨hi, hfree'⟩ := freeSlot_some hslot
      refine ⟨i, ((h.place hi hfree' (by simp only; omega) hnone).2 i).mpr (.inl rfl), ?_⟩
      exact congrArg TcpPeerInfo.addr (setPeer_self _ _ _)

end PeerTable

/-! ## Announcements -/

theorem readUdpAddPeer_announces {stack : TcpEndpoint} {req : ItcMessage} {peer : AddPeer}
    (hread : readUdpAddPeer stack req = .ok peer) : Announces req peer.addr := by
  obtain ⟨found, hfound, hread⟩ := bind_eq_ok hread
  obtain ⟨_, -, hread⟩ := bind_eq_ok hread
  obtain ⟨_, -, hread⟩ := bind_eq_ok hread
  cases hread
  exact hfound

/-! ## The invariant of the gateway -/

namespace Gateway

structure Inv (g : Gateway) : Prop where
  udp : g.udp.Inv
  server : g.server.Inv
  client : g.client.Inv
  fds : ∀ i j, g.server.Connected i → g.server.Connected j →
    (g.server.peers i).fd = (g.server.peers j).fd → i = j
  backed : ∀ addr, g.Recorded addr → g.Backed addr

theorem Inv.init : Gateway.init.Inv where
  udp := .init
  server := .init
  client := .init
  fds := fun _ _ h => absurd rfl h.2
  backed := by
    rintro addr ⟨hne, i, -, rfl⟩
    exact absurd rfl hne

variable {g : Gateway}

theorem Inv.of_quiet (h : g.Inv) (hquiet : g.Quiet) {addr : CString} (hrec : g.Recorded addr) :
    g.HasClient addr := by
  rcases h.backed addr hrec with hclient | (hmsg | ⟨i, hi, -, hclosed⟩) | ⟨req, hmsg, -⟩
  · exact hclient
  · rw [hquiet.udpMbox] at hmsg
    cases hmsg
  · exact absurd hclosed (hquiet.server i hi)
  · rw [hquiet.clientMbox] at hmsg
    cases hmsg

/-- What the search finds is recorded. -/
theorem Inv.recorded_of_find (h : g.Inv) {addr : CString} {i : Nat}
    (hfind : g.udp.find addr = some i) : g.Recorded addr := by
  obtain ⟨hmem, rfl⟩ := h.udp.find_iff.mp hfind
  obtain ⟨hi, hne⟩ := (h.udp.mem i).mp hmem
  exact ⟨hne, i, hi, rfl⟩

theorem HasClient.mono {g' : Gateway} {addr : CString} (h : g.HasClient addr)
    (hkeeps : g.client.KeepsBut g'.client none) : g'.HasClient addr := by
  obtain ⟨i, hi, haddr⟩ := h
  obtain ⟨hi', hsame⟩ := hkeeps i hi (Option.some_ne_none i).symm
  exact ⟨i, hi', by rw [hsame]; exact haddr⟩

theorem Closing.mono {g' : Gateway} {addr : CString} (h : g.Closing addr)
    (hkeeps : g.server.KeepsBut g'.server none)
    (hclosed : ∀ fd ∈ g.serverClosed, fd ∈ g'.serverClosed) : g'.Closing addr := by
  obtain ⟨i, hi, haddr, hfd⟩ := h
  obtain ⟨hi', hsame⟩ := hkeeps i hi (Option.some_ne_none i).symm
  refine ⟨i, hi', ?_, ?_⟩
  · rw [hsame]
    exact haddr
  · rw [hsame]
    exact hclosed _ hfd

section Steps

variable {e : Endian} {a : Allocator} {impl : WalkImpl Nat} {g' : Gateway}

theorem Inv.broadcast (h : g.Inv) {ns tcpIp tcpPort : CString} {sent : Bool} {udp : UdpTable}
    {peer : Option (CString × CString)} {reqs : List ItcMessage}
    (call : handleReceiveBroadcastMsg impl.toTreeImpl g.udp ns tcpIp tcpPort sent =
      (true, udp, peer)) (hmsg : addPeerMsgs e a peer = .ok reqs)
    (hsettled : PeersSettled g (.broadcast ns tcpIp tcpPort sent)) :
    ({ g with udp, clientMbox := g.clientMbox ++ reqs } : Gateway).Inv := by
  -- what backs an address still does
  have hkept : ∀ (udp : UdpTable) (addr : CString), g.Backed addr →
      ({ g with udp, clientMbox := g.clientMbox ++ reqs } : Gateway).Backed addr := by
    rintro udp addr (hclient | hleaving | ⟨req, hreq, hannounces⟩)
    · exact .inl hclient
    · exact .inr (.inl hleaving)
    · exact .inr (.inr ⟨req, List.mem_append_left _ hreq, hannounces⟩)
  unfold handleReceiveBroadcastMsg at call
  simp only at call
  split at call
  · cases call
    exact ⟨h.udp, h.server, h.client, h.fds, fun addr hrec => hkept g.udp addr (h.backed addr hrec)⟩
  · rename_i hnew
    split at call
    · cases call
    · rename_i i hfree
      obtain ⟨hi, hfree'⟩ := freeUdpSlot_some hfree
      split at call
      · cases call
        obtain ⟨req, hreq, hreqs⟩ := bind_eq_ok hmsg
        cases hreqs
        refine ⟨h.udp.place impl.toTreeImpl hi hfree' (tcpAddr_ne tcpIp tcpPort) hnew, h.server,
          h.client, h.fds, ?_⟩
        rintro addr ⟨hne, j, hj, haddr⟩
        rw [UdpTable.place_peers] at haddr
        by_cases hji : j = i
        · rw [hji, setAddr_self] at haddr
          rw [← haddr]
          rcases hsettled hnew with hfits | hbacked
          · exact .inr (.inr ⟨req, List.mem_append_right _ (List.mem_singleton.mpr rfl),
              (strAt_udpAddPeerMsg_iff hreq).mpr hfits⟩)
          · exact hkept _ _ hbacked
        · rw [setAddr_ne _ _ hji] at haddr
          exact hkept _ _ (h.backed addr ⟨hne, j, hj, haddr⟩)
      · cases call

theorem Inv.udpRmvPeer (h : g.Inv) {addr : CString} {rest : List CString}
    (hmsg : g.udpMbox = addr :: rest) (hsettled : PeersSettled g .udpRmvPeer) :
    ({ g with
      udp := (handleUdpRmvPeer impl.toTreeImpl g.udp addr).2, udpMbox := rest } : Gateway).Inv := by
  -- the other addresses lose nothing that backs them
  have hother : ∀ addr', addr' ≠ addr → g.Backed addr' →
      ({ g with
        udp := (handleUdpRmvPeer impl.toTreeImpl g.udp addr).2,
        udpMbox := rest } : Gateway).Backed addr' := by
    rintro addr' hne (hclient | (hrmv | hclosing) | hcoming)
    · exact .inl hclient
    · rw [hmsg, List.mem_cons] at hrmv
      exact .inr (.inl (.inl (hrmv.resolve_left hne)))
    · exact .inr (.inl (.inr hclosing))
    · exact .inr (.inr hcoming)
  cases hfind : g.udp.find addr with
  | none =>
    have hcall : (handleUdpRmvPeer impl.toTreeImpl g.udp addr).2 = g.udp := by
      simp only [handleUdpRmvPeer, hfind]
    refine ⟨by rw [hcall]; exact h.udp, h.server, h.client, h.fds, ?_⟩
    rintro addr' ⟨hne', j, hj, haddr⟩
    simp only [hcall] at haddr
    refine hother addr' ?_ (h.backed addr' ⟨hne', j, hj, haddr⟩)
    rintro rfl
    have hfound := h.udp.find_iff.mpr ⟨(h.udp.mem j).mpr ⟨hj, haddr ▸ hne'⟩, haddr⟩
    rw [hfind] at hfound
    cases hfound
  | some i =>
    have hcall : (handleUdpRmvPeer impl.toTreeImpl g.udp addr).2 =
        g.udp.remove impl.toTreeImpl i := by
      simp only [handleUdpRmvPeer, hfind]
    obtain ⟨himem, hiaddr⟩ := h.udp.find_iff.mp hfind
    obtain ⟨hi, hine⟩ := (h.udp.mem i).mp himem
    refine ⟨by rw [hcall]; exact h.udp.remove impl (hsettled addr rest i hmsg hfind), h.server,
      h.client, h.fds, ?_⟩
    rintro addr' ⟨hne', j, hj, haddr⟩
    simp only [hcall, UdpTable.remove_peers] at haddr
    by_cases hji : j = i
    · rw [hji, setAddr_self] at haddr
      exact absurd haddr.symm hne'
    · rw [setAddr_ne _ _ hji] at haddr
      refine hother addr' ?_ (h.backed addr' ⟨hne', j, hj, haddr⟩)
      rintro rfl
      exact hji (h.udp.unique hj hi (haddr ▸ hne') (haddr.trans hiaddr.symm))

theorem Inv.addPeer (h : g.Inv) {req : ItcMessage} {rest : List ItcMessage}
    {conn : Option Int} {stack : TcpEndpoint} {peer : AddPeer}
    (hmsg : g.clientMbox = req :: rest) (hread : readUdpAddPeer stack req = .ok peer)
    (hfresh : ∀ fd, conn = some fd → g.FreshFd fd)
    (hsettled : PeersSettled g (.addPeer conn)) :
    ({ g with
      client := (handleTcpClientAddPeer impl.toTreeImpl g.client peer.addr peer.ns conn).2
      clientMbox := rest } : Gateway).Inv := by
  have hfd : ∀ fd, conn = some fd → 0 ≤ fd := fun fd hconn => (hfresh fd hconn).2.1
  have hkeeps : g.client.KeepsBut
      (handleTcpClientAddPeer impl.toTreeImpl g.client peer.addr peer.ns conn).2 none :=
    h.client.add_keeps peer.addr peer.ns hfd
  refine ⟨h.udp, h.server, handleTcpClientAddPeer_inv h.client hfd, h.fds, ?_⟩
  intro addr hrec
  rcases h.backed addr hrec with hclient | hleaving | ⟨req', hcoming, hannounces⟩
  · exact .inl (hclient.mono hkeeps)
  · exact .inr (.inl hleaving)
  · rw [hmsg, List.mem_cons] at hcoming
    rcases hcoming with rfl | hcoming
    · have haddr : peer.addr = addr :=
        Except.ok.inj ((readUdpAddPeer_announces hread).symm.trans hannounces)
      rcases hsettled req' rest addr hmsg hannounces hrec with
        hclient | ⟨hconn, hfree⟩ | hleaving | hcoming
      · exact .inl (hclient.mono hkeeps)
      · cases conn with
        | none => exact absurd rfl hconn
        | some newFd =>
          obtain ⟨i, hi, haddr'⟩ := h.client.add_connects impl.toTreeImpl peer.addr peer.ns
            (hfd newFd rfl) hfree
          exact .inl ⟨i, hi, haddr'.trans haddr⟩
      · exact .inr (.inl hleaving)
      · exact .inr (.inr hcoming)
    · exact .inr (.inr ⟨req', hcoming, hannounces⟩)

theorem Inv.rmvPeer (h : g.Inv) {sockfd : Int} (hsettled : PeersSettled g (.rmvPeer sockfd)) :
    ({ g with
      client := (handleTcpClientRmvPeer impl.toTreeImpl g.client sockfd).2
      clientClosed := Gateway.unclosed g.clientClosed (g.client.findSockfd sockfd) sockfd } :
        Gateway).Inv := by
  refine ⟨h.udp, h.server, handleTcpClientRmvPeer_inv h.client sockfd, h.fds, ?_⟩
  intro addr hrec
  rcases h.backed addr hrec with ⟨i, hi, haddr⟩ | hleaving | hcoming
  · by_cases hfind : g.client.findSockfd sockfd = some i
    · have hback := hsettled i hfind
      rw [haddr] at hback
      exact .inr (hback hrec)
    · obtain ⟨hi', hsame⟩ := h.client.rmv_keeps sockfd i hi hfind
      exact .inl ⟨i, hi', by rw [hsame]; exact haddr⟩
  · exact .inr (.inl hleaving)
  · exact .inr (.inr hcoming)

theorem Inv.accept (h : g.Inv) {r : AcceptResult}
    (hfresh : ∀ fd addr, r = .accepted fd addr → g.FreshFd fd) :
    ({ g with
      server := (handleAcceptNewConnection impl.toTreeImpl g.server r).2
      serverUp := (handleAcceptNewConnection impl.toTreeImpl g.server r).1 } : Gateway).Inv := by
  have hfd : ∀ fd addr, r = .accepted fd addr → 0 ≤ fd := fun fd addr hr => (hfresh fd addr hr).1.1
  have hkeeps : g.server.KeepsBut
      (handleAcceptNewConnection impl.toTreeImpl g.server r).2 none :=
    h.server.accept_keeps hfd
  refine ⟨h.udp, handleAcceptNewConnection_inv h.server hfd, h.client, ?_, ?_⟩
  · cases r with
    | interrupted => exact h.fds
    | failed => exact h.fds
    | accepted newFd addr =>
      unfold handleAcceptNewConnection
      dsimp only
      split
      · exact h.fds
      · rename_i hnone
        split
        · exact h.fds
        · rename_i k hslot
          obtain ⟨hk, hfree⟩ := freeSlot_some hslot
          have h0 := hfd newFd addr rfl
          have hfreshFd := (hfresh newFd addr rfl).1.2
          have hconn : ∀ j, (g.server.place impl.toTreeImpl k
              ⟨addr, newFd, (g.server.peers k).ns⟩).Connected j ↔ j = k ∨ g.server.Connected j :=
            (h.server.place hk hfree (by simp only; omega) hnone).2
          intro i j hi hj heq
          rcases (hconn i).mp hi with hik | hi'
          · rcases (hconn j).mp hj with hjk | hj'
            · rw [hik, hjk]
            · rw [hik, PeerTable.place_ne _ (hj'.ne_free hslot)] at heq
              simp only [PeerTable.place, setPeer_self] at heq
              exact absurd heq.symm (hfreshFd j hj')
          · rcases (hconn j).mp hj with hjk | hj'
            · rw [hjk, PeerTable.place_ne _ (hi'.ne_free hslot)] at heq
              simp only [PeerTable.place, setPeer_self] at heq
              exact absurd heq (hfreshFd i hi')
            · rw [PeerTable.place_ne _ (hi'.ne_free hslot),
                PeerTable.place_ne _ (hj'.ne_free hslot)] at heq
              exact h.fds i j hi' hj' heq
  · intro addr hrec
    rcases h.backed addr hrec with hclient | (hrmv | hclosing) | hcoming
    · exact .inl hclient
    · exact .inr (.inl (.inl hrmv))
    · exact .inr (.inl (.inr (hclosing.mono hkeeps fun _ => id)))
    · exact .inr (.inr hcoming)

theorem Inv.deletePeer (h : g.Inv) {sockfd : Int} {notified : Bool}
    (hsettled : PeersSettled g (.deletePeer sockfd notified)) :
    ({ g with
      server := (deleteTcpPeerResource impl.toTreeImpl g.server sockfd notified).2
      serverClosed := Gateway.unclosed g.serverClosed (g.server.findSockfd sockfd) sockfd
      udpMbox := g.udpMbox ++ g.rmvRequests sockfd notified } : Gateway).Inv := by
  have hkeeps : g.server.KeepsBut
      (deleteTcpPeerResource impl.toTreeImpl g.server sockfd notified).2
      (g.server.findSockfd sockfd) :=
    h.server.delete_keeps sockfd notified
  refine ⟨h.udp, deleteTcpPeerResource_inv h.server sockfd notified, h.client, ?_, ?_⟩
  · -- the slots that are still connected were connected before, with their sockets
    have hold : ∀ j, (deleteTcpPeerResource impl.toTreeImpl g.server sockfd notified).2.Connected j →
        g.server.Connected j ∧
          ((deleteTcpPeerResource impl.toTreeImpl g.server sockfd notified).2.peers j).fd =
            (g.server.peers j).fd := by
      intro j
      unfold deleteTcpPeerResource
      split
      · exact fun hj => ⟨hj, rfl⟩
      · rename_i i hfind
        have hconn := h.server.findSockfd_some hfind
        split
        · intro hj
          obtain ⟨hji, hj⟩ := ((h.server.detach_clearAddr hconn).2 j).mp hj
          exact ⟨hj, congrArg TcpPeerInfo.fd (PeerTable.detach_clearAddr_ne hji)⟩
        · intro hj
          obtain ⟨hji, hj⟩ := ((h.server.detach hconn).2 j).mp hj
          exact ⟨hj, congrArg TcpPeerInfo.fd (PeerTable.detach_ne hji)⟩
    intro i j hi hj heq
    obtain ⟨hi', hfdi⟩ := hold i hi
    obtain ⟨hj', hfdj⟩ := hold j hj
    refine h.fds i j hi' hj' ?_
    rw [← hfdi, ← hfdj]
    exact heq
  · intro addr hrec
    rcases h.backed addr hrec with hclient | (hrmv | ⟨i, hi, haddr, hclosed⟩) | hcoming
    · exact .inl hclient
    · exact .inr (.inl (.inl (List.mem_append_left _ hrmv)))
    · by_cases hfind : g.server.findSockfd sockfd = some i
      · rcases hsettled with hnotified | hback
        · refine .inr (.inl (.inl (List.mem_append_right _ ?_)))
          simp only [rmvRequests, hfind, hnotified, if_true]
          exact List.mem_singleton.mpr haddr.symm
        · have hback := hback i hfind
          rw [haddr] at hback
          rcases hback hrec with hclient | hrmv | hcoming
          · exact .inl hclient
          · exact .inr (.inl (.inl (List.mem_append_left _ hrmv)))
          · exact .inr (.inr hcoming)
      · obtain ⟨hi', hsame⟩ := hkeeps i hi hfind
        refine .inr (.inl (.inr ⟨i, hi', by rw [hsame]; exact haddr, ?_⟩))
        rw [hsame]
        cases hsearch : g.server.findSockfd sockfd with
        | none => exact hclosed
        | some j =>
          have hij : i ≠ j := fun heq => hfind (heq ▸ hsearch)
          refine List.mem_filter.mpr ⟨hclosed, ?_⟩
          rw [bne_iff_ne]
          intro heq
          refine hij (h.fds i j hi (h.server.findSockfd_some hsearch) ?_)
          rw [heq, PeerTable.findSockfd_fd hsearch]
    · exact .inr (.inr hcoming)

/-- **A settled step keeps every record backed.** -/
theorem Inv.step {ev : GwEvent} (h : g.Inv) (hsettled : PeersSettled g ev)
    (hstep : GwStep e a impl g ev g') : g'.Inv := by
  cases hstep with
  | broadcast call hmsg _ => exact h.broadcast call hmsg hsettled
  | udpRmvPeer hmsg => exact h.udpRmvPeer hmsg hsettled
  | addPeer _ hmsg hread hfresh => exact h.addPeer hmsg hread hfresh hsettled
  | rmvPeer _ _ _ => exact h.rmvPeer hsettled
  | accept _ hfresh => exact h.accept hfresh
  | deletePeer _ _ _ => exact h.deletePeer hsettled
  | closedAtServer _ =>
    refine ⟨h.udp, h.server, h.client, h.fds, fun addr hrec => ?_⟩
    rcases h.backed addr hrec with hclient | (hrmv | hclosing) | hcoming
    · exact .inl hclient
    · exact .inr (.inl (.inl hrmv))
    · exact .inr (.inl (.inr (hclosing.mono (fun _ hj _ => ⟨hj, rfl⟩) fun _ =>
        List.mem_cons_of_mem _)))
    · exact .inr (.inr hcoming)
  | closedAtClient _ => exact ⟨h.udp, h.server, h.client, h.fds, h.backed⟩
  | serverFails => exact ⟨h.udp, h.server, h.client, h.fds, h.backed⟩
  | clientFails =>
    refine ⟨h.udp, h.server, h.client, h.fds, fun addr hrec => ?_⟩
    rcases h.backed addr hrec with hclient | hleaving | hcoming
    · exact .inl hclient
    · exact .inr (.inl hleaving)
    · exact (hsettled addr hrec hcoming).imp_right .inl

end Steps

end Gateway

/-- **The tables agree when the gateway is quiet.** In every run in which an announcement carries
the address that is recorded, a request for a recorded address is met, no client connection goes
before the record does, and the records leave the tree, an address whose broadcasts are ignored has
a connected slot in the client table. -/
theorem peer_tables_agree (e : Endian) (a : Allocator) (impl : WalkImpl Nat) (evs : List GwEvent)
    (g : Gateway) (hrun : Run (Guarded (GwStep e a impl) PeersSettled) .init evs g)
    (hquiet : g.Quiet) (addr : CString) (i : Nat) (hrec : g.udp.find addr = some i) :
    ∃ j, g.client.Connected j ∧ (g.client.peers j).addr = addr := by
  have h : g.Inv := hrun.invariant_of_guard (fun _ _ _ h hsettled hstep => h.step hsettled hstep)
    .init
  exact h.of_quiet hquiet (h.recorded_of_find hrec)

section Runs

/-- The fields of a greeting. -/
def peerIp : CString := ⟨asciiBytes "10.0.0.1", by decide⟩
def peerPort : CString := ⟨asciiBytes "22", by decide⟩
def peerNs : CString := ⟨asciiBytes "host", by decide⟩

/-- The gateway after its first broadcast. -/
def Gateway.announced (req : ItcMessage) : Gateway :=
  { Gateway.init with
    udp := UdpTable.init.place (.plain Nat) 0 (tcpAddr peerIp peerPort)
    clientMbox := [req] }

/-- A peer announces itself; the client thread will read what was announced. -/
theorem Gateway.init_broadcast : ∃ req,
    GwStep .little .least (.plain Nat) .init (.broadcast peerNs peerIp peerPort true)
      (.announced req) ∧
    readUdpAddPeer ⟨.empty, 0⟩ req =
      .ok ⟨tcpAddr peerIp peerPort, peerNs, ⟨peerIp, 22⟩⟩ := by
  obtain ⟨req, hmsg, hread⟩ : ∃ req,
      udpAddPeerMsg .little .least true (tcpAddr peerIp peerPort) peerNs = .ok req ∧
      readUdpAddPeer ⟨.empty, 0⟩ req = .ok ⟨tcpAddr peerIp peerPort, peerNs, ⟨peerIp, 22⟩⟩ :=
    ⟨_, udpAddPeerMsg_short (by decide) (by decide), by decide +kernel⟩
  have call : handleReceiveBroadcastMsg (WalkImpl.plain Nat).toTreeImpl Gateway.init.udp peerNs
      peerIp peerPort true =
      (true, UdpTable.init.place (.plain Nat) 0 (tcpAddr peerIp peerPort),
        some (tcpAddr peerIp peerPort, peerNs)) := by
    have hslot : freeUdpSlot UdpTable.init.peers = some 0 := by decide
    have hfind : UdpTable.init.find (tcpAddr peerIp peerPort) = none := rfl
    have hudp : Gateway.init.udp = .init := rfl
    rw [hudp]
    simp only [handleReceiveBroadcastMsg, hfind, hslot, if_true]
    rfl
  refine ⟨req, GwStep.broadcast call ?_ (fun _ => rfl), hread⟩
  simp only [addPeerMsgs, hmsg, bind, Except.bind]
  rfl

/-- The client thread has taken the request. -/
def Gateway.served (conn : Option Int) : Gateway :=
  { Gateway.init with
    udp := UdpTable.init.place (.plain Nat) 0 (tcpAddr peerIp peerPort)
    client := (handleTcpClientAddPeer (.plain Nat) .init (tcpAddr peerIp peerPort) peerNs conn).2 }

theorem Gateway.announced_addPeer {req : ItcMessage} (conn : Option Int)
    (hread : readUdpAddPeer ⟨.empty, 0⟩ req =
      .ok ⟨tcpAddr peerIp peerPort, peerNs, ⟨peerIp, 22⟩⟩) (hconn : ∀ fd, conn = some fd → 0 ≤ fd) :
    GwStep .little .least (.plain Nat) (.announced req) (.addPeer conn) (.served conn) := by
  have hmsg : (Gateway.announced req).clientMbox = [req] := rfl
  exact .addPeer rfl hmsg hread fun fd hfd =>
    ⟨⟨hconn fd hfd, fun _ h => absurd rfl h.2⟩, hconn fd hfd, fun _ h => absurd rfl h.2⟩

theorem Gateway.served_quiet (conn : Option Int) : (Gateway.served conn).Quiet :=
  ⟨rfl, rfl, fun _ _ => List.not_mem_nil, fun _ _ => List.not_mem_nil⟩

/-- A peer is announced, and connected to. -/
theorem peer_tables_agree_single :
    ∃ (evs : List GwEvent) (g : Gateway), evs.length = 2 ∧
      ∃ j, g.client.Connected j ∧ (g.client.peers j).addr = tcpAddr peerIp peerPort := by
  obtain ⟨req, hbroadcast, hread⟩ := Gateway.init_broadcast
  have hfits : AddrFits (tcpAddr peerIp peerPort) peerNs := .inl (by decide)
  have hstep₁ : Guarded (GwStep .little .least (.plain Nat)) PeersSettled .init
      (.broadcast peerNs peerIp peerPort true) (.announced req) :=
    ⟨fun _ => .inl hfits, hbroadcast⟩
  have hstep₂ : Guarded (GwStep .little .least (.plain Nat)) PeersSettled (.announced req)
      (.addPeer (some 7)) (.served (some 7)) := by
    refine ⟨fun _ _ _ _ _ _ => .inr (.inl ⟨Option.some_ne_none 7, ?_⟩),
      Gateway.announced_addPeer _ hread ?_⟩
    · show freeSlot PeerTable.init.peers ≠ none
      decide
    · rintro _ ⟨⟩
      decide
  have hfind : (Gateway.served (some 7)).udp.find (tcpAddr peerIp peerPort) = some 0 := by decide
  exact ⟨[.broadcast peerNs peerIp peerPort true, .addPeer (some 7)], .served (some 7), rfl,
    peer_tables_agree .little .least (.plain Nat) _ _ (.cons hstep₁ (.cons hstep₂ (.nil _)))
      (Gateway.served_quiet _) _ 0 hfind⟩

/-- When the connect fails the address stays recorded, and no slot of the client table has it. -/
theorem failed_connect_stays_recorded :
    ∃ (evs : List GwEvent) (g : Gateway),
      Run (GwStep .little .least (.plain Nat)) .init evs g ∧ g.Quiet ∧
      g.udp.find (tcpAddr peerIp peerPort) = some 0 ∧ ∀ j, ¬ g.client.Connected j := by
  obtain ⟨req, hbroadcast, hread⟩ := Gateway.init_broadcast
  have hstep₂ := Gateway.announced_addPeer none hread (by rintro _ ⟨⟩)
  exact ⟨_, _, .cons hbroadcast (.cons hstep₂ (.nil _)), Gateway.served_quiet none, by decide,
    fun _ h => absurd rfl h.2⟩

end Runs

end ItcFramework
