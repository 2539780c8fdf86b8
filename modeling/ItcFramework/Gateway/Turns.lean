import ItcFramework.Gateway.AddPeer
import ItcFramework.Gateway.MboxReply

/-!
# The turns of the gateway's threads

What the TCP client thread and the UDP thread of `itc_gw.c` do with one message of their mailboxes,
and the address under which the TCP server thread files a connection.

* `handleReceiveItcmsgAtClient` — a new peer, a message to forward, a mailbox to locate.
* `handleReceiveItcmsgAtUdp` — a peer that has gone, and a process that asks for the namespace.
* `Frame.request` — the request behind a frame. `clientTurn_frame`, `clientTurn_addPeer` — what the
  client thread does with one, and with the announcement of a peer.
-/

set_option autoImplicit false

namespace ItcFramework

open ByteImage SearchTree

/-! ## Messages -/

def ITCGW_UDP_RMV_PEER : UInt32 := 0x102

def offRmvPeerAddr : Nat := 4

def ITC_GATEWAY_TCP_LISTENING_PORT : UInt16 := 22222

/-- The message that `delete_tcp_peer_resource` sends. -/
def udpRmvPeerMsg (e : Endian) (a : Allocator) (addr : CString) : Except MemFault ItcMessage := do
  let req ← deref (← itcAllocZz e a true (offRmvPeerAddr + addr.strlen + 1) ITCGW_UDP_RMV_PEER)
  let body ← storeBytes req.body offRmvPeerAddr addr.withNul
  return { req with body }

/-- The message that `handle_udp_get_namespace_request` sends. -/
def getNamespaceReply (e : Endian) (a : Allocator) (ns : CString) : Except MemFault ItcMessage := do
  let rep ← deref (← itcAllocZz e a true (4 + ns.strlen + 1) ITC_GET_NAMESPACE_REPLY)
  let body ← storeBytes rep.body 4 ns.withNul
  return { rep with body }

/-! ## The UDP thread -/

structure UdpTurn where
  udp : UdpTable
  /-- The message of `itc_send`, and the mailbox it goes to. -/
  reply : Option (MboxId × ItcMessage)

/-- The switch of `handle_receive_itcmsg_at_udp`; `ns` is `itcgw_inst.namespace`. -/
def handleReceiveItcmsgAtUdp (e : Endian) (a : Allocator) (impl : TreeImpl Nat) (ns : CString)
    (tbl : UdpTable) (msg : ItcMessage) : Except MemFault UdpTurn := do
  let msgno ← msg.msgno e
  if msgno = ITCGW_UDP_RMV_PEER then
    let addr ← strAt msg.body offRmvPeerAddr
    return ⟨(handleUdpRmvPeer impl tbl addr).2, none⟩
  else if msgno = ITC_GET_NAMESPACE_REQUEST then
    let mboxId ← load32 e msg.body 4
    let rep ← getNamespaceReply e a ns
    return ⟨tbl, some (mboxId, rep)⟩
  else return ⟨tbl, none⟩

/-! ## The TCP client thread -/

/-- What the calls of one turn answer. -/
structure ClientSys where
  /-- What the locals of `handle_tcp_client_add_peer` hold before its `sscanf`. -/
  stack : TcpEndpoint
  /-- The socket, if `socket()` and `connect()` succeed. -/
  connect : Option Int
  /-- Whether `malloc` grants a packet. -/
  malloc : Bool
  /-- Whether `send()` on a socket succeeds. -/
  send : Int → Bool

structure ClientTurn where
  client : PeerTable
  itccoordMboxId : MboxId
  /-- The address given to a `connect()` that succeeded, and its socket. -/
  connected : Option (TcpEndpoint × Int) := none
  packet : Bytes := []
  /-- The sockets that have taken the packet, in the order of the calls. -/
  sockets : List Int := []
  /-- The message of `itc_send` to the coordinator. -/
  toCoord : Option ItcMessage := none

/-- `handle_tcp_client_add_peer`, with the socket that it has connected. -/
def clientAddPeer (impl : TreeImpl Nat) (sys : ClientSys) (tbl : PeerTable) (addr ns : CString) :
    Except MemFault (PeerTable × Option (TcpEndpoint × Int)) :=
  match tbl.tree.find (compareAddrTcpTree tbl.peers addr) with
  | some _ => .ok (tbl, none)
  | none => do
      let endpoint ← scanTcpAddr sys.stack addr
      return ((handleTcpClientAddPeer impl tbl addr ns sys.connect).2,
        sys.connect.map fun newFd => (endpoint, newFd))

/-- `handle_fwd_data_out`: the packet and the socket that has taken it. -/
def clientFwdDataOut (e : Endian) (pid : UInt32) (sys : ClientSys) (tbl : PeerTable)
    (msg : ItcMessage) : Except MemFault (Bytes × List Int) := do
  let _msgLen ← load32 e msg.body offPayloadLength
  if sys.malloc then
    match ← handleFwdDataOut e pid tbl msg with
    | none => return ([], [])
    | some (fd, rep) => return (rep, if sys.send fd then [fd] else [])
  else return ([], [])

/-- The loop over the slots: the sockets of the peers, those whose `send()` succeeds. -/
def locateSockets (sys : ClientSys) (peers : Nat → TcpPeerInfo) : List Int :=
  (((List.range ITC_GATEWAY_MAX_PEERS).map fun i => (peers i).fd).filter (· != -1)).filter sys.send

/-- `handle_locate_mbox_request`: the packet and the sockets that have taken it, or the answer to
the coordinator when there is none. -/
def handleLocateMboxRequest (e : Endian) (a : Allocator) (pid : UInt32) (sys : ClientSys)
    (tbl : PeerTable) (msg : ItcMessage) :
    Except MemFault (Bytes × List Int × Option ItcMessage) := do
  let rep ← locateMboxPacket e pid msg
  if sys.malloc then
    match locateSockets sys tbl.peers with
    | [] =>
        let reply ← locateMboxFromItcgwsReply e a ITC_NO_MBOX_ID .empty
        return ([], [], some reply)
    | fd :: fds => return (rep, fd :: fds, none)
  else return ([], [], none)

/-- The switch of `handle_receive_itcmsg_at_client`. -/
def handleReceiveItcmsgAtClient (e : Endian) (a : Allocator) (pid : UInt32) (impl : TreeImpl Nat)
    (sys : ClientSys) (tbl : PeerTable) (itccoordMboxId : MboxId) (msg : ItcMessage) :
    Except MemFault ClientTurn := do
  let msgno ← msg.msgno e
  if msgno = ITCGW_UDP_ADD_PEER then
    let addr ← strAt msg.body offAddPeerAddr
    let ns ← strAt msg.body offAddPeerNamespace
    let (client, connected) ← clientAddPeer impl sys tbl addr ns
    return { client, itccoordMboxId, connected }
  else if msgno = ITC_FWD_DATA_TO_ITCGWS then
    let (packet, sockets) ← clientFwdDataOut e pid sys tbl msg
    return { client := tbl, itccoordMboxId, packet, sockets }
  else if msgno = ITC_LOCATE_MBOX_FROM_ITCGWS_REQUEST then
    let itccoordMboxId ← load32 e msg.body 4
    let (packet, sockets, toCoord) ← handleLocateMboxRequest e a pid sys tbl msg
    return { client := tbl, itccoordMboxId, packet, sockets, toCoord }
  else return { client := tbl, itccoordMboxId }

/-- None of the messages that the client thread knows. -/
def OtherClientMessage (e : Endian) (m : ItcMessage) : Prop :=
  ∀ msgno, m.msgno e = .ok msgno → msgno ≠ ITCGW_UDP_ADD_PEER ∧ msgno ≠ ITC_FWD_DATA_TO_ITCGWS ∧
    msgno ≠ ITC_LOCATE_MBOX_FROM_ITCGWS_REQUEST

/-! ## The TCP server thread -/

/-- `snprintf(addr, 30, "tcp://%s:%hu/", inet_ntoa(new_addr.sin_addr),
ITC_GATEWAY_TCP_LISTENING_PORT)` -/
def acceptAddr (tcpIp : CString) : CString where
  bytes := (tcpPrefix ++ tcpIp.bytes ++ [58] ++
    (printHu ITC_GATEWAY_TCP_LISTENING_PORT).bytes ++ [47]).take 29
  noNul := fun hmem => (tcpAddr tcpIp (printHu ITC_GATEWAY_TCP_LISTENING_PORT)).noNul
    ((List.take_subset_take_left _ (by omega : 29 ≤ 39)) hmem)

/-! ## Requests -/

/-- The message by which the client thread is asked for a frame. -/
def Frame.request (e : Endian) (a : Allocator) : Frame → Except MemFault ItcMessage
  | .fwd message myMbox toMbox ns => do
      let req ← fwdRequest e a (message.stamp myMbox toMbox) ns
      deref req
  | .locate itccoordMbox mboxname => locateMboxFromItcgwsRequest e a itccoordMbox mboxname

section Turns

variable {e : Endian} {a : Allocator} {pid : UInt32} {impl : TreeImpl Nat} {sys : ClientSys}
  {tbl : PeerTable} {itccoordMboxId : MboxId} {msg : ItcMessage} {turn : ClientTurn}

/-- The sockets that take a message for a namespace. -/
def fwdSockets (sys : ClientSys) (tbl : PeerTable) (ns : CString) : List Int :=
  if sys.malloc then
    ((tbl.findNamespace ns).toList.map fun i => (tbl.peers i).fd).filter sys.send
  else []

/-- **A message to forward** goes to the peer that the tree gives for its namespace. -/
theorem clientTurn_fwd (pid : UInt32) (impl : TreeImpl Nat) (sys : ClientSys) (tbl : PeerTable)
    (itccoordMboxId : MboxId) {message : ItcMessage} {myMbox toMbox : MboxId} {ns : CString}
    (hf : (Frame.fwd message myMbox toMbox ns).Admissible a)
    (hreq : (Frame.fwd message myMbox toMbox ns).request e a = .ok msg) :
    ∃ packet, handleReceiveItcmsgAtClient e a pid impl sys tbl itccoordMboxId msg =
        .ok { client := tbl, itccoordMboxId, packet, sockets := fwdSockets sys tbl ns } ∧
      (fwdSockets sys tbl ns ≠ [] →
        packet = (Frame.fwd message myMbox toMbox ns).bytes e pid) := by
  obtain ⟨hm, hfit, hns⟩ := hf
  have hm' := hm.stamp myMbox toMbox
  have hbuilt := fwdRequest_ok e a hm' hfit (Nat.le_of_lt hns)
  simp only [Frame.request, hbuilt, deref, bind, Except.bind, Except.ok.injEq] at hreq
  have hbody : msg.body = fwdRequestBody e (message.stamp myMbox toMbox) ns := by rw [← hreq]
  have hmsgno : msg.msgno e = .ok ITC_FWD_DATA_TO_ITCGWS := load32_of_eq (a := []) hbody rfl
  have hname : strAt msg.body offToNamespace = .ok ns :=
    strAt_of_eq (a := word e ITC_FWD_DATA_TO_ITCGWS) hbody (by rw [word_length]; rfl)
  have hpacket := fwdDataPacket_ok e pid hm' hfit (Nat.le_of_lt hns) hbody
  obtain ⟨len, hlen, -⟩ := bind_eq_ok hpacket
  cases hmalloc : sys.malloc with
  | false =>
    refine ⟨[], ?_, fun hne => absurd ?_ hne⟩
    · simp only [handleReceiveItcmsgAtClient, clientFwdDataOut, fwdSockets, hmsgno, hlen, hmalloc,
        bind, Except.bind]
      rfl
    · rw [fwdSockets, hmalloc]
      rfl
  | true =>
    cases hfind : tbl.findNamespace ns with
    | none =>
      refine ⟨[], ?_, fun hne => absurd ?_ hne⟩
      · simp only [handleReceiveItcmsgAtClient, clientFwdDataOut, handleFwdDataOut, fwdSockets,
          hmsgno, hlen, hmalloc, hpacket, hname, hfind, bind, Except.bind]
        rfl
      · rw [fwdSockets, hmalloc, hfind]
        rfl
    | some i =>
      have htaken : fwdSockets sys tbl ns =
          if sys.send (tbl.peers i).fd then [(tbl.peers i).fd] else [] := by
        rw [fwdSockets, hmalloc, hfind]
        exact List.filter_cons
      refine ⟨_, ?_, fun _ => rfl⟩
      simp only [handleReceiveItcmsgAtClient, clientFwdDataOut, handleFwdDataOut, htaken,
        hmsgno, hlen, hmalloc, hpacket, hname, hfind, bind, Except.bind]
      rfl

/-- **A locate request** goes to every peer, or is answered when there is none. -/
theorem clientTurn_locate (pid : UInt32) (impl : TreeImpl Nat) (sys : ClientSys)
    (tbl : PeerTable) (itccoordMboxId : MboxId) {itccoordMbox : MboxId} {mboxname : CString}
    (hreq : (Frame.locate itccoordMbox mboxname).request e a = .ok msg) :
    ∃ turn, handleReceiveItcmsgAtClient e a pid impl sys tbl itccoordMboxId msg = .ok turn ∧
      turn.client = tbl ∧ turn.connected = none ∧ turn.itccoordMboxId = itccoordMbox ∧
      turn.sockets = (if sys.malloc then locateSockets sys tbl.peers else []) ∧
      (turn.sockets ≠ [] → turn.packet = (Frame.locate itccoordMbox mboxname).bytes e pid) := by
  obtain ⟨hmsgno, hcoord, hname⟩ := idNameMsg_reads hreq
  obtain ⟨-, req, hmsg, hbody⟩ := idNameMsg_made hreq
  have hpacket := locateMboxPacket_ok e pid (hmsg ▸ hbody)
  have hlimit := a.ge
  have hfits : offMboxname + CString.empty.strlen + 1 + ITC_HEADER_SIZE + 1 ≤ a.maxMallocsize :=
    Nat.le_trans (by decide) hlimit
  obtain ⟨reply, hreply, -⟩ :=
    idNameMsg_ok e a ITC_LOCATE_MBOX_FROM_ITCGWS_REPLY ITC_NO_MBOX_ID hfits
  cases hmalloc : sys.malloc with
  | false =>
    refine ⟨{ client := tbl, itccoordMboxId := itccoordMbox }, ?_, rfl, rfl, rfl, rfl,
      fun hne => absurd rfl hne⟩
    simp only [handleReceiveItcmsgAtClient, handleLocateMboxRequest, hmsgno, hcoord, hmalloc,
      hpacket, bind, Except.bind]
    rfl
  | true =>
    cases hsockets : locateSockets sys tbl.peers with
    | nil =>
      refine ⟨{ client := tbl, itccoordMboxId := itccoordMbox, toCoord := some reply.msg }, ?_,
        rfl, rfl, rfl, rfl, fun hne => absurd rfl hne⟩
      simp only [handleReceiveItcmsgAtClient, handleLocateMboxRequest, locateMboxFromItcgwsReply,
        hmsgno, hcoord, hmalloc, hpacket, hsockets, hreply, bind, Except.bind]
      rfl
    | cons fd fds =>
      refine ⟨{ client := tbl, itccoordMboxId := itccoordMbox, packet := _, sockets := fd :: fds },
        ?_, rfl, rfl, rfl, rfl, fun _ => rfl⟩
      simp only [handleReceiveItcmsgAtClient, handleLocateMboxRequest, hmsgno, hcoord, hmalloc,
        hpacket, hsockets, bind, Except.bind]
      rfl

/-- A slot goes with a frame: any in use for a locate request, that of the namespace for a
message. -/
def PeerTable.Takes (tbl : PeerTable) : Frame → Nat → Prop
  | .fwd _ _ _ ns, i => tbl.findNamespace ns = some i
  | .locate _ _, i => tbl.Connected i

theorem fwdSockets_slots (ns : CString) : ∃ slots : List Nat, slots.Nodup ∧
    (∀ i ∈ slots, tbl.findNamespace ns = some i) ∧
      fwdSockets sys tbl ns = slots.map fun i => (tbl.peers i).fd := by
  unfold fwdSockets
  split
  · refine ⟨(tbl.findNamespace ns).toList.filter fun i => sys.send (tbl.peers i).fd, ?_, ?_, ?_⟩
    · have hone : (tbl.findNamespace ns).toList.Nodup := by
        cases tbl.findNamespace ns with
        | none => exact List.nodup_nil
        | some i => exact List.nodup_singleton i
      exact hone.filter _
    · exact fun i hi => Option.mem_toList.mp (List.mem_of_mem_filter hi)
    · rw [List.filter_map]
      rfl
  · exact ⟨[], List.nodup_nil, fun i hi => absurd hi List.not_mem_nil, rfl⟩

theorem locateSockets_slots : ∃ slots : List Nat, slots.Nodup ∧ (∀ i ∈ slots, tbl.Connected i) ∧
    locateSockets sys tbl.peers = slots.map fun i => (tbl.peers i).fd := by
  refine ⟨((List.range ITC_GATEWAY_MAX_PEERS).filter fun i => (tbl.peers i).fd != -1).filter
    fun i => sys.send (tbl.peers i).fd, ?_, ?_, ?_⟩
  · exact (List.nodup_range.filter _).filter _
  · intro i hi
    have hslot := List.mem_of_mem_filter hi
    rw [List.mem_filter, List.mem_range] at hslot
    exact ⟨hslot.1, by simpa using hslot.2⟩
  · rw [locateSockets, List.filter_map, List.filter_map]
    rfl

/-- **The client thread's turn with a request** leaves the table alone, and gives the frame to the
sockets of slots that go with it, once to each. -/
theorem clientTurn_frame {f : Frame} (hf : f.Admissible a) (hreq : f.request e a = .ok msg)
    (hcall : handleReceiveItcmsgAtClient e a pid impl sys tbl itccoordMboxId msg = .ok turn) :
    turn.client = tbl ∧ turn.connected = none ∧
      (turn.sockets ≠ [] → turn.packet = f.bytes e pid) ∧
      ∃ slots : List Nat, slots.Nodup ∧ (∀ i ∈ slots, tbl.Takes f i) ∧
        turn.sockets = slots.map fun i => (tbl.peers i).fd := by
  cases f with
  | fwd message myMbox toMbox ns =>
    obtain ⟨packet, hok, hpacket⟩ := clientTurn_fwd pid impl sys tbl itccoordMboxId hf hreq
    rw [hok] at hcall
    cases hcall
    exact ⟨rfl, rfl, hpacket, fwdSockets_slots ns⟩
  | locate itccoordMbox mboxname =>
    obtain ⟨turn', hok, hclient, hconn, -, hsockets, hpacket⟩ := clientTurn_locate pid impl sys tbl
      itccoordMboxId hreq
    rw [hok] at hcall
    cases hcall
    refine ⟨hclient, hconn, hpacket, ?_⟩
    rw [hsockets]
    split
    · exact locateSockets_slots
    · exact ⟨[], List.nodup_nil, fun i hi => absurd hi List.not_mem_nil, rfl⟩

/-- **The announcement of a peer**: the client thread connects to the address of the peer, unless it
has a slot with that address. -/
theorem clientTurn_addPeer (pid : UInt32) (impl : TreeImpl Nat) (sys : ClientSys) (tbl : PeerTable)
    (itccoordMboxId : MboxId) {ns : CString} {ip1 ip2 ip3 ip4 : UInt8} {tcpPort : UInt16}
    (hns : ns.strlen < ITC_MAX_NAME_LENGTH)
    (hshort : (tcpAddr (inetNtoa ip1 ip2 ip3 ip4) (printHu tcpPort)).strlen ≤ 24)
    (hreq : udpAddPeerMsg e a true (tcpAddr (inetNtoa ip1 ip2 ip3 ip4) (printHu tcpPort)) ns =
      .ok msg) :
    handleReceiveItcmsgAtClient e a pid impl sys tbl itccoordMboxId msg = .ok
      { client := (handleTcpClientAddPeer impl tbl
          (tcpAddr (inetNtoa ip1 ip2 ip3 ip4) (printHu tcpPort)) ns sys.connect).2
        itccoordMboxId
        connected := match tbl.tree.find (compareAddrTcpTree tbl.peers
            (tcpAddr (inetNtoa ip1 ip2 ip3 ip4) (printHu tcpPort))) with
          | some _ => none
          | none => sys.connect.map fun newFd =>
              (⟨inetNtoa ip1 ip2 ip3 ip4, tcpPort⟩, newFd) } := by
  have hscan := scanTcpAddr_tcpAddr ip1 ip2 ip3 ip4 tcpPort sys.stack
  generalize tcpAddr (inetNtoa ip1 ip2 ip3 ip4) (printHu tcpPort) = addr at hshort hreq hscan ⊢
  rw [udpAddPeerMsg_short hns hshort] at hreq
  obtain ⟨-, haddr, hname⟩ := udpAddPeerMsg_short_read (e := e) hns hshort rfl
  rw [← Except.ok.inj hreq]
  have hmsgno : ItcMessage.msgno e { AddPeer.blank e ns with body := word e ITCGW_UDP_ADD_PEER ++
      (addr.withNul ++ (List.replicate (24 - addr.strlen) 0 ++ (ns.withNul ++ [ENDPOINT]))) } =
      .ok ITCGW_UDP_ADD_PEER := load32_of_eq (a := []) rfl rfl
  simp only [handleReceiveItcmsgAtClient, hmsgno, haddr, hname, if_true, bind, Except.bind]
  cases hfind : tbl.tree.find (compareAddrTcpTree tbl.peers addr) with
  | some i =>
    simp only [clientAddPeer, handleTcpClientAddPeer, hfind]
    rfl
  | none =>
    simp only [clientAddPeer, hfind, hscan, bind, Except.bind]
    rfl

theorem clientTurn_other (hother : OtherClientMessage e msg)
    (hcall : handleReceiveItcmsgAtClient e a pid impl sys tbl itccoordMboxId msg = .ok turn) :
    turn = { client := tbl, itccoordMboxId } := by
  obtain ⟨msgno, hmsgno, hcall⟩ := bind_eq_ok hcall
  obtain ⟨hadd, hfwd, hlocate⟩ := hother msgno hmsgno
  rw [if_neg hadd, if_neg hfwd, if_neg hlocate] at hcall
  cases hcall
  rfl

end Turns

end ItcFramework
