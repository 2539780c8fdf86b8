import ItcFramework.Lib.ByteStream
import ItcFramework.Itc.Proto

/-!
# Framing on a gateway connection

Embedding of the byte path between two gateways (`itc.c`, `itc_gw.c`, `itc_gw_proto.h`): the
request a process builds for its gateway, the packet the gateway writes to a TCP connection,
and the peer's read loop.

* `fwdRequest` — the `ITC_FWD_DATA_TO_ITCGWS` message of `handle_forward_itc_msg_to_itcgw`;
* `fwdDataPacket`, `locateMboxPacket` — what `handle_fwd_data_out` and
  `handle_locate_mbox_request` hand to `send()`;
* `recvData`, `handleReceiveTcpPacketAtServer` — the receiving side.

Not modelled: `send()` writes the whole buffer, memory below the allocator's limit is granted, also
for a name of any such length, and the stack of the peer's server thread holds `rxbuff[payloadLen]`.

Principal result: `serve_writeAll` — however the connection cuts the bytes, every call of
`handleReceiveTcpPacketAtServer` consumes one frame and gives back what was written.
-/

set_option autoImplicit false

namespace ItcFramework

open ByteImage

/-! ## Constants and layout -/

def ITC_GATEWAY_ETH_PACKET_SIZE : Nat := 1500
def ITCGW_ITC_DATA_FWD : UInt32 := 0x100 + 0x3
def ITCGW_LOCATE_MBOX_REQUEST : UInt32 := 0x100 + 0x4
def ITCGW_STATUS_OK : UInt32 := 0

/-- Offsets in `struct itc_fwd_data_to_itcgws`. -/
def offToNamespace : Nat := 4
def offPayloadLength : Nat := 260
def offPayload : Nat := 264

/-- `sizeof(struct itcgw_header)`. -/
def ITCGW_HEADER_SIZE : Nat := 20

/-- `offsetof(struct itcgw_itc_data_fwd, payload)`. -/
def offFwdPayload : Nat := 8

/-- `offsetof(struct itcgw_locate_mbox_request, mboxname)`. -/
def offLocateMboxname : Nat := 4

/-! ## The sending process -/

/-- Both send paths of `itc_send_zz` overwrite the two addresses. -/
def ItcMessage.stamp (m : ItcMessage) (myMbox toMbox : MboxId) : ItcMessage :=
  { m with sender := myMbox, receiver := toMbox }

/-- `size_t` difference `offsetof(payload_length) - offsetof(to_namespace) - strlen - 1`. -/
def nsUnfilledSize (ns : CString) : Nat :=
  if ns.strlen + 1 ≤ offPayloadLength - offToNamespace then
    offPayloadLength - offToNamespace - ns.strlen - 1
  else 2 ^ 64 + (offPayloadLength - offToNamespace) - ns.strlen - 1

/-- The request `handle_forward_itc_msg_to_itcgw` builds from the stamped message; `none` when
the message is too large for one packet. -/
def fwdRequest (e : Endian) (a : Allocator) (message : ItcMessage) (ns : CString) :
    Except MemFault (Option ItcMessage) :=
  let payloadLen := message.size.toNat + ITC_HEADER_SIZE
  if payloadLen > ITC_GATEWAY_ETH_PACKET_SIZE then .ok none else do
  let req ← deref (← itcAllocZz e a true (offPayload + payloadLen) ITC_FWD_DATA_TO_ITCGWS)
  let body ← storeBytes req.body offToNamespace ns.withNul
  let body ← memset body (offToNamespace + ns.strlen + 1) 0 (nsUnfilledSize ns)
  let body ← store32 e body offPayloadLength (UInt32.ofNat payloadLen)
  let payload ← slice (message.image e) 0 payloadLen
  let body ← storeBytes body offPayload payload
  return some { req with body }

/-- The request by which the coordinator asks its gateway for a mailbox name. -/
def locateMboxFromItcgwsRequest (e : Endian) (a : Allocator) (itccoordMbox : MboxId)
    (mboxname : CString) : Except MemFault ItcMessage :=
  idNameMsg e a ITC_LOCATE_MBOX_FROM_ITCGWS_REQUEST itccoordMbox mboxname

/-! ## The sending gateway -/

/-- A `struct itcgw_header` in host memory whose fields have been through `htonl`. -/
def itcgwHeader (e : Endian) (sender receiver protRev msgno payloadLen : UInt32) : Bytes :=
  word e (htonl e sender) ++ (word e (htonl e receiver) ++ (word e (htonl e protRev) ++
    (word e (htonl e msgno) ++ word e (htonl e payloadLen))))

/-- The bytes `handle_fwd_data_out` passes to `send()`. -/
def fwdDataPacket (e : Endian) (pid : UInt32) (msg : ItcMessage) : Except MemFault Bytes := do
  let len ← load32 e msg.body offPayloadLength
  let payload ← slice msg.body offPayload len.toNat
  return itcgwHeader e pid 222 15 ITCGW_ITC_DATA_FWD (UInt32.ofNat (offFwdPayload + len.toNat)) ++
    (word e (htonl e ITCGW_STATUS_OK) ++ (word e (htonl e len) ++ payload))

/-- The bytes `handle_locate_mbox_request` passes to `send()` for every connected peer. -/
def locateMboxPacket (e : Endian) (pid : UInt32) (msg : ItcMessage) : Except MemFault Bytes := do
  let mboxname ← strAt msg.body offMboxname
  return itcgwHeader e pid 111 15 ITCGW_LOCATE_MBOX_REQUEST
      (UInt32.ofNat (offLocateMboxname + mboxname.strlen + 1)) ++
    (word e (htonl e ITCGW_STATUS_OK) ++ mboxname.withNul)

/-! ## The receiving gateway -/

/-- `recv_data`: the loop around `recv`; `none` stands for a return value `≤ 0`. -/
def recvData (sock : ByteStream) (nrBytesToRead : Nat) : Option Bytes × ByteStream :=
  match sock.recv nrBytesToRead with
  | (got, sock) =>
    if _hgot : got.length = 0 then (none, sock)
    else if nrBytesToRead - got.length > 0 then
      match recvData sock (nrBytesToRead - got.length) with
      | (more, sock) => (more.map (got ++ ·), sock)
    else (some got, sock)
  termination_by nrBytesToRead
  decreasing_by omega

/-- `struct itcgw_header` after the conversions of `handle_receive_tcp_packet_at_server`. -/
structure ItcgwHeader where
  sender : UInt32
  receiver : UInt32
  protRev : UInt32
  msgno : UInt32
  payloadLen : UInt32
  deriving DecidableEq, Repr

def ItcgwHeader.ofRxbuff (e : Endian) (rxbuff : Bytes) : Except MemFault ItcgwHeader := do
  let sender ← load32 e rxbuff 0
  let receiver ← load32 e rxbuff 4
  let protRev ← load32 e rxbuff 8
  let msgno ← load32 e rxbuff 12
  let payloadLen ← load32 e rxbuff 16
  return { sender := ntohl e sender, receiver := ntohl e receiver, protRev := ntohl e protRev,
           msgno := ntohl e msgno, payloadLen := ntohl e payloadLen }

/-- What one packet makes the server do. -/
inductive ServerEvent where
  /-- `itc_send(&msg, message->receiver, ITC_MY_MBOX_ID, NULL)` -/
  | sendInternal (message : ItcMessage)
  /-- `itc_locate_sync(1000, mboxname, 1, NULL, NULL)` -/
  | locateSync (mboxname : CString)
  | peerDisconnected
  | receiveFailed
  | unknownPacket (msgno : UInt32)
  deriving DecidableEq, Repr

/-- `handle_receive_data_fwd` up to its `itc_send`: the received image is copied over a message
allocated with the size the image itself gives. -/
def handleReceiveDataFwd (e : Endian) (a : Allocator) (sock : ByteStream) (header : ItcgwHeader) :
    Except MemFault (ServerEvent × ByteStream) :=
  match recvData sock header.payloadLen.toNat with
  | (none, sock) => .ok (.receiveFailed, sock)
  | (some rxbuff, sock) => do
      let _errorcode ← load32 e rxbuff 0
      let payloadLength ← load32 e rxbuff 4
      let payloadLength := ntohl e payloadLength
      let size ← load32 e rxbuff (offFwdPayload + 12)
      let msgno ← load32 e rxbuff (offFwdPayload + 16)
      let msg ← deref (← itcAllocZz e a true size.toNat msgno)
      let payload ← slice rxbuff offFwdPayload payloadLength.toNat
      let image ← memcpy (msg.image e) payload payloadLength.toNat
      let message ← ItcMessage.ofImage e image
      return (.sendInternal message, sock)

/-- `handle_receive_locate_mbox` up to its `itc_locate_sync`. -/
def handleReceiveLocateMbox (e : Endian) (sock : ByteStream) (header : ItcgwHeader) :
    Except MemFault (ServerEvent × ByteStream) :=
  match recvData sock header.payloadLen.toNat with
  | (none, sock) => .ok (.receiveFailed, sock)
  | (some rxbuff, sock) => do
      let _errorcode ← load32 e rxbuff 0
      let mboxname ← strAt rxbuff offLocateMboxname
      return (.locateSync mboxname, sock)

def handleReceiveTcpPacketAtServer (e : Endian) (a : Allocator) (sock : ByteStream) :
    Except MemFault (ServerEvent × ByteStream) :=
  match recvData sock ITCGW_HEADER_SIZE with
  | (none, sock) => .ok (.peerDisconnected, sock)
  | (some rxbuff, sock) => do
      let header ← ItcgwHeader.ofRxbuff e rxbuff
      if header.msgno = ITCGW_ITC_DATA_FWD then handleReceiveDataFwd e a sock header
      else if header.msgno = ITCGW_LOCATE_MBOX_REQUEST then handleReceiveLocateMbox e sock header
      else return (.unknownPacket header.msgno, sock)

/-- The server thread calls the handler again each time the connection is readable. -/
def serve (e : Endian) (a : Allocator) :
    Nat → ByteStream → Except MemFault (List ServerEvent × ByteStream)
  | 0, sock => .ok ([], sock)
  | n + 1, sock => do
      let (ev, sock) ← handleReceiveTcpPacketAtServer e a sock
      let (evs, sock) ← serve e a n sock
      return (ev :: evs, sock)

/-! ## Reading exactly one field after another -/

/-- **A read loop over any segmentation yields exactly the next `n` bytes.** -/
theorem recvData_eq {sock : ByteStream} {b rest : Bytes} (h : sock.bytes = b ++ rest)
    (hb : b ≠ []) :
    ∃ sock', recvData sock b.length = (some b, sock') ∧ sock'.bytes = rest := by
  -- each `recv` takes a nonempty prefix of `b`, so induct on what is left of it
  induction hn : b.length using Nat.strong_induction_on generalizing b sock with
  | _ n ih =>
    subst hn
    have hpos : 0 < b.length := List.length_pos_of_ne_nil hb
    have hne : sock.bytes ≠ [] := by simp [h, hb]
    have hle := sock.recv_length_le b.length
    have hgt := ByteStream.recv_length_pos hne hpos
    have hsplit := sock.recv_bytes b.length
    rw [recvData]
    generalize sock.recv b.length = r at hle hgt hsplit
    obtain ⟨got, sock'⟩ := r
    simp only at hle hgt hsplit ⊢
    rw [h] at hsplit
    have hgot : got = b.take got.length := by
      have := congrArg (List.take got.length) hsplit
      rwa [List.take_left, List.take_append_of_le_length hle] at this
    have hrest : sock'.bytes = b.drop got.length ++ rest := by
      have := congrArg (List.drop got.length) hsplit
      rwa [List.drop_left, List.drop_append_of_le_length hle] at this
    rw [dif_neg (by omega)]
    split
    · rename_i hmore
      have hlen : (b.drop got.length).length = b.length - got.length := List.length_drop
      obtain ⟨s, hs, hbytes⟩ := ih (b.length - got.length) (by omega) hrest
        (List.ne_nil_of_length_pos (by omega)) hlen
      refine ⟨s, ?_, hbytes⟩
      rw [hs]
      simp only [Option.map_some]
      nth_rewrite 1 [hgot]
      rw [List.take_append_drop]
    · rename_i hdone
      have hall : got.length = b.length := by omega
      refine ⟨sock', ?_, ?_⟩
      · rw [hgot, hall, List.take_length]
      · rw [hrest, hall, List.drop_length, List.nil_append]

/-! ## Frames -/

/-- One frame of a connection, by what made the gateway write it. -/
inductive Frame where
  /-- `myMbox` sent `message` to `toMbox` in the namespace of this peer. -/
  | fwd (message : ItcMessage) (myMbox toMbox : MboxId) (ns : CString)
  /-- The coordinator asked for a mailbox name. -/
  | locate (itccoordMbox : MboxId) (mboxname : CString)
  deriving DecidableEq, Repr

/-- The bytes written for a frame, from the request message on. -/
def Frame.write (e : Endian) (a : Allocator) (pid : UInt32) : Frame → Except MemFault Bytes
  | .fwd message myMbox toMbox ns => do
      let req ← deref (← fwdRequest e a (message.stamp myMbox toMbox) ns)
      fwdDataPacket e pid req
  | .locate itccoordMbox mboxname => do
      let req ← locateMboxFromItcgwsRequest e a itccoordMbox mboxname
      locateMboxPacket e pid req

def writeAll (e : Endian) (a : Allocator) (pid : UInt32) : List Frame → Except MemFault Bytes
  | [] => .ok []
  | f :: fs => do
      let b ← f.write e a pid
      let bs ← writeAll e a pid fs
      return b ++ bs

/-- What the peer should make of a frame. -/
def Frame.event : Frame → ServerEvent
  | .fwd message myMbox toMbox _ => .sendInternal (message.stamp myMbox toMbox)
  | .locate _ mboxname => .locateSync mboxname

/-- A user's message that fits one packet, to a legal namespace; a name whose request the
coordinator can allocate. -/
def Frame.Admissible (a : Allocator) : Frame → Prop
  | .fwd message _ _ ns =>
      message.WellFormed ∧ message.size.toNat + ITC_HEADER_SIZE ≤ ITC_GATEWAY_ETH_PACKET_SIZE ∧
        ns.strlen < ITC_MAX_NAME_LENGTH
  | .locate _ mboxname =>
      offMboxname + mboxname.strlen + 1 + ITC_HEADER_SIZE + 1 ≤ a.maxMallocsize

theorem ItcMessage.WellFormed.stamp {m : ItcMessage} (h : m.WellFormed) (myMbox toMbox : MboxId) :
    (m.stamp myMbox toMbox).WellFormed :=
  ⟨h.size_ge, h.length_eq, h.endpoint_eq⟩

/-! ## What is written -/

/-- The packet of a forwarded message: gateway header, status, length, and the image without
its `ENDPOINT`. -/
def dataFwdFrame (e : Endian) (pid : UInt32) (m : ItcMessage) : Bytes :=
  itcgwHeader e pid 222 15 ITCGW_ITC_DATA_FWD
      (UInt32.ofNat (offFwdPayload + (m.size.toNat + ITC_HEADER_SIZE))) ++
    (word e (htonl e ITCGW_STATUS_OK) ++
      (word e (htonl e (UInt32.ofNat (m.size.toNat + ITC_HEADER_SIZE))) ++
        (m.header e ++ m.userBytes)))

def locateFrame (e : Endian) (pid : UInt32) (mboxname : CString) : Bytes :=
  itcgwHeader e pid 111 15 ITCGW_LOCATE_MBOX_REQUEST
      (UInt32.ofNat (offLocateMboxname + mboxname.strlen + 1)) ++
    (word e (htonl e ITCGW_STATUS_OK) ++ mboxname.withNul)

/-- With a legal namespace the name field is filled up to the padding before
`payload_length`. -/
theorem nsUnfilledSize_eq {ns : CString} (h : ns.strlen ≤ ITC_MAX_NAME_LENGTH) :
    nsUnfilledSize ns = 255 - ns.strlen := by
  simp only [ITC_MAX_NAME_LENGTH] at h
  rw [nsUnfilledSize, if_pos (by simp only [offPayloadLength, offToNamespace]; omega)]
  simp only [offPayloadLength, offToNamespace]
  omega

/-- The body of the request, field by field. -/
def fwdRequestBody (e : Endian) (m : ItcMessage) (ns : CString) : Bytes :=
  word e ITC_FWD_DATA_TO_ITCGWS ++ (ns.withNul ++ (List.replicate (255 - ns.strlen) 0 ++
    (word e (UInt32.ofNat (m.size.toNat + ITC_HEADER_SIZE)) ++
      ((m.header e ++ m.userBytes) ++ [ENDPOINT]))))

theorem fwdRequest_ok (e : Endian) (a : Allocator) {m : ItcMessage} {ns : CString}
    (hm : m.WellFormed) (hfit : m.size.toNat + ITC_HEADER_SIZE ≤ ITC_GATEWAY_ETH_PACKET_SIZE)
    (hns : ns.strlen ≤ ITC_MAX_NAME_LENGTH) :
    fwdRequest e a m ns = .ok (some
      { ItcMessage.fresh e (offPayload + (m.size.toNat + ITC_HEADER_SIZE)) ITC_FWD_DATA_TO_ITCGWS
        with body := fwdRequestBody e m ns }) := by
  have ha := a.ge
  have hun := nsUnfilledSize_eq hns
  simp only [ITC_GATEWAY_ETH_PACKET_SIZE, ITC_HEADER_SIZE, ITC_MAX_NAME_LENGTH,
    ITC_MAX_MSGSIZE] at hfit hns ha
  have hpl : (m.header e ++ m.userBytes).length = m.size.toNat + 16 := by
    rw [List.length_append, ItcMessage.header_length, hm.userBytes_length, ITC_HEADER_SIZE]
    omega
  have halloc := itcAllocZz_ok e a ITC_FWD_DATA_TO_ITCGWS
    (show 4 ≤ offPayload + (m.size.toNat + 16) by simp only [offPayload]; omega)
    (by simp only [offPayload, ITC_HEADER_SIZE]; omega)
  -- the zeroed block, cut at the fields of the request
  have hzero : List.replicate (offPayload + (m.size.toNat + 16) - 4) (0 : UInt8) =
      List.replicate (ns.strlen + 1) 0 ++ (List.replicate (255 - ns.strlen) 0 ++
        (List.replicate 4 0 ++ List.replicate (m.size.toNat + 16) 0)) := by
    rw [← List.replicate_add, ← List.replicate_add, ← List.replicate_add]
    simp only [offPayload]
    congr 1
    omega
  have h1 : storeBytes (ItcMessage.fresh e (offPayload + (m.size.toNat + 16))
      ITC_FWD_DATA_TO_ITCGWS).body offToNamespace ns.withNul =
      .ok (word e ITC_FWD_DATA_TO_ITCGWS ++ (ns.withNul ++ (List.replicate (255 - ns.strlen) 0 ++
        (List.replicate 4 0 ++ (List.replicate (m.size.toNat + 16) 0 ++ [ENDPOINT]))))) :=
    storeBytes_of_eq (a := word e ITC_FWD_DATA_TO_ITCGWS)
      (o := List.replicate (ns.strlen + 1) 0)
      (by simp only [ItcMessage.fresh, hzero, List.append_assoc]) (by simp [offToNamespace])
      (by simp)
  have h2 : memset (word e ITC_FWD_DATA_TO_ITCGWS ++ (ns.withNul ++
      (List.replicate (255 - ns.strlen) 0 ++ (List.replicate 4 0 ++
        (List.replicate (m.size.toNat + 16) 0 ++ [ENDPOINT])))))
      (offToNamespace + ns.strlen + 1) 0 (nsUnfilledSize ns) =
      .ok (word e ITC_FWD_DATA_TO_ITCGWS ++ ns.withNul ++ (List.replicate (nsUnfilledSize ns) 0 ++
        (List.replicate 4 0 ++ (List.replicate (m.size.toNat + 16) 0 ++ [ENDPOINT])))) :=
    memset_of_eq (a := word e ITC_FWD_DATA_TO_ITCGWS ++ ns.withNul)
      (o := List.replicate (255 - ns.strlen) 0) (by rw [List.append_assoc])
      (by simp [offToNamespace]; omega)
      (by rw [hun, List.length_replicate])
  rw [hun] at h2
  have h3 : store32 e (word e ITC_FWD_DATA_TO_ITCGWS ++ ns.withNul ++
      (List.replicate (255 - ns.strlen) 0 ++ (List.replicate 4 0 ++
        (List.replicate (m.size.toNat + 16) 0 ++ [ENDPOINT])))) offPayloadLength
      (UInt32.ofNat (m.size.toNat + 16)) =
      .ok (word e ITC_FWD_DATA_TO_ITCGWS ++ ns.withNul ++ List.replicate (255 - ns.strlen) 0 ++
        (word e (UInt32.ofNat (m.size.toNat + 16)) ++
          (List.replicate (m.size.toNat + 16) 0 ++ [ENDPOINT]))) :=
    store32_of_eq (o := List.replicate 4 0)
      (by simp only [List.append_assoc]) (by simp [offPayloadLength]; omega) (by simp)
  have h4 : slice (m.image e) 0 (m.size.toNat + 16) = .ok (m.header e ++ m.userBytes) :=
    slice_of_eq (a := []) (c := [ENDPOINT])
      (by rw [ItcMessage.image, List.nil_append, List.append_assoc, ← hm.body_eq]) rfl hpl.symm
  have h5 : storeBytes (word e ITC_FWD_DATA_TO_ITCGWS ++ ns.withNul ++
      List.replicate (255 - ns.strlen) 0 ++ (word e (UInt32.ofNat (m.size.toNat + 16)) ++
        (List.replicate (m.size.toNat + 16) 0 ++ [ENDPOINT]))) offPayload
      (m.header e ++ m.userBytes) =
      .ok (word e ITC_FWD_DATA_TO_ITCGWS ++ ns.withNul ++ List.replicate (255 - ns.strlen) 0 ++
        word e (UInt32.ofNat (m.size.toNat + 16)) ++ ((m.header e ++ m.userBytes) ++ [ENDPOINT])) :=
    storeBytes_of_eq (o := List.replicate (m.size.toNat + 16) 0)
      (by simp only [List.append_assoc]) (by simp [offPayload]; omega)
      (by rw [hpl, List.length_replicate])
  unfold fwdRequest
  dsimp only
  rw [if_neg (by simp only [ITC_HEADER_SIZE, ITC_GATEWAY_ETH_PACKET_SIZE]; omega)]
  simp only [ITC_HEADER_SIZE, halloc, deref, bind, Except.bind, h1, hun, h2, h3, h4, h5]
  simp only [fwdRequestBody, ITC_HEADER_SIZE, List.append_assoc]
  rfl

theorem toNat_ofNat_lt {n : Nat} (h : n < 2 ^ 32) : (UInt32.ofNat n).toNat = n := by
  rw [UInt32.toNat_ofNat']
  exact Nat.mod_eq_of_lt h

/-- The gateway adds its header to the payload of a request, whatever else the request holds. -/
theorem fwdDataPacket_ok (e : Endian) (pid : UInt32) {m req : ItcMessage} {ns : CString}
    (hm : m.WellFormed) (hfit : m.size.toNat + ITC_HEADER_SIZE ≤ ITC_GATEWAY_ETH_PACKET_SIZE)
    (hns : ns.strlen ≤ ITC_MAX_NAME_LENGTH) (hreq : req.body = fwdRequestBody e m ns) :
    fwdDataPacket e pid req = .ok (dataFwdFrame e pid m) := by
  simp only [ITC_GATEWAY_ETH_PACKET_SIZE, ITC_HEADER_SIZE, ITC_MAX_NAME_LENGTH] at hfit hns
  have hlen : (UInt32.ofNat (m.size.toNat + 16)).toNat = m.size.toNat + 16 :=
    toNat_ofNat_lt (by omega)
  have hload : load32 e req.body offPayloadLength = .ok (UInt32.ofNat (m.size.toNat + 16)) :=
    load32_of_eq (a := word e ITC_FWD_DATA_TO_ITCGWS ++ ns.withNul ++
        List.replicate (255 - ns.strlen) 0) (c := (m.header e ++ m.userBytes) ++ [ENDPOINT])
      (by simp only [hreq, fwdRequestBody, ITC_HEADER_SIZE, List.append_assoc])
      (by simp [offPayloadLength]; omega)
  have hslice : slice req.body offPayload (m.size.toNat + 16) = .ok (m.header e ++ m.userBytes) :=
    slice_of_eq (a := word e ITC_FWD_DATA_TO_ITCGWS ++ ns.withNul ++
        List.replicate (255 - ns.strlen) 0 ++ word e (UInt32.ofNat (m.size.toNat + 16)))
      (c := [ENDPOINT])
      (by simp only [hreq, fwdRequestBody, ITC_HEADER_SIZE, List.append_assoc])
      (by simp [offPayload]; omega)
      (by rw [List.length_append, ItcMessage.header_length, hm.userBytes_length, ITC_HEADER_SIZE]
          omega)
  simp only [fwdDataPacket, hload, hlen, hslice, bind, Except.bind]
  rfl

theorem locateMboxPacket_ok (e : Endian) (pid : UInt32) {req : ItcMessage} {mboxname : CString}
    {itccoordMbox : MboxId}
    (hreq : req.body = word e ITC_LOCATE_MBOX_FROM_ITCGWS_REQUEST ++ (word e itccoordMbox ++
      (mboxname.withNul ++ [ENDPOINT]))) :
    locateMboxPacket e pid req = .ok (locateFrame e pid mboxname) := by
  have hname : strAt req.body offMboxname = .ok mboxname :=
    strAt_of_eq (a := word e ITC_LOCATE_MBOX_FROM_ITCGWS_REQUEST ++ word e itccoordMbox)
      (c := [ENDPOINT]) (by rw [hreq, List.append_assoc]) (by simp [offMboxname])
  simp only [locateMboxPacket, hname, bind, Except.bind]
  rfl

/-- The bytes of an admissible frame. -/
def Frame.bytes (e : Endian) (pid : UInt32) : Frame → Bytes
  | .fwd message myMbox toMbox _ => dataFwdFrame e pid (message.stamp myMbox toMbox)
  | .locate _ mboxname => locateFrame e pid mboxname

theorem Frame.write_ok (e : Endian) {a : Allocator} (pid : UInt32) {f : Frame}
    (h : f.Admissible a) : f.write e a pid = .ok (f.bytes e pid) := by
  cases f with
  | fwd message myMbox toMbox ns =>
    obtain ⟨hm, hfit, hns⟩ := h
    have hm' := hm.stamp myMbox toMbox
    have hreq := fwdRequest_ok e a hm' hfit (Nat.le_of_lt hns)
    simp only [Frame.write, hreq, deref, bind, Except.bind]
    exact fwdDataPacket_ok e pid hm' hfit (Nat.le_of_lt hns) rfl
  | locate itccoordMbox mboxname =>
    obtain ⟨⟨req, hwf, hflags⟩, hreq, hbody⟩ := idNameMsg_ok e a
      ITC_LOCATE_MBOX_FROM_ITCGWS_REQUEST itccoordMbox h
    simp only [Frame.write, locateMboxFromItcgwsRequest, hreq, bind, Except.bind]
    exact locateMboxPacket_ok e pid hbody

theorem writeAll_ok (e : Endian) {a : Allocator} (pid : UInt32) {fs : List Frame}
    (h : ∀ f ∈ fs, f.Admissible a) : writeAll e a pid fs = .ok (fs.flatMap (Frame.bytes e pid)) := by
  induction fs with
  | nil => rfl
  | cons f fs ih =>
    have hf := Frame.write_ok e pid (h f List.mem_cons_self)
    have hfs := ih fun g hg => h g (List.mem_cons_of_mem _ hg)
    simp only [writeAll, hf, hfs, bind, Except.bind]
    rfl

/-! ## What is read -/

@[simp] theorem itcgwHeader_length (e : Endian) (sender receiver protRev msgno payloadLen : UInt32) :
    (itcgwHeader e sender receiver protRev msgno payloadLen).length = ITCGW_HEADER_SIZE := by
  simp [itcgwHeader, ITCGW_HEADER_SIZE]

/-- The receiver's header holds the numbers the sender put in, whatever the two hosts' byte
orders. -/
theorem ofRxbuff_itcgwHeader (e e' : Endian) (sender receiver protRev msgno payloadLen : UInt32) :
    ItcgwHeader.ofRxbuff e' (itcgwHeader e sender receiver protRev msgno payloadLen) =
      .ok { sender, receiver, protRev, msgno, payloadLen } := by
  simp only [itcgwHeader, word_htonl]
  have h0 := load32_big_of_eq (e := e') (a := []) (w := sender)
    (c := word .big receiver ++ (word .big protRev ++ (word .big msgno ++ word .big payloadLen)))
    rfl rfl
  have h4 := load32_big_of_eq (e := e') (a := word .big sender) (w := receiver)
    (c := word .big protRev ++ (word .big msgno ++ word .big payloadLen)) rfl rfl
  have h8 := load32_big_of_eq (e := e') (a := word .big sender ++ word .big receiver)
    (w := protRev) (c := word .big msgno ++ word .big payloadLen) rfl rfl
  have h12 := load32_big_of_eq (e := e')
    (a := word .big sender ++ (word .big receiver ++ word .big protRev))
    (w := msgno) (c := word .big payloadLen) rfl rfl
  have h16 := load32_big_of_eq (e := e')
    (a := word .big sender ++ (word .big receiver ++ (word .big protRev ++ word .big msgno)))
    (w := payloadLen) (c := []) rfl rfl
  simp only [List.nil_append, List.append_assoc, List.append_nil, List.length_append,
    List.length_nil, word_length, Nat.reduceAdd] at h0 h4 h8 h12 h16
  simp only [ItcgwHeader.ofRxbuff, h0, h4, h8, h12, h16, bind, Except.bind, ntohl_htonl]
  rfl

/-- The image written over a message of the same size is that message, up to the `ENDPOINT`
that the allocation has put behind it. -/
theorem memcpy_fresh_image (e : Endian) {m : ItcMessage} (hm : m.WellFormed) (msgno : UInt32) :
    memcpy ((ItcMessage.fresh e m.size.toNat msgno).image e) (m.header e ++ m.userBytes)
      (m.size.toNat + ITC_HEADER_SIZE) = .ok (m.header e ++ m.body) := by
  have hpl : (m.header e ++ m.userBytes).length = m.size.toNat + ITC_HEADER_SIZE := by
    rw [List.length_append, ItcMessage.header_length, hm.userBytes_length]
    omega
  have hge := hm.size_ge
  have hfresh : ((ItcMessage.fresh e m.size.toNat msgno).header e ++
      (word e msgno ++ List.replicate (m.size.toNat - 4) 0)).length =
      m.size.toNat + ITC_HEADER_SIZE := by
    simp only [List.length_append, ItcMessage.header_length, word_length, List.length_replicate]
    omega
  have himage : (ItcMessage.fresh e m.size.toNat msgno).image e =
      ((ItcMessage.fresh e m.size.toNat msgno).header e ++
        (word e msgno ++ List.replicate (m.size.toNat - 4) 0)) ++ [ENDPOINT] := by
    rw [ItcMessage.image, List.append_assoc]
    rfl
  rw [memcpy_of_eq (a := m.header e ++ m.userBytes) (c := []) (by simp) hpl.symm
    (by rw [himage, List.length_append, hfresh]; omega), himage, ← hfresh, List.drop_left,
    List.append_assoc, ← hm.body_eq]

theorem handleReceiveDataFwd_ok (e : Endian) (a : Allocator) {m : ItcMessage} {sock : ByteStream}
    {rest : Bytes} {header : ItcgwHeader} (hm : m.WellFormed)
    (hfit : m.size.toNat + ITC_HEADER_SIZE ≤ ITC_GATEWAY_ETH_PACKET_SIZE)
    (hlen : header.payloadLen.toNat = offFwdPayload + (m.size.toNat + ITC_HEADER_SIZE))
    (hsock : sock.bytes = (word e (htonl e ITCGW_STATUS_OK) ++
      (word e (htonl e (UInt32.ofNat (m.size.toNat + ITC_HEADER_SIZE))) ++
        (m.header e ++ m.userBytes))) ++ rest) :
    ∃ sock', handleReceiveDataFwd e a sock header = .ok (.sendInternal m, sock') ∧
      sock'.bytes = rest := by
  simp only [ITC_GATEWAY_ETH_PACKET_SIZE, ITC_HEADER_SIZE] at hfit
  have ha := a.ge
  simp only [ITC_MAX_MSGSIZE] at ha
  have hge := hm.size_ge
  have hpl : (m.header e ++ m.userBytes).length = m.size.toNat + 16 := by
    rw [List.length_append, ItcMessage.header_length, hm.userBytes_length, ITC_HEADER_SIZE]
    omega
  generalize hrx : word e (htonl e ITCGW_STATUS_OK) ++
    (word e (htonl e (UInt32.ofNat (m.size.toNat + ITC_HEADER_SIZE))) ++
      (m.header e ++ m.userBytes)) = rxbuff at hsock
  have hrxlen : rxbuff.length = header.payloadLen.toNat := by
    simp only [← hrx, hlen, List.length_append, word_length, ItcMessage.header_length,
      hm.userBytes_length, offFwdPayload]
    omega
  obtain ⟨sock', hrecv, hrest⟩ := recvData_eq hsock
    (List.ne_nil_of_length_pos (by rw [hrxlen, hlen]; simp only [offFwdPayload]; omega))
  rw [hrxlen] at hrecv
  have hplen : (UInt32.ofNat (m.size.toNat + 16)).toNat = m.size.toNat + 16 :=
    toNat_ofNat_lt (by omega)
  have hstatus : load32 e rxbuff 0 = .ok (htonl e ITCGW_STATUS_OK) :=
    load32_of_eq (a := []) (by rw [← hrx, List.nil_append]) rfl
  have hlength : load32 e rxbuff 4 =
      .ok (htonl e (UInt32.ofNat (m.size.toNat + ITC_HEADER_SIZE))) :=
    load32_of_eq (a := word e (htonl e ITCGW_STATUS_OK)) hrx.symm (by simp)
  have hsize : load32 e rxbuff (offFwdPayload + 12) = .ok m.size :=
    load32_of_eq (a := word e (htonl e ITCGW_STATUS_OK) ++
        (word e (htonl e (UInt32.ofNat (m.size.toNat + ITC_HEADER_SIZE))) ++
          (word e m.flags ++ (word e m.receiver ++ word e m.sender)))) (c := m.userBytes)
      (by simp only [← hrx, ItcMessage.header, List.append_assoc])
      (by simp [offFwdPayload])
  obtain ⟨msgno, hmsgno⟩ : ∃ msgno, load32 e rxbuff (offFwdPayload + 16) = .ok msgno := by
    refine ⟨_, if_pos ?_⟩
    rw [hrxlen, hlen]
    simp only [offFwdPayload, ITC_HEADER_SIZE]
    omega
  have halloc := itcAllocZz_ok e a msgno hge (by simp only [ITC_HEADER_SIZE]; omega)
  have hslice : slice rxbuff offFwdPayload (m.size.toNat + 16) = .ok (m.header e ++ m.userBytes) :=
    slice_of_eq (a := word e (htonl e ITCGW_STATUS_OK) ++
        word e (htonl e (UInt32.ofNat (m.size.toNat + ITC_HEADER_SIZE)))) (c := [])
      (by simp only [← hrx, List.append_assoc, List.append_nil]) (by simp [offFwdPayload]) hpl.symm
  have hcopy := memcpy_fresh_image e hm msgno
  have hread := ItcMessage.ofImage_header_append e m m.body
  simp only [ITC_HEADER_SIZE] at hlength hcopy
  refine ⟨sock', ?_, hrest⟩
  simp only [handleReceiveDataFwd, hrecv, hstatus, hlength, hsize, hmsgno, halloc, deref, bind,
    Except.bind, ntohl_htonl, hplen, hslice, hcopy, hread]
  rfl

theorem handleReceiveLocateMbox_ok (e : Endian) {mboxname : CString} {sock : ByteStream}
    {rest : Bytes} {header : ItcgwHeader}
    (hlen : header.payloadLen.toNat = offLocateMboxname + mboxname.strlen + 1)
    (hsock : sock.bytes = (word e (htonl e ITCGW_STATUS_OK) ++ mboxname.withNul) ++ rest) :
    ∃ sock', handleReceiveLocateMbox e sock header = .ok (.locateSync mboxname, sock') ∧
      sock'.bytes = rest := by
  have hrxlen : (word e (htonl e ITCGW_STATUS_OK) ++ mboxname.withNul).length =
      header.payloadLen.toNat := by
    simp only [hlen, List.length_append, word_length, CString.withNul_length, offLocateMboxname]
    omega
  obtain ⟨sock', hrecv, hrest⟩ := recvData_eq hsock (by simp [CString.withNul])
  rw [hrxlen] at hrecv
  have hstatus : load32 e (word e (htonl e ITCGW_STATUS_OK) ++ mboxname.withNul) 0 =
      .ok (htonl e ITCGW_STATUS_OK) := load32_of_eq (a := []) rfl rfl
  have hname : strAt (word e (htonl e ITCGW_STATUS_OK) ++ mboxname.withNul) offLocateMboxname =
      .ok mboxname :=
    strAt_of_eq (a := word e (htonl e ITCGW_STATUS_OK)) (c := []) (by rw [List.append_nil])
      (by simp [offLocateMboxname])
  refine ⟨sock', ?_, hrest⟩
  simp only [handleReceiveLocateMbox, hrecv, hstatus, hname, bind, Except.bind]
  rfl

/-- After a header the server is left with the payload, and looks at `msgno`. -/
theorem handleReceiveTcpPacketAtServer_header (e : Endian) (a : Allocator) {sock : ByteStream}
    {rest : Bytes} {sender receiver protRev msgno payloadLen : UInt32}
    (hsock : sock.bytes = itcgwHeader e sender receiver protRev msgno payloadLen ++ rest) :
    ∃ sock', sock'.bytes = rest ∧
      handleReceiveTcpPacketAtServer e a sock =
        if msgno = ITCGW_ITC_DATA_FWD then
          handleReceiveDataFwd e a sock' { sender, receiver, protRev, msgno, payloadLen }
        else if msgno = ITCGW_LOCATE_MBOX_REQUEST then
          handleReceiveLocateMbox e sock' { sender, receiver, protRev, msgno, payloadLen }
        else .ok (.unknownPacket msgno, sock') := by
  have hlen := itcgwHeader_length e sender receiver protRev msgno payloadLen
  obtain ⟨sock', hrecv, hrest⟩ := recvData_eq hsock
    (List.ne_nil_of_length_pos (by rw [hlen]; simp only [ITCGW_HEADER_SIZE]; omega))
  rw [hlen] at hrecv
  refine ⟨sock', hrest, ?_⟩
  simp only [handleReceiveTcpPacketAtServer, hrecv, ofRxbuff_itcgwHeader, bind, Except.bind]
  rfl

/-- **One call consumes one frame and understands it.** -/
theorem handleReceiveTcpPacketAtServer_frame (e : Endian) {a : Allocator} (a' : Allocator)
    (pid : UInt32) {f : Frame} {sock : ByteStream} {rest : Bytes} (hf : f.Admissible a)
    (hsock : sock.bytes = f.bytes e pid ++ rest) :
    ∃ sock', handleReceiveTcpPacketAtServer e a' sock = .ok (f.event, sock') ∧
      sock'.bytes = rest := by
  cases f with
  | fwd message myMbox toMbox ns =>
    obtain ⟨hm, hfit, -⟩ := hf
    rw [Frame.bytes, dataFwdFrame, List.append_assoc] at hsock
    obtain ⟨sock', hrest, hstep⟩ := handleReceiveTcpPacketAtServer_header e a' hsock
    rw [hstep, if_pos rfl]
    refine handleReceiveDataFwd_ok e a' (hm.stamp myMbox toMbox) hfit ?_ hrest
    refine toNat_ofNat_lt ?_
    have hsize : (message.stamp myMbox toMbox).size = message.size := rfl
    simp only [ITC_GATEWAY_ETH_PACKET_SIZE, ITC_HEADER_SIZE] at hfit
    simp only [hsize, offFwdPayload, ITC_HEADER_SIZE]
    omega
  | locate itccoordMbox mboxname =>
    have ha := a.lt
    rw [Frame.bytes, locateFrame, List.append_assoc] at hsock
    obtain ⟨sock', hrest, hstep⟩ := handleReceiveTcpPacketAtServer_header e a' hsock
    rw [hstep, if_neg (by decide), if_pos rfl]
    refine handleReceiveLocateMbox_ok e (toNat_ofNat_lt ?_) hrest
    simp only [Frame.Admissible, offMboxname] at hf
    simp only [offLocateMboxname]
    omega

/-! ## Round trip -/

/-- The first `k` calls consume the first `k` frames, to the byte. -/
theorem serve_frames (e : Endian) {a : Allocator} (a' : Allocator) (pid : UInt32)
    {fs : List Frame} (hfs : ∀ f ∈ fs, f.Admissible a) {sock : ByteStream}
    (hsock : sock.bytes = fs.flatMap (Frame.bytes e pid)) {k : Nat} (hk : k ≤ fs.length) :
    ∃ sock', serve e a' k sock = .ok ((fs.take k).map Frame.event, sock') ∧
      sock'.bytes = (fs.drop k).flatMap (Frame.bytes e pid) := by
  induction k generalizing fs sock with
  | zero => exact ⟨sock, rfl, hsock⟩
  | succ k ih =>
    cases fs with
    | nil => simp at hk
    | cons f fs =>
      obtain ⟨sock₁, hstep, hrest⟩ :=
        handleReceiveTcpPacketAtServer_frame e a' pid (hfs f List.mem_cons_self) hsock
      obtain ⟨sock₂, hserve, hbytes⟩ := ih (fun g hg => hfs g (List.mem_cons_of_mem _ hg)) hrest
        (by simpa using hk)
      refine ⟨sock₂, ?_, hbytes⟩
      simp only [serve, hstep, hserve, bind, Except.bind]
      rfl

/-- **Gateway stream round trip.** The frames written to a connection come out of the peer's
read loop one per call, each as it went in, for every way of cutting the bytes. -/
theorem serve_writeAll (e : Endian) (a a' : Allocator) (pid : UInt32) (fs : List Frame)
    (hfs : ∀ f ∈ fs, f.Admissible a) :
    ∃ stream, writeAll e a pid fs = .ok stream ∧
      ∀ sock : ByteStream, sock.bytes = stream → ∀ k ≤ fs.length,
        ∃ sock', serve e a' k sock = .ok ((fs.take k).map Frame.event, sock') ∧
          writeAll e a pid (fs.drop k) = .ok sock'.bytes := by
  refine ⟨_, writeAll_ok e pid hfs, fun sock hsock k hk => ?_⟩
  obtain ⟨sock', hserve, hbytes⟩ := serve_frames e a' pid hfs hsock hk
  refine ⟨sock', hserve, ?_⟩
  rw [writeAll_ok e pid fun f hf => hfs f (List.mem_of_mem_drop hf), hbytes]

/-- A forwarded message and a locate request on one connection. -/
theorem serve_writeAll_pair :
    let fs := [Frame.fwd (ItcMessage.fresh .little 8 7) 0x00500001 0x00900002
        ⟨[104, 49], by decide⟩, Frame.locate 0x00100001 ⟨[109], by decide⟩]
    (∀ f ∈ fs, f.Admissible .least) ∧
      ∃ stream, writeAll .little .least 42 fs = .ok stream ∧
        ∀ sock : ByteStream, sock.bytes = stream → ∀ k ≤ fs.length,
          ∃ sock', serve .little .least k sock = .ok ((fs.take k).map Frame.event, sock') ∧
            writeAll .little .least 42 (fs.drop k) = .ok sock'.bytes := by
  intro fs
  have hfs : ∀ f ∈ fs, f.Admissible .least := by
    intro f hf
    rcases List.mem_cons.mp hf with rfl | hf
    · exact ⟨ItcMessage.fresh_wellFormed .little 7 (by decide) (by decide), by decide, by decide⟩
    · rw [List.mem_singleton] at hf
      subst hf
      show _ ≤ _
      decide
  exact ⟨hfs, serve_writeAll .little .least .least 42 fs hfs⟩

end ItcFramework
