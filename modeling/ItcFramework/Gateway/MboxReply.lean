import ItcFramework.Gateway.ByteOrder
import ItcFramework.Itc.LocateSpecs

/-!
# The answer of a peer

A gateway that has found the mailbox it was asked for answers with a packet, which the client
thread of the other gateway turns into a message for its coordinator. Neither says which name was
asked for.

* `locateReplyPacket` — the bytes that `send_locate_mbox_reply` passes to `send()`.
* `handleReceiveTcpPacketAtClient` — what the client thread makes of a packet.
* `handleReceiveTcpPacketAtClient_reply`, `handleReceiveTcpPacketAtServer_locate` — the mailbox id
  and the name come through, whatever the byte orders of the two hosts.
-/

set_option autoImplicit false

namespace ItcFramework

open ByteImage

/-! ## The packet -/

def ITCGW_LOCATE_MBOX_REPLY : UInt32 := 0x100 + 0x5

/-- `sizeof(struct itcgw_locate_mbox_reply)` -/
def ITCGW_LOCATE_MBOX_REPLY_SIZE : Nat := 8

/-- The bytes `send_locate_mbox_reply` passes to `send()`. -/
def locateReplyPacket (e : Endian) (pid : UInt32) (mboxId : MboxId) : Bytes :=
  itcgwHeader e pid 111 15 ITCGW_LOCATE_MBOX_REPLY (UInt32.ofNat ITCGW_LOCATE_MBOX_REPLY_SIZE) ++
    (word e (htonl e ITCGW_STATUS_OK) ++ word e (htonl e mboxId))

/-! ## The client thread -/

/-- The message by which a gateway answers its coordinator. -/
def locateMboxFromItcgwsReply (e : Endian) (a : Allocator) (mboxId : MboxId) (ns : CString) :
    Except MemFault ItcMessage :=
  idNameMsg e a ITC_LOCATE_MBOX_FROM_ITCGWS_REPLY mboxId ns

/-- What one packet makes the client thread do. -/
inductive ClientEvent where
  /-- `itc_send(&msg, itcgw_inst.itccoord_mbox_id, ITC_MY_MBOX_ID, NULL)` -/
  | sendReply (reply : ItcMessage)
  /-- `handle_tcp_client_rmv_peer(sockfd)` -/
  | peerDisconnected
  | receiveFailed
  /-- The socket is not in the client tree. -/
  | peerNotFound
  | unknownPacket (msgno : UInt32)
  deriving DecidableEq, Repr

/-- `handle_receive_locate_mbox_reply` up to its `itc_send`; `peer` is the namespace that the client
tree gives for the socket. -/
def handleReceiveLocateMboxReply (e : Endian) (a : Allocator) (peer : Option CString)
    (sock : ByteStream) (header : ItcgwHeader) : Except MemFault (ClientEvent × ByteStream) :=
  match recvData sock header.payloadLen.toNat with
  | (none, sock) => .ok (.receiveFailed, sock)
  | (some rxbuff, sock) => do
      let _errorcode ← load32 e rxbuff 0
      let mboxId ← load32 e rxbuff 4
      match peer with
      | none => return (.peerNotFound, sock)
      | some ns =>
          let msg ← locateMboxFromItcgwsReply e a (ntohl e mboxId) ns
          return (.sendReply msg, sock)

def handleReceiveTcpPacketAtClient (e : Endian) (a : Allocator) (peer : Option CString)
    (sock : ByteStream) : Except MemFault (ClientEvent × ByteStream) :=
  match recvData sock ITCGW_HEADER_SIZE with
  | (none, sock) => .ok (.peerDisconnected, sock)
  | (some rxbuff, sock) => do
      let header ← ItcgwHeader.ofRxbuff e rxbuff
      if header.msgno = ITCGW_LOCATE_MBOX_REPLY then
        handleReceiveLocateMboxReply e a peer sock header
      else return (.unknownPacket header.msgno, sock)

/-! ## What comes through -/

variable {e e' : Endian} {a : Allocator} {pid : UInt32} {sock sock' : ByteStream} {rest : Bytes}

/-- **The client thread answers with the mailbox that the peer has found.** -/
theorem handleReceiveTcpPacketAtClient_reply {mboxId : MboxId} {peer : Option CString}
    {event : ClientEvent} (hsock : sock.bytes = locateReplyPacket e pid mboxId ++ rest)
    (hcall : handleReceiveTcpPacketAtClient e' a peer sock = .ok (event, sock')) :
    sock'.bytes = rest ∧ match peer with
      | none => event = .peerNotFound
      | some ns => ∃ msg, event = .sendReply msg ∧
          locateMboxFromItcgwsReply e' a mboxId ns = .ok msg := by
  rw [locateReplyPacket, List.append_assoc, word_htonl, word_htonl] at hsock
  have hlen := itcgwHeader_length e pid 111 15 ITCGW_LOCATE_MBOX_REPLY
    (UInt32.ofNat ITCGW_LOCATE_MBOX_REPLY_SIZE)
  obtain ⟨sock₁, hrecv, hrest⟩ := recvData_eq hsock
    (List.ne_nil_of_length_pos (by rw [hlen]; simp only [ITCGW_HEADER_SIZE]; omega))
  rw [hlen] at hrecv
  have hpayload : (word .big ITCGW_STATUS_OK ++ word .big mboxId).length =
      (UInt32.ofNat ITCGW_LOCATE_MBOX_REPLY_SIZE).toNat := by
    simp [ITCGW_LOCATE_MBOX_REPLY_SIZE]
  obtain ⟨sock₂, hrecv₂, hrest₂⟩ := recvData_eq hrest
    (List.ne_nil_of_length_pos (by rw [hpayload]; decide))
  rw [hpayload] at hrecv₂
  have hstatus : load32 e' (word .big ITCGW_STATUS_OK ++ word .big mboxId) 0 =
      .ok (htonl e' ITCGW_STATUS_OK) := load32_big_of_eq (a := []) rfl rfl
  have hid : load32 e' (word .big ITCGW_STATUS_OK ++ word .big mboxId) 4 =
      .ok (htonl e' mboxId) :=
    load32_big_of_eq (a := word .big ITCGW_STATUS_OK) (c := []) (by rw [List.append_nil]) rfl
  simp only [handleReceiveTcpPacketAtClient, hrecv, ofRxbuff_itcgwHeader, bind, Except.bind,
    if_true, handleReceiveLocateMboxReply, hrecv₂, hstatus, hid, ntohl_htonl] at hcall
  cases peer with
  | none =>
    cases hcall
    exact ⟨hrest₂, rfl⟩
  | some ns =>
    obtain ⟨msg, hmsg, hcall⟩ := bind_eq_ok hcall
    cases hcall
    exact ⟨hrest₂, msg, rfl, hmsg⟩

/-- **The server thread looks for the mailbox that its peer has asked for.** -/
theorem handleReceiveTcpPacketAtServer_locate {req : ItcMessage} {mboxname : CString}
    {packet : Bytes} {event : ServerEvent} (hreq : strAt req.body offMboxname = .ok mboxname)
    (hlt : offLocateMboxname + mboxname.strlen + 1 < 2 ^ 32)
    (hpacket : locateMboxPacket e pid req = .ok packet) (hsock : sock.bytes = packet ++ rest)
    (hcall : handleReceiveTcpPacketAtServer e' a sock = .ok (event, sock')) :
    event = .locateSync mboxname ∧ sock'.bytes = rest := by
  simp only [locateMboxPacket, hreq, bind, Except.bind] at hpacket
  cases hpacket
  rw [List.append_assoc, word_htonl] at hsock
  obtain ⟨sock₁, hrest, hstep⟩ := handleReceiveTcpPacketAtServer_header e' a
    (itcgwHeader_eq e e' _ _ _ _ _ ▸ hsock)
  rw [hstep, if_neg (by decide), if_pos rfl] at hcall
  rw [← word_htonl e' ITCGW_STATUS_OK] at hrest
  obtain ⟨sock₂, hserver, hrest₂⟩ := handleReceiveLocateMbox_ok e'
    (show (ItcgwHeader.mk pid 111 15 ITCGW_LOCATE_MBOX_REQUEST (UInt32.ofNat
      (offLocateMboxname + mboxname.strlen + 1))).payloadLen.toNat = _ from toNat_ofNat_lt hlt) hrest
  rw [hserver] at hcall
  cases hcall
  exact ⟨rfl, hrest₂⟩

end ItcFramework
