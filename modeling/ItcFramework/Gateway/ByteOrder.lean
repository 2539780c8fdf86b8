import ItcFramework.Gateway.Framing

/-!
# Hosts of different byte orders

The gateway header and the fields of `struct itcgw_itc_data_fwd` go through `htonl` and `ntohl`.
The `struct itc_message` behind them is copied as it lies in the sender's memory, and the receiver
reads it as it lies in its own.

* `ForwardKept` — the receiving gateway sends on a message with the receiver, size and `msgno` of
  the original, in a block of that size.
* `handleReceiveDataFwd_readAs` — the admin words of the message that it sends are the words of
  the sender's bytes in its own order.
* `forwardKept_iff` — the message is kept exactly between hosts of one byte order.
-/

set_option autoImplicit false

namespace ItcFramework

open ByteImage

/-- What the receiving host makes of the connection is the message that was given to `itc_send`,
by its numbers. -/
def ForwardKept (e e' : Endian) (a' : Allocator) (sock : ByteStream) (message : ItcMessage)
    (toMbox : MboxId) : Prop :=
  ∃ (received : ItcMessage) (sock' : ByteStream),
    handleReceiveTcpPacketAtServer e' a' sock = .ok (.sendInternal received, sock') ∧
      received.receiver = toMbox ∧ received.size = message.size ∧
      received.msgno e' = message.msgno e ∧ received.body.length = message.size.toNat + 1

/-! ## What is written -/

/-- A request is built for a message that fits one packet and a namespace that fits its field. -/
theorem fwdRequest_fits {e : Endian} {a : Allocator} {m req : ItcMessage} {ns : CString}
    (h4 : 4 ≤ m.size.toNat) (h : fwdRequest e a m ns = .ok (some req)) :
    m.size.toNat + ITC_HEADER_SIZE ≤ ITC_GATEWAY_ETH_PACKET_SIZE ∧
      ns.strlen ≤ ITC_MAX_NAME_LENGTH := by
  unfold fwdRequest at h
  dsimp only at h
  split at h
  · cases h
  · next hfit =>
    have hge := a.ge
    simp only [ITC_MAX_MSGSIZE] at hge
    simp only [ITC_HEADER_SIZE, ITC_GATEWAY_ETH_PACKET_SIZE] at hfit ⊢
    rw [itcAllocZz_ok e a _ (by simp only [offPayload]; omega)
      (by simp only [offPayload, ITC_HEADER_SIZE]; omega)] at h
    obtain ⟨_, halloc, h⟩ := bind_eq_ok h
    cases halloc
    obtain ⟨_, hreq, h⟩ := bind_eq_ok h
    cases hreq
    obtain ⟨body, hstore, h⟩ := bind_eq_ok h
    obtain ⟨_, hmemset, -⟩ := bind_eq_ok h
    obtain ⟨hname, hlen⟩ := storeBytes_fits hstore
    have hfill := memset_fits hmemset
    have hbody : (ItcMessage.fresh e (offPayload + (m.size.toNat + ITC_HEADER_SIZE))
        ITC_FWD_DATA_TO_ITCGWS).body.length = offPayload + (m.size.toNat + ITC_HEADER_SIZE) + 1 := by
      simp only [ItcMessage.fresh, List.length_append, word_length, List.length_replicate,
        List.length_singleton, offPayload]
      omega
    rw [hbody, CString.withNul_length] at hname
    rw [hlen, hbody, nsUnfilledSize] at hfill
    simp only [offPayload, offToNamespace, ITC_HEADER_SIZE] at hname
    refine ⟨by omega, ?_⟩
    by_cases hshort : ns.strlen + 1 ≤ offPayloadLength - offToNamespace
    · simp only [offPayloadLength, offToNamespace, ITC_MAX_NAME_LENGTH] at hshort ⊢
      omega
    · rw [if_neg hshort] at hfill
      simp only [offPayload, offToNamespace, offPayloadLength, ITC_HEADER_SIZE] at hfill
      omega

/-- The bytes of a forwarded message. -/
theorem Frame.write_fwd {e : Endian} {a : Allocator} {pid : UInt32} {message : ItcMessage}
    {myMbox toMbox : MboxId} {ns : CString} {stream : Bytes} (hm : message.WellFormed)
    (h : (Frame.fwd message myMbox toMbox ns).write e a pid = .ok stream) :
    message.size.toNat + ITC_HEADER_SIZE ≤ ITC_GATEWAY_ETH_PACKET_SIZE ∧
      stream = dataFwdFrame e pid (message.stamp myMbox toMbox) := by
  have hm' := hm.stamp myMbox toMbox
  obtain ⟨o, hreq, h⟩ := bind_eq_ok h
  cases o with
  | none => cases h
  | some req =>
    obtain ⟨hfit, hns⟩ := fwdRequest_fits hm'.size_ge hreq
    rw [fwdRequest_ok e a hm' hfit hns] at hreq
    cases hreq
    refine ⟨hfit, ?_⟩
    have hpacket := h.symm.trans (fwdDataPacket_ok e pid hm' hfit hns rfl)
    exact Except.ok.inj hpacket

/-! ## What is read -/

/-- A header is the same on every host. -/
theorem itcgwHeader_eq (e e' : Endian) (sender receiver protRev msgno payloadLen : UInt32) :
    itcgwHeader e sender receiver protRev msgno payloadLen =
      itcgwHeader e' sender receiver protRev msgno payloadLen := by
  simp only [itcgwHeader, word_htonl]

/-- The message whose admin words are those of `m` as the other host reads them. -/
def ItcMessage.readAs (e e' : Endian) (m : ItcMessage) : ItcMessage :=
  { m with
    flags := ofWord e' (word e m.flags)
    receiver := ofWord e' (word e m.receiver)
    sender := ofWord e' (word e m.sender)
    size := ofWord e' (word e m.size) }

theorem ItcMessage.readAs_header (e e' : Endian) (m : ItcMessage) :
    (m.readAs e e').header e' = m.header e := by
  simp only [ItcMessage.header, ItcMessage.readAs, word_ofWord e' (word_length e _)]

/-- A copied image on a host of another order. -/
theorem ofImage_readAs (e e' : Endian) (m : ItcMessage) (b : Bytes) :
    ItcMessage.ofImage e' (m.header e ++ b) = .ok { m.readAs e e' with body := b } := by
  rw [← m.readAs_header e e']
  exact ItcMessage.ofImage_header_append e' (m.readAs e e') b

/-- **The message sent on has the admin words that the sender's bytes are here**, and behind them
the user's bytes at the start of the block that was allocated for it. -/
theorem handleReceiveDataFwd_readAs {e e' : Endian} {a' : Allocator} {m received : ItcMessage}
    {sock sock' : ByteStream} {rest : Bytes} {header : ItcgwHeader} (hm : m.WellFormed)
    (hfit : m.size.toNat + ITC_HEADER_SIZE ≤ ITC_GATEWAY_ETH_PACKET_SIZE)
    (hlen : header.payloadLen.toNat = offFwdPayload + (m.size.toNat + ITC_HEADER_SIZE))
    (hsock : sock.bytes = (word e (htonl e ITCGW_STATUS_OK) ++
      (word e (htonl e (UInt32.ofNat (m.size.toNat + ITC_HEADER_SIZE))) ++
        (m.header e ++ m.userBytes))) ++ rest)
    (h : handleReceiveDataFwd e' a' sock header = .ok (.sendInternal received, sock')) :
    ∃ msgno msg, itcAllocZz e' a' true (ofWord e' (word e m.size)).toNat msgno = .ok (some msg) ∧
      received = { m.readAs e e' with
        body := m.userBytes ++ (msg.image e').drop (m.size.toNat + ITC_HEADER_SIZE) } := by
  have hpl : (m.header e ++ m.userBytes).length = m.size.toNat + ITC_HEADER_SIZE := by
    rw [List.length_append, ItcMessage.header_length, hm.userBytes_length]
    omega
  generalize hrx : word e (htonl e ITCGW_STATUS_OK) ++
    (word e (htonl e (UInt32.ofNat (m.size.toNat + ITC_HEADER_SIZE))) ++
      (m.header e ++ m.userBytes)) = rxbuff at hsock
  have hrxlen : rxbuff.length = header.payloadLen.toNat := by
    simp only [← hrx, hlen, List.length_append, word_length, ItcMessage.header_length,
      hm.userBytes_length, offFwdPayload]
    omega
  obtain ⟨_, hrecv, -⟩ := recvData_eq hsock
    (List.ne_nil_of_length_pos (by rw [hrxlen, hlen]; simp only [offFwdPayload]; omega))
  rw [hrxlen] at hrecv
  simp only [handleReceiveDataFwd, hrecv] at h
  obtain ⟨_, -, h⟩ := bind_eq_ok h
  obtain ⟨payloadLength, hpayloadLength, h⟩ := bind_eq_ok h
  have hload : load32 e' rxbuff 4 =
      .ok (htonl e' (UInt32.ofNat (m.size.toNat + ITC_HEADER_SIZE))) := by
    refine load32_big_of_eq (a := word .big ITCGW_STATUS_OK) (c := m.header e ++ m.userBytes) ?_
      (by simp)
    rw [← hrx, word_htonl, word_htonl]
  rw [hload] at hpayloadLength
  cases hpayloadLength
  have hplen : (UInt32.ofNat (m.size.toNat + ITC_HEADER_SIZE)).toNat =
      m.size.toNat + ITC_HEADER_SIZE := by
    refine toNat_ofNat_lt ?_
    simp only [ITC_GATEWAY_ETH_PACKET_SIZE] at hfit
    omega
  have hslice : slice rxbuff offFwdPayload (m.size.toNat + ITC_HEADER_SIZE) =
      .ok (m.header e ++ m.userBytes) :=
    slice_of_eq (a := word e (htonl e ITCGW_STATUS_OK) ++
        word e (htonl e (UInt32.ofNat (m.size.toNat + ITC_HEADER_SIZE)))) (c := [])
      (by simp only [← hrx, List.append_assoc, List.append_nil]) (by simp [offFwdPayload]) hpl.symm
  have hsize : load32 e' rxbuff (offFwdPayload + 12) = .ok (ofWord e' (word e m.size)) := by
    refine load32_of_eq (a := word e (htonl e ITCGW_STATUS_OK) ++
        (word e (htonl e (UInt32.ofNat (m.size.toNat + ITC_HEADER_SIZE))) ++
          (word e m.flags ++ (word e m.receiver ++ word e m.sender)))) (c := m.userBytes) ?_
      (by simp [offFwdPayload])
    rw [word_ofWord e' (word_length e m.size)]
    simp only [← hrx, ItcMessage.header, List.append_assoc]
  obtain ⟨_, hsize', h⟩ := bind_eq_ok h
  rw [hsize] at hsize'
  cases hsize'
  obtain ⟨msgno, -, h⟩ := bind_eq_ok h
  obtain ⟨o, halloc, h⟩ := bind_eq_ok h
  cases o with
  | none => cases h
  | some msg =>
    refine ⟨msgno, msg, halloc, ?_⟩
    simp only [deref, ntohl_htonl, hplen, hslice, bind, Except.bind] at h
    -- the allocation, whatever its size, is overwritten from its start
    obtain ⟨image, hcopy, h⟩ := bind_eq_ok h
    obtain ⟨message, himage, h⟩ := bind_eq_ok h
    cases h
    obtain ⟨-, -, rfl⟩ := memcpy_fits hcopy
    rw [List.take_of_length_le (by omega), List.append_assoc, ofImage_readAs] at himage
    exact (Except.ok.inj himage).symm

/-- The packet of a forwarded message is read behind its header. -/
theorem handleReceiveTcpPacketAtServer_fwd (e e' : Endian) (a' : Allocator) (pid : UInt32)
    {m : ItcMessage} {sock : ByteStream} {rest : Bytes}
    (hfit : m.size.toNat + ITC_HEADER_SIZE ≤ ITC_GATEWAY_ETH_PACKET_SIZE)
    (hsock : sock.bytes = dataFwdFrame e pid m ++ rest) :
    ∃ (sock₁ : ByteStream) (header : ItcgwHeader),
      handleReceiveTcpPacketAtServer e' a' sock = handleReceiveDataFwd e' a' sock₁ header ∧
        header.payloadLen.toNat = offFwdPayload + (m.size.toNat + ITC_HEADER_SIZE) ∧
        sock₁.bytes = (word e (htonl e ITCGW_STATUS_OK) ++
          (word e (htonl e (UInt32.ofNat (m.size.toNat + ITC_HEADER_SIZE))) ++
            (m.header e ++ m.userBytes))) ++ rest := by
  rw [dataFwdFrame, List.append_assoc, itcgwHeader_eq e e'] at hsock
  obtain ⟨sock₁, hrest, hstep⟩ := handleReceiveTcpPacketAtServer_header e' a' hsock
  rw [if_pos rfl] at hstep
  refine ⟨sock₁, _, hstep, toNat_ofNat_lt ?_, hrest⟩
  simp only [ITC_GATEWAY_ETH_PACKET_SIZE] at hfit
  simp only [offFwdPayload]
  omega

/-- **What the server sends on is a user's message**, for the mailbox that the sender's bytes name
here. -/
theorem handleReceiveTcpPacketAtServer_user {e e' : Endian} {a' : Allocator} {pid : UInt32}
    {m : UserMessage} {received : ItcMessage} {sock sock' : ByteStream} {rest : Bytes}
    (hfit : m.msg.size.toNat + ITC_HEADER_SIZE ≤ ITC_GATEWAY_ETH_PACKET_SIZE)
    (hsock : sock.bytes = dataFwdFrame e pid m.msg ++ rest)
    (h : handleReceiveTcpPacketAtServer e' a' sock = .ok (.sendInternal received, sock')) :
    ∃ u : UserMessage, received = u.msg ∧ u.msg.receiver = ofWord e' (word e m.msg.receiver) := by
  obtain ⟨sock₁, header, hstep, hlen, hsock₁⟩ :=
    handleReceiveTcpPacketAtServer_fwd e e' a' pid hfit hsock
  rw [hstep] at h
  obtain ⟨msgno, msg, halloc, rfl⟩ :=
    handleReceiveDataFwd_readAs m.wellFormed hfit hlen hsock₁ h
  have hge := m.wellFormed.size_ge
  have huser := m.wellFormed.userBytes_length
  -- in the other byte order the size only grows
  have hsize : m.msg.size.toNat ≤ (ofWord e' (word e m.msg.size)).toNat := by
    by_cases he : e = e'
    · rw [he, ofWord_word]
    · have hlarge := ofWord_word_ge he (w := m.msg.size) (by omega)
        (by simp only [ITC_GATEWAY_ETH_PACKET_SIZE] at hfit; omega)
      simp only [ITC_GATEWAY_ETH_PACKET_SIZE] at hfit
      omega
  generalize hn : ofWord e' (word e m.msg.size) = n at halloc hsize
  obtain ⟨-, hmsg⟩ := itcAllocZz_fits halloc
  rw [Nat.max_eq_left (by omega)] at hmsg
  have hblock : msg.image e' = msg.header e' ++ msg.body := rfl
  have hfresh : msg.WellFormed := hmsg ▸ ItcMessage.fresh_wellFormed e' msgno (by omega) n.toNat_lt
  have hmsgsize : msg.size.toNat = n.toNat := by
    rw [hmsg]
    exact toNat_ofNat_lt n.toNat_lt
  have hdrop : (msg.image e').drop (m.msg.size.toNat + ITC_HEADER_SIZE) =
      msg.userBytes.drop m.msg.size.toNat ++ [ENDPOINT] := by
    rw [hblock, Nat.add_comm, ← msg.header_length e', List.drop_length_add_append, hfresh.body_eq,
      List.drop_append_of_le_length (by rw [hfresh.userBytes_length]; omega)]
  refine ⟨⟨_, .of_body (u := m.msg.userBytes ++ msg.userBytes.drop m.msg.size.toNat) ?_ ?_ ?_, ?_⟩,
    rfl, rfl⟩
  · show 4 ≤ (ofWord e' (word e m.msg.size)).toNat
    rw [hn]
    omega
  · show _ = (ofWord e' (word e m.msg.size)).toNat
    rw [hn, List.length_append, List.length_drop, hfresh.userBytes_length, huser]
    omega
  · rw [hdrop, List.append_assoc]
  · show ofWord e' (word e m.msg.flags) = 0
    rw [m.flags_eq]
    cases e <;> cases e' <;> rfl

/-- **Forwarding keeps a message exactly between hosts of one byte order.** -/
theorem forwardKept_iff {e e' : Endian} {a a' : Allocator} {pid : UInt32} {message : ItcMessage}
    {myMbox toMbox : MboxId} {ns : CString} {stream rest : Bytes} {sock : ByteStream}
    (hm : message.WellFormed)
    (hwrite : (Frame.fwd message myMbox toMbox ns).write e a pid = .ok stream)
    (hsock : sock.bytes = stream ++ rest) :
    ForwardKept e e' a' sock message toMbox ↔ e = e' := by
  obtain ⟨hfit, rfl⟩ := Frame.write_fwd hm hwrite
  have hm' := hm.stamp myMbox toMbox
  obtain ⟨sock₁, header, hstep, hpayloadLen, hrest⟩ :=
    handleReceiveTcpPacketAtServer_fwd e e' a' pid (m := message.stamp myMbox toMbox) hfit hsock
  constructor
  · rintro ⟨received, sock', hcall, -, hsize, -, -⟩
    by_contra hne
    rw [hstep] at hcall
    obtain ⟨_, _, -, rfl⟩ := handleReceiveDataFwd_readAs hm' hfit hpayloadLen hrest hcall
    refine ofWord_word_ne hne ?_ ?_ hsize
    · have hge := hm.size_ge
      show 0 < message.size.toNat
      omega
    · show message.size.toNat < 65536
      simp only [ITC_GATEWAY_ETH_PACKET_SIZE] at hfit
      omega
  · rintro rfl
    obtain ⟨sock', hcall, -⟩ := handleReceiveDataFwd_ok e a' hm' hfit hpayloadLen hrest
    exact ⟨message.stamp myMbox toMbox, sock', hstep.trans hcall, rfl, rfl, rfl, hm.length_eq⟩

/-- A message of four bytes between two little-endian hosts. -/
theorem forwardKept_iff_little :
    ∃ (stream : Bytes) (sock : ByteStream),
      (Frame.fwd (.fresh .little 4 7) 1 2 .empty).write .little .least 42 = .ok stream ∧
        sock.bytes = stream ++ [] ∧
        (ForwardKept .little .little .least sock (.fresh .little 4 7) 2 ↔
          Endian.little = Endian.little) := by
  have hm : (ItcMessage.fresh .little 4 7).WellFormed :=
    ItcMessage.fresh_wellFormed .little 7 (by decide) (by decide)
  have hwrite := Frame.write_ok .little (a := .least) 42
    (f := .fwd (.fresh .little 4 7) 1 2 .empty) ⟨hm, by decide, by decide⟩
  let sock : ByteStream := ⟨[(Frame.fwd (.fresh .little 4 7) 1 2 .empty).bytes .little 42], by simp; decide⟩
  have hsock : sock.bytes = (Frame.fwd (.fresh .little 4 7) 1 2 .empty).bytes .little 42 ++ [] := by
    simp [sock, ByteStream.bytes]
  exact ⟨_, sock, hwrite, hsock, forwardKept_iff hm hwrite hsock⟩

/-- **A big-endian peer does not see the message**: a little-endian host forwards four bytes, the
peer reads a size of `0x04000000`, which its allocator refuses, and `memcpy` writes through
`NULL`. -/
theorem forward_to_big_endian_faults :
    ∃ (stream : Bytes) (sock : ByteStream),
      (Frame.fwd (.fresh .little 4 7) 1 2 .empty).write .little .least 42 = .ok stream ∧
        sock.bytes = stream ∧
        handleReceiveTcpPacketAtServer .big .least sock = .error .nullDeref ∧
        ¬ ForwardKept .little .big .least sock (.fresh .little 4 7) 2 := by
  have hm : (ItcMessage.fresh .little 4 7).WellFormed :=
    ItcMessage.fresh_wellFormed .little 7 (by decide) (by decide)
  have hwrite := Frame.write_ok .little (a := .least) 42
    (f := .fwd (.fresh .little 4 7) 1 2 .empty) ⟨hm, by decide, by decide⟩
  let sock : ByteStream := ⟨[(Frame.fwd (.fresh .little 4 7) 1 2 .empty).bytes .little 42], by simp; decide⟩
  have hsock : sock.bytes = (Frame.fwd (.fresh .little 4 7) 1 2 .empty).bytes .little 42 := by
    simp [sock, ByteStream.bytes]
  have hfault : handleReceiveTcpPacketAtServer .big .least sock = .error .nullDeref := by
    let m : ItcMessage := (ItcMessage.fresh .little 4 7).stamp 1 2
    let payload : Bytes := word .big ITCGW_STATUS_OK ++ (word .big 20 ++ (m.header .little ++ m.userBytes))
    have hpackets : sock.bytes = itcgwHeader .big 42 222 15 ITCGW_ITC_DATA_FWD 28 ++ payload := by
      rw [hsock]
      decide
    obtain ⟨sock₁, hrest, hstep⟩ := handleReceiveTcpPacketAtServer_header .big .least hpackets
    obtain ⟨sock₂, hrecv, -⟩ := recvData_eq (b := payload) (hrest.trans (List.append_nil _).symm)
      (by decide)
    rw [hstep, if_pos rfl, handleReceiveDataFwd]
    rw [show payload.length = (28 : UInt32).toNat from by decide] at hrecv
    have hstatus : load32 .big payload 0 = .ok 0 := by decide
    have hlength : load32 .big payload 4 = .ok 20 := by decide
    have hsize : load32 .big payload (offFwdPayload + 12) = .ok 0x04000000 := by decide
    have hmsgno : load32 .big payload (offFwdPayload + 16) = .ok 0x07000000 := by decide
    simp only [hrecv, hstatus, hlength, hsize, hmsgno]
    rfl
  refine ⟨_, sock, hwrite, hsock, hfault, ?_⟩
  rintro ⟨received, sock', hcall, -⟩
  rw [hfault] at hcall
  cases hcall

end ItcFramework
