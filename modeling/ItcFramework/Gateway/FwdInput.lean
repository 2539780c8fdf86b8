import ItcFramework.Gateway.Framing

/-!
# Packets from an untrusted peer

`handle_receive_data_fwd` takes three lengths from the wire: `payloadLen` of the gateway header,
`payload_length` of the packet, and the size of the inner `struct itc_message`. The first sizes the
receive buffer on the stack, the third the allocation, and the second the copy; none is compared
with another.

* `receiveDataFwd` — the handler with the stack of its thread and the answer of `malloc`;
  `receiveDataFwd_eq` connects it with `handleReceiveDataFwd`.
* `FwdConsistent` — the lengths of a packet agree.
* `FwdInputSafe` — no access out of bounds, and no message for a packet whose lengths disagree.
* `fwdInputSafe_iff` — exactly the inputs that the handler is safe on.
-/

set_option autoImplicit false

namespace ItcFramework

open ByteImage

/-- What the server thread has left of its stack for `rxbuff`. -/
structure ThreadStack where
  room : Nat
  lt : room < 2 ^ 31

structure FwdReceipt where
  event : ServerEvent
  /-- `itc_alloc` has given a message. -/
  allocated : Bool
  sock : ByteStream

/-- The packet made into a message: an allocation of the inner size, and a copy of
`payload_length` bytes over it. -/
def openPacket (e : Endian) (a : Allocator) (mem : Bool) (rxbuff : Bytes) :
    Except MemFault ItcMessage := do
  let _errorcode ← load32 e rxbuff 0
  let payloadLength ← load32 e rxbuff 4
  let payloadLength := ntohl e payloadLength
  let size ← load32 e rxbuff (offFwdPayload + 12)
  let msgno ← load32 e rxbuff (offFwdPayload + 16)
  let msg ← deref (← itcAllocZz e a mem size.toNat msgno)
  let payload ← slice rxbuff offFwdPayload payloadLength.toNat
  let image ← memcpy (msg.image e) payload payloadLength.toNat
  ItcMessage.ofImage e image

/-- `handle_receive_data_fwd` up to its `itc_send`; `mem` is what `malloc` answers. -/
def receiveDataFwd (e : Endian) (a : Allocator) (stack : ThreadStack) (mem : Bool)
    (sock : ByteStream) (header : ItcgwHeader) : Except MemFault FwdReceipt :=
  if header.payloadLen.toNat > stack.room then .error .outOfBounds else
  match recvData sock header.payloadLen.toNat with
  | (none, sock) => .ok ⟨.receiveFailed, false, sock⟩
  | (some rxbuff, sock) => do
      let message ← openPacket e a mem rxbuff
      return ⟨.sendInternal message, true, sock⟩

/-- The handler as it is when there is room and memory. -/
theorem receiveDataFwd_eq (e : Endian) (a : Allocator) {stack : ThreadStack} (sock : ByteStream)
    {header : ItcgwHeader} (hroom : header.payloadLen.toNat ≤ stack.room) :
    (fun r => (r.event, r.sock)) <$> receiveDataFwd e a stack true sock header =
      handleReceiveDataFwd e a sock header := by
  rw [receiveDataFwd, if_neg (by omega), handleReceiveDataFwd]
  cases recvData sock header.payloadLen.toNat with
  | mk got sock' =>
    cases got with
    | none => rfl
    | some rxbuff => simp only [openPacket, bind_assoc, map_bind, map_pure]

/-! ## The lengths of a packet -/

def fwdPayloadLength (e : Endian) (rxbuff : Bytes) : Nat :=
  (ntohl e (ofWord e ((rxbuff.drop 4).take 4))).toNat

/-- The size in the inner `struct itc_message`. -/
def fwdInnerSize (e : Endian) (rxbuff : Bytes) : Nat :=
  (ofWord e ((rxbuff.drop (offFwdPayload + 12)).take 4)).toNat

structure FwdConsistent (e : Endian) (rxbuff : Bytes) : Prop where
  length : fwdPayloadLength e rxbuff = fwdInnerSize e rxbuff + ITC_HEADER_SIZE
  fits : offFwdPayload + fwdPayloadLength e rxbuff ≤ rxbuff.length

/-- The bytes that the handler receives. -/
def fwdRxbuff (sock : ByteStream) (header : ItcgwHeader) : Bytes :=
  sock.bytes.take header.payloadLen.toNat

/-- The handler reads and writes within its blocks, and allocates or sends a message only for a
packet whose lengths agree. -/
def FwdInputSafe (e : Endian) (a : Allocator) (stack : ThreadStack) (mem : Bool)
    (sock : ByteStream) (header : ItcgwHeader) : Prop :=
  ∃ r, receiveDataFwd e a stack mem sock header = .ok r ∧
    (r.allocated = true ∨ (∃ m, r.event = .sendInternal m) →
      FwdConsistent e (fwdRxbuff sock header))

/-- A packet that is read to its end, and that the handler can make a message of. -/
structure FwdPacketOk (e : Endian) (a : Allocator) (mem : Bool) (rxbuff : Bytes) : Prop where
  /-- The inner message reaches to its `msgno`. -/
  msgno : offFwdPayload + 20 ≤ rxbuff.length
  consistent : FwdConsistent e rxbuff
  size_le : max (fwdInnerSize e rxbuff) 4 + ITC_HEADER_SIZE + 1 ≤ a.maxMallocsize
  mem : mem = true

/-- The buffer fits the stack, and the packet is cut short or in order. -/
structure FwdInputOk (e : Endian) (a : Allocator) (stack : ThreadStack) (mem : Bool)
    (sock : ByteStream) (header : ItcgwHeader) : Prop where
  stack : header.payloadLen.toNat ≤ stack.room
  packet : header.payloadLen = 0 ∨ sock.bytes.length < header.payloadLen.toNat ∨
    FwdPacketOk e a mem (fwdRxbuff sock header)

/-! ## Receiving -/

/-- A stream that ends too early. -/
theorem recvData_short {sock : ByteStream} {n : Nat} (h : sock.bytes.length < n) :
    ∃ sock', recvData sock n = (none, sock') := by
  induction n using Nat.strong_induction_on generalizing sock with
  | _ n ih =>
    have hle := sock.recv_length_le n
    have hsplit := congrArg List.length (sock.recv_bytes n)
    rw [List.length_append] at hsplit
    rw [recvData]
    generalize sock.recv n = r at hle hsplit
    obtain ⟨got, sock'⟩ := r
    simp only at hle hsplit ⊢
    split
    · exact ⟨sock', rfl⟩
    · next hgot =>
      rw [if_pos (by omega)]
      have hless : sock'.bytes.length < n - got.length := by omega
      obtain ⟨sock'', hmore⟩ := ih (n - got.length) (by omega) hless
      exact ⟨sock'', by rw [hmore]; rfl⟩

theorem recvData_zero (sock : ByteStream) : ∃ sock', recvData sock 0 = (none, sock') := by
  have hle := sock.recv_length_le 0
  rw [recvData]
  generalize sock.recv 0 = r at hle
  obtain ⟨got, sock'⟩ := r
  exact ⟨sock', dif_pos (Nat.le_zero.mp hle)⟩

/-- A stream that holds the packet. -/
theorem recvData_full {sock : ByteStream} {n : Nat} (hpos : n ≠ 0) (h : n ≤ sock.bytes.length) :
    ∃ sock', recvData sock n = (some (sock.bytes.take n), sock') := by
  have hlen : (sock.bytes.take n).length = n := by
    rw [List.length_take]
    omega
  obtain ⟨sock', hrecv, -⟩ := recvData_eq (List.take_append_drop n sock.bytes).symm
    (List.ne_nil_of_length_pos (by omega))
  rw [hlen] at hrecv
  exact ⟨sock', hrecv⟩

theorem recvData_cases (sock : ByteStream) (n : Nat) :
    ((n = 0 ∨ sock.bytes.length < n) ∧ ∃ sock', recvData sock n = (none, sock')) ∨
      n ≤ sock.bytes.length ∧ ∃ sock', recvData sock n = (some (sock.bytes.take n), sock') := by
  by_cases hzero : n = 0
  · subst hzero
    exact .inl ⟨.inl rfl, recvData_zero sock⟩
  · by_cases hshort : sock.bytes.length < n
    · exact .inl ⟨.inr hshort, recvData_short hshort⟩
    · exact .inr ⟨by omega, recvData_full hzero (by omega)⟩

/-! ## One packet -/

section Packet

variable {e : Endian} {a : Allocator} {mem : Bool} {rxbuff : Bytes}

theorem openPacket_ok (h : FwdPacketOk e a mem rxbuff) :
    ∃ message, openPacket e a mem rxbuff = .ok message := by
  obtain ⟨hmsgno, ⟨hlength, hfits⟩, hsize, rfl⟩ := h
  have hload : ∀ off, off + 4 ≤ rxbuff.length →
      load32 e rxbuff off = .ok (ofWord e ((rxbuff.drop off).take 4)) := fun off hoff => if_pos hoff
  have hpayload : slice rxbuff offFwdPayload (fwdPayloadLength e rxbuff) =
      .ok ((rxbuff.drop offFwdPayload).take (fwdPayloadLength e rxbuff)) := if_pos hfits
  have hsource : ((rxbuff.drop offFwdPayload).take (fwdPayloadLength e rxbuff)).length =
      fwdPayloadLength e rxbuff := by
    rw [List.length_take, List.length_drop]
    omega
  generalize hno : ofWord e ((rxbuff.drop (offFwdPayload + 16)).take 4) = msgno
  have halloc : itcAllocZz e a true (fwdInnerSize e rxbuff) msgno = _ :=
    itcAllocZz_granted e a msgno hsize
  have htarget := ItcMessage.fresh_image_length e msgno (Nat.le_max_right (fwdInnerSize e rxbuff) 4)
  generalize ItcMessage.fresh e (max (fwdInnerSize e rxbuff) 4) msgno = msg at halloc htarget
  generalize (rxbuff.drop offFwdPayload).take (fwdPayloadLength e rxbuff) = payload
    at hpayload hsource
  -- the copy stays below the `ENDPOINT` of the allocation
  have hcopy : memcpy (msg.image e) payload (fwdPayloadLength e rxbuff) =
      .ok (payload.take (fwdPayloadLength e rxbuff) ++
        (msg.image e).drop (fwdPayloadLength e rxbuff)) := by
    refine if_pos ⟨by omega, ?_⟩
    rw [htarget]
    omega
  obtain ⟨message, hmessage⟩ : ∃ m, ItcMessage.ofImage e (payload.take (fwdPayloadLength e rxbuff) ++
      (msg.image e).drop (fwdPayloadLength e rxbuff)) = .ok m := by
    refine ⟨_, ItcMessage.ofImage_ok ?_⟩
    rw [List.length_append, List.length_take, List.length_drop]
    omega
  refine ⟨message, ?_⟩
  simp only [offFwdPayload] at hmsgno
  rw [fwdPayloadLength] at hpayload hcopy hmessage
  rw [fwdInnerSize] at halloc
  simp only [openPacket, hload 0 (by omega), hload 4 (by omega),
    hload (offFwdPayload + 12) (by simp only [offFwdPayload]; omega),
    hload (offFwdPayload + 16) (by simp only [offFwdPayload]; omega), hno, bind, Except.bind, halloc,
    deref, hpayload, hcopy, hmessage]

/-- What a packet that has become a message was. -/
theorem openPacket_fits {message : ItcMessage} (h : openPacket e a mem rxbuff = .ok message)
    (hcons : FwdConsistent e rxbuff) : FwdPacketOk e a mem rxbuff := by
  obtain ⟨_, -, h⟩ := bind_eq_ok h
  obtain ⟨_, -, h⟩ := bind_eq_ok h
  obtain ⟨size, hsize, h⟩ := bind_eq_ok h
  obtain ⟨msgno, hmsgno, h⟩ := bind_eq_ok h
  obtain ⟨o, halloc, h⟩ := bind_eq_ok h
  obtain ⟨msg, hmsg, -⟩ := bind_eq_ok h
  rw [deref_eq_ok hmsg] at halloc
  obtain ⟨⟨hle, hmem⟩, -⟩ := itcAllocZz_fits halloc
  rw [(load32_fits hsize).2] at hle
  exact ⟨(load32_fits hmsgno).1, hcons, hle, hmem⟩

end Packet

/-- **The handler is safe exactly on the buffers that fit its stack and hold no packet or one that
is in order.** -/
theorem fwdInputSafe_iff (e : Endian) (a : Allocator) (stack : ThreadStack) (mem : Bool)
    (sock : ByteStream) (header : ItcgwHeader) :
    FwdInputSafe e a stack mem sock header ↔ FwdInputOk e a stack mem sock header := by
  rw [FwdInputSafe, receiveDataFwd]
  by_cases hroom : header.payloadLen.toNat > stack.room
  · rw [if_pos hroom]
    refine iff_of_false (fun ⟨r, hcall, _⟩ => by cases hcall) fun h => ?_
    exact absurd h.stack (Nat.not_le_of_lt hroom)
  · rw [if_neg hroom]
    rcases recvData_cases sock header.payloadLen.toNat with
      ⟨hnone, sock', hrecv⟩ | ⟨hfull, sock', hrecv⟩
    · -- nothing is received, and nothing is allocated
      rw [hrecv]
      refine iff_of_true ⟨_, rfl, ?_⟩ ⟨by omega, ?_⟩
      · rintro (hcontra | ⟨m, hcontra⟩) <;> cases hcontra
      · rcases hnone with hzero | hshort
        · exact .inl (UInt32.toNat_inj.mp hzero)
        · exact .inr (.inl hshort)
    · rw [hrecv]
      constructor
      · rintro ⟨r, hcall, hsafe⟩
        obtain ⟨message, hopen, hcall⟩ := bind_eq_ok hcall
        cases hcall
        exact ⟨by omega, .inr (.inr (openPacket_fits hopen (hsafe (.inl rfl))))⟩
      · rintro ⟨-, hzero | hshort | hpacket⟩
        · rw [hzero] at hrecv
          obtain ⟨_, hno⟩ := recvData_zero sock
          rw [show (0 : UInt32).toNat = 0 from rfl, hno] at hrecv
          cases hrecv
        · omega
        · obtain ⟨message, hopen⟩ := openPacket_ok hpacket
          rw [fwdRxbuff] at hopen
          refine ⟨⟨.sendInternal message, true, sock'⟩, ?_, fun _ => hpacket.consistent⟩
          simp only [hopen, bind, Except.bind]
          rfl

/-- A packet of 100 bytes whose inner message has a size of four, and a `payload_length` of 92. -/
def overlongPacket : Bytes :=
  word .big ITCGW_STATUS_OK ++ (word .big 92 ++
    ((ItcMessage.fresh .little 4 7).header .little ++ List.replicate 76 0))

/-- **A packet writes past the message allocated for it**: 92 bytes are copied over the 21 of a
message of size four. -/
theorem overlong_packet_overruns :
    ∃ (sock : ByteStream) (header : ItcgwHeader), header.payloadLen = 100 ∧
      sock.bytes = overlongPacket ∧
      receiveDataFwd .little .least ⟨1500, by decide⟩ true sock header = .error .outOfBounds ∧
      ¬ FwdInputSafe .little .least ⟨1500, by decide⟩ true sock header := by
  let sock : ByteStream := ⟨[overlongPacket], by decide⟩
  let header : ItcgwHeader := ⟨42, 222, 15, ITCGW_ITC_DATA_FWD, 100⟩
  have hbytes : sock.bytes = overlongPacket := List.append_nil _
  have hfault : receiveDataFwd .little .least ⟨1500, by decide⟩ true sock header =
      .error .outOfBounds := by
    have hpos : header.payloadLen.toNat ≠ 0 := by decide
    have hlen : header.payloadLen.toNat ≤ sock.bytes.length := by
      rw [hbytes]
      decide
    obtain ⟨sock', hrecv⟩ := recvData_full hpos hlen
    have hopen : openPacket .little .least true (overlongPacket.take header.payloadLen.toNat) =
        .error .outOfBounds := by decide
    rw [receiveDataFwd, if_neg (by decide), hrecv, hbytes]
    simp only [hopen]
    rfl
  refine ⟨sock, header, rfl, hbytes, hfault, ?_⟩
  rintro ⟨r, hcall, -⟩
  rw [hfault] at hcall
  cases hcall

end ItcFramework
