import ItcFramework.Transport.Posixmq

/-!
# What the receivers believe about a length

`forward_sysvmq_msg` and `process_received_message` are given the number of bytes that the queue
has handed out, compare it with the length of a header, and go by the size inside the message from
there on: it tells where the `ENDPOINT` is, how much is allocated and how much is copied.

* `rxHandle` — either handler up to its `itc_send` or its `tsearch`, on a receive buffer.
* `RxSafe` — the handler stays within the `n` bytes and within its allocation, passes on a message
  that fills them, and leaves nothing behind.
* `RxTextOk` — the embedded size stays within the `n` bytes, and where it finds an `ENDPOINT`, it
  is that of the whole text.
* `rxSafe_iff` — the handlers are safe on exactly those texts.
* `RxTextOk.sysvmqRxThread`, `RxTextOk.processReceivedMessage` — what the two transports do with them,
  whatever else the receive buffer holds.
-/

set_option autoImplicit false

namespace ItcFramework

open ByteImage SearchTree

inductive RxTransport where
  | sysvmq
  | posixmq
  deriving DecidableEq, Repr

/-- A text that is not longer is dropped: `sizeof(long)` and the header in `sysvmq_rx_thread`, the
header in `process_received_message`. -/
def RxTransport.minLength : RxTransport → Nat
  | .sysvmq => 8 + ITC_HEADER_SIZE
  | .posixmq => ITC_HEADER_SIZE

structure RxResult where
  /-- What goes to `itc_send` or into the buffer tree. -/
  passedOn : Option ItcMessage
  /-- An allocation that nobody has any more. -/
  leftBehind : Bool
  deriving DecidableEq, Repr

/-- The part that both handlers share; `mem` is what `malloc` answers. -/
def copyReceived (e : Endian) (a : Allocator) (mem : Bool) (buffer : Bytes) :
    Except MemFault (Option ItcMessage) := do
  let rxmsg ← ItcMessage.ofImage e buffer
  let x ← rxmsg.endpoint
  if x ≠ ENDPOINT then return none
  match ← itcAllocZz e a mem rxmsg.size.toNat 0 with
  | none => throw .nullDeref
  | some msg =>
      let image ← memcpy (msg.image e) buffer (rxmsg.size.toNat + ITC_HEADER_SIZE + 1)
      let message ← ItcMessage.ofImage e image
      return some { message with flags := msg.flags }

/-- A handler on its receive buffer, for a text of `n` bytes; `full` tells whether `num_messages`
is over the limit, which only `process_received_message` looks at. -/
def rxHandle (t : RxTransport) (e : Endian) (a : Allocator) (mem full : Bool) (buffer : Bytes)
    (n : Nat) : Except MemFault RxResult :=
  if n ≤ t.minLength then .ok ⟨none, false⟩ else do
  match ← copyReceived e a mem buffer with
  | none => return ⟨none, false⟩
  | some message =>
      if t = .posixmq ∧ full = true then do
        let freed ← itcFreeAllowed message
        return ⟨none, !freed⟩
      else return ⟨some message, false⟩

/-- The size inside the message. -/
def rxSize (e : Endian) (text : Bytes) : Nat := (ofWord e ((text.drop 12).take 4)).toNat

/-- The handler with no bytes to read but those of the text: no access is out of bounds, a message
is passed on only if it fills the text to its last byte, and nothing is left behind. -/
def RxSafe (t : RxTransport) (e : Endian) (a : Allocator) (mem full : Bool) (text : Bytes) : Prop :=
  ∃ r, rxHandle t e a mem full text text.length = .ok r ∧ r.leftBehind = false ∧
    (r.passedOn.isSome = true →
      rxSize e text + ITC_HEADER_SIZE + 1 = text.length ∧ text.getLast? = some ENDPOINT)

/-- The `ENDPOINT` is looked for within the text, and where there is one, a message of that size
can be allocated and is the whole text, or goes no further. -/
structure RxTextOk (t : RxTransport) (e : Endian) (a : Allocator) (mem full : Bool)
    (text : Bytes) : Prop where
  inside : rxSize e text + ITC_HEADER_SIZE + 1 ≤ text.length
  whole : text[ITC_HEADER_SIZE + rxSize e text]? = some ENDPOINT →
    max (rxSize e text) 4 + ITC_HEADER_SIZE + 1 ≤ a.maxMallocsize ∧ mem = true ∧
      (rxSize e text + ITC_HEADER_SIZE + 1 = text.length ∨ t = .posixmq ∧ full = true)

theorem copyReceived_eq (e : Endian) (a : Allocator) (buffer : Bytes) :
    copyReceived e a true buffer = forwardSysvmqMsg e a buffer := rfl

/-! ## The shared part -/

section Copy

variable {e : Endian} {a : Allocator} {mem : Bool} {buffer : Bytes}

/-- A header that is there is read. -/
theorem ofImage_eq (h : ITC_HEADER_SIZE ≤ buffer.length) :
    ∃ rxmsg, ItcMessage.ofImage e buffer = .ok rxmsg ∧ rxmsg.size.toNat = rxSize e buffer ∧
      rxmsg.body = buffer.drop ITC_HEADER_SIZE :=
  ⟨_, ItcMessage.ofImage_ok h, rfl, rfl⟩

/-- Where the embedded size points outside, the `ENDPOINT` is read from there. -/
theorem copyReceived_outside (h : ITC_HEADER_SIZE ≤ buffer.length)
    (hout : buffer.length ≤ ITC_HEADER_SIZE + rxSize e buffer) :
    copyReceived e a mem buffer = .error .outOfBounds := by
  obtain ⟨rxmsg, hread, hsize, hbody⟩ := ofImage_eq (e := e) h
  have hend : rxmsg.endpoint = .error .outOfBounds := by
    have hnone : rxmsg.body[rxmsg.size.toNat]? = none := by
      rw [hbody, hsize, List.getElem?_drop]
      exact List.getElem?_eq_none hout
    rw [ItcMessage.endpoint, load8, hnone]
  simp only [copyReceived, hread, hend, bind, Except.bind]

/-- A text without its `ENDPOINT` is dropped. -/
theorem copyReceived_malformed {x : UInt8} (h : ITC_HEADER_SIZE ≤ buffer.length)
    (hx : buffer[ITC_HEADER_SIZE + rxSize e buffer]? = some x) (hne : x ≠ ENDPOINT) :
    copyReceived e a mem buffer = .ok none := by
  obtain ⟨rxmsg, hread, hsize, hbody⟩ := ofImage_eq (e := e) h
  have hend : rxmsg.endpoint = .ok x := by
    rw [ItcMessage.endpoint, load8, hbody, hsize, List.getElem?_drop, hx]
  simp only [copyReceived, hread, hend, bind, Except.bind, if_pos hne]
  rfl

/-- A size that `itc_alloc` does not grant is copied to `NULL`. -/
theorem copyReceived_refused (h : ITC_HEADER_SIZE ≤ buffer.length)
    (hx : buffer[ITC_HEADER_SIZE + rxSize e buffer]? = some ENDPOINT)
    (hno : ¬ (max (rxSize e buffer) 4 + ITC_HEADER_SIZE + 1 ≤ a.maxMallocsize ∧ mem = true)) :
    copyReceived e a mem buffer = .error .nullDeref := by
  obtain ⟨rxmsg, hread, hsize, hbody⟩ := ofImage_eq (e := e) h
  have hend : rxmsg.endpoint = .ok ENDPOINT := by
    rw [ItcMessage.endpoint, load8, hbody, hsize, List.getElem?_drop, hx]
  have halloc : itcAllocZz e a mem rxmsg.size.toNat 0 = .ok none :=
    itcAllocZz_refused e a 0 rxmsg.size.toNat_lt (by rw [hsize]; exact hno)
  simp only [copyReceived, hread, hend, halloc, bind, Except.bind, ne_eq, not_true_eq_false,
    if_false]
  rfl

/-- The copy is a message that may be freed, made of the first bytes of the buffer alone. -/
theorem copyReceived_copied (hin : rxSize e buffer + ITC_HEADER_SIZE + 1 ≤ buffer.length)
    (hx : buffer[ITC_HEADER_SIZE + rxSize e buffer]? = some ENDPOINT)
    (hle : max (rxSize e buffer) 4 + ITC_HEADER_SIZE + 1 ≤ a.maxMallocsize) :
    ∃ message, copyReceived e a true buffer = .ok (some message) ∧
      itcFreeAllowed message = .ok true := by
  have hheader : ITC_HEADER_SIZE ≤ buffer.length := by omega
  obtain ⟨rxmsg, hread, hsize, hbody⟩ := ofImage_eq (e := e) hheader
  have hend : rxmsg.endpoint = .ok ENDPOINT := by
    rw [ItcMessage.endpoint, load8, hbody, hsize, List.getElem?_drop, hx]
  have halloc := itcAllocZz_granted e a 0 hle
  have hlen := ItcMessage.fresh_image_length e 0 (Nat.le_max_right (rxSize e buffer) 4)
  have hflags : (ItcMessage.fresh e (max (rxSize e buffer) 4) 0).flags = 0 := rfl
  generalize ItcMessage.fresh e (max (rxSize e buffer) 4) 0 = msg at halloc hlen hflags
  generalize hn : rxSize e buffer + ITC_HEADER_SIZE + 1 = n at hin
  have hcopy : memcpy (msg.image e) buffer n = .ok (buffer.take n ++ (msg.image e).drop n) := by
    refine if_pos ⟨hin, ?_⟩
    rw [hlen]
    omega
  generalize himage : buffer.take n ++ (msg.image e).drop n = image at hcopy
  have htake : (buffer.take n).length = n := by
    rw [List.length_take]
    omega
  -- the copy has the size and the `ENDPOINT` of the text
  have hsame : ∀ k, k < n → image[k]? = buffer[k]? := by
    intro k hk
    rw [← himage, List.getElem?_append_left (by omega), List.getElem?_take_of_lt hk]
  have hsizeImage : rxSize e image = rxSize e buffer := by
    have hword : (image.drop 12).take 4 = (buffer.drop 12).take 4 := by
      refine List.ext_getElem? fun k => ?_
      by_cases hk : k < 4
      · rw [List.getElem?_take_of_lt hk, List.getElem?_take_of_lt hk, List.getElem?_drop,
          List.getElem?_drop]
        refine hsame _ ?_
        simp only [ITC_HEADER_SIZE] at hn
        omega
      · rw [List.getElem?_take_eq_none (by omega), List.getElem?_take_eq_none (by omega)]
    rw [rxSize, hword, rxSize]
  have hlong : ITC_HEADER_SIZE ≤ image.length := by
    rw [← himage, List.length_append, htake]
    omega
  obtain ⟨message, hmessage, hmsize, hmbody⟩ := ofImage_eq (e := e) hlong
  refine ⟨{ message with flags := msg.flags }, ?_, ?_⟩
  · simp only [copyReceived, hread, hend, bind, Except.bind, ne_eq, not_true_eq_false, if_false,
      hsize, halloc, hn, hcopy, hmessage]
    rfl
  · have hmend : ItcMessage.endpoint { message with flags := 0 } = .ok ENDPOINT := by
      show load8 message.body message.size.toNat = .ok ENDPOINT
      rw [load8, hmbody, hmsize, hsizeImage, List.getElem?_drop, hsame _ (by omega), hx]
    rw [hflags]
    simp only [itcFreeAllowed, hmend, bind, Except.bind]
    rw [if_neg (by decide)]
    rfl

/-- A copy that stays within the text does not depend on what lies behind it. -/
theorem copyReceived_append {text : Bytes} (stale : Bytes)
    (hin : rxSize e text + ITC_HEADER_SIZE + 1 ≤ text.length) :
    copyReceived e a mem (text ++ stale) = copyReceived e a mem text := by
  have hheader : ITC_HEADER_SIZE ≤ text.length := by omega
  have hlonger : ITC_HEADER_SIZE ≤ (text ++ stale).length := by
    rw [List.length_append]
    omega
  obtain ⟨rxmsg, hread, hsize, hbody⟩ := ofImage_eq (e := e) hheader
  obtain ⟨rxmsg', hread', hsize', hbody'⟩ := ofImage_eq (e := e) hlonger
  have hword : ((text ++ stale).drop 12).take 4 = (text.drop 12).take 4 := by
    simp only [ITC_HEADER_SIZE] at hheader
    rw [List.drop_append_of_le_length (by omega), List.take_append_of_le_length]
    rw [List.length_drop]
    omega
  have hnum : rxmsg'.size = rxmsg.size := by
    apply UInt32.toNat_inj.mp
    rw [hsize, hsize', rxSize, rxSize, hword]
  have hend : rxmsg'.endpoint = rxmsg.endpoint := by
    rw [ItcMessage.endpoint, ItcMessage.endpoint, load8, load8, hbody, hbody', hnum, hsize,
      List.getElem?_drop, List.getElem?_drop, List.getElem?_append_left (by omega)]
  have hcopy : ∀ dst : Bytes, memcpy dst (text ++ stale) (rxmsg.size.toNat + ITC_HEADER_SIZE + 1) =
      memcpy dst text (rxmsg.size.toNat + ITC_HEADER_SIZE + 1) := by
    intro dst
    rw [memcpy, memcpy, hsize, List.take_append_of_le_length hin, List.length_append]
    refine if_congr (and_congr_left fun _ => ?_) rfl rfl
    exact iff_of_true (by omega) hin
  simp only [copyReceived, hread, hread', hend, hnum, hcopy, bind, Except.bind]

end Copy

/-! ## The handlers -/

section Handle

variable {t : RxTransport} {e : Endian} {a : Allocator} {mem full : Bool} {text : Bytes}

theorem RxTransport.header_le (t : RxTransport) : ITC_HEADER_SIZE ≤ t.minLength := by
  cases t
  · exact Nat.le_add_left _ _
  · exact Nat.le_refl _

theorem rxHandle_error {fault : MemFault} {buffer : Bytes} {n : Nat} (hmin : t.minLength < n)
    (hcopy : copyReceived e a mem buffer = .error fault) :
    rxHandle t e a mem full buffer n = .error fault := by
  simp only [rxHandle, if_neg (Nat.not_le_of_lt hmin), hcopy, bind, Except.bind]

theorem rxHandle_none {buffer : Bytes} {n : Nat} (hmin : t.minLength < n)
    (hcopy : copyReceived e a mem buffer = .ok none) :
    rxHandle t e a mem full buffer n = .ok ⟨none, false⟩ := by
  simp only [rxHandle, if_neg (Nat.not_le_of_lt hmin), hcopy, bind, Except.bind]
  rfl

/-- A copy over the limit is freed again. -/
theorem rxHandle_freed {buffer : Bytes} {n : Nat} {message : ItcMessage} (hmin : t.minLength < n)
    (hcopy : copyReceived e a mem buffer = .ok (some message))
    (hfree : itcFreeAllowed message = .ok true) (hfull : t = .posixmq ∧ full = true) :
    rxHandle t e a mem full buffer n = .ok ⟨none, false⟩ := by
  simp only [rxHandle, if_neg (Nat.not_le_of_lt hmin), hcopy, bind, Except.bind, if_pos hfull, hfree]
  rfl

theorem rxHandle_passed {buffer : Bytes} {n : Nat} {message : ItcMessage} (hmin : t.minLength < n)
    (hcopy : copyReceived e a mem buffer = .ok (some message))
    (hfull : ¬ (t = .posixmq ∧ full = true)) :
    rxHandle t e a mem full buffer n = .ok ⟨some message, false⟩ := by
  simp only [rxHandle, if_neg (Nat.not_le_of_lt hmin), hcopy, bind, Except.bind, if_neg hfull]
  rfl

/-- A pass of the rx loop, over what its buffer still holds. -/
theorem sysvmqRxThread_eq {rx : SysvmqRx} (hfit : text.length ≤ rx.mtext.length) :
    Prod.snd <$> sysvmqRxThread e a rx (.text text) =
      RxResult.passedOn <$>
        rxHandle .sysvmq e a true full (text ++ rx.mtext.drop text.length) text.length := by
  have hbuf : memcpy rx.mtext text text.length = .ok (text ++ rx.mtext.drop text.length) :=
    memcpy_of_eq (List.append_nil text).symm rfl hfit
  by_cases hshort : text.length ≤ RxTransport.sysvmq.minLength
  · have hdrop : text.length ≤ 8 + ITC_HEADER_SIZE := hshort
    simp only [sysvmqRxThread, rxHandle, hbuf, bind, Except.bind, if_pos hshort, if_pos hdrop]
    rfl
  · have hkeep : ¬ text.length ≤ 8 + ITC_HEADER_SIZE := hshort
    simp only [sysvmqRxThread, rxHandle, hbuf, bind, Except.bind, if_neg hshort, if_neg hkeep,
      copyReceived_eq]
    cases forwardSysvmqMsg e a (text ++ rx.mtext.drop text.length) with
    | error fault => rfl
    | ok fwd =>
      cases fwd with
      | none => rfl
      | some message => rfl

section Posixmq

variable {impl : TreeImpl Nat} {inst : PosixmqInst} {mboxes : Nat → ItcMailbox} {addr num : Nat}
  {rxBuffer : Bytes}

/-- What is not passed on leaves the buffer tree as it was. -/
theorem processReceivedMessage_dropped
    (h : rxHandle .posixmq e a true (decide (inst.numMessages > MAX_NUM_MESSAGES_ALLOWED_IN_TREE))
      rxBuffer num = .ok ⟨none, false⟩) :
    processReceivedMessage e a impl inst mboxes addr rxBuffer num = .ok (inst, mboxes) := by
  unfold rxHandle at h
  unfold processReceivedMessage
  simp only [RxTransport.minLength] at h
  split at h
  · next hshort => rw [if_pos hshort]; rfl
  · next hlong =>
    obtain ⟨o, hcopy, h⟩ := bind_eq_ok h
    rw [copyReceived_eq] at hcopy
    simp only [if_neg hlong, hcopy, bind, Except.bind]
    cases o with
    | none => rfl
    | some message =>
      by_cases hlimit : inst.numMessages > MAX_NUM_MESSAGES_ALLOWED_IN_TREE
      · simp only [if_pos hlimit]
        rfl
      · simp only [hlimit, decide_false, Bool.false_eq_true, and_false, if_false] at h
        cases h

/-- What is passed on goes into the buffer tree. -/
theorem processReceivedMessage_passed {message : ItcMessage} {inst' : PosixmqInst}
    {mboxes' : Nat → ItcMailbox}
    (h : rxHandle .posixmq e a true (decide (inst.numMessages > MAX_NUM_MESSAGES_ALLOWED_IN_TREE))
      rxBuffer num = .ok ⟨some message, false⟩)
    (hcall : processReceivedMessage e a impl inst mboxes addr rxBuffer num = .ok (inst', mboxes')) :
    inst' = inst.store impl addr message := by
  unfold rxHandle at h
  simp only [RxTransport.minLength] at h
  split at h
  · cases h
  · next hlong =>
    obtain ⟨o, hcopy, h⟩ := bind_eq_ok h
    rw [copyReceived_eq] at hcopy
    cases o with
    | none => cases h
    | some copied =>
      by_cases hlimit : inst.numMessages > MAX_NUM_MESSAGES_ALLOWED_IN_TREE
      · simp only [hlimit, decide_true, and_self, if_true] at h
        obtain ⟨freed, -, h⟩ := bind_eq_ok h
        cases h
      · simp only [hlimit, decide_false, Bool.false_eq_true, and_false, if_false] at h
        cases h
        exact processReceivedMessage_stored (by omega) hcopy hlimit hcall

end Posixmq

/-- **What is left of an earlier text does not matter where the embedded size is in order.** -/
theorem rxHandle_stale (stale : Bytes) (h : RxTextOk t e a mem full text) :
    rxHandle t e a mem full (text ++ stale) text.length =
      rxHandle t e a mem full text text.length := by
  simp only [rxHandle, copyReceived_append stale h.inside]

/-- **The handlers are safe on exactly the texts whose embedded size is in order.** -/
theorem rxSafe_iff (t : RxTransport) (e : Endian) (a : Allocator) (mem full : Bool) (text : Bytes)
    (hmin : t.minLength < text.length) :
    RxSafe t e a mem full text ↔ RxTextOk t e a mem full text := by
  have hheader := t.header_le
  by_cases hin : rxSize e text + ITC_HEADER_SIZE + 1 ≤ text.length
  · obtain ⟨x, hx⟩ : ∃ x, text[ITC_HEADER_SIZE + rxSize e text]? = some x :=
      ⟨_, List.getElem?_eq_getElem (by omega)⟩
    by_cases hend : x = ENDPOINT
    · subst hend
      by_cases halloc : max (rxSize e text) 4 + ITC_HEADER_SIZE + 1 ≤ a.maxMallocsize ∧ mem = true
      · obtain ⟨hle, rfl⟩ := halloc
        obtain ⟨message, hcopy, hfree⟩ := copyReceived_copied (e := e) (a := a) hin hx hle
        by_cases hfull : t = .posixmq ∧ full = true
        · refine iff_of_true ⟨_, rxHandle_freed hmin hcopy hfree hfull, rfl, ?_⟩
            ⟨hin, fun _ => ⟨hle, rfl, .inr hfull⟩⟩
          exact fun hcontra => by cases hcontra
        · constructor
          · rintro ⟨r, hcall, -, hwhole⟩
            rw [rxHandle_passed hmin hcopy hfull] at hcall
            cases hcall
            exact ⟨hin, fun _ => ⟨hle, rfl, .inl (hwhole rfl).1⟩⟩
          · intro h
            refine ⟨_, rxHandle_passed hmin hcopy hfull, rfl, fun _ => ?_⟩
            have hwhole := ((h.whole hx).2.2).resolve_right hfull
            refine ⟨hwhole, ?_⟩
            rw [List.getLast?_eq_getElem?, ← hx]
            congr 1
            omega
      · refine iff_of_false ?_ fun h => halloc ⟨(h.whole hx).1, (h.whole hx).2.1⟩
        rintro ⟨r, hcall, -⟩
        rw [rxHandle_error hmin (copyReceived_refused (by omega) hx halloc)] at hcall
        cases hcall
    · -- no allocation is made for a text without its `ENDPOINT`
      have hcopy : copyReceived e a mem text = .ok none := copyReceived_malformed (by omega) hx hend
      refine iff_of_true ⟨_, rxHandle_none hmin hcopy, rfl, fun hcontra => by cases hcontra⟩ ⟨hin, fun hyes => ?_⟩
      rw [hx, Option.some.injEq] at hyes
      exact absurd hyes hend
  · refine iff_of_false ?_ fun h => hin h.inside
    rintro ⟨r, hcall, -⟩
    rw [rxHandle_error hmin (copyReceived_outside (by omega) (by omega))] at hcall
    cases hcall

/-- **Such a text through the System V queue**: a pass of the rx loop does with it what the handler
does with the text alone, whatever the buffer still holds. -/
theorem RxTextOk.sysvmqRxThread {rx : SysvmqRx} (h : RxTextOk .sysvmq e a true full text)
    (hfit : text.length ≤ rx.mtext.length) :
    Prod.snd <$> sysvmqRxThread e a rx (.text text) =
      RxResult.passedOn <$> rxHandle .sysvmq e a true full text text.length := by
  rw [sysvmqRxThread_eq hfit, rxHandle_stale _ h]

/-- **And through the POSIX queue**: the buffer tree gets what the handler passes on. -/
theorem RxTextOk.processReceivedMessage {impl : TreeImpl Nat} {inst inst' : PosixmqInst}
    {mboxes mboxes' : Nat → ItcMailbox} {addr : Nat} {passedOn : Option ItcMessage}
    (h : RxTextOk .posixmq e a true (decide (inst.numMessages > MAX_NUM_MESSAGES_ALLOWED_IN_TREE))
      text)
    (hhandle : rxHandle .posixmq e a true
      (decide (inst.numMessages > MAX_NUM_MESSAGES_ALLOWED_IN_TREE)) text text.length =
        .ok ⟨passedOn, false⟩) (stale : Bytes)
    (hcall : processReceivedMessage e a impl inst mboxes addr (text ++ stale) text.length =
      .ok (inst', mboxes')) :
    inst' = passedOn.elim inst (inst.store impl addr) := by
  rw [← rxHandle_stale stale h] at hhandle
  cases passedOn with
  | none =>
    rw [processReceivedMessage_dropped hhandle] at hcall
    cases hcall
    rfl
  | some message => exact processReceivedMessage_passed hhandle hcall

/-- A message of eight bytes, as `sysvmq_send` sends it. -/
theorem rxSafe_iff_sent :
    let text := (ItcMessage.fresh .little 8 7).image .little
    RxTransport.sysvmq.minLength < text.length ∧
      (RxSafe .sysvmq .little .least true false text ↔
        RxTextOk .sysvmq .little .least true false text) := by
  intro text
  have hmin : RxTransport.sysvmq.minLength < text.length := by decide
  exact ⟨hmin, rxSafe_iff .sysvmq .little .least true false text hmin⟩

/-- The first 25 bytes of a message of size 20. -/
def truncatedText : Bytes := ((ItcMessage.fresh .little 20 7).image .little).take 25

/-- **A truncated message is completed from the buffer**: behind its 25 bytes the receive buffer
still has the end of the message before it, with an `ENDPOINT` where the size looks for one, and a
message of 37 bytes is passed on. -/
theorem truncated_text_passed_on :
    ∃ stale, RxTransport.sysvmq.minLength < truncatedText.length ∧
      rxHandle .sysvmq .little .least true false (truncatedText ++ stale) truncatedText.length =
        .ok ⟨some { ItcMessage.fresh .little 20 7 with flags := 0 }, false⟩ ∧
      rxHandle .sysvmq .little .least true false truncatedText truncatedText.length =
        .error .outOfBounds ∧
      ¬ RxSafe .sysvmq .little .least true false truncatedText := by
  have hown : rxHandle .sysvmq .little .least true false truncatedText truncatedText.length =
      .error .outOfBounds := by decide
  refine ⟨((ItcMessage.fresh .little 20 7).image .little).drop 25, by decide, by decide, hown, ?_⟩
  rintro ⟨r, hcall, -⟩
  rw [hown] at hcall
  cases hcall

end Handle

end ItcFramework
