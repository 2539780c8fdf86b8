import ItcFramework.Itc.Message

/-!
# Allocation geometry

The allocator byte by byte: how its limit comes about (`itc_init_zz`, `malloc_init`), and
`itc_alloc_zz`, `itc_size_zz` and `itc_free_zz` on the blocks that `malloc` hands out, with every
store at its own offset and every `size_t` an `UInt64`.

* `limitAfterInit` — what `max_mallocsize` is after `itc_init_zz`.
* `itcAllocBlock`, `itcFreeBlock` — the two calls; `UserWrite.run` — what a user stores.
* `itcAllocBlock_image`, `freeAllowed_image` — they are `itcAllocZz` and `itcFreeAllowed` on the
  images of messages.
* `ItcMessage.Intact` — a message whose block is as long as it says; user writes that do not reach
  beyond the `ENDPOINT` byte keep it so (`userWrites_intact`).
* `AllocGeometry` — what a size and a `msgno` are promised; `alloc_geometry_iff` — when.
-/

set_option autoImplicit false

namespace ItcFramework

open ByteImage HeapModel

/-! ## The limit -/

/-- The loop over the transports in `itc_init_zz`; `msgsizes` are their `itci_trans_maxmsgsize`. -/
def chooseMaxMsgsize (msgsizes : List Int) : Int :=
  msgsizes.foldl (fun maxMsgsize msgsize => if msgsize > maxMsgsize then msgsize else maxMsgsize)
    ITC_MAX_MSGSIZE

/-- `malloc_init`: the new `max_mallocsize`, and what it adds to `rc->flags`. -/
def mallocInit (maxMallocsize maxMsgsize : Int) : Int × UInt32 :=
  if maxMsgsize < 0 then (maxMallocsize, ITC_INVALID_ARGUMENTS) else (maxMsgsize, ITC_OK)

/-- `(size_t)max_mallocsize` after `itc_init_zz`. -/
def limitAfterInit (msgsizes : List Int) : Nat :=
  (mallocInit 0 (chooseMaxMsgsize msgsizes)).1.toNat

theorem foldl_max_bounds (msgsizes : List Int) (m : Int) :
    m ≤ msgsizes.foldl (fun m x => if x > m then x else m) m ∧
      ∀ b, m < b → (∀ x ∈ msgsizes, x < b) →
        msgsizes.foldl (fun m x => if x > m then x else m) m < b := by
  induction msgsizes generalizing m with
  | nil => exact ⟨Int.le_refl m, fun _ hm _ => hm⟩
  | cons x msgsizes ih =>
    rw [List.foldl_cons]
    obtain ⟨hle, hlt⟩ := ih (if x > m then x else m)
    constructor
    · refine Int.le_trans ?_ hle
      split <;> omega
    · intro b hm hall
      have hx := hall x List.mem_cons_self
      apply hlt b
      · split <;> omega
      · exact fun y hy => hall y (List.mem_cons_of_mem x hy)

theorem chooseMaxMsgsize_ge (msgsizes : List Int) :
    ITC_MAX_MSGSIZE ≤ chooseMaxMsgsize msgsizes :=
  (foldl_max_bounds msgsizes ITC_MAX_MSGSIZE).1

theorem limitAfterInit_eq (msgsizes : List Int) :
    (limitAfterInit msgsizes : Int) = chooseMaxMsgsize msgsizes := by
  have hge := chooseMaxMsgsize_ge msgsizes
  unfold limitAfterInit mallocInit
  rw [if_neg (by omega)]
  show ((chooseMaxMsgsize msgsizes).toNat : Int) = chooseMaxMsgsize msgsizes
  omega

theorem limitAfterInit_ge (msgsizes : List Int) : ITC_MAX_MSGSIZE ≤ limitAfterInit msgsizes := by
  have hge := chooseMaxMsgsize_ge msgsizes
  have heq := limitAfterInit_eq msgsizes
  omega

/-- Transports with limits that are `int`s give an `Allocator`. -/
def Allocator.afterInit (msgsizes : List Int) (h : ∀ x ∈ msgsizes, x < 2 ^ 31) : Allocator where
  maxMallocsize := limitAfterInit msgsizes
  ge := limitAfterInit_ge msgsizes
  lt := by
    have hlt : chooseMaxMsgsize msgsizes < 2 ^ 31 :=
      (foldl_max_bounds msgsizes ITC_MAX_MSGSIZE).2 _ (by decide) h
    have heq := limitAfterInit_eq msgsizes
    omega

/-! ## The calls on blocks -/

/-- `offsetof(struct itc_message, …)`. -/
def offFlags : Nat := 0
def offReceiver : Nat := 4
def offSender : Nat := 8
def offSize : Nat := 12
def offMsgno : Nat := 16

/-- What a call meets: `itc_inst.mboxes` is set, the thread has its `rc` or `malloc` has memory for
it, and `malloc` has memory for a block. -/
structure AllocSys where
  initialised : Bool
  rc : Bool
  mem : Bool

/-- The size that is allocated for the user: `msgno` at least. -/
def userSize (size : UInt64) : UInt64 := if size < 4 then 4 else size

/-- `malloc_alloc`: the zeroed block, `none` for `NULL`. -/
def mallocBlock (maxMallocsize : Nat) (mem : Bool) (size : UInt64) : Option Bytes :=
  if size.toNat > maxMallocsize then none
  else if mem then some (List.replicate size.toNat 0) else none

/-- The stores of `itc_alloc_zz`, the last one through `endpoint`. -/
def fillBlock (e : Endian) (block : Bytes) (size : UInt64) (msgno : UInt32) :
    Except MemFault Bytes := do
  let block ← store32 e block offMsgno msgno
  let block ← store32 e block offSender ITC_NO_MBOX_ID
  let block ← store32 e block offReceiver ITC_NO_MBOX_ID
  let block ← store32 e block offSize size.toUInt32
  let block ← store32 e block offFlags 0
  store8 block (UInt64.ofNat offMsgno + size).toNat ENDPOINT

/-- `itc_alloc_zz`: the message, and the heap. -/
def itcAllocBlock (e : Endian) (maxMallocsize : Nat) (sys : AllocSys) (heap : Heap Bytes)
    (size : UInt64) (msgno : UInt32) : Except MemFault (Option Nat × Heap Bytes) := do
  let size := userSize size
  if ¬ sys.initialised then return (none, heap)
  if ¬ sys.rc then return (none, heap)
  match mallocBlock maxMallocsize sys.mem (size + UInt64.ofNat ITC_HEADER_SIZE + 1) with
  | none => return (none, heap)
  | some block =>
    let block ← fillBlock e block size msgno
    let (p, heap) := heap.alloc block
    return (some p, heap)

/-- `itc_size_zz`. -/
def itcSizeBlock (e : Endian) (heap : Heap Bytes) : Option Nat → Except MemFault Nat
  | none => return 0
  | some p => do
    let block ← heap.read p
    let size ← load32 e block offSize
    return size.toNat

/-- What `itc_free_zz` decides on the block. -/
def freeAllowed (e : Endian) (block : Bytes) : Except MemFault Bool := do
  let size ← load32 e block offSize
  let flags ← load32 e block offFlags
  if flags &&& ITC_FLAGS_MSG_INRXQUEUE ≠ 0 then return false
  let x ← load8 block (offMsgno + size.toNat)
  return x == ENDPOINT

/-- `itc_free_zz`: its result, `*msg`, and the heap. -/
def itcFreeBlock (e : Endian) (sys : AllocSys) (heap : Heap Bytes) (msg : Option Nat) :
    Except MemFault (Bool × Option Nat × Heap Bytes) := do
  if ¬ sys.initialised then return (false, msg, heap)
  match msg with
  | none => return (false, none, heap)
  | some p =>
    let block ← heap.read p
    if ¬ (← freeAllowed e block) then return (false, some p, heap)
    if ¬ sys.rc then return (false, some p, heap)
    let heap ← heap.free p
    return (true, none, heap)

/-- `message->flags |= ITC_FLAGS_MSG_INRXQUEUE` in `enqueue_message`. -/
def markInRxqueue (e : Endian) (heap : Heap Bytes) (p : Nat) : Except MemFault (Heap Bytes) := do
  let block ← heap.read p
  let flags ← load32 e block offFlags
  let block ← store32 e block offFlags (flags ||| ITC_FLAGS_MSG_INRXQUEUE)
  heap.write p block

/-- A user stores bytes, from an offset of its `union itc_msg` on. -/
structure UserWrite where
  off : Nat
  src : Bytes

/-- The write stays within the first `n` bytes. -/
def UserWrite.Within (w : UserWrite) (n : Nat) : Prop := w.off + w.src.length ≤ n

def UserWrite.run (p : Nat) (heap : Heap Bytes) (w : UserWrite) : Except MemFault (Heap Bytes) := do
  let block ← heap.read p
  let block ← storeBytes block (offMsgno + w.off) w.src
  heap.write p block

/-! ## Images of messages -/

section Image

variable (e : Endian) (m : ItcMessage)

theorem load32_flags : load32 e (m.image e) offFlags = .ok m.flags := by
  apply load32_of_eq (a := []) (c := word e m.receiver ++ (word e m.sender ++
    (word e m.size ++ m.body)))
  · simp [ItcMessage.image, ItcMessage.header]
  · rfl

theorem load32_size : load32 e (m.image e) offSize = .ok m.size := by
  apply load32_of_eq (a := word e m.flags ++ (word e m.receiver ++ word e m.sender)) (c := m.body)
  · simp [ItcMessage.image, ItcMessage.header]
  · simp [offSize]

theorem store32_flags (flags : UInt32) :
    store32 e (m.image e) offFlags flags = .ok ({ m with flags }.image e) := by
  have hstore := store32_of_eq (e := e) (b := m.image e) (a := []) (o := word e m.flags)
    (c := word e m.receiver ++ (word e m.sender ++ (word e m.size ++ m.body))) (i := offFlags)
    (w := flags) (by simp [ItcMessage.image, ItcMessage.header]) rfl (word_length e m.flags)
  rw [hstore]
  simp [ItcMessage.image, ItcMessage.header]

theorem load8_payload (k : Nat) : load8 (m.image e) (offMsgno + k) = load8 m.body k := by
  rw [← load8_append (m.header e) m.body k, ItcMessage.header_length]
  rfl

theorem storeBytes_payload (off : Nat) (src : Bytes) :
    storeBytes (m.image e) (offMsgno + off) src =
      (storeBytes m.body off src).map fun body => { m with body }.image e := by
  have hstore := storeBytes_append (m.header e) m.body off src
  rw [ItcMessage.header_length] at hstore
  exact hstore

/-- **What `itc_free_zz` decides on a block is what it decides on the message.** -/
theorem freeAllowed_image : freeAllowed e (m.image e) = itcFreeAllowed m := by
  unfold freeAllowed itcFreeAllowed
  rw [load32_size, load32_flags]
  show (if m.flags &&& ITC_FLAGS_MSG_INRXQUEUE ≠ 0 then _ else _) = _
  split
  · rfl
  · show (load8 (m.image e) (offMsgno + m.size.toNat) >>= _) = _
    rw [load8_payload]
    rfl

end Image

/-! ## Allocation -/

theorem userSize_toNat (size : UInt64) : (userSize size).toNat = max size.toNat 4 := by
  have h4 : size < 4 ↔ size.toNat < 4 := UInt64.lt_iff_toNat_lt
  unfold userSize
  by_cases h : size < 4
  · rw [if_pos h]
    rw [h4] at h
    show 4 = max size.toNat 4
    omega
  · rw [if_neg h]
    rw [h4] at h
    omega

/-- What `malloc` is asked for. -/
theorem blockSize_toNat (size : UInt64) :
    (size + UInt64.ofNat ITC_HEADER_SIZE + 1).toNat =
      (size.toNat + ITC_HEADER_SIZE + 1) % 2 ^ 64 := by
  rw [UInt64.toNat_add, UInt64.toNat_add]
  show ((size.toNat + 16) % 2 ^ 64 + 1) % 2 ^ 64 = (size.toNat + 16 + 1) % 2 ^ 64
  omega

theorem endpoint_toNat {size : UInt64} (hlt : size.toNat + ITC_HEADER_SIZE + 1 < 2 ^ 64) :
    (UInt64.ofNat offMsgno + size).toNat = offMsgno + size.toNat := by
  simp only [ITC_HEADER_SIZE] at hlt
  rw [UInt64.toNat_add]
  show (16 + size.toNat) % 2 ^ 64 = 16 + size.toNat
  omega

/-- Field by field: `f` is what a field of four bytes holds before. -/
theorem fillBlock_fields (e : Endian) {size : UInt64} (msgno : UInt32) {f pad : Bytes}
    (hf : f.length = 4) (hpad : 4 + pad.length = size.toNat)
    (hlt : size.toNat + ITC_HEADER_SIZE + 1 < 2 ^ 64) :
    fillBlock e (f ++ (f ++ (f ++ (f ++ (f ++ (pad ++ [0])))))) size msgno =
      .ok (word e 0 ++ (word e ITC_NO_MBOX_ID ++ (word e ITC_NO_MBOX_ID ++
        (word e size.toUInt32 ++ (word e msgno ++ (pad ++ [ENDPOINT])))))) := by
  obtain ⟨no, hno⟩ : ∃ no, no = word e ITC_NO_MBOX_ID := ⟨_, rfl⟩
  obtain ⟨w, hw⟩ : ∃ w, w = word e size.toUInt32 := ⟨_, rfl⟩
  have hnoLength : no.length = 4 := by rw [hno, word_length]
  have hwLength : w.length = 4 := by rw [hw, word_length]
  have hmsgno : store32 e (f ++ (f ++ (f ++ (f ++ (f ++ (pad ++ [0])))))) offMsgno msgno =
      .ok (f ++ (f ++ (f ++ (f ++ (word e msgno ++ (pad ++ [0])))))) := by
    rw [store32_of_eq (a := f ++ (f ++ (f ++ f))) (o := f) (c := pad ++ [0]) (i := offMsgno)
      (by simp) (by simp [hf, offMsgno]) hf]
    simp only [List.append_assoc]
  obtain ⟨user, huser⟩ : ∃ user, user = word e msgno ++ (pad ++ [0]) := ⟨_, rfl⟩
  rw [← huser] at hmsgno
  have hsender : store32 e (f ++ (f ++ (f ++ (f ++ user)))) offSender ITC_NO_MBOX_ID =
      .ok (f ++ (f ++ (no ++ (f ++ user)))) := by
    rw [store32_of_eq (a := f ++ f) (o := f) (c := f ++ user) (i := offSender)
      (by simp) (by simp [hf, offSender]) hf, hno]
    simp only [List.append_assoc]
  have hreceiver : store32 e (f ++ (f ++ (no ++ (f ++ user)))) offReceiver ITC_NO_MBOX_ID =
      .ok (f ++ (no ++ (no ++ (f ++ user)))) := by
    rw [store32_of_eq (a := f) (o := f) (c := no ++ (f ++ user)) (i := offReceiver)
      rfl hf.symm hf, hno]
  have hsize : store32 e (f ++ (no ++ (no ++ (f ++ user)))) offSize size.toUInt32 =
      .ok (f ++ (no ++ (no ++ (w ++ user)))) := by
    rw [store32_of_eq (a := f ++ (no ++ no)) (o := f) (c := user) (i := offSize)
      (by simp) (by simp [hf, hnoLength, offSize]) hf, hw]
    simp only [List.append_assoc]
  have hflags : store32 e (f ++ (no ++ (no ++ (w ++ user)))) offFlags 0 =
      .ok (word e 0 ++ (no ++ (no ++ (w ++ user)))) := by
    rw [store32_of_eq (b := f ++ (no ++ (no ++ (w ++ user)))) (a := []) (o := f)
      (c := no ++ (no ++ (w ++ user))) (i := offFlags) rfl rfl hf, List.nil_append]
  have hend : store8 (word e 0 ++ (no ++ (no ++ (w ++ user)))) (offMsgno + size.toNat) ENDPOINT =
      .ok (word e 0 ++ (no ++ (no ++ (w ++ (word e msgno ++ (pad ++ [ENDPOINT])))))) := by
    rw [store8_of_eq (a := word e 0 ++ (no ++ (no ++ (w ++ (word e msgno ++ pad))))) (c := [])
      (i := offMsgno + size.toNat) (x := 0)]
    · simp only [List.append_assoc]
    · simp only [huser, List.append_assoc]
    · simp only [List.length_append, word_length, hnoLength, hwLength, offMsgno]
      omega
  rw [← hno, ← hw]
  simp only [fillBlock, hmsgno, hsender, hreceiver, hsize, hflags, endpoint_toNat hlt, hend, bind,
    Except.bind]

/-- **The stores of `itc_alloc_zz` stay in a block of the right size**, and make it the image of a
fresh message. -/
theorem fillBlock_image (e : Endian) {size : UInt64} (msgno : UInt32) (h4 : 4 ≤ size.toNat)
    (hlt : size.toNat + ITC_HEADER_SIZE + 1 < 2 ^ 64) :
    fillBlock e (List.replicate (size.toNat + ITC_HEADER_SIZE + 1) 0) size msgno =
      .ok ((ItcMessage.fresh e size.toNat msgno).image e) := by
  have hblock : List.replicate (size.toNat + ITC_HEADER_SIZE + 1) (0 : UInt8) =
      List.replicate 4 0 ++ (List.replicate 4 0 ++ (List.replicate 4 0 ++ (List.replicate 4 0 ++
        (List.replicate 4 0 ++ (List.replicate (size.toNat - 4) 0 ++ [0]))))) := by
    rw [← List.replicate_one, ← List.replicate_add, ← List.replicate_add, ← List.replicate_add,
      ← List.replicate_add, ← List.replicate_add, ← List.replicate_add]
    congr 1
    simp only [ITC_HEADER_SIZE]
    omega
  have hpad : 4 + (List.replicate (size.toNat - 4) (0 : UInt8)).length = size.toNat := by
    rw [List.length_replicate]
    omega
  have hsize : size.toUInt32 = UInt32.ofNat size.toNat := rfl
  rw [hblock, fillBlock_fields e msgno List.length_replicate hpad hlt, hsize]
  simp only [ItcMessage.image, ItcMessage.header, ItcMessage.fresh, List.append_assoc]

/-- In a shorter block the first store is a fault. -/
theorem fillBlock_short {block : Bytes} (hshort : block.length ≤ ITC_HEADER_SIZE) (e : Endian)
    (size : UInt64) (msgno : UInt32) : fillBlock e block size msgno = .error .outOfBounds := by
  have hstore : store32 e block offMsgno msgno = .error .outOfBounds := by
    apply if_neg
    rw [word_length]
    simp only [offMsgno, ITC_HEADER_SIZE] at hshort ⊢
    omega
  unfold fillBlock
  rw [hstore]
  rfl

/-- What `malloc` is asked for when a user asks for `size`: it wraps. -/
def requested (size : UInt64) : Nat := (max size.toNat 4 + ITC_HEADER_SIZE + 1) % 2 ^ 64

/-- `itc_alloc_zz` comes to its stores. -/
structure Granted (maxMallocsize : Nat) (sys : AllocSys) (size : UInt64) : Prop where
  initialised : sys.initialised = true
  rc : sys.rc = true
  mem : sys.mem = true
  fits : requested size ≤ maxMallocsize

section Calls

variable {e : Endian} {maxMallocsize : Nat} {sys : AllocSys} {heap : Heap Bytes} {size : UInt64}
  {msgno : UInt32}

theorem requested_eq (hlt : size.toNat + ITC_HEADER_SIZE + 1 < 2 ^ 64) :
    requested size = max size.toNat 4 + ITC_HEADER_SIZE + 1 := by
  simp only [requested, ITC_HEADER_SIZE] at hlt ⊢
  omega

theorem requested_wraps (hge : 2 ^ 64 ≤ size.toNat + ITC_HEADER_SIZE + 1) :
    requested size ≤ ITC_HEADER_SIZE := by
  have hlt := size.toNat_lt
  simp only [requested, ITC_HEADER_SIZE] at hge ⊢
  omega

theorem mallocBlock_eq (mem : Bool) :
    mallocBlock maxMallocsize mem (userSize size + UInt64.ofNat ITC_HEADER_SIZE + 1) =
      if requested size > maxMallocsize then none
      else if mem then some (List.replicate (requested size) 0) else none := by
  unfold mallocBlock
  rw [blockSize_toNat, userSize_toNat]
  rfl

theorem itcAllocBlock_refused (h : ¬ Granted maxMallocsize sys size) :
    itcAllocBlock e maxMallocsize sys heap size msgno = .ok (none, heap) := by
  unfold itcAllocBlock
  split
  · rfl
  · rename_i hinit
    split
    · rfl
    · rename_i hrc
      rw [not_not] at hinit hrc
      dsimp only
      rw [mallocBlock_eq]
      by_cases hfits : requested size > maxMallocsize
      · rw [if_pos hfits]
        rfl
      · rw [if_neg hfits]
        have hmem : ¬ sys.mem = true := fun hmem => h ⟨hinit, hrc, hmem, Nat.le_of_not_gt hfits⟩
        rw [if_neg hmem]
        rfl

/-- An allocation that comes to its stores ends as they do. -/
theorem itcAllocBlock_granted (h : Granted maxMallocsize sys size) :
    itcAllocBlock e maxMallocsize sys heap size msgno =
      (fillBlock e (List.replicate (requested size) 0) (userSize size) msgno).map fun block =>
        (some heap.next, heap.push block) := by
  unfold itcAllocBlock
  rw [if_neg (not_not.mpr h.initialised), if_neg (not_not.mpr h.rc), mallocBlock_eq,
    if_neg (Nat.not_lt.mpr h.fits), if_pos h.mem]
  show (fillBlock e (List.replicate (requested size) 0) (userSize size) msgno >>= fun block =>
    Except.ok (some heap.next, heap.push block)) = _
  cases fillBlock e (List.replicate (requested size) 0) (userSize size) msgno <;> rfl

theorem itcAllocBlock_allocates (h : Granted maxMallocsize sys size)
    (hlt : size.toNat + ITC_HEADER_SIZE + 1 < 2 ^ 64) :
    itcAllocBlock e maxMallocsize sys heap size msgno = .ok (some heap.next,
      heap.push ((ItcMessage.fresh e (max size.toNat 4) msgno).image e)) := by
  have h4 : 4 ≤ (userSize size).toNat := by
    rw [userSize_toNat]
    exact Nat.le_max_right _ _
  have hlt' : (userSize size).toNat + ITC_HEADER_SIZE + 1 < 2 ^ 64 := by
    simp only [userSize_toNat, ITC_HEADER_SIZE] at hlt ⊢
    omega
  have hfill := fillBlock_image e msgno h4 hlt'
  rw [userSize_toNat] at hfill
  rw [itcAllocBlock_granted h, requested_eq hlt, hfill]
  rfl

theorem itcAllocBlock_wraps (h : Granted maxMallocsize sys size)
    (hge : 2 ^ 64 ≤ size.toNat + ITC_HEADER_SIZE + 1) :
    itcAllocBlock e maxMallocsize sys heap size msgno = .error .outOfBounds := by
  have hshort : (List.replicate (requested size) (0 : UInt8)).length ≤ ITC_HEADER_SIZE := by
    rw [List.length_replicate]
    exact requested_wraps hge
  rw [itcAllocBlock_granted h, fillBlock_short hshort]
  rfl

end Calls

/-- **`itc_alloc_zz` on blocks is `itc_alloc_zz` on messages**, for every size. -/
theorem itcAllocBlock_image (e : Endian) (a : Allocator) (mem : Bool) (heap : Heap Bytes)
    (size : UInt64) (msgno : UInt32) :
    itcAllocBlock e a.maxMallocsize ⟨true, true, mem⟩ heap size msgno =
      (itcAllocZz e a mem size.toNat msgno).map fun
        | none => (none, heap)
        | some m => (some heap.next, heap.push (m.image e)) := by
  have hround : (if size.toNat < 4 then 4 else size.toNat) = max size.toNat 4 := by
    split <;> omega
  have hmalloc : mallocAlloc a mem ((max size.toNat 4 + ITC_HEADER_SIZE + 1) % 2 ^ 64) =
      if requested size > a.maxMallocsize then none
      else if mem then some (requested size) else none := rfl
  by_cases h : Granted a.maxMallocsize ⟨true, true, mem⟩ size
  · obtain rfl : mem = true := h.mem
    by_cases hlt : size.toNat + ITC_HEADER_SIZE + 1 < 2 ^ 64
    · have hle := h.fits
      rw [requested_eq hlt] at hle
      rw [itcAllocBlock_allocates h hlt, itcAllocZz_granted e a msgno hle]
      rfl
    · have hge := Nat.le_of_not_gt hlt
      rw [itcAllocBlock_wraps h hge]
      simp only [itcAllocZz, hround, hmalloc, if_neg (Nat.not_lt.mpr h.fits), if_true]
      split
      · rfl
      · rename_i hn
        have hsixteen : requested size - ITC_HEADER_SIZE = 0 := by
          have := requested_wraps hge
          omega
        have hstore : store32 e (List.replicate 0 0) 0 msgno = .error .outOfBounds := by
          apply if_neg
          simp
        rw [hsixteen, hstore]
        rfl
  · rw [itcAllocBlock_refused h]
    have hnone : mallocAlloc a mem ((max size.toNat 4 + ITC_HEADER_SIZE + 1) % 2 ^ 64) = none := by
      rw [hmalloc]
      by_cases hfits : requested size > a.maxMallocsize
      · exact if_pos hfits
      · rw [if_neg hfits]
        exact if_neg fun hmem => h ⟨rfl, rfl, hmem, Nat.le_of_not_gt hfits⟩
    simp only [itcAllocZz, hround, hnone]
    rfl

/-! ## User writes -/

/-- A message of `n` bytes in no rx queue, and a block that ends behind the byte past them. -/
structure ItcMessage.Intact (m : ItcMessage) (n : Nat) : Prop where
  flags : m.flags = 0
  size : m.size.toNat = n
  length : m.body.length = n + 1

theorem ItcMessage.fresh_intact (e : Endian) {n : Nat} (msgno : UInt32) (h4 : 4 ≤ n)
    (hlt : n < 2 ^ 32) : (ItcMessage.fresh e n msgno).Intact n := by
  have hwf := ItcMessage.fresh_wellFormed e msgno h4 hlt
  have hsize : (ItcMessage.fresh e n msgno).size.toNat = n := by
    simp only [ItcMessage.fresh, UInt32.toNat_ofNat']
    omega
  refine ⟨rfl, hsize, ?_⟩
  rw [hwf.length_eq, hsize]

section Writes

variable {e : Endian} {heap : Heap Bytes} {m : ItcMessage} {p n : Nat}

/-- **One user write** that does not reach beyond the `ENDPOINT` byte. -/
theorem UserWrite.run_intact {w : UserWrite} (hw : w.Within (n + 1)) (h : m.Intact n)
    (hp : heap.cells p = some (m.image e)) :
    ∃ (heap' : Heap Bytes) (m' : ItcMessage), w.run p heap = .ok heap' ∧
      heap'.cells p = some (m'.image e) ∧ m'.Intact n ∧
      (w.Within n → m'.body[n]? = m.body[n]?) := by
  have hlength := h.length
  have hfits : w.off + w.src.length ≤ m.body.length := by
    rw [hlength]
    exact hw
  let body := m.body.take w.off ++ (w.src ++ m.body.drop (w.off + w.src.length))
  have hstore : storeBytes (m.image e) (offMsgno + w.off) w.src =
      .ok ({ m with body }.image e) := by
    rw [storeBytes_payload, storeBytes, if_pos hfits]
    rfl
  obtain ⟨heap', hwrite, hcell, -, -⟩ := Heap.write_of_live (b := { m with body }.image e) hp
  refine ⟨heap', { m with body }, ?_, hcell, ⟨h.flags, h.size, ?_⟩, fun hin => ?_⟩
  · simp only [UserWrite.run, Heap.read_of_live hp, hstore, hwrite, bind, Except.bind]
  · show body.length = n + 1
    simp only [body, List.length_append, List.length_take, List.length_drop]
    omega
  · show body[n]? = m.body[n]?
    unfold UserWrite.Within at hin
    have htake : (m.body.take w.off).length = w.off := by
      rw [List.length_take]
      omega
    rw [List.getElem?_append_right (by omega), List.getElem?_append_right (by omega),
      List.getElem?_drop, htake]
    congr 1
    omega

/-- **Any sequence of them.** -/
theorem userWrites_intact {ws : List UserWrite} (hws : ∀ w ∈ ws, w.Within (n + 1))
    (h : m.Intact n) (hp : heap.cells p = some (m.image e)) :
    ∃ (heap' : Heap Bytes) (m' : ItcMessage), ws.foldlM (UserWrite.run p) heap = .ok heap' ∧
      heap'.cells p = some (m'.image e) ∧ m'.Intact n ∧
      ((∀ w ∈ ws, w.Within n) → m'.body[n]? = m.body[n]?) := by
  induction ws generalizing heap m with
  | nil => exact ⟨heap, m, rfl, hp, h, fun _ => rfl⟩
  | cons w ws ih =>
    obtain ⟨heap₁, m₁, hrun, hp₁, h₁, hsame₁⟩ := w.run_intact (hws w List.mem_cons_self) h hp
    obtain ⟨heap', m', hruns, hp', h', hsame⟩ :=
      ih (fun w' hw' => hws w' (List.mem_cons_of_mem w hw')) h₁ hp₁
    refine ⟨heap', m', ?_, hp', h', fun hin => ?_⟩
    · rw [List.foldlM_cons, hrun]
      exact hruns
    · have hrest := hsame fun w' hw' => hin w' (List.mem_cons_of_mem w hw')
      rw [hrest, hsame₁ (hin w List.mem_cons_self)]

end Writes

/-! ## What is promised -/

/-- The byte past the `n` bytes of a user. -/
def bytePast (heap : Heap Bytes) (p n : Nat) : Option UInt8 :=
  (heap.cells p).bind fun block => block[offMsgno + n]?

/-- `itc_free_zz` takes a message of `n` bytes, unless the byte past them is not `ENDPOINT` or the
message is in an rx queue. -/
structure FreeLaw (e : Endian) (heap : Heap Bytes) (p n : Nat) : Prop where
  accepts : bytePast heap p n = some ENDPOINT → ∀ sys : AllocSys, sys.initialised = true →
    sys.rc = true → ∃ heap' : Heap Bytes,
      itcFreeBlock e sys heap (some p) = .ok (true, none, heap') ∧ heap'.cells p = none
  changed : bytePast heap p n ≠ some ENDPOINT → ∀ sys : AllocSys,
    itcFreeBlock e sys heap (some p) = .ok (false, some p, heap)
  queued : ∃ heap' : Heap Bytes, markInRxqueue e heap p = .ok heap' ∧ ∀ sys : AllocSys,
    itcFreeBlock e sys heap' (some p) = .ok (false, some p, heap')

/-- What a user who asks for `size` is promised. -/
structure AllocGeometry (e : Endian) (maxMallocsize : Nat) (size : UInt64) (msgno : UInt32) :
    Prop where
  /-- `NULL`, or a block of the right size, which `itc_size_zz` gives; no store is outside it. -/
  block : ∀ (sys : AllocSys) (heap : Heap Bytes), ∃ (msg : Option Nat) (heap' : Heap Bytes),
    itcAllocBlock e maxMallocsize sys heap size msgno = .ok (msg, heap') ∧
      (msg = none ∧ heap' = heap ∨ ∃ p block, msg = some p ∧ heap'.cells p = some block ∧
        block.length = max size.toNat 4 + ITC_HEADER_SIZE + 1 ∧
        itcSizeBlock e heap' msg = .ok (max size.toNat 4))
  /-- After any writes that do not reach beyond the byte past the payload; those within the payload
  do not change that byte. -/
  writes : ∀ (sys : AllocSys) (heap heap' : Heap Bytes) (p : Nat),
    itcAllocBlock e maxMallocsize sys heap size msgno = .ok (some p, heap') →
    ∀ ws : List UserWrite, (∀ w ∈ ws, w.Within (max size.toNat 4 + 1)) →
      ∃ heap₁ : Heap Bytes, ws.foldlM (UserWrite.run p) heap' = .ok heap₁ ∧
        ((∀ w ∈ ws, w.Within (max size.toNat 4)) →
          bytePast heap₁ p (max size.toNat 4) = some ENDPOINT) ∧
        FreeLaw e heap₁ p (max size.toNat 4)

section Promise

variable {e : Endian} {heap : Heap Bytes} {m : ItcMessage} {p n : Nat}

theorem bytePast_image (hp : heap.cells p = some (m.image e)) :
    bytePast heap p n = m.body[n]? := by
  rw [bytePast, hp, Option.bind_some, ItcMessage.image, List.getElem?_append_right]
  · rw [ItcMessage.header_length]
    congr 1
    simp only [offMsgno, ITC_HEADER_SIZE]
    omega
  · rw [ItcMessage.header_length]
    simp only [offMsgno, ITC_HEADER_SIZE]
    omega

theorem itcFreeBlock_refuses (hp : heap.cells p = some (m.image e))
    (hno : itcFreeAllowed m = .ok false) (sys : AllocSys) :
    itcFreeBlock e sys heap (some p) = .ok (false, some p, heap) := by
  unfold itcFreeBlock
  split
  · rfl
  · simp only [Heap.read_of_live hp, freeAllowed_image, hno, bind, Except.bind]
    rfl

theorem itcFreeBlock_accepts (hp : heap.cells p = some (m.image e))
    (hyes : itcFreeAllowed m = .ok true) {sys : AllocSys} (hinit : sys.initialised = true)
    (hrc : sys.rc = true) :
    ∃ heap' : Heap Bytes, itcFreeBlock e sys heap (some p) = .ok (true, none, heap') ∧
      heap'.cells p = none := by
  obtain ⟨heap', hfree, hdead, -, -⟩ := Heap.free_of_live hp
  refine ⟨heap', ?_, hdead⟩
  simp only [itcFreeBlock, hinit, hrc, Heap.read_of_live hp, freeAllowed_image, hyes, hfree, bind,
    Except.bind]
  rfl

theorem ItcMessage.Intact.freeLaw (h : m.Intact n) (hp : heap.cells p = some (m.image e)) :
    FreeLaw e heap p n := by
  have hlt : n < m.body.length := by
    rw [h.length]
    exact Nat.lt_succ_self n
  have hdecides : itcFreeAllowed m = .ok (m.body[n] == ENDPOINT) := by
    simp only [itcFreeAllowed, h.flags, ItcMessage.endpoint, h.size, load8,
      List.getElem?_eq_getElem hlt, bind, Except.bind]
    rfl
  have hpast : bytePast heap p n = some m.body[n] := by
    rw [bytePast_image hp, List.getElem?_eq_getElem hlt]
  refine ⟨fun hend => ?_, fun hne sys => ?_, ?_⟩
  · rw [hpast, Option.some.injEq] at hend
    rw [hend] at hdecides
    intro sys hinit hrc
    exact itcFreeBlock_accepts hp hdecides hinit hrc
  · rw [hpast, ne_eq, Option.some.injEq] at hne
    rw [beq_false_of_ne hne] at hdecides
    exact itcFreeBlock_refuses hp hdecides sys
  · obtain ⟨heap', hwrite, hcell, -, -⟩ :=
      Heap.write_of_live (b := { m with flags := m.flags ||| ITC_FLAGS_MSG_INRXQUEUE }.image e) hp
    refine ⟨heap', ?_, itcFreeBlock_refuses hcell ?_⟩
    · simp only [markInRxqueue, Heap.read_of_live hp, load32_flags, store32_flags, hwrite, bind,
        Except.bind]
    · simp only [itcFreeAllowed, h.flags]
      rfl

end Promise

/-- **The exact condition**, for any limit of `ITC_MAX_MSGSIZE` at least: the request does not wrap,
and is refused where the `size` field of the message cannot hold it. -/
theorem AllocGeometry.iff_of_limit {maxMallocsize : Nat} (hge : ITC_MAX_MSGSIZE ≤ maxMallocsize)
    (e : Endian) (size : UInt64) (msgno : UInt32) :
    AllocGeometry e maxMallocsize size msgno ↔ size.toNat + ITC_HEADER_SIZE + 1 < 2 ^ 64 ∧
      (size.toNat < 2 ^ 32 ∨ maxMallocsize < size.toNat + ITC_HEADER_SIZE + 1) := by
  constructor
  · intro h
    obtain ⟨msg, heap', hcall, hmsg⟩ := h.block ⟨true, true, true⟩ Heap.empty
    have hlt : size.toNat + ITC_HEADER_SIZE + 1 < 2 ^ 64 := by
      by_contra hwraps
      have hshort := requested_wraps (Nat.le_of_not_gt hwraps)
      have hgranted : Granted maxMallocsize ⟨true, true, true⟩ size := by
        refine ⟨rfl, rfl, rfl, ?_⟩
        simp only [ITC_MAX_MSGSIZE, ITC_HEADER_SIZE] at hge hshort
        omega
      rw [itcAllocBlock_wraps hgranted (Nat.le_of_not_gt hwraps)] at hcall
      cases hcall
    refine ⟨hlt, ?_⟩
    by_contra hlarge
    rw [not_or, Nat.not_lt, Nat.not_lt] at hlarge
    obtain ⟨hlarge, hfits⟩ := hlarge
    have hsize : max size.toNat 4 = size.toNat := by omega
    have hgranted : Granted maxMallocsize ⟨true, true, true⟩ size := by
      refine ⟨rfl, rfl, rfl, ?_⟩
      rwa [requested_eq hlt, hsize]
    rw [itcAllocBlock_allocates hgranted hlt] at hcall
    cases hcall
    rcases hmsg with ⟨hnone, -⟩ | ⟨p, block, -, -, -, hread⟩
    · cases hnone
    · -- the `size` field has the low half of the size only
      simp only [itcSizeBlock, Heap.read_of_live (Heap.push_next _ _), load32_size, bind,
        Except.bind] at hread
      have hlow := Except.ok.inj hread
      simp only [ItcMessage.fresh, UInt32.toNat_ofNat', hsize] at hlow
      omega
  · rintro ⟨hlt, hsmall⟩
    have hfresh : ∀ {sys : AllocSys}, Granted maxMallocsize sys size →
        (ItcMessage.fresh e (max size.toNat 4) msgno).Intact (max size.toNat 4) := by
      intro sys hgranted
      have hfits := hgranted.fits
      rw [requested_eq hlt] at hfits
      apply ItcMessage.fresh_intact e msgno (Nat.le_max_right _ _)
      simp only [ITC_HEADER_SIZE] at hfits hsmall
      omega
    refine ⟨fun sys heap => ?_, fun sys heap heap' p hcall ws hws => ?_⟩
    · by_cases hgranted : Granted maxMallocsize sys size
      · have hintact := hfresh hgranted
        refine ⟨_, _, itcAllocBlock_allocates hgranted hlt, .inr ⟨_, _, rfl, Heap.push_next _ _, ?_,
          ?_⟩⟩
        · rw [ItcMessage.image_length, hintact.length]
          omega
        · simp only [itcSizeBlock, Heap.read_of_live (Heap.push_next _ _), load32_size, bind,
            Except.bind]
          exact congrArg Except.ok hintact.size
      · exact ⟨none, heap, itcAllocBlock_refused hgranted, .inl ⟨rfl, rfl⟩⟩
    · by_cases hgranted : Granted maxMallocsize sys size
      · have hintact := hfresh hgranted
        rw [itcAllocBlock_allocates hgranted hlt] at hcall
        cases hcall
        obtain ⟨heap₁, m₁, hruns, hp₁, hintact₁, hsame⟩ :=
          userWrites_intact hws hintact (Heap.push_next _ _)
        refine ⟨heap₁, hruns, fun hin => ?_, hintact₁.freeLaw hp₁⟩
        have hend := (ItcMessage.fresh_wellFormed e msgno (Nat.le_max_right size.toNat 4)
          (by rw [← hintact.size]; exact UInt32.toNat_lt _)).endpoint_eq
        rw [hintact.size] at hend
        rw [bytePast_image hp₁, hsame hin, hend]
      · rw [itcAllocBlock_refused hgranted] at hcall
        cases hcall

/-- **Allocation geometry holds** for the sizes whose request does not wrap, with any limits of
`int`s; a transport that names a larger limit must not let sizes through that the `size` field of a
message cannot hold. -/
theorem alloc_geometry_iff (e : Endian) (size : UInt64) (msgno : UInt32) :
    (∀ a : Allocator, AllocGeometry e a.maxMallocsize size msgno ↔
      size.toNat + ITC_HEADER_SIZE + 1 < 2 ^ 64) ∧
    (∀ msgsizes : List Int, AllocGeometry e (limitAfterInit msgsizes) size msgno ↔
      size.toNat + ITC_HEADER_SIZE + 1 < 2 ^ 64 ∧
        (size.toNat < 2 ^ 32 ∨ limitAfterInit msgsizes < size.toNat + ITC_HEADER_SIZE + 1)) := by
  refine ⟨fun a => ?_, fun msgsizes =>
    AllocGeometry.iff_of_limit (limitAfterInit_ge msgsizes) e size msgno⟩
  have hlimit := a.lt
  rw [AllocGeometry.iff_of_limit a.ge]
  constructor
  · exact fun h => h.1
  · intro hlt
    refine ⟨hlt, ?_⟩
    by_cases hsmall : size.toNat < 2 ^ 32
    · exact .inl hsmall
    · right
      omega

/-- **A request for `SIZE_MAX` bytes is granted 16**: the first store is outside the block. -/
theorem huge_request_overruns :
    requested 0xFFFFFFFFFFFFFFFF = 16 ∧
      itcAllocBlock .little Allocator.least.maxMallocsize ⟨true, true, true⟩ Heap.empty
        0xFFFFFFFFFFFFFFFF 1 = .error .outOfBounds ∧
      ¬ AllocGeometry .little Allocator.least.maxMallocsize 0xFFFFFFFFFFFFFFFF 1 := by
  have hoverrun : itcAllocBlock .little Allocator.least.maxMallocsize ⟨true, true, true⟩ Heap.empty
      0xFFFFFFFFFFFFFFFF 1 = .error .outOfBounds :=
    itcAllocBlock_wraps ⟨rfl, rfl, rfl, by decide⟩ (by decide)
  refine ⟨by decide, hoverrun, fun h => ?_⟩
  obtain ⟨msg, heap', hcall, -⟩ := h.block ⟨true, true, true⟩ Heap.empty
  rw [hoverrun] at hcall
  cases hcall

end ItcFramework
