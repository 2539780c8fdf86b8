import ItcFramework.Lib.Bytes
import ItcFramework.Lib.Heap

/-!
# The itc message and its allocator

Embedding of `struct itc_message` (`itc_impl.h`) and of `itc_alloc_zz` and `itc_free_zz` over the
`malloc` scheme (`itc.c`, `itc_malloc.c`).

* `ItcMessage` — the four admin words and the block behind them, from `msgno` to its last
  byte; the `ENDPOINT` byte is part of the block.
* `ItcMessage.image` / `ofImage` — the bytes of a message in a host's memory, inverse to each
  other (`ofImage_image`).
* `WellFormed` — what every message a user can hold satisfies: the block is `size + 1` bytes
  and ends with `ENDPOINT`.
* `itcAllocZz_ok` — an admissible size is allocated, and the result is well formed.
-/

set_option autoImplicit false

namespace ItcFramework

open ByteImage HeapModel

/-! ## Constants of `itc.h` and `itc_impl.h` -/

abbrev MboxId := UInt32

def ITC_HEADER_SIZE : Nat := 16
def ENDPOINT : UInt8 := 0xAA
def ITC_MAX_MSGSIZE : Nat := 10 * 1024 * 1024
def ITC_NO_MBOX_ID : MboxId := 0xFFFFFFFF
def ITC_MY_MBOX_ID : MboxId := 0xFFF00000
def ITC_COORD_MASK : MboxId := 0xFFF00000
def ITC_COORD_SHIFT : UInt32 := 20
def ITC_MAX_NAME_LENGTH : Nat := 255
def ITC_FLAGS_MSG_INRXQUEUE : UInt32 := 0x0001
def ITC_MSG_BASE : UInt32 := 0x90000000
def ITC_PROTO_MSG_BASE : UInt32 := ITC_MSG_BASE + 0x500
def MAX_SUPPORTED_PROCESSES : Nat := 255

/-- The process of a mailbox id. -/
def procOf (mboxId : MboxId) : Nat := ((mboxId &&& ITC_COORD_MASK) >>> ITC_COORD_SHIFT).toNat

/-! ## Result codes (`result_code_e`) -/

def ITC_OK : UInt32 := 0
def ITC_ALREADY_USED : UInt32 := 1
def ITC_ALREADY_INIT : UInt32 := 2
def ITC_NOT_INIT_YET : UInt32 := 4
def ITC_QUEUE_NULL : UInt32 := 8
def ITC_QUEUE_EMPTY : UInt32 := 16
def ITC_NOT_THIS_PROC : UInt32 := 32
def ITC_OUT_OF_RANGE : UInt32 := 64
def ITC_FREE_NULL_PTR : UInt32 := 512
def ITC_INVALID_ARGUMENTS : UInt32 := 1024
def ITC_SYSCALL_ERROR : UInt32 := 2048

/-! ## Messages -/

structure ItcMessage where
  flags : UInt32
  receiver : MboxId
  sender : MboxId
  size : UInt32
  /-- From `msgno` to the end of the allocated block. -/
  body : Bytes
  deriving DecidableEq, Repr

namespace ItcMessage

/-- The admin words as they lie in memory before `msgno`. -/
def header (e : Endian) (m : ItcMessage) : Bytes :=
  word e m.flags ++ (word e m.receiver ++ (word e m.sender ++ word e m.size))

/-- The whole block. -/
def image (e : Endian) (m : ItcMessage) : Bytes := m.header e ++ m.body

/-- Reading a block as a `struct itc_message *`. -/
def ofImage (e : Endian) (b : Bytes) : Except MemFault ItcMessage := do
  let flags ← load32 e b 0
  let receiver ← load32 e b 4
  let sender ← load32 e b 8
  let size ← load32 e b 12
  return { flags, receiver, sender, size, body := b.drop ITC_HEADER_SIZE }

def msgno (e : Endian) (m : ItcMessage) : Except MemFault UInt32 := load32 e m.body 0

/-- The bytes the user owns, `msgno` included. -/
def userBytes (m : ItcMessage) : Bytes := m.body.take m.size.toNat

/-- `*endpoint`. -/
def endpoint (m : ItcMessage) : Except MemFault UInt8 := load8 m.body m.size.toNat

@[simp] theorem header_length (e : Endian) (m : ItcMessage) :
    (m.header e).length = ITC_HEADER_SIZE := by
  simp [header, ITC_HEADER_SIZE]

@[simp] theorem image_length (e : Endian) (m : ItcMessage) :
    (m.image e).length = ITC_HEADER_SIZE + m.body.length := by
  simp [image]

/-- A block that starts with the admin words of `m` is read as `m` with the bytes behind. -/
theorem ofImage_header_append (e : Endian) (m : ItcMessage) (b : Bytes) :
    ofImage e (m.header e ++ b) = .ok { m with body := b } := by
  have h0 : load32 e (m.header e ++ b) 0 = .ok m.flags :=
    load32_of_eq (a := []) (c := word e m.receiver ++ (word e m.sender ++ (word e m.size ++ b)))
      (by simp [header]) rfl
  have h4 : load32 e (m.header e ++ b) 4 = .ok m.receiver :=
    load32_of_eq (a := word e m.flags)
      (c := word e m.sender ++ (word e m.size ++ b)) (by simp [header]) (by simp)
  have h8 : load32 e (m.header e ++ b) 8 = .ok m.sender :=
    load32_of_eq (a := word e m.flags ++ word e m.receiver)
      (c := word e m.size ++ b) (by simp [header]) (by simp)
  have h12 : load32 e (m.header e ++ b) 12 = .ok m.size :=
    load32_of_eq (a := word e m.flags ++ (word e m.receiver ++ word e m.sender))
      (c := b) (by simp [header]) (by simp)
  have hd : (m.header e ++ b).drop ITC_HEADER_SIZE = b := by
    rw [← header_length e m, List.drop_left]
  rw [ofImage, h0, h4, h8, h12, hd]
  rfl

/-- A block that is long enough for the admin words is read. -/
theorem ofImage_ok {e : Endian} {b : Bytes} (h : ITC_HEADER_SIZE ≤ b.length) :
    ofImage e b = .ok ⟨ofWord e (b.take 4), ofWord e ((b.drop 4).take 4),
      ofWord e ((b.drop 8).take 4), ofWord e ((b.drop 12).take 4), b.drop ITC_HEADER_SIZE⟩ := by
  simp only [ITC_HEADER_SIZE] at h
  have hload : ∀ off, off ≤ 12 → load32 e b off = .ok (ofWord e ((b.drop off).take 4)) :=
    fun off hoff => if_pos (by omega)
  simp only [ofImage, hload 0 (by omega), hload 4 (by omega), hload 8 (by omega),
    hload 12 (by omega)]
  rfl

/-- **A message is read back from its image.** -/
@[simp] theorem ofImage_image (e : Endian) (m : ItcMessage) : ofImage e (m.image e) = .ok m :=
  ofImage_header_append e m m.body

/-- The shape of every message a user can hold. -/
structure WellFormed (m : ItcMessage) : Prop where
  size_ge : 4 ≤ m.size.toNat
  length_eq : m.body.length = m.size.toNat + 1
  endpoint_eq : m.body[m.size.toNat]? = some ENDPOINT

theorem WellFormed.body_eq {m : ItcMessage} (h : m.WellFormed) :
    m.body = m.userBytes ++ [ENDPOINT] := by
  have hlt : m.size.toNat < m.body.length := by have := h.length_eq; omega
  have hlast : m.body.drop m.size.toNat = [ENDPOINT] := by
    have hget : m.body[m.size.toNat] = ENDPOINT := by
      have := h.endpoint_eq
      rwa [List.getElem?_eq_getElem hlt, Option.some.injEq] at this
    rw [List.drop_eq_getElem_cons hlt, hget, List.drop_of_length_le (by have := h.length_eq; omega)]
  rw [userBytes, ← hlast, List.take_append_drop]

theorem WellFormed.userBytes_length {m : ItcMessage} (h : m.WellFormed) :
    m.userBytes.length = m.size.toNat := by
  have := h.length_eq
  simp only [userBytes, List.length_take]
  omega

theorem WellFormed.of_body {m : ItcMessage} {u : Bytes} (h4 : 4 ≤ m.size.toNat)
    (hu : u.length = m.size.toNat) (hb : m.body = u ++ [ENDPOINT]) : m.WellFormed where
  size_ge := h4
  length_eq := by simp [hb, hu]
  endpoint_eq := by simp [hb, ← hu]

theorem WellFormed.endpoint_ok {m : ItcMessage} (h : m.WellFormed) :
    m.endpoint = .ok ENDPOINT :=
  load8_of_eq (a := m.userBytes) (c := []) h.body_eq h.userBytes_length.symm

end ItcMessage

/-- A message in a user's hands: well formed, and in no rx queue. -/
structure UserMessage where
  msg : ItcMessage
  wellFormed : msg.WellFormed
  flags_eq : msg.flags = 0

/-! ## Allocation -/

/-- `malloc_init` has run: `max_mallocsize` is the maximum of `ITC_MAX_MSGSIZE` and of the
transports' limits, which are C `int`s. -/
structure Allocator where
  maxMallocsize : Nat
  ge : ITC_MAX_MSGSIZE ≤ maxMallocsize
  lt : maxMallocsize < 2 ^ 31
  deriving Repr

/-- The least limit `itc_init_zz` can set. -/
def Allocator.least : Allocator := ⟨ITC_MAX_MSGSIZE, by decide, by decide⟩

/-- `malloc_alloc`: the length of the zeroed block, `none` for `NULL`; `mem` is what `malloc`
answers. -/
def mallocAlloc (a : Allocator) (mem : Bool) (size : Nat) : Option Nat :=
  if size > a.maxMallocsize then none else if mem then some size else none

/-- `itc_alloc_zz`; `size_t` arithmetic wraps, and a store outside the block is a fault. -/
def itcAllocZz (e : Endian) (a : Allocator) (mem : Bool) (size : Nat) (msgno : UInt32) :
    Except MemFault (Option ItcMessage) :=
  let size := if size < 4 then 4 else size
  match mallocAlloc a mem ((size + ITC_HEADER_SIZE + 1) % 2 ^ 64) with
  | none => .ok none
  | some n =>
      if n < ITC_HEADER_SIZE then .error .outOfBounds else do
      let body := List.replicate (n - ITC_HEADER_SIZE) 0
      let body ← store32 e body 0 msgno
      let body ← store8 body size ENDPOINT
      return some
        { flags := 0
          receiver := ITC_NO_MBOX_ID
          sender := ITC_NO_MBOX_ID
          size := UInt32.ofNat size
          body }

/-- What an allocation of an admissible size gives. -/
def ItcMessage.fresh (e : Endian) (size : Nat) (msgno : UInt32) : ItcMessage where
  flags := 0
  receiver := ITC_NO_MBOX_ID
  sender := ITC_NO_MBOX_ID
  size := UInt32.ofNat size
  body := (word e msgno ++ List.replicate (size - 4) 0) ++ [ENDPOINT]

theorem ItcMessage.fresh_wellFormed (e : Endian) {size : Nat} (msgno : UInt32) (h4 : 4 ≤ size)
    (hlt : size < 2 ^ 32) : (ItcMessage.fresh e size msgno).WellFormed := by
  have hs : (ItcMessage.fresh e size msgno).size.toNat = size := by
    simp only [fresh, UInt32.toNat_ofNat']
    omega
  refine .of_body (u := word e msgno ++ List.replicate (size - 4) 0) (by omega) ?_ rfl
  rw [hs, List.length_append, word_length, List.length_replicate]
  omega

/-- A zeroed message addressed to `toMbox`. -/
def UserMessage.fresh (e : Endian) (size : Nat) (msgno : UInt32) (toMbox : MboxId)
    (h4 : 4 ≤ size) (hlt : size < 2 ^ 32) : UserMessage where
  msg := { ItcMessage.fresh e size msgno with receiver := toMbox }
  wellFormed :=
    let h := ItcMessage.fresh_wellFormed e msgno h4 hlt
    ⟨h.size_ge, h.length_eq, h.endpoint_eq⟩
  flags_eq := rfl

/-- **An admissible size is allocated with its `msgno` and `ENDPOINT` in place.** -/
theorem itcAllocZz_ok (e : Endian) (a : Allocator) {size : Nat} (msgno : UInt32)
    (h4 : 4 ≤ size) (hle : size + ITC_HEADER_SIZE + 1 ≤ a.maxMallocsize) :
    itcAllocZz e a true size msgno = .ok (some (ItcMessage.fresh e size msgno)) := by
  have hlt := a.lt
  have hmod : (size + ITC_HEADER_SIZE + 1) % 2 ^ 64 = size + ITC_HEADER_SIZE + 1 :=
    Nat.mod_eq_of_lt (by omega)
  have hbody : size + ITC_HEADER_SIZE + 1 - ITC_HEADER_SIZE = size + 1 := by omega
  have hrep : List.replicate (size + 1) (0 : UInt8) =
      [] ++ (List.replicate 4 0 ++ (List.replicate (size - 4) 0 ++ [0])) := by
    rw [← List.replicate_one, ← List.replicate_add, ← List.replicate_add, List.nil_append]
    congr 1
    omega
  have hstore : store32 e (List.replicate (size + 1) 0) 0 msgno =
      .ok (word e msgno ++ (List.replicate (size - 4) 0 ++ [0])) :=
    store32_of_eq hrep rfl (by simp)
  have hend : store8 (word e msgno ++ (List.replicate (size - 4) 0 ++ [0])) size ENDPOINT =
      .ok (word e msgno ++ List.replicate (size - 4) 0 ++ [ENDPOINT]) :=
    store8_of_eq (by rw [List.append_assoc]) (by simp; omega)
  simp only [itcAllocZz, if_neg (show ¬ size < 4 by omega), hmod, mallocAlloc,
    if_neg (show ¬ size + ITC_HEADER_SIZE + 1 > a.maxMallocsize by omega), if_true,
    if_neg (show ¬ size + ITC_HEADER_SIZE + 1 < ITC_HEADER_SIZE by omega), hbody, hstore]
  simp only [bind, Except.bind, hend]
  rfl

/-- Sizes below that of `msgno` are rounded up to it. -/
theorem itcAllocZz_granted (e : Endian) (a : Allocator) {size : Nat} (msgno : UInt32)
    (hle : max size 4 + ITC_HEADER_SIZE + 1 ≤ a.maxMallocsize) :
    itcAllocZz e a true size msgno = .ok (some (ItcMessage.fresh e (max size 4) msgno)) := by
  rw [← itcAllocZz_ok e a msgno (Nat.le_max_right size 4) hle]
  by_cases h4 : size < 4
  · rw [Nat.max_eq_right (by omega)]
    simp only [itcAllocZz, if_pos h4, Nat.lt_irrefl, if_false]
  · rw [Nat.max_eq_left (by omega)]

theorem itcAllocZz_refused (e : Endian) (a : Allocator) {mem : Bool} {size : Nat} (msgno : UInt32)
    (hlt : size < 2 ^ 32)
    (hno : ¬ (max size 4 + ITC_HEADER_SIZE + 1 ≤ a.maxMallocsize ∧ mem = true)) :
    itcAllocZz e a mem size msgno = .ok none := by
  have hround : (if size < 4 then 4 else size) = max size 4 := by
    split <;> omega
  have hmod : (max size 4 + ITC_HEADER_SIZE + 1) % 2 ^ 64 = max size 4 + ITC_HEADER_SIZE + 1 := by
    refine Nat.mod_eq_of_lt ?_
    simp only [ITC_HEADER_SIZE]
    omega
  have hnone : mallocAlloc a mem (max size 4 + ITC_HEADER_SIZE + 1) = none := by
    unfold mallocAlloc
    split
    · rfl
    · next hle =>
      rw [if_neg fun hmem => hno ⟨by omega, hmem⟩]
  simp only [itcAllocZz, hround, hmod, hnone]

/-- What an allocation that has succeeded gives. -/
theorem itcAllocZz_fits {e : Endian} {a : Allocator} {mem : Bool} {size : Nat} {msgno : UInt32}
    {m : ItcMessage} (h : itcAllocZz e a mem size msgno = .ok (some m)) :
    (max size 4 + ITC_HEADER_SIZE + 1 ≤ a.maxMallocsize ∧ mem = true) ∧
      m = ItcMessage.fresh e (max size 4) msgno := by
  have hround : (if size < 4 then 4 else size) = max size 4 := by
    split <;> omega
  have hgranted : max size 4 + ITC_HEADER_SIZE + 1 ≤ a.maxMallocsize ∧ mem = true := by
    have hcall := h
    simp only [itcAllocZz, hround, mallocAlloc] at hcall
    split at hcall
    · cases hcall
    · rename_i n hn
      split at hn
      · cases hn
      · rename_i hfits
        split at hn
        · rename_i hmem
          cases hn
          split at hcall
          · cases hcall
          · obtain ⟨body, hbody, hcall⟩ := bind_eq_ok hcall
            obtain ⟨body', hend, hcall⟩ := bind_eq_ok hcall
            have hlt := store8_fits hend
            rw [(storeBytes_fits hbody).2, List.length_replicate] at hlt
            -- the `ENDPOINT` fits, so the size has not wrapped
            have hmod := Nat.mod_le (max size 4 + ITC_HEADER_SIZE + 1) (2 ^ 64)
            exact ⟨by omega, hmem⟩
        · cases hn
  obtain ⟨hle, rfl⟩ := hgranted
  rw [itcAllocZz_granted e a msgno hle] at h
  exact ⟨⟨hle, rfl⟩, (Option.some.inj (Except.ok.inj h)).symm⟩

theorem ItcMessage.fresh_image_length (e : Endian) {size : Nat} (msgno : UInt32) (h4 : 4 ≤ size) :
    ((ItcMessage.fresh e size msgno).image e).length = ITC_HEADER_SIZE + size + 1 := by
  simp only [ItcMessage.image_length, ItcMessage.fresh, List.length_append, word_length,
    List.length_replicate, List.length_singleton]
  omega

/-! ## Freeing -/

/-- What `itc_free_zz` decides before it frees. -/
def itcFreeAllowed (m : ItcMessage) : Except MemFault Bool := do
  if m.flags &&& ITC_FLAGS_MSG_INRXQUEUE ≠ 0 then return false
  let x ← m.endpoint
  return x == ENDPOINT

/-- `itc_free_zz` on a pointer that is not `NULL`; it sets `rc` to `ITC_OK` when it frees. -/
def itcFreeZz (heap : Heap ItcMessage) (msg : Nat) : Except MemFault (Bool × Heap ItcMessage) := do
  let m ← heap.read msg
  if ← itcFreeAllowed m then
    let heap ← heap.free msg
    return (true, heap)
  else return (false, heap)

theorem itcFreeAllowed_user (m : UserMessage) : itcFreeAllowed m.msg = .ok true := by
  simp only [itcFreeAllowed, m.flags_eq, m.wellFormed.endpoint_ok, bind, Except.bind]
  rfl

/-- A live message in a user's hands is freed, and nothing else changes. -/
theorem itcFreeZz_user {heap : Heap ItcMessage} {msg : Nat} {m : UserMessage}
    (h : heap.cells msg = some m.msg) :
    ∃ heap', itcFreeZz heap msg = .ok (true, heap') ∧ heap'.cells msg = none ∧
      (∀ p, p ≠ msg → heap'.cells p = heap.cells p) ∧ heap'.next = heap.next := by
  obtain ⟨heap', hfree, hdead, hframe, hnext⟩ := Heap.free_of_live h
  refine ⟨heap', ?_, hdead, hframe, hnext⟩
  simp only [itcFreeZz, Heap.read_of_live h, itcFreeAllowed_user, hfree, bind, Except.bind]
  rfl

end ItcFramework
