import ItcFramework.Transport.HandOver
import ItcFramework.Transport.Sysvmq

/-!
# The System V shared-memory transport

Embedding of `itc_sysvshm.c`: the slot pools of a process' shared segment, the critical section
of `sysvshm_send` and the one of `sysvshm_rx_thread`.

A slot is named by its pool and its index, as the `head`, `tail` and `next_slot` links name it,
and the segment keeps a header and a data area for each name; `slotAddr_disjoint` says that the
names stand for disjoint parts of the segment. `slot_unlimit` lies in the metadata and has no
data area: its messages go through a second segment, which is created for every message that
needs it.

* `sysvshmEnqueue` — between taking and giving back `m_sem_mutex`; a section that finds no slot
  leaves without giving it back.
* `sysvshmDequeue` — the receiver's section, with the message that `handle_received_message`
  passes to `itc_send`; where that call does not return, the section does not end.
-/

set_option autoImplicit false

namespace ItcFramework

open ByteImage

/-! ## Pools -/

/-- `enum sysvshm_pool_type_e`. -/
inductive SysvshmPool where
  | pool96
  | pool480
  | pool992
  | pool2016
  | pool4064
  | pool16352
  | poolUnlimit
  deriving DecidableEq, Repr

def SYSVSHM_PAGE_SIZE : Nat := 4096
def SYSVSHM_SLOT_HEADER_SIZE : Nat := 32
def MAX_SYSVSHM_SLOTS : Nat := 70
def SYSVSHM_STATIC_ALLOC_PAGES : Nat := 25

/-- `sizeof(struct sysvshm_metadata_t)`. -/
def sizeofSysvshmMetadata : Nat := 32

namespace SysvshmPool

/-- In the order of their numbers. -/
def all : List SysvshmPool :=
  [pool96, pool480, pool992, pool2016, pool4064, pool16352, poolUnlimit]

def numSlots : SysvshmPool → Nat
  | pool96 => SYSVSHM_PAGE_SIZE / 128 - (sizeofSysvshmMetadata / 128 + 1)
  | pool480 => 16
  | pool992 => 8
  | pool2016 => 8
  | pool4064 => 4
  | pool16352 => 3
  | poolUnlimit => 1

def slotSizes : SysvshmPool → Int
  | pool96 => 128
  | pool480 => 512
  | pool992 => 1024
  | pool2016 => 2048
  | pool4064 => 4096
  | pool16352 => 16384
  | poolUnlimit => -1

def poolOffset : SysvshmPool → Nat
  | pool96 => (sizeofSysvshmMetadata / 128 + 1) * 128
  | pool480 => SYSVSHM_PAGE_SIZE
  | pool992 => 3 * SYSVSHM_PAGE_SIZE
  | pool2016 => 5 * SYSVSHM_PAGE_SIZE
  | pool4064 => 9 * SYSVSHM_PAGE_SIZE
  | pool16352 => 13 * SYSVSHM_PAGE_SIZE
  | poolUnlimit => 20

/-- Where the slots of the pool end. -/
def poolEnd (p : SysvshmPool) : Int := p.poolOffset + p.slotSizes * p.numSlots

variable {p p' : SysvshmPool}

theorem numSlots_lt (p : SysvshmPool) : p.numSlots < 32 := by
  cases p <;> decide

theorem slotSizes_pos (hp : p ≠ .poolUnlimit) : 0 < p.slotSizes := by
  revert hp
  cases p <;> decide

/-- The static pools lie between the metadata and the end of the segment. -/
theorem static_bounds (hp : p ≠ .poolUnlimit) :
    sizeofSysvshmMetadata ≤ p.poolOffset ∧
      p.poolEnd ≤ SYSVSHM_STATIC_ALLOC_PAGES * SYSVSHM_PAGE_SIZE := by
  revert hp
  cases p <;> decide

/-- One static pool ends before the other starts. -/
theorem static_apart (hp : p ≠ .poolUnlimit) (hp' : p' ≠ .poolUnlimit) (hne : p ≠ p') :
    p.poolEnd ≤ p'.poolOffset ∨ p'.poolEnd ≤ p.poolOffset := by
  revert hp hp' hne
  cases p <;> cases p' <;> decide

end SysvshmPool

/-- `struct sysvshm_pool_slot`; the pair `(-1, -1)` is `none`. -/
structure SysvshmPoolSlot where
  whichpool : SysvshmPool
  whichslot : Nat
  deriving DecidableEq, Repr

namespace SysvshmPoolSlot

/-- `slot_unlimit`. -/
def unlimit : SysvshmPoolSlot := ⟨.poolUnlimit, 0⟩

/-- The byte of the segment at which the slot starts. -/
def slotAddr (r : SysvshmPoolSlot) : Int :=
  r.whichpool.poolOffset + r.whichpool.slotSizes * r.whichslot

/-- What `memcpy` may write behind the header of the slot. -/
def dataSize (r : SysvshmPoolSlot) : Nat := (r.whichpool.slotSizes - SYSVSHM_SLOT_HEADER_SIZE).toNat

/-- In a pool the slots follow one another. -/
theorem slotAddr_next {p : SysvshmPool} (hp : p ≠ .poolUnlimit) {i i' : Nat} (hlt : i < i') :
    slotAddr ⟨p, i⟩ + p.slotSizes ≤ slotAddr ⟨p, i'⟩ := by
  have hsize := SysvshmPool.slotSizes_pos hp
  have hle : p.slotSizes * (i + 1 : Nat) ≤ p.slotSizes * i' :=
    Int.mul_le_mul_of_nonneg_left (Int.ofNat_le.mpr hlt) (Int.le_of_lt hsize)
  rw [Int.natCast_add, Int.mul_add] at hle
  show (p.poolOffset : Int) + p.slotSizes * i + p.slotSizes ≤ p.poolOffset + p.slotSizes * i'
  omega

/-- A slot lies in its pool. -/
theorem slotAddr_bounds {r : SysvshmPoolSlot} (hr : r.whichslot < r.whichpool.numSlots)
    (hp : r.whichpool ≠ .poolUnlimit) :
    r.whichpool.poolOffset ≤ r.slotAddr ∧ r.slotAddr + r.whichpool.slotSizes ≤ r.whichpool.poolEnd := by
  have hsize := SysvshmPool.slotSizes_pos hp
  have hnonneg : 0 ≤ r.whichpool.slotSizes * r.whichslot :=
    Int.mul_nonneg (Int.le_of_lt hsize) (Int.natCast_nonneg _)
  refine ⟨?_, slotAddr_next hp hr⟩
  unfold slotAddr
  omega

/-- **The slots of the static pools do not overlap**, and lie between the metadata and the end
of the segment. -/
theorem slotAddr_disjoint {r r' : SysvshmPoolSlot} (hr : r.whichslot < r.whichpool.numSlots)
    (hr' : r'.whichslot < r'.whichpool.numSlots) (hp : r.whichpool ≠ .poolUnlimit)
    (hp' : r'.whichpool ≠ .poolUnlimit) (hne : r ≠ r') :
    (sizeofSysvshmMetadata : Int) ≤ r.slotAddr ∧
      r.slotAddr + r.whichpool.slotSizes ≤ SYSVSHM_STATIC_ALLOC_PAGES * SYSVSHM_PAGE_SIZE ∧
      (r.slotAddr + r.whichpool.slotSizes ≤ r'.slotAddr ∨
        r'.slotAddr + r'.whichpool.slotSizes ≤ r.slotAddr) := by
  obtain ⟨hlow, hhigh⟩ := slotAddr_bounds hr hp
  obtain ⟨hmeta, hend⟩ := SysvshmPool.static_bounds hp
  refine ⟨by omega, by omega, ?_⟩
  obtain ⟨p, i⟩ := r
  obtain ⟨p', i'⟩ := r'
  by_cases hpp : p = p'
  · subst hpp
    have hii : i ≠ i' := fun h => hne (h ▸ rfl)
    rcases Nat.lt_or_gt_of_ne hii with hlt | hgt
    · exact .inl (slotAddr_next hp hlt)
    · exact .inr (slotAddr_next hp hgt)
  · obtain ⟨hlow', hhigh'⟩ := slotAddr_bounds hr' hp'
    rcases SysvshmPool.static_apart hp hp' hpp with hbefore | hbehind
    · exact .inl (Int.le_trans hhigh (Int.le_trans hbefore hlow'))
    · exact .inr (Int.le_trans hhigh' (Int.le_trans hbehind hlow))

end SysvshmPoolSlot

/-! ## The shared segment -/

/-- `struct sysvshm_slot_info_t`. -/
structure SysvshmSlotInfo where
  nextSlot : Option SysvshmPoolSlot
  poolType : SysvshmPool
  isInUse : Bool
  deriving DecidableEq, Repr

/-- The segment of a process, and the segment that holds the message of `slot_unlimit` while
that one exists. -/
structure SysvshmSegment where
  numPages : UInt16
  numUnlimitPages : UInt16
  head : Option SysvshmPoolSlot
  tail : Option SysvshmPoolSlot
  slots : SysvshmPoolSlot → SysvshmSlotInfo
  data : SysvshmPoolSlot → Bytes
  unlimit : Option Bytes

namespace SysvshmSegment

def next (shm : SysvshmSegment) (r : SysvshmPoolSlot) : Option SysvshmPoolSlot :=
  (shm.slots r).nextSlot

/-- `init_sysvshm_mempool` on the zeroed segment. No loop reaches `slot_unlimit`, whose link
keeps the zeros of the fresh segment. -/
def init : SysvshmSegment where
  numPages := UInt16.ofNat SYSVSHM_STATIC_ALLOC_PAGES
  numUnlimitPages := 0
  head := none
  tail := none
  slots := fun r =>
    if r.whichpool = .poolUnlimit then ⟨some ⟨.pool96, 0⟩, .pool96, false⟩
    else ⟨none, r.whichpool, false⟩
  data := fun r => List.replicate r.dataSize 0
  unlimit := none

def setSlot (shm : SysvshmSegment) (r : SysvshmPoolSlot) (info : SysvshmSlotInfo) :
    SysvshmSegment :=
  { shm with slots := fun r' => if r' = r then info else shm.slots r' }

def setData (shm : SysvshmSegment) (r : SysvshmPoolSlot) (block : Bytes) : SysvshmSegment :=
  { shm with data := fun r' => if r' = r then block else shm.data r' }

end SysvshmSegment

/-! ## `sysvshm_send` -/

/-- The choice of the pool, with the number of pages of the dynamic segment (a `uint16_t`). -/
def choosePool (size : UInt32) : SysvshmPool × UInt16 :=
  match SysvshmPool.all.find? fun p => decide (0 < p.slotSizes ∧
      ((size + UInt32.ofNat ITC_HEADER_SIZE + 1 + 32).toNat : Int) ≤ p.slotSizes) with
  | some whichpool => (whichpool, 0)
  | none =>
      let pages := (size + UInt32.ofNat ITC_HEADER_SIZE + 1).toNat / SYSVSHM_PAGE_SIZE + 1
      (.poolUnlimit, UInt16.ofNat pages)

/-- Whether the message goes through a dynamic segment. A message too large for the pools whose
pages are not more than those of a slot of `POOL_16352` does not. -/
def isDynamic (whichpool : SysvshmPool) (numUnlimitPages : UInt16) : Bool :=
  whichpool == .poolUnlimit && decide (numUnlimitPages.toNat > 16384 / SYSVSHM_PAGE_SIZE)

/-- `shmget` for the dynamic segment: an existing segment serves if it is large enough. -/
def unlimitShmget (unlimit : Option Bytes) (create : Bool) (numUnlimitPages : UInt16) :
    Option Bytes :=
  let size := (SYSVSHM_STATIC_ALLOC_PAGES + numUnlimitPages.toNat) * SYSVSHM_PAGE_SIZE
  match unlimit with
  | some seg => if size ≤ seg.length then some seg else none
  | none => if create then some (List.replicate size 0) else none

/-- `init_unilimit_sysvshm`. -/
def initUnilimitSysvshm (shm : SysvshmSegment) (numUnlimitPages : UInt16) (rc : UInt32) :
    Option Bytes × UInt32 :=
  match unlimitShmget shm.unlimit true numUnlimitPages with
  | some seg => (some seg, rc)
  | none => (none, rc ||| ITC_SYSCALL_ERROR)

namespace SysvshmSegment

/-- The first slot of the pool that is neither in use nor linked. -/
def freeSlot (shm : SysvshmSegment) (whichpool : SysvshmPool) : Option Nat :=
  (List.range whichpool.numSlots).find? fun i =>
    !(shm.slots ⟨whichpool, i⟩).isInUse && (shm.slots ⟨whichpool, i⟩).nextSlot.isNone

/-- `slot_unlimit` as a large message finds it, whatever it was linked to. -/
def resetUnlimit (shm : SysvshmSegment) (numUnlimitPages : UInt16) : SysvshmSegment :=
  { shm with
    numUnlimitPages := numUnlimitPages
    numPages := UInt16.ofNat SYSVSHM_STATIC_ALLOC_PAGES + numUnlimitPages }.setSlot .unlimit
      { shm.slots .unlimit with nextSlot := none, poolType := .poolUnlimit }

/-- A slot goes behind the tail and is in use. -/
def enqueueSlot (shm : SysvshmSegment) (new : SysvshmPoolSlot) : SysvshmSegment :=
  let shm :=
    match shm.tail with
    | none => { shm with head := some new, tail := some new }
    | some t =>
        { shm.setSlot t { shm.slots t with nextSlot := some new } with tail := some new }
  shm.setSlot new { shm.slots new with isInUse := true }

end SysvshmSegment

/-- The critical section of `sysvshm_send`: the segment, the result code, and whether the mutex
has been given back. -/
structure SysvshmEnqueued where
  shm : SysvshmSegment
  rc : UInt32
  released : Bool

def sysvshmEnqueue (e : Endian) (rc : UInt32) (shm : SysvshmSegment) (message : ItcMessage) :
    Except MemFault SysvshmEnqueued :=
  let (whichpool, numUnlimitPages) := choosePool message.size
  if isDynamic whichpool numUnlimitPages then do
    let (seg, rc) := initUnilimitSysvshm shm numUnlimitPages rc
    let shm := (shm.resetUnlimit numUnlimitPages).enqueueSlot .unlimit
    match seg with
    | none => throw .nullDeref
    | some seg => do
        let text ← txText e message
        let seg ← storeBytes seg 0 text
        return { shm := { shm with unlimit := some seg }, rc, released := true }
  else
    match shm.freeSlot whichpool with
    | none => .ok { shm, rc, released := false }
    | some i => do
        let new : SysvshmPoolSlot := ⟨whichpool, i⟩
        let shm := shm.enqueueSlot new
        let text ← txText e message
        let block ← storeBytes (shm.data new) 0 text
        return { shm := shm.setData new block, rc, released := true }

/-! ## `sysvshm_rx_thread` -/

/-- `handle_received_message` up to its `itc_send`, like `forward_sysvmq_msg`. -/
def handleReceivedMessage (e : Endian) (a : Allocator) (pMessage : Bytes) :
    Except MemFault (Option ItcMessage) :=
  forwardSysvmqMsg e a pMessage

/-- The head leaves the queue, and its header is cleaned up. -/
def SysvshmSegment.removeHead (shm : SysvshmSegment) (h : SysvshmPoolSlot) : SysvshmSegment :=
  let shm :=
    if shm.tail = some h then { shm with head := none, tail := none }
    else { shm with head := (shm.slots h).nextSlot }
  shm.setSlot h { shm.slots h with isInUse := false, nextSlot := none }

/-- Whether the `itc_send` of `handle_received_message` returns, if it is called. -/
def handsOver (hand : MboxId → HandOver) (fwd : Option ItcMessage) : Bool :=
  fwd.all fun m => hand m.receiver != .waits

theorem handsOver_iff {hand : MboxId → HandOver} {m : ItcMessage} :
    handsOver hand (some m) = true ↔ hand m.receiver ≠ .waits := by
  rw [handsOver, Option.all_some, bne_iff_ne]

/-- The critical section of `sysvshm_rx_thread`: the segment, the message that
`handle_received_message` has passed to `itc_send`, and whether that call has returned; where it
has not, the mutex is not given back. -/
structure SysvshmDequeued where
  shm : SysvshmSegment
  fwd : Option ItcMessage
  running : Bool

/-- The section from `handle_received_message` on: the slot leaves the queue, unless `itc_send`
has not returned. -/
def SysvshmSegment.handedOver (shm : SysvshmSegment) (hand : MboxId → HandOver)
    (h : SysvshmPoolSlot) (numUnlimitPages : UInt16) (fwd : Option ItcMessage) :
    SysvshmDequeued :=
  if handsOver hand fwd then
    let shm := shm.removeHead h
    -- the dynamic segment is detached and removed with its message
    let shm :=
      if numUnlimitPages > 0 then
        { shm with
          unlimit := none
          numUnlimitPages := 0
          numPages := UInt16.ofNat SYSVSHM_STATIC_ALLOC_PAGES }
      else shm
    { shm, fwd, running := true }
  else { shm, fwd, running := false }

/-- `hand` is what becomes of the `itc_send` of `handle_received_message`. -/
def sysvshmDequeue (e : Endian) (a : Allocator) (hand : MboxId → HandOver)
    (shm : SysvshmSegment) : Except MemFault SysvshmDequeued :=
  match shm.head with
  | none => .ok { shm, fwd := none, running := true }
  | some h => do
      let numUnlimitPages :=
        if h.whichpool = .poolUnlimit ∧ shm.numUnlimitPages > 0 then shm.numUnlimitPages else 0
      let fwd ←
        if (shm.slots h).isInUse = false then pure none
        else if numUnlimitPages > 0 then
          match unlimitShmget shm.unlimit false numUnlimitPages with
          | none => throw .nullDeref
          | some seg => handleReceivedMessage e a seg
        else handleReceivedMessage e a (shm.data h)
      return shm.handedOver hand h numUnlimitPages fwd

end ItcFramework
