import ItcFramework.Lib.Region
import ItcFramework.Lib.Transition
import ItcFramework.Transport.SysvshmQueue

/-!
# The bytes of the System V shared memory

The segment of a process byte by byte: the metadata, the headers and the data areas of the slots
at the addresses that `itc_sysvshm.c` computes, and the two critical sections as the reads and
writes they make. `slot_unlimit` lies in the metadata; the data area behind its header would be
that of other slots.

* `sysvshmStore`, `sysvshmTakeOut` — the sections of `sysvshm_send` and `sysvshm_rx_thread`.
* `Layout` — which bytes stand for a `SysvshmSegment`; `sysvshmStore_spec`,
  `sysvshmTakeOut_spec`: the sections compute on the bytes what `sysvshmEnqueue` and
  `sysvshmDequeue` compute on the segment.
* `KeepsToSlot`, `sysvshm_keeps_to_slot` — what a call of `sysvshm_send` writes, and where.
-/

set_option autoImplicit false

namespace ItcFramework

open ByteImage Transition

/-! ## Addresses -/

namespace SysvshmPool

/-- Its number in `enum sysvshm_pool_type_e`. -/
def number : SysvshmPool → Nat
  | pool96 => 0
  | pool480 => 1
  | pool992 => 2
  | pool2016 => 3
  | pool4064 => 4
  | pool16352 => 5
  | poolUnlimit => 6

theorem all_number (p : SysvshmPool) : all[p.number]? = some p := by
  cases p <;> rfl

end SysvshmPool

def offNumPages : Nat := 0
def offNumUnlimitPages : Nat := 2
def offHead : Nat := 4
def offTail : Nat := 12

/-- In `struct sysvshm_slot_info_t`, whose first field is `next_slot`. -/
def offPoolType : Nat := 8
def offIsInUse : Nat := 9
def sizeofSysvshmSlotInfo : Nat := 12

/-- `struct sysvshm_pool_slot`, its `int`s as words. -/
structure ShmLink where
  whichpool : UInt32
  whichslot : UInt32
  deriving DecidableEq, Repr

namespace ShmLink

/-- The pair `(-1, -1)`. -/
def null : ShmLink := ⟨0xFFFFFFFF, 0xFFFFFFFF⟩

def bytes (e : Endian) (l : ShmLink) : Bytes := word e l.whichpool ++ word e l.whichslot

/-- The names in the source's own form. -/
def ofSlot : Option SysvshmPoolSlot → ShmLink
  | none => null
  | some r => ⟨UInt32.ofNat r.whichpool.number, UInt32.ofNat r.whichslot⟩

/-- `pool_offset[whichpool] + slot_sizes[whichpool] * whichslot`. A number that no pool has reads
behind the tables. -/
def slotAddr (l : ShmLink) : Except MemFault Nat :=
  match SysvshmPool.all[l.whichpool.toNat]? with
  | none => throw .outOfBounds
  | some p =>
      let addr := p.poolOffset + p.slotSizes * l.whichslot.toInt32.toInt
      if 0 ≤ addr then .ok addr.toNat else throw .outOfBounds

@[simp] theorem bytes_length (e : Endian) (l : ShmLink) : (l.bytes e).length = 8 := by
  simp [bytes]

end ShmLink

namespace SysvshmPoolSlot

/-- The slot is one of its pool. -/
def IsSlot (r : SysvshmPoolSlot) : Prop := r.whichslot < r.whichpool.numSlots

instance (r : SysvshmPoolSlot) : Decidable r.IsSlot :=
  inferInstanceAs (Decidable (r.whichslot < r.whichpool.numSlots))

/-- Where the slot lies, see `IsSlot.slotAddr_eq`. -/
def addr (r : SysvshmPoolSlot) : Nat :=
  r.whichpool.poolOffset + r.whichpool.slotSizes.toNat * r.whichslot

/-- The bytes of the slot; `slot_unlimit` is a header and nothing else. -/
def extent (r : SysvshmPoolSlot) : Nat :=
  if r.whichpool = .poolUnlimit then sizeofSysvshmSlotInfo else r.whichpool.slotSizes.toNat

variable {r r' : SysvshmPoolSlot}

/-- A slot of `POOL_UNLIMIT` can only be `slot_unlimit`. -/
theorem IsSlot.eq_unlimit (h : r.IsSlot) (hp : r.whichpool = .poolUnlimit) : r = .unlimit := by
  obtain ⟨p, i⟩ := r
  cases hp
  have hi : i < 1 := h
  obtain rfl : i = 0 := by omega
  rfl

theorem IsSlot.slotAddr_eq (h : r.IsSlot) : r.slotAddr = r.addr := by
  obtain ⟨p, i⟩ := r
  cases p with
  | poolUnlimit =>
    have hi : i < 1 := h
    obtain rfl : i = 0 := by omega
    rfl
  | _ =>
    simp only [slotAddr, addr, SysvshmPool.slotSizes, Int.reduceToNat]
    omega

/-- The bounds of a slot. -/
theorem IsSlot.bounds (h : r.IsSlot) :
    20 ≤ r.addr ∧ 12 ≤ r.extent ∧ r.addr + r.extent ≤ 102400 ∧
      (r.whichpool = .poolUnlimit → r.addr + r.extent = 32) ∧
      (r.whichpool ≠ .poolUnlimit → 128 ≤ r.addr ∧ r.extent = 32 + r.dataSize) := by
  obtain ⟨p, i⟩ := r
  unfold IsSlot at h
  unfold addr extent dataSize
  cases p <;>
    simp only [SysvshmPool.numSlots, SysvshmPool.slotSizes, SysvshmPool.poolOffset,
      sizeofSysvshmMetadata, sizeofSysvshmSlotInfo, SYSVSHM_PAGE_SIZE, SYSVSHM_SLOT_HEADER_SIZE,
      Int.reduceToNat, ne_eq, reduceCtorEq, not_false_eq_true, not_true_eq_false, false_implies,
      true_implies, true_and, and_true, if_true, if_false] at h ⊢ <;>
    omega

/-- **No two slots overlap.** -/
theorem IsSlot.disjoint (h : r.IsSlot) (h' : r'.IsSlot) (hne : r ≠ r') :
    r.addr + r.extent ≤ r'.addr ∨ r'.addr + r'.extent ≤ r.addr := by
  obtain ⟨-, -, -, hun, hst⟩ := h.bounds
  obtain ⟨-, -, -, hun', hst'⟩ := h'.bounds
  by_cases hp : r.whichpool = .poolUnlimit
  · by_cases hp' : r'.whichpool = .poolUnlimit
    · exact absurd ((h.eq_unlimit hp).trans (h'.eq_unlimit hp').symm) hne
    · have hr := hun hp
      have hr' := hst' hp'
      omega
  · by_cases hp' : r'.whichpool = .poolUnlimit
    · have hr := hst hp
      have hr' := hun' hp'
      omega
    · obtain ⟨-, -, hd⟩ := slotAddr_disjoint h h' hp hp' hne
      have hsize : r.whichpool.slotSizes = r.extent := by
        unfold extent
        rw [if_neg hp]
        cases hw : r.whichpool <;> first | rfl | exact absurd hw hp
      have hsize' : r'.whichpool.slotSizes = r'.extent := by
        unfold extent
        rw [if_neg hp']
        cases hw : r'.whichpool <;> first | rfl | exact absurd hw hp'
      rw [h.slotAddr_eq, h'.slotAddr_eq, hsize, hsize'] at hd
      omega

/-- The link to a slot leads to its address. -/
theorem IsSlot.link_slotAddr (h : r.IsSlot) : (ShmLink.ofSlot (some r)).slotAddr = .ok r.addr := by
  have haddr := h.slotAddr_eq
  obtain ⟨p, i⟩ := r
  have hi : i < 32 := Nat.lt_trans h p.numSlots_lt
  have hslot : (UInt32.ofNat i).toInt32.toInt = i := by
    exact (by decide : ∀ i < 32, (UInt32.ofNat i).toInt32.toInt = i) i hi
  have hpool : (UInt32.ofNat p.number).toNat = p.number := by
    cases p <;> rfl
  unfold ShmLink.slotAddr ShmLink.ofSlot
  simp only [hpool, SysvshmPool.all_number, hslot]
  unfold slotAddr at haddr
  rw [haddr, if_pos (Int.natCast_nonneg _), Int.toNat_natCast]

/-- Neither part of the link to a slot is `-1`. -/
theorem IsSlot.link_ne (h : r.IsSlot) : (ShmLink.ofSlot (some r)).whichpool ≠ 0xFFFFFFFF ∧
    (ShmLink.ofSlot (some r)).whichslot ≠ 0xFFFFFFFF := by
  obtain ⟨p, i⟩ := r
  have hi : i < 32 := Nat.lt_trans h p.numSlots_lt
  constructor
  · show UInt32.ofNat p.number ≠ _
    cases p <;> decide
  · exact (by decide : ∀ i < 32, UInt32.ofNat i ≠ 0xFFFFFFFF) i hi

end SysvshmPoolSlot

/-! ## The sections -/

/-- The segment of the receiver and, while it exists, the one for its large message. -/
structure ShmMemory where
  segment : Region
  unlimit : Option Region

def readLink (e : Endian) (m : Region) (off : Nat) : Except MemFault ShmLink := do
  let whichpool ← m.read off 4
  let whichslot ← m.read (off + 4) 4
  return ⟨ofWord e whichpool, ofWord e whichslot⟩

def writeLink (e : Endian) (m : Region) (off : Nat) (l : ShmLink) : Except MemFault Region := do
  let m ← m.write off (word e l.whichpool)
  m.write (off + 4) (word e l.whichslot)

/-- The loop over the slots of one pool in `init_sysvshm_mempool`. -/
def initPool (e : Endian) (whichpool : SysvshmPool) : Nat → Nat → Region → Except MemFault Region
  | 0, _, m => .ok m
  | left + 1, slotHeader, m => do
      let m ← m.write (slotHeader + offPoolType) [UInt8.ofNat whichpool.number]
      let m ← m.write (slotHeader + offIsInUse) [0]
      let m ← writeLink e m slotHeader .null
      initPool e whichpool left (slotHeader + whichpool.slotSizes.toNat) m

/-- `init_sysvshm_mempool`; its loops do not reach `slot_unlimit`. -/
def initSysvshmMempool (e : Endian) (m : Region) : Except MemFault Region := do
  let m ← writeLink e m offHead .null
  let m ← writeLink e m offTail .null
  let m ← m.write offNumPages (half e (UInt16.ofNat SYSVSHM_STATIC_ALLOC_PAGES))
  let m ← m.write offNumUnlimitPages (half e 0)
  [SysvshmPool.pool96, .pool480, .pool992, .pool2016, .pool4064, .pool16352].foldlM
    (fun m whichpool => initPool e whichpool whichpool.numSlots whichpool.poolOffset m) m

/-- What `shmget` and `shmat` give for the second segment. -/
def unlimitRegion (create : Bool) (unlimit : Option Region) (numUnlimitPages : UInt16) :
    Option Region :=
  let size := (SYSVSHM_STATIC_ALLOC_PAGES + numUnlimitPages.toNat) * SYSVSHM_PAGE_SIZE
  match unlimit with
  | some seg => if size ≤ seg.size then some seg else none
  | none => if create then some (.zeroed size) else none

/-- The loop over the slots of the chosen pool: the index and the address of the first one that
is free. -/
def shopForSlot (e : Endian) (m : Region) (slotSize : Int) :
    Nat → Nat → Int → Except MemFault (Option (Nat × Nat))
  | 0, _, _ => .ok none
  | left + 1, newSlotIndex, slot => do
      let isInUse ← m.read (slot.toNat + offIsInUse) 1
      let nextSlot ← readLink e m slot.toNat
      if isInUse = [0] ∧ nextSlot = .null then return some (newSlotIndex, slot.toNat)
      else shopForSlot e m slotSize left (newSlotIndex + 1) (slot + slotSize)

/-- The slot goes behind the tail, or becomes the queue. -/
def linkSlot (e : Endian) (m : Region) (new : ShmLink) : Except MemFault Region := do
  let tail ← readLink e m offTail
  if tail = .null then
    let m ← writeLink e m offHead new
    writeLink e m offTail new
  else
    let tailNode ← tail.slotAddr
    let m ← writeLink e m tailNode new
    writeLink e m offTail new

/-- `slot_unlimit` and the numbers of pages, as a large message sets them. -/
def resetSlotUnlimit (e : Endian) (m : Region) (numUnlimitPages : UInt16) :
    Except MemFault Region := do
  let newSlot := SysvshmPool.poolUnlimit.poolOffset
  let m ← m.write offNumUnlimitPages (half e numUnlimitPages)
  let m ← m.write offNumPages (half e (UInt16.ofNat SYSVSHM_STATIC_ALLOC_PAGES + numUnlimitPages))
  let m ← writeLink e m newSlot .null
  m.write (newSlot + offPoolType) [UInt8.ofNat SysvshmPool.poolUnlimit.number]

/-- The critical section of `sysvshm_send` on the two segments, with the slot it has found; the
result code and the mutex are those of `sysvshmEnqueue`. -/
def sysvshmStore (e : Endian) (mem : ShmMemory) (message : ItcMessage) :
    Except MemFault (ShmMemory × Option SysvshmPoolSlot) := do
  let whichpool := (choosePool message.size).1
  let numUnlimitPages := (choosePool message.size).2
  if isDynamic whichpool numUnlimitPages then
    let unlimit := unlimitRegion true mem.unlimit numUnlimitPages
    let m ← resetSlotUnlimit e mem.segment numUnlimitPages
    let m ← linkSlot e m (.ofSlot (some ⟨whichpool, 0⟩))
    let m ← m.write (whichpool.poolOffset + offIsInUse) [1]
    let seg ← deref unlimit
    let text ← txText e message
    let seg ← seg.write 0 text
    return (⟨m, some seg⟩, some ⟨whichpool, 0⟩)
  else
    match ← shopForSlot e mem.segment whichpool.slotSizes whichpool.numSlots 0
        whichpool.poolOffset with
    | none => return (mem, none)
    | some (newSlotIndex, newSlot) =>
        let m ← linkSlot e mem.segment (.ofSlot (some ⟨whichpool, newSlotIndex⟩))
        let m ← m.write (newSlot + offIsInUse) [1]
        let text ← txText e message
        let m ← m.write (newSlot + SYSVSHM_SLOT_HEADER_SIZE) text
        return ({ mem with segment := m }, some ⟨whichpool, newSlotIndex⟩)

/-- The head leaves the queue, and the header of its slot is cleaned up. -/
def removeHeadSlot (e : Endian) (m : Region) (head : ShmLink) (slot : Nat) :
    Except MemFault Region := do
  let tail ← readLink e m offTail
  let m ←
    if head = tail then do
      let m ← writeLink e m offHead .null
      writeLink e m offTail .null
    else do
      let nextSlot ← readLink e m slot
      writeLink e m offHead nextSlot
  let m ← m.write (slot + offIsInUse) [0]
  writeLink e m slot .null

/-- Where `handle_received_message` reads the message of a slot. -/
def receivedText (mem : ShmMemory) (slot : Nat) (numUnlimitPages : UInt16) :
    Except MemFault (Option Bytes) := do
  let isInUse ← mem.segment.read (slot + offIsInUse) 1
  let poolType ← mem.segment.read (slot + offPoolType) 1
  if isInUse = [0] ∨ SysvshmPool.poolUnlimit.number < (poolType.getD 0 0).toNat then return none
  else if 0 < numUnlimitPages then
    let seg ← deref (unlimitRegion false mem.unlimit numUnlimitPages)
    return some seg.bytes
  else
    let text := slot + SYSVSHM_SLOT_HEADER_SIZE
    return some (mem.segment.bytesAt text (mem.segment.size - text))

/-- The critical section of `sysvshm_rx_thread`, with the bytes that `handle_received_message`
gets the address of. -/
def sysvshmTakeOut (e : Endian) (mem : ShmMemory) :
    Except MemFault (ShmMemory × Option Bytes) := do
  let head ← readLink e mem.segment offHead
  if head.whichpool ≠ 0xFFFFFFFF ∧ head.whichslot ≠ 0xFFFFFFFF then
    let pages ← mem.segment.read offNumUnlimitPages 2
    let numUnlimitPages :=
      if head.whichpool.toNat = SysvshmPool.poolUnlimit.number ∧ 0 < ofHalf e pages then
        ofHalf e pages
      else 0
    let slot ← head.slotAddr
    let message ← receivedText mem slot numUnlimitPages
    let m ← removeHeadSlot e mem.segment head slot
    if 0 < numUnlimitPages then
      let m ← m.write offNumUnlimitPages (half e 0)
      let m ← m.write offNumPages (half e (UInt16.ofNat SYSVSHM_STATIC_ALLOC_PAGES))
      return (⟨m, none⟩, message)
    else return ({ mem with segment := m }, message)
  else return (mem, none)

/-! ## Layout -/

/-- The bytes of a slot's header. -/
structure SlotBytes (e : Endian) (m : Region) (addr : Nat) (info : SysvshmSlotInfo) : Prop where
  next : m.bytesAt addr 8 = (ShmLink.ofSlot info.nextSlot).bytes e
  poolType : m.bytesAt (addr + offPoolType) 1 = [UInt8.ofNat info.poolType.number]
  isInUse : m.bytesAt (addr + offIsInUse) 1 = [if info.isInUse then 1 else 0]

/-- The bytes of the segment stand for `shm`. -/
structure Layout (e : Endian) (m : Region) (shm : SysvshmSegment) : Prop where
  size : m.size = SYSVSHM_STATIC_ALLOC_PAGES * SYSVSHM_PAGE_SIZE
  numPages : m.bytesAt offNumPages 2 = half e shm.numPages
  numUnlimitPages : m.bytesAt offNumUnlimitPages 2 = half e shm.numUnlimitPages
  head : m.bytesAt offHead 8 = (ShmLink.ofSlot shm.head).bytes e
  tail : m.bytesAt offTail 8 = (ShmLink.ofSlot shm.tail).bytes e
  slots : ∀ r : SysvshmPoolSlot, r.IsSlot → SlotBytes e m r.addr (shm.slots r)
  data : ∀ r : SysvshmPoolSlot, r.IsSlot → r.whichpool ≠ .poolUnlimit →
    m.bytesAt (r.addr + SYSVSHM_SLOT_HEADER_SIZE) r.dataSize = shm.data r

section Layout

open Region

variable {e : Endian} {m : Region} {shm shm' : SysvshmSegment} {r : SysvshmPoolSlot} {off : Nat}
  {src : Bytes}

theorem SlotBytes.overwrite {addr : Nat} {info : SysvshmSlotInfo} (h : SlotBytes e m addr info)
    (hd : addr + 10 ≤ off ∨ off + src.length ≤ addr) :
    SlotBytes e (m.overwrite off src) addr info where
  next := (bytesAt_overwrite_of_disjoint (by omega)).trans h.next
  poolType := by
    unfold offPoolType
    exact (bytesAt_overwrite_of_disjoint (by omega)).trans h.poolType
  isInUse := by
    unfold offIsInUse
    exact (bytesAt_overwrite_of_disjoint (by omega)).trans h.isInUse

namespace Layout

/-- A write into the fields before `slot_unlimit` leaves the slots. -/
theorem metadata (h : Layout e m shm) (hend : off + src.length ≤ 20)
    (hslots : shm'.slots = shm.slots) (hdata : shm'.data = shm.data)
    (hnum : (m.overwrite off src).bytesAt offNumPages 2 = half e shm'.numPages)
    (hnumU : (m.overwrite off src).bytesAt offNumUnlimitPages 2 = half e shm'.numUnlimitPages)
    (hhead : (m.overwrite off src).bytesAt offHead 8 = (ShmLink.ofSlot shm'.head).bytes e)
    (htail : (m.overwrite off src).bytesAt offTail 8 = (ShmLink.ofSlot shm'.tail).bytes e) :
    Layout e (m.overwrite off src) shm' where
  size := h.size
  numPages := hnum
  numUnlimitPages := hnumU
  head := hhead
  tail := htail
  slots r hr := by
    have hb := hr.bounds
    rw [hslots]
    exact (h.slots r hr).overwrite (by omega)
  data r hr hp := by
    have hb := hr.bounds
    rw [hdata]
    exact (bytesAt_overwrite_of_disjoint (by omega)).trans (h.data r hr hp)

/-- A write into a slot leaves the fields before `slot_unlimit` and the other slots. -/
theorem inSlot (h : Layout e m shm) (hr : r.IsSlot) (hoff : r.addr ≤ off)
    (hend : off + src.length ≤ r.addr + r.extent) (hnum : shm'.numPages = shm.numPages)
    (hnumU : shm'.numUnlimitPages = shm.numUnlimitPages) (hhead : shm'.head = shm.head)
    (htail : shm'.tail = shm.tail)
    (hother : ∀ r', r' ≠ r → shm'.slots r' = shm.slots r' ∧ shm'.data r' = shm.data r')
    (hslot : SlotBytes e (m.overwrite off src) r.addr (shm'.slots r))
    (hdata : r.whichpool ≠ .poolUnlimit →
      (m.overwrite off src).bytesAt (r.addr + SYSVSHM_SLOT_HEADER_SIZE) r.dataSize =
        shm'.data r) :
    Layout e (m.overwrite off src) shm' := by
  have hb := hr.bounds
  constructor
  · exact h.size
  · rw [hnum]
    refine (bytesAt_overwrite_of_disjoint (.inl ?_)).trans h.numPages
    unfold offNumPages
    omega
  · rw [hnumU]
    refine (bytesAt_overwrite_of_disjoint (.inl ?_)).trans h.numUnlimitPages
    unfold offNumUnlimitPages
    omega
  · rw [hhead]
    refine (bytesAt_overwrite_of_disjoint (.inl ?_)).trans h.head
    unfold offHead
    omega
  · rw [htail]
    refine (bytesAt_overwrite_of_disjoint (.inl ?_)).trans h.tail
    unfold offTail
    omega
  · intro r' hr'
    by_cases hne : r' = r
    · rw [hne]
      exact hslot
    · have hb' := hr'.bounds
      have hd := hr'.disjoint hr hne
      rw [(hother r' hne).1]
      exact (h.slots r' hr').overwrite (by omega)
  · intro r' hr' hp
    by_cases hne : r' = r
    · subst hne
      exact hdata hp
    · have hb' := hr'.bounds
      have hd := hr'.disjoint hr hne
      have hsize := (hb'.2.2.2.2 hp).2
      rw [(hother r' hne).2]
      refine (bytesAt_overwrite_of_disjoint ?_).trans (h.data r' hr' hp)
      unfold SYSVSHM_SLOT_HEADER_SIZE
      omega

theorem setHead (h : Layout e m shm) (l : Option SysvshmPoolSlot) :
    Layout e (m.overwrite offHead ((ShmLink.ofSlot l).bytes e)) { shm with head := l } := by
  have hself := bytesAt_overwrite_self m offHead ((ShmLink.ofSlot l).bytes e)
  rw [ShmLink.bytes_length] at hself
  refine h.metadata ?_ rfl rfl ?_ ?_ hself ?_
  · rw [ShmLink.bytes_length]
    decide
  · exact (bytesAt_overwrite_of_disjoint (.inl (by decide))).trans h.numPages
  · exact (bytesAt_overwrite_of_disjoint (.inl (by decide))).trans h.numUnlimitPages
  · refine (bytesAt_overwrite_of_disjoint (.inr ?_)).trans h.tail
    rw [ShmLink.bytes_length]
    decide

theorem setTail (h : Layout e m shm) (l : Option SysvshmPoolSlot) :
    Layout e (m.overwrite offTail ((ShmLink.ofSlot l).bytes e)) { shm with tail := l } := by
  have hself := bytesAt_overwrite_self m offTail ((ShmLink.ofSlot l).bytes e)
  rw [ShmLink.bytes_length] at hself
  refine h.metadata ?_ rfl rfl ?_ ?_ ?_ hself
  · rw [ShmLink.bytes_length]
    decide
  · exact (bytesAt_overwrite_of_disjoint (.inl (by decide))).trans h.numPages
  · exact (bytesAt_overwrite_of_disjoint (.inl (by decide))).trans h.numUnlimitPages
  · exact (bytesAt_overwrite_of_disjoint (.inl (by decide))).trans h.head

theorem setNumPages (h : Layout e m shm) (n : UInt16) :
    Layout e (m.overwrite offNumPages (half e n)) { shm with numPages := n } := by
  have hself := bytesAt_overwrite_self m offNumPages (half e n)
  have hlen := half_length e n
  rw [hlen] at hself
  refine h.metadata ?_ rfl rfl hself ?_ ?_ ?_
  · rw [hlen]
    decide
  · refine (bytesAt_overwrite_of_disjoint (.inr ?_)).trans h.numUnlimitPages
    rw [hlen]
    decide
  · refine (bytesAt_overwrite_of_disjoint (.inr ?_)).trans h.head
    rw [hlen]
    decide
  · refine (bytesAt_overwrite_of_disjoint (.inr ?_)).trans h.tail
    rw [hlen]
    decide

theorem setNumUnlimitPages (h : Layout e m shm) (n : UInt16) :
    Layout e (m.overwrite offNumUnlimitPages (half e n)) { shm with numUnlimitPages := n } := by
  have hself := bytesAt_overwrite_self m offNumUnlimitPages (half e n)
  have hlen := half_length e n
  rw [hlen] at hself
  refine h.metadata ?_ rfl rfl ?_ hself ?_ ?_
  · rw [hlen]
    decide
  · exact (bytesAt_overwrite_of_disjoint (.inl (by decide))).trans h.numPages
  · refine (bytesAt_overwrite_of_disjoint (.inr ?_)).trans h.head
    rw [hlen]
    decide
  · refine (bytesAt_overwrite_of_disjoint (.inr ?_)).trans h.tail
    rw [hlen]
    decide

/-- A write into the header of a slot. -/
theorem setHeader (h : Layout e m shm) (hr : r.IsSlot) {info : SysvshmSlotInfo}
    (hoff : r.addr ≤ off) (hend : off + src.length ≤ r.addr + 10)
    (hslot : SlotBytes e (m.overwrite off src) r.addr info) :
    Layout e (m.overwrite off src) (shm.setSlot r info) := by
  have hb := hr.bounds
  refine h.inSlot hr hoff (by omega) rfl rfl rfl rfl ?_ ?_ ?_
  · intro r' hne
    exact ⟨if_neg hne, rfl⟩
  · have hinfo : (shm.setSlot r info).slots r = info := if_pos rfl
    rw [hinfo]
    exact hslot
  · intro hp
    refine (bytesAt_overwrite_of_disjoint (.inr ?_)).trans (h.data r hr hp)
    unfold SYSVSHM_SLOT_HEADER_SIZE
    omega

theorem setNext (h : Layout e m shm) (hr : r.IsSlot) (l : Option SysvshmPoolSlot) :
    Layout e (m.overwrite r.addr ((ShmLink.ofSlot l).bytes e))
      (shm.setSlot r { shm.slots r with nextSlot := l }) := by
  have hold := h.slots r hr
  have hlen := ShmLink.bytes_length e (ShmLink.ofSlot l)
  have hself := bytesAt_overwrite_self m r.addr ((ShmLink.ofSlot l).bytes e)
  rw [hlen] at hself
  refine h.setHeader hr (Nat.le_refl _) (by omega) ⟨hself, ?_, ?_⟩
  · refine (bytesAt_overwrite_of_disjoint (.inr ?_)).trans hold.poolType
    unfold offPoolType
    omega
  · refine (bytesAt_overwrite_of_disjoint (.inr ?_)).trans hold.isInUse
    unfold offIsInUse
    omega

theorem setPoolType (h : Layout e m shm) (hr : r.IsSlot) (p : SysvshmPool) :
    Layout e (m.overwrite (r.addr + offPoolType) [UInt8.ofNat p.number])
      (shm.setSlot r { shm.slots r with poolType := p }) := by
  have hold := h.slots r hr
  refine h.setHeader hr (Nat.le_add_right _ _) ?_ ⟨?_, ?_, ?_⟩
  · show r.addr + 8 + 1 ≤ r.addr + 10
    omega
  · exact (bytesAt_overwrite_of_disjoint (.inl (Nat.le_refl _))).trans hold.next
  · exact bytesAt_overwrite_self m (r.addr + offPoolType) [UInt8.ofNat p.number]
  · exact (bytesAt_overwrite_of_disjoint (.inr (Nat.le_refl _))).trans hold.isInUse

theorem setIsInUse (h : Layout e m shm) (hr : r.IsSlot) (b : Bool) :
    Layout e (m.overwrite (r.addr + offIsInUse) [if b then 1 else 0])
      (shm.setSlot r { shm.slots r with isInUse := b }) := by
  have hold := h.slots r hr
  refine h.setHeader hr (Nat.le_add_right _ _) ?_ ⟨?_, ?_, ?_⟩
  · exact Nat.le_refl _
  · refine (bytesAt_overwrite_of_disjoint (.inl ?_)).trans hold.next
    exact Nat.add_le_add_left (by decide) _
  · exact (bytesAt_overwrite_of_disjoint (.inl (Nat.le_refl _))).trans hold.poolType
  · exact bytesAt_overwrite_self m (r.addr + offIsInUse) [if b then 1 else 0]

/-- A message text at the start of the data area of a slot. -/
theorem setText (h : Layout e m shm) (hr : r.IsSlot) (hp : r.whichpool ≠ .poolUnlimit)
    {text : Bytes} (hfit : text.length ≤ r.dataSize) :
    Layout e (m.overwrite (r.addr + SYSVSHM_SLOT_HEADER_SIZE) text)
      (shm.setData r (text ++ (shm.data r).drop text.length)) := by
  have hb := hr.bounds
  have hold := h.slots r hr
  obtain ⟨-, hextent⟩ := hb.2.2.2.2 hp
  refine h.inSlot hr (Nat.le_add_right _ _) ?_ rfl rfl rfl rfl ?_ ?_ ?_
  · unfold SYSVSHM_SLOT_HEADER_SIZE
    omega
  · intro r' hne
    exact ⟨rfl, if_neg hne⟩
  · exact hold.overwrite (.inl (Nat.add_le_add_left (by decide) _))
  · intro _
    have hdata := h.data r hr hp
    have hsplit : r.dataSize = text.length + (r.dataSize - text.length) := by omega
    have hblock : (shm.setData r (text ++ (shm.data r).drop text.length)).data r =
        text ++ (shm.data r).drop text.length := if_pos rfl
    rw [hblock, ← hdata, hsplit, bytesAt_add, bytesAt_overwrite_self,
      bytesAt_overwrite_of_disjoint (.inr (Nat.le_refl _)), bytesAt_add,
      List.drop_left' (bytesAt_length ..)]

end Layout

end Layout

/-! ## What a call writes -/

/-- The bytes that link a slot: `head`, `tail` and the link of the slot at the tail. -/
def Linking (e : Endian) (m : Region) (k : Nat) : Prop :=
  Within offHead 16 k ∨ ∃ t : SysvshmPoolSlot, t.IsSlot ∧
    m.bytesAt offTail 8 = (ShmLink.ofSlot (some t)).bytes e ∧ Within t.addr 8 k

/-- A call that has stored `message` in `r` has kept to that slot: the text lies in a slot of a
fixed pool that was free, or in the second segment if it fits no fixed pool; and of the segment
nothing else has changed but the slot, the links and the bytes `also`. -/
structure KeepsToSlot (e : Endian) (mem mem' : ShmMemory) (message : ItcMessage)
    (r : SysvshmPoolSlot) (also : Nat → Prop) : Prop where
  isSlot : r.IsSlot
  fits : r.whichpool = .poolUnlimit ↔ ∀ p : SysvshmPool, p ≠ .poolUnlimit →
    p.slotSizes < SYSVSHM_SLOT_HEADER_SIZE + (message.image e).length
  free : r.whichpool ≠ .poolUnlimit → mem.segment.bytesAt (r.addr + offIsInUse) 1 = [0]
  fixed : r.whichpool ≠ .poolUnlimit →
    SYSVSHM_SLOT_HEADER_SIZE + (message.image e).length ≤ r.extent ∧
      mem'.segment.bytesAt (r.addr + SYSVSHM_SLOT_HEADER_SIZE) (message.image e).length =
        message.image e ∧ mem'.unlimit = mem.unlimit
  separate : r.whichpool = .poolUnlimit → ∃ seg, mem'.unlimit = some seg ∧
    (message.image e).length ≤ seg.size ∧
      seg.bytesAt 0 (message.image e).length = message.image e
  frame : mem.segment.ChangesOnly mem'.segment fun k =>
    Within r.addr r.extent k ∨ Linking e mem.segment k ∨ also k

/-- What a large message changes besides: the numbers of pages. -/
def PageCounts (r : SysvshmPoolSlot) (k : Nat) : Prop :=
  r.whichpool = .poolUnlimit ∧ Within offNumPages 4 k

/-! ## The sections on a laid out segment -/

/-- The links of the segment lead to slots. -/
structure SysvshmSegment.Linked (shm : SysvshmSegment) : Prop where
  head : ∀ r, shm.head = some r → r.IsSlot
  tail : ∀ r, shm.tail = some r → r.IsSlot
  next : ∀ r r', shm.next r = some r' → r'.IsSlot

/-- `enqueueSlot` without the mark that the slot is in use. -/
def SysvshmSegment.linkSlot (shm : SysvshmSegment) (new : SysvshmPoolSlot) : SysvshmSegment :=
  match shm.tail with
  | none => { shm with head := some new, tail := some new }
  | some t => { shm.setSlot t { shm.slots t with nextSlot := some new } with tail := some new }

theorem SysvshmSegment.enqueueSlot_eq (shm : SysvshmSegment) (new : SysvshmPoolSlot) :
    shm.enqueueSlot new =
      (shm.linkSlot new).setSlot new { (shm.linkSlot new).slots new with isInUse := true } := rfl

/-- The two segments stand for `shm`. -/
structure Represents (e : Endian) (mem : ShmMemory) (shm : SysvshmSegment) : Prop where
  layout : Layout e mem.segment shm
  unlimit : mem.unlimit.map Region.bytes = shm.unlimit
  linked : shm.Linked

theorem SysvshmSegment.setSlot_setSlot (shm : SysvshmSegment) (r : SysvshmPoolSlot)
    (info info' : SysvshmSlotInfo) :
    (shm.setSlot r info).setSlot r info' = shm.setSlot r info' := by
  unfold setSlot
  congr 1
  funext r'
  by_cases hr : r' = r
  · simp [hr]
  · simp [hr]

@[simp] theorem SysvshmSegment.setSlot_self (shm : SysvshmSegment) (r : SysvshmPoolSlot)
    (info : SysvshmSlotInfo) : (shm.setSlot r info).slots r = info := if_pos rfl

section Sections

open Region

variable {e : Endian} {m : Region} {mem : ShmMemory} {shm : SysvshmSegment}
  {r : SysvshmPoolSlot} {off : Nat}

theorem ShmLink.ofSlot_eq_null {l : Option SysvshmPoolSlot} : ShmLink.ofSlot l = null ↔ l = none := by
  cases l with
  | none => exact ⟨fun _ => rfl, fun _ => rfl⟩
  | some r =>
    refine ⟨fun h => ?_, fun h => by cases h⟩
    have hpool : UInt32.ofNat r.whichpool.number = 0xFFFFFFFF := congrArg ShmLink.whichpool h
    cases hr : r.whichpool <;> rw [hr] at hpool <;> exact absurd hpool (by decide)

theorem ShmLink.ofSlot_pool {t : SysvshmPoolSlot} :
    (ofSlot (some t)).whichpool.toNat = SysvshmPool.poolUnlimit.number ↔
      t.whichpool = .poolUnlimit := by
  show (UInt32.ofNat t.whichpool.number).toNat = _ ↔ _
  cases t.whichpool <;> decide

theorem readLink_ok {l : ShmLink} (h : off + 8 ≤ m.size) (hl : m.bytesAt off 8 = l.bytes e) :
    readLink e m off = .ok l := by
  have hsplit := bytesAt_add m off 4 4
  rw [hl] at hsplit
  unfold ShmLink.bytes at hsplit
  obtain ⟨hpool, hslot⟩ := List.append_inj hsplit (by simp)
  unfold readLink
  rw [read_ok (by omega), read_ok (by omega), ← hpool, ← hslot]
  simp only [bind, Except.bind, pure, Except.pure, ofWord_word]

theorem writeLink_ok {l : ShmLink} (h : off + 8 ≤ m.size) :
    writeLink e m off l = .ok (m.overwrite off (l.bytes e)) := by
  have hlen := word_length e l.whichpool
  have happend := overwrite_append m off (word e l.whichpool) (word e l.whichslot)
  rw [hlen] at happend
  unfold writeLink ShmLink.bytes
  rw [write_ok (by rw [hlen]; omega), ← happend]
  exact write_ok (by rw [word_length, overwrite_size]; omega)

/-- **Linking a slot** changes the links and nothing else. -/
theorem linkSlot_spec (h : Layout e m shm) (hl : shm.Linked) (new : SysvshmPoolSlot) :
    ∃ m', linkSlot e m (.ofSlot (some new)) = .ok m' ∧ Layout e m' (shm.linkSlot new) ∧
      m.ChangesOnly m' (Linking e m) := by
  have hsize : m.size = 102400 := h.size
  have hread := readLink_ok (show offTail + 8 ≤ m.size by rw [hsize]; decide) h.tail
  have hmeta : ∀ k, Within offTail (ShmLink.bytes e (.ofSlot (some new))).length k →
      Linking e m k := by
    rintro k ⟨hle, hlt⟩
    rw [ShmLink.bytes_length] at hlt
    refine .inl ⟨?_, ?_⟩ <;> simp only [offTail, offHead] at * <;> omega
  unfold linkSlot SysvshmSegment.linkSlot
  rw [hread]
  cases ht : shm.tail with
  | none =>
    refine ⟨_, ?_, (h.setHead (some new)).setTail (some new), ?_⟩
    · simp only [bind, Except.bind, ShmLink.ofSlot, if_true]
      rw [writeLink_ok (by rw [hsize]; decide)]
      exact writeLink_ok (by rw [overwrite_size, hsize]; decide)
    · refine ((ChangesOnly.refl m _).overwrite ?_).overwrite hmeta
      rintro k ⟨hle, hlt⟩
      rw [ShmLink.bytes_length] at hlt
      refine .inl ⟨hle, ?_⟩
      omega
  | some t =>
    have hslot : t.IsSlot := hl.tail t ht
    have hb := hslot.bounds
    have hne : ShmLink.ofSlot (some t) ≠ .null := fun hnull => by
      cases ShmLink.ofSlot_eq_null.mp hnull
    refine ⟨_, ?_, (h.setNext hslot (some new)).setTail (some new), ?_⟩
    · simp only [bind, Except.bind, if_neg hne, hslot.link_slotAddr]
      rw [writeLink_ok (by omega)]
      exact writeLink_ok (by rw [overwrite_size, hsize]; decide)
    · refine ((ChangesOnly.refl m _).overwrite ?_).overwrite hmeta
      intro k hk
      rw [ShmLink.bytes_length] at hk
      refine .inr ⟨t, hslot, ?_, hk⟩
      rw [h.tail, ht]

/-- What the loop reads of one slot. -/
theorem SlotBytes.isFree {addr : Nat} {info : SysvshmSlotInfo} (h : SlotBytes e m addr info) :
    (m.bytesAt (addr + offIsInUse) 1 = [0] ∧ ShmLink.ofSlot info.nextSlot = .null) ↔
      (!info.isInUse && info.nextSlot.isNone) = true := by
  rw [h.isInUse, ShmLink.ofSlot_eq_null, Bool.and_eq_true, Option.isNone_iff_eq_none]
  cases info.isInUse <;> simp

theorem shopForSlot_range (h : Layout e m shm) {p : SysvshmPool} (left i : Nat)
    (hend : i + left = p.numSlots) :
    shopForSlot e m p.slotSizes left i (SysvshmPoolSlot.slotAddr ⟨p, i⟩) =
      .ok (((List.range' i left).find? fun i =>
        !(shm.slots ⟨p, i⟩).isInUse && (shm.slots ⟨p, i⟩).nextSlot.isNone).map fun i =>
          (i, SysvshmPoolSlot.addr ⟨p, i⟩)) := by
  have hsize : m.size = 102400 := h.size
  induction left generalizing i with
  | zero => rfl
  | succ left ih =>
    have hslot : SysvshmPoolSlot.IsSlot ⟨p, i⟩ := by
      show i < p.numSlots
      omega
    have hb := hslot.bounds
    have hheader := h.slots _ hslot
    have hnext : SysvshmPoolSlot.slotAddr ⟨p, i⟩ + p.slotSizes =
        SysvshmPoolSlot.slotAddr ⟨p, i + 1⟩ := by
      simp only [SysvshmPoolSlot.slotAddr]
      push_cast
      ring
    have haddr : (SysvshmPoolSlot.slotAddr ⟨p, i⟩).toNat = SysvshmPoolSlot.addr ⟨p, i⟩ := by
      rw [hslot.slotAddr_eq, Int.toNat_natCast]
    have huse := read_ok (show SysvshmPoolSlot.addr ⟨p, i⟩ + offIsInUse + 1 ≤ m.size by
      unfold offIsInUse
      omega)
    unfold shopForSlot
    rw [haddr, huse, readLink_ok (by omega) hheader.next, hnext, List.range'_succ, List.find?_cons]
    simp only [bind, Except.bind]
    by_cases hfree : (!(shm.slots ⟨p, i⟩).isInUse && (shm.slots ⟨p, i⟩).nextSlot.isNone) = true
    · rw [if_pos (hheader.isFree.mpr hfree), hfree]
      rfl
    · rw [if_neg (fun hread => hfree (hheader.isFree.mp hread)), Bool.eq_false_of_not_eq_true hfree]
      exact ih (i + 1) (by omega)

/-- **The loop finds the first free slot of the pool**, at its address. -/
theorem shopForSlot_spec (h : Layout e m shm) (p : SysvshmPool) :
    shopForSlot e m p.slotSizes p.numSlots 0 p.poolOffset =
      .ok ((shm.freeSlot p).map fun i => (i, SysvshmPoolSlot.addr ⟨p, i⟩)) := by
  have hfirst : (p.poolOffset : Int) = SysvshmPoolSlot.slotAddr ⟨p, 0⟩ := by
    simp [SysvshmPoolSlot.slotAddr]
  rw [hfirst, shopForSlot_range h p.numSlots 0 (Nat.zero_add _)]
  unfold SysvshmSegment.freeSlot
  rw [List.range_eq_range']

theorem SysvshmSegment.Linked.setSlot (h : shm.Linked) {info : SysvshmSlotInfo}
    (hinfo : ∀ r', info.nextSlot = some r' → r'.IsSlot) : (shm.setSlot r info).Linked where
  head := h.head
  tail := h.tail
  next r₁ r' hr' := by
    unfold SysvshmSegment.next SysvshmSegment.setSlot at hr'
    by_cases hr₁ : r₁ = r
    · simp only [hr₁, if_true] at hr'
      exact hinfo r' hr'
    · simp only [hr₁, if_false] at hr'
      exact h.next r₁ r' hr'

theorem SysvshmSegment.Linked.enqueueSlot (h : shm.Linked) {new : SysvshmPoolSlot}
    (hnew : new.IsSlot) : (shm.enqueueSlot new).Linked := by
  have hsome : ∀ r', some new = some r' → r'.IsSlot := by
    rintro r' hr'
    cases hr'
    exact hnew
  have hlink : (shm.linkSlot new).Linked := by
    unfold SysvshmSegment.linkSlot
    cases shm.tail with
    | none => exact ⟨hsome, hsome, h.next⟩
    | some t =>
      have hset : (shm.setSlot t { shm.slots t with nextSlot := some new }).Linked :=
        h.setSlot hsome
      exact ⟨hset.head, hsome, hset.next⟩
  rw [SysvshmSegment.enqueueSlot_eq]
  exact hlink.setSlot fun r' hr' => hlink.next new r' hr'

/-- A slot is linked and marked as in use. -/
theorem enqueueSlot_spec (h : Layout e m shm) (hl : shm.Linked) {new : SysvshmPoolSlot}
    (hnew : new.IsSlot) :
    ∃ m', linkSlot e m (.ofSlot (some new)) = .ok m' ∧ m'.size = 102400 ∧
      Layout e (m'.overwrite (new.addr + offIsInUse) [1]) (shm.enqueueSlot new) ∧
      m.ChangesOnly (m'.overwrite (new.addr + offIsInUse) [1])
        (fun k => Within new.addr new.extent k ∨ Linking e m k) := by
  obtain ⟨m', hlink, hlayout, hframe⟩ := linkSlot_spec h hl new
  have hb := hnew.bounds
  refine ⟨m', hlink, hlayout.size, hlayout.setIsInUse hnew true, ?_⟩
  refine (hframe.mono fun k hk => .inr hk).overwrite ?_
  rintro k ⟨hle, hlt⟩
  have hlen : ([1] : Bytes).length = 1 := rfl
  refine .inl ⟨?_, ?_⟩ <;> simp only [offIsInUse] at * <;> omega

/-- The pool of a message is the unlimited one exactly if it fits no fixed pool. -/
theorem choosePool_fits (m : ShmMessage) :
    (choosePool m.msg.size).1 = .poolUnlimit ↔ ∀ p : SysvshmPool, p ≠ .poolUnlimit →
      p.slotSizes < SYSVSHM_SLOT_HEADER_SIZE + (m.msg.image e).length := by
  have hlen := image_length_of_wellFormed e m.wellFormed
  rcases choosePool_spec m.fits with ⟨hp, -, hle⟩ | ⟨hp, hlt, -⟩
  · refine ⟨fun h => absurd h hp, fun h => ?_⟩
    have hbig := h _ hp
    have hfit : m.msg.size.toNat + ITC_HEADER_SIZE + 1 ≤
        ((choosePool m.msg.size).1.slotSizes - SYSVSHM_SLOT_HEADER_SIZE).toNat := hle 0
    unfold SYSVSHM_SLOT_HEADER_SIZE at *
    omega
  · refine ⟨fun _ p hp => ?_, fun _ => hp⟩
    unfold SYSVSHM_SLOT_HEADER_SIZE
    cases p <;> simp only [SysvshmPool.slotSizes] <;> omega

/-- **A message for a fixed pool**: the section leaves everything as it is, or stores the message
in a free slot of the pool and keeps to it. -/
theorem sysvshmStore_static (h : Represents e mem shm) (m : ShmMessage) (rc : UInt32)
    (hp : (choosePool m.msg.size).1 ≠ .poolUnlimit) :
    (sysvshmStore e mem m.msg = .ok (mem, none) ∧
      sysvshmEnqueue e rc shm m.msg = .ok { shm, rc, released := false }) ∨
    ∃ mem' r shm', sysvshmStore e mem m.msg = .ok (mem', some r) ∧
      sysvshmEnqueue e rc shm m.msg = .ok { shm := shm', rc, released := true } ∧
      Represents e mem' shm' ∧ KeepsToSlot e mem mem' m.msg r (PageCounts r) := by
  obtain ⟨-, -, hle⟩ := (choosePool_spec m.fits).resolve_right fun hs => hp hs.1
  have hpool := choosePool_fits (e := e) m
  have hlen := image_length_of_wellFormed e m.wellFormed
  have hshop := shopForSlot_spec h.layout (choosePool m.msg.size).1
  have hdyn := isDynamic_false hp (choosePool m.msg.size).2
  unfold sysvshmStore sysvshmEnqueue
  simp only [hdyn, Bool.false_eq_true, if_false, hshop, txText_ok e m.wellFormed]
  generalize (choosePool m.msg.size).1 = p at hp hle hpool hshop hdyn ⊢
  cases hfree : shm.freeSlot p with
  | none => exact .inl ⟨rfl, rfl⟩
  | some i =>
    unfold SysvshmSegment.freeSlot at hfree
    have hslot : SysvshmPoolSlot.IsSlot ⟨p, i⟩ :=
      List.mem_range.mp (List.mem_of_find?_eq_some hfree)
    have hlooks := List.find?_some hfree
    have hbyte := ((h.layout.slots _ hslot).isFree.mpr hlooks).1
    obtain ⟨m', hlink, hsize, hlayout, hframe⟩ := enqueueSlot_spec h.layout h.linked hslot
    have hb := hslot.bounds
    obtain ⟨-, hextent⟩ := hb.2.2.2.2 hp
    have hfit : (m.msg.image e).length ≤ SysvshmPoolSlot.dataSize ⟨p, i⟩ := by
      rw [hlen]
      exact hle i
    have hdata := hlayout.data _ hslot hp
    have hblock := congrArg List.length hdata
    rw [Region.bytesAt_length, SysvshmSegment.enqueueSlot_data] at hblock
    refine .inr ⟨{ mem with segment := _ }, ⟨p, i⟩, _, ?_, ?_,
      ⟨hlayout.setText hslot hp hfit, ?_, ?_⟩, ?_⟩
    · simp only [bind, Except.bind, Option.map, hlink]
      rw [write_ok (by rw [hsize]; show _ + 9 + 1 ≤ _; omega)]
      simp only
      rw [write_ok (by rw [overwrite_size, hsize]; unfold SYSVSHM_SLOT_HEADER_SIZE; omega)]
      rfl
    · simp only [bind, Except.bind, SysvshmSegment.enqueueSlot_data]
      rw [storeBytes, if_pos (by omega), List.take_zero, List.nil_append, Nat.zero_add]
      rfl
    · exact h.unlimit.trans (SysvshmSegment.enqueueSlot_unlimit ..).symm
    · have hlinked := h.linked.enqueueSlot hslot
      exact ⟨hlinked.head, hlinked.tail, hlinked.next⟩
    · refine ⟨hslot, hpool, fun _ => hbyte, fun _ => ⟨?_, ?_, rfl⟩, fun hu => absurd hu hp, ?_⟩
      · unfold SYSVSHM_SLOT_HEADER_SIZE
        omega
      · exact bytesAt_overwrite_self ..
      · refine (hframe.mono fun k hk => ?_).overwrite ?_
        · exact hk.imp_right .inl
        · rintro k ⟨hge, hlt⟩
          refine .inl ⟨?_, ?_⟩ <;> simp only [SYSVSHM_SLOT_HEADER_SIZE] at * <;> omega

/-- The second segment is the one of `unlimitShmget`. -/
theorem unlimitRegion_bytes (create : Bool) (unlimit : Option Region) (numUnlimitPages : UInt16) :
    (unlimitRegion create unlimit numUnlimitPages).map Region.bytes =
      unlimitShmget (unlimit.map Region.bytes) create numUnlimitPages := by
  unfold unlimitRegion unlimitShmget
  cases unlimit with
  | none =>
    cases create with
    | false => rfl
    | true =>
      simp only [Option.map_none, if_true, Option.map_some, Region.bytes, Region.bytesAt,
        Region.zeroed, Option.some.injEq]
      rw [List.map_const', List.length_range]
  | some seg =>
    have hlen : seg.bytes.length = seg.size := Region.bytesAt_length ..
    simp only [Option.map_some, hlen]
    split <;> rfl

theorem unlimitRegion_size {create : Bool} {unlimit : Option Region} {numUnlimitPages : UInt16}
    {seg : Region} (h : unlimitRegion create unlimit numUnlimitPages = some seg) :
    (SYSVSHM_STATIC_ALLOC_PAGES + numUnlimitPages.toNat) * SYSVSHM_PAGE_SIZE ≤ seg.size := by
  unfold unlimitRegion at h
  cases unlimit with
  | none =>
    cases create with
    | false => cases h
    | true =>
      cases h
      exact Nat.le_refl _
  | some seg' =>
    simp only at h
    split at h
    · rename_i hle
      cases h
      exact hle
    · cases h

theorem bytes_overwrite_start {seg : Region} {text : Bytes} (h : text.length ≤ seg.size) :
    (seg.overwrite 0 text).bytes = text ++ seg.bytes.drop text.length := by
  have hsplit : seg.size = text.length + (seg.size - text.length) := by omega
  unfold Region.bytes
  rw [overwrite_size, hsplit, bytesAt_add, bytesAt_overwrite_self,
    bytesAt_overwrite_of_disjoint (.inr (Nat.le_refl _)), bytesAt_add,
    List.drop_left' (bytesAt_length ..)]

theorem resetSlotUnlimit_spec (h : Layout e m shm) (hl : shm.Linked) (pages : UInt16) :
    ∃ m', resetSlotUnlimit e m pages = .ok m' ∧ Layout e m' (shm.resetUnlimit pages) ∧
      (shm.resetUnlimit pages).Linked ∧ m.ChangesOnly m' fun k =>
        Within SysvshmPoolSlot.unlimit.addr SysvshmPoolSlot.unlimit.extent k ∨
          Within offNumPages 4 k := by
  have hsize : m.size = 102400 := h.size
  have hslot : SysvshmPoolSlot.unlimit.IsSlot := Nat.zero_lt_one
  have hlayout := (((h.setNumUnlimitPages pages).setNumPages
    (UInt16.ofNat SYSVSHM_STATIC_ALLOC_PAGES + pages)).setNext hslot none).setPoolType hslot
      .poolUnlimit
  have hlinked : (shm.setSlot .unlimit
      { shm.slots .unlimit with nextSlot := none, poolType := .poolUnlimit }).Linked :=
    hl.setSlot fun r' hr' => by cases hr'
  rw [SysvshmSegment.setSlot_setSlot, SysvshmSegment.setSlot_self] at hlayout
  refine ⟨_, ?_, hlayout, ⟨hlinked.head, hlinked.tail, hlinked.next⟩, ?_⟩
  · unfold resetSlotUnlimit
    simp only [bind, Except.bind]
    rw [write_ok (by rw [half_length, hsize]; decide)]
    simp only
    rw [write_ok (by rw [half_length, overwrite_size, hsize]; decide)]
    simp only
    rw [writeLink_ok (by rw [overwrite_size, overwrite_size, hsize]; decide)]
    exact write_ok (by rw [overwrite_size, overwrite_size, overwrite_size, hsize]; decide)
  · refine ((((ChangesOnly.refl m _).overwrite ?_).overwrite ?_).overwrite ?_).overwrite ?_
    · rintro k ⟨hle, hlt⟩
      rw [half_length] at hlt
      refine .inr ⟨?_, ?_⟩ <;> simp only [offNumUnlimitPages, offNumPages] at * <;> omega
    · rintro k ⟨hle, hlt⟩
      rw [half_length] at hlt
      refine .inr ⟨hle, ?_⟩
      omega
    · rintro k ⟨hle, hlt⟩
      rw [ShmLink.bytes_length] at hlt
      refine .inl ⟨hle, ?_⟩
      show k < SysvshmPoolSlot.unlimit.addr + 12
      omega
    · rintro k ⟨hle, hlt⟩
      have hlen : k < SysvshmPoolSlot.unlimit.addr + 8 + 1 := hlt
      refine .inl ⟨?_, ?_⟩
      · omega
      · show k < SysvshmPoolSlot.unlimit.addr + 12
        omega

theorem Linking.of_tail {m' : Region} (h : m'.bytesAt offTail 8 = m.bytesAt offTail 8) {k : Nat}
    (hk : Linking e m' k) : Linking e m k := by
  unfold Linking at hk
  rw [h] at hk
  exact hk

/-- **A large message** for which the second segment is there: it goes into that segment, with
`slot_unlimit` as its place in the queue. -/
theorem sysvshmStore_dynamic (h : Represents e mem shm) (m : ShmMessage) (rc : UInt32)
    (hbig : 16384 ≤ m.msg.size.toNat + ITC_HEADER_SIZE + 1)
    (hseg : (unlimitRegion true mem.unlimit (choosePool m.msg.size).2).isSome) :
    ∃ mem' r shm', sysvshmStore e mem m.msg = .ok (mem', some r) ∧
      sysvshmEnqueue e rc shm m.msg = .ok { shm := shm', rc, released := true } ∧
      Represents e mem' shm' ∧ KeepsToSlot e mem mem' m.msg r (PageCounts r) := by
  obtain ⟨hpool, hpages⟩ := choosePool_large m (by omega)
  have hfits := choosePool_fits (e := e) m
  have hdyn := isDynamic_of_large hbig
  have hlen := image_length_of_wellFormed e m.wellFormed
  obtain ⟨seg, hseg⟩ := Option.isSome_iff_exists.mp hseg
  have hsegBytes := unlimitRegion_bytes true mem.unlimit (choosePool m.msg.size).2
  have hsegSize := unlimitRegion_size hseg
  rw [hseg, h.unlimit, Option.map_some] at hsegBytes
  have hsize : mem.segment.size = 102400 := h.layout.size
  have hslot : SysvshmPoolSlot.unlimit.IsSlot := Nat.zero_lt_one
  have hfit : (m.msg.image e).length ≤ seg.size := by
    refine Nat.le_trans ?_ hsegSize
    rw [hlen, hpages]
    simp only [SYSVSHM_STATIC_ALLOC_PAGES, SYSVSHM_PAGE_SIZE]
    omega
  have hsegLen : seg.bytes.length = seg.size := Region.bytesAt_length ..
  unfold sysvshmStore sysvshmEnqueue initUnilimitSysvshm
  simp only [hdyn, if_true, hseg, ← hsegBytes, txText_ok e m.wellFormed]
  rw [hpool] at hfits ⊢
  generalize (choosePool m.msg.size).2 = pages
  obtain ⟨m₁, hreset, hlayout₁, hlinked, hframe⟩ := resetSlotUnlimit_spec h.layout h.linked pages
  obtain ⟨m₂, hlink, hsize₂, hlayout, hframe'⟩ := enqueueSlot_spec hlayout₁ hlinked hslot
  refine ⟨⟨m₂.overwrite (SysvshmPoolSlot.unlimit.addr + offIsInUse) [1],
    some (seg.overwrite 0 (m.msg.image e))⟩, .unlimit,
    { (shm.resetUnlimit pages).enqueueSlot .unlimit with
      unlimit := some (m.msg.image e ++ seg.bytes.drop (m.msg.image e).length) },
    ?_, ?_, ⟨?_, ?_, ?_⟩, ?_⟩
  · have hwrite := write_ok (show SysvshmPoolSlot.unlimit.addr + offIsInUse +
      ([1] : Bytes).length ≤ m₂.size by rw [hsize₂]; decide)
    simp only [bind, Except.bind, hreset]
    rw [show (⟨.poolUnlimit, 0⟩ : SysvshmPoolSlot) = .unlimit from rfl, hlink]
    simp only
    rw [show SysvshmPool.poolUnlimit.poolOffset = SysvshmPoolSlot.unlimit.addr from rfl, hwrite]
    simp only [deref]
    rw [write_ok (by omega)]
    rfl
  · simp only [bind, Except.bind]
    rw [storeBytes, if_pos (by omega), List.take_zero, List.nil_append, Nat.zero_add]
    rfl
  · exact ⟨hlayout.size, hlayout.numPages, hlayout.numUnlimitPages, hlayout.head, hlayout.tail,
      hlayout.slots, hlayout.data⟩
  · exact congrArg some (bytes_overwrite_start hfit)
  · have hall := hlinked.enqueueSlot hslot
    exact ⟨hall.head, hall.tail, hall.next⟩
  · refine ⟨hslot, hfits, fun hp => absurd rfl hp, fun hp => absurd rfl hp,
      fun _ => ⟨_, rfl, hfit, ?_⟩, ?_⟩
    · exact bytesAt_overwrite_self ..
    · have htail : m₁.bytesAt offTail 8 = mem.segment.bytesAt offTail 8 := by
        rw [h.layout.tail, hlayout₁.tail]
        rfl
      refine (hframe.mono fun k hk => ?_).trans (hframe'.mono fun k hk => ?_)
      · exact hk.imp_right fun hpages => .inr ⟨rfl, hpages⟩
      · exact hk.imp_right fun hlinking => .inl (hlinking.of_tail htail)

theorem ShmLink.ofSlot_inj {t t' : SysvshmPoolSlot} (h : t.IsSlot) (h' : t'.IsSlot)
    (heq : ofSlot (some t) = ofSlot (some t')) : t = t' := by
  by_contra hne
  have haddr := h.link_slotAddr
  rw [heq, h'.link_slotAddr] at haddr
  have hd := h.disjoint h' hne
  have hb := h.bounds
  have hb' := h'.bounds
  have hsame : t'.addr = t.addr := Except.ok.inj haddr
  omega

/-- **Taking out the head.** -/
theorem removeHeadSlot_spec (h : Layout e m shm) (hl : shm.Linked) {t : SysvshmPoolSlot}
    (ht : shm.head = some t) :
    ∃ m', removeHeadSlot e m (.ofSlot (some t)) t.addr = .ok m' ∧
      Layout e m' (shm.removeHead t) ∧ (shm.removeHead t).Linked := by
  have hsize : m.size = 102400 := h.size
  have hslot := hl.head t ht
  have hb := hslot.bounds
  have hread := readLink_ok (show offTail + 8 ≤ m.size by rw [hsize]; decide) h.tail
  have hclean : ∀ {m₁ : Region} {shm₁ : SysvshmSegment}, Layout e m₁ shm₁ → shm₁.Linked →
      ∃ m', (do
          let m₂ ← m₁.write (t.addr + offIsInUse) [0]
          writeLink e m₂ t.addr .null) = .ok m' ∧
        Layout e m' (shm₁.setSlot t { shm₁.slots t with isInUse := false, nextSlot := none }) ∧
        (shm₁.setSlot t { shm₁.slots t with isInUse := false, nextSlot := none }).Linked := by
    intro m₁ shm₁ hlayout hlinked
    have hsize₁ : m₁.size = 102400 := hlayout.size
    have hcleaned := (hlayout.setIsInUse hslot false).setNext hslot none
    rw [SysvshmSegment.setSlot_setSlot, SysvshmSegment.setSlot_self] at hcleaned
    refine ⟨_, ?_, hcleaned, hlinked.setSlot fun r' hr' => by cases hr'⟩
    rw [write_ok (by rw [hsize₁]; show t.addr + 9 + 1 ≤ _; omega)]
    exact writeLink_ok (by rw [overwrite_size, hsize₁]; omega)
  unfold removeHeadSlot SysvshmSegment.removeHead
  rw [hread]
  by_cases htail : shm.tail = some t
  · have hlinked : ({ shm with head := none, tail := none } : SysvshmSegment).Linked :=
      ⟨fun _ hr => (nomatch hr), fun _ hr => (nomatch hr), hl.next⟩
    obtain ⟨m', hrun, hspec⟩ := hclean ((h.setHead none).setTail none) hlinked
    rw [if_pos htail]
    refine ⟨m', ?_, hspec⟩
    rw [← hrun]
    simp only [bind, Except.bind, htail, if_true]
    rw [writeLink_ok (by rw [hsize]; decide)]
    simp only
    rw [writeLink_ok (by rw [overwrite_size, hsize]; decide)]
    rfl
  · have hne : ShmLink.ofSlot (some t) ≠ ShmLink.ofSlot shm.tail := by
      intro heq
      cases htl : shm.tail with
      | none =>
        rw [htl] at heq
        cases ShmLink.ofSlot_eq_null.mp heq
      | some t' =>
        rw [htl] at heq htail
        exact htail (congrArg some (ShmLink.ofSlot_inj hslot (hl.tail t' htl) heq).symm)
    have hlinked : ({ shm with head := (shm.slots t).nextSlot } : SysvshmSegment).Linked :=
      ⟨hl.next t, hl.tail, hl.next⟩
    obtain ⟨m', hrun, hspec⟩ := hclean (h.setHead (shm.slots t).nextSlot) hlinked
    rw [if_neg htail]
    refine ⟨m', ?_, hspec⟩
    rw [← hrun]
    simp only [bind, Except.bind, if_neg hne]
    rw [readLink_ok (by omega) (h.slots t hslot).next]
    simp only
    rw [writeLink_ok (by rw [hsize]; decide)]

/-- The number of pages of the second segment, if the head of the queue is in it. -/
def SysvshmSegment.headPages (shm : SysvshmSegment) (t : SysvshmPoolSlot) : UInt16 :=
  if t.whichpool = .poolUnlimit ∧ 0 < shm.numUnlimitPages then shm.numUnlimitPages else 0

/-- The segment after the head has been received. -/
def SysvshmSegment.received (shm : SysvshmSegment) (t : SysvshmPoolSlot) : SysvshmSegment :=
  if 0 < shm.headPages t then
    { shm.removeHead t with
      unlimit := none
      numUnlimitPages := 0
      numPages := UInt16.ofNat SYSVSHM_STATIC_ALLOC_PAGES }
  else shm.removeHead t

theorem sysvshmDequeue_received {a : Allocator} {hand : MboxId → HandOver} {r : SysvshmDequeued}
    {t : SysvshmPoolSlot} (ht : shm.head = some t) (hd : sysvshmDequeue e a hand shm = .ok r)
    (hrunning : r.running = true) : r.shm = shm.received t := by
  have hpages : (if t.whichpool = .poolUnlimit ∧ 0 < shm.numUnlimitPages
      then shm.numUnlimitPages else 0) = shm.headPages t := rfl
  unfold sysvshmDequeue at hd
  unfold SysvshmSegment.received
  rw [ht] at hd
  simp only [gt_iff_lt, hpages] at hd
  generalize shm.headPages t = n at hd ⊢
  obtain ⟨fwd, rfl⟩ : ∃ fwd, r = shm.handedOver hand t n fwd := by
    split at hd
    · cases hd
      exact ⟨none, rfl⟩
    · split at hd
      · split at hd
        · cases hd
        · obtain ⟨fwd, -, hd⟩ := bind_eq_ok hd
          cases hd
          exact ⟨fwd, rfl⟩
      · obtain ⟨fwd, -, hd⟩ := bind_eq_ok hd
        cases hd
        exact ⟨fwd, rfl⟩
  unfold SysvshmSegment.handedOver at hrunning ⊢
  split
  · rfl
  · rename_i hwaits
    rw [if_neg hwaits] at hrunning
    cases hrunning

/-- **The section of the receiver** computes on the bytes what `sysvshmDequeue` computes on the
segment (`sysvshmDequeue_received`), once it has found the message. -/
theorem sysvshmTakeOut_spec (h : Represents e mem shm) {t : SysvshmPoolSlot}
    (ht : shm.head = some t) :
    ∃ mem', Represents e mem' (shm.received t) ∧ sysvshmTakeOut e mem =
      (receivedText mem t.addr (shm.headPages t)).map fun text => (mem', text) := by
  have hsize : mem.segment.size = 102400 := h.layout.size
  have hslot := h.linked.head t ht
  have hhead := readLink_ok (show offHead + 8 ≤ mem.segment.size by rw [hsize]; decide)
    h.layout.head
  obtain ⟨m₁, hrun, hlayout, hlinked⟩ := removeHeadSlot_spec h.layout h.linked ht
  have hsize₁ : m₁.size = 102400 := hlayout.size
  have hpages := read_ok (show offNumUnlimitPages + 2 ≤ mem.segment.size by rw [hsize]; decide)
  have hn : (if t.whichpool = .poolUnlimit ∧ 0 < shm.numUnlimitPages
      then shm.numUnlimitPages else 0) = shm.headPages t := rfl
  rw [h.layout.numUnlimitPages] at hpages
  rw [ht] at hhead
  unfold sysvshmTakeOut SysvshmSegment.received
  simp only [bind, Except.bind, hhead, if_pos hslot.link_ne, hpages, ofHalf_half,
    ShmLink.ofSlot_pool, hslot.link_slotAddr, hn]
  by_cases hlarge : 0 < shm.headPages t
  · have hfinal := (hlayout.setNumUnlimitPages 0).setNumPages
      (UInt16.ofNat SYSVSHM_STATIC_ALLOC_PAGES)
    refine ⟨⟨(m₁.overwrite offNumUnlimitPages (half e 0)).overwrite offNumPages
      (half e (UInt16.ofNat SYSVSHM_STATIC_ALLOC_PAGES)), none⟩, ?_, ?_⟩
    · rw [if_pos hlarge]
      exact ⟨⟨hfinal.size, hfinal.numPages, hfinal.numUnlimitPages, hfinal.head, hfinal.tail,
        hfinal.slots, hfinal.data⟩, rfl, hlinked.head, hlinked.tail, hlinked.next⟩
    · cases receivedText mem t.addr (shm.headPages t) with
      | error fault => rfl
      | ok text =>
        simp only [hrun, if_pos hlarge]
        rw [write_ok (by rw [half_length, hsize₁]; decide)]
        simp only
        rw [write_ok (by rw [half_length, overwrite_size, hsize₁]; decide)]
        rfl
  · refine ⟨{ mem with segment := m₁ }, ?_, ?_⟩
    · rw [if_neg hlarge]
      refine ⟨hlayout, ?_, hlinked⟩
      rw [SysvshmSegment.removeHead_unlimit]
      exact h.unlimit
    · cases receivedText mem t.addr (shm.headPages t) with
      | error fault => rfl
      | ok text =>
        simp only [hrun, if_neg hlarge]
        rfl

/-- The message of a slot is found: the second segment is there when it is needed. -/
theorem receivedText_ok (h : Represents e mem shm) {t : SysvshmPoolSlot} {m₁ : ShmMessage}
    {q : List (SysvshmPoolSlot × ShmMessage)} (hq : shm.Holds e ((t, m₁) :: q)) :
    ∃ text, receivedText mem t.addr (shm.headPages t) = .ok text := by
  have hsize : mem.segment.size = 102400 := h.layout.size
  have hslot := h.linked.head t hq.threaded.head_eq
  have hb := hslot.bounds
  have huse := read_ok (show t.addr + offIsInUse + 1 ≤ mem.segment.size by
    unfold offIsInUse
    omega)
  have htype := read_ok (show t.addr + offPoolType + 1 ≤ mem.segment.size by
    unfold offPoolType
    omega)
  unfold receivedText
  simp only [bind, Except.bind, huse, htype]
  split
  · exact ⟨none, rfl⟩
  · by_cases hlarge : 0 < shm.headPages t
    · rw [if_pos hlarge]
      unfold SysvshmSegment.headPages at hlarge ⊢
      split at hlarge
      · rename_i hpool
        rw [if_pos hpool]
        have hunlimit : t = .unlimit := hslot.eq_unlimit hpool.1
        obtain ⟨-, hget, hsome⟩ := hq.segment (hunlimit ▸ List.mem_cons_self)
        have hregion := unlimitRegion_bytes false mem.unlimit shm.numUnlimitPages
        rw [h.unlimit, hget] at hregion
        rw [← hregion, Option.isSome_map] at hsome
        obtain ⟨seg, hseg⟩ := Option.isSome_iff_exists.mp hsome
        rw [hseg]
        exact ⟨_, rfl⟩
      · exact absurd hlarge (Nat.lt_irrefl 0)
    · rw [if_neg hlarge]
      exact ⟨_, rfl⟩

/-- Whatever the receiver finds, the links stay links to slots. -/
theorem sysvshmTakeOut_represents (h : Represents e mem shm) {mem' : ShmMemory}
    {msg : Option Bytes} (hr : sysvshmTakeOut e mem = .ok (mem', msg)) :
    ∃ shm', Represents e mem' shm' := by
  cases ht : shm.head with
  | none =>
    have hsize : mem.segment.size = 102400 := h.layout.size
    have hhead := readLink_ok (show offHead + 8 ≤ mem.segment.size by rw [hsize]; decide)
      h.layout.head
    unfold sysvshmTakeOut at hr
    rw [hhead, ht] at hr
    cases hr
    exact ⟨shm, h⟩
  | some t =>
    obtain ⟨mem₁, hspec, heq⟩ := sysvshmTakeOut_spec h ht
    rw [heq] at hr
    cases htext : receivedText mem t.addr (shm.headPages t) with
    | error fault =>
      rw [htext] at hr
      cases hr
    | ok text =>
      rw [htext] at hr
      cases hr
      exact ⟨_, hspec⟩

/-! ### The segment after `sysvshm_init` -/

/-- What the zeros of a new segment stand for. -/
def SysvshmSegment.zeroed : SysvshmSegment where
  numPages := 0
  numUnlimitPages := 0
  head := some ⟨.pool96, 0⟩
  tail := some ⟨.pool96, 0⟩
  slots := fun _ => ⟨some ⟨.pool96, 0⟩, .pool96, false⟩
  data := fun r => List.replicate r.dataSize 0
  unlimit := none

theorem bytesAt_zeroed (size off n : Nat) :
    (Region.zeroed size).bytesAt off n = List.replicate n 0 := by
  unfold Region.bytesAt Region.zeroed
  rw [List.map_const', List.length_range]

theorem Layout.zeroed (e : Endian) : Layout e (.zeroed 102400) .zeroed where
  size := rfl
  numPages := by
    rw [bytesAt_zeroed]
    cases e <;> rfl
  numUnlimitPages := by
    rw [bytesAt_zeroed]
    cases e <;> rfl
  head := by
    rw [bytesAt_zeroed]
    cases e <;> rfl
  tail := by
    rw [bytesAt_zeroed]
    cases e <;> rfl
  slots r _ := by
    constructor <;> rw [bytesAt_zeroed]
    · show List.replicate 8 0 = (ShmLink.ofSlot (some ⟨.pool96, 0⟩)).bytes e
      cases e <;> rfl
    · rfl
    · rfl
  data r _ _ := bytesAt_zeroed ..

/-- The slots of one pool from `i` on are set up. -/
def SysvshmSegment.initPool (shm : SysvshmSegment) (p : SysvshmPool) (i : Nat) : SysvshmSegment :=
  { shm with
    slots := fun r =>
      if r.whichpool = p ∧ i ≤ r.whichslot ∧ r.IsSlot then ⟨none, p, false⟩ else shm.slots r }

theorem SysvshmSegment.initPool_succ {p : SysvshmPool} {i : Nat}
    (hslot : SysvshmPoolSlot.IsSlot ⟨p, i⟩) :
    (shm.setSlot ⟨p, i⟩ ⟨none, p, false⟩).initPool p (i + 1) = shm.initPool p i := by
  unfold initPool setSlot
  congr 1
  funext r
  show (if r.whichpool = p ∧ i + 1 ≤ r.whichslot ∧ r.IsSlot then _
    else if r = ⟨p, i⟩ then _ else shm.slots r) = _
  by_cases hr : r = ⟨p, i⟩
  · subst hr
    rw [if_neg (by simp), if_pos rfl, if_pos ⟨rfl, Nat.le_refl _, hslot⟩]
  · have hiff : (r.whichpool = p ∧ i + 1 ≤ r.whichslot ∧ r.IsSlot) ↔
        (r.whichpool = p ∧ i ≤ r.whichslot ∧ r.IsSlot) := by
      refine and_congr_right fun hp => and_congr_left fun _ => ⟨fun hle => by omega, fun hle => ?_⟩
      rcases Nat.eq_or_lt_of_le hle with heq | hlt
      · exact absurd (by cases r; cases hp; cases heq; rfl) hr
      · exact hlt
    rw [if_neg hr]
    simp only [hiff]

theorem initPool_spec (h : Layout e m shm) {p : SysvshmPool} (left i : Nat)
    (hend : i + left = p.numSlots) :
    ∃ m', initPool e p left (SysvshmPoolSlot.addr ⟨p, i⟩) m = .ok m' ∧
      Layout e m' (shm.initPool p i) := by
  induction left generalizing m shm i with
  | zero =>
    refine ⟨m, rfl, ?_⟩
    have heq : shm.initPool p i = shm := by
      unfold SysvshmSegment.initPool
      congr 1
      funext r
      apply if_neg
      rintro ⟨hp, hle, hlt⟩
      rw [SysvshmPoolSlot.IsSlot, hp] at hlt
      omega
    rw [heq]
    exact h
  | succ left ih =>
    have hslot : SysvshmPoolSlot.IsSlot ⟨p, i⟩ := by
      show i < p.numSlots
      omega
    have hb := hslot.bounds
    have hsize : m.size = 102400 := h.size
    have hlayout := ((h.setPoolType hslot p).setIsInUse hslot false).setNext hslot none
    rw [SysvshmSegment.setSlot_setSlot, SysvshmSegment.setSlot_setSlot,
      SysvshmSegment.setSlot_self, SysvshmSegment.setSlot_self] at hlayout
    obtain ⟨m', hrun, hspec⟩ := ih hlayout (i + 1) (by omega)
    have hnext : SysvshmPoolSlot.addr ⟨p, i⟩ + p.slotSizes.toNat =
        SysvshmPoolSlot.addr ⟨p, i + 1⟩ := by
      unfold SysvshmPoolSlot.addr
      ring
    refine ⟨m', ?_, ?_⟩
    · unfold initPool
      rw [write_ok (by show _ + 8 + 1 ≤ _; omega)]
      simp only [bind, Except.bind]
      rw [write_ok (by rw [overwrite_size]; show _ + 9 + 1 ≤ _; omega)]
      simp only
      rw [writeLink_ok (by rw [overwrite_size, overwrite_size]; omega), hnext]
      exact hrun
    · rw [← SysvshmSegment.initPool_succ hslot]
      exact hspec

theorem initPools_spec (h : Layout e m shm) (l : List SysvshmPool) :
    ∃ m', l.foldlM (fun m p => initPool e p p.numSlots p.poolOffset m) m = .ok m' ∧
      Layout e m' (l.foldl (fun shm p => shm.initPool p 0) shm) := by
  induction l generalizing m shm with
  | nil => exact ⟨m, rfl, h⟩
  | cons p l ih =>
    obtain ⟨m₁, hrun, hspec⟩ := initPool_spec h p.numSlots 0 (Nat.zero_add p.numSlots)
    obtain ⟨m', hrest, hfinal⟩ := ih hspec
    refine ⟨m', ?_, hfinal⟩
    rw [List.foldlM_cons, ← hrest]
    have hfirst : SysvshmPoolSlot.addr ⟨p, 0⟩ = p.poolOffset := Nat.add_zero _
    rw [← hfirst, hrun]
    rfl

/-- **`init_sysvshm_mempool`** lays out an empty queue. -/
theorem initSysvshmMempool_spec (e : Endian) :
    ∃ m, initSysvshmMempool e (.zeroed 102400) = .ok m ∧ Layout e m .init := by
  have hlayout := (((((Layout.zeroed e).setHead none).setTail none).setNumPages
    (UInt16.ofNat SYSVSHM_STATIC_ALLOC_PAGES)).setNumUnlimitPages 0)
  obtain ⟨m, hrun, hspec⟩ := initPools_spec hlayout
    [.pool96, .pool480, .pool992, .pool2016, .pool4064, .pool16352]
  refine ⟨m, ?_, hspec.size, hspec.numPages, hspec.numUnlimitPages, hspec.head, hspec.tail,
    fun r hr => ?_, hspec.data⟩
  · rw [← hrun]
    unfold initSysvshmMempool
    simp only [bind, Except.bind]
    rw [writeLink_ok (by decide)]
    simp only
    rw [writeLink_ok (by show _ ≤ 102400; decide)]
    simp only
    rw [write_ok (by rw [half_length]; show _ ≤ 102400; decide)]
    simp only
    rw [write_ok (by rw [half_length]; show _ ≤ 102400; decide)]
    rfl
  · have hheader := hspec.slots r hr
    obtain ⟨p, i⟩ := r
    simp only [List.foldl, SysvshmSegment.initPool] at hheader
    cases p <;> simpa [hr, SysvshmSegment.init, SysvshmSegment.zeroed] using hheader

end Sections

/-! ## Runs -/

/-- The sections that are entered one after the other. -/
inductive ShmSection where
  | store (m : ShmMessage)
  | takeOut

/-- A section that comes to its end. -/
inductive ShmSectionStep (e : Endian) (mem : ShmMemory) : ShmSection → ShmMemory → Prop where
  | store {m : ShmMessage} {mem' : ShmMemory} {r : Option SysvshmPoolSlot}
      (hr : sysvshmStore e mem m.msg = .ok (mem', r)) : ShmSectionStep e mem (.store m) mem'
  | takeOut {mem' : ShmMemory} {msg : Option Bytes} (hr : sysvshmTakeOut e mem = .ok (mem', msg)) :
      ShmSectionStep e mem .takeOut mem'

/-- A message that fits no fixed pool but is not large enough for the second segment. -/
def InBand (m : ShmMessage) : Prop :=
  16352 < m.msg.size.toNat + ITC_HEADER_SIZE + 1 ∧ m.msg.size.toNat + ITC_HEADER_SIZE + 1 < 16384

/-- No section stores a message in the band. -/
def OutOfBand (_ : ShmMemory) (act : ShmSection) : Prop := ∀ m, act = .store m → ¬ InBand m

/-- The second segment can be had if the message needs one. -/
def HasSegment (mem : ShmMemory) (m : ShmMessage) : Prop :=
  isDynamic (choosePool m.msg.size).1 (choosePool m.msg.size).2 = true →
    (unlimitRegion true mem.unlimit (choosePool m.msg.size).2).isSome = true

section Runs

variable {e : Endian} {mem mem' : ShmMemory} {shm : SysvshmSegment}

/-- The pool of a message outside the band is a fixed one, or the message is large. -/
theorem choosePool_of_not_inBand {m : ShmMessage} (h : ¬ InBand m) :
    (choosePool m.msg.size).1 ≠ .poolUnlimit ∨
      16384 ≤ m.msg.size.toNat + ITC_HEADER_SIZE + 1 := by
  rcases choosePool_spec m.fits with ⟨hp, -, -⟩ | ⟨-, hlt, -⟩
  · exact .inl hp
  · refine .inr ?_
    unfold InBand at h
    omega

theorem sysvshmStore_spec (h : Represents e mem shm) {m : ShmMessage} (hband : ¬ InBand m)
    (hseg : HasSegment mem m) :
    (sysvshmStore e mem m.msg = .ok (mem, none) ∧
      sysvshmEnqueue e ITC_OK shm m.msg = .ok { shm, rc := ITC_OK, released := false }) ∨
    ∃ mem' r shm', sysvshmStore e mem m.msg = .ok (mem', some r) ∧
      sysvshmEnqueue e ITC_OK shm m.msg = .ok { shm := shm', rc := ITC_OK, released := true } ∧
      Represents e mem' shm' ∧ KeepsToSlot e mem mem' m.msg r (PageCounts r) := by
  rcases choosePool_of_not_inBand hband with hp | hbig
  · exact sysvshmStore_static h m ITC_OK hp
  · exact .inr (sysvshmStore_dynamic h m ITC_OK hbig (hseg (isDynamic_of_large hbig)))

/-- A section that comes to its end has had the second segment. -/
theorem hasSegment_of_store {m : ShmMessage} {r : Option SysvshmPoolSlot}
    (hr : sysvshmStore e mem m.msg = .ok (mem', r)) : HasSegment mem m := by
  intro hdyn
  unfold sysvshmStore at hr
  simp only [hdyn, if_true] at hr
  obtain ⟨m₁, -, hr⟩ := bind_eq_ok hr
  obtain ⟨m₂, -, hr⟩ := bind_eq_ok hr
  obtain ⟨m₃, -, hr⟩ := bind_eq_ok hr
  obtain ⟨seg, hseg, -⟩ := bind_eq_ok hr
  cases hregion : unlimitRegion true mem.unlimit (choosePool m.msg.size).2 with
  | none =>
    rw [hregion] at hseg
    cases hseg
  | some seg' => rfl

/-- **Every section outside the band** leaves bytes that stand for a segment. -/
theorem ShmSectionStep.represents (h : Represents e mem shm) {act : ShmSection}
    (hband : OutOfBand mem act) (hstep : ShmSectionStep e mem act mem') :
    ∃ shm', Represents e mem' shm' := by
  cases hstep with
  | @store m _ r hr =>
    have hseg := hasSegment_of_store hr
    rcases sysvshmStore_spec h (hband m rfl) hseg with ⟨hsame, -⟩ | ⟨mem₁, r₁, shm', hok, -, hspec, -⟩
    · rw [hsame] at hr
      cases hr
      exact ⟨shm, h⟩
    · rw [hok] at hr
      cases hr
      exact ⟨shm', hspec⟩
  | takeOut hr => exact sysvshmTakeOut_represents h hr

theorem Represents.init {start : Region} (h : initSysvshmMempool e (.zeroed 102400) = .ok start) :
    Represents e ⟨start, none⟩ .init := by
  obtain ⟨m, hrun, hlayout⟩ := initSysvshmMempool_spec e
  rw [h] at hrun
  cases hrun
  refine ⟨hlayout, rfl, ⟨fun _ hr => (nomatch hr), fun _ hr => (nomatch hr), fun r r' hr => ?_⟩⟩
  unfold SysvshmSegment.next SysvshmSegment.init at hr
  by_cases hp : r.whichpool = .poolUnlimit
  · simp only [hp, if_true] at hr
    cases hr
    decide
  · simp only [hp, if_false] at hr
    cases hr

/-- **Every write stays in its slot.** After any sections of senders and receiver, a message
outside the band finds no slot and changes nothing, or is stored where it belongs: in a free slot
of the first pool that fits, or, when it fits no fixed pool, in the second segment. -/
theorem sysvshm_keeps_to_slot (e : Endian) {start : Region} {acts : List ShmSection}
    (hstart : initSysvshmMempool e (.zeroed (SYSVSHM_STATIC_ALLOC_PAGES * SYSVSHM_PAGE_SIZE)) =
      .ok start)
    (hrun : Run (Guarded (ShmSectionStep e) OutOfBand) ⟨start, none⟩ acts mem) (m : ShmMessage)
    (hband : ¬ InBand m) (hseg : HasSegment mem m) :
    sysvshmStore e mem m.msg = .ok (mem, none) ∨
      ∃ mem' r, sysvshmStore e mem m.msg = .ok (mem', some r) ∧
        KeepsToSlot e mem mem' m.msg r (PageCounts r) := by
  have hinv := hrun.invariant_of_guard (I := fun mem => ∃ shm, Represents e mem shm)
    (fun _ _ _ ⟨_, h⟩ hguard hstep => hstep.represents h hguard) ⟨_, Represents.init hstart⟩
  obtain ⟨shm, h⟩ := hinv
  rcases sysvshmStore_spec h hband hseg with ⟨hsame, -⟩ | ⟨mem', r, -, hok, -, -, hkeeps⟩
  · exact .inl hsame
  · exact .inr ⟨mem', r, hok, hkeeps⟩

/-- **A large message comes and goes**: then the second segment is gone again. -/
theorem large_taken_out {start : Region} (h₀ : Represents e ⟨start, none⟩ .init) (m : ShmMessage)
    (hbig : 16384 ≤ m.msg.size.toNat + ITC_HEADER_SIZE + 1) :
    ∃ mem₁ mem₂ r shm₁ text, sysvshmStore e ⟨start, none⟩ m.msg = .ok (mem₁, some r) ∧
      Represents e mem₁ shm₁ ∧ 0 < shm₁.numUnlimitPages ∧
      sysvshmTakeOut e mem₁ = .ok (mem₂, text) ∧
      Represents e mem₂ (shm₁.received .unlimit) ∧ mem₂.unlimit = none := by
  obtain ⟨mem₁, r, shm₁, hstore, henq, h₁, -⟩ := sysvshmStore_dynamic h₀ m ITC_OK hbig rfl
  obtain ⟨shm', henq', hholds⟩ := sysvshmEnqueue_dynamic (.init e) m ITC_OK hbig rfl
  obtain rfl : shm₁ = shm' := by
    rw [henq'] at henq
    cases henq
    rfl
  obtain ⟨hpos, -⟩ := hholds.segment List.mem_cons_self
  have hpages : shm₁.headPages .unlimit = shm₁.numUnlimitPages := if_pos ⟨rfl, hpos⟩
  obtain ⟨mem₂, h₂, htake⟩ := sysvshmTakeOut_spec h₁ hholds.threaded.head_eq
  obtain ⟨text, htext⟩ := receivedText_ok h₁ hholds
  rw [htext] at htake
  have hnone := h₂.unlimit
  unfold SysvshmSegment.received at hnone
  rw [hpages, if_pos hpos] at hnone
  exact ⟨mem₁, mem₂, r, shm₁, _, hstore, h₁, hpos, htake, h₂, Option.map_eq_none_iff.mp hnone⟩

/-- A second large message, after one has come and gone: its 20017 bytes are in the second
segment. -/
theorem sysvshm_keeps_to_slot_large :
    let m : ShmMessage := { UserMessage.fresh .little 20000 7 0x00200001 (by decide)
      (by decide) with fits := by decide }
    ∃ start mem mem' r seg, initSysvshmMempool .little
        (.zeroed (SYSVSHM_STATIC_ALLOC_PAGES * SYSVSHM_PAGE_SIZE)) = .ok start ∧
      Run (Guarded (ShmSectionStep .little) OutOfBand) ⟨start, none⟩ [.store m, .takeOut] mem ∧
      sysvshmStore .little mem m.msg = .ok (mem', some r) ∧
      KeepsToSlot .little mem mem' m.msg r (PageCounts r) ∧
      mem'.unlimit = some seg ∧ seg.bytesAt 0 20017 = m.msg.image .little := by
  intro m
  obtain ⟨start, hstart, -⟩ := initSysvshmMempool_spec .little
  have hband : ¬ InBand m := by
    unfold InBand
    decide
  obtain ⟨mem₁, mem, r₁, shm₁, text, hstore₁, -, -, htake, h₂, hnone⟩ :=
    large_taken_out (.init hstart) m (by decide)
  have hrun : Run (Guarded (ShmSectionStep .little) OutOfBand) ⟨start, none⟩
      [.store m, .takeOut] mem := by
    refine .cons ⟨?_, .store hstore₁⟩ (.cons ⟨?_, .takeOut htake⟩ (.nil _))
    · rintro _ ⟨⟩
      exact hband
    · exact fun _ hno => by cases hno
  have hseg : HasSegment mem m := by
    intro _
    rw [hnone]
    rfl
  obtain hfull | ⟨mem', r, hstore, hkeeps⟩ := sysvshm_keeps_to_slot .little hstart hrun m hband hseg
  · -- a large message always finds its slot
    obtain ⟨mem', r, shm', hstore, -⟩ :=
      sysvshmStore_dynamic h₂ m ITC_OK (by decide) (hseg (isDynamic_of_large (by decide)))
    cases hfull.symm.trans hstore
  · have hlen := image_length_of_wellFormed .little m.wellFormed
    have hpool : r.whichpool = .poolUnlimit := by
      refine hkeeps.fits.mpr fun p _ => ?_
      rw [hlen]
      cases p <;> decide
    obtain ⟨seg, hseg, -, htext⟩ := hkeeps.separate hpool
    rw [hlen] at htext
    exact ⟨start, mem, mem', r, seg, hstart, hrun, hstore, hkeeps, hseg, htext⟩

/-- A message in the band that finds `slot_unlimit` free is copied behind the metadata, over the
slots of the fixed pools. -/
theorem sysvshmStore_inBand (h : Represents e mem shm) {m : ShmMessage} (hband : InBand m)
    (hfree : shm.freeSlot .poolUnlimit = some 0) :
    ∃ mem', sysvshmStore e mem m.msg = .ok (mem', some .unlimit) ∧
      mem'.segment.bytesAt (SysvshmPoolSlot.unlimit.addr + SYSVSHM_SLOT_HEADER_SIZE)
        (m.msg.image e).length = m.msg.image e ∧ mem'.unlimit = mem.unlimit := by
  have hlen := image_length_of_wellFormed e m.wellFormed
  have hslot : SysvshmPoolSlot.unlimit.IsSlot := Nat.zero_lt_one
  obtain ⟨hlow, hhigh⟩ := hband
  have hpool := (choosePool_large m hlow).1
  have hdyn := isDynamic_of_small (show ¬ 16384 ≤ m.msg.size.toNat + ITC_HEADER_SIZE + 1 by omega)
  have hshop := shopForSlot_spec h.layout .poolUnlimit
  rw [hfree] at hshop
  obtain ⟨m', hlink, hsize, -, -⟩ := enqueueSlot_spec h.layout h.linked hslot
  have hwrite := Region.write_ok (show SysvshmPoolSlot.unlimit.addr + offIsInUse +
    ([1] : Bytes).length ≤ m'.size by rw [hsize]; decide)
  have htext : SysvshmPoolSlot.unlimit.addr + SYSVSHM_SLOT_HEADER_SIZE +
      (m.msg.image e).length ≤ 102400 := by
    show 20 + 32 + _ ≤ _
    omega
  refine ⟨⟨(m'.overwrite (SysvshmPoolSlot.unlimit.addr + offIsInUse) [1]).overwrite
    (SysvshmPoolSlot.unlimit.addr + SYSVSHM_SLOT_HEADER_SIZE) (m.msg.image e), mem.unlimit⟩, ?_,
    Region.bytesAt_overwrite_self .., rfl⟩
  unfold sysvshmStore
  rw [hpool] at hdyn
  simp only [hpool, hdyn, Bool.false_eq_true, if_false, hshop, Option.map, bind, Except.bind,
    txText_ok e m.wellFormed]
  rw [show (⟨.poolUnlimit, 0⟩ : SysvshmPoolSlot) = .unlimit from rfl, hlink]
  simp only
  rw [hwrite]
  simp only
  rw [Region.write_ok (by rw [Region.overwrite_size, hsize]; exact htext)]
  rfl

/-- A call that keeps to its slot and changes nothing besides leaves the numbers of pages. -/
theorem KeepsToSlot.numUnlimitPages {message : ItcMessage} {r : SysvshmPoolSlot}
    (h : KeepsToSlot e mem mem' message r fun _ => False) :
    mem'.segment.bytesAt offNumUnlimitPages 2 = mem.segment.bytesAt offNumUnlimitPages 2 := by
  have hb := h.isSlot.bounds
  apply Region.bytesAt_congr
  intro k hk
  have hlt : k < 4 := hk.2
  apply h.frame.byte
  rintro (⟨hle, -⟩ | (⟨hle, -⟩ | ⟨t, ht, -, hle, -⟩) | hnot)
  · omega
  · unfold offHead at hle
    omega
  · have hbt := ht.bounds
    omega
  · exact hnot

/-- After `slot_unlimit` has been received it looks free. -/
theorem SysvshmSegment.received_freeSlot (shm : SysvshmSegment) :
    (shm.received .unlimit).freeSlot .poolUnlimit = some 0 := by
  have hslots : (shm.received .unlimit).slots = (shm.removeHead .unlimit).slots := by
    unfold received
    split <;> rfl
  have hclean := shm.removeHead_slots .unlimit .unlimit
  rw [if_pos rfl] at hclean
  show ((List.range 1).find? fun i => _) = _
  rw [List.range_one, List.find?_cons, hslots,
    show (⟨.poolUnlimit, 0⟩ : SysvshmPoolSlot) = .unlimit from rfl, hclean]
  rfl

/-- **Two messages that do not keep to their slot.** 20000 bytes: the metadata gets new numbers of
pages. 16340 bytes, after such a message has come and gone: the text is in the segment behind the
metadata, where `slot_unlimit` has no room, and not in the second segment. -/
theorem sysvshm_writes_outside_slot :
    let large : ShmMessage := { UserMessage.fresh .little 20000 7 0x00200001 (by decide)
      (by decide) with fits := by decide }
    let band : ShmMessage := { UserMessage.fresh .little 16340 7 0x00200001 (by decide)
      (by decide) with fits := by decide }
    ∃ start, initSysvshmMempool .little (.zeroed 102400) = .ok start ∧
      (∃ mem₁ r, sysvshmStore .little ⟨start, none⟩ large.msg = .ok (mem₁, some r) ∧
        ¬ KeepsToSlot .little ⟨start, none⟩ mem₁ large.msg r fun _ => False) ∧
      ∃ mem₂ mem₃, Run (ShmSectionStep .little) ⟨start, none⟩ [.store large, .takeOut] mem₂ ∧
        sysvshmStore .little mem₂ band.msg = .ok (mem₃, some .unlimit) ∧
        mem₃.segment.bytesAt 52 16357 = band.msg.image .little ∧
        ¬ KeepsToSlot .little mem₂ mem₃ band.msg .unlimit fun _ => False := by
  intro large band
  obtain ⟨start, hstart, -⟩ := initSysvshmMempool_spec .little
  have h₀ : Represents .little ⟨start, none⟩ .init := .init hstart
  obtain ⟨mem₁, mem₂, r, shm₁, text, hstore, h₁, hpos, htake, h₂, hnone⟩ :=
    large_taken_out h₀ large (by decide)
  refine ⟨start, hstart, ⟨mem₁, r, hstore, fun hkeeps => ?_⟩, ?_⟩
  · have hsame := hkeeps.numUnlimitPages
    rw [h₁.layout.numUnlimitPages, h₀.layout.numUnlimitPages] at hsame
    have hzero := congrArg (ofHalf .little) hsame
    rw [ofHalf_half, ofHalf_half] at hzero
    rw [hzero] at hpos
    exact absurd hpos (by decide)
  · obtain ⟨mem₃, hband, hbytes, hunlimit⟩ := sysvshmStore_inBand h₂
      (show InBand band by unfold InBand; decide) shm₁.received_freeSlot
    have hlen := image_length_of_wellFormed .little band.wellFormed
    rw [hlen] at hbytes
    refine ⟨mem₂, mem₃, .cons (.store hstore) (.cons (.takeOut htake) (.nil _)), hband, hbytes,
      fun hkeeps => ?_⟩
    obtain ⟨seg, hseg, -⟩ := hkeeps.separate rfl
    rw [hunlimit, hnone] at hseg
    cases hseg

end Runs

end ItcFramework
