import ItcFramework.Transport.SysvmqDelivery
import ItcFramework.Transport.Sysvshm
import ItcFramework.Lib.LinkedChain

/-!
# The queue in a shared segment

The two critical sections of the shared-memory transport on a segment that holds a queue.

* `choosePool_spec` — the pool that a message size selects.
* `SysvshmSegment.Holds` — head, tail and links thread the slots in use, and each slot has its
  message.
* `sysvshmEnqueue_spec`, `sysvshmDequeue_spec` — the sections of the sender and of the receiver
  are those of a FIFO queue, if the sender's finds room (`SysvshmSegment.HasRoom`) and the
  receiver's hand-over returns.
-/

set_option autoImplicit false

namespace ItcFramework

open ByteImage LinkedChain

/-- A message of a process that runs this transport, where no transport raises
`max_mallocsize` above `ITC_MAX_MSGSIZE`. -/
structure ShmMessage extends UserMessage where
  fits : msg.size.toNat + ITC_HEADER_SIZE + 1 ≤ Allocator.least.maxMallocsize

/-! ## The choice of the pool -/

/-- **Which pool a message gets**: the area behind a slot's header holds it, or it is larger
than the largest slot and gets its number of pages. -/
theorem choosePool_spec {size : UInt32}
    (hsize : size.toNat + ITC_HEADER_SIZE + 1 ≤ ITC_MAX_MSGSIZE) :
    ((choosePool size).1 ≠ .poolUnlimit ∧ (choosePool size).2 = 0 ∧
      ∀ i, size.toNat + ITC_HEADER_SIZE + 1 ≤ SysvshmPoolSlot.dataSize ⟨(choosePool size).1, i⟩) ∨
    ((choosePool size).1 = .poolUnlimit ∧
      16352 < size.toNat + ITC_HEADER_SIZE + 1 ∧
      (choosePool size).2.toNat = (size.toNat + ITC_HEADER_SIZE + 1) / SYSVSHM_PAGE_SIZE + 1) := by
  have h17 : (size + UInt32.ofNat ITC_HEADER_SIZE + 1).toNat =
      size.toNat + ITC_HEADER_SIZE + 1 := by
    simp only [ITC_MAX_MSGSIZE, ITC_HEADER_SIZE] at *
    simp
    omega
  have h49 : (size + UInt32.ofNat ITC_HEADER_SIZE + 1 + 32).toNat =
      size.toNat + ITC_HEADER_SIZE + 1 + 32 := by
    rw [UInt32.toNat_add, h17]
    simp only [ITC_MAX_MSGSIZE, ITC_HEADER_SIZE] at *
    simp
    omega
  unfold choosePool
  split
  · rename_i p hp
    have hfit := List.find?_some hp
    rw [h49, decide_eq_true_eq] at hfit
    refine .inl ⟨?_, rfl, fun i => ?_⟩
    · rintro rfl
      exact absurd hfit.1 (by decide)
    · simp only [SysvshmPoolSlot.dataSize, SYSVSHM_SLOT_HEADER_SIZE]
      omega
  · rename_i hnone
    have hbig := List.find?_eq_none.mp hnone .pool16352 (by decide)
    rw [h49, decide_eq_true_eq] at hbig
    refine .inr ⟨rfl, ?_, ?_⟩
    · simp only [SysvshmPool.slotSizes] at hbig
      omega
    · simp only [h17, UInt16.toNat_ofNat']
      simp only [ITC_MAX_MSGSIZE, ITC_HEADER_SIZE, SYSVSHM_PAGE_SIZE] at *
      omega

/-- A message too large for the largest slot has no static pool. -/
theorem choosePool_large (m : ShmMessage) (hbig : 16352 < m.msg.size.toNat + ITC_HEADER_SIZE + 1) :
    (choosePool m.msg.size).1 = .poolUnlimit ∧
      (choosePool m.msg.size).2.toNat =
        (m.msg.size.toNat + ITC_HEADER_SIZE + 1) / SYSVSHM_PAGE_SIZE + 1 := by
  rcases choosePool_spec m.fits with ⟨hp, -, hle⟩ | ⟨hp, -, hpages⟩
  · have hle := hle 0
    cases hp' : (choosePool m.msg.size).1 <;>
      simp [hp', SysvshmPoolSlot.dataSize, SysvshmPool.slotSizes, SYSVSHM_SLOT_HEADER_SIZE]
        at hp hle <;>
      omega
  · exact ⟨hp, hpages⟩

/-- The condition under which the critical section of `sysvshm_send` queues a message of this
size: a slot of its pool is free, or it needs more than four pages and `slot_unlimit` is free. -/
def SysvshmSegment.HasRoom (shm : SysvshmSegment) (size : UInt32) : Prop :=
  if 16384 ≤ size.toNat + ITC_HEADER_SIZE + 1 then (shm.slots .unlimit).isInUse = false
  else (choosePool size).1 ≠ .poolUnlimit ∧ ∃ i < (choosePool size).1.numSlots,
    (shm.slots ⟨(choosePool size).1, i⟩).isInUse = false

/-! ## The queue in the segment -/

namespace SysvshmSegment

/-- Where the message of a slot is read. -/
def bytesAt (shm : SysvshmSegment) (r : SysvshmPoolSlot) : Bytes :=
  if r = .unlimit then shm.unlimit.getD [] else shm.data r

/-- The segment holds the queue `q`: head, tail and links thread its slots, which are the slots
in use, and each slot has its message. -/
structure Holds (e : Endian) (shm : SysvshmSegment) (q : List (SysvshmPoolSlot × ShmMessage)) :
    Prop where
  threaded : Threaded shm.head shm.tail shm.next (q.map Prod.fst)
  inUse : ∀ r, (shm.slots r).isInUse = true ↔ r ∈ q.map Prod.fst
  contents : ∀ p ∈ q, ∃ stale, shm.bytesAt p.1 = p.2.msg.image e ++ stale
  single : ∀ r ∈ q.map Prod.fst, r.whichpool = .poolUnlimit → r = .unlimit
  free : ∀ r, r ∉ q.map Prod.fst → r.whichpool ≠ .poolUnlimit → shm.next r = none
  dataSize : ∀ r, (shm.data r).length = r.dataSize
  noSegment : .unlimit ∉ q.map Prod.fst → shm.unlimit = none
  segment : .unlimit ∈ q.map Prod.fst → 0 < shm.numUnlimitPages ∧
    unlimitShmget shm.unlimit false shm.numUnlimitPages = shm.unlimit ∧ shm.unlimit.isSome

theorem Holds.init (e : Endian) : SysvshmSegment.init.Holds e [] where
  threaded := .nil _
  inUse r := by
    simp only [SysvshmSegment.init, List.map_nil, List.not_mem_nil, iff_false]
    split <;> exact Bool.false_ne_true
  contents := by simp
  single := by simp
  free r _ hr := by simp [SysvshmSegment.init, next, hr]
  dataSize r := by simp [SysvshmSegment.init]
  noSegment _ := rfl
  segment h := absurd h List.not_mem_nil

variable {e : Endian} {shm : SysvshmSegment} {q : List (SysvshmPoolSlot × ShmMessage)}

/-! ### A slot enters -/

section
variable (shm : SysvshmSegment) (r : SysvshmPoolSlot)

@[simp] theorem enqueueSlot_data : (shm.enqueueSlot r).data = shm.data := by
  unfold enqueueSlot
  split <;> rfl

@[simp] theorem enqueueSlot_unlimit : (shm.enqueueSlot r).unlimit = shm.unlimit := by
  unfold enqueueSlot
  split <;> rfl

@[simp] theorem enqueueSlot_pages :
    (shm.enqueueSlot r).numUnlimitPages = shm.numUnlimitPages := by
  unfold enqueueSlot
  split <;> rfl

@[simp] theorem enqueueSlot_tail : (shm.enqueueSlot r).tail = some r := by
  unfold enqueueSlot
  split <;> rfl

theorem enqueueSlot_isInUse (r' : SysvshmPoolSlot) :
    ((shm.enqueueSlot r).slots r').isInUse = true ↔
      (shm.slots r').isInUse = true ∨ r' = r := by
  unfold enqueueSlot
  split
  · simp only [setSlot]
    by_cases h : r' = r
    · simp [h]
    · simp [h]
  · rename_i t _
    simp only [setSlot]
    by_cases h : r' = r
    · simp [h]
    · by_cases ht : r' = t
      · subst ht
        simp [h]
      · simp [h, ht]

theorem enqueueSlot_next_of_ne {r' : SysvshmPoolSlot} (h : shm.tail ≠ some r') :
    (shm.enqueueSlot r).next r' = shm.next r' := by
  unfold enqueueSlot
  split
  · simp only [next, setSlot]
    split
    · rename_i hr
      rw [hr]
    · rfl
  · rename_i t ht
    have hne : r' ≠ t := by
      rintro rfl
      exact h ht
    simp only [next, setSlot]
    split
    · rename_i hr
      rw [← hr, if_neg hne]
    · rfl

theorem enqueueSlot_next_tail {t : SysvshmPoolSlot} (h : shm.tail = some t) :
    (shm.enqueueSlot r).next t = some r := by
  simp only [enqueueSlot, h, next, setSlot, if_true]
  by_cases htr : t = r
  · simp [htr]
  · simp [htr]

end

/-- **The new slot goes behind the tail**, or becomes the queue. -/
theorem enqueueSlot_threaded {r : SysvshmPoolSlot} {l : List SysvshmPoolSlot}
    (h : Threaded shm.head shm.tail shm.next l) (hr : r ∉ l) (hnext : shm.next r = none) :
    Threaded (shm.enqueueSlot r).head (shm.enqueueSlot r).tail (shm.enqueueSlot r).next
      (l ++ [r]) := by
  cases ht : shm.tail with
  | none =>
    have hl : l = [] := h.tail_none_iff.mp ht
    have hhead : (shm.enqueueSlot r).head = some r := by simp [enqueueSlot, ht, setSlot]
    subst hl
    rw [enqueueSlot_tail, hhead]
    refine .first ?_
    rw [enqueueSlot_next_of_ne _ _ (by rw [ht]; exact Option.some_ne_none r |>.symm), hnext]
  | some t =>
    have htl : t ∈ l := List.mem_of_getLast? (by rw [← h.tail_eq, ht])
    have htr : t ≠ r := fun heq => hr (heq ▸ htl)
    have hhead : (shm.enqueueSlot r).head = shm.head := by simp [enqueueSlot, ht, setSlot]
    rw [enqueueSlot_tail, hhead]
    rw [ht] at h
    refine h.push hr (enqueueSlot_next_tail _ _ ht) ?_ fun y _ hy => ?_
    · rw [enqueueSlot_next_of_ne _ _ (by rw [ht]; simpa using htr), hnext]
    · exact enqueueSlot_next_of_ne _ _ (by rw [ht]; simpa using Ne.symm hy)

/-- What the queue needs of a segment in which a slot was linked and its message written. -/
theorem Holds.enqueue {shm' : SysvshmSegment} {r : SysvshmPoolSlot} {m : ShmMessage}
    (h : shm.Holds e q) (hr : r ∉ q.map Prod.fst) (hnext : shm.next r = none)
    (hhead : shm'.head = (shm.enqueueSlot r).head) (htail : shm'.tail = (shm.enqueueSlot r).tail)
    (hslots : shm'.slots = (shm.enqueueSlot r).slots)
    (hcontents : ∃ stale, shm'.bytesAt r = m.msg.image e ++ stale)
    (hold : ∀ r' ∈ q.map Prod.fst, shm'.bytesAt r' = shm.bytesAt r')
    (hsingle : r.whichpool = .poolUnlimit → r = .unlimit)
    (hdata : ∀ r', (shm'.data r').length = r'.dataSize)
    (hno : .unlimit ∉ q.map Prod.fst ++ [r] → shm'.unlimit = none)
    (hseg : .unlimit ∈ q.map Prod.fst ++ [r] → 0 < shm'.numUnlimitPages ∧
      unlimitShmget shm'.unlimit false shm'.numUnlimitPages = shm'.unlimit ∧
        shm'.unlimit.isSome) :
    shm'.Holds e (q ++ [(r, m)]) := by
  have hnext' : shm'.next = (shm.enqueueSlot r).next := by
    funext r'
    simp only [next, hslots]
  have hmap : (q ++ [(r, m)]).map Prod.fst = q.map Prod.fst ++ [r] := by simp
  constructor
  · rw [hmap, hhead, htail, hnext']
    exact enqueueSlot_threaded h.threaded hr hnext
  · intro r'
    rw [hmap, hslots, enqueueSlot_isInUse, h.inUse, List.mem_append, List.mem_singleton]
  · intro p hp
    rcases List.mem_append.mp hp with hp | hp
    · rw [hold p.1 (List.mem_map_of_mem hp)]
      exact h.contents p hp
    · rw [List.mem_singleton.mp hp]
      exact hcontents
  · intro r' hr'
    rw [hmap] at hr'
    rcases List.mem_append.mp hr' with hr' | hr'
    · exact h.single r' hr'
    · rw [List.mem_singleton.mp hr']
      exact hsingle
  · intro r' hr' hp
    rw [hmap, List.mem_append, not_or] at hr'
    rw [hnext', enqueueSlot_next_of_ne, h.free r' hr'.1 hp]
    intro ht
    exact hr'.1 (List.mem_of_getLast? (by rw [← h.threaded.tail_eq, ht]))
  · exact hdata
  · rw [hmap]
    exact hno
  · rw [hmap]
    exact hseg

/-- Resetting `slot_unlimit` does not touch a queue that it is not part of. -/
theorem Holds.resetUnlimit (h : shm.Holds e q) (hfree : .unlimit ∉ q.map Prod.fst)
    (numUnlimitPages : UInt16) : (shm.resetUnlimit numUnlimitPages).Holds e q where
  threaded := h.threaded.congr fun r hr => by
    have hne : r ≠ .unlimit := fun heq => hfree (heq ▸ hr)
    simp [next, SysvshmSegment.resetUnlimit, setSlot, hne]
  inUse r := by
    rw [← h.inUse]
    simp only [SysvshmSegment.resetUnlimit, setSlot]
    split
    · rename_i hr
      rw [hr]
    · rfl
  contents := h.contents
  single := h.single
  free r hr hp := by
    have hne : r ≠ .unlimit := by
      rintro rfl
      exact hp rfl
    simpa [next, SysvshmSegment.resetUnlimit, setSlot, hne] using h.free r hr hp
  dataSize := h.dataSize
  noSegment := h.noSegment
  segment hmem := absurd hmem hfree

/-- A free slot of the pool is found. -/
theorem Holds.freeSlot (h : shm.Holds e q) {whichpool : SysvshmPool} {i : Nat}
    (hp : whichpool ≠ .poolUnlimit) (hi : i < whichpool.numSlots)
    (huse : (shm.slots ⟨whichpool, i⟩).isInUse = false) :
    ∃ j, shm.freeSlot whichpool = some j ∧ j < whichpool.numSlots ∧
      (⟨whichpool, j⟩ : SysvshmPoolSlot) ∉ q.map Prod.fst ∧ shm.next ⟨whichpool, j⟩ = none := by
  have hmem : (⟨whichpool, i⟩ : SysvshmPoolSlot) ∉ q.map Prod.fst := by
    rw [← h.inUse, huse]
    exact Bool.false_ne_true
  have hnext := h.free _ hmem hp
  have hsome : (shm.freeSlot whichpool).isSome := by
    rw [SysvshmSegment.freeSlot, List.find?_isSome]
    refine ⟨i, List.mem_range.mpr hi, ?_⟩
    rw [next] at hnext
    simp [huse, hnext]
  obtain ⟨j, hj⟩ := Option.isSome_iff_exists.mp hsome
  have hfree := List.find?_some hj
  rw [Bool.and_eq_true, Bool.not_eq_true', Option.isNone_iff_eq_none] at hfree
  refine ⟨j, hj, List.mem_range.mp (List.mem_of_find?_eq_some hj), ?_, hfree.2⟩
  rw [← h.inUse, hfree.1]
  exact Bool.false_ne_true

/-! ### A slot leaves -/

theorem removeHead_slots (shm : SysvshmSegment) (r r' : SysvshmPoolSlot) :
    (shm.removeHead r).slots r' =
      if r' = r then { shm.slots r with isInUse := false, nextSlot := none }
      else shm.slots r' := by
  unfold removeHead
  split <;> rfl

@[simp] theorem removeHead_data (shm : SysvshmSegment) (r : SysvshmPoolSlot) :
    (shm.removeHead r).data = shm.data := by
  unfold removeHead
  split <;> rfl

@[simp] theorem removeHead_unlimit (shm : SysvshmSegment) (r : SysvshmPoolSlot) :
    (shm.removeHead r).unlimit = shm.unlimit := by
  unfold removeHead
  split <;> rfl

@[simp] theorem removeHead_pages (shm : SysvshmSegment) (r : SysvshmPoolSlot) :
    (shm.removeHead r).numUnlimitPages = shm.numUnlimitPages := by
  unfold removeHead
  split <;> rfl

theorem removeHead_threaded {r : SysvshmPoolSlot} {l : List SysvshmPoolSlot}
    (h : Threaded shm.head shm.tail shm.next (r :: l)) :
    Threaded (shm.removeHead r).head (shm.removeHead r).tail (shm.removeHead r).next l := by
  have hnext : ∀ y, y ≠ r → (shm.removeHead r).next y = shm.next y := by
    intro y hy
    rw [next, removeHead_slots, if_neg hy, next]
  have hhead : shm.head = some r := h.head_eq
  rw [hhead] at h
  by_cases ht : shm.tail = some r
  · rw [ht] at h
    cases h.last
    have h1 : (shm.removeHead r).head = none := by simp [removeHead, ht, setSlot]
    have h2 : (shm.removeHead r).tail = none := by simp [removeHead, ht, setSlot]
    rw [h1, h2]
    exact .nil _
  · obtain ⟨l', hl, hpop⟩ := h.pop (Ne.symm ht) hnext
    cases hl
    have h1 : (shm.removeHead r).head = shm.next r := by simp [removeHead, ht, setSlot, next]
    have h2 : (shm.removeHead r).tail = shm.tail := by simp [removeHead, ht, setSlot]
    rw [h1, h2]
    exact hpop

/-- What stays of the queue when its first slot has left; the dynamic segment goes with it. -/
theorem Holds.dequeue {shm' : SysvshmSegment} {r : SysvshmPoolSlot} {m : ShmMessage}
    (h : shm.Holds e ((r, m) :: q)) (hhead : shm'.head = (shm.removeHead r).head)
    (htail : shm'.tail = (shm.removeHead r).tail)
    (hslots : shm'.slots = (shm.removeHead r).slots) (hdata : shm'.data = shm.data)
    (hun : if r = .unlimit then shm'.unlimit = none
      else shm'.unlimit = shm.unlimit ∧ shm'.numUnlimitPages = shm.numUnlimitPages) :
    shm'.Holds e q := by
  have hnext' : shm'.next = (shm.removeHead r).next := by
    funext r'
    simp only [next, hslots]
  have hnd := List.nodup_cons.mp h.threaded.nodup
  have hleft : ∀ r' ∈ q.map Prod.fst, r' ≠ r := fun r' hr' heq => hnd.1 (heq ▸ hr')
  have hcons : ∀ r', r' ≠ r → (r' ∈ ((r, m) :: q).map Prod.fst ↔ r' ∈ q.map Prod.fst) := by
    intro r' hne
    rw [List.map_cons, List.mem_cons, or_iff_right hne]
  constructor
  · rw [hhead, htail, hnext']
    exact removeHead_threaded h.threaded
  · intro r'
    rw [hslots, removeHead_slots]
    by_cases hr' : r' = r
    · subst hr'
      rw [if_pos rfl]
      exact ⟨fun hf => absurd hf Bool.false_ne_true, fun hmem => absurd hmem hnd.1⟩
    · rw [if_neg hr', h.inUse, hcons r' hr']
  · intro p hp
    obtain ⟨stale, hstale⟩ := h.contents p (List.mem_cons_of_mem _ hp)
    refine ⟨stale, ?_⟩
    rw [← hstale]
    have hne := hleft p.1 (List.mem_map_of_mem hp)
    rw [bytesAt, bytesAt, hdata]
    split
    · rename_i hp1
      have hru : r ≠ .unlimit := fun hr => hne (hp1.trans hr.symm)
      rw [if_neg hru] at hun
      rw [hun.1]
    · rfl
  · intro r' hr'
    exact h.single r' (List.mem_cons_of_mem _ hr')
  · intro r' hr' hp
    rw [hnext', next, removeHead_slots]
    by_cases hne : r' = r
    · rw [if_pos hne]
    · rw [if_neg hne]
      exact h.free r' (fun hmem => hr' ((hcons r' hne).mp hmem)) hp
  · intro r'
    rw [hdata]
    exact h.dataSize r'
  · intro hnot
    by_cases hru : r = .unlimit
    · rw [if_pos hru] at hun
      exact hun
    · rw [if_neg hru] at hun
      rw [hun.1]
      exact h.noSegment fun hmem => hnot ((hcons _ (Ne.symm hru)).mp hmem)
  · intro hmem
    have hru : r ≠ .unlimit := Ne.symm (hleft _ hmem)
    rw [if_neg hru] at hun
    rw [hun.1, hun.2]
    exact h.segment ((hcons _ (Ne.symm hru)).mpr hmem)

end SysvshmSegment

/-! ## The critical sections -/

section
variable {e : Endian} {a : Allocator} {shm : SysvshmSegment}
  {q : List (SysvshmPoolSlot × ShmMessage)}

theorem isDynamic_false {whichpool : SysvshmPool} (h : whichpool ≠ .poolUnlimit)
    (numUnlimitPages : UInt16) : isDynamic whichpool numUnlimitPages = false := by
  cases whichpool <;> first | rfl | exact absurd rfl h

/-- A message of more than four pages is dynamic. -/
theorem isDynamic_of_large {m : ShmMessage}
    (hbig : 16384 ≤ m.msg.size.toNat + ITC_HEADER_SIZE + 1) :
    isDynamic (choosePool m.msg.size).1 (choosePool m.msg.size).2 = true := by
  obtain ⟨hpool, hpages⟩ := choosePool_large m (by omega)
  rw [hpool, isDynamic, hpages, BEq.rfl, Bool.true_and]
  apply decide_eq_true
  simp only [SYSVSHM_PAGE_SIZE]
  omega

/-- A message too large for the pools that does not need more than four pages is not. -/
theorem isDynamic_of_small {m : ShmMessage}
    (hsmall : ¬ 16384 ≤ m.msg.size.toNat + ITC_HEADER_SIZE + 1) :
    isDynamic (choosePool m.msg.size).1 (choosePool m.msg.size).2 = false := by
  rcases choosePool_spec m.fits with ⟨hp, -, -⟩ | ⟨-, -, hpages⟩
  · exact isDynamic_false hp _
  · rw [isDynamic, hpages, Bool.and_eq_false_iff]
    refine .inr (decide_eq_false ?_)
    simp only [SYSVSHM_PAGE_SIZE]
    omega

/-- A message too large for the pools that does not need more than four pages finds no slot in a
fresh segment. -/
theorem sysvshmEnqueue_init_band {message : ItcMessage} (rc : UInt32)
    (hpool : choosePool message.size = (.poolUnlimit, 4)) :
    sysvshmEnqueue e rc .init message = .ok { shm := .init, rc, released := false } := by
  unfold sysvshmEnqueue
  simp only [hpool, if_neg (show ¬ isDynamic .poolUnlimit 4 = true by decide),
    show SysvshmSegment.init.freeSlot .poolUnlimit = none by decide]

/-- The image of a message fits at the start of a block that is long enough. -/
theorem storeBytes_image (m : ShmMessage) {block : Bytes}
    (h : m.msg.size.toNat + ITC_HEADER_SIZE + 1 ≤ block.length) :
    storeBytes block 0 (m.msg.image e) =
      .ok (m.msg.image e ++ block.drop (m.msg.image e).length) := by
  rw [← image_length_of_wellFormed e m.wellFormed] at h
  rw [storeBytes, if_pos (by omega)]
  simp

/-- A large message while `slot_unlimit` is free. -/
theorem sysvshmEnqueue_dynamic (h : shm.Holds e q) (m : ShmMessage) (rc : UInt32)
    (hbig : 16384 ≤ m.msg.size.toNat + ITC_HEADER_SIZE + 1)
    (huse : (shm.slots .unlimit).isInUse = false) :
    ∃ shm', sysvshmEnqueue e rc shm m.msg = .ok { shm := shm', rc, released := true } ∧
      shm'.Holds e (q ++ [(.unlimit, m)]) := by
  obtain ⟨hpool, hpages⟩ := choosePool_large m (by omega)
  generalize hpg : (choosePool m.msg.size).2 = pages at hpages
  have hfree : .unlimit ∉ q.map Prod.fst := by
    rw [← h.inUse, huse]
    exact Bool.false_ne_true
  have hdyn : isDynamic .poolUnlimit pages = true := by
    simp only [isDynamic, hpages, SYSVSHM_PAGE_SIZE, BEq.rfl, Bool.true_and, decide_eq_true_eq]
    omega
  have hpos : 0 < pages := by
    rw [UInt16.lt_iff_toNat_lt, hpages]
    exact Nat.succ_pos _
  have hseg : initUnilimitSysvshm shm pages rc = (some (List.replicate
      ((SYSVSHM_STATIC_ALLOC_PAGES + pages.toNat) * SYSVSHM_PAGE_SIZE) 0), rc) := by
    simp only [initUnilimitSysvshm, unlimitShmget, h.noSegment hfree, if_true]
  generalize hblock : List.replicate
    ((SYSVSHM_STATIC_ALLOC_PAGES + pages.toNat) * SYSVSHM_PAGE_SIZE) (0 : UInt8) = block at hseg
  have hblocklen : block.length =
      (SYSVSHM_STATIC_ALLOC_PAGES + pages.toNat) * SYSVSHM_PAGE_SIZE := by
    rw [← hblock, List.length_replicate]
  have hfits : m.msg.size.toNat + ITC_HEADER_SIZE + 1 ≤ block.length := by
    rw [hblocklen, hpages]
    simp only [SYSVSHM_STATIC_ALLOC_PAGES, SYSVSHM_PAGE_SIZE]
    omega
  have hstore := storeBytes_image (e := e) m hfits
  have hlen := image_length_of_wellFormed e m.wellFormed
  have hrun : sysvshmEnqueue e rc shm m.msg = .ok
      { shm := { (shm.resetUnlimit pages).enqueueSlot .unlimit with
          unlimit := some (m.msg.image e ++ block.drop (m.msg.image e).length) }
        rc, released := true } := by
    simp only [sysvshmEnqueue, hpool, hpg, hdyn, if_true, hseg, txText_ok e m.wellFormed, hstore,
      bind, Except.bind]
    rfl
  refine ⟨_, hrun, (h.resetUnlimit hfree pages).enqueue hfree ?_ rfl rfl rfl ?_ ?_ ?_ ?_ ?_ ?_⟩
  · simp [SysvshmSegment.next, SysvshmSegment.resetUnlimit, SysvshmSegment.setSlot]
  · exact ⟨_, rfl⟩
  · intro r hr
    have hne : r ≠ .unlimit := fun heq => hfree (heq ▸ hr)
    simp [SysvshmSegment.bytesAt, hne]
  · exact fun _ => rfl
  · intro r
    rw [SysvshmSegment.enqueueSlot_data]
    exact h.dataSize r
  · intro hnot
    exact absurd (List.mem_append_right _ (List.mem_singleton_self _)) hnot
  · intro _
    rw [SysvshmSegment.enqueueSlot_pages]
    refine ⟨hpos, if_pos ?_, rfl⟩
    simp only [List.length_append, List.length_drop]
    rw [show (shm.resetUnlimit pages).numUnlimitPages = pages from rfl, ← hblocklen]
    omega

/-- A message for one of the static pools while the pool has a free slot. -/
theorem sysvshmEnqueue_static (h : shm.Holds e q) (m : ShmMessage) (rc : UInt32)
    (hp : (choosePool m.msg.size).1 ≠ .poolUnlimit)
    (hfree : ∃ i < (choosePool m.msg.size).1.numSlots,
      (shm.slots ⟨(choosePool m.msg.size).1, i⟩).isInUse = false) :
    ∃ shm' r, sysvshmEnqueue e rc shm m.msg = .ok { shm := shm', rc, released := true } ∧
      shm'.Holds e (q ++ [(r, m)]) ∧ r.whichpool = (choosePool m.msg.size).1 ∧
        r.whichslot < r.whichpool.numSlots := by
  obtain ⟨-, -, hle⟩ := (choosePool_spec m.fits).resolve_right fun hs => hp hs.1
  obtain ⟨i, hi, huse⟩ := hfree
  obtain ⟨j, hj, hlt, hnot, hnext⟩ := h.freeSlot hp hi huse
  generalize hpl : (choosePool m.msg.size).1 = whichpool at hp hle hj hlt hnot hnext
  have hne : (⟨whichpool, j⟩ : SysvshmPoolSlot) ≠ .unlimit := fun heq =>
    hp (congrArg SysvshmPoolSlot.whichpool heq)
  have hfits : m.msg.size.toNat + ITC_HEADER_SIZE + 1 ≤ (shm.data ⟨whichpool, j⟩).length := by
    rw [h.dataSize]
    exact hle j
  have hstore := storeBytes_image (e := e) m hfits
  have hlen := image_length_of_wellFormed e m.wellFormed
  have hrun : sysvshmEnqueue e rc shm m.msg = .ok
      { shm := (shm.enqueueSlot ⟨whichpool, j⟩).setData ⟨whichpool, j⟩
          (m.msg.image e ++ (shm.data ⟨whichpool, j⟩).drop (m.msg.image e).length)
        rc, released := true } := by
    simp only [sysvshmEnqueue, hpl, isDynamic_false hp, Bool.false_eq_true, if_false, hj,
      txText_ok e m.wellFormed, SysvshmSegment.enqueueSlot_data, hstore, bind, Except.bind]
    rfl
  refine ⟨_, _, hrun, h.enqueue hnot hnext rfl rfl rfl ?_ ?_ ?_ ?_ ?_ ?_, rfl, hlt⟩
  · refine ⟨(shm.data ⟨whichpool, j⟩).drop (m.msg.image e).length, ?_⟩
    rw [SysvshmSegment.bytesAt, if_neg hne]
    simp [SysvshmSegment.setData]
  · intro r hr
    have hrj : r ≠ ⟨whichpool, j⟩ := fun heq => hnot (heq ▸ hr)
    simp [SysvshmSegment.bytesAt, SysvshmSegment.setData, hrj]
  · exact fun hpu => absurd hpu hp
  · intro r
    simp only [SysvshmSegment.setData, SysvshmSegment.enqueueSlot_data]
    split
    · rename_i hr
      have hd := h.dataSize ⟨whichpool, j⟩
      rw [hr, List.length_append, List.length_drop]
      omega
    · exact h.dataSize r
  · intro hmem
    have hmem' : .unlimit ∉ q.map Prod.fst := fun hq => hmem (List.mem_append_left _ hq)
    simpa [SysvshmSegment.setData] using h.noSegment hmem'
  · intro hmem
    have hmem' : .unlimit ∈ q.map Prod.fst :=
      (List.mem_append.mp hmem).resolve_right fun hs => hne (List.mem_singleton.mp hs).symm
    simpa [SysvshmSegment.setData] using h.segment hmem'

/-- **The section of the sender**, when it finds room, puts the message at the end of the queue
and gives the mutex back. -/
theorem sysvshmEnqueue_spec (h : shm.Holds e q) (m : ShmMessage) (rc : UInt32)
    (hroom : shm.HasRoom m.msg.size) :
    ∃ shm' r, sysvshmEnqueue e rc shm m.msg = .ok { shm := shm', rc, released := true } ∧
      shm'.Holds e (q ++ [(r, m)]) := by
  rw [SysvshmSegment.HasRoom] at hroom
  by_cases hbig : 16384 ≤ m.msg.size.toNat + ITC_HEADER_SIZE + 1
  · rw [if_pos hbig] at hroom
    obtain ⟨shm', hrun, hholds⟩ := sysvshmEnqueue_dynamic h m rc hbig hroom
    exact ⟨shm', .unlimit, hrun, hholds⟩
  · rw [if_neg hbig] at hroom
    obtain ⟨shm', r, hrun, hholds, -⟩ := sysvshmEnqueue_static h m rc hroom.1 hroom.2
    exact ⟨shm', r, hrun, hholds⟩

/-- The message of the first slot is the one that `handle_received_message` finds. -/
theorem SysvshmSegment.Holds.handleReceived {r : SysvshmPoolSlot} {m : ShmMessage} (a : Allocator)
    (h : shm.Holds e ((r, m) :: q)) :
    handleReceivedMessage e a (shm.bytesAt r) = .ok (some m.msg) := by
  obtain ⟨stale, hbytes⟩ := h.contents (r, m) List.mem_cons_self
  rw [hbytes]
  exact forwardSysvmqMsg_image stale (Nat.le_trans m.fits a.ge)

/-- **The section of the receiver** passes the first message of the queue on. If its hand-over
returns, the message leaves the queue; if not, the section does not end. -/
theorem sysvshmDequeue_passes {r : SysvshmPoolSlot} {m : ShmMessage} (a : Allocator)
    (h : shm.Holds e ((r, m) :: q)) :
    ∃ shm', shm'.Holds e q ∧ ∀ hand, sysvshmDequeue e a hand shm = .ok
      (if handsOver hand (some m.msg) then { shm := shm', fwd := some m.msg, running := true }
       else { shm, fwd := some m.msg, running := false }) := by
  have hhead : shm.head = some r := h.threaded.head_eq
  have hmem : r ∈ ((r, m) :: q).map Prod.fst := List.mem_cons_self
  have huse : (shm.slots r).isInUse = true := (h.inUse r).mpr hmem
  have hfwd := h.handleReceived a
  rw [SysvshmSegment.bytesAt] at hfwd
  by_cases hr : r = .unlimit
  · -- the message lies in the dynamic segment, which is removed with it
    subst hr
    obtain ⟨hpos, hget, hsome⟩ := h.segment hmem
    obtain ⟨seg, hseg⟩ := Option.isSome_iff_exists.mp hsome
    rw [if_pos rfl, hseg, Option.getD_some] at hfwd
    rw [hseg] at hget
    have hpool : SysvshmPoolSlot.unlimit.whichpool = .poolUnlimit ∧ shm.numUnlimitPages > 0 :=
      ⟨rfl, hpos⟩
    refine ⟨{ shm.removeHead .unlimit with
      unlimit := none
      numUnlimitPages := 0
      numPages := UInt16.ofNat SYSVSHM_STATIC_ALLOC_PAGES }, ?_, fun hand => ?_⟩
    · exact h.dequeue rfl rfl rfl (SysvshmSegment.removeHead_data ..) rfl
    · cases hhand : handsOver hand (some m.msg) <;>
        simp only [sysvshmDequeue, hhead, if_pos hpool, huse, Bool.true_eq_false, if_false,
          if_pos hpos, hseg, hget, hfwd, SysvshmSegment.handedOver, hhand, bind, Except.bind] <;>
        rfl
  · have hpool : ¬ (r.whichpool = .poolUnlimit ∧ shm.numUnlimitPages > 0) := fun hp =>
      hr (h.single r hmem hp.1)
    rw [if_neg hr] at hfwd
    refine ⟨shm.removeHead r, ?_, fun hand => ?_⟩
    · refine h.dequeue rfl rfl rfl (SysvshmSegment.removeHead_data ..) ?_
      rw [if_neg hr]
      exact ⟨SysvshmSegment.removeHead_unlimit .., SysvshmSegment.removeHead_pages ..⟩
    · cases hhand : handsOver hand (some m.msg) <;>
        simp only [sysvshmDequeue, hhead, if_neg hpool, huse, Bool.true_eq_false, if_false,
          hfwd, SysvshmSegment.handedOver, hhand, bind, Except.bind] <;>
        rfl

/-- The section when the hand-over of the first message returns. -/
theorem sysvshmDequeue_spec {r : SysvshmPoolSlot} {m : ShmMessage} (a : Allocator)
    (hand : MboxId → HandOver) (h : shm.Holds e ((r, m) :: q))
    (hhand : handsOver hand (some m.msg) = true) :
    ∃ shm', sysvshmDequeue e a hand shm =
        .ok { shm := shm', fwd := some m.msg, running := true } ∧ shm'.Holds e q := by
  obtain ⟨shm', hholds, hrun⟩ := sysvshmDequeue_passes a h
  refine ⟨shm', ?_, hholds⟩
  rw [hrun hand, if_pos hhand]

/-- Hand-overs that return leave the same segment. -/
theorem sysvshmDequeue_eq {r : SysvshmPoolSlot} {m : ShmMessage} (a : Allocator)
    (hand hand' : MboxId → HandOver) (h : shm.Holds e ((r, m) :: q))
    (hhand : handsOver hand (some m.msg) = true) (hhand' : handsOver hand' (some m.msg) = true) :
    sysvshmDequeue e a hand shm = sysvshmDequeue e a hand' shm := by
  obtain ⟨shm', -, hrun⟩ := sysvshmDequeue_passes a h
  rw [hrun hand, hrun hand', if_pos hhand, if_pos hhand']

/-- A hand-over that does not return leaves the segment as it is. -/
theorem sysvshmDequeue_waits {r : SysvshmPoolSlot} {m : ShmMessage} (a : Allocator)
    {hand : MboxId → HandOver} (h : shm.Holds e ((r, m) :: q))
    (hwaits : hand m.msg.receiver = .waits) :
    sysvshmDequeue e a hand shm = .ok { shm, fwd := some m.msg, running := false } := by
  obtain ⟨shm', -, hrun⟩ := sysvshmDequeue_passes a h
  rw [hrun hand, if_neg fun hhand => handsOver_iff.mp hhand hwaits]

end

end ItcFramework
