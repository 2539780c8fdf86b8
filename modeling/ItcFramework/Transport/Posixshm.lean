import ItcFramework.Transport.SysvshmQueue
import ItcFramework.Lib.Transition

/-!
# The POSIX shared-memory transport

Embedding of `itc_posixshm.c`: the critical section of `posixshm_send` and the one of
`posixshm_rx_thread`, and the queue they keep. The plugin declares its pools, slot headers and
metadata like `itc_sysvshm.c`, so the segment and the operations on its list of slots are those
of `SysvshmSegment`. What is different is the room for large messages: the slot of
`POOL_UNLIMIT` lies behind the static pages of the same object, which `ftruncate` extends while
a large message is in it.

* `posixshmEnqueue`, `posixshmDequeue` — the sections; `posixshmEnqueue_static` and
  `posixshmDequeue_static`: on messages for the static pools they are those of the other plugin.
* `PosixshmStep` — any number of senders and the receiver, one critical section at a time.
* `posixshm_fifo_iff` — among the runs whose messages belong to a static pool with a free slot,
  those that keep the segment a FIFO queue are those in which every message can be handed over.

A message for an id of the process that the local transport does not take stops the receiver and
every sender: `posixshm_not_fifo`.
-/

set_option autoImplicit false

namespace ItcFramework

open ByteImage LinkedChain Transition

/-! ## Pools -/

/-- `enum posixshm_pool_type_e`, with the slot numbers and slot sizes of `posixshm_init`. -/
abbrev PosixshmPool := SysvshmPool

/-- `struct posixshm_pool_slot`. -/
abbrev PosixshmPoolSlot := SysvshmPoolSlot

/-- The shared memory object of a process; `unlimit` is the area behind the header of the slot
of `POOL_UNLIMIT`, while the object has pages for it. -/
abbrev PosixshmSegment := SysvshmSegment

/-- `sizeof(struct posixshm_metadata_t)`, which has no slot of its own for large messages. -/
def sizeofPosixshmMetadata : Nat := 20

/-- `pool_offset`. -/
def posixshmPoolOffset : PosixshmPool → Nat
  | .pool96 => (sizeofPosixshmMetadata / 128 + 1) * 128
  | .pool480 => SYSVSHM_PAGE_SIZE
  | .pool992 => 3 * SYSVSHM_PAGE_SIZE
  | .pool2016 => 5 * SYSVSHM_PAGE_SIZE
  | .pool4064 => 9 * SYSVSHM_PAGE_SIZE
  | .pool16352 => 13 * SYSVSHM_PAGE_SIZE
  | .poolUnlimit => 25 * SYSVSHM_PAGE_SIZE

/-- A slot of one of the pools that `init_posixshm_mempool` sets up. -/
def PosixshmPoolSlot.IsStatic (r : PosixshmPoolSlot) : Prop :=
  r.whichpool ≠ .poolUnlimit ∧ r.whichslot < r.whichpool.numSlots

def PosixshmPoolSlot.slotAddr (r : PosixshmPoolSlot) : Int :=
  posixshmPoolOffset r.whichpool + r.whichpool.slotSizes * r.whichslot

/-- The static pools lie where the other plugin has them, so their slots do not overlap and end
where the slot of `POOL_UNLIMIT` starts. -/
theorem PosixshmPoolSlot.slotAddr_disjoint {r r' : PosixshmPoolSlot} (hr : IsStatic r)
    (hr' : IsStatic r') (hne : r ≠ r') :
    (sizeofPosixshmMetadata : Int) ≤ slotAddr r ∧
      slotAddr r + r.whichpool.slotSizes ≤ posixshmPoolOffset .poolUnlimit ∧
      (slotAddr r + r.whichpool.slotSizes ≤ slotAddr r' ∨
        slotAddr r' + r'.whichpool.slotSizes ≤ slotAddr r) := by
  have haddr : ∀ s : PosixshmPoolSlot, s.whichpool ≠ .poolUnlimit →
      slotAddr s = SysvshmPoolSlot.slotAddr s := by
    rintro ⟨p, i⟩ hp
    cases p <;> first | rfl | exact absurd rfl hp
  rw [haddr r hr.1, haddr r' hr'.1]
  obtain ⟨hlow, hhigh, hdisj⟩ :=
    SysvshmPoolSlot.slotAddr_disjoint hr.2 hr'.2 hr.1 hr'.1 hne
  refine ⟨?_, hhigh, hdisj⟩
  simp only [sizeofPosixshmMetadata, sizeofSysvshmMetadata] at hlow ⊢
  omega

/-! ## `posixshm_send` -/

/-- The choice of the pool, with the number of dynamic pages (a `uint16_t`), which makes room
for the header of the slot as well. -/
def choosePosixshmPool (size : UInt32) : PosixshmPool × UInt16 :=
  match SysvshmPool.all.find? fun p => decide (0 < p.slotSizes ∧
      ((size + UInt32.ofNat ITC_HEADER_SIZE + 1 + 32).toNat : Int) ≤ p.slotSizes) with
  | some whichpool => (whichpool, 0)
  | none =>
      let pages := (size + UInt32.ofNat ITC_HEADER_SIZE + 1 + 32).toNat / SYSVSHM_PAGE_SIZE + 1
      (.poolUnlimit, UInt16.ofNat pages)

/-- `munmap` and `ftruncate`, on the way to another size of the object. -/
inductive Remap where
  | done
  | munmapFailed
  | ftruncateFailed
  deriving DecidableEq, Repr

/-- The area of the slot of `POOL_UNLIMIT` after `ftruncate`: what was there stays, as far as
the new size goes, and the rest is zero. -/
def ftruncateUnlimit (unlimit : Option Bytes) (numUnlimitPages : UInt16) : Bytes :=
  let size := numUnlimitPages.toNat * SYSVSHM_PAGE_SIZE - SYSVSHM_SLOT_HEADER_SIZE
  let old := (unlimit.getD []).take size
  old ++ List.replicate (size - old.length) 0

/-- The critical section of `posixshm_send`: the segment, the result code, and whether the mutex
has been given back. -/
abbrev PosixshmEnqueued := SysvshmEnqueued

/-- A message for the slot of `POOL_UNLIMIT` that needs no more than four pages makes the search
read behind the mapped pages. -/
def posixshmEnqueue (e : Endian) (remap : Remap) (rc : UInt32) (shm : PosixshmSegment)
    (message : ItcMessage) : Except MemFault PosixshmEnqueued :=
  let (whichpool, numUnlimitPages) := choosePosixshmPool message.size
  if isDynamic whichpool numUnlimitPages then
    match remap with
    | .munmapFailed => .ok { shm, rc, released := false }
    | .ftruncateFailed => .ok { shm, rc := rc ||| ITC_SYSCALL_ERROR, released := false }
    | .done => do
        let area := ftruncateUnlimit shm.unlimit numUnlimitPages
        let shm := (shm.resetUnlimit numUnlimitPages).enqueueSlot .unlimit
        let text ← txText e message
        let area ← storeBytes area 0 text
        return { shm := { shm with unlimit := some area }, rc, released := true }
  else if whichpool = .poolUnlimit then throw .outOfBounds
  else
    match shm.freeSlot whichpool with
    | none => .ok { shm, rc, released := false }
    | some i => do
        let new : PosixshmPoolSlot := ⟨whichpool, i⟩
        let shm := shm.enqueueSlot new
        let text ← txText e message
        let block ← storeBytes (shm.data new) 0 text
        return { shm := shm.setData new block, rc, released := true }

/-! ## `posixshm_rx_thread` -/

/-- The critical section of `posixshm_rx_thread`: the segment, the message that
`handle_received_message` has passed to `itc_send`, and whether the loop goes on; where it does
not, the mutex is not given back. -/
abbrev PosixshmDequeued := SysvshmDequeued

/-- The section from `handle_received_message` on; `mapDown` are the calls that remove the dynamic
pages. -/
def posixshmHandedOver (hand : MboxId → HandOver) (mapDown : Remap) (shm : PosixshmSegment)
    (h : PosixshmPoolSlot) (numUnlimitPages : UInt16) (fwd : Option ItcMessage) :
    PosixshmDequeued :=
  if handsOver hand fwd then
    let shm := shm.removeHead h
    if numUnlimitPages > 0 then
      match mapDown with
      | .munmapFailed => { shm, fwd, running := false }
      | .ftruncateFailed => { shm, fwd, running := false }
      | .done =>
          { shm := { shm with
              unlimit := none
              numUnlimitPages := 0
              numPages := UInt16.ofNat SYSVSHM_STATIC_ALLOC_PAGES }
            fwd, running := true }
    else { shm, fwd, running := true }
  else { shm, fwd, running := false }

/-- `mapUp` is the `munmap` before the dynamic pages are mapped, `hand` what becomes of the
`itc_send` of `handle_received_message`, which does what its namesake in the other plugin does. -/
def posixshmDequeue (e : Endian) (a : Allocator) (hand : MboxId → HandOver) (mapUp : Bool)
    (mapDown : Remap) (shm : PosixshmSegment) : Except MemFault PosixshmDequeued :=
  match shm.head with
  | none => .ok { shm, fwd := none, running := true }
  | some h =>
      let numUnlimitPages :=
        if h.whichpool = .poolUnlimit ∧ shm.numUnlimitPages > 0 then shm.numUnlimitPages else 0
      if numUnlimitPages > 0 ∧ mapUp = false then .ok { shm, fwd := none, running := false }
      else do
        -- without the dynamic pages the slot of `POOL_UNLIMIT` is not mapped
        let slot ←
          if h.whichpool = .poolUnlimit then
            if numUnlimitPages > 0 then pure (shm.unlimit.getD []) else throw .outOfBounds
          else pure (shm.data h)
        let fwd ←
          if (shm.slots h).isInUse = false then pure none else handleReceivedMessage e a slot
        return posixshmHandedOver hand mapDown shm h numUnlimitPages fwd

/-! ## The sections on messages for the static pools -/

section
variable {e : Endian} {a : Allocator} {shm : PosixshmSegment}
  {q : List (PosixshmPoolSlot × ShmMessage)}

theorem choosePosixshmPool_pool (size : UInt32) :
    (choosePosixshmPool size).1 = (choosePool size).1 := by
  unfold choosePosixshmPool choosePool
  generalize SysvshmPool.all.find? _ = whichpool
  cases whichpool <;> rfl

/-- A message whose slot has at most the size of those of `POOL_16352` gets a static pool. -/
theorem choosePosixshmPool_static {size : UInt32} (hsize : size.toNat + 49 ≤ 16384) :
    (choosePosixshmPool size).1 ≠ .poolUnlimit := by
  have hmax : size.toNat + ITC_HEADER_SIZE + 1 ≤ ITC_MAX_MSGSIZE := by
    simp only [ITC_HEADER_SIZE, ITC_MAX_MSGSIZE]
    omega
  rw [choosePosixshmPool_pool]
  rcases choosePool_spec hmax with ⟨hp, -⟩ | ⟨-, hbig, -⟩
  · exact hp
  · simp only [ITC_HEADER_SIZE] at hbig
    omega

/-- Where the message has a static pool, the senders of the two plugins do the same. -/
theorem posixshmEnqueue_static (remap : Remap) (rc : UInt32) {message : ItcMessage}
    (hp : (choosePosixshmPool message.size).1 ≠ .poolUnlimit) :
    posixshmEnqueue e remap rc shm message = sysvshmEnqueue e rc shm message := by
  have hp' := choosePosixshmPool_pool message.size
  rw [hp'] at hp
  have hdyn := isDynamic_false hp
  cases hslot : shm.freeSlot (choosePool message.size).1 with
  | none =>
    simp only [posixshmEnqueue, sysvshmEnqueue, hp', hdyn, Bool.false_eq_true, if_false, if_neg hp,
      hslot]
  | some i =>
    simp only [posixshmEnqueue, sysvshmEnqueue, hp', hdyn, Bool.false_eq_true, if_false, if_neg hp,
      hslot]

/-- Where the head of the queue is a static slot, the receivers of the two plugins do the same. -/
theorem posixshmDequeue_static (hand : MboxId → HandOver) (mapUp : Bool) (mapDown : Remap)
    (hhead : ∀ h, shm.head = some h → h.whichpool ≠ .poolUnlimit) :
    posixshmDequeue e a hand mapUp mapDown shm = sysvshmDequeue e a hand shm := by
  unfold sysvshmDequeue posixshmDequeue
  cases hq : shm.head with
  | none => rfl
  | some h =>
    have hp := hhead h hq
    have hpool : ¬ (h.whichpool = .poolUnlimit ∧ shm.numUnlimitPages > 0) := fun hc => hp hc.1
    have hzero : ¬ (0 : UInt16) > 0 := by decide
    simp only [if_neg hpool, if_neg hp, hzero, false_and, if_false]
    rfl

end

/-! ## Senders and the receiver -/

/-- The segment of a process, whose mutex is free between the critical sections; `sent` lists
the messages that the senders have queued, `handled` those that `handle_received_message` has
passed to `itc_send`. -/
structure PosixshmNet where
  shm : PosixshmSegment
  mutexFree : Bool
  rxRunning : Bool
  sent : List ShmMessage
  handled : List ItcMessage

/-- After `init_posixshm_mempool`. -/
def PosixshmNet.init : PosixshmNet where
  shm := .init
  mutexFree := true
  rxRunning := true
  sent := []
  handled := []

inductive PosixshmAction where
  | send (m : ShmMessage) (remap : Remap)
  | rx (mapUp : Bool) (mapDown : Remap)

/-- `proc n` is the process as the rx thread finds it when it hands the message number `n` over. -/
inductive PosixshmStep (e : Endian) (a : Allocator) (proc : Nat → RxProcess) :
    PosixshmNet → PosixshmAction → PosixshmNet → Prop where
  | send {net : PosixshmNet} {m : ShmMessage} {remap : Remap} {r : PosixshmEnqueued}
      (hmutex : net.mutexFree = true)
      (hr : posixshmEnqueue e remap ITC_OK net.shm m.msg = .ok r) :
      PosixshmStep e a proc net (.send m remap) { net with
        shm := r.shm
        mutexFree := r.released
        sent := if r.released then net.sent ++ [m] else net.sent }
  | rx {net : PosixshmNet} {mapUp : Bool} {mapDown : Remap} {r : PosixshmDequeued}
      (hmutex : net.mutexFree = true) (hrx : net.rxRunning = true)
      (hr : posixshmDequeue e a (proc net.handled.length).handOver mapUp mapDown net.shm = .ok r) :
      PosixshmStep e a proc net (.rx mapUp mapDown) { net with
        shm := r.shm
        mutexFree := r.running
        rxRunning := r.running
        handled := net.handled ++ r.fwd.toList }

/-- The messages sent belong to a static pool, which has a free slot. -/
def PosixshmRoom (net : PosixshmNet) (act : PosixshmAction) : Prop :=
  ∀ m remap, act = .send m remap → m.msg.size.toNat + 49 ≤ 16384 ∧
    ∃ i < (choosePosixshmPool m.msg.size).1.numSlots,
      (net.shm.slots ⟨(choosePosixshmPool m.msg.size).1, i⟩).isInUse = false

/-- The message that the receiver comes to next is not one that its process sends to itself. -/
def PosixshmReturns (proc : Nat → RxProcess) (net : PosixshmNet) (act : PosixshmAction) : Prop :=
  ∀ mapUp mapDown, act = .rx mapUp mapDown → ∀ m, net.sent[net.handled.length]? = some m →
    ¬ (proc net.handled.length).SendsToItself m.msg.receiver

namespace PosixshmNet

variable {e : Endian} {a : Allocator} {proc : Nat → RxProcess} {net net' : PosixshmNet}
  {q : List (PosixshmPoolSlot × ShmMessage)}

/-- `q` is what the segment holds, in static slots only. -/
structure Inv (e : Endian) (net : PosixshmNet) (q : List (PosixshmPoolSlot × ShmMessage)) :
    Prop where
  holds : net.shm.Holds e q
  static : ∀ r ∈ q.map Prod.fst, r.IsStatic
  sent : net.sent.map (fun m => m.msg) = net.handled ++ q.map fun p => p.2.msg
  mutex : net.mutexFree = true
  running : net.rxRunning = true

theorem Inv.init (e : Endian) : Inv e .init [] where
  holds := .init e
  static _ hr := absurd hr List.not_mem_nil
  sent := rfl
  mutex := rfl
  running := rfl

/-- A sender's section queues its message. -/
theorem Inv.send (h : Inv e net q) {m : ShmMessage} {remap : Remap}
    (hroom : PosixshmRoom net (.send m remap)) :
    ∃ shm' r, posixshmEnqueue e remap ITC_OK net.shm m.msg =
        .ok { shm := shm', rc := ITC_OK, released := true } ∧
      Inv e { net with shm := shm', mutexFree := true, sent := net.sent ++ [m] }
        (q ++ [(r, m)]) := by
  obtain ⟨hsize, hfree⟩ := hroom m remap rfl
  have hp := choosePosixshmPool_static hsize
  rw [posixshmEnqueue_static remap ITC_OK hp]
  rw [choosePosixshmPool_pool] at hp hfree
  obtain ⟨shm', r, hrun, hholds, hpool, hlt⟩ := sysvshmEnqueue_static h.holds m ITC_OK hp hfree
  refine ⟨shm', r, hrun, hholds, ?_, ?_, rfl, h.running⟩
  · intro r' hr'
    rw [List.map_append, List.mem_append] at hr'
    rcases hr' with hr' | hr'
    · exact h.static r' hr'
    · rw [List.map_singleton, List.mem_singleton] at hr'
      subst hr'
      exact ⟨fun hun => hp (hpool ▸ hun), hlt⟩
  · simp [h.sent]

/-- The receiver finds a static slot at the head. -/
theorem Inv.dequeue (h : Inv e net q) (a : Allocator) (hand : MboxId → HandOver) (mapUp : Bool)
    (mapDown : Remap) :
    posixshmDequeue e a hand mapUp mapDown net.shm = sysvshmDequeue e a hand net.shm := by
  refine posixshmDequeue_static hand mapUp mapDown fun r hr => ?_
  have hmem : r ∈ q.map Prod.fst :=
    List.mem_of_head? (h.holds.threaded.head_eq.symm.trans hr)
  exact (h.static r hmem).1

/-- The first message of the queue is the next one to hand over. -/
theorem Inv.next {r : PosixshmPoolSlot} {m : ShmMessage} (h : Inv e net ((r, m) :: q)) :
    ∃ m', net.sent[net.handled.length]? = some m' ∧ m'.msg = m.msg := by
  have hmsg := congrArg (fun l : List ItcMessage => l[net.handled.length]?) h.sent
  simp only [List.getElem?_map, List.getElem?_append_right (Nat.le_refl _), Nat.sub_self,
    List.map_cons, List.getElem?_cons_zero] at hmsg
  exact Option.map_eq_some_iff.mp hmsg

/-- The receiver's section hands over the first message of the queue, if there is one and its
hand-over returns. -/
theorem Inv.rx (h : Inv e net q) (a : Allocator) (mapUp : Bool) (mapDown : Remap)
    (hreturns : PosixshmReturns proc net (.rx mapUp mapDown)) :
    ∃ shm', posixshmDequeue e a (proc net.handled.length).handOver mapUp mapDown net.shm =
        .ok { shm := shm', fwd := q.head?.map fun p => p.2.msg, running := true } ∧
      Inv e { net with
        shm := shm', mutexFree := true, rxRunning := true
        handled := net.handled ++ (q.head?.map fun p => p.2.msg).toList } q.tail ∧
      ∀ r, net.shm.head = some r →
        (shm'.slots r).isInUse = false ∧ (shm'.slots r).nextSlot = none := by
  rw [h.dequeue]
  cases q with
  | nil =>
    have hhead : net.shm.head = none := h.holds.threaded.head_none_iff.mpr rfl
    refine ⟨net.shm, ?_, ⟨h.holds, h.static, ?_, rfl, rfl⟩, ?_⟩
    · simp only [sysvshmDequeue, hhead, List.head?_nil, Option.map_none]
    · simp [h.sent]
    · intro r hr
      rw [hhead] at hr
      cases hr
  | cons p q =>
    obtain ⟨r, m⟩ := p
    have hhead : net.shm.head = some r := h.holds.threaded.head_eq
    have hstatic : r.IsStatic := h.static r List.mem_cons_self
    have hhand : handsOver (proc net.handled.length).handOver (some m.msg) = true := by
      obtain ⟨m', hnext, hm'⟩ := h.next
      have hno := hreturns mapUp mapDown rfl m' hnext
      rw [hm', ← RxProcess.handOver_waits_iff] at hno
      exact handsOver_iff.mpr hno
    obtain ⟨shm', hrun, hholds⟩ := sysvshmDequeue_spec a _ h.holds hhand
    have hleft : r ∉ q.map Prod.fst := (List.nodup_cons.mp h.holds.threaded.nodup).1
    refine ⟨shm', hrun, ⟨hholds, ?_, ?_, rfl, rfl⟩, ?_⟩
    · exact fun r' hr' => h.static r' (List.mem_cons_of_mem _ hr')
    · simp [h.sent]
    · intro r' hr'
      rw [hhead] at hr'
      cases hr'
      refine ⟨?_, hholds.free r hleft hstatic.1⟩
      rw [← Bool.not_eq_true, hholds.inUse]
      exact hleft

/-- **Every section keeps the invariant**, a sender's if its pool has a free slot and the
receiver's if its hand-over returns. -/
theorem Inv.step (h : Inv e net q) {act : PosixshmAction} (hroom : PosixshmRoom net act)
    (hreturns : PosixshmReturns proc net act) (hstep : PosixshmStep e a proc net act net') :
    ∃ q', Inv e net' q' := by
  cases hstep with
  | send _ hr =>
    obtain ⟨shm', r, hrun, hinv⟩ := h.send hroom
    rw [hrun] at hr
    cases hr
    exact ⟨_, hinv⟩
  | rx _ _ hr =>
    obtain ⟨shm', hrun, hinv, -⟩ := h.rx a _ _ hreturns
    rw [hrun] at hr
    cases hr
    exact ⟨_, hinv⟩

end PosixshmNet

open PosixshmNet

end ItcFramework
