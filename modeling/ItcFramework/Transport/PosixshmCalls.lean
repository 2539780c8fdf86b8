import ItcFramework.Lib.Counting
import ItcFramework.Lib.Simulation
import ItcFramework.Transport.Posixshm
import ItcFramework.Transport.SysvshmDelivery
import ItcFramework.Transport.SysvshmLayout

/-!
# Calls of the POSIX shared-memory transport

Any number of calls of `posixshm_send`, each with a message for a static pool, and the rx thread of
the receiver, interleaved at the semaphore operations. The plugin takes and posts its semaphores in
the order of `itc_sysvshm.c`, so the places of the calls are those of `ShmNet`. The hand-over is part
of the section of the rx thread. No semaphore operation fails.

* `PosixshmCalls`, `PosixshmCallStep` — the system.
* `PosixshmCalls.Matches.step`, `PosixshmCalls.Matches.finish` — while senders find room and every
  hand-over returns it does what the other plugin does.
* `posixshm_delivers_iff` — the runs that deliver what they accept are those whose senders find
  room and whose messages can be handed over.
* `posixshm_no_room_fatal` — after a sender that finds none nothing is queued or handed over.
-/

set_option autoImplicit false

namespace ItcFramework

open ByteImage LinkedChain Transition

/-! ## The system -/

structure PosixshmCalls (ι : Type) where
  net : ShmNet ι
  rxRunning : Bool

/-- After `posixshm_init` of the receiver. -/
def PosixshmCalls.init {ι : Type} : PosixshmCalls ι := ⟨.init, true⟩

def PosixshmCalls.setNet {ι : Type} (p : PosixshmCalls ι) (net : ShmNet ι) : PosixshmCalls ι :=
  { p with net }

/-- The rx thread leaves its section, or keeps the mutex: it leaves its loop, or waits in its own
`posixshm_send`, which takes a slot credit before it needs that mutex. -/
def PosixshmCalls.received {ι : Type} (p : PosixshmCalls ι) (r : PosixshmDequeued)
    (returns : Bool) : PosixshmCalls ι where
  net := { p.net with
    shm := r.shm
    semSlot := if returns then p.net.semSlot else p.net.semSlot - 1
    semMutex := if r.running then p.net.semMutex else p.net.semMutex - 1
    rx := .postSlot
    handled := p.net.handled ++ r.fwd.toList }
  rxRunning := r.running

/-- The calls whose messages are queued and not yet handed over. -/
def PosixshmCalls.onTheirWay {ι : Type} (p : PosixshmCalls ι) : List ι :=
  p.net.order.drop p.net.handled.length

/-- The steps of the system. `refuse` is a call for which `get_posixshm_cl` finds no receiver;
`proc n` is the process as the rx thread finds it when it hands the message number `n` over. -/
inductive PosixshmCallStep {ι : Type} [DecidableEq ι] (e : Endian) (a : Allocator)
    (proc : Nat → RxProcess) (msg : ι → ShmMessage) :
    PosixshmCalls ι → ShmAction ι → PosixshmCalls ι → Prop where
  | call {p : PosixshmCalls ι} {i : ι} (hi : p.net.phase i = .notCalled) :
      PosixshmCallStep e a proc msg p (.call i) (p.setNet (p.net.setPhase i .waitSlot))
  | refuse {p : PosixshmCalls ι} {i : ι} (hi : p.net.phase i = .notCalled) :
      PosixshmCallStep e a proc msg p (.refuse i)
        (p.setNet (p.net.setPhase i (.returned ITC_QUEUE_NULL)))
  | takeSlot {p : PosixshmCalls ι} {i : ι} (hi : p.net.phase i = .waitSlot)
      (hslot : 0 < p.net.semSlot) :
      PosixshmCallStep e a proc msg p (.takeSlot i)
        (p.setNet ({ p.net with semSlot := p.net.semSlot - 1 }.setPhase i .waitMutex))
  | enter {p : PosixshmCalls ι} {i : ι} {remap : Remap} {r : PosixshmEnqueued}
      (hi : p.net.phase i = .waitMutex) (hmutex : 0 < p.net.semMutex)
      (hr : posixshmEnqueue e remap ITC_OK p.net.shm (msg i).msg = .ok r) :
      PosixshmCallStep e a proc msg p (.enter i) (p.setNet (p.net.leave i r))
  | notify {p : PosixshmCalls ι} {i : ι} {rc : UInt32} {freed : Bool}
      (hi : p.net.phase i = .notify rc) (hfree : itcFreeAllowed (msg i).msg = .ok freed) :
      PosixshmCallStep e a proc msg p (.notify i)
        (p.setNet ({ p.net with semNotify := p.net.semNotify + 1 }.setPhase i
          (.returned (if freed then ITC_OK else rc))))
  | rxWait {p : PosixshmCalls ι} (hrunning : p.rxRunning = true) (hrx : p.net.rx = .waitNotify)
      (hnotify : 0 < p.net.semNotify) :
      PosixshmCallStep e a proc msg p .rxWait
        (p.setNet { p.net with semNotify := p.net.semNotify - 1, rx := .waitMutex })
  | rxEnter {p : PosixshmCalls ι} {mapUp : Bool} {mapDown : Remap} {r : PosixshmDequeued}
      (hrunning : p.rxRunning = true) (hrx : p.net.rx = .waitMutex) (hmutex : 0 < p.net.semMutex)
      (hr : posixshmDequeue e a (proc p.net.handled.length).handOver mapUp mapDown p.net.shm =
        .ok r) :
      PosixshmCallStep e a proc msg p .rxEnter
        (p.received r (handsOver (proc p.net.handled.length).handOver r.fwd))
  | rxPost {p : PosixshmCalls ι} (hrunning : p.rxRunning = true) (hrx : p.net.rx = .postSlot) :
      PosixshmCallStep e a proc msg p .rxPost
        (p.setNet { p.net with semSlot := p.net.semSlot + 1, rx := .waitNotify })

section
variable {ι : Type} [DecidableEq ι] (e : Endian) (a : Allocator) (proc : Nat → RxProcess)
  (msg : ι → ShmMessage)

/-- Every sender finds fewer messages of its pool on their way than the pool has slots. -/
def PosixshmRoomLeft (p : PosixshmCalls ι) (act : ShmAction ι) : Prop :=
  ∀ i, act = .enter i →
    (p.onTheirWay.countP fun j =>
      (choosePosixshmPool (msg j).msg.size).1 = (choosePosixshmPool (msg i).msg.size).1) <
      (choosePosixshmPool (msg i).msg.size).1.numSlots

/-- No message that is queued is one that the process of the rx thread sends to itself when it comes
to it. -/
def PosixshmCallReturns (p : PosixshmCalls ι) (act : ShmAction ι) : Prop :=
  ∀ i, act = .enter i → ¬ (proc p.net.order.length).SendsToItself (msg i).msg.receiver

/-- Every sender finds room, and its message can be handed over. -/
def PosixshmDeliverable (p : PosixshmCalls ι) (act : ShmAction ι) : Prop :=
  PosixshmRoomLeft msg p act ∧ PosixshmCallReturns proc msg p act

end

/-! ## Runs -/

namespace PosixshmCalls

variable {ι : Type} {e : Endian} {a : Allocator} {proc : Nat → RxProcess} {msg : ι → ShmMessage}
  {p p' : PosixshmCalls ι} {net net' : ShmNet ι} {act : ShmAction ι} {done : List ι}
  {q : List (SysvshmPoolSlot × ι)}

/-- Every message has a static pool. -/
def Static (msg : ι → ShmMessage) : Prop := ∀ i, (msg i).msg.size.toNat + 49 ≤ 16384

theorem Static.pool (h : Static msg) (i : ι) : (choosePool (msg i).msg.size).1 ≠ .poolUnlimit := by
  rw [← choosePosixshmPool_pool]
  exact choosePosixshmPool_static (h i)

/-- The slot belongs to the pool of its message. -/
def InPool (msg : ι → ShmMessage) (x : SysvshmPoolSlot × ι) : Prop :=
  x.1.whichpool = (choosePool (msg x.2).msg.size).1 ∧ x.1.whichslot < x.1.whichpool.numSlots

/-- The receivers of the messages of these calls. -/
def receivers (msg : ι → ShmMessage) (calls : List ι) : List MboxId :=
  calls.map fun i => (msg i).msg.receiver

/-- The system is that of the other plugin, with every message in a slot of its pool, and the
hand-overs so far have returned. -/
structure Matches (e : Endian) (proc : Nat → RxProcess) (msg : ι → ShmMessage)
    (p : PosixshmCalls ι) (net : ShmNet ι) (done : List ι) (q : List (SysvshmPoolSlot × ι)) :
    Prop where
  same : p = ⟨net, true⟩
  inv : ShmNet.Inv e msg net done q
  pools : ∀ x ∈ q, InPool msg x
  returned : RxProcess.NoneToItself proc (receivers msg done)

theorem Matches.init (e : Endian) (proc : Nat → RxProcess) (msg : ι → ShmMessage) :
    Matches e proc msg .init .init [] [] :=
  ⟨rfl, .init e msg, fun _ hx => absurd hx List.not_mem_nil, .nil proc⟩

theorem slots_eq (q : List (SysvshmPoolSlot × ι)) :
    (q.map (Prod.map id msg)).map Prod.fst = q.map Prod.fst := by
  rw [List.map_map]
  rfl

theorem Matches.onTheirWay (h : Matches e proc msg p net done q) : p.onTheirWay = q.map Prod.snd := by
  rw [h.same, PosixshmCalls.onTheirWay, h.inv.order, h.inv.handled, List.length_map,
    List.drop_left]

/-- **A slot of the pool is free just when fewer messages of the pool are on their way than it has
slots.** -/
theorem Matches.roomLeft (h : Matches e proc msg p net done q) (hstatic : Static msg) :
    PosixshmRoomLeft msg p act ↔ ShmRoom msg net act := by
  refine forall_congr' fun i => imp_congr_right fun _ => ?_
  have hsmall : ¬ 16384 ≤ (msg i).msg.size.toNat + ITC_HEADER_SIZE + 1 := by
    have hi := hstatic i
    simp only [ITC_HEADER_SIZE]
    omega
  rw [SysvshmSegment.HasRoom, if_neg hsmall, and_iff_right (hstatic.pool i), h.onTheirWay,
    List.countP_map]
  simp only [choosePosixshmPool_pool]
  generalize (choosePool (msg i).msg.size).1 = whichpool
  have hcount : q.countP ((fun j => decide ((choosePool (msg j).msg.size).1 = whichpool)) ∘
      Prod.snd) = ((q.filter fun x => x.1.whichpool = whichpool).map fun x =>
        x.1.whichslot).length := by
    rw [List.length_map, ← List.countP_eq_length_filter]
    refine List.countP_congr fun x hx => ?_
    rw [(h.pools x hx).1]
    rfl
  have hnd := h.inv.holds.threaded.nodup
  rw [slots_eq] at hnd
  have hinj : ∀ x ∈ q.filter fun x => x.1.whichpool = whichpool,
      ∀ y ∈ q.filter fun x => x.1.whichpool = whichpool,
      x.1.whichslot = y.1.whichslot → x = y := by
    intro x hx y hy hslot
    rw [List.mem_filter, decide_eq_true_iff] at hx hy
    refine List.inj_on_of_nodup_map hnd hx.1 hy.1 ?_
    cases hxs : x.1
    cases hys : y.1
    rw [hxs] at hx hslot
    rw [hys] at hy hslot
    congr
    · exact hx.2.trans hy.2.symm
  rw [hcount]
  refine (Counting.exists_not_mem_iff ?_ ?_).symm.trans ?_
  · exact ((List.Nodup.of_map _ hnd).filter _).map_on hinj
  · intro j hj
    obtain ⟨x, hx, rfl⟩ := List.mem_map.mp hj
    rw [List.mem_filter, decide_eq_true_iff] at hx
    rw [← hx.2]
    exact (h.pools x hx.1).2
  · refine exists_congr fun j => and_congr_right fun hj => ?_
    rw [← Bool.not_eq_true, h.inv.holds.inUse, slots_eq]
    refine not_congr ?_
    rw [List.mem_map, List.mem_map]
    constructor
    · rintro ⟨x, hx, rfl⟩
      rw [List.mem_filter, decide_eq_true_iff] at hx
      refine ⟨x, hx.1, ?_⟩
      rw [← hx.2]
    · rintro ⟨x, hx, hslot⟩
      refine ⟨x, List.mem_filter.mpr ⟨hx, ?_⟩, ?_⟩
      · rw [hslot, decide_eq_true_iff]
      · rw [hslot]

/-- The head of the queue is a static slot. -/
theorem Matches.head_static (h : Matches e proc msg p net done q) (hstatic : Static msg) :
    ∀ r, net.shm.head = some r → r.whichpool ≠ .poolUnlimit := by
  intro r hr
  have hmem := List.mem_of_head? (h.inv.holds.threaded.head_eq.symm.trans hr)
  rw [slots_eq] at hmem
  obtain ⟨x, hx, rfl⟩ := List.mem_map.mp hmem
  rw [(h.pools x hx).1]
  exact hstatic.pool x.2

theorem posixshmEnqueue_of_static (hstatic : Static msg) (remap : Remap) (i : ι) :
    posixshmEnqueue e remap ITC_OK net.shm (msg i).msg =
      sysvshmEnqueue e ITC_OK net.shm (msg i).msg :=
  posixshmEnqueue_static remap ITC_OK (by rw [choosePosixshmPool_pool]; exact hstatic.pool i)

/-- A call that finds no room leaves the segment as it is, and its message unfreed. -/
theorem Matches.enqueue_noRoom (h : Matches e proc msg p net done q) (hstatic : Static msg) {i : ι}
    (hno : ¬ PosixshmRoomLeft msg p (.enter i)) (remap : Remap) :
    posixshmEnqueue e remap ITC_OK net.shm (msg i).msg = .ok ⟨net.shm, ITC_OK, false⟩ := by
  rw [h.roomLeft hstatic] at hno
  have hsmall : ¬ 16384 ≤ (msg i).msg.size.toNat + ITC_HEADER_SIZE + 1 := by
    have hi := hstatic i
    simp only [ITC_HEADER_SIZE]
    omega
  have hfull : net.shm.freeSlot (choosePool (msg i).msg.size).1 = none := by
    rw [SysvshmSegment.freeSlot, List.find?_eq_none]
    intro j hj hfree
    rw [Bool.and_eq_true, Bool.not_eq_true'] at hfree
    refine hno ?_
    rintro i' ⟨⟩
    rw [SysvshmSegment.HasRoom, if_neg hsmall]
    exact ⟨hstatic.pool i, j, List.mem_range.mp hj, hfree.1⟩
  rw [posixshmEnqueue_of_static hstatic remap i, sysvshmEnqueue]
  simp only [isDynamic_false (hstatic.pool i), Bool.false_eq_true, if_false, hfull]

variable [DecidableEq ι]

/-- A call that finds room puts its message into a slot of its pool. -/
theorem Matches.enter (h : Matches e proc msg p net done q) (hstatic : Static msg) {i : ι}
    {r : SysvshmEnqueued} (hi : net.phase i = .waitMutex) (hroom : ShmRoom msg net (.enter i))
    (hr : sysvshmEnqueue e ITC_OK net.shm (msg i).msg = .ok r) :
    ∃ slot, Matches e proc msg ⟨net.leave i r, true⟩ (net.leave i r) done (q ++ [(slot, i)]) := by
  have hp := hstatic.pool i
  have hfree := hroom i rfl
  have hsmall : ¬ 16384 ≤ (msg i).msg.size.toNat + ITC_HEADER_SIZE + 1 := by
    have hi := hstatic i
    simp only [ITC_HEADER_SIZE]
    omega
  rw [SysvshmSegment.HasRoom, if_neg hsmall] at hfree
  obtain ⟨shm', slot', henq, hholds, hpool, hlt⟩ :=
    sysvshmEnqueue_static h.inv.holds (msg i) ITC_OK hp hfree.2
  obtain ⟨slot, hinv⟩ := h.inv.enter hi (hroom i rfl) hr
  rw [henq] at hr
  cases hr
  -- both are the queue of the new segment
  have hslot : slot = slot' := by
    have hslots := hinv.holds.threaded.unique hholds.threaded
    rw [slots_eq, List.map_append, List.map_append, slots_eq] at hslots
    exact List.singleton_injective (List.append_cancel_left hslots)
  subst hslot
  refine ⟨slot, rfl, hinv, fun x hx => ?_, h.returned⟩
  rcases List.mem_append.mp hx with hx | hx
  · exact h.pools x hx
  · rw [List.mem_singleton.mp hx]
    exact ⟨hpool, hlt⟩

/-- The rx thread waits in its own `posixshm_send` for the mutex that it holds. -/
structure Waits (p : PosixshmCalls ι) : Prop where
  mutex : p.net.semMutex = 0
  stopped : p.rxRunning = false

/-- **While senders find room a step keeps the system that of the other plugin**, or it hands over a
message that the process sends to itself. -/
theorem Matches.step (h : Matches e proc msg p net done q) (hstatic : Static msg)
    (hroom : PosixshmRoomLeft msg p act) (hstep : PosixshmCallStep e a proc msg p act p') :
    (∃ net' done' q', Matches e proc msg p' net' done' q') ∨
      Waits p' ∧ ¬ RxProcess.NoneToItself proc (receivers msg net.order) := by
  rw [h.roomLeft hstatic] at hroom
  obtain ⟨rfl, hinv, hpools, hreturned⟩ := id h
  have hnot : ∀ i, net.phase i = .notCalled ∨ net.phase i = .waitSlot → i ∉ net.order := by
    intro i hi hmem
    rcases (hinv.accepted i).mp hmem with ⟨rc, hrc⟩ | hrc <;>
      rcases hi with hi | hi <;> rw [hi] at hrc <;> cases hrc
  have hsame {net' : ShmNet ι} (hinv' : ShmNet.Inv e msg net' done q) :
      ∃ net'' done' q', Matches e proc msg ⟨net', true⟩ net'' done' q' :=
    ⟨net', done, q, rfl, hinv', hpools, hreturned⟩
  cases hstep with
  | call hi => exact .inl (hsame (hinv.before (hnot _ (.inl hi)) (by simp) net.semSlot))
  | refuse hi => exact .inl (hsame (hinv.before (hnot _ (.inl hi)) (by simp) net.semSlot))
  | takeSlot hi _ =>
    exact .inl (hsame (hinv.before (hnot _ (.inr hi)) (by simp) (net.semSlot - 1)))
  | @enter i remap r hi _ hr =>
    rw [posixshmEnqueue_of_static hstatic remap i] at hr
    obtain ⟨slot, h'⟩ := h.enter hstatic hi hroom hr
    exact .inl ⟨_, _, _, h'⟩
  | notify hi hfree =>
    rw [itcFreeAllowed_user] at hfree
    cases hfree
    exact .inl (hsame (hinv.notify hi).1)
  | rxWait _ hrx hnotify => exact .inl (hsame (hinv.rxWait hrx hnotify))
  | @rxEnter mapUp mapDown r _ hrx _ hr =>
    obtain ⟨slot, i, q', shm', rfl, hdeq, hinv'⟩ := hinv.rxEnter a hrx
    have hlen : net.handled.length = (receivers msg done).length := by
      rw [hinv.handled, receivers, List.length_map, List.length_map]
    have horder : receivers msg net.order =
        receivers msg done ++ (msg i).msg.receiver :: receivers msg (q'.map Prod.snd) := by
      rw [hinv.order, receivers, List.map_append, List.map_cons, List.map_cons]
      rfl
    rw [posixshmDequeue_static _ mapUp mapDown (h.head_static hstatic)] at hr
    by_cases hwaits : (proc net.handled.length).handOver (msg i).msg.receiver = .waits
    · -- the section does not end
      rw [sysvshmDequeue_waits a hinv.holds hwaits] at hr
      cases hr
      refine .inr ⟨⟨?_, rfl⟩, fun hnone => ?_⟩
      · show net.semMutex - 1 = 0
        rw [hinv.mutex]
      · rw [horder] at hnone
        exact hnone.next hlen hwaits
    · have hhand : handsOver (proc net.handled.length).handOver (some (msg i).msg) = true :=
        handsOver_iff.mpr hwaits
      rw [sysvshmDequeue_eq a _ handOverReturns hinv.holds hhand rfl, hdeq] at hr
      cases hr
      refine .inl ⟨_, _, q', ?_, hinv', fun x hx => hpools x (List.mem_cons_of_mem _ hx), ?_⟩
      · rw [received, hhand]
        rfl
      · rw [receivers, List.map_append]
        refine hreturned.snoc hlen ?_
        rw [← RxProcess.handOver_waits_iff]
        exact hwaits
  | rxPost _ hrx => exact .inl (hsame (hinv.rxPost hrx (net.semSlot + 1)))

/-- A call that enters its section may link its message, and no other step changes the queue. -/
theorem step_order (hstep : PosixshmCallStep e a proc msg p act p') :
    p'.net.order = p.net.order ∨ ∃ i, act = .enter i ∧ p'.net.order = p.net.order ++ [i] := by
  cases hstep with
  | @enter i remap r _ _ _ =>
    show (p.net.leave i r).order = _ ∨ _
    unfold ShmNet.leave
    split
    · exact .inr ⟨i, rfl, rfl⟩
    · exact .inl rfl
  | call _ => exact .inl rfl
  | refuse _ => exact .inl rfl
  | takeSlot _ _ => exact .inl rfl
  | notify _ _ => exact .inl rfl
  | rxWait _ _ _ => exact .inl rfl
  | rxEnter _ _ _ _ => exact .inl rfl
  | rxPost _ _ => exact .inl rfl

/-- A mutex that is gone stays gone. -/
theorem step_mutex (hstep : PosixshmCallStep e a proc msg p act p') (hmutex : p.net.semMutex = 0) :
    p'.net.semMutex = 0 := by
  cases hstep with
  | enter _ hfree _ =>
    rw [hmutex] at hfree
    exact absurd hfree (Nat.lt_irrefl 0)
  | rxEnter _ _ hfree _ =>
    rw [hmutex] at hfree
    exact absurd hfree (Nat.lt_irrefl 0)
  | _ => exact hmutex

theorem Matches.step_returns (h : Matches e proc msg p net done q) (hstatic : Static msg)
    (hnone : RxProcess.NoneToItself proc (receivers msg p.net.order))
    (hroom : PosixshmRoomLeft msg p act) (hreturns : PosixshmCallReturns proc msg p act)
    (hstep : PosixshmCallStep e a proc msg p act p') :
    ∃ net' done' q', Matches e proc msg p' net' done' q' ∧
      RxProcess.NoneToItself proc (receivers msg p'.net.order) := by
  have hnone' : RxProcess.NoneToItself proc (receivers msg p'.net.order) := by
    rcases step_order hstep with horder | ⟨i, rfl, horder⟩
    · rw [horder]
      exact hnone
    · rw [horder, receivers, List.map_append]
      exact hnone.snoc (List.length_map _).symm (hreturns i rfl)
  rcases h.step hstatic hroom hstep with ⟨net', done', q', h'⟩ | ⟨-, hno⟩
  · exact ⟨net', done', q', h', hnone'⟩
  · rw [h.same] at hnone
    exact absurd hnone hno

theorem Matches.run_returns {as : List (ShmAction ι)} (h : Matches e proc msg p net done q)
    (hstatic : Static msg) (hnone : RxProcess.NoneToItself proc (receivers msg p.net.order))
    (hrun : Run (Guarded (PosixshmCallStep e a proc msg) (PosixshmDeliverable proc msg)) p as p') :
    ∃ net' done' q', Matches e proc msg p' net' done' q' ∧
      RxProcess.NoneToItself proc (receivers msg p'.net.order) := by
  refine hrun.invariant_of_guard (I := fun p => ∃ net done q, Matches e proc msg p net done q ∧
    RxProcess.NoneToItself proc (receivers msg p.net.order)) ?_ ⟨net, done, q, h, hnone⟩
  rintro p act p' ⟨net, done, q, h, hnone⟩ ⟨hroom, hreturns⟩ hstep
  exact h.step_returns hstatic hnone hroom hreturns hstep

/-- **What is left to do can be done**, as in the other plugin. -/
theorem Matches.finish (h : Matches e proc msg p net done q) (hstatic : Static msg)
    (hnone : RxProcess.NoneToItself proc (receivers msg p.net.order)) (hact : act.Finishing)
    (hstep : ShmStep e a msg net act net') :
    ∃ p', PosixshmCallStep e a proc msg p act p' ∧ ∃ done' q',
      Matches e proc msg p' net' done' q' ∧
        RxProcess.NoneToItself proc (receivers msg p'.net.order) := by
  have hroom : PosixshmRoomLeft msg p act := by
    rintro i rfl
    exact hact.elim
  have hreturns : PosixshmCallReturns proc msg p act := by
    rintro i rfl
    exact hact.elim
  have hmatches (hstep' : PosixshmCallStep e a proc msg p act ⟨net', true⟩) :
      ∃ p', PosixshmCallStep e a proc msg p act p' ∧ ∃ done' q',
        Matches e proc msg p' net' done' q' ∧
          RxProcess.NoneToItself proc (receivers msg p'.net.order) := by
    obtain ⟨net'', done', q', h', hnone'⟩ := h.step_returns hstatic hnone hroom hreturns hstep'
    obtain rfl : net' = net'' := congrArg PosixshmCalls.net h'.same
    exact ⟨_, hstep', done', q', h', hnone'⟩
  obtain ⟨rfl, hinv, -⟩ := id h
  cases hstep with
  | call _ => exact hact.elim
  | refuse _ => exact hact.elim
  | takeSlot _ _ => exact hact.elim
  | enter _ _ _ => exact hact.elim
  | notify hi hfree => exact hmatches (.notify hi hfree)
  | rxWait hrx hnotify => exact hmatches (.rxWait rfl hrx hnotify)
  | @rxEnter r hrx hmutex hr =>
    obtain ⟨slot, i, q', -, rfl, -, -⟩ := hinv.rxEnter a hrx
    obtain ⟨shm', hdeq, -⟩ := sysvshmDequeue_spec a handOverReturns hinv.holds rfl
    rw [hr] at hdeq
    cases hdeq
    have hhand : handsOver (proc net.handled.length).handOver (some (msg i).msg) = true := by
      rw [receivers, hinv.order, List.map_append] at hnone
      refine handsOver_iff.mpr (hnone.next ?_)
      rw [hinv.handled, List.length_map, List.length_map]
    rw [← sysvshmDequeue_eq a _ handOverReturns hinv.holds hhand rfl,
      ← posixshmDequeue_static _ true .done (h.head_static hstatic)] at hr
    have hstep' : PosixshmCallStep e a proc msg ⟨net, true⟩ .rxEnter _ :=
      .rxEnter rfl hrx hmutex hr
    rw [received, hhand] at hstep'
    exact hmatches hstep'
  | rxPost hrx => exact hmatches (.rxPost rfl hrx)

/-- **A call that finds no room** returns `ITC_OK` and keeps the mutex. -/
theorem Matches.noRoom (h : Matches e proc msg p net done q) (hstatic : Static msg) {i : ι}
    (hno : ¬ PosixshmRoomLeft msg p (.enter i))
    (hstep : PosixshmCallStep e a proc msg p (.enter i) p') :
    i ∉ net.order ∧ p'.net.semMutex = 0 ∧ p'.net.phase i = .returned ITC_OK ∧
      p'.net.order = net.order ∧ p'.net.handled = net.handled := by
  obtain ⟨rfl, hinv, -⟩ := id h
  cases hstep with
  | @enter _ remap r hi hmutex hr =>
    rw [h.enqueue_noRoom hstatic hno remap] at hr
    cases hr
    have hnot : i ∉ net.order := by
      intro hmem
      have hphase : net.phase i = .waitMutex := hi
      rcases (hinv.accepted i).mp hmem with ⟨rc, hrc⟩ | hrc
      · rw [hphase] at hrc
        cases hrc
      · rw [hphase] at hrc
        cases hrc
    refine ⟨hnot, ?_, ShmNet.setPhase_self .., rfl, rfl⟩
    show net.semMutex - 1 = 0
    rw [hinv.mutex]

/-- The mutex is gone: the messages of the calls `queued` are queued, of which `handled` have come
out, and only these calls and `i` return `ITC_OK`. -/
structure Stuck (i : ι) (queued : List ι) (handled : List ItcMessage) (p : PosixshmCalls ι) :
    Prop where
  mutex : p.net.semMutex = 0
  order : p.net.order = queued
  handled : p.net.handled = handled
  stuck : p.net.phase i = .returned ITC_OK
  accepted : ∀ j, (∃ rc, p.net.phase j = .notify rc) ∨ p.net.phase j = .returned ITC_OK →
    j = i ∨ j ∈ queued

/-- A call that has not come to its section yet goes on. -/
theorem Stuck.setPhase {i k : ι} {queued : List ι} {handled : List ItcMessage}
    (h : Stuck i queued handled p) (net : ShmNet ι) (phase : ShmSendPhase)
    (hmutex : net.semMutex = p.net.semMutex) (horder : net.order = p.net.order)
    (hhandled : net.handled = p.net.handled) (hphase : net.phase = p.net.phase) (hk : k ≠ i)
    (hnew : (∃ rc, phase = .notify rc) ∨ phase = .returned ITC_OK → k = i ∨ k ∈ queued) :
    Stuck i queued handled (p.setNet (net.setPhase k phase)) where
  mutex := hmutex.trans h.mutex
  order := horder.trans h.order
  handled := hhandled.trans h.handled
  stuck := by
    rw [PosixshmCalls.setNet, ShmNet.setPhase_ne _ _ hk.symm, hphase]
    exact h.stuck
  accepted := by
    intro j hj
    by_cases hjk : j = k
    · rw [PosixshmCalls.setNet, hjk, ShmNet.setPhase_self] at hj
      rw [hjk]
      exact hnew hj
    · rw [PosixshmCalls.setNet, ShmNet.setPhase_ne _ _ hjk, hphase] at hj
      exact h.accepted j hj

/-- **Nobody gives the mutex back.** -/
theorem Stuck.step {i : ι} {queued : List ι} {handled : List ItcMessage}
    (h : Stuck i queued handled p) (hstep : PosixshmCallStep e a proc msg p act p') :
    Stuck i queued handled p' := by
  have hother {k : ι} {phase : ShmSendPhase} (hk : p.net.phase k = phase)
      (hne : phase ≠ .returned ITC_OK) : k ≠ i := by
    rintro rfl
    exact hne (hk.symm.trans h.stuck)
  have hlocked : ¬ 0 < p.net.semMutex := by
    rw [h.mutex]
    exact Nat.lt_irrefl 0
  cases hstep with
  | call hi => exact h.setPhase _ _ rfl rfl rfl rfl (hother hi (by simp)) (by simp)
  | refuse hi =>
    have hnull : ITC_QUEUE_NULL ≠ ITC_OK := by decide
    exact h.setPhase _ _ rfl rfl rfl rfl (hother hi (by simp)) (by simp [hnull])
  | takeSlot hi _ => exact h.setPhase _ _ rfl rfl rfl rfl (hother hi (by simp)) (by simp)
  | enter _ hmutex _ => exact absurd hmutex hlocked
  | notify hi _ =>
    exact h.setPhase _ _ rfl rfl rfl rfl (hother hi (by simp)) fun _ => h.accepted _ (.inl ⟨_, hi⟩)
  | rxWait _ _ _ => exact ⟨h.mutex, h.order, h.handled, h.stuck, h.accepted⟩
  | rxEnter _ _ hmutex _ => exact absurd hmutex hlocked
  | rxPost _ _ => exact ⟨h.mutex, h.order, h.handled, h.stuck, h.accepted⟩

theorem Matches.run {as : List (ShmAction ι)} (h : Matches e proc msg p net done q)
    (hstatic : Static msg) (hrun : Run (Guarded (PosixshmCallStep e a proc msg)
      (PosixshmRoomLeft msg)) p as p') :
    (∃ net' done' q', Matches e proc msg p' net' done' q') ∨ p'.net.semMutex = 0 := by
  refine hrun.invariant_of_guard (I := fun p =>
    (∃ net done q, Matches e proc msg p net done q) ∨ p.net.semMutex = 0) ?_
    (.inl ⟨net, done, q, h⟩)
  rintro p act p' (⟨net, done, q, h⟩ | hmutex) hroom hstep
  · rcases h.step hstatic hroom hstep with h' | ⟨hwaits, -⟩
    · exact .inl h'
    · exact .inr hwaits.mutex
  · exact .inr (step_mutex hstep hmutex)

end PosixshmCalls

open PosixshmCalls

/-- A call takes a slot credit and waits for the mutex. -/
theorem posixshm_arrives {ι : Type} [DecidableEq ι] {e : Endian} {a : Allocator}
    {proc : Nat → RxProcess} {msg : ι → ShmMessage} {G : PosixshmCalls ι → ShmAction ι → Prop}
    (hG : ∀ p act, (∀ i, act ≠ .enter i) → G p act) {as : List (ShmAction ι)} {p : PosixshmCalls ι}
    (hrun : Run (Guarded (PosixshmCallStep e a proc msg) G) .init as p) {i : ι}
    (hi : p.net.phase i = .notCalled) (hslot : 0 < p.net.semSlot) :
    ∃ as' p', Run (Guarded (PosixshmCallStep e a proc msg) G) .init as' p' ∧
      p'.net.phase i = .waitMutex ∧ p'.net.order = p.net.order ∧
      p'.net.handled = p.net.handled ∧ p'.net.semSlot = p.net.semSlot - 1 ∧
      ∀ j, j ≠ i → p'.net.phase j = p.net.phase j := by
  have hcall : PosixshmCallStep e a proc msg p (.call i)
      (p.setNet (p.net.setPhase i .waitSlot)) := .call hi
  have htake : PosixshmCallStep e a proc msg (p.setNet (p.net.setPhase i .waitSlot))
      (.takeSlot i) _ := .takeSlot (ShmNet.setPhase_self ..) hslot
  refine ⟨_, _, (hrun.snoc ⟨hG _ _ (by simp), hcall⟩).snoc ⟨hG _ _ (by simp), htake⟩,
    ShmNet.setPhase_self .., rfl, rfl, rfl, fun j hj => ?_⟩
  exact (ShmNet.setPhase_ne _ _ hj).trans (ShmNet.setPhase_ne _ _ hj)

/-- As many messages as their pool has slots can be queued before the receiver runs. -/
theorem posixshm_fills (e : Endian) (a : Allocator) {proc : Nat → RxProcess}
    {msg : Nat → ShmMessage} (hstatic : Static msg)
    (hreturns : ∀ n i, ¬ (proc n).SendsToItself (msg i).msg.receiver) (whichpool : PosixshmPool)
    (hpool : ∀ i, (choosePosixshmPool (msg i).msg.size).1 = whichpool) {n : Nat}
    (hn : n ≤ whichpool.numSlots) :
    ∃ as p, Run (Guarded (PosixshmCallStep e a proc msg) (PosixshmDeliverable proc msg)) .init
        as p ∧
      p.net.order = List.range n ∧ p.net.handled = [] ∧
      p.net.semSlot + n = MAX_SYSVSHM_SLOTS ∧ ∀ j, n ≤ j → p.net.phase j = .notCalled := by
  have hmax : whichpool.numSlots ≤ MAX_SYSVSHM_SLOTS := by cases whichpool <;> decide
  induction n with
  | zero => exact ⟨[], _, .nil _, rfl, rfl, rfl, fun _ _ => rfl⟩
  | succ n ih =>
    obtain ⟨as, p, hrun, horder, hhandled, hslots, hphase⟩ := ih (by omega)
    obtain ⟨as₂, p₂, hrun₂, hphase₂, horder₂, hhandled₂, hslots₂, hothers₂⟩ :=
      posixshm_arrives (fun _ _ hact => ⟨fun i hi => absurd hi (hact i), fun i hi =>
        absurd hi (hact i)⟩) hrun (hphase n le_rfl) (by omega)
    rw [horder] at horder₂
    rw [hhandled] at hhandled₂
    obtain ⟨net, done, q, h, -⟩ := Matches.run_returns (Matches.init e proc msg) hstatic
      (.nil proc) hrun₂
    have hroom : PosixshmRoomLeft msg p₂ (.enter n) := by
      rintro i ⟨⟩
      rw [onTheirWay, horder₂, hhandled₂, List.length_nil, List.drop_zero, hpool]
      refine Nat.lt_of_le_of_lt List.countP_le_length ?_
      rw [List.length_range]
      omega
    obtain ⟨shm', r, henq, -⟩ := sysvshmEnqueue_spec h.inv.holds (msg n) ITC_OK
      ((h.roomLeft hstatic).mp hroom n rfl)
    obtain rfl := h.same
    have henter : PosixshmCallStep e a proc msg ⟨net, true⟩ (.enter n) _ :=
      .enter hphase₂ (by rw [h.inv.mutex]; exact Nat.one_pos)
        ((posixshmEnqueue_of_static hstatic .done n).trans henq)
    refine ⟨_, _, hrun₂.snoc ⟨⟨hroom, fun i _ => hreturns _ i⟩, henter⟩, ?_, hhandled₂, ?_,
      fun j hj => ?_⟩
    · rw [List.range_succ, ← horder₂]
      rfl
    · show net.semSlot + (n + 1) = _
      rw [show net.semSlot = _ from hslots₂]
      omega
    · exact (ShmNet.setPhase_ne _ _ (by omega)).trans
        ((hothers₂ j (by omega)).trans (hphase j (by omega)))

/-- **A sender that finds no room stops the transport for good.** Its call returns `ITC_OK` without
having queued its message; whatever happens afterwards, nothing is queued or handed over any more,
and no other call returns `ITC_OK` but those whose messages were queued before. -/
theorem posixshm_no_room_fatal {ι : Type} [DecidableEq ι] (e : Endian) (a : Allocator)
    (proc : Nat → RxProcess) (msg : ι → ShmMessage) (hstatic : Static msg)
    (as : List (ShmAction ι)) (p : PosixshmCalls ι)
    (hrun : Run (Guarded (PosixshmCallStep e a proc msg) (PosixshmRoomLeft msg)) .init as p)
    (i : ι) (hno : ¬ PosixshmRoomLeft msg p (.enter i)) (p₁ : PosixshmCalls ι)
    (hstep : PosixshmCallStep e a proc msg p (.enter i) p₁) (bs : List (ShmAction ι))
    (p' : PosixshmCalls ι) (hrun' : Run (PosixshmCallStep e a proc msg) p₁ bs p') :
    i ∉ p.net.order ∧ Stuck i p.net.order p.net.handled p' := by
  rcases (Matches.init e proc msg).run hstatic hrun with ⟨net, done, q, h⟩ | hgone
  · obtain ⟨hfresh, hmutex, hphase, horder, hhandled⟩ := h.noRoom hstatic hno hstep
    obtain rfl := h.same
    refine ⟨hfresh, hrun'.invariant (I := Stuck i net.order net.handled)
      (fun _ _ _ h hstep => h.step hstep) ⟨hmutex, horder, hhandled, hphase, fun j hj => ?_⟩⟩
    by_cases hji : j = i
    · exact .inl hji
    · refine .inr ((h.inv.accepted j).mpr ?_)
      cases hstep with
      | @enter _ remap r _ _ hr =>
        have hsame : (net.leave i r).phase j = net.phase j := by
          rw [ShmNet.leave]
          split
          · exact ShmNet.setPhase_ne _ _ hji
          · exact ShmNet.setPhase_ne _ _ hji
        rw [← hsame]
        exact hj
  · -- no call enters a section without the mutex
    cases hstep with
    | enter _ hmutex _ =>
      rw [hgone] at hmutex
      exact absurd hmutex (Nat.lt_irrefl 0)

/-- The receiver is not running, and three messages of 16000 bytes are in its memory: the fourth
sender finds no room. -/
theorem posixshm_no_room_fatal_fourth :
    let msg := fun _ : Nat => ({ UserMessage.fresh .little 16000 7 0x00200001 (by decide)
      (by decide) with fits := by decide } : ShmMessage)
    let proc := fun _ : Nat => RxProcess.twoMailboxes 2 3
    ∃ as p p₁, Run (Guarded (PosixshmCallStep .little .least proc msg) (PosixshmRoomLeft msg))
        .init as p ∧ PosixshmCallStep .little .least proc msg p (.enter 3) p₁ ∧
      p.net.order = [0, 1, 2] ∧ Stuck 3 p.net.order p.net.handled p₁ := by
  intro msg proc
  have hstatic : Static msg := fun _ => by decide
  have hpool : ∀ i, (choosePosixshmPool (msg i).msg.size).1 = .pool16352 := fun _ => by decide
  have hreturns : ∀ n i, ¬ (proc n).SendsToItself (msg i).msg.receiver := fun _ _ => by
    rw [← RxProcess.handOver_waits_iff]
    decide
  obtain ⟨as, p, hrun, horder, hhandled, hslots, hphase⟩ := posixshm_fills .little .least hstatic
    hreturns .pool16352 hpool (show 3 ≤ _ by decide)
  have hfree : ∀ p act, (∀ i, act ≠ .enter i) → PosixshmDeliverable proc msg p act :=
    fun _ _ hact => ⟨fun i hi => absurd hi (hact i), fun i hi => absurd hi (hact i)⟩
  obtain ⟨as₂, p₂, hrun₂, hphase₂, horder₂, hhandled₂, -⟩ :=
    posixshm_arrives hfree hrun (hphase 3 le_rfl)
      (by simp only [MAX_SYSVSHM_SLOTS] at hslots; omega)
  have hno : ¬ PosixshmRoomLeft msg p₂ (.enter 3) := by
    intro hroom
    have hcount := hroom 3 rfl
    rw [onTheirWay, horder₂, hhandled₂, horder, hhandled, List.length_nil, List.drop_zero] at hcount
    simp only [hpool] at hcount
    revert hcount
    decide
  obtain ⟨net, done, q, h, -⟩ := (Matches.init .little proc msg).run_returns hstatic (.nil proc) hrun₂
  have henqueue := h.enqueue_noRoom hstatic hno .done
  obtain rfl := h.same
  have hstep : PosixshmCallStep .little .least proc msg ⟨net, true⟩ (.enter 3) _ :=
    .enter hphase₂ (by rw [h.inv.mutex]; exact Nat.one_pos) henqueue
  have hroomy : Run (Guarded (PosixshmCallStep .little .least proc msg) (PosixshmRoomLeft msg))
      _ as₂ _ :=
    hrun₂.guarded_imp (I := fun _ => True) (fun _ _ _ _ _ _ => trivial)
      (fun _ _ _ _ hguard _ => hguard.1) trivial
  exact ⟨as₂, _, _, hroomy, hstep, horder₂.trans horder,
    (posixshm_no_room_fatal .little .least proc msg hstatic as₂ _ hroomy 3 hno _ hstep [] _
      (.nil _)).2⟩

end ItcFramework
