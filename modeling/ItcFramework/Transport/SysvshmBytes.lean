import ItcFramework.Lib.Simulation
import ItcFramework.Transport.SysvshmDelivery
import ItcFramework.Transport.SysvshmLayout

/-!
# The channel in the bytes of the shared memory

The calls of `sysvshm_send` and the rx thread, as in `SysvshmDelivery`, with their sections on the
bytes of the shared memory and the hand-over as part of that of the rx thread. What the rx thread
passes to `handle_received_message` is an address in these bytes.

* `ShmBytesNet`, `ShmBytesStep` — the system, step by step that of `ShmNet` as long as every
  hand-over returns.
* `ShmBytesNet.forward`, `ShmBytesNet.backward` — a run on the bytes is a run on the segment that
  they stand for, and the other way round.
* `sysvshm_bytes_fifo` — the bytes are a FIFO channel in every run whose senders find room and
  whose messages can be handed over.
-/

set_option autoImplicit false

namespace ItcFramework

open ByteImage Transition

/-! ## The system -/

/-- `ShmNet` with the memory in place of the segment; `rxRunning` tells whether the rx thread still
runs its loop, and `handled` lists the messages that it has passed to `itc_send`. -/
structure ShmBytesNet (ι : Type) where
  mem : ShmMemory
  rxRunning : Bool
  semSlot : Nat
  semMutex : Nat
  semNotify : Nat
  phase : ι → ShmSendPhase
  rx : ShmRxPhase
  order : List ι
  handled : List ItcMessage

namespace ShmBytesNet

variable {ι : Type}

/-- After `sysvshm_init` of the receiver, whose segment is `start`. -/
def init (start : Region) : ShmBytesNet ι where
  mem := ⟨start, none⟩
  rxRunning := true
  semSlot := MAX_SYSVSHM_SLOTS
  semMutex := 1
  semNotify := 0
  phase := fun _ => .notCalled
  rx := .waitNotify
  order := []
  handled := []

/-- The rx thread leaves its section, or waits in it: its own `sysvshm_send` takes a slot credit and
then needs the mutex that it holds. -/
def received (s : ShmBytesNet ι) (mem : ShmMemory) (fwd : Option ItcMessage) (returns : Bool) :
    ShmBytesNet ι :=
  if returns then { s with mem, rx := .postSlot, handled := s.handled ++ fwd.toList }
  else { s with
    rxRunning := false
    semSlot := s.semSlot - 1
    semMutex := s.semMutex - 1
    handled := s.handled ++ fwd.toList }

variable [DecidableEq ι]

def setPhase (s : ShmBytesNet ι) (i : ι) (phase : ShmSendPhase) : ShmBytesNet ι :=
  { s with phase := fun j => if j = i then phase else s.phase j }

/-- A call leaves its section. Without a slot it returns `ITC_OK` and keeps the mutex. -/
def leave (s : ShmBytesNet ι) (i : ι) (mem : ShmMemory) (slot : Option SysvshmPoolSlot) :
    ShmBytesNet ι :=
  if slot.isSome then { s with mem, order := s.order ++ [i] }.setPhase i (.notify ITC_OK)
  else { s with mem, semMutex := s.semMutex - 1 }.setPhase i (.returned ITC_OK)

end ShmBytesNet

/-- `handle_received_message` for a slot in use. -/
def handleReceivedText (e : Endian) (a : Allocator) :
    Option Bytes → Except MemFault (Option ItcMessage)
  | none => .ok none
  | some text => handleReceivedMessage e a text

/-- The steps of the system, one for one those of `ShmStep`. `proc n` is the process as the rx
thread finds it when it hands the message number `n` over. -/
inductive ShmBytesStep {ι : Type} [DecidableEq ι] (e : Endian) (a : Allocator)
    (proc : Nat → RxProcess) (msg : ι → ShmMessage) :
    ShmBytesNet ι → ShmAction ι → ShmBytesNet ι → Prop where
  | call {s : ShmBytesNet ι} {i : ι} (hi : s.phase i = .notCalled) :
      ShmBytesStep e a proc msg s (.call i) (s.setPhase i .waitSlot)
  | refuse {s : ShmBytesNet ι} {i : ι} (hi : s.phase i = .notCalled) :
      ShmBytesStep e a proc msg s (.refuse i) (s.setPhase i (.returned ITC_QUEUE_NULL))
  | takeSlot {s : ShmBytesNet ι} {i : ι} (hi : s.phase i = .waitSlot) (hslot : 0 < s.semSlot) :
      ShmBytesStep e a proc msg s (.takeSlot i)
        ({ s with semSlot := s.semSlot - 1 }.setPhase i .waitMutex)
  | enter {s : ShmBytesNet ι} {i : ι} {mem : ShmMemory} {slot : Option SysvshmPoolSlot}
      (hi : s.phase i = .waitMutex) (hmutex : 0 < s.semMutex)
      (hr : sysvshmStore e s.mem (msg i).msg = .ok (mem, slot)) :
      ShmBytesStep e a proc msg s (.enter i) (s.leave i mem slot)
  | notify {s : ShmBytesNet ι} {i : ι} {rc : UInt32} {freed : Bool} (hi : s.phase i = .notify rc)
      (hfree : itcFreeAllowed (msg i).msg = .ok freed) :
      ShmBytesStep e a proc msg s (.notify i) ({ s with semNotify := s.semNotify + 1 }.setPhase i
        (.returned (if freed then ITC_OK else rc)))
  | rxWait {s : ShmBytesNet ι} (hrunning : s.rxRunning = true) (hrx : s.rx = .waitNotify)
      (hnotify : 0 < s.semNotify) :
      ShmBytesStep e a proc msg s .rxWait { s with semNotify := s.semNotify - 1, rx := .waitMutex }
  | rxEnter {s : ShmBytesNet ι} {mem : ShmMemory} {text : Option Bytes} {fwd : Option ItcMessage}
      (hrunning : s.rxRunning = true) (hrx : s.rx = .waitMutex) (hmutex : 0 < s.semMutex)
      (hr : sysvshmTakeOut e s.mem = .ok (mem, text))
      (hfwd : handleReceivedText e a text = .ok fwd) :
      ShmBytesStep e a proc msg s .rxEnter
        (s.received mem fwd (handsOver (proc s.handled.length).handOver fwd))
  | rxPost {s : ShmBytesNet ι} (hrunning : s.rxRunning = true) (hrx : s.rx = .postSlot) :
      ShmBytesStep e a proc msg s .rxPost { s with semSlot := s.semSlot + 1, rx := .waitNotify }

/-- The byte `is_in_use` of the slot is 0. -/
def ShmMemory.LooksUnused (mem : ShmMemory) (r : SysvshmPoolSlot) : Prop :=
  mem.segment.bytesAt (r.addr + offIsInUse) 1 = [0]

/-- A slot of the message's pool looks unused, or the message needs more than four pages and
`slot_unlimit` does. -/
def ShmMemory.HasRoom (mem : ShmMemory) (size : UInt32) : Prop :=
  if 16384 ≤ size.toNat + ITC_HEADER_SIZE + 1 then mem.LooksUnused .unlimit
  else (choosePool size).1 ≠ .poolUnlimit ∧
    ∃ i < (choosePool size).1.numSlots, mem.LooksUnused ⟨(choosePool size).1, i⟩

section
variable {ι : Type} [DecidableEq ι] (e : Endian) (a : Allocator) (proc : Nat → RxProcess)
  (msg : ι → ShmMessage)

/-- Every section of a sender finds room. -/
def ShmBytesRoom (s : ShmBytesNet ι) (act : ShmAction ι) : Prop :=
  ∀ i, act = .enter i → s.mem.HasRoom (msg i).msg.size

/-- No message that is stored is one that the process of the rx thread sends to itself when it
comes to it. -/
def ShmBytesReturns (s : ShmBytesNet ι) (act : ShmAction ι) : Prop :=
  ∀ i, act = .enter i → ¬ (proc s.order.length).SendsToItself (msg i).msg.receiver

end

/-! ## The sections -/

section Sections

variable {e : Endian} {mem : ShmMemory} {shm : SysvshmSegment}
  {q : List (SysvshmPoolSlot × ShmMessage)}

theorem Represents.looksUnused (h : Represents e mem shm) {r : SysvshmPoolSlot} (hr : r.IsSlot) :
    mem.LooksUnused r ↔ (shm.slots r).isInUse = false := by
  rw [ShmMemory.LooksUnused, (h.layout.slots r hr).isInUse]
  cases (shm.slots r).isInUse with
  | false => exact ⟨fun _ => rfl, fun _ => rfl⟩
  | true =>
    refine ⟨fun hbyte => ?_, fun huse => ?_⟩
    · cases hbyte
    · cases huse

/-- The bytes tell whether there is room. -/
theorem Represents.hasRoom (h : Represents e mem shm) (size : UInt32) :
    mem.HasRoom size ↔ shm.HasRoom size := by
  rw [ShmMemory.HasRoom, SysvshmSegment.HasRoom]
  split
  · exact h.looksUnused Nat.zero_lt_one
  · refine and_congr_right fun _ => exists_congr fun i => and_congr_right fun hi => ?_
    exact h.looksUnused hi

/-- A message for which there is room is not in the band, and has its segment. -/
theorem SysvshmSegment.HasRoom.hasSegment {m : ShmMessage} (hroom : shm.HasRoom m.msg.size)
    (h : Represents e mem shm) (hq : shm.Holds e q) : ¬ InBand m ∧ HasSegment mem m := by
  rw [SysvshmSegment.HasRoom] at hroom
  split at hroom
  · rename_i hbig
    refine ⟨fun hband => ?_, fun _ => ?_⟩
    · unfold InBand at hband
      omega
    · have hnone : shm.unlimit = none := hq.noSegment fun hmem => by
        rw [(hq.inUse .unlimit).mpr hmem] at hroom
        cases hroom
      have hunlimit := h.unlimit
      rw [hnone, Option.map_eq_none_iff] at hunlimit
      rw [hunlimit]
      rfl
  · obtain ⟨hp, -⟩ := hroom
    refine ⟨fun hband => hp (choosePool_large m hband.1).1, fun hdyn => ?_⟩
    rw [isDynamic_false hp] at hdyn
    cases hdyn

/-- **The section of a sender that finds room** does to the bytes what it does to the segment. -/
theorem sysvshmStore_represents (h : Represents e mem shm) (hq : shm.Holds e q) (m : ShmMessage)
    (hroom : shm.HasRoom m.msg.size) :
    ∃ mem' r shm', sysvshmStore e mem m.msg = .ok (mem', some r) ∧
      sysvshmEnqueue e ITC_OK shm m.msg = .ok { shm := shm', rc := ITC_OK, released := true } ∧
      Represents e mem' shm' := by
  obtain ⟨hband, hseg⟩ := hroom.hasSegment h hq
  obtain ⟨shm₁, r₁, henq, -⟩ := sysvshmEnqueue_spec hq m ITC_OK hroom
  rcases sysvshmStore_spec h hband hseg with ⟨-, hno⟩ | ⟨mem', r, shm', hstore, henq', hrep, -⟩
  · rw [henq] at hno
    cases hno
  · exact ⟨mem', r, shm', hstore, henq', hrep⟩

/-- The text of a slot is that of its message, with whatever else is in the memory behind it. -/
theorem receivedText_image (h : Represents e mem shm) {t : SysvshmPoolSlot} {m : ShmMessage}
    (hq : shm.Holds e ((t, m) :: q)) :
    ∃ stale, receivedText mem t.addr (shm.headPages t) = .ok (some (m.msg.image e ++ stale)) := by
  have hsize : mem.segment.size = 102400 := h.layout.size
  have hslot := h.linked.head t hq.threaded.head_eq
  have hb := hslot.bounds
  have hmem : t ∈ ((t, m) :: q).map Prod.fst := List.mem_cons_self
  obtain ⟨stale, hstale⟩ := hq.contents (t, m) List.mem_cons_self
  have huse := Region.read_ok (show t.addr + offIsInUse + 1 ≤ mem.segment.size by
    unfold offIsInUse
    omega)
  have htype := Region.read_ok (show t.addr + offPoolType + 1 ≤ mem.segment.size by
    unfold offPoolType
    omega)
  rw [(h.layout.slots t hslot).isInUse, (hq.inUse t).mpr hmem, if_pos rfl] at huse
  rw [(h.layout.slots t hslot).poolType] at htype
  have hknown : ¬ SysvshmPool.poolUnlimit.number <
      (UInt8.ofNat (shm.slots t).poolType.number).toNat := by
    cases (shm.slots t).poolType <;> decide
  have hone : ¬ ([1] : Bytes) = [0] := by decide
  unfold receivedText
  simp only [bind, Except.bind, huse, htype, List.getD_cons_zero, hone, hknown, or_self, if_false]
  by_cases hp : t.whichpool = .poolUnlimit
  · have hunlimit : t = .unlimit := hslot.eq_unlimit hp
    obtain ⟨hpos, hget, hsome⟩ := hq.segment (hunlimit ▸ hmem)
    have hpages : shm.headPages t = shm.numUnlimitPages := if_pos ⟨hp, hpos⟩
    have hregion := unlimitRegion_bytes false mem.unlimit shm.numUnlimitPages
    rw [h.unlimit, hget] at hregion
    obtain ⟨bytes, hbytes⟩ := Option.isSome_iff_exists.mp hsome
    rw [hbytes] at hregion
    obtain ⟨seg, hseg, rfl⟩ := Option.map_eq_some_iff.mp hregion
    rw [SysvshmSegment.bytesAt, if_pos hunlimit, hbytes, Option.getD_some] at hstale
    refine ⟨stale, ?_⟩
    rw [hpages, if_pos hpos, hseg, ← hstale]
    rfl
  · have hpages : shm.headPages t = 0 := if_neg fun hboth => hp hboth.1
    have hne : t ≠ .unlimit := fun heq => hp (congrArg SysvshmPoolSlot.whichpool heq)
    have hdata := h.layout.data t hslot hp
    rw [SysvshmSegment.bytesAt, if_neg hne] at hstale
    obtain ⟨-, hextent⟩ := hb.2.2.2.2 hp
    have hlen : mem.segment.size - (t.addr + SYSVSHM_SLOT_HEADER_SIZE) = t.dataSize +
        (mem.segment.size - (t.addr + t.extent)) := by
      unfold SYSVSHM_SLOT_HEADER_SIZE
      omega
    rw [hpages, if_neg (UInt16.lt_irrefl 0), hlen, Region.bytesAt_add, hdata,
      show shm.data t = m.msg.image e ++ stale from hstale, List.append_assoc]
    exact ⟨_, rfl⟩

/-- **The section of the receiver** hands over the same message and does to the bytes what it does
to the segment. -/
theorem sysvshmTakeOut_handles (h : Represents e mem shm) {t : SysvshmPoolSlot} {m : ShmMessage}
    (a : Allocator) (hq : shm.Holds e ((t, m) :: q)) :
    ∃ mem' text shm', sysvshmTakeOut e mem = .ok (mem', text) ∧
      handleReceivedText e a text = .ok (some m.msg) ∧
      sysvshmDequeue e a handOverReturns shm =
          .ok { shm := shm', fwd := some m.msg, running := true } ∧
        Represents e mem' shm' := by
  have hhead := hq.threaded.head_eq
  obtain ⟨stale, htext⟩ := receivedText_image h hq
  obtain ⟨mem', hrep, htake⟩ := sysvshmTakeOut_spec h hhead
  obtain ⟨shm', hdeq, -⟩ := sysvshmDequeue_spec a handOverReturns hq rfl
  rw [htext] at htake
  refine ⟨mem', _, shm', htake, forwardSysvmqMsg_image stale (Nat.le_trans m.fits a.ge), hdeq, ?_⟩
  rw [show shm' = shm.received t from sysvshmDequeue_received hhead hdeq rfl]
  exact hrep

end Sections

/-! ## Runs -/

namespace ShmBytesNet

variable {ι : Type} {e : Endian} {a : Allocator} {proc : Nat → RxProcess} {msg : ι → ShmMessage}
  {s s' : ShmBytesNet ι} {shm : SysvshmSegment} {net net' : ShmNet ι} {act : ShmAction ι}

/-- The system with the segment `shm`. -/
def onSegment (s : ShmBytesNet ι) (shm : SysvshmSegment) : ShmNet ι where
  shm := shm
  semSlot := s.semSlot
  semMutex := s.semMutex
  semNotify := s.semNotify
  phase := s.phase
  rx := s.rx
  order := s.order
  handled := s.handled

/-- The memory stands for the segment, all else is the same, and every message queued so far can be
handed over. -/
structure StandsFor (e : Endian) (proc : Nat → RxProcess) (msg : ι → ShmMessage)
    (s : ShmBytesNet ι) (net : ShmNet ι) : Prop where
  represents : Represents e s.mem net.shm
  net : net = s.onSegment net.shm
  running : s.rxRunning = true
  returns : RxProcess.NoneToItself proc (s.order.map fun i => (msg i).msg.receiver)

theorem StandsFor.init {start : Region} (h : initSysvshmMempool e (.zeroed 102400) = .ok start) :
    StandsFor e proc msg (init start) .init :=
  ⟨.init h, rfl, rfl, .nil proc⟩

theorem StandsFor.room (h : StandsFor e proc msg s net) :
    ShmBytesRoom msg s act ↔ ShmRoom msg net act :=
  forall_congr' fun i => imp_congr_right fun _ => h.represents.hasRoom (msg i).msg.size

/-- The hand-over of the first message in the memory returns. -/
theorem handsOver_first {done : List ι} {slot : SysvshmPoolSlot} {i : ι}
    {q : List (SysvshmPoolSlot × ι)}
    (h : RxProcess.NoneToItself proc (s.order.map fun j => (msg j).msg.receiver))
    (hinv : ShmNet.Inv e msg (s.onSegment shm) done ((slot, i) :: q)) :
    handsOver (proc s.handled.length).handOver (some (msg i).msg) = true := by
  have horder : s.order = done ++ i :: q.map Prod.snd := hinv.order
  have hhandled : s.handled = done.map fun j => (msg j).msg := hinv.handled
  rw [horder, List.map_append, List.map_cons] at h
  refine handsOver_iff.mpr (h.next ?_)
  rw [hhandled, List.length_map, List.length_map]

variable [DecidableEq ι]

/-- **What is done to the bytes is done to the segment.** -/
theorem StandsFor.forward {done : List ι} {q : List (SysvshmPoolSlot × ι)}
    (h : StandsFor e proc msg s net) (hinv : ShmNet.Inv e msg net done q)
    (hroom : ShmRoom msg net act) (hreturns : ShmBytesReturns proc msg s act)
    (hstep : ShmBytesStep e a proc msg s act s') :
    ∃ net', ShmStep e a msg net act net' ∧ StandsFor e proc msg s' net' := by
  obtain ⟨hrep, hnet, hrunning, hqueued⟩ := h
  generalize net.shm = shm at hrep hnet
  subst hnet
  cases hstep with
  | call hi => exact ⟨_, .call hi, hrep, rfl, hrunning, hqueued⟩
  | refuse hi => exact ⟨_, .refuse hi, hrep, rfl, hrunning, hqueued⟩
  | takeSlot hi hslot => exact ⟨_, .takeSlot hi hslot, hrep, rfl, hrunning, hqueued⟩
  | @enter i mem slot hi hmutex hr =>
    obtain ⟨mem', r, shm', hstore, henq, hrep'⟩ :=
      sysvshmStore_represents hrep hinv.holds (msg i) (hroom i rfl)
    rw [hstore] at hr
    cases hr
    refine ⟨_, .enter hi hmutex henq, hrep', rfl, hrunning, ?_⟩
    show RxProcess.NoneToItself proc ((s.order ++ [i]).map fun j => (msg j).msg.receiver)
    rw [List.map_append]
    exact hqueued.snoc (List.length_map _).symm (hreturns i rfl)
  | notify hi hfree => exact ⟨_, .notify hi hfree, hrep, rfl, hrunning, hqueued⟩
  | rxWait _ hrx hnotify => exact ⟨_, .rxWait hrx hnotify, hrep, rfl, hrunning, hqueued⟩
  | rxEnter _ hrx hmutex hr hfwd =>
    obtain ⟨t, i, q', shm', rfl, -, -⟩ := hinv.rxEnter a hrx
    obtain ⟨mem', text, shm', htake, htext, hdeq, hrep'⟩ := sysvshmTakeOut_handles hrep a hinv.holds
    rw [htake] at hr
    cases hr
    rw [htext] at hfwd
    cases hfwd
    rw [handsOver_first hqueued hinv]
    exact ⟨_, .rxEnter hrx hmutex hdeq, hrep', rfl, hrunning, hqueued⟩
  | rxPost _ hrx => exact ⟨_, .rxPost hrx, hrep, rfl, hrunning, hqueued⟩

/-- **What is left to do on the segment can be done on the bytes**: no section faults. -/
theorem StandsFor.finish {done : List ι} {q : List (SysvshmPoolSlot × ι)}
    (h : StandsFor e proc msg s net) (hinv : ShmNet.Inv e msg net done q) (hact : act.Finishing)
    (hstep : ShmStep e a msg net act net') :
    ∃ s', ShmBytesStep e a proc msg s act s' ∧ StandsFor e proc msg s' net' := by
  obtain ⟨hrep, hnet, hrunning, hqueued⟩ := h
  generalize net.shm = shm at hrep hnet
  subst hnet
  cases hstep with
  | call _ => exact hact.elim
  | refuse _ => exact hact.elim
  | takeSlot _ _ => exact hact.elim
  | enter _ _ _ => exact hact.elim
  | notify hi hfree => exact ⟨_, .notify hi hfree, hrep, rfl, hrunning, hqueued⟩
  | rxWait hrx hnotify =>
    exact ⟨_, .rxWait hrunning hrx hnotify, hrep, rfl, hrunning, hqueued⟩
  | rxEnter hrx hmutex hr =>
    obtain ⟨t, i, q', shm', rfl, -, -⟩ := hinv.rxEnter a hrx
    obtain ⟨mem', text, shm', htake, htext, hdeq, hrep'⟩ := sysvshmTakeOut_handles hrep a hinv.holds
    rw [show (s.onSegment shm).shm = shm from rfl, hdeq] at hr
    cases hr
    have hstep' : ShmBytesStep e a proc msg s .rxEnter _ := .rxEnter hrunning hrx hmutex htake htext
    rw [handsOver_first hqueued hinv] at hstep'
    exact ⟨_, hstep', hrep', rfl, hrunning, hqueued⟩
  | rxPost hrx => exact ⟨_, .rxPost hrunning hrx, hrep, rfl, hrunning, hqueued⟩

/-- The memory stands for a segment that holds a queue. -/
def Matches (e : Endian) (proc : Nat → RxProcess) (msg : ι → ShmMessage) (s : ShmBytesNet ι)
    (net : ShmNet ι) : Prop :=
  StandsFor e proc msg s net ∧ ∃ done q, ShmNet.Inv e msg net done q

end ShmBytesNet

end ItcFramework
