import ItcFramework.Coord.Registry
import ItcFramework.Itc.Queue
import ItcFramework.Lib.Transition

/-!
# The process slots of the coordinator

Embedding of `handle_locate_coord_request`, `connect_to_process` and `disconnect_from_process`
(`itccoord.c`) as far as they move slots between `free_list` and `used_list`. What the system
answers to their calls is an argument, so that every early return can be taken.

* `SlotsOk s fl ul` — the invariant: the two lists share out the slots 2 to 254, the counter
  counts the free ones, and the states tell which list a slot is in.
* `coordSlots_partition` — it holds in every state in which the coordinator still runs, as long
  as `disconnect_from_process` gets the node it puts into `free_list`.
-/

set_option autoImplicit false

namespace ItcFramework

open ByteImage HeapModel Transition

/-! ## State -/

/-- `struct itc_process` without its socket address and its mailboxes. -/
structure ProcSlot where
  mboxIdInItccoord : MboxId
  pid : Int
  sockfd : Int
  state : ProcessState
  deriving DecidableEq, Repr

/-- `struct itccoord_instance`, as far as the slots are concerned, with the `rc` of the thread. -/
structure CoordSlots where
  freeList : ItcQueue
  usedList : ItcQueue
  freelistCount : UInt32
  rc : UInt32
  processes : Nat → ProcSlot

namespace CoordSlots

def setProc (s : CoordSlots) (i : Nat) (proc : ProcSlot) : CoordSlots :=
  { s with processes := Function.update s.processes i proc }

/-- The slots after their initialisation in `main`. -/
def initProcesses (pid : Int) (i : Nat) : ProcSlot :=
  if i = 0 then ⟨ITC_NO_MBOX_ID, -1, -1, .invalid⟩
  else if i = 1 then ⟨1 <<< ITC_COORD_SHIFT, pid, -1, .connected⟩
  else ⟨UInt32.ofNat i <<< ITC_COORD_SHIFT, -1, -1, .unused⟩

/-- The initialisation in `main`, which exits unless every `q_enqueue` succeeds. -/
def init (pid : Int) : Except MemFault CoordSlots := do
  let slots := List.range' 2 (MAX_SUPPORTED_PROCESSES - 2)
  let freeList ← slots.foldlM (fun q i => (qEnqueue true ITC_OK q i).map Prod.snd) qInit
  return ⟨freeList, qInit, UInt32.ofNat slots.length, ITC_OK, initProcesses pid⟩

end CoordSlots

/-! ## What the system answers -/

/-- The end of the `close` loop of `close_socket_connection`. -/
inductive CloseAnswer where
  | closed
  | ebadf
  | failed
  deriving DecidableEq, Repr

inductive UnlinkAnswer where
  | unlinked
  | enoent
  | failed
  deriving DecidableEq, Repr

/-- In `disconnect_from_process`; `node` is the answer of `malloc` to `q_createnode`. -/
structure DisconnectSys where
  close : CloseAnswer
  unlink : UnlinkAnswer
  node : Bool
  deriving DecidableEq, Repr

/-- Of `accept`. -/
inductive AcceptAnswer where
  | accepted (sd : Int)
  | econnaborted
  | failed
  deriving DecidableEq, Repr

/-- Of `send`, once it was not interrupted. -/
inductive SendAnswer where
  | sent
  | epipe
  | failed
  deriving DecidableEq, Repr

/-- Of `recv`: too short, with an `errno` that is ignored or another one; a message of another
kind; a request. -/
inductive RecvAnswer where
  | short (socketClosed : Bool)
  | unknown
  | request (myPid : Int)
  deriving DecidableEq, Repr

/-- In `handle_locate_coord_request`; `socket` is `none` when it fails. -/
structure LocateSys where
  accept : AcceptAnswer
  mallocRequest : Bool
  recv : RecvAnswer
  node : Bool
  socket : Option Int
  bind : Bool
  chmod : Bool
  listen : Bool
  mallocReply : Bool
  send : SendAnswer
  disconnect : DisconnectSys
  close : Bool
  deriving DecidableEq, Repr

/-- In `connect_to_process`. -/
structure ConnectSys where
  accept : AcceptAnswer
  send : SendAnswer
  disconnect : DisconnectSys
  deriving DecidableEq, Repr

/-! ## Functions -/

def closeSocketConnection (sys : DisconnectSys) (proc : ProcSlot) : Bool × ProcSlot :=
  if proc.sockfd = -1 then (true, proc)
  else
    let proc := { proc with sockfd := -1 }
    match sys.close with
    | .ebadf => (true, proc)
    | .failed => (false, proc)
    | .closed => (sys.unlink != .failed, proc)

/-- `disconnect_from_process`, between whose steps the mailboxes of the process go. The result
of the last `q_enqueue` is not looked at. -/
def disconnectSlot (fuel : Nat) (sys : DisconnectSys) (s : CoordSlots) (proc : Nat) :
    Except MemFault (Option (Bool × CoordSlots)) := do
  let some usedList ← qRemove fuel s.usedList proc | return none
  let (closed, p) := closeSocketConnection sys { s.processes proc with state := .unused, pid := -1 }
  let s := { s with usedList }.setProc proc p
  if ! closed then return some (false, s)
  let (rc, freeList) ← qEnqueue sys.node s.rc s.freeList proc
  return some (true, { s with rc, freeList, freelistCount := s.freelistCount + 1 })

def connectToProcess (fuel : Nat) (sys : ConnectSys) (s : CoordSlots) (proc : Nat) :
    Except MemFault (Option (Bool × CoordSlots)) :=
  match sys.accept with
  | .failed => .ok (some (false, s))
  | .econnaborted => do
      let some (_, s) ← disconnectSlot fuel sys.disconnect s proc | return none
      return some (true, s)
  | .accepted tmpSd =>
      let s := s.setProc proc { s.processes proc with sockfd := tmpSd }
      match sys.send with
      | .failed => .ok (some (false, s))
      | .epipe => do
          let some (_, s) ← disconnectSlot fuel sys.disconnect s proc | return none
          return some (true, s)
      | .sent =>
          .ok (some (true, s.setProc proc { s.processes proc with state := .connected }))

/-- The part of `handle_locate_coord_request` behind a request from `pid`. An empty `free_list`
sets a flag in `rc`, so that the branches for no process are never taken. -/
def locateSlot (fuel : Nat) (sys : LocateSys) (s : CoordSlots) (pid : Int) :
    Except MemFault (Option (Bool × CoordSlots)) := do
  let (rc, tmp, freeList) ← qDequeue s.rc s.freeList
  let s := { s with rc, freeList }
  if rc ≠ ITC_OK then return some (false, s)
  let proc ← deref tmp
  let s := { s with freelistCount := s.freelistCount - 1 }
  let (rc, usedList) ← qEnqueue sys.node s.rc s.usedList proc
  let s := { s with rc, usedList }
  if rc ≠ ITC_OK then return some (false, s)
  let s := s.setProc proc { s.processes proc with pid }
  match sys.socket with
  | none => return some (false, s)
  | some sockfd =>
      let s := s.setProc proc { s.processes proc with sockfd }
      if ! (sys.bind && sys.chmod && sys.listen) then return some (false, s)
      let s := s.setProc proc { s.processes proc with state := .listening }
      if ! sys.mallocReply then return some (false, s)
      match sys.send with
      | .failed => return some (false, s)
      | .epipe => do
          let some (_, s) ← disconnectSlot fuel sys.disconnect s proc | return none
          return some (false, s)
      | .sent => return some (sys.close, s)

def handleLocateCoordRequest (fuel : Nat) (sys : LocateSys) (s : CoordSlots) :
    Except MemFault (Option (Bool × CoordSlots)) :=
  match sys.accept with
  | .econnaborted => .ok (some (true, s))
  | .failed => .ok (some (false, s))
  | .accepted _ =>
      if ! sys.mallocRequest then .ok (some (false, s))
      else
        match sys.recv with
        | .short true => .ok (some (true, s))
        | .short false => locateSlot fuel sys s (-1)
        | .unknown => .ok (some (false, s))
        | .request myPid => locateSlot fuel sys s myPid

/-! ## The invariant -/

/-- The slots that are handed out. -/
def slotRange : List Nat := List.range' 2 (MAX_SUPPORTED_PROCESSES - 2)

/-- The slots `fl` are unused and the slots `ul` in use. -/
structure SlotStates (procs : Nat → ProcSlot) (fl ul : List Nat) : Prop where
  /-- Each slot is in exactly one of the lists, once. -/
  partition : (fl ++ ul).Perm slotRange
  unused : ∀ i ∈ fl, (procs i).state = .unused
  running : ∀ i ∈ ul, (procs i).state = .listening ∨ (procs i).state = .connected
  id : ∀ i ∈ slotRange, (procs i).mboxIdInItccoord = UInt32.ofNat i <<< ITC_COORD_SHIFT

structure SlotsOk (s : CoordSlots) (fl ul : List Nat) : Prop where
  free : s.freeList.Holds fl
  used : s.usedList.Holds ul
  count : s.freelistCount.toNat = fl.length
  states : SlotStates s.processes fl ul
  rc : s.rc = ITC_OK

namespace SlotStates

variable {procs : Nat → ProcSlot} {fl ul : List Nat} {i : Nat} {p : ProcSlot}

theorem nodup (h : SlotStates procs fl ul) : (fl ++ ul).Nodup :=
  h.partition.nodup_iff.mpr List.nodup_range'

theorem length (h : SlotStates procs fl ul) : fl.length + ul.length = 253 := by
  have hlen := h.partition.length_eq
  rwa [List.length_append, slotRange, List.length_range'] at hlen

theorem disjoint (h : SlotStates procs fl ul) (hi : i ∈ fl) : i ∉ ul := fun hu =>
  (List.nodup_append.mp h.nodup).2.2 i hi i hu rfl

theorem unused_iff (h : SlotStates procs fl ul) (hi : i ∈ slotRange) :
    (procs i).state = .unused ↔ i ∈ fl := by
  constructor
  · intro hstate
    rcases List.mem_append.mp (h.partition.mem_iff.mpr hi) with hfl | hul
    · exact hfl
    · have hrun := h.running i hul
      rw [hstate] at hrun
      rcases hrun with hrun | hrun
      · cases hrun
      · cases hrun
  · exact h.unused i

theorem running_iff (h : SlotStates procs fl ul) (hi : i ∈ slotRange) :
    ((procs i).state = .listening ∨ (procs i).state = .connected) ↔ i ∈ ul := by
  constructor
  · intro hstate
    rcases List.mem_append.mp (h.partition.mem_iff.mpr hi) with hfl | hul
    · rw [h.unused i hfl] at hstate
      rcases hstate with hstate | hstate
      · cases hstate
      · cases hstate
    · exact hul
  · exact h.running i

/-- The ids tell the slots apart. -/
theorem id_inj (h : SlotStates procs fl ul) {j : Nat} (hi : i ∈ slotRange) (hj : j ∈ slotRange)
    (heq : (procs i).mboxIdInItccoord = (procs j).mboxIdInItccoord) : i = j := by
  rw [h.id i hi, h.id j hj, ← UInt32.toNat_inj] at heq
  have hrange : ∀ k ∈ slotRange,
      (UInt32.ofNat k <<< ITC_COORD_SHIFT).toNat = k * 2 ^ 20 := by
    intro k hk
    rw [slotRange, List.mem_range'_1] at hk
    have hlt : k < 255 := hk.2
    have hshift : ITC_COORD_SHIFT.toNat % 32 = 20 := by decide
    rw [UInt32.toNat_shiftLeft, hshift, UInt32.toNat_ofNat', Nat.shiftLeft_eq]
    omega
  rw [hrange i hi, hrange j hj] at heq
  omega

/-- The states after a change of one slot that the lists agree with. -/
theorem of_update {fl' ul' : List Nat} (h : SlotStates procs fl ul)
    (hpart : (fl' ++ ul').Perm slotRange) (hfl : ∀ j ∈ fl', j ≠ i → j ∈ fl)
    (hul : ∀ j ∈ ul', j ≠ i → j ∈ ul) (hfl' : i ∈ fl' → p.state = .unused)
    (hul' : i ∈ ul' → p.state = .listening ∨ p.state = .connected)
    (hid : p.mboxIdInItccoord = (procs i).mboxIdInItccoord) :
    SlotStates (Function.update procs i p) fl' ul' where
  partition := hpart
  unused j hj := by
    by_cases heq : j = i
    · rw [heq, Function.update_self]
      exact hfl' (heq ▸ hj)
    · rw [Function.update_of_ne heq]
      exact h.unused j (hfl j hj heq)
  running j hj := by
    by_cases heq : j = i
    · rw [heq, Function.update_self]
      exact hul' (heq ▸ hj)
    · rw [Function.update_of_ne heq]
      exact h.running j (hul j hj heq)
  id j hj := by
    by_cases heq : j = i
    · rw [heq, Function.update_self, hid]
      exact h.id i (heq ▸ hj)
    · rw [Function.update_of_ne heq]
      exact h.id j hj

/-- A slot in use stays in use. -/
theorem keep (h : SlotStates procs fl ul) (hi : i ∈ ul)
    (hid : p.mboxIdInItccoord = (procs i).mboxIdInItccoord)
    (hstate : p.state = .listening ∨ p.state = .connected) :
    SlotStates (Function.update procs i p) fl ul :=
  h.of_update h.partition (fun _ hj _ => hj) (fun _ hj _ => hj)
    (fun hfl => absurd hi (h.disjoint hfl)) (fun _ => hstate) hid

/-- A slot goes back to the free ones. -/
theorem release (h : SlotStates procs fl ul) (hi : i ∈ ul)
    (hid : p.mboxIdInItccoord = (procs i).mboxIdInItccoord) (hstate : p.state = .unused) :
    SlotStates (Function.update procs i p) (fl ++ [i]) (ul.erase i) := by
  have hnd := (List.nodup_append.mp h.nodup).2.1
  refine h.of_update ?_ (fun j hj hji => ?_) (fun _ hj _ => List.mem_of_mem_erase hj)
    (fun _ => hstate) (fun hu => absurd hu hnd.not_mem_erase) hid
  · rw [List.append_assoc]
    exact ((List.perm_cons_erase hi).symm.append_left fl).trans h.partition
  · rw [List.mem_append, List.mem_singleton] at hj
    exact hj.resolve_right hji

/-- A free slot is taken. -/
theorem take (h : SlotStates procs (i :: fl) ul)
    (hid : p.mboxIdInItccoord = (procs i).mboxIdInItccoord)
    (hstate : p.state = .listening ∨ p.state = .connected) :
    SlotStates (Function.update procs i p) fl (ul ++ [i]) := by
  have hnd := List.nodup_cons.mp (List.nodup_append.mp h.nodup).1
  refine h.of_update ?_ (fun _ hj _ => List.mem_cons_of_mem _ hj) (fun j hj hji => ?_)
    (fun hfl => absurd hfl hnd.1) (fun _ => hstate) hid
  · rw [← List.append_assoc]
    exact (List.perm_append_singleton i (fl ++ ul)).trans h.partition
  · rw [List.mem_append, List.mem_singleton] at hj
    exact hj.resolve_right hji

end SlotStates

/-- `close` and `unlink` succeed, or find nothing to do. -/
def DisconnectSys.Closes (sys : DisconnectSys) : Prop :=
  sys.close ≠ .failed ∧ sys.unlink ≠ .failed

theorem closeSocketConnection_closes {sys : DisconnectSys} (h : sys.Closes) (p : ProcSlot) :
    closeSocketConnection sys p = (true, { p with sockfd := -1 }) := by
  obtain ⟨hclose, hunlink⟩ := h
  unfold closeSocketConnection
  split
  · rename_i hfd
    rw [← hfd]
  · split
    · rfl
    · rename_i hfailed
      exact absurd hfailed hclose
    · rw [bne_iff_ne.mpr hunlink]

theorem closeSocketConnection_state (sys : DisconnectSys) (p : ProcSlot) :
    (closeSocketConnection sys p).2.state = p.state ∧
      (closeSocketConnection sys p).2.mboxIdInItccoord = p.mboxIdInItccoord := by
  unfold closeSocketConnection
  split
  · exact ⟨rfl, rfl⟩
  · split
    · exact ⟨rfl, rfl⟩
    · exact ⟨rfl, rfl⟩
    · exact ⟨rfl, rfl⟩

/-- What `disconnect_from_process` leaves: its slot among the free ones if `q_enqueue` gets its
node, and in neither list if not. -/
structure Disconnected (s : CoordSlots) (fl ul : List Nat) (proc : Nat) (sys : DisconnectSys)
    (r : Bool × CoordSlots) : Prop where
  returned : r.1 = true
  released : sys.node = true → SlotsOk r.2 (fl ++ [proc]) (ul.erase proc)
  lost : sys.node = false → r.2.freeList.Holds fl ∧ r.2.usedList.Holds (ul.erase proc)

section Calls

variable {s : CoordSlots} {fl ul : List Nat}

theorem disconnectSlot_returns (h : SlotsOk s fl ul) {proc : Nat} (hproc : proc ∈ ul)
    (sys : DisconnectSys) (fuel : Nat) :
    Returns (disconnectSlot fuel sys s proc) fun r =>
      sys.Closes → Disconnected s fl ul proc sys r := by
  have hlen := h.states.length
  obtain ⟨o, hremove, hused⟩ := ItcQueue.qRemove_returns h.used hproc fuel
  simp only [disconnectSlot, hremove, bind, Except.bind]
  cases o with
  | none => exact .running
  | some usedList =>
    have hused := hused usedList rfl
    obtain ⟨hstate, hid⟩ := closeSocketConnection_state sys
      { s.processes proc with state := .unused, pid := -1 }
    have hcloses : sys.Closes → (closeSocketConnection sys
        { s.processes proc with state := .unused, pid := -1 }).1 = true := fun hsys => by
      rw [closeSocketConnection_closes hsys]
    generalize closeSocketConnection sys
      { s.processes proc with state := .unused, pid := -1 } = closed at hstate hid hcloses ⊢
    obtain ⟨closed, p⟩ := closed
    cases closed with
    | false => exact .result fun hsys => absurd (hcloses hsys) Bool.false_ne_true
    | true =>
      simp only [CoordSlots.setProc, h.rc, Bool.not_true, Bool.false_eq_true, if_false]
      cases hnode : sys.node with
      | false =>
        refine .result fun _ => ⟨rfl, fun hn => ?_, fun _ => ⟨h.free, hused⟩⟩
        exact absurd (hnode.symm.trans hn) Bool.false_ne_true
      | true =>
        obtain ⟨freeList, henq, hfree⟩ := ItcQueue.qEnqueue_spec h.free (by omega) proc
        have hcount : (s.freelistCount + 1).toNat = (fl ++ [proc]).length := by
          rw [UInt32.toNat_add, h.count, UInt32.toNat_one, List.length_append,
            List.length_singleton]
          omega
        rw [henq]
        refine .result fun _ => ⟨rfl, fun _ => ?_, fun hn => ?_⟩
        · exact ⟨hfree, hused, hcount, h.states.release hproc hid hstate, rfl⟩
        · exact absurd (hn.symm.trans hnode) Bool.false_ne_true

/-- The call that gives the first component of a result says whether the coordinator goes on. -/
def GoesOn (r : Bool × CoordSlots) : Prop := r.1 = true → ∃ fl ul, SlotsOk r.2 fl ul

/-- `connect_to_process` disconnects instead. -/
def ConnectSys.Disconnects (sys : ConnectSys) : Prop :=
  sys.accept = .econnaborted ∨ sys.accept ≠ .failed ∧ sys.send = .epipe

theorem disconnected_goesOn (h : SlotsOk s fl ul) {proc : Nat} (hproc : proc ∈ ul)
    {sys : DisconnectSys} (hsys : sys.Closes) (hnode : sys.node = true) (fuel : Nat) :
    Returns (do
      let some (_, s) ← disconnectSlot fuel sys s proc | return none
      return some (true, s)) GoesOn := by
  obtain ⟨o, hcall, hQ⟩ := disconnectSlot_returns h hproc sys fuel
  rw [hcall]
  cases o with
  | none => exact .running
  | some r => exact .result fun _ => ⟨_, _, (hQ r rfl hsys).released hnode⟩

theorem connectToProcess_returns (h : SlotsOk s fl ul) {proc : Nat} (hproc : proc ∈ ul)
    {sys : ConnectSys} (hsys : sys.disconnect.Closes)
    (hnode : sys.Disconnects → sys.disconnect.node = true) (fuel : Nat) :
    Returns (connectToProcess fuel sys s proc) GoesOn := by
  unfold connectToProcess
  cases haccept : sys.accept with
  | failed => exact .result fun hr => absurd hr Bool.false_ne_true
  | econnaborted => exact disconnected_goesOn h hproc hsys (hnode (.inl haccept)) fuel
  | accepted tmpSd =>
    have hkeep : SlotsOk (s.setProc proc { s.processes proc with sockfd := tmpSd }) fl ul :=
      ⟨h.free, h.used, h.count, h.states.keep hproc rfl (h.states.running proc hproc), h.rc⟩
    cases hsend : sys.send with
    | failed => exact .result fun hr => absurd hr Bool.false_ne_true
    | epipe =>
      have hepipe : sys.Disconnects := .inr ⟨by rw [haccept]; exact nofun, hsend⟩
      exact disconnected_goesOn hkeep hproc hsys (hnode hepipe) fuel
    | sent =>
      refine .result fun _ => ⟨fl, ul, hkeep.free, hkeep.used, hkeep.count, ?_, hkeep.rc⟩
      exact hkeep.states.keep hproc rfl (.inr rfl)

theorem locateSlot_returns (h : SlotsOk s fl ul) (sys : LocateSys) (pid : Int) (fuel : Nat) :
    Returns (locateSlot fuel sys s pid) GoesOn := by
  unfold locateSlot
  cases fl with
  | nil =>
    rw [h.rc, ItcQueue.qDequeue_nil h.free]
    exact .result fun hr => absurd hr Bool.false_ne_true
  | cons proc fl =>
    have hlen := h.states.length
    obtain ⟨freeList, hdeq, hfree⟩ := ItcQueue.qDequeue_cons h.free ITC_OK
    have hcount : (s.freelistCount - 1).toNat = fl.length := by
      have hc := h.count
      rw [List.length_cons] at hc
      rw [UInt32.toNat_sub_of_le _ _ (UInt32.le_iff_toNat_le.mpr (by rw [hc, UInt32.toNat_one]; omega)),
        UInt32.toNat_one]
      omega
    rw [h.rc, hdeq]
    simp only [bind, Except.bind, ne_eq, not_true_eq_false, if_false, deref]
    cases hnode : sys.node with
    | false => exact .result fun hr => absurd hr Bool.false_ne_true
    | true =>
      obtain ⟨usedList, henq, hused⟩ := ItcQueue.qEnqueue_spec h.used
        (by rw [List.length_cons] at hlen; omega) proc
      simp only [henq, not_true_eq_false, if_false]
      cases sys.socket with
      | none => exact .result fun hr => absurd hr Bool.false_ne_true
      | some sockfd =>
        -- the three writes to the slot are one
        simp only [CoordSlots.setProc, Function.update_self, Function.update_idem]
        have hok : SlotsOk ⟨freeList, usedList, s.freelistCount - 1, ITC_OK,
            Function.update s.processes proc
              { s.processes proc with pid, sockfd, state := .listening }⟩ fl (ul ++ [proc]) :=
          ⟨hfree, hused, hcount, h.states.take rfl (.inl rfl), rfl⟩
        split
        · exact .result fun hr => absurd hr Bool.false_ne_true
        · split
          · exact .result fun hr => absurd hr Bool.false_ne_true
          · cases sys.send with
            | failed => exact .result fun hr => absurd hr Bool.false_ne_true
            | sent => exact .result fun _ => ⟨fl, ul ++ [proc], hok⟩
            | epipe =>
              obtain ⟨o, hcall, -⟩ := disconnectSlot_returns hok
                (List.mem_append_right _ List.mem_cons_self) sys.disconnect fuel
              simp only [hcall]
              cases o with
              | none => exact .running
              | some r => exact .result fun hr => absurd hr Bool.false_ne_true

theorem handleLocateCoordRequest_returns (h : SlotsOk s fl ul) (sys : LocateSys) (fuel : Nat) :
    Returns (handleLocateCoordRequest fuel sys s) GoesOn := by
  unfold handleLocateCoordRequest
  cases sys.accept with
  | econnaborted => exact .result fun _ => ⟨fl, ul, h⟩
  | failed => exact .result fun hr => absurd hr Bool.false_ne_true
  | accepted sd =>
    simp only
    split
    · exact .result fun hr => absurd hr Bool.false_ne_true
    · cases sys.recv with
      | short socketClosed =>
        cases socketClosed with
        | true => exact .result fun _ => ⟨fl, ul, h⟩
        | false => exact locateSlot_returns h sys (-1) fuel
      | unknown => exact .result fun hr => absurd hr Bool.false_ne_true
      | request myPid => exact locateSlot_returns h sys myPid fuel

end Calls

/-! ## Runs -/

inductive SlotAction where
  | locate (sys : LocateSys)
  | connect (proc : Nat) (sys : ConnectSys)
  | disconnect (proc : Nat) (sys : DisconnectSys)

def slotCall (fuel : Nat) (s : CoordSlots) :
    SlotAction → Except MemFault (Option (Bool × CoordSlots))
  | .locate sys => handleLocateCoordRequest fuel sys s
  | .connect proc sys => connectToProcess fuel sys s proc
  | .disconnect proc sys => disconnectSlot fuel sys s proc

def ItcQueue.Contains (q : ItcQueue) (data : Nat) : Prop := ∃ l, q.Holds l ∧ data ∈ l

/-- A process is connected or disconnected while it is in `used_list`, and its socket is closed
without error. -/
def Applies (s : CoordSlots) : SlotAction → Prop
  | .locate _ => True
  | .connect proc sys => s.usedList.Contains proc ∧ sys.disconnect.Closes
  | .disconnect proc sys => s.usedList.Contains proc ∧ sys.Closes

/-- A call after which the coordinator still runs. -/
def SlotStep (s : CoordSlots) (act : SlotAction) (s' : CoordSlots) : Prop :=
  Applies s act ∧ ∃ fuel, slotCall fuel s act = .ok (some (true, s'))

/-- The `q_enqueue` of `disconnect_from_process` gets its node. -/
def NodeForSlot (_ : CoordSlots) : SlotAction → Prop
  | .locate _ => True
  | .connect _ sys => sys.Disconnects → sys.disconnect.node = true
  | .disconnect _ sys => sys.node = true

theorem slotCall_returns {s : CoordSlots} {fl ul : List Nat} (h : SlotsOk s fl ul)
    {act : SlotAction} (happ : Applies s act) (hnode : NodeForSlot s act) (fuel : Nat) :
    Returns (slotCall fuel s act) GoesOn := by
  cases act with
  | locate sys => exact handleLocateCoordRequest_returns h sys fuel
  | connect proc sys =>
    obtain ⟨⟨l, hl, hproc⟩, hcloses⟩ := happ
    obtain rfl := h.used.unique hl
    exact connectToProcess_returns h hproc hcloses hnode fuel
  | disconnect proc sys =>
    obtain ⟨⟨l, hl, hproc⟩, hcloses⟩ := happ
    obtain rfl := h.used.unique hl
    exact (disconnectSlot_returns h hproc sys fuel).mono
      fun r hr _ => ⟨_, _, (hr hcloses).released hnode⟩

theorem CoordSlots.init_ok (pid : Int) :
    ∃ s, CoordSlots.init pid = .ok s ∧ SlotsOk s slotRange [] := by
  have hlen : slotRange.length = 253 := List.length_range'
  obtain ⟨q, hfold, hq⟩ := ItcQueue.foldlM_qEnqueue ItcQueue.holds_qInit slotRange
    (by rw [List.nil_append, hlen]; decide)
  rw [List.nil_append] at hq
  refine ⟨⟨q, qInit, UInt32.ofNat slotRange.length, ITC_OK, initProcesses pid⟩, ?_,
    ⟨hq, ItcQueue.holds_qInit, by rw [hlen]; rfl, ⟨by rw [List.append_nil], ?_, by simp, ?_⟩, rfl⟩⟩
  · rw [slotRange] at hfold
    simp only [CoordSlots.init, hfold, bind, Except.bind]
    rfl
  · intro i hi
    rw [slotRange, List.mem_range'_1] at hi
    simp only [initProcesses, if_neg (show ¬ i = 0 by omega), if_neg (show ¬ i = 1 by omega)]
  · intro i hi
    rw [slotRange, List.mem_range'_1] at hi
    simp only [initProcesses, if_neg (show ¬ i = 0 by omega), if_neg (show ¬ i = 1 by omega)]

/-- The lists `fl` and `ul` share out the slots. -/
structure SlotsShared (s : CoordSlots) (fl ul : List Nat) : Prop where
  free : s.freeList.Holds fl
  used : s.usedList.Holds ul
  partition : (fl ++ ul).Perm slotRange
  count : s.freelistCount.toNat = fl.length
  unused_iff : ∀ i ∈ slotRange, (s.processes i).state = .unused ↔ i ∈ fl
  running_iff : ∀ i ∈ slotRange,
    ((s.processes i).state = .listening ∨ (s.processes i).state = .connected) ↔ i ∈ ul
  ids : ∀ i ∈ ul, ∀ j ∈ ul,
    (s.processes i).mboxIdInItccoord = (s.processes j).mboxIdInItccoord → i = j

theorem SlotsOk.shared {s : CoordSlots} {fl ul : List Nat} (h : SlotsOk s fl ul) :
    SlotsShared s fl ul where
  free := h.free
  used := h.used
  partition := h.states.partition
  count := h.count
  unused_iff _ hi := h.states.unused_iff hi
  running_iff _ hi := h.states.running_iff hi
  ids i hi j hj := by
    have hmem : ∀ k ∈ ul, k ∈ slotRange := fun k hk =>
      h.states.partition.mem_iff.mp (List.mem_append_right _ hk)
    exact h.states.id_inj (hmem i hi) (hmem j hj)

/-- **No slot is lost or shared as long as `disconnect_from_process` gets its node**, and no call
faults. -/
theorem coordSlots_partition {pid : Int} {s₀ s : CoordSlots} (hinit : CoordSlots.init pid = .ok s₀)
    {acts : List SlotAction} (hrun : Run (Guarded SlotStep NodeForSlot) s₀ acts s) :
    (∃ fl ul, SlotsShared s fl ul) ∧
      ∀ act, Applies s act → NodeForSlot s act → ∀ fuel, ∃ o, slotCall fuel s act = .ok o := by
  obtain ⟨s₀', hinit', hstart⟩ := CoordSlots.init_ok pid
  obtain rfl := Except.ok.inj (hinit.symm.trans hinit')
  obtain ⟨fl, ul, h⟩ : ∃ fl ul, SlotsOk s fl ul := by
    refine hrun.invariant_of_guard (I := fun t => ∃ fl ul, SlotsOk t fl ul) ?_
      ⟨slotRange, [], hstart⟩
    rintro t act t' ⟨fl, ul, ht⟩ hnode ⟨happ, fuel, hcall⟩
    exact (slotCall_returns ht happ hnode fuel).of_eq hcall rfl
  refine ⟨⟨fl, ul, h.shared⟩, fun act happ hnode fuel => ?_⟩
  obtain ⟨o, hcall, -⟩ := slotCall_returns h happ hnode fuel
  exact ⟨o, hcall⟩

/-- Everything succeeds. -/
def LocateSys.smooth (sd sockfd : Int) (myPid : Int) : LocateSys where
  accept := .accepted sd
  mallocRequest := true
  recv := .request myPid
  node := true
  socket := some sockfd
  bind := true
  chmod := true
  listen := true
  mallocReply := true
  send := .sent
  disconnect := ⟨.closed, .unlinked, true⟩
  close := true

/-- The process that has located the coordinator is in slot 2; then it is disconnected. -/
theorem locate_disconnect (sys : DisconnectSys)
    (hgoes : (CoordSlots.init 100 >>= fun s =>
      slotCall 0 s (.locate (.smooth 5 6 200)) >>= fun o =>
        o.elim (.ok none) fun r => slotCall 1 r.2 (.disconnect 2 sys)).map (Option.map Prod.fst) =
          .ok (some true)) :
    ∃ s₀ s₁ s fl ul, CoordSlots.init 100 = .ok s₀ ∧
      slotCall 0 s₀ (.locate (.smooth 5 6 200)) = .ok (some (true, s₁)) ∧
      SlotsOk s₁ fl ul ∧ 2 ∈ ul ∧ slotCall 1 s₁ (.disconnect 2 sys) = .ok (some (true, s)) := by
  obtain ⟨s₀, hinit, hstart⟩ := CoordSlots.init_ok 100
  have hlocate : (CoordSlots.init 100 >>= fun s => slotCall 0 s (.locate (.smooth 5 6 200))).map
      (Option.map fun r => (r.1, (r.2.processes 2).state)) = .ok (some (true, .listening)) := by
    decide +kernel
  rw [hinit] at hlocate hgoes
  change (slotCall 0 s₀ (.locate (.smooth 5 6 200))).map _ = _ at hlocate
  obtain ⟨⟨b, s₁⟩, hlocate, hanswer⟩ := answer_eq hlocate
  obtain ⟨rfl, hstate⟩ : b = true ∧ (s₁.processes 2).state = .listening :=
    Prod.mk.injEq .. ▸ hanswer
  change (slotCall 0 s₀ (.locate (.smooth 5 6 200)) >>= fun o =>
    o.elim (.ok none) fun r => slotCall 1 r.2 (.disconnect 2 sys)).map _ = _ at hgoes
  rw [hlocate] at hgoes
  change (slotCall 1 s₁ (.disconnect 2 sys)).map _ = _ at hgoes
  obtain ⟨⟨_, s⟩, hdisconnect, rfl⟩ := answer_eq hgoes
  have hcall : Returns (slotCall 0 s₀ (.locate (.smooth 5 6 200))) GoesOn :=
    handleLocateCoordRequest_returns hstart (.smooth 5 6 200) 0
  obtain ⟨fl, ul, h⟩ := hcall.of_eq hlocate rfl
  exact ⟨s₀, s₁, s, fl, ul, hinit, hlocate, h,
    (h.states.running_iff (by decide)).mp (.inl hstate), hdisconnect⟩

/-- A process locates the coordinator and is disconnected, and its slot is free again. -/
theorem coordSlots_partition_released :
    ∃ s₀ s fl ul, CoordSlots.init 100 = .ok s₀ ∧
      Run SlotStep s₀ [.locate (.smooth 5 6 200), .disconnect 2 ⟨.closed, .unlinked, true⟩] s ∧
      SlotsShared s fl ul ∧ 2 ∈ fl := by
  obtain ⟨s₀, s₁, s, fl₁, ul₁, hinit, hlocate, h₁, hul, hdisconnect⟩ :=
    locate_disconnect ⟨.closed, .unlinked, true⟩ (by decide +kernel)
  have hcloses : DisconnectSys.Closes ⟨.closed, .unlinked, true⟩ := ⟨by decide, by decide⟩
  have hstep₁ : SlotStep s₀ (.locate (.smooth 5 6 200)) s₁ := ⟨trivial, 0, hlocate⟩
  have hstep₂ : SlotStep s₁ (.disconnect 2 ⟨.closed, .unlinked, true⟩) s :=
    ⟨⟨⟨ul₁, h₁.used, hul⟩, hcloses⟩, 1, hdisconnect⟩
  have hrun : Run (Guarded SlotStep NodeForSlot) s₀
      [.locate (.smooth 5 6 200), .disconnect 2 ⟨.closed, .unlinked, true⟩] s :=
    .cons ⟨trivial, hstep₁⟩ (.cons ⟨rfl, hstep₂⟩ (.nil s))
  obtain ⟨⟨fl, ul, h⟩, -⟩ := coordSlots_partition hinit hrun
  refine ⟨s₀, s, fl, ul, hinit, .cons hstep₁ (.cons hstep₂ (.nil s)), h, ?_⟩
  have hcall := disconnectSlot_returns h₁ hul ⟨.closed, .unlinked, true⟩ 1
  have hreleased := (hcall.of_eq hdisconnect hcloses).released rfl
  obtain rfl := hreleased.free.unique h.free
  exact List.mem_append_right _ List.mem_cons_self

/-- **A slot whose node cannot be allocated is in neither list any more**, and the coordinator
goes on. -/
theorem coordSlot_lost :
    ∃ s₀ s, CoordSlots.init 100 = .ok s₀ ∧
      Run SlotStep s₀
        [.locate (.smooth 5 6 200), .disconnect 2 ⟨.closed, .unlinked, false⟩] s ∧
      ¬ s.freeList.Contains 2 ∧ ¬ s.usedList.Contains 2 := by
  obtain ⟨s₀, s₁, s, fl, ul, hinit, hlocate, h, hul, hdisconnect⟩ :=
    locate_disconnect ⟨.closed, .unlinked, false⟩ (by decide +kernel)
  have hcloses : DisconnectSys.Closes ⟨.closed, .unlinked, false⟩ := ⟨by decide, by decide⟩
  have hcall := disconnectSlot_returns h hul ⟨.closed, .unlinked, false⟩ 1
  obtain ⟨-, -, hlost⟩ := hcall.of_eq hdisconnect hcloses
  obtain ⟨hfree, hused⟩ := hlost rfl
  refine ⟨s₀, s, hinit, .cons ⟨trivial, 0, hlocate⟩ (.cons ⟨⟨⟨ul, h.used, hul⟩, hcloses⟩, 1,
    hdisconnect⟩ (.nil s)), ?_, ?_⟩
  · rintro ⟨l, hl, hmem⟩
    obtain rfl := hfree.unique hl
    exact h.states.disjoint hmem hul
  · rintro ⟨l, hl, hmem⟩
    obtain rfl := hused.unique hl
    exact (List.nodup_append.mp h.states.nodup).2.1.not_mem_erase hmem

end ItcFramework
