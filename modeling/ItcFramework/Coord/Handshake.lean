import ItcFramework.Coord.Slots
import Mathlib.Data.List.Perm.Subperm
import ItcFramework.Transport.Local

/-!
# The handshake between processes and the coordinator

Any number of processes run `lsock_locate_coord`, `lsock_init` and `lsock_exit` (`itc_lsocket.c`,
called by `itc_init_zz` and `itc_exit_zz`) and notify the coordinator of their mailboxes, while it
runs the main loop of `itccoord.c`. Each takes its steps at any time.

* `ClientStep`, `LoopStep` — the steps of a process and of the coordinator; the calls of the
  coordinator are those of `CoordSlots`, with `connectToProcess` cut where others see it.
* `Phase` — what a slot and the process that has been given it know of each other.
* `Inv` — the invariant: every process that has an id has its slot, and while it holds its
  connection nothing disconnects the slot.
* `handshake_agreement` — a notification of a process that holds its connection finds the slot of
  the process connected, with its pid.
-/

set_option autoImplicit false

namespace ItcFramework

open ByteImage HeapModel Transition

/-! ## Processes -/

/-- How far one `itc_init` of a process has got, with `my_mbox_id_in_itccoord` from when the
reply is in its socket. A call that fails closes no socket, so that a process whose `itc_init` has
failed stays where it is; its next `itc_init` is another client. -/
inductive ClientPc where
  | start
  /-- To `ITC_ITCCOORD_FILENAME`. -/
  | connected
  | requested
  | located (id : MboxId)
  /-- To the socket of its slot; `lsock_init` waits for the ack. -/
  | connecting (id : MboxId)
  /-- The ack is in its socket. -/
  | acked (id : MboxId)
  /-- `lsock_init` and `start_itcthreads` have returned. -/
  | running (id : MboxId)
  /-- After `lsock_exit`. -/
  | exited
  | dead
  deriving DecidableEq, Repr

/-- The connection is closed. -/
def ClientPc.Gone (pc : ClientPc) : Prop := pc = .exited ∨ pc = .dead

/-- The client holds its connection. -/
def ClientPc.Holds (pc : ClientPc) (id : MboxId) : Prop :=
  pc = .connecting id ∨ pc = .acked id ∨ pc = .running id

def ack : CString := ⟨[97, 99, 107], by decide⟩

/-- Whether `lsock_init` goes on when `recv` has returned `rxLen`, not negative; `strAck` is what
`malloc` has left in the buffer when nothing was received. -/
def ackAccepted (rxLen : Nat) (strAck : CString) : Bool :=
  ! (rxLen != 4 && CString.strcmp ack strAck != .eq)

inductive NotifyKind where
  | addMbox
  | rmvMbox
  deriving DecidableEq, Repr

structure Notification where
  sender : Nat
  kind : NotifyKind
  mboxId : MboxId
  name : CString
  deriving DecidableEq, Repr

/-- In the mailbox of the coordinator. -/
inductive CoordMsg where
  | notify (n : Notification)
  | other
  deriving DecidableEq, Repr

/-! ## The coordinator -/

/-- What the `sockfd` of a slot is open on: the socket that listens at the path with its id, with
the clients that wait to be accepted, or a connection. -/
inductive SlotFile where
  | listener (id : MboxId) (pending : List Nat)
  | connection (client : Nat)
  deriving DecidableEq, Repr

/-- What `select` leaves in `proc_fd_list`: whether the coordinator's socket and its mailbox are
in it, and which sockets of slots. -/
structure Pass where
  locate : Bool
  mbox : Bool
  ready : List Int
  deriving DecidableEq, Repr

/-- Where the main loop is; `rest` are the processes the loop over `used_list` has still to
visit. -/
inductive LoopPc where
  | select
  | locate (pass : Pass)
  | scan (pass : Pass) (rest : List Nat)
  /-- In `connect_to_process`, before the ack is sent. -/
  | accepted (pass : Pass) (rest : List Nat) (proc : Nat)
  /-- Before the slot is `PROC_CONNECTED`. -/
  | acked (pass : Pass) (rest : List Nat) (proc : Nat)
  | request (mbox : Bool)
  /-- In `handle_locate_mbox`, which waits for a reply and frees what else it receives. -/
  | waiting
  deriving DecidableEq, Repr

structure Handshake where
  pids : Nat → Int
  clients : Nat → ClientPc
  coord : CoordSlots
  files : Int → Option SlotFile
  /-- Who has connected to `ITC_ITCCOORD_FILENAME` and is not accepted. -/
  locating : List Nat
  mailbox : List CoordMsg
  pc : LoopPc

namespace CoordSlots

@[simp]
theorem setProc_self (s : CoordSlots) (i : Nat) (p : ProcSlot) :
    (s.setProc i p).processes i = p :=
  Function.update_self ..

theorem setProc_ne (s : CoordSlots) {i j : Nat} (p : ProcSlot) (h : j ≠ i) :
    (s.setProc i p).processes j = s.processes j :=
  Function.update_of_ne h ..

/-- `connect_to_process` up to `accept`. -/
def accept (s : CoordSlots) (proc : Nat) (tmpSd : Int) : CoordSlots :=
  s.setProc proc { s.processes proc with sockfd := tmpSd }

/-- The rest of it after the ack. -/
def connect (s : CoordSlots) (proc : Nat) : CoordSlots :=
  s.setProc proc { s.processes proc with state := .connected }

theorem connectToProcess_eq (fuel : Nat) (sys : DisconnectSys) (s : CoordSlots) (proc : Nat)
    (tmpSd : Int) :
    connectToProcess fuel ⟨.accepted tmpSd, .sent, sys⟩ s proc =
      .ok (some (true, (s.accept proc tmpSd).connect proc)) := rfl

end CoordSlots

namespace Handshake

variable (w : Handshake)

/-- After the initialisation in `main`. -/
def init (pids : Nat → Int) (coord : CoordSlots) : Handshake :=
  ⟨pids, fun _ => .start, coord, fun _ => none, [], [], .select⟩

def sockfd (i : Nat) : Int := (w.coord.processes i).sockfd

def setClient (c : Nat) (pc : ClientPc) : Handshake :=
  { w with clients := Function.update w.clients c pc }

def setFile (fd : Int) (file : Option SlotFile) : Handshake :=
  { w with files := Function.update w.files fd file }

/-- A socket of a slot is readable when a client waits to be accepted, or when the client has
closed the connection: it sends nothing on it. -/
def Readable (fd : Int) : Prop :=
  match w.files fd with
  | some (.listener _ pending) => pending ≠ []
  | some (.connection c) => (w.clients c).Gone
  | none => False

/-- `FD_ISSET` for the socket of a slot. -/
def Ready (pass : Pass) (i : Nat) : Prop := w.sockfd i ≠ -1 ∧ w.sockfd i ∈ pass.ready

/-- The coordinator has closed the connection of a client. -/
def Dropped (c : Nat) : Prop :=
  ∀ fd, w.files fd ≠ some (.connection c) ∧
    ∀ id pending, w.files fd = some (.listener id pending) → c ∉ pending

/-- The reply of `handle_locate_coord_request`, which no one reads if the client has died. -/
def reply (c : Nat) (id : MboxId) : Handshake :=
  match w.clients c with
  | .requested => w.setClient c (.located id)
  | _ => w

def sendAck (c : Nat) : Handshake :=
  match w.clients c with
  | .connecting id => w.setClient c (.acked id)
  | _ => w

/-- `disconnect_from_process` has closed the socket of the slot. -/
def disconnected (i : Nat) (coord : CoordSlots) (pc : LoopPc) : Handshake :=
  { w.setFile (w.sockfd i) none with coord, pc }

end Handshake

/-- What `accept` and `recv` answer in `handle_locate_coord_request`: the client that is accepted
has sent its request, unless it has died. -/
def LocateSys.AnswersFor (sys : LocateSys) (pid : Int) (pc : ClientPc) : Prop :=
  (sys.accept = .econnaborted → pc = .dead) ∧
    match sys.recv with
    | .request myPid => myPid = pid ∧ (pc = .requested ∨ pc = .dead)
    | .short _ => pc = .dead
    | .unknown => True

/-- The call has taken a slot. -/
def LocateSys.Served (sys : LocateSys) : Prop :=
  sys.accept ≠ .econnaborted ∧ sys.recv ≠ .short true

/-- `local_create_mbox` accepts no id of another process. -/
theorem localCreateMbox_own {inst inst' : LocalInst} {mboxId : MboxId} {flags : UInt32}
    (h : localCreateMbox inst mboxId flags = (ITC_OK, inst')) :
    mboxId &&& inst.itccoordMask = inst.myMboxIdInItccoord := by
  have hrefused : ∀ {rc : UInt32}, rc ≠ ITC_OK → (rc, inst) ≠ (ITC_OK, inst') := fun hrc heq =>
    hrc (Prod.mk.inj heq).1
  unfold localCreateMbox at h
  split at h
  · rename_i rc hfind
    unfold findLocalmbxData at hfind
    split at hfind
    · cases hfind
      exact absurd h (hrefused (by decide))
    · split at hfind
      · cases hfind
        exact absurd h (hrefused (by decide))
      · rename_i hown
        exact of_not_not hown
  · rename_i i hfind
    unfold findLocalmbxData at hfind
    split at hfind
    · cases hfind
    · split at hfind
      · cases hfind
      · rename_i hown
        exact of_not_not hown

/-! ## Steps -/

inductive ClientStep (w : Handshake) (c : Nat) : Handshake → Prop where
  | connect (h : w.clients c = .start) :
      ClientStep w c { w.setClient c .connected with locating := w.locating ++ [c] }
  | request (h : w.clients c = .connected) : ClientStep w c (w.setClient c .requested)
  | connectSlot {id : MboxId} {fd : Int} {pending : List Nat} (h : w.clients c = .located id)
      (hfile : w.files fd = some (.listener id pending)) :
      ClientStep w c
        ((w.setClient c (.connecting id)).setFile fd (some (.listener id (pending ++ [c]))))
  | ack {id : MboxId} (h : w.clients c = .acked id) : ClientStep w c (w.setClient c (.running id))
  /-- `recv` returns 0. -/
  | eof {id : MboxId} {strAck : CString} (h : w.clients c = .connecting id)
      (hdropped : w.Dropped c) (hack : ackAccepted 0 strAck = true) :
      ClientStep w c (w.setClient c (.running id))
  /-- `itc_create_mailbox` or `itc_delete_mailbox`, which notify of ids that `local_create_mbox` has
  accepted. -/
  | notify {id : MboxId} {kind : NotifyKind} {mboxId : MboxId} {name : CString}
      (h : w.clients c = .running id) (hown : mboxId &&& ITC_COORD_MASK = id) :
      ClientStep w c { w with mailbox := w.mailbox ++ [.notify ⟨c, kind, mboxId, name⟩] }
  | send {id : MboxId} (h : w.clients c = .running id) :
      ClientStep w c { w with mailbox := w.mailbox ++ [.other] }
  | exit {id : MboxId} (h : (w.clients c).Holds id) : ClientStep w c (w.setClient c .exited)
  | die : ClientStep w c (w.setClient c .dead)

/-- A step of the main loop, with the notification it handles. A call that returns `false` ends
the coordinator, and its run. -/
inductive LoopStep (w : Handshake) : Option Notification → Handshake → Prop where
  | select {pass : Pass} (hpc : w.pc = .select) (hlocate : pass.locate = true → w.locating ≠ [])
      (hmbox : pass.mbox = true → w.mailbox ≠ []) (hready : ∀ fd ∈ pass.ready, w.Readable fd) :
      LoopStep w none { w with pc := .locate pass }
  | locateNot {pass : Pass} {ul : List Nat} (hpc : w.pc = .locate pass)
      (hnot : pass.locate = false) (hul : w.coord.usedList.Holds ul) :
      LoopStep w none { w with pc := .scan pass ul }
  | locateIgnored {pass : Pass} {ul rest : List Nat} {c fuel : Nat} {sys : LocateSys}
      {coord : CoordSlots} (hpc : w.pc = .locate pass) (hpending : w.locating = c :: rest)
      (hsys : sys.AnswersFor (w.pids c) (w.clients c)) (hserved : ¬ sys.Served)
      (call : handleLocateCoordRequest fuel sys w.coord = .ok (some (true, coord)))
      (hul : coord.usedList.Holds ul) :
      LoopStep w none { w with coord, locating := rest, pc := .scan pass ul }
  | locate {pass : Pass} {ul rest : List Nat} {c fuel proc : Nat} {sys : LocateSys}
      {coord : CoordSlots} {sockfd : Int} {rc : UInt32} {freeList : ItcQueue}
      (hpc : w.pc = .locate pass) (hpending : w.locating = c :: rest)
      (hsys : sys.AnswersFor (w.pids c) (w.clients c)) (hserved : sys.Served)
      (hsocket : sys.socket = some sockfd) (hfresh : w.files sockfd = none)
      (call : handleLocateCoordRequest fuel sys w.coord = .ok (some (true, coord)))
      (hproc : qDequeue w.coord.rc w.coord.freeList = .ok (rc, some proc, freeList))
      (hul : coord.usedList.Holds ul) :
      LoopStep w none (({ w with coord, locating := rest, pc := .scan pass ul }.setFile sockfd
        (some (.listener (coord.processes proc).mboxIdInItccoord []))).reply c
          (coord.processes proc).mboxIdInItccoord)
  | notReady {pass : Pass} {rest : List Nat} {i : Nat} (hpc : w.pc = .scan pass (i :: rest))
      (hready : ¬ w.Ready pass i) : LoopStep w none { w with pc := .scan pass rest }
  | accept {pass : Pass} {rest pending : List Nat} {i c : Nat} {id : MboxId} {tmpSd : Int}
      (hpc : w.pc = .scan pass (i :: rest)) (hready : w.Ready pass i)
      (hstate : (w.coord.processes i).state = .listening)
      (hfile : w.files (w.sockfd i) = some (.listener id (c :: pending)))
      (hfresh : w.files tmpSd = none) :
      LoopStep w none { (w.setFile (w.sockfd i) none).setFile tmpSd (some (.connection c)) with
        coord := w.coord.accept i tmpSd, pc := .accepted pass rest i }
  /-- The node `iter` is freed before `iter->next` is read: the loop goes on somewhere in what is
  left, or ends. -/
  | acceptAborted {pass : Pass} {rest rest' pending : List Nat} {i c fuel : Nat} {id : MboxId}
      {sys : ConnectSys} {coord : CoordSlots} (hpc : w.pc = .scan pass (i :: rest))
      (hready : w.Ready pass i) (hstate : (w.coord.processes i).state = .listening)
      (hfile : w.files (w.sockfd i) = some (.listener id (c :: pending)))
      (hgone : (w.clients c).Gone) (haccept : sys.accept = .econnaborted)
      (call : connectToProcess fuel sys w.coord i = .ok (some (true, coord)))
      (hrest : rest'.Sublist rest) : LoopStep w none (w.disconnected i coord (.scan pass rest'))
  | ack {pass : Pass} {rest : List Nat} {i c : Nat} (hpc : w.pc = .accepted pass rest i)
      (hfile : w.files (w.sockfd i) = some (.connection c)) :
      LoopStep w none { w.sendAck c with pc := .acked pass rest i }
  | ackEpipe {pass : Pass} {rest rest' : List Nat} {i c fuel : Nat} {sys : DisconnectSys}
      {closed : Bool} {coord : CoordSlots} (hpc : w.pc = .accepted pass rest i)
      (hfile : w.files (w.sockfd i) = some (.connection c)) (hgone : (w.clients c).Gone)
      (call : disconnectSlot fuel sys w.coord i = .ok (some (closed, coord)))
      (hrest : rest'.Sublist rest) : LoopStep w none (w.disconnected i coord (.scan pass rest'))
  | connected {pass : Pass} {rest : List Nat} {i : Nat} (hpc : w.pc = .acked pass rest i) :
      LoopStep w none { w with coord := w.coord.connect i, pc := .scan pass rest }
  | disconnect {pass : Pass} {rest : List Nat} {i fuel : Nat} {sys : DisconnectSys}
      {coord : CoordSlots} (hpc : w.pc = .scan pass (i :: rest)) (hready : w.Ready pass i)
      (hstate : (w.coord.processes i).state = .connected)
      (call : disconnectSlot fuel sys w.coord i = .ok (some (true, coord))) :
      LoopStep w none (w.disconnected i coord (.request pass.mbox))
  /-- Whenever the counters ask for it. `kill` gives `ESRCH` for processes that have died or are
  not there yet. -/
  | zombie {pass : Pass} {rest : List Nat} {i fuel : Nat} {sys : DisconnectSys} {closed : Bool}
      {coord : CoordSlots} (hpc : w.pc = .scan pass (i :: rest)) (hready : ¬ w.Ready pass i)
      (hstate : (w.coord.processes i).state = .listening)
      (hpid : 0 < (w.coord.processes i).pid)
      (hesrch : ∀ c, w.pids c = (w.coord.processes i).pid →
        w.clients c = .start ∨ w.clients c = .dead)
      (call : disconnectSlot fuel sys w.coord i = .ok (some (closed, coord))) :
      LoopStep w none (w.disconnected i coord (.request pass.mbox))
  | scanned {pass : Pass} (hpc : w.pc = .scan pass []) :
      LoopStep w none { w with pc := .request pass.mbox }
  | requestNot (hpc : w.pc = .request false) : LoopStep w none { w with pc := .select }
  | handle {n : Notification} {rest : List CoordMsg} (hpc : w.pc = .request true)
      (hmsg : w.mailbox = .notify n :: rest) :
      LoopStep w (some n) { w with mailbox := rest, pc := .select }
  | handleOther {rest : List CoordMsg} (hpc : w.pc = .request true)
      (hmsg : w.mailbox = .other :: rest) :
      LoopStep w none { w with mailbox := rest, pc := .waiting }
  | discard {msg : CoordMsg} {rest : List CoordMsg} (hpc : w.pc = .waiting)
      (hmsg : w.mailbox = msg :: rest) : LoopStep w none { w with mailbox := rest }
  | waited (hpc : w.pc = .waiting) : LoopStep w none { w with pc := .select }

inductive HandshakeAction where
  | client (c : Nat)
  | loop (handled : Option Notification)

/-- The processes and the coordinator take turns in any order. -/
inductive HandshakeStep : Handshake → HandshakeAction → Handshake → Prop where
  | client {w w' : Handshake} {c : Nat} (h : ClientStep w c w') : HandshakeStep w (.client c) w'
  | loop {w w' : Handshake} {handled : Option Notification} (h : LoopStep w handled w') :
      HandshakeStep w (.loop handled) w'

/-! ## The lists of slots -/

@[irreducible]
def slotId (i : Nat) : MboxId := UInt32.ofNat i <<< ITC_COORD_SHIFT

/-- What the lists of slots keep whatever the system answers: a slot that is lost is in neither,
and after a failure of `q_enqueue` the coordinator takes no slot any more. -/
structure SlotLists (s : CoordSlots) (fl ul : List Nat) : Prop where
  free : s.rc = ITC_OK → s.freeList.Holds fl
  used : s.usedList.Holds ul
  nodup : (fl ++ ul).Nodup
  range : ∀ i ∈ fl ++ ul, i ∈ slotRange
  id : ∀ i ∈ slotRange, (s.processes i).mboxIdInItccoord = slotId i

theorem slotId_toNat {i : Nat} (hi : i ∈ slotRange) : (slotId i).toNat = i * 2 ^ 20 := by
  rw [slotRange, List.mem_range'_1] at hi
  have hlt : i < 255 := hi.2
  have hshift : ITC_COORD_SHIFT.toNat % 32 = 20 := by decide
  rw [slotId, UInt32.toNat_shiftLeft, hshift, UInt32.toNat_ofNat', Nat.shiftLeft_eq]
  omega

theorem slotId_inj {i j : Nat} (hi : i ∈ slotRange) (hj : j ∈ slotRange)
    (h : slotId i = slotId j) : i = j := by
  have htoNat := congrArg UInt32.toNat h
  rw [slotId_toNat hi, slotId_toNat hj] at htoNat
  omega

theorem procOf_slotId {i : Nat} (hi : i ∈ slotRange) {mboxId : MboxId}
    (h : mboxId &&& ITC_COORD_MASK = slotId i) : procOf mboxId = i := by
  have hshift : ITC_COORD_SHIFT.toNat % 32 = 20 := by decide
  rw [procOf, h, UInt32.toNat_shiftRight, slotId_toNat hi, hshift, Nat.shiftRight_eq_div_pow]
  exact Nat.mul_div_cancel i (by decide)

namespace SlotLists

variable {s s' : CoordSlots} {fl ul : List Nat}

theorem used_range (h : SlotLists s fl ul) {i : Nat} (hi : i ∈ ul) : i ∈ slotRange :=
  h.range i (List.mem_append_right _ hi)

theorem length_le (h : SlotLists s fl ul) : fl.length + ul.length ≤ 253 := by
  have hle := (h.nodup.subperm fun i hi => h.range i hi).length_le
  rwa [List.length_append, slotRange, List.length_range'] at hle

/-- A slot that is written keeps its id. -/
theorem setProc (h : SlotLists s fl ul) {i : Nat} {p : ProcSlot}
    (hid : p.mboxIdInItccoord = (s.processes i).mboxIdInItccoord) :
    SlotLists (s.setProc i p) fl ul where
  free := h.free
  used := h.used
  nodup := h.nodup
  range := h.range
  id j hj := by
    by_cases hji : j = i
    · subst hji
      rw [CoordSlots.setProc_self, hid]
      exact h.id j hj
    · rw [CoordSlots.setProc_ne _ _ hji]
      exact h.id j hj

/-- `q_enqueue` clears no flag, and sets one if it has no memory. -/
theorem qEnqueue_rc {mem : Bool} {rc rc' : UInt32} {q q' : ItcQueue} {data : Nat}
    (hcall : qEnqueue mem rc q data = .ok (rc', q')) (hrc' : rc' = ITC_OK) :
    rc = ITC_OK ∧ mem = true := by
  subst hrc'
  unfold qEnqueue at hcall
  split at hcall
  · rw [Except.ok.injEq, Prod.mk.injEq] at hcall
    have hflag := (UInt32.or_eq_zero_iff.mp hcall.1).2
    exact absurd hflag (by decide)
  · rename_i hmem
    refine ⟨?_, of_not_not hmem⟩
    simp only at hcall
    split at hcall
    · rename_i hrc
      cases hcall
      exact absurd rfl hrc
    · rename_i hrc
      exact of_not_not hrc

/-- `disconnect_from_process` takes the slot out of `used_list` and touches no other one. -/
theorem disconnected (h : SlotLists s fl ul) {proc : Nat} (hproc : proc ∈ ul) {fuel : Nat}
    {sys : DisconnectSys} {closed : Bool}
    (hcall : disconnectSlot fuel sys s proc = .ok (some (closed, s'))) :
    (∃ fl', SlotLists s' fl' (ul.erase proc)) ∧
      ∀ j, j ≠ proc → s'.processes j = s.processes j := by
  have hnd := List.nodup_append.mp h.nodup
  unfold disconnectSlot at hcall
  obtain ⟨usedList, hremove, hcall⟩ := bind_some_eq_ok hcall rfl
  have hused := (ItcQueue.qRemove_returns h.used hproc fuel).of_eq hremove
  obtain ⟨hstate, hid⟩ := closeSocketConnection_state sys
    { s.processes proc with state := .unused, pid := -1 }
  generalize closeSocketConnection sys
    { s.processes proc with state := .unused, pid := -1 } = out at hstate hid hcall
  obtain ⟨b, p⟩ := out
  -- the slot is out of `used_list` and not yet in `free_list`
  have herased : SlotLists (({ s with usedList } : CoordSlots).setProc proc p) fl
      (ul.erase proc) := by
    have hlists : SlotLists { s with usedList } fl (ul.erase proc) := by
      refine ⟨h.free, hused, ?_, fun i hi => ?_, h.id⟩
      · exact h.nodup.sublist (List.Sublist.append_left List.erase_sublist fl)
      · apply h.range i
        rw [List.mem_append] at hi ⊢
        exact hi.imp_right List.mem_of_mem_erase
    exact hlists.setProc hid
  have hframe : ∀ j, j ≠ proc →
      (({ s with usedList } : CoordSlots).setProc proc p).processes j = s.processes j :=
    fun j hj => CoordSlots.setProc_ne _ _ hj
  simp only at hcall
  split at hcall
  · cases hcall
    exact ⟨⟨fl, herased⟩, hframe⟩
  · obtain ⟨⟨rc, freeList⟩, henq, hcall⟩ := bind_eq_ok hcall
    cases hcall
    refine ⟨?_, hframe⟩
    by_cases hrc : rc = ITC_OK
    · -- the slot goes to `free_list`
      obtain ⟨hok, hmem⟩ := qEnqueue_rc henq hrc
      have hlen := h.length_le
      obtain ⟨freeList', henq', hfree⟩ := ItcQueue.qEnqueue_spec (herased.free hok)
        (by omega) proc
      rw [hmem, hok, henq', Except.ok.injEq, Prod.mk.injEq] at henq
      obtain ⟨-, rfl⟩ := henq
      refine ⟨fl ++ [proc], fun _ => hfree, herased.used, ?_, fun i hi => ?_, herased.id⟩
      · rw [List.append_assoc, List.nodup_append]
        refine ⟨hnd.1, List.nodup_cons.mpr ⟨hnd.2.1.not_mem_erase, hnd.2.1.erase proc⟩, ?_⟩
        rintro a ha b hb rfl
        rcases List.mem_cons.mp hb with rfl | hb
        · exact hnd.2.2 a ha a hproc rfl
        · exact hnd.2.2 a ha a (List.mem_of_mem_erase hb) rfl
      · rw [List.append_assoc, List.mem_append, List.mem_append, List.mem_singleton] at hi
        rcases hi with hi | rfl | hi
        · exact h.range i (List.mem_append_left _ hi)
        · exact h.used_range hproc
        · exact h.used_range (List.mem_of_mem_erase hi)
    · exact ⟨fl, fun heq => absurd heq hrc, herased.used, herased.nodup, herased.range, herased.id⟩

/-- The slot that `handle_locate_coord_request` takes. -/
structure Located (s s' : CoordSlots) (fl ul : List Nat) (pid sockfd : Int) (proc : Nat) :
    Prop where
  free : proc ∈ fl
  lists : ∃ fl', SlotLists s' fl' (ul ++ [proc])
  slot : s'.processes proc =
    { s.processes proc with pid, sockfd, state := ProcessState.listening }
  frame : ∀ j, j ≠ proc → s'.processes j = s.processes j

/-- `q_dequeue` clears no flag. -/
theorem qDequeue_rc {rc rc' : UInt32} {q q' : ItcQueue} {data : Option Nat}
    (hcall : qDequeue rc q = .ok (rc', data, q')) (hrc' : rc' = ITC_OK) : rc = ITC_OK := by
  subst hrc'
  have hor : ∀ {flag : UInt32}, rc ||| flag = ITC_OK → rc = ITC_OK := fun hflag =>
    (UInt32.or_eq_zero_iff.mp hflag).1
  unfold qDequeue at hcall
  split at hcall
  · exact hor (Prod.mk.inj (Except.ok.inj hcall)).1
  · obtain ⟨node, -, hcall⟩ := bind_eq_ok hcall
    split at hcall
    · obtain ⟨nodes, -, hcall⟩ := bind_eq_ok hcall
      exact (Prod.mk.inj (Except.ok.inj hcall)).1
    · obtain ⟨second, -, hcall⟩ := bind_eq_ok hcall
      obtain ⟨n, -, hcall⟩ := bind_eq_ok hcall
      split at hcall
      · exact hor (Prod.mk.inj (Except.ok.inj hcall)).1
      · obtain ⟨nodes, -, hcall⟩ := bind_eq_ok hcall
        obtain ⟨nodes', -, hcall⟩ := bind_eq_ok hcall
        exact (Prod.mk.inj (Except.ok.inj hcall)).1

theorem located (h : SlotLists s fl ul) {fuel : Nat} {sys : LocateSys} {pid sockfd : Int}
    (hsocket : sys.socket = some sockfd)
    (hcall : locateSlot fuel sys s pid = .ok (some (true, s'))) {rc : UInt32}
    {proc : Nat} {freeList : ItcQueue}
    (hproc : qDequeue s.rc s.freeList = .ok (rc, some proc, freeList)) :
    Located s s' fl ul pid sockfd proc := by
  unfold locateSlot at hcall
  simp only [hproc, bind, Except.bind, hsocket, deref] at hcall
  split at hcall
  · cases hcall
  · rename_i hrc
    have hok := qDequeue_rc hproc (of_not_not hrc)
    have hfree := h.free hok
    cases fl with
    | nil =>
      rw [ItcQueue.qDequeue_nil hfree, Except.ok.injEq, Prod.mk.injEq, Prod.mk.injEq] at hproc
      cases hproc.2.1
    | cons i fl =>
      obtain ⟨freeList', hdeq, hfree'⟩ := ItcQueue.qDequeue_cons hfree s.rc
      rw [hdeq, Except.ok.injEq, Prod.mk.injEq, Prod.mk.injEq, Option.some.injEq] at hproc
      obtain ⟨rfl, rfl, rfl⟩ := hproc
      rw [hok] at hcall
      split at hcall
      · cases hcall
      · rename_i out henq
        obtain ⟨rc', usedList⟩ := out
        simp only at hcall
        split at hcall
        · cases hcall
        · rename_i hrc'
          have hrc' := of_not_not hrc'
          subst hrc'
          obtain ⟨-, hmem⟩ := qEnqueue_rc henq rfl
          have hlen := h.length_le
          obtain ⟨usedList', henq', hused⟩ := ItcQueue.qEnqueue_spec h.used (by omega) i
          rw [hmem, henq', Except.ok.injEq, Prod.mk.injEq] at henq
          obtain ⟨-, rfl⟩ := henq
          -- the three writes to the slot are one
          simp only [CoordSlots.setProc, Function.update_self, Function.update_idem] at hcall
          split at hcall
          · cases hcall
          · split at hcall
            · cases hcall
            · split at hcall
              · cases hcall
              · split at hcall
                · cases hcall
                · split at hcall
                  · cases hcall
                  · cases hcall
              · obtain rfl := (Prod.mk.inj (Option.some.inj (Except.ok.inj hcall))).2
                have hlists : SlotLists ⟨freeList', usedList', s.freelistCount - 1, ITC_OK,
                    s.processes⟩ fl (ul ++ [i]) := by
                  refine ⟨fun _ => hfree', hused, ?_, fun j hj => ?_, h.id⟩
                  · rw [← List.append_assoc]
                    exact (List.perm_append_singleton i (fl ++ ul)).nodup_iff.mpr h.nodup
                  · apply h.range j
                    rw [← List.append_assoc] at hj
                    exact (List.perm_append_singleton i (fl ++ ul)).mem_iff.mp hj
                exact ⟨List.mem_cons_self, ⟨fl, hlists.setProc rfl⟩, Function.update_self ..,
                  fun j hj => Function.update_of_ne hj ..⟩

end SlotLists

/-- A request that is served takes a slot, for the pid that was received or for -1. -/
theorem handleLocateCoordRequest_served {fuel : Nat} {sys : LocateSys} {s s' : CoordSlots}
    (hserved : sys.Served)
    (hcall : handleLocateCoordRequest fuel sys s = .ok (some (true, s'))) :
    ∃ pid, locateSlot fuel sys s pid = .ok (some (true, s')) ∧
      (sys.recv = .request pid ∨ sys.recv = .short false) := by
  obtain ⟨haccept, hrecv⟩ := hserved
  unfold handleLocateCoordRequest at hcall
  split at hcall
  · rename_i heq
    exact absurd heq haccept
  · cases hcall
  · split at hcall
    · cases hcall
    · split at hcall
      · rename_i heq
        exact absurd heq hrecv
      · rename_i heq
        exact ⟨-1, hcall, .inr heq⟩
      · cases hcall
      · rename_i myPid heq
        exact ⟨myPid, hcall, .inl heq⟩

theorem handleLocateCoordRequest_ignored {fuel : Nat} {sys : LocateSys} {s s' : CoordSlots}
    (hserved : ¬ sys.Served)
    (hcall : handleLocateCoordRequest fuel sys s = .ok (some (true, s'))) : s' = s := by
  unfold handleLocateCoordRequest at hcall
  split at hcall
  · cases hcall
    rfl
  · cases hcall
  · rename_i haccept
    split at hcall
    · cases hcall
    · split at hcall
      · cases hcall
        rfl
      · rename_i heq
        exact absurd ⟨by rw [haccept]; exact nofun, by rw [heq]; exact nofun⟩ hserved
      · cases hcall
      · rename_i heq
        exact absurd ⟨by rw [haccept]; exact nofun, by rw [heq]; exact nofun⟩ hserved

/-! ## The invariant -/

/-- The client has been given the id. -/
def ClientPc.Has (pc : ClientPc) (id : MboxId) : Prop := pc = .located id ∨ pc.Holds id

def LoopPc.Accepting (pc : LoopPc) (i : Nat) : Prop := ∃ pass rest, pc = .accepted pass rest i

def LoopPc.Acking (pc : LoopPc) (i : Nat) : Prop := ∃ pass rest, pc = .acked pass rest i

namespace Handshake

/-- What a slot in use and the client that it was given to know of each other. -/
inductive Phase (w : Handshake) (i c : Nat) : Prop where
  | listening {pending : List Nat} (hstate : (w.coord.processes i).state = .listening)
      (hfile : w.files (w.sockfd i) = some (.listener (slotId i) pending))
      (honly : ∀ x ∈ pending, x = c)
      (hclient : w.clients c = .located (slotId i) ∧ pending = [] ∨
        w.clients c = .connecting (slotId i) ∧ c ∈ pending ∨ (w.clients c).Gone)
  | accepted (hstate : (w.coord.processes i).state = .listening)
      (hfile : w.files (w.sockfd i) = some (.connection c)) (hloop : w.pc.Accepting i)
      (hclient : w.clients c = .connecting (slotId i) ∨ (w.clients c).Gone)
  | acked (hstate : (w.coord.processes i).state = .listening)
      (hfile : w.files (w.sockfd i) = some (.connection c)) (hloop : w.pc.Acking i)
      (hclient : w.clients c = .acked (slotId i) ∨ w.clients c = .running (slotId i) ∨
        (w.clients c).Gone)
  | connected (hstate : (w.coord.processes i).state = .connected)
      (hfile : w.files (w.sockfd i) = some (.connection c))
      (hclient : w.clients c = .acked (slotId i) ∨ w.clients c = .running (slotId i) ∨
        (w.clients c).Gone)

/-- What `select` has found readable stays closed. -/
def Closed (w : Handshake) (owner : Nat → Nat) (pass : Pass) (i : Nat) : Prop :=
  (w.coord.processes i).state = .connected → w.Ready pass i → (w.clients (owner i)).Gone

structure Visits (w : Handshake) (owner : Nat → Nat) (ul : List Nat) (pass : Pass)
    (rest : List Nat) : Prop where
  nodup : rest.Nodup
  used : ∀ i ∈ rest, i ∈ ul
  closed : ∀ i ∈ rest, w.Closed owner pass i

def LoopOk (w : Handshake) (owner : Nat → Nat) (ul : List Nat) : Prop :=
  match w.pc with
  | .locate pass => ∀ i ∈ ul, w.Closed owner pass i
  | .scan pass rest => w.Visits owner ul pass rest
  | .accepted pass rest proc => w.Visits owner ul pass (proc :: rest)
  | .acked pass rest proc => w.Visits owner ul pass rest ∧ proc ∈ ul ∧ proc ∉ rest ∧
      ∃ c, w.files (w.sockfd proc) = some (.connection c)
  | _ => True

/-- `ul` are the slots in use and `owner` tells whom they have been given to. -/
structure Inv (w : Handshake) (owner : Nat → Nat) (ul : List Nat) : Prop where
  lists : ∃ fl, SlotLists w.coord fl ul
  phase : ∀ i ∈ ul, w.Phase i (owner i)
  pid : ∀ i ∈ ul, (w.coord.processes i).pid = w.pids (owner i) ∨ (w.clients (owner i)).Gone
  sockets : ∀ i ∈ ul, ∀ j ∈ ul, w.sockfd i = w.sockfd j → i = j
  files : ∀ fd, w.files fd ≠ none → ∃ i ∈ ul, w.sockfd i = fd
  given : ∀ c id, (w.clients c).Has id → ∃ i ∈ ul, id = slotId i ∧ owner i = c
  locating : w.locating.Nodup
  unlocated : ∀ c ∈ w.locating,
    w.clients c = .connected ∨ w.clients c = .requested ∨ w.clients c = .dead
  mailbox : ∀ n, .notify n ∈ w.mailbox →
    w.clients n.sender = .running (n.mboxId &&& ITC_COORD_MASK) ∨ (w.clients n.sender).Gone
  loop : w.LoopOk owner ul

variable {w w' : Handshake} {owner : Nat → Nat} {ul : List Nat} {i c : Nat}

namespace Phase

/-- The client has the id of the slot, until it is gone. -/
theorem client (h : w.Phase i c) : (w.clients c).Has (slotId i) ∨ (w.clients c).Gone := by
  cases h with
  | listening _ _ _ hclient =>
    rcases hclient with ⟨h, -⟩ | ⟨h, -⟩ | h
    · exact .inl (.inl h)
    · exact .inl (.inr (.inl h))
    · exact .inr h
  | accepted _ _ _ hclient => exact hclient.imp_left fun h => .inr (.inl h)
  | acked _ _ _ hclient =>
    rcases hclient with h | h | h
    · exact .inl (.inr (.inr (.inl h)))
    · exact .inl (.inr (.inr (.inr h)))
    · exact .inr h
  | connected _ _ hclient =>
    rcases hclient with h | h | h
    · exact .inl (.inr (.inr (.inl h)))
    · exact .inl (.inr (.inr (.inr h)))
    · exact .inr h

theorem file (h : w.Phase i c) : w.files (w.sockfd i) ≠ none := by
  cases h with
  | listening _ hfile => rw [hfile]; exact nofun
  | accepted _ hfile => rw [hfile]; exact nofun
  | acked _ hfile => rw [hfile]; exact nofun
  | connected _ hfile => rw [hfile]; exact nofun

/-- A connection of the slot is that of its client. -/
theorem connection (h : w.Phase i c) {c' : Nat}
    (hfile : w.files (w.sockfd i) = some (.connection c')) : c' = c := by
  cases h with
  | listening _ hfile' => rw [hfile'] at hfile; cases hfile
  | accepted _ hfile' => rw [hfile'] at hfile; cases hfile; rfl
  | acked _ hfile' => rw [hfile'] at hfile; cases hfile; rfl
  | connected _ hfile' => rw [hfile'] at hfile; cases hfile; rfl

/-- What is in no way of the slot keeps its phase; its client may be gone by now. -/
theorem congr (h : w.Phase i c) (hproc : w'.coord.processes i = w.coord.processes i)
    (hfiles : w'.files (w.sockfd i) = w.files (w.sockfd i))
    (hclients : w'.clients c = w.clients c ∨ (w'.clients c).Gone)
    (haccepting : w.pc.Accepting i → w'.pc.Accepting i)
    (hacking : w.pc.Acking i → w'.pc.Acking i) : w'.Phase i c := by
  have hsockfd : w'.sockfd i = w.sockfd i := by rw [sockfd, hproc, sockfd]
  cases h with
  | listening hstate hfile honly hclient =>
    refine .listening (by rw [hproc, hstate]) (by rw [hsockfd, hfiles, hfile]) honly ?_
    rcases hclients with heq | hgone
    · rwa [heq]
    · exact .inr (.inr hgone)
  | accepted hstate hfile hloop hclient =>
    refine .accepted (by rw [hproc, hstate]) (by rw [hsockfd, hfiles, hfile]) (haccepting hloop) ?_
    rcases hclients with heq | hgone
    · rwa [heq]
    · exact .inr hgone
  | acked hstate hfile hloop hclient =>
    refine .acked (by rw [hproc, hstate]) (by rw [hsockfd, hfiles, hfile]) (hacking hloop) ?_
    rcases hclients with heq | hgone
    · rwa [heq]
    · exact .inr (.inr hgone)
  | connected hstate hfile hclient =>
    refine .connected (by rw [hproc, hstate]) (by rw [hsockfd, hfiles, hfile]) ?_
    rcases hclients with heq | hgone
    · rwa [heq]
    · exact .inr (.inr hgone)

end Phase

namespace Visits

variable {pass : Pass} {rest rest' : List Nat}

theorem sublist (h : w.Visits owner ul pass rest) (hrest : rest'.Sublist rest) :
    w.Visits owner ul pass rest' where
  nodup := h.nodup.sublist hrest
  used j hj := h.used j (hrest.subset hj)
  closed j hj := h.closed j (hrest.subset hj)

/-- Slots that stay as they are, and clients that stay gone. -/
theorem congr (h : w.Visits owner ul pass rest) {ul' : List Nat} {owner' : Nat → Nat}
    (hused : ∀ j ∈ rest, j ∈ ul') (howner : ∀ j ∈ rest, owner' j = owner j)
    (hprocs : ∀ j ∈ rest, w'.coord.processes j = w.coord.processes j)
    (hgone : ∀ c, (w.clients c).Gone → (w'.clients c).Gone) :
    w'.Visits owner' ul' pass rest where
  nodup := h.nodup
  used := hused
  closed j hj hstate hready := by
    rw [Ready, sockfd, hprocs j hj] at hready
    rw [howner j hj]
    exact hgone _ (h.closed j hj (hprocs j hj ▸ hstate) hready)

end Visits

theorem LoopOk.congr (h : w.LoopOk owner ul) (hpc : w'.pc = w.pc)
    (hprocs : w'.coord.processes = w.coord.processes)
    (hgone : ∀ c, (w.clients c).Gone → (w'.clients c).Gone)
    (hfiles : ∀ fd c, w.files fd = some (.connection c) → w'.files fd = some (.connection c)) :
    w'.LoopOk owner ul := by
  have hvisits : ∀ {pass : Pass} {rest : List Nat}, w.Visits owner ul pass rest →
      w'.Visits owner ul pass rest := fun hv =>
    hv.congr hv.used (fun _ _ => rfl) (fun _ _ => by rw [hprocs]) hgone
  unfold LoopOk at h ⊢
  rw [hpc]
  cases hw : w.pc with
  | locate pass =>
    rw [hw] at h
    intro i hi hstate hready
    rw [Ready, sockfd, hprocs] at hready
    exact hgone _ (h i hi (hprocs ▸ hstate) hready)
  | scan pass rest => rw [hw] at h; exact hvisits h
  | accepted pass rest proc => rw [hw] at h; exact hvisits h
  | acked pass rest proc =>
    rw [hw] at h
    obtain ⟨hv, hproc, hrest, c, hcon⟩ := h
    refine ⟨hvisits hv, hproc, hrest, c, ?_⟩
    rw [sockfd, hprocs]
    exact hfiles _ c hcon
  | select => trivial
  | request mbox => trivial
  | waiting => trivial

theorem setClient_self (w : Handshake) (c : Nat) (pc : ClientPc) :
    (w.setClient c pc).clients c = pc := Function.update_self ..

theorem setClient_ne (w : Handshake) {c c' : Nat} (pc : ClientPc) (h : c' ≠ c) :
    (w.setClient c pc).clients c' = w.clients c' := Function.update_of_ne h ..

theorem setClient_same {pc : ClientPc} (h : w.clients c = pc) : w.setClient c pc = w := by
  rw [setClient, ← h, Function.update_eq_self]

namespace Inv

/-- The loop goes on to a place where it is not connecting a process; messages and requests may
have been taken. -/
theorem move (h : w.Inv owner ul) {locating : List Nat} {mailbox : List CoordMsg} {pc : LoopPc}
    (haccepting : ∀ i, ¬ w.pc.Accepting i) (hacking : ∀ i, ¬ w.pc.Acking i)
    (hlocating : locating.Sublist w.locating) (hmailbox : ∀ m ∈ mailbox, m ∈ w.mailbox)
    (hloop : ({ w with locating, mailbox, pc } : Handshake).LoopOk owner ul) :
    ({ w with locating, mailbox, pc } : Handshake).Inv owner ul where
  lists := h.lists
  phase i hi := (h.phase i hi).congr rfl rfl (.inl rfl) (fun ha => absurd ha (haccepting i))
    fun ha => absurd ha (hacking i)
  pid := h.pid
  sockets := h.sockets
  files := h.files
  given := h.given
  locating := h.locating.sublist hlocating
  unlocated c hc := h.unlocated c (hlocating.subset hc)
  mailbox n hn := h.mailbox n (hmailbox _ hn)
  loop := hloop

/-- A client gets on, and the loop may as well. -/
theorem setClientAt (h : w.Inv owner ul) {pc : ClientPc} {l : LoopPc}
    (hphase : ∀ i ∈ ul, owner i = c → ({ w.setClient c pc with pc := l } : Handshake).Phase i c)
    (hother : ∀ i ∈ ul, owner i ≠ c →
      (w.pc.Accepting i → l.Accepting i) ∧ (w.pc.Acking i → l.Acking i))
    (hgone : (w.clients c).Gone → pc.Gone) (hhas : ∀ id, pc.Has id → (w.clients c).Has id)
    (hlocating : c ∈ w.locating → pc = .connected ∨ pc = .requested ∨ pc = .dead)
    (hmailbox : ∀ n, .notify n ∈ w.mailbox → n.sender = c →
      pc = .running (n.mboxId &&& ITC_COORD_MASK) ∨ pc.Gone)
    (hloop : (∀ c', (w.clients c').Gone → ((w.setClient c pc).clients c').Gone) →
      ({ w.setClient c pc with pc := l } : Handshake).LoopOk owner ul) :
    ({ w.setClient c pc with pc := l } : Handshake).Inv owner ul := by
  have hgones : ∀ c', (w.clients c').Gone → ((w.setClient c pc).clients c').Gone := by
    intro c' hc'
    by_cases hcc : c' = c
    · subst hcc
      rw [setClient_self]
      exact hgone hc'
    · rwa [setClient_ne _ _ hcc]
  refine ⟨h.lists, fun i hi => ?_, fun i hi => (h.pid i hi).imp_right (hgones _), h.sockets,
    h.files, fun c' id hid => ?_, h.locating, fun c' hc' => ?_, fun n hn => ?_, hloop hgones⟩
  · by_cases hic : owner i = c
    · rw [hic]
      exact hphase i hi hic
    · obtain ⟨haccepting, hacking⟩ := hother i hi hic
      exact (h.phase i hi).congr rfl rfl (.inl (setClient_ne _ _ hic)) haccepting hacking
  · by_cases hcc : c' = c
    · subst hcc
      have hid : ((w.setClient c' pc).clients c').Has id := hid
      rw [setClient_self] at hid
      exact h.given c' id (hhas id hid)
    · have hid : ((w.setClient c pc).clients c').Has id := hid
      rw [setClient_ne _ _ hcc] at hid
      exact h.given c' id hid
  · change (w.setClient c pc).clients c' = _ ∨ (w.setClient c pc).clients c' = _ ∨
      (w.setClient c pc).clients c' = _
    by_cases hcc : c' = c
    · subst hcc
      rw [setClient_self]
      exact hlocating hc'
    · rw [setClient_ne _ _ hcc]
      exact h.unlocated c' hc'
  · change (w.setClient c pc).clients n.sender = _ ∨ ((w.setClient c pc).clients n.sender).Gone
    by_cases hcc : n.sender = c
    · rw [hcc, setClient_self]
      exact hmailbox n hn hcc
    · rw [setClient_ne _ _ hcc]
      exact h.mailbox n hn

theorem setClient (h : w.Inv owner ul) {pc : ClientPc}
    (hphase : ∀ i ∈ ul, owner i = c → (w.setClient c pc).Phase i c)
    (hgone : (w.clients c).Gone → pc.Gone) (hhas : ∀ id, pc.Has id → (w.clients c).Has id)
    (hlocating : c ∈ w.locating → pc = .connected ∨ pc = .requested ∨ pc = .dead)
    (hmailbox : ∀ n, .notify n ∈ w.mailbox → n.sender = c →
      pc = .running (n.mboxId &&& ITC_COORD_MASK) ∨ pc.Gone) :
    (w.setClient c pc).Inv owner ul :=
  h.setClientAt (l := w.pc) hphase (fun _ _ _ => ⟨fun ha => ha, fun ha => ha⟩) hgone
    hhas hlocating hmailbox
    fun hgones => h.loop.congr rfl rfl hgones fun _ _ hfile => hfile

/-- A client that is not in a slot yet. -/
theorem not_owner (h : w.Inv owner ul) (hhas : ∀ id, ¬ (w.clients c).Has id)
    (hgone : ¬ (w.clients c).Gone) {i : Nat} (hi : i ∈ ul) : owner i ≠ c := by
  rintro rfl
  exact (h.phase i hi).client.elim (hhas _) hgone

/-- The slot of a client that has an id. -/
theorem slot_of (h : w.Inv owner ul) {id : MboxId} (hhas : (w.clients c).Has id) :
    ∃ i ∈ ul, id = slotId i ∧ owner i = c ∧ w.Phase i c := by
  obtain ⟨i, hi, hid, rfl⟩ := h.given c id hhas
  exact ⟨i, hi, hid, rfl, h.phase i hi⟩

/-- A client whose call does not concern its slot. -/
theorem setClient_unowned (h : w.Inv owner ul) {pc : ClientPc}
    (hhas : ∀ id, ¬ (w.clients c).Has id) (hgone : ¬ (w.clients c).Gone)
    (hpc : pc = .connected ∨ pc = .requested) : (w.setClient c pc).Inv owner ul := by
  have hnone : ∀ id, ¬ pc.Has id := by
    rintro id (hid | hid | hid | hid) <;> rcases hpc with rfl | rfl <;> cases hid
  refine h.setClient (fun i hi hic => absurd hic (h.not_owner hhas hgone hi))
    (fun hg => absurd hg hgone) (fun id hid => absurd hid (hnone id))
    (fun _ => hpc.imp_right .inl) fun n hn hnc => ?_
  rcases hnc ▸ h.mailbox n hn with hrun | hg
  · exact absurd (.inr (.inr (.inr hrun))) (hhas _)
  · exact absurd hg hgone

/-- A client whose connection is closed. -/
theorem setClient_gone (h : w.Inv owner ul) {pc : ClientPc} (hpc : pc.Gone)
    (hlocating : c ∈ w.locating → pc = .dead) : (w.setClient c pc).Inv owner ul := by
  have hnone : ∀ id, ¬ pc.Has id := by
    rintro id (hid | hid | hid | hid) <;> rcases hpc with rfl | rfl <;> cases hid
  refine h.setClient (fun i hi hic => ?_) (fun _ => hpc) (fun id hid => absurd hid (hnone id))
    (fun hc => .inr (.inr (hlocating hc))) fun _ _ _ => .inr hpc
  have hphase := h.phase i hi
  rw [hic] at hphase
  exact hphase.congr rfl rfl (.inr (by rwa [setClient_self])) id id

/-- A client that has been acked runs. -/
theorem setClient_running (h : w.Inv owner ul) {id : MboxId} (hc : w.clients c = .acked id) :
    (w.setClient c (.running id)).Inv owner ul := by
  have hgone : ¬ (w.clients c).Gone := by
    rw [hc]
    rintro (hg | hg) <;> cases hg
  have hid : ∀ {id' : MboxId}, (ClientPc.running id).Has id' → id' = id := by
    rintro id' (heq | heq | heq | heq) <;> cases heq
    rfl
  refine h.setClient (fun i hi hic => ?_) (fun hg => absurd hg hgone) (fun id' hid' => ?_)
    (fun hmem => ?_) fun n hn hnc => ?_
  · have hphase := h.phase i hi
    rw [hic] at hphase
    cases hphase with
    | listening _ _ _ hclient =>
      simp only [hc, ClientPc.Gone, reduceCtorEq, false_and, or_false] at hclient
    | accepted _ _ _ hclient =>
      simp only [hc, ClientPc.Gone, reduceCtorEq, or_false] at hclient
    | acked hstate hfile hloop hclient =>
      simp only [hc, ClientPc.Gone, reduceCtorEq, or_false, ClientPc.acked.injEq] at hclient
      subst hclient
      exact .acked hstate hfile hloop (.inr (.inl (setClient_self ..)))
    | connected hstate hfile hclient =>
      simp only [hc, ClientPc.Gone, reduceCtorEq, or_false, ClientPc.acked.injEq] at hclient
      subst hclient
      exact .connected hstate hfile (.inr (.inl (setClient_self ..)))
  · rw [hid hid', hc]
    exact .inr (.inr (.inl rfl))
  · have hpc := h.unlocated c hmem
    rw [hc] at hpc
    rcases hpc with heq | heq | heq <;> cases heq
  · rcases hnc ▸ h.mailbox n hn with hrun | hg
    · rw [hc] at hrun
      cases hrun
    · exact absurd hg hgone

/-- The socket that listens for a slot is that of a client that has its id. -/
theorem listener_slot (h : w.Inv owner ul) {id : MboxId} {fd : Int} {pending : List Nat}
    (hc : (w.clients c).Has id) (hfile : w.files fd = some (.listener id pending)) :
    ∃ i ∈ ul, w.sockfd i = fd ∧ id = slotId i ∧ owner i = c ∧
      (w.coord.processes i).state = .listening ∧ ∀ x ∈ pending, x = c := by
  obtain ⟨i, hi, rfl⟩ := h.files fd (by rw [hfile]; exact nofun)
  obtain ⟨j, hj, hid, rfl, -⟩ := h.slot_of hc
  obtain ⟨fl, hlists⟩ := h.lists
  cases h.phase i hi with
  | listening hstate hfile' honly =>
    rw [hfile, Option.some.injEq, SlotFile.listener.injEq] at hfile'
    obtain ⟨hslot, rfl⟩ := hfile'
    obtain rfl := slotId_inj (hlists.used_range hi) (hlists.used_range hj) (hslot.symm.trans hid)
    exact ⟨i, hi, rfl, hslot, rfl, hstate, honly⟩
  | accepted _ hfile' => rw [hfile] at hfile'; cases hfile'
  | acked _ hfile' => rw [hfile] at hfile'; cases hfile'
  | connected _ hfile' => rw [hfile] at hfile'; cases hfile'

/-- A client connects to the socket of its slot. -/
theorem connectSlot (h : w.Inv owner ul) {id : MboxId} {fd : Int} {pending : List Nat}
    (hc : w.clients c = .located id) (hfile : w.files fd = some (.listener id pending)) :
    ((w.setClient c (.connecting id)).setFile fd (some (.listener id (pending ++ [c])))).Inv
      owner ul := by
  obtain ⟨i, hi, rfl, rfl, rfl, hstate, honly⟩ :=
    h.listener_slot (by rw [hc]; exact .inl rfl) hfile
  obtain ⟨w', hw'⟩ : ∃ w', w' = (w.setClient (owner i) (.connecting (slotId i))).setFile
    (w.sockfd i) (some (.listener (slotId i) (pending ++ [owner i]))) := ⟨_, rfl⟩
  have hself : w'.clients (owner i) = .connecting (slotId i) := by
    rw [hw']
    exact setClient_self ..
  have hother : ∀ {c'}, c' ≠ owner i → w'.clients c' = w.clients c' := fun hne => by
    rw [hw']
    exact setClient_ne w _ hne
  have hfiles : ∀ {fd}, fd ≠ w.sockfd i → w'.files fd = w.files fd := fun hne => by
    rw [hw']
    exact Function.update_of_ne hne ..
  have hnot : ¬ (w.clients (owner i)).Gone := by
    rw [hc]
    rintro (hg | hg) <;> cases hg
  have hgones : ∀ c', (w.clients c').Gone → (w'.clients c').Gone := fun c' hg => by
    rwa [hother fun heq => hnot (heq ▸ hg)]
  rw [← hw']
  subst hw'
  refine ⟨h.lists, fun j hj => ?_, fun j hj => (h.pid j hj).imp_right (hgones _), h.sockets,
    fun fd hfd => ?_, fun c' id' hid' => ?_, h.locating, fun c' hc' => ?_, fun n hn => ?_,
    h.loop.congr rfl rfl hgones fun fd c' hcon => ?_⟩
  · by_cases hji : j = i
    · subst hji
      refine .listening hstate (Function.update_self ..) (fun x hx => ?_)
        (.inr (.inl ⟨hself, List.mem_append_right _ List.mem_cons_self⟩))
      rcases List.mem_append.mp hx with hx | hx
      · exact honly x hx
      · exact List.mem_singleton.mp hx
    · have hne : owner j ≠ owner i := by
        intro heq
        obtain ⟨fl, hlists⟩ := h.lists
        have hclient := (h.phase j hj).client
        rw [heq, hc] at hclient
        rcases hclient with (hid | hid | hid | hid) | hg | hg
        · exact hji (slotId_inj (hlists.used_range hj) (hlists.used_range hi)
            (ClientPc.located.inj hid).symm)
        all_goals cases ‹_›
      exact (h.phase j hj).congr rfl (hfiles fun heq => hji (h.sockets j hj i hi heq))
        (.inl (hother hne)) (fun ha => ha) fun ha => ha
  · by_cases heq : fd = w.sockfd i
    · exact ⟨i, hi, heq.symm⟩
    · rw [hfiles heq] at hfd
      exact h.files fd hfd
  · by_cases hcc : c' = owner i
    · rw [hcc, hself] at hid'
      rcases hid' with heq | heq | heq | heq
      · cases heq
      · exact ⟨i, hi, (ClientPc.connecting.inj heq).symm, hcc.symm⟩
      · cases heq
      · cases heq
    · rw [hother hcc] at hid'
      exact h.given c' id' hid'
  · have hpc := h.unlocated c' hc'
    by_cases hcc : c' = owner i
    · rw [hcc, hc] at hpc
      rcases hpc with heq | heq | heq <;> cases heq
    · rwa [hother hcc]
  · have hpc := h.mailbox n hn
    by_cases hcc : n.sender = owner i
    · rw [hcc, hc] at hpc
      rcases hpc with heq | heq | heq <;> cases heq
    · rwa [hother hcc]
  · have hne : fd ≠ w.sockfd i := by
      rintro rfl
      rw [hfile] at hcon
      cases hcon
    exact (hfiles hne).trans hcon

/-- The coordinator drops no client that waits for its ack. -/
theorem not_dropped (h : w.Inv owner ul) {id : MboxId} (hc : w.clients c = .connecting id) :
    ¬ w.Dropped c := by
  intro hdropped
  have hhas : (w.clients c).Has id := by
    rw [hc]
    exact .inr (.inl rfl)
  obtain ⟨i, -, -, -, hphase⟩ := h.slot_of hhas
  cases hphase with
  | listening _ hfile _ hclient =>
    simp only [hc, ClientPc.Gone, reduceCtorEq, false_and, false_or, or_false] at hclient
    exact (hdropped _).2 _ _ hfile hclient.2
  | accepted _ hfile => exact (hdropped _).1 hfile
  | acked _ hfile => exact (hdropped _).1 hfile
  | connected _ hfile => exact (hdropped _).1 hfile

theorem addMailbox (h : w.Inv owner ul) {msg : CoordMsg}
    (hmsg : ∀ n, msg = .notify n →
      w.clients n.sender = .running (n.mboxId &&& ITC_COORD_MASK)) :
    ({ w with mailbox := w.mailbox ++ [msg] } : Handshake).Inv owner ul where
  lists := h.lists
  phase i hi := (h.phase i hi).congr rfl rfl (.inl rfl) (fun ha => ha) fun ha => ha
  pid := h.pid
  sockets := h.sockets
  files := h.files
  given := h.given
  locating := h.locating
  unlocated := h.unlocated
  mailbox n hn := by
    rcases List.mem_append.mp hn with hn | hn
    · exact h.mailbox n hn
    · exact .inl (hmsg n (List.mem_singleton.mp hn).symm)
  loop := h.loop.congr rfl rfl (fun _ hg => hg) fun _ _ hfile => hfile

/-- **A step of a client keeps the invariant.** -/
theorem clientStep (h : w.Inv owner ul) (hstep : ClientStep w c w') : w'.Inv owner ul := by
  have hnot : ∀ {pc : ClientPc}, w.clients c = pc → pc = .start ∨ pc = .connected →
      (∀ id, ¬ (w.clients c).Has id) ∧ ¬ (w.clients c).Gone := by
    rintro pc hc (rfl | rfl) <;> simp [hc, ClientPc.Has, ClientPc.Holds, ClientPc.Gone]
  cases hstep with
  | connect hc =>
    obtain ⟨hhas, hgone⟩ := hnot hc (.inl rfl)
    have hnew := h.setClient_unowned hhas hgone (.inl rfl)
    have hmem : c ∉ w.locating := fun hmem => by
      have hpc := h.unlocated c hmem
      rw [hc] at hpc
      rcases hpc with heq | heq | heq <;> cases heq
    refine ⟨hnew.lists, fun i hi => (hnew.phase i hi).congr rfl rfl (.inl rfl) (fun ha => ha)
      fun ha => ha, hnew.pid, hnew.sockets, hnew.files, hnew.given, ?_, fun c' hc' => ?_,
      hnew.mailbox, hnew.loop.congr rfl rfl (fun _ hg => hg) fun _ _ hfile => hfile⟩
    · rw [List.nodup_append]
      refine ⟨h.locating, List.nodup_singleton c, ?_⟩
      rintro a ha b hb rfl
      exact hmem (List.mem_singleton.mp hb ▸ ha)
    · rcases List.mem_append.mp hc' with hc' | hc'
      · exact hnew.unlocated c' hc'
      · exact .inl (by rw [List.mem_singleton.mp hc', setClient_self])
  | request hc =>
    obtain ⟨hhas, hgone⟩ := hnot hc (.inr rfl)
    exact h.setClient_unowned hhas hgone (.inr rfl)
  | connectSlot hc hfile => exact h.connectSlot hc hfile
  | ack hc => exact h.setClient_running hc
  | eof hc hdropped _ => exact absurd hdropped (h.not_dropped hc)
  | notify hc hown =>
    refine h.addMailbox fun n hn => ?_
    obtain rfl := CoordMsg.notify.inj hn
    rw [hc, hown]
  | send hc => exact h.addMailbox fun n hn => by cases hn
  | exit hc =>
    refine h.setClient_gone (.inl rfl) fun hmem => ?_
    have hpc := h.unlocated c hmem
    rcases hc with hc | hc | hc <;> rw [hc] at hpc <;> rcases hpc with heq | heq | heq <;> cases heq
  | die => exact h.setClient_gone (.inr rfl) fun _ => rfl

/-! ### Steps of the loop -/

/-- The slot of a client that is gone is disconnected. -/
theorem disconnected (h : w.Inv owner ul) (hi : i ∈ ul) (hgone : (w.clients (owner i)).Gone)
    (haccepting : ∀ j, j ≠ i → ¬ w.pc.Accepting j) (hacking : ∀ j, j ≠ i → ¬ w.pc.Acking j)
    {fuel : Nat} {sys : DisconnectSys} {closed : Bool} {coord : CoordSlots}
    (call : disconnectSlot fuel sys w.coord i = .ok (some (closed, coord))) {pc : LoopPc}
    (hloop : (w.disconnected i coord pc).LoopOk owner (ul.erase i)) :
    (w.disconnected i coord pc).Inv owner (ul.erase i) := by
  obtain ⟨fl, hlists⟩ := h.lists
  obtain ⟨hlists', hframe⟩ := hlists.disconnected hi call
  have hnd := (List.nodup_append.mp hlists.nodup).2.1
  have hmem : ∀ {j}, j ∈ ul.erase i ↔ j ≠ i ∧ j ∈ ul := hnd.mem_erase_iff
  have hsockfd : ∀ {j}, j ≠ i → (w.disconnected i coord pc).sockfd j = w.sockfd j := fun hj => by
    rw [sockfd, sockfd]
    exact congrArg ProcSlot.sockfd (hframe _ hj)
  have hfile : ∀ {fd : Int}, fd ≠ w.sockfd i → (w.disconnected i coord pc).files fd = w.files fd :=
    fun hfd => Function.update_of_ne hfd ..
  refine ⟨hlists', fun j hj => ?_, fun j hj => ?_, fun j hj k hk heq => ?_, fun fd hfd => ?_,
    fun c id hid => ?_, h.locating, h.unlocated, h.mailbox, hloop⟩
  · obtain ⟨hji, hj⟩ := hmem.mp hj
    exact (h.phase j hj).congr (hframe j hji) (hfile fun heq => hji (h.sockets j hj i hi heq))
      (.inl rfl) (fun ha => absurd ha (haccepting j hji)) fun ha => absurd ha (hacking j hji)
  · obtain ⟨hji, hj⟩ := hmem.mp hj
    have hpid : ((w.disconnected i coord pc).coord.processes j).pid =
      (w.coord.processes j).pid := congrArg ProcSlot.pid (hframe j hji)
    rw [hpid]
    exact h.pid j hj
  · obtain ⟨hji, hj⟩ := hmem.mp hj
    obtain ⟨hki, hk⟩ := hmem.mp hk
    rw [hsockfd hji, hsockfd hki] at heq
    exact h.sockets j hj k hk heq
  · have hne : fd ≠ w.sockfd i := by
      rintro rfl
      exact hfd (Function.update_self ..)
    rw [hfile hne] at hfd
    obtain ⟨j, hj, hjfd⟩ := h.files fd hfd
    have hji : j ≠ i := by
      rintro rfl
      exact hne hjfd.symm
    exact ⟨j, hmem.mpr ⟨hji, hj⟩, (hsockfd hji).trans hjfd⟩
  · obtain ⟨j, hj, hjid, hjc⟩ := h.given c id hid
    refine ⟨j, hmem.mpr ⟨?_, hj⟩, hjid, hjc⟩
    rintro rfl
    have hid : (w.clients c).Has id := hid
    rw [hjc] at hgone
    rcases hgone with hg | hg <;> rw [hg] at hid <;> rcases hid with heq | heq | heq | heq <;> cases heq

/-- The loop goes on behind the slot that was disconnected. -/
theorem disconnected_scan (h : w.Inv owner ul) {pass : Pass} {rest rest' : List Nat}
    (hvisits : w.Visits owner ul pass (i :: rest)) (hrest : rest'.Sublist rest) {fuel : Nat}
    {sys : DisconnectSys} {closed : Bool} {coord : CoordSlots}
    (call : disconnectSlot fuel sys w.coord i = .ok (some (closed, coord))) :
    (w.disconnected i coord (.scan pass rest')).LoopOk owner (ul.erase i) := by
  obtain ⟨fl, hlists⟩ := h.lists
  have hi := hvisits.used i List.mem_cons_self
  obtain ⟨-, hframe⟩ := hlists.disconnected hi call
  have hnd := (List.nodup_append.mp hlists.nodup).2.1
  have hni : ∀ j ∈ rest', j ≠ i := by
    rintro j hj rfl
    exact (List.nodup_cons.mp hvisits.nodup).1 (hrest.subset hj)
  have hbehind := hvisits.sublist (hrest.trans (List.sublist_cons_self i rest))
  exact hbehind.congr (fun j hj => hnd.mem_erase_iff.mpr ⟨hni j hj, hbehind.used j hj⟩)
    (fun _ _ => rfl) (fun j hj => hframe j (hni j hj)) fun _ hg => hg

/-- One slot is written and the loop goes on; the other slots keep their phases. -/
theorem setSlot (h : w.Inv owner ul) (hi : i ∈ ul) {coord : CoordSlots} {fl : List Nat}
    (hlists : SlotLists coord fl ul) (hframe : ∀ j, j ≠ i → coord.processes j = w.coord.processes j)
    (hpid : (coord.processes i).pid = (w.coord.processes i).pid)
    {files : Int → Option SlotFile} {pc : LoopPc}
    (hphase : ({ w with coord, files, pc } : Handshake).Phase i (owner i))
    (hfiles : ∀ fd, fd ≠ w.sockfd i → fd ≠ (coord.processes i).sockfd → files fd = w.files fd)
    (hfresh : (coord.processes i).sockfd = w.sockfd i ∨
      w.files (coord.processes i).sockfd = none ∧ files (w.sockfd i) = none)
    (haccepting : ∀ j, j ≠ i → ¬ w.pc.Accepting j) (hacking : ∀ j, j ≠ i → ¬ w.pc.Acking j)
    (hloop : ({ w with coord, files, pc } : Handshake).LoopOk owner ul) :
    ({ w with coord, files, pc } : Handshake).Inv owner ul := by
  obtain ⟨w', hw'⟩ : ∃ w', w' = ({ w with coord, files, pc } : Handshake) := ⟨_, rfl⟩
  have hself : w'.sockfd i = (coord.processes i).sockfd := by rw [hw']; rfl
  have hsockfd : ∀ {j}, j ≠ i → w'.sockfd j = w.sockfd j := fun hj => by
    rw [hw']
    exact congrArg ProcSlot.sockfd (hframe _ hj)
  have hne : ∀ {j}, j ∈ ul → j ≠ i → w.sockfd j ≠ w.sockfd i ∧ w.sockfd j ≠ w'.sockfd i := by
    intro j hj hji
    have hold : w.sockfd j ≠ w.sockfd i := fun heq => hji (h.sockets j hj i hi heq)
    refine ⟨hold, fun heq => ?_⟩
    rcases hfresh with hsame | ⟨hnone, -⟩
    · exact hold (heq.trans (hself.trans hsame))
    · exact (h.phase j hj).file (by rw [heq, hself, hnone])
  rw [← hw'] at hphase hloop ⊢
  subst hw'
  refine ⟨⟨fl, hlists⟩, fun j hj => ?_, fun j hj => ?_, fun j hj k hk heq => ?_, fun fd hfd => ?_,
    h.given, h.locating, h.unlocated, h.mailbox, hloop⟩
  · by_cases hji : j = i
    · subst hji
      exact hphase
    · obtain ⟨hold, hnew⟩ := hne hj hji
      exact (h.phase j hj).congr (hframe j hji) (hfiles _ hold (hself ▸ hnew)) (.inl rfl)
        (fun ha => absurd ha (haccepting j hji)) fun ha => absurd ha (hacking j hji)
  · by_cases hji : j = i
    · subst hji
      exact (h.pid j hj).imp_left hpid.trans
    · exact (h.pid j hj).imp_left (congrArg ProcSlot.pid (hframe j hji)).trans
  · by_cases hji : j = i
    · by_cases hki : k = i
      · rw [hji, hki]
      · rw [hsockfd hki, hji] at heq
        exact absurd heq.symm (hne hk hki).2
    · by_cases hki : k = i
      · rw [hsockfd hji, hki] at heq
        exact absurd heq (hne hj hji).2
      · rw [hsockfd hji, hsockfd hki] at heq
        exact h.sockets j hj k hk heq
  · by_cases hnew : fd = (coord.processes i).sockfd
    · exact ⟨i, hi, hnew.symm⟩
    · by_cases hold : fd = w.sockfd i
      · rcases hfresh with hsame | ⟨-, hnone⟩
        · exact absurd (hold.trans hsame.symm) hnew
        · exact absurd (hold ▸ hnone) hfd
      · have heq := hfiles fd hold hnew
        have hfd' : files fd ≠ none := hfd
        rw [heq] at hfd'
        obtain ⟨j, hj, rfl⟩ := h.files fd hfd'
        have hji : j ≠ i := by
          rintro rfl
          exact hold rfl
        exact ⟨j, hj, hsockfd hji⟩

/-- The process that waits to be accepted is the one that the slot was given to. -/
theorem accept (h : w.Inv owner ul) {pass : Pass} {rest pending : List Nat} {id : MboxId}
    {tmpSd : Int} (hpc : w.pc = .scan pass (i :: rest))
    (hstate : (w.coord.processes i).state = .listening)
    (hfile : w.files (w.sockfd i) = some (.listener id (c :: pending)))
    (hfresh : w.files tmpSd = none) :
    ({ (w.setFile (w.sockfd i) none).setFile tmpSd (some (.connection c)) with
      coord := w.coord.accept i tmpSd, pc := .accepted pass rest i } : Handshake).Inv owner ul := by
  obtain ⟨fl, hlists⟩ := h.lists
  have hvisits : w.Visits owner ul pass (i :: rest) := by
    have hloop := h.loop
    rwa [LoopOk, hpc] at hloop
  have hi := hvisits.used i List.mem_cons_self
  have hslot : (w.coord.accept i tmpSd).processes i =
    { w.coord.processes i with sockfd := tmpSd } := CoordSlots.setProc_self ..
  have hframe : ∀ j, j ≠ i → (w.coord.accept i tmpSd).processes j = w.coord.processes j :=
    fun j hj => CoordSlots.setProc_ne _ _ hj
  have hne : w.sockfd i ≠ tmpSd := by
    rintro rfl
    rw [hfresh] at hfile
    cases hfile
  have hlists' : SlotLists (w.coord.accept i tmpSd) fl ul := hlists.setProc rfl
  refine h.setSlot hi hlists' hframe (by rw [hslot]) ?_ (fun fd hold hnew => ?_)
    (.inr ⟨by rw [hslot, hfresh], ?_⟩) (fun j _ => ?_) (fun j _ => ?_) ?_
  · cases h.phase i hi with
    | listening _ hfile' honly hclient =>
      obtain ⟨-, rfl⟩ := SlotFile.listener.inj (Option.some.inj (hfile.symm.trans hfile'))
      obtain rfl := honly c List.mem_cons_self
      have hnew : Function.update (Function.update w.files (w.sockfd i) none) tmpSd
          (some (.connection (owner i))) ((w.coord.accept i tmpSd).processes i).sockfd =
            some (.connection (owner i)) := by
        rw [hslot, Function.update_self]
      refine .accepted (by rw [hslot, hstate]) hnew ⟨pass, rest, rfl⟩ ?_
      · rcases hclient with ⟨-, hnil⟩ | ⟨hcon, -⟩ | hgone
        · cases hnil
        · exact .inl hcon
        · exact .inr hgone
    | accepted _ hfile' => rw [hfile] at hfile'; cases hfile'
    | acked _ hfile' => rw [hfile] at hfile'; cases hfile'
    | connected _ hfile' => rw [hfile] at hfile'; cases hfile'
  · rw [hslot] at hnew
    exact (Function.update_of_ne hnew ..).trans (Function.update_of_ne hold ..)
  · exact (Function.update_of_ne hne ..).trans (Function.update_self ..)
  · rw [hpc]
    rintro ⟨_, _, heq⟩
    cases heq
  · rw [hpc]
    rintro ⟨_, _, heq⟩
    cases heq
  · refine ⟨hvisits.nodup, hvisits.used, fun j hj hconnected hready => ?_⟩
    by_cases hji : j = i
    · subst hji
      rw [hslot, hstate] at hconnected
      cases hconnected
    · rw [hframe j hji] at hconnected
      rw [Ready, sockfd, hframe j hji] at hready
      exact hvisits.closed j hj hconnected hready

/-- The ack is sent. -/
theorem ack (h : w.Inv owner ul) {pass : Pass} {rest : List Nat}
    (hpc : w.pc = .accepted pass rest i)
    (hfile : w.files (w.sockfd i) = some (.connection c)) :
    ({ w.sendAck c with pc := .acked pass rest i } : Handshake).Inv owner ul := by
  have hvisits : w.Visits owner ul pass (i :: rest) := by
    have hloop := h.loop
    rwa [LoopOk, hpc] at hloop
  have hi := hvisits.used i List.mem_cons_self
  obtain rfl := (h.phase i hi).connection hfile
  obtain ⟨pc, hsend, hcase⟩ : ∃ pc, w.sendAck (owner i) = w.setClient (owner i) pc ∧
      ((∃ id, w.clients (owner i) = .connecting id ∧ pc = .acked id) ∨
        (∀ id, w.clients (owner i) ≠ .connecting id) ∧ pc = w.clients (owner i)) := by
    unfold sendAck
    split
    · rename_i id hc
      exact ⟨_, rfl, .inl ⟨id, hc, rfl⟩⟩
    · rename_i hc
      exact ⟨_, (setClient_same rfl).symm, .inr ⟨hc, rfl⟩⟩
  rw [hsend]
  have hacking : ∀ j, ¬ w.pc.Acking j := by
    rw [hpc]
    rintro j ⟨_, _, heq⟩
    cases heq
  refine h.setClientAt (fun j hj hji => ?_)
    (fun j hj hji => ⟨fun ha => ?_, fun ha => absurd ha (hacking j)⟩)
    (fun hg => ?_) (fun id hid => ?_) (fun hmem => ?_) (fun n hn hnc => ?_) fun hgones => ?_
  · have hself : (w.setClient (owner i) pc).clients (owner i) = pc := setClient_self ..
    rcases hcase with ⟨id, hc, rfl⟩ | ⟨hnot, rfl⟩
    · -- only the slot that is being connected has a client that gets the ack
      obtain ⟨fl, hlists⟩ := h.lists
      have hid : ∀ {k}, k ∈ ul → owner k = owner i → id = slotId k := by
        intro k hk hki
        have hclient := (h.phase k hk).client
        rw [hki, hc] at hclient
        simpa [ClientPc.Has, ClientPc.Holds, ClientPc.Gone] using hclient
      obtain rfl := slotId_inj (hlists.used_range hj) (hlists.used_range hi)
        ((hid hj hji).symm.trans (hid hi rfl))
      cases h.phase j hj with
      | listening _ hfile' => rw [hfile] at hfile'; cases hfile'
      | accepted hstate hfile' _ _ =>
        exact .acked hstate hfile' ⟨pass, rest, rfl⟩ (.inl (hself.trans (congrArg _ (hid hj rfl))))
      | acked _ _ hloop => exact absurd hloop (hacking j)
      | connected _ _ hclient =>
        simp only [hc, ClientPc.Gone, reduceCtorEq, or_false] at hclient
    · have hphase := h.phase j hj
      rw [hji] at hphase
      by_cases hne : j = i
      · subst hne
        cases hphase with
        | listening _ hfile' => rw [hfile] at hfile'; cases hfile'
        | accepted hstate hfile' _ hclient =>
          have hgone := hclient.resolve_left (hnot _)
          rw [← hself] at hgone
          exact .acked hstate hfile' ⟨pass, rest, rfl⟩ (.inr (.inr hgone))
        | acked _ _ hloop => exact absurd hloop (hacking j)
        | connected hstate hfile' hclient =>
          refine .connected hstate hfile' ?_
          change (w.setClient (owner j) _).clients (owner j) = _ ∨
            (w.setClient (owner j) _).clients (owner j) = _ ∨
            ((w.setClient (owner j) _).clients (owner j)).Gone
          rwa [hself]
      · refine hphase.congr rfl rfl (.inl hself) (fun ha => ?_) fun ha => absurd ha (hacking j)
        obtain ⟨_, _, heq⟩ := ha
        rw [hpc] at heq
        cases heq
        exact absurd rfl hne
  · obtain ⟨_, _, heq⟩ := ha
    rw [hpc] at heq
    cases heq
    exact absurd rfl hji
  · rcases hcase with ⟨id, hc, -⟩ | ⟨-, rfl⟩
    · rw [hc] at hg
      rcases hg with heq | heq <;> cases heq
    · exact hg
  · rcases hcase with ⟨id', hc, rfl⟩ | ⟨-, rfl⟩
    · rw [hc]
      rcases hid with heq | heq | heq | heq
      · cases heq
      · cases heq
      · exact .inr (.inl (congrArg _ (ClientPc.acked.inj heq)))
      · cases heq
    · exact hid
  · have hpcs := h.unlocated _ hmem
    rcases hcase with ⟨id', hc, rfl⟩ | ⟨-, rfl⟩
    · rw [hc] at hpcs
      rcases hpcs with heq | heq | heq <;> cases heq
    · exact hpcs
  · have hpcs := hnc ▸ h.mailbox n hn
    rcases hcase with ⟨id', hc, rfl⟩ | ⟨-, rfl⟩
    · rw [hc] at hpcs
      rcases hpcs with heq | heq | heq <;> cases heq
    · exact hpcs
  · have hcons := List.nodup_cons.mp hvisits.nodup
    have hbehind := hvisits.sublist (List.sublist_cons_self i rest)
    exact ⟨hbehind.congr hbehind.used (fun _ _ => rfl) (fun _ _ => rfl) hgones, hi, hcons.1,
      owner i, hfile⟩

/-- The slot is connected. -/
theorem connected (h : w.Inv owner ul) {pass : Pass} {rest : List Nat}
    (hpc : w.pc = .acked pass rest i) :
    ({ w with coord := w.coord.connect i, pc := .scan pass rest } : Handshake).Inv owner ul := by
  obtain ⟨fl, hlists⟩ := h.lists
  have hloop := h.loop
  rw [LoopOk, hpc] at hloop
  obtain ⟨hvisits, hi, hrest, c, hfile⟩ := hloop
  have hslot : (w.coord.connect i).processes i =
    { w.coord.processes i with state := .connected } := CoordSlots.setProc_self ..
  have hframe : ∀ j, j ≠ i → (w.coord.connect i).processes j = w.coord.processes j :=
    fun j hj => CoordSlots.setProc_ne _ _ hj
  have hsockfd : ((w.coord.connect i).processes i).sockfd = w.sockfd i := by rw [hslot]; rfl
  have hlists' : SlotLists (w.coord.connect i) fl ul := hlists.setProc rfl
  refine h.setSlot hi hlists' hframe (by rw [hslot]) ?_ (fun fd _ _ => rfl)
    (.inl hsockfd) (fun j _ => ?_) (fun j hj => ?_) ?_
  · have hconnected : ((w.coord.connect i).processes i).state = .connected := by rw [hslot]
    cases h.phase i hi with
    | listening _ hfile' => rw [hfile] at hfile'; cases hfile'
    | accepted _ _ hloop =>
      obtain ⟨_, _, heq⟩ := hloop
      rw [hpc] at heq
      cases heq
    | acked _ hfile' _ hclient =>
      exact .connected hconnected (by rw [sockfd, hsockfd]; exact hfile') hclient
    | connected _ hfile' hclient =>
      exact .connected hconnected (by rw [sockfd, hsockfd]; exact hfile') hclient
  · rw [hpc]
    rintro ⟨_, _, heq⟩
    cases heq
  · rw [hpc]
    rintro ⟨_, _, heq⟩
    cases heq
    exact hj rfl
  · have hne : ∀ j ∈ rest, j ≠ i := by
      rintro j hj rfl
      exact hrest hj
    exact hvisits.congr hvisits.used (fun _ _ => rfl) (fun j hj => hframe j (hne j hj))
      fun _ hg => hg

/-- A slot is given to a client that has none. -/
theorem give (h : w.Inv owner ul) {proc : Nat} {pass : Pass} {sockfd : Int} (hproc : proc ∉ ul)
    (hlists : ∃ fl, SlotLists w'.coord fl (ul ++ [proc]))
    (hstate : (w'.coord.processes proc).state = .listening) (hsockfd : w'.sockfd proc = sockfd)
    (hframe : ∀ j, j ≠ proc → w'.coord.processes j = w.coord.processes j)
    (hfresh : w.files sockfd = none)
    (hfiles : w'.files = Function.update w.files sockfd (some (.listener (slotId proc) [])))
    (hpids : w'.pids = w.pids)
    (hclient : w'.clients c = .located (slotId proc) ∧
        (w'.coord.processes proc).pid = w.pids c ∧ w.clients c = .requested ∨
      w'.clients c = .dead ∧ w.clients c = .dead)
    (hother : ∀ c', c' ≠ c → w'.clients c' = w.clients c') (hnodup : w'.locating.Nodup)
    (hlocating : ∀ c' ∈ w'.locating, c' ≠ c ∧ c' ∈ w.locating) (hmailbox : w'.mailbox = w.mailbox)
    (hpc : w.pc = .locate pass) (hpc' : w'.pc = .scan pass (ul ++ [proc])) :
    w'.Inv (Function.update owner proc c) (ul ++ [proc]) := by
  have hne : ∀ {j}, j ∈ ul → j ≠ proc := fun hj heq => hproc (heq ▸ hj)
  have hfd : ∀ {j}, j ∈ ul → w'.sockfd j = w.sockfd j ∧ w.sockfd j ≠ sockfd := by
    intro j hj
    refine ⟨congrArg ProcSlot.sockfd (hframe j (hne hj)), fun heq => ?_⟩
    exact (h.phase j hj).file (by rw [heq, hfresh])
  -- a client that has the slot already is dead, and stays so
  have hclients : ∀ {c'}, (w.clients c').Gone ∨ (∃ id, (w.clients c').Has id) →
      w'.clients c' = w.clients c' := by
    intro c' hc'
    by_cases hcc : c' = c
    · subst hcc
      rcases hclient with ⟨-, -, hr⟩ | ⟨hd, hr⟩
      · rw [hr] at hc'
        simp [ClientPc.Has, ClientPc.Holds, ClientPc.Gone] at hc'
      · rw [hd, hr]
    · exact hother c' hcc
  have howner : ∀ {j}, j ∈ ul → w'.clients (owner j) = w.clients (owner j) := fun hj =>
    hclients ((h.phase _ hj).client.symm.imp_right fun hhas => ⟨_, hhas⟩)
  refine ⟨hlists, fun j hj => ?_, fun j hj => ?_, fun j hj k hk heq => ?_,
    fun fd hfile => ?_, fun c' id hhas => ?_, hnodup, fun c' hc' => ?_, fun n hn => ?_, ?_⟩
  · rcases List.mem_append.mp hj with hj | hj
    · rw [Function.update_of_ne (hne hj)]
      have hquiet : ¬ w.pc.Accepting j ∧ ¬ w.pc.Acking j := by
        rw [hpc]
        constructor <;> rintro ⟨_, _, heq⟩ <;> cases heq
      exact (h.phase j hj).congr (hframe j (hne hj))
        (by rw [hfiles, Function.update_of_ne (hfd hj).2]) (.inl (howner hj))
        (fun ha => absurd ha hquiet.1) fun ha => absurd ha hquiet.2
    · obtain rfl := List.mem_singleton.mp hj
      rw [Function.update_self]
      refine .listening hstate (by rw [hfiles, hsockfd, Function.update_self])
        (fun x hx => absurd hx List.not_mem_nil) ?_
      rcases hclient with ⟨hloc, -⟩ | ⟨hd, -⟩
      · exact .inl ⟨hloc, rfl⟩
      · exact .inr (.inr (.inr hd))
  · rcases List.mem_append.mp hj with hj | hj
    · rw [Function.update_of_ne (hne hj), hframe j (hne hj), hpids, howner hj]
      exact h.pid j hj
    · obtain rfl := List.mem_singleton.mp hj
      rw [Function.update_self, hpids]
      rcases hclient with ⟨-, hpid, -⟩ | ⟨hd, -⟩
      · exact .inl hpid
      · exact .inr (.inr hd)
  · rcases List.mem_append.mp hj with hj | hj <;> rcases List.mem_append.mp hk with hk | hk
    · rw [(hfd hj).1, (hfd hk).1] at heq
      exact h.sockets j hj k hk heq
    · rw [List.mem_singleton.mp hk, hsockfd, (hfd hj).1] at heq
      exact absurd heq (hfd hj).2
    · rw [List.mem_singleton.mp hj, hsockfd, (hfd hk).1] at heq
      exact absurd heq.symm (hfd hk).2
    · rw [List.mem_singleton.mp hj, List.mem_singleton.mp hk]
  · by_cases heq : fd = sockfd
    · exact ⟨proc, List.mem_append_right _ List.mem_cons_self, hsockfd.trans heq.symm⟩
    · rw [hfiles, Function.update_of_ne heq] at hfile
      obtain ⟨j, hj, hjfd⟩ := h.files fd hfile
      exact ⟨j, List.mem_append_left _ hj, (hfd hj).1.trans hjfd⟩
  · by_cases hcc : c' = c
    · subst hcc
      rcases hclient with ⟨hloc, -⟩ | ⟨hd, -⟩
      · rw [hloc] at hhas
        refine ⟨proc, List.mem_append_right _ List.mem_cons_self, ?_, Function.update_self ..⟩
        simpa [ClientPc.Has, ClientPc.Holds, eq_comm] using hhas
      · rw [hd] at hhas
        simp [ClientPc.Has, ClientPc.Holds] at hhas
    · rw [hother c' hcc] at hhas
      obtain ⟨j, hj, hid, hjc⟩ := h.given c' id hhas
      exact ⟨j, List.mem_append_left _ hj, hid, (Function.update_of_ne (hne hj) ..).trans hjc⟩
  · obtain ⟨hcc, hmem⟩ := hlocating c' hc'
    rw [hother c' hcc]
    exact h.unlocated c' hmem
  · rw [hmailbox] at hn
    have hsender := h.mailbox n hn
    rw [hclients (hsender.symm.imp_right fun hrun => ⟨_, .inr (.inr (.inr hrun))⟩)]
    exact hsender
  · have hclosed : ∀ i ∈ ul, w.Closed owner pass i := by
      have hloop := h.loop
      rwa [LoopOk, hpc] at hloop
    obtain ⟨fl, hlists⟩ := hlists
    rw [LoopOk, hpc']
    refine ⟨(List.nodup_append.mp hlists.nodup).2.1, fun _ hj => hj, fun j hj hconn hready => ?_⟩
    rcases List.mem_append.mp hj with hj | hj
    · rw [hframe j (hne hj)] at hconn
      rw [Ready, (hfd hj).1] at hready
      rw [Function.update_of_ne (hne hj), howner hj]
      exact hclosed j hj hconn hready
    · rw [List.mem_singleton.mp hj, hstate] at hconn
      cases hconn

/-- **A slot is given to the process that is answered.** -/
theorem locate (h : w.Inv owner ul) {pass : Pass} {ul' rest : List Nat} {fuel proc : Nat}
    {sys : LocateSys} {coord : CoordSlots} {sockfd : Int} {rc : UInt32} {freeList : ItcQueue}
    (hpc : w.pc = .locate pass) (hpending : w.locating = c :: rest)
    (hsys : sys.AnswersFor (w.pids c) (w.clients c)) (hserved : sys.Served)
    (hsocket : sys.socket = some sockfd) (hfresh : w.files sockfd = none)
    (call : handleLocateCoordRequest fuel sys w.coord = .ok (some (true, coord)))
    (hproc : qDequeue w.coord.rc w.coord.freeList = .ok (rc, some proc, freeList))
    (hul : coord.usedList.Holds ul') :
    ((({ w with coord, locating := rest, pc := .scan pass ul' } : Handshake).setFile sockfd
      (some (.listener (coord.processes proc).mboxIdInItccoord []))).reply c
        (coord.processes proc).mboxIdInItccoord).Inv (Function.update owner proc c) ul' := by
  obtain ⟨fl, hlists⟩ := h.lists
  obtain ⟨pid, hcall, hrecv⟩ := handleLocateCoordRequest_served hserved call
  obtain ⟨hfree, ⟨fl', hlists'⟩, hslot, hframe⟩ := hlists.located hsocket hcall hproc
  obtain rfl := hlists'.used.unique hul
  have hproc_ul : proc ∉ ul := fun hmem =>
    (List.nodup_append.mp hlists.nodup).2.2 proc hfree proc hmem rfl
  have hid : (coord.processes proc).mboxIdInItccoord = slotId proc :=
    hlists'.id proc (hlists.range proc (List.mem_append_left _ hfree))
  have hnd := h.locating
  rw [hpending] at hnd
  obtain ⟨hc_rest, hnd⟩ := List.nodup_cons.mp hnd
  have hc := h.unlocated c (by rw [hpending]; exact List.mem_cons_self)
  -- the client has sent its request or is dead
  have hclient : (w.clients c = .requested ∧ pid = w.pids c) ∨ w.clients c = .dead := by
    obtain ⟨-, hanswer⟩ := hsys
    rcases hrecv with heq | heq
    · rw [heq] at hanswer
      exact hanswer.2.imp_left fun hr => ⟨hr, hanswer.1⟩
    · rw [heq] at hanswer
      exact .inr hanswer
  obtain ⟨w₂, hw₂⟩ : ∃ w₂, w₂ = ({ w with
    coord, locating := rest, pc := .scan pass (ul ++ [proc]) } : Handshake).setFile sockfd
      (some (.listener (slotId proc) [])) := ⟨_, rfl⟩
  obtain ⟨pc, hreply, hcase⟩ : ∃ pc, w₂.reply c (slotId proc) = w₂.setClient c pc ∧
      (w.clients c = .requested ∧ pc = .located (slotId proc) ∧ pid = w.pids c ∨
        w.clients c = .dead ∧ pc = .dead) := by
    have hsame : w₂.clients c = w.clients c := by rw [hw₂]; rfl
    unfold reply
    rcases hclient with ⟨hr, hpid⟩ | hr
    · rw [hsame, hr]
      exact ⟨_, rfl, .inl ⟨rfl, rfl, hpid⟩⟩
    · rw [hsame, hr]
      exact ⟨.dead, (setClient_same (hsame.trans hr)).symm, .inr ⟨rfl, rfl⟩⟩
  rw [hid, ← hw₂, hreply]
  subst hw₂
  refine h.give hproc_ul ⟨fl', hlists'⟩ ?_ ?_ hframe hfresh rfl rfl ?_
    (fun c' hcc => setClient_ne _ _ hcc) hnd (fun c' hc' => ⟨?_, ?_⟩) rfl hpc rfl
  · exact congrArg ProcSlot.state hslot
  · exact congrArg ProcSlot.sockfd hslot
  · rw [setClient_self]
    rcases hcase with ⟨hr, rfl, rfl⟩ | ⟨hr, rfl⟩
    · exact .inl ⟨rfl, congrArg ProcSlot.pid hslot, hr⟩
    · exact .inr ⟨rfl, hr⟩
  · rintro rfl
    exact hc_rest hc'
  · rw [hpending]
    exact List.mem_cons_of_mem _ hc'

theorem visits (h : w.Inv owner ul) {pass : Pass} {rest : List Nat} (hpc : w.pc = .scan pass rest) :
    w.Visits owner ul pass rest := by
  have hloop := h.loop
  rwa [LoopOk, hpc] at hloop

/-- A step that changes nothing but the place of the loop, and takes messages. -/
theorem moveTo (h : w.Inv owner ul) {mailbox : List CoordMsg} {pc : LoopPc}
    (haccepting : ∀ i, ¬ w.pc.Accepting i) (hacking : ∀ i, ¬ w.pc.Acking i)
    (hmailbox : ∀ m ∈ mailbox, m ∈ w.mailbox)
    (hloop : ({ w with mailbox, pc } : Handshake).LoopOk owner ul) :
    ({ w with mailbox, pc } : Handshake).Inv owner ul :=
  h.move haccepting hacking (List.Sublist.refl _) hmailbox hloop

/-- **A step of the loop keeps the invariant.** -/
theorem loopStep (h : w.Inv owner ul) {handled : Option Notification}
    (hstep : LoopStep w handled w') : ∃ owner' ul', w'.Inv owner' ul' := by
  have hquiet : ∀ {pc : LoopPc}, w.pc = pc →
      (∀ pass rest i, pc ≠ .accepted pass rest i) → (∀ pass rest i, pc ≠ .acked pass rest i) →
      (∀ i, ¬ w.pc.Accepting i) ∧ ∀ i, ¬ w.pc.Acking i := by
    rintro pc rfl ha hk
    exact ⟨fun i ⟨pass, rest, heq⟩ => ha pass rest i heq, fun i ⟨pass, rest, heq⟩ => hk pass rest i heq⟩
  obtain ⟨fl, hlists⟩ := h.lists
  cases hstep with
  | @select pass hpc hlocate hmbox hready =>
    obtain ⟨ha, hk⟩ := hquiet hpc nofun nofun
    refine ⟨owner, ul, h.moveTo ha hk (fun _ hm => hm) fun i hi hconn hr => ?_⟩
    have hreadable := hready _ hr.2
    cases h.phase i hi with
    | listening hstate => rw [hstate] at hconn; cases hconn
    | accepted hstate => rw [hstate] at hconn; cases hconn
    | acked hstate => rw [hstate] at hconn; cases hconn
    | connected _ hfile =>
      change w.Readable (w.sockfd i) at hreadable
      rwa [Readable, hfile] at hreadable
  | @locateNot pass ul' hpc hnot hul =>
    obtain ⟨ha, hk⟩ := hquiet hpc nofun nofun
    obtain rfl := hlists.used.unique hul
    have hloop := h.loop
    rw [LoopOk, hpc] at hloop
    have hnd := (List.nodup_append.mp hlists.nodup).2.1
    exact ⟨owner, ul, h.moveTo ha hk (fun _ hm => hm) ⟨hnd, fun _ hj => hj, hloop⟩⟩
  | @locateIgnored pass ul' rest c fuel sys coord hpc hpending hsys hserved call hul =>
    obtain ⟨ha, hk⟩ := hquiet hpc nofun nofun
    obtain rfl := handleLocateCoordRequest_ignored hserved call
    obtain rfl := hlists.used.unique hul
    have hloop := h.loop
    rw [LoopOk, hpc] at hloop
    have hnd := (List.nodup_append.mp hlists.nodup).2.1
    refine ⟨owner, ul, h.move ha hk ?_ (fun _ hm => hm) ⟨hnd, fun _ hj => hj, hloop⟩⟩
    rw [hpending]
    exact List.sublist_cons_self c rest
  | locate hpc hpending hsys hserved hsocket hfresh call hproc hul =>
    exact ⟨_, _, h.locate hpc hpending hsys hserved hsocket hfresh call hproc hul⟩
  | @notReady pass rest i hpc hready =>
    obtain ⟨ha, hk⟩ := hquiet hpc nofun nofun
    have hvisits := (h.visits hpc).sublist (List.sublist_cons_self i rest)
    exact ⟨owner, ul, h.moveTo ha hk (fun _ hm => hm) ⟨hvisits.nodup, hvisits.used, hvisits.closed⟩⟩
  | accept hpc hready hstate hfile hfresh => exact ⟨owner, ul, h.accept hpc hstate hfile hfresh⟩
  | @acceptAborted pass rest rest' pending i c fuel id sys coord hpc hready hstate hfile hgone haccept
      call hrest =>
    obtain ⟨ha, hk⟩ := hquiet hpc nofun nofun
    have hvisits := h.visits hpc
    have hi := hvisits.used i List.mem_cons_self
    obtain ⟨closed, hcall⟩ : ∃ closed, disconnectSlot fuel sys.disconnect w.coord i =
        .ok (some (closed, coord)) := by
      rw [connectToProcess, haccept] at call
      obtain ⟨o, hcall, call⟩ := bind_eq_ok call
      rcases o with _ | ⟨closed, coord'⟩
      · cases call
      · cases call
        exact ⟨closed, hcall⟩
    have howner : (w.clients (owner i)).Gone := by
      cases h.phase i hi with
      | listening _ hfile' honly =>
        obtain ⟨-, rfl⟩ := SlotFile.listener.inj (Option.some.inj (hfile.symm.trans hfile'))
        exact honly c List.mem_cons_self ▸ hgone
      | accepted _ hfile' => rw [hfile] at hfile'; cases hfile'
      | acked _ hfile' => rw [hfile] at hfile'; cases hfile'
      | connected _ hfile' => rw [hfile] at hfile'; cases hfile'
    exact ⟨owner, _, h.disconnected hi howner (fun j _ => ha j) (fun j _ => hk j) hcall
      (h.disconnected_scan hvisits hrest hcall)⟩
  | ack hpc hfile => exact ⟨owner, ul, h.ack hpc hfile⟩
  | @ackEpipe pass rest rest' i c fuel sys closed coord hpc hfile hgone call hrest =>
    have hvisits : w.Visits owner ul pass (i :: rest) := by
      have hloop := h.loop
      rwa [LoopOk, hpc] at hloop
    have hi := hvisits.used i List.mem_cons_self
    obtain rfl := (h.phase i hi).connection hfile
    refine ⟨owner, _, h.disconnected hi hgone (fun j hj => ?_) (fun j hj => ?_) call
      (h.disconnected_scan hvisits hrest call)⟩
    · rw [hpc]
      rintro ⟨_, _, heq⟩
      cases heq
      exact hj rfl
    · rw [hpc]
      rintro ⟨_, _, heq⟩
      cases heq
  | connected hpc => exact ⟨owner, ul, h.connected hpc⟩
  | @disconnect pass rest i fuel sys coord hpc hready hstate call =>
    obtain ⟨ha, hk⟩ := hquiet hpc nofun nofun
    have hvisits := h.visits hpc
    have hgone := hvisits.closed i List.mem_cons_self hstate hready
    exact ⟨owner, _, h.disconnected (hvisits.used i List.mem_cons_self) hgone (fun j _ => ha j)
      (fun j _ => hk j) call trivial⟩
  | @zombie pass rest i fuel sys closed coord hpc hready hstate hpid hesrch call =>
    obtain ⟨ha, hk⟩ := hquiet hpc nofun nofun
    have hi := (h.visits hpc).used i List.mem_cons_self
    have hgone : (w.clients (owner i)).Gone := by
      rcases h.pid i hi with heq | hg
      · rcases hesrch (owner i) heq.symm with hstart | hdead
        · have hclient := (h.phase i hi).client
          rw [hstart] at hclient
          simp [ClientPc.Has, ClientPc.Holds, ClientPc.Gone] at hclient
        · exact .inr hdead
      · exact hg
    exact ⟨owner, _, h.disconnected hi hgone (fun j _ => ha j) (fun j _ => hk j) call trivial⟩
  | scanned hpc =>
    obtain ⟨ha, hk⟩ := hquiet hpc nofun nofun
    exact ⟨owner, ul, h.moveTo ha hk (fun _ hm => hm) trivial⟩
  | requestNot hpc =>
    obtain ⟨ha, hk⟩ := hquiet hpc nofun nofun
    exact ⟨owner, ul, h.moveTo ha hk (fun _ hm => hm) trivial⟩
  | handle hpc hmsg =>
    obtain ⟨ha, hk⟩ := hquiet hpc nofun nofun
    exact ⟨owner, ul, h.moveTo ha hk (fun m hm => hmsg ▸ List.mem_cons_of_mem _ hm) trivial⟩
  | handleOther hpc hmsg =>
    obtain ⟨ha, hk⟩ := hquiet hpc nofun nofun
    exact ⟨owner, ul, h.moveTo ha hk (fun m hm => hmsg ▸ List.mem_cons_of_mem _ hm) trivial⟩
  | discard hpc hmsg =>
    obtain ⟨ha, hk⟩ := hquiet hpc nofun nofun
    refine ⟨owner, ul, h.moveTo ha hk (fun m hm => hmsg ▸ List.mem_cons_of_mem _ hm) ?_⟩
    rw [LoopOk, hpc]
    trivial
  | waited hpc =>
    obtain ⟨ha, hk⟩ := hquiet hpc nofun nofun
    exact ⟨owner, ul, h.moveTo ha hk (fun _ hm => hm) trivial⟩

theorem init {pid : Int} {coord : CoordSlots} (hinit : CoordSlots.init pid = .ok coord)
    (pids : Nat → Int) : (Handshake.init pids coord).Inv (fun _ => 0) [] := by
  obtain ⟨coord', hinit', hok⟩ := CoordSlots.init_ok pid
  obtain rfl := Except.ok.inj (hinit.symm.trans hinit')
  have hid : ∀ i ∈ slotRange, (coord.processes i).mboxIdInItccoord = slotId i := fun i hi => by
    rw [hok.states.id i hi, slotId]
  refine ⟨⟨slotRange, fun _ => hok.free, hok.used, hok.states.nodup, fun i hi => ?_, hid⟩,
    fun i hi => absurd hi List.not_mem_nil, fun i hi => absurd hi List.not_mem_nil,
    fun i hi => absurd hi List.not_mem_nil, fun fd hfd => absurd rfl hfd, fun c id hhas => ?_,
    List.nodup_nil, fun c hc => absurd hc List.not_mem_nil,
    fun n hn => absurd hn List.not_mem_nil, trivial⟩
  · rwa [List.append_nil] at hi
  · rcases hhas with heq | heq | heq | heq <;> cases heq

end Inv

end Handshake

/-- **The notification of a process that holds its connection finds the slot of the process
connected, with its pid**, in every run of the processes and the coordinator. -/
theorem handshake_agreement {pid : Int} {coord : CoordSlots}
    (hinit : CoordSlots.init pid = .ok coord) (pids : Nat → Int) {acts : List HandshakeAction}
    {w w' : Handshake} (hrun : Run HandshakeStep (.init pids coord) acts w) {n : Notification}
    (hhandle : HandshakeStep w (.loop (some n)) w') {id : MboxId}
    (hholds : (w.clients n.sender).Holds id) :
    ∃ i, findProcess n.mboxId = .ok (some i) ∧ (w.coord.processes i).state = .connected ∧
      (w.coord.processes i).pid = w.pids n.sender ∧
      (w.coord.processes i).mboxIdInItccoord = id := by
  obtain ⟨owner, ul, h⟩ := hrun.invariant (I := fun w => ∃ owner ul, w.Inv owner ul)
    (fun w act w' ⟨owner, ul, h⟩ hstep => by
      cases hstep with
      | client hstep => exact ⟨owner, ul, h.clientStep hstep⟩
      | loop hstep => exact h.loopStep hstep)
    ⟨_, _, Handshake.Inv.init hinit pids⟩
  cases hhandle with
  | loop hstep =>
    cases hstep with
    | handle hpc hmsg =>
      have hgone : ¬ (w.clients n.sender).Gone := by
        rintro (hg | hg) <;> rw [hg] at hholds <;> rcases hholds with heq | heq | heq <;> cases heq
      have hrunning := (h.mailbox n (by rw [hmsg]; exact List.mem_cons_self)).resolve_right hgone
      have hhas : (w.clients n.sender).Has (n.mboxId &&& ITC_COORD_MASK) := by
        rw [hrunning]
        exact .inr (.inr (.inr rfl))
      obtain ⟨i, hi, hid, howner, hphase⟩ := h.slot_of hhas
      obtain ⟨fl, hlists⟩ := h.lists
      have hrange := hlists.used_range hi
      have hlt : i < MAX_SUPPORTED_PROCESSES := by
        rw [slotRange, List.mem_range'_1] at hrange
        exact hrange.2
      have hfind : findProcess n.mboxId = .ok (some i) := by
        rw [findProcess, procOf_slotId hrange hid, if_neg (Nat.not_lt_of_gt hlt), if_pos hlt]
      have hsame : id = n.mboxId &&& ITC_COORD_MASK := by
        rw [hrunning] at hholds
        rcases hholds with heq | heq | heq
        · cases heq
        · cases heq
        · exact (ClientPc.running.inj heq).symm
      refine ⟨i, hfind, ?_, ?_, by rw [hlists.id i hrange, hsame, hid]⟩
      · cases hphase with
        | listening _ _ _ hclient =>
          simp only [hrunning, ClientPc.Gone, reduceCtorEq, false_and, or_false] at hclient
        | accepted _ _ _ hclient =>
          simp only [hrunning, ClientPc.Gone, reduceCtorEq, or_false] at hclient
        | acked _ _ hloop =>
          obtain ⟨_, _, heq⟩ := hloop
          rw [hpc] at heq
          cases heq
        | connected hstate => exact hstate
      · rw [← howner] at hgone ⊢
        exact (h.pid i hi).resolve_right hgone

/-- A process locates the coordinator, connects, and notifies it of its first mailbox. -/
theorem handshake_agreement_single :
    ∃ (coord : CoordSlots) (w : Handshake) (acts : List HandshakeAction) (i : Nat),
      acts.length = 21 ∧ Run HandshakeStep (.init (fun _ => 200) coord) acts w ∧
      findProcess 0x00200001 = .ok (some i) ∧ (w.coord.processes i).state = .connected ∧
      (w.coord.processes i).pid = 200 := by
  obtain ⟨s₀, hinit, hok⟩ := CoordSlots.init_ok 100
  have hlocate : (CoordSlots.init 100 >>= fun s =>
      handleLocateCoordRequest 0 (.smooth 5 6 200) s).map
        (Option.map fun r => (r.1, r.2.processes 2)) =
      .ok (some (true, ⟨0x00200000, 200, 6, .listening⟩)) := by decide +kernel
  have hdequeue : (CoordSlots.init 100 >>= fun s => qDequeue s.rc s.freeList).map (fun r => r.2.1) =
      .ok (some 2) := by decide +kernel
  rw [hinit] at hlocate hdequeue
  change (handleLocateCoordRequest 0 (.smooth 5 6 200) s₀).map _ = _ at hlocate
  change (qDequeue s₀.rc s₀.freeList).map _ = _ at hdequeue
  obtain ⟨⟨_, s₁⟩, hlocate, hanswer⟩ := answer_eq hlocate
  obtain ⟨rfl, hslot⟩ := Prod.mk.inj hanswer
  obtain ⟨⟨rc, tmp, freeList⟩, hdequeue, htmp⟩ : ∃ r, qDequeue s₀.rc s₀.freeList = .ok r ∧
      r.2.1 = some 2 := by
    cases hcall : qDequeue s₀.rc s₀.freeList with
    | error e => rw [hcall] at hdequeue; cases hdequeue
    | ok r => rw [hcall] at hdequeue; exact ⟨r, rfl, Except.ok.inj hdequeue⟩
  obtain rfl : tmp = some 2 := htmp
  obtain ⟨fl, hlists⟩ := (Handshake.Inv.init hinit fun _ => 200).lists
  have hsocket : (LocateSys.smooth 5 6 200).socket = some 6 := rfl
  have hcall : locateSlot 0 (.smooth 5 6 200) s₀ 200 = .ok (some (true, s₁)) := hlocate
  obtain ⟨-, ⟨fl', hlists'⟩, -⟩ := hlists.located hsocket hcall hdequeue
  have hul : s₁.usedList.Holds [2] := hlists'.used
  have hid : (s₁.processes 2).mboxIdInItccoord = 0x00200000 := by rw [hslot]
  let pass₁ : Pass := ⟨true, false, []⟩
  let pass₂ : Pass := ⟨false, false, [6]⟩
  let pass₃ : Pass := ⟨false, true, []⟩
  let n : Notification := ⟨0, .addMbox, 0x00200001, .empty⟩
  -- the process locates the coordinator
  let w₀ : Handshake := .init (fun _ => 200) s₀
  let w₁ : Handshake := { w₀.setClient 0 .connected with locating := w₀.locating ++ [0] }
  let w₂ : Handshake := w₁.setClient 0 .requested
  let w₃ : Handshake := { w₂ with pc := .locate pass₁ }
  let w₄ : Handshake := ({ w₃ with coord := s₁, locating := [], pc := .scan pass₁ [2] }.setFile 6
    (some (.listener (s₁.processes 2).mboxIdInItccoord []))).reply 0
      (s₁.processes 2).mboxIdInItccoord
  let w₅ : Handshake := { w₄ with pc := .scan pass₁ [] }
  let w₆ : Handshake := { w₅ with pc := .request false }
  let w₇ : Handshake := { w₆ with pc := .select }
  -- it connects to its slot
  let w₈ : Handshake := (w₇.setClient 0 (.connecting (s₁.processes 2).mboxIdInItccoord)).setFile 6
    (some (.listener (s₁.processes 2).mboxIdInItccoord ([] ++ [0])))
  let w₉ : Handshake := { w₈ with pc := .locate pass₂ }
  let w₁₀ : Handshake := { w₉ with pc := .scan pass₂ [2] }
  let w₁₁ : Handshake := { (w₁₀.setFile (w₁₀.sockfd 2) none).setFile 7 (some (.connection 0)) with
    coord := s₁.accept 2 7, pc := .accepted pass₂ [] 2 }
  let w₁₂ : Handshake := { w₁₁.sendAck 0 with pc := .acked pass₂ [] 2 }
  let w₁₃ : Handshake := { w₁₂ with coord := (s₁.accept 2 7).connect 2, pc := .scan pass₂ [] }
  let w₁₄ : Handshake := { w₁₃ with pc := .request false }
  let w₁₅ : Handshake := { w₁₄ with pc := .select }
  -- it runs, and notifies
  let w₁₆ : Handshake := w₁₅.setClient 0 (.running (s₁.processes 2).mboxIdInItccoord)
  let w₁₇ : Handshake := { w₁₆ with mailbox := w₁₆.mailbox ++ [.notify n] }
  let w₁₈ : Handshake := { w₁₇ with pc := .locate pass₃ }
  let w₁₉ : Handshake := { w₁₈ with pc := .scan pass₃ [2] }
  let w₂₀ : Handshake := { w₁₉ with pc := .scan pass₃ [] }
  let w₂₁ : Handshake := { w₂₀ with pc := .request true }
  let w₂₂ : Handshake := { w₂₁ with mailbox := [], pc := .select }
  have hsockfd : w₁₀.sockfd 2 = 6 := by
    change (s₁.processes 2).sockfd = 6
    rw [hslot]
  have h₁ : HandshakeStep w₀ (.client 0) w₁ := .client (.connect rfl)
  have h₂ : HandshakeStep w₁ (.client 0) w₂ := .client (.request rfl)
  have h₃ : HandshakeStep w₂ (.loop none) w₃ :=
    .loop (.select rfl (fun _ => List.cons_ne_nil _ _) nofun nofun)
  have hsys : (LocateSys.smooth 5 6 200).AnswersFor (w₃.pids 0) (w₃.clients 0) :=
    ⟨nofun, rfl, .inl rfl⟩
  have hserved : (LocateSys.smooth 5 6 200).Served := ⟨nofun, nofun⟩
  have h₄ : HandshakeStep w₃ (.loop none) w₄ :=
    .loop (.locate rfl rfl hsys hserved rfl rfl hlocate hdequeue hul)
  have h₅ : HandshakeStep w₄ (.loop none) w₅ :=
    .loop (.notReady rfl fun h => absurd h.2 List.not_mem_nil)
  have hpc₅ : w₅.pc = .scan pass₁ [] := rfl
  have h₆ : HandshakeStep w₅ (.loop none) w₆ := .loop (.scanned hpc₅)
  have h₇ : HandshakeStep w₆ (.loop none) w₇ := .loop (.requestNot rfl)
  have h₈ : HandshakeStep w₇ (.client 0) w₈ := .client (.connectSlot rfl rfl)
  have h₉ : HandshakeStep w₈ (.loop none) w₉ := .loop (.select rfl nofun nofun fun fd hfd => by
    rw [List.mem_singleton.mp hfd]
    exact List.cons_ne_nil _ _)
  have h₁₀ : HandshakeStep w₉ (.loop none) w₁₀ := .loop (.locateNot rfl rfl hul)
  have h₁₁ : HandshakeStep w₁₀ (.loop none) w₁₁ := by
    have hready : w₁₀.Ready pass₂ 2 := by
      rw [Handshake.Ready, hsockfd]
      exact ⟨by decide, List.mem_cons_self⟩
    have hlistening : (s₁.processes 2).state = .listening := by rw [hslot]
    have hpending : w₁₀.files (w₁₀.sockfd 2) =
        some (.listener (s₁.processes 2).mboxIdInItccoord [0]) := by
      rw [hsockfd]
      rfl
    exact .loop (.accept rfl hready hlistening hpending rfl)
  have hnewfd : w₁₁.sockfd 2 = 7 := congrArg ProcSlot.sockfd (CoordSlots.setProc_self ..)
  have h₁₂ : HandshakeStep w₁₁ (.loop none) w₁₂ := by
    have hconnection : w₁₁.files (w₁₁.sockfd 2) = some (.connection 0) := by
      rw [hnewfd]
      rfl
    exact .loop (.ack rfl hconnection)
  have h₁₃ : HandshakeStep w₁₂ (.loop none) w₁₃ := .loop (.connected rfl)
  have hpc₁₃ : w₁₃.pc = .scan pass₂ [] := rfl
  have h₁₄ : HandshakeStep w₁₃ (.loop none) w₁₄ := .loop (.scanned hpc₁₃)
  have h₁₅ : HandshakeStep w₁₄ (.loop none) w₁₅ := .loop (.requestNot rfl)
  have h₁₆ : HandshakeStep w₁₅ (.client 0) w₁₆ := .client (.ack rfl)
  have h₁₇ : HandshakeStep w₁₆ (.client 0) w₁₇ := .client (.notify rfl (by rw [hid]; decide))
  have h₁₈ : HandshakeStep w₁₇ (.loop none) w₁₈ :=
    .loop (.select rfl nofun (fun _ => List.cons_ne_nil _ _) fun fd hfd =>
      absurd hfd List.not_mem_nil)
  have h₁₉ : HandshakeStep w₁₈ (.loop none) w₁₉ := .loop (.locateNot rfl rfl hul)
  have h₂₀ : HandshakeStep w₁₉ (.loop none) w₂₀ :=
    .loop (.notReady rfl fun h => absurd h.2 List.not_mem_nil)
  have hpc₂₀ : w₂₀.pc = .scan pass₃ [] := rfl
  have h₂₁ : HandshakeStep w₂₀ (.loop none) w₂₁ := .loop (.scanned hpc₂₀)
  have h₂₂ : HandshakeStep w₂₁ (.loop (some n)) w₂₂ := .loop (.handle rfl rfl)
  have hrun := Run.cons h₁ <| .cons h₂ <| .cons h₃ <| .cons h₄ <| .cons h₅ <| .cons h₆ <|
    .cons h₇ <| .cons h₈ <| .cons h₉ <| .cons h₁₀ <| .cons h₁₁ <| .cons h₁₂ <| .cons h₁₃ <|
    .cons h₁₄ <| .cons h₁₅ <| .cons h₁₆ <| .cons h₁₇ <| .cons h₁₈ <| .cons h₁₉ <| .cons h₂₀ <|
    .cons h₂₁ (.nil _)
  have hholds : (w₂₁.clients 0).Holds (s₁.processes 2).mboxIdInItccoord := .inr (.inr rfl)
  obtain ⟨i, hfind, hstate, hpid, -⟩ := handshake_agreement hinit (fun _ => 200) hrun h₂₂ hholds
  exact ⟨s₀, w₂₁, _, i, rfl, hrun, hfind, hstate, hpid⟩

end ItcFramework
