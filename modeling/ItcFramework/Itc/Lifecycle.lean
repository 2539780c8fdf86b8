import ItcFramework.Itc.Slots
import ItcFramework.Lib.Pointer

/-!
# The lives of a process

Embedding of `itc_init_zz`, `itc_exit_zz` and `release_all_itc_resources`, with what the
transports and the thread manager do for them, over the variables that survive from one life of
a process to the next: the pointers into the heap, which `free` leaves dangling, the thread-local
`rc` and `my_threadlocal_mbox`, the flags of the transports and the list of threads.

* `ItcGlobals` — those variables. The messages and the sends to itccoord, which change none of
  them, are left to the model of the calls.
* `ItcGlobals.itcInit`, `ItcGlobals.itcExit` — the two calls.
* `ItcGlobals.itcCreate`, `ItcGlobals.itcDelete`, `ItcGlobals.apiCall` — the other calls, as far
  as they touch the variables.
* `ItcGlobals.fork` — the child.

What the system answers a call is part of its arguments. A thread that fails before it has
released `thread_mtx` never lets `itc_init_zz` return, and is no call here.
-/

set_option autoImplicit false

namespace ItcFramework

open ByteImage

/-! ## The variables -/

/-- `local_locating_mbox_tree` by the names in it; an empty tree is a `NULL` root. -/
inductive NameTree where
  | names (l : List CString)
  /-- `tdestroy` has freed the nodes under the root. -/
  | dangling
  deriving DecidableEq, Repr

namespace NameTree

/-- `insert_mbox_to_tree`; `mem` is what `malloc` answers in `tsearch`. -/
def insert (mem : Bool) (name : CString) : NameTree → Except MemFault NameTree
  | .names l => .ok (.names (if name ∈ l ∨ ¬ mem then l else name :: l))
  | .dangling => .error .useAfterFree

/-- `remove_mbox_from_tree` -/
def remove (name : CString) : NameTree → Except MemFault NameTree
  | .names l => .ok (.names (l.erase name))
  | .dangling => .error .useAfterFree

/-- `tdestroy`, which is not given the root to change. -/
def destroy : NameTree → Except MemFault NameTree
  | .names [] => .ok (.names [])
  | .names (_ :: _) => .ok .dangling
  | .dangling => .error .useAfterFree

end NameTree

/-- `struct itc_threads`; every one runs `sysvmq_rx_thread`. -/
structure ItcThread where
  isRunning : Bool
  /-- The thread is one of this process; a child has none of its parent's. -/
  alive : Bool
  /-- The thread's own `my_threadlocal_mbox`. -/
  mbox : Option Nat
  deriving DecidableEq, Repr

/-- What a pointer to an entry of `thread_list` leads to. -/
inductive ThreadList where
  | nil
  | cons (thr : ItcThread) (next : ThreadList)
  | dangling
  deriving DecidableEq, Repr

/-- In a child none of the threads is left. -/
def ThreadList.abandon : ThreadList → ThreadList
  | .nil => .nil
  | .cons thr next => .cons { thr with alive := false } next.abandon
  | .dangling => .dangling

/-- `struct lsock_instance` -/
structure LsockInstance where
  isCoordRunning : Bool
  isPathCreated : Bool
  /-- `sd` is the open socket to itccoord. -/
  sd : Bool
  deriving DecidableEq, Repr

/-- `struct sysvmq_instance`; `destructKey` tells whether the key of that name exists. -/
structure SysvmqLife where
  isInitialized : Bool
  destructKey : Bool
  deriving DecidableEq, Repr

/-- `struct itc_instance`, the instances of the transports and of the thread manager, and the
threads' `rc` and `my_threadlocal_mbox`. -/
structure ItcGlobals where
  /-- `getpid()` -/
  pid : Nat
  rc : Nat → Ptr Unit
  myThreadlocalMbox : Nat → Option Nat
  /-- `itc_inst.pid` -/
  instPid : Nat
  myMboxIdInItccoord : MboxId
  nrMboxes : Nat
  mboxes : Ptr (Nat → ItcMailbox)
  freeMboxesQueue : Ptr (List Nat)
  /-- `destruct_key` names a key that exists. -/
  destructKey : Bool
  localLocatingMboxTree : NameTree
  /-- `localmbx_data`: the slots that have an rx queue, `none` for `NULL`. -/
  localmbxData : Option (List Nat)
  lsockInst : LsockInstance
  sysvmqInst : SysvmqLife
  threadList : ThreadList

/-- What a call gives: that ITC is not initialised, or its own result, `true` for success. -/
inductive Answer where
  | notInit
  | returned (ok : Bool)
  deriving DecidableEq, Repr

/-- `ITC_NR_INTERNAL_USED_MBOXES` -/
def ITC_NR_INTERNAL_USED_MBOXES : Nat := 1

namespace ItcGlobals

/-- A process that has made no call. -/
def start (pid : Nat) : ItcGlobals where
  pid
  rc := fun _ => .null
  myThreadlocalMbox := fun _ => none
  instPid := 0
  myMboxIdInItccoord := 0
  nrMboxes := 0
  mboxes := .null
  freeMboxesQueue := .null
  destructKey := false
  localLocatingMboxTree := .names []
  localmbxData := none
  lsockInst := ⟨false, false, false⟩
  sysvmqInst := ⟨false, false⟩
  threadList := .nil

@[simps]
def setRc (s : ItcGlobals) (t : Nat) (p : Ptr Unit) : ItcGlobals :=
  { s with rc := fun u => if u = t then p else s.rc u }

@[simps]
def setThreadlocal (s : ItcGlobals) (t : Nat) (mbox : Option Nat) : ItcGlobals :=
  { s with myThreadlocalMbox := fun u => if u = t then mbox else s.myThreadlocalMbox u }

def setMbox (s : ItcGlobals) (mboxes : Nat → ItcMailbox) (i : Nat) (mbox : ItcMailbox) :
    ItcGlobals :=
  { s with mboxes := .live fun j => if j = i then mbox else mboxes j }

/-- A store to the mailbox in the slot `i`. -/
def updateMbox (s : ItcGlobals) (i : Nat) (f : ItcMailbox → ItcMailbox) :
    Except MemFault ItcGlobals := do
  let mboxes ← s.mboxes.read
  .ok (s.setMbox mboxes i (f (mboxes i)))

/-- The first lines of a call that uses `rc`; `none` when `malloc`, which answers `mem`, fails. -/
def ensureRc (s : ItcGlobals) (t : Nat) (mem : Bool) : Except MemFault (Option ItcGlobals) :=
  match s.rc t with
  | .null => .ok (if mem then some (s.setRc t (.live ())) else none)
  | .live _ => .ok (some s)
  -- `rc->flags = ITC_OK`
  | .dangling => .error .useAfterFree

/-! ## Mailboxes -/

/-- A mailbox after the `memset` in `itc_init_zz`. -/
def zeroedMailbox (mboxId : MboxId) : ItcMailbox :=
  ⟨0, ⟨0, false, 0, false⟩, false, mboxId, .unused, 0, .empty⟩

/-- `local_create_mbox`, `none` when it fails. -/
def localCreate (mem : Bool) (s : ItcGlobals) (i : Nat) : Option ItcGlobals :=
  match s.localmbxData with
  | none => none
  | some rxqs =>
      if i ∈ rxqs then none
      else if mem then some { s with localmbxData := some (i :: rxqs) }
      else none

/-- `itc_create_mailbox_zz` once it has its `rc`: the slot, `none` when it fails. -/
def takeMailbox (answers : CreateAnswers) (s : ItcGlobals) (tid : Nat) (name : CString)
    (flags : UInt32) : Except MemFault (Option Nat × ItcGlobals) := do
  match ← s.freeMboxesQueue.read with
  | [] => .ok (none, s)
  | i :: rest =>
      let s := { s with freeMboxesQueue := .live rest }
      if name.strlen > ITC_MAX_NAME_LENGTH then .ok (none, s)
      else if name.strlen + 1 > ITC_MAX_NAME_LENGTH then .error .outOfBounds
      else do
        let mboxes ← s.mboxes.read
        let s := s.setMbox mboxes i ((mboxes i).create tid name flags)
        match localCreate answers.rxq s i with
        | none => .ok (none, s)
        | some s =>
            if answers.setspecific ∧ s.destructKey then do
              let tree ← s.localLocatingMboxTree.insert answers.tsearch name
              .ok (some i, { s with localLocatingMboxTree := tree })
            else .ok (none, s)

/-- `itc_delete_mailbox_zz` up to the lock of the rx queue. -/
def withdrawMailbox (s : ItcGlobals) (i : Nat) : Except MemFault ItcGlobals := do
  let mboxes ← s.mboxes.read
  let tree ← s.localLocatingMboxTree.remove (mboxes i).name
  if (mboxes i).pRxqInfo then .ok { s with localLocatingMboxTree := tree } else .error .nullDeref

/-- `local_delete_mbox`, `none` when it fails. -/
def localDelete (s : ItcGlobals) (i : Nat) : Option ItcGlobals :=
  match s.localmbxData with
  | none => none
  | some rxqs =>
      if i ∈ rxqs then some { s with localmbxData := some (rxqs.erase i) } else none

/-- The mailbox goes back to the free ones; `node` is what `malloc` answers in `q_enqueue`. -/
def enqueueMailbox (node : Bool) (s : ItcGlobals) (i : Nat) :
    Except MemFault (Bool × ItcGlobals) := do
  let s ← s.updateMbox i ItcMailbox.clear
  if node then do
    let queue ← s.freeMboxesQueue.read
    .ok (true, { s with freeMboxesQueue := .live (queue ++ [i]) })
  else .ok (false, s)

/-- The rest of `itc_delete_mailbox_zz`, after `rc`. -/
def giveBackMailbox (node : Bool) (s : ItcGlobals) (i : Nat) :
    Except MemFault (Bool × ItcGlobals) :=
  match s.localDelete i with
  | none => .ok (false, s)
  | some s => s.enqueueMailbox node i

/-! ## The threads -/

/-- Hexadecimal digit -/
def hexDigit (d : Nat) : UInt8 := UInt8.ofNat (if d < 10 then 48 + d else 87 + d)

theorem hexDigit_ne_zero : ∀ d < 16, hexDigit d ≠ 0 := by decide

/-- `"itc_rx_sysvmq_0x%08x"` -/
def rxThreadName (myMboxId : MboxId) : CString where
  bytes := [105, 116, 99, 95, 114, 120, 95, 115, 121, 115, 118, 109, 113, 95, 48, 120] ++
    (List.range 8).map fun k => hexDigit (myMboxId.toNat / 16 ^ (7 - k) % 16)
  noNul := by
    intro h
    rcases List.mem_append.mp h with h | h
    · revert h
      decide
    · obtain ⟨k, _, hk⟩ := List.mem_map.mp h
      exact hexDigit_ne_zero _ (Nat.mod_lt _ (by decide)) hk

theorem rxThreadName_strlen (myMboxId : MboxId) : (rxThreadName myMboxId).strlen = 24 := by
  simp [CString.strlen, rxThreadName]

/-- What `start_itcthreads` and the rx threads are answered. -/
structure StartAnswers where
  /-- By `malloc` for `rc_tmp`. -/
  rcTmp : Bool
  /-- By `pthread_create`. -/
  create : Bool
  /-- To `itc_create_mailbox_zz` in the rx thread. -/
  mailbox : CreateAnswers
  tid : Nat
  deriving DecidableEq, Repr

/-- `itc_create_mailbox_zz` in an rx thread, which has no `rc` yet. -/
def createRxMailbox (answers : StartAnswers) (s : ItcGlobals) :
    Except MemFault (Option Nat × ItcGlobals) :=
  if answers.mailbox.rc then
    takeMailbox answers.mailbox s answers.tid (rxThreadName s.myMboxIdInItccoord) 0
  else .ok (none, s)

/-- The loop of `start_itcthreads`: no error, the list, the variables. -/
def startItcthreads (answers : StartAnswers) : ThreadList → ItcGlobals →
    Except MemFault (Bool × ThreadList × ItcGlobals)
  | .nil, s => .ok (true, .nil, s)
  | .dangling, _ => .error .useAfterFree
  | .cons thr next, s =>
      if thr.isRunning then .ok (true, .cons thr next, s)
      else if ¬ answers.rcTmp then .error .nullDeref
      else if ¬ answers.create then .ok (false, .cons thr next, s)
      else do
        let (mbox, s) ← createRxMailbox answers s
        let (ok, next, s) ← startItcthreads answers next s
        .ok (ok, .cons ⟨true, true, mbox⟩ next, s)

/-- What `terminate_itcthreads` and the threads' destructors are answered. -/
structure TerminateAnswers where
  /-- By `pthread_cancel` for the entry of that position. -/
  cancel : Nat → Bool
  join : Nat → Bool
  /-- By `malloc` in `q_enqueue`. -/
  node : Bool

/-- `mailbox_destructor_at_thread_exit` in the thread. -/
def threadExit (node : Bool) (s : ItcGlobals) (thr : ItcThread) : Except MemFault ItcGlobals :=
  match thr.alive, thr.mbox with
  | true, some i => do
      let mboxes ← s.mboxes.read
      if (mboxes i).mboxState = .inuse then do
        let s ← s.withdrawMailbox i
        let s ← s.updateMbox i ItcMailbox.close
        let (_, s) ← s.giveBackMailbox node i
        .ok s
      else .ok s
  | _, _ => .ok s

/-- The loop of `terminate_itcthreads`, which never stores to `thread_list`: once the first entry
is freed, the list dangles. -/
def terminateItcthreads (answers : TerminateAnswers) : Nat → ThreadList → ItcGlobals →
    Except MemFault (Bool × ThreadList × ItcGlobals)
  | _, .nil, s => .ok (true, .nil, s)
  | _, .dangling, _ => .error .useAfterFree
  | k, .cons thr next, s =>
      if ¬ thr.isRunning then .ok (true, .cons thr next, s)
      else if ¬ answers.cancel k then .ok (false, .cons thr next, s)
      else do
        let s ← s.threadExit answers.node thr
        if ¬ answers.join k then .ok (false, .cons { thr with alive := false } next, s)
        else do
          let (ok, _, s) ← terminateItcthreads answers (k + 1) next s
          .ok (ok, .dangling, s)

/-! ## The transports -/

/-- `lsock_init`; `path` and `connect` are what the calls for the folder and for the socket are
answered. -/
def lsockInit (path connect : Bool) (s : ItcGlobals) : Bool × ItcGlobals :=
  if ¬ s.lsockInst.isCoordRunning then (true, s)
  else if ¬ s.lsockInst.isPathCreated ∧ ¬ path then (false, s)
  else if ¬ connect then
    (false, { s with lsockInst := { s.lsockInst with isPathCreated := true } })
  else (true, { s with lsockInst := ⟨true, true, true⟩ })

/-- `local_init`; `forced` is `ITC_FLAGS_FORCE_REINIT`, under which the old instance is released. -/
def localInitLife (mem forced : Bool) (s : ItcGlobals) : Bool × ItcGlobals :=
  match s.localmbxData, forced with
  | some _, false => (false, s)
  | _, _ => (mem, { s with localmbxData := if mem then some [] else none })

/-- What `sysvmq_init` is answered. -/
structure SysvmqAnswers where
  /-- By `pthread_mutex_destroy` in `release_sysvmq_resources`. -/
  release : Bool
  /-- In `generate_msqfile`. -/
  msqfile : Bool
  key : Bool
  threadMtx : Bool
  /-- By `malloc` in `add_itcthread`. -/
  thread : Bool
  deriving DecidableEq, Repr

/-- `release_sysvmq_resources`, with what is left in `rc->flags`. -/
def releaseSysvmq (answers : SysvmqAnswers) (s : ItcGlobals) : Bool × ItcGlobals :=
  if ¬ s.sysvmqInst.destructKey then (false, s)
  else if ¬ answers.release then
    (false, { s with sysvmqInst := { s.sysvmqInst with destructKey := false } })
  else (true, { s with sysvmqInst := ⟨false, false⟩ })

/-- `sysvmq_init` in an instance that is not initialised. -/
def setUpSysvmq (answers : SysvmqAnswers) (s : ItcGlobals) : Bool × ItcGlobals :=
  if ¬ answers.msqfile then (false, s)
  else if ¬ answers.key then
    (false, { s with sysvmqInst := { s.sysvmqInst with isInitialized := true } })
  else
    let s := { s with sysvmqInst := ⟨true, true⟩ }
    if ¬ answers.threadMtx then (false, s)
    else if ¬ answers.thread then (false, s)
    else (true, { s with threadList := .cons ⟨false, false, none⟩ s.threadList })

def sysvmqInit (answers : SysvmqAnswers) (forced : Bool) (s : ItcGlobals) : Bool × ItcGlobals :=
  if ¬ s.sysvmqInst.isInitialized then s.setUpSysvmq answers
  else if ¬ forced then (false, s)
  -- `if(rc != ITC_OK)` asks for the pointer and not for its flags, and always returns
  else s.releaseSysvmq answers

/-- What the `itci_trans_exit` of the three transports are answered: `close` of the socket, and
`pthread_mutex_destroy`. -/
structure TransExitAnswers where
  close : Bool
  threadMtx : Bool
  deriving DecidableEq, Repr

/-- `local_exit`, `lsock_exit` and `sysvmq_exit`, up to the first that fails. -/
def transExit (answers : TransExitAnswers) (s : ItcGlobals) : Bool × ItcGlobals :=
  if (s.localmbxData.getD []).length > ITC_NR_INTERNAL_USED_MBOXES then (false, s)
  else
    let s := { s with localmbxData := none }
    if s.lsockInst.isCoordRunning ∧ ¬ answers.close then (false, s)
    else
      let s := { s with lsockInst := ⟨false, false, false⟩ }
      if ¬ s.sysvmqInst.isInitialized then (false, s)
      else if ¬ answers.threadMtx then (false, s)
      else if ¬ s.sysvmqInst.destructKey then (false, s)
      else (true, { s with sysvmqInst := ⟨false, false⟩ })

/-! ## Init -/

/-- The arguments of `itc_init_zz`; the only allocation scheme there is is `ITC_MALLOC`. -/
structure InitArgs where
  nrMboxes : Nat
  /-- `ITC_FLAGS_I_AM_ITC_COORD` -/
  iAmItcCoord : Bool
  deriving DecidableEq, Repr

/-- What `itc_init_zz` is answered. -/
structure InitAnswers where
  rc : Bool
  threadListMtx : Bool
  /-- The `my_mbox_id_in_itccoord` that itccoord gives, `none` when it is not located. -/
  coord : Option MboxId
  mboxes : Bool
  /-- To the attributes, the mutex and the condition variable of that mailbox. -/
  sync : Nat → Bool
  /-- In `q_init`. -/
  queue : Bool
  /-- By `malloc` in `q_enqueue` for that mailbox. -/
  node : Nat → Bool
  key : Bool
  locatingMtx : Bool
  localmbxData : Bool
  lsockPath : Bool
  lsockConnect : Bool
  sysvmq : SysvmqAnswers
  start : StartAnswers

/-- Every call succeeds; the process is the one with the index 5. -/
def InitAnswers.willing : InitAnswers where
  rc := true
  threadListMtx := true
  coord := some (5 <<< ITC_COORD_SHIFT)
  mboxes := true
  sync := fun _ => true
  queue := true
  node := fun _ => true
  key := true
  locatingMtx := true
  localmbxData := true
  lsockPath := true
  lsockConnect := true
  sysvmq := ⟨true, true, true, true, true⟩
  start := ⟨true, true, .all, 2⟩

/-- A part of `itc_init_zz`: `false` when it has failed. -/
abbrev Stage := ItcGlobals → Except MemFault (Bool × ItcGlobals)

/-- One part and then, if it has not failed, the next. -/
def Stage.andThen (first next : Stage) : Stage := fun s => do
  let (ok, s) ← first s
  if ok then next s else .ok (false, s)

/-- `free(rc)`, which leaves `rc` as it is. -/
def freeRc (s : ItcGlobals) (t : Nat) : Except MemFault ItcGlobals := do
  let p ← (s.rc t).free
  .ok (s.setRc t p)

/-- `memset(&itc_inst, 0, …)` -/
def clearInst (s : ItcGlobals) : ItcGlobals :=
  { s with
    instPid := 0, myMboxIdInItccoord := 0, nrMboxes := 0, mboxes := .null
    freeMboxesQueue := .null, destructKey := false, localLocatingMboxTree := .names [] }

/-- `release_all_itc_resources` in the thread `t`. -/
def releaseAll (s : ItcGlobals) (t : Nat) : Except MemFault ItcGlobals :=
  -- `pthread_key_delete` fails, and nothing is released
  if ¬ s.destructKey then .ok s
  else do
    let _ ← s.localLocatingMboxTree.destroy
    let _ ← s.mboxes.free
    let s ← s.freeRc t
    .ok ((s.setRc t .null).clearInst.setThreadlocal t none)

/-- The re-init branch: the flags for the transports, `none` when already initialised. -/
def reinit (s : ItcGlobals) (t : Nat) : Except MemFault (Option Bool × ItcGlobals) :=
  match s.mboxes with
  | .null => .ok (some false, s)
  | _ =>
      if s.pid = s.instPid then .ok (none, s)
      else do
        let s ← s.releaseAll t
        .ok (some true, s)

/-- Up to `itci_alloc_init`: after every call of a transport or of the allocator comes
`rc->flags = ITC_OK`. -/
def prepare (answers : InitAnswers) (t : Nat) : Stage := fun s =>
  let s := { s with instPid := s.pid }
  if ¬ answers.threadListMtx then .ok (false, s)
  else do
    let _ ← (s.rc t).read
    .ok (true, s)

/-- `itci_trans_locate_itccoord`, which only lsock has, unless this process is itccoord. -/
def locateItccoord (args : InitArgs) (answers : InitAnswers) : Stage := fun s =>
  if args.iAmItcCoord then .ok (true, { s with myMboxIdInItccoord := 1 <<< ITC_COORD_SHIFT })
  else match answers.coord with
    | none => .ok (false, s)
    | some myMboxId => .ok (true,
        { s with
          myMboxIdInItccoord := myMboxId
          lsockInst := { s.lsockInst with isCoordRunning := true } })

/-- The first `i` turns of the loop over the mailboxes: the queue. -/
def queueMboxes (answers : InitAnswers) : Nat → Except MemFault (Bool × Ptr (List Nat))
  | 0 => .ok (true, if answers.queue then .live [] else .null)
  | i + 1 => do
      let (ok, queue) ← queueMboxes answers i
      if ¬ ok then .ok (false, queue)
      else if ¬ answers.sync i then .ok (false, queue)
      else if ¬ answers.node i then .ok (true, queue)
      else do
        let items ← queue.read
        .ok (true, .live (items ++ [i]))

/-- The mailboxes and `free_mboxes_queue`; one mailbox more than asked for, for the rx thread. -/
def allocMboxes (args : InitArgs) (answers : InitAnswers) : Stage := fun s =>
  if ¬ answers.mboxes then .ok (false, { s with mboxes := .null })
  else do
    let s := { s with
      nrMboxes := args.nrMboxes + 1
      mboxes := .live fun i => zeroedMailbox (s.myMboxIdInItccoord ||| UInt32.ofNat i) }
    let (ok, queue) ← queueMboxes answers s.nrMboxes
    .ok (ok, { s with freeMboxesQueue := queue })

/-- `destruct_key` and the mutex of the tree. -/
def createKey (answers : InitAnswers) : Stage := fun s =>
  if ¬ answers.key then .ok (false, s)
  else .ok (answers.locatingMtx, { s with destructKey := true })

/-- A call of a transport. -/
def ofTransport (f : ItcGlobals → Bool × ItcGlobals) : Stage := fun s => .ok (f s)

/-- The `itci_trans_init` of the three transports in their order. -/
def transInit (answers : InitAnswers) (forced : Bool) : Stage :=
  Stage.andThen (ofTransport (localInitLife answers.localmbxData forced))
    (Stage.andThen (ofTransport (lsockInit answers.lsockPath answers.lsockConnect))
      (ofTransport (sysvmqInit answers.sysvmq forced)))

def startThreads (answers : StartAnswers) : Stage := fun s => do
  let (ok, list, s) ← startItcthreads answers s.threadList s
  .ok (ok, { s with threadList := list })

/-- `itc_init_zz` after the re-init branch. -/
def setUp (args : InitArgs) (answers : InitAnswers) (t : Nat) (forced : Bool) : Stage :=
  Stage.andThen (prepare answers t)
    (Stage.andThen (locateItccoord args answers)
      (Stage.andThen (allocMboxes args answers)
        (Stage.andThen (createKey answers)
          (Stage.andThen (transInit answers forced) (startThreads answers.start)))))

/-- `itc_init_zz` once it has its `rc`: `false` where it gives up. -/
def initInst (args : InitArgs) (answers : InitAnswers) (t : Nat) : Stage := fun s => do
  match ← s.reinit t with
  | (none, s) => .ok (false, s)
  | (some forced, s) => s.setUp args answers t forced

/-- `itc_init_zz` in the thread `t`. Wherever it gives up it frees `rc`. -/
def itcInit (args : InitArgs) (answers : InitAnswers) (s : ItcGlobals) (t : Nat) :
    Except MemFault (Answer × ItcGlobals) := do
  match ← s.ensureRc t answers.rc with
  | none => .ok (.returned false, s)
  | some s => do
      let (ok, s) ← s.initInst args answers t
      if ok then .ok (.returned true, s)
      else do
        let s ← s.freeRc t
        .ok (.returned false, s)

/-! ## Exit -/

/-- What `itc_exit_zz` is answered. -/
structure ExitAnswers where
  rc : Bool
  terminate : TerminateAnswers
  /-- By the `destroy` calls for the mailboxes. -/
  sync : Bool
  trans : TransExitAnswers
  locatingMtx : Bool
  threadListMtx : Bool
  /-- By `pthread_mutex_destroy` in `q_exit`. -/
  queueMtx : Bool

def ExitAnswers.willing : ExitAnswers where
  rc := true
  terminate := ⟨fun _ => true, fun _ => true, true⟩
  sync := true
  trans := ⟨true, true⟩
  locatingMtx := true
  threadListMtx := true
  queueMtx := true

/-- From `tdestroy` on; nothing of what is freed is set to `NULL` but `rc`. -/
def freeAll (answers : ExitAnswers) (s : ItcGlobals) (t : Nat) :
    Except MemFault (Answer × ItcGlobals) := do
  let tree ← s.localLocatingMboxTree.destroy
  let s := { s with localLocatingMboxTree := tree }
  if ¬ answers.locatingMtx then .ok (.returned false, s)
  else if ¬ answers.threadListMtx then .ok (.returned false, s)
  else do
    let mboxes ← s.mboxes.free
    let s := { s with mboxes }
    -- the trace before `q_exit` reads the size
    let _ ← s.freeMboxesQueue.read
    let s := { s with freeMboxesQueue := .dangling }
    if ¬ answers.queueMtx then .ok (.returned false, s)
    else do
      let s ← s.freeRc t
      .ok (.returned true, s.setRc t .null)

/-- `itc_exit_zz` after the threads. -/
def takeDown (answers : ExitAnswers) (s : ItcGlobals) (t : Nat) :
    Except MemFault (Answer × ItcGlobals) :=
  if ¬ answers.sync then .ok (.returned false, s)
  else match s.transExit answers.trans with
    | (false, s) => .ok (.returned false, s)
    | (true, s) =>
        if ¬ s.destructKey then .ok (.returned false, s)
        else { s with destructKey := false }.freeAll answers t

/-- `itc_exit_zz` in the thread `t`. -/
def itcExit (answers : ExitAnswers) (s : ItcGlobals) (t : Nat) :
    Except MemFault (Answer × ItcGlobals) :=
  match s.mboxes with
  | .null => .ok (.notInit, s)
  | _ => do
      match ← s.ensureRc t answers.rc with
      | none => .ok (.returned false, s)
      | some s => do
          let mboxes ← s.mboxes.read
          let running := (List.range s.nrMboxes).countP fun i => (mboxes i).mboxState = .inuse
          if running > ITC_NR_INTERNAL_USED_MBOXES then .ok (.returned false, s)
          else do
            let (ok, list, s) ← terminateItcthreads answers.terminate 0 s.threadList s
            let s := { s with threadList := list }
            if ok then s.takeDown answers t else .ok (.returned false, s)

/-! ## The other calls -/

/-- `itc_create_mailbox_zz` in the thread `t`. -/
def itcCreate (answers : CreateAnswers) (s : ItcGlobals) (t : Nat) (name : CString)
    (flags : UInt32) : Except MemFault (Answer × ItcGlobals) :=
  match s.mboxes, s.myThreadlocalMbox t with
  | .null, _ => .ok (.notInit, s)
  | _, some _ => .ok (.returned false, s)
  | _, none => do
      match ← s.ensureRc t answers.rc with
      | none => .ok (.returned false, s)
      | some s => do
          match ← takeMailbox answers s t name flags with
          | (none, s) => .ok (.returned false, s)
          | (some i, s) => .ok (.returned true, s.setThreadlocal t (some i))

/-- What `itc_delete_mailbox_zz` is asked and answered. -/
structure DeleteAnswers where
  /-- The id is that of the thread's mailbox. -/
  own : Bool
  lock : Bool
  rc : Bool
  node : Bool
  deriving DecidableEq, Repr

/-- `itc_delete_mailbox_zz` of the slot `me`. -/
def deleteOwn (answers : DeleteAnswers) (s : ItcGlobals) (t me : Nat) :
    Except MemFault (Answer × ItcGlobals) := do
  let s ← s.withdrawMailbox me
  if ¬ answers.lock then .ok (.returned false, s)
  else do
    let s ← s.updateMbox me fun mbox => { mbox with mboxState := .unused }
    match ← s.ensureRc t answers.rc with
    | none => .ok (.returned false, s)
    | some s => do
        let s ← s.updateMbox me ItcMailbox.close
        let (ok, s) ← s.giveBackMailbox answers.node me
        .ok (.returned ok, if ok then s.setThreadlocal t none else s)

def itcDelete (answers : DeleteAnswers) (s : ItcGlobals) (t : Nat) :
    Except MemFault (Answer × ItcGlobals) :=
  match s.mboxes, s.myThreadlocalMbox t with
  | .null, _ => .ok (.notInit, s)
  | _, none => .ok (.notInit, s)
  | _, some me => do
      let _ ← s.mboxes.read
      if answers.own then s.deleteOwn answers t me else .ok (.returned false, s)

/-- The other calls that look at the instance or at the thread's mailbox; `itc_sender`,
`itc_receiver` and `itc_size` look at a message only. -/
inductive ApiCall where
  | alloc
  | free
  | send
  | receive
  | currentMbox
  | getFd
  | getName
  | locateSync
  | getNamespace
  deriving DecidableEq, Repr

namespace ApiCall

/-- The call asks for `itc_inst.mboxes == NULL`. -/
def testsInst : ApiCall → Bool
  | .currentMbox => false
  | _ => true

/-- The call asks for `my_threadlocal_mbox == NULL`. -/
def testsMbox : ApiCall → Bool
  | .alloc | .free => false
  | _ => true

def usesRc : ApiCall → Bool
  | .currentMbox | .getName | .getNamespace => false
  | _ => true

end ApiCall

/-- What a call is asked and answered. -/
structure CallAnswers where
  /-- What it returns when its arguments let it return before it has come to a mailbox or `rc`. -/
  early : Option Bool
  rc : Bool
  result : Bool
  deriving DecidableEq, Repr

def touchRc (answers : CallAnswers) (s : ItcGlobals) (t : Nat) (call : ApiCall) :
    Except MemFault (Answer × ItcGlobals) :=
  if ¬ call.usesRc then .ok (.returned answers.result, s)
  else do
    match ← s.ensureRc t answers.rc with
    | none => .ok (.returned false, s)
    | some s => .ok (.returned answers.result, s)

/-- A call of the thread `t` once its tests have let it through. -/
def touch (answers : CallAnswers) (s : ItcGlobals) (t : Nat) (call : ApiCall) :
    Except MemFault (Answer × ItcGlobals) :=
  if call.testsMbox then do
    let _ ← s.mboxes.read
    s.touchRc answers t call
  else s.touchRc answers t call

def apiCall (answers : CallAnswers) (s : ItcGlobals) (t : Nat) (call : ApiCall) :
    Except MemFault (Answer × ItcGlobals) :=
  if call.testsInst ∧ s.mboxes.isNull then .ok (.notInit, s)
  else if call.testsMbox ∧ s.myThreadlocalMbox t = none then .ok (.notInit, s)
  else match answers.early with
    | some ok => .ok (.returned ok, s)
    | none => s.touch answers t call

/-- The child of a `fork` in the thread `t`, which is its only thread. -/
def fork (s : ItcGlobals) (t childPid : Nat) : ItcGlobals :=
  { s with
    pid := childPid
    rc := fun u => if u = t then s.rc u else .null
    myThreadlocalMbox := fun u => if u = t then s.myThreadlocalMbox u else none
    threadList := s.threadList.abandon }

end ItcGlobals

end ItcFramework
