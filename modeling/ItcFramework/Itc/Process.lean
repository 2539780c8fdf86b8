import Mathlib.Tactic.Simps.Basic
import ItcFramework.Gateway.Framing
import ItcFramework.Lib.SearchTree
import ItcFramework.Transport.Local
import ItcFramework.Transport.Sysvmq

/-!
# A process and its calls

Embedding of `itc.c` for a process whose `itc_init_zz` has succeeded, with the default
transports: local (which creates and deletes mailboxes, sends and receives), lsock (none of
these) and sysvmq (which sends). A call is one atomic step of one thread, so the mutexes and
condition variables do not appear; a waiting `itc_receive` is a repeated attempt.

A loop that may retry for ever runs on `fuel`, and `none` stands for a call that has not
returned yet.
-/

set_option autoImplicit false

namespace ItcFramework

open ByteImage HeapModel SearchTree

/-! ## State -/

/-- `struct mbox_rxq_info`. -/
structure RxqInfo where
  /-- The counter of the eventfd `rxq_fd`. -/
  rxqFd : Nat
  isFdCreated : Bool
  rxqLen : Int
  isInRx : Bool
  deriving DecidableEq, Repr

/-- `mbox_state_e`. -/
inductive MboxState where
  | unused
  | inuse
  deriving DecidableEq, Repr

/-- `struct itc_mailbox`; `pRxqInfo` tells whether `p_rxq_info`, which never points elsewhere,
points to `rxq_info`. -/
structure ItcMailbox where
  flags : UInt32
  rxqInfo : RxqInfo
  pRxqInfo : Bool
  mboxId : MboxId
  mboxState : MboxState
  tid : Nat
  name : CString
  deriving DecidableEq, Repr

/-- `struct itc_instance` with the thread-local mailboxes, the transports' instances, the
messages on the heap and the kernel. -/
structure ItcInstance (σ : Type) where
  heap : Heap ItcMessage
  freeMboxesQueue : List Nat
  myMboxIdInItccoord : MboxId
  itccoordMask : MboxId
  itccoordMboxId : MboxId
  localLocatingMboxTree : SearchTree.Tree Nat
  nrMboxes : UInt32
  localMboxMask : UInt32
  mboxes : Nat → ItcMailbox
  itcgwMboxid : MboxId
  /-- `namespace` -/
  ns : CString
  myThreadlocalMbox : Nat → Option Nat
  localInst : LocalInst
  sysvmqInst : SysvmqInstance
  kernel : σ

/-- What a process runs on: the host's byte order, the allocator, the kernel's message queues,
the C library's trees, and what `malloc` answers when a queue item is created. -/
structure ItcEnv (σ : Type) where
  endian : Endian
  malloc : Allocator
  kernel : SysvKernel σ
  tree : TreeImpl Nat
  qitemMem : Bool

/-- Every system call succeeds, and the message queues take whatever is sent. -/
def ItcEnv.willing : ItcEnv Unit where
  endian := .little
  malloc := .least
  kernel := ⟨fun _ pid => (some pid, ()), fun _ key => (key, ()), fun _ _ _ => (none, ())⟩
  tree := .plain Nat
  qitemMem := true

variable {σ : Type}

namespace ItcInstance

/-- After `itc_init_zz` in the process with the index `proc`; the coordinator's own process has
the index 1. -/
def init (proc : Nat) (nrMboxes : UInt32) (maxMsgsize : Nat) (kernel : σ) : ItcInstance σ :=
  let myMboxId := UInt32.ofNat (proc * 2 ^ 20)
  { heap := .empty
    freeMboxesQueue := List.range nrMboxes.toNat
    myMboxIdInItccoord := myMboxId
    itccoordMask := ITC_COORD_MASK
    itccoordMboxId := (1 <<< ITC_COORD_SHIFT) ||| 1
    localLocatingMboxTree := .leaf
    nrMboxes
    localMboxMask := 0xFFFFFFFF >>> CLZ nrMboxes
    mboxes := fun i => ⟨0, ⟨0, false, 0, false⟩, false, myMboxId ||| UInt32.ofNat i, .unused, 0,
      .empty⟩
    itcgwMboxid := ITC_NO_MBOX_ID
    ns := .empty
    myThreadlocalMbox := fun _ => none
    localInst := localInit myMboxId ITC_COORD_MASK nrMboxes
    sysvmqInst := .init maxMsgsize
    kernel }

@[simps]
def setMbox (s : ItcInstance σ) (i : Nat) (mbox : ItcMailbox) : ItcInstance σ :=
  { s with mboxes := fun j => if j = i then mbox else s.mboxes j }

def setRxqInfo (s : ItcInstance σ) (i : Nat) (info : RxqInfo) : ItcInstance σ :=
  s.setMbox i { s.mboxes i with rxqInfo := info }

@[simps]
def setFree (s : ItcInstance σ) (free : List Nat) : ItcInstance σ :=
  { s with freeMboxesQueue := free }

@[simps]
def setTree (s : ItcInstance σ) (tree : SearchTree.Tree Nat) : ItcInstance σ :=
  { s with localLocatingMboxTree := tree }

@[simps]
def setLocal (s : ItcInstance σ) (inst : LocalInst) (heap : Heap ItcMessage) : ItcInstance σ :=
  { s with localInst := inst, heap }

@[simps]
def setSysvmq (s : ItcInstance σ) (inst : SysvmqInstance) (kernel : σ) (heap : Heap ItcMessage) :
    ItcInstance σ :=
  { s with sysvmqInst := inst, kernel, heap }

@[simps]
def setHeap (s : ItcInstance σ) (heap : Heap ItcMessage) : ItcInstance σ := { s with heap }

@[simps]
def setThread (s : ItcInstance σ) (tid : Nat) (mbox : Option Nat) : ItcInstance σ :=
  { s with myThreadlocalMbox := fun t => if t = tid then mbox else s.myThreadlocalMbox t }

end ItcInstance

/-! ## Finding mailboxes -/

def findMbox (s : ItcInstance σ) (mboxId : MboxId) : Option Nat :=
  if mboxId &&& s.itccoordMask = s.myMboxIdInItccoord then
    if mboxId &&& s.localMboxMask < s.nrMboxes then some (mboxId &&& s.localMboxMask).toNat
    else none
  else none

/-- `mbox_name_cmpfunc` of `itc.c`. -/
def mboxNameCmp (mboxes : Nat → ItcMailbox) (name : CString) (mbox : Nat) : Ordering :=
  CString.strcmp name (mboxes mbox).name

/-- `mbox_name_cmpfunc2` of `itc.c`. -/
def mboxNameCmp2 (mboxes : Nat → ItcMailbox) (mbox1 mbox2 : Nat) : Ordering :=
  CString.strcmp (mboxes mbox1).name (mboxes mbox2).name

def locateLocalMbox (s : ItcInstance σ) (name : CString) : Option Nat :=
  s.localLocatingMboxTree.find (mboxNameCmp s.mboxes name)

def insertMboxToTree (E : ItcEnv σ) (s : ItcInstance σ) (mbox : Nat) : ItcInstance σ :=
  let c := mboxNameCmp2 s.mboxes mbox
  match s.localLocatingMboxTree.find c with
  | some _ => s
  | none => s.setTree (E.tree.tsearch c mbox s.localLocatingMboxTree)

def removeMboxFromTree (E : ItcEnv σ) (s : ItcInstance σ) (mbox : Nat) : ItcInstance σ :=
  let c := mboxNameCmp2 s.mboxes mbox
  match s.localLocatingMboxTree.find c with
  | none => s
  | some _ => s.setTree (E.tree.tdelete c s.localLocatingMboxTree)

/-! ## Eventfds -/

/-- `write(fd, &one, 8)`. -/
def eventfdWrite (counter : Nat) : Nat := counter + 1

/-- `read(fd, &buf, 8)` resets the counter, and blocks at 0. -/
def eventfdRead (counter : Nat) : Option Nat := if counter = 0 then none else some 0

/-! ## `itc_send_zz` -/

/-- What a sender leaves in the receiving mailbox. -/
def RxqInfo.onSend (info : RxqInfo) : RxqInfo :=
  { info with
    rxqFd := if info.isFdCreated ∧ info.rxqLen = 0 then eventfdWrite info.rxqFd else info.rxqFd
    rxqLen := info.rxqLen + 1 }

/-- Where a message is once a transport has taken it. -/
inductive Taken where
  /-- In a local rx queue. -/
  | rxQueue
  /-- Freed, after the kernel has queued this text. -/
  | copied (mtext : Bytes)
  /-- Freed, and nothing is left of it. -/
  | lost
  deriving DecidableEq, Repr

/-- How a send ended: what the call returns, the caller's `*msg`, and what became of the message
if it was taken. -/
structure SendResult (σ : Type) where
  ret : Bool
  msg : Option Nat
  taken : Option Taken
  s : ItcInstance σ

/-- The loop over the transports; the first component is `none` when none of them left
`ITC_OK`. -/
def transSend (E : ItcEnv σ) (fuel : Nat) (s : ItcInstance σ) (message : Nat) (toMbox : MboxId) :
    Except MemFault (Option (Option Taken × ItcInstance σ)) := do
  let (rc, localInst, heap) ← localSend E.qitemMem s.localInst s.heap message toMbox
  let s := s.setLocal localInst heap
  if rc = ITC_OK then return some (some .rxQueue, s)
  let m ← s.heap.read message
  let some r ← sysvmqSend E.endian E.kernel fuel ⟨s.sysvmqInst, ITC_OK, s.kernel⟩ m toMbox
    | return none
  let heap ← if r.freed then s.heap.free message else pure s.heap
  let taken := if r.sent then Taken.copied (m.image E.endian) else .lost
  return some (if r.state.rc = ITC_OK then some taken else none,
    s.setSysvmq r.state.inst r.state.kernel heap)

/-- What happens to the receiving mailbox, if it is one of this process, after a send. -/
def notifyReceiver (s : ItcInstance σ) : Option Nat → ItcInstance σ
  | none => s
  | some i =>
      if (s.mboxes i).pRxqInfo then s.setRxqInfo i (s.mboxes i).rxqInfo.onSend else s

/-- `itc_send_zz` from the point where the message stays within the host. -/
def sendWithinHost (E : ItcEnv σ) (fuel : Nat) (s : ItcInstance σ) (myMbox : MboxId)
    (message : Nat) (toMbox : MboxId) : Except MemFault (Option (SendResult σ)) := do
  let m ← s.heap.read message
  let heap ← s.heap.write message (m.stamp myMbox toMbox)
  let s := s.setHeap heap
  let mbox := findMbox s toMbox
  if mbox.any fun i => (s.mboxes i).mboxState != .inuse then
    return some ⟨false, some message, none, s⟩
  let some (taken, s) ← transSend E fuel s message toMbox | return none
  if taken.isSome then return some ⟨true, none, taken, notifyReceiver s mbox⟩
  -- the mutex is unlocked through `p_rxq_info`
  if mbox.any fun i => ! (s.mboxes i).pRxqInfo then throw .nullDeref
  return some ⟨false, some message, none, s⟩

/-- `itc_send_zz` with a namespace that is `NULL` or the host's own. -/
def itcSend (E : ItcEnv σ) (fuel : Nat) (s : ItcInstance σ) (tid : Nat) (msg : Option Nat)
    (toMbox fromMbox : MboxId) : Except MemFault (Option (SendResult σ)) :=
  match s.myThreadlocalMbox tid with
  | none => .ok (some ⟨false, msg, none, s⟩)
  | some me =>
      let myMbox := (s.mboxes me).mboxId
      if toMbox = myMbox then .ok (some ⟨false, msg, none, s⟩)
      else if fromMbox ≠ ITC_MY_MBOX_ID ∧ fromMbox ≠ myMbox then .ok (some ⟨false, msg, none, s⟩)
      else
        match msg with
        | none => .ok (some ⟨false, none, none, s⟩)
        | some message => sendWithinHost E fuel s myMbox message toMbox

/-- A message is put on the heap. -/
def ItcInstance.alloc (s : ItcInstance σ) (m : ItcMessage) : Nat × ItcInstance σ :=
  (s.heap.next, s.setHeap (s.heap.push m))

/-- `itc_free` on a message of the process. -/
def itcFree (s : ItcInstance σ) (msg : Nat) : Except MemFault (ItcInstance σ) := do
  let (_, heap) ← itcFreeZz s.heap msg
  return s.setHeap heap

/-- A message that the process sends for itself, and frees when that fails. -/
def sendOrFree (E : ItcEnv σ) (fuel : Nat) (s : ItcInstance σ) (tid msg : Nat)
    (toMbox fromMbox : MboxId) : Except MemFault (Option (Bool × ItcInstance σ)) := do
  let some r ← itcSend E fuel s tid (some msg) toMbox fromMbox | return none
  if r.ret then return some (true, r.s)
  let s ← itcFree r.s msg
  return some (false, s)

/-! ## `itc_receive_zz` -/

/-- What the receiver leaves in its mailbox; `none` when the `read` of the eventfd blocks. -/
def RxqInfo.onReceive (info : RxqInfo) : Option RxqInfo :=
  let info := { info with rxqLen := info.rxqLen - 1 }
  if info.isFdCreated ∧ info.rxqLen = 0 then
    (eventfdRead info.rxqFd).map fun rxqFd => { info with rxqFd, isInRx := false }
  else some { info with isInRx := false }

/-- One pass of the loop of `itc_receive_zz`, which is all of `itc_receive(ITC_NO_WAIT)`. -/
def itcReceive (s : ItcInstance σ) (tid : Nat) :
    Except MemFault (Option (Option Nat × ItcInstance σ)) :=
  match s.myThreadlocalMbox tid with
  | none => .ok (some (none, s))
  | some me =>
      let mbox := s.mboxes me
      if ¬ mbox.pRxqInfo then .error .nullDeref else do
      let (_, message, localInst, heap) ← localReceive s.localInst s.heap mbox.mboxId
      let s := s.setLocal localInst heap
      match message with
      | none => return some (none, s.setRxqInfo me { mbox.rxqInfo with isInRx := false })
      | some message =>
          match mbox.rxqInfo.onReceive with
          | none => return none
          | some info => return some (some message, s.setRxqInfo me info)

/-! ## `itc_get_fd_zz` -/

def RxqInfo.onGetFd (info : RxqInfo) : RxqInfo :=
  if info.isFdCreated then info
  else { info with
    isFdCreated := true
    rxqFd := if info.rxqLen ≠ 0 then eventfdWrite 0 else 0 }

def itcGetFd (s : ItcInstance σ) (tid : Nat) : Except MemFault (ItcInstance σ) :=
  match s.myThreadlocalMbox tid with
  | none => .ok s
  | some me =>
      let mbox := s.mboxes me
      if ¬ mbox.pRxqInfo then .error .nullDeref
      else .ok (s.setRxqInfo me mbox.rxqInfo.onGetFd)

/-! ## Creating and deleting mailboxes -/

/-- The coordinator is told about a mailbox, unless this is its own process. -/
def notifyCoord (E : ItcEnv σ) (fuel : Nat) (s : ItcInstance σ) (tid : Nat) (msgno : UInt32)
    (mboxId : MboxId) (name : CString) : Except MemFault (Option (ItcInstance σ)) :=
  if s.myMboxIdInItccoord = s.itccoordMboxId &&& s.itccoordMask then .ok (some s) else do
  let m ← idNameMsg E.endian E.malloc msgno mboxId name
  let (msg, s) := s.alloc m
  let some (_, s) ← sendOrFree E fuel s tid msg s.itccoordMboxId mboxId | return none
  return some s

/-- The mailbox as `itc_create_mailbox_zz` prepares it. -/
@[simps]
def ItcMailbox.create (mbox : ItcMailbox) (tid : Nat) (name : CString) (flags : UInt32) :
    ItcMailbox :=
  { mbox with
    name, flags, tid
    pRxqInfo := true
    rxqInfo := { mbox.rxqInfo with rxqLen := 0, isInRx := false }
    mboxState := .inuse }

def itcCreateMailbox (E : ItcEnv σ) (fuel : Nat) (s : ItcInstance σ) (tid : Nat) (name : CString)
    (flags : UInt32) : Except MemFault (Option (MboxId × ItcInstance σ)) :=
  match s.myThreadlocalMbox tid with
  | some _ => .ok (some (ITC_NO_MBOX_ID, s))
  | none =>
      match s.freeMboxesQueue with
      | [] => .ok (some (ITC_NO_MBOX_ID, s))
      | i :: rest =>
          let s := s.setFree rest
          if name.strlen > ITC_MAX_NAME_LENGTH then .ok (some (ITC_NO_MBOX_ID, s))
          -- `strcpy` needs a byte more than the name has
          else if name.strlen + 1 > ITC_MAX_NAME_LENGTH then .error .outOfBounds
          else do
            let mbox := (s.mboxes i).create tid name flags
            let (rc, localInst) := localCreateMbox s.localInst mbox.mboxId flags
            let s := (s.setMbox i mbox).setLocal localInst s.heap
            if rc ≠ ITC_OK then return some (ITC_NO_MBOX_ID, s)
            let s := (insertMboxToTree E s i).setThread tid (some i)
            let some s ← notifyCoord E fuel s tid ITC_NOTIFY_COORD_ADD_MBOX mbox.mboxId name
              | return none
            return some (mbox.mboxId, s)

/-- The mailbox once it is not used any more and its eventfd closed. -/
@[simps]
def ItcMailbox.close (mbox : ItcMailbox) : ItcMailbox :=
  { mbox with mboxState := .unused, rxqInfo := { mbox.rxqInfo with isFdCreated := false } }

/-- The mailbox before it goes back to the free ones. -/
@[simps]
def ItcMailbox.clear (mbox : ItcMailbox) : ItcMailbox :=
  { mbox with pRxqInfo := false, name := .empty, tid := 0 }

def itcDeleteMailbox (E : ItcEnv σ) (fuel : Nat) (s : ItcInstance σ) (tid : Nat)
    (mboxId : MboxId) : Except MemFault (Option (Bool × ItcInstance σ)) :=
  match s.myThreadlocalMbox tid with
  | none => .ok (some (false, s))
  | some me =>
      if mboxId ≠ (s.mboxes me).mboxId then .ok (some (false, s))
      else if ¬ (s.mboxes me).pRxqInfo then .error .nullDeref else do
      let s := removeMboxFromTree E s me
      let s := s.setMbox me (s.mboxes me).close
      let some s ← notifyCoord E fuel s tid ITC_NOTIFY_COORD_RMV_MBOX mboxId (s.mboxes me).name
        | return none
      let some (rc, localInst, heap) ← localDeleteMbox fuel s.localInst s.heap mboxId
        | return none
      let s := s.setLocal localInst heap
      if rc ≠ ITC_OK then return some (false, s)
      let s := (s.setMbox me (s.mboxes me).clear).setFree (s.freeMboxesQueue ++ [me])
      return some (true, s.setThread tid none)

end ItcFramework
