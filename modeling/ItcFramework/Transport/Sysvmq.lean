import ItcFramework.Itc.Message

/-!
# The System V message-queue transport

Embedding of `itc_sysvmq.c`: `sysvmq_send` with its contact list, and one iteration of
`sysvmq_rx_thread` with `forward_sysvmq_msg`. The kernel is a parameter: a state and what
`ftok`, `msgget` and `msgsnd` answer in it, so that a queue may vanish or come back between any
two calls.

* `sysvmqSend` — the retry loop runs on fuel; `none` stands for a call that is still retrying.
* `sysvmqRxThread` — one pass of the `for(;;)` loop over what `msgrcv` gives.
-/

set_option autoImplicit false

namespace ItcFramework

open ByteImage

/-! ## The kernel's side -/

/-- The values of `errno` that `sysvmq_send` tells apart. -/
inductive MsgErrno where
  | eintr
  | einval
  | eidrm
  | other
  deriving DecidableEq, Repr

/-- System V message queues in a state `σ`. `none` is the failure value `-1` of `ftok` and
`msgget`; `msgsnd` gives `none` when it has queued the text. -/
structure SysvKernel (σ : Type) where
  ftok : σ → Nat → Option Nat × σ
  msgget : σ → Option Nat → Option Nat × σ
  msgsnd : σ → Nat → Bytes → Option MsgErrno × σ

/-! ## The contact list -/

structure SysvmqContactlist where
  mboxIdInItccoord : MboxId
  sysvmqId : Nat
  deriving DecidableEq, Repr

structure SysvmqInstance where
  itccoordMask : MboxId
  itccoordShift : UInt32
  isInitialized : Bool
  maxMsgsize : Nat
  sysvmqCl : Nat → SysvmqContactlist

/-- The instance as `sysvmq_init` leaves it: no contact yet. -/
def SysvmqInstance.init (maxMsgsize : Nat) : SysvmqInstance where
  itccoordMask := ITC_COORD_MASK
  itccoordShift := ITC_COORD_SHIFT
  isInitialized := true
  maxMsgsize := maxMsgsize
  sysvmqCl := fun _ => ⟨0, 0⟩

namespace SysvmqInstance

/-- The process index `(mbox_id & itccoord_mask) >> itccoord_shift`. -/
def procIndex (inst : SysvmqInstance) (mboxId : MboxId) : Nat :=
  ((mboxId &&& inst.itccoordMask) >>> inst.itccoordShift).toNat

def setCl (inst : SysvmqInstance) (pid : Nat) (cl : SysvmqContactlist) : SysvmqInstance :=
  { inst with sysvmqCl := fun i => if i = pid then cl else inst.sysvmqCl i }

end SysvmqInstance

variable {σ : Type}

/-- What the transport's helpers read and write. -/
structure SysvmqState (σ : Type) where
  inst : SysvmqInstance
  rc : UInt32
  kernel : σ

/-- `find_cl`: the index of the contact, or `none` with `ITC_INVALID_ARGUMENTS`. -/
def findCl (s : SysvmqState σ) (mboxId : MboxId) : Option Nat × SysvmqState σ :=
  let pid := s.inst.procIndex mboxId
  if pid = 0 ∨ pid ≥ MAX_SUPPORTED_PROCESSES then
    (none, { s with rc := s.rc ||| ITC_INVALID_ARGUMENTS })
  else (some pid, s)

/-- `get_sysvmq_id`: a failing `ftok` is recorded and its `-1` handed on to `msgget`. -/
def getSysvmqId (K : SysvKernel σ) (s : SysvmqState σ) (mboxId : MboxId) :
    Option Nat × SysvmqState σ :=
  match K.ftok s.kernel (s.inst.procIndex mboxId) with
  | (key, k) =>
      let rc := if key.isNone then s.rc ||| ITC_SYSCALL_ERROR else s.rc
      match K.msgget k key with
      | (some id, k) => (some id, { s with rc, kernel := k })
      | (none, k) => (none, { s with rc := rc ||| ITC_SYSCALL_ERROR, kernel := k })

def addSysvmqCl (K : SysvKernel σ) (s : SysvmqState σ) (cl : Nat) (mboxId : MboxId) :
    SysvmqState σ :=
  match getSysvmqId K s mboxId with
  | (some id, s) =>
      { s with inst := s.inst.setCl cl ⟨mboxId &&& s.inst.itccoordMask, id⟩ }
  | (none, s) => s

def removeSysvmqCl (s : SysvmqState σ) (mboxId : MboxId) : SysvmqState σ :=
  match findCl s mboxId with
  | (some cl, s) => { s with inst := s.inst.setCl cl ⟨0, 0⟩ }
  | (none, s) => s

def getSysvmqCl (K : SysvKernel σ) (s : SysvmqState σ) (mboxId : MboxId) :
    Option Nat × SysvmqState σ :=
  match findCl s mboxId with
  | (none, s) => (none, s)
  | (some cl, s) =>
      if (s.inst.sysvmqCl cl).mboxIdInItccoord = 0 then (some cl, addSysvmqCl K s cl mboxId)
      else (some cl, s)

/-! ## `sysvmq_send` -/

/-- The `while(msgsnd(..) == -1)` loop on `fuel` calls; the flag tells whether the kernel has
queued the text. -/
def msgsndLoop (K : SysvKernel σ) : Nat → SysvmqState σ → Nat → MboxId → Bytes →
    Option (Bool × SysvmqState σ)
  | 0, _, _, _, _ => none
  | fuel + 1, s, cl, toMbox, text =>
      match K.msgsnd s.kernel (s.inst.sysvmqCl cl).sysvmqId text with
      | (none, k) => some (true, { s with kernel := k })
      | (some .eintr, k) => msgsndLoop K fuel { s with kernel := k } cl toMbox text
      | (some .other, k) =>
          msgsndLoop K fuel { s with kernel := k, rc := s.rc ||| ITC_SYSCALL_ERROR } cl toMbox text
      | (some _, k) =>
          let s := addSysvmqCl K (removeSysvmqCl { s with kernel := k } toMbox) cl toMbox
          if (s.inst.sysvmqCl cl).mboxIdInItccoord = 0 then some (false, s)
          else msgsndLoop K fuel s cl toMbox text

/-- How a call of `sysvmq_send` ended: what the caller sees in `rc`, whether the kernel queued
the text and whether the message was freed. -/
structure SysvmqSendResult (σ : Type) where
  state : SysvmqState σ
  sent : Bool
  freed : Bool

/-- The transmitted text: the message with its `ENDPOINT`. -/
def txText (e : Endian) (m : ItcMessage) : Except MemFault Bytes :=
  slice (m.image e) 0 (m.size.toNat + ITC_HEADER_SIZE + 1)

/-- `sysvmq_send`; `none` while the retry loop still runs after `fuel` calls of `msgsnd`. -/
def sysvmqSend (e : Endian) (K : SysvKernel σ) (fuel : Nat) (s : SysvmqState σ)
    (message : ItcMessage) (toMbox : MboxId) : Except MemFault (Option (SysvmqSendResult σ)) :=
  if ¬ s.inst.isInitialized then
    .ok (some ⟨{ s with rc := s.rc ||| ITC_NOT_INIT_YET }, false, false⟩)
  else
    match getSysvmqCl K s toMbox with
    | (none, s) =>
        .ok (some ⟨{ s with rc := (s.rc &&& ~~~ITC_SYSCALL_ERROR) ||| ITC_QUEUE_NULL }, false, false⟩)
    | (some cl, s) =>
        if (s.inst.sysvmqCl cl).mboxIdInItccoord = 0 then
          .ok (some ⟨{ s with rc := (s.rc &&& ~~~ITC_SYSCALL_ERROR) ||| ITC_QUEUE_NULL },
            false, false⟩)
        else do
          let text ← txText e message
          match msgsndLoop K fuel s cl toMbox text with
          | none => return none
          | some (sent, s) =>
              -- `itc_free` works on the same `rc` and resets it
              let freed ← itcFreeAllowed message
              return some ⟨if freed then { s with rc := ITC_OK } else s, sent, freed⟩

/-! ## `sysvmq_rx_thread` -/

/-- `rx_buffer` behind its `mtype`, and the loop's `repeat` flag. -/
structure SysvmqRx where
  mtext : Bytes
  repeatFlag : Bool
  deriving DecidableEq, Repr

/-- The buffer after `malloc(max_msgsize)` and `memset`. -/
def SysvmqRx.init (maxMsgsize : Nat) : SysvmqRx := ⟨List.replicate (maxMsgsize - 8) 0, false⟩

/-- `forward_sysvmq_msg` up to its `itc_send`: `none` for a message without `ENDPOINT`. -/
def forwardSysvmqMsg (e : Endian) (a : Allocator) (mtext : Bytes) :
    Except MemFault (Option ItcMessage) := do
  let rxmsg ← ItcMessage.ofImage e mtext
  let x ← rxmsg.endpoint
  if x ≠ ENDPOINT then return none
  match ← itcAllocZz e a true rxmsg.size.toNat 0 with
  | none => throw .nullDeref
  | some msg =>
      let image ← memcpy (msg.image e) mtext (rxmsg.size.toNat + ITC_HEADER_SIZE + 1)
      let message ← ItcMessage.ofImage e image
      return some { message with flags := msg.flags }

/-- What `msgrcv` can give. -/
inductive MsgRcv where
  | text (mtext : Bytes)
  | failed (errno : MsgErrno)
  deriving DecidableEq, Repr

/-- One pass of the receive loop: the new loop state and the message handed to `itc_send`. -/
def sysvmqRxThread (e : Endian) (a : Allocator) (rx : SysvmqRx) :
    MsgRcv → Except MemFault (SysvmqRx × Option ItcMessage)
  | .failed .eidrm => .ok ({ rx with repeatFlag := true }, none)
  | .failed .einval => .ok ({ rx with repeatFlag := true }, none)
  | .failed _ => .ok (rx, none)
  | .text mtext => do
      let buf ← memcpy rx.mtext mtext mtext.length
      -- `rx_len <= sizeof(long) + ITC_HEADER_SIZE`: malformed, dropped
      if mtext.length ≤ 8 + ITC_HEADER_SIZE then return ({ rx with mtext := buf }, none)
      let fwd ← forwardSysvmqMsg e a buf
      return ({ mtext := buf, repeatFlag := false }, fwd)

end ItcFramework
