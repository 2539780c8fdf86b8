import ItcFramework.Itc.Slots
import ItcFramework.Transport.Posixmq

/-!
# A process with the POSIX message-queue plugin

The calls of `itc.c` where the last transport is that of `itc_posixmq.c`: it creates and deletes
mailboxes and receives as well, so that a mailbox has messages in two places, its local rx queue
and the buffer of the plugin.

* `posixmqSend` — the transport's send; `posixmqSend_eq` reads it as the other plugin's on queues
  that no one removes, so that the process' other calls are those of `PosixmqEnv.toItcEnv`.
* `itcCreateMailboxPosixmq`, `itcDeleteMailboxPosixmq`, `itcReceivePosixmq`, `arrive` — the calls
  that use the buffer or the tree of active mailboxes.
* `bufferedFor` — the number of messages that wait in the buffer for an id.
* `MailboxesCounted` — a mailbox in use counts the messages of both places.
* `Settled` — messages arrive for mailboxes in use, and a mailbox is deleted when none waits for
  it in the buffer; `mailbox_turnover_counted`: then the mailboxes are counted.
-/

set_option autoImplicit false

namespace ItcFramework

open ByteImage HeapModel SearchTree Transition ItcInstance

variable {σ : Type}

/-! ## `posixmq_send` -/

/-- The values of `errno` that `posixmq_send` tells apart. -/
inductive MqErrno where
  | eintr
  | eagain
  | other
  deriving DecidableEq, Repr

/-- POSIX message queues in a state `σ`. `mq_open` is given the process index that is in the
name of the queue; `mq_send` gives `none` when it has queued the text. -/
structure PosixmqKernel (σ : Type) where
  mqOpen : σ → Nat → Option Nat × σ
  mqSend : σ → Nat → Bytes → Option MqErrno × σ

/-- The contact list and the masks of `struct posixmq_instance` are those of the other plugin. -/
abbrev PosixmqState (σ : Type) := SysvmqState σ

section Send

variable (K : PosixmqKernel σ)

def getPosixMqd (s : PosixmqState σ) (mboxId : MboxId) : Option Nat × PosixmqState σ :=
  match K.mqOpen s.kernel (s.inst.procIndex mboxId) with
  | (some msqd, k) => (some msqd, { s with kernel := k })
  | (none, k) => (none, { s with rc := s.rc ||| ITC_SYSCALL_ERROR, kernel := k })

def addPosixmqCl (s : PosixmqState σ) (cl : Nat) (mboxId : MboxId) : PosixmqState σ :=
  match getPosixMqd K s mboxId with
  | (some msqd, s) =>
      { s with inst := s.inst.setCl cl ⟨mboxId &&& s.inst.itccoordMask, msqd⟩ }
  | (none, s) => s

def getPosixmqCl (s : PosixmqState σ) (mboxId : MboxId) : Option Nat × PosixmqState σ :=
  match findCl s mboxId with
  | (none, s) => (none, s)
  | (some cl, s) =>
      if (s.inst.sysvmqCl cl).mboxIdInItccoord = 0 then (some cl, addPosixmqCl K s cl mboxId)
      else (some cl, s)

/-- The `while(mq_send(..) == -1)` loop on `fuel` calls; an error that is neither `EINTR` nor
`EAGAIN` is recorded once `num_retries` is used up, and does not end the loop. -/
def mqSendLoop : Nat → Int → PosixmqState σ → Nat → Bytes → Option (PosixmqState σ)
  | 0, _, _, _, _ => none
  | fuel + 1, numRetries, s, cl, text =>
      match K.mqSend s.kernel (s.inst.sysvmqCl cl).sysvmqId text with
      | (none, k) => some { s with kernel := k }
      | (some errno, k) =>
          if errno = .eintr ∨ errno = .eagain ∨ numRetries > 0 then
            mqSendLoop fuel (numRetries - 1) { s with kernel := k } cl text
          else
            mqSendLoop fuel numRetries { s with kernel := k, rc := s.rc ||| ITC_SYSCALL_ERROR } cl
              text

/-- `posixmq_send`, with what the other plugin's send tells of itself. -/
def posixmqSend (e : Endian) (fuel : Nat) (s : PosixmqState σ) (message : ItcMessage)
    (toMbox : MboxId) : Except MemFault (Option (SysvmqSendResult σ)) :=
  if ¬ s.inst.isInitialized then
    .ok (some ⟨{ s with rc := s.rc ||| ITC_NOT_INIT_YET }, false, false⟩)
  else
    match getPosixmqCl K s toMbox with
    | (none, s) =>
        .ok (some ⟨{ s with rc := (s.rc &&& ~~~ITC_SYSCALL_ERROR) ||| ITC_QUEUE_NULL }, false, false⟩)
    | (some cl, s) =>
        if (s.inst.sysvmqCl cl).mboxIdInItccoord = 0 then
          .ok (some ⟨{ s with rc := (s.rc &&& ~~~ITC_SYSCALL_ERROR) ||| ITC_QUEUE_NULL },
            false, false⟩)
        else do
          let text ← txText e message
          match mqSendLoop K fuel 100 s cl text with
          | none => return none
          | some s =>
              let freed ← itcFreeAllowed message
              return some ⟨if freed then { s with rc := ITC_OK } else s, true, freed⟩

/-- The same queues as System V queues that are never removed. -/
def PosixmqKernel.toSysv : SysvKernel σ where
  ftok k pid := (some pid, k)
  msgget k key := key.elim (none, k) (K.mqOpen k)
  msgsnd k msqd text :=
    match K.mqSend k msqd text with
    | (none, k) => (none, k)
    | (some _, k) => (some .eintr, k)

theorem addPosixmqCl_eq (s : PosixmqState σ) (cl : Nat) (mboxId : MboxId) :
    addPosixmqCl K s cl mboxId = addSysvmqCl K.toSysv s cl mboxId := by
  simp only [addPosixmqCl, addSysvmqCl, getPosixMqd, getSysvmqId, PosixmqKernel.toSysv,
    Option.elim_some, Option.isNone_some, Bool.false_eq_true, if_false]
  rcases K.mqOpen s.kernel (s.inst.procIndex mboxId) with ⟨_ | msqd, k⟩
  · rfl
  · rfl

theorem getPosixmqCl_eq (s : PosixmqState σ) (mboxId : MboxId) :
    getPosixmqCl K s mboxId = getSysvmqCl K.toSysv s mboxId := by
  have hadd : addPosixmqCl K = addSysvmqCl K.toSysv :=
    funext fun s => funext fun cl => funext (addPosixmqCl_eq K s cl)
  unfold getPosixmqCl
  rw [hadd]
  rfl

/-- The loops end together, and differ in nothing but the result code. -/
theorem mqSendLoop_eq (fuel cl : Nat) (toMbox : MboxId) (text : Bytes) :
    ∀ (numRetries : Int) (s s' : PosixmqState σ), s'.inst = s.inst → s'.kernel = s.kernel →
      (mqSendLoop K fuel numRetries s cl text).map (fun r => (true, { r with rc := ITC_OK })) =
        (msgsndLoop K.toSysv fuel s' cl toMbox text).map fun r =>
          (r.1, { r.2 with rc := ITC_OK }) := by
  induction fuel with
  | zero => exact fun _ _ _ _ _ => rfl
  | succ fuel ih =>
    intro numRetries s s' hinst hkernel
    simp only [mqSendLoop, msgsndLoop, PosixmqKernel.toSysv, hinst, hkernel]
    rcases hsend : K.mqSend s.kernel (s.inst.sysvmqCl cl).sysvmqId text with ⟨_ | errno, k⟩
    · simp only [Option.map_some]
    · simp only
      split
      · exact ih _ _ _ rfl rfl
      · exact ih _ _ _ rfl rfl

/-- **For a message of a user the two sends do the same.** -/
theorem posixmqSend_eq (e : Endian) (fuel : Nat) (s : PosixmqState σ) (m : UserMessage)
    (toMbox : MboxId) :
    posixmqSend K e fuel s m.msg toMbox = sysvmqSend e K.toSysv fuel s m.msg toMbox := by
  simp only [posixmqSend, sysvmqSend, getPosixmqCl_eq, txText_ok e m.wellFormed,
    itcFreeAllowed_user, bind, Except.bind]
  split
  · rfl
  · rcases getSysvmqCl K.toSysv s toMbox with ⟨_ | cl, s⟩
    · rfl
    · simp only
      split
      · rfl
      · have hloop := mqSendLoop_eq K fuel cl toMbox (m.msg.image e) 100 s s rfl rfl
        cases hposix : mqSendLoop K fuel 100 s cl (m.msg.image e) <;>
          cases hsysv : msgsndLoop K.toSysv fuel s cl toMbox (m.msg.image e)
        · rfl
        · simp [hposix, hsysv] at hloop
        · simp [hposix, hsysv] at hloop
        · simp only [hposix, hsysv, Option.map_some, Option.some.injEq, Prod.mk.injEq] at hloop
          simp only [if_true, hloop.2, ← hloop.1]

end Send

/-! ## The process and its calls -/

structure PosixmqEnv (σ : Type) where
  endian : Endian
  malloc : Allocator
  kernel : PosixmqKernel σ
  tree : WalkImpl Nat

/-- What the calls that do not use the buffer run on; `malloc` creates queue items. -/
def PosixmqEnv.toItcEnv (E : PosixmqEnv σ) : ItcEnv σ where
  endian := E.endian
  malloc := E.malloc
  kernel := E.kernel.toSysv
  tree := E.tree.toTreeImpl
  qitemMem := true

/-- The process with the plugin's instance. `treeLocked` tells that `m_active_mbox_tree_mtx` has
been left locked, so that no call that takes it returns any more. A message in the buffer is
known by its address; the heap of the process has it from when a receiver has got it. -/
structure PosixmqProcess (σ : Type) where
  itc : ItcInstance σ
  posixmq : PosixmqInst
  treeLocked : Bool

namespace PosixmqProcess

/-- After `itc_init_zz`. -/
def init (proc : Nat) (nrMboxes : UInt32) (maxMsgsize : Nat) (kernel : σ) : PosixmqProcess σ where
  itc := .init proc nrMboxes maxMsgsize kernel
  posixmq := .init
  treeLocked := false

def createMbox (impl : TreeImpl Nat) (P : PosixmqProcess σ) (mailbox : Nat) :
    Option (PosixmqProcess σ) :=
  if P.treeLocked then none
  else
    match posixmqCreateMbox impl P.posixmq P.itc.mboxes mailbox with
    | none => some { P with treeLocked := true }
    | some inst => some { P with posixmq := inst }

def deleteMbox (impl : TreeImpl Nat) (P : PosixmqProcess σ) (mailbox : Nat) :
    Option (PosixmqProcess σ) :=
  if P.treeLocked then none
  else
    match posixmqDeleteMbox impl P.posixmq P.itc.mboxes mailbox with
    | none => some { P with treeLocked := true }
    | some inst => some { P with posixmq := inst }

/-- A message arrives; `addr` is what `itc_alloc` answers. -/
def arrive (E : PosixmqEnv σ) (P : PosixmqProcess σ) (addr : Nat) (rxBuffer : Bytes) (num : Nat) :
    Except MemFault (Option (PosixmqProcess σ)) :=
  if P.treeLocked then .ok none
  else do
    let (posixmq, mboxes) ← processReceivedMessage E.endian E.malloc E.tree.toTreeImpl P.posixmq
      P.itc.mboxes addr rxBuffer num
    return some { P with itc := { P.itc with mboxes }, posixmq }

end PosixmqProcess

variable {E : PosixmqEnv σ}

def itcCreateMailboxPosixmq (E : PosixmqEnv σ) (fuel : Nat) (answers : CreateAnswers)
    (P : PosixmqProcess σ) (tid : Nat) (name : CString) (flags : UInt32) :
    Except MemFault (Option (MboxId × PosixmqProcess σ)) :=
  match P.itc.myThreadlocalMbox tid with
  | some _ => .ok (some (ITC_NO_MBOX_ID, P))
  | none =>
      -- `return false`, which is no `ITC_NO_MBOX_ID`
      if ¬ answers.rc then .ok (some (0, P)) else
      match P.itc.freeMboxesQueue with
      | [] => .ok (some (ITC_NO_MBOX_ID, P))
      | i :: rest =>
          let s := P.itc.setFree rest
          if name.strlen > ITC_MAX_NAME_LENGTH then
            .ok (some (ITC_NO_MBOX_ID, { P with itc := s }))
          -- `strcpy` needs a byte more than the name has
          else if name.strlen + 1 > ITC_MAX_NAME_LENGTH then .error .outOfBounds
          else do
            let mbox := (s.mboxes i).create tid name flags
            let (rc, localInst) := localCreateMboxMem answers.rxq s.localInst mbox.mboxId flags
            let s := (s.setMbox i mbox).setLocal localInst s.heap
            if rc ≠ ITC_OK then return some (ITC_NO_MBOX_ID, { P with itc := s })
            let some P := { P with itc := s }.createMbox E.tree.toTreeImpl i | return none
            if ¬ answers.setspecific then return some (ITC_NO_MBOX_ID, P)
            let s := (insertMboxToTreeMem E.toItcEnv answers.tsearch P.itc i).setThread tid (some i)
            let some s ← notifyCoord E.toItcEnv fuel s tid ITC_NOTIFY_COORD_ADD_MBOX mbox.mboxId name
              | return none
            return some (mbox.mboxId, { P with itc := s })

def itcDeleteMailboxPosixmq (E : PosixmqEnv σ) (fuel : Nat) (node : Bool) (P : PosixmqProcess σ)
    (tid : Nat) (mboxId : MboxId) : Except MemFault (Option (Bool × PosixmqProcess σ)) :=
  match P.itc.myThreadlocalMbox tid with
  | none => .ok (some (false, P))
  | some me =>
      if mboxId ≠ (P.itc.mboxes me).mboxId then .ok (some (false, P))
      else if ¬ (P.itc.mboxes me).pRxqInfo then .error .nullDeref else do
      let s := removeMboxFromTree E.toItcEnv P.itc me
      let s := s.setMbox me (s.mboxes me).close
      let some s ← notifyCoord E.toItcEnv fuel s tid ITC_NOTIFY_COORD_RMV_MBOX mboxId
          (s.mboxes me).name
        | return none
      let some (rc, localInst, heap) ← localDeleteMbox fuel s.localInst s.heap mboxId
        | return none
      let s := s.setLocal localInst heap
      if rc ≠ ITC_OK then return some (false, { P with itc := s })
      let some P := { P with itc := s }.deleteMbox E.tree.toTreeImpl me | return none
      let s := P.itc.setMbox me (P.itc.mboxes me).clear
      if ¬ node then return some (false, { P with itc := s })
      let s := s.setFree (s.freeMboxesQueue ++ [me])
      return some (true, { P with itc := s.setThread tid none })

/-- One pass of the loop of `itc_receive_zz`: the plugin is asked when the local rx queue is
empty. -/
def itcReceivePosixmq (E : PosixmqEnv σ) (P : PosixmqProcess σ) (tid : Nat) :
    Except MemFault (Option (Option Nat × PosixmqProcess σ)) :=
  match P.itc.myThreadlocalMbox tid with
  | none => .ok (some (none, P))
  | some me =>
      let mbox := P.itc.mboxes me
      if ¬ mbox.pRxqInfo then .error .nullDeref else do
      let (_, message, localInst, heap) ← localReceive P.itc.localInst P.itc.heap mbox.mboxId
      let s := P.itc.setLocal localInst heap
      let (message, s, posixmq) :=
        match message with
        | some message => (some message, s, P.posixmq)
        | none =>
            match posixmqReceive E.tree.toTreeImpl P.posixmq mbox.mboxId with
            | (none, inst) => (none, s, inst)
            | (some p, inst) =>
                let (message, s) := s.alloc (P.posixmq.messages p)
                (some message, s, inst)
      match message with
      | none =>
          return some (none, { P with
            itc := s.setRxqInfo me { mbox.rxqInfo with isInRx := false }
            posixmq })
      | some message =>
          match mbox.rxqInfo.onReceive with
          | none => return none
          | some info => return some (some message, { P with
              itc := s.setRxqInfo me info
              posixmq })

/-! ## Events -/

inductive TurnoverEvent where
  | arrive (addr : Nat) (rxBuffer : Bytes) (num : Nat)
  | createMailbox (tid : Nat) (name : CString) (flags : UInt32) (answers : CreateAnswers)
      (ret : MboxId)
  | deleteMailbox (tid : Nat) (mboxId : MboxId) (node ret : Bool)
  | receive (tid : Nat) (ret : Option Nat)
  | other (a : ItcEvent)

/-- Neither a mailbox is created nor deleted, nor a message received. -/
def ItcEvent.IsLocal : ItcEvent → Prop
  | .createMailbox .. | .deleteMailbox .. | .receive .. => False
  | _ => True

/-- A call that returns, or a message that arrives: `itc_alloc` puts it where no message of the
buffer is. -/
inductive TurnoverStep (E : PosixmqEnv σ) :
    PosixmqProcess σ → TurnoverEvent → PosixmqProcess σ → Prop where
  | arrive {P P' : PosixmqProcess σ} {addr num : Nat} {rxBuffer : Bytes}
      (haddr : addr ∉ P.posixmq.itcMessageBufferTree.toList)
      (call : P.arrive E addr rxBuffer num = .ok (some P')) :
      TurnoverStep E P (.arrive addr rxBuffer num) P'
  | createMailbox {P P' : PosixmqProcess σ} {fuel tid : Nat} {name : CString} {flags : UInt32}
      {answers : CreateAnswers} {ret : MboxId}
      (call : itcCreateMailboxPosixmq E fuel answers P tid name flags = .ok (some (ret, P'))) :
      TurnoverStep E P (.createMailbox tid name flags answers ret) P'
  | deleteMailbox {P P' : PosixmqProcess σ} {fuel tid : Nat} {mboxId : MboxId} {node ret : Bool}
      (call : itcDeleteMailboxPosixmq E fuel node P tid mboxId = .ok (some (ret, P'))) :
      TurnoverStep E P (.deleteMailbox tid mboxId node ret) P'
  | receive {P P' : PosixmqProcess σ} {tid : Nat} {ret : Option Nat}
      (call : itcReceivePosixmq E P tid = .ok (some (ret, P'))) :
      TurnoverStep E P (.receive tid ret) P'
  | other {P : PosixmqProcess σ} {s' : ItcInstance σ} {a : ItcEvent} (hlocal : a.IsLocal)
      (call : ItcStep E.toItcEnv P.itc a s') :
      TurnoverStep E P (.other a) { P with itc := s' }

/-- The number of messages for an id in the buffer. -/
def bufferedFor (inst : PosixmqInst) (mboxId : MboxId) : Nat :=
  inst.itcMessageBufferTree.toList.countP fun p => (inst.messages p).receiver == mboxId

/-- **Each mailbox in use counts the messages it has**, in its local rx queue and in the
buffer; so the count is never negative. -/
def MailboxesCounted (P : PosixmqProcess σ) : Prop :=
  ∀ i, i < P.itc.nrMboxes.toNat → (P.itc.mboxes i).mboxState = .inuse →
    ∃ rxq l, (P.itc.localInst.localmbxData i).rxq = some rxq ∧ rxq.Holds l ∧
      (P.itc.mboxes i).rxqInfo.rxqLen =
        ((l.length + bufferedFor P.posixmq (P.itc.mboxes i).mboxId : Nat) : Int)

/-- A mailbox that has been created has no message. -/
def StartsEmpty (P : PosixmqProcess σ) : TurnoverEvent → Prop
  | .createMailbox tid _ _ _ ret => ret ≠ ITC_NO_MBOX_ID →
      ∃ i rxq, P.itc.myThreadlocalMbox tid = some i ∧ (P.itc.mboxes i).mboxId = ret ∧
        (P.itc.mboxes i).rxqInfo.rxqLen = 0 ∧
        (P.itc.localInst.localmbxData i).rxq = some rxq ∧ rxq.Holds [] ∧
        bufferedFor P.posixmq ret = 0
  | _ => True

/-- What arrives is a message, and there is room for it in the buffer. -/
def Stored (E : PosixmqEnv σ) (P : PosixmqProcess σ) (rxBuffer : Bytes) (num : Nat)
    (m : ItcMessage) : Prop :=
  ITC_HEADER_SIZE < num ∧ forwardSysvmqMsg E.endian E.malloc rxBuffer = .ok (some m) ∧
    ¬ P.posixmq.numMessages > MAX_NUM_MESSAGES_ALLOWED_IN_TREE

/-- The message is not for a mailbox of the process that is not in use, a mailbox is deleted
when no message for it is in the buffer, and calls that create or delete one are answered by
`malloc` and `pthread_setspecific`. Messages in between are their callers' own, and are sent to
ids that `find_mbox` leads to the mailbox of. -/
def Settled (E : PosixmqEnv σ) (P : PosixmqProcess σ) : TurnoverEvent → Prop
  | .arrive _ rxBuffer num => ∀ m, Stored E P rxBuffer num m →
      ∀ i, i < P.itc.nrMboxes.toNat → (P.itc.mboxes i).mboxId = m.receiver →
        (P.itc.mboxes i).mboxState = .inuse
  | .createMailbox tid name _ answers _ =>
      P.itc.myThreadlocalMbox tid = none → answers.rc = true ∧ (P.itc.freeMboxesQueue ≠ [] →
        name.strlen < ITC_MAX_NAME_LENGTH → answers.rxq = true ∧ answers.setspecific = true)
  | .deleteMailbox tid mboxId node ret =>
      SlotAnswered P.itc (.deleteMailbox tid mboxId node ret) ∧
      ((∃ me, P.itc.myThreadlocalMbox tid = some me ∧ (P.itc.mboxes me).mboxId = mboxId) →
        bufferedFor P.posixmq mboxId = 0)
  | .receive _ _ => True
  | .other (.send tid msg toMbox fromMbox ret) =>
      SlotAnswered P.itc (.other (.send tid msg toMbox fromMbox ret)) ∧
        ∀ i, findMbox P.itc toMbox = some i → (P.itc.mboxes i).mboxId = toMbox
  | .other a => SlotAnswered P.itc (.other a)

/-! ## The buffer and the active mailboxes -/

section Buffer

variable {inst inst' : PosixmqInst} {mboxId : MboxId} {impl : WalkImpl Nat}

variable (impl) in
/-- A message that is stored is one more for its receiver. -/
theorem store_spec {addr : Nat} (m : ItcMessage)
    (horder : Ordered compare id inst.itcMessageBufferTree.toList)
    (haddr : addr ∉ inst.itcMessageBufferTree.toList) :
    Ordered compare id (inst.store impl.toTreeImpl addr m).itcMessageBufferTree.toList ∧
      ∀ mboxId, bufferedFor (inst.store impl.toTreeImpl addr m) mboxId =
        bufferedFor inst mboxId + if m.receiver = mboxId then 1 else 0 := by
  have hnew : ∀ x ∈ inst.itcMessageBufferTree.toList, id x ≠ id addr := fun x hx heq =>
    haddr (Eq.mp (congrArg (· ∈ _) heq) hx)
  rw [PosixmqInst.store, compareMsgInItcmessageTree_eq]
  refine ⟨(impl.tsearch_spec (a := addr) horder hnew).1, fun mboxId => ?_⟩
  obtain ⟨xs, ys, ht, hcut⟩ : ∃ xs ys, inst.itcMessageBufferTree.toList = xs ++ ys ∧
      Cut (byKey compare id (id addr)) xs ys := by
    rcases horder.cut (id addr) with hcut | ⟨xs, b, ys, ht, -, hb⟩
    · exact hcut
    · exact absurd hb (hnew b (by rw [ht]; simp))
  have hold : ∀ l : List Nat, (∀ p ∈ l, p ∈ inst.itcMessageBufferTree.toList) →
      (l.countP fun p => (Function.update inst.messages addr m p).receiver == mboxId) =
        l.countP fun p => (inst.messages p).receiver == mboxId := by
    intro l hl
    refine List.countP_congr fun p hp => ?_
    have hne : p ≠ addr := by
      rintro rfl
      exact haddr (hl p hp)
    rw [Function.update_of_ne hne]
  have hxs := hold xs fun p hp => by rw [ht]; exact List.mem_append_left _ hp
  have hys := hold ys fun p hp => by rw [ht]; exact List.mem_append_right _ hp
  have hins : (impl.tsearch (byKey compare id addr) addr inst.itcMessageBufferTree).toList =
      xs ++ addr :: ys := impl.tsearch_new ht hcut
  simp only [bufferedFor, hins, ht, List.countP_append, List.countP_cons, hxs, hys,
    Function.update_self, beq_iff_eq]
  omega

/-- What `posixmq_receive` returns is for the mailbox, and is gone from the buffer. -/
theorem posixmqReceive_spec {ret : Option Nat}
    (horder : Ordered compare id inst.itcMessageBufferTree.toList)
    (hcall : posixmqReceive impl.toTreeImpl inst mboxId = (ret, inst')) :
    (ret = none ∧ inst' = inst) ∨
      ∃ p, ret = some p ∧ Ordered compare id inst'.itcMessageBufferTree.toList ∧
        inst'.mActiveMboxTree = inst.mActiveMboxTree ∧
        bufferedFor inst mboxId = bufferedFor inst' mboxId + 1 ∧
        ∀ mboxId', mboxId' ≠ mboxId → bufferedFor inst' mboxId' = bufferedFor inst mboxId' := by
  cases hfind : inst.itcMessageBufferTree.find
      (compareMboxidInItcmessageTree inst.messages mboxId) with
  | none =>
    rw [posixmqReceive_none hfind, Prod.mk.injEq] at hcall
    exact .inl ⟨hcall.1.symm, hcall.2.symm⟩
  | some p =>
    rw [posixmqReceive_some hfind, Prod.mk.injEq] at hcall
    obtain ⟨rfl, rfl⟩ := hcall
    have hreceiver := compareMboxidInItcmessageTree_eq_iff.mp (SearchTree.Tree.find_some hfind).2
    obtain ⟨xs, ys, ht, hdel⟩ := impl.tdelete_walk hfind
    refine .inr ⟨p, rfl, (impl.tdelete_spec horder hfind).1, rfl, ?_, fun mboxId' hne => ?_⟩
    · simp only [bufferedFor, ht, hdel, List.countP_append, List.countP_cons, hreceiver, BEq.rfl,
        if_true]
      omega
    · have hne' : ¬ (mboxId == mboxId') = true := fun heq => hne (beq_iff_eq.mp heq).symm
      simp only [bufferedFor, ht, hdel, List.countP_append, List.countP_cons, hreceiver,
        if_neg hne', Nat.add_zero]

theorem bufferedFor_congr (h : inst'.itcMessageBufferTree = inst.itcMessageBufferTree)
    (h' : inst'.messages = inst.messages) : bufferedFor inst' = bufferedFor inst := by
  funext mboxId
  rw [bufferedFor, bufferedFor, h, h']

end Buffer

def idOf (mboxes : Nat → ItcMailbox) (i : Nat) : MboxId := (mboxes i).mboxId

theorem compareMboxidInItcmailboxTree_eq (mboxes : Nat → ItcMailbox) (mboxId : MboxId) :
    compareMboxidInItcmailboxTree mboxes mboxId = byKey compare (idOf mboxes) mboxId := by
  have hcompare : ∀ x y : UInt32,
      (if x = y then .eq else if x > y then .gt else .lt) = compareOfLessAndEq x y := by
    intro x y
    unfold compareOfLessAndEq
    by_cases heq : x = y
    · rw [if_pos heq, if_neg (heq ▸ UInt32.lt_irrefl x), if_pos heq]
    · by_cases hgt : x > y
      · rw [if_neg heq, if_pos hgt, if_neg (UInt32.lt_asymm hgt), if_neg heq]
      · have hlt : x < y := UInt32.lt_of_le_of_ne (UInt32.not_lt.mp hgt) heq
        rw [if_neg heq, if_neg hgt, if_pos hlt]
  funext i
  exact hcompare mboxId (mboxes i).mboxId

section Active

variable (impl : TreeImpl Nat) {inst : PosixmqInst} {mboxes : Nat → ItcMailbox} {i : Nat}

/-- A mailbox whose id is not in the tree is put there. -/
theorem posixmqCreateMbox_spec (hord : Ordered compare (idOf mboxes) inst.mActiveMboxTree.toList)
    (hnew : ∀ j ∈ inst.mActiveMboxTree.toList, idOf mboxes j ≠ idOf mboxes i) :
    ∃ t, posixmqCreateMbox impl inst mboxes i = some { inst with mActiveMboxTree := t } ∧
      Ordered compare (idOf mboxes) t.toList ∧
      ∀ j, j ∈ t.toList ↔ j = i ∨ j ∈ inst.mActiveMboxTree.toList := by
  have hnone : inst.mActiveMboxTree.find
      (compareMboxidInItcmailboxTree mboxes (mboxes i).mboxId) = none := by
    rw [compareMboxidInItcmailboxTree_eq]
    cases hfind : inst.mActiveMboxTree.find (byKey compare (idOf mboxes) (mboxes i).mboxId) with
    | none => rfl
    | some j =>
      obtain ⟨hj, heq⟩ := (find_byKey hord).mp hfind
      exact absurd heq (hnew j hj)
  obtain ⟨hord', hmem⟩ := impl.tsearch_spec hord hnew
  refine ⟨_, ?_, hord', hmem⟩
  simp only [posixmqCreateMbox, hnone]
  congr 3
  exact compareMboxidInItcmailboxTree_eq mboxes (mboxes i).mboxId

/-- A mailbox in the tree is taken out of it. -/
theorem posixmqDeleteMbox_spec (hord : Ordered compare (idOf mboxes) inst.mActiveMboxTree.toList)
    (hi : i ∈ inst.mActiveMboxTree.toList) :
    ∃ t, posixmqDeleteMbox impl inst mboxes i = some { inst with mActiveMboxTree := t } ∧
      Ordered compare (idOf mboxes) t.toList ∧
      ∀ j, j ∈ t.toList ↔ j ≠ i ∧ j ∈ inst.mActiveMboxTree.toList := by
  have hsome : inst.mActiveMboxTree.find
      (compareMboxidInItcmailboxTree mboxes (mboxes i).mboxId) = some i := by
    rw [compareMboxidInItcmailboxTree_eq]
    exact (find_byKey hord).mpr ⟨hi, rfl⟩
  obtain ⟨hord', hmem⟩ := impl.tdelete_spec hord hi
  refine ⟨_, ?_, hord', hmem⟩
  simp only [posixmqDeleteMbox, hsome]
  congr 3
  exact compareMboxidInItcmailboxTree_eq mboxes (mboxes i).mboxId

end Active

/-! ## The calls as those of the other plugin -/

namespace PosixmqProcess

variable {impl : TreeImpl Nat} {P P' : PosixmqProcess σ} {i : Nat}

theorem createMbox_itc (h : P.createMbox impl i = some P') : P'.itc = P.itc := by
  unfold createMbox at h
  split at h
  · cases h
  · split at h
    · cases h
      rfl
    · cases h
      rfl

theorem deleteMbox_itc (h : P.deleteMbox impl i = some P') : P'.itc = P.itc := by
  unfold deleteMbox at h
  split at h
  · cases h
  · split at h
    · cases h
      rfl
    · cases h
      rfl

end PosixmqProcess

section Calls

variable {P P' : PosixmqProcess σ} {fuel tid : Nat}

/-- **A create does to the process what it does with the other plugin**; it takes the first free
mailbox to the plugin, or leaves the plugin alone and fails. -/
theorem itcCreateMailboxPosixmq_eq {answers : CreateAnswers} {name : CString} {flags : UInt32}
    {ret : MboxId}
    (hcall : itcCreateMailboxPosixmq E fuel answers P tid name flags = .ok (some (ret, P'))) :
    itcCreateMailboxZz E.toItcEnv fuel answers P.itc tid name flags = .ok (some (ret, P'.itc)) ∧
      ((((P.itc.myThreadlocalMbox tid = none → answers.rc = true) → ret = ITC_NO_MBOX_ID) ∧
          P'.posixmq = P.posixmq ∧ P'.treeLocked = P.treeLocked) ∨
        ∃ i rest s₁, P.itc.myThreadlocalMbox tid = none ∧ P.itc.freeMboxesQueue = i :: rest ∧
          name.strlen < ITC_MAX_NAME_LENGTH ∧ SameIds P.itc s₁ ∧ PosixmqProcess.createMbox
            E.tree.toTreeImpl ⟨s₁, P.posixmq, P.treeLocked⟩ i =
              some ⟨s₁, P'.posixmq, P'.treeLocked⟩) := by
  unfold itcCreateMailboxPosixmq at hcall
  split at hcall
  · rename_i ht
    cases hcall
    refine ⟨?_, .inl ⟨fun _ => rfl, rfl, rfl⟩⟩
    simp only [itcCreateMailboxZz, ht]
  · rename_i ht
    split at hcall
    · rename_i hrc
      cases hcall
      refine ⟨?_, .inl ⟨fun hhas => absurd (hhas ht) hrc, rfl, rfl⟩⟩
      simp only [itcCreateMailboxZz, ht, if_pos hrc]
    · rename_i hrc
      split at hcall
      · rename_i hfree
        cases hcall
        refine ⟨?_, .inl ⟨fun _ => rfl, rfl, rfl⟩⟩
        simp only [itcCreateMailboxZz, ht, if_neg hrc, hfree]
      · rename_i i rest hfree
        simp only at hcall
        split at hcall
        · rename_i hlong
          cases hcall
          refine ⟨?_, .inl ⟨fun _ => rfl, rfl, rfl⟩⟩
          simp only [itcCreateMailboxZz, ht, if_neg hrc, hfree, if_pos hlong]
        · rename_i hlong
          split at hcall
          · cases hcall
          · rename_i hfits
            have hname : name.strlen < ITC_MAX_NAME_LENGTH := by omega
            generalize hlocal : localCreateMboxMem answers.rxq (P.itc.setFree rest).localInst
              (((P.itc.setFree rest).mboxes i).create tid name flags).mboxId flags = out at hcall
            obtain ⟨rc, inst⟩ := out
            have hids : SameIds P.itc (((P.itc.setFree rest).setMbox i
                (((P.itc.setFree rest).mboxes i).create tid name flags)).setLocal inst
                  (P.itc.setFree rest).heap) := .of_update rfl rfl rfl
            simp only at hcall
            split at hcall
            · rename_i hfailed
              cases hcall
              refine ⟨?_, .inl ⟨fun _ => rfl, rfl, rfl⟩⟩
              simp only [itcCreateMailboxZz, ht, if_neg hrc, hfree, if_neg hlong, if_neg hfits,
                hlocal, if_pos hfailed]
              rfl
            · rename_i hok
              split at hcall
              · rename_i P₁ hcreate
                have hitc := PosixmqProcess.createMbox_itc hcreate
                obtain ⟨s₁, posixmq, treeLocked⟩ := P₁
                simp only at hitc
                subst hitc
                split at hcall
                · rename_i hset
                  cases hcall
                  refine ⟨?_, .inr ⟨i, rest, _, ht, hfree, hname, hids, hcreate⟩⟩
                  simp only [itcCreateMailboxZz, ht, if_neg hrc, hfree, if_neg hlong,
                    if_neg hfits, hlocal, if_neg hok, if_pos hset]
                  rfl
                · rename_i hset
                  obtain ⟨s₂, hnotify, hcall⟩ := bind_some_eq_ok hcall rfl
                  cases hcall
                  refine ⟨?_, .inr ⟨i, rest, _, ht, hfree, hname, hids, hcreate⟩⟩
                  simp only [itcCreateMailboxZz, ht, if_neg hrc, hfree, if_neg hlong,
                    if_neg hfits, hlocal, if_neg hok, if_neg hset]
                  rw [hnotify]
                  rfl
              · cases hcall

/-- **A delete does to the process what it does with the other plugin**; it takes the thread's
mailbox from the plugin, or leaves the plugin alone and fails. -/
theorem itcDeleteMailboxPosixmq_eq {node ret : Bool} {mboxId : MboxId}
    (hcall : itcDeleteMailboxPosixmq E fuel node P tid mboxId = .ok (some (ret, P'))) :
    itcDeleteMailboxZz E.toItcEnv fuel node P.itc tid mboxId = .ok (some (ret, P'.itc)) ∧
      ((ret = false ∧ P'.posixmq = P.posixmq ∧ P'.treeLocked = P.treeLocked) ∨
        ∃ me s₁, P.itc.myThreadlocalMbox tid = some me ∧ (P.itc.mboxes me).mboxId = mboxId ∧
          SameIds P.itc s₁ ∧
          PosixmqProcess.deleteMbox E.tree.toTreeImpl ⟨s₁, P.posixmq, P.treeLocked⟩ me =
            some ⟨s₁, P'.posixmq, P'.treeLocked⟩) := by
  unfold itcDeleteMailboxPosixmq at hcall
  split at hcall
  · rename_i ht
    cases hcall
    refine ⟨?_, .inl ⟨rfl, rfl, rfl⟩⟩
    simp only [itcDeleteMailboxZz, ht]
  · rename_i me ht
    split at hcall
    · rename_i hid
      cases hcall
      refine ⟨?_, .inl ⟨rfl, rfl, rfl⟩⟩
      simp only [itcDeleteMailboxZz, ht, if_pos hid]
    · rename_i hid
      split at hcall
      · cases hcall
      · rename_i hp
        obtain ⟨s₁, hnotify, hcall⟩ := bind_some_eq_ok hcall rfl
        obtain ⟨⟨rc, inst, heap⟩, hlocal, hcall⟩ := bind_some_eq_ok hcall rfl
        obtain ⟨t, htree⟩ := removeMboxFromTree_eq E.toItcEnv P.itc me
        have hsame := notifyCoord_sameSlots hnotify
        have hclosed : SameIds P.itc ((removeMboxFromTree E.toItcEnv P.itc me).setMbox me
            ((removeMboxFromTree E.toItcEnv P.itc me).mboxes me).close) := by
          rw [htree]
          exact .of_update rfl rfl rfl
        have hids : SameIds P.itc (s₁.setLocal inst heap) :=
          ⟨hsame.nr.trans hclosed.nr, fun i => (hsame.mboxId i).trans (hclosed.ids i)⟩
        simp only at hcall
        split at hcall
        · rename_i hrc
          cases hcall
          refine ⟨?_, .inl ⟨rfl, rfl, rfl⟩⟩
          simp only [itcDeleteMailboxZz, ht, if_neg hid, if_neg hp, hnotify, bind, Except.bind,
            hlocal, if_pos hrc]
          rfl
        · rename_i hrc
          split at hcall
          · rename_i P₁ hdelete
            have hitc := PosixmqProcess.deleteMbox_itc hdelete
            obtain ⟨s₂, posixmq, treeLocked⟩ := P₁
            simp only at hitc
            subst hitc
            split at hcall
            · rename_i hnode
              cases hcall
              refine ⟨?_, .inr ⟨me, _, ht, (not_not.mp hid).symm, hids, hdelete⟩⟩
              simp only [itcDeleteMailboxZz, ht, if_neg hid, if_neg hp, hnotify, bind,
                Except.bind, hlocal, if_neg hrc, if_pos hnode]
              rfl
            · rename_i hnode
              cases hcall
              refine ⟨?_, .inr ⟨me, _, ht, (not_not.mp hid).symm, hids, hdelete⟩⟩
              simp only [itcDeleteMailboxZz, ht, if_neg hid, if_neg hp, hnotify, bind,
                Except.bind, hlocal, if_neg hrc, if_neg hnode]
              rfl
          · cases hcall

/-- **What an arrival does**: nothing, or it stores the message and notifies the active mailbox
that has its id. -/
theorem arrive_cases {addr num : Nat} {rxBuffer : Bytes}
    (hcall : P.arrive E addr rxBuffer num = .ok (some P')) :
    P' = P ∨ ∃ m, Stored E P rxBuffer num m ∧
      ((P.posixmq.mActiveMboxTree.find
          (compareMboxidInItcmailboxTree P.itc.mboxes m.receiver) = none ∧
        P' = { P with posixmq := P.posixmq.store E.tree.toTreeImpl addr m }) ∨
      ∃ i, P.posixmq.mActiveMboxTree.find
          (compareMboxidInItcmailboxTree P.itc.mboxes m.receiver) = some i ∧
        P' = { P with
          itc := P.itc.setRxqInfo i (P.itc.mboxes i).rxqInfo.onSend
          posixmq := P.posixmq.store E.tree.toTreeImpl addr m }) := by
  unfold PosixmqProcess.arrive at hcall
  split at hcall
  · cases hcall
  · obtain ⟨⟨posixmq, mboxes⟩, hprocess, hcall⟩ := bind_eq_ok hcall
    cases hcall
    unfold processReceivedMessage at hprocess
    split at hprocess
    · cases hprocess
      exact .inl rfl
    · rename_i hnum
      obtain ⟨o, hcopy, hprocess⟩ := bind_eq_ok hprocess
      cases o with
      | none =>
        cases hprocess
        exact .inl rfl
      | some m =>
        simp only at hprocess
        split at hprocess
        · cases hprocess
          exact .inl rfl
        · rename_i hlimit
          refine .inr ⟨m, ⟨Nat.lt_of_not_le hnum, hcopy, hlimit⟩, ?_⟩
          split at hprocess
          · rename_i hfind
            cases hprocess
            exact .inl ⟨hfind, rfl⟩
          · rename_i i hfind
            obtain ⟨mboxes', hnotify, hprocess⟩ := bind_eq_ok hprocess
            cases hprocess
            unfold notifyReceiverAboutMsgArrival at hnotify
            split at hnotify
            · cases hnotify
            · cases hnotify
              refine .inr ⟨i, hfind, ?_⟩
              have hmboxes : Function.update P.itc.mboxes i { P.itc.mboxes i with
                  rxqInfo := (P.itc.mboxes i).rxqInfo.onSend } =
                  (P.itc.setRxqInfo i (P.itc.mboxes i).rxqInfo.onSend).mboxes := by
                funext j
                by_cases hji : j = i
                · rw [hji, Function.update_self, setRxqInfo_mboxes_self]
                · rw [Function.update_of_ne hji, setRxqInfo_ne _ _ hji]
              rw [hmboxes]
              rfl

end Calls

/-! ## The invariant -/

/-- The counters of the mailboxes follow the rx queues, whatever else they count. -/
structure KeepsCounts (s : ItcInstance σ) (q : Queues) (s' : ItcInstance σ) (q' : Queues) :
    Prop where
  inv : s'.Inv q'
  queues : ∀ i, q' i = none ↔ q i = none
  counts : ∀ i l', q' i = some l' → ∃ l, q i = some l ∧ ∀ n,
    (s.mboxes i).rxqInfo.Counts (l.length + n) → (s'.mboxes i).rxqInfo.Counts (l'.length + n)

namespace KeepsCounts

variable {s s' : ItcInstance σ} {q : Queues}

theorem ofMboxes (hinv : s'.Inv q) (hmboxes : s'.mboxes = s.mboxes) : KeepsCounts s q s' q where
  inv := hinv
  queues _ := Iff.rfl
  counts i l' hq := by
    refine ⟨l', hq, fun n hn => ?_⟩
    rw [hmboxes]
    exact hn

/-- The queue of mailbox `i` and its counters change together. -/
theorem setRxqInfo {i : Nat} {l l' : List Nat} {info : RxqInfo} (hq : q i = some l)
    (hinv : (s'.setRxqInfo i info).Inv (Function.update q i (some l')))
    (hmboxes : s'.mboxes = s.mboxes)
    (hcounts : ∀ n, (s.mboxes i).rxqInfo.Counts (l.length + n) → info.Counts (l'.length + n)) :
    KeepsCounts s q (s'.setRxqInfo i info) (Function.update q i (some l')) where
  inv := hinv
  queues := update_eq_none_iff hq
  counts j l'' hj := by
    by_cases hji : j = i
    · rw [hji, Function.update_self] at hj
      cases hj
      rw [hji, setRxqInfo_mboxes_self]
      exact ⟨l, hq, hcounts⟩
    · rw [Function.update_of_ne hji] at hj
      rw [setRxqInfo_ne _ _ hji, hmboxes]
      exact ⟨l'', hj, fun _ hn => hn⟩

/-- A send to a mailbox of the process goes into its queue. -/
theorem send {E : ItcEnv σ} (h : s.Inv q) (hmem : E.qitemMem = true) {fuel tid : Nat}
    {msg : Option Nat} {toMbox fromMbox : MboxId} {r : SendResult σ}
    (hmsg : ∀ p, msg = some p → s.Held p)
    (hto : ∀ i, findMbox s toMbox = some i → (s.mboxes i).mboxId = toMbox)
    (hcall : itcSend E fuel s tid msg toMbox fromMbox = .ok (some r)) :
    ∃ q', KeepsCounts s q r.s q' := by
  cases msg with
  | none =>
    rw [itcSend_null] at hcall
    cases hcall
    exact ⟨q, .ofMboxes h rfl⟩
  | some p =>
    obtain ⟨m, hm⟩ := hmsg p rfl
    cases (itcSend_returns h hm fuel tid toMbox fromMbox).of_eq hcall with
    | rejected _ => exact ⟨q, .ofMboxes h rfl⟩
    | host _ hhost =>
      have hcopy := hhost
      cases hhost with
      | inactive _ hheap =>
        exact ⟨q, .ofMboxes (h.ofHeld hm hheap.frame)
          rfl⟩
      | refused _ _ _ hconf hheap =>
        exact ⟨q, .ofMboxes (h.ofHeap (h.messages.of_held hm hheap.frame) hconf) rfl⟩
      | @queued i l rxq heap' _ _ hq _ hholds hheap =>
        have hinv := h.setQueue (s.mboxes i).rxqInfo.onSend hq hholds
          (h.messages.enqueue hq hm hheap.self hheap.frame)
        refine ⟨_, .setRxqInfo hq hinv rfl fun n hn => ?_⟩
        have hsent := hn.onSend
        rwa [show l.length + n + 1 = (l ++ [p]).length + n by simp; omega] at hsent
      | @taken _ inst k _ hactive hlocal _ hconf _ hheap =>
        have hinv := h.ofHeap (k := k) (h.messages.of_held hm hheap.frame) hconf
        cases hfind : findMbox s toMbox with
        | none => exact ⟨q, .ofMboxes hinv rfl⟩
        | some i =>
          -- the local transport takes what is sent to a mailbox in use
          obtain rfl := hto i hfind
          rcases hcopy.ofId h hmem (h.layout.findMbox_lt hfind) with ⟨heap', hstate, -, hr⟩ |
            ⟨l, rxq, heap', hq, -, -, hr⟩
          · exact absurd ⟨i, hfind, hstate⟩ hactive
          · obtain ⟨hlt, -⟩ := h.slots.queue i (by rw [hq]; exact Option.some_ne_none l)
            refine absurd ⟨hmem, i, h.layout.findLocal_id hlt, fun hnone => ?_⟩ hlocal
            have hholds := h.holds i
            rw [hnone, hq] at hholds
            cases hholds

/-- **Calls that neither create, delete nor receive keep the counts.** -/
theorem ofStep {E : ItcEnv σ} (h : s.Inv q) (hmem : E.qitemMem = true) {a : ItcEvent}
    (hlocal : a.IsLocal) (hanswered : SlotAnswered s (.other a))
    (hto : ∀ tid msg toMbox fromMbox ret, a = .send tid msg toMbox fromMbox ret →
      ∀ i, findMbox s toMbox = some i → (s.mboxes i).mboxId = toMbox)
    (hstep : ItcStep E s a s') : ∃ q', KeepsCounts s q s' q' := by
  cases hstep with
  | alloc call => exact ⟨q, .ofMboxes (h.ofHeap (h.messages.alloc _) h.layout.sysvmqInst) rfl⟩
  | write call =>
    obtain ⟨m, hm⟩ := hanswered
    exact ⟨q, .ofMboxes (h.ofHeld hm (Heap.write_frame call)) rfl⟩
  | free call =>
    obtain ⟨m, hm⟩ := hanswered
    obtain ⟨heap', rfl, hframe⟩ := itcFree_ok hm call
    exact ⟨q, .ofMboxes (h.ofHeld hm hframe) rfl⟩
  | createMailbox _ => exact hlocal.elim
  | deleteMailbox _ => exact hlocal.elim
  | receive _ => exact hlocal.elim
  | @send _ tid msg toMbox fromMbox r call =>
    exact send h hmem (fun p hp => hanswered _ (by rw [hp, Option.map_some]))
      (hto tid _ toMbox fromMbox _ rfl) call
  | getFd call =>
    rcases itcGetFd_cases h call with rfl | ⟨me, l, -, hq, rfl, hinv⟩
    · exact ⟨q, .ofMboxes h rfl⟩
    · have hself : Function.update q me (some l) = q := by rw [← hq, Function.update_eq_self]
      rw [← hself] at hinv
      exact ⟨_, .setRxqInfo hq hinv rfl fun n hn => hn.onGetFd⟩

end KeepsCounts

namespace PosixmqProcess

/-- The process holds the local queues `q`; the plugin knows the mailboxes that have one, and
each of them counts its messages. No message waits for a mailbox that has none. -/
structure Inv (P : PosixmqProcess σ) (q : Queues) : Prop where
  itc : P.itc.Inv q
  order : Ordered compare id P.posixmq.itcMessageBufferTree.toList
  activeOrder : Ordered compare (idOf P.itc.mboxes) P.posixmq.mActiveMboxTree.toList
  active : ∀ i, i ∈ P.posixmq.mActiveMboxTree.toList ↔ q i ≠ none
  counts : ∀ i l, q i = some l → (P.itc.mboxes i).rxqInfo.Counts
    (l.length + bufferedFor P.posixmq (P.itc.mboxes i).mboxId)
  idle : ∀ i, i < P.itc.nrMboxes.toNat → q i = none →
    bufferedFor P.posixmq (P.itc.mboxes i).mboxId = 0
  unlocked : P.treeLocked = false

theorem Inv.init (proc : Nat) {nrMboxes : UInt32} (hpos : nrMboxes ≠ 0)
    (hlt : nrMboxes.toNat < 2 ^ mboxBits) (maxMsgsize : Nat) (kernel : σ) :
    (PosixmqProcess.init proc nrMboxes maxMsgsize kernel).Inv fun _ => none where
  itc := .init proc hpos hlt maxMsgsize kernel
  order := .nil
  activeOrder := .nil
  active i := by simp [PosixmqProcess.init, PosixmqInst.init, SearchTree.Tree.toList]
  counts i l hq := by cases hq
  idle _ _ _ := rfl
  unlocked := rfl

variable {P P' : PosixmqProcess σ} {q : Queues}

theorem Inv.counted (h : P.Inv q) : MailboxesCounted P := by
  intro i hi hinuse
  obtain ⟨l, hq⟩ := Option.ne_none_iff_exists'.mp (h.itc.slots.inuse i hi hinuse)
  obtain ⟨rxq, hrxq, hl⟩ := (h.itc.holds.iff i l).mpr hq
  exact ⟨rxq, l, hrxq, hl, (h.counts i l hq).rxqLen⟩

/-- The ids of the mailboxes that have a queue differ. -/
theorem Inv.ids_inj (h : P.Inv q) {i j : Nat} (hi : i < P.itc.nrMboxes.toNat) (hj : q j ≠ none)
    (heq : (P.itc.mboxes i).mboxId = (P.itc.mboxes j).mboxId) : i = j :=
  h.itc.layout.ids_inj hi (h.itc.slots.queue j hj).1 heq

/-- A call that leaves the plugin alone and keeps the counts. -/
theorem Inv.ofKeepsCounts (h : P.Inv q) {s' : ItcInstance σ} {q' : Queues}
    (hkeeps : KeepsCounts P.itc q s' q') (hids : SameIds P.itc s') :
    ({ P with itc := s' } : PosixmqProcess σ).Inv q' where
  itc := hkeeps.inv
  order := h.order
  activeOrder := h.activeOrder.congr fun i _ => hids.ids i
  active i := (h.active i).trans (not_congr (hkeeps.queues i).symm)
  counts i l' hq := by
    obtain ⟨l, hl, hcounts⟩ := hkeeps.counts i l' hq
    simp only [hids.ids]
    exact hcounts _ (h.counts i l hl)
  idle i hi hq := by
    simp only [hids.ids]
    exact h.idle i (hids.nr ▸ hi) ((hkeeps.queues i).mp hq)
  unlocked := h.unlocked

/-- A message that arrives for a mailbox in use is counted there, and one for no mailbox of the
process nowhere. -/
theorem Inv.arrive (h : P.Inv q) {addr num : Nat} {rxBuffer : Bytes}
    (haddr : addr ∉ P.posixmq.itcMessageBufferTree.toList)
    (hsettled : Settled E P (.arrive addr rxBuffer num))
    (hcall : P.arrive E addr rxBuffer num = .ok (some P')) : P'.Inv q := by
  rcases arrive_cases hcall with rfl | ⟨m, hcopy, hnotified⟩
  · exact h
  · obtain ⟨hord, hbuffered⟩ := store_spec E.tree m h.order haddr
    have hreceiver : ∀ i, i < P.itc.nrMboxes.toNat → (P.itc.mboxes i).mboxId = m.receiver →
        q i ≠ none := fun i hi hid => h.itc.slots.inuse i hi (hsettled m hcopy i hi hid)
    have hidle : ∀ i, i < P.itc.nrMboxes.toNat → q i = none →
        bufferedFor (P.posixmq.store E.tree.toTreeImpl addr m) (P.itc.mboxes i).mboxId = 0 := by
      intro i hi hq
      have hne : m.receiver ≠ (P.itc.mboxes i).mboxId := fun heq => hreceiver i hi heq.symm hq
      rw [hbuffered, if_neg hne, h.idle i hi hq]
    rw [compareMboxidInItcmailboxTree_eq] at hnotified
    rcases hnotified with ⟨hnone, rfl⟩ | ⟨i, hsome, rfl⟩
    · refine ⟨h.itc, hord, h.activeOrder, h.active, fun j l hq => ?_, hidle, h.unlocked⟩
      have hj : q j ≠ none := by rw [hq]; exact Option.some_ne_none l
      have hne : m.receiver ≠ (P.itc.mboxes j).mboxId := by
        intro heq
        have hfound := (find_byKey h.activeOrder).mpr ⟨(h.active j).mpr hj, heq.symm⟩
        rw [hnone] at hfound
        cases hfound
      rw [hbuffered, if_neg hne, Nat.add_zero]
      exact h.counts j l hq
    · obtain ⟨hmem, hid⟩ := (find_byKey h.activeOrder).mp hsome
      have hi := (h.active i).mp hmem
      have hids : SameIds P.itc (P.itc.setRxqInfo i (P.itc.mboxes i).rxqInfo.onSend) :=
        .of_update rfl rfl rfl
      refine ⟨h.itc.setRxqInfo fun hnone => absurd hnone hi, hord,
        h.activeOrder.congr fun j _ => hids.ids j, h.active, fun j l hq => ?_, fun j hj hq => ?_,
        h.unlocked⟩
      · simp only [hids.ids, hbuffered]
        by_cases hji : j = i
        · subst hji
          have hcount := (h.counts j l hq).onSend
          have hid' : m.receiver = (P.itc.mboxes j).mboxId := hid.symm
          rw [setRxqInfo_mboxes_self, if_pos hid']
          exact hcount
        · have hj : q j ≠ none := by rw [hq]; exact Option.some_ne_none l
          have hne : m.receiver ≠ (P.itc.mboxes j).mboxId := by
            intro heq
            have hjlt := (h.itc.slots.queue j hj).1
            exact hji (h.ids_inj hjlt hi (heq.symm.trans hid.symm))
          rw [setRxqInfo_ne _ _ hji, if_neg hne, Nat.add_zero]
          exact h.counts j l hq
      · simp only [hids.ids]
        exact hidle j hj hq

theorem createMbox_eq {impl : TreeImpl Nat} {i : Nat} (hlocked : P.treeLocked = false)
    {inst : PosixmqInst} (hcreate : posixmqCreateMbox impl P.posixmq P.itc.mboxes i = some inst) :
    P.createMbox impl i = some { P with posixmq := inst } := by
  simp only [createMbox, hlocked, Bool.false_eq_true, if_false, hcreate]

theorem deleteMbox_eq {impl : TreeImpl Nat} {i : Nat} (hlocked : P.treeLocked = false)
    {inst : PosixmqInst} (hdelete : posixmqDeleteMbox impl P.posixmq P.itc.mboxes i = some inst) :
    P.deleteMbox impl i = some { P with posixmq := inst } := by
  simp only [deleteMbox, hlocked, Bool.false_eq_true, if_false, hdelete]

/-- The slot of a create whose name is too long is not given out any more. -/
theorem Inv.setFree (h : P.Inv q) {i : Nat} {rest : List Nat}
    (hfree : P.itc.freeMboxesQueue = i :: rest) :
    ({ P with itc := P.itc.setFree rest } : PosixmqProcess σ).Inv q := by
  have hnodup := h.itc.slots.freeNodup
  rw [hfree] at hnodup
  have hinv : (P.itc.setFree rest).Inv q :=
    ⟨{ h.itc.layout with }, h.itc.holds, h.itc.messages, { h.itc.slots with
      freeNodup := (List.nodup_cons.mp hnodup).2
      free := fun j hj => h.itc.slots.free j (by rw [hfree]; exact List.mem_cons_of_mem i hj) }⟩
  exact h.ofKeepsCounts (.ofMboxes hinv rfl) (.of_eq rfl rfl)

/-- The plugin's part of a create: a mailbox that has no queue becomes active. -/
theorem Inv.activate (h : P.Inv q) {s₁ : ItcInstance σ} {posixmq : PosixmqInst}
    {treeLocked : Bool} {impl : TreeImpl Nat} {i : Nat} (hi : i < P.itc.nrMboxes.toNat)
    (hq : q i = none) (hids : SameIds P.itc s₁)
    (hcreate : PosixmqProcess.createMbox impl ⟨s₁, P.posixmq, P.treeLocked⟩ i =
      some ⟨s₁, posixmq, treeLocked⟩) :
    ∃ t, posixmq = { P.posixmq with mActiveMboxTree := t } ∧ treeLocked = false ∧
      Ordered compare (idOf P.itc.mboxes) t.toList ∧
      ∀ j, j ∈ t.toList ↔ j = i ∨ j ∈ P.posixmq.mActiveMboxTree.toList := by
  have hidOf : idOf s₁.mboxes = idOf P.itc.mboxes := funext hids.ids
  have hnew : ∀ j ∈ P.posixmq.mActiveMboxTree.toList, idOf s₁.mboxes j ≠ idOf s₁.mboxes i := by
    intro j hj heq
    have hqj := (h.active j).mp hj
    rw [hidOf] at heq
    have hij := h.ids_inj hi hqj heq.symm
    exact hqj (hij ▸ hq)
  obtain ⟨t, hspec, hord, hmem⟩ :=
    posixmqCreateMbox_spec impl (hidOf ▸ h.activeOrder) hnew
  rw [createMbox_eq (P := ⟨s₁, P.posixmq, P.treeLocked⟩) h.unlocked hspec, Option.some.injEq,
    PosixmqProcess.mk.injEq] at hcreate
  obtain ⟨-, rfl, rfl⟩ := hcreate
  exact ⟨t, rfl, h.unlocked, hidOf ▸ hord, hmem⟩

/-- A mailbox that is created has no message: there was none for it in the buffer. -/
theorem Inv.createMailbox (h : P.Inv q) {fuel tid : Nat} {name : CString} {flags : UInt32}
    {answers : CreateAnswers} {ret : MboxId}
    (hsettled : Settled E P (.createMailbox tid name flags answers ret))
    (hcall : itcCreateMailboxPosixmq E fuel answers P tid name flags = .ok (some (ret, P'))) :
    ∃ q', P'.Inv q' ∧ StartsEmpty P' (.createMailbox tid name flags answers ret) := by
  obtain ⟨hzz, hplugin⟩ := itcCreateMailboxPosixmq_eq hcall
  obtain ⟨s', posixmq, treeLocked⟩ := P'
  simp only at hzz hplugin
  have hcase := createMailbox_cases hzz
  cases hcase with
  | refused hno =>
    rcases hplugin with ⟨-, rfl, rfl⟩ | ⟨i, rest, s₁, ht, hfree, -⟩
    · exact ⟨q, h, fun hne => absurd rfl hne⟩
    · rcases hno with hno | hno
      · exact absurd ht hno
      · rw [hfree] at hno
        cases hno
  | noRc ht hrc =>
    rw [(hsettled ht).1] at hrc
    cases hrc
  | tooLong ht hfree hlong =>
    rcases hplugin with ⟨-, rfl, rfl⟩ | ⟨i, rest, s₁, -, -, hname, -⟩
    · exact ⟨q, h.setFree hfree, fun hne => absurd rfl hne⟩
    · omega
  | @failed i rest rc inst ht _ hfree hname hlocal hfailed =>
    obtain ⟨hi, hq⟩ := h.itc.slots.free i (by rw [hfree]; exact List.mem_cons_self)
    obtain ⟨hrxq, hset⟩ := (hsettled ht).2 (by rw [hfree]; exact List.cons_ne_nil _ _) hname
    obtain ⟨hcreate, -⟩ := localCreateMbox_spec h.itc.holds (h.itc.layout.findLocal_id hi) flags hq
    rw [hrxq, localCreateMboxMem_true, hcreate, Prod.mk.injEq] at hlocal
    rcases hfailed with hfailed | hfailed
    · exact absurd hlocal.1.symm hfailed
    · rw [hset] at hfailed
      cases hfailed
  | @created i rest inst _ ht hrc hfree hname hlocal hsame =>
    obtain ⟨hi, hq⟩ := h.itc.slots.free i (by rw [hfree]; exact List.mem_cons_self)
    obtain ⟨hrxq, hset⟩ := (hsettled ht).2 (by rw [hfree]; exact List.cons_ne_nil _ _) hname
    have hne := h.itc.layout.id_ne hi
    have hcreated :=
      (itcCreateMailboxZz_returns h.itc hname hrc hrxq hset fuel tid flags).of_eq hzz
    generalize hr : ((P.itc.mboxes i).mboxId, s') = r at hcreated
    cases hcreated with
    | failed => exact absurd (congrArg Prod.fst hr) hne
    | @created i' rest' s₁ _ hfree' hinv hheap hmboxes hnr hthread =>
      rw [hfree] at hfree'
      cases hfree'
      cases hr
      rcases hplugin with ⟨hno, -⟩ | ⟨i', rest', s₁, -, hfree', -, hids₁, hcreate⟩
      · exact absurd (hno fun _ => hrc) hne
      · rw [hfree] at hfree'
        cases hfree'
        obtain ⟨t, rfl, rfl, hord, hmem⟩ := h.activate hi hq hids₁ hcreate
        have hids : SameIds P.itc s' := .of_update hnr hmboxes (ItcMailbox.create_mboxId _ _ _ _)
        have hself : s'.mboxes i = (P.itc.mboxes i).create tid name flags := by
          rw [hmboxes]
          exact if_pos rfl
        have hzero : bufferedFor P.posixmq (P.itc.mboxes i).mboxId = 0 := h.idle i hi hq
        have hbuffered : bufferedFor { P.posixmq with mActiveMboxTree := t } =
            bufferedFor P.posixmq := bufferedFor_congr rfl rfl
        obtain ⟨rxq, hrxq, hl⟩ :=
          (hinv.holds.iff i []).mpr (Function.update_self i (some []) q)
        refine ⟨_, ⟨hinv, h.order, hord.congr fun j _ => hids.ids j, fun j => ?_, fun j l hj => ?_,
          fun j hj hqj => ?_, rfl⟩, fun _ => ⟨i, rxq, ?_, hids.ids i, ?_, hrxq, hl, ?_⟩⟩
        · rw [hmem, h.active]
          by_cases hji : j = i
          · rw [hji, Function.update_self]
            exact iff_of_true (.inl rfl) (Option.some_ne_none _)
          · rw [Function.update_of_ne hji, or_iff_right hji]
        · simp only [hids.ids, hbuffered]
          by_cases hji : j = i
          · rw [hji, Function.update_self] at hj
            cases hj
            rw [hji, hself, hzero]
            refine ⟨rfl, fun hfd => ?_⟩
            exact absurd ((h.itc.slots.closed i hq).symm.trans hfd) Bool.false_ne_true
          · rw [Function.update_of_ne hji] at hj
            rw [hmboxes]
            simp only [if_neg hji]
            exact h.counts j l hj
        · simp only [hids.ids, hbuffered]
          have hji : j ≠ i := by
            rintro rfl
            rw [Function.update_self] at hqj
            cases hqj
          rw [Function.update_of_ne hji] at hqj
          exact h.idle j (by rw [← hnr]; exact hj) hqj
        · rw [hthread]
          exact if_pos rfl
        · rw [hself]
          rfl
        · rw [hbuffered]
          exact hzero

/-- The plugin's part of a delete: a mailbox that has a queue is active no more. -/
theorem Inv.deactivate (h : P.Inv q) {s₁ : ItcInstance σ} {posixmq : PosixmqInst}
    {treeLocked : Bool} {impl : TreeImpl Nat} {me : Nat} (hq : q me ≠ none)
    (hids : SameIds P.itc s₁)
    (hdelete : PosixmqProcess.deleteMbox impl ⟨s₁, P.posixmq, P.treeLocked⟩ me =
      some ⟨s₁, posixmq, treeLocked⟩) :
    ∃ t, posixmq = { P.posixmq with mActiveMboxTree := t } ∧ treeLocked = false ∧
      Ordered compare (idOf P.itc.mboxes) t.toList ∧
      ∀ j, j ∈ t.toList ↔ j ≠ me ∧ j ∈ P.posixmq.mActiveMboxTree.toList := by
  have hidOf : idOf s₁.mboxes = idOf P.itc.mboxes := funext hids.ids
  obtain ⟨t, hspec, hord, hmem⟩ :=
    posixmqDeleteMbox_spec impl (hidOf ▸ h.activeOrder) ((h.active me).mpr hq)
  rw [deleteMbox_eq (P := ⟨s₁, P.posixmq, P.treeLocked⟩) h.unlocked hspec, Option.some.injEq,
    PosixmqProcess.mk.injEq] at hdelete
  obtain ⟨-, rfl, rfl⟩ := hdelete
  exact ⟨t, rfl, h.unlocked, hidOf ▸ hord, hmem⟩

/-- A mailbox that is deleted leaves no message behind: its queue goes, and there was none for it
in the buffer. -/
theorem Inv.deleteMailbox (h : P.Inv q) {fuel tid : Nat} {mboxId : MboxId} {node ret : Bool}
    (hsettled : Settled E P (.deleteMailbox tid mboxId node ret))
    (hcall : itcDeleteMailboxPosixmq E fuel node P tid mboxId = .ok (some (ret, P'))) :
    ∃ q', P'.Inv q' := by
  obtain ⟨hzz, hplugin⟩ := itcDeleteMailboxPosixmq_eq hcall
  obtain ⟨s', posixmq, treeLocked⟩ := P'
  simp only at hzz hplugin
  by_cases hmy : ∃ me, P.itc.myThreadlocalMbox tid = some me ∧ (P.itc.mboxes me).mboxId = mboxId
  · obtain rfl := hsettled.1 hmy
    have hzero := hsettled.2 hmy
    rw [itcDeleteMailboxZz_true] at hzz
    have hdeleted := (itcDeleteMailbox_returns h.itc fuel tid mboxId).of_eq hzz
    cases hdeleted with
    | failed hno =>
      obtain ⟨me, ht, hid⟩ := hmy
      exact absurd hid.symm (hno me ht)
    | @deleted me l s₁ ht hid hq hinv hfreed hheap hmboxes hnr hthread =>
      have hne : q me ≠ none := by rw [hq]; exact Option.some_ne_none l
      rcases hplugin with ⟨hret, -⟩ | ⟨me', s₁, ht', -, hids₁, hdelete⟩
      · cases hret
      · rw [ht] at ht'
        cases ht'
        obtain ⟨t, rfl, rfl, hord, hmem⟩ := h.deactivate hne hids₁ hdelete
        have hids : SameIds P.itc s' := .of_update hnr hmboxes rfl
        have hbuffered : bufferedFor { P.posixmq with mActiveMboxTree := t } =
            bufferedFor P.posixmq := bufferedFor_congr rfl rfl
        refine ⟨_, hinv, h.order, hord.congr fun j _ => hids.ids j, fun j => ?_,
          fun j l' hj => ?_, fun j hj hqj => ?_, rfl⟩
        · rw [hmem, h.active]
          by_cases hjm : j = me
          · rw [hjm, Function.update_self]
            exact iff_of_false (fun hboth => hboth.1 rfl) (fun hnone => hnone rfl)
          · rw [Function.update_of_ne hjm, and_iff_right hjm]
        · simp only [hids.ids, hbuffered]
          have hjm : j ≠ me := by
            rintro rfl
            rw [Function.update_self] at hj
            cases hj
          rw [Function.update_of_ne hjm] at hj
          rw [hmboxes]
          simp only [if_neg hjm]
          exact h.counts j l' hj
        · simp only [hids.ids, hbuffered]
          by_cases hjm : j = me
          · rw [hjm, ← hid]
            exact hzero
          · rw [Function.update_of_ne hjm] at hqj
            exact h.idle j (by rw [← hnr]; exact hj) hqj
  · have hno : ∀ me, P.itc.myThreadlocalMbox tid = some me → (P.itc.mboxes me).mboxId ≠ mboxId :=
      fun me ht hid => hmy ⟨me, ht, hid⟩
    rw [deleteMailbox_refused hmy] at hzz
    cases hzz
    rcases hplugin with ⟨-, rfl, rfl⟩ | ⟨me, -, ht, hid, -⟩
    · exact ⟨q, h⟩
    · exact absurd hid (hno me ht)

/-- A receive takes a message of the local queue, or else one of the buffer, and counts it. -/
theorem Inv.receive (h : P.Inv q) {tid : Nat} {ret : Option Nat}
    (hcall : itcReceivePosixmq E P tid = .ok (some (ret, P'))) : ∃ q', P'.Inv q' := by
  unfold itcReceivePosixmq at hcall
  split at hcall
  · cases hcall
    exact ⟨q, h⟩
  · rename_i me ht
    obtain ⟨l, hq⟩ := Option.ne_none_iff_exists'.mp (h.itc.slots.thread tid me ht)
    obtain ⟨hlt, hp⟩ := h.itc.slots.queue me (by rw [hq]; exact Option.some_ne_none l)
    have hfind := h.itc.layout.findLocal_id hlt
    have hcount := h.counts me l hq
    simp only [hp, not_true_eq_false, if_false] at hcall
    cases l with
    | cons p l =>
      -- the local queue has a message
      obtain ⟨m, hm⟩ := h.itc.messages.queued me _ hq p List.mem_cons_self
      obtain ⟨rxq, heap', hrecv, hholds, hself, hframe, hnext⟩ :=
        localReceive_cons h.itc.holds hfind hq hm
      have hcons : ∀ n, (p :: l).length + n = l.length + n + 1 := by
        intro n
        rw [List.length_cons]
        omega
      rw [hcons] at hcount
      obtain ⟨info, hinfo, -, -⟩ := hcount.onReceive
      simp only [hrecv, bind, Except.bind, hinfo] at hcall
      cases hcall
      have hinv := h.itc.setQueue info hq hholds (h.itc.messages.dequeue hq hframe)
      refine ⟨_, h.ofKeepsCounts (.setRxqInfo hq hinv rfl fun n hn => ?_) (.of_update rfl rfl rfl)⟩
      rw [hcons] at hn
      obtain ⟨info', hinfo', hcounts, -⟩ := hn.onReceive
      rw [hinfo, Option.some.injEq] at hinfo'
      exact hinfo' ▸ hcounts
    | nil =>
      obtain ⟨rxq, hrecv, hholds⟩ := localReceive_nil h.itc.holds hfind P.itc.heap hq
      have hself : Function.update q me (some []) = q := by rw [← hq, Function.update_eq_self]
      rw [← hself] at hholds
      have hmessages : Messages P.itc.heap (Function.update q me (some [])) := by
        rw [hself]
        exact h.itc.messages
      have hinv := fun info => h.itc.setQueue info hq hholds hmessages
      rw [hself] at hinv
      generalize hposix : posixmqReceive E.tree.toTreeImpl P.posixmq (P.itc.mboxes me).mboxId = out
        at hcall
      obtain ⟨o, inst'⟩ := out
      rcases posixmqReceive_spec h.order hposix with ⟨rfl, rfl⟩ |
        ⟨p, rfl, hord, hactive, hmine, hother⟩
      · -- neither has the buffer
        simp only [hrecv, bind, Except.bind] at hcall
        cases hcall
        refine ⟨q, h.ofKeepsCounts ⟨hinv _, fun _ => Iff.rfl, fun j l' hj => ?_⟩
          (.of_update rfl rfl rfl)⟩
        refine ⟨l', hj, fun n hn => ?_⟩
        by_cases hjm : j = me
        · subst hjm
          rw [setRxqInfo_mboxes_self]
          exact ⟨hn.rxqLen, hn.rxqFd⟩
        · rw [setRxqInfo_ne _ _ hjm]
          exact hn
      · rw [List.length_nil, Nat.zero_add, hmine] at hcount
        obtain ⟨info, hinfo, hcounts, -⟩ := hcount.onReceive
        simp only [hrecv, bind, Except.bind, hinfo] at hcall
        cases hcall
        have hheap := (hinv info).ofHeap ((hinv info).messages.alloc (P.posixmq.messages p))
          (hinv info).layout.sysvmqInst (k := P.itc.kernel)
        have hids : SameIds P.itc ((((P.itc.setLocal (P.itc.localInst.setRxq me rxq)
            P.itc.heap).alloc (P.posixmq.messages p)).2).setRxqInfo me info) :=
          .of_update rfl rfl rfl
        refine ⟨q, hheap, hord, ?_, fun j => ?_, fun j l' hj => ?_, fun j hj hqj => ?_,
          h.unlocked⟩
        · simp only [hactive]
          exact h.activeOrder.congr fun j _ => hids.ids j
        · simp only [hactive]
          exact h.active j
        · simp only [hids.ids]
          by_cases hjm : j = me
          · subst hjm
            rw [hq] at hj
            cases hj
            rw [setRxqInfo_mboxes_self, List.length_nil, Nat.zero_add]
            exact hcounts
          · have hlt' := (h.itc.slots.queue j (by rw [hj]; exact Option.some_ne_none l')).1
            have hne : (P.itc.mboxes j).mboxId ≠ (P.itc.mboxes me).mboxId := fun heq =>
              hjm (h.itc.layout.ids_inj hlt' hlt heq)
            rw [setRxqInfo_ne _ _ hjm, hother _ hne]
            exact h.counts j l' hj
        · simp only [hids.ids]
          have hne : (P.itc.mboxes j).mboxId ≠ (P.itc.mboxes me).mboxId := by
            intro heq
            rw [h.itc.layout.ids_inj hj hlt heq, hq] at hqj
            cases hqj
          rw [hother _ hne]
          exact h.idle j hj hqj

/-- **Every call, and every message that arrives, keeps the invariant.** -/
theorem Inv.step (h : P.Inv q) {ev : TurnoverEvent} (hsettled : Settled E P ev)
    (hstep : TurnoverStep E P ev P') : ∃ q', P'.Inv q' ∧ StartsEmpty P' ev := by
  cases hstep with
  | arrive haddr call => exact ⟨q, h.arrive haddr hsettled call, trivial⟩
  | createMailbox call => exact h.createMailbox hsettled call
  | deleteMailbox call =>
    obtain ⟨q', h'⟩ := h.deleteMailbox hsettled call
    exact ⟨q', h', trivial⟩
  | receive call =>
    obtain ⟨q', h'⟩ := h.receive call
    exact ⟨q', h', trivial⟩
  | @other s' a hlocal call =>
    have hsame := call.sameSlots (by cases a <;> trivial)
    have hids : SameIds P.itc s' := ⟨hsame.nr, hsame.mboxId⟩
    have hanswered : SlotAnswered P.itc (.other a) := by
      cases a <;> first | exact hsettled | exact hsettled.1
    have hto : ∀ tid msg toMbox fromMbox ret, a = .send tid msg toMbox fromMbox ret →
        ∀ i, findMbox P.itc toMbox = some i → (P.itc.mboxes i).mboxId = toMbox := by
      rintro tid msg toMbox fromMbox ret rfl
      exact hsettled.2
    obtain ⟨q', hkeeps⟩ := KeepsCounts.ofStep h.itc rfl hlocal hanswered hto call
    exact ⟨q', h.ofKeepsCounts hkeeps hids, trivial⟩

end PosixmqProcess

/-- **Along every run in which messages arrive for mailboxes in use only, and none waits in the
buffer for a mailbox that is deleted, every mailbox in use counts the messages it has, and one
that is created has none.** -/
theorem mailbox_turnover_counted (E : PosixmqEnv σ) (proc : Nat) (nrMboxes : UInt32)
    (hpos : nrMboxes ≠ 0) (hlt : nrMboxes.toNat < 2 ^ mboxBits) (maxMsgsize : Nat) (kernel : σ)
    (evs : List TurnoverEvent) (P : PosixmqProcess σ)
    (hrun : Run (Guarded (TurnoverStep E) (Settled E)) (.init proc nrMboxes maxMsgsize kernel)
      evs P) :
    MailboxesCounted P ∧
      ∀ ev P', Settled E P ev → TurnoverStep E P ev P' → StartsEmpty P' ev := by
  obtain ⟨q, h⟩ := hrun.invariant_of_guard (I := fun P => ∃ q, P.Inv q)
    (fun P ev P' ⟨q, h⟩ hsettled hstep => by
      obtain ⟨q', h', -⟩ := h.step hsettled hstep
      exact ⟨q', h'⟩)
    ⟨_, PosixmqProcess.Inv.init proc hpos hlt maxMsgsize kernel⟩
  refine ⟨h.counted, fun ev P' hsettled hstep => ?_⟩
  obtain ⟨-, -, hempty⟩ := h.step hsettled hstep
  exact hempty

/-! ## A mailbox and a message -/

/-- Calls succeed; addresses are natural numbers in their order. -/
def PosixmqEnv.willing : PosixmqEnv Unit where
  endian := .little
  malloc := .least
  kernel := ⟨fun _ index => (some index, ()), fun _ _ _ => (none, ())⟩
  tree := .plain Nat

/-- A mailbox is created, a message arrives for it and is received. -/
theorem mailbox_turnover_counted_single :
    ∃ (evs : List TurnoverEvent) (P : PosixmqProcess Unit), evs.length = 3 ∧
      P.posixmq.numMessages = 0 ∧ MailboxesCounted P := by
  let P₀ : PosixmqProcess Unit := .init 1 3 0 ()
  let c₁ := returned (0, P₀) (itcCreateMailboxPosixmq PosixmqEnv.willing 0 .all P₀ 0 .empty 0)
  let image := (arrivalFor 0x00100000).msg.image .little
  let P₂ := returned P₀ (c₁.2.arrive PosixmqEnv.willing 10 image 100)
  let r₃ := returned (none, P₀) (itcReceivePosixmq PosixmqEnv.willing P₂ 0)
  let e₁ : TurnoverEvent := .createMailbox 0 .empty 0 .all c₁.1
  let e₂ : TurnoverEvent := .arrive 10 image 100
  let e₃ : TurnoverEvent := .receive 0 r₃.1
  have hcall₁ : itcCreateMailboxPosixmq PosixmqEnv.willing 0 .all P₀ 0 .empty 0 =
      .ok (some (c₁.1, c₁.2)) := returned_eq (by decide +kernel)
  have hcall₂ : c₁.2.arrive PosixmqEnv.willing 10 image 100 = .ok (some P₂) :=
    returned_eq (by decide +kernel)
  have hcall₃ : itcReceivePosixmq PosixmqEnv.willing P₂ 0 = .ok (some (r₃.1, r₃.2)) :=
    returned_eq (by decide +kernel)
  have hempty : P₂.itc.nrMboxes.toNat = 3 ∧ r₃.2.posixmq.numMessages = 0 := by decide +kernel
  have hinuse : ∀ i, i < c₁.2.itc.nrMboxes.toNat → (c₁.2.itc.mboxes i).mboxId = 0x00100000 →
      (c₁.2.itc.mboxes i).mboxState = .inuse := by decide +kernel
  have hreceiver : ∀ m, Stored PosixmqEnv.willing c₁.2 image 100 m → m.receiver = 0x00100000 := by
    rintro m ⟨-, hcopy, -⟩
    have hcopy' := (forwardSysvmqMsg_arrivalFor 0x00100000).symm.trans hcopy
    rw [Except.ok.injEq, Option.some.injEq] at hcopy'
    exact hcopy' ▸ rfl
  have hstep₁ : Guarded (TurnoverStep PosixmqEnv.willing) (Settled PosixmqEnv.willing) P₀ e₁ c₁.2 :=
    ⟨fun _ => ⟨rfl, fun _ _ => ⟨rfl, rfl⟩⟩, .createMailbox hcall₁⟩
  have hstep₂ : Guarded (TurnoverStep PosixmqEnv.willing) (Settled PosixmqEnv.willing) c₁.2 e₂ P₂ :=
    ⟨fun m hm i hi hid => hinuse i hi (hid.trans (hreceiver m hm)),
      .arrive (by decide +kernel) hcall₂⟩
  have hstep₃ : Guarded (TurnoverStep PosixmqEnv.willing) (Settled PosixmqEnv.willing) P₂ e₃ r₃.2 :=
    ⟨trivial, .receive hcall₃⟩
  have h := mailbox_turnover_counted PosixmqEnv.willing 1 3 (by decide) (by decide) 0 () _ _
    (.cons hstep₁ (.cons hstep₂ (.cons hstep₃ (.nil _))))
  exact ⟨[e₁, e₂, e₃], _, rfl, hempty.2, h.1⟩

/-- A message that arrives before its mailbox is created waits in the buffer, and the mailbox
starts with no count of it. -/
theorem mailbox_starts_with_message :
    ∃ (P P' : PosixmqProcess Unit) (ret : MboxId),
      Run (TurnoverStep PosixmqEnv.willing) (.init 1 3 0 ())
        [.arrive 10 ((arrivalFor 0x00100000).msg.image .little) 100,
          .createMailbox 0 .empty 0 .all ret] P' ∧
      TurnoverStep PosixmqEnv.willing P (.createMailbox 0 .empty 0 .all ret) P' ∧
      bufferedFor P'.posixmq ret = 1 ∧ ¬ StartsEmpty P' (.createMailbox 0 .empty 0 .all ret) ∧
      ¬ MailboxesCounted P' := by
  let P₀ : PosixmqProcess Unit := .init 1 3 0 ()
  let image := (arrivalFor 0x00100000).msg.image .little
  let P₁ := returned P₀ (P₀.arrive PosixmqEnv.willing 10 image 100)
  have hcall₁ : P₀.arrive PosixmqEnv.willing 10 image 100 = .ok (some P₁) :=
    returned_eq (by decide +kernel)
  obtain ⟨⟨ret, P'⟩, hcall₂, hanswer⟩ := answer_eq
    (b := (([0x00100000, 0x00100000] : List MboxId), [1, 3], MboxState.inuse, (0 : Int)))
    (f := fun r : MboxId × PosixmqProcess Unit => ([r.1, (r.2.itc.mboxes 0).mboxId],
      [bufferedFor r.2.posixmq r.1, r.2.itc.nrMboxes.toNat], (r.2.itc.mboxes 0).mboxState,
      (r.2.itc.mboxes 0).rxqInfo.rxqLen))
    (by decide +kernel : (itcCreateMailboxPosixmq PosixmqEnv.willing 0 .all P₁ 0 .empty 0).map
      (Option.map _) = .ok (some _))
  simp only [Prod.mk.injEq, List.cons.injEq, and_true] at hanswer
  obtain ⟨⟨rfl, hid⟩, ⟨hbuffered, hnr⟩, hinuse, hlen⟩ := hanswer
  have hstep₁ : TurnoverStep PosixmqEnv.willing P₀ (.arrive 10 image 100) P₁ :=
    .arrive List.not_mem_nil hcall₁
  have hstep₂ : TurnoverStep PosixmqEnv.willing P₁ (.createMailbox 0 .empty 0 .all 0x00100000) P' :=
    .createMailbox hcall₂
  refine ⟨P₁, P', _, .cons hstep₁ (.cons hstep₂ (.nil _)), hstep₂, hbuffered, fun hempty => ?_,
    fun hcounted => ?_⟩
  · have hret : (0x00100000 : MboxId) ≠ ITC_NO_MBOX_ID := by decide
    obtain ⟨i, rxq, -, -, -, -, -, hzero⟩ := hempty hret
    rw [hbuffered] at hzero
    cases hzero
  · obtain ⟨rxq, l, -, -, hcount⟩ := hcounted 0 (by omega) hinuse
    rw [hlen, hid, hbuffered] at hcount
    omega

end ItcFramework
