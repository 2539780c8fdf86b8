import ItcFramework.Itc.Lifecycle
import ItcFramework.Lib.Transition
import ItcFramework.Lib.Triple

/-!
# The result code of a thread

What the calls of one thread do with its `rc`: it is allocated by the first call that needs it, and
given to the functions that may report in it. The calls are followed in all that they do to `rc`;
whatever else decides their way is part of their arguments, so that the other threads of the process
may do anything in between.

* `RcM` — programs over `rc`; a dereference or a `free` of a pointer that is not live fails.
* `RcCall.run` — the calls; `RcCall.uses` tells whether a call comes to `rc` at all.
* `MayCall` — no failed `itc_init_zz` has left `rc` dangling, and an `itc_init_zz` in a child does
  not release it and go on.
* `run_iff` — the calls that use `rc` well; `rc_valid_iff` for whole runs.
* `dangling_after_iff`, `dangling_run` — after which call `rc` is a freed block.
-/

set_option autoImplicit false

namespace ItcFramework

open ByteImage StateProgram Transition

/-- Programs over `rc`, which points to the flags. -/
abbrev RcM := StateT (Ptr UInt32) (Except MemFault)

namespace RcM

variable {α : Type}

def isNull : RcM Bool := fun rc => .ok (rc.isNull, rc)

/-- `rc->flags` -/
def flags : RcM UInt32 := fun rc => rc.read >>= fun f => .ok (f, rc)

/-- `rc->flags = f` -/
def setFlags (f : UInt32) : RcM Unit := fun rc => rc.read >>= fun _ => .ok ((), .live f)

/-- `rc` is allocated if it is `NULL`; `false` when `malloc`, which answers `mem`, fails. -/
def ensure (mem : Bool) : RcM Bool
  | .null => .ok (mem, if mem then .live 0 else .null)
  | rc => .ok (true, rc)

/-- `free(rc)` -/
def free : RcM Unit := fun rc => rc.free >>= fun p => .ok ((), p)

/-- `rc = NULL` -/
def setNull : RcM Unit := fun _ => .ok ((), .null)

/-- A function that is given `rc`, and dereferences it when it has something to report. -/
def report (f : UInt32) : RcM Unit :=
  if f = ITC_OK then pure () else do
    let g ← flags
    setFlags (g ||| f)

/-- `rc->flags = ITC_OK`, a call, and `rc->flags == ITC_OK`. -/
def succeeds (f : UInt32) : RcM Bool := do
  setFlags ITC_OK
  report f
  return (← flags) = ITC_OK

def fails (f : UInt32) : RcM Bool := do
  setFlags ITC_OK
  report f
  return (← flags) ≠ ITC_OK

/-- The first use of `rc` in a call: it is allocated if there is none, and cleared. -/
def withRc (mem : Bool) (failed : α) (body : RcM α) : RcM α := do
  if ← ensure mem then
    setFlags ITC_OK
    body
  else return failed

/-- `if(rc != NULL) { free(rc); rc = NULL; }` -/
def release : RcM Unit := do
  if ← isNull then return ()
  else
    free
    setNull

/-- `q_enqueue`, which looks at the flags in any case. -/
def qEnqueue (node : UInt32) : RcM Unit := do
  report node
  let _ ← flags

/-- `q_exit` on a queue. -/
def qExit (dequeue mtx : UInt32) : RcM Unit := do
  report dequeue
  let f ← flags
  setFlags (f &&& ~~~ITC_QUEUE_EMPTY)
  report mtx

/-! ## Messages -/

/-- What `itc_alloc_zz` is answered. -/
structure AllocAnswers where
  /-- By `malloc` for `rc`. -/
  rc : Bool
  /-- What `malloc_alloc` reports; there is no message when it does. -/
  alloc : UInt32
  deriving DecidableEq, Repr

def itcAlloc (inited : Bool) (a : AllocAnswers) : RcM Bool :=
  if ¬ inited then pure false
  else withRc a.rc false do
    report a.alloc
    setFlags ITC_OK
    return a.alloc = ITC_OK

structure FreeAnswers where
  /-- Not initialised, or the message is none that can be freed. -/
  refused : Bool
  rc : Bool
  free : UInt32
  deriving DecidableEq, Repr

def itcFree (a : FreeAnswers) : RcM Bool :=
  if a.refused then pure false
  else withRc a.rc false do
    report a.free
    return (← flags) = ITC_OK

structure SendAnswers where
  /-- Not initialised, no mailbox, to itself, from another's mailbox, or no message. -/
  refused : Bool
  rc : Bool
  /-- The receiver is in this process, and not in use. -/
  inactive : Bool
  /-- What the transports that can send report, in their order. -/
  trans : List UInt32
  deriving DecidableEq, Repr

/-- `itc_send_zz` within the host. -/
def itcSendHere (a : SendAnswers) : RcM Bool :=
  if a.refused then pure false
  else withRc a.rc false do
    if a.inactive then return false
    else forUntil succeeds a.trans

structure ReceiveAnswers where
  refused : Bool
  rc : Bool
  /-- What the transports report that are asked for a message, in all turns of the loop. -/
  polls : List UInt32
  /-- A message is there before the time is over. -/
  got : Bool
  deriving DecidableEq, Repr

def itcReceive (a : ReceiveAnswers) : RcM Bool :=
  if a.refused then pure false
  else withRc a.rc false do
    a.polls.forM fun f => do
      setFlags ITC_OK
      report f
    return a.got

structure LocateAnswers where
  refused : Bool
  foundHere : Bool
  alloc : AllocAnswers
  send : SendAnswers
  receive : ReceiveAnswers
  free : FreeAnswers
  found : Bool
  deriving DecidableEq, Repr

/-- `itc_locate_sync_zz`, `true` unless it returns `ITC_NO_MBOX_ID`. -/
def itcLocateSync (a : LocateAnswers) : RcM Bool :=
  if a.refused then pure false
  else if a.foundHere then pure true
  else do
    let _ ← itcAlloc true a.alloc
    if ← itcSendHere a.send then
      if ← itcReceive a.receive then
        let _ ← itcFree a.free
        return a.found
      -- without a message it returns `false`, which is the id 0
      else return true
    else
      let _ ← itcFree a.free
      return false

structure ForwardAnswers where
  /-- The message does not fit a packet. -/
  tooLarge : Bool
  alloc : AllocAnswers
  /-- The gateway has to be located first. -/
  locate : Option LocateAnswers
  send : SendAnswers
  free : FreeAnswers
  deriving DecidableEq, Repr

def gatewayKnown : Option LocateAnswers → RcM Bool
  | none => pure true
  | some a => itcLocateSync a

/-- `handle_forward_itc_msg_to_itcgw` -/
def handleForwardItcMsgToItcgw (a : ForwardAnswers) : RcM Bool :=
  if a.tooLarge then pure false
  else do
    let _ ← itcAlloc true a.alloc
    if ← gatewayKnown a.locate then
      if ← itcSendHere a.send then return true
      else
        let _ ← itcFree a.free
        return false
    else
      let _ ← itcFree a.free
      return false

structure SendCall where
  refused : Bool
  /-- The namespace is another's; the message is freed when it has been forwarded. -/
  forward : Option (ForwardAnswers × FreeAnswers)
  here : SendAnswers
  deriving DecidableEq, Repr

def itcSend (a : SendCall) : RcM Bool :=
  if a.refused then pure false
  else match a.forward with
    | none => itcSendHere a.here
    | some (f, free) => do
        if ← handleForwardItcMsgToItcgw f then
          let _ ← itcFree free
          return true
        else return false

/-! ## Mailboxes -/

structure NotifyAnswers where
  alloc : AllocAnswers
  send : SendAnswers
  free : FreeAnswers
  deriving DecidableEq, Repr

/-- The notification of itccoord, which itccoord does not send itself. -/
def notifyItccoord : Option NotifyAnswers → RcM Unit
  | none => pure ()
  | some a => do
      let _ ← itcAlloc true a.alloc
      if ← itcSendHere a.send then return ()
      else
        let _ ← itcFree a.free

structure CreateCall where
  /-- Not initialised, or the thread has a mailbox. -/
  refused : Bool
  rc : Bool
  dequeue : UInt32
  /-- There is a free mailbox, and the name is not too long. -/
  usable : Bool
  trans : List UInt32
  setspecific : Bool
  notify : Option NotifyAnswers
  deriving DecidableEq, Repr

/-- `itc_create_mailbox_zz` -/
def itcCreateMailbox (a : CreateCall) : RcM Bool :=
  if a.refused then pure false
  else withRc a.rc false do
    report a.dequeue
    setFlags ITC_OK
    if ¬ a.usable then return false
    else if ← forUntil fails a.trans then return false
    else if ¬ a.setspecific then return false
    else
      notifyItccoord a.notify
      return true

structure DeleteCall where
  /-- Not initialised, not the thread's mailbox, or its lock is not to be had. -/
  refused : Bool
  rc : Bool
  notify : Option NotifyAnswers
  trans : List UInt32
  node : UInt32
  deriving DecidableEq, Repr

/-- `itc_delete_mailbox_zz` -/
def itcDeleteMailbox (a : DeleteCall) : RcM Bool :=
  if a.refused then pure false
  else withRc a.rc false do
    notifyItccoord a.notify
    if ← forUntil fails a.trans then return false
    else
      setFlags ITC_OK
      qEnqueue a.node
      return (← flags) = ITC_OK

/-- `itc_get_fd_zz` -/
def itcGetFd (refused rc : Bool) : RcM Bool :=
  if refused then pure false else withRc rc false (pure true)

def deleteIfInuse : Option DeleteCall → RcM Unit
  | none => pure ()
  | some a => do
      let _ ← itcDeleteMailbox a

/-- `mailbox_destructor_at_thread_exit` -/
def mailboxDestructorAtThreadExit (delete : Option DeleteCall) : RcM Bool := do
  deleteIfInuse delete
  release
  return true

/-! ## The instance -/

structure ExitCall where
  inited : Bool
  rc : Bool
  /-- Mailboxes are still in use. -/
  running : Bool
  terminate : UInt32
  /-- The `destroy` calls for the mailboxes. -/
  sync : Bool
  trans : List UInt32
  /-- `pthread_key_delete` and the two mutexes. -/
  released : Bool
  dequeue : UInt32
  queueMtx : UInt32
  deriving DecidableEq, Repr

/-- `itc_exit_zz`; `malloc_exit` has nothing to report. -/
def itcExit (a : ExitCall) : RcM Bool :=
  if ¬ a.inited then pure false
  else withRc a.rc false do
    if a.running then return false
    else if ← fails a.terminate then return false
    else if ¬ a.sync then return false
    else if ← forUntil fails a.trans then return false
    else if ¬ a.released then return false
    else
      setFlags ITC_OK
      qExit a.dequeue a.queueMtx
      if (← flags) ≠ ITC_OK then return false
      else
        free
        setNull
        return true

/-- A mailbox in the loop of `itc_init_zz`. -/
structure MailboxAnswers where
  /-- To its attributes, its mutex and its condition variable. -/
  sync : Bool
  /-- What `q_init` reports, for the first one. -/
  queue : Option UInt32
  node : UInt32
  deriving DecidableEq, Repr

/-- What `itc_init_zz` finds when there are mailboxes already. -/
structure ReinitAnswers where
  /-- They are this process's own. -/
  samePid : Bool
  /-- `pthread_key_delete` succeeds, so that everything is released. -/
  keyDelete : Bool
  deriving DecidableEq, Repr

structure InitCall where
  rc : Bool
  reinit : Option ReinitAnswers
  threadListMtx : Bool
  maxmsgsize : UInt32
  allocInit : UInt32
  /-- What lsock reports, and whether itccoord is located; itccoord itself does not ask. -/
  locate : Option (UInt32 × Bool)
  mboxes : Bool
  mailboxes : List MailboxAnswers
  key : Bool
  locatingMtx : Bool
  trans : List UInt32
  start : UInt32
  deriving DecidableEq, Repr

/-- The mailboxes of a parent are released, and `rc` with them. -/
def InitCall.ReleasesRc (a : InitCall) : Prop :=
  ∃ r, a.reinit = some r ∧ r.samePid = false ∧ r.keyDelete = true

/-- And then the call goes on. -/
def InitCall.ReleasesFirst (a : InitCall) : Prop :=
  a.threadListMtx = true ∧ a.ReleasesRc

def locateItccoord : Option (UInt32 × Bool) → RcM Bool
  | none => pure true
  | some (f, located) => do
      report f
      if located then
        setFlags ITC_OK
        return true
      else
        -- the trace prints the flags
        let _ ← flags
        return false

def initQueue : Option UInt32 → RcM Unit
  | none => pure ()
  | some f => do
      report f
      setFlags ITC_OK

/-- One mailbox, `true` when it cannot be set up. -/
def initMailbox (a : MailboxAnswers) : RcM Bool :=
  if ¬ a.sync then pure true
  else do
    initQueue a.queue
    qEnqueue a.node
    setFlags ITC_OK
    return false

/-- `itc_init_zz` from the mutex of the thread list on, `false` where it gives up. -/
def setUp (a : InitCall) : RcM Bool :=
  if ¬ a.threadListMtx then pure false
  else do
    report a.maxmsgsize
    setFlags ITC_OK
    report a.allocInit
    setFlags ITC_OK
    if ← locateItccoord a.locate then
      if ¬ a.mboxes then return false
      else if ← forUntil initMailbox a.mailboxes then return false
      else if ¬ a.key then return false
      else if ¬ a.locatingMtx then return false
      else if ← forUntil fails a.trans then return false
      else
        report a.start
        return (← flags) = ITC_OK
    else return false

/-- `release_all_itc_resources` -/
def releaseAllItcResources (keyDelete : Bool) : RcM Unit := if keyDelete then release else pure ()

/-- `itc_init_zz` once it has its `rc`, `false` where it gives up. -/
def initInst (a : InitCall) : RcM Bool :=
  match a.reinit with
  | none => setUp a
  | some r =>
      if r.samePid then pure false
      else do
        -- `itci_alloc_exit`, which has nothing to report
        setFlags ITC_OK
        releaseAllItcResources r.keyDelete
        setUp a

/-- Wherever `itc_init_zz` gives up it frees `rc`, and leaves it as it is. -/
def initOrFree (a : InitCall) : RcM Bool := do
  if ← initInst a then return true
  else
    free
    return false

/-- `itc_init_zz` -/
def itcInit (a : InitCall) : RcM Bool := do
  if ← isNull then
    if ← ensure a.rc then initOrFree a else return false
  else
    setFlags ITC_OK
    initOrFree a

end RcM

open RcM

/-! ## The calls of a thread -/

inductive RcCall where
  | init (a : InitCall)
  | exit (a : ExitCall)
  | alloc (inited : Bool) (a : AllocAnswers)
  | free (a : FreeAnswers)
  | createMailbox (a : CreateCall)
  | deleteMailbox (a : DeleteCall)
  | send (a : SendCall)
  | receive (a : ReceiveAnswers)
  | getFd (refused rc : Bool)
  /-- The end of the thread. -/
  | threadExit (delete : Option DeleteCall)
  deriving DecidableEq, Repr

namespace RcCall

def run : RcCall → RcM Bool
  | .init a => RcM.itcInit a
  | .exit a => RcM.itcExit a
  | .alloc inited a => RcM.itcAlloc inited a
  | .free a => RcM.itcFree a
  | .createMailbox a => RcM.itcCreateMailbox a
  | .deleteMailbox a => RcM.itcDeleteMailbox a
  | .send a => RcM.itcSend a
  | .receive a => RcM.itcReceive a
  | .getFd refused rc => RcM.itcGetFd refused rc
  | .threadExit delete => RcM.mailboxDestructorAtThreadExit delete

/-- The call comes to `rc`. -/
def uses : RcCall → Bool
  | .init _ => true
  | .exit a => a.inited
  | .alloc inited _ => inited
  | .free a => !a.refused
  | .createMailbox a => !a.refused
  | .deleteMailbox a => !a.refused
  | .send a => !a.refused && match a.forward with
      | none => !a.here.refused
      | some (f, _) => !f.tooLarge
  | .receive a => !a.refused
  | .getFd refused _ => !refused
  | .threadExit _ => true

/-- An `itc_init_zz` in a child, which releases `rc` and goes on. -/
def GoesOnWithout (rc : Ptr UInt32) : RcCall → Prop
  | .init a => ¬ (rc = .null ∧ a.rc = false) ∧ a.ReleasesFirst
  | _ => False

/-- `rc` is not a freed block where the call uses it, and the call does not lose it. -/
structure MayUse (c : RcCall) (rc : Ptr UInt32) : Prop where
  valid : c.uses = true → rc ≠ .dangling
  keeps : ¬ c.GoesOnWithout rc

end RcCall

/-! ## What a live `rc` allows -/

/-- `rc` points to a result code. -/
def Live (rc : Ptr UInt32) : Prop := ∃ f, rc = .live f

/-- `rc` is not a freed block. -/
def Valid (rc : Ptr UInt32) : Prop := rc ≠ .dangling

theorem Live.valid {rc : Ptr UInt32} (h : Live rc) : Valid rc := by
  obtain ⟨f, rfl⟩ := h
  exact fun hno => by cases hno

/-- A condition that a live `rc` meets and a dangling one does not. -/
structure Between (P : Ptr UInt32 → Prop) : Prop where
  of_live : ∀ rc, Live rc → P rc
  valid : ∀ rc, P rc → Valid rc

theorem Between.live : Between Live := ⟨fun _ h => h, fun _ h => h.valid⟩

theorem Between.nonDangling : Between Valid := ⟨fun _ h => h.valid, fun _ h => h⟩

namespace RcM

variable {α : Type}

theorem keeps_flags : Keeps Live flags := by
  rintro _ ⟨f, rfl⟩
  exact ⟨f, .live f, rfl, f, rfl⟩

theorem keeps_setFlags (f : UInt32) : Keeps Live (setFlags f) := by
  rintro _ ⟨g, rfl⟩
  exact ⟨(), .live f, rfl, f, rfl⟩

theorem keeps_report (f : UInt32) : Keeps Live (report f) :=
  Triple.ite (fun _ => Keeps.pure) fun _ => Keeps.bind keeps_flags fun _ => keeps_setFlags _

theorem keeps_succeeds (f : UInt32) : Keeps Live (succeeds f) :=
  Keeps.bind (keeps_setFlags _) fun _ => Keeps.bind (keeps_report f) fun _ =>
    Keeps.bind keeps_flags fun _ => Keeps.pure

theorem keeps_fails (f : UInt32) : Keeps Live (fails f) :=
  Keeps.bind (keeps_setFlags _) fun _ => Keeps.bind (keeps_report f) fun _ =>
    Keeps.bind keeps_flags fun _ => Keeps.pure

theorem keeps_qEnqueue (node : UInt32) : Keeps Live (qEnqueue node) :=
  Keeps.bind (keeps_report node) fun _ => Keeps.bind keeps_flags fun _ => Keeps.pure

section Calls

variable {P : Ptr UInt32 → Prop}

/-- A call that finds an `rc`, or can make one, does its work with a live one. -/
theorem triple_withRc {mem : Bool} {failed : α} {body : RcM α} (hP : Between P)
    (h : Triple Live body fun _ => P) : Keeps P (withRc mem failed body) := by
  intro rc hrc
  obtain ⟨a, rc', hbody, hend⟩ := h (.live ITC_OK) ⟨_, rfl⟩
  cases rc with
  | null =>
    cases mem with
    | true => exact ⟨a, rc', hbody, hend⟩
    | false => exact ⟨failed, .null, rfl, hrc⟩
  | live f => exact ⟨a, rc', hbody, hend⟩
  | dangling => exact absurd rfl (hP.valid _ hrc)

theorem keeps_withRc {mem : Bool} {failed : α} {body : RcM α} (hP : Between P)
    (h : Keeps Live body) : Keeps P (withRc mem failed body) :=
  triple_withRc hP (h.conseq (fun _ hrc => hrc) fun _ rc hrc => hP.of_live rc hrc)

theorem withRc_dangling (mem : Bool) (failed : α) (body : RcM α) :
    withRc mem failed body .dangling = .error .useAfterFree := rfl

/-! ### Messages -/

theorem keeps_itcAlloc (hP : Between P) (inited : Bool) (a : AllocAnswers) : Keeps P (itcAlloc inited a) :=
  Triple.ite (fun _ => Keeps.pure) fun _ => keeps_withRc hP <|
    Keeps.bind (keeps_report _) fun _ => Keeps.bind (keeps_setFlags _) fun _ => Keeps.pure

theorem keeps_itcFree (hP : Between P) (a : FreeAnswers) : Keeps P (itcFree a) :=
  Triple.ite (fun _ => Keeps.pure) fun _ => keeps_withRc hP <|
    Keeps.bind (keeps_report _) fun _ => Keeps.bind keeps_flags fun _ => Keeps.pure

theorem keeps_itcSendHere (hP : Between P) (a : SendAnswers) : Keeps P (itcSendHere a) :=
  Triple.ite (fun _ => Keeps.pure) fun _ => keeps_withRc hP <|
    Triple.ite (fun _ => Keeps.pure) fun _ => Keeps.forUntil keeps_succeeds _

theorem keeps_itcReceive (hP : Between P) (a : ReceiveAnswers) : Keeps P (itcReceive a) :=
  Triple.ite (fun _ => Keeps.pure) fun _ => keeps_withRc hP <|
    Keeps.bind (Keeps.forM (fun f => Keeps.bind (keeps_setFlags _) fun _ => keeps_report f) _)
      fun _ => Keeps.pure

theorem keeps_itcLocateSync (hP : Between P) (a : LocateAnswers) : Keeps P (itcLocateSync a) := by
  refine Triple.ite (fun _ => Keeps.pure) fun _ => Triple.ite (fun _ => Keeps.pure) fun _ => ?_
  refine Keeps.bind (keeps_itcAlloc hP _ _) fun _ => Keeps.bind (keeps_itcSendHere hP _) fun _ => ?_
  refine Triple.ite (fun _ => ?_) fun _ => ?_
  · refine Keeps.bind (keeps_itcReceive hP _) fun _ => Triple.ite (fun _ => ?_) fun _ => Keeps.pure
    exact Keeps.bind (keeps_itcFree hP _) fun _ => Keeps.pure
  · exact Keeps.bind (keeps_itcFree hP _) fun _ => Keeps.pure

theorem keeps_gatewayKnown (hP : Between P) (locate : Option LocateAnswers) : Keeps P (gatewayKnown locate) := by
  cases locate with
  | none => exact Keeps.pure
  | some a => exact keeps_itcLocateSync hP a

theorem keeps_handleForward (hP : Between P) (a : ForwardAnswers) : Keeps P (handleForwardItcMsgToItcgw a) := by
  refine Triple.ite (fun _ => Keeps.pure) fun _ => Keeps.bind (keeps_itcAlloc hP _ _) fun _ => ?_
  refine Keeps.bind (keeps_gatewayKnown hP _) fun _ => Triple.ite (fun _ => ?_) fun _ => ?_
  · refine Keeps.bind (keeps_itcSendHere hP _) fun _ => Triple.ite (fun _ => Keeps.pure) fun _ => ?_
    exact Keeps.bind (keeps_itcFree hP _) fun _ => Keeps.pure
  · exact Keeps.bind (keeps_itcFree hP _) fun _ => Keeps.pure

theorem keeps_notifyItccoord (hP : Between P) (notify : Option NotifyAnswers) :
    Keeps P (notifyItccoord notify) := by
  cases notify with
  | none => exact Keeps.pure
  | some a =>
    refine Keeps.bind (keeps_itcAlloc hP _ _) fun _ => Keeps.bind (keeps_itcSendHere hP _) fun _ => ?_
    exact Triple.ite (fun _ => Keeps.pure) fun _ => Keeps.bind (keeps_itcFree hP _) fun _ => Keeps.pure

theorem keeps_itcSend (hP : Between P) (a : SendCall) : Keeps P (itcSend a) := by
  refine Triple.ite (fun _ => Keeps.pure) fun _ => ?_
  rcases a.forward with - | ⟨f, free⟩
  · exact keeps_itcSendHere hP _
  · refine Keeps.bind (keeps_handleForward hP f) fun _ => Triple.ite (fun _ => ?_) fun _ => Keeps.pure
    exact Keeps.bind (keeps_itcFree hP _) fun _ => Keeps.pure

/-! ### Mailboxes -/

theorem keeps_itcCreateMailbox (hP : Between P) (a : CreateCall) :
    Keeps P (itcCreateMailbox a) := by
  refine Triple.ite (fun _ => Keeps.pure) fun _ => keeps_withRc hP ?_
  refine Keeps.bind (keeps_report _) fun _ => Keeps.bind (keeps_setFlags _) fun _ => ?_
  refine Triple.ite (fun _ => Keeps.pure) fun _ => ?_
  refine Keeps.bind (Keeps.forUntil keeps_fails _) fun _ => Triple.ite (fun _ => Keeps.pure) fun _ => ?_
  refine Triple.ite (fun _ => Keeps.pure) fun _ => ?_
  exact Keeps.bind (keeps_notifyItccoord .live _) fun _ => Keeps.pure

theorem keeps_itcDeleteMailbox (hP : Between P) (a : DeleteCall) :
    Keeps P (itcDeleteMailbox a) := by
  refine Triple.ite (fun _ => Keeps.pure) fun _ => keeps_withRc hP ?_
  refine Keeps.bind (keeps_notifyItccoord .live _) fun _ => ?_
  refine Keeps.bind (Keeps.forUntil keeps_fails _) fun _ => Triple.ite (fun _ => Keeps.pure) fun _ => ?_
  refine Keeps.bind (keeps_setFlags _) fun _ => Keeps.bind (keeps_qEnqueue _) fun _ => ?_
  exact Keeps.bind keeps_flags fun _ => Keeps.pure

theorem keeps_itcGetFd (hP : Between P) (refused rc : Bool) : Keeps P (itcGetFd refused rc) :=
  Triple.ite (fun _ => Keeps.pure) fun _ => keeps_withRc hP Keeps.pure

theorem keeps_release : Triple Valid release fun _ rc => rc = .null := by
  intro rc hrc
  cases rc with
  | null => exact ⟨(), .null, rfl, rfl⟩
  | live f => exact ⟨(), .null, rfl, rfl⟩
  | dangling => exact absurd rfl hrc

theorem keeps_mailboxDestructor (delete : Option DeleteCall) :
    Keeps Valid (mailboxDestructorAtThreadExit delete) := by
  have hdelete : Keeps Valid (deleteIfInuse delete) := by
    cases delete with
    | none => exact Keeps.pure
    | some a => exact Keeps.bind (keeps_itcDeleteMailbox .nonDangling a) fun _ => Keeps.pure
  refine Triple.bind hdelete fun _ => Triple.bind keeps_release fun _ => Triple.pure ?_
  rintro rc rfl hno
  cases hno

/-! ### The instance -/

theorem keeps_locateItccoord (locate : Option (UInt32 × Bool)) :
    Keeps Live (locateItccoord locate) := by
  rcases locate with - | ⟨f, located⟩
  · exact Keeps.pure
  · refine Keeps.bind (keeps_report f) fun _ => Triple.ite (fun _ => ?_) fun _ => ?_
    · exact Keeps.bind (keeps_setFlags _) fun _ => Keeps.pure
    · exact Keeps.bind keeps_flags fun _ => Keeps.pure

theorem keeps_initMailbox (a : MailboxAnswers) : Keeps Live (initMailbox a) := by
  have hqueue : Keeps Live (initQueue a.queue) := by
    cases a.queue with
    | none => exact Keeps.pure
    | some f => exact Keeps.bind (keeps_report f) fun _ => keeps_setFlags _
  refine Triple.ite (fun _ => Keeps.pure) fun _ => Keeps.bind hqueue fun _ => ?_
  exact Keeps.bind (keeps_qEnqueue _) fun _ => Keeps.bind (keeps_setFlags _) fun _ => Keeps.pure

theorem keeps_qExit (dequeue mtx : UInt32) : Keeps Live (qExit dequeue mtx) :=
  Keeps.bind (keeps_report _) fun _ => Keeps.bind keeps_flags fun _ =>
    Keeps.bind (keeps_setFlags _) fun _ => keeps_report _

/-- A successful `itc_exit_zz` frees `rc` and clears it. -/
theorem keeps_itcExit (a : ExitCall) : Keeps Valid (itcExit a) := by
  have hend : Triple Live (free >>= fun _ => setNull >>= fun _ => (pure true : RcM Bool))
      fun _ => Valid := by
    rintro _ ⟨f, rfl⟩
    exact ⟨true, .null, rfl, fun hno => by cases hno⟩
  have hpure : ∀ b, Triple Live (pure b : RcM Bool) fun _ => Valid :=
    fun _ => Triple.pure fun _ h => h.valid
  refine Triple.ite (fun _ => Keeps.pure) fun _ => triple_withRc .nonDangling ?_
  refine Triple.ite (fun _ => hpure _) fun _ => Triple.bind (keeps_fails _) fun _ => ?_
  refine Triple.ite (fun _ => hpure _) fun _ => Triple.ite (fun _ => hpure _) fun _ => ?_
  refine Triple.bind (Keeps.forUntil keeps_fails _) fun _ => Triple.ite (fun _ => hpure _) fun _ => ?_
  refine Triple.ite (fun _ => hpure _) fun _ => Triple.bind (keeps_setFlags _) fun _ => ?_
  refine Triple.bind (keeps_qExit _ _) fun _ => Triple.bind keeps_flags fun _ => ?_
  exact Triple.ite (fun _ => hpure _) fun _ => hend

theorem keeps_setUp (a : InitCall) : Keeps Live (setUp a) := by
  refine Triple.ite (fun _ => Keeps.pure) fun _ => Keeps.bind (keeps_report _) fun _ => ?_
  refine Keeps.bind (keeps_setFlags _) fun _ => Keeps.bind (keeps_report _) fun _ => ?_
  refine Keeps.bind (keeps_setFlags _) fun _ => Keeps.bind (keeps_locateItccoord _) fun _ => ?_
  refine Triple.ite (fun _ => ?_) fun _ => Keeps.pure
  refine Triple.ite (fun _ => Keeps.pure) fun _ => ?_
  refine Keeps.bind (Keeps.forUntil keeps_initMailbox _) fun _ => ?_
  refine Triple.ite (fun _ => Keeps.pure) fun _ => Triple.ite (fun _ => Keeps.pure) fun _ => ?_
  refine Triple.ite (fun _ => Keeps.pure) fun _ => ?_
  refine Keeps.bind (Keeps.forUntil keeps_fails _) fun _ => Triple.ite (fun _ => Keeps.pure) fun _ => ?_
  exact Keeps.bind (keeps_report _) fun _ => Keeps.bind keeps_flags fun _ => Keeps.pure

end Calls

end RcM

/-! ## `itc_init_zz` -/

namespace RcM

/-- Without an `rc` nothing can be reported. -/
theorem setUp_null (a : InitCall) :
    (a.threadListMtx = false → setUp a .null = .ok (false, .null)) ∧
      (a.threadListMtx = true → setUp a .null = .error .nullDeref) := by
  constructor
  · intro hmtx
    simp only [setUp, hmtx, Bool.false_eq_true, not_false_eq_true, if_true]
    rfl
  · intro hmtx
    simp only [setUp, hmtx, not_true, if_false, report]
    split
    · rfl
    · rfl

/-- `itc_init_zz` with a live `rc`. -/
theorem initInst_live (a : InitCall) (f : UInt32) :
    (a.ReleasesFirst → initInst a (.live f) = .error .nullDeref) ∧
      (¬ a.ReleasesFirst → ∃ ok rc, initInst a (.live f) = .ok (ok, rc) ∧
        (Live rc ∧ ¬ a.ReleasesRc ∨ rc = .null ∧ ok = false ∧ a.ReleasesRc)) := by
  unfold initInst InitCall.ReleasesFirst InitCall.ReleasesRc
  cases hre : a.reinit with
  | none =>
    obtain ⟨ok, rc, hset, hrc⟩ := keeps_setUp a (.live f) ⟨f, rfl⟩
    have hnone : ¬ ∃ r : ReinitAnswers, none = some r ∧ r.samePid = false ∧ r.keyDelete = true := by
      rintro ⟨r, hno, -⟩
      cases hno
    exact ⟨fun h => absurd h.2 hnone, fun _ => ⟨ok, rc, hset, .inl ⟨hrc, hnone⟩⟩⟩
  | some r =>
    dsimp only
    by_cases hpid : r.samePid = true
    · rw [if_pos hpid]
      have hown : ¬ ∃ r', some r = some r' ∧ r'.samePid = false ∧ r'.keyDelete = true := by
        rintro ⟨r', hr', hown, -⟩
        cases hr'
        rw [hpid] at hown
        cases hown
      exact ⟨fun h => absurd h.2 hown, fun _ => ⟨false, .live f, rfl, .inl ⟨⟨f, rfl⟩, hown⟩⟩⟩
    · rw [if_neg hpid]
      -- the flags are cleared, and then `rc` goes or stays
      have hcall : (setFlags ITC_OK >>= fun _ => releaseAllItcResources r.keyDelete >>= fun _ =>
          setUp a) (.live f) = setUp a (if r.keyDelete then .null else .live ITC_OK) := by
        cases r.keyDelete <;> rfl
      rw [hcall]
      obtain ⟨hstop, hgo⟩ := setUp_null a
      cases hkey : r.keyDelete with
      | true =>
        have hgone : ∃ r', some r = some r' ∧ r'.samePid = false ∧ r'.keyDelete = true :=
          ⟨r, rfl, by simpa using hpid, hkey⟩
        constructor
        · rintro ⟨hmtx, -⟩
          exact hgo hmtx
        · intro hno
          have hmtx : a.threadListMtx = false := by
            rw [← Bool.not_eq_true]
            exact fun hmtx => hno ⟨hmtx, hgone⟩
          exact ⟨false, .null, hstop hmtx, .inr ⟨rfl, rfl, hgone⟩⟩
      | false =>
        obtain ⟨ok, rc, hset, hrc⟩ := keeps_setUp a (.live ITC_OK) ⟨_, rfl⟩
        have hkept : ¬ ∃ r', some r = some r' ∧ r'.samePid = false ∧ r'.keyDelete = true := by
          rintro ⟨r', hr', -, hdel⟩
          cases hr'
          rw [hkey] at hdel
          cases hdel
        exact ⟨fun h => absurd h.2 hkept, fun _ => ⟨ok, rc, hset, .inl ⟨hrc, hkept⟩⟩⟩

/-- `rc` is freed when it gives up, unless it has been released before. -/
theorem initOrFree_live (a : InitCall) (f : UInt32) :
    (a.ReleasesFirst → initOrFree a (.live f) = .error .nullDeref) ∧
      (¬ a.ReleasesFirst → ∃ ok rc, initOrFree a (.live f) = .ok (ok, rc) ∧
        (rc = .dangling ↔ ok = false ∧ ¬ a.ReleasesRc)) := by
  obtain ⟨hfault, hok⟩ := initInst_live a f
  have hcalls : initOrFree a (.live f) = initInst a (.live f) >>= fun r =>
      (if r.1 then pure true else free >>= fun _ => pure false : RcM Bool) r.2 := rfl
  constructor
  · intro hrel
    rw [hcalls, hfault hrel]
    rfl
  · intro hrel
    obtain ⟨ok, rc, hcall, ⟨⟨g, rfl⟩, hkept⟩ | ⟨rfl, rfl, hgone⟩⟩ := hok hrel
    · rw [hcalls, hcall]
      cases ok with
      | true => exact ⟨true, .live g, rfl, by simp⟩
      | false => exact ⟨false, .dangling, rfl, by simp [hkept]⟩
    · rw [hcalls, hcall]
      exact ⟨false, .null, rfl, by simp [hgone]⟩

/-- **An `itc_init_zz` leaves `rc` dangling** exactly when it returns `false` after it has got its
`rc`, and has not released it. -/
theorem itcInit_dangling_iff {a : InitCall} {rc rc' : Ptr UInt32} {ok : Bool} (hrc : Valid rc)
    (hcall : itcInit a rc = .ok (ok, rc')) :
    rc' = .dangling ↔ ok = false ∧ ¬ (rc = .null ∧ a.rc = false) ∧ ¬ a.ReleasesRc := by
  have hlive : ∀ f, initOrFree a (.live f) = .ok (ok, rc') →
      (rc' = .dangling ↔ ok = false ∧ ¬ a.ReleasesRc) := by
    intro f hinit
    obtain ⟨hfault, hok⟩ := initOrFree_live a f
    by_cases hrel : a.ReleasesFirst
    · rw [hfault hrel] at hinit
      cases hinit
    · obtain ⟨ok₁, rc₁, hinit₁, hiff⟩ := hok hrel
      cases hinit₁.symm.trans hinit
      exact hiff
  cases rc with
  | null =>
    have hcalls : itcInit a .null = (if a.rc = true then initOrFree a else pure false)
        (if a.rc then .live 0 else .null) := rfl
    rw [hcalls] at hcall
    cases hmem : a.rc with
    | true =>
      rw [hmem] at hcall
      rw [hlive 0 hcall]
      simp
    | false =>
      rw [hmem] at hcall
      cases hcall
      simp
  | live f =>
    rw [hlive ITC_OK hcall]
    simp
  | dangling => exact absurd rfl hrc

end RcM

/-! ## Every call -/

namespace RcCall

theorem init_iff (a : InitCall) (rc : Ptr UInt32) :
    (∃ r rc', RcM.itcInit a rc = .ok (r, rc')) ↔ (RcCall.init a).MayUse rc := by
  have hiff : ∀ f, (∃ r rc', initOrFree a (.live f) = .ok (r, rc')) ↔ ¬ a.ReleasesFirst := by
    intro f
    obtain ⟨hfault, hok⟩ := initOrFree_live a f
    constructor
    · rintro ⟨r, rc', hcall⟩ hrel
      rw [hfault hrel] at hcall
      cases hcall
    · intro hrel
      obtain ⟨ok, rc, hcall, -⟩ := hok hrel
      exact ⟨ok, rc, hcall⟩
  have hnull : Ptr.null ≠ (.dangling : Ptr UInt32) := fun hno => by cases hno
  cases rc with
  | null =>
    have hcalls : RcM.itcInit a .null = (if a.rc = true then initOrFree a else pure false)
        (if a.rc then .live 0 else .null) := rfl
    cases hmem : a.rc with
    | true =>
      have hcall : RcM.itcInit a .null = initOrFree a (.live 0) := by
        rw [hcalls, hmem]
        rfl
      rw [hcall, hiff 0]
      refine ⟨fun h => ⟨fun _ => hnull, fun hgoes => h hgoes.2⟩, fun h hrel => ?_⟩
      refine h.keeps ⟨fun hno => ?_, hrel⟩
      rw [hmem] at hno
      cases hno.2
    | false =>
      refine iff_of_true ⟨false, .null, ?_⟩ ⟨fun _ => hnull, fun hgoes => ?_⟩
      · rw [hcalls, hmem]
        rfl
      · exact hgoes.1 ⟨rfl, hmem⟩
  | live f =>
    have hcall : RcM.itcInit a (.live f) = initOrFree a (.live ITC_OK) := rfl
    rw [hcall, hiff ITC_OK]
    refine ⟨fun h => ⟨fun _ => Live.valid ⟨f, rfl⟩, fun hgoes => h hgoes.2⟩, fun h hrel => ?_⟩
    exact h.keeps ⟨fun hno => Ptr.live_ne_null f hno.1, hrel⟩
  | dangling =>
    refine iff_of_false ?_ fun h => h.valid rfl rfl
    rintro ⟨r, rc', hcall⟩
    cases hcall

/-- A call that keeps `rc` valid, and fails on a freed one if it comes to it. -/
theorem iff_of_keeps {c : RcCall} {rc : Ptr UInt32} (hkeeps : Keeps Valid c.run)
    (hdangling : (∃ r rc', c.run .dangling = .ok (r, rc')) ↔ c.uses = false)
    (hgoes : ¬ c.GoesOnWithout rc) : (∃ r rc', c.run rc = .ok (r, rc')) ↔ c.MayUse rc := by
  by_cases hrc : rc = .dangling
  · rw [hrc, hdangling]
    refine ⟨fun hnot => ⟨fun huses => ?_, hrc ▸ hgoes⟩, fun h => ?_⟩
    · rw [hnot] at huses
      cases huses
    · rw [← Bool.not_eq_true]
      exact fun huses => h.valid huses rfl
  · obtain ⟨r, rc', hcall, -⟩ := hkeeps rc hrc
    exact iff_of_true ⟨r, rc', hcall⟩ ⟨fun _ => hrc, hgoes⟩

/-- The calls that return early, or use `rc`. -/
theorem dangling_iff {refused : Prop} [Decidable refused] {mem failed : Bool} {body : RcM Bool} :
    (∃ r rc', (if refused then pure failed else withRc mem failed body : RcM Bool) .dangling =
      .ok (r, rc')) ↔ refused := by
  by_cases hrefused : refused
  · rw [if_pos hrefused]
    exact iff_of_true ⟨failed, .dangling, rfl⟩ hrefused
  · rw [if_neg hrefused]
    refine iff_of_false ?_ hrefused
    rintro ⟨r, rc', hcall⟩
    rw [withRc_dangling] at hcall
    cases hcall

theorem send_dangling_iff (a : SendCall) :
    (∃ r rc', RcM.itcSend a .dangling = .ok (r, rc')) ↔ (RcCall.send a).uses = false := by
  obtain ⟨refused, forward, here⟩ := a
  cases refused with
  | true => exact iff_of_true ⟨false, .dangling, rfl⟩ rfl
  | false =>
    rcases forward with - | ⟨f, free⟩
    · exact dangling_iff.trans (by simp [uses])
    · obtain ⟨tooLarge, alloc, locate, send, hisFree⟩ := f
      cases tooLarge with
      | true => exact iff_of_true ⟨false, .dangling, rfl⟩ rfl
      | false =>
        refine iff_of_false ?_ (by simp [uses])
        rintro ⟨r, rc', hcall⟩
        cases hcall

/-- Only `itc_init_zz` leaves a freed block behind. -/
theorem keeps_valid {c : RcCall} (hinit : ∀ a, c ≠ .init a) : Keeps Valid c.run := by
  cases c with
  | init a => exact absurd rfl (hinit a)
  | exit a => exact keeps_itcExit a
  | alloc inited a => exact keeps_itcAlloc .nonDangling inited a
  | free a => exact keeps_itcFree .nonDangling a
  | createMailbox a => exact keeps_itcCreateMailbox .nonDangling a
  | deleteMailbox a => exact keeps_itcDeleteMailbox .nonDangling a
  | send a => exact keeps_itcSend .nonDangling a
  | receive a => exact keeps_itcReceive .nonDangling a
  | getFd refused mem => exact keeps_itcGetFd .nonDangling refused mem
  | threadExit delete => exact keeps_mailboxDestructor delete

/-- On a freed block those calls go well that do not come to it. -/
theorem run_dangling_iff {c : RcCall} (hinit : ∀ a, c ≠ .init a) :
    (∃ r rc', c.run .dangling = .ok (r, rc')) ↔ c.uses = false := by
  cases c with
  | init a => exact absurd rfl (hinit a)
  | send a => exact send_dangling_iff a
  | threadExit delete =>
    refine iff_of_false ?_ (by simp [uses])
    rintro ⟨r, rc', hcall⟩
    -- the block is read by the deletion, or freed again
    rcases delete with - | ⟨refused, mem, notify, trans, node⟩
    · cases hcall
    · cases refused <;> cases hcall
  | exit a => exact dangling_iff.trans (by simp [uses])
  | alloc inited a => exact dangling_iff.trans (by simp [uses])
  | free a => exact dangling_iff.trans (by simp [uses])
  | createMailbox a => exact dangling_iff.trans (by simp [uses])
  | deleteMailbox a => exact dangling_iff.trans (by simp [uses])
  | receive a => exact dangling_iff.trans (by simp [uses])
  | getFd refused mem => exact dangling_iff.trans (by simp [uses])

/-- The calls that do not come to `rc` leave it as it is. -/
theorem run_unused {c : RcCall} (huses : c.uses = false) (rc : Ptr UInt32) :
    c.run rc = .ok (false, rc) := by
  have hearly : ∀ {refused : Prop} [Decidable refused] (body : RcM Bool), refused →
      (if refused then pure false else body : RcM Bool) rc = .ok (false, rc) := by
    intro refused _ body h
    rw [if_pos h]
    rfl
  cases c with
  | init a => cases huses
  | threadExit delete => cases huses
  | send a =>
    obtain ⟨refused, forward, here⟩ := a
    cases refused with
    | true => rfl
    | false =>
      rcases forward with - | ⟨⟨tooLarge, alloc, locate, send, reqFree⟩, free⟩
      · exact hearly _ (by simpa [uses] using huses)
      · obtain rfl : tooLarge = true := by simpa [uses] using huses
        rfl
  | exit a => exact hearly _ (by simpa [uses] using huses)
  | alloc inited a => exact hearly _ (by simpa [uses] using huses)
  | free a => exact hearly _ (by simpa [uses] using huses)
  | createMailbox a => exact hearly _ (by simpa [uses] using huses)
  | deleteMailbox a => exact hearly _ (by simpa [uses] using huses)
  | receive a => exact hearly _ (by simpa [uses] using huses)
  | getFd refused mem => exact hearly _ (by simpa [uses] using huses)

/-- **A call goes well exactly when it may use `rc`.** -/
theorem run_iff (c : RcCall) (rc : Ptr UInt32) :
    (∃ r rc', c.run rc = .ok (r, rc')) ↔ c.MayUse rc := by
  by_cases hinit : ∃ a, c = .init a
  · obtain ⟨a, rfl⟩ := hinit
    exact init_iff a rc
  · have hother : ∀ a, c ≠ .init a := fun a hc => hinit ⟨a, hc⟩
    refine iff_of_keeps (keeps_valid hother) (run_dangling_iff hother) fun hgoes => ?_
    cases c with
    | init a => exact hother a rfl
    | _ => exact hgoes

/-- **After which call `rc` is a freed block**: an `itc_init_zz` that gives up with its `rc`, and then
the calls that do not come to it. -/
theorem dangling_after_iff {c : RcCall} {rc rc' : Ptr UInt32} {r : Bool}
    (hcall : c.run rc = .ok (r, rc')) :
    rc' = .dangling ↔ rc = .dangling ∧ c.uses = false ∨ rc ≠ .dangling ∧
      ∃ a, c = .init a ∧ r = false ∧ ¬ (rc = .null ∧ a.rc = false) ∧ ¬ a.ReleasesRc := by
  by_cases hinit : ∃ a, c = .init a
  · obtain ⟨a, rfl⟩ := hinit
    have hrc : rc ≠ .dangling := ((init_iff a rc).mp ⟨r, rc', hcall⟩).valid rfl
    rw [itcInit_dangling_iff hrc hcall]
    simp [hrc]
  · by_cases hrc : rc = .dangling
    · subst hrc
      have huses := (run_dangling_iff fun a hc => hinit ⟨a, hc⟩).mp ⟨r, rc', hcall⟩
      cases (run_unused huses .dangling).symm.trans hcall
      exact iff_of_true rfl (.inl ⟨rfl, huses⟩)
    · obtain ⟨r₁, rc₁, hcall₁, hvalid⟩ := keeps_valid (fun a hc => hinit ⟨a, hc⟩) rc hrc
      cases hcall₁.symm.trans hcall
      refine iff_of_false hvalid ?_
      rintro (⟨hno, -⟩ | ⟨-, a, hc, -⟩)
      · exact hrc hno
      · exact hinit ⟨a, hc⟩

end RcCall

/-! ## Runs -/

/-- A call of the thread, with `rc` before and after it. -/
def RcStep (w : Except MemFault (Ptr UInt32)) (c : RcCall) (w' : Except MemFault (Ptr UInt32)) :
    Prop :=
  ∃ rc, w = .ok rc ∧ w' = (c.run rc).map Prod.snd

/-- Every dereference and every `free` so far was of a live result code. -/
def RcOk (w : Except MemFault (Ptr UInt32)) : Prop := ∃ rc, w = .ok rc

def RcGuard (w : Except MemFault (Ptr UInt32)) (c : RcCall) : Prop :=
  ∀ rc, w = .ok rc → c.MayUse rc

/-- **`rc` is used well along the runs whose calls may use it.** -/
theorem rc_valid_iff (cs : List RcCall) (w : Except MemFault (Ptr UInt32)) :
    Run (Into RcStep RcOk) (.ok .null) cs w ↔ Run (Guarded RcStep RcGuard) (.ok .null) cs w := by
  refine Run.into_iff_guarded (I := RcOk) ?_ (fun _ h => h) ?_ ⟨_, rfl⟩
  · rintro w c w' - hguard ⟨rc, rfl, rfl⟩
    obtain ⟨r, rc', hcall⟩ := (c.run_iff rc).mpr (hguard rc rfl)
    exact ⟨rc', by rw [hcall]; rfl⟩
  · rintro w c w' - ⟨rc, rfl, rfl⟩ ⟨rc', hrc'⟩ rc₁ ⟨⟩
    refine (c.run_iff rc).mp ?_
    cases hcall : c.run rc with
    | error fault =>
      rw [hcall] at hrc'
      cases hrc'
    | ok r => exact ⟨r.1, r.2, rfl⟩

/-- A run that goes on past a call goes on from what the call leaves. -/
theorem RcStep.of_run {rc rc₂ : Ptr UInt32} {c : RcCall} {cs : List RcCall}
    {w : Except MemFault (Ptr UInt32)} (hstep : RcStep (.ok rc) c w)
    (hrun : Run RcStep w cs (.ok rc₂)) : ∃ r rc₁, c.run rc = .ok (r, rc₁) ∧ w = .ok rc₁ := by
  obtain ⟨_, ⟨⟩, rfl⟩ := hstep
  cases hcall : c.run rc with
  | ok r => exact ⟨r.1, r.2, rfl, rfl⟩
  | error fault =>
    rw [hcall] at hrun
    cases hrun with
    | cons head _ =>
      obtain ⟨rc', hno, -⟩ := head
      cases hno

/-- A freed block is not touched again. -/
theorem unused_of_dangling {cs : List RcCall} {rc : Ptr UInt32}
    (hrun : Run RcStep (.ok .dangling) cs (.ok rc)) : ∀ c ∈ cs, c.uses = false := by
  induction cs with
  | nil => exact fun c hc => nomatch hc
  | cons c cs ih =>
    cases hrun with
    | cons head tail =>
      obtain ⟨r, rc₁, hcall, rfl⟩ := head.of_run tail
      have hmay : c.MayUse .dangling := (c.run_iff .dangling).mp ⟨r, rc₁, hcall⟩
      have huses : c.uses = false := by
        rw [← Bool.not_eq_true]
        exact fun huses => hmay.valid huses rfl
      cases (RcCall.run_unused huses .dangling).symm.trans hcall
      exact List.forall_mem_cons.mpr ⟨huses, ih tail⟩

/-- **A run that ends with a freed block** has an `itc_init_zz` that gave up with its `rc`, and no
call since has come to it. -/
theorem dangling_run {cs : List RcCall} {rc : Ptr UInt32} (hrc : rc ≠ .dangling)
    (hrun : Run RcStep (.ok rc) cs (.ok .dangling)) :
    ∃ pre a post rc₁, cs = pre ++ .init a :: post ∧ Run RcStep (.ok rc) pre (.ok rc₁) ∧
      RcM.itcInit a rc₁ = .ok (false, .dangling) ∧ ∀ c ∈ post, c.uses = false := by
  induction cs generalizing rc with
  | nil =>
    cases hrun
    exact absurd rfl hrc
  | cons c cs ih =>
    cases hrun with
    | cons head tail =>
      obtain ⟨r, rc₁, hcall, rfl⟩ := head.of_run tail
      by_cases hrc₁ : rc₁ = .dangling
      · subst hrc₁
        obtain ⟨hno, -⟩ | ⟨-, a, rfl, rfl, -⟩ := (RcCall.dangling_after_iff hcall).mp rfl
        · exact absurd hno hrc
        · exact ⟨[], a, cs, rc, rfl, .nil _, hcall, unused_of_dangling tail⟩
      · obtain ⟨pre, a, post, rc₂, rfl, hpre, hinit, hpost⟩ := ih hrc₁ tail
        exact ⟨c :: pre, a, post, rc₂, rfl, .cons head hpre, hinit, hpost⟩

/-- An `itc_init_zz` that finds itself initialised. -/
def alreadyInitialized : InitCall where
  rc := true
  reinit := some ⟨true, true⟩
  threadListMtx := true
  maxmsgsize := ITC_OK
  allocInit := ITC_OK
  locate := none
  mboxes := true
  mailboxes := []
  key := true
  locatingMtx := true
  trans := []
  start := ITC_OK

/-- **A second `itc_init_zz` breaks the next call**: it frees `rc` and leaves it dangling. So it is in
a process that starts: the first succeeds, the second does not, and `itc_alloc_zz` writes to the
freed block. -/
theorem second_init_dangles :
    Run RcStep (.ok .null) [.init { alreadyInitialized with reinit := none },
        .init alreadyInitialized] (.ok .dangling) ∧
      (RcCall.alloc true ⟨true, ITC_OK⟩).run .dangling = .error .useAfterFree ∧
      ∃ s s', (ItcGlobals.start 7).itcInit ⟨2, false⟩ .willing 1 = .ok (.returned true, s) ∧
        s.itcInit ⟨2, false⟩ .willing 1 = .ok (.returned false, s') ∧ s'.rc 1 = .dangling ∧
        s'.apiCall ⟨none, true, true⟩ 1 .alloc = .error .useAfterFree :=
  ⟨.cons ⟨.null, rfl, rfl⟩ (.cons ⟨.live ITC_OK, rfl, rfl⟩ (.nil _)), rfl, _, _, rfl, rfl, rfl, rfl⟩

/-! ## The `rc` in the lives of a process -/

/-- A pointer without what it points to. -/
def forget : Ptr UInt32 → Ptr Unit
  | .null => .null
  | .live _ => .live ()
  | .dangling => .dangling

/-- The first lines of a call do there what they do here. -/
theorem ensureRc_withRc (s : ItcGlobals) (t : Nat) (mem : Bool) {rc : Ptr UInt32}
    (hrc : forget rc = s.rc t) :
    (s.ensureRc t mem).map (fun s' => (s'.getD s).rc t) =
      (RcM.withRc mem () (pure ()) rc).map fun r => forget r.2 := by
  cases rc with
  | null =>
    have hnull : s.rc t = .null := hrc.symm
    rw [ItcGlobals.ensureRc, hnull]
    cases mem with
    | true => exact congrArg Except.ok (if_pos rfl)
    | false => exact congrArg Except.ok hnull
  | live f =>
    have hlive : s.rc t = .live () := hrc.symm
    rw [ItcGlobals.ensureRc, hlive]
    exact congrArg Except.ok hlive
  | dangling =>
    have hdangling : s.rc t = .dangling := hrc.symm
    rw [ItcGlobals.ensureRc, hdangling]
    rfl

/-- And so does the `free(rc)` of `itc_init_zz` and `itc_exit_zz`. -/
theorem freeRc_free (s : ItcGlobals) (t : Nat) {rc : Ptr UInt32} (hrc : forget rc = s.rc t) :
    (s.freeRc t).map (fun s' => s'.rc t) = (RcM.free rc).map fun r => forget r.2 := by
  rw [ItcGlobals.freeRc, ← hrc]
  cases rc with
  | null => exact congrArg Except.ok (if_pos rfl)
  | live f => exact congrArg Except.ok (if_pos rfl)
  | dangling => rfl

end ItcFramework
