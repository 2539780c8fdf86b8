import ItcFramework.Itc.CallSpecs
import ItcFramework.Lib.Monitor

/-!
# The threads of a mailbox

`itc_send_zz`, `itc_receive_zz` and `itc_get_fd_zz` on one mailbox that is in use, statement by
statement: any number of threads send to it, its own thread receives. The local transport has the
memory for its queue items, so that it takes every message.

* `MailboxPlace`, `mailboxCode` — the places of the three calls that touch the mailbox, and what is
  done there.
* `mailboxOutline` — the rx queue, `rxq_len` and the eventfd agree whenever the mutex is free.
* `receiver_not_lost` — no wake-up is lost; `receiver_moves` — no receiver is stuck behind a message;
  `mailbox_threads_fifo` — messages come out in the order they went in, each once.
* `finishCall` — what a critical section does in one go.
-/

set_option autoImplicit false

namespace ItcFramework

open Transition Monitor

/-- What the threads of a process share of a mailbox. -/
structure SharedMailbox where
  mboxState : MboxState
  /-- The messages in the rx queue of the local transport. -/
  rxq : Option (List Nat)
  rxqInfo : RxqInfo
  deriving DecidableEq, Repr

/-- A shared mailbox with the messages that were put into its rx queue, and those that
`itc_receive_zz` has returned. -/
structure LoggedMailbox where
  mbox : SharedMailbox
  sent : List Nat
  returned : List Nat
  deriving DecidableEq, Repr

inductive MailboxPlace where
  /-- Between two calls; `message` is what the last `itc_receive_zz` returned. -/
  | idle (message : Option Nat)
  -- `itc_send_zz`
  | sendState (message : Nat)
  | sendLock (message : Nat)
  | sendLocal (message : Nat)
  | sendEventfd
  | sendRxqLen
  | sendSignal
  | sendUnlock
  -- `itc_receive_zz`
  | recvLock (tmo : Int)
  | recvIsInRx (tmo : Int)
  | recvLocal (tmo : Int)
  | recvWait (tmo : Int)
  | recvNothing
  | recvRxqLen (message : Nat)
  | recvEventfd (message : Nat)
  /-- Behind the wait, or with a message. -/
  | recvNotInRx (tmo : Int) (message : Option Nat)
  | recvUnlock (tmo : Int) (message : Option Nat)
  | recvUnlockNothing
  -- `itc_get_fd_zz`
  | getFdLock
  | getFdEventfd
  | getFdUnlock
  deriving DecidableEq, Repr

def ITC_NO_WAIT : Int := 0
def ITC_WAIT_FOREVER : Int := -1

namespace RxqInfo

/-- `write` to the eventfd of an empty rx queue. -/
def writeFd (info : RxqInfo) : RxqInfo :=
  { info with rxqFd := if info.isFdCreated ∧ info.rxqLen = 0 then eventfdWrite info.rxqFd else info.rxqFd }

def incLen (info : RxqInfo) : RxqInfo := { info with rxqLen := info.rxqLen + 1 }

def decLen (info : RxqInfo) : RxqInfo := { info with rxqLen := info.rxqLen - 1 }

/-- `read` from the eventfd of an rx queue that has become empty. -/
def readFd (info : RxqInfo) : Option RxqInfo :=
  if info.isFdCreated ∧ info.rxqLen = 0 then
    (eventfdRead info.rxqFd).map fun rxqFd => { info with rxqFd }
  else some info

def setInRx (info : RxqInfo) (isInRx : Bool) : RxqInfo := { info with isInRx }

end RxqInfo

namespace LoggedMailbox

def setInfo (d : LoggedMailbox) (rxqInfo : RxqInfo) : LoggedMailbox :=
  { d with mbox := { d.mbox with rxqInfo } }

/-- `local_send`. -/
def localSend (d : LoggedMailbox) (message : Nat) : Option LoggedMailbox :=
  d.mbox.rxq.map fun l =>
    { d with mbox := { d.mbox with rxq := some (l ++ [message]) }, sent := d.sent ++ [message] }

/-- `local_receive`. -/
def localReceive (d : LoggedMailbox) : Option (Option Nat × LoggedMailbox) :=
  d.mbox.rxq.map fun
    | [] => (none, d)
    | message :: l => (some message, { d with mbox := { d.mbox with rxq := some l } })

/-- `itc_receive_zz` is about to return `message`, if it has one. -/
def logReturned (d : LoggedMailbox) (message : Option Nat) : LoggedMailbox :=
  { d with returned := d.returned ++ message.toList }

end LoggedMailbox

open MailboxPlace

/-- The code of `itc_send_zz`, `itc_receive_zz` and `itc_get_fd_zz`. -/
def mailboxCode : MailboxPlace → Instr LoggedMailbox MailboxPlace
  | idle _ => .idle
  | sendState message => .peek fun d =>
      -- `mbox_state` is read without the mutex
      if d.mbox.mboxState = .inuse then sendLock message else idle none
  | sendLock message => .lock (sendLocal message)
  | sendLocal message => .access fun d => (d.localSend message).map fun d => (sendEventfd, d)
  | sendEventfd => .access fun d => some (sendRxqLen, d.setInfo d.mbox.rxqInfo.writeFd)
  | sendRxqLen => .access fun d => some (sendSignal, d.setInfo d.mbox.rxqInfo.incLen)
  | sendSignal => .signal sendUnlock
  | sendUnlock => .unlock (idle none)
  | recvLock tmo => .lock (recvIsInRx tmo)
  | recvIsInRx tmo => .access fun d => some (recvLocal tmo, d.setInfo (d.mbox.rxqInfo.setInRx true))
  | recvLocal tmo => .access fun d => d.localReceive.map fun
      | (some message, d) => (recvRxqLen message, d)
      | (none, d) => (if tmo = ITC_NO_WAIT then recvNothing else recvWait tmo, d)
  | recvWait tmo =>
      .wait (recvNotInRx tmo none) (if tmo = ITC_WAIT_FOREVER then none else some recvNothing)
  | recvNothing => .access fun d => some (recvUnlockNothing, d.setInfo (d.mbox.rxqInfo.setInRx false))
  | recvUnlockNothing => .unlock (idle none)
  | recvRxqLen message => .access fun d => some (recvEventfd message, d.setInfo d.mbox.rxqInfo.decLen)
  | recvEventfd message => .access fun d => d.mbox.rxqInfo.readFd.map fun info =>
      (recvNotInRx ITC_NO_WAIT (some message), d.setInfo info)
  | recvNotInRx tmo message => .access fun d =>
      some (recvUnlock tmo message,
        (d.setInfo (d.mbox.rxqInfo.setInRx false)).logReturned message)
  | recvUnlock tmo message => .unlock (if message = none then recvLock tmo else idle message)
  | getFdLock => .lock getFdEventfd
  | getFdEventfd => .access fun d => some (getFdUnlock, d.setInfo d.mbox.rxqInfo.onGetFd)
  | getFdUnlock => .unlock (idle none)

/-- The calls of the threads: `owner` has the mailbox, the others send to it. -/
def MailboxEntry (owner t : Nat) : MailboxPlace → Prop
  | sendState _ => t ≠ owner
  | recvLock _ => t = owner
  | getFdLock => t = owner
  | _ => False

/-- The mailbox after `itc_create_mailbox_zz`. -/
def LoggedMailbox.init (rxqInfo : RxqInfo) : LoggedMailbox :=
  ⟨⟨.inuse, some [], { rxqInfo with rxqLen := 0, isInRx := false, isFdCreated := false }⟩, [], []⟩

namespace MailboxThreads

abbrev State := Monitor.State Nat LoggedMailbox MailboxPlace

def init (rxqInfo : RxqInfo) : State := ⟨none, fun _ => .here (idle none), .init rxqInfo⟩

abbrev Step (owner : Nat) := Monitor.Step mailboxCode (MailboxEntry owner)

end MailboxThreads

/-! ## What holds at each place -/

namespace LoggedMailbox

/-- The rx queue holds `l`, and the receiver has `message` in its hands. -/
structure Queued (d : LoggedMailbox) (message : Option Nat) (l : List Nat) : Prop where
  inuse : d.mbox.mboxState = .inuse
  rxq : d.mbox.rxq = some l
  fifo : d.sent = d.returned ++ (message.toList ++ l)

/-- `rxq_len` is `n`, and the eventfd has been written but not read. -/
structure Written (d : LoggedMailbox) (n : Nat) : Prop where
  rxqLen : d.mbox.rxqInfo.rxqLen = n
  rxqFd : d.mbox.rxqInfo.isFdCreated = true → d.mbox.rxqInfo.rxqFd = 1

/-- The counters agree with the rx queue. -/
def Settled (d : LoggedMailbox) (message : Option Nat) : Prop :=
  ∃ l, d.Queued message l ∧ d.mbox.rxqInfo.Counts l.length

end LoggedMailbox

open LoggedMailbox

/-- What holds at the places at which the mutex is held. -/
def mailboxOutline : Outline LoggedMailbox MailboxPlace where
  holds
    | idle _ | sendState _ | sendLock _ | recvLock _ | getFdLock => False
    | _ => True
  inv d := d.Settled none
  asserts
    | sendEventfd, d => ∃ l m, d.Queued none (l ++ [m]) ∧ d.mbox.rxqInfo.Counts l.length
    | sendRxqLen, d => ∃ l m, d.Queued none (l ++ [m]) ∧ d.Written l.length
    | recvWait _, d => d.Queued none [] ∧ d.mbox.rxqInfo.Counts 0
    | recvRxqLen m, d => ∃ l, d.Queued (some m) l ∧ d.mbox.rxqInfo.Counts (l.length + 1)
    | recvEventfd m, d => ∃ l, d.Queued (some m) l ∧ d.Written l.length
    | recvNotInRx _ m, d => d.Settled m
    | _, d => d.Settled none

theorem RxqInfo.Counts.setInRx {info : RxqInfo} {n : Nat} (h : info.Counts n) (isInRx : Bool) :
    (info.setInRx isInRx).Counts n := ⟨h.rxqLen, h.rxqFd⟩

theorem LoggedMailbox.Queued.setInfo {d : LoggedMailbox} {m : Option Nat} {l : List Nat}
    (h : d.Queued m l) (info : RxqInfo) : (d.setInfo info).Queued m l := ⟨h.inuse, h.rxq, h.fifo⟩

/-- **`local_send` appends.** -/
theorem LoggedMailbox.Queued.localSend {d : LoggedMailbox} {l : List Nat} (h : d.Queued none l)
    (message : Nat) : ∃ d', d.localSend message = some d' ∧ d'.Queued none (l ++ [message]) ∧
      d'.mbox.rxqInfo = d.mbox.rxqInfo := by
  simp only [LoggedMailbox.localSend, h.rxq, Option.map_some]
  refine ⟨_, rfl, ⟨h.inuse, rfl, ?_⟩, rfl⟩
  simp only [h.fifo, Option.toList_none, List.nil_append, List.append_assoc]

/-- **`local_receive` takes the first message.** -/
theorem LoggedMailbox.Queued.localReceive {d : LoggedMailbox} {m : Nat} {l : List Nat}
    (h : d.Queued none (m :: l)) : ∃ d', d.localReceive = some (some m, d') ∧
      d'.Queued (some m) l ∧ d'.mbox.rxqInfo = d.mbox.rxqInfo := by
  simp only [LoggedMailbox.localReceive, h.rxq, Option.map_some]
  exact ⟨_, rfl, ⟨h.inuse, rfl, h.fifo⟩, rfl⟩

theorem LoggedMailbox.Settled.setInRx {d : LoggedMailbox} {m : Option Nat} (h : d.Settled m)
    (isInRx : Bool) : (d.setInfo (d.mbox.rxqInfo.setInRx isInRx)).Settled m := by
  obtain ⟨l, hl, hcounts⟩ := h
  exact ⟨l, hl.setInfo _, hcounts.setInRx isInRx⟩

/-- A sender writes the eventfd before it counts its message. -/
theorem LoggedMailbox.Written.of_writeFd {d : LoggedMailbox} {n : Nat}
    (h : d.mbox.rxqInfo.Counts n) : (d.setInfo d.mbox.rxqInfo.writeFd).Written n := by
  refine ⟨h.rxqLen, fun hfd => ?_⟩
  have hrxqFd := h.rxqFd hfd
  simp only [LoggedMailbox.setInfo, RxqInfo.writeFd, h.rxqLen, eventfdWrite, Nat.cast_eq_zero]
  by_cases hn : n = 0
  · rw [if_pos ⟨hfd, hn⟩, hrxqFd, if_pos hn]
  · rw [if_neg fun hboth => hn hboth.2, hrxqFd, if_neg hn]

theorem LoggedMailbox.Written.counts {d : LoggedMailbox} {n : Nat} (h : d.Written n) :
    d.mbox.rxqInfo.incLen.Counts (n + 1) := by
  refine ⟨?_, fun hfd => ?_⟩
  · simp only [RxqInfo.incLen, h.rxqLen, Nat.cast_add, Nat.cast_one]
  · rw [if_neg (Nat.succ_ne_zero n)]
    exact h.rxqFd hfd

/-- The receiver counts its message before it reads the eventfd. -/
theorem LoggedMailbox.Written.of_decLen {d : LoggedMailbox} {n : Nat}
    (h : d.mbox.rxqInfo.Counts (n + 1)) : (d.setInfo d.mbox.rxqInfo.decLen).Written n := by
  refine ⟨?_, fun hfd => ?_⟩
  · simp only [LoggedMailbox.setInfo, RxqInfo.decLen, h.rxqLen]
    push_cast
    omega
  · have hrxqFd := h.rxqFd hfd
    rwa [if_neg (Nat.succ_ne_zero n)] at hrxqFd

/-- The read does not block. -/
theorem LoggedMailbox.Written.readFd {d : LoggedMailbox} {n : Nat} (h : d.Written n) :
    ∃ info, d.mbox.rxqInfo.readFd = some info ∧ info.Counts n := by
  unfold RxqInfo.readFd
  simp only [h.rxqLen, Nat.cast_eq_zero]
  by_cases hboth : d.mbox.rxqInfo.isFdCreated = true ∧ n = 0
  · rw [if_pos hboth, h.rxqFd hboth.1, eventfdRead, if_neg Nat.one_ne_zero]
    exact ⟨_, rfl, rfl, fun _ => by rw [if_pos hboth.2]⟩
  · rw [if_neg hboth]
    refine ⟨d.mbox.rxqInfo, rfl, h.rxqLen, fun hfd => ?_⟩
    rw [h.rxqFd hfd, if_neg fun hn => hboth ⟨hfd, hn⟩]

/-- **The code fits its outline.** -/
theorem mailbox_fits (k : MailboxPlace) : mailboxOutline.Fits k (mailboxCode k) := by
  have henter : ∀ {k : MailboxPlace}, mailboxOutline.holds k →
      (∀ d, mailboxOutline.asserts k d = d.Settled none) → mailboxOutline.Enters k :=
    fun hholds heq => ⟨hholds, fun d hd => by rw [heq]; exact hd⟩
  cases k with
  | idle _ => exact id
  | sendState message =>
    refine ⟨id, fun d => ?_⟩
    simp only
    split
    · exact id
    · exact id
  | sendLock message => exact ⟨id, henter trivial fun _ => rfl⟩
  | sendLocal message =>
    refine ⟨trivial, ?_⟩
    rintro d ⟨l, hl, hcounts⟩
    obtain ⟨d', hd', hl', hinfo⟩ := hl.localSend message
    exact ⟨sendEventfd, d', by simp only [hd', Option.map_some], trivial, l, message, hl',
      by rwa [hinfo]⟩
  | sendEventfd =>
    refine ⟨trivial, ?_⟩
    rintro d ⟨l, m, hl, hcounts⟩
    exact ⟨_, _, rfl, trivial, l, m, hl.setInfo _, .of_writeFd hcounts⟩
  | sendRxqLen =>
    refine ⟨trivial, ?_⟩
    rintro d ⟨l, m, hl, hwritten⟩
    refine ⟨_, _, rfl, trivial, l ++ [m], hl.setInfo _, ?_⟩
    rw [List.length_append]
    exact hwritten.counts
  | sendSignal => exact ⟨trivial, trivial, fun d hd => hd⟩
  | sendUnlock => exact ⟨trivial, id, fun d hd => hd⟩
  | recvLock tmo => exact ⟨id, henter trivial fun _ => rfl⟩
  | recvIsInRx tmo => exact ⟨trivial, fun d hd => ⟨_, _, rfl, trivial, hd.setInRx true⟩⟩
  | recvLocal tmo =>
    refine ⟨trivial, ?_⟩
    rintro d ⟨l, hl, hcounts⟩
    cases l with
    | nil =>
      refine ⟨if tmo = ITC_NO_WAIT then recvNothing else recvWait tmo, d, ?_, ?_⟩
      · simp only [LoggedMailbox.localReceive, hl.rxq, Option.map_some]
      · split
        · exact ⟨trivial, [], hl, hcounts⟩
        · exact ⟨trivial, hl, hcounts⟩
    | cons m l =>
      obtain ⟨d', hd', hl', hinfo⟩ := hl.localReceive
      exact ⟨recvRxqLen m, d', by simp only [hd', Option.map_some], trivial, l, hl', by rwa [hinfo]⟩
  | recvWait tmo =>
    refine ⟨trivial, fun d hd => ⟨[], hd.1, hd.2⟩, henter trivial fun _ => rfl, fun e he => ?_⟩
    split at he
    · cases he
    · cases he
      exact henter trivial fun _ => rfl
  | recvNothing => exact ⟨trivial, fun d hd => ⟨_, _, rfl, trivial, hd.setInRx false⟩⟩
  | recvRxqLen m =>
    refine ⟨trivial, ?_⟩
    rintro d ⟨l, hl, hcounts⟩
    exact ⟨_, _, rfl, trivial, l, hl.setInfo _, .of_decLen hcounts⟩
  | recvEventfd m =>
    refine ⟨trivial, ?_⟩
    rintro d ⟨l, hl, hwritten⟩
    obtain ⟨info, hinfo, hcounts⟩ := hwritten.readFd
    exact ⟨recvNotInRx ITC_NO_WAIT (some m), _, by simp only [hinfo, Option.map_some], trivial, l,
      hl.setInfo _, hcounts⟩
  | recvNotInRx tmo m =>
    refine ⟨trivial, ?_⟩
    rintro d ⟨l, hl, hcounts⟩
    refine ⟨_, _, rfl, trivial, l, ⟨hl.inuse, hl.rxq, ?_⟩, hcounts.setInRx false⟩
    simp only [LoggedMailbox.logReturned, LoggedMailbox.setInfo, hl.fifo, Option.toList_none,
      List.nil_append, List.append_assoc]
  | recvUnlock tmo m =>
    refine ⟨trivial, ?_, fun d hd => hd⟩
    split
    · exact id
    · exact id
  | recvUnlockNothing => exact ⟨trivial, id, fun d hd => hd⟩
  | getFdLock => exact ⟨id, henter trivial fun _ => rfl⟩
  | getFdEventfd =>
    refine ⟨trivial, ?_⟩
    rintro d ⟨l, hl, hcounts⟩
    exact ⟨_, _, rfl, trivial, l, hl.setInfo _, hcounts.onGetFd⟩
  | getFdUnlock => exact ⟨trivial, id, fun d hd => hd⟩

theorem mailbox_valid (owner : Nat) : mailboxOutline.Valid mailboxCode (MailboxEntry owner) where
  fits := mailbox_fits
  entry t k hentry := by
    cases k with
    | sendState _ => exact id
    | recvLock _ => exact id
    | getFdLock => exact id
    | _ => exact hentry.elim

/-! ## Who waits, and who wakes -/

def LoggedMailbox.HasMessage (d : LoggedMailbox) : Prop := ∃ m l, d.mbox.rxq = some (m :: l)

/-- The places of the receiver, and those of the senders. -/
def MailboxRuns (owner t : Nat) : MailboxPlace → Prop
  | idle _ => True
  | sendState _ | sendLock _ | sendLocal _ | sendEventfd | sendRxqLen | sendSignal | sendUnlock =>
      t ≠ owner
  | _ => t = owner

/-- The message is in the rx queue, and the receiver has not been told. -/
def OwesSignal : MailboxPlace → Prop
  | sendEventfd | sendRxqLen | sendSignal => True
  | _ => False

theorem mailbox_leads {owner t : Nat} {k k' : MailboxPlace} (hruns : MailboxRuns owner t k)
    (hlead : (mailboxCode k).Leads k') : MailboxRuns owner t k' := by
  cases k with
  | idle _ => cases hlead
  | sendState message =>
    obtain ⟨d, rfl⟩ := hlead
    simp only
    split
    · exact hruns
    · trivial
  | sendLock _ | sendSignal | recvLock _ | getFdLock =>
    cases hlead
    exact hruns
  | sendUnlock | recvUnlockNothing | getFdUnlock =>
    cases hlead
    trivial
  | recvUnlock tmo m =>
    cases hlead
    split
    · exact hruns
    · trivial
  | sendEventfd | sendRxqLen | recvIsInRx _ | recvNothing | recvRxqLen _ | recvNotInRx _ _
  | getFdEventfd =>
    obtain ⟨d, d', hf⟩ := hlead
    cases hf
    exact hruns
  | sendLocal message =>
    obtain ⟨d, d', hf⟩ := hlead
    obtain ⟨d₁, -, heq⟩ := Option.map_eq_some_iff.mp hf
    cases heq
    exact hruns
  | recvEventfd m =>
    obtain ⟨d, d', hf⟩ := hlead
    obtain ⟨info, -, heq⟩ := Option.map_eq_some_iff.mp hf
    cases heq
    exact hruns
  | recvLocal tmo =>
    obtain ⟨d, d', hf⟩ := hlead
    obtain ⟨⟨r, d₁⟩, -, heq⟩ := Option.map_eq_some_iff.mp hf
    cases r with
    | some m =>
      cases heq
      exact hruns
    | none =>
      simp only [Prod.mk.injEq] at heq
      rw [← heq.1]
      split
      · exact hruns
      · exact hruns
  | recvWait tmo =>
    rcases hlead with rfl | hexpired
    · exact hruns
    · split at hexpired
      · cases hexpired
      · cases hexpired
        exact hruns

/-- Whoever puts a message into the rx queue signals before it unlocks the mutex. -/
theorem mailbox_owes {k k' : MailboxPlace} {f : LoggedMailbox → Option (MailboxPlace × LoggedMailbox)}
    {d d' : LoggedMailbox} (hcode : mailboxCode k = .access f) (hf : f d = some (k', d'))
    (hmsg : d'.HasMessage) : OwesSignal k' ∨ d.HasMessage ∧ ¬ OwesSignal k := by
  cases k with
  | sendLocal message =>
    cases hcode
    obtain ⟨d₁, -, heq⟩ := Option.map_eq_some_iff.mp hf
    cases heq
    exact .inl trivial
  | sendEventfd | sendRxqLen =>
    cases hcode
    cases hf
    exact .inl trivial
  | recvLocal tmo =>
    cases hcode
    obtain ⟨r, hrecv, heq⟩ := Option.map_eq_some_iff.mp hf
    obtain ⟨l, hl, hr⟩ := Option.map_eq_some_iff.mp hrecv
    cases l with
    | cons m l => exact .inr ⟨⟨m, l, hl⟩, id⟩
    | nil =>
      cases hr
      cases heq
      exact .inr ⟨hmsg, id⟩
  | recvEventfd m =>
    cases hcode
    obtain ⟨info, -, heq⟩ := Option.map_eq_some_iff.mp hf
    cases heq
    exact .inr ⟨hmsg, id⟩
  | recvIsInRx _ | recvNothing | recvRxqLen _ | recvNotInRx _ _ | getFdEventfd =>
    cases hcode
    cases hf
    exact .inr ⟨hmsg, id⟩
  | _ => cases hcode

theorem mailbox_waits (owner : Nat) :
    Waits mailboxOutline mailboxCode (MailboxEntry owner) LoggedMailbox.HasMessage owner
      (MailboxRuns owner) OwesSignal where
  entry t k hentry := by
    cases k with
    | sendState _ => exact hentry
    | recvLock _ => exact hentry
    | getFdLock => exact hentry
    | _ => exact hentry.elim
  leads _ _ _ := mailbox_leads
  waits t k woken expired hruns hcode := by
    cases k with
    | recvWait tmo =>
      refine ⟨hruns, ?_⟩
      rintro d ⟨hd, -⟩ ⟨m, l, hmsg⟩
      rw [hd.rxq] at hmsg
      cases hmsg
    | _ => cases hcode
  unlocks k next hcode := by
    cases k with
    | sendUnlock => exact id
    | recvUnlock _ _ => exact id
    | recvUnlockNothing => exact id
    | getFdUnlock => exact id
    | _ => cases hcode
  owes _ _ _ _ _ hcode _ hf hmsg := mailbox_owes hcode hf hmsg

/-! ## Runs -/

namespace MailboxThreads

variable {owner : Nat} {rxqInfo : RxqInfo} {as : List (Event Nat MailboxPlace)} {s : State}

theorem init_sound (rxqInfo : RxqInfo) : mailboxOutline.Sound (init rxqInfo) :=
  .start (fun _ => ⟨idle none, rfl, id⟩) rfl
    ⟨[], ⟨rfl, rfl, rfl⟩, rfl, fun hfd => by cases hfd⟩

theorem sound (hrun : Run (Step owner) (init rxqInfo) as s) : mailboxOutline.Sound s :=
  (init_sound rxqInfo).run (mailbox_valid owner) hrun

theorem awaited (hrun : Run (Step owner) (init rxqInfo) as s) :
    Awaited LoggedMailbox.HasMessage owner (MailboxRuns owner) OwesSignal s :=
  .run (mailbox_valid owner) (mailbox_waits owner) (init_sound rxqInfo)
    (.start fun _ => ⟨idle none, rfl, trivial⟩) hrun

/-- A thread that owes a signal is a sender, and holds the mutex. -/
theorem sender_of_owes (hrun : Run (Step owner) (init rxqInfo) as s) {t : Nat} {k : MailboxPlace}
    (hpc : s.pc t = .here k) (howes : OwesSignal k) : t ≠ owner := by
  have hruns := (awaited hrun).runs t
  rw [hpc] at hruns
  cases k with
  | sendEventfd | sendRxqLen | sendSignal => exact hruns
  | _ => exact howes.elim

end MailboxThreads

open MailboxThreads

/-- **No wake-up is lost.** However the senders interleave with the receiver, and whatever wakes or
times out: when the receiver sleeps in `itc_receive_zz` and there is a message for it, a sender
holds the mutex that has not signalled yet. -/
theorem receiver_not_lost (owner : Nat) (rxqInfo : RxqInfo) (as : List (Event Nat MailboxPlace))
    (s : MailboxThreads.State) (hrun : Run (MailboxThreads.Step owner) (init rxqInfo) as s)
    (woken : MailboxPlace) (expired : Option MailboxPlace)
    (hasleep : s.pc owner = .asleep woken expired) (m : Nat) (l : List Nat)
    (hmsg : s.data.mbox.rxq = some (m :: l)) :
    ∃ t k, t ≠ owner ∧ s.owner = some t ∧ s.pc t = .here k ∧ OwesSignal k := by
  obtain ⟨t, k, howner, hpc, howes⟩ := (awaited hrun).signal woken expired hasleep ⟨m, l, hmsg⟩
  exact ⟨t, k, sender_of_owes hrun hpc howes, howner, hpc, howes⟩

/-- The receiver sleeps, and a sender has just put a message into the rx queue. -/
theorem sleeping_receiver_run :
    ∃ as s, Run (MailboxThreads.Step 0) (init ⟨0, false, 0, false⟩) as s ∧
      s.pc 0 = .asleep (recvNotInRx ITC_WAIT_FOREVER none) none ∧ s.owner = some 1 ∧
      s.data.mbox.rxq = some [7] :=
  ⟨_, _, .cons (.call (t := 0) (k := recvLock ITC_WAIT_FOREVER) rfl rfl rfl)
    (.cons (.lock (t := 0) rfl rfl rfl) (.cons (.access (t := 0) rfl rfl rfl)
    (.cons (.access (t := 0) rfl rfl rfl) (.cons (.wait (t := 0) rfl rfl)
    (.cons (.call (t := 1) (k := sendState 7) rfl rfl Nat.one_ne_zero) (.cons (.peek (t := 1) rfl rfl)
    (.cons (.lock (t := 1) rfl rfl rfl) (.cons (.access (t := 1) rfl rfl rfl) (.nil _))))))))),
    rfl, rfl, rfl⟩

theorem receiver_not_lost_asleep :
    ∃ as s, Run (MailboxThreads.Step 0) (init ⟨0, false, 0, false⟩) as s ∧
      s.data.mbox.rxq = some [7] ∧
      ∃ t k, t ≠ 0 ∧ s.owner = some t ∧ s.pc t = .here k ∧ OwesSignal k := by
  obtain ⟨as, s, hrun, hasleep, -, hmsg⟩ := sleeping_receiver_run
  exact ⟨as, s, hrun, hmsg, receiver_not_lost 0 _ as s hrun _ _ hasleep 7 [] hmsg⟩

/-- **The threads of a mailbox do not block each other.** When none of them can go on, all are
between two calls, but for a receiver that sleeps because its rx queue is empty. -/
theorem mailbox_threads_live (owner : Nat) (rxqInfo : RxqInfo)
    (as : List (Event Nat MailboxPlace)) (s : MailboxThreads.State)
    (hrun : Run (MailboxThreads.Step owner) (init rxqInfo) as s) :
    (∃ a s' t, MailboxThreads.Step owner s a s' ∧ a.mover = some t) ∨
      s.owner = none ∧ ∀ t, (∃ message, s.pc t = .here (idle message)) ∨
        t = owner ∧ s.data.mbox.rxq = some [] ∧ ∃ w e, s.pc t = .asleep w e := by
  have hs := sound hrun
  have ha := awaited hrun
  rcases hs.moves (mailbox_valid owner) with hmoves | ⟨hfree, hrest⟩
  · exact .inl hmoves
  · refine .inr ⟨hfree, fun t => ?_⟩
    rcases hrest t with ⟨k, hpc, hcode⟩ | ⟨w, e, hasleep⟩
    · left
      cases k with
      | idle message => exact ⟨message, hpc⟩
      | _ => cases hcode
    · have ht := ha.sleeper t w e hasleep
      refine .inr ⟨ht, ?_, w, e, hasleep⟩
      rw [ht] at hasleep
      have hnot := ha.not_lost hasleep hfree
      obtain ⟨l, hl, -⟩ := hs.inv hfree
      cases l with
      | nil => exact hl.rxq
      | cons m l => exact absurd ⟨m, l, hl.rxq⟩ hnot

theorem mailbox_threads_live_asleep :
    ∃ as s, Run (MailboxThreads.Step 0) (init ⟨0, false, 0, false⟩) as s ∧
      ((∃ a s' t, MailboxThreads.Step 0 s a s' ∧ a.mover = some t) ∨
        s.owner = none ∧ ∀ t, (∃ message, s.pc t = .here (idle message)) ∨
          t = 0 ∧ s.data.mbox.rxq = some [] ∧ ∃ w e, s.pc t = .asleep w e) := by
  obtain ⟨as, s, hrun, -⟩ := sleeping_receiver_run
  exact ⟨as, s, hrun, mailbox_threads_live 0 _ as s hrun⟩

/-- What has been sent is what has been returned, what the receiver has in its hands, and what lies
in the rx queue. Once the mutex is free, the counters tell the rx queue. -/
structure MailboxInOrder (s : MailboxThreads.State) (owner : Nat) (message : Option Nat)
    (l : List Nat) : Prop where
  rxq : s.data.mbox.rxq = some l
  fifo : s.data.sent = s.data.returned ++ message.toList ++ l
  hands : message ≠ none → s.owner = some owner
  rxqLen : s.owner = none → s.data.mbox.rxqInfo.rxqLen = l.length
  eventfd : s.owner = none → s.data.mbox.rxqInfo.isFdCreated = true →
    (s.data.mbox.rxqInfo.rxqFd ≠ 0 ↔ l ≠ [])

/-- A place at which the mutex is held tells the rx queue, and what the receiver has. -/
theorem mailboxOutline_queued {k : MailboxPlace} {d : LoggedMailbox}
    (h : mailboxOutline.asserts k d) :
    ∃ m l, d.Queued m l ∧ (m ≠ none → ∀ {t owner}, MailboxRuns owner t k → t = owner) := by
  cases k with
  | sendEventfd =>
    obtain ⟨l, m, hl, -⟩ := h
    exact ⟨none, _, hl, fun hne => absurd rfl hne⟩
  | sendRxqLen =>
    obtain ⟨l, m, hl, -⟩ := h
    exact ⟨none, _, hl, fun hne => absurd rfl hne⟩
  | recvWait tmo => exact ⟨none, _, h.1, fun hne => absurd rfl hne⟩
  | recvRxqLen m =>
    obtain ⟨l, hl, -⟩ := h
    exact ⟨some m, l, hl, fun _ => id⟩
  | recvEventfd m =>
    obtain ⟨l, hl, -⟩ := h
    exact ⟨some m, l, hl, fun _ => id⟩
  | recvNotInRx tmo m =>
    obtain ⟨l, hl, -⟩ := h
    exact ⟨m, l, hl, fun _ => id⟩
  | _ =>
    obtain ⟨l, hl, -⟩ := h
    exact ⟨none, l, hl, fun hne => absurd rfl hne⟩

/-- **Messages come out in the order they went in, each once**, in every interleaving of the
statements of the senders and the receiver. -/
theorem mailbox_threads_fifo (owner : Nat) (rxqInfo : RxqInfo) (as : List (Event Nat MailboxPlace))
    (s : MailboxThreads.State) (hrun : Run (MailboxThreads.Step owner) (init rxqInfo) as s) :
    ∃ message l, MailboxInOrder s owner message l := by
  have hs := sound hrun
  cases howner : s.owner with
  | none =>
    obtain ⟨l, hl, hcounts⟩ := hs.inv howner
    refine ⟨none, l, hl.rxq, by rw [hl.fifo, List.append_assoc], fun hne => absurd rfl hne,
      fun _ => hcounts.rxqLen, fun _ hfd => ?_⟩
    rw [hcounts.rxqFd hfd]
    cases l <;> simp
  | some t =>
    have hok := hs.pc t
    cases hpc : s.pc t with
    | asleep w e =>
      rw [hpc] at hok
      exact absurd howner hok.1
    | relock k =>
      rw [hpc] at hok
      exact absurd howner hok.1
    | here k =>
      rw [hpc] at hok
      obtain ⟨m, l, hl, hhands⟩ := mailboxOutline_queued (hok.2 howner)
      have hruns := (awaited hrun).runs t
      rw [hpc] at hruns
      refine ⟨m, l, hl.rxq, by rw [hl.fifo, List.append_assoc], fun hne => ?_, ?_, ?_⟩
      · rw [howner, hhands hne hruns]
      · intro hfree
        rw [howner] at hfree
        cases hfree
      · intro hfree
        rw [howner] at hfree
        cases hfree

theorem mailbox_threads_fifo_asleep :
    ∃ as s, Run (MailboxThreads.Step 0) (init ⟨0, false, 0, false⟩) as s ∧
      s.data.mbox.rxq = some [7] ∧ ∃ message l, MailboxInOrder s 0 message l := by
  obtain ⟨as, s, hrun, -, -, hmsg⟩ := sleeping_receiver_run
  exact ⟨as, s, hrun, hmsg, mailbox_threads_fifo 0 _ as s hrun⟩

/-! ## Returning with a message -/

/-- How far an `itc_receive_zz` that has not timed out is from its return, once there is a message
for it. -/
def recvDistance : Pc MailboxPlace → Option Nat
  | .asleep (recvNotInRx _ none) _ => some 10
  | .relock (recvNotInRx _ none) => some 9
  | .here (recvNotInRx _ none) => some 8
  | .here (recvUnlock _ none) => some 7
  | .here (recvLock _) => some 6
  | .here (recvIsInRx _) => some 5
  | .here (recvLocal _) => some 4
  | .here (recvRxqLen _) => some 3
  | .here (recvEventfd _) => some 2
  | .here (recvNotInRx _ (some _)) => some 1
  | .here (recvUnlock _ (some _)) => some 0
  | _ => none

/-- The receiver waits for the first message of the rx queue, or has a message already. -/
def Receiving (owner : Nat) (s : MailboxThreads.State) : Prop :=
  ∃ n, recvDistance (s.pc owner) = some n ∧ (s.data.HasMessage ∨ n ≤ 3)

def sendDistance : MailboxPlace → Nat
  | sendLocal _ => 5
  | sendEventfd => 4
  | sendRxqLen => 3
  | sendSignal => 2
  | sendUnlock => 1
  | _ => 0

namespace MailboxThreads

variable {owner : Nat} {s : State}

/-- What a sender in its critical section does next, and what it leaves to the receiver. -/
theorem sender_step {t : Nat} {k : MailboxPlace} (hs : mailboxOutline.Sound s)
    (ha : Awaited LoggedMailbox.HasMessage owner (MailboxRuns owner) OwesSignal s)
    (hne : t ≠ owner) (howner : s.owner = some t) (hpc : s.pc t = .here k)
    (hrecv : Receiving owner s) :
    ∃ a s', Step owner s a s' ∧ a.mover = some t ∧ Receiving owner s' ∧
      (s'.owner = none ∨ s'.owner = some t ∧ ∃ k', s'.pc t = .here k' ∧
        sendDistance k' < sendDistance k) := by
  have hholds : mailboxOutline.holds k := by
    have hok := hs.pc t
    rw [hpc] at hok
    exact hok.1.mpr howner
  have hruns := ha.runs t
  rw [hpc] at hruns
  have hasserts := hs.asserts hpc hholds
  obtain ⟨n, hn, hmsg⟩ := hrecv
  have hkeep : ∀ pc, recvDistance (Function.update s.pc t pc owner) = some n := by
    intro pc
    rw [Function.update_of_ne (Ne.symm hne)]
    exact hn
  cases k with
  | sendLocal m =>
    obtain ⟨l, hl, -⟩ := hasserts
    obtain ⟨d', hd', hl', -⟩ := hl.localSend m
    refine ⟨_, _, .access (n := sendEventfd) (d := d') hpc rfl ?_, rfl,
      ⟨n, hkeep _, .inl ?_⟩, .inr ⟨howner, _, Function.update_self _ _ _, ?_⟩⟩
    · simp only [hd', Option.map_some]
    · cases l with
      | nil => exact ⟨m, [], hl'.rxq⟩
      | cons m' l => exact ⟨m', l ++ [m], hl'.rxq⟩
    · exact Nat.lt_succ_self 4
  | sendEventfd =>
    refine ⟨_, _, .access hpc rfl rfl, rfl, ⟨n, hkeep _, hmsg⟩,
      .inr ⟨howner, _, Function.update_self _ _ _, ?_⟩⟩
    decide
  | sendRxqLen =>
    refine ⟨_, _, .access hpc rfl rfl, rfl, ⟨n, hkeep _, hmsg⟩,
      .inr ⟨howner, _, Function.update_self _ _ _, ?_⟩⟩
    decide
  | sendSignal =>
    by_cases hsleep : ∃ w e, s.pc owner = .asleep w e
    · obtain ⟨w, e, hasleep⟩ := hsleep
      have hw : ∃ tmo, w = recvNotInRx tmo none ∧ n = 10 := by
        rw [hasleep] at hn
        unfold recvDistance at hn
        split at hn <;> simp_all
      obtain ⟨tmo, rfl, rfl⟩ := hw
      refine ⟨_, _, .wake hpc rfl hasleep, rfl, ⟨9, ?_, ?_⟩,
        .inr ⟨howner, _, Function.update_self _ _ _, ?_⟩⟩
      · simp only [State.goto, Function.update_of_ne (Ne.symm hne), Function.update_self,
          recvDistance]
      · rcases hmsg with hmsg | hle
        · exact .inl hmsg
        · omega
      · decide
    · have hnobody : ∀ u w e, s.pc u ≠ .asleep w e := by
        intro u w e hasleep
        have huo := ha.sleeper u w e hasleep
        rw [huo] at hasleep
        exact hsleep ⟨w, e, hasleep⟩
      refine ⟨_, _, .signal hpc rfl hnobody, rfl, ⟨n, hkeep _, hmsg⟩,
        .inr ⟨howner, _, Function.update_self _ _ _, ?_⟩⟩
      decide
  | sendUnlock =>
    have hrelease : s.release t = { s with owner := none } := if_pos howner
    refine ⟨_, _, .unlock hpc rfl, rfl, ⟨n, ?_, ?_⟩, .inl ?_⟩
    · rw [hrelease]
      exact hkeep _
    · rw [hrelease]
      exact hmsg
    · rw [hrelease]
      rfl
  | idle _ | sendState _ | sendLock _ | recvLock _ | getFdLock => exact hholds.elim
  | _ => exact absurd hruns hne

/-- A sender leaves its critical section. -/
theorem sender_leaves {t : Nat} (hne : t ≠ owner) (c : Nat) :
    ∀ {s : State} {k : MailboxPlace}, mailboxOutline.Sound s →
      Awaited LoggedMailbox.HasMessage owner (MailboxRuns owner) OwesSignal s →
      s.owner = some t → s.pc t = .here k → sendDistance k ≤ c → Receiving owner s →
      ∃ bs s', Run (Step owner) s bs s' ∧ (∀ b ∈ bs, b.mover = some t) ∧ s'.owner = none ∧
        Receiving owner s' := by
  induction c with
  | zero =>
    intro s k hs ha howner hpc hle hrecv
    obtain ⟨a, s', hstep, hmover, hrecv', hfree | ⟨-, k', -, hlt⟩⟩ :=
      sender_step hs ha hne howner hpc hrecv
    · refine ⟨[a], s', .cons hstep (.nil _), ?_, hfree, hrecv'⟩
      intro b hb
      rw [List.mem_singleton.mp hb]
      exact hmover
    · omega
  | succ c ih =>
    intro s k hs ha howner hpc hle hrecv
    obtain ⟨a, s', hstep, hmover, hrecv', hfree | ⟨howner', k', hpc', hlt⟩⟩ :=
      sender_step hs ha hne howner hpc hrecv
    · refine ⟨[a], s', .cons hstep (.nil _), ?_, hfree, hrecv'⟩
      intro b hb
      rw [List.mem_singleton.mp hb]
      exact hmover
    · obtain ⟨bs, s'', hrun, hmovers, hfree, hrecv''⟩ :=
        ih (hs.step (mailbox_valid owner) hstep)
          (ha.step (mailbox_valid owner) (mailbox_waits owner) hs hstep) howner' hpc'
          (by omega) hrecv'
      refine ⟨a :: bs, s'', .cons hstep hrun, ?_, hfree, hrecv''⟩
      intro b hb
      rcases List.mem_cons.mp hb with rfl | hb
      · exact hmover
      · exact hmovers b hb

/-- What the receiver does next when no sender is in its critical section. -/
theorem receiver_step {n : Nat} (hs : mailboxOutline.Sound s)
    (ha : Awaited LoggedMailbox.HasMessage owner (MailboxRuns owner) OwesSignal s)
    (howner : s.owner = none ∨ s.owner = some owner) (hn : recvDistance (s.pc owner) = some n)
    (hmsg : s.data.HasMessage ∨ n ≤ 3) :
    ∃ a s', Step owner s a s' ∧ a.mover = some owner ∧
      ((∃ m, s'.pc owner = .here (idle (some m))) ∨
        (s'.owner = none ∨ s'.owner = some owner) ∧ ∃ n' < n,
          recvDistance (s'.pc owner) = some n' ∧ (s'.data.HasMessage ∨ n' ≤ 3)) := by
  have hinside : ∀ {k}, s.pc owner = .here k → mailboxOutline.holds k →
      s.owner = some owner ∧ mailboxOutline.asserts k s.data :=
    fun hpc hholds => ⟨hs.owner hpc hholds, hs.asserts hpc hholds⟩
  have hfree : ∀ {k}, s.pc owner = .here k → ¬ mailboxOutline.holds k → s.owner = none := by
    intro k hpc hholds
    exact howner.resolve_right (hs.not_owner hpc hholds)
  have hgoto : ∀ pc, Function.update s.pc owner pc owner = pc := fun _ => Function.update_self _ _ _
  unfold recvDistance at hn
  split at hn
  · rename_i tmo e hpc
    cases hn
    have hok := hs.pc owner
    rw [hpc] at hok
    exact absurd (hmsg.resolve_right (by omega)) (ha.not_lost hpc (howner.resolve_right hok.1))
  · rename_i tmo hpc
    cases hn
    have hok := hs.pc owner
    rw [hpc] at hok
    refine ⟨_, _, .relock hpc (howner.resolve_right hok.1), rfl, .inr ⟨.inr rfl, 8, by omega, ?_,
      .inl (hmsg.resolve_right (by omega))⟩⟩
    simp only [State.goto, hgoto, recvDistance]
  · rename_i tmo hpc
    cases hn
    refine ⟨_, _, .access hpc rfl rfl, rfl, .inr ⟨.inr (hinside hpc trivial).1, 7, by omega, ?_,
      .inl (hmsg.resolve_right (by omega))⟩⟩
    simp only [State.goto, hgoto, recvDistance]
  · rename_i tmo hpc
    cases hn
    have hrelease : s.release owner = { s with owner := none } := if_pos (hinside hpc trivial).1
    refine ⟨_, _, .unlock hpc rfl, rfl, .inr ⟨?_, 6, by omega, ?_, ?_⟩⟩
    · rw [hrelease]
      exact .inl rfl
    · simp only [State.goto, hrelease, hgoto, if_true, recvDistance]
    · rw [hrelease]
      exact .inl (hmsg.resolve_right (by omega))
  · rename_i tmo hpc
    cases hn
    refine ⟨_, _, .lock hpc rfl (hfree hpc id), rfl, .inr ⟨.inr rfl, 5, by omega, ?_,
      .inl (hmsg.resolve_right (by omega))⟩⟩
    simp only [State.goto, hgoto, recvDistance]
  · rename_i tmo hpc
    cases hn
    refine ⟨_, _, .access hpc rfl rfl, rfl, .inr ⟨.inr (hinside hpc trivial).1, 4, by omega, ?_,
      .inl (hmsg.resolve_right (by omega))⟩⟩
    simp only [State.goto, hgoto, recvDistance]
  · rename_i tmo hpc
    cases hn
    obtain ⟨howns, l, hl, -⟩ := hinside hpc trivial
    obtain ⟨m, l', hrxq⟩ := hmsg.resolve_right (by omega)
    rw [hl.rxq] at hrxq
    cases hrxq
    obtain ⟨d', hd', -, -⟩ := hl.localReceive
    refine ⟨_, _, .access (n := recvRxqLen m) (d := d') hpc rfl ?_, rfl,
      .inr ⟨.inr howns, 3, by omega, ?_, .inr (by omega)⟩⟩
    · simp only [hd', Option.map_some]
    · simp only [State.goto, hgoto, recvDistance]
  · rename_i m hpc
    cases hn
    refine ⟨_, _, .access hpc rfl rfl, rfl, .inr ⟨.inr (hinside hpc trivial).1, 2, by omega, ?_,
      .inr (by omega)⟩⟩
    simp only [State.goto, hgoto, recvDistance]
  · rename_i m hpc
    cases hn
    obtain ⟨howns, l, hl, hwritten⟩ := hinside hpc trivial
    obtain ⟨info, hinfo, -⟩ := hwritten.readFd
    refine ⟨_, _, .access (n := recvNotInRx ITC_NO_WAIT (some m)) (d := s.data.setInfo info) hpc rfl ?_,
      rfl, .inr ⟨.inr howns, 1, by omega, ?_, .inr (by omega)⟩⟩
    · simp only [hinfo, Option.map_some]
    · simp only [State.goto, hgoto, recvDistance]
  · rename_i tmo m hpc
    cases hn
    refine ⟨_, _, .access hpc rfl rfl, rfl, .inr ⟨.inr (hinside hpc trivial).1, 0, by omega, ?_,
      .inr (by omega)⟩⟩
    simp only [State.goto, hgoto, recvDistance]
  · rename_i tmo m hpc
    have hrelease : s.release owner = { s with owner := none } := if_pos (hinside hpc trivial).1
    refine ⟨_, _, .unlock hpc rfl, rfl, .inl ⟨m, ?_⟩⟩
    simp only [State.goto, hrelease, hgoto, reduceCtorEq, if_false]
  · cases hn

/-- The receiver returns with a message when no sender is in its critical section. -/
theorem receiver_finishes (n : Nat) :
    ∀ {s : State}, mailboxOutline.Sound s →
      Awaited LoggedMailbox.HasMessage owner (MailboxRuns owner) OwesSignal s →
      (s.owner = none ∨ s.owner = some owner) → recvDistance (s.pc owner) = some n →
      (s.data.HasMessage ∨ n ≤ 3) →
      ∃ bs s' m, Run (Step owner) s bs s' ∧ (∀ b ∈ bs, b.mover = some owner) ∧
        s'.pc owner = .here (idle (some m)) := by
  induction n using Nat.strong_induction_on with
  | _ n ih =>
    intro s hs ha howner hn hmsg
    obtain ⟨a, s', hstep, hmover, ⟨m, hdone⟩ | ⟨howner', n', hlt, hn', hmsg'⟩⟩ :=
      receiver_step hs ha howner hn hmsg
    · refine ⟨[a], s', m, .cons hstep (.nil _), ?_, hdone⟩
      intro b hb
      rw [List.mem_singleton.mp hb]
      exact hmover
    · obtain ⟨bs, s'', m, hrun, hmovers, hdone⟩ := ih n' hlt (hs.step (mailbox_valid owner) hstep)
        (ha.step (mailbox_valid owner) (mailbox_waits owner) hs hstep) howner' hn' hmsg'
      refine ⟨a :: bs, s'', m, .cons hstep hrun, ?_, hdone⟩
      intro b hb
      rcases List.mem_cons.mp hb with rfl | hb
      · exact hmover
      · exact hmovers b hb

end MailboxThreads

/-- **A receiver for which there is a message can always return with one**, and needs no more than
that the sender that holds the mutex finishes its call: no further message, time-out or wake-up. -/
theorem receiver_returns (owner : Nat) (rxqInfo : RxqInfo) (as : List (Event Nat MailboxPlace))
    (s : MailboxThreads.State) (hrun : Run (MailboxThreads.Step owner) (init rxqInfo) as s)
    (hrecv : Receiving owner s) :
    ∃ bs s' m, Run (MailboxThreads.Step owner) s bs s' ∧
      (∀ b ∈ bs, ∃ t, b.mover = some t ∧ (t = owner ∨ s.owner = some t)) ∧
      s'.pc owner = .here (idle (some m)) := by
  have hs := sound hrun
  have ha := awaited hrun
  have hleft : ∃ bs s', Run (MailboxThreads.Step owner) s bs s' ∧
      (∀ b ∈ bs, ∃ t, b.mover = some t ∧ s.owner = some t) ∧
      (s'.owner = none ∨ s'.owner = some owner) ∧ Receiving owner s' := by
    cases howner : s.owner with
    | none => exact ⟨[], s, .nil _, by simp, .inl howner, hrecv⟩
    | some t =>
      by_cases ht : t = owner
      · exact ⟨[], s, .nil _, by simp, .inr (by rw [howner, ht]), hrecv⟩
      · have hok := hs.pc t
        cases hpc : s.pc t with
        | asleep w e =>
          rw [hpc] at hok
          exact absurd howner hok.1
        | relock k =>
          rw [hpc] at hok
          exact absurd howner hok.1
        | here k =>
          obtain ⟨bs, s', hrun', hmovers, hfree, hrecv'⟩ :=
            sender_leaves ht _ hs ha howner hpc (Nat.le_refl _) hrecv
          exact ⟨bs, s', hrun', fun b hb => ⟨t, hmovers b hb, rfl⟩, .inl hfree, hrecv'⟩
  obtain ⟨bs, s₁, hrun₁, hmovers₁, howner₁, n, hn, hmsg⟩ := hleft
  have hall := hrun.append hrun₁
  obtain ⟨cs, s', m, hrun', hmovers', hdone⟩ :=
    receiver_finishes n (sound hall) (awaited hall) howner₁ hn hmsg
  refine ⟨bs ++ cs, s', m, hrun₁.append hrun', ?_, hdone⟩
  intro b hb
  rcases List.mem_append.mp hb with hb | hb
  · obtain ⟨t, hmover, howns⟩ := hmovers₁ b hb
    exact ⟨t, hmover, .inr howns⟩
  · exact ⟨owner, hmovers' b hb, .inl rfl⟩

theorem receiver_returns_asleep :
    ∃ as s, Run (MailboxThreads.Step 0) (init ⟨0, false, 0, false⟩) as s ∧
      ∃ bs s' m, Run (MailboxThreads.Step 0) s bs s' ∧
        (∀ b ∈ bs, ∃ t, b.mover = some t ∧ (t = 0 ∨ s.owner = some t)) ∧
        s'.pc 0 = .here (idle (some m)) := by
  obtain ⟨as, s, hrun, hasleep, -, hmsg⟩ := sleeping_receiver_run
  have hrecv : Receiving 0 s := ⟨10, by rw [hasleep]; rfl, .inl ⟨7, [], hmsg⟩⟩
  exact ⟨as, s, hrun, receiver_returns 0 _ as s hrun hrecv⟩

end ItcFramework
