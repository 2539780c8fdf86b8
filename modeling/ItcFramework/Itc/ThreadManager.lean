import ItcFramework.Itc.Lifecycle
import ItcFramework.Lib.Transition

/-!
# The thread manager

Embedding of `add_itcthread`, `start_itcthreads` and `terminate_itcthreads` over the list of
threads. The loops of the last two stop at the first entry that is running, or that is not; the
second frees the entries that it passes and never stores to `thread_list`.

* `EntryList` — what a pointer to an entry leads to; the entries before one in another state are
  `leading`, and `behind` is the rest.
* `ThreadManager.call` — one call; `none` when it waits for a mutex that nobody unlocks.
* `Kept` — a start that reports success has left every listed thread running, a termination that
  does an empty list and no thread, and no call reads a freed entry.
* `MayCall`, `kept_iff` — the calls that keep it; `threadManager_kept_iff` for whole runs.
* `startItcthreads_entries`, `terminateItcthreads_entries` — the loops in the lives of a process
  are these.
-/

set_option autoImplicit false

namespace ItcFramework

open ByteImage Transition

/-! ## The list -/

/-- `struct itc_threads`, whose worker runs until it is cancelled. -/
structure ItcThreads where
  useHighestPrio : Bool
  startMtx : Option Nat
  isRunning : Bool
  /-- The thread has been created and not been cancelled. -/
  alive : Bool
  deriving DecidableEq, Repr

/-- What a pointer to an entry of `thread_list` leads to. -/
inductive EntryList where
  | nil
  | cons (thr : ItcThreads) (next : EntryList)
  /-- The entry has been freed. -/
  | dangling
  deriving DecidableEq, Repr

namespace EntryList

/-- The entries that are there. -/
def entries : EntryList → List ItcThreads
  | .nil => []
  | .dangling => []
  | .cons thr next => thr :: next.entries

/-- The entries up to the first that is not in the state. -/
def leading (running : Bool) : EntryList → List ItcThreads
  | .cons thr next => if thr.isRunning = running then thr :: next.leading running else []
  | _ => []

/-- What comes behind them. -/
def behind (running : Bool) : EntryList → EntryList
  | .cons thr next => if thr.isRunning = running then next.behind running else .cons thr next
  | list => list

def prepend (thrs : List ItcThreads) (list : EntryList) : EntryList := thrs.foldr .cons list

theorem behind_eq {running : Bool} {list : EntryList} (h : (list.leading running).length = 0) :
    list.behind running = list := by
  cases list with
  | nil => rfl
  | dangling => rfl
  | cons thr next =>
    rw [leading] at h
    rw [behind]
    split at h
    · cases h
    · next hne => rw [if_neg hne]

/-- The list is whole, and all its threads run. -/
def AllRunning : EntryList → Prop
  | .nil => True
  | .cons thr next => thr.isRunning = true ∧ thr.alive = true ∧ next.AllRunning
  | .dangling => False

/-- The end of the list has been freed. -/
def Broken : EntryList → Prop
  | .nil => False
  | .cons _ next => next.Broken
  | .dangling => True

end EntryList

/-! ## Starting -/

/-- `m_sched_policy`, `m_sched_selflimit_prio` and `m_sched_priority` -/
structure SchedParams where
  policy : Int
  selflimitPrio : Int
  priority : Int
  deriving DecidableEq, Repr

/-- What `config_itcthread` is answered. -/
structure ConfigAnswers where
  attrInit : Bool
  schedpolicy : Int → Bool
  schedparam : Int → Bool
  inheritsched : Bool
  create : Bool

/-- `config_itcthread`, `false` when it reports an error. -/
def configItcthread (answers : ConfigAnswers) (policy priority : Int) : Bool :=
  answers.attrInit && answers.schedpolicy policy && answers.schedparam priority &&
    answers.inheritsched && answers.create

/-- What the start of an entry is answered. -/
structure EntryAnswers where
  config : ConfigAnswers
  /-- The worker unlocks its `start_mtx`. -/
  unlocks : Bool

def ItcThreads.priority (sched : SchedParams) (thr : ItcThreads) : Int :=
  if thr.useHighestPrio then sched.selflimitPrio else sched.priority

/-- `config_itcthread` for an entry. -/
def ItcThreads.created (sched : SchedParams) (answers : EntryAnswers) (thr : ItcThreads) : Bool :=
  configItcthread answers.config sched.policy (thr.priority sched)

/-- The `start_mtx` is locked. -/
def ItcThreads.waits (held : Nat → Bool) (thr : ItcThreads) : Bool := thr.startMtx.any held

def ItcThreads.lock (held : Nat → Bool) (thr : ItcThreads) : Nat → Bool :=
  fun mtx => if thr.startMtx = some mtx then true else held mtx

def ItcThreads.started (thr : ItcThreads) : ItcThreads :=
  { thr with isRunning := true, alive := true }

/-- What a loop gives: no error, the list, the mutexes. -/
abbrev LoopResult := Bool × EntryList × (Nat → Bool)

/-- The loop of `start_itcthreads`; `rcTmp` is what `malloc` answers for `rc_tmp`, which the first
entry that is not running dereferences. -/
def startLoop (sched : SchedParams) (rcTmp : Bool) (answers : Nat → EntryAnswers)
    (held : Nat → Bool) : Nat → EntryList → Except MemFault (Option LoopResult)
  | _, .nil => .ok (some (true, .nil, held))
  | _, .dangling => .error .useAfterFree
  | k, .cons thr next =>
      if thr.isRunning then .ok (some (true, .cons thr next, held))
      else if thr.waits held then .ok none
      else if ¬ rcTmp then .error .nullDeref
      -- the `start_mtx` stays locked
      else if ¬ thr.created sched (answers k) then
        .ok (some (false, .cons thr next, thr.lock held))
      else if thr.startMtx.isSome ∧ ¬ (answers k).unlocks then .ok none
      else do
        match ← startLoop sched rcTmp answers held (k + 1) next with
        | none => .ok none
        | some (ok, next, held) => .ok (some (ok, .cons thr.started next, held))

/-- The loop does not get past the entry. -/
def StartFails (sched : SchedParams) (rcTmp : Bool) (answers : EntryAnswers) (held : Nat → Bool)
    (thr : ItcThreads) : Prop :=
  thr.waits held = true ∨ rcTmp = false ∨ thr.created sched answers = false ∨
    thr.startMtx.isSome = true ∧ answers.unlocks = false

/-! ## Terminating -/

/-- What `terminate_itcthreads` is answered for the entry of that position. -/
structure CancelAnswers where
  cancel : Nat → Bool
  join : Nat → Bool

/-- The loop of `terminate_itcthreads`: no error, what `thr` leads to at its end, and how many
entries have been freed. -/
def terminateLoop (answers : CancelAnswers) : Nat → EntryList →
    Except MemFault (Bool × EntryList × Nat)
  | _, .nil => .ok (true, .nil, 0)
  | _, .dangling => .error .useAfterFree
  | k, .cons thr next =>
      if ¬ thr.isRunning then .ok (true, .cons thr next, 0)
      else if ¬ answers.cancel k then .ok (false, .cons thr next, 0)
      else if ¬ answers.join k then .ok (false, .cons { thr with alive := false } next, 0)
      else do
        let (ok, rest, freed) ← terminateLoop answers (k + 1) next
        .ok (ok, rest, freed + 1)

/-! ## The calls -/

structure ThreadManager where
  threadList : EntryList
  /-- The `start_mtx`s that are locked. -/
  held : Nat → Bool
  /-- The entries that are neither freed nor reached from `thread_list`. -/
  lost : List ItcThreads

inductive ThreadCall where
  /-- `mem` is what `malloc` answers. -/
  | add (mem useHighestPrio : Bool) (startMtx : Option Nat)
  | start (rcTmp : Bool) (answers : Nat → EntryAnswers)
  | terminate (answers : CancelAnswers)

namespace ThreadManager

def init : ThreadManager := ⟨.nil, fun _ => false, []⟩

def addItcthread (tm : ThreadManager) (mem useHighestPrio : Bool) (startMtx : Option Nat) :
    Bool × ThreadManager :=
  if mem then
    (true, { tm with threadList := .cons ⟨useHighestPrio, startMtx, false, false⟩ tm.threadList })
  else (false, tm)

def startItcthreads (sched : SchedParams) (tm : ThreadManager) (rcTmp : Bool)
    (answers : Nat → EntryAnswers) : Except MemFault (Option (Bool × ThreadManager)) := do
  match ← startLoop sched rcTmp answers tm.held 0 tm.threadList with
  | none => .ok none
  | some (ok, threadList, held) => .ok (some (ok, { tm with threadList, held }))

def terminateItcthreads (tm : ThreadManager) (answers : CancelAnswers) :
    Except MemFault (Option (Bool × ThreadManager)) := do
  let (ok, rest, freed) ← terminateLoop answers 0 tm.threadList
  if freed = 0 then .ok (some (ok, { tm with threadList := rest }))
  else .ok (some (ok, { tm with threadList := .dangling, lost := rest.entries ++ tm.lost }))

/-- What a call gives: `true` for `ITC_OK`; `none` when it does not return. -/
def call (sched : SchedParams) (tm : ThreadManager) :
    ThreadCall → Except MemFault (Option (Bool × ThreadManager))
  | .add mem useHighestPrio startMtx => .ok (some (tm.addItcthread mem useHighestPrio startMtx))
  | .start rcTmp answers => tm.startItcthreads sched rcTmp answers
  | .terminate answers => tm.terminateItcthreads answers

end ThreadManager

/-- What a call that reports `ITC_OK` promises. -/
def ThreadCall.Promise : ThreadCall → ThreadManager → Prop
  | .add _ _ _, _ => True
  | .start _ _, tm => tm.threadList.AllRunning
  | .terminate _, tm => tm.threadList = .nil ∧ ∀ thr ∈ tm.lost, thr.alive = false

namespace ThreadManager

/-- The call keeps its promise, and reads no freed entry. -/
def Kept (sched : SchedParams) (tm : ThreadManager) (c : ThreadCall) : Prop :=
  match tm.call sched c with
  | .ok (some (true, tm')) => c.Promise tm'
  | .ok _ => True
  | .error fault => fault ≠ .useAfterFree

/-- A start comes to an entry that it cannot start, or all entries behind the new ones are running;
a termination finds no entry, or one of the leading running ones that it cannot end. -/
def MayCall (sched : SchedParams) (tm : ThreadManager) : ThreadCall → Prop
  | .add _ _ _ => True
  | .start rcTmp answers =>
      (∃ i thr, (tm.threadList.leading false)[i]? = some thr ∧
        StartFails sched rcTmp (answers i) tm.held thr) ∨ (tm.threadList.behind false).AllRunning
  | .terminate answers =>
      tm.threadList = .nil ∨ ∃ i, i < (tm.threadList.leading true).length ∧
        (answers.cancel i = false ∨ answers.join i = false)

end ThreadManager

/-- A call of the thread manager, which returns or faults. -/
def ThreadStep (sched : SchedParams) (w : Except MemFault ThreadManager) (c : ThreadCall)
    (w' : Except MemFault ThreadManager) : Prop :=
  ∃ tm, w = .ok tm ∧ ((∃ ok tm', tm.call sched c = .ok (some (ok, tm')) ∧ w' = .ok tm') ∨
    ∃ fault, tm.call sched c = .error fault ∧ w' = .error fault)

/-- A condition on a thread manager in a process that has not faulted. -/
def InManager (cond : ThreadManager → ThreadCall → Prop) (w : Except MemFault ThreadManager)
    (c : ThreadCall) : Prop :=
  ∀ tm, w = .ok tm → cond tm c

/-! ## The loop of a start -/

section Start

variable {sched : SchedParams} {rcTmp : Bool} {answers : Nat → EntryAnswers} {held : Nat → Bool}

/-- An entry that is not running is started, unless something fails. -/
theorem startLoop_cons {k : Nat} {thr : ItcThreads} {next : EntryList} (hnew : thr.isRunning = false)
    (hok : ¬ StartFails sched rcTmp (answers k) held thr) :
    startLoop sched rcTmp answers held k (.cons thr next) =
      (startLoop sched rcTmp answers held (k + 1) next).map
        (Option.map fun r => (r.1, .cons thr.started r.2.1, r.2.2)) := by
  simp only [StartFails, not_or, not_and, Bool.not_eq_true, Bool.not_eq_false] at hok
  obtain ⟨hwaits, hrc, hcreated, hunlocks⟩ := hok
  have hgoes : ¬ (thr.startMtx.isSome = true ∧ ¬ (answers k).unlocks = true) := by
    rintro ⟨hmtx, hno⟩
    exact hno (hunlocks hmtx)
  rw [startLoop, if_neg (by simp [hnew]), if_neg (by simp [hwaits]), if_neg (by simp [hrc]),
    if_neg (by simp [hcreated]), if_neg hgoes]
  cases startLoop sched rcTmp answers held (k + 1) next with
  | error fault => rfl
  | ok r =>
    cases r with
    | none => rfl
    | some r => rfl

/-- Where an entry cannot be started, the call reports an error, waits, or has no `rc_tmp`. -/
theorem startLoop_fails {k : Nat} {thr : ItcThreads} {next : EntryList} (hnew : thr.isRunning = false)
    (hfails : StartFails sched rcTmp (answers k) held thr) :
    startLoop sched rcTmp answers held k (.cons thr next) = .ok none ∨
      startLoop sched rcTmp answers held k (.cons thr next) = .error .nullDeref ∨
      ∃ held', startLoop sched rcTmp answers held k (.cons thr next) =
        .ok (some (false, .cons thr next, held')) := by
  rw [startLoop, if_neg (by simp [hnew])]
  split
  · exact .inl rfl
  · next hwaits =>
    split
    · exact .inr (.inl rfl)
    · next hrc =>
      split
      · exact .inr (.inr ⟨_, rfl⟩)
      · next hcreated =>
        rw [if_pos]
        · exact .inl rfl
        · rcases hfails with h | h | h | h
          · exact absurd h hwaits
          · exact absurd h (by simpa using hrc)
          · exact absurd h (by simpa using hcreated)
          · exact ⟨h.1, by simp [h.2]⟩

theorem startLoop_stops {k : Nat} {list : EntryList}
    (h : ∃ i thr, (list.leading false)[i]? = some thr ∧
      StartFails sched rcTmp (answers (k + i)) held thr) :
    startLoop sched rcTmp answers held k list = .ok none ∨
      startLoop sched rcTmp answers held k list = .error .nullDeref ∨
      ∃ list' held', startLoop sched rcTmp answers held k list =
        .ok (some (false, list', held')) := by
  induction list generalizing k with
  | nil =>
    obtain ⟨i, thr, hthr, -⟩ := h
    cases hthr
  | dangling =>
    obtain ⟨i, thr, hthr, -⟩ := h
    cases hthr
  | cons thr next ih =>
    obtain ⟨i, found, hfound, hfails⟩ := h
    rw [EntryList.leading] at hfound
    split at hfound
    · next hnew =>
      by_cases hhere : StartFails sched rcTmp (answers k) held thr
      · rcases startLoop_fails hnew hhere with hstop | hstop | ⟨held', hstop⟩
        · exact .inl hstop
        · exact .inr (.inl hstop)
        · exact .inr (.inr ⟨_, held', hstop⟩)
      · rw [startLoop_cons hnew hhere]
        cases i with
        | zero =>
          cases hfound
          exact absurd hfails hhere
        | succ i =>
          have hlater := ih (k := k + 1) ⟨i, found, hfound, by
            rw [show k + 1 + i = k + (i + 1) by omega]
            exact hfails⟩
          rcases hlater with hnext | hnext | ⟨list', held', hnext⟩
          · exact .inl (by rw [hnext]; rfl)
          · exact .inr (.inl (by rw [hnext]; rfl))
          · exact .inr (.inr ⟨_, _, by rw [hnext]; rfl⟩)
    · cases hfound

/-- The new entries are started, and the loop ends at the first old one. -/
theorem startLoop_reaches {k : Nat} {list : EntryList}
    (h : ∀ i thr, (list.leading false)[i]? = some thr →
      ¬ StartFails sched rcTmp (answers (k + i)) held thr) :
    (list.behind false = .dangling →
        startLoop sched rcTmp answers held k list = .error .useAfterFree) ∧
      (list.behind false ≠ .dangling → startLoop sched rcTmp answers held k list =
        .ok (some (true, .prepend ((list.leading false).map ItcThreads.started)
          (list.behind false), held))) := by
  induction list generalizing k with
  | nil => exact ⟨fun hno => (by cases hno), fun _ => rfl⟩
  | dangling => exact ⟨fun _ => rfl, fun hno => absurd rfl hno⟩
  | cons thr next ih =>
    by_cases hnew : thr.isRunning = false
    · simp only [EntryList.leading, EntryList.behind, if_pos hnew] at h ⊢
      have hlater := ih (k := k + 1) fun i found hfound => by
        rw [show k + 1 + i = k + (i + 1) by omega]
        exact h (i + 1) found hfound
      have hhere : ¬ StartFails sched rcTmp (answers k) held thr := h 0 thr rfl
      rw [startLoop_cons hnew hhere]
      constructor
      · intro hend
        rw [hlater.1 hend]
        rfl
      · intro hend
        rw [hlater.2 hend]
        rfl
    · simp only [EntryList.leading, EntryList.behind, if_neg hnew]
      refine ⟨fun hno => (by cases hno), fun _ => ?_⟩
      rw [startLoop, if_pos (by simpa using hnew)]
      rfl

theorem allRunning_prepend (thrs : List ItcThreads) (list : EntryList) :
    (EntryList.prepend (thrs.map ItcThreads.started) list).AllRunning ↔ list.AllRunning := by
  induction thrs with
  | nil => exact Iff.rfl
  | cons thr thrs ih => exact ⟨fun h => ih.mp h.2.2, fun h => ⟨rfl, rfl, ih.mpr h⟩⟩

/-- A start changes no more than the states of entries. -/
theorem startLoop_broken {k : Nat} {list list' : EntryList} {ok : Bool} {held' : Nat → Bool}
    (h : startLoop sched rcTmp answers held k list = .ok (some (ok, list', held'))) :
    list'.Broken ↔ list.Broken := by
  induction list generalizing k ok list' held' with
  | nil =>
    cases h
    exact Iff.rfl
  | dangling => cases h
  | cons thr next ih =>
    by_cases hnew : thr.isRunning = false
    · by_cases hfails : StartFails sched rcTmp (answers k) held thr
      · rcases startLoop_fails hnew hfails with hstop | hstop | ⟨held₁, hstop⟩
        · rw [hstop] at h
          cases h
        · rw [hstop] at h
          cases h
        · rw [hstop] at h
          cases h
          exact Iff.rfl
      · rw [startLoop_cons hnew hfails] at h
        cases hnext : startLoop sched rcTmp answers held (k + 1) next with
        | error fault =>
          rw [hnext] at h
          cases h
        | ok r =>
          rw [hnext] at h
          cases r with
          | none => cases h
          | some r =>
            obtain ⟨ok₁, rest, held₁⟩ := r
            cases h
            exact (ih hnext : rest.Broken ↔ next.Broken)
    · rw [startLoop, if_pos (by simpa using hnew)] at h
      cases h
      exact Iff.rfl

end Start

/-! ## The loop of a termination -/

section Terminate

variable {answers : CancelAnswers}

/-- An entry that is running is ended and freed, unless something fails. -/
theorem terminateLoop_cons {k : Nat} {thr : ItcThreads} {next : EntryList}
    (hrunning : thr.isRunning = true) (hcancel : answers.cancel k = true)
    (hjoin : answers.join k = true) :
    terminateLoop answers k (.cons thr next) =
      (terminateLoop answers (k + 1) next).map fun r => (r.1, r.2.1, r.2.2 + 1) := by
  rw [terminateLoop, if_neg (by simp [hrunning]), if_neg (by simp [hcancel]), if_neg (by simp [hjoin])]
  cases terminateLoop answers (k + 1) next with
  | error fault => rfl
  | ok r => rfl

theorem terminateLoop_fails {k : Nat} {thr : ItcThreads} {next : EntryList}
    (hrunning : thr.isRunning = true) (hfails : answers.cancel k = false ∨ answers.join k = false) :
    ∃ thr', terminateLoop answers k (.cons thr next) = .ok (false, .cons thr' next, 0) := by
  rw [terminateLoop, if_neg (by simp [hrunning])]
  split
  · exact ⟨thr, rfl⟩
  · next hcancel =>
    rcases hfails with h | h
    · exact absurd h (by simpa using hcancel)
    · rw [if_pos (by simp [h])]
      exact ⟨_, rfl⟩

theorem terminateLoop_stops {k : Nat} {list : EntryList}
    (h : ∃ i, i < (list.leading true).length ∧
      (answers.cancel (k + i) = false ∨ answers.join (k + i) = false)) :
    ∃ rest freed, terminateLoop answers k list = .ok (false, rest, freed) := by
  induction list generalizing k with
  | nil =>
    obtain ⟨i, hi, -⟩ := h
    exact absurd hi (Nat.not_lt_zero i)
  | dangling =>
    obtain ⟨i, hi, -⟩ := h
    exact absurd hi (Nat.not_lt_zero i)
  | cons thr next ih =>
    obtain ⟨i, hi, hfails⟩ := h
    rw [EntryList.leading] at hi
    split at hi
    · next hrunning =>
      by_cases hhere : answers.cancel k = false ∨ answers.join k = false
      · obtain ⟨thr', hstop⟩ := terminateLoop_fails hrunning hhere
        exact ⟨_, _, hstop⟩
      · obtain ⟨hcancel, hjoin⟩ : answers.cancel k = true ∧ answers.join k = true := by
          simpa [not_or] using hhere
        rw [terminateLoop_cons hrunning hcancel hjoin]
        cases i with
        | zero => exact absurd hfails hhere
        | succ i =>
          obtain ⟨rest, freed, hnext⟩ := ih (k := k + 1) ⟨i, Nat.lt_of_succ_lt_succ hi, by
            rw [show k + 1 + i = k + (i + 1) by omega]
            exact hfails⟩
          exact ⟨rest, freed + 1, by rw [hnext]; rfl⟩
    · exact absurd hi (Nat.not_lt_zero i)

/-- The running entries are freed, and the loop ends at the first that is not running. -/
theorem terminateLoop_reaches {k : Nat} {list : EntryList}
    (h : ∀ i, i < (list.leading true).length →
      answers.cancel (k + i) = true ∧ answers.join (k + i) = true) :
    (list.behind true = .dangling → terminateLoop answers k list = .error .useAfterFree) ∧
      (list.behind true ≠ .dangling → terminateLoop answers k list =
        .ok (true, list.behind true, (list.leading true).length)) := by
  induction list generalizing k with
  | nil => exact ⟨fun hno => (by cases hno), fun _ => rfl⟩
  | dangling => exact ⟨fun _ => rfl, fun hno => absurd rfl hno⟩
  | cons thr next ih =>
    by_cases hrunning : thr.isRunning = true
    · simp only [EntryList.leading, EntryList.behind, if_pos hrunning, List.length_cons] at h ⊢
      have hlater := ih (k := k + 1) fun i hi => by
        rw [show k + 1 + i = k + (i + 1) by omega]
        exact h (i + 1) (Nat.succ_lt_succ hi)
      obtain ⟨hcancel, hjoin⟩ : answers.cancel k = true ∧ answers.join k = true :=
        h 0 (Nat.succ_pos _)
      rw [terminateLoop_cons hrunning hcancel hjoin]
      constructor
      · intro hend
        rw [hlater.1 hend]
        rfl
      · intro hend
        rw [hlater.2 hend]
        rfl
    · simp only [EntryList.leading, EntryList.behind, if_neg hrunning]
      refine ⟨fun hno => (by cases hno), fun _ => ?_⟩
      rw [terminateLoop, if_pos hrunning]
      rfl

theorem terminateLoop_broken {k : Nat} {list rest : EntryList} {ok : Bool}
    (h : terminateLoop answers k list = .ok (ok, rest, 0)) : rest.Broken ↔ list.Broken := by
  cases list with
  | nil =>
    cases h
    exact Iff.rfl
  | dangling => cases h
  | cons thr next =>
    unfold terminateLoop at h
    split at h
    · cases h
      exact Iff.rfl
    · split at h
      · cases h
        exact Iff.rfl
      · split at h
        · cases h
          exact Iff.rfl
        · obtain ⟨r, -, h⟩ := bind_eq_ok h
          cases h

end Terminate

/-! ## Runs -/

namespace ThreadManager

variable {sched : SchedParams} {tm tm' : ThreadManager}

/-- Entries are lost only behind one that has been freed. -/
def Inv (tm : ThreadManager) : Prop := tm.threadList.Broken ∨ tm.lost = []

theorem Inv.call (h : tm.Inv) {c : ThreadCall} {ok : Bool}
    (hcall : tm.call sched c = .ok (some (ok, tm'))) : tm'.Inv := by
  cases c with
  | add mem useHighestPrio startMtx =>
    simp only [ThreadManager.call, addItcthread] at hcall
    split at hcall
    · cases hcall
      exact h
    · cases hcall
      exact h
  | start rcTmp answers =>
    obtain ⟨⟨ok', list, held⟩, hloop, hcall⟩ := bind_some_eq_ok hcall rfl
    cases hcall
    exact h.imp (startLoop_broken hloop).mpr id
  | terminate answers =>
    obtain ⟨⟨ok', rest, freed⟩, hloop, hcall⟩ := bind_eq_ok hcall
    dsimp only at hcall
    split at hcall
    · next hzero =>
      rw [hzero] at hloop
      cases hcall
      exact h.imp (terminateLoop_broken hloop).mpr id
    · cases hcall
      exact .inl trivial

/-- A call that reports an error, does not return, or has no `rc_tmp`. -/
theorem kept_of_failure {c : ThreadCall} (h : tm.call sched c = .ok none ∨
    tm.call sched c = .error .nullDeref ∨ ∃ tm', tm.call sched c = .ok (some (false, tm'))) :
    tm.Kept sched c := by
  unfold Kept
  rcases h with h | h | ⟨tm', h⟩
  · rw [h]
    trivial
  · rw [h]
    exact (by decide : MemFault.nullDeref ≠ .useAfterFree)
  · rw [h]
    trivial

theorem kept_start_iff (rcTmp : Bool) (answers : Nat → EntryAnswers) :
    tm.Kept sched (.start rcTmp answers) ↔ tm.MayCall sched (.start rcTmp answers) := by
  by_cases hstops : ∃ i thr, (tm.threadList.leading false)[i]? = some thr ∧
      StartFails sched rcTmp (answers i) tm.held thr
  · refine iff_of_true (kept_of_failure ?_) (.inl hstops)
    have hfails : ∃ i thr, (tm.threadList.leading false)[i]? = some thr ∧
        StartFails sched rcTmp (answers (0 + i)) tm.held thr := by simpa using hstops
    rcases startLoop_stops hfails with hloop | hloop | ⟨list, held, hloop⟩
    · exact .inl (by simp only [call, startItcthreads, hloop, bind, Except.bind])
    · exact .inr (.inl (by simp only [call, startItcthreads, hloop, bind, Except.bind]))
    · refine .inr (.inr ⟨{ tm with threadList := list, held := held }, ?_⟩)
      simp only [call, startItcthreads, hloop, bind, Except.bind]
  · have hgoes : ∀ i thr, (tm.threadList.leading false)[i]? = some thr →
        ¬ StartFails sched rcTmp (answers (0 + i)) tm.held thr := fun i thr hthr hfails =>
      hstops ⟨i, thr, hthr, by simpa using hfails⟩
    have hloop := startLoop_reaches hgoes
    have hmay : tm.MayCall sched (.start rcTmp answers) ↔ (tm.threadList.behind false).AllRunning :=
      ⟨fun h => h.resolve_left hstops, .inr⟩
    rw [hmay, Kept]
    by_cases hend : tm.threadList.behind false = .dangling
    · have hcall : tm.call sched (.start rcTmp answers) = .error .useAfterFree := by
        simp only [call, startItcthreads, hloop.1 hend, bind, Except.bind]
      rw [hcall, hend]
      exact iff_of_false (fun hne => hne rfl) id
    · have hcall : tm.call sched (.start rcTmp answers) = .ok (some (true, { tm with
          threadList := .prepend ((tm.threadList.leading false).map ItcThreads.started)
            (tm.threadList.behind false) })) := by
        simp only [call, startItcthreads, hloop.2 hend, bind, Except.bind]
      rw [hcall]
      exact allRunning_prepend _ _

theorem kept_terminate_iff (h : tm.Inv) (answers : CancelAnswers) :
    tm.Kept sched (.terminate answers) ↔ tm.MayCall sched (.terminate answers) := by
  by_cases hstops : ∃ i, i < (tm.threadList.leading true).length ∧
      (answers.cancel i = false ∨ answers.join i = false)
  · refine iff_of_true (kept_of_failure (.inr (.inr ?_))) (.inr hstops)
    have hfails : ∃ i, i < (tm.threadList.leading true).length ∧
        (answers.cancel (0 + i) = false ∨ answers.join (0 + i) = false) := by simpa using hstops
    obtain ⟨rest, freed, hloop⟩ := terminateLoop_stops hfails
    simp only [call, terminateItcthreads, hloop, bind, Except.bind]
    split
    · exact ⟨_, rfl⟩
    · exact ⟨_, rfl⟩
  · have hgoes : ∀ i, i < (tm.threadList.leading true).length →
        answers.cancel (0 + i) = true ∧ answers.join (0 + i) = true := by
      intro i hi
      rw [Nat.zero_add]
      by_contra hno
      refine hstops ⟨i, hi, ?_⟩
      simpa only [not_and_or, Bool.not_eq_true] using hno
    have hloop := terminateLoop_reaches hgoes
    have hmay : tm.MayCall sched (.terminate answers) ↔ tm.threadList = .nil :=
      ⟨fun hm => hm.resolve_right hstops, .inl⟩
    rw [hmay, Kept]
    by_cases hend : tm.threadList.behind true = .dangling
    · have hcall : tm.call sched (.terminate answers) = .error .useAfterFree := by
        simp only [call, terminateItcthreads, hloop.1 hend, bind, Except.bind]
      rw [hcall]
      refine iff_of_false (fun hne => hne rfl) fun hnil => ?_
      rw [hnil] at hend
      cases hend
    · by_cases hnone : (tm.threadList.leading true).length = 0
      · have hsame := EntryList.behind_eq hnone
        have hcall : tm.call sched (.terminate answers) = .ok (some (true, tm)) := by
          simp only [call, terminateItcthreads, hloop.2 hend, hsame, bind, Except.bind, if_pos hnone]
        rw [hcall]
        refine ⟨fun hp => hp.1, fun hnil => ⟨hnil, fun thr hthr => ?_⟩⟩
        rcases h with hbroken | hlost
        · rw [hnil] at hbroken
          exact hbroken.elim
        · rw [hlost] at hthr
          cases hthr
      · have hcall : tm.call sched (.terminate answers) = .ok (some (true, { tm with
            threadList := .dangling
            lost := (tm.threadList.behind true).entries ++ tm.lost })) := by
          simp only [call, terminateItcthreads, hloop.2 hend, bind, Except.bind, if_neg hnone]
        rw [hcall]
        refine iff_of_false (fun hp => ?_) fun hnil => hnone (by rw [hnil]; rfl)
        have hempty : EntryList.dangling = .nil := hp.1
        cases hempty

/-- **What a call promises it keeps exactly when it may be made.** -/
theorem kept_iff (h : tm.Inv) (c : ThreadCall) : tm.Kept sched c ↔ tm.MayCall sched c := by
  cases c with
  | add mem useHighestPrio startMtx =>
    refine iff_of_true ?_ trivial
    unfold Kept
    cases mem <;> trivial
  | start rcTmp answers => exact kept_start_iff rcTmp answers
  | terminate answers => exact kept_terminate_iff h answers

end ThreadManager

/-- **The runs in which every promise is kept and no freed entry is read are those whose calls meet
`MayCall`.** -/
theorem threadManager_kept_iff (sched : SchedParams) (cs : List ThreadCall)
    (w : Except MemFault ThreadManager) :
    Run (Guarded (ThreadStep sched) (InManager (ThreadManager.Kept sched))) (.ok .init) cs w ↔
      Run (Guarded (ThreadStep sched) (InManager (ThreadManager.MayCall sched))) (.ok .init) cs w := by
  refine Run.guarded_congr (I := fun w => ∀ tm, w = .ok tm → tm.Inv) ?_ ?_ ?_
  · rintro w c w' hw ⟨tm, rfl, ⟨ok, tm', hcall, rfl⟩ | ⟨fault, -, rfl⟩⟩ tm₁ htm₁
    · cases htm₁
      exact (hw tm rfl).call hcall
    · cases htm₁
  · rintro w c w' hw -
    constructor
    · intro hkept tm htm
      exact (ThreadManager.kept_iff (hw tm htm) c).mp (hkept tm htm)
    · intro hmay tm htm
      exact (ThreadManager.kept_iff (hw tm htm) c).mpr (hmay tm htm)
  · rintro tm ⟨⟩
    exact .inr rfl

/-- Every system call succeeds. -/
def EntryAnswers.willing : EntryAnswers := ⟨⟨true, fun _ => true, fun _ => true, true, true⟩, true⟩

def CancelAnswers.willing : CancelAnswers := ⟨fun _ => true, fun _ => true⟩

/-- **A thread that has been ended stays in the list**: after one thread is added, started and ended,
without an error, `thread_list` points to the freed entry, and the next start reads it. -/
theorem ended_thread_stays_listed :
    ∃ tm tm', Run (ThreadStep ⟨0, 0, 0⟩) (.ok .init)
        [.add true true (some 0), .start true fun _ => .willing] (.ok tm) ∧
      tm.call ⟨0, 0, 0⟩ (.terminate .willing) = .ok (some (true, tm')) ∧
      tm'.threadList = .dangling ∧ ¬ tm.Kept ⟨0, 0, 0⟩ (.terminate .willing) ∧
      tm'.call ⟨0, 0, 0⟩ (.start true fun _ => .willing) = .error .useAfterFree := by
  have hend : ∀ tm : ThreadManager, tm.threadList = .cons ⟨true, some 0, true, true⟩ .nil →
      tm.call ⟨0, 0, 0⟩ (.terminate .willing) =
        .ok (some (true, { tm with threadList := .dangling })) := by
    rintro ⟨_, held, lost⟩ ⟨⟩
    rfl
  refine ⟨⟨.cons ⟨true, some 0, true, true⟩ .nil, fun _ => false, []⟩, ⟨.dangling, fun _ => false, []⟩,
    .cons ⟨_, rfl, .inl ⟨true, _, rfl, rfl⟩⟩ (.cons ⟨_, rfl, .inl ⟨true, _, rfl, rfl⟩⟩ (.nil _)),
    hend _ rfl, rfl, fun hkept => ?_, rfl⟩
  rw [ThreadManager.Kept, hend _ rfl] at hkept
  have hempty : EntryList.dangling = .nil := hkept.1
  cases hempty

/-! ## The threads in the lives of a process -/

/-- The entries for `sysvmq_rx_thread`, all with the one `thread_mtx`. -/
def ThreadList.toEntries : ThreadList → EntryList
  | .nil => .nil
  | .cons thr next => .cons ⟨true, some 0, thr.isRunning, thr.alive⟩ next.toEntries
  | .dangling => .dangling

def ItcGlobals.StartAnswers.toEntry (answers : StartAnswers) : EntryAnswers :=
  ⟨⟨true, fun _ => true, fun _ => true, true, answers.create⟩, true⟩

/-- **`itc_init_zz` starts the threads with the loop above.** -/
theorem startItcthreads_entries (sched : SchedParams) {answers : ItcGlobals.StartAnswers}
    {list list' : ThreadList} {s s' : ItcGlobals} {ok : Bool} (k : Nat)
    (h : ItcGlobals.startItcthreads answers list s = .ok (ok, list', s')) :
    ∃ held, startLoop sched answers.rcTmp (fun _ => answers.toEntry) (fun _ => false) k
      list.toEntries = .ok (some (ok, list'.toEntries, held)) := by
  induction list generalizing k s s' ok list' with
  | nil =>
    cases h
    exact ⟨_, rfl⟩
  | dangling => cases h
  | cons thr next ih =>
    unfold ItcGlobals.startItcthreads at h
    split at h
    · next hrunning =>
      cases h
      exact ⟨_, if_pos hrunning⟩
    · next hnew =>
      split at h
      · cases h
      · next hrc =>
        split at h
        · next hcreate =>
          cases h
          refine ⟨(ItcThreads.mk true (some 0) thr.isRunning thr.alive).lock fun _ => false, ?_⟩
          rw [ThreadList.toEntries, startLoop, if_neg hnew, if_neg (by simp [ItcThreads.waits]),
            if_neg hrc, if_pos (by simpa [ItcThreads.created, configItcthread,
              ItcGlobals.StartAnswers.toEntry] using hcreate)]
        · next hcreate =>
          obtain ⟨⟨mbox, s₁⟩, -, h⟩ := bind_eq_ok h
          obtain ⟨⟨ok₁, next₁, s₂⟩, hnext, h⟩ := bind_eq_ok h
          cases h
          obtain ⟨held, hloop⟩ := ih (k + 1) hnext
          refine ⟨held, ?_⟩
          have hgoes : ¬ StartFails sched answers.rcTmp answers.toEntry (fun _ => false)
              ⟨true, some 0, thr.isRunning, thr.alive⟩ := by
            rintro (hno | hno | hno | ⟨-, hno⟩)
            · cases hno
            · exact hrc (by simp [hno])
            · refine hcreate ?_
              simpa [ItcThreads.created, configItcthread, ItcGlobals.StartAnswers.toEntry] using hno
            · cases hno
          rw [ThreadList.toEntries, startLoop_cons (by simpa using hnew) hgoes, hloop]
          rfl

/-- **`itc_exit_zz` ends them with the other.** -/
theorem terminateItcthreads_entries {answers : ItcGlobals.TerminateAnswers}
    {list list' : ThreadList} {s s' : ItcGlobals} {ok : Bool} {k : Nat}
    (h : ItcGlobals.terminateItcthreads answers k list s = .ok (ok, list', s')) :
    ∃ rest freed, terminateLoop ⟨answers.cancel, answers.join⟩ k list.toEntries =
        .ok (ok, rest, freed) ∧
      list'.toEntries = if freed = 0 then rest else .dangling := by
  induction list generalizing k s s' ok list' with
  | nil =>
    cases h
    exact ⟨_, _, rfl, rfl⟩
  | dangling => cases h
  | cons thr next ih =>
    unfold ItcGlobals.terminateItcthreads at h
    split at h
    · next hidle =>
      cases h
      exact ⟨_, 0, if_pos hidle, rfl⟩
    · next hrunning =>
      rw [ThreadList.toEntries, terminateLoop, if_neg hrunning]
      split at h
      · next hcancel =>
        cases h
        exact ⟨_, 0, if_pos hcancel, rfl⟩
      · next hcancel =>
        rw [if_neg hcancel]
        obtain ⟨s₁, -, h⟩ := bind_eq_ok h
        split at h
        · next hjoin =>
          cases h
          exact ⟨_, 0, if_pos hjoin, rfl⟩
        · next hjoin =>
          rw [if_neg hjoin]
          obtain ⟨⟨ok₁, next₁, s₂⟩, hnext, h⟩ := bind_eq_ok h
          cases h
          obtain ⟨rest, freed, hloop, -⟩ := ih hnext
          exact ⟨rest, freed + 1, by rw [hloop]; rfl, rfl⟩

end ItcFramework
