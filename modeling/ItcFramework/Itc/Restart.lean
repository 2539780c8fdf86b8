import ItcFramework.Itc.Lifecycle

/-!
# Starting ITC again

What `itc_init_zz` does in a process that has had a life before, and what the other calls do after
`itc_exit_zz`.

* `Initialised` — what `itc_init_zz` promises: every transport is initialised, and no mailbox is in
  use and no name taken but those of the rx thread it starts.
* `Restartable` — no earlier life has left anything that the call trips over.
* `itcInit_iff` — when the system grants everything, the call keeps its promise from exactly the
  restartable states.
* `Life` — a process with what the promises are about: whether it is after an `itc_exit_zz`, and
  whether the next `itc_init_zz` is one that comes again.
* `mayCall_after_exit` — what a successful `itc_exit_zz` leaves to the calls that follow.
* `itc_lives_iff` — the runs in which every promise is kept are those whose calls meet `MayCall`.
-/

set_option autoImplicit false

namespace ItcFramework

open ByteImage Transition

namespace ItcGlobals

/-- Every system call of `itc_init_zz` succeeds. -/
structure InitAnswers.Succeed (args : InitArgs) (answers : InitAnswers) : Prop where
  rc : answers.rc = true
  threadListMtx : answers.threadListMtx = true
  coord : args.iAmItcCoord = true ∨ answers.coord.isSome = true
  mboxes : answers.mboxes = true
  sync : ∀ i, answers.sync i = true
  queue : answers.queue = true
  node : ∀ i, answers.node i = true
  key : answers.key = true
  locatingMtx : answers.locatingMtx = true
  localmbxData : answers.localmbxData = true
  lsockPath : answers.lsockPath = true
  lsockConnect : answers.lsockConnect = true
  sysvmq : answers.sysvmq = ⟨true, true, true, true, true⟩
  rcTmp : answers.start.rcTmp = true
  create : answers.start.create = true
  mailbox : answers.start.mailbox = .all

/-- The `my_mbox_id_in_itccoord` of the new life. -/
def InitAnswers.myMboxId (args : InitArgs) (answers : InitAnswers) : MboxId :=
  if args.iAmItcCoord then 1 <<< ITC_COORD_SHIFT else answers.coord.getD 0

/-- The promise of `itc_init_zz`; the rx thread has the mailbox in the slot 0. -/
structure Initialised (s : ItcGlobals) (nrMboxes : Nat) (rxName : CString) : Prop where
  mboxes : ∃ mboxes, s.mboxes = .live mboxes ∧ ∀ i, i ≠ 0 → (mboxes i).mboxState = .unused
  freeMboxesQueue : s.freeMboxesQueue = .live (List.range' 1 nrMboxes)
  names : ∃ l, s.localLocatingMboxTree = .names l ∧ ∀ name ∈ l, name = rxName
  threadList : s.threadList = .cons ⟨true, true, some 0⟩ .nil
  localInst : s.localmbxData = some [0]
  lsockInst : s.lsockInst.isCoordRunning = true → s.lsockInst.sd = true
  sysvmqInst : s.sysvmqInst.isInitialized = true

/-- Nothing is left of an earlier life that `itc_init_zz` in the thread `t` trips over: neither a
freed `rc` nor an entry in the list of threads, an initialised System V transport or a name; and
the mailboxes and the local transport are those of a new process, or the mailboxes are a parent's
that has no key for them. -/
structure Restartable (s : ItcGlobals) (t : Nat) (rxName : CString) : Prop where
  rc : s.rc t ≠ .dangling
  threadList : s.threadList = .nil
  sysvmqInst : s.sysvmqInst.isInitialized = false
  names : ∃ l, s.localLocatingMboxTree = .names l ∧ ∀ name ∈ l, name = rxName
  mboxes : s.mboxes = .null ∧ s.localmbxData = none ∨
    s.mboxes ≠ .null ∧ s.pid ≠ s.instPid ∧ s.destructKey = false

/-! ## The rx thread -/

section Threads

variable {answers : StartAnswers} {s s' : ItcGlobals}

theorem localCreate_sysvmqInst {mem : Bool} {i : Nat} (h : s.localCreate mem i = some s') :
    s'.sysvmqInst = s.sysvmqInst := by
  unfold localCreate at h
  split at h
  · cases h
  · split at h
    · cases h
    · split at h
      · cases h
        rfl
      · cases h

theorem takeMailbox_sysvmqInst {create : CreateAnswers} {tid : Nat} {name : CString}
    {flags : UInt32} {mbox : Option Nat} (h : takeMailbox create s tid name flags = .ok (mbox, s')) :
    s'.sysvmqInst = s.sysvmqInst := by
  obtain ⟨queue, -, h⟩ := bind_eq_ok h
  cases queue with
  | nil =>
    cases h
    rfl
  | cons i rest =>
    dsimp only at h
    split at h
    · cases h
      rfl
    · split at h
      · cases h
      · obtain ⟨mboxes, -, h⟩ := bind_eq_ok h
        split at h
        · cases h
          rfl
        · next s₁ hlocal =>
          have hsame := localCreate_sysvmqInst hlocal
          split at h
          · obtain ⟨tree, -, h⟩ := bind_eq_ok h
            cases h
            exact hsame
          · cases h
            exact hsame

theorem createRxMailbox_sysvmqInst {mbox : Option Nat}
    (h : createRxMailbox answers s = .ok (mbox, s')) : s'.sysvmqInst = s.sysvmqInst := by
  unfold createRxMailbox at h
  split at h
  · exact takeMailbox_sysvmqInst h
  · cases h
    rfl

theorem startItcthreads_sysvmqInst {list list' : ThreadList} {ok : Bool}
    (h : startItcthreads answers list s = .ok (ok, list', s')) :
    s'.sysvmqInst = s.sysvmqInst := by
  induction list generalizing s s' list' ok with
  | nil =>
    cases h
    rfl
  | dangling => cases h
  | cons thr next ih =>
    unfold startItcthreads at h
    split at h
    · cases h
      rfl
    · split at h
      · cases h
      · split at h
        · cases h
          rfl
        · obtain ⟨⟨mbox, s₁⟩, htake, h⟩ := bind_eq_ok h
          obtain ⟨⟨ok₁, next₁, s₂⟩, hstart, h⟩ := bind_eq_ok h
          cases h
          rw [ih hstart, createRxMailbox_sysvmqInst htake]

/-- Starting the threads of a list never empties it. -/
theorem startItcthreads_ne_nil {thr : ItcThread} {next list' : ThreadList} {ok : Bool}
    (h : startItcthreads answers (.cons thr next) s = .ok (ok, list', s')) : list' ≠ .nil := by
  unfold startItcthreads at h
  split at h
  · cases h
    exact ThreadList.noConfusion
  · split at h
    · cases h
    · split at h
      · cases h
        exact ThreadList.noConfusion
      · obtain ⟨⟨mbox, s₁⟩, -, h⟩ := bind_eq_ok h
        obtain ⟨⟨ok₁, next₁, s₂⟩, -, h⟩ := bind_eq_ok h
        cases h
        exact ThreadList.noConfusion

end Threads

/-! ## Setting up -/

section SetUp

variable {args : InitArgs} {answers : InitAnswers} {s s' : ItcGlobals} {t : Nat} {forced : Bool}

theorem queueMboxes_eq (h : answers.Succeed args) (n : Nat) :
    queueMboxes answers n = .ok (true, .live (List.range n)) := by
  induction n with
  | zero =>
    rw [queueMboxes, if_pos h.queue]
    rfl
  | succ n ih =>
    rw [queueMboxes, ih, List.range_succ]
    simp only [bind, Except.bind, not_true, if_false, h.sync n, h.node n, Ptr.read_live]

def newMboxes (args : InitArgs) (answers : InitAnswers) (i : Nat) : ItcMailbox :=
  zeroedMailbox (answers.myMboxId args ||| UInt32.ofNat i)

/-- The variables when the transports are asked. -/
def prepared (args : InitArgs) (answers : InitAnswers) (s : ItcGlobals) : ItcGlobals :=
  { s with
    instPid := s.pid
    myMboxIdInItccoord := answers.myMboxId args
    lsockInst :=
      { s.lsockInst with isCoordRunning := !args.iAmItcCoord || s.lsockInst.isCoordRunning }
    nrMboxes := args.nrMboxes + 1
    mboxes := .live (newMboxes args answers)
    freeMboxesQueue := .live (List.range (args.nrMboxes + 1))
    destructKey := true }

theorem locateItccoord_eq (h : answers.Succeed args) :
    locateItccoord args answers s = .ok (true, { s with
      myMboxIdInItccoord := answers.myMboxId args
      lsockInst :=
        { s.lsockInst with isCoordRunning := !args.iAmItcCoord || s.lsockInst.isCoordRunning } }) := by
  unfold locateItccoord InitAnswers.myMboxId
  cases hcoord : args.iAmItcCoord with
  | true => rfl
  | false =>
    obtain ⟨id, hid⟩ := Option.isSome_iff_exists.mp (h.coord.resolve_left (by simp [hcoord]))
    rw [hid]
    rfl

theorem setUp_eq (h : answers.Succeed args) (hrc : s.rc t = .live ()) :
    s.setUp args answers t forced =
      (transInit answers forced).andThen (startThreads answers.start) (s.prepared args answers) := by
  unfold setUp
  simp only [Stage.andThen, prepare, h.threadListMtx, hrc, Ptr.read_live, locateItccoord_eq h,
    allocMboxes, h.mboxes, queueMboxes_eq h, createKey, h.key, h.locatingMtx, bind, Except.bind,
    not_true, if_false, if_true]
  rfl

/-- The variables once local and lsock are initialised. -/
def connected (s : ItcGlobals) : ItcGlobals :=
  { s with
    localmbxData := some []
    lsockInst := if s.lsockInst.isCoordRunning then ⟨true, true, true⟩ else s.lsockInst }

theorem transInit_refused (hlocal : s.localmbxData ≠ none) :
    transInit answers false s = .ok (false, s) := by
  obtain ⟨rxqs, hsome⟩ := Option.ne_none_iff_exists'.mp hlocal
  simp only [transInit, Stage.andThen, ofTransport, localInitLife, hsome, bind, Except.bind]
  rfl

theorem transInit_eq (h : answers.Succeed args) (hlocal : s.localmbxData = none ∨ forced = true) :
    transInit answers forced s = .ok (sysvmqInit answers.sysvmq forced s.connected) := by
  have hinit : localInitLife answers.localmbxData forced s =
      (true, { s with localmbxData := some [] }) := by
    unfold localInitLife
    rcases hlocal with hnone | rfl
    · rw [hnone, h.localmbxData]
      rfl
    · rw [h.localmbxData]
      cases s.localmbxData <;> rfl
  have hlsock : lsockInit answers.lsockPath answers.lsockConnect
      { s with localmbxData := some [] } = (true, s.connected) := by
    rw [h.lsockPath, h.lsockConnect, lsockInit, connected]
    cases s.lsockInst.isCoordRunning <;> simp
  simp only [transInit, Stage.andThen, ofTransport, hinit, hlsock, bind, Except.bind, if_true]

/-- The variables once the first rx thread runs; `l` is what the tree held. -/
def withRxThread (start : StartAnswers) (l : List CString) (mboxes : Nat → ItcMailbox)
    (queue : List Nat) (s : ItcGlobals) : ItcGlobals :=
  let rxName := rxThreadName s.myMboxIdInItccoord
  { s.setMbox mboxes 0 ((mboxes 0).create start.tid rxName 0) with
    freeMboxesQueue := .live queue
    localmbxData := some [0]
    localLocatingMboxTree := .names (if rxName ∈ l then l else rxName :: l) }

theorem createRxMailbox_first {start : StartAnswers} {mboxes : Nat → ItcMailbox}
    {queue : List Nat} (hmailbox : start.mailbox = .all)
    (hqueue : s.freeMboxesQueue = .live (0 :: queue)) (hmboxes : s.mboxes = .live mboxes)
    (hlocal : s.localmbxData = some []) (hkey : s.destructKey = true) :
    createRxMailbox start s =
      match s.localLocatingMboxTree with
      | .names l => .ok (some 0, s.withRxThread start l mboxes queue)
      | .dangling => .error .useAfterFree := by
  unfold createRxMailbox takeMailbox
  simp only [hqueue, Ptr.read_live, bind, Except.bind, rxThreadName_strlen, ITC_MAX_NAME_LENGTH,
    hmboxes, hmailbox, CreateAnswers.all, localCreate, setMbox, hlocal, hkey]
  cases s.localLocatingMboxTree with
  | names l => simp [NameTree.insert, withRxThread, setMbox, hkey]
  | dangling => simp [NameTree.insert]

/-- The variables when `sysvmq_init` has set itself up. -/
def withSysvmq (s : ItcGlobals) : ItcGlobals :=
  { s with
    sysvmqInst := ⟨true, true⟩
    threadList := .cons ⟨false, false, none⟩ s.threadList }

theorem setUpSysvmq_eq (h : answers.Succeed args) :
    setUpSysvmq answers.sysvmq s = (true, s.withSysvmq) := by
  rw [h.sysvmq]
  rfl

/-- An initialised System V transport is never initialised again: without the flag it refuses, and
with it it stops after the release. -/
theorem sysvmqInit_again (hinit : s.sysvmqInst.isInitialized = true)
    (h : sysvmqInit answers.sysvmq forced s = (true, s')) :
    s'.sysvmqInst.isInitialized = false := by
  unfold sysvmqInit at h
  rw [if_neg (by simp [hinit])] at h
  split at h
  · cases h
  · unfold releaseSysvmq at h
    split at h
    · cases h
    · split at h
      · cases h
      · cases h
        rfl

/-- The transports are initialised when local is new or may be released; then sysvmq is new too,
or it is not initialised afterwards. -/
theorem transInit_cases (h : answers.Succeed args)
    (htrans : transInit answers forced s = .ok (true, s')) :
    (s.localmbxData = none ∨ forced = true) ∧
      (s.sysvmqInst.isInitialized = false ∧ s' = s.connected.withSysvmq ∨
        s'.sysvmqInst.isInitialized = false) := by
  have hlocal : s.localmbxData = none ∨ forced = true := by
    by_contra hno
    obtain ⟨hsome, hforced⟩ := not_or.mp hno
    rw [Bool.eq_false_of_not_eq_true hforced, transInit_refused hsome] at htrans
    cases htrans
  refine ⟨hlocal, ?_⟩
  rw [transInit_eq h hlocal] at htrans
  have hsysvmq := Except.ok.inj htrans
  by_cases hinit : s.sysvmqInst.isInitialized = true
  · exact Or.inr (sysvmqInit_again (s := s.connected) hinit hsysvmq)
  · have huninit : ¬ s.connected.sysvmqInst.isInitialized = true := hinit
    rw [sysvmqInit, if_pos huninit, setUpSysvmq_eq h] at hsysvmq
    exact Or.inl ⟨Bool.eq_false_of_not_eq_true hinit, (Prod.mk.inj hsysvmq).2.symm⟩

/-- The rx thread of this life comes first in the list; what the list held before comes after. -/
theorem startItcthreads_first {mboxes : Nat → ItcMailbox} {queue : List Nat}
    (h : answers.Succeed args) (hqueue : s.freeMboxesQueue = .live (0 :: queue))
    (hmboxes : s.mboxes = .live mboxes) (hlocal : s.localmbxData = some [])
    (hkey : s.destructKey = true) (next : ThreadList) :
    startItcthreads answers.start (.cons ⟨false, false, none⟩ next) s =
      match s.localLocatingMboxTree with
      | .names l =>
          startItcthreads answers.start next (s.withRxThread answers.start l mboxes queue) >>=
            fun (ok, next, s') => .ok (ok, .cons ⟨true, true, some 0⟩ next, s')
      | .dangling => .error .useAfterFree := by
  rw [startItcthreads, createRxMailbox_first h.mailbox hqueue hmboxes hlocal hkey]
  simp only [Bool.false_eq_true, h.rcTmp, h.create, not_true, if_false]
  cases s.localLocatingMboxTree with
  | dangling => rfl
  | names l => rfl

/-- When the rx thread is alone and the tree holds no other name, the list was empty and the tree
held no other name before. -/
theorem startThreads_alone {mboxes : Nat → ItcMailbox} {queue : List Nat} {rxName : CString}
    (h : answers.Succeed args) (hqueue : s.freeMboxesQueue = .live (0 :: queue))
    (hmboxes : s.mboxes = .live mboxes) (hlocal : s.localmbxData = some [])
    (hkey : s.destructKey = true) {ok : Bool}
    (hstart : startThreads answers.start s.withSysvmq = .ok (ok, s'))
    (hlist : s'.threadList = .cons ⟨true, true, some 0⟩ .nil)
    (hnames : ∃ l, s'.localLocatingMboxTree = .names l ∧ ∀ name ∈ l, name = rxName) :
    s.threadList = .nil ∧ ∃ l, s.localLocatingMboxTree = .names l ∧ ∀ name ∈ l, name = rxName := by
  obtain ⟨⟨ok₁, list, s₁⟩, hloop, hstart⟩ := bind_eq_ok hstart
  cases hstart
  have hfirst := startItcthreads_first (s := s.withSysvmq) h hqueue hmboxes hlocal hkey
    s.threadList
  have heq := hfirst.symm.trans hloop
  cases htree : s.withSysvmq.localLocatingMboxTree with
  | dangling =>
    rw [htree] at heq
    cases heq
  | names l =>
    rw [htree] at heq
    obtain ⟨⟨ok₂, next, s₂⟩, hnext, heq⟩ := bind_eq_ok heq
    cases heq
    have hnil : next = .nil := (ThreadList.cons.inj hlist).2
    subst hnil
    cases hold : s.threadList with
    | dangling =>
      rw [hold] at hnext
      cases hnext
    | cons thr rest =>
      rw [hold] at hnext
      exact absurd rfl (startItcthreads_ne_nil hnext)
    | nil =>
      rw [hold] at hnext
      cases hnext
      obtain ⟨l', hl', hall⟩ := hnames
      cases hl'
      refine ⟨rfl, l, htree, fun name hname => hall name ?_⟩
      split
      · exact hname
      · exact List.mem_cons_of_mem _ hname

/-- The variables when `itc_init_zz` returns. -/
def started (args : InitArgs) (answers : InitAnswers) (l : List CString) (s : ItcGlobals) :
    ItcGlobals :=
  { (s.prepared args answers).connected.withSysvmq.withRxThread answers.start l
      (newMboxes args answers) (List.range' 1 args.nrMboxes) with
    threadList := .cons ⟨true, true, some 0⟩ .nil }

theorem started_initialised {l : List CString}
    (hall : ∀ name ∈ l, name = rxThreadName (answers.myMboxId args)) :
    (s.started args answers l).Initialised args.nrMboxes (rxThreadName (answers.myMboxId args)) where
  mboxes := ⟨_, rfl, fun i hi => by rw [if_neg hi]; rfl⟩
  freeMboxesQueue := rfl
  names := by
    refine ⟨_, rfl, fun name hname => ?_⟩
    split at hname
    · exact hall name hname
    · rcases List.mem_cons.mp hname with rfl | hold
      · rfl
      · exact hall name hold
  threadList := rfl
  localInst := rfl
  lsockInst := by
    intro hrun
    change (if (s.prepared args answers).lsockInst.isCoordRunning = true then
      (⟨true, true, true⟩ : LsockInstance) else _).isCoordRunning = true at hrun
    show (if (s.prepared args answers).lsockInst.isCoordRunning = true then
      (⟨true, true, true⟩ : LsockInstance) else _).sd = true
    split at hrun
    · next hcoord => rw [if_pos hcoord]
    · next hcoord => exact absurd hrun hcoord
  sysvmqInst := rfl

/-- **Setting up keeps the promise of `itc_init_zz` exactly when nothing is left.** -/
theorem setUp_iff (h : answers.Succeed args) (hrc : s.rc t = .live ()) :
    (∃ s', s.setUp args answers t forced = .ok (true, s') ∧
        s'.Initialised args.nrMboxes (rxThreadName (answers.myMboxId args))) ↔
      (s.localmbxData = none ∨ forced = true) ∧ s.sysvmqInst.isInitialized = false ∧
        s.threadList = .nil ∧ ∃ l, s.localLocatingMboxTree = .names l ∧
          ∀ name ∈ l, name = rxThreadName (answers.myMboxId args) := by
  have hqueue : (s.prepared args answers).connected.freeMboxesQueue =
      .live (0 :: List.range' 1 args.nrMboxes) := by
    show Ptr.live (List.range (args.nrMboxes + 1)) = _
    rw [List.range_eq_range', List.range'_succ]
  rw [setUp_eq h hrc]
  constructor
  · rintro ⟨s', hset, hinit⟩
    obtain ⟨⟨ok, s₁⟩, htrans, hset⟩ := bind_eq_ok hset
    cases ok with
    | false => cases hset
    | true =>
      obtain ⟨hlocal, hsysvmq⟩ := transInit_cases h htrans
      rcases hsysvmq with ⟨huninit, rfl⟩ | hfalse
      · obtain ⟨hlist, hnames⟩ :=
          startThreads_alone h hqueue rfl rfl rfl hset hinit.threadList hinit.names
        exact ⟨hlocal, huninit, hlist, hnames⟩
      · obtain ⟨⟨ok, list, s₂⟩, hstart, hset⟩ := bind_eq_ok hset
        cases hset
        rw [← startItcthreads_sysvmqInst hstart, hinit.sysvmqInst] at hfalse
        cases hfalse
  · rintro ⟨hlocal, huninit, hlist, l, htree, hall⟩
    have hnew : ¬ (s.prepared args answers).connected.sysvmqInst.isInitialized = true := by
      show ¬ s.sysvmqInst.isInitialized = true
      rw [huninit]
      exact Bool.false_ne_true
    have htrans : transInit answers forced (s.prepared args answers) =
        .ok (true, (s.prepared args answers).connected.withSysvmq) := by
      rw [transInit_eq (s := s.prepared args answers) h hlocal, sysvmqInit, if_pos hnew,
        setUpSysvmq_eq h]
    have hfirst := startItcthreads_first (s := (s.prepared args answers).connected.withSysvmq) h
      hqueue rfl rfl rfl s.threadList
    have htree' : (s.prepared args answers).connected.withSysvmq.localLocatingMboxTree = .names l :=
      htree
    rw [htree', hlist] at hfirst
    refine ⟨s.started args answers l, ?_, started_initialised hall⟩
    rw [Stage.andThen, htrans]
    change startItcthreads _ (.cons _ s.threadList) _ >>= _ = _
    rw [hlist, hfirst]
    rfl

/-! ## The call -/

theorem ensureRc_eq {mem : Bool} (hmem : mem = true) (hrc : s.rc t ≠ .dangling) :
    s.ensureRc t mem = .ok (some (s.setRc t (.live ()))) := by
  unfold ensureRc
  cases hp : s.rc t with
  | null => rw [hmem]; rfl
  | dangling => exact absurd hp hrc
  | live u =>
    have hsame : s.setRc t (.live ()) = s := by
      have hfun : (fun u => if u = t then Ptr.live () else s.rc u) = s.rc := by
        funext u
        split
        · next hu => rw [hu, hp]
        · rfl
      rw [setRc, hfun]
    rw [hsame]

/-- Once the instance is released `rc` is `NULL`, and the next store through it faults. -/
theorem setUp_after_release (h : answers.Succeed args) (hkey : s.destructKey = true)
    {r : Bool × ItcGlobals} : (s.releaseAll t >>= fun s => s.setUp args answers t true) ≠ .ok r := by
  intro hok
  obtain ⟨s₁, hrelease, hset⟩ := bind_eq_ok hok
  unfold releaseAll at hrelease
  rw [if_neg (by simp [hkey])] at hrelease
  obtain ⟨-, -, hrelease⟩ := bind_eq_ok hrelease
  obtain ⟨-, -, hrelease⟩ := bind_eq_ok hrelease
  obtain ⟨s₂, -, hrelease⟩ := bind_eq_ok hrelease
  cases hrelease
  obtain ⟨r₁, hprepare, -⟩ := bind_eq_ok hset
  unfold prepare at hprepare
  rw [if_neg (by simp [h.threadListMtx])] at hprepare
  obtain ⟨u, hread, -⟩ := bind_eq_ok hprepare
  have hlive := Ptr.read_eq_ok hread
  simp [setThreadlocal, clearInst, setRc] at hlive

theorem initInst_new (hnull : s.mboxes = .null) :
    s.initInst args answers t = s.setUp args answers t false := by
  rw [initInst, reinit, hnull]
  rfl

theorem initInst_again (hne : s.mboxes ≠ .null) :
    s.initInst args answers t =
      if s.pid = s.instPid then .ok (false, s)
      else s.releaseAll t >>= fun s => s.setUp args answers t true := by
  have hreinit : s.reinit t =
      if s.pid = s.instPid then .ok (none, s)
      else s.releaseAll t >>= fun s => .ok (some true, s) := by
    unfold reinit
    split
    · exact absurd ‹_› hne
    · rfl
  rw [initInst, hreinit]
  split
  · rfl
  · cases s.releaseAll t <;> rfl

theorem initInst_iff (h : answers.Succeed args) (hrc : s.rc t = .live ()) :
    (∃ s', s.initInst args answers t = .ok (true, s') ∧
        s'.Initialised args.nrMboxes (rxThreadName (answers.myMboxId args))) ↔
      s.Restartable t (rxThreadName (answers.myMboxId args)) := by
  have hnot : s.rc t ≠ .dangling := by simp [hrc]
  by_cases hnull : s.mboxes = .null
  · rw [initInst_new hnull, setUp_iff h hrc]
    constructor
    · rintro ⟨hlocal, hsysvmq, hlist, hnames⟩
      exact ⟨hnot, hlist, hsysvmq, hnames, Or.inl ⟨hnull, hlocal.resolve_right (by simp)⟩⟩
    · rintro ⟨-, hlist, hsysvmq, hnames, ⟨-, hlocal⟩ | ⟨hne, -⟩⟩
      · exact ⟨Or.inl hlocal, hsysvmq, hlist, hnames⟩
      · exact absurd hnull hne
  · rw [initInst_again hnull]
    constructor
    · rintro ⟨s', hset, hinit⟩
      split at hset
      · cases hset
      · next hpid =>
        have hkey : s.destructKey = false := by
          by_contra hkey
          exact setUp_after_release h (eq_true_of_ne_false hkey) hset
        rw [releaseAll, if_pos (by simp [hkey])] at hset
        obtain ⟨-, hsysvmq, hlist, hnames⟩ := (setUp_iff h hrc).mp ⟨s', hset, hinit⟩
        exact ⟨hnot, hlist, hsysvmq, hnames, Or.inr ⟨hnull, hpid, hkey⟩⟩
    · rintro ⟨-, hlist, hsysvmq, hnames, ⟨hisnull, -⟩ | ⟨-, hpid, hkey⟩⟩
      · exact absurd hisnull hnull
      · rw [if_neg hpid, releaseAll, if_pos (by simp [hkey])]
        exact (setUp_iff h hrc).mpr ⟨Or.inr rfl, hsysvmq, hlist, hnames⟩

/-- **`itc_init_zz` keeps its promise from exactly the restartable states.** -/
theorem itcInit_iff (h : answers.Succeed args) :
    (∃ s', s.itcInit args answers t = .ok (.returned true, s') ∧
        s'.Initialised args.nrMboxes (rxThreadName (answers.myMboxId args))) ↔
      s.Restartable t (rxThreadName (answers.myMboxId args)) := by
  by_cases hrc : s.rc t = .dangling
  · constructor
    · rintro ⟨s', hcall, -⟩
      rw [itcInit, ensureRc, hrc] at hcall
      cases hcall
    · exact fun hs => absurd hrc hs.rc
  · have hsame : (s.setRc t (.live ())).Restartable t (rxThreadName (answers.myMboxId args)) ↔
        s.Restartable t (rxThreadName (answers.myMboxId args)) :=
      ⟨fun hs => ⟨hrc, hs.threadList, hs.sysvmqInst, hs.names, hs.mboxes⟩,
        fun hs => ⟨by simp, hs.threadList, hs.sysvmqInst, hs.names, hs.mboxes⟩⟩
    rw [← hsame, ← initInst_iff h (by simp), itcInit, ensureRc_eq h.rc hrc]
    constructor
    · rintro ⟨s', hcall, hinit⟩
      change (initInst args answers t (s.setRc t (.live ())) >>= _) = _ at hcall
      obtain ⟨⟨ok, s₁⟩, hinst, hcall⟩ := bind_eq_ok hcall
      cases ok with
      | true =>
        cases hcall
        exact ⟨_, hinst, hinit⟩
      | false =>
        obtain ⟨s₂, -, hcall⟩ := bind_eq_ok hcall
        cases hcall
    · rintro ⟨s', hinst, hinit⟩
      refine ⟨s', ?_, hinit⟩
      change (initInst args answers t (s.setRc t (.live ())) >>= _) = _
      rw [hinst]
      rfl

end SetUp

/-! ## After exit -/

section Exit

variable {s s' : ItcGlobals} {t : Nat} {answer : Answer}

theorem updateMbox_mboxes {i : Nat} {f : ItcMailbox → ItcMailbox}
    (h : s.updateMbox i f = .ok s') : s'.mboxes ≠ .null := by
  obtain ⟨mboxes, -, h⟩ := bind_eq_ok h
  cases h
  exact Ptr.live_ne_null _

theorem giveBackMailbox_mboxes {node ok : Bool} {i : Nat} (hne : s.mboxes ≠ .null)
    (h : s.giveBackMailbox node i = .ok (ok, s')) : s'.mboxes ≠ .null := by
  unfold giveBackMailbox at h
  split at h
  · cases h
    exact hne
  · next s₁ _ =>
    obtain ⟨s₂, hupdate, h⟩ := bind_eq_ok h
    have hlive := updateMbox_mboxes hupdate
    split at h
    · obtain ⟨queue, -, h⟩ := bind_eq_ok h
      cases h
      exact hlive
    · cases h
      exact hlive

theorem threadExit_mboxes {node : Bool} {thr : ItcThread} (hne : s.mboxes ≠ .null)
    (h : s.threadExit node thr = .ok s') : s'.mboxes ≠ .null := by
  unfold threadExit at h
  split at h
  · obtain ⟨mboxes, -, h⟩ := bind_eq_ok h
    split at h
    · obtain ⟨s₁, -, h⟩ := bind_eq_ok h
      obtain ⟨s₂, hclose, h⟩ := bind_eq_ok h
      obtain ⟨⟨ok, s₃⟩, hback, h⟩ := bind_eq_ok h
      cases h
      exact giveBackMailbox_mboxes (updateMbox_mboxes hclose) hback
    · cases h
      exact hne
  · cases h
    exact hne

theorem terminateItcthreads_mboxes {answers : TerminateAnswers} {list list' : ThreadList}
    {k : Nat} {ok : Bool} (hne : s.mboxes ≠ .null)
    (h : terminateItcthreads answers k list s = .ok (ok, list', s')) : s'.mboxes ≠ .null := by
  induction list generalizing k s ok list' with
  | nil =>
    cases h
    exact hne
  | dangling => cases h
  | cons thr next ih =>
    unfold terminateItcthreads at h
    split at h
    · cases h
      exact hne
    · split at h
      · cases h
        exact hne
      · obtain ⟨s₁, hexit, h⟩ := bind_eq_ok h
        have hne₁ := threadExit_mboxes hne hexit
        split at h
        · cases h
          exact hne₁
        · obtain ⟨⟨ok₁, list₁, s₂⟩, hrest, h⟩ := bind_eq_ok h
          cases h
          exact ih hne₁ hrest

theorem transExit_mboxes (answers : TransExitAnswers) :
    (s.transExit answers).2.mboxes = s.mboxes := by
  unfold transExit
  dsimp only
  repeat' split
  all_goals rfl

theorem freeAll_mboxes {answers : ExitAnswers} (hne : s.mboxes ≠ .null)
    (h : s.freeAll answers t = .ok (.returned true, s')) : s'.mboxes = .dangling := by
  obtain ⟨tree, -, h⟩ := bind_eq_ok h
  dsimp only at h
  split at h
  · cases h
  · split at h
    · cases h
    · obtain ⟨mboxes, hfree, h⟩ := bind_eq_ok h
      obtain ⟨queue, -, h⟩ := bind_eq_ok h
      split at h
      · cases h
      · obtain ⟨s₁, hrc, h⟩ := bind_eq_ok h
        obtain ⟨p, -, hrc⟩ := bind_eq_ok hrc
        cases hrc
        cases h
        cases hmboxes : s.mboxes with
        | null => exact absurd hmboxes hne
        | live m =>
          rw [hmboxes] at hfree
          cases hfree
          rfl
        | dangling =>
          rw [hmboxes] at hfree
          cases hfree

/-- A successful exit leaves `mboxes` pointing to what it has freed. -/
theorem itcExit_mboxes {answers : ExitAnswers}
    (h : s.itcExit answers t = .ok (.returned true, s')) : s'.mboxes = .dangling := by
  unfold itcExit at h
  split at h
  · cases h
  · obtain ⟨o, -, h⟩ := bind_eq_ok h
    cases o with
    | none => cases h
    | some s₁ =>
      obtain ⟨mboxes, hread, h⟩ := bind_eq_ok h
      have hne : s₁.mboxes ≠ .null := by
        rw [Ptr.read_eq_ok hread]
        exact Ptr.live_ne_null _
      dsimp only at h
      split at h
      · cases h
      · obtain ⟨⟨ok, list, s₂⟩, hterminate, h⟩ := bind_eq_ok h
        have hne₂ := terminateItcthreads_mboxes hne hterminate
        dsimp only at h
        split at h
        · unfold takeDown at h
          split at h
          · cases h
          · have htrans := transExit_mboxes (s := { s₂ with threadList := list }) answers.trans
            split at h
            · cases h
            · next s₃ heq =>
              rw [heq] at htrans
              split at h
              · cases h
              · refine freeAll_mboxes ?_ h
                show s₃.mboxes ≠ .null
                rw [show s₃.mboxes = s₂.mboxes from htrans]
                exact hne₂
        · cases h

theorem freeAll_answer {answers : ExitAnswers} (h : s.freeAll answers t = .ok (answer, s')) :
    answer ≠ .notInit := by
  obtain ⟨tree, -, h⟩ := bind_eq_ok h
  dsimp only at h
  split at h
  · cases h
    exact Answer.noConfusion
  · split at h
    · cases h
      exact Answer.noConfusion
    · obtain ⟨mboxes, -, h⟩ := bind_eq_ok h
      obtain ⟨queue, -, h⟩ := bind_eq_ok h
      split at h
      · cases h
        exact Answer.noConfusion
      · obtain ⟨s₁, -, h⟩ := bind_eq_ok h
        cases h
        exact Answer.noConfusion

theorem takeDown_answer {answers : ExitAnswers} (h : s.takeDown answers t = .ok (answer, s')) :
    answer ≠ .notInit := by
  unfold takeDown at h
  split at h
  · cases h
    exact Answer.noConfusion
  · split at h
    · cases h
      exact Answer.noConfusion
    · split at h
      · cases h
        exact Answer.noConfusion
      · exact freeAll_answer h

/-- `itc_exit_zz` looks at the pointer to the mailboxes only. -/
theorem itcExit_notInit_iff (answers : ExitAnswers) :
    (∃ s', s.itcExit answers t = .ok (.notInit, s')) ↔ s.mboxes = .null := by
  constructor
  · rintro ⟨s', h⟩
    unfold itcExit at h
    split at h
    · assumption
    · obtain ⟨o, -, h⟩ := bind_eq_ok h
      cases o with
      | none => cases h
      | some s₁ =>
        obtain ⟨mboxes, -, h⟩ := bind_eq_ok h
        dsimp only at h
        split at h
        · cases h
        · obtain ⟨⟨ok, list, s₂⟩, -, h⟩ := bind_eq_ok h
          dsimp only at h
          split at h
          · exact absurd rfl (takeDown_answer h)
          · cases h
  · intro hnull
    exact ⟨s, by rw [itcExit, hnull]⟩

/-- Nor does `itc_create_mailbox_zz` find out that the mailboxes are freed. -/
theorem itcCreate_notInit_iff (answers : CreateAnswers) (name : CString) (flags : UInt32) :
    (∃ s', s.itcCreate answers t name flags = .ok (.notInit, s')) ↔ s.mboxes = .null := by
  constructor
  · rintro ⟨s', h⟩
    unfold itcCreate at h
    split at h
    · assumption
    · cases h
    · obtain ⟨o, -, h⟩ := bind_eq_ok h
      cases o with
      | none => cases h
      | some s₁ =>
        obtain ⟨⟨o, s₂⟩, -, h⟩ := bind_eq_ok h
        cases o with
        | none => cases h
        | some i => cases h
  · intro hnull
    exact ⟨s, by rw [itcCreate, hnull]⟩

theorem deleteOwn_answer {answers : DeleteAnswers} {me : Nat}
    (h : s.deleteOwn answers t me = .ok (answer, s')) : answer ≠ .notInit := by
  obtain ⟨s₁, -, h⟩ := bind_eq_ok h
  dsimp only at h
  split at h
  · cases h
    exact Answer.noConfusion
  · obtain ⟨s₂, -, h⟩ := bind_eq_ok h
    obtain ⟨o, -, h⟩ := bind_eq_ok h
    cases o with
    | none =>
      cases h
      exact Answer.noConfusion
    | some s₃ =>
      obtain ⟨s₄, -, h⟩ := bind_eq_ok h
      obtain ⟨⟨ok, s₅⟩, -, h⟩ := bind_eq_ok h
      cases h
      exact Answer.noConfusion

/-- `itc_delete_mailbox_zz` finds out when the thread has no mailbox. -/
theorem itcDelete_notInit_iff (answers : DeleteAnswers) :
    (∃ s', s.itcDelete answers t = .ok (.notInit, s')) ↔
      s.mboxes = .null ∨ s.myThreadlocalMbox t = none := by
  constructor
  · rintro ⟨s', h⟩
    unfold itcDelete at h
    split at h
    · exact .inl ‹_›
    · exact .inr ‹_›
    · obtain ⟨mboxes, -, h⟩ := bind_eq_ok h
      split at h
      · exact absurd rfl (deleteOwn_answer h)
      · cases h
  · intro hno
    refine ⟨s, ?_⟩
    unfold itcDelete
    rcases hno with hnull | hnone
    · rw [hnull]
    · rw [hnone]
      cases s.mboxes <;> rfl

theorem touchRc_answer {answers : CallAnswers} {call : ApiCall}
    (h : s.touchRc answers t call = .ok (answer, s')) : answer ≠ .notInit := by
  unfold touchRc at h
  split at h
  · cases h
    exact Answer.noConfusion
  · obtain ⟨o, -, h⟩ := bind_eq_ok h
    cases o with
    | none =>
      cases h
      exact Answer.noConfusion
    | some s₁ =>
      cases h
      exact Answer.noConfusion

theorem touch_answer {answers : CallAnswers} {call : ApiCall}
    (h : s.touch answers t call = .ok (answer, s')) : answer ≠ .notInit := by
  unfold touch at h
  split at h
  · obtain ⟨mboxes, -, h⟩ := bind_eq_ok h
    exact touchRc_answer h
  · exact touchRc_answer h

/-- The other calls, each with the tests it has. -/
theorem apiCall_notInit_iff (answers : CallAnswers) (call : ApiCall) :
    (∃ s', s.apiCall answers t call = .ok (.notInit, s')) ↔
      call.testsInst = true ∧ s.mboxes = .null ∨
        call.testsMbox = true ∧ s.myThreadlocalMbox t = none := by
  rw [← Ptr.isNull_iff]
  constructor
  · rintro ⟨s', h⟩
    unfold apiCall at h
    split at h
    · exact .inl ‹_›
    · split at h
      · exact .inr ‹_›
      · split at h
        · cases h
        · exact absurd rfl (touch_answer h)
  · intro hno
    refine ⟨s, ?_⟩
    unfold apiCall
    split
    · rfl
    · rw [if_pos (hno.resolve_left ‹_›)]

end Exit

end ItcGlobals

/-! ## Lives -/

inductive LivesEvent where
  | init (t : Nat) (args : ItcGlobals.InitArgs) (answers : ItcGlobals.InitAnswers)
  | exit (t : Nat) (answers : ItcGlobals.ExitAnswers)
  | create (t : Nat) (answers : CreateAnswers) (name : CString) (flags : UInt32)
  | delete (t : Nat) (answers : ItcGlobals.DeleteAnswers)
  | call (t : Nat) (call : ItcGlobals.ApiCall) (answers : ItcGlobals.CallAnswers)
  | fork (t childPid : Nat)

def ItcGlobals.exec (s : ItcGlobals) : LivesEvent → Except MemFault (Answer × ItcGlobals)
  | .init t args answers => s.itcInit args answers t
  | .exit t answers => s.itcExit answers t
  | .create t answers name flags => s.itcCreate answers t name flags
  | .delete t answers => s.itcDelete answers t
  | .call t call answers => s.apiCall answers t call
  | .fork t childPid => .ok (.returned true, s.fork t childPid)

structure Life where
  proc : ItcGlobals
  /-- `itc_exit_zz` has succeeded, and no `itc_init_zz` since. -/
  exited : Bool
  /-- The next `itc_init_zz` comes after a successful `itc_exit_zz` or a fork. -/
  again : Bool

namespace Life

def start (pid : Nat) : Life := ⟨.start pid, false, false⟩

/-- The marks after a call. -/
def record (l : Life) : LivesEvent → Answer → ItcGlobals → Life
  | .init .., .returned true, proc => ⟨proc, false, false⟩
  | .exit .., .returned true, proc => ⟨proc, true, true⟩
  | .fork .., _, proc => ⟨proc, l.exited, true⟩
  | _, _, proc => { l with proc }

/-- What a call makes of a life; a call that faults ends it. -/
def after (l : Life) (e : LivesEvent) : Except MemFault Life := do
  let (answer, proc) ← l.proc.exec e
  .ok (l.record e answer proc)

/-- What is promised about a call: `itc_init_zz` that comes again, and is granted everything,
gives an initialised instance; after `itc_exit_zz` every other call says that there is none. -/
def Kept (l : Life) : LivesEvent → Prop
  | .init t args answers => l.again = true → answers.Succeed args →
      ∃ s, l.proc.itcInit args answers t = .ok (.returned true, s) ∧
        s.Initialised args.nrMboxes (ItcGlobals.rxThreadName (answers.myMboxId args))
  | .fork .. => True
  | e => l.exited = true → ∃ s, l.proc.exec e = .ok (.notInit, s)

/-- The calls for which the promise is kept: `itc_init_zz` where nothing of an earlier life is
left, and after `itc_exit_zz` those that find no mailboxes where they test for them, or that ask
for the thread's mailbox in a thread without one. -/
def MayCall (l : Life) : LivesEvent → Prop
  | .init t args answers => l.again = true → answers.Succeed args →
      l.proc.Restartable t (ItcGlobals.rxThreadName (answers.myMboxId args))
  | .fork .. => True
  | .exit .. | .create .. => l.exited = true → l.proc.mboxes = .null
  | .delete t _ => l.exited = true → l.proc.mboxes = .null ∨ l.proc.myThreadlocalMbox t = none
  | .call t call _ => l.exited = true → call.testsInst = true ∧ l.proc.mboxes = .null ∨
      call.testsMbox = true ∧ l.proc.myThreadlocalMbox t = none

theorem kept_iff (l : Life) (e : LivesEvent) : l.Kept e ↔ l.MayCall e := by
  cases e with
  | init t args answers =>
    constructor
    · intro hkept hagain hans
      exact (ItcGlobals.itcInit_iff hans).mp (hkept hagain hans)
    · intro hmay hagain hans
      exact (ItcGlobals.itcInit_iff hans).mpr (hmay hagain hans)
  | fork t childPid => exact Iff.rfl
  | exit t answers => exact imp_congr_right fun _ => ItcGlobals.itcExit_notInit_iff answers
  | create t answers name flags =>
    exact imp_congr_right fun _ => ItcGlobals.itcCreate_notInit_iff answers name flags
  | delete t answers => exact imp_congr_right fun _ => ItcGlobals.itcDelete_notInit_iff answers
  | call t call answers =>
    exact imp_congr_right fun _ => ItcGlobals.apiCall_notInit_iff answers call

/-- **A successful `itc_exit_zz` leaves the freed mailboxes to the calls that follow**: no second
one and no `itc_create_mailbox_zz` may come, and of the others only those that ask for the
thread's mailbox, in a thread without one. -/
theorem mayCall_after_exit {l : Life} {t : Nat} {answers : ItcGlobals.ExitAnswers}
    {s : ItcGlobals} (hexit : l.proc.exec (.exit t answers) = .ok (.returned true, s)) :
    ∃ l', l.after (.exit t answers) = .ok l' ∧
      (∀ u answers', ¬ l'.MayCall (.exit u answers')) ∧
      (∀ u answers' name flags, ¬ l'.MayCall (.create u answers' name flags)) ∧
      (∀ u answers', l'.MayCall (.delete u answers') ↔ s.myThreadlocalMbox u = none) ∧
      ∀ u call answers', l'.MayCall (.call u call answers') ↔
        call.testsMbox = true ∧ s.myThreadlocalMbox u = none := by
  have hmboxes : s.mboxes ≠ .null := by
    rw [ItcGlobals.itcExit_mboxes hexit]
    exact fun h => by cases h
  refine ⟨⟨s, true, true⟩, ?_, fun u _ h => hmboxes (h rfl), fun u _ _ _ h => hmboxes (h rfl),
    fun u _ => ?_, fun u call _ => ?_⟩
  · rw [after, hexit]
    rfl
  · exact ⟨fun h => (h rfl).resolve_left hmboxes, fun h _ => .inr h⟩
  · exact ⟨fun h => (h rfl).resolve_left fun hnull => hmboxes hnull.2, fun h _ => .inr h⟩

end Life

/-- One call, or the end of the process in a fault. -/
def LivesStep (w : Except MemFault Life) (e : LivesEvent) (w' : Except MemFault Life) : Prop :=
  ∃ l, w = .ok l ∧ w' = l.after e

/-- A condition on the life before a call. -/
def InLife (P : Life → LivesEvent → Prop) (w : Except MemFault Life) (e : LivesEvent) : Prop :=
  ∀ l, w = .ok l → P l e

/-- **The runs of init, use, exit and fork in which every promise is kept are those whose calls
meet `MayCall`.** -/
theorem itc_lives_iff (pid : Nat) (es : List LivesEvent) (w : Except MemFault Life) :
    Run (Guarded LivesStep (InLife Life.Kept)) (.ok (.start pid)) es w ↔
      Run (Guarded LivesStep (InLife Life.MayCall)) (.ok (.start pid)) es w := by
  refine Run.guarded_congr (I := fun _ => True) (fun _ _ _ _ _ => trivial) ?_ trivial
  rintro w e w' - -
  exact forall₂_congr fun l _ => l.kept_iff e

section Runs

open ItcGlobals

/-- One life of a process with two mailboxes, up to its end or to a fork. -/
def initOnce : LivesEvent := .init 1 ⟨2, false⟩ .willing

theorem willing_succeed : InitAnswers.willing.Succeed ⟨2, false⟩ where
  rc := rfl
  threadListMtx := rfl
  coord := Or.inr rfl
  mboxes := rfl
  sync := fun _ => rfl
  queue := rfl
  node := fun _ => rfl
  key := rfl
  locatingMtx := rfl
  localmbxData := rfl
  lsockPath := rfl
  lsockConnect := rfl
  sysvmq := rfl
  rcTmp := rfl
  create := rfl
  mailbox := rfl

/-- **ITC does not start again**: after `itc_exit_zz` in the same process `itc_init_zz` returns
`false`, in the child of a fork it dereferences `NULL`, and after `itc_exit_zz` `itc_alloc_zz`
returns a message. -/
theorem itc_not_restarted :
    ∃ exited forked : Life,
      Run LivesStep (.ok (.start 7)) [initOnce, .exit 1 .willing] (.ok exited) ∧
      Run LivesStep (.ok (.start 7)) [initOnce, .fork 1 8] (.ok forked) ∧
      (∃ s, exited.proc.exec initOnce = .ok (.returned false, s)) ∧
      forked.proc.exec initOnce = .error .nullDeref ∧
      (∃ s, exited.proc.exec (.call 1 .alloc ⟨none, true, true⟩) = .ok (.returned true, s)) ∧
      ¬ exited.Kept initOnce ∧ ¬ forked.Kept initOnce ∧
      ¬ exited.Kept (.call 1 .alloc ⟨none, true, true⟩) := by
  refine ⟨_, _, .cons ⟨_, rfl, rfl⟩ (.cons ⟨_, rfl, rfl⟩ (.nil _)),
    .cons ⟨_, rfl, rfl⟩ (.cons ⟨_, rfl, rfl⟩ (.nil _)), ⟨_, rfl⟩, rfl, ⟨_, rfl⟩, ?_, ?_, ?_⟩
  · intro hkept
    obtain ⟨s, hs, -⟩ := hkept rfl willing_succeed
    cases hs
  · intro hkept
    obtain ⟨s, hs, -⟩ := hkept rfl willing_succeed
    cases hs
  · intro hkept
    obtain ⟨s, hs⟩ := hkept rfl
    cases hs

end Runs

end ItcFramework
