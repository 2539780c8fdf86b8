import ItcFramework.Itc.PosixmqProcess

/-!
# Being told of messages in a POSIX queue

`posix_msq_rx_thread_func` and `register_notification` (`itc_posixmq.c`). `mq_notify` registers a
process for one notification: when a message comes into the empty queue the kernel starts a thread
and forgets the registration. The thread reads the queue until it is empty, and registers again.

* `NotifyStep` — what senders and threads do, in any order.
* `posixmq_one_reader` — one thread at most reads, so that `rx_buffer` is used by one at a time, and
  messages are processed in the order they were sent.
* `Watched` — a thread will read what is in the queue, or the process is registered.
* `posixmq_watched_iff` — the runs that stay watched: no message comes between the last read of the
  empty queue and the registration.
* `posixmq_window_fatal` — after one that does, nothing is ever received again.
-/

set_option autoImplicit false

namespace ItcFramework

open ByteImage Transition

/-! ## Threads and senders -/

/-- Where a thread in `posix_msq_rx_thread_func` is: at `mq_receive`, or about to register. -/
inductive RxThread where
  | reading (numRetries : Int)
  | registering
  deriving DecidableEq, Repr

/-- The message queue of a process, and the threads that the kernel has started for it. -/
structure NotifyState where
  queue : List Bytes
  registered : Bool
  threads : List RxThread
  /-- The texts that were sent, and those that `process_received_message` was given. -/
  sent : List Bytes
  processed : List Bytes
  deriving DecidableEq, Repr

/-- `attr.mq_maxmsg`. -/
def mqMaxmsg : Nat := 10

/-- After `posixmq_init`, with the queue new. -/
def NotifyState.init : NotifyState := ⟨[], true, [], [], []⟩

/-- What the thread does after `mq_receive` has failed; `none` is the end of it. -/
def RxThread.afterError (numRetries : Int) (errno : MqErrno) : Option RxThread :=
  if errno = .eintr ∨ numRetries > 0 then some (.reading (numRetries - 1))
  else if errno = .eagain then some .registering
  else none

inductive NotifyEvent where
  | send (text : Bytes)
  | receive
  | fail (errno : MqErrno)
  | register (ok : Bool)
  deriving DecidableEq, Repr

/-- A message comes into the queue; the kernel starts a thread if the queue was empty and the
process registered. -/
def NotifyState.arrive (s : NotifyState) (text : Bytes) : NotifyState :=
  let s := { s with queue := s.queue ++ [text], sent := s.sent ++ [text] }
  if s.registered ∧ s.queue = [text] then
    { s with registered := false, threads := s.threads ++ [.reading 100] }
  else s

/-- A sender, or any of the threads, does its next step. -/
inductive NotifyStep : NotifyState → NotifyEvent → NotifyState → Prop where
  | send {s : NotifyState} {text : Bytes} (hroom : s.queue.length < mqMaxmsg) :
      NotifyStep s (.send text) (s.arrive text)
  | receive {s : NotifyState} {before after : List RxThread} {numRetries : Int} {text : Bytes}
      {rest : List Bytes} (hthread : s.threads = before ++ .reading numRetries :: after)
      (hqueue : s.queue = text :: rest) :
      NotifyStep s .receive { s with queue := rest, processed := s.processed ++ [text] }
  | fail {s : NotifyState} {before after : List RxThread} {numRetries : Int} {errno : MqErrno}
      (hthread : s.threads = before ++ .reading numRetries :: after)
      (hempty : errno = .eagain → s.queue = []) :
      NotifyStep s (.fail errno)
        { s with threads := before ++ (RxThread.afterError numRetries errno).toList ++ after }
  | register {s : NotifyState} {before after : List RxThread} {ok : Bool}
      (hthread : s.threads = before ++ .registering :: after) :
      NotifyStep s (.register ok)
        { s with registered := s.registered || ok, threads := before ++ after }

/-! ## One reader -/

/-- A registered process has no thread, another one at most; messages are processed in order. -/
structure OneReader (s : NotifyState) : Prop where
  registered : s.registered = true → s.threads = []
  one : s.threads.length ≤ 1
  room : s.queue.length ≤ mqMaxmsg
  fifo : s.sent = s.processed ++ s.queue

theorem OneReader.init : OneReader .init := ⟨fun _ => rfl, by decide, by decide, rfl⟩

/-- The thread that does a step is the only one. -/
theorem OneReader.alone {s : NotifyState} (h : OneReader s) {before after : List RxThread}
    {t : RxThread} (hthread : s.threads = before ++ t :: after) :
    before = [] ∧ after = [] ∧ s.threads = [t] ∧ s.registered = false := by
  have hone := h.one
  rw [hthread, List.length_append, List.length_cons] at hone
  have hbefore : before = [] := List.length_eq_zero_iff.mp (by omega)
  have hafter : after = [] := List.length_eq_zero_iff.mp (by omega)
  refine ⟨hbefore, hafter, by rw [hthread, hbefore, hafter]; rfl, ?_⟩
  cases hreg : s.registered with
  | false => rfl
  | true =>
    have hnil := h.registered hreg
    rw [hthread] at hnil
    exact absurd hnil (List.append_ne_nil_of_right_ne_nil _ (List.cons_ne_nil _ _))

theorem OneReader.step {s s' : NotifyState} {a : NotifyEvent} (h : OneReader s)
    (hstep : NotifyStep s a s') : OneReader s' := by
  cases hstep with
  | @send text hroom =>
    have hfifo : s.sent ++ [text] = s.processed ++ (s.queue ++ [text]) := by
      rw [h.fifo, List.append_assoc]
    have hlen : (s.queue ++ [text]).length ≤ mqMaxmsg := by
      rw [List.length_append, List.length_singleton]
      exact hroom
    by_cases hnotify : s.registered = true ∧ s.queue ++ [text] = [text]
    · rw [show s.arrive text = _ from if_pos hnotify]
      refine ⟨?_, ?_, hlen, hfifo⟩
      · intro hreg
        cases hreg
      · simp only [h.registered hnotify.1, List.nil_append, List.length_singleton, Nat.le_refl]
    · rw [show s.arrive text = _ from if_neg hnotify]
      exact ⟨h.registered, h.one, hlen, hfifo⟩
  | @receive before after numRetries text rest hthread hqueue =>
    have hroom := h.room
    rw [hqueue, List.length_cons] at hroom
    refine ⟨h.registered, h.one, by simp only; omega, ?_⟩
    simp only [h.fifo, hqueue, List.append_assoc, List.cons_append, List.nil_append]
  | @fail before after numRetries errno hthread hempty =>
    obtain ⟨rfl, rfl, -, hreg⟩ := h.alone hthread
    refine ⟨fun hreg' => ?_, ?_, h.room, h.fifo⟩
    · rw [hreg] at hreg'
      cases hreg'
    · simp only [List.nil_append, List.append_nil]
      cases RxThread.afterError numRetries errno with
      | none => exact Nat.zero_le 1
      | some t => exact Nat.le_refl 1
  | @register before after ok hthread =>
    obtain ⟨rfl, rfl, -, -⟩ := h.alone hthread
    exact ⟨fun _ => rfl, Nat.zero_le 1, h.room, h.fifo⟩

theorem OneReader.run {s s' : NotifyState} {as : List NotifyEvent} (h : OneReader s)
    (hrun : Run NotifyStep s as s') : OneReader s' :=
  hrun.invariant (fun _ _ _ h hstep => h.step hstep) h

/-- **One thread at most reads the queue at a time**, whatever senders do meanwhile, and messages are
processed in the order they were sent, each once. -/
theorem posixmq_one_reader (as : List NotifyEvent) (s : NotifyState)
    (hrun : Run NotifyStep .init as s) : OneReader s :=
  OneReader.init.run hrun

/-- A message comes, is received, and another comes while the thread still reads. -/
theorem posixmq_one_reader_pair :
    ∃ s, Run NotifyStep .init [.send [1], .receive, .send [2]] s ∧ s.threads = [.reading 100] ∧
      OneReader s := by
  have hrun : Run NotifyStep .init [.send [1], .receive, .send [2]]
      ⟨[[2]], false, [.reading 100], [[1], [2]], [[1]]⟩ :=
    .cons (.send (by decide)) (.cons (@NotifyStep.receive _ [] [] 100 _ _ rfl rfl)
      (.cons (.send (by decide)) (.nil _)))
  exact ⟨_, hrun, rfl, posixmq_one_reader _ _ hrun⟩

/-! ## Who will read -/

/-- A thread will read what is in the queue, and the process will be told of what comes next. -/
structure Watched (s : NotifyState) : Prop where
  read : s.queue ≠ [] → ∃ numRetries, .reading numRetries ∈ s.threads
  told : s.registered = true ∨ s.threads ≠ []

/-- A message does not come while a thread is about to register, `mq_notify` succeeds, and
`mq_receive` does not fail over and over with an error that the thread does not know. -/
def NotifyState.MayHappen (s : NotifyState) : NotifyEvent → Prop
  | .send _ => .registering ∉ s.threads
  | .receive => True
  | .fail errno => errno = .other → ∀ numRetries, .reading numRetries ∈ s.threads → 0 < numRetries
  | .register ok => ok = true

theorem Watched.init : Watched .init := ⟨fun hne => absurd rfl hne, .inl rfl⟩

theorem arrive_watched {s : NotifyState} (hw : Watched s) {text : Bytes}
    (hmay : .registering ∉ s.threads) : Watched (s.arrive text) := by
  by_cases hnotify : s.registered = true ∧ s.queue ++ [text] = [text]
  · rw [show s.arrive text = _ from if_pos hnotify]
    refine ⟨fun _ => ⟨100, ?_⟩, .inr ?_⟩
    · simp only [List.mem_append, List.mem_singleton, or_true]
    · exact List.append_ne_nil_of_right_ne_nil _ (List.cons_ne_nil _ _)
  · rw [show s.arrive text = _ from if_neg hnotify]
    refine ⟨fun _ => ?_, hw.told⟩
    cases hthreads : s.threads with
    | nil =>
      have hreg : s.registered = true := hw.told.resolve_right fun hne => hne hthreads
      have hqueue : s.queue ≠ [] := fun hnil => hnotify ⟨hreg, by rw [hnil]; rfl⟩
      exact (hthreads ▸ hw.read hqueue)
    | cons t ts =>
      cases t with
      | reading numRetries => exact ⟨numRetries, List.mem_cons_self⟩
      | registering =>
        rw [hthreads] at hmay
        exact absurd List.mem_cons_self hmay

/-- A step that may happen leaves the queue watched. -/
theorem Watched.step {s s' : NotifyState} {a : NotifyEvent} (h : OneReader s) (hw : Watched s)
    (hmay : s.MayHappen a) (hstep : NotifyStep s a s') : Watched s' := by
  cases hstep with
  | send hroom => exact arrive_watched hw hmay
  | @receive before after numRetries text rest hthread hqueue =>
    refine ⟨fun _ => ⟨numRetries, ?_⟩, .inr ?_⟩
    · simp only [hthread, List.mem_append, List.mem_cons, true_or, or_true]
    · simp only [hthread]
      exact List.append_ne_nil_of_right_ne_nil _ (List.cons_ne_nil _ _)
  | @fail before after numRetries errno hthread hempty =>
    obtain ⟨rfl, rfl, halone, -⟩ := h.alone hthread
    simp only [List.nil_append, List.append_nil, RxThread.afterError]
    by_cases hagain : errno = .eintr ∨ numRetries > 0
    · rw [if_pos hagain]
      exact ⟨fun _ => ⟨numRetries - 1, List.mem_singleton.mpr rfl⟩, .inr (List.cons_ne_nil _ _)⟩
    · rw [if_neg hagain]
      cases errno with
      | eintr => exact absurd (.inl rfl) hagain
      | eagain => exact ⟨fun hne => absurd (hempty rfl) hne, .inr (List.cons_ne_nil _ _)⟩
      | other =>
        refine absurd (.inr (hmay rfl numRetries ?_)) hagain
        rw [halone]
        exact List.mem_singleton.mpr rfl
  | @register before after ok hthread =>
    obtain ⟨rfl, rfl, halone, -⟩ := h.alone hthread
    have hok : ok = true := hmay
    refine ⟨fun hne => ?_, .inl ?_⟩
    · obtain ⟨numRetries, hread⟩ := hw.read hne
      rw [halone] at hread
      cases List.mem_singleton.mp hread
    · simp only [hok, Bool.or_true]

/-- A step that leaves the queue watched may happen. -/
theorem Watched.mayHappen {s s' : NotifyState} {a : NotifyEvent} (hw' : Watched s')
    (h : OneReader s) (hstep : NotifyStep s a s') : s.MayHappen a := by
  cases hstep with
  | @send text hroom =>
    intro hwindow
    obtain ⟨before, after, hthread⟩ := List.append_of_mem hwindow
    obtain ⟨-, -, halone, hreg⟩ := h.alone hthread
    have hnotify : ¬ (s.registered = true ∧ s.queue ++ [text] = [text]) := by
      rintro ⟨hreg', -⟩
      rw [hreg] at hreg'
      cases hreg'
    rw [show s.arrive text = _ from if_neg hnotify] at hw'
    obtain ⟨numRetries, hread⟩ :=
      hw'.read (List.append_ne_nil_of_right_ne_nil _ (List.cons_ne_nil _ _))
    simp only [halone] at hread
    cases List.mem_singleton.mp hread
  | receive => trivial
  | @fail before after numRetries errno hthread hempty =>
    obtain ⟨rfl, rfl, halone, hreg⟩ := h.alone hthread
    rintro rfl numRetries' hread
    rw [halone, List.mem_singleton] at hread
    cases hread
    by_contra hle
    have hend : RxThread.afterError numRetries .other = none := by
      simp only [RxThread.afterError, reduceCtorEq, false_or, gt_iff_lt, if_neg hle, if_false]
    rcases hw'.told with hreg' | hne
    · rw [hreg] at hreg'
      cases hreg'
    · simp only [hend, Option.toList_none, List.append_nil, ne_eq, not_true_eq_false] at hne
  | @register before after ok hthread =>
    obtain ⟨rfl, rfl, -, hreg⟩ := h.alone hthread
    rcases hw'.told with hreg' | hne
    · have hok : ok = true := by simpa only [hreg, Bool.false_or] using hreg'
      exact hok
    · exact absurd rfl hne

/-- **The queue stays watched in those runs, and in no other, in which no message comes between the
last read of the empty queue and the registration**, and in which the thread gets to register. -/
theorem posixmq_watched_iff (as : List NotifyEvent) (s : NotifyState) :
    Run (Into NotifyStep Watched) .init as s ↔
      Run (Guarded NotifyStep NotifyState.MayHappen) .init as s :=
  Run.into_iff_guarded (I := fun s => OneReader s ∧ Watched s)
    (fun s a s' h hmay (hstep : NotifyStep s a s') =>
      And.intro (h.1.step hstep) (h.2.step h.1 hmay hstep))
    (fun _ h => h.2) (fun s a s' h (hstep : NotifyStep s a s') hw' => hw'.mayHappen h.1 hstep)
    ⟨.init, .init⟩

/-! ## After a message in between -/

/-- There is a message in the queue, and no thread that would read it. -/
structure Stranded (s : NotifyState) : Prop where
  queue : s.queue ≠ []
  unread : ∀ numRetries, .reading numRetries ∉ s.threads

/-- Nobody is told of a message that comes into a queue with messages. -/
theorem Stranded.step {s s' : NotifyState} {a : NotifyEvent} (h : Stranded s)
    (hstep : NotifyStep s a s') :
    Stranded s' ∧ s'.processed = s.processed ∧ s.queue <+: s'.queue := by
  cases hstep with
  | @send text hroom =>
    have hnotify : ¬ (s.registered = true ∧ s.queue ++ [text] = [text]) := by
      rintro ⟨-, heq⟩
      exact h.queue (List.append_left_eq_self.mp heq)
    rw [show s.arrive text = _ from if_neg hnotify]
    exact ⟨⟨List.append_ne_nil_of_left_ne_nil h.queue _, h.unread⟩, rfl, List.prefix_append _ _⟩
  | @receive before after numRetries text rest hthread hqueue =>
    refine absurd ?_ (h.unread numRetries)
    simp only [hthread, List.mem_append, List.mem_cons, true_or, or_true]
  | @fail before after numRetries errno hthread hempty =>
    refine absurd ?_ (h.unread numRetries)
    simp only [hthread, List.mem_append, List.mem_cons, true_or, or_true]
  | @register before after ok hthread =>
    refine ⟨⟨h.queue, fun numRetries hread => h.unread numRetries ?_⟩, rfl, List.prefix_refl _⟩
    simp only [hthread, List.mem_append, List.mem_cons]
    exact (List.mem_append.mp hread).imp_right .inr

theorem Stranded.run {s s' : NotifyState} {as : List NotifyEvent} (h : Stranded s)
    (hrun : Run NotifyStep s as s') :
    Stranded s' ∧ s'.processed = s.processed ∧ s.queue <+: s'.queue := by
  induction hrun with
  | nil => exact ⟨h, rfl, List.prefix_refl _⟩
  | cons head _ ih =>
    obtain ⟨h₁, hproc₁, hqueue₁⟩ := h.step head
    obtain ⟨h', hproc', hqueue'⟩ := ih h₁
    exact ⟨h', hproc'.trans hproc₁, hqueue₁.trans hqueue'⟩

/-- **A message that comes while the thread is about to register stops the process from receiving
for ever**: neither it nor any later one is processed, whatever happens, and once the queue is full no
send completes. -/
theorem posixmq_window_fatal (as : List NotifyEvent) (s s₁ s' : NotifyState) (text : Bytes)
    (bs : List NotifyEvent) (hrun : Run NotifyStep .init as s) (hwindow : .registering ∈ s.threads)
    (hsend : NotifyStep s (.send text) s₁) (hlater : Run NotifyStep s₁ bs s') :
    s'.processed = s.processed ∧ text ∈ s'.queue ∧ s'.sent.length ≤ s.processed.length + mqMaxmsg := by
  have hone := OneReader.init.run hrun
  obtain ⟨before, after, hthread⟩ := List.append_of_mem hwindow
  obtain ⟨-, -, halone, hreg⟩ := hone.alone hthread
  have hone' := OneReader.init.run (hrun.append (.cons hsend hlater))
  cases hsend with
  | send hroom =>
    have hnotify : ¬ (s.registered = true ∧ s.queue ++ [text] = [text]) := by
      rintro ⟨hreg', -⟩
      rw [hreg] at hreg'
      cases hreg'
    rw [show s.arrive text = _ from if_neg hnotify] at hlater
    have hstranded : Stranded
        { s with queue := s.queue ++ [text], sent := s.sent ++ [text] } := by
      refine ⟨List.append_ne_nil_of_right_ne_nil _ (List.cons_ne_nil _ _), ?_⟩
      intro numRetries hread
      simp only [halone] at hread
      cases List.mem_singleton.mp hread
    obtain ⟨-, hproc, hqueue⟩ := hstranded.run hlater
    refine ⟨hproc, hqueue.subset (List.mem_append_right _ (List.mem_singleton.mpr rfl)), ?_⟩
    have hroom' := hone'.room
    have hproc' : s'.processed.length = s.processed.length := congrArg List.length hproc
    rw [hone'.fifo, List.length_append, hproc']
    omega

/-- The thread reads the empty queue until it has no retries left. -/
theorem retries_run (n : Nat) (sent : List Bytes) :
    Run NotifyStep ⟨[], false, [.reading n], sent, sent⟩ (List.replicate (n + 1) (.fail .eagain))
      ⟨[], false, [.registering], sent, sent⟩ := by
  have hfail (k : Int) : NotifyStep ⟨[], false, [.reading k], sent, sent⟩ (.fail .eagain)
      ⟨[], false, (RxThread.afterError k .eagain).toList, sent, sent⟩ := by
    have hstep := @NotifyStep.fail ⟨[], false, [.reading k], sent, sent⟩ [] [] k .eagain rfl
      (fun _ => rfl)
    simpa only [List.nil_append, List.append_nil] using hstep
  induction n with
  | zero => exact .cons (hfail 0) (.nil _)
  | succ n ih =>
    have hretry : RxThread.afterError ((n + 1 : Nat) : Int) .eagain = some (.reading n) := by
      have hpos : ((n + 1 : Nat) : Int) > 0 := by omega
      have hpred : ((n + 1 : Nat) : Int) - 1 = n := by omega
      rw [RxThread.afterError, if_pos (.inr hpos), hpred]
    have hstep := hfail ((n + 1 : Nat) : Int)
    rw [hretry] at hstep
    exact .cons hstep ih

/-- A second message comes after the thread has found the queue empty, and before it registers. -/
theorem posixmq_window_fatal_second :
    ∃ as s s₁ s', Run NotifyStep .init as s ∧ NotifyStep s (.send [2]) s₁ ∧
      Run NotifyStep s₁ [.register true] s' ∧ s'.registered = true ∧
      s'.processed = s.processed ∧ [2] ∈ s'.queue ∧
      s'.sent.length ≤ s.processed.length + mqMaxmsg := by
  have hrun := Run.cons (@NotifyStep.send .init [1] (by decide))
    (.cons (@NotifyStep.receive _ [] [] 100 _ _ rfl rfl) (retries_run 100 [[1]]))
  have hsend := @NotifyStep.send ⟨[], false, [.registering], [[1]], [[1]]⟩ [2] (by decide)
  have hlater := Run.cons (@NotifyStep.register
    ((NotifyState.mk [] false [.registering] [[1]] [[1]]).arrive [2]) [] [] true rfl) (.nil _)
  exact ⟨_, _, _, _, hrun, hsend, hlater, rfl,
    posixmq_window_fatal _ _ _ _ _ _ hrun (List.mem_singleton.mpr rfl) hsend hlater⟩

end ItcFramework
