import ItcFramework.Itc.PosixmqProcess
import ItcFramework.Lib.Iteration

/-!
# Which sends end

The retry loops of `sysvmq_send` and `posixmq_send` on kernels that turn down every text above a
limit, which the allocator does not know of.

* `msgsndNext`, `mqSendNext` — one pass of either loop, on the kernel's state and the queue.
* `sysvmqSend_ends_iff` — the call ends just when these passes do.
* `SysvmqSettles`, `PosixmqSettles` — the text is not too large, and no error other than
  `EINTR` and `EAGAIN` is answered for ever.
* `sends_report_iff` — exactly then the calls end and report what they have not sent: neither loop
  is left over an error that stays, and `itc_free` resets `rc` when the one of `sysvmq_send` is.
-/

set_option autoImplicit false

namespace ItcFramework

open ByteImage Iteration

variable {σ τ : Type}

/-! ## The loops pass by pass -/

/-- From one call of `msgsnd` to the next: the kernel's state and the queue that is called. -/
def msgsndNext (K : SysvKernel σ) (text : Bytes) (pid : Nat) (c : σ × Nat) : Option (σ × Nat) :=
  match K.msgsnd c.1 c.2 text with
  | (none, _) => none
  | (some .eintr, k) => some (k, c.2)
  | (some .other, k) => some (k, c.2)
  | (some _, k) => (queueOf K k pid).1.map fun id => ((queueOf K k pid).2, id)

/-- The same of `mq_send`, which stays with its queue. -/
def mqSendNext (P : PosixmqKernel τ) (text : Bytes) (c : τ × Nat) : Option (τ × Nat) :=
  match P.mqSend c.1 c.2 text with
  | (none, _) => none
  | (some _, k) => some (k, c.2)

theorem msgsndNext_toSysv (P : PosixmqKernel τ) (text : Bytes) (pid : Nat) :
    msgsndNext P.toSysv text pid = mqSendNext P text := by
  funext c
  unfold msgsndNext mqSendNext PosixmqKernel.toSysv
  simp only
  rcases P.mqSend c.1 c.2 text with ⟨_ | err, k⟩
  · rfl
  · rfl

section Sysvmq

variable {K : SysvKernel σ} {e : Endian} {text : Bytes} {toMbox : MboxId}

/-- **The loop still runs after `fuel` calls just when it makes another one.** -/
theorem msgsndLoop_none_iff {fuel : Nat} {s : SysvmqState σ} (h : s.inst.Configured)
    (hv : ValidProc toMbox) :
    msgsndLoop K fuel s (procOf toMbox) toMbox text = none ↔
      stateAt (msgsndNext K text (procOf toMbox)) fuel
        (s.kernel, (s.inst.sysvmqCl (procOf toMbox)).sysvmqId) ≠ none := by
  induction fuel generalizing s with
  | zero => exact iff_of_true rfl (Option.some_ne_none _)
  | succ fuel ih =>
    -- the queue is lost and looked for again
    have hlost : ∀ k,
        (let s₁ := addSysvmqCl K (removeSysvmqCl { s with kernel := k } toMbox)
            (procOf toMbox) toMbox
          if (s₁.inst.sysvmqCl (procOf toMbox)).mboxIdInItccoord = 0 then some (false, s₁)
          else msgsndLoop K fuel s₁ (procOf toMbox) toMbox text) = none ↔
        ((queueOf K k (procOf toMbox)).1.map fun id => ((queueOf K k (procOf toMbox)).2, id)).bind
          (stateAt (msgsndNext K text (procOf toMbox)) fuel) ≠ none := by
      intro k
      have hconf : ({ s with kernel := k } : SysvmqState σ).inst.Configured := h
      obtain ⟨hconf₁, hkernel, hcl⟩ := reconnect_spec (K := K) hconf hv
      cases hget : (queueOf K k (procOf toMbox)).1 with
      | none =>
        rw [hget] at hcl
        simp only [if_pos hcl]
        exact iff_of_false (Option.some_ne_none _) fun hne => hne rfl
      | some id =>
        rw [hget] at hcl
        simp only [if_neg hcl.1]
        rw [ih hconf₁, hkernel, hcl.2]
        rfl
    rw [stateAt]
    unfold msgsndLoop msgsndNext
    rcases K.msgsnd s.kernel (s.inst.sysvmqCl (procOf toMbox)).sysvmqId text with ⟨_ | err, k⟩
    · exact iff_of_false (Option.some_ne_none _) fun hne => hne rfl
    · cases err with
      | eintr => exact ih (s := { s with kernel := k }) h
      | other => exact ih (s := { s with kernel := k, rc := s.rc ||| ITC_SYSCALL_ERROR }) h
      | einval => exact hlost k
      | eidrm => exact hlost k

variable {inst : SysvmqInstance} {k k₁ : σ} {id : Nat}

/-- **A call with a queue ends just when its loop does.** -/
theorem sysvmqSend_ends_iff (h : inst.Configured) (hv : ValidProc toMbox)
    (hcontact : contact K inst k toMbox = (some id, k₁)) (m : UserMessage) :
    (∃ fuel r, sysvmqSend e K fuel ⟨inst, ITC_OK, k⟩ m.msg toMbox = .ok (some r)) ↔
      Stops (msgsndNext K (m.msg.image e) (procOf toMbox)) (k₁, id) := by
  obtain ⟨s', hget, hconf, hkernel, hcl⟩ := getSysvmqCl_valid (K := K)
    (s := ⟨inst, ITC_OK, k⟩) h hv
  rw [hcontact] at hkernel hcl
  have hcall : ∀ fuel, sysvmqSend e K fuel ⟨inst, ITC_OK, k⟩ m.msg toMbox =
      .ok ((msgsndLoop K fuel s' (procOf toMbox) toMbox (m.msg.image e)).map fun out =>
        ⟨{ out.2 with rc := ITC_OK }, out.1, true⟩) := by
    intro fuel
    unfold sysvmqSend
    rw [if_neg (by simp [h.init]), hget]
    simp only [if_neg hcl.1, txText_ok e m.wellFormed, bind, Except.bind]
    cases msgsndLoop K fuel s' (procOf toMbox) toMbox (m.msg.image e) with
    | none => rfl
    | some out =>
      simp only [itcFreeAllowed_user, if_true]
      rfl
  have hloop : ∀ fuel, msgsndLoop K fuel s' (procOf toMbox) toMbox (m.msg.image e) = none ↔
      stateAt (msgsndNext K (m.msg.image e) (procOf toMbox)) fuel (k₁, id) ≠ none := by
    intro fuel
    rw [msgsndLoop_none_iff hconf hv, hkernel, hcl.2]
  constructor
  · rintro ⟨fuel, r, hr⟩
    apply Exists.intro fuel
    by_contra hne
    rw [hcall, (hloop fuel).mpr hne] at hr
    cases hr
  · rintro ⟨fuel, hfuel⟩
    have hsome := mt (hloop fuel).mp (not_not_intro hfuel)
    obtain ⟨out, hout⟩ := Option.ne_none_iff_exists'.mp hsome
    apply Exists.intro fuel
    rw [hcall, hout]
    exact ⟨_, rfl⟩

end Sysvmq

/-! ## What the kernels answer -/

/-- `EINVAL` for every text above the limit. -/
def SysvKernel.Rejects (K : SysvKernel σ) (limit : Nat) : Prop :=
  ∀ k id text, limit < text.length → (K.msgsnd k id text).1 = some .einval

/-- `EMSGSIZE` for every text above the limit. -/
def PosixmqKernel.Rejects (P : PosixmqKernel τ) (limit : Nat) : Prop :=
  ∀ k msqd text, limit < text.length → (P.mqSend k msqd text).1 = some .other

/-- `msgsnd` fails with this `errno`. -/
def SysvKernel.Fails (K : SysvKernel σ) (text : Bytes) (err : MsgErrno) (c : σ × Nat) : Prop :=
  (K.msgsnd c.1 c.2 text).1 = some err

/-- `mq_send` fails with this `errno`. -/
def PosixmqKernel.Fails (P : PosixmqKernel τ) (text : Bytes) (err : MqErrno) (c : τ × Nat) : Prop :=
  (P.mqSend c.1 c.2 text).1 = some err

/-- A call that ends, and does not report success for what it has not sent. -/
def SendReports (call : Nat → Except MemFault (Option (SysvmqSendResult σ))) : Prop :=
  ∃ fuel r, call fuel = .ok (some r) ∧ (r.sent = false → r.state.rc ≠ ITC_OK)

/-- The text is within the limit of the kernel, which answers no other errno than `EINTR` for
ever, and each time that the queue is lost it is found again. -/
structure SysvmqSettles (K : SysvKernel σ) (limit : Nat) (text : Bytes) (pid : Nat)
    (c : σ × Nat) : Prop where
  fits : text.length ≤ limit
  other : FinitelyOften (msgsndNext K text pid) (K.Fails text .other) c
  lost : FinitelyOften (msgsndNext K text pid)
    (fun c => K.Fails text .einval c ∨ K.Fails text .eidrm c) c
  found : ¬ ReconnectFails K text pid c.1 c.2

/-- The text is within the limit of the kernel, which answers no other errno than `EINTR` and
`EAGAIN` for ever. -/
structure PosixmqSettles (P : PosixmqKernel τ) (limit : Nat) (text : Bytes) (c : τ × Nat) :
    Prop where
  fits : text.length ≤ limit
  other : FinitelyOften (mqSendNext P text) (P.Fails text .other) c

section Settles

variable {K : SysvKernel σ} {P : PosixmqKernel τ} {text : Bytes} {pid limit : Nat}

theorem msgsndNext_fails {c c' : σ × Nat} (h : msgsndNext K text pid c = some c') :
    (K.Fails text .eintr c ∨ K.Fails text .other c) ∨
      K.Fails text .einval c ∨ K.Fails text .eidrm c := by
  unfold msgsndNext at h
  unfold SysvKernel.Fails
  cases hsnd : K.msgsnd c.1 c.2 text with
  | mk answer k =>
    rw [hsnd] at h
    cases answer with
    | none => cases h
    | some err =>
      cases err with
      | eintr => exact .inl (.inl rfl)
      | other => exact .inl (.inr rfl)
      | einval => exact .inr (.inl rfl)
      | eidrm => exact .inr (.inr rfl)

theorem mqSendNext_fails {c c' : τ × Nat} (h : mqSendNext P text c = some c') :
    (P.Fails text .eintr c ∨ P.Fails text .eagain c) ∨ P.Fails text .other c := by
  unfold mqSendNext at h
  unfold PosixmqKernel.Fails
  cases hsnd : P.mqSend c.1 c.2 text with
  | mk answer k =>
    rw [hsnd] at h
    cases answer with
    | none => cases h
    | some err =>
      cases err with
      | eintr => exact .inl (.inl rfl)
      | eagain => exact .inl (.inr rfl)
      | other => exact .inr rfl

/-- **A text above the limit keeps the loop running** as long as the queue is found. -/
theorem msgsnd_tooLarge (hK : K.Rejects limit) (hlarge : limit < text.length) {c : σ × Nat}
    (hfound : ¬ ReconnectFails K text pid c.1 c.2) : ¬ Stops (msgsndNext K text pid) c := by
  apply not_stops_of_invariant (I := fun c => ¬ ReconnectFails K text pid c.1 c.2)
  · rintro ⟨k, id⟩ hc
    have hfails := hK k id text hlarge
    unfold msgsndNext
    rcases hsnd : K.msgsnd k id text with ⟨err, k₁⟩
    rw [hsnd] at hfails
    obtain rfl : err = some .einval := hfails
    rw [reconnectFails_lost hsnd (.inl rfl)] at hc
    cases hget : (queueOf K k₁ pid).1 with
    | none =>
      rw [hget] at hc
      exact absurd trivial hc
    | some id' =>
      rw [hget] at hc
      refine ⟨((queueOf K k₁ pid).2, id'), ?_, hc⟩
      simp only [hget, Option.map_some]
  · exact hfound

theorem mqSend_tooLarge (hP : P.Rejects limit) (hlarge : limit < text.length) (c : τ × Nat) :
    ¬ Stops (mqSendNext P text) c := by
  apply not_stops_of_invariant (I := fun _ => True)
  · intro c _
    have hfails := hP c.1 c.2 text hlarge
    unfold mqSendNext
    rcases hsnd : P.mqSend c.1 c.2 text with ⟨err, k₁⟩
    rw [hsnd] at hfails
    obtain rfl : err = some .other := hfails
    exact ⟨_, rfl, trivial⟩
  · trivial

/-- The queues of the other plugin are never lost. -/
theorem toSysv_not_reconnectFails (P : PosixmqKernel τ) (text : Bytes) (pid : Nat) (k : τ)
    (id : Nat) : ¬ ReconnectFails P.toSysv text pid k id := by
  have hanswer : ∀ {k id err k₁}, P.toSysv.msgsnd k id text = (some err, k₁) → err = .eintr := by
    intro k id err k₁ hsnd
    unfold PosixmqKernel.toSysv at hsnd
    simp only at hsnd
    split at hsnd
    · cases hsnd
    · cases hsnd
      rfl
  intro hfail
  induction hfail with
  | refused hsnd herr =>
    rw [hanswer hsnd] at herr
    rcases herr with herr | herr <;> cases herr
  | reconnected hsnd herr =>
    rw [hanswer hsnd] at herr
    rcases herr with herr | herr <;> cases herr
  | retry _ _ _ ih => exact ih

/-- A receiver that has a queue whenever it is looked for is always found again. -/
theorem not_reconnectFails_of_found (hfound : ∀ k, (queueOf K k pid).1 ≠ none) (k : σ) (id : Nat) :
    ¬ ReconnectFails K text pid k id := by
  intro hfail
  induction hfail with
  | refused _ _ hget => exact hfound _ hget
  | reconnected _ _ _ _ ih => exact ih
  | retry _ _ _ ih => exact ih

end Settles

/-! ## The claim -/

section Reports

variable {inst : SysvmqInstance} {toMbox : MboxId} {limit : Nat}

/-- What a call that ends has reported: `itc_free` has reset `rc`, whatever was sent. -/
theorem sysvmqSend_reports {K : SysvKernel σ} (e : Endian) (h : inst.Configured) {k k₁ : σ}
    {id : Nat} (hv : ValidProc toMbox) (hcontact : contact K inst k toMbox = (some id, k₁))
    (m : UserMessage) {fuel : Nat} {r : SysvmqSendResult σ}
    (hr : sysvmqSend e K fuel ⟨inst, ITC_OK, k⟩ m.msg toMbox = .ok (some r)) :
    r.state.rc = ITC_OK ∧
      (r.sent = false ↔ ReconnectFails K (m.msg.image e) (procOf toMbox) k₁ id) := by
  obtain ⟨-, hout⟩ := (sysvmqSend_returns h fuel k m toMbox).of_eq hr
  cases hout with
  | refused hno =>
    rcases hno with hno | hno
    · exact absurd hv hno
    · rw [hcontact] at hno
      cases hno
  | taken _ _ hrc _ hsent =>
    refine ⟨hrc, hsent.trans ?_⟩
    unfold GivesUp
    rw [hcontact]
    constructor
    · rintro ⟨-, id', hid', hfail⟩
      cases hid'
      exact hfail
    · exact fun hfail => ⟨hv, id, rfl, hfail⟩

/-- The call ends with its text sent. -/
theorem sysvmqSend_reports_iff {K : SysvKernel σ} (e : Endian) (h : inst.Configured) {k k₁ : σ}
    {id : Nat} (hv : ValidProc toMbox) (hcontact : contact K inst k toMbox = (some id, k₁))
    (m : UserMessage) :
    SendReports (fun fuel => sysvmqSend e K fuel ⟨inst, ITC_OK, k⟩ m.msg toMbox) ↔
      Stops (msgsndNext K (m.msg.image e) (procOf toMbox)) (k₁, id) ∧
        ¬ ReconnectFails K (m.msg.image e) (procOf toMbox) k₁ id := by
  constructor
  · rintro ⟨fuel, r, hr, hreport⟩
    obtain ⟨hrc, hsent⟩ := sysvmqSend_reports e h hv hcontact m hr
    refine ⟨(sysvmqSend_ends_iff h hv hcontact m).mp ⟨fuel, r, hr⟩, fun hfail => ?_⟩
    exact hreport (hsent.mpr hfail) hrc
  · rintro ⟨hstops, hfound⟩
    obtain ⟨fuel, r, hr⟩ := (sysvmqSend_ends_iff h hv hcontact m).mpr hstops
    obtain ⟨-, hsent⟩ := sysvmqSend_reports e h hv hcontact m hr
    exact ⟨fuel, r, hr, fun hnot => absurd (hsent.mp hnot) hfound⟩

/-- **Both sends end, and report what they have not sent, just when the text is within the
kernel's limit and no error but `EINTR` and `EAGAIN` stays**: for every message, every receiver
with a queue and every kernel on which `EINTR` and `EAGAIN` occur finitely often. -/
theorem sends_report_iff (e : Endian) (m : UserMessage) (hv : ValidProc toMbox)
    (h : inst.Configured) (limit : Nat) :
    (∀ (K : SysvKernel σ) (k k₁ : σ) (id : Nat), K.Rejects limit →
      contact K inst k toMbox = (some id, k₁) →
      FinitelyOften (msgsndNext K (m.msg.image e) (procOf toMbox))
        (K.Fails (m.msg.image e) .eintr) (k₁, id) →
      (SendReports (fun fuel => sysvmqSend e K fuel ⟨inst, ITC_OK, k⟩ m.msg toMbox) ↔
        SysvmqSettles K limit (m.msg.image e) (procOf toMbox) (k₁, id))) ∧
    ∀ (P : PosixmqKernel τ) (k k₁ : τ) (id : Nat), P.Rejects limit →
      contact P.toSysv inst k toMbox = (some id, k₁) →
      FinitelyOften (mqSendNext P (m.msg.image e))
        (fun c => P.Fails (m.msg.image e) .eintr c ∨ P.Fails (m.msg.image e) .eagain c) (k₁, id) →
      (SendReports (fun fuel => posixmqSend P e fuel ⟨inst, ITC_OK, k⟩ m.msg toMbox) ↔
        PosixmqSettles P limit (m.msg.image e) (k₁, id)) := by
  constructor
  · intro K k k₁ id hK hcontact hintr
    rw [sysvmqSend_reports_iff e h hv hcontact m]
    constructor
    · rintro ⟨hstops, hfound⟩
      refine ⟨?_, .of_stops hstops, .of_stops hstops, hfound⟩
      by_contra hlarge
      exact msgsnd_tooLarge hK (by omega) hfound hstops
    · rintro ⟨-, hother, hlost, hfound⟩
      refine ⟨?_, hfound⟩
      rw [stops_iff_finitelyOften fun _ _ => msgsndNext_fails]
      exact (hintr.or hother).or hlost
  · intro P k k₁ id hP hcontact hagain
    have hcall : (fun fuel => posixmqSend P e fuel ⟨inst, ITC_OK, k⟩ m.msg toMbox) =
        fun fuel => sysvmqSend e P.toSysv fuel ⟨inst, ITC_OK, k⟩ m.msg toMbox :=
      funext fun fuel => posixmqSend_eq P e fuel _ m toMbox
    rw [hcall, sysvmqSend_reports_iff e h hv hcontact m, msgsndNext_toSysv]
    constructor
    · rintro ⟨hstops, -⟩
      refine ⟨?_, .of_stops hstops⟩
      by_contra hlarge
      exact mqSend_tooLarge hP (by omega) _ hstops
    · rintro ⟨-, hother⟩
      refine ⟨?_, toSysv_not_reconnectFails P _ _ _ _⟩
      rw [stops_iff_finitelyOften fun _ _ => mqSendNext_fails]
      exact hagain.or hother

/-- A loop that does not end keeps the call running. -/
theorem sysvmqSend_running {K : SysvKernel σ} {e : Endian} (h : inst.Configured) {k k₁ : σ}
    {id : Nat} (hv : ValidProc toMbox) (hcontact : contact K inst k toMbox = (some id, k₁))
    {m : UserMessage} (hnot : ¬ Stops (msgsndNext K (m.msg.image e) (procOf toMbox)) (k₁, id))
    (fuel : Nat) : sysvmqSend e K fuel ⟨inst, ITC_OK, k⟩ m.msg toMbox = .ok none := by
  obtain ⟨o, hcall, -⟩ := sysvmqSend_returns h fuel k m toMbox
  cases o with
  | none => exact hcall
  | some r => exact absurd ((sysvmqSend_ends_iff h hv hcontact m).mp ⟨fuel, r, hcall⟩) hnot

end Reports

/-- A kernel with a queue of 8192 bytes for every process, whose next `k` calls of `msgsnd` are
interrupted. -/
def interruptedSysv : SysvKernel Nat where
  ftok k pid := (some pid, k)
  msgget k key := (key, k)
  msgsnd k _ text :=
    if 8192 < text.length then (some .einval, k)
    else match k with
      | 0 => (none, 0)
      | k + 1 => (some .eintr, k)

/-- The same for `mq_send`, where the queue is full instead. -/
def fullPosixmq : PosixmqKernel Nat where
  mqOpen k pid := (some pid, k)
  mqSend k _ text :=
    if 8192 < text.length then (some .other, k)
    else match k with
      | 0 => (none, 0)
      | k + 1 => (some .eagain, k)

theorem interruptedSysv_rejects : interruptedSysv.Rejects 8192 := by
  intro k id text hlarge
  show (if 8192 < text.length then _ else _ : Option MsgErrno × Nat).1 = _
  rw [if_pos hlarge]

theorem fullPosixmq_rejects : fullPosixmq.Rejects 8192 := by
  intro k id text hlarge
  show (if 8192 < text.length then _ else _ : Option MqErrno × Nat).1 = _
  rw [if_pos hlarge]

theorem interruptedSysv_found (pid k : Nat) : (queueOf interruptedSysv k pid).1 ≠ none :=
  Option.some_ne_none pid

/-- A message of 100 bytes, at the first attempt of which the one call is interrupted and the
other finds the queue full. -/
theorem sends_report_iff_retried :
    let m : UserMessage := .fresh .little 100 0x1000 0x00200001 (by decide) (by decide)
    SendReports (fun fuel => sysvmqSend .little interruptedSysv fuel ⟨.init 8192, ITC_OK, 1⟩ m.msg
        0x00200001) ∧
      SendReports (fun fuel => posixmqSend fullPosixmq .little fuel ⟨.init 8192, ITC_OK, 1⟩ m.msg
        0x00200001) := by
  intro m
  have hproc : procOf 0x00200001 = 2 := by decide
  have hv : ValidProc 0x00200001 := ⟨by decide, by decide⟩
  have hfits : (m.msg.image .little).length ≤ 8192 := by decide +kernel
  have hsysv : Stops (msgsndNext interruptedSysv (m.msg.image .little) (procOf 0x00200001)) (1, 2) :=
    ⟨2, by decide +kernel⟩
  have hposix : Stops (mqSendNext fullPosixmq (m.msg.image .little)) (1, 2) :=
    ⟨2, by decide +kernel⟩
  have hreports := sends_report_iff (σ := Nat) (τ := Nat) .little m hv (.ofInit 8192) 8192
  constructor
  · apply (hreports.1 interruptedSysv 1 1 2 interruptedSysv_rejects (by decide +kernel)
      (.of_stops hsysv)).mpr
    exact ⟨hfits, .of_stops hsysv, .of_stops hsysv,
      not_reconnectFails_of_found (interruptedSysv_found _) _ _⟩
  · apply (hreports.2 fullPosixmq 1 1 2 fullPosixmq_rejects (by decide +kernel)
      (.of_stops hposix)).mpr
    exact ⟨hfits, .of_stops hposix⟩

/-- **A message of 9000 bytes, which `itc_alloc` accepts, is sent for ever** by either plugin to
a queue that takes 8192 bytes. -/
theorem large_message_sent_forever :
    let m : UserMessage := .fresh .little 9000 0x1000 0x00200001 (by decide) (by decide)
    itcAllocZz .little .least true 9000 0x1000 = .ok (some (.fresh .little 9000 0x1000)) ∧
      (∀ fuel, sysvmqSend .little interruptedSysv fuel ⟨.init 8192, ITC_OK, 0⟩ m.msg 0x00200001 =
        .ok none) ∧
      (∀ fuel, posixmqSend fullPosixmq .little fuel ⟨.init 8192, ITC_OK, 0⟩ m.msg 0x00200001 =
        .ok none) ∧
      ¬ SendReports fun fuel => sysvmqSend .little interruptedSysv fuel ⟨.init 8192, ITC_OK, 0⟩
        m.msg 0x00200001 := by
  intro m
  have hv : ValidProc 0x00200001 := ⟨by decide, by decide⟩
  have hlarge : 8192 < (m.msg.image .little).length := by
    rw [ItcMessage.image_length, m.wellFormed.length_eq]
    show 8192 < 16 + ((UInt32.ofNat 9000).toNat + 1)
    decide
  have hsysv := sysvmqSend_running (e := .little) (m := m) (.ofInit 8192) hv
    (show contact interruptedSysv (.init 8192) 0 0x00200001 = (some 2, 0) by decide +kernel)
    (msgsnd_tooLarge interruptedSysv_rejects hlarge
      (not_reconnectFails_of_found (interruptedSysv_found _) _ _))
  have hposix := sysvmqSend_running (e := .little) (m := m) (.ofInit 8192) hv
    (show contact fullPosixmq.toSysv (.init 8192) 0 0x00200001 = (some 2, 0) by decide +kernel) (by
      rw [msgsndNext_toSysv]
      exact mqSend_tooLarge fullPosixmq_rejects hlarge _)
  refine ⟨itcAllocZz_ok .little .least 0x1000 (by decide) (by decide), hsysv, fun fuel => ?_, ?_⟩
  · rw [posixmqSend_eq]
    exact hposix fuel
  · rintro ⟨fuel, r, hr, -⟩
    cases (hsysv fuel).symm.trans hr

end ItcFramework
