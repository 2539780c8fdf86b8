import ItcFramework.Transport.SysvmqDelivery

/-!
# `sysvmq_send` on an arbitrary kernel

What the queues of other processes do while a message is on its way is up to the kernel: a queue
may vanish and come back between any two system calls.

* `contact` — the queue that a call starts with;
* `ReconnectFails` — the kernel's answers by which the retry loop ends without having sent;
* `sysvmqSend_returns` — a call that returns has refused the message, or has freed it; in the
  second case the kernel has its text unless a reconnection failed.
-/

set_option autoImplicit false

namespace ItcFramework

open ByteImage

variable {σ : Type}

/-- What `get_sysvmq_id` answers for the process `pid`. -/
def queueOf (K : SysvKernel σ) (k : σ) (pid : Nat) : Option Nat × σ :=
  K.msgget (K.ftok k pid).2 (K.ftok k pid).1

/-- The process index of a receiver that `find_cl` accepts. -/
def ValidProc (mboxId : MboxId) : Prop :=
  procOf mboxId ≠ 0 ∧ procOf mboxId < MAX_SUPPORTED_PROCESSES

/-- The queue of the receiver's process, from the contact list or else from the kernel. -/
def contact (K : SysvKernel σ) (inst : SysvmqInstance) (k : σ) (toMbox : MboxId) :
    Option Nat × σ :=
  let cl := inst.sysvmqCl (procOf toMbox)
  if cl.mboxIdInItccoord = 0 then queueOf K k (procOf toMbox) else (some cl.sysvmqId, k)

/-- In `msgsnd` the kernel says that the queue `id` is gone, at once or after other retries, and
then knows no queue of the process `pid` any more. -/
inductive ReconnectFails (K : SysvKernel σ) (text : Bytes) (pid : Nat) : σ → Nat → Prop where
  | refused {k k₁ : σ} {id : Nat} {err : MsgErrno} (hsnd : K.msgsnd k id text = (some err, k₁))
      (herr : err = .einval ∨ err = .eidrm) (hget : (queueOf K k₁ pid).1 = none) :
      ReconnectFails K text pid k id
  | reconnected {k k₁ : σ} {id id' : Nat} {err : MsgErrno}
      (hsnd : K.msgsnd k id text = (some err, k₁)) (herr : err = .einval ∨ err = .eidrm)
      (hget : (queueOf K k₁ pid).1 = some id')
      (rest : ReconnectFails K text pid (queueOf K k₁ pid).2 id') : ReconnectFails K text pid k id
  | retry {k k₁ : σ} {id : Nat} {err : MsgErrno} (hsnd : K.msgsnd k id text = (some err, k₁))
      (herr : err = .eintr ∨ err = .other) (rest : ReconnectFails K text pid k₁ id) :
      ReconnectFails K text pid k id

/-- The masks of an instance as `sysvmq_init` sets them. -/
structure SysvmqInstance.Configured (inst : SysvmqInstance) : Prop where
  init : inst.isInitialized = true
  mask : inst.itccoordMask = ITC_COORD_MASK
  shift : inst.itccoordShift = ITC_COORD_SHIFT

namespace SysvmqInstance.Configured

variable {inst : SysvmqInstance}

theorem procIndex (h : inst.Configured) (mboxId : MboxId) :
    inst.procIndex mboxId = procOf mboxId := by
  rw [SysvmqInstance.procIndex, h.mask, h.shift, procOf]

theorem setCl (h : inst.Configured) (pid : Nat) (cl : SysvmqContactlist) :
    (inst.setCl pid cl).Configured :=
  ⟨h.init, h.mask, h.shift⟩

theorem ofInit (maxMsgsize : Nat) : (SysvmqInstance.init maxMsgsize).Configured :=
  ⟨rfl, rfl, rfl⟩

end SysvmqInstance.Configured

variable {K : SysvKernel σ} {e : Endian}

theorem findCl_valid {s : SysvmqState σ} {toMbox : MboxId} (h : s.inst.Configured)
    (hv : ValidProc toMbox) : findCl s toMbox = (some (procOf toMbox), s) := by
  have hnot : ¬ (procOf toMbox = 0 ∨ procOf toMbox ≥ MAX_SUPPORTED_PROCESSES) := by
    rintro (h0 | hge)
    · exact hv.1 h0
    · exact absurd hv.2 (by omega)
  simp only [findCl, h.procIndex, if_neg hnot]

/-- **Connecting**: the contact is set to the queue that the kernel knows, or left as it is. -/
theorem addSysvmqCl_spec {s : SysvmqState σ} (h : s.inst.Configured) (cl : Nat)
    (toMbox : MboxId) :
    (addSysvmqCl K s cl toMbox).kernel = (queueOf K s.kernel (procOf toMbox)).2 ∧
      (addSysvmqCl K s cl toMbox).inst =
        match (queueOf K s.kernel (procOf toMbox)).1 with
        | some id => s.inst.setCl cl ⟨toMbox &&& ITC_COORD_MASK, id⟩
        | none => s.inst := by
  unfold addSysvmqCl getSysvmqId queueOf
  rw [h.procIndex toMbox]
  cases hkey : K.ftok s.kernel (procOf toMbox) with
  | mk key k =>
    cases hget : K.msgget k key with
    | mk id k₁ =>
      cases id with
      | none =>
        simp only [hget]
        exact ⟨trivial, trivial⟩
      | some id =>
        simp only [hget, h.mask]
        exact ⟨trivial, trivial⟩

/-- After a lost queue the contact is made anew. -/
theorem reconnect_spec {s : SysvmqState σ} {toMbox : MboxId} (h : s.inst.Configured)
    (hv : ValidProc toMbox) :
    let s' := addSysvmqCl K (removeSysvmqCl s toMbox) (procOf toMbox) toMbox
    s'.inst.Configured ∧ s'.kernel = (queueOf K s.kernel (procOf toMbox)).2 ∧
      match (queueOf K s.kernel (procOf toMbox)).1 with
      | some id => (s'.inst.sysvmqCl (procOf toMbox)).mboxIdInItccoord ≠ 0 ∧
          (s'.inst.sysvmqCl (procOf toMbox)).sysvmqId = id
      | none => (s'.inst.sysvmqCl (procOf toMbox)).mboxIdInItccoord = 0 := by
  intro s'
  have hremove : removeSysvmqCl s toMbox =
      { s with inst := s.inst.setCl (procOf toMbox) ⟨0, 0⟩ } := by
    simp only [removeSysvmqCl, findCl_valid h hv]
  have hconf := h.setCl (procOf toMbox) ⟨0, 0⟩
  obtain ⟨hkernel, hinst⟩ := addSysvmqCl_spec (K := K)
    (s := { s with inst := s.inst.setCl (procOf toMbox) ⟨0, 0⟩ }) hconf (procOf toMbox) toMbox
  rw [← hremove] at hkernel hinst
  have hs' : s' = addSysvmqCl K (removeSysvmqCl s toMbox) (procOf toMbox) toMbox := rfl
  rw [hs', hkernel, hinst, hremove]
  cases hget : (queueOf K s.kernel (procOf toMbox)).1 with
  | none => exact ⟨hconf, rfl, by simp [SysvmqInstance.setCl]⟩
  | some id =>
    refine ⟨hconf.setCl _ _, rfl, ?_⟩
    simp only [SysvmqInstance.setCl, if_true]
    exact ⟨masked_ne_zero hv.1, trivial⟩

section Answers

variable {text : Bytes} {pid : Nat} {k k₁ : σ} {id : Nat} {err : MsgErrno}

theorem not_reconnectFails (hsnd : K.msgsnd k id text = (none, k₁)) :
    ¬ ReconnectFails K text pid k id := by
  intro hfail
  cases hfail with
  | refused h | reconnected h | retry h =>
    rw [hsnd] at h
    cases h

theorem reconnectFails_lost (hsnd : K.msgsnd k id text = (some err, k₁))
    (herr : err = .einval ∨ err = .eidrm) :
    ReconnectFails K text pid k id ↔
      match (queueOf K k₁ pid).1 with
      | some id' => ReconnectFails K text pid (queueOf K k₁ pid).2 id'
      | none => True := by
  constructor
  · intro hfail
    cases hfail with
    | refused h _ hget =>
      rw [hsnd] at h
      cases h
      rw [hget]
      trivial
    | reconnected h _ hget rest =>
      rw [hsnd] at h
      cases h
      rw [hget]
      exact rest
    | retry h herr' =>
      rw [hsnd] at h
      cases h
      rcases herr with rfl | rfl <;> rcases herr' with h | h <;> cases h
  · intro hrest
    cases hget : (queueOf K k₁ pid).1 with
    | none => exact .refused hsnd herr hget
    | some id' =>
      rw [hget] at hrest
      exact .reconnected hsnd herr hget hrest

theorem reconnectFails_retry (hsnd : K.msgsnd k id text = (some err, k₁))
    (herr : err = .eintr ∨ err = .other) :
    ReconnectFails K text pid k id ↔ ReconnectFails K text pid k₁ id := by
  constructor
  · intro hfail
    cases hfail with
    | refused h herr' | reconnected h herr' =>
      rw [hsnd] at h
      cases h
      rcases herr with rfl | rfl <;> rcases herr' with h | h <;> cases h
    | retry h _ rest =>
      rw [hsnd] at h
      cases h
      exact rest
  · exact .retry hsnd herr

end Answers

/-- **The retry loop gives up exactly when a reconnection fails.** -/
theorem msgsndLoop_sent_iff {fuel : Nat} {s s' : SysvmqState σ} {toMbox : MboxId} {text : Bytes}
    {sent : Bool} (h : s.inst.Configured) (hv : ValidProc toMbox)
    (hloop : msgsndLoop K fuel s (procOf toMbox) toMbox text = some (sent, s')) :
    s'.inst.Configured ∧ (sent = false ↔
      ReconnectFails K text (procOf toMbox) s.kernel
        (s.inst.sysvmqCl (procOf toMbox)).sysvmqId) := by
  induction fuel generalizing s with
  | zero => cases hloop
  | succ fuel ih =>
    have hlost : ∀ k, ∀ err, (err = .einval ∨ err = .eidrm) →
        K.msgsnd s.kernel (s.inst.sysvmqCl (procOf toMbox)).sysvmqId text = (some err, k) →
        (let s₁ := addSysvmqCl K (removeSysvmqCl { s with kernel := k } toMbox)
            (procOf toMbox) toMbox
          if (s₁.inst.sysvmqCl (procOf toMbox)).mboxIdInItccoord = 0 then some (false, s₁)
          else msgsndLoop K fuel s₁ (procOf toMbox) toMbox text) = some (sent, s') →
        s'.inst.Configured ∧ (sent = false ↔
          ReconnectFails K text (procOf toMbox) s.kernel
            (s.inst.sysvmqCl (procOf toMbox)).sysvmqId) := by
      intro k err herr hsnd hrest
      obtain ⟨hconf, hkernel, hcl⟩ := reconnect_spec (K := K) (s := { s with kernel := k }) h hv
      rw [reconnectFails_lost hsnd herr]
      cases hget : (queueOf K k (procOf toMbox)).1 with
      | none =>
        rw [hget] at hcl
        rw [if_pos hcl] at hrest
        cases hrest
        exact ⟨hconf, iff_of_true rfl trivial⟩
      | some id =>
        rw [hget] at hcl
        rw [if_neg hcl.1] at hrest
        obtain ⟨hconf', hiff⟩ := ih hconf hrest
        rw [hkernel, hcl.2] at hiff
        exact ⟨hconf', hiff⟩
    unfold msgsndLoop at hloop
    cases hsnd : K.msgsnd s.kernel (s.inst.sysvmqCl (procOf toMbox)).sysvmqId text with
    | mk answer k =>
      rw [hsnd] at hloop
      cases answer with
      | none =>
        cases hloop
        exact ⟨h, iff_of_false (by decide) (not_reconnectFails hsnd)⟩
      | some err =>
        cases err with
        | eintr =>
          rw [reconnectFails_retry hsnd (.inl rfl)]
          exact ih (s := { s with kernel := k }) h hloop
        | other =>
          rw [reconnectFails_retry hsnd (.inr rfl)]
          exact ih (s := { s with kernel := k, rc := s.rc ||| ITC_SYSCALL_ERROR }) h hloop
        | einval => exact hlost k .einval (.inl rfl) hsnd hloop
        | eidrm => exact hlost k .eidrm (.inr rfl) hsnd hloop

/-- The transport gives up the message: it has a queue to start with, and then a reconnection
fails. -/
def GivesUp (K : SysvKernel σ) (inst : SysvmqInstance) (k : σ) (toMbox : MboxId)
    (text : Bytes) : Prop :=
  ValidProc toMbox ∧ ∃ id, (contact K inst k toMbox).1 = some id ∧
    ReconnectFails K text (procOf toMbox) (contact K inst k toMbox).2 id

/-- What `get_sysvmq_cl` leaves for a receiver that has a process index. -/
theorem getSysvmqCl_valid {s : SysvmqState σ} {toMbox : MboxId} (h : s.inst.Configured)
    (hv : ValidProc toMbox) :
    ∃ s', getSysvmqCl K s toMbox = (some (procOf toMbox), s') ∧ s'.inst.Configured ∧
      s'.kernel = (contact K s.inst s.kernel toMbox).2 ∧
      match (contact K s.inst s.kernel toMbox).1 with
      | some id => (s'.inst.sysvmqCl (procOf toMbox)).mboxIdInItccoord ≠ 0 ∧
          (s'.inst.sysvmqCl (procOf toMbox)).sysvmqId = id
      | none => (s'.inst.sysvmqCl (procOf toMbox)).mboxIdInItccoord = 0 := by
  simp only [getSysvmqCl, findCl_valid h hv, contact]
  by_cases hcl : (s.inst.sysvmqCl (procOf toMbox)).mboxIdInItccoord = 0
  · rw [if_pos hcl, if_pos hcl]
    obtain ⟨hkernel, hinst⟩ := addSysvmqCl_spec (K := K) h (procOf toMbox) toMbox
    refine ⟨_, rfl, ?_, hkernel, ?_⟩
    · rw [hinst]
      split
      · exact h.setCl _ _
      · exact h
    · rw [hinst]
      cases hget : (queueOf K s.kernel (procOf toMbox)).1 with
      | none => exact hcl
      | some id =>
        simp only [SysvmqInstance.setCl, if_true]
        exact ⟨masked_ne_zero hv.1, trivial⟩
  · rw [if_neg hcl, if_neg hcl]
    exact ⟨s, rfl, h, rfl, hcl, rfl⟩

/-- What a call of `sysvmq_send` on a user's message has done: refused it, or freed it with or
without having sent it. -/
inductive SysvmqOutcome (K : SysvKernel σ) (inst : SysvmqInstance) (k : σ) (toMbox : MboxId)
    (text : Bytes) : SysvmqSendResult σ → Prop where
  | refused {r : SysvmqSendResult σ} (hno : ¬ ValidProc toMbox ∨ (contact K inst k toMbox).1 = none)
      (hrc : r.state.rc ≠ ITC_OK) (hsent : r.sent = false) (hfreed : r.freed = false) :
      SysvmqOutcome K inst k toMbox text r
  | taken {r : SysvmqSendResult σ} (hv : ValidProc toMbox)
      (hcontact : (contact K inst k toMbox).1 ≠ none) (hrc : r.state.rc = ITC_OK)
      (hfreed : r.freed = true) (hsent : r.sent = false ↔ GivesUp K inst k toMbox text) :
      SysvmqOutcome K inst k toMbox text r

theorem sysvmqSend_returns {inst : SysvmqInstance} (h : inst.Configured) (fuel : Nat) (k : σ)
    (m : UserMessage) (toMbox : MboxId) :
    Returns (sysvmqSend e K fuel ⟨inst, ITC_OK, k⟩ m.msg toMbox) fun r =>
      r.state.inst.Configured ∧ SysvmqOutcome K inst k toMbox (m.msg.image e) r := by
  have hrefuse : ∀ rc : UInt32, rc ||| ITC_QUEUE_NULL ≠ ITC_OK := fun rc h0 =>
    absurd (UInt32.or_eq_zero_iff.mp h0).2 (by decide)
  unfold sysvmqSend
  rw [if_neg (by simp [h.init])]
  by_cases hv : ValidProc toMbox
  · obtain ⟨s', hget, hconf, hkernel, hcl⟩ := getSysvmqCl_valid (K := K)
      (s := ⟨inst, ITC_OK, k⟩) h hv
    rw [hget]
    cases hcontact : (contact K inst k toMbox).1 with
    | none =>
      rw [hcontact] at hcl
      simp only [if_pos hcl]
      exact .result ⟨hconf, .refused (.inr hcontact) (hrefuse _) rfl rfl⟩
    | some id =>
      rw [hcontact] at hcl
      simp only [if_neg hcl.1, txText_ok e m.wellFormed, bind, Except.bind]
      cases hloop : msgsndLoop K fuel s' (procOf toMbox) toMbox (m.msg.image e) with
      | none => exact .running
      | some out =>
        obtain ⟨sent, s₁⟩ := out
        simp only [itcFreeAllowed_user]
        obtain ⟨hconf₁, hiff⟩ := msgsndLoop_sent_iff hconf hv hloop
        rw [hkernel, hcl.2] at hiff
        refine .result ⟨hconf₁, .taken hv (by rw [hcontact]; exact Option.some_ne_none id) rfl rfl ?_⟩
        rw [hiff]
        constructor
        · intro hfail
          exact ⟨hv, id, hcontact, hfail⟩
        · rintro ⟨-, id', hid', hfail⟩
          rw [hcontact] at hid'
          cases hid'
          exact hfail
  · have hnot : procOf toMbox = 0 ∨ procOf toMbox ≥ MAX_SUPPORTED_PROCESSES := by
      by_contra hboth
      rw [not_or, ge_iff_le, not_le] at hboth
      exact hv hboth
    simp only [getSysvmqCl, findCl, h.procIndex, if_pos hnot]
    exact .result ⟨h, .refused (.inl hv) (hrefuse _) rfl rfl⟩

end ItcFramework
