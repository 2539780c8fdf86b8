import ItcFramework.Lib.Transition
import ItcFramework.Transport.Sysvmq

/-!
# Delivery through the System V queues

Any number of processes send to each other through `sysvmqSend`, and the rx thread of each
works on its own queue. The kernel accepts a text of at most `M = sysvmq_maxmsgsize` bytes and
`msgrcv` fails with `E2BIG`, leaving the text where it is, when the buffer is too small.

* `SysvmqNet.Inv` — what is pending in a queue and what has been forwarded, in terms of what
  was accepted; kept by every step (`SysvmqNet.Inv.step`).
* `delivers_iff` — the rx thread forwards all that was accepted for its process exactly when
  every message sent there has between `8` and `M - 25` bytes.

The receive buffer is given to `msgrcv` as `M - sizeof(long)` bytes and a text of
`sizeof(long) + ITC_HEADER_SIZE` bytes or less counts as malformed, although neither the limit
nor `rx_len` includes the `long`: that is where the two bounds come from.
-/

set_option autoImplicit false

namespace ItcFramework

open ByteImage Transition

/-! ## The system -/

/-- One queue for each process index that has one; `ftok` and `msgget` map index to key to
identifier without change. -/
abbrev KernelQueues := Nat → Option (List Bytes)

/-- A kernel with stable queues that accepts texts of at most `M` bytes. -/
def limitKernel (M : Nat) : SysvKernel KernelQueues where
  ftok q projId := (some projId, q)
  msgget q key := (key.bind fun k => if (q k).isSome then some k else none, q)
  msgsnd q id text :=
    match q id with
    | none => (some .einval, q)
    | some texts =>
        if text.length ≤ M then (none, fun i => if i = id then some (texts ++ [text]) else q i)
        else (some .einval, q)

/-- `msgrcv` without `MSG_NOERROR` on a nonempty queue. -/
def limitMsgrcv (msgsz : Nat) (t : Bytes) (ts : List Bytes) : MsgRcv × List Bytes :=
  if t.length ≤ msgsz then (.text t, ts) else (.failed .other, t :: ts)

structure SysvmqNet where
  queues : KernelQueues
  insts : Nat → SysvmqInstance
  rx : Nat → SysvmqRx
  /-- What the rx thread of a process has passed to `itc_send`. -/
  forwarded : Nat → List ItcMessage
  /-- By process of the receiver, the messages whose `sysvmq_send` returned `ITC_OK`. -/
  accepted : Nat → List UserMessage

/-- No messages yet; the processes in `procs` have started their rx threads. -/
def SysvmqNet.init (M : Nat) (procs : Nat → Bool) : SysvmqNet where
  queues := fun p => if procs p then some [] else none
  insts := fun _ => .init M
  rx := fun _ => .init M
  forwarded := fun _ => []
  accepted := fun _ => []

inductive SysvmqAction where
  /-- Process `src` sends to `m.msg.receiver`. -/
  | send (src : Nat) (m : UserMessage)
  /-- One pass of the rx loop of process `p`. -/
  | rx (p : Nat)

def SysvmqNet.accept (net : SysvmqNet) (p : Nat) (m : UserMessage) : SysvmqNet :=
  { net with accepted := fun i => if i = p then net.accepted i ++ [m] else net.accepted i }

/-- The steps of the system. A `sysvmq_send` that never returns is no step. -/
inductive SysvmqStep (e : Endian) (a : Allocator) (M : Nat) :
    SysvmqNet → SysvmqAction → SysvmqNet → Prop where
  | send {net : SysvmqNet} {src fuel : Nat} {m : UserMessage} {r : SysvmqSendResult KernelQueues}
      (hsend : sysvmqSend e (limitKernel M) fuel ⟨net.insts src, ITC_OK, net.queues⟩ m.msg
        m.msg.receiver = .ok (some r)) :
      SysvmqStep e a M net (.send src m)
        (let net' := { net with
            queues := r.state.kernel
            insts := fun i => if i = src then r.state.inst else net.insts i }
          if r.state.rc = ITC_OK then net'.accept (procOf m.msg.receiver) m else net')
  | rx {net : SysvmqNet} {p : Nat} {t : Bytes} {ts : List Bytes} {rx' : SysvmqRx}
      {fwd : Option ItcMessage} (hq : net.queues p = some (t :: ts))
      (hrx : sysvmqRxThread e a (net.rx p) (limitMsgrcv (M - 8) t ts).1 = .ok (rx', fwd)) :
      SysvmqStep e a M net (.rx p)
        { net with
          queues := fun i => if i = p then some (limitMsgrcv (M - 8) t ts).2 else net.queues i
          rx := fun i => if i = p then rx' else net.rx i
          forwarded := fun i =>
            if i = p then net.forwarded i ++ fwd.toList else net.forwarded i }

/-- Left to run, the rx thread of `p` passes on everything accepted for `p`, in order. -/
def Delivers (e : Endian) (a : Allocator) (M : Nat) (net : SysvmqNet) (p : Nat) : Prop :=
  ∃ n net', Run (SysvmqStep e a M) net (List.replicate n (.rx p)) net' ∧
    net'.forwarded p = (net.accepted p).map UserMessage.msg

/-! ## One transmission -/

variable {e : Endian} {a : Allocator} {M : Nat}

theorem txText_ok (e : Endian) {m : ItcMessage} (h : m.WellFormed) :
    txText e m = .ok (m.image e) := by
  have hlen := h.length_eq
  refine slice_of_eq (a := []) (c := []) (by simp) rfl ?_
  rw [ItcMessage.image_length, hlen, ITC_HEADER_SIZE]
  omega

theorem image_length_of_wellFormed (e : Endian) {m : ItcMessage} (h : m.WellFormed) :
    (m.image e).length = m.size.toNat + ITC_HEADER_SIZE + 1 := by
  rw [ItcMessage.image_length, h.length_eq]
  omega

/-- **A text in the receive buffer is forwarded as the message it was made of**, whatever the
buffer held before. -/
theorem forwardSysvmqMsg_image {m : UserMessage} (stale : Bytes)
    (hfit : m.msg.size.toNat + ITC_HEADER_SIZE + 1 ≤ a.maxMallocsize) :
    forwardSysvmqMsg e a (m.msg.image e ++ stale) = .ok (some m.msg) := by
  obtain ⟨m, hm, hflags⟩ := m
  have hread : ItcMessage.ofImage e (m.image e ++ stale) =
      .ok { m with body := m.body ++ stale } := by
    rw [ItcMessage.image, List.append_assoc]
    exact ItcMessage.ofImage_header_append e m _
  have hend : ({ m with body := m.body ++ stale } : ItcMessage).endpoint = .ok ENDPOINT :=
    load8_of_eq (a := m.userBytes) (c := stale)
      (by simp only [hm.body_eq, List.append_assoc, List.singleton_append])
      hm.userBytes_length.symm
  have halloc := itcAllocZz_ok e a 0 hm.size_ge hfit
  have hfreshwf := ItcMessage.fresh_wellFormed e 0 hm.size_ge m.size.toNat_lt
  have hsize : (ItcMessage.fresh e m.size.toNat 0).size.toNat = m.size.toNat := by
    simp [ItcMessage.fresh]
  have hcopy : memcpy ((ItcMessage.fresh e m.size.toNat 0).image e) (m.image e ++ stale)
      (m.size.toNat + ITC_HEADER_SIZE + 1) = .ok (m.image e) := by
    have hdst := image_length_of_wellFormed e hfreshwf
    rw [hsize] at hdst
    rw [memcpy_of_eq rfl (image_length_of_wellFormed e hm).symm (Nat.le_of_eq hdst.symm),
      List.drop_of_length_le (Nat.le_of_eq hdst), List.append_nil]
  simp only [forwardSysvmqMsg, hread, hend, bind, Except.bind, ne_eq, not_true_eq_false, if_false,
    halloc, hcopy, ItcMessage.ofImage_image]
  have hfresh : (ItcMessage.fresh e m.size.toNat 0).flags = m.flags := hflags.symm
  rw [hfresh]
  rfl

/-! ## Sending -/

/-- A contact that is set names the queue of its process, and that queue exists. -/
structure ContactOk (q : KernelQueues) (inst : SysvmqInstance) : Prop where
  mask : inst.itccoordMask = ITC_COORD_MASK
  shift : inst.itccoordShift = ITC_COORD_SHIFT
  init : inst.isInitialized = true
  cl : ∀ pid, (inst.sysvmqCl pid).mboxIdInItccoord ≠ 0 →
    (inst.sysvmqCl pid).sysvmqId = pid ∧ (q pid).isSome

theorem ContactOk.mono {q q' : KernelQueues} {inst : SysvmqInstance} (h : ContactOk q inst)
    (hq : ∀ pid, (q pid).isSome → (q' pid).isSome) : ContactOk q' inst :=
  ⟨h.mask, h.shift, h.init, fun pid hne => ⟨(h.cl pid hne).1, hq pid (h.cl pid hne).2⟩⟩

theorem ContactOk.procIndex {q : KernelQueues} {inst : SysvmqInstance} (h : ContactOk q inst)
    (mboxId : MboxId) : inst.procIndex mboxId = procOf mboxId := by
  rw [SysvmqInstance.procIndex, h.mask, h.shift, procOf]

theorem ContactOk.setCl {q : KernelQueues} {inst : SysvmqInstance} (h : ContactOk q inst)
    {pid : Nat} {cl : SysvmqContactlist}
    (hcl : cl.mboxIdInItccoord ≠ 0 → cl.sysvmqId = pid ∧ (q pid).isSome) :
    ContactOk q (inst.setCl pid cl) := by
  refine ⟨h.mask, h.shift, h.init, fun i hne => ?_⟩
  simp only [SysvmqInstance.setCl] at hne ⊢
  split at hne
  · rename_i heq
    rw [if_pos heq, heq]
    exact hcl hne
  · rename_i hi
    rw [if_neg hi]
    exact h.cl i hne

theorem masked_ne_zero {mboxId : MboxId} (h : procOf mboxId ≠ 0) :
    mboxId &&& ITC_COORD_MASK ≠ 0 := by
  intro h0
  rw [procOf, h0] at h
  exact h (by decide)

/-- `add_sysvmq_cl` on a kernel with stable queues. -/
theorem addSysvmqCl_limit {s : SysvmqState KernelQueues} {toMbox : MboxId}
    (h : ContactOk s.kernel s.inst) (hp : procOf toMbox ≠ 0) :
    let s' := addSysvmqCl (limitKernel M) s (procOf toMbox) toMbox
    ContactOk s.kernel s'.inst ∧ s'.kernel = s.kernel ∧
      ((s.kernel (procOf toMbox)).isSome →
        (s'.inst.sysvmqCl (procOf toMbox)).mboxIdInItccoord ≠ 0 ∧ s'.rc = s.rc) := by
  have hid : getSysvmqId (limitKernel M) s toMbox =
      if (s.kernel (procOf toMbox)).isSome then (some (procOf toMbox), s)
      else (none, { s with rc := s.rc ||| ITC_SYSCALL_ERROR }) := by
    cases hq : s.kernel (procOf toMbox) <;> simp [getSysvmqId, limitKernel, h.procIndex, hq]
  intro s'
  unfold s' addSysvmqCl
  rw [hid]
  by_cases hq : (s.kernel (procOf toMbox)).isSome
  · rw [if_pos hq]
    refine ⟨h.setCl fun _ => ⟨rfl, hq⟩, rfl, fun _ => ⟨?_, rfl⟩⟩
    simp only [SysvmqInstance.setCl, if_pos, h.mask]
    exact masked_ne_zero hp
  · rw [if_neg hq]
    exact ⟨h, rfl, fun hq' => absurd hq' hq⟩

/-- A retry loop that returns has queued a text that was not too long. -/
theorem msgsndLoop_limit {fuel : Nat} {s : SysvmqState KernelQueues} {toMbox : MboxId}
    {text : Bytes} {sent : Bool} {s' : SysvmqState KernelQueues} (h : ContactOk s.kernel s.inst)
    (hp : procOf toMbox ≠ 0) (hlt : procOf toMbox < MAX_SUPPORTED_PROCESSES)
    (hcl : (s.inst.sysvmqCl (procOf toMbox)).mboxIdInItccoord ≠ 0)
    (hloop : msgsndLoop (limitKernel M) fuel s (procOf toMbox) toMbox text = some (sent, s')) :
    sent = true ∧ text.length ≤ M ∧ ContactOk s.kernel s'.inst ∧ s'.rc = s.rc ∧
      ∃ ts, s.kernel (procOf toMbox) = some ts ∧
        s'.kernel = fun i => if i = procOf toMbox then some (ts ++ [text]) else s.kernel i := by
  -- a text that is too long changes nothing but the contact, which is set again at once
  induction fuel generalizing s with
  | zero => exact absurd hloop (by simp [msgsndLoop])
  | succ fuel ih =>
    obtain ⟨hid, hsome⟩ := h.cl _ hcl
    obtain ⟨ts, hts⟩ := Option.isSome_iff_exists.mp hsome
    simp only [msgsndLoop, hid] at hloop
    by_cases hlen : text.length ≤ M
    · have hsnd : (limitKernel M).msgsnd s.kernel (procOf toMbox) text =
          (none, fun i => if i = procOf toMbox then some (ts ++ [text]) else s.kernel i) := by
        simp [limitKernel, hts, hlen]
      rw [hsnd] at hloop
      cases hloop
      exact ⟨rfl, hlen, h, rfl, ts, hts, rfl⟩
    · have hsnd : (limitKernel M).msgsnd s.kernel (procOf toMbox) text =
          (some .einval, s.kernel) := by
        simp [limitKernel, hts, hlen]
      have hfind : findCl { s with kernel := s.kernel } toMbox =
          (some (procOf toMbox), { s with kernel := s.kernel }) := by
        rw [findCl, h.procIndex, if_neg (by omega)]
      rw [hsnd] at hloop
      simp only [removeSysvmqCl, hfind] at hloop
      have hrm : ContactOk s.kernel (s.inst.setCl (procOf toMbox) ⟨0, 0⟩) :=
        h.setCl fun h0 => absurd rfl h0
      obtain ⟨hok, hkernel, hset⟩ := addSysvmqCl_limit (M := M)
        (s := { s with inst := s.inst.setCl (procOf toMbox) ⟨0, 0⟩ }) hrm hp
      obtain ⟨hne, hrc⟩ := hset hsome
      rw [if_neg hne] at hloop
      have := ih (by rw [hkernel]; exact hok) hne hloop
      simp only [hkernel, hrc] at this
      exact this

/-- A text that is not too long is queued at the first call. -/
theorem msgsndLoop_limit_ok (fuel : Nat) {s : SysvmqState KernelQueues} {toMbox : MboxId}
    {text : Bytes} (h : ContactOk s.kernel s.inst)
    (hcl : (s.inst.sysvmqCl (procOf toMbox)).mboxIdInItccoord ≠ 0) (hlen : text.length ≤ M) :
    (msgsndLoop (limitKernel M) (fuel + 1) s (procOf toMbox) toMbox text).isSome := by
  obtain ⟨hid, hsome⟩ := h.cl _ hcl
  obtain ⟨ts, hts⟩ := Option.isSome_iff_exists.mp hsome
  simp [msgsndLoop, hid, limitKernel, hts, hlen]

theorem getSysvmqCl_invalid {s : SysvmqState KernelQueues} {toMbox : MboxId}
    (h : ContactOk s.kernel s.inst)
    (hpid : procOf toMbox = 0 ∨ procOf toMbox ≥ MAX_SUPPORTED_PROCESSES) :
    getSysvmqCl (limitKernel M) s toMbox = (none, { s with rc := s.rc ||| ITC_INVALID_ARGUMENTS }) := by
  simp only [getSysvmqCl, findCl, h.procIndex, if_pos hpid]

/-- The contact as `get_sysvmq_cl` leaves it: set if the queue exists. -/
theorem getSysvmqCl_limit {s : SysvmqState KernelQueues} {toMbox : MboxId}
    (h : ContactOk s.kernel s.inst) (hp : procOf toMbox ≠ 0)
    (hlt : procOf toMbox < MAX_SUPPORTED_PROCESSES) :
    ∃ s₁, getSysvmqCl (limitKernel M) s toMbox = (some (procOf toMbox), s₁) ∧
      ContactOk s.kernel s₁.inst ∧ s₁.kernel = s.kernel ∧
      ((s.kernel (procOf toMbox)).isSome →
        (s₁.inst.sysvmqCl (procOf toMbox)).mboxIdInItccoord ≠ 0 ∧ s₁.rc = s.rc) := by
  simp only [getSysvmqCl, findCl, h.procIndex,
    if_neg (show ¬ (procOf toMbox = 0 ∨ procOf toMbox ≥ MAX_SUPPORTED_PROCESSES) by omega)]
  by_cases h0 : (s.inst.sysvmqCl (procOf toMbox)).mboxIdInItccoord = 0
  · obtain ⟨hok, hkernel, hset⟩ := addSysvmqCl_limit (M := M) h hp
    exact ⟨_, if_pos h0, hok, hkernel, hset⟩
  · exact ⟨_, if_neg h0, h, rfl, fun _ => ⟨h0, rfl⟩⟩

/-- A message that the kernel accepts is sent, and the call returns. -/
theorem sysvmqSend_limit_ok {inst : SysvmqInstance} {q : KernelQueues} {m : UserMessage}
    (h : ContactOk q inst) (hp : procOf m.msg.receiver ≠ 0)
    (hlt : procOf m.msg.receiver < MAX_SUPPORTED_PROCESSES)
    (hq : (q (procOf m.msg.receiver)).isSome) (hlen : (m.msg.image e).length ≤ M) :
    ∃ r, sysvmqSend e (limitKernel M) 1 ⟨inst, ITC_OK, q⟩ m.msg m.msg.receiver =
      .ok (some r) := by
  obtain ⟨s₁, hget, hok, hkernel, hset⟩ := getSysvmqCl_limit (M := M)
    (s := ⟨inst, ITC_OK, q⟩) h hp hlt
  obtain ⟨hne, -⟩ := hset hq
  obtain ⟨⟨sent, s₂⟩, hloop⟩ := Option.isSome_iff_exists.mp
    (msgsndLoop_limit_ok (M := M) 0 (s := s₁) (by rw [hkernel]; exact hok) hne hlen)
  rw [sysvmqSend, if_neg (by simp [h.init]), hget]
  simp only [if_neg hne, txText_ok e m.wellFormed, hloop, itcFreeAllowed_user, bind, Except.bind]
  exact ⟨_, rfl⟩

/-- **`sysvmq_send` on stable queues.** A call that returns either refuses because the
receiver's process has no queue, or has queued the image of the message. -/
theorem sysvmqSend_limit {fuel : Nat} {inst : SysvmqInstance} {q : KernelQueues}
    {m : UserMessage} {r : SysvmqSendResult KernelQueues} (h : ContactOk q inst)
    (hsend : sysvmqSend e (limitKernel M) fuel ⟨inst, ITC_OK, q⟩ m.msg m.msg.receiver =
      .ok (some r)) :
    ContactOk r.state.kernel r.state.inst ∧
      let p := procOf m.msg.receiver
      if r.state.rc = ITC_OK then
        (m.msg.image e).length ≤ M ∧ ∃ ts, q p = some ts ∧
          r.state.kernel = fun i => if i = p then some (ts ++ [m.msg.image e]) else q i
      else r.state.kernel = q ∧ (p = 0 ∨ p ≥ MAX_SUPPORTED_PROCESSES ∨ q p = none) := by
  have hrefuse : ∀ rc : UInt32, rc ||| ITC_QUEUE_NULL ≠ ITC_OK := fun rc h0 =>
    absurd (UInt32.or_eq_zero_iff.mp h0).2 (by decide)
  have htext := txText_ok e m.wellFormed
  rw [sysvmqSend, if_neg (by simp [h.init])] at hsend
  by_cases hpid : procOf m.msg.receiver = 0 ∨ procOf m.msg.receiver ≥ MAX_SUPPORTED_PROCESSES
  · rw [getSysvmqCl_invalid h hpid] at hsend
    cases hsend
    refine ⟨h, ?_⟩
    dsimp only
    rw [if_neg (hrefuse _)]
    exact ⟨rfl, hpid.imp_right .inl⟩
  · obtain ⟨s₁, hget, hok, hkernel, hset⟩ := getSysvmqCl_limit (M := M)
      (s := ⟨inst, ITC_OK, q⟩) h (show procOf m.msg.receiver ≠ 0 by omega) (by omega)
    rw [hget] at hsend
    simp only at hsend hset hkernel hok
    generalize hp : procOf m.msg.receiver = p at hsend hset hpid ⊢
    split at hsend
    · rename_i h0
      cases hsend
      refine ⟨hkernel ▸ hok, ?_⟩
      rw [if_neg (hrefuse _)]
      refine ⟨hkernel, .inr (.inr ?_)⟩
      cases hq : q p with
      | none => rfl
      | some ts => exact absurd h0 (hset (by rw [hq]; rfl)).1
    · rename_i hne
      simp only [htext, itcFreeAllowed_user, bind, Except.bind] at hsend
      split at hsend
      · cases hsend
      · rename_i sent s₂ hloop
        cases hsend
        subst hp
        have hspec := msgsndLoop_limit (s := s₁) (by rw [hkernel]; exact hok) (by omega) (by omega)
          hne hloop
        rw [hkernel] at hspec
        obtain ⟨-, hlen, hok₂, -, ts, hts, hk⟩ := hspec
        refine ⟨hok₂.mono fun pid hs => ?_, ?_⟩
        · simp only [if_true, hk]
          split
          · rfl
          · exact hs
        · exact ⟨hlen, ts, hts, hk⟩

/-! ## Receiving -/

/-- The text of `m` fits the buffer length given to `msgrcv`. -/
def FitsRxBuffer (M : Nat) (m : UserMessage) : Prop :=
  m.msg.size.toNat + ITC_HEADER_SIZE + 1 + 8 ≤ M

/-- The text of `m` passes the minimum-length check. -/
def PassesMinLength (m : UserMessage) : Prop := 8 ≤ m.msg.size.toNat

instance (M : Nat) (m : UserMessage) : Decidable (FitsRxBuffer M m) := Nat.decLe _ _
instance (m : UserMessage) : Decidable (PassesMinLength m) := Nat.decLe _ _

/-- **One pass of the receive loop** over a text that fits: forwarded, unless it is short. -/
theorem sysvmqRxThread_text (hM : M ≤ a.maxMallocsize) {rx : SysvmqRx} {m : UserMessage}
    (hrx : rx.mtext.length = M - 8) (hfit : FitsRxBuffer M m) :
    ∃ rx', sysvmqRxThread e a rx (.text (m.msg.image e)) =
        .ok (rx', if PassesMinLength m then some m.msg else none) ∧
      rx'.mtext.length = M - 8 := by
  have hlen := image_length_of_wellFormed e m.wellFormed
  simp only [FitsRxBuffer] at hfit
  have hbuf : memcpy rx.mtext (m.msg.image e) (m.msg.image e).length =
      .ok (m.msg.image e ++ rx.mtext.drop (m.msg.image e).length) :=
    memcpy_of_eq (c := []) (by simp) rfl (by omega)
  have hbuflen : (m.msg.image e ++ rx.mtext.drop (m.msg.image e).length).length = M - 8 := by
    rw [List.length_append, List.length_drop]
    omega
  by_cases hmin : PassesMinLength m
  · refine ⟨⟨_, false⟩, ?_, hbuflen⟩
    have hfwd := forwardSysvmqMsg_image (e := e) (a := a) (m := m)
      (rx.mtext.drop (m.msg.image e).length) (by omega)
    rw [if_pos hmin]
    simp only [PassesMinLength] at hmin
    simp only [sysvmqRxThread, hbuf, bind, Except.bind,
      if_neg (show ¬ (m.msg.image e).length ≤ 8 + ITC_HEADER_SIZE by omega), hfwd]
    rfl
  · refine ⟨{ rx with mtext := _ }, ?_, hbuflen⟩
    rw [if_neg hmin]
    simp only [PassesMinLength] at hmin
    simp only [sysvmqRxThread, hbuf, bind, Except.bind,
      if_pos (show (m.msg.image e).length ≤ 8 + ITC_HEADER_SIZE by omega)]
    rfl

/-! ## The invariant -/

/-- What has been accepted for `p` has been taken off the queue or is pending there; of what
was taken, the messages that pass the length check have been forwarded. -/
structure SysvmqNet.QueueInv (e : Endian) (M : Nat) (net : SysvmqNet) (p : Nat)
    (taken pending : List UserMessage) : Prop where
  accepted : net.accepted p = taken ++ pending
  queue : net.queues p = some (pending.map fun m => m.msg.image e)
  forwarded : net.forwarded p = (taken.filter fun m => PassesMinLength m).map UserMessage.msg
  taken : ∀ m ∈ taken, FitsRxBuffer M m
  rxLen : (net.rx p).mtext.length = M - 8

structure SysvmqNet.Inv (e : Endian) (M : Nat) (net : SysvmqNet) (p : Nat) : Prop where
  contacts : ∀ src, ContactOk net.queues (net.insts src)
  queue : ∃ taken pending, net.QueueInv e M p taken pending

theorem SysvmqNet.Inv.init (e : Endian) (M : Nat) (procs : Nat → Bool) {p : Nat}
    (hp : procs p = true) : (SysvmqNet.init M procs).Inv e M p where
  contacts := fun _ => ⟨rfl, rfl, rfl, fun _ hne => absurd rfl hne⟩
  queue := ⟨[], [], rfl, by simp [SysvmqNet.init, hp], rfl, by simp,
    by simp [SysvmqNet.init, SysvmqRx.init]⟩

/-- **A send to `p` is queued and accepted**; any other send leaves `p` alone. -/
theorem SysvmqNet.Inv.send {net net' : SysvmqNet} {p src : Nat} {m : UserMessage}
    (h : net.Inv e M p) (hp : 0 < p) (hlt : p < MAX_SUPPORTED_PROCESSES)
    (hstep : SysvmqStep e a M net (.send src m) net') :
    net'.Inv e M p ∧
      net'.accepted p = net.accepted p ++ (if procOf m.msg.receiver = p then [m] else []) := by
  cases hstep with
  | send hsend =>
    rename_i r
    obtain ⟨taken, pending, hq⟩ := h.queue
    obtain ⟨hok, hspec⟩ := sysvmqSend_limit (h.contacts src) hsend
    have hgrow : ∀ pid, (net.queues pid).isSome → (r.state.kernel pid).isSome := by
      intro pid hs
      simp only at hspec
      split at hspec
      · obtain ⟨-, ts, -, hk⟩ := hspec
        rw [hk]
        simp only
        split
        · rfl
        · exact hs
      · rwa [hspec.1]
    have hcontacts : ∀ s, ContactOk r.state.kernel
        (if s = src then r.state.inst else net.insts s) := by
      intro s
      split
      · exact hok
      · exact (h.contacts s).mono hgrow
    simp only at hspec ⊢
    split
    · rename_i hrc
      rw [if_pos hrc] at hspec
      obtain ⟨-, ts, hts, hk⟩ := hspec
      by_cases hpm : procOf m.msg.receiver = p
      · subst hpm
        rw [hq.queue, Option.some.injEq] at hts
        simp only [SysvmqNet.accept, if_true]
        refine ⟨⟨hcontacts, taken, pending ++ [m], ?_, ?_, hq.forwarded, hq.taken, hq.rxLen⟩, trivial⟩
        · simp only [if_true, hq.accepted, List.append_assoc]
        · simp only [hk, if_true, List.map_append, List.map_cons, List.map_nil, ← hts]
      · have hne : ¬ p = procOf m.msg.receiver := fun he => hpm he.symm
        simp only [SysvmqNet.accept, if_neg hpm, if_neg hne, List.append_nil]
        refine ⟨⟨hcontacts, taken, pending, ?_, ?_, hq.forwarded, hq.taken, hq.rxLen⟩, trivial⟩
        · simp only [if_neg hne]
          exact hq.accepted
        · simp only [hk, if_neg hne]
          exact hq.queue
    · rename_i hrc
      rw [if_neg hrc] at hspec
      obtain ⟨hk, hbad⟩ := hspec
      have hpm : ¬ procOf m.msg.receiver = p := by
        intro he
        rw [he] at hbad
        rcases hbad with h0 | hge | hnone
        · omega
        · omega
        · rw [hq.queue] at hnone
          cases hnone
      rw [if_neg hpm, List.append_nil]
      exact ⟨⟨hcontacts, taken, pending, hq.accepted, by rw [hk]; exact hq.queue, hq.forwarded,
        hq.taken, hq.rxLen⟩, rfl⟩

/-- One pass over a queue whose first text fits takes it off; a text that does not fit
stays. -/
theorem SysvmqNet.QueueInv.pass (hM : M ≤ a.maxMallocsize) {net net' : SysvmqNet} {p : Nat}
    {taken pending : List UserMessage} (h : net.QueueInv e M p taken pending)
    (hstep : SysvmqStep e a M net (.rx p) net') :
    ∃ m pending', pending = m :: pending' ∧
      if FitsRxBuffer M m then net'.QueueInv e M p (taken ++ [m]) pending'
      else net'.QueueInv e M p taken pending := by
  cases hstep with
  | rx hq hrx =>
    rename_i t ts rx' fwd
    rw [h.queue, Option.some.injEq] at hq
    cases pending with
    | nil => cases hq
    | cons m pending' =>
      simp only [List.map_cons, List.cons.injEq] at hq
      obtain ⟨rfl, rfl⟩ := hq
      refine ⟨m, pending', rfl, ?_⟩
      have hlen := image_length_of_wellFormed e m.wellFormed
      by_cases hfit : FitsRxBuffer M m
      · rw [if_pos hfit]
        obtain ⟨rx₁, hpass, hrxlen⟩ := sysvmqRxThread_text (e := e) hM h.rxLen hfit
        simp only [FitsRxBuffer] at hfit
        have hrcv : limitMsgrcv (M - 8) (m.msg.image e) (pending'.map fun m => m.msg.image e) =
            (.text (m.msg.image e), pending'.map fun m => m.msg.image e) :=
          if_pos (by omega)
        rw [hrcv] at hrx ⊢
        rw [hpass] at hrx
        cases hrx
        refine ⟨by simp [h.accepted], by simp, ?_, ?_, by simpa using hrxlen⟩
        · simp only [if_true, h.forwarded, List.filter_append, List.map_append]
          by_cases hmin : PassesMinLength m <;> simp [hmin]
        · intro m' hm'
          rcases List.mem_append.mp hm' with hm' | hm'
          · exact h.taken m' hm'
          · rw [List.mem_singleton] at hm'
            rw [hm']
            simpa only [FitsRxBuffer] using hfit
      · rw [if_neg hfit]
        simp only [FitsRxBuffer] at hfit
        have hrcv : limitMsgrcv (M - 8) (m.msg.image e) (pending'.map fun m => m.msg.image e) =
            (.failed .other, m.msg.image e :: pending'.map fun m => m.msg.image e) :=
          if_neg (by have := m.wellFormed.size_ge; simp only [ITC_HEADER_SIZE] at *; omega)
        rw [hrcv] at hrx ⊢
        cases hrx
        exact ⟨h.accepted, by simp, by simp [h.forwarded], h.taken, by simp [h.rxLen]⟩

/-- The rx thread of another process leaves `p` alone. -/
theorem SysvmqNet.QueueInv.rx_other {net net' : SysvmqNet} {p p' : Nat}
    {taken pending : List UserMessage} (h : net.QueueInv e M p taken pending) (hne : p ≠ p')
    (hstep : SysvmqStep e a M net (.rx p') net') : net'.QueueInv e M p taken pending := by
  cases hstep with
  | rx hq hrx =>
    exact ⟨h.accepted, by simp [hne, h.queue], by simp [hne, h.forwarded], h.taken,
      by simp [hne, h.rxLen]⟩

/-- The messages that an action sends to process `p`. -/
def SysvmqAction.sentTo (p : Nat) : SysvmqAction → List UserMessage
  | .send _ m => if procOf m.msg.receiver = p then [m] else []
  | .rx _ => []

/-- **Every step keeps the invariant**, and accepts exactly what it sends. -/
theorem SysvmqNet.Inv.step (hM : M ≤ a.maxMallocsize) {net net' : SysvmqNet} {p : Nat}
    {act : SysvmqAction} (h : net.Inv e M p) (hp : 0 < p) (hlt : p < MAX_SUPPORTED_PROCESSES)
    (hstep : SysvmqStep e a M net act net') :
    net'.Inv e M p ∧ net'.accepted p = net.accepted p ++ act.sentTo p := by
  cases act with
  | send src m => exact h.send hp hlt hstep
  | rx p' =>
    obtain ⟨taken, pending, hq⟩ := h.queue
    have hrest : (∀ src, ContactOk net'.queues (net'.insts src)) ∧
        net'.accepted p = net.accepted p := by
      cases hstep with
      | rx hqueue hrx =>
        refine ⟨fun src => (h.contacts src).mono fun pid hs => ?_, rfl⟩
        simp only
        split
        · rfl
        · exact hs
    refine ⟨⟨hrest.1, ?_⟩, by rw [hrest.2, SysvmqAction.sentTo, List.append_nil]⟩
    by_cases hpp : p = p'
    · subst hpp
      obtain ⟨m, pending', rfl, hnext⟩ := hq.pass hM hstep
      split at hnext
      · exact ⟨_, _, hnext⟩
      · exact ⟨_, _, hnext⟩
    · exact ⟨taken, pending, hq.rx_other hpp hstep⟩

/-- In every run the invariant holds, and what was accepted is what was sent. -/
theorem SysvmqNet.Inv.run (hM : M ≤ a.maxMallocsize) {net net' : SysvmqNet} {p : Nat}
    {as : List SysvmqAction} (h : net.Inv e M p) (hp : 0 < p)
    (hlt : p < MAX_SUPPORTED_PROCESSES) (hrun : Run (SysvmqStep e a M) net as net') :
    net'.Inv e M p ∧
      net'.accepted p = net.accepted p ++ as.flatMap (SysvmqAction.sentTo p) := by
  induction hrun with
  | nil => exact ⟨h, by simp⟩
  | cons head _ ih =>
    obtain ⟨h₁, hacc₁⟩ := h.step hM hp hlt head
    obtain ⟨h₂, hacc₂⟩ := ih h₁
    exact ⟨h₂, by rw [hacc₂, hacc₁, List.flatMap_cons, List.append_assoc]⟩

/-! ## Delivery -/

/-- While every pending text fits, the rx thread can take them all off. -/
theorem SysvmqNet.QueueInv.drain (hM : M ≤ a.maxMallocsize) {net : SysvmqNet} {p : Nat}
    {taken pending : List UserMessage} (h : net.QueueInv e M p taken pending)
    (hfit : ∀ m ∈ pending, FitsRxBuffer M m) :
    ∃ net', Run (SysvmqStep e a M) net (List.replicate pending.length (.rx p)) net' ∧
      net'.QueueInv e M p (taken ++ pending) [] ∧ net'.accepted p = net.accepted p := by
  induction pending generalizing net taken with
  | nil => exact ⟨net, .nil net, by rwa [List.append_nil], rfl⟩
  | cons m pending ih =>
    have hm := hfit m List.mem_cons_self
    obtain ⟨rx', hpass, -⟩ := sysvmqRxThread_text (e := e) hM h.rxLen hm
    have hlen := image_length_of_wellFormed e m.wellFormed
    have hrcv : limitMsgrcv (M - 8) (m.msg.image e) (pending.map fun m => m.msg.image e) =
        (.text (m.msg.image e), pending.map fun m => m.msg.image e) := by
      simp only [FitsRxBuffer] at hm
      exact if_pos (by omega)
    have hpass' : sysvmqRxThread e a (net.rx p) (limitMsgrcv (M - 8) (m.msg.image e)
        (pending.map fun m => m.msg.image e)).1 =
          .ok (rx', if PassesMinLength m then some m.msg else none) := by
      rw [hrcv]
      exact hpass
    have hstep := SysvmqStep.rx h.queue hpass'
    obtain ⟨m', pending', hcons, hnext⟩ := h.pass hM hstep
    cases hcons
    rw [if_pos hm] at hnext
    obtain ⟨net', hrun, hinv, hacc⟩ := ih hnext fun m hm => hfit m (List.mem_cons_of_mem _ hm)
    exact ⟨net', .cons hstep hrun, by simpa using hinv, hacc⟩

/-- Delivery in terms of what was accepted. -/
theorem SysvmqNet.Inv.delivers_iff (hM : M ≤ a.maxMallocsize) {net : SysvmqNet} {p : Nat}
    (h : net.Inv e M p) (hp : 0 < p) (hlt : p < MAX_SUPPORTED_PROCESSES) :
    Delivers e a M net p ↔ ∀ m ∈ net.accepted p, PassesMinLength m ∧ FitsRxBuffer M m := by
  constructor
  · rintro ⟨n, net', hrun, hall⟩
    obtain ⟨hinv, hacc⟩ := h.run hM hp hlt hrun
    have hnone : (List.replicate n (SysvmqAction.rx p)).flatMap (SysvmqAction.sentTo p) = [] := by
      simp [SysvmqAction.sentTo]
    rw [hnone, List.append_nil] at hacc
    obtain ⟨taken, pending, hq⟩ := hinv.queue
    -- as many forwarded as accepted: nothing is pending and the length check dropped nothing
    have hcount : (taken.filter fun m => PassesMinLength m).length =
        taken.length + pending.length := by
      have := congrArg List.length hall
      rwa [← hacc, hq.forwarded, hq.accepted, List.length_map, List.length_map,
        List.length_append] at this
    have hle := List.length_filter_le (fun m => decide (PassesMinLength m)) taken
    have hpend : pending = [] := List.eq_nil_of_length_eq_zero (by omega)
    have hfilter := List.length_filter_eq_length_iff.mp (show (taken.filter
      fun m => PassesMinLength m).length = taken.length by omega)
    intro m hm
    rw [← hacc, hq.accepted, hpend, List.append_nil] at hm
    exact ⟨of_decide_eq_true (hfilter m hm), hq.taken m hm⟩
  · intro hgood
    obtain ⟨taken, pending, hq⟩ := h.queue
    rw [hq.accepted] at hgood
    obtain ⟨net', hrun, hinv, hacc⟩ := hq.drain hM
      fun m hm => (hgood m (List.mem_append_right _ hm)).2
    refine ⟨_, net', hrun, ?_⟩
    rw [hinv.forwarded, hq.accepted, List.filter_eq_self.mpr]
    exact fun m hm => decide_eq_true (hgood m hm).1

/-- A message the kernel has room for can be sent to a process with a queue. -/
theorem SysvmqNet.Inv.exists_send {net : SysvmqNet} {p : Nat} {m : UserMessage}
    (h : net.Inv e M p) (src : Nat) (hp : 0 < p) (hlt : p < MAX_SUPPORTED_PROCESSES)
    (hm : procOf m.msg.receiver = p) (hlen : (m.msg.image e).length ≤ M) :
    ∃ net', SysvmqStep e a M net (.send src m) net' := by
  subst hm
  obtain ⟨taken, pending, hq⟩ := h.queue
  obtain ⟨r, hr⟩ := sysvmqSend_limit_ok (h.contacts src) (by omega) hlt (by rw [hq.queue]; rfl) hlen
  exact ⟨_, .send hr⟩

/-- **Delivery.** In every state a run reaches, the rx thread of a process forwards all that
was accepted for it, unchanged and in order, exactly when every message sent to it had at
least `8` and at most `M - 25` bytes. -/
theorem sysvmq_delivers_iff (e : Endian) (a : Allocator) (M : Nat) (hM : M ≤ a.maxMallocsize)
    (procs : Nat → Bool) (p : Nat) (hp : procs p = true) (h0 : 0 < p)
    (hlt : p < MAX_SUPPORTED_PROCESSES) (as : List SysvmqAction) (net : SysvmqNet)
    (hrun : Run (SysvmqStep e a M) (.init M procs) as net) :
    net.accepted p = as.flatMap (SysvmqAction.sentTo p) ∧
      (Delivers e a M net p ↔
        ∀ m ∈ as.flatMap (SysvmqAction.sentTo p), PassesMinLength m ∧ FitsRxBuffer M m) := by
  obtain ⟨hinv, hacc⟩ := (SysvmqNet.Inv.init e M procs hp).run hM h0 hlt hrun
  have hsent : net.accepted p = as.flatMap (SysvmqAction.sentTo p) := hacc
  exact ⟨hsent, hsent ▸ hinv.delivers_iff hM h0 hlt⟩

/-- With the default limit of 8192 bytes, a message of 100 bytes to process 2. -/
theorem sysvmq_delivers_iff_example :
    let as := [SysvmqAction.send 1
      (UserMessage.fresh .little 100 7 0x00200001 (by decide) (by decide))]
    ∃ net, Run (SysvmqStep .little .least 8192) (.init 8192 fun _ => true) as net ∧
      net.accepted 2 = as.flatMap (SysvmqAction.sentTo 2) ∧
        (Delivers .little .least 8192 net 2 ↔ ∀ m ∈ as.flatMap (SysvmqAction.sentTo 2),
          PassesMinLength m ∧ FitsRxBuffer 8192 m) := by
  intro as
  have hinit := SysvmqNet.Inv.init .little 8192 (fun _ => true) (p := 2) rfl
  obtain ⟨net, hsend⟩ := hinit.exists_send (a := .least) 1
    (m := UserMessage.fresh .little 100 7 0x00200001 (by decide) (by decide)) (by decide)
    (by decide) (by decide)
    (by rw [image_length_of_wellFormed _ (UserMessage.wellFormed _)]; decide)
  have hrun : Run (SysvmqStep .little .least 8192) (.init 8192 fun _ => true) as net :=
    .cons hsend (.nil net)
  exact ⟨net, hrun, sysvmq_delivers_iff .little .least 8192 (by decide) (fun _ => true) 2 rfl
    (by decide) (by decide) as net hrun⟩

/-- The two ends of the size range: a message of 4 bytes is accepted and dropped as malformed,
one of 8175 bytes is accepted and stays in front of the queue. -/
theorem sysvmq_accepted_not_delivered :
    let short := UserMessage.fresh .little 4 7 0x00200001 (by decide) (by decide)
    let long := UserMessage.fresh .little 8175 7 0x00200001 (by decide) (by decide)
    ∀ m ∈ [short, long],
      ∃ net, Run (SysvmqStep .little .least 8192) (.init 8192 fun _ => true) [.send 1 m] net ∧
        net.accepted 2 = [m] ∧ ¬ Delivers .little .least 8192 net 2 := by
  intro short long m hm
  have hinit := SysvmqNet.Inv.init .little 8192 (fun _ => true) (p := 2) rfl
  have hbad : procOf m.msg.receiver = 2 ∧ m.msg.size.toNat + ITC_HEADER_SIZE + 1 ≤ 8192 ∧
      ¬ (PassesMinLength m ∧ FitsRxBuffer 8192 m) := by
    rcases List.mem_cons.mp hm with rfl | hm
    · exact ⟨by decide, by decide, by decide⟩
    · rw [List.mem_singleton] at hm
      subst hm
      exact ⟨by decide, by decide, by decide⟩
  obtain ⟨hproc, hlen, hnot⟩ := hbad
  obtain ⟨net, hsend⟩ := hinit.exists_send (a := .least) 1 (m := m) (by decide) (by decide)
    hproc (by rw [image_length_of_wellFormed _ m.wellFormed]; exact hlen)
  have hrun : Run (SysvmqStep .little .least 8192) (.init 8192 fun _ => true) [.send 1 m] net :=
    .cons hsend (.nil net)
  obtain ⟨hinv, hacc⟩ := hinit.run (a := .least) (by decide) (by decide) (by decide) hrun
  have hacc' : net.accepted 2 = [m] := by
    rw [hacc]
    simp [SysvmqNet.init, SysvmqAction.sentTo, hproc]
  refine ⟨net, hrun, hacc', fun hdel => hnot ?_⟩
  exact (hinv.delivers_iff (a := .least) (by decide) (by decide) (by decide)).mp hdel m
    (by rw [hacc']; exact List.mem_singleton_self m)

end ItcFramework
