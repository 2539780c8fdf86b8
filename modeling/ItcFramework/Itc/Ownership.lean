import ItcFramework.Itc.Accounting
import ItcFramework.Itc.Forward
import ItcFramework.Itc.LocateSpecs

/-!
# Who owns a message

A user's message belongs to the caller of `itc_send_zz` until the call returns `true`; from then
on it is in one rx queue, or it has been freed after it was copied out.

* `Owned` — what a call of `itc_send_zz` promises about the message it was given;
* `SendLoses` — the calls that break the promise: the sysvmq transport frees a message that it
  gives up, and the call returns `true`;
* `Settled` — the same promise for the copies that the rx thread and the gateway forward, which
  nobody frees when they cannot be delivered.
-/

set_option autoImplicit false

namespace ItcFramework

open ByteImage HeapModel ItcInstance

variable {σ : Type} {E : ItcEnv σ} {s : ItcInstance σ} {q : Queues}

/-! ## Where a message is -/

namespace ItcInstance

def InRxQueue (s : ItcInstance σ) (i p : Nat) : Prop :=
  ∃ rxq l, (s.localInst.localmbxData i).rxq = some rxq ∧ rxq.Holds l ∧ p ∈ l

/-- The message is once in one rx queue. -/
def InOneRxQueue (s : ItcInstance σ) (p : Nat) : Prop :=
  ∃ i rxq l, (s.localInst.localmbxData i).rxq = some rxq ∧ rxq.Holds l ∧ l.count p = 1 ∧
    ∀ j, j ≠ i → ¬ s.InRxQueue j p

/-- The message has been freed, and no rx queue points to it. -/
def Gone (s : ItcInstance σ) (p : Nat) : Prop :=
  s.heap.cells p = none ∧ ∀ i, ¬ s.InRxQueue i p

theorem Inv.inRxQueue_iff (h : s.Inv q) (i p : Nat) :
    s.InRxQueue i p ↔ ∃ l, q i = some l ∧ p ∈ l := by
  constructor
  · rintro ⟨rxq, l, hrxq, hl, hp⟩
    exact ⟨l, (h.holds.iff i l).mp ⟨rxq, hrxq, hl⟩, hp⟩
  · rintro ⟨l, hq, hp⟩
    obtain ⟨rxq, hrxq, hl⟩ := (h.holds.iff i l).mpr hq
    exact ⟨rxq, l, hrxq, hl, hp⟩

/-- A message in a user's hands is in no rx queue. -/
theorem Inv.held_not_queued (h : s.Inv q) {p : Nat} (hp : s.Held p) (i : Nat) :
    ¬ s.InRxQueue i p := by
  obtain ⟨m, hm⟩ := hp
  rw [h.inRxQueue_iff]
  rintro ⟨l, hq, hmem⟩
  exact h.messages.not_mem hm hq hmem

/-- Neither is one that is freed. -/
theorem Inv.gone (h : s.Inv q) {p : Nat} (hp : s.heap.cells p = none) : s.Gone p := by
  refine ⟨hp, fun i => ?_⟩
  rw [h.inRxQueue_iff]
  rintro ⟨l, hq, hmem⟩
  obtain ⟨m, hm⟩ := h.messages.queued i l hq p hmem
  rw [hp] at hm
  cases hm

/-- A message from a user's hands that is put at the end of one rx queue is in that one only. -/
theorem Inv.inOneRxQueue (h : s.Inv q) {i p : Nat} {l : List Nat} {m : UserMessage}
    {s' : ItcInstance σ} (hm : s.heap.cells p = some m.msg) (hq : q i = some l)
    (hholds : s'.localInst.Holds (Function.update q i (some (l ++ [p])))) :
    s'.InOneRxQueue p := by
  obtain ⟨rxq, hrxq, hl⟩ := (hholds.iff i (l ++ [p])).mpr (Function.update_self _ _ _)
  have hp : p ∉ l := h.messages.not_mem hm hq
  refine ⟨i, rxq, l ++ [p], hrxq, hl, ?_, ?_⟩
  · rw [List.count_append, List.count_eq_zero.mpr hp, List.count_singleton_self]
  · rintro j hji ⟨rxq', l', hrxq', hl', hp'⟩
    have hj := (hholds.iff j l').mp ⟨rxq', hrxq', hl'⟩
    rw [Function.update_of_ne hji] at hj
    exact h.messages.not_mem hm hj hp'

theorem Gone.not_inOneRxQueue {p : Nat} (h : s.Gone p) : ¬ s.InOneRxQueue p := by
  rintro ⟨i, rxq, l, hrxq, hl, hcount, -⟩
  exact h.2 i ⟨rxq, l, hrxq, hl, List.count_pos_iff.mp (by omega)⟩

end ItcInstance

/-! ## Sending -/

/-- The text carries the message: its header and its user bytes stand at the front. -/
def Carries (e : Endian) (m : ItcMessage) (text : Bytes) : Prop :=
  m.header e ++ m.userBytes <+: text

theorem Carries.image (e : Endian) (m : UserMessage) : Carries e m.msg (m.msg.image e) := by
  refine ⟨[ENDPOINT], ?_⟩
  rw [ItcMessage.image, List.append_assoc, ← m.wellFormed.body_eq]

/-- What a call of `itc_send_zz` with the message `msg` promises: when it fails, the message is
the caller's still, and when it succeeds, somebody has it. -/
structure Owned (E : ItcEnv σ) (s : ItcInstance σ) (tid : Nat) (msg : Option Nat)
    (toMbox : MboxId) (r : SendResult σ) : Prop where
  kept : r.ret = false →
    r.msg = msg ∧ ∀ p, msg = some p → r.s.Held p ∧ ∀ i, ¬ r.s.InRxQueue i p
  given : r.ret = true → r.msg = none ∧ ∃ p m, msg = some p ∧ s.heap.cells p = some m ∧
    (r.s.InOneRxQueue p ∨ r.s.Gone p ∧ ∃ text, r.taken = some (.copied text) ∧
      Carries E.endian (m.stamp (s.myMboxId tid) toMbox) text)

/-- A send within the host that gives up the message `p`: no mailbox of this process takes it,
the sysvmq transport has a queue to start with, and loses it in a reconnection. -/
def HostLoses (E : ItcEnv σ) (s : ItcInstance σ) (tid p : Nat) (toMbox fromMbox : MboxId) : Prop :=
  ∃ myMbox m, s.MaySend tid toMbox fromMbox myMbox ∧ s.heap.cells p = some m ∧
    ¬ s.Inactive toMbox ∧ ¬ LocalAccepts E.qitemMem s.localInst toMbox ∧
    s.SysvmqAccepts E toMbox ∧ s.SysvmqGivesUp E toMbox (m.stamp myMbox toMbox)

/-- The calls that lose their message: within the host, or on the way to the gateway, where the
request that carries it is lost. -/
inductive SendLoses (E : ItcEnv σ) (fuel : Nat) (wait : Wait σ) (s : ItcInstance σ) (tid p : Nat)
    (toMbox fromMbox : MboxId) : Option CString → Prop where
  | host {ns : Option CString} (hns : ns = none ∨ ns = some s.ns)
      (hloses : HostLoses E s tid p toMbox fromMbox) :
      SendLoses E fuel wait s tid p toMbox fromMbox ns
  | gateway {ns : CString} {me req : Nat} {itcgw : MboxId} {s₁ : ItcInstance σ}
      (hns : ns ≠ s.ns) (ht : s.myThreadlocalMbox tid = some me)
      (hfrom : fromMbox = ITC_MY_MBOX_ID ∨ fromMbox = (s.mboxes me).mboxId)
      (hprepare : prepareForward E fuel wait s tid (s.mboxes me).mboxId p toMbox ns =
        .ok (some (some (req, itcgw), s₁)))
      (hloses : HostLoses E s₁ tid req itcgw ITC_MY_MBOX_ID) :
      SendLoses E fuel wait s tid p toMbox fromMbox (some ns)

/-- Where the namespace is not the host's, only the way to the gateway can lose the message. -/
theorem SendLoses.foreign {fuel : Nat} {wait : Wait σ} {tid p me : Nat}
    {toMbox fromMbox : MboxId} {ns : CString} (hns : ns ≠ s.ns)
    (hme : s.myThreadlocalMbox tid = some me)
    (h : SendLoses E fuel wait s tid p toMbox fromMbox (some ns)) :
    (fromMbox = ITC_MY_MBOX_ID ∨ fromMbox = (s.mboxes me).mboxId) ∧ ∃ req itcgw s₁,
      prepareForward E fuel wait s tid (s.mboxes me).mboxId p toMbox ns =
        .ok (some (some (req, itcgw), s₁)) ∧ HostLoses E s₁ tid req itcgw ITC_MY_MBOX_ID := by
  cases h with
  | host hhere _ =>
    rcases hhere with hhere | hhere
    · cases hhere
    · exact absurd (Option.some.inj hhere) hns
  | gateway _ ht hfrom hprepare hloses =>
    rw [hme] at ht
    cases ht
    exact ⟨hfrom, _, _, _, hprepare, hloses⟩

theorem ItcInstance.MaySend.myMboxId {tid : Nat} {toMbox fromMbox myMbox : MboxId}
    (h : s.MaySend tid toMbox fromMbox myMbox) : s.myMboxId tid = myMbox := by
  obtain ⟨me, hme, hid, -⟩ := h
  rw [ItcInstance.myMboxId, hme, Option.elim_some, hid]

/-- A call that succeeds says what became of the message. -/
theorem ItcInstance.Sent.taken_of_ret {tid p : Nat} {m : UserMessage} {toMbox fromMbox : MboxId}
    {r : SendResult σ} (hsent : Sent E s q tid p m toMbox fromMbox r) (hret : r.ret = true) :
    ∃ t, r.taken = some t := by
  cases hsent with
  | rejected _ => cases hret
  | host _ hhost =>
    cases hhost with
    | inactive => cases hret
    | queued => exact ⟨_, rfl⟩
    | refused => cases hret
    | taken => exact ⟨_, rfl⟩

/-- A message that a call has left to its caller. -/
theorem Owned.of_kept {tid p : Nat} {toMbox : MboxId} {s' : ItcInstance σ} {q' : Queues}
    (h' : s'.Inv q') (hp : s'.Held p) :
    Owned E s tid (some p) toMbox ⟨false, some p, none, s'⟩ where
  kept := by
    intro _
    refine ⟨rfl, ?_⟩
    rintro _ ⟨⟩
    exact ⟨hp, h'.held_not_queued hp⟩
  given := fun hret => by cases hret

/-- The message of a send within the host is lost where the sysvmq transport gives it up. -/
theorem ItcInstance.Sent.lost_iff {tid p : Nat} {m : UserMessage} {toMbox fromMbox : MboxId}
    {r : SendResult σ} (hm : s.heap.cells p = some m.msg)
    (hsent : Sent E s q tid p m toMbox fromMbox r) :
    r.taken = some .lost ↔ HostLoses E s tid p toMbox fromMbox := by
  cases hsent with
  | rejected hno =>
    refine iff_of_false (fun hlost => by cases hlost) ?_
    rintro ⟨myMbox, -, hmay, -⟩
    exact hno myMbox hmay
  | @host myMbox _ hmay hhost =>
    cases hhost with
    | inactive hinactive _ =>
      refine iff_of_false (fun hlost => by cases hlost) ?_
      rintro ⟨-, -, -, -, hactive, -⟩
      exact hactive hinactive
    | refused _ _ hsysvmq _ _ =>
      refine iff_of_false (fun hlost => by cases hlost) ?_
      rintro ⟨-, -, -, -, -, -, haccepts, -⟩
      exact hsysvmq haccepts
    | queued _ haccepts _ _ _ _ =>
      refine iff_of_false (fun hlost => by cases hlost) ?_
      rintro ⟨-, -, -, -, -, hlocal, -⟩
      exact hlocal haccepts
    | taken hactive hlocal hsysvmq _ ht _ =>
      rcases ht with ⟨hkeeps, rfl⟩ | ⟨hgives, rfl⟩
      · refine iff_of_false (fun hlost => by cases hlost) ?_
        rintro ⟨myMbox', m', hmay', hm', -, -, -, hgives⟩
        rw [hm] at hm'
        cases hm'
        rw [← hmay'.myMboxId, hmay.myMboxId] at hgives
        exact hkeeps hgives
      · exact iff_of_true rfl ⟨myMbox, m.msg, hmay, hm, hactive, hlocal, hsysvmq, hgives⟩

/-- **Within the host the message is owned unless it is lost.** -/
theorem ItcInstance.Sent.owned_iff {tid p : Nat} {m : UserMessage} {toMbox fromMbox : MboxId}
    {r : SendResult σ} (h : s.Inv q) (hm : s.heap.cells p = some m.msg)
    (hsent : Sent E s q tid p m toMbox fromMbox r) :
    Owned E s tid (some p) toMbox r ↔ r.taken ≠ some .lost := by
  obtain ⟨⟨q', h'⟩, -⟩ := hsent.inv h hm
  cases hsent with
  | rejected _ => exact iff_of_true (.of_kept h ⟨m, hm⟩) (fun hlost => by cases hlost)
  | @host myMbox _ hmay hhost =>
    cases hhost with
    | inactive _ hheap =>
      exact iff_of_true (.of_kept h' ⟨m.stamp myMbox toMbox, hheap.self⟩)
        (fun hlost => by cases hlost)
    | refused _ _ _ _ hheap =>
      exact iff_of_true (.of_kept h' ⟨m.stamp myMbox toMbox, hheap.self⟩)
        (fun hlost => by cases hlost)
    | @queued i l rxq heap' _ _ hq _ hholds hheap =>
      refine iff_of_true ⟨(fun hret => by cases hret), fun _ => ⟨rfl, p, m.msg, rfl, hm, .inl ?_⟩⟩
        (fun hlost => by cases hlost)
      exact h.inOneRxQueue hm hq hholds
    | @taken heap' inst k t _ _ _ _ ht hheap =>
      have hdead : (notifyReceiver (s.setSysvmq inst k heap') (findMbox s toMbox)).heap.cells p =
          none := by
        rw [notifyReceiver_heap]
        exact hheap.self
      rcases ht with ⟨-, rfl⟩ | ⟨-, rfl⟩
      · refine iff_of_true ⟨(fun hret => by cases hret), fun _ => ⟨rfl, p, m.msg, rfl, hm,
          .inr ⟨h'.gone hdead, _, rfl, ?_⟩⟩⟩ (fun hlost => by cases hlost)
        rw [hmay.myMboxId]
        exact Carries.image E.endian (m.stamp myMbox toMbox)
      · refine iff_of_false ?_ (fun hlost => hlost rfl)
        rintro ⟨-, hgiven⟩
        obtain ⟨-, p', m', hp', -, hqueued | ⟨-, text, htext, -⟩⟩ := hgiven rfl
        · cases hp'
          exact (h'.gone hdead).not_inOneRxQueue hqueued
        · cases htext

/-! ## `itc_send_zz` -/

theorem itcSendZz_null (fuel : Nat) (wait : Wait σ) (tid : Nat) (toMbox fromMbox : MboxId)
    (ns : Option CString) :
    itcSendZz E fuel wait s tid none toMbox fromMbox ns = .ok (some ⟨false, none, none, s⟩) := by
  unfold itcSendZz
  split
  · exact itcSend_null fuel tid toMbox fromMbox
  · split
    · exact itcSend_null fuel tid toMbox fromMbox
    · split
      · rfl
      · simp only [ite_self]

/-- Outside the host the message is owned unless the request that carries it is lost. -/
theorem sendOutsideHost_owned_iff {fuel : Nat} {wait : Wait σ} {tid p : Nat} {m : UserMessage}
    {myMbox toMbox : MboxId} {ns : CString} {r : SendResult σ} (h : s.Inv q)
    (hm : s.heap.cells p = some m.msg) (hmy : s.myMboxId tid = myMbox)
    (hwait : wait.Keeps fun p' => p' = p ∨ p' = s.heap.next)
    (hcall : sendOutsideHost E fuel wait s tid myMbox p toMbox ns = .ok (some r)) :
    Owned E s tid (some p) toMbox r ↔
      ¬ ∃ req itcgw s₁, prepareForward E fuel wait s tid myMbox p toMbox ns =
        .ok (some (some (req, itcgw), s₁)) ∧ HostLoses E s₁ tid req itcgw ITC_MY_MBOX_ID := by
  obtain ⟨⟨request, s₁⟩, hprepare, hcall⟩ := bind_some_eq_ok hcall rfl
  obtain ⟨⟨q₁, h₁⟩, hp₁, hreq₁⟩ := prepareForward_spec h hm hwait hprepare
  cases request with
  | none =>
    cases hcall
    refine iff_of_true (.of_kept h₁ ⟨_, hp₁⟩) ?_
    rintro ⟨req, itcgw, s₁', hprepare', -⟩
    rw [hprepare] at hprepare'
    cases hprepare'
  | some request =>
    obtain ⟨req, itcgw⟩ := request
    obtain ⟨hne, u, hu, -⟩ := hreq₁ req itcgw rfl
    obtain ⟨r₁, hsend, hcall⟩ := bind_some_eq_ok hcall rfl
    have hsent := (itcSend_returns h₁ hu fuel tid itcgw ITC_MY_MBOX_ID).of_eq hsend
    have hlost : (∃ req itcgw s₁, prepareForward E fuel wait s tid myMbox p toMbox ns =
        .ok (some (some (req, itcgw), s₁)) ∧ HostLoses E s₁ tid req itcgw ITC_MY_MBOX_ID) ↔
        r₁.taken = some .lost := by
      rw [hsent.lost_iff hu]
      constructor
      · rintro ⟨req', itcgw', s₁', hprepare', hloses⟩
        rw [hprepare] at hprepare'
        cases hprepare'
        exact hloses
      · exact fun hloses => ⟨req, itcgw, s₁, hprepare, hloses⟩
    rw [hlost]
    obtain ⟨⟨q₂, h₂⟩, hframe₂⟩ := hsent.inv h₁ hu
    have hp₂ : r₁.s.heap.cells p = some (m.stamp myMbox toMbox).msg :=
      (hframe₂ p hne.symm).trans hp₁
    cases hret : r₁.ret with
    | false =>
      obtain ⟨-, htaken, u', hu', -⟩ := hsent.failed hu hret
      obtain ⟨heap₃, hfree, -, hframe₃, -⟩ := itcFree_user hu'
      simp only [hret, Bool.false_eq_true, not_false_eq_true, if_true, hfree, bind,
        Except.bind] at hcall
      cases hcall
      have h₃ : (r₁.s.setHeap heap₃).Inv q₂ := h₂.ofHeld hu' hframe₃
      refine iff_of_true (.of_kept h₃ ⟨_, (hframe₃ p hne.symm).trans hp₂⟩) ?_
      rw [htaken]
      exact fun hlost => by cases hlost
    | true =>
      obtain ⟨heap₃, hfree, hdead, hframe₃, -⟩ := itcFreeZz_user hp₂
      simp only [hret, not_true_eq_false, if_false, Heap.read_of_live hp₂, hfree, bind,
        Except.bind, if_true] at hcall
      cases hcall
      have h₃ : (r₁.s.setHeap heap₃).Inv q₂ := h₂.ofHeld hp₂ hframe₃
      have hgone := h₃.gone hdead
      obtain ⟨t, ht⟩ := hsent.taken_of_ret hret
      have howned : ∀ text, t.ofRequest ((m.stamp myMbox toMbox).msg.header E.endian ++
          (m.stamp myMbox toMbox).msg.userBytes) = .copied text →
          Carries E.endian (m.msg.stamp (s.myMboxId tid) toMbox) text := by
        intro text htext
        rw [hmy]
        cases t with
        | lost => cases htext
        | rxQueue =>
          cases htext
          exact List.prefix_rfl
        | copied _ =>
          cases htext
          exact List.prefix_rfl
      rw [ht]
      constructor
      · rintro ⟨-, hgiven⟩ hlost
        cases hlost
        obtain ⟨-, p', m', hp', -, hqueued | ⟨-, text, htext, -⟩⟩ := hgiven rfl
        · cases hp'
          exact hgone.not_inOneRxQueue hqueued
        · cases htext
      · intro hkept
        refine ⟨(fun hret => by cases hret), fun _ => ⟨rfl, p, m.msg, rfl, hm, .inr ?_⟩⟩
        refine ⟨hgone, ?_⟩
        cases t with
        | lost => exact absurd rfl hkept
        | rxQueue => exact ⟨_, rfl, howned _ rfl⟩
        | copied _ => exact ⟨_, rfl, howned _ rfl⟩

/-- **A call of `itc_send_zz` keeps its promise unless it loses the message.** -/
theorem itcSendZz_owned_iff {fuel : Nat} {wait : Wait σ} {tid : Nat} {msg : Option Nat}
    {toMbox fromMbox : MboxId} {ns : Option CString} {r : SendResult σ} (h : s.Inv q)
    (hmsg : ∀ p, msg = some p → s.Held p ∧ wait.Keeps fun p' => p' = p ∨ p' = s.heap.next)
    (hcall : itcSendZz E fuel wait s tid msg toMbox fromMbox ns = .ok (some r)) :
    Owned E s tid msg toMbox r ↔
      ¬ ∃ p, msg = some p ∧ SendLoses E fuel wait s tid p toMbox fromMbox ns := by
  cases msg with
  | none =>
    rw [itcSendZz_null] at hcall
    cases hcall
    refine iff_of_true ⟨fun _ => ⟨rfl, fun _ hp => by cases hp⟩, fun hret => by cases hret⟩ ?_
    rintro ⟨p, hp, -⟩
    cases hp
  | some p =>
    obtain ⟨⟨m, hm⟩, hwait⟩ := hmsg p rfl
    have hhost : ns = none ∨ ns = some s.ns →
        itcSend E fuel s tid (some p) toMbox fromMbox = .ok (some r) →
        (Owned E s tid (some p) toMbox r ↔
          ¬ ∃ p', some p = some p' ∧ SendLoses E fuel wait s tid p' toMbox fromMbox ns) := by
      intro hns hsend
      have hsent := (itcSend_returns h hm fuel tid toMbox fromMbox).of_eq hsend
      rw [hsent.owned_iff h hm, ne_eq, hsent.lost_iff hm]
      refine not_congr ⟨fun hloses => ⟨p, rfl, .host hns hloses⟩, ?_⟩
      rintro ⟨_, ⟨⟩, hloses⟩
      cases hloses with
      | host _ hloses => exact hloses
      | gateway hne =>
        rcases hns with hns | hns
        · cases hns
        · exact absurd (Option.some.inj hns) hne
    unfold itcSendZz at hcall
    split at hcall
    · exact hhost (.inl rfl) hcall
    · rename_i ns
      split at hcall
      · rename_i hns
        exact hhost (.inr (by rw [hns])) hcall
      · rename_i hns
        split at hcall
        · rename_i hnone
          cases hcall
          refine iff_of_true (.of_kept h ⟨m, hm⟩) ?_
          rintro ⟨_, ⟨⟩, hloses⟩
          cases hloses with
          | host hhere _ =>
            rcases hhere with hhere | hhere
            · cases hhere
            · exact hns (Option.some.inj hhere)
          | gateway _ ht =>
            rw [hnone] at ht
            cases ht
        · rename_i me hme
          simp only at hcall
          split at hcall
          · rename_i hfrom
            cases hcall
            refine iff_of_true (.of_kept h ⟨m, hm⟩) ?_
            rintro ⟨_, ⟨⟩, hloses⟩
            exact (hloses.foreign hns hme).1.elim hfrom.1 hfrom.2
          · rename_i hfrom
            have hmy : s.myMboxId tid = (s.mboxes me).mboxId := by
              rw [ItcInstance.myMboxId, hme, Option.elim_some]
            rw [sendOutsideHost_owned_iff h hm hmy hwait hcall]
            refine not_congr ⟨?_, ?_⟩
            · rintro ⟨req, itcgw, s₁, hprepare, hloses⟩
              refine ⟨p, rfl, .gateway hns hme ?_ hprepare hloses⟩
              by_cases hdefault : fromMbox = ITC_MY_MBOX_ID
              · exact .inl hdefault
              · exact .inr (not_not.mp fun hother => hfrom ⟨hdefault, hother⟩)
            · rintro ⟨_, ⟨⟩, hloses⟩
              exact (hloses.foreign hns hme).2

/-- No call frees a message twice or touches a freed one: a namespace or a reply that does not
fit its block is all that can make it fail. -/
theorem itcSendZz_onlyOverruns {fuel : Nat} {wait : Wait σ} {tid : Nat} {msg : Option Nat}
    {toMbox fromMbox : MboxId} {ns : Option CString} (h : s.Inv q)
    (hmsg : ∀ p, msg = some p → s.Held p ∧ wait.Keeps fun p' => p' = p ∨ p' = s.heap.next) :
    OnlyOverruns (itcSendZz E fuel wait s tid msg toMbox fromMbox ns) := by
  cases msg with
  | none =>
    rw [itcSendZz_null]
    exact .ok _
  | some p =>
    obtain ⟨⟨m, hm⟩, hwait⟩ := hmsg p rfl
    have hhost := (itcSend_returns (E := E) h hm fuel tid toMbox fromMbox).onlyOverruns
    unfold itcSendZz
    split
    · exact hhost
    · split
      · exact hhost
      · split
        · exact .ok _
        · simp only
          split
          · exact .ok _
          · refine (prepareForward_onlyOverruns h hm hwait).bind fun o hprepare => ?_
            cases o with
            | none => exact .ok _
            | some out =>
              obtain ⟨request, s₁⟩ := out
              obtain ⟨⟨q₁, h₁⟩, hp₁, hreq₁⟩ := prepareForward_spec h hm hwait hprepare
              cases request with
              | none => exact .ok _
              | some request =>
                obtain ⟨req, itcgw⟩ := request
                obtain ⟨hne, u, hu, -⟩ := hreq₁ req itcgw rfl
                obtain ⟨o, hsend, hout⟩ :=
                  itcSend_returns (E := E) h₁ hu fuel tid itcgw ITC_MY_MBOX_ID
                simp only [hsend, bind, Except.bind]
                cases o with
                | none => exact .ok _
                | some r₁ =>
                  have hsent := hout r₁ rfl
                  obtain ⟨-, hframe₂⟩ := hsent.inv h₁ hu
                  have hp₂ := (hframe₂ p hne.symm).trans hp₁
                  obtain ⟨heap₃, hfree, -⟩ := itcFreeZz_user hp₂
                  simp only [Heap.read_of_live hp₂, hfree]
                  cases hret : r₁.ret with
                  | false =>
                    obtain ⟨-, -, u', hu', -⟩ := hsent.failed hu hret
                    obtain ⟨heap₄, hfree₄, -⟩ := itcFree_user hu'
                    simp only [Bool.false_eq_true, not_false_eq_true, if_true, hfree₄]
                    exact .ok _
                  | true =>
                    simp only [not_true_eq_false, if_false]
                    exact .ok _

/-! ## Forwarded copies -/

namespace ItcInstance

/-- The copy has found its rx queue, or has been freed. -/
def Settled (s : ItcInstance σ) (p : Nat) : Prop := s.InOneRxQueue p ∨ s.Gone p

/-- A message of thread `tid` to the mailbox gets somewhere: it may be sent, the mailbox is not
one of this process that is out of use, and one of the transports takes it. -/
def Deliverable (E : ItcEnv σ) (s : ItcInstance σ) (tid : Nat) (toMbox : MboxId) : Prop :=
  (∃ myMbox, s.MaySend tid toMbox ITC_MY_MBOX_ID myMbox) ∧ ¬ s.Inactive toMbox ∧
    (LocalAccepts E.qitemMem s.localInst toMbox ∨ s.SysvmqAccepts E toMbox)

/-- A send succeeds where the message is deliverable. -/
theorem Sent.ret_iff {tid p : Nat} {m : UserMessage} {toMbox : MboxId} {r : SendResult σ}
    (hsent : Sent E s q tid p m toMbox ITC_MY_MBOX_ID r) :
    r.ret = true ↔ s.Deliverable E tid toMbox := by
  cases hsent with
  | rejected hno =>
    refine iff_of_false Bool.false_ne_true ?_
    rintro ⟨⟨myMbox, hmay⟩, -⟩
    exact hno myMbox hmay
  | host hmay hhost =>
    cases hhost with
    | inactive hinactive _ => exact iff_of_false Bool.false_ne_true fun h => h.2.1 hinactive
    | queued hactive haccepts => exact iff_of_true rfl ⟨⟨_, hmay⟩, hactive, .inl haccepts⟩
    | refused _ hlocal hsysvmq =>
      exact iff_of_false Bool.false_ne_true fun h => h.2.2.elim hlocal hsysvmq
    | taken hactive _ hsysvmq => exact iff_of_true rfl ⟨⟨_, hmay⟩, hactive, .inr hsysvmq⟩

/-- The message of a send is settled where the send succeeds. -/
theorem Sent.settled_iff {tid p : Nat} {m : UserMessage} {toMbox fromMbox : MboxId}
    {r : SendResult σ} (h : s.Inv q) (hm : s.heap.cells p = some m.msg)
    (hsent : Sent E s q tid p m toMbox fromMbox r) : r.s.Settled p ↔ r.ret = true := by
  obtain ⟨⟨q', h'⟩, -⟩ := hsent.inv h hm
  have hkept : r.ret = false → ¬ r.s.Settled p := by
    intro hret hsettled
    obtain ⟨-, -, m', hm', -⟩ := hsent.failed hm hret
    rcases hsettled with ⟨i, rxq, l, hrxq, hl, hcount, -⟩ | ⟨hdead, -⟩
    · refine h'.held_not_queued ⟨m', hm'⟩ i ⟨rxq, l, hrxq, hl, ?_⟩
      exact List.count_pos_iff.mp (by omega)
    · rw [hdead] at hm'
      cases hm'
  cases hret : r.ret with
  | false => exact iff_of_false (hkept hret) Bool.false_ne_true
  | true =>
    refine iff_of_true ?_ rfl
    cases hsent with
    | rejected _ => cases hret
    | host _ hhost =>
      cases hhost with
      | inactive => cases hret
      | queued _ _ hq _ hholds _ => exact .inl (h.inOneRxQueue hm hq hholds)
      | refused => cases hret
      | taken _ _ _ _ _ hheap =>
        refine .inr (h'.gone ?_)
        rw [notifyReceiver_heap]
        exact hheap.self

end ItcInstance

/-- **A forwarded copy is settled where it is deliverable**, and otherwise nobody frees it. -/
theorem sendCopy_settled_iff {fuel tid msg : Nat} {m : UserMessage} {r : SendResult σ}
    (h : s.Inv q) (hcall : sendCopy E fuel s tid m.msg = .ok (some (msg, r))) :
    r.s.Settled msg ↔ s.Deliverable E tid m.msg.receiver := by
  obtain ⟨hmsg, hsent⟩ := (sendCopy_returns h fuel tid m).of_eq hcall
  have hinv : (s.alloc m.msg).2.Inv q := h.ofHeap (h.messages.alloc m.msg) h.layout.sysvmqInst
  simp only at hmsg hsent
  rw [hmsg, hsent.settled_iff hinv (Heap.push_next s.heap m.msg), hsent.ret_iff]
  exact Iff.rfl

theorem forwardSysvmq_settled_iff {fuel tid msg : Nat} {mtext : Bytes} {m : UserMessage}
    {s' : ItcInstance σ} (h : s.Inv q)
    (hcopy : forwardSysvmqMsg E.endian E.malloc mtext = .ok (some m.msg))
    (hcall : forwardSysvmq E fuel s tid mtext = .ok (some (some msg, s'))) :
    s'.Settled msg ↔ s.Deliverable E tid m.msg.receiver := by
  simp only [forwardSysvmq, hcopy, bind, Except.bind] at hcall
  obtain ⟨out, hsend, hcall⟩ := bind_some_eq_ok hcall rfl
  cases hcall
  exact sendCopy_settled_iff h hsend

theorem forwardData_settled_iff {fuel tid msg : Nat} {sock sock₁ sock' : ByteStream}
    {header : ItcgwHeader} {m : UserMessage} {ret : Bool} {s' : ItcInstance σ} (h : s.Inv q)
    (hcopy : handleReceiveDataFwd E.endian E.malloc sock header =
      .ok (.sendInternal m.msg, sock₁))
    (hcall : forwardData E fuel s tid sock header = .ok (some ((ret, some msg), s', sock'))) :
    s'.Settled msg ↔ s.Deliverable E tid m.msg.receiver := by
  simp only [forwardData, hcopy, bind, Except.bind] at hcall
  obtain ⟨out, hsend, hcall⟩ := bind_some_eq_ok hcall rfl
  cases hcall
  exact sendCopy_settled_iff h hsend

/-- **Message ownership.** A call of `itc_send_zz` that returns keeps its promise unless the
message, or the request that carries it to the gateway, is lost in a reconnection; and a copy
that is forwarded is settled just where it is deliverable. No call frees a message twice. -/
theorem message_ownership (E : ItcEnv σ) (s : ItcInstance σ) (q : Queues) (h : s.Inv q)
    (fuel tid : Nat) :
    (∀ (wait : Wait σ) (msg : Option Nat) (toMbox fromMbox : MboxId) (ns : Option CString),
      (∀ p, msg = some p → s.Held p ∧ wait.Keeps fun p' => p' = p ∨ p' = s.heap.next) →
      OnlyOverruns (itcSendZz E fuel wait s tid msg toMbox fromMbox ns) ∧
      ∀ r, itcSendZz E fuel wait s tid msg toMbox fromMbox ns = .ok (some r) →
        (Owned E s tid msg toMbox r ↔
          ¬ ∃ p, msg = some p ∧ SendLoses E fuel wait s tid p toMbox fromMbox ns)) ∧
    (∀ (mtext : Bytes) (m : UserMessage) (msg : Nat) (s' : ItcInstance σ),
      forwardSysvmqMsg E.endian E.malloc mtext = .ok (some m.msg) →
      forwardSysvmq E fuel s tid mtext = .ok (some (some msg, s')) →
      (s'.Settled msg ↔ s.Deliverable E tid m.msg.receiver)) ∧
    ∀ (sock sock₁ sock' : ByteStream) (header : ItcgwHeader) (m : UserMessage) (ret : Bool)
      (msg : Nat) (s' : ItcInstance σ),
      handleReceiveDataFwd E.endian E.malloc sock header = .ok (.sendInternal m.msg, sock₁) →
      forwardData E fuel s tid sock header = .ok (some ((ret, some msg), s', sock')) →
      (s'.Settled msg ↔ s.Deliverable E tid m.msg.receiver) := by
  refine ⟨fun wait msg toMbox fromMbox ns hmsg => ⟨itcSendZz_onlyOverruns h hmsg, fun r hcall => ?_⟩,
    fun mtext m msg s' hcopy hcall => ?_, fun sock sock₁ sock' header m ret msg s' hcopy hcall => ?_⟩
  · exact itcSendZz_owned_iff h hmsg hcall
  · exact forwardSysvmq_settled_iff h hcopy hcall
  · exact forwardData_settled_iff h hcopy hcall

/-- A process with two mailboxes: a message goes from the first to the second, a text from
another process and a packet from another host are forwarded to the second. -/
theorem message_ownership_pair :
    ∃ (s : ItcInstance Unit) (r : SendResult Unit) (msg₁ msg₂ : Nat) (s₁ s₂ : ItcInstance Unit)
      (m : UserMessage), r.ret = true ∧
      (Owned ItcEnv.willing s 0 (some 0) 0x00100001 r ↔ ¬ ∃ p, some 0 = some p ∧
        SendLoses ItcEnv.willing 0 (fun s => (true, s)) s 0 p 0x00100001 ITC_MY_MBOX_ID none) ∧
      (s₁.Settled msg₁ ↔ s.Deliverable ItcEnv.willing 0 m.msg.receiver) ∧
      (s₂.Settled msg₂ ↔ s.Deliverable ItcEnv.willing 0 m.msg.receiver) := by
  let s₀ : ItcInstance Unit := .init 1 3 0 ()
  let c₁ := returned (0, s₀) (itcCreateMailbox ItcEnv.willing 0 s₀ 0 .empty 0)
  let c₂ := returned (0, s₀) (itcCreateMailbox ItcEnv.willing 0 c₁.2 1 .empty 0)
  let s := (c₂.2.alloc (.fresh .little 4 0)).2
  let r := returned ⟨false, none, none, s₀⟩ (itcSendZz ItcEnv.willing 0 (fun s => (true, s)) s 0
    (some 0) 0x00100001 ITC_MY_MBOX_ID none)
  let m : UserMessage := .fresh .little 4 0 0x00100001 (by omega) (by omega)
  let header : ItcgwHeader := ⟨0, 0, 0, 0, UInt32.ofNat (offFwdPayload + 20)⟩
  let sock : ByteStream := ⟨[word .little (htonl .little ITCGW_STATUS_OK) ++
    (word .little (htonl .little 20) ++ (m.msg.header .little ++ m.msg.userBytes))], by decide⟩
  have hempty : CString.empty.strlen < ITC_MAX_NAME_LENGTH := by decide
  have hcreate₁ : itcCreateMailbox ItcEnv.willing 0 s₀ 0 .empty 0 = .ok (some (c₁.1, c₁.2)) :=
    returned_eq (by decide +kernel)
  have hcreate₂ : itcCreateMailbox ItcEnv.willing 0 c₁.2 1 .empty 0 = .ok (some (c₂.1, c₂.2)) :=
    returned_eq (by decide +kernel)
  have hsend : itcSendZz ItcEnv.willing 0 (fun s => (true, s)) s 0 (some 0) 0x00100001
      ITC_MY_MBOX_ID none = .ok (some r) := returned_eq (by decide +kernel)
  have hret : r.ret = true := by decide +kernel
  obtain ⟨⟨_, s₁⟩, hforward₁, rfl⟩ : ∃ f, forwardSysvmq ItcEnv.willing 0 s 0
      (m.msg.image .little) = .ok (some f) ∧ f.1 = some 1 := answer_eq (by decide +kernel)
  obtain ⟨⟨_, s₂, sock₂⟩, hforward₂, rfl⟩ : ∃ f, forwardData ItcEnv.willing 0 s 0 sock header =
      .ok (some f) ∧ f.1 = (true, some 1) := answer_eq (by decide +kernel)
  obtain ⟨sock₁, hcopy, -⟩ : ∃ sock', handleReceiveDataFwd .little .least sock header =
      .ok (.sendInternal m.msg, sock') ∧ sock'.bytes = [] :=
    handleReceiveDataFwd_ok .little .least m.wellFormed (by decide) (by decide) (by decide +kernel)
  obtain ⟨q, hs⟩ : ∃ q, s.Inv q := by
    obtain ⟨q₀, h₀⟩ : (Traced.init 1 3 0 ()).Accounted :=
      .init 1 (by decide) (by decide) 0 ()
    obtain ⟨q₁, h₁⟩ := h₀.createMailbox hempty hcreate₁
    obtain ⟨q₂, h₂⟩ := h₁.createMailbox hempty hcreate₂
    exact ⟨q₂, h₂.inv.ofHeap (h₂.inv.messages.alloc _) h₂.inv.layout.sysvmqInst⟩
  have hheld : s.Held 0 := by
    refine ⟨⟨.fresh .little 4 0, ItcMessage.fresh_wellFormed _ _ ?_ ?_, rfl⟩, ?_⟩
    · omega
    · omega
    · decide +kernel
  clear_value s r
  obtain ⟨hsent, hsysvmq, hdata⟩ := message_ownership ItcEnv.willing s q hs 0 0
  refine ⟨s, r, 1, 1, s₁, s₂, m, hret, (hsent _ _ _ _ _ ?_).2 r hsend, ?_, ?_⟩
  · rintro _ ⟨⟩
    exact ⟨hheld, fun s' q' h' => .refl h' _⟩
  · have hfits := forwardSysvmqMsg_image (e := .little) (a := .least) (m := m) [] (by decide)
    rw [List.append_nil] at hfits
    exact hsysvmq _ m 1 s₁ hfits hforward₁
  · exact hdata sock sock₁ sock₂ header m true 1 s₂ hcopy hforward₂

/-- A kernel that has a message queue until something is sent to it. -/
def vanishingKernel : SysvKernel Bool where
  ftok := fun k pid => (some pid, k)
  msgget := fun k key => (if k then key else none, k)
  msgsnd := fun _ _ _ => (some .eidrm, false)

/-- The receiving process is gone between the lookup of its queue and `msgsnd`: the call returns
`true` and nobody has the message. And a text for a mailbox that is not in use leaves its copy
on the heap. -/
theorem accepted_message_lost :
    (∃ (E : ItcEnv Bool) (s : ItcInstance Bool) (q : Queues) (r : SendResult Bool), s.Inv q ∧
      s.Held 0 ∧ itcSendZz E 1 (fun s => (true, s)) s 0 (some 0) 0x00300000 ITC_MY_MBOX_ID none =
        .ok (some r) ∧ r.ret = true ∧ ¬ Owned E s 0 (some 0) 0x00300000 r) ∧
    ∃ (s : ItcInstance Unit) (q : Queues) (mtext : Bytes) (msg : Nat) (s' : ItcInstance Unit),
      s.Inv q ∧ forwardSysvmq ItcEnv.willing 0 s 0 mtext = .ok (some (some msg, s')) ∧
        ¬ s'.Settled msg := by
  constructor
  · let E : ItcEnv Bool := ⟨.little, .least, vanishingKernel, .plain Nat, true⟩
    let s₀ : ItcInstance Bool := .init 1 3 0 true
    let c₁ := returned (0, s₀) (itcCreateMailbox E 0 s₀ 0 .empty 0)
    let s := (c₁.2.alloc (.fresh .little 4 0)).2
    have hempty : CString.empty.strlen < ITC_MAX_NAME_LENGTH := by decide
    have hcreate₁ : itcCreateMailbox E 0 s₀ 0 .empty 0 = .ok (some (c₁.1, c₁.2)) :=
      returned_eq (by decide +kernel)
    obtain ⟨r, hsend, hr⟩ : ∃ r, itcSendZz E 1 (fun s => (true, s)) s 0 (some 0) 0x00300000
        ITC_MY_MBOX_ID none = .ok (some r) ∧ (r.ret, r.taken) = (true, some .lost) :=
      answer_eq (by decide +kernel)
    obtain ⟨q, hs⟩ : ∃ q, s.Inv q := by
      obtain ⟨q₀, h₀⟩ : (Traced.init 1 3 0 true).Accounted :=
        .init 1 (by decide) (by decide) 0 true
      obtain ⟨q₁, h₁⟩ := h₀.createMailbox hempty hcreate₁
      exact ⟨q₁, h₁.inv.ofHeap (h₁.inv.messages.alloc _) h₁.inv.layout.sysvmqInst⟩
    have hheld : s.Held 0 := by
      refine ⟨⟨.fresh .little 4 0, ItcMessage.fresh_wellFormed _ _ ?_ ?_, rfl⟩, ?_⟩
      · omega
      · omega
      · decide +kernel
    obtain ⟨hret, hlost⟩ := Prod.mk.inj hr
    clear_value s
    refine ⟨E, s, q, r, hs, hheld, hsend, hret, ?_⟩
    obtain ⟨m, hm⟩ := hheld
    have hsent := (itcSend_returns hs hm 1 0 0x00300000 ITC_MY_MBOX_ID).of_eq hsend
    rw [hsent.owned_iff hs hm]
    exact fun hkept => hkept hlost
  · let s₀ : ItcInstance Unit := .init 1 3 0 ()
    let c₁ := returned (0, s₀) (itcCreateMailbox ItcEnv.willing 0 s₀ 0 .empty 0)
    let m : UserMessage := .fresh .little 4 0 0x00100001 (by omega) (by omega)
    have hempty : CString.empty.strlen < ITC_MAX_NAME_LENGTH := by decide
    have hcreate₁ : itcCreateMailbox ItcEnv.willing 0 s₀ 0 .empty 0 = .ok (some (c₁.1, c₁.2)) :=
      returned_eq (by decide +kernel)
    obtain ⟨⟨_, s'⟩, hforward, rfl⟩ : ∃ f, forwardSysvmq ItcEnv.willing 0 c₁.2 0
        (m.msg.image .little) = .ok (some f) ∧ f.1 = some 0 := answer_eq (by decide +kernel)
    have hinactive : c₁.2.Inactive 0x00100001 := ⟨1, by decide +kernel, by decide +kernel⟩
    obtain ⟨q₀, h₀⟩ : (Traced.init 1 3 0 ()).Accounted := .init 1 (by decide) (by decide) 0 ()
    obtain ⟨q₁, h₁⟩ := h₀.createMailbox hempty hcreate₁
    have hfits := forwardSysvmqMsg_image (e := .little) (a := .least) (m := m) [] (by decide)
    rw [List.append_nil] at hfits
    refine ⟨c₁.2, q₁, m.msg.image .little, 0, s', h₁.inv, hforward, ?_⟩
    rw [forwardSysvmq_settled_iff h₁.inv hfits hforward]
    exact fun hdeliverable => hdeliverable.2.1 hinactive

end ItcFramework
