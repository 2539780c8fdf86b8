import ItcFramework.Itc.ProcessInv

/-!
# What a send does

`sendWithinHost_returns`: a call of `itc_send_zz` that stays within the host and returns has found
the receiving mailbox not in use, has put the message into a local rx queue, was refused by every
transport, or has given the message to the sysvmq transport.

`itcSend_changes` and the lemmas behind it say what a call that has returned leaves behind, in any
state of the process; frames and invariants of the calls are read off them.
-/

set_option autoImplicit false

namespace ItcFramework

open ByteImage HeapModel

variable {σ : Type} {E : ItcEnv σ}

def UserMessage.stamp (m : UserMessage) (myMbox toMbox : MboxId) : UserMessage :=
  ⟨m.msg.stamp myMbox toMbox, m.wellFormed.stamp myMbox toMbox, m.flags_eq⟩

namespace ItcInstance

/-- The receiving mailbox is one of this process, and not in use. -/
def Inactive (s : ItcInstance σ) (toMbox : MboxId) : Prop :=
  ∃ i, findMbox s toMbox = some i ∧ (s.mboxes i).mboxState ≠ .inuse

/-- The sysvmq transport has a queue to start with. -/
def SysvmqAccepts (E : ItcEnv σ) (s : ItcInstance σ) (toMbox : MboxId) : Prop :=
  ValidProc toMbox ∧ (contact E.kernel s.sysvmqInst s.kernel toMbox).1 ≠ none

/-- The sysvmq transport gives the message up half-way. -/
def SysvmqGivesUp (E : ItcEnv σ) (s : ItcInstance σ) (toMbox : MboxId) (m : ItcMessage) : Prop :=
  GivesUp E.kernel s.sysvmqInst s.kernel toMbox (m.image E.endian)

end ItcInstance

open ItcInstance

/-- The sysvmq transport frees what it takes: the kernel has queued the text, unless the
transport gave the message up. -/
def TakenBySysvmq (E : ItcEnv σ) (s : ItcInstance σ) (toMbox : MboxId) (m : ItcMessage)
    (t : Taken) : Prop :=
  ¬ s.SysvmqGivesUp E toMbox m ∧ t = .copied (m.image E.endian) ∨
    s.SysvmqGivesUp E toMbox m ∧ t = .lost

/-- Only the message at `p` differs. -/
structure OnlyAt (heap heap' : Heap ItcMessage) (p : Nat) (v : Option ItcMessage) : Prop where
  self : heap'.cells p = v
  frame : ∀ p', p' ≠ p → heap'.cells p' = heap.cells p'
  next : heap'.next = heap.next

theorem OnlyAt.trans {heap heap₁ heap₂ : Heap ItcMessage} {p : Nat} {v w : Option ItcMessage}
    (h : OnlyAt heap heap₁ p v) (h' : OnlyAt heap₁ heap₂ p w) : OnlyAt heap heap₂ p w where
  self := h'.self
  frame p' hp' := (h'.frame p' hp').trans (h.frame p' hp')
  next := h'.next.trans h.next

/-! ## The transports -/

section Transports

variable {s : ItcInstance σ} {q : Queues} {p i : Nat} {l : List Nat} {m : UserMessage}
  {toMbox : MboxId}

theorem transSend_local (fuel : Nat) (h : s.localInst.Holds q) (hmem : E.qitemMem = true)
    (hfind : findLocalmbxData s.localInst toMbox = .ok i) (hq : q i = some l)
    (hm : s.heap.cells p = some m.msg) :
    ∃ rxq heap', transSend E fuel s p toMbox =
        .ok (some (some .rxQueue, s.setLocal (s.localInst.setRxq i rxq) heap')) ∧
      (s.localInst.setRxq i rxq).Holds (Function.update q i (some (l ++ [p]))) ∧
      OnlyAt s.heap heap' p (some m.queued) := by
  obtain ⟨rxq, heap', hsend, hholds, hself, hframe, hnext⟩ := localSend_spec h hfind hq hm
  refine ⟨rxq, heap', ?_, hholds, ⟨hself, hframe, hnext⟩⟩
  simp only [transSend, hmem, hsend, bind, Except.bind, if_true]
  rfl

/-- What the sysvmq transport has done with a message that the local one refused: refused it
too, or freed it. -/
inductive TransSysvmq (E : ItcEnv σ) (s : ItcInstance σ) (p : Nat) (m : UserMessage)
    (toMbox : MboxId) : Option Taken × ItcInstance σ → Prop where
  | refused {inst : SysvmqInstance} {k : σ} (hconf : inst.Configured)
      (hno : ¬ s.SysvmqAccepts E toMbox) :
      TransSysvmq E s p m toMbox (none, s.setSysvmq inst k s.heap)
  | taken {heap' : Heap ItcMessage} {inst : SysvmqInstance} {k : σ} {t : Taken}
      (hconf : inst.Configured) (haccepts : s.SysvmqAccepts E toMbox)
      (ht : TakenBySysvmq E s toMbox m.msg t) (hheap : OnlyAt s.heap heap' p none) :
      TransSysvmq E s p m toMbox (some t, s.setSysvmq inst k heap')

theorem transSend_sysvmq (fuel : Nat) (hno : ¬ LocalAccepts E.qitemMem s.localInst toMbox)
    (hconf : s.sysvmqInst.Configured) (hm : s.heap.cells p = some m.msg) :
    Returns (transSend E fuel s p toMbox) (TransSysvmq E s p m toMbox) := by
  obtain ⟨rc, hrc, hlocal⟩ := localSend_refused hno s.heap p
  obtain ⟨o, hret, hout⟩ :=
    sysvmqSend_returns (e := E.endian) (K := E.kernel) hconf fuel s.kernel m toMbox
  simp only [transSend, hlocal, bind, Except.bind, if_neg hrc, setLocal_heap, setLocal_kernel,
    setLocal_sysvmqInst, Heap.read_of_live hm, hret]
  cases o with
  | none => exact .running
  | some r =>
    obtain ⟨hconf', hout⟩ := hout r rfl
    cases hout with
    | refused hnot hrc' hsent hfreed =>
      simp only [hfreed, Bool.false_eq_true, if_false, if_neg hrc']
      refine .result (.refused hconf' ?_)
      rintro ⟨hv, hcontact⟩
      rcases hnot with hnot | hnone
      · exact hnot hv
      · exact hcontact hnone
    | taken hv hcontact hrc' hfreed hsent =>
      obtain ⟨heap', hfree, hdead, hframe, hnext⟩ := Heap.free_of_live hm
      simp only [hfreed, if_true, hfree, hrc']
      refine .result (.taken hconf' ⟨hv, hcontact⟩ ?_ ⟨hdead, hframe, hnext⟩)
      cases hr : r.sent with
      | false => exact .inr ⟨hsent.mp hr, rfl⟩
      | true =>
        refine .inl ⟨fun hgives => ?_, rfl⟩
        rw [hsent.mpr hgives] at hr
        cases hr

end Transports

/-! ## The call -/

/-- What a send within the host has done with the message `m` at `p`. -/
inductive HostSend (E : ItcEnv σ) (s : ItcInstance σ) (q : Queues) (myMbox : MboxId) (p : Nat)
    (m : UserMessage) (toMbox : MboxId) : SendResult σ → Prop where
  | inactive {heap' : Heap ItcMessage} (hinactive : s.Inactive toMbox)
      (hheap : OnlyAt s.heap heap' p (some (m.stamp myMbox toMbox).msg)) :
      HostSend E s q myMbox p m toMbox ⟨false, some p, none, s.setHeap heap'⟩
  | queued {i : Nat} {l : List Nat} {rxq : RxQueue} {heap' : Heap ItcMessage}
      (hactive : ¬ s.Inactive toMbox)
      (haccepts : LocalAccepts E.qitemMem s.localInst toMbox) (hq : q i = some l)
      (hfind : findMbox s toMbox = some i)
      (hholds : (s.localInst.setRxq i rxq).Holds (Function.update q i (some (l ++ [p]))))
      (hheap : OnlyAt s.heap heap' p (some (m.stamp myMbox toMbox).queued)) :
      HostSend E s q myMbox p m toMbox ⟨true, none, some .rxQueue,
        (s.setLocal (s.localInst.setRxq i rxq) heap').setRxqInfo i
          (s.mboxes i).rxqInfo.onSend⟩
  | refused {heap' : Heap ItcMessage} {inst : SysvmqInstance} {k : σ}
      (hactive : ¬ s.Inactive toMbox)
      (hlocal : ¬ LocalAccepts E.qitemMem s.localInst toMbox)
      (hsysvmq : ¬ s.SysvmqAccepts E toMbox) (hconf : inst.Configured)
      (hheap : OnlyAt s.heap heap' p (some (m.stamp myMbox toMbox).msg)) :
      HostSend E s q myMbox p m toMbox ⟨false, some p, none,
        s.setSysvmq inst k heap'⟩
  | taken {heap' : Heap ItcMessage} {inst : SysvmqInstance} {k : σ} {t : Taken}
      (hactive : ¬ s.Inactive toMbox)
      (hlocal : ¬ LocalAccepts E.qitemMem s.localInst toMbox)
      (hsysvmq : s.SysvmqAccepts E toMbox) (hconf : inst.Configured)
      (ht : TakenBySysvmq E s toMbox (m.stamp myMbox toMbox).msg t)
      (hheap : OnlyAt s.heap heap' p none) :
      HostSend E s q myMbox p m toMbox ⟨true, none, some t,
        notifyReceiver (s.setSysvmq inst k heap') (findMbox s toMbox)⟩

theorem any_inactive_iff (s : ItcInstance σ) (toMbox : MboxId) :
    ((findMbox s toMbox).any fun i => (s.mboxes i).mboxState != .inuse) = true ↔
      s.Inactive toMbox := by
  cases hfind : findMbox s toMbox with
  | none =>
    simp only [Option.any_none, Bool.false_eq_true, false_iff]
    rintro ⟨i, hi, -⟩
    rw [hfind] at hi
    cases hi
  | some i =>
    simp only [Option.any_some, bne_iff_ne, ne_eq]
    constructor
    · intro hne
      exact ⟨i, hfind, hne⟩
    · rintro ⟨j, hj, hne⟩
      rw [hfind] at hj
      cases hj
      exact hne

theorem sendWithinHost_returns {s : ItcInstance σ} {q : Queues} {p : Nat} {m : UserMessage}
    (h : s.Inv q) (hm : s.heap.cells p = some m.msg) (fuel : Nat) (myMbox toMbox : MboxId) :
    Returns (sendWithinHost E fuel s myMbox p toMbox) (HostSend E s q myMbox p m toMbox) := by
  obtain ⟨heap₁, hwrite, hself, hframe, hnext⟩ :=
    Heap.write_of_live (b := m.msg.stamp myMbox toMbox) hm
  have hstamped : OnlyAt s.heap heap₁ p (some (m.stamp myMbox toMbox).msg) :=
    ⟨hself, hframe, hnext⟩
  have hfind₁ : findMbox (s.setHeap heap₁) toMbox = findMbox s toMbox := rfl
  simp only [sendWithinHost, Heap.read_of_live hm, hwrite, hfind₁, setHeap_mboxes, bind,
    Except.bind]
  by_cases hinactive : s.Inactive toMbox
  · rw [if_pos ((any_inactive_iff s toMbox).mpr hinactive)]
    exact .result (.inactive hinactive hstamped)
  rw [if_neg (mt (any_inactive_iff s toMbox).mp hinactive)]
  by_cases haccepts : LocalAccepts E.qitemMem s.localInst toMbox
  · obtain ⟨hmem, i, hlocal, hrxq⟩ := haccepts
    obtain ⟨l, hq⟩ : ∃ l, q i = some l := by
      cases hqi : q i with
      | none =>
        have hi := h.holds i
        rw [hqi] at hi
        exact absurd hi.of_none hrxq
      | some l => exact ⟨l, rfl⟩
    obtain ⟨hlt, hp⟩ := h.slots.queue i (by rw [hq]; exact Option.some_ne_none l)
    have hfind := h.layout.findMbox_of_local hlocal hlt
    obtain ⟨rxq, heap', htrans, hholds, hheap⟩ := transSend_local (E := E)
      (s := s.setHeap heap₁) fuel h.holds hmem hlocal hq hstamped.self
    rw [htrans]
    simp only [Option.isSome_some, if_true, hfind, notifyReceiver, setLocal_mboxes,
      setHeap_mboxes, hp]
    exact .result (.queued hinactive ⟨hmem, i, hlocal, hrxq⟩ hq hfind hholds
      (hstamped.trans hheap))
  · obtain ⟨o, htrans, hout⟩ := transSend_sysvmq (s := s.setHeap heap₁) fuel
      haccepts h.layout.sysvmqInst hstamped.self
    rw [htrans]
    cases o with
    | none => exact .running
    | some out =>
      cases hout out rfl with
      | refused hconf hsysvmq =>
        have hp : ¬ ((findMbox s toMbox).any fun i => ! (s.mboxes i).pRxqInfo) = true := by
          rw [Option.any_eq_true]
          rintro ⟨i, hfind, hp⟩
          have hinuse : (s.mboxes i).mboxState = .inuse := by
            by_contra hne
            exact hinactive ⟨i, hfind, hne⟩
          have hq := h.slots.inuse i (h.layout.findMbox_lt hfind) hinuse
          rw [(h.slots.queue i hq).2] at hp
          cases hp
        simp only [Option.isSome_none, Bool.false_eq_true, if_false, setSysvmq_mboxes,
          setHeap_mboxes, if_neg hp]
        exact .result (.refused hinactive haccepts hsysvmq hconf hstamped)
      | taken hconf hsysvmq ht hheap =>
        simp only [Option.isSome_some, if_true]
        exact .result (.taken hinactive haccepts hsysvmq hconf ht (hstamped.trans hheap))

/-! ## What a call can change -/

theorem notifyReceiver_heap (s : ItcInstance σ) (o : Option Nat) :
    (notifyReceiver s o).heap = s.heap := by
  unfold notifyReceiver
  split
  · rfl
  · split
    · rfl
    · rfl

/-- A send over the transports changes the local instance, the sysvmq instance and the heap; what
the plugin of `sysvmq` does to the heap brings back no freed message. -/
theorem transSend_changes {s s' : ItcInstance σ} {fuel p : Nat} {toMbox : MboxId}
    {taken : Option Taken} (hsend : transSend E fuel s p toMbox = .ok (some (taken, s'))) :
    ∃ rc inst heap, localSend E.qitemMem s.localInst s.heap p toMbox = .ok (rc, inst, heap) ∧
      (s' = s.setLocal inst heap ∨
        ∃ sysvmqInst k heap', Heap.Evolves heap heap' ∧
          s' = (s.setLocal inst heap).setSysvmq sysvmqInst k heap') := by
  obtain ⟨⟨rc, inst, heap⟩, hlocal, hsend⟩ := bind_eq_ok hsend
  refine ⟨rc, inst, heap, hlocal, ?_⟩
  simp only at hsend
  split at hsend
  · cases hsend
    exact .inl rfl
  · obtain ⟨m, -, hsend⟩ := bind_eq_ok hsend
    obtain ⟨r, -, hsend⟩ := bind_some_eq_ok hsend rfl
    simp only at hsend
    split at hsend
    · obtain ⟨heap', hfree, hsend⟩ := bind_eq_ok hsend
      cases hsend
      exact .inr ⟨_, _, _, .free hfree, rfl⟩
    · obtain ⟨heap', hfree, hsend⟩ := bind_eq_ok hsend
      cases hfree
      cases hsend
      exact .inr ⟨_, _, _, .refl _, rfl⟩

/-- What `itc_send_zz` leaves behind, whatever it was called with. -/
theorem itcSend_changes {s : ItcInstance σ} {fuel tid : Nat} {msg : Option Nat}
    {toMbox fromMbox : MboxId} {r : SendResult σ}
    (hsend : itcSend E fuel s tid msg toMbox fromMbox = .ok (some r)) :
    r.s = s ∨ ∃ heap, Heap.Evolves s.heap heap ∧ (r.s = s.setHeap heap ∨
      ∃ p taken s₁, transSend E fuel (s.setHeap heap) p toMbox = .ok (some (taken, s₁)) ∧
        (r.s = s₁ ∨ r.s = notifyReceiver s₁ (findMbox s toMbox))) := by
  unfold itcSend at hsend
  split at hsend
  · cases hsend
    exact .inl rfl
  · simp only at hsend
    split at hsend
    · cases hsend
      exact .inl rfl
    · split at hsend
      · cases hsend
        exact .inl rfl
      · split at hsend
        · cases hsend
          exact .inl rfl
        · obtain ⟨m, -, hsend⟩ := bind_eq_ok hsend
          obtain ⟨heap, hwrite, hsend⟩ := bind_eq_ok hsend
          refine .inr ⟨heap, .write hwrite, ?_⟩
          simp only at hsend
          split at hsend
          · cases hsend
            exact .inl rfl
          · obtain ⟨out, htrans, hsend⟩ := bind_some_eq_ok hsend rfl
            refine .inr ⟨_, out.1, out.2, htrans, ?_⟩
            simp only at hsend
            split at hsend
            · cases hsend
              exact .inr rfl
            · split at hsend
              · cases hsend
              · cases hsend
                exact .inl rfl

theorem sendOrFree_changes {s s' : ItcInstance σ} {fuel tid msg : Nat}
    {toMbox fromMbox : MboxId} {sent : Bool}
    (hcall : sendOrFree E fuel s tid msg toMbox fromMbox = .ok (some (sent, s'))) :
    ∃ r, itcSend E fuel s tid (some msg) toMbox fromMbox = .ok (some r) ∧
      (r.ret = true ∧ s' = r.s ∨ r.ret = false ∧ itcFree r.s msg = .ok s') := by
  obtain ⟨r, hsend, hcall⟩ := bind_some_eq_ok hcall rfl
  refine ⟨r, hsend, ?_⟩
  simp only at hcall
  split at hcall
  · rename_i hret
    cases hcall
    exact .inl ⟨hret, rfl⟩
  · rename_i hret
    obtain ⟨s₁, hfree, hcall⟩ := bind_eq_ok hcall
    cases hcall
    exact .inr ⟨Bool.eq_false_of_not_eq_true hret, hfree⟩

/-- The coordinator is told by a message that the process allocates for it. -/
theorem notifyCoord_changes {s s' : ItcInstance σ} {fuel tid : Nat} {msgno : UInt32}
    {mboxId : MboxId} {name : CString}
    (hcall : notifyCoord E fuel s tid msgno mboxId name = .ok (some s')) :
    s' = s ∨ ∃ m msg sent, sendOrFree E fuel (s.alloc m).2 tid msg s.itccoordMboxId mboxId =
      .ok (some (sent, s')) := by
  unfold notifyCoord at hcall
  split at hcall
  · cases hcall
    exact .inl rfl
  · obtain ⟨m, -, hcall⟩ := bind_eq_ok hcall
    obtain ⟨⟨sent, s₁⟩, hsend, hcall⟩ := bind_some_eq_ok hcall rfl
    cases hcall
    exact .inr ⟨m, _, sent, hsend⟩

theorem itcReceive_changes {s s' : ItcInstance σ} {tid : Nat} {ret : Option Nat}
    (hcall : itcReceive s tid = .ok (some (ret, s'))) :
    s' = s ∨ ∃ me rc message inst heap info,
      localReceive s.localInst s.heap (s.mboxes me).mboxId = .ok (rc, message, inst, heap) ∧
      s' = (s.setLocal inst heap).setRxqInfo me info := by
  unfold itcReceive at hcall
  split at hcall
  · cases hcall
    exact .inl rfl
  · rename_i me _
    simp only at hcall
    split at hcall
    · cases hcall
    · obtain ⟨⟨rc, message, inst, heap⟩, hreceive, hcall⟩ := bind_eq_ok hcall
      simp only at hcall
      split at hcall
      · cases hcall
        exact .inr ⟨me, rc, none, inst, heap, _, hreceive, rfl⟩
      · rename_i p
        split at hcall
        · cases hcall
        · cases hcall
          exact .inr ⟨me, rc, some p, inst, heap, _, hreceive, rfl⟩

theorem itcGetFd_changes {s s' : ItcInstance σ} {tid : Nat} (hcall : itcGetFd s tid = .ok s') :
    s' = s ∨ ∃ me info, s' = s.setRxqInfo me info := by
  unfold itcGetFd at hcall
  split at hcall
  · cases hcall
    exact .inl rfl
  · rename_i me _
    simp only at hcall
    split at hcall
    · cases hcall
    · cases hcall
      exact .inr ⟨me, _, rfl⟩

end ItcFramework
