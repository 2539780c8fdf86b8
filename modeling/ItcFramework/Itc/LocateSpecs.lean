import ItcFramework.Itc.Locate

/-!
# What the synchronous requests leave alone

`ItcInstance.Kept own s s'`: from `s` to `s'` the invariant holds on, and the messages among `own`
that were in users' hands are there still. The calls of a thread keep what the thread holds, as
long as the threads that run while it waits do (`Wait.Keeps`).
-/

set_option autoImplicit false

namespace ItcFramework

open ByteImage HeapModel ItcInstance

variable {σ : Type} {E : ItcEnv σ} {s s' : ItcInstance σ} {q : Queues} {own : Nat → Prop}

/-! ## Sending -/

/-- What every send does to the process. -/
theorem ItcInstance.Sent.inv {tid p : Nat} {m : UserMessage} {toMbox fromMbox : MboxId}
    {r : SendResult σ} (h : s.Inv q) (hm : s.heap.cells p = some m.msg)
    (hsent : Sent E s q tid p m toMbox fromMbox r) :
    (∃ q', r.s.Inv q') ∧ ∀ p', p' ≠ p → r.s.heap.cells p' = s.heap.cells p' := by
  cases hsent with
  | rejected _ => exact ⟨⟨q, h⟩, fun _ _ => rfl⟩
  | host _ hhost => exact hhost.inv h hm

/-- **A message that was not sent is the caller's, as it was but for the stamp.** -/
theorem ItcInstance.Sent.failed {tid p : Nat} {m : UserMessage} {toMbox fromMbox : MboxId}
    {r : SendResult σ} (hm : s.heap.cells p = some m.msg)
    (hsent : Sent E s q tid p m toMbox fromMbox r) (hret : r.ret = false) :
    r.msg = some p ∧ r.taken = none ∧
      ∃ m' : UserMessage, r.s.heap.cells p = some m'.msg ∧ m'.msg.body = m.msg.body := by
  cases hsent with
  | rejected _ => exact ⟨rfl, rfl, m, hm, rfl⟩
  | host _ hhost =>
    cases hhost with
    | inactive _ hheap => exact ⟨rfl, rfl, _, hheap.self, rfl⟩
    | queued => cases hret
    | refused _ _ _ _ hheap => exact ⟨rfl, rfl, _, hheap.self, rfl⟩
    | taken => cases hret

theorem sendOrFree_returns {p : Nat} {m : UserMessage} (h : s.Inv q)
    (hm : s.heap.cells p = some m.msg) (fuel tid : Nat) (toMbox fromMbox : MboxId) :
    Returns (sendOrFree E fuel s tid p toMbox fromMbox) fun r =>
      (∃ q', r.2.Inv q') ∧ ∀ p', p' ≠ p → r.2.heap.cells p' = s.heap.cells p' := by
  obtain ⟨o, hsend, hout⟩ := itcSend_returns (E := E) h hm fuel tid toMbox fromMbox
  simp only [sendOrFree, hsend, bind, Except.bind]
  cases o with
  | none => exact .running
  | some r =>
    have hsent := hout r rfl
    obtain ⟨⟨q', hinv⟩, hframe⟩ := hsent.inv h hm
    cases hret : r.ret with
    | true =>
      simp only [hret, if_true]
      exact .result ⟨⟨q', hinv⟩, hframe⟩
    | false =>
      obtain ⟨-, -, m', hm', -⟩ := hsent.failed hm hret
      obtain ⟨heap', hfree, hdead, hframe', -⟩ := itcFree_user hm'
      simp only [hret, Bool.false_eq_true, if_false, hfree]
      refine .result ⟨⟨q', hinv.ofHeld hm' hframe'⟩, fun p' hp' => ?_⟩
      exact (hframe' p' hp').trans (hframe p' hp')

/-! ## Keeping messages -/

/-- The messages of `own` that were in users' hands are there still. -/
structure ItcInstance.Kept (own : Nat → Prop) (s s' : ItcInstance σ) : Prop where
  inv : ∃ q, s'.Inv q
  held : ∀ p (m : UserMessage), own p → s.heap.cells p = some m.msg →
    s'.heap.cells p = some m.msg

namespace ItcInstance.Kept

theorem refl (h : s.Inv q) (own : Nat → Prop) : Kept own s s := ⟨⟨q, h⟩, fun _ _ _ hm => hm⟩

theorem trans {s₁ : ItcInstance σ} (h : Kept own s s₁) (h' : Kept own s₁ s') : Kept own s s' :=
  ⟨h'.inv, fun p m hp hm => h'.held p m hp (h.held p m hp hm)⟩

/-- Only one message was touched, and that was in nobody's hands or not among `own`. -/
theorem of_frame {p : Nat} (hinv : ∃ q, s'.Inv q)
    (hframe : ∀ p', p' ≠ p → s'.heap.cells p' = s.heap.cells p')
    (hp : ∀ m : UserMessage, own p → s.heap.cells p ≠ some m.msg) : Kept own s s' := by
  refine ⟨hinv, fun p' m hown hm => ?_⟩
  by_cases hpp : p' = p
  · rw [hpp] at hown hm
    exact absurd hm (hp m hown)
  · rw [hframe p' hpp, hm]

theorem alloc (h : s.Inv q) (m : ItcMessage) (own : Nat → Prop) : Kept own s (s.alloc m).2 :=
  ⟨⟨q, h.ofHeap (h.messages.alloc m) h.layout.sysvmqInst⟩,
    fun _ _ _ hm => Heap.push_of_live hm⟩

theorem sendOrFree {s₀ : ItcInstance σ} {p : Nat} {m : UserMessage} {fuel tid : Nat}
    {toMbox fromMbox : MboxId} {b : Bool} (h₀ : Kept own s₀ s) (hm : s.heap.cells p = some m.msg)
    (hp : ∀ m : UserMessage, own p → s₀.heap.cells p ≠ some m.msg)
    (hcall : sendOrFree E fuel s tid p toMbox fromMbox = .ok (some (b, s'))) :
    Kept own s₀ s' := by
  obtain ⟨q, h⟩ := h₀.inv
  obtain ⟨hinv, hframe⟩ := (sendOrFree_returns h hm fuel tid toMbox fromMbox).of_eq hcall
  refine ⟨hinv, fun p' m' hown hm' => ?_⟩
  have hne : p' ≠ p := by
    intro heq
    rw [heq] at hown hm'
    exact hp m' hown hm'
  rw [hframe p' hne]
  exact h₀.held p' m' hown hm'

theorem free {s₀ : ItcInstance σ} {p : Nat} {m : UserMessage} (h₀ : Kept own s₀ s)
    (hm : s.heap.cells p = some m.msg) (hp : ∀ m : UserMessage, own p → s₀.heap.cells p ≠ some m.msg)
    (hcall : itcFree s p = .ok s') : Kept own s₀ s' := by
  obtain ⟨q, h⟩ := h₀.inv
  obtain ⟨heap', rfl, hframe⟩ := itcFree_ok hm hcall
  refine ⟨⟨q, h.ofHeld hm hframe⟩, fun p' m' hown hm' => ?_⟩
  have hne : p' ≠ p := by
    intro heq
    rw [heq] at hown hm'
    exact hp m' hown hm'
  exact (hframe p' hne).trans (h₀.held p' m' hown hm')

end ItcInstance.Kept

/-- The threads that run while this one waits keep the invariant, and leave the messages `own` in
its hands. -/
def Wait.Keeps (wait : Wait σ) (own : Nat → Prop) : Prop :=
  ∀ s q, s.Inv q → Kept own s (wait s).2

/-- What a waiting receive leaves: a message it has taken is in the caller's hands. -/
theorem itcReceiveTmo_spec {wait : Wait σ} {tid : Nat} {o : Option Nat} (h : s.Inv q)
    (hwait : wait.Keeps own) (hcall : itcReceiveTmo wait s tid = .ok (some (o, s'))) :
    Kept own s s' ∧ ∀ p, o = some p →
      (∃ m : UserMessage, s'.heap.cells p = some m.msg) ∧
      ∀ m : UserMessage, own p → s.heap.cells p ≠ some m.msg := by
  have hkept := hwait s q h
  obtain ⟨q₁, h₁⟩ := hkept.inv
  unfold itcReceiveTmo at hcall
  simp only at hcall
  split at hcall
  · cases hcall
    exact ⟨hkept, fun p hp => by cases hp⟩
  · have hreceived := (itcReceive_returns h₁ tid).of_eq hcall
    cases hreceived with
    | nothing hempty hinv hheap =>
      refine ⟨⟨⟨q₁, hinv⟩, fun p m hown hm => ?_⟩, fun p hp => by cases hp⟩
      rw [hheap]
      exact hkept.held p m hown hm
    | @message _ me p l m ht hq hm hinv hheap =>
      -- what lies in a queue is in nobody's hands
      have hfree : ∀ m' : UserMessage, (wait s).2.heap.cells p ≠ some m'.msg :=
        fun m' hm' => h₁.messages.not_mem hm' hq List.mem_cons_self
      refine ⟨hkept.trans (.of_frame ⟨_, hinv⟩ hheap.frame fun m' _ => hfree m'), ?_⟩
      rintro _ ⟨⟩
      exact ⟨⟨m, hheap.self⟩, fun m' hown hm' => hfree m' (hkept.held p m' hown hm')⟩

/-! ## Locating -/

/-- What is read from a message that the builder has made. -/
theorem syncMsg_reads {e : Endian} {a : Allocator} {msgno w1 w2 : UInt32} {flag : Bool}
    {name : CString} {m : ItcMessage} (h : syncMsg e a msgno w1 w2 flag name = .ok m) :
    m.msgno e = .ok msgno ∧ load32 e m.body 4 = .ok w1 ∧ load32 e m.body 8 = .ok w2 ∧
      load8 m.body 12 = .ok (boolByte flag) ∧ strAt m.body offSyncName = .ok name := by
  obtain ⟨u, rfl, hbody⟩ := syncMsg_made h
  simp only [syncBytes, List.append_assoc, List.cons_append] at hbody
  refine ⟨load32_of_eq (a := []) hbody rfl, load32_of_eq hbody (word_length ..).symm, ?_, ?_, ?_⟩
  · exact load32_of_eq (a := word e msgno ++ word e w1) (by rw [hbody, List.append_assoc])
      (by simp)
  · exact load8_of_eq (a := word e msgno ++ word e w1 ++ word e w2)
      (c := name.withNul ++ [ENDPOINT]) (by rw [hbody]; simp only [List.append_assoc]) (by simp)
  · exact strAt_of_eq (a := word e msgno ++ word e w1 ++ word e w2 ++ [boolByte flag])
      (c := [ENDPOINT]) (by rw [hbody]; simp only [List.append_assoc, List.singleton_append])
      (by simp [offSyncName])

theorem idNameMsg_reads {e : Endian} {a : Allocator} {msgno : UInt32} {mboxId : MboxId}
    {name : CString} {m : ItcMessage} (h : idNameMsg e a msgno mboxId name = .ok m) :
    m.msgno e = .ok msgno ∧ load32 e m.body 4 = .ok mboxId ∧
      strAt m.body offMboxname = .ok name := by
  obtain ⟨-, u, rfl, hbody⟩ := idNameMsg_made h
  refine ⟨load32_of_eq (a := []) hbody rfl, load32_of_eq hbody (word_length ..).symm, ?_⟩
  exact strAt_of_eq (a := word e msgno ++ word e mboxId) (by rw [hbody, List.append_assoc])
    (by simp [offMboxname])

theorem idNameMsg_lt {e : Endian} {a : Allocator} {msgno : UInt32} {mboxId : MboxId}
    {name : CString} {m : ItcMessage} (h : idNameMsg e a msgno mboxId name = .ok m) :
    offMboxname + name.strlen + 1 < 2 ^ 32 := by
  have hlt := a.lt
  have hle := (idNameMsg_made h).1
  omega

theorem sendLocateRequest_kept {fuel tid : Nat} {myMbox : MboxId} {timeout : UInt32}
    {name : CString} {findOnlyInternal b : Bool} (h : s.Inv q) (own : Nat → Prop)
    (hcall : sendLocateRequest E fuel s tid myMbox timeout name findOnlyInternal =
      .ok (some (b, s'))) : Kept own s s' := by
  obtain ⟨m, hm, hcall⟩ := bind_eq_ok hcall
  obtain ⟨u, rfl, -⟩ := syncMsg_made hm
  refine (Kept.alloc h u.msg own).sendOrFree (Heap.push_next s.heap u.msg) ?_ hcall
  intro m' _ hm'
  exact Nat.lt_irrefl _ (Heap.lt_next hm')

theorem awaitLocateReply_kept {wait : Wait σ} {tid : Nat} {findOnlyInternal : Bool}
    {r : LocateResult} (h : s.Inv q) (hwait : wait.Keeps own)
    (hcall : awaitLocateReply E wait s tid findOnlyInternal = .ok (some (r, s'))) :
    Kept own s s' := by
  obtain ⟨⟨msg, s₁⟩, hreceive, hcall⟩ := bind_some_eq_ok hcall rfl
  obtain ⟨hkept, hmsg⟩ := itcReceiveTmo_spec h hwait hreceive
  cases msg with
  | none =>
    cases hcall
    exact hkept
  | some p =>
    obtain ⟨⟨m, hm⟩, hp⟩ := hmsg p rfl
    obtain ⟨m', -, hcall⟩ := bind_eq_ok hcall
    obtain ⟨reply, -, hcall⟩ := bind_eq_ok hcall
    obtain ⟨s₂, hfree, hcall⟩ := bind_eq_ok hcall
    cases hcall
    exact hkept.free hm hp hfree

theorem itcLocateSync_kept {fuel : Nat} {wait : Wait σ} {tid : Nat} {timeout : UInt32}
    {name : CString} {findOnlyInternal : Bool} {r : LocateResult} (h : s.Inv q)
    (hwait : wait.Keeps own)
    (hcall : itcLocateSync E fuel wait s tid timeout name findOnlyInternal =
      .ok (some (r, s'))) : Kept own s s' := by
  unfold itcLocateSync at hcall
  split at hcall
  · cases hcall
    exact .refl h own
  · split at hcall
    · cases hcall
      exact .refl h own
    · obtain ⟨⟨sent, s₁⟩, hsend, hcall⟩ := bind_some_eq_ok hcall rfl
      have hkept := sendLocateRequest_kept h own hsend
      obtain ⟨q₁, h₁⟩ := hkept.inv
      cases sent with
      | false =>
        cases hcall
        exact hkept
      | true => exact hkept.trans (awaitLocateReply_kept h₁ hwait hcall)

/-! ## Preparing a request for the gateway -/

theorem ItcInstance.Inv.setItcgwMboxid (h : s.Inv q) (itcgwMboxid : MboxId) :
    (s.setItcgwMboxid itcgwMboxid).Inv q where
  layout := ⟨h.layout.my, h.layout.mask, h.layout.nrPos, h.layout.nrLt, h.layout.localMask,
    h.layout.ids, h.layout.localInst, h.layout.sysvmqInst⟩
  holds := h.holds
  messages := h.messages
  slots := ⟨h.slots.queue, h.slots.inuse, h.slots.closed, h.slots.freeNodup, h.slots.free,
    h.slots.thread, h.slots.threadInj, h.slots.names⟩

/-- A request that has been built is a user's message: a namespace too long for its field makes
`memset` leave the block. -/
theorem fwdRequest_user {e : Endian} {a : Allocator} {m req : ItcMessage} {ns : CString}
    (hm : m.WellFormed) (h : fwdRequest e a m ns = .ok (some req)) :
    ∃ u : UserMessage, req = u.msg := by
  have hbuilt := h
  unfold fwdRequest at hbuilt
  dsimp only at hbuilt
  split at hbuilt
  · cases hbuilt
  · rename_i hfit
    have hle := Nat.not_lt.mp hfit
    have ha := a.ge
    simp only [ITC_GATEWAY_ETH_PACKET_SIZE, ITC_HEADER_SIZE, ITC_MAX_MSGSIZE] at hle ha
    have halloc := itcAllocZz_ok e a ITC_FWD_DATA_TO_ITCGWS
      (show 4 ≤ offPayload + (m.size.toNat + 16) by simp only [offPayload]; omega)
      (by simp only [offPayload, ITC_HEADER_SIZE]; omega)
    have hlen : (ItcMessage.fresh e (offPayload + (m.size.toNat + 16))
        ITC_FWD_DATA_TO_ITCGWS).body.length = offPayload + (m.size.toNat + 16) + 1 := by
      simp only [ItcMessage.fresh, List.length_append, word_length, List.length_replicate,
        List.length_singleton, offPayload]
      omega
    simp only [ITC_HEADER_SIZE, halloc, deref, bind, Except.bind] at hbuilt
    obtain ⟨body, hname, hbuilt⟩ := bind_eq_ok hbuilt
    obtain ⟨body', hfill, hbuilt⟩ := bind_eq_ok hbuilt
    obtain ⟨hname, hbody⟩ := storeBytes_fits hname
    have hfill := memset_fits hfill
    rw [hbody] at hfill
    rw [hlen] at hname hfill
    have hns : ns.strlen ≤ ITC_MAX_NAME_LENGTH := by
      by_contra hlong
      simp only [CString.withNul_length, offToNamespace, offPayload] at hname
      simp only [ITC_MAX_NAME_LENGTH] at hlong
      have hun : nsUnfilledSize ns = 2 ^ 64 + 256 - ns.strlen - 1 := by
        rw [nsUnfilledSize, if_neg (by simp only [offPayloadLength, offToNamespace]; omega)]
        simp only [offPayloadLength, offToNamespace]
      simp only [hun, offToNamespace, offPayload] at hfill
      omega
    have hok := fwdRequest_ok e a hm (Nat.not_lt.mp hfit) hns
    rw [h] at hok
    cases hok
    obtain ⟨u, hu, -⟩ := exists_userMessage e (offPayload + (m.size.toNat + ITC_HEADER_SIZE))
      ITC_FWD_DATA_TO_ITCGWS (word e ITC_FWD_DATA_TO_ITCGWS ++ (ns.withNul ++
        (List.replicate (255 - ns.strlen) 0 ++
          (word e (UInt32.ofNat (m.size.toNat + ITC_HEADER_SIZE)) ++
            (m.header e ++ m.userBytes)))))
      (by simp only [offPayload]; omega)
      (by simp only [offPayload, ITC_HEADER_SIZE]; omega)
      (by
        simp only [ITC_MAX_NAME_LENGTH] at hns
        simp only [List.length_append, word_length, CString.withNul_length,
          List.length_replicate, ItcMessage.header_length, hm.userBytes_length, offPayload,
          ITC_HEADER_SIZE]
        omega)
    refine ⟨u, ?_⟩
    rw [← hu]
    simp only [fwdRequestBody, List.append_assoc]

theorem findItcgw_kept {fuel : Nat} {wait : Wait σ} {tid : Nat} {itcgw : MboxId} (h : s.Inv q)
    (hwait : wait.Keeps own) (hcall : findItcgw E fuel wait s tid = .ok (some (itcgw, s'))) :
    Kept own s s' := by
  unfold findItcgw at hcall
  split at hcall
  · cases hcall
    exact .refl h own
  · obtain ⟨out, hlocate, hcall⟩ := bind_some_eq_ok hcall rfl
    cases hcall
    obtain ⟨⟨q', h'⟩, hheld⟩ := itcLocateSync_kept h hwait hlocate
    exact ⟨⟨q', h'.setItcgwMboxid _⟩, hheld⟩

/-- What the preparation leaves: the message is the caller's still, stamped, and so is the
request if there is one. -/
theorem prepareForward_spec {fuel : Nat} {wait : Wait σ} {tid p : Nat} {m : UserMessage}
    {myMbox toMbox : MboxId} {ns : CString} {o : Option (Nat × MboxId)} (h : s.Inv q)
    (hm : s.heap.cells p = some m.msg)
    (hwait : wait.Keeps fun p' => p' = p ∨ p' = s.heap.next)
    (hcall : prepareForward E fuel wait s tid myMbox p toMbox ns = .ok (some (o, s'))) :
    (∃ q', s'.Inv q') ∧ s'.heap.cells p = some (m.stamp myMbox toMbox).msg ∧
      ∀ req itcgw, o = some (req, itcgw) → req ≠ p ∧
        ∃ u : UserMessage, s'.heap.cells req = some u.msg ∧
          fwdRequest E.endian E.malloc (m.stamp myMbox toMbox).msg ns = .ok (some u.msg) := by
  obtain ⟨heap₁, hwrite, hself, hframe, hnext⟩ :=
    Heap.write_of_live (b := m.msg.stamp myMbox toMbox) hm
  have hinv₁ : (s.setHeap heap₁).Inv q := h.ofHeld hm hframe
  have hstamped : (s.setHeap heap₁).heap.cells p = some (m.stamp myMbox toMbox).msg := hself
  simp only [prepareForward, Heap.read_of_live hm, hwrite, bind, Except.bind] at hcall
  obtain ⟨o₁, hreq, hcall⟩ := bind_eq_ok hcall
  cases o₁ with
  | none =>
    cases hcall
    exact ⟨⟨q, hinv₁⟩, hstamped, fun _ _ heq => by cases heq⟩
  | some req =>
    obtain ⟨u, rfl⟩ := fwdRequest_user (m.stamp myMbox toMbox).wellFormed hreq
    have hinv₂ : ((s.setHeap heap₁).alloc u.msg).2.Inv q :=
      hinv₁.ofHeap (hinv₁.messages.alloc u.msg) hinv₁.layout.sysvmqInst
    obtain ⟨⟨itcgw, s₃⟩, hfind, hcall⟩ := bind_some_eq_ok hcall rfl
    have hkept := findItcgw_kept hinv₂ hwait hfind
    have hp₃ := hkept.held p _ (.inl rfl) (Heap.push_of_live hstamped)
    have hreq₃ : s₃.heap.cells heap₁.next = some u.msg :=
      hkept.held heap₁.next u (.inr hnext) (Heap.push_next heap₁ u.msg)
    have hne : heap₁.next ≠ p := Nat.ne_of_gt (Heap.lt_next hstamped)
    simp only at hcall
    split at hcall
    · obtain ⟨heap₄, hfree, -, hframe₄, -⟩ := itcFree_user hreq₃
      have hfree' : itcFree s₃ (ItcInstance.alloc (s.setHeap heap₁) u.msg).1 =
          .ok (s₃.setHeap heap₄) := hfree
      rw [hfree'] at hcall
      cases hcall
      obtain ⟨q₃, hinv₃⟩ := hkept.inv
      refine ⟨⟨q₃, hinv₃.ofHeld hreq₃ hframe₄⟩, ?_, fun _ _ heq => by cases heq⟩
      exact (hframe₄ p hne.symm).trans hp₃
    · cases hcall
      refine ⟨hkept.inv, hp₃, ?_⟩
      rintro _ _ ⟨⟩
      exact ⟨hne, u, hreq₃, hreq⟩

/-! ## Faults -/

theorem readLocateReply_onlyOverruns (e : Endian) (m : ItcMessage) (findOnlyInternal : Bool) :
    OnlyOverruns (readLocateReply e m findOnlyInternal) := by
  unfold readLocateReply
  refine (load32_onlyOverruns e m.body 0).bind fun msgno _ => ?_
  split
  · exact .ok _
  · refine (load32_onlyOverruns e m.body 4).bind fun mboxId _ => ?_
    split
    · exact .ok _
    · refine (load8_onlyOverruns m.body 12).bind fun isExternal _ => ?_
      exact (strAt_onlyOverruns m.body offSyncName).bind fun ns _ => .ok _

theorem itcReceiveTmo_onlyOverruns {wait : Wait σ} (h : s.Inv q) (hwait : wait.Keeps own)
    (tid : Nat) : OnlyOverruns (itcReceiveTmo wait s tid) := by
  obtain ⟨q₁, h₁⟩ := (hwait s q h).inv
  unfold itcReceiveTmo
  simp only
  split
  · exact .ok _
  · exact (itcReceive_returns h₁ tid).onlyOverruns

/-- A reply that is too short makes the wait read outside its block; nothing else goes wrong. -/
theorem awaitLocateReply_onlyOverruns {wait : Wait σ} (h : s.Inv q) (hwait : wait.Keeps own)
    (tid : Nat) (findOnlyInternal : Bool) :
    OnlyOverruns (awaitLocateReply E wait s tid findOnlyInternal) := by
  unfold awaitLocateReply
  refine (itcReceiveTmo_onlyOverruns h hwait tid).bind fun o hreceive => ?_
  cases o with
  | none => exact .ok _
  | some out =>
    obtain ⟨msg, s₁⟩ := out
    cases msg with
    | none => exact .ok _
    | some p =>
      obtain ⟨-, hmsg⟩ := itcReceiveTmo_spec h hwait hreceive
      obtain ⟨⟨m, hm⟩, -⟩ := hmsg p rfl
      obtain ⟨heap', hfree, -⟩ := itcFree_user hm
      simp only [Heap.read_of_live hm, hfree, bind, Except.bind]
      exact (readLocateReply_onlyOverruns E.endian m.msg findOnlyInternal).bind fun _ _ => .ok _

theorem findItcgw_onlyOverruns {fuel : Nat} {wait : Wait σ} (h : s.Inv q)
    (hwait : wait.Keeps own) (tid : Nat) : OnlyOverruns (findItcgw E fuel wait s tid) := by
  have ha := E.malloc.ge
  have hlen : ITC_GATEWAY_MBOX_TCP_CLI_NAME.strlen = 23 := by decide +kernel
  have hfits : offSyncName + ITC_GATEWAY_MBOX_TCP_CLI_NAME.strlen + 1 + ITC_HEADER_SIZE + 1 ≤
      E.malloc.maxMallocsize := by
    simp only [hlen, offSyncName, ITC_HEADER_SIZE, ITC_MAX_MSGSIZE] at ha ⊢
    omega
  unfold findItcgw
  split
  · exact .ok _
  · refine OnlyOverruns.bind ?_ fun o _ => ?_
    · unfold itcLocateSync
      split
      · exact .ok _
      · rename_i me _
        split
        · exact .ok _
        · refine OnlyOverruns.bind ?_ fun o hsend => ?_
          · obtain ⟨u, hu, -⟩ := syncMsg_ok E.endian E.malloc ITC_LOCATE_MBOX_SYNC_REQUEST
              (s.mboxes me).mboxId 1000 true hfits
            simp only [sendLocateRequest, locateMboxSyncRequest, hu, bind, Except.bind]
            exact (sendOrFree_returns (h.ofHeap (h.messages.alloc u.msg) h.layout.sysvmqInst)
              (Heap.push_next s.heap u.msg) fuel tid _ _).onlyOverruns
          · cases o with
            | none => exact .ok _
            | some out =>
              obtain ⟨sent, s₁⟩ := out
              obtain ⟨q₁, h₁⟩ := (sendLocateRequest_kept h own hsend).inv
              cases sent with
              | false => exact .ok _
              | true => exact awaitLocateReply_onlyOverruns h₁ hwait tid true
    · cases o with
      | none => exact .ok _
      | some out => exact .ok _

theorem fwdRequest_onlyOverruns {e : Endian} {a : Allocator} {m : ItcMessage} {ns : CString} :
    OnlyOverruns (fwdRequest e a m ns) := by
  have ha := a.ge
  unfold fwdRequest
  dsimp only
  split
  · exact .ok _
  · rename_i hfit
    simp only [ITC_GATEWAY_ETH_PACKET_SIZE, ITC_HEADER_SIZE, ITC_MAX_MSGSIZE] at hfit ha
    have halloc := itcAllocZz_ok e a ITC_FWD_DATA_TO_ITCGWS
      (show 4 ≤ offPayload + (m.size.toNat + 16) by simp only [offPayload]; omega)
      (by simp only [offPayload, ITC_HEADER_SIZE]; omega)
    simp only [ITC_HEADER_SIZE, halloc, deref, bind, Except.bind]
    refine (storeBytes_onlyOverruns _ offToNamespace ns.withNul).bind fun body₁ _ => ?_
    refine (memset_onlyOverruns body₁ _ 0 _).bind fun body₂ _ => ?_
    refine (storeBytes_onlyOverruns body₂ offPayloadLength _).bind fun body₃ _ => ?_
    refine (slice_onlyOverruns _ 0 _).bind fun payload _ => ?_
    exact (storeBytes_onlyOverruns body₃ offPayload payload).bind fun _ _ => .ok _

theorem prepareForward_onlyOverruns {fuel : Nat} {wait : Wait σ} {tid p : Nat} {m : UserMessage}
    {myMbox toMbox : MboxId} {ns : CString} (h : s.Inv q) (hm : s.heap.cells p = some m.msg)
    (hwait : wait.Keeps fun p' => p' = p ∨ p' = s.heap.next) :
    OnlyOverruns (prepareForward E fuel wait s tid myMbox p toMbox ns) := by
  obtain ⟨heap₁, hwrite, hself, hframe, hnext⟩ :=
    Heap.write_of_live (b := m.msg.stamp myMbox toMbox) hm
  have hinv₁ : (s.setHeap heap₁).Inv q := h.ofHeld hm hframe
  simp only [prepareForward, Heap.read_of_live hm, hwrite, bind, Except.bind]
  refine fwdRequest_onlyOverruns.bind fun o hreq => ?_
  cases o with
  | none => exact .ok _
  | some req =>
    obtain ⟨u, rfl⟩ := fwdRequest_user (m.stamp myMbox toMbox).wellFormed hreq
    have hinv₂ : ((s.setHeap heap₁).alloc u.msg).2.Inv q :=
      hinv₁.ofHeap (hinv₁.messages.alloc u.msg) hinv₁.layout.sysvmqInst
    refine (findItcgw_onlyOverruns hinv₂ hwait tid).bind fun o hfind => ?_
    cases o with
    | none => exact .ok _
    | some out =>
      obtain ⟨itcgw, s₃⟩ := out
      have hreq₃ : s₃.heap.cells heap₁.next = some u.msg :=
        (findItcgw_kept hinv₂ hwait hfind).held heap₁.next u (.inr hnext) (Heap.push_next heap₁ u.msg)
      obtain ⟨heap₄, hfree, -⟩ := itcFree_user hreq₃
      have hfree' : itcFree s₃ (ItcInstance.alloc (s.setHeap heap₁) u.msg).1 =
          .ok (s₃.setHeap heap₄) := hfree
      simp only [hfree']
      split
      · exact .ok _
      · exact .ok _

end ItcFramework
