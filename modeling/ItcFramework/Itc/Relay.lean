import ItcFramework.Itc.Forward
import ItcFramework.Itc.SyncRequest
import ItcFramework.Transport.SysvmqDelivery

/-!
# The way of a message within a host

A message that `itc_send` has taken lies in an rx queue of the process, or its image lies in a
System V queue of the host, from where the rx thread of another process sends it on.

* `ProcessStep` — what the threads of a process do, one after the other.
* `Delivered` — from such a place a message comes to the `itc_receive` that returns it. The index
  lists the mailboxes of the rx threads that have sent it on the way.
* `Delivered.message` — it is received as it was taken, but for the sender: that is the mailbox
  of the last thread that has sent it.
-/

set_option autoImplicit false

namespace ItcFramework

open ByteImage HeapModel ItcInstance Transition

variable {σ : Type}

/-! ## What the threads of a process do -/

/-- A synchronous request is what it allocates, sends, receives and frees, and what it keeps of
its reply. -/
inductive ProcessStep (E : ItcEnv σ) : ItcInstance σ → Option ItcEvent → ItcInstance σ → Prop where
  | call {s s' : ItcInstance σ} {a : ItcEvent} (h : ItcStep E s a s') : ProcessStep E s (some a) s'
  | keepItcgw (s : ItcInstance σ) (itcgwMboxid : MboxId) :
      ProcessStep E s none (s.setItcgwMboxid itcgwMboxid)
  | keepNs (s : ItcInstance σ) (ns : CString) : ProcessStep E s none (s.setNs ns)

/-- The threads use messages of their own. -/
def OwnMessages (s : ItcInstance σ) : Option ItcEvent → Prop
  | none => True
  | some a => UsesOwn s a

/-- No thread receives the message at `p`. -/
def NotReceived (p : Nat) : Option ItcEvent → Prop
  | some (.receive _ _ (some d)) => d.1 ≠ p
  | _ => True

/-- A process comes to this state after `itc_init_zz`. -/
def Reached (E : ItcEnv σ) (s : ItcInstance σ) : Prop :=
  ∃ (proc : Nat) (nrMboxes : UInt32) (maxMsgsize : Nat) (kernel : σ) (as : List (Option ItcEvent)),
    nrMboxes ≠ 0 ∧ nrMboxes.toNat < 2 ^ mboxBits ∧
      Run (Guarded (ProcessStep E) OwnMessages) (.init proc nrMboxes maxMsgsize kernel) as s

theorem Reached.init {E : ItcEnv σ} (proc : Nat) (nrMboxes : UInt32) (maxMsgsize : Nat) (kernel : σ)
    (hpos : nrMboxes ≠ 0) (hlt : nrMboxes.toNat < 2 ^ mboxBits) :
    Reached E (.init proc nrMboxes maxMsgsize kernel) :=
  ⟨proc, nrMboxes, maxMsgsize, kernel, [], hpos, hlt, .nil _⟩

theorem Reached.call {E : ItcEnv σ} {s s' : ItcInstance σ} {a : ItcEvent} (h : Reached E s)
    (hstep : ItcStep E s a s') (hown : UsesOwn s a) : Reached E s' := by
  obtain ⟨proc, nrMboxes, maxMsgsize, kernel, as, hpos, hlt, hrun⟩ := h
  exact ⟨proc, nrMboxes, maxMsgsize, kernel, as ++ [some a], hpos, hlt,
    hrun.snoc ⟨hown, .call hstep⟩⟩

/-! ## Where a message is on its way -/

inductive Place (σ : Type) where
  /-- In an rx queue of a process. -/
  | rxQueue (E : ItcEnv σ) (s : ItcInstance σ) (p : Nat)
  /-- In a System V queue of the host. -/
  | sysvmq (mtext : Bytes)

/-- Where a send has left its message. -/
def SendResult.place (E : ItcEnv σ) (p : Nat) (r : SendResult σ) : Option (Place σ) :=
  match r.taken with
  | some .rxQueue => some (.rxQueue E r.s p)
  | some (.copied mtext) => some (.sysvmq mtext)
  | _ => none

/-- Whatever else goes on, the message is received in the end, as `m`. -/
inductive Delivered (e : Endian) : Place σ → List MboxId → ItcMessage → Prop where
  | wait {E : ItcEnv σ} {s s' : ItcInstance σ} {a : Option ItcEvent} {p : Nat}
      {hops : List MboxId} {m : ItcMessage} (hown : OwnMessages s a) (hnot : NotReceived p a)
      (hstep : ProcessStep E s a s') (rest : Delivered e (.rxQueue E s' p) hops m) :
      Delivered e (.rxQueue E s p) hops m
  | receive {E : ItcEnv σ} {s s' : ItcInstance σ} {tid p : Nat} {m : ItcMessage}
      (hcall : itcReceive s tid = .ok (some (some p, s'))) (hm : s'.heap.cells p = some m) :
      Delivered e (.rxQueue E s p) [] m
  /-- The rx thread of a process takes the text off the queue and sends it on. -/
  | relay {E : ItcEnv σ} {s : ItcInstance σ} {fuel tid p : Nat} {rx rx' : SysvmqRx}
      {mtext : Bytes} {message m : ItcMessage} {r : SendResult σ} {place : Place σ}
      {hops : List MboxId} (he : E.endian = e) (hs : Reached E s)
      (hrx : sysvmqRxThread E.endian E.malloc rx (.text mtext) = .ok (rx', some message))
      (hsend : sendCopy E fuel s tid message = .ok (some (p, r)))
      (hplace : r.place E p = some place) (rest : Delivered e place hops m) :
      Delivered e (.sysvmq mtext) (s.myMboxId tid :: hops) m

variable {E : ItcEnv σ} {s s' : ItcInstance σ} {q : Queues} {p : Nat} {u : UserMessage}

/-! ## Waiting in an rx queue -/

/-- The message `u` is in an rx queue still, or has been freed with its mailbox. -/
structure Pending (s : ItcInstance σ) (p : Nat) (u : UserMessage) : Prop where
  inv : ∃ q, s.Inv q
  lt : p < s.heap.next
  cell : s.heap.cells p = some u.queued ∨ s.heap.cells p = none

/-- **A step of a process leaves a message in its rx queue alone**, unless it receives it or
deletes the mailbox. -/
theorem ItcStep.pending_cell {a : ItcEvent} (h : s.Inv q) (hown : UsesOwn s a)
    (hnot : NotReceived p (some a)) (hp : s.heap.cells p = some u.queued)
    (hstep : ItcStep E s a s') : s'.heap.cells p = some u.queued ∨ s'.heap.cells p = none := by
  have hheld : ∀ msg, s.Held msg → p ≠ msg := by
    rintro msg ⟨m, hm⟩ rfl
    exact m.msg_ne_queued u (Option.some.inj (hm.symm.trans hp))
  cases hstep with
  | alloc _ => exact .inl (Heap.push_of_live hp)
  | write call =>
    exact .inl ((Heap.write_frame call p (hheld _ hown)).trans hp)
  | free call =>
    obtain ⟨m, hm⟩ := hown
    obtain ⟨heap', rfl, hframe⟩ := itcFree_ok hm call
    exact .inl ((hframe p (hheld _ ⟨m, hm⟩)).trans hp)
  | @createMailbox _ fuel t name flags ret call =>
    have hcreated := (itcCreateMailbox_returns h hown fuel t flags).of_eq call
    cases hcreated with
    | failed =>
      exact .inl hp
    | created _ _ _ hheap =>
      exact .inl ((hheap p).trans hp)
  | @send fuel t msg toMbox fromMbox r call =>
    cases msg with
    | none =>
      rw [itcSend_null] at call
      cases call
      exact .inl hp
    | some msg =>
      obtain ⟨m, hm⟩ := hown _ rfl
      obtain ⟨-, hframe⟩ := ((itcSend_returns h hm fuel t toMbox fromMbox).of_eq call).inv h hm
      exact .inl ((hframe p (hheld _ ⟨m, hm⟩)).trans hp)
  | @receive _ t ret call =>
    have hreceived := (itcReceive_returns h t).of_eq call
    cases hreceived with
    | nothing _ _ hheap =>
      exact .inl (by rw [hheap, hp])
    | message _ _ _ _ hheap =>
      exact .inl ((hheap.frame p (Ne.symm hnot)).trans hp)
  | getFd call => exact .inl (by rw [(itcGetFd_inv h call).2, hp])
  | @deleteMailbox _ fuel t mboxId ret call =>
    have hdeleted := (itcDeleteMailbox_returns h fuel t mboxId).of_eq call
    cases hdeleted with
    | failed _ =>
      exact .inl hp
    | @deleted me l _ _ _ _ _ hfreed hheap _ _ _ =>
      by_cases hmem : p ∈ l
      · exact .inr (hfreed p hmem)
      · exact .inl ((hheap p hmem).trans hp)

theorem ProcessStep.inv {a : Option ItcEvent} (h : s.Inv q) (hown : OwnMessages s a)
    (hstep : ProcessStep E s a s') : ∃ q', s'.Inv q' := by
  cases hstep with
  | call hcall =>
    obtain ⟨t, hothers⟩ := UsesOwn.others hown
    exact (hcall.kept h hothers).inv
  | keepItcgw itcgwMboxid => exact ⟨q, h.setItcgwMboxid itcgwMboxid⟩
  | keepNs ns => exact ⟨q, h.setNs ns⟩

theorem Reached.inv (h : Reached E s) : ∃ q, s.Inv q := by
  obtain ⟨proc, nrMboxes, maxMsgsize, kernel, as, hpos, hlt, hrun⟩ := h
  refine hrun.invariant (I := fun s => ∃ q, s.Inv q) ?_
    ⟨_, .init proc hpos hlt maxMsgsize kernel⟩
  rintro s a s' ⟨q, hs⟩ ⟨hown, hstep⟩
  exact hstep.inv hs hown

theorem Pending.step {a : Option ItcEvent} (h : Pending s p u) (hown : OwnMessages s a)
    (hnot : NotReceived p a) (hstep : ProcessStep E s a s') : Pending s' p u := by
  obtain ⟨q, hs⟩ := h.inv
  refine ⟨hstep.inv hs hown, ?_, ?_⟩
  · cases hstep with
    | call hcall => exact Nat.lt_of_lt_of_le h.lt hcall.evolves.next
    | keepItcgw => exact h.lt
    | keepNs => exact h.lt
  · cases hstep with
    | call hcall =>
      rcases h.cell with hp | hp
      · exact hcall.pending_cell hs hown hnot hp
      · exact .inr (hcall.evolves.dead p h.lt hp)
    | keepItcgw => exact h.cell
    | keepNs => exact h.cell

theorem UserMessage.queued_inj {m m' : UserMessage} (h : m.queued = m'.queued) : m.msg = m'.msg := by
  rw [← m.flags_dequeue, h, m'.flags_dequeue]

/-- Received, it is what was put into the queue. -/
theorem Pending.received {tid : Nat} {m : ItcMessage} (h : Pending s p u)
    (hcall : itcReceive s tid = .ok (some (some p, s'))) (hm : s'.heap.cells p = some m) :
    m = u.msg := by
  obtain ⟨q, hs⟩ := h.inv
  have hreceived := (itcReceive_returns hs tid).of_eq hcall
  cases hreceived with
  | @message _ _ _ _ m' _ _ hqueued _ hheap =>
    have hmsg : m = m'.msg := Option.some.inj (hm.symm.trans hheap.self)
    rcases h.cell with hp | hp
    · rw [hp] at hqueued
      rw [hmsg, UserMessage.queued_inj (Option.some.inj hqueued)]
    · rw [hp] at hqueued
      cases hqueued

/-! ## From place to place -/

/-- What lies there is the message `u`. -/
def Place.Holds (e : Endian) (u : UserMessage) : Place σ → Prop
  | .rxQueue _ s p => Pending s p u
  | .sysvmq mtext => mtext = u.msg.image e

/-- A send leaves its message with the caller's mailbox for sender. -/
theorem ItcInstance.Sent.holds {tid : Nat} {toMbox fromMbox : MboxId} {r : SendResult σ}
    {place : Place σ} (hsent : Sent E s q tid p u toMbox fromMbox r) (h : s.Inv q)
    (hp : s.heap.cells p = some u.msg) (hplace : r.place E p = some place) :
    place.Holds E.endian (u.stamp (s.myMboxId tid) toMbox) := by
  obtain ⟨hinv, -⟩ := hsent.inv h hp
  cases hsent with
  | rejected _ => cases hplace
  | host hmay hhost =>
    obtain ⟨me, hme, hid, -⟩ := hmay
    have hmy : s.myMboxId tid = (s.mboxes me).mboxId := by rw [ItcInstance.myMboxId, hme]; rfl
    rw [hmy, hid]
    cases hhost with
    | inactive => cases hplace
    | refused => cases hplace
    | queued _ _ _ _ _ hheap =>
      cases hplace
      refine ⟨hinv, ?_, .inl hheap.self⟩
      exact Nat.lt_of_lt_of_eq (Heap.lt_next hp) hheap.next.symm
    | taken _ _ _ _ ht _ =>
      rcases ht with ⟨-, rfl⟩ | ⟨-, rfl⟩
      · cases hplace
        rfl
      · cases hplace

/-- **What the rx thread sends on is what was sent to its process.** -/
theorem sysvmqRxThread_message {e : Endian} {a : Allocator} {rx rx' : SysvmqRx}
    {message : ItcMessage}
    (h : sysvmqRxThread e a rx (.text (u.msg.image e)) = .ok (rx', some message)) :
    message = u.msg := by
  obtain ⟨buf, hcopy, h⟩ := bind_eq_ok h
  obtain ⟨-, -, rfl⟩ := memcpy_fits hcopy
  rw [List.take_length] at h
  split at h
  · cases h
  · obtain ⟨fwd, hfwd, h⟩ := bind_eq_ok h
    cases h
    -- the copy was granted, so the message is not too large
    have hfit : u.msg.size.toNat + ITC_HEADER_SIZE + 1 ≤ a.maxMallocsize := by
      obtain ⟨rxmsg, himage, hfwd⟩ := bind_eq_ok hfwd
      rw [ItcMessage.image, List.append_assoc, ItcMessage.ofImage_header_append] at himage
      cases himage
      obtain ⟨x, -, hfwd⟩ := bind_eq_ok hfwd
      split at hfwd
      · cases hfwd
      · obtain ⟨o, halloc, hfwd⟩ := bind_eq_ok hfwd
        cases o with
        | none => cases hfwd
        | some msg =>
          have hgranted : max u.msg.size.toNat 4 + ITC_HEADER_SIZE + 1 ≤ a.maxMallocsize :=
            (itcAllocZz_fits halloc).1.1
          omega
    rw [forwardSysvmqMsg_image _ hfit] at hfwd
    exact (Option.some.inj (Except.ok.inj hfwd)).symm

/-- A copy that has been sent on. -/
theorem sendCopy_holds {fuel tid : Nat} {r : SendResult σ} {place : Place σ} (h : s.Inv q)
    (hsend : sendCopy E fuel s tid u.msg = .ok (some (p, r)))
    (hplace : r.place E p = some place) :
    place.Holds E.endian (u.stamp (s.myMboxId tid) u.msg.receiver) := by
  obtain ⟨hp, hsent⟩ := (sendCopy_returns h fuel tid u).of_eq hsend
  have hinv : (s.alloc u.msg).2.Inv q := h.ofHeap (h.messages.alloc u.msg) h.layout.sysvmqInst
  have hcell : (s.alloc u.msg).2.heap.cells s.heap.next = some u.msg :=
    Heap.push_next s.heap u.msg
  rw [show p = s.heap.next from hp] at hplace
  exact hsent.holds hinv hcell hplace

/-- **What is received is what was sent, but for the sender**: each thread on the way puts its own
mailbox there. -/
theorem Delivered.message {e : Endian} {place : Place σ} {hops : List MboxId} {m : ItcMessage}
    (h : Delivered e place hops m) (hu : place.Holds e u) :
    m = (u.stamp (hops.getLastD u.msg.sender) u.msg.receiver).msg := by
  induction h generalizing u with
  | wait hown hnot hstep _ ih => exact ih (Pending.step hu hown hnot hstep)
  | receive hcall hm => exact Pending.received hu hcall hm
  | relay he hs hrx hsend hplace _ ih =>
    subst he
    obtain ⟨q, hinv⟩ := hs.inv
    have htext := hu
    simp only [Place.Holds] at htext
    rw [htext] at hrx
    rw [sysvmqRxThread_message hrx] at hsend
    rw [List.getLastD_cons]
    exact ih (sendCopy_holds hinv hsend hplace)

end ItcFramework
