import ItcFramework.Itc.Exchange

/-!
# Waiting while other threads run

The other threads of the process go on while one of them waits for a reply.

* `OtherThreads` — what those threads may do: call what they like, with messages of their own.
* `Wait.Others` — a wait during which they do that and nothing else.
* `ItcStep.receivable` — no call leaves a mailbox whose next receive blocks on its eventfd.
* `ItcStep.quiet`, `ItcStep.kept` — what one step of another thread leaves alone, `run_quiet` and
  `run_kept` — what a run of them does.
* `takes_of_receiveTmo` — a wait after which the message received is freed takes the first message
  of the queue at most.
-/

set_option autoImplicit false

namespace ItcFramework

open ByteImage HeapModel ItcInstance Transition

variable {σ : Type} {E : ItcEnv σ} {s s' : ItcInstance σ} {q : Queues} {own : Nat → Prop}

/-! ## The other threads -/

/-- What the other threads may do while `tid` waits: not act for `tid`, and use messages that are
in a user's hands and not among `own`, those of `tid`. -/
def OtherThreads (tid : Nat) (own : Nat → Prop) (s : ItcInstance σ) : ItcEvent → Prop
  | .alloc _ _ => True
  | .write msg _ => s.Held msg ∧ ¬ own msg
  | .free msg => s.Held msg ∧ ¬ own msg
  | .createMailbox t name _ _ => t ≠ tid ∧ name.strlen < ITC_MAX_NAME_LENGTH
  | .send t msg _ _ _ => t ≠ tid ∧ ∀ d, msg = some d → s.Held d.1 ∧ ¬ own d.1
  | .receive t _ _ => t ≠ tid
  | .getFd t => t ≠ tid
  | .deleteMailbox t _ _ => t ≠ tid

/-- A call with messages in the caller's hands. -/
def UsesOwn (s : ItcInstance σ) : ItcEvent → Prop
  | .write msg _ => s.Held msg
  | .free msg => s.Held msg
  | .createMailbox _ name _ _ => name.strlen < ITC_MAX_NAME_LENGTH
  | .send _ msg _ _ _ => ∀ d, msg = some d → s.Held d.1
  | _ => True

/-- There is a thread for which the caller is another. -/
theorem UsesOwn.others {s : ItcInstance σ} {a : ItcEvent} (h : UsesOwn s a) :
    ∃ t, OtherThreads t (fun _ => False) s a := by
  cases a with
  | alloc => exact ⟨0, trivial⟩
  | write => exact ⟨0, h, id⟩
  | free => exact ⟨0, h, id⟩
  | createMailbox t => exact ⟨t + 1, Nat.ne_of_lt (Nat.lt_succ_self t), h⟩
  | send t => exact ⟨t + 1, Nat.ne_of_lt (Nat.lt_succ_self t), fun d hd => ⟨h d hd, id⟩⟩
  | receive t => exact ⟨t + 1, Nat.ne_of_lt (Nat.lt_succ_self t)⟩
  | getFd t => exact ⟨t + 1, Nat.ne_of_lt (Nat.lt_succ_self t)⟩
  | deleteMailbox t => exact ⟨t + 1, Nat.ne_of_lt (Nat.lt_succ_self t)⟩

/-- The others have their messages in their own hands. -/
theorem OtherThreads.usesOwn {tid : Nat} {a : ItcEvent} (h : OtherThreads tid own s a) :
    UsesOwn s a := by
  cases a with
  | write => exact h.1
  | free => exact h.1
  | createMailbox => exact h.2
  | send => exact fun d hd => (h.2 d hd).1
  | _ => trivial

/-- The thread waits while other threads run. -/
def Wait.Others (E : ItcEnv σ) (tid : Nat) (own : Nat → Prop) (wait : Wait σ) : Prop :=
  ∀ s, ∃ as, Run (Guarded (ItcStep E) (OtherThreads tid own)) s as (wait s).2

/-! ## What stays receivable -/

namespace ItcInstance.Receivable

variable {tid : Nat}

/-- A mailbox whose counters change for the same queue. -/
theorem setRxqInfo (hr : s.Receivable) {i : Nat} {info : RxqInfo}
    (hinfo : ∀ n, (s.mboxes i).rxqInfo.Covers n → info.Covers n) :
    (s.setRxqInfo i info).Receivable := by
  intro j l hl
  by_cases hji : j = i
  · rw [hji, setRxqInfo_mboxes_self]
    exact hinfo _ (hr i l (hji ▸ hl))
  · rw [setRxqInfo_ne s info hji]
    exact hr j l hl

theorem notifyReceiver (hr : s.Receivable) (o : Option Nat) :
    (ItcFramework.notifyReceiver s o).Receivable := by
  cases o with
  | none => exact hr
  | some i =>
    simp only [ItcFramework.notifyReceiver]
    split
    · exact hr.setRxqInfo fun n hn => hn.onSend.mono (Nat.le_succ n)
    · exact hr

theorem createMailbox {name : CString} {flags : UInt32} {r : MboxId × ItcInstance σ}
    (hr : s.Receivable) (h : s.Inv q) (hcreated : Created s q tid name flags r) :
    r.2.Receivable := by
  cases hcreated with
  | failed => exact hr
  | created _ _ hinv _ hmboxes _ _ =>
    refine hr.update h hinv (fun j hj => by rw [hmboxes]; simp only [if_neg hj]) ?_
    rintro _ ⟨⟩
    rw [hmboxes]
    simp only [if_true]
    exact .zero rfl

theorem deleteMailbox {mboxId : MboxId} {r : Bool × ItcInstance σ} (hr : s.Receivable)
    (h : s.Inv q) (hdeleted : Deleted s q tid mboxId r) : r.2.Receivable := by
  cases hdeleted with
  | failed _ => exact hr
  | deleted _ _ _ hinv _ _ hmboxes _ _ =>
    exact hr.update h hinv (fun j hj => by rw [hmboxes]; simp only [if_neg hj]) nofun

theorem send {p : Nat} {m : UserMessage} {toMbox fromMbox : MboxId} {r : SendResult σ}
    (hr : s.Receivable) (h : s.Inv q) (hm : s.heap.cells p = some m.msg)
    (hsent : Sent E s q tid p m toMbox fromMbox r) : r.s.Receivable := by
  cases hsent with
  | rejected _ => exact hr
  | host _ hhost =>
    cases hhost with
    | inactive _ _ => exact hr.congr rfl fun _ => rfl
    | refused _ _ _ _ _ => exact hr.congr rfl fun _ => rfl
    | @taken heap' inst k _ _ _ _ _ _ _ =>
      have hr' : (s.setSysvmq inst k heap').Receivable := hr.congr rfl fun _ => rfl
      exact hr'.notifyReceiver _
    | @queued i l rxq heap' _ _ hq _ hholds hheap =>
      have h' := h.setQueue (s.mboxes i).rxqInfo.onSend hq hholds
        (h.messages.enqueue hq hm hheap.self hheap.frame)
      refine hr.update h h' (fun j hj => by rw [setRxqInfo_ne _ _ hj]; rfl) ?_
      rintro _ ⟨⟩
      rw [setRxqInfo_mboxes_self, List.length_append]
      exact ((iff h).mp hr i l hq).onSend

theorem receive {ret : Option Nat} (hr : s.Receivable) (h : s.Inv q)
    (hcall : itcReceive s tid = .ok (some (ret, s'))) : s'.Receivable := by
  cases ht : s.myThreadlocalMbox tid with
  | none =>
    rw [itcReceive, ht] at hcall
    cases hcall
    exact hr
  | some me =>
    obtain ⟨l, hq⟩ := Option.ne_none_iff_exists'.mp (h.slots.thread tid me ht)
    have hcovers := (iff h).mp hr me l hq
    cases l with
    | nil =>
      obtain ⟨rxq, hempty, hinv⟩ := itcReceive_empty h ht hq
      rw [hempty] at hcall
      cases hcall
      have hupdate : Function.update q me (some []) = q := by rw [← hq, Function.update_eq_self]
      rw [← hupdate] at hinv
      refine hr.update h hinv (fun j hj => by rw [setRxqInfo_ne _ _ hj]; rfl) ?_
      rintro _ ⟨⟩
      rw [setRxqInfo_mboxes_self]
      exact ⟨hcovers.rxqLen, hcovers.rxqFd⟩
    | cons p l =>
      obtain ⟨m, rxq, heap', -, -, hfirst, hinv⟩ := itcReceive_first h ht hq
      obtain ⟨info, hinfo, hcovers'⟩ := hcovers.onReceive
      rw [hfirst, hinfo] at hcall
      cases hcall
      refine hr.update h (hinv info) (fun j hj => by rw [setRxqInfo_ne _ _ hj]; rfl) ?_
      rintro _ ⟨⟩
      rw [setRxqInfo_mboxes_self]
      exact hcovers'

end ItcInstance.Receivable

/-- **No call leaves a mailbox whose next receive blocks on its eventfd.** -/
theorem ItcStep.receivable {a : ItcEvent} (h : s.Inv q) (huses : UsesOwn s a)
    (hstep : ItcStep E s a s') (hr : s.Receivable) : s'.Receivable := by
  cases hstep with
  | alloc _ => exact hr.congr rfl fun _ => rfl
  | write _ => exact hr.congr rfl fun _ => rfl
  | free call =>
    obtain ⟨m, hm⟩ := huses
    obtain ⟨heap', rfl, -⟩ := itcFree_ok hm call
    exact hr.congr rfl fun _ => rfl
  | @createMailbox _ fuel t name flags ret call =>
    exact hr.createMailbox h ((itcCreateMailbox_returns h huses fuel t flags).of_eq call)
  | @send fuel t msg toMbox fromMbox r call =>
    cases msg with
    | none =>
      rw [itcSend_null] at call
      cases call
      exact hr
    | some p =>
      obtain ⟨m, hm⟩ := huses _ rfl
      exact hr.send h hm ((itcSend_returns h hm fuel t toMbox fromMbox).of_eq call)
  | receive call => exact hr.receive h call
  | getFd call =>
    rcases itcGetFd_cases h call with rfl | ⟨me, l, -, -, rfl, -⟩
    · exact hr
    · exact hr.setRxqInfo fun n hn => hn.onGetFd
  | @deleteMailbox _ fuel t mboxId ret call =>
    exact hr.deleteMailbox h ((itcDeleteMailbox_returns h fuel t mboxId).of_eq call)

/-! ## What keeps quiet -/

/-- The queue of the thread's mailbox is known. -/
theorem Quiet.of_queues {tid me : Nat} {q' : Queues} (h : s.Inv q) (h' : s'.Inv q')
    (ht' : s'.myThreadlocalMbox tid = some me)
    (hqueue : ∀ l, q me = some l → ∃ more, q' me = some (l ++ more))
    (hkept : ∀ l, q me = some l → ∀ p ∈ l, s'.heap.cells p = s.heap.cells p)
    (hevolves : Heap.Evolves s.heap s'.heap) (hreceivable : s.Receivable → s'.Receivable) :
    Quiet tid me s s' where
  inv := ⟨q', h'⟩
  thread := ht'
  queue := by
    intro l hl
    obtain ⟨more, hmore⟩ := hqueue l ((RxMessages.iff h me l).mp hl)
    exact ⟨more, (RxMessages.iff h' me _).mpr hmore⟩
  kept := fun l hl => hkept l ((RxMessages.iff h me l).mp hl)
  evolves := hevolves
  receivable := hreceivable

/-- The queues are what they were. -/
theorem Quiet.of_inv {tid me : Nat} (h : s.Inv q) (h' : s'.Inv q)
    (ht' : s'.myThreadlocalMbox tid = some me)
    (hkept : ∀ l, q me = some l → ∀ p ∈ l, s'.heap.cells p = s.heap.cells p)
    (hevolves : Heap.Evolves s.heap s'.heap) (hreceivable : s.Receivable → s'.Receivable) :
    Quiet tid me s s' :=
  .of_queues h h' ht' (fun l hl => ⟨[], by rw [List.append_nil, hl]⟩) hkept hevolves hreceivable

/-- Only a message in a user's hands is touched. -/
theorem Quiet.of_held {tid me p : Nat} {m : UserMessage} (h : s.Inv q) (h' : s'.Inv q)
    (ht' : s'.myThreadlocalMbox tid = some me) (hm : s.heap.cells p = some m.msg)
    (hframe : ∀ p', p' ≠ p → s'.heap.cells p' = s.heap.cells p')
    (hevolves : Heap.Evolves s.heap s'.heap) (hreceivable : s.Receivable → s'.Receivable) :
    Quiet tid me s s' := by
  refine .of_inv h h' ht' (fun l hq p' hp' => hframe p' ?_) hevolves hreceivable
  rintro rfl
  exact h.messages.not_mem hm hq hp'

theorem Quiet.alloc {tid me : Nat} (h : s.Inv q) (ht : s.myThreadlocalMbox tid = some me)
    (m : ItcMessage) : Quiet tid me s (s.alloc m).2 := by
  have h' : (s.alloc m).2.Inv q := h.ofHeap (h.messages.alloc m) h.layout.sysvmqInst
  refine .of_inv h h' ht (fun l hq p hp => ?_) (.push s.heap m) fun hr => hr.congr rfl fun _ => rfl
  obtain ⟨m', hm'⟩ := h.messages.queued me l hq p hp
  exact Heap.push_of_ne s.heap m (Nat.ne_of_lt (Heap.lt_next hm'))

theorem Quiet.free {tid me p : Nat} {m : UserMessage} (h : s.Inv q)
    (ht : s.myThreadlocalMbox tid = some me) (hm : s.heap.cells p = some m.msg)
    (hcall : itcFree s p = .ok s') : Quiet tid me s s' := by
  have hevolves := itcFree_evolves hcall
  have ht' := (itcFree_sameSlots hcall).thread
  obtain ⟨heap', rfl, hframe⟩ := itcFree_ok hm hcall
  have h' : (s.setHeap heap').Inv q := h.ofHeld hm hframe
  exact .of_held h h' (by rw [ht', ht]) hm hframe hevolves fun hr => hr.congr rfl fun _ => rfl

/-- **A send, by whatever thread, adds a message to the queue at most.** -/
theorem Quiet.send {tid me t p fuel : Nat} {m : UserMessage} {toMbox fromMbox : MboxId}
    {r : SendResult σ} (h : s.Inv q) (ht : s.myThreadlocalMbox tid = some me)
    (hm : s.heap.cells p = some m.msg)
    (hcall : itcSend E fuel s t (some p) toMbox fromMbox = .ok (some r)) :
    Quiet tid me s r.s := by
  have hevolves := itcSend_evolves hcall
  have ht' : r.s.myThreadlocalMbox tid = some me := by
    rw [(itcSend_sameSlots hcall).thread, ht]
  have hsent := (itcSend_returns h hm fuel t toMbox fromMbox).of_eq hcall
  have hreceivable : s.Receivable → r.s.Receivable := fun hr => hr.send h hm hsent
  cases hsent with
  | rejected _ => exact .refl h ht
  | host _ hhost =>
    cases hhost with
    | inactive _ hheap =>
      exact .of_held h (h.ofHeld hm hheap.frame) ht' hm
        hheap.frame hevolves hreceivable
    | refused _ _ _ hconf hheap =>
      exact .of_held h (h.ofHeap (h.messages.of_held hm hheap.frame) hconf) ht' hm hheap.frame
        hevolves hreceivable
    | @taken heap' inst k _ _ _ _ hconf _ hheap =>
      have h' : (notifyReceiver (s.setSysvmq inst k heap') (findMbox s toMbox)).Inv q :=
        (h.ofHeap (h.messages.of_held hm hheap.frame) hconf).notifyReceiver _
      refine .of_held h h' ht' hm (fun p' hp' => ?_) hevolves hreceivable
      rw [notifyReceiver_heap]
      exact hheap.frame p' hp'
    | @queued i l rxq heap' _ _ hq _ hholds hheap =>
      have h' := h.setQueue (s.mboxes i).rxqInfo.onSend hq hholds
        (h.messages.enqueue hq hm hheap.self hheap.frame)
      refine .of_queues h h' ht' (fun l' hl' => ?_) (fun l' hl' p' hp' => hheap.frame p' ?_) hevolves
        hreceivable
      · by_cases hi : me = i
        · rw [hi, hq] at hl'
          cases hl'
          exact ⟨[p], by rw [hi, Function.update_self]⟩
        · exact ⟨[], by rw [Function.update_of_ne hi, List.append_nil, hl']⟩
      · rintro rfl
        exact h.messages.not_mem hm hl' hp'

theorem Quiet.sendOrFree {tid me t p fuel : Nat} {m : UserMessage} {toMbox fromMbox : MboxId}
    {sent : Bool} (h : s.Inv q) (ht : s.myThreadlocalMbox tid = some me)
    (hm : s.heap.cells p = some m.msg)
    (hcall : sendOrFree E fuel s t p toMbox fromMbox = .ok (some (sent, s'))) :
    Quiet tid me s s' := by
  obtain ⟨r, hsend, hs⟩ := sendOrFree_changes hcall
  have hquiet := Quiet.send h ht hm hsend
  rcases hs with ⟨-, rfl⟩ | ⟨hret, hfree⟩
  · exact hquiet
  · have hsent := (itcSend_returns h hm fuel t toMbox fromMbox).of_eq hsend
    obtain ⟨-, -, m', hm', -⟩ := hsent.failed hm hret
    obtain ⟨q', h'⟩ := hquiet.inv
    exact hquiet.trans (.free h' hquiet.thread hm' hfree)

/-- **A step of another thread keeps quiet.** -/
theorem ItcStep.quiet {tid me : Nat} {a : ItcEvent} (h : s.Inv q)
    (ht : s.myThreadlocalMbox tid = some me) (hguard : OtherThreads tid own s a)
    (hstep : ItcStep E s a s') : Quiet tid me s s' := by
  have hevolves := hstep.evolves
  have hreceivable : s.Receivable → s'.Receivable := hstep.receivable h hguard.usesOwn
  have hme := h.slots.thread tid me ht
  cases hstep with
  | alloc _ => exact .alloc h ht _
  | write call =>
    obtain ⟨⟨m, hm⟩, -⟩ := hguard
    have hframe := Heap.write_frame call
    exact .of_held h (h.ofHeld hm hframe) ht hm hframe hevolves hreceivable
  | free call =>
    obtain ⟨⟨m, hm⟩, -⟩ := hguard
    exact .free h ht hm call
  | @createMailbox _ fuel t name flags ret call =>
    obtain ⟨htid, hname⟩ := hguard
    have hcreated := (itcCreateMailbox_returns h hname fuel t flags).of_eq call
    cases hcreated with
    | failed =>
      exact .refl h ht
    | @created i rest s₁ _ hfree hinv hheap _ _ hthread =>
      obtain ⟨-, hq⟩ := h.slots.free i (by rw [hfree]; exact List.mem_cons_self)
      have hi : me ≠ i := by
        rintro rfl
        exact hme hq
      have ht' : s'.myThreadlocalMbox tid = some me := by
        rw [hthread]
        exact (if_neg htid.symm).trans ht
      refine .of_queues h hinv ht' (fun l hl => ⟨[], ?_⟩) (fun l _ p _ => hheap p) hevolves
        hreceivable
      rw [Function.update_of_ne hi, List.append_nil, hl]
  | @send fuel t msg toMbox fromMbox r call =>
    obtain ⟨-, hmsg⟩ := hguard
    cases msg with
    | none =>
      rw [itcSend_null] at call
      cases call
      exact .refl h ht
    | some p =>
      obtain ⟨⟨m, hm⟩, -⟩ := hmsg _ rfl
      exact .send h ht hm call
  | @receive _ t ret call =>
    have ht' : s'.myThreadlocalMbox tid = some me := by
      rw [(itcReceive_sameSlots call).thread, ht]
    have hreceived := (itcReceive_returns h t).of_eq call
    cases hreceived with
    | nothing _ hinv hheap =>
      exact .of_inv h hinv ht' (fun l _ p _ => by rw [hheap]) hevolves hreceivable
    | @message s₁ me' p l m ht₁ hq hm hinv hheap =>
      have hne : me ≠ me' := by
        rintro rfl
        exact hguard (h.slots.threadInj t tid me ht₁ ht)
      refine .of_queues h hinv ht' (fun l' hl' => ⟨[], ?_⟩)
        (fun l' hl' p' hp' => hheap.frame p' ?_) hevolves hreceivable
      · rw [Function.update_of_ne hne, List.append_nil, hl']
      · rintro rfl
        exact h.messages.apart me me' l' _ hl' hq hne p' hp' List.mem_cons_self
  | @getFd _ t call =>
    have ht' : s'.myThreadlocalMbox tid = some me := by
      rw [(itcGetFd_sameSlots call).thread, ht]
    obtain ⟨hinv, hheap⟩ := itcGetFd_inv h call
    exact .of_inv h hinv ht' (fun _ _ _ _ => by rw [hheap]) hevolves hreceivable
  | @deleteMailbox _ fuel t mboxId ret call =>
    have hdeleted := (itcDeleteMailbox_returns h fuel t mboxId).of_eq call
    cases hdeleted with
    | failed _ =>
      exact .refl h ht
    | @deleted me' l s₁ ht₁ _ hq hinv _ hheap _ _ hthread =>
      have hne : me ≠ me' := by
        rintro rfl
        exact hguard (h.slots.threadInj t tid me ht₁ ht)
      have ht' : s'.myThreadlocalMbox tid = some me := by
        rw [hthread]
        exact (if_neg (Ne.symm hguard)).trans ht
      refine .of_queues h hinv ht' (fun l' hl' => ⟨[], ?_⟩)
        (fun l' hl' p hp => hheap p ?_) hevolves hreceivable
      · rw [Function.update_of_ne hne, List.append_nil, hl']
      · exact h.messages.apart me me' l' l hl' hq hne p hp

/-- **And it leaves the messages of the thread alone.** -/
theorem ItcStep.kept {tid : Nat} {a : ItcEvent} (h : s.Inv q) (hguard : OtherThreads tid own s a)
    (hstep : ItcStep E s a s') : Kept own s s' := by
  cases hstep with
  | alloc _ => exact .alloc h _ own
  | write call =>
    obtain ⟨⟨m, hm⟩, hown⟩ := hguard
    have hframe := Heap.write_frame call
    exact .of_frame ⟨q, h.ofHeld hm hframe⟩ hframe fun _ hp => absurd hp hown
  | free call =>
    obtain ⟨⟨m, hm⟩, hown⟩ := hguard
    exact (Kept.refl h own).free hm (fun _ hp => absurd hp hown) call
  | @createMailbox _ fuel t name flags ret call =>
    obtain ⟨-, hname⟩ := hguard
    have hcreated := (itcCreateMailbox_returns h hname fuel t flags).of_eq call
    cases hcreated with
    | failed =>
      exact .refl h own
    | created _ _ hinv hheap =>
      exact ⟨⟨_, hinv⟩, fun p m _ hm => (hheap p).trans hm⟩
  | @send fuel t msg toMbox fromMbox r call =>
    obtain ⟨-, hmsg⟩ := hguard
    cases msg with
    | none =>
      rw [itcSend_null] at call
      cases call
      exact .refl h own
    | some p =>
      obtain ⟨⟨m, hm⟩, hown⟩ := hmsg _ rfl
      obtain ⟨hinv, hframe⟩ := ((itcSend_returns h hm fuel t toMbox fromMbox).of_eq call).inv h hm
      exact .of_frame hinv hframe fun _ hp => absurd hp hown
  | @receive _ t ret call =>
    have hreceived := (itcReceive_returns h t).of_eq call
    cases hreceived with
    | nothing _ hinv hheap =>
      exact ⟨⟨q, hinv⟩, fun p m _ hm => by rw [hheap, hm]⟩
    | message _ hq _ hinv hheap =>
      exact .of_frame ⟨_, hinv⟩ hheap.frame fun _ _ hm =>
        h.messages.not_mem hm hq List.mem_cons_self
  | getFd call =>
    obtain ⟨hinv, hheap⟩ := itcGetFd_inv h call
    exact ⟨⟨q, hinv⟩, fun p m _ hm => by rw [hheap, hm]⟩
  | @deleteMailbox _ fuel t mboxId ret call =>
    have hdeleted := (itcDeleteMailbox_returns h fuel t mboxId).of_eq call
    cases hdeleted with
    | failed _ =>
      exact .refl h own
    | deleted _ _ hq hinv _ hheap =>
      exact ⟨⟨_, hinv⟩, fun p m _ hm => (hheap p (h.messages.not_mem hm hq)).trans hm⟩

/-- What one step of another thread keeps, a run of them keeps. -/
theorem run_quiet {tid me : Nat} {as : List ItcEvent}
    (hrun : Run (Guarded (ItcStep E) (OtherThreads tid own)) s as s') (h : s.Inv q)
    (ht : s.myThreadlocalMbox tid = some me) : Quiet tid me s s' := by
  induction hrun generalizing q with
  | nil _ => exact .refl h ht
  | cons head _ ih =>
    have hquiet := head.2.quiet h ht head.1
    obtain ⟨q₁, h₁⟩ := hquiet.inv
    exact hquiet.trans (ih h₁ hquiet.thread)

theorem run_kept {tid : Nat} {as : List ItcEvent}
    (hrun : Run (Guarded (ItcStep E) (OtherThreads tid own)) s as s') (h : s.Inv q) :
    Kept own s s' := by
  induction hrun generalizing q with
  | nil _ => exact .refl h own
  | cons head _ ih =>
    have hkept := head.2.kept h head.1
    obtain ⟨q₁, h₁⟩ := hkept.inv
    exact hkept.trans (ih h₁)

theorem Wait.Others.keeps {tid : Nat} {wait : Wait σ} (hwait : wait.Others E tid own) :
    wait.Keeps own := by
  intro s q h
  obtain ⟨as, hrun⟩ := hwait s
  exact run_kept hrun h

theorem Wait.Others.quiet {tid me : Nat} {wait : Wait σ} (hwait : wait.Others E tid own)
    (h : s.Inv q) (ht : s.myThreadlocalMbox tid = some me) : Quiet tid me s (wait s).2 := by
  obtain ⟨as, hrun⟩ := hwait s
  exact run_quiet hrun h ht

/-! ## Waiting for a reply -/

/-- A wait at whose end the thread frees the message it has received, if it has received one. -/
theorem takes_of_receiveTmo {tid me : Nat} {wait : Wait σ} {o : Option Nat} {s₁ s₂ : ItcInstance σ}
    (request : Nat) (reply : UInt32) (hwait : wait.Others E tid own) (h : s.Inv q)
    (ht : s.myThreadlocalMbox tid = some me)
    (hcall : itcReceiveTmo wait s tid = .ok (some (o, s₁)))
    (hfree : ∀ p, o = some p → itcFree s₁ p = .ok s₂) (hnone : o = none → s₂ = s₁) :
    Takes tid me ⟨(wait s).1, (wait s).2, request, reply⟩ s₂ := by
  have hquiet := hwait.quiet h ht
  obtain ⟨q', h'⟩ := hquiet.inv
  unfold itcReceiveTmo at hcall
  simp only at hcall
  split at hcall
  · rename_i hexp
    cases hcall
    rw [hnone rfl]
    exact .nothing (.inl hexp) (.refl h' hquiet.thread)
  · rename_i hexp
    have ht₁ : s₁.myThreadlocalMbox tid = some me := by
      rw [(itcReceive_sameSlots hcall).thread, hquiet.thread]
    have hreceivable : (wait s).2.Receivable → s₁.Receivable := fun hr => hr.receive h' hcall
    have hreceived := (itcReceive_returns h' tid).of_eq hcall
    cases hreceived with
    | nothing hempty hinv hheap =>
      rw [hnone rfl]
      have hq := hempty me hquiet.thread
      refine .nothing (.inr ((RxMessages.iff h' me []).mpr hq)) ?_
      refine .of_inv h' hinv ht₁ (fun _ _ _ _ => by rw [hheap]) ?_ hreceivable
      rw [hheap]
      exact .refl _
    | @message s₃ me' p l m ht' hq hm hinv hheap =>
      rw [hquiet.thread] at ht'
      cases ht'
      have hcall₂ := hfree p rfl
      have hquiet₂ : Quiet tid me s₁ s₂ := .free hinv ht₁ hheap.self hcall₂
      obtain ⟨heap', hfreed, hdead, hframe, hnext⟩ := itcFree_user hheap.self
      rw [hfreed] at hcall₂
      cases hcall₂
      have hl : (s₁.setHeap heap').RxMessages me l :=
        (RxMessages.iff hinv me l).mpr (Function.update_self _ _ _)
      refine .first (by simpa using hexp) ((RxMessages.iff h' me (p :: l)).mpr hq) hquiet₂.inv
        hquiet₂.thread hl ⟨hdead, fun p' hp' => ?_, hnext.trans hheap.next⟩
        (hquiet₂.receivable ∘ hreceivable)
      exact (hframe p' hp').trans (hheap.frame p' hp')

end ItcFramework
