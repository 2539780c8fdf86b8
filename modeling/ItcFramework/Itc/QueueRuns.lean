import ItcFramework.Itc.Queue
import ItcFramework.Lib.Transition

/-!
# The queue over whole runs

Sequences of `q_enqueue`, `q_dequeue`, `q_remove` and `q_clear` on one queue, the result code of
each call included.

* `itcqCall`, `listCall` — a call of the code, and the same operation on a list.
* `itcqCall_spec` — one call does to the queue what the operation does to the list it holds.
* `itcQueue_refines_list_iff` — with a fresh result code for every call this goes on for a whole
  run as long as `size` can count the elements.
* `sharedResultCode_iff` — with one result code for the whole run, the calls whose answer can be
  relied upon.
-/

set_option autoImplicit false

namespace ItcFramework

open ByteImage HeapModel Transition

/-! ## Calls -/

/-- The loop of `q_clear` on `fuel` calls of `q_dequeue`; `none` while it still runs. -/
def clearLoop : Nat → UInt32 → ItcQueue → Except MemFault (Option (UInt32 × ItcQueue))
  | 0, _, _ => .ok none
  | fuel + 1, rc, q => do
      let (rc, data, q) ← qDequeue rc q
      if data.isSome then clearLoop fuel rc q else return some (rc, q)

def qClear (fuel : Nat) (rc : UInt32) (q : ItcQueue) :
    Except MemFault (Option (UInt32 × ItcQueue)) :=
  if q.size > 0 then clearLoop fuel rc q else .ok (some (rc, q))

/-- A call; the data pointers are not `NULL`. -/
inductive ItcqOp where
  | enqueue (data : Nat)
  | dequeue
  | remove (data : Nat)
  | clear
  deriving DecidableEq, Repr

/-- The result code after a call, what the call returns, and the queue. -/
abbrev ItcqResult := UInt32 × Option Nat × ItcQueue

def itcqCall (mem : Bool) (rc : UInt32) (q : ItcQueue) (op : ItcqOp) (fuel : Nat) :
    Except MemFault (Option ItcqResult) :=
  match op with
  | .enqueue data => do
      let (rc, q) ← qEnqueue mem rc q data
      return some (rc, none, q)
  | .dequeue => do
      let r ← qDequeue rc q
      return some r
  | .remove data => do
      let some q ← qRemove fuel q data | return none
      return some (rc, none, q)
  | .clear => do
      let some (rc, q) ← qClear fuel rc q | return none
      return some (rc, none, q)

/-- What the operation returns on a list, and the list after it. -/
def listCall (l : List Nat) : ItcqOp → Option Nat × List Nat
  | .enqueue data => (none, l ++ [data])
  | .dequeue => (l.head?, l.tail)
  | .remove data => (none, l.erase data)
  | .clear => (none, [])

/-- The list after a run. -/
def listRun (l : List Nat) (ops : List ItcqOp) : List Nat :=
  ops.foldl (fun l op => (listCall l op).2) l

/-- The flags that a call sets for which `malloc` has memory. -/
def raised (l : List Nat) : ItcqOp → UInt32
  | .dequeue => if l = [] then ITC_QUEUE_EMPTY else ITC_OK
  | .clear => if l = [] then ITC_OK else ITC_QUEUE_EMPTY
  | _ => ITC_OK

section Calls

variable {q : ItcQueue} {l : List Nat}

@[simp] theorem or_itcOk (rc : UInt32) : rc ||| ITC_OK = rc := by
  rw [ITC_OK, UInt32.or_zero]

theorem ItcQueue.Holds.size_eq (h : q.Holds l) : q.size.toNat = l.length := by
  obtain ⟨c, hc, rfl⟩ := h
  rw [hc.size, List.length_map]

/-- A queue cannot hold more than `size` can count. -/
theorem ItcQueue.Holds.length_lt (h : q.Holds l) : l.length < 2 ^ 32 := by
  rw [← h.size_eq]
  exact q.size.toNat_lt

/-- **Dequeueing until nothing is left** empties the queue, and its last call finds it empty. -/
theorem clearLoop_spec (h : q.Holds l) (rc : UInt32) :
    ∃ q', (∀ fuel, l.length < fuel →
      clearLoop fuel rc q = .ok (some (rc ||| ITC_QUEUE_EMPTY, q'))) ∧ q'.Holds [] := by
  induction l generalizing q with
  | nil =>
    refine ⟨q, fun fuel hfuel => ?_, h⟩
    obtain ⟨fuel, rfl⟩ := Nat.exists_eq_succ_of_ne_zero (Nat.ne_of_gt hfuel)
    simp only [clearLoop, ItcQueue.qDequeue_nil h, bind, Except.bind]
    rfl
  | cons data l ih =>
    obtain ⟨q₁, hdeq, h₁⟩ := ItcQueue.qDequeue_cons h rc
    obtain ⟨q', hloop, h'⟩ := ih h₁
    refine ⟨q', fun fuel hfuel => ?_, h'⟩
    obtain ⟨fuel, rfl⟩ := Nat.exists_eq_succ_of_ne_zero (Nat.ne_of_gt (Nat.zero_lt_of_lt hfuel))
    simp only [clearLoop, hdeq, bind, Except.bind]
    exact hloop fuel (Nat.lt_of_succ_lt_succ hfuel)

theorem qClear_spec (h : q.Holds l) (rc : UInt32) :
    ∃ q', (∀ fuel, l.length < fuel →
      qClear fuel rc q = .ok (some (rc ||| raised l .clear, q'))) ∧ q'.Holds [] := by
  have hsize : q.size > 0 ↔ l ≠ [] := by
    rw [gt_iff_lt, UInt32.lt_iff_toNat_lt, h.size_eq, ← List.length_pos_iff]
    rfl
  simp only [qClear, hsize]
  by_cases hl : l = []
  · subst hl
    exact ⟨q, fun _ _ => by simp [raised], h⟩
  · simp only [raised, hl, ne_eq, not_false_eq_true, if_true, if_false]
    exact clearLoop_spec h rc

/-- **A call does to the queue what the operation does to its list**: it ends without a fault and
returns the same, if `size` can count what is there afterwards. -/
theorem itcqCall_spec (rc : UInt32) (h : q.Holds l) (op : ItcqOp)
    (hlt : (listCall l op).2.length < 2 ^ 32) (hrc : ∀ data, op = .enqueue data → rc = ITC_OK) :
    ∃ q', Ends (itcqCall true rc q op) (rc ||| raised l op, (listCall l op).1, q') ∧
      q'.Holds (listCall l op).2 := by
  cases op with
  | enqueue data =>
    obtain rfl := hrc data rfl
    simp only [listCall, List.length_append, List.length_singleton] at hlt
    obtain ⟨q', henq, h'⟩ := ItcQueue.qEnqueue_spec h hlt data
    refine ⟨q', ⟨0, fun fuel _ => ?_⟩, h'⟩
    simp [itcqCall, henq, bind, Except.bind, pure, Except.pure, raised, listCall]
  | dequeue =>
    cases l with
    | nil =>
      refine ⟨q, ⟨0, fun fuel _ => ?_⟩, h⟩
      simp [itcqCall, ItcQueue.qDequeue_nil h, bind, Except.bind, pure, Except.pure, raised,
        listCall]
    | cons data l =>
      obtain ⟨q', hdeq, h'⟩ := ItcQueue.qDequeue_cons h rc
      refine ⟨q', ⟨0, fun fuel _ => ?_⟩, h'⟩
      simp [itcqCall, hdeq, bind, Except.bind, pure, Except.pure, raised, listCall]
  | remove data =>
    by_cases hmem : data ∈ l
    · obtain ⟨q', hremove, h'⟩ := ItcQueue.qRemove_spec h hmem (Nat.lt_succ_self _)
      refine ⟨q', ⟨l.length + 1, fun fuel hfuel => ?_⟩, h'⟩
      simp [itcqCall, qRemove_mono hfuel hremove, bind, Except.bind, pure, Except.pure, raised,
        listCall]
    · refine ⟨q, ⟨l.length + 1, fun fuel hfuel => ?_⟩, ?_⟩
      · simp [itcqCall, ItcQueue.qRemove_absent h hmem hfuel, bind, Except.bind, pure, Except.pure,
          raised, listCall]
      · rw [listCall, List.erase_of_not_mem hmem]
        exact h
  | clear =>
    obtain ⟨q', hclear, h'⟩ := qClear_spec h rc
    refine ⟨q', ⟨l.length + 1, fun fuel hfuel => ?_⟩, h'⟩
    simp [itcqCall, hclear fuel hfuel, bind, Except.bind, pure, Except.pure, listCall]

end Calls

/-! ## A result code for each call -/

/-- From `q`, which holds `l`, every call ends without a fault and returns what the operation on
the list does, and the queue holds the list then. -/
def RefinesList (q : ItcQueue) (l : List Nat) : List ItcqOp → Prop
  | [] => q.Holds l
  | op :: ops => q.Holds l ∧ ∃ rc q', Ends (itcqCall true ITC_OK q op) (rc, (listCall l op).1, q') ∧
      RefinesList q' (listCall l op).2 ops

/-- A call of the run, with a fresh result code and with memory. -/
def ItcqStep (q : ItcQueue) (op : ItcqOp) (q' : ItcQueue) : Prop :=
  ∃ rc answer, Ends (itcqCall true ITC_OK q op) (rc, answer, q')

section Runs

variable {q : ItcQueue} {l : List Nat}

theorem RefinesList.holds {ops : List ItcqOp} (h : RefinesList q l ops) : q.Holds l := by
  cases ops with
  | nil => exact h
  | cons op ops => exact h.1

/-- Whatever the queue has held could be counted. -/
theorem RefinesList.length_lt {ops : List ItcqOp} (h : RefinesList q l ops) :
    ∀ pre, pre <+: ops → (listRun l pre).length < 2 ^ 32 := by
  induction ops generalizing q l with
  | nil =>
    intro pre hpre
    rw [List.prefix_nil.mp hpre]
    exact h.length_lt
  | cons op ops ih =>
    intro pre hpre
    obtain ⟨hq, rc, q', -, hrest⟩ := h
    cases pre with
    | nil => exact hq.length_lt
    | cons op' pre =>
      obtain ⟨rfl, hrest'⟩ := List.cons_prefix_cons.mp hpre
      exact ih hrest pre hrest'

theorem refinesList_of_length_lt {ops : List ItcqOp} (h : q.Holds l)
    (hlt : ∀ pre, pre <+: ops → (listRun l pre).length < 2 ^ 32) : RefinesList q l ops := by
  induction ops generalizing q l with
  | nil => exact h
  | cons op ops ih =>
    have hone : (listCall l op).2.length < 2 ^ 32 :=
      hlt [op] (List.cons_prefix_cons.mpr ⟨rfl, List.nil_prefix⟩)
    obtain ⟨q', hcall, h'⟩ := itcqCall_spec ITC_OK h op hone (fun _ _ => rfl)
    refine ⟨h, _, q', hcall, ih h' fun pre hpre => ?_⟩
    exact hlt (op :: pre) (List.cons_prefix_cons.mpr ⟨rfl, hpre⟩)

/-- **The queue is a list**, with its nodes linked in both directions, counted and all of them
live, just as long as `size` can count them. -/
theorem itcQueue_refines_list_iff (ops : List ItcqOp) :
    RefinesList qInit [] ops ↔ ∀ pre, pre <+: ops → (listRun [] pre).length < 2 ^ 32 :=
  ⟨RefinesList.length_lt, refinesList_of_length_lt ItcQueue.holds_qInit⟩

example : listRun [] [.enqueue 1, .enqueue 2, .enqueue 1, .remove 1, .dequeue] = [1] := by decide

/-- `q_enqueue` links its node and counts it, whether or not `size` wraps around. -/
theorem qEnqueue_grows (h : q.Holds l) (data : Nat) :
    ∃ q', qEnqueue true ITC_OK q data = .ok (ITC_OK, q') ∧ q'.size = q.size + 1 ∧
      q'.head ≠ none := by
  obtain ⟨c, hc, rfl⟩ := h
  cases ht : q.tail with
  | none => exact ⟨_, by simp [qEnqueue, Heap.alloc, ht]; rfl, rfl, Option.some_ne_none _⟩
  | some t =>
    have htc : t ∈ c.map Prod.fst :=
      List.mem_of_getLast? (by rw [← hc.links.threaded.tail_eq, ht])
    obtain ⟨d, hd⟩ := hc.ne_none htc
    have hpush : dataOf (q.nodes.push ⟨none, none, data⟩) t = some d := by
      rw [dataOf, Heap.push_of_live (read_of_data hd)]
      rfl
    obtain ⟨nodes₁, hset₁, -, -, -, hdata₁⟩ := setNext_spec hpush (some q.nodes.next)
    have hnew : dataOf nodes₁ q.nodes.next = some data := by
      rw [hdata₁, dataOf, Heap.push_next]
      rfl
    obtain ⟨nodes₂, hset₂, -⟩ := setPrev_spec hnew (some t)
    refine ⟨⟨nodes₂, q.head, some q.nodes.next, q.size + 1⟩, ?_, rfl, ?_⟩
    · simp only [qEnqueue, not_true_eq_false, if_false, Heap.alloc, ht, ne_eq, hset₁, hset₂, bind,
        Except.bind]
      rfl
    · show q.head ≠ none
      rw [hc.links.threaded.head_eq]
      intro hnil
      rw [List.head?_eq_none_iff.mp hnil] at htc
      cases htc

theorem listRun_enqueues (l : List Nat) (data n : Nat) :
    (listRun l (List.replicate n (.enqueue data))).length = l.length + n := by
  induction n generalizing l with
  | zero => rfl
  | succ n ih =>
    show (listRun (l ++ [data]) (List.replicate n (.enqueue data))).length = _
    rw [ih, List.length_append, List.length_singleton]
    omega

theorem enqueues_run (h : q.Holds l) (data n : Nat) (hlt : l.length + n < 2 ^ 32) :
    ∃ q' l', Run ItcqStep q (List.replicate n (.enqueue data)) q' ∧ q'.Holds l' ∧
      l'.length = l.length + n := by
  induction n generalizing q l with
  | zero => exact ⟨q, l, .nil q, h, rfl⟩
  | succ n ih =>
    have hlen : (l ++ [data]).length = l.length + 1 := by simp
    obtain ⟨q₁, hcall, h₁⟩ := itcqCall_spec ITC_OK h (.enqueue data)
      (by show (l ++ [data]).length < _; omega) (fun _ _ => rfl)
    obtain ⟨q', l', hrun, h', hlen'⟩ := ih h₁ (by show (l ++ [data]).length + n < _; omega)
    refine ⟨q', l', .cons ⟨_, _, hcall⟩ hrun, h', ?_⟩
    change l'.length = (l ++ [data]).length + n at hlen'
    omega

/-- **With 2^32 elements `size` is back at 0**, and `q_clear` leaves them all where they are. -/
theorem itcQueue_size_wraps :
    ∃ q, Run ItcqStep qInit (List.replicate (2 ^ 32) (.enqueue 1)) q ∧ q.size = 0 ∧ q.head ≠ none ∧
      Ends (itcqCall true ITC_OK q .clear) (ITC_OK, none, q) ∧
      ¬ RefinesList qInit [] (List.replicate (2 ^ 32) (.enqueue 1)) := by
  obtain ⟨q₁, l₁, hrun₁, h₁, hlen₁⟩ := enqueues_run ItcQueue.holds_qInit 1 (2 ^ 32 - 1) (by simp)
  obtain ⟨q, henq, hsize, hhead⟩ := qEnqueue_grows h₁ 1
  have hlast : ItcqStep q₁ (.enqueue 1) q := by
    refine ⟨ITC_OK, none, 0, fun fuel _ => ?_⟩
    simp only [itcqCall, henq, bind, Except.bind]
    rfl
  have hzero : q.size = 0 := by
    rw [hsize, ← UInt32.toNat_inj, UInt32.toNat_add, h₁.size_eq, hlen₁]
    rfl
  refine ⟨q, ?_, hzero, hhead, ⟨0, fun fuel _ => ?_⟩, fun hrefines => ?_⟩
  · have hsplit : (2 : Nat) ^ 32 = (2 ^ 32 - 1) + 1 := by omega
    rw [hsplit, List.replicate_succ']
    exact hrun₁.snoc hlast
  · simp [itcqCall, qClear, hzero, bind, Except.bind, pure, Except.pure]
  · have hlt := hrefines.length_lt _ (List.prefix_refl _)
    rw [listRun_enqueues] at hlt
    simp at hlt

end Runs

/-! ## One result code for the whole run -/

/-- What a caller relies upon: with memory the item is added, and removing and clearing say
nothing. -/
def KeepsPromise (mem : Bool) (rc : UInt32) (q : ItcQueue) (rc' : UInt32) (q' : ItcQueue) :
    ItcqOp → Prop
  | .enqueue data => mem = true → ∀ l, q.Holds l → q'.Holds (l ++ [data])
  | .dequeue => True
  | .remove _ => rc' = rc
  | .clear => rc' = rc

/-- The calls of a run that hands on its result code end without a fault and keep what they
promise. With each call comes what `malloc` answers it. -/
def Trustworthy (rc : UInt32) (q : ItcQueue) : List (Bool × ItcqOp) → Prop
  | [] => True
  | (mem, op) :: calls => ∃ rc' answer q', Ends (itcqCall mem rc q op) (rc', answer, q') ∧
      KeepsPromise mem rc q rc' q' op ∧ Trustworthy rc' q' calls

/-- What the calls so far have done: the items that are left, and whether one has dequeued from
the empty queue or got no memory. -/
structure QueuePast where
  items : List Nat
  emptied : Bool
  starved : Bool
  deriving DecidableEq, Repr

namespace QueuePast

def start : QueuePast := ⟨[], false, false⟩

def call (past : QueuePast) (mem : Bool) : ItcqOp → QueuePast
  | .enqueue data =>
      if mem then { past with items := past.items ++ [data] } else { past with starved := true }
  | .dequeue =>
      { past with items := past.items.tail, emptied := past.emptied || past.items.isEmpty }
  | .remove data => { past with items := past.items.erase data }
  | .clear => { past with items := [] }

/-- The call meets no flag of an earlier one, and raises none. -/
def Clean (past : QueuePast) (mem : Bool) : ItcqOp → Prop
  | .enqueue _ => mem = true →
      past.emptied = false ∧ past.starved = false ∧ past.items.length + 1 < 2 ^ 32
  | .clear => past.items = [] ∨ past.emptied = true
  | _ => True

def CleanRun (past : QueuePast) : List (Bool × ItcqOp) → Prop
  | [] => True
  | (mem, op) :: calls => past.Clean mem op ∧ CleanRun (past.call mem op) calls

/-- The flags that stand in the result code. -/
def flags (past : QueuePast) : UInt32 :=
  (if past.starved then ITC_SYSCALL_ERROR else ITC_OK) |||
    if past.emptied then ITC_QUEUE_EMPTY else ITC_OK

theorem flags_eq_ok_iff (past : QueuePast) :
    past.flags = ITC_OK ↔ past.emptied = false ∧ past.starved = false := by
  rw [flags]
  cases past.emptied <;> cases past.starved <;> decide

/-- An empty queue shows in the flags, and only once. -/
theorem flags_or_empty (past : QueuePast) (l : List Nat) :
    past.flags ||| ITC_QUEUE_EMPTY = (⟨l, true, past.starved⟩ : QueuePast).flags := by
  simp only [flags]
  cases past.emptied <;> cases past.starved <;> decide

theorem flags_or_syscall (past : QueuePast) :
    past.flags ||| ITC_SYSCALL_ERROR = ({ past with starved := true } : QueuePast).flags := by
  simp only [flags]
  cases past.emptied <;> cases past.starved <;> decide

/-- A call other than `q_enqueue` that is clean. -/
theorem flags_call (past : QueuePast) (mem : Bool) {op : ItcqOp} (hclean : past.Clean mem op)
    (hop : ∀ data, op ≠ .enqueue data) :
    past.flags ||| raised past.items op = (past.call mem op).flags ∧
      (past.call mem op).items = (listCall past.items op).2 := by
  cases op with
  | enqueue data => exact absurd rfl (hop data)
  | dequeue =>
    refine ⟨?_, rfl⟩
    simp only [raised, call]
    cases hl : past.items with
    | nil => simpa using past.flags_or_empty []
    | cons data l => simp [flags]
  | remove data => exact ⟨or_itcOk _, rfl⟩
  | clear =>
    refine ⟨?_, rfl⟩
    simp only [raised, call]
    split
    · exact or_itcOk _
    · rename_i hl
      have hemptied : past.emptied = true := hclean.resolve_left hl
      rw [past.flags_or_empty [], ← hemptied]

end QueuePast

section SharedCode

variable {q : ItcQueue} {past : QueuePast}

/-- **A clean call keeps its promise**, and leaves the flags that its past has raised. -/
theorem itcqCall_clean (h : q.Holds past.items) (mem : Bool) (op : ItcqOp)
    (hclean : past.Clean mem op) :
    ∃ answer q', Ends (itcqCall mem past.flags q op) ((past.call mem op).flags, answer, q') ∧
      KeepsPromise mem past.flags q (past.call mem op).flags q' op ∧
      q'.Holds (past.call mem op).items := by
  by_cases hop : ∀ data, op ≠ .enqueue data
  · obtain ⟨hflags, hitems⟩ := past.flags_call mem hclean hop
    have hlt : (listCall past.items op).2.length < 2 ^ 32 := by
      have hle : (listCall past.items op).2.length ≤ past.items.length := by
        cases op with
        | enqueue data => exact absurd rfl (hop data)
        | dequeue => simp [listCall]
        | remove data => exact List.length_erase_le
        | clear => simp [listCall]
      exact Nat.lt_of_le_of_lt hle h.length_lt
    obtain ⟨q', hcall, h'⟩ := itcqCall_spec past.flags h op hlt
      (fun data heq => absurd heq (hop data))
    rw [hflags] at hcall
    refine ⟨(listCall past.items op).1, q', ?_, ?_, hitems ▸ h'⟩
    · cases op with
      | enqueue data => exact absurd rfl (hop data)
      | dequeue | remove | clear => exact hcall
    · cases op with
      | enqueue data => exact absurd rfl (hop data)
      | dequeue => trivial
      | remove data => rfl
      | clear => rfl
  · obtain ⟨data, rfl⟩ : ∃ data, op = .enqueue data := by simpa using hop
    cases mem with
    | false =>
      refine ⟨none, q, ⟨0, fun fuel _ => ?_⟩, nofun, h⟩
      simp [itcqCall, qEnqueue, bind, Except.bind, pure, Except.pure, past.flags_or_syscall,
        QueuePast.call]
    | true =>
      obtain ⟨hemptied, hstarved, hlt⟩ := hclean rfl
      obtain ⟨q', henq, h'⟩ := ItcQueue.qEnqueue_spec h hlt data
      have hrc := past.flags_eq_ok_iff.mpr ⟨hemptied, hstarved⟩
      refine ⟨none, q', ⟨0, fun fuel _ => ?_⟩, fun _ l hl => ?_, h'⟩
      · show itcqCall true past.flags q (.enqueue data) fuel = .ok (some (past.flags, none, q'))
        rw [hrc]
        simp [itcqCall, henq, bind, Except.bind, pure, Except.pure]
      · rw [ItcQueue.Holds.unique hl h]
        exact h'

/-- A call that keeps its promise is clean. -/
theorem clean_of_keepsPromise (h : q.Holds past.items) {mem : Bool} {op : ItcqOp} {rc' : UInt32}
    {answer : Option Nat} {q' : ItcQueue}
    (hcall : Ends (itcqCall mem past.flags q op) (rc', answer, q'))
    (hkeeps : KeepsPromise mem past.flags q rc' q' op) : past.Clean mem op := by
  cases op with
  | enqueue data =>
    intro hmem
    subst hmem
    have h' := hkeeps rfl past.items h
    have hlt := h'.length_lt
    rw [List.length_append, List.length_singleton] at hlt
    by_contra hnot
    have hrc : past.flags ≠ ITC_OK := by
      intro hrc
      obtain ⟨hemptied, hstarved⟩ := past.flags_eq_ok_iff.mp hrc
      exact hnot ⟨hemptied, hstarved, hlt⟩
    -- the node is left out of the queue
    have hend : Ends (itcqCall true past.flags q (.enqueue data))
        (past.flags, none, { q with nodes := (q.nodes.alloc ⟨none, none, data⟩).2 }) := by
      refine ⟨0, fun fuel _ => ?_⟩
      simp [itcqCall, qEnqueue, hrc, bind, Except.bind, pure, Except.pure]
    have heq := hcall.unique hend
    simp only [Prod.mk.injEq] at heq
    have hsize := h'.size_eq
    rw [heq.2.2, List.length_append, List.length_singleton] at hsize
    change q.size.toNat = _ at hsize
    rw [h.size_eq] at hsize
    omega
  | dequeue => trivial
  | remove data => trivial
  | clear =>
    by_contra hnot
    obtain ⟨hl, hemptied⟩ := not_or.mp hnot
    obtain ⟨q₁, hend, -⟩ := itcqCall_spec past.flags h .clear (by simp [listCall])
      (by rintro data ⟨⟩)
    have heq := Ends.unique hcall hend
    have hrc : past.flags = past.flags ||| ITC_QUEUE_EMPTY := by
      have hraised : raised past.items .clear = ITC_QUEUE_EMPTY := if_neg hl
      rw [← hraised]
      exact hkeeps.symm.trans (congrArg Prod.fst heq)
    rw [past.flags_or_empty past.items] at hrc
    simp only [QueuePast.flags] at hrc
    revert hrc hemptied
    cases past.emptied <;> cases past.starved <;> decide

theorem trustworthy_iff_cleanRun {calls : List (Bool × ItcqOp)} (h : q.Holds past.items) :
    Trustworthy past.flags q calls ↔ past.CleanRun calls := by
  induction calls generalizing q past with
  | nil => exact iff_of_true trivial trivial
  | cons c calls ih =>
    obtain ⟨mem, op⟩ := c
    constructor
    · rintro ⟨rc', answer, q', hcall, hkeeps, hrest⟩
      have hclean := clean_of_keepsPromise h hcall hkeeps
      obtain ⟨answer₁, q₁, hcall₁, -, h₁⟩ := itcqCall_clean h mem op hclean
      obtain ⟨rfl, -, rfl⟩ : rc' = _ ∧ answer = answer₁ ∧ q' = q₁ := by
        simpa using hcall.unique hcall₁
      exact ⟨hclean, (ih h₁).mp hrest⟩
    · rintro ⟨hclean, hrest⟩
      obtain ⟨answer, q', hcall, hkeeps, h'⟩ := itcqCall_clean h mem op hclean
      exact ⟨_, answer, q', hcall, hkeeps, (ih h').mpr hrest⟩

/-- **The answers can be relied upon just as long as no call meets a flag of an earlier one.** -/
theorem sharedResultCode_iff (calls : List (Bool × ItcqOp)) :
    Trustworthy ITC_OK qInit calls ↔ QueuePast.start.CleanRun calls := by
  have hstart : QueuePast.start.flags = ITC_OK := by decide
  rw [← hstart]
  exact trustworthy_iff_cleanRun ItcQueue.holds_qInit

/-- **An item is dropped because an earlier call found the queue empty**, and clearing sets the
flag too. -/
theorem enqueue_after_empty_drops :
    ¬ Trustworthy ITC_OK qInit [(true, .dequeue), (true, .enqueue 1)] ∧
      ¬ Trustworthy ITC_OK qInit [(true, .enqueue 1), (true, .clear)] := by
  have hstart : QueuePast.start.flags = ITC_OK := by decide
  rw [← hstart, trustworthy_iff_cleanRun ItcQueue.holds_qInit,
    trustworthy_iff_cleanRun ItcQueue.holds_qInit]
  constructor
  · rintro ⟨-, hclean, -⟩
    obtain ⟨hemptied, -⟩ := hclean rfl
    exact absurd hemptied (by decide)
  · rintro ⟨-, hclean, -⟩
    exact absurd hclean (by simp [QueuePast.Clean, QueuePast.call, QueuePast.start])

end SharedCode

end ItcFramework
