import Mathlib.Data.List.Basic
import Mathlib.Data.List.Nodup
import Mathlib.Tactic.Tauto

/-!
# Singly linked queues

Cells of a type `ι`, each with a link to the next one, and a `head` and a `tail` link.
`Threaded head tail next l` says that these links hold exactly the sequence `l`.

* `Threaded.first` — the first cell enters an empty queue;
* `Threaded.push` — a fresh cell goes behind the tail;
* `Threaded.last`, `Threaded.pop` — the head leaves, as the last cell or with others behind it;
* `Threaded.dropLast` — the last cell leaves, with others before it;
* `Threaded.unique` — the links hold no other sequence.

`Doubly` has the links in both directions: `Doubly.push`, `Doubly.pop`, `Doubly.dropLast`, and
`Doubly.unlink` for a cell in the middle.

The links may be kept in any kind of store: the rules ask for the values of `next` before and
after, not for how they were written.
-/

set_option autoImplicit false

namespace LinkedChain

variable {ι : Type*}

/-- Every cell of the sequence points to the one after it, the last one nowhere. -/
def Linked (next : ι → Option ι) : List ι → Prop
  | [] => True
  | x :: l => next x = l.head? ∧ Linked next l

theorem Linked.congr {next next' : ι → Option ι} {l : List ι} (h : Linked next l)
    (heq : ∀ x ∈ l, next' x = next x) : Linked next' l := by
  induction l with
  | nil => trivial
  | cons x l ih =>
    obtain ⟨hx, hl⟩ := h
    exact ⟨(heq x List.mem_cons_self).trans hx,
      ih hl fun y hy => heq y (List.mem_cons_of_mem _ hy)⟩

theorem Linked.of_append_right {next : ι → Option ι} {xs ys : List ι} (h : Linked next (xs ++ ys)) :
    Linked next ys := by
  induction xs with
  | nil => exact h
  | cons x xs ih => exact ih h.2

/-- The links leave no choice. -/
theorem Linked.unique {next : ι → Option ι} {l l' : List ι} (h : Linked next l)
    (h' : Linked next l') (hhead : l.head? = l'.head?) : l = l' := by
  induction l generalizing l' with
  | nil => exact (List.head?_eq_none_iff.mp hhead.symm).symm
  | cons x l ih =>
    cases l' with
    | nil => cases hhead
    | cons y l' =>
      obtain rfl : x = y := Option.some.inj hhead
      rw [ih h.2 h'.2 (h.1.symm.trans h'.1)]

theorem Linked.push {next next' : ι → Option ι} {l : List ι} {t x : ι} (h : Linked next l)
    (hnd : l.Nodup) (ht : l.getLast? = some t) (htx : next' t = some x) (hx : next' x = none)
    (heq : ∀ y ∈ l, y ≠ t → next' y = next y) : Linked next' (l ++ [x]) := by
  induction l with
  | nil => cases ht
  | cons y l ih =>
    obtain ⟨hy, hl⟩ := h
    obtain ⟨hyl, hnd⟩ := List.nodup_cons.mp hnd
    cases l with
    | nil =>
      cases ht
      exact ⟨htx, hx, trivial⟩
    | cons z l =>
      rw [List.getLast?_cons_cons] at ht
      have hne : y ≠ t := by
        intro hyt
        exact hyl (hyt ▸ List.mem_of_getLast? ht)
      refine ⟨?_, ih hl hnd ht fun w hw => heq w (List.mem_cons_of_mem _ hw)⟩
      rw [heq y List.mem_cons_self hne, hy]
      rfl

/-- The last cell goes, and the one before it points nowhere. -/
theorem Linked.dropLast {next next' : ι → Option ι} {l : List ι} {t x : ι}
    (h : Linked next (l ++ [x])) (hnd : l.Nodup) (ht : l.getLast? = some t)
    (htn : next' t = none) (heq : ∀ y ∈ l, y ≠ t → next' y = next y) : Linked next' l := by
  induction l with
  | nil => trivial
  | cons y l ih =>
    obtain ⟨hy, hl⟩ := h
    obtain ⟨hyl, hnd⟩ := List.nodup_cons.mp hnd
    cases l with
    | nil =>
      cases ht
      exact ⟨htn, trivial⟩
    | cons z l =>
      rw [List.getLast?_cons_cons] at ht
      have hne : y ≠ t := by
        intro hyt
        exact hyl (hyt ▸ List.mem_of_getLast? ht)
      refine ⟨?_, ih hl hnd ht fun w hw => heq w (List.mem_cons_of_mem _ hw)⟩
      rw [heq y List.mem_cons_self hne, hy]
      rfl

theorem Linked.next_last {next : ι → Option ι} {l : List ι} {x : ι} (h : Linked next (l ++ [x])) :
    next x = none := by
  induction l with
  | nil => exact h.1
  | cons _ _ ih => exact ih h.2

/-- The links hold the sequence `l`, without repetition. -/
structure Threaded (head tail : Option ι) (next : ι → Option ι) (l : List ι) : Prop where
  head_eq : head = l.head?
  tail_eq : tail = l.getLast?
  linked : Linked next l
  nodup : l.Nodup

namespace Threaded

variable {head tail : Option ι} {next next' : ι → Option ι} {l : List ι}

theorem nil (next : ι → Option ι) : Threaded none none next [] :=
  ⟨rfl, rfl, trivial, List.nodup_nil⟩

theorem congr (h : Threaded head tail next l) (heq : ∀ x ∈ l, next' x = next x) :
    Threaded head tail next' l :=
  ⟨h.head_eq, h.tail_eq, h.linked.congr heq, h.nodup⟩

theorem unique {l' : List ι} (h : Threaded head tail next l) (h' : Threaded head tail next l') :
    l = l' :=
  h.linked.unique h'.linked (h.head_eq.symm.trans h'.head_eq)

theorem tail_none_iff (h : Threaded head tail next l) : tail = none ↔ l = [] := by
  rw [h.tail_eq, List.getLast?_eq_none_iff]

theorem head_none_iff (h : Threaded head tail next l) : head = none ↔ l = [] := by
  rw [h.head_eq, List.head?_eq_none_iff]

/-- The first cell is head and tail. -/
theorem first {x : ι} (hx : next x = none) : Threaded (some x) (some x) next [x] :=
  ⟨rfl, rfl, ⟨hx, trivial⟩, List.nodup_singleton x⟩

/-- **A fresh cell behind the tail.** -/
theorem push {t x : ι} (h : Threaded head (some t) next l) (hxl : x ∉ l)
    (htx : next' t = some x) (hx : next' x = none)
    (heq : ∀ y ∈ l, y ≠ t → next' y = next y) :
    Threaded head (some x) next' (l ++ [x]) where
  head_eq := by
    have hne : l ≠ [] := fun hl => by
      have := h.tail_none_iff.mpr hl
      cases this
    rw [h.head_eq, List.head?_append_of_ne_nil _ hne]
  tail_eq := by simp
  linked := h.linked.push h.nodup h.tail_eq.symm htx hx heq
  nodup := by
    refine List.nodup_append.mpr ⟨h.nodup, List.nodup_singleton x, ?_⟩
    intro y hy z hz
    rw [List.mem_singleton.mp hz]
    exact fun hyx => hxl (hyx ▸ hy)

/-- A head that is the tail stands alone. -/
theorem last {x : ι} (h : Threaded (some x) (some x) next l) : l = [x] := by
  obtain ⟨hhead, htail, -, hnd⟩ := h
  cases l with
  | nil => cases hhead
  | cons y l =>
    obtain rfl : x = y := by simpa using hhead
    cases l with
    | nil => rfl
    | cons z l =>
      rw [List.getLast?_cons_cons] at htail
      exact absurd (List.mem_of_getLast? htail.symm) (List.nodup_cons.mp hnd).1

/-- **The head leaves**, and the cell it points to is the new head. -/
theorem pop {x : ι} (h : Threaded (some x) tail next l) (hne : some x ≠ tail)
    (heq : ∀ y, y ≠ x → next' y = next y) :
    ∃ l', l = x :: l' ∧ Threaded (next x) tail next' l' := by
  obtain ⟨hhead, htail, hlinked, hnd⟩ := h
  cases l with
  | nil => cases hhead
  | cons y l =>
    obtain rfl : x = y := by simpa using hhead
    obtain ⟨hx, hl⟩ := hlinked
    obtain ⟨hxl, hnd⟩ := List.nodup_cons.mp hnd
    refine ⟨l, rfl, hx, ?_, hl.congr fun y hy => heq y fun hyx => hxl (hyx ▸ hy), hnd⟩
    cases l with
    | nil => exact absurd htail.symm hne
    | cons z l => rw [htail, List.getLast?_cons_cons]

/-- **The last cell leaves**, and the one before it is the new tail. -/
theorem dropLast {t x : ι} (h : Threaded head tail next (l ++ [x])) (ht : l.getLast? = some t)
    (htn : next' t = none) (heq : ∀ y ∈ l, y ≠ t → next' y = next y) :
    Threaded head (some t) next' l where
  head_eq := by
    have hne : l ≠ [] := fun hl => by
      rw [hl] at ht
      cases ht
    rw [h.head_eq, List.head?_append_of_ne_nil _ hne]
  tail_eq := ht.symm
  linked := h.linked.dropLast (List.nodup_append.mp h.nodup).1 ht htn heq
  nodup := (List.nodup_append.mp h.nodup).1

end Threaded

/-! ## Linking up to a target -/

/-- Every cell of the sequence points to the one after it, the last one to `o`. -/
def LinkedTo (next : ι → Option ι) : List ι → Option ι → Prop
  | [], _ => True
  | x :: l, o => next x = l.head?.or o ∧ LinkedTo next l o

theorem linkedTo_none {next : ι → Option ι} {l : List ι} :
    LinkedTo next l none ↔ Linked next l := by
  induction l with
  | nil => exact Iff.rfl
  | cons x l ih => rw [LinkedTo, Linked, Option.or_none, ih]

theorem linkedTo_append {next : ι → Option ι} {l₁ l₂ : List ι} {o : Option ι} :
    LinkedTo next (l₁ ++ l₂) o ↔ LinkedTo next l₁ (l₂.head?.or o) ∧ LinkedTo next l₂ o := by
  induction l₁ with
  | nil => exact (iff_of_eq (true_and _)).symm
  | cons x l₁ ih =>
    rw [List.cons_append, LinkedTo, LinkedTo, List.head?_append, Option.or_assoc, ih, and_assoc]

theorem LinkedTo.congr {next next' : ι → Option ι} {l : List ι} {o : Option ι}
    (h : LinkedTo next l o) (heq : ∀ x ∈ l, next' x = next x) : LinkedTo next' l o := by
  induction l with
  | nil => trivial
  | cons x l ih =>
    obtain ⟨hx, hl⟩ := h
    exact ⟨(heq x List.mem_cons_self).trans hx,
      ih hl fun y hy => heq y (List.mem_cons_of_mem _ hy)⟩

theorem Linked.next_eq {next : ι → Option ι} {xs ys : List ι} {x y : ι}
    (h : Linked next (xs ++ x :: y :: ys)) : next x = some y :=
  (linkedTo_append.mp (linkedTo_none.mpr h)).2.1

/-- **A cell in the middle goes**, and the one before it points to the one behind it. -/
theorem Linked.unlink {next next' : ι → Option ι} {xs ys : List ι} {a x b : ι}
    (h : Linked next (xs ++ a :: x :: b :: ys)) (hab : next' a = some b)
    (heq : ∀ y ∈ xs ++ b :: ys, next' y = next y) : Linked next' (xs ++ a :: b :: ys) := by
  rw [← linkedTo_none, linkedTo_append] at h ⊢
  obtain ⟨hxs, -, -, hys⟩ := h
  exact ⟨hxs.congr fun y hy => heq y (List.mem_append_left _ hy), hab,
    hys.congr fun y hy => heq y (List.mem_append_right _ hy)⟩

/-! ## Doubly linked queues -/

/-- The links hold the sequence `l` in both directions. -/
structure Doubly (head tail : Option ι) (next prev : ι → Option ι) (l : List ι) : Prop where
  threaded : Threaded head tail next l
  back : Linked prev l.reverse

namespace Doubly

variable {head tail : Option ι} {next next' prev prev' : ι → Option ι} {l : List ι}

theorem nil (next prev : ι → Option ι) : Doubly none none next prev [] := ⟨.nil next, trivial⟩

theorem first {x : ι} (hx : next x = none) (hx' : prev x = none) :
    Doubly (some x) (some x) next prev [x] := ⟨.first hx, hx', trivial⟩

theorem congr (h : Doubly head tail next prev l) (heq : ∀ x ∈ l, next' x = next x)
    (heq' : ∀ x ∈ l, prev' x = prev x) : Doubly head tail next' prev' l :=
  ⟨h.threaded.congr heq, h.back.congr fun x hx => heq' x (List.mem_reverse.mp hx)⟩

/-- Seen from the other end. -/
theorem symm (h : Doubly head tail next prev l) : Doubly tail head prev next l.reverse where
  threaded := ⟨by rw [List.head?_reverse, h.threaded.tail_eq],
    by rw [List.getLast?_reverse, h.threaded.head_eq], h.back,
    List.nodup_reverse.mpr h.threaded.nodup⟩
  back := by rw [List.reverse_reverse]; exact h.threaded.linked

theorem next_eq {x y : ι} {xs ys : List ι}
    (h : Doubly head tail next prev (xs ++ x :: y :: ys)) : next x = some y :=
  h.threaded.linked.next_eq

theorem prev_eq {x y : ι} {xs ys : List ι}
    (h : Doubly head tail next prev (xs ++ x :: y :: ys)) : prev y = some x := by
  have hback := h.back
  rw [List.reverse_append, List.reverse_cons, List.reverse_cons, List.append_assoc,
    List.append_assoc] at hback
  exact hback.next_eq

/-- **A fresh cell behind the tail**, which points back to it. -/
theorem push {t x : ι} (h : Doubly head (some t) next prev l) (hxl : x ∉ l)
    (htx : next' t = some x) (hx : next' x = none) (hxt : prev' x = some t)
    (heq : ∀ y ∈ l, y ≠ t → next' y = next y) (heq' : ∀ y ∈ l, prev' y = prev y) :
    Doubly head (some x) next' prev' (l ++ [x]) where
  threaded := h.threaded.push hxl htx hx heq
  back := by
    rw [List.reverse_append]
    refine ⟨?_, h.back.congr fun y hy => heq' y (List.mem_reverse.mp hy)⟩
    rw [hxt, h.threaded.tail_eq]
    exact List.head?_reverse.symm

/-- **The head leaves**, and the second cell points back nowhere. -/
theorem pop {x y : ι} {l : List ι} (h : Doubly head tail next prev (x :: y :: l))
    (hy : prev' y = none) (heq : ∀ z ∈ y :: l, next' z = next z)
    (heq' : ∀ z ∈ l, prev' z = prev z) : Doubly (some y) tail next' prev' (y :: l) where
  threaded := ⟨rfl, by rw [h.threaded.tail_eq, List.getLast?_cons_cons],
    h.threaded.linked.2.congr heq, (List.nodup_cons.mp h.threaded.nodup).2⟩
  back := by
    have hback := h.back
    have hnd := List.nodup_cons.mp (List.nodup_cons.mp h.threaded.nodup).2
    rw [List.reverse_cons] at hback
    refine hback.dropLast (List.nodup_reverse.mpr (List.nodup_cons.mpr hnd)) (t := y) (by simp) hy ?_
    intro z hz hzy
    exact heq' z ((List.mem_cons.mp (List.mem_reverse.mp hz)).resolve_left hzy)

/-- **The tail leaves**, and the cell before it points nowhere. -/
theorem dropLast {x y : ι} {l : List ι} (h : Doubly head tail next prev (l ++ [y] ++ [x]))
    (hy : next' y = none) (heq : ∀ z ∈ l, next' z = next z)
    (heq' : ∀ z ∈ l ++ [y], prev' z = prev z) : Doubly head (some y) next' prev' (l ++ [y]) := by
  have hsymm : Doubly tail head prev next (x :: y :: l.reverse) := by
    have hsymm := h.symm
    rwa [List.reverse_append, List.reverse_append] at hsymm
  have hpop := Doubly.pop hsymm hy
    (fun z hz => heq' z (by
      rcases List.mem_cons.mp hz with rfl | hz
      · simp
      · exact List.mem_append_left _ (List.mem_reverse.mp hz)))
    (fun z hz => heq z (List.mem_reverse.mp hz))
  have hback := hpop.symm
  rwa [List.reverse_cons, List.reverse_reverse] at hback

/-- **A cell in the middle leaves.** -/
theorem unlink {xs ys : List ι} {a x b : ι}
    (h : Doubly head tail next prev (xs ++ a :: x :: b :: ys)) (hab : next' a = some b)
    (hba : prev' b = some a) (heq : ∀ z ∈ xs ++ b :: ys, next' z = next z)
    (heq' : ∀ z ∈ xs ++ a :: ys, prev' z = prev z) :
    Doubly head tail next' prev' (xs ++ a :: b :: ys) where
  threaded := by
    refine ⟨?_, ?_, h.threaded.linked.unlink hab heq, ?_⟩
    · rw [h.threaded.head_eq]
      cases xs <;> rfl
    · rw [h.threaded.tail_eq]
      simp [List.getLast?_append, List.getLast?_cons_cons]
    · exact h.threaded.nodup.sublist
        ((List.append_sublist_append_left xs).mpr ((List.sublist_cons_self x _).cons_cons a))
  back := by
    have hback := h.back
    simp only [List.reverse_append, List.reverse_cons, List.append_assoc, List.singleton_append] at hback ⊢
    refine hback.unlink hba fun z hz => heq' z ?_
    simp only [List.mem_append, List.mem_reverse, List.mem_cons] at hz ⊢
    tauto

end Doubly

end LinkedChain
