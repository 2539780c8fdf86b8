import Mathlib.Data.List.Nodup
import Mathlib.Order.Compare

/-!
# Search trees driven by a comparator

The `tsearch` family works on a binary tree whose order is known only through the comparator
passed to each call. `find` is the walk every such tree makes; how an insertion or a deletion
reshapes the tree is left to the implementation.

* `TreeImpl` — an implementation: its insertion and deletion keep the in-order sequence,
  with the one item added or taken out where the comparator puts it. `TreeImpl.plain` is the
  unbalanced one.
* `Ordered cmp key` — a sequence sorted strictly by a key.
* `find_byKey` — searching by the key the tree is ordered by finds what is there, and nothing
  else.
* `find_complete_iff`, `find_other_key_iff` — searching by any other key finds every item
  exactly when the tree is ordered by that key too; `find_iff_above` is the rule for one item.
* `WalkImpl` — an implementation that deletes what the walk finds, in whatever order;
  `StrictWalkImpl` — one that deletes nothing else.
-/

set_option autoImplicit false

namespace SearchTree

open Std

inductive Tree (α : Type*) where
  | leaf
  | node (left : Tree α) (item : α) (right : Tree α)
  deriving DecidableEq, Repr

variable {α κ : Type*}

namespace Tree

/-- The items from left to right. -/
def toList : Tree α → List α
  | leaf => []
  | node l a r => l.toList ++ a :: r.toList

/-- `tfind`: `c a` compares the key searched for with the item `a`. -/
def find (c : α → Ordering) : Tree α → Option α
  | leaf => none
  | node l a r =>
      match c a with
      | .eq => some a
      | .lt => l.find c
      | .gt => r.find c

/-- The items that a walk compares with the key. -/
def visited (c : α → Ordering) : Tree α → List α
  | leaf => []
  | node l a r =>
      a :: match c a with
        | .eq => []
        | .lt => l.visited c
        | .gt => r.visited c

theorem visited_subset (c : α → Ordering) (t : Tree α) : ∀ x ∈ t.visited c, x ∈ t.toList := by
  induction t with
  | leaf => simp [visited]
  | node l a r ihl ihr =>
    intro x hx
    simp only [visited, List.mem_cons] at hx
    simp only [toList, List.mem_append, List.mem_cons]
    rcases hx with rfl | hx
    · exact .inr (.inl rfl)
    · split at hx
      · cases hx
      · exact .inl (ihl x hx)
      · exact .inr (.inr (ihr x hx))

theorem find_some {c : α → Ordering} {t : Tree α} {b : α} (h : t.find c = some b) :
    b ∈ t.toList ∧ c b = .eq := by
  induction t with
  | leaf => cases h
  | node l a r ihl ihr =>
    simp only [find] at h
    simp only [toList, List.mem_append, List.mem_cons]
    split at h
    · rename_i ha
      cases h
      exact ⟨.inr (.inl rfl), ha⟩
    · exact ⟨.inl (ihl h).1, (ihl h).2⟩
    · exact ⟨.inr (.inr (ihr h).1), (ihr h).2⟩

end Tree

open SearchTree.Tree

/-! ## Cuts -/

/-- The comparator sends `xs` to the left of the key and `ys` to the right of it. -/
structure Cut (c : α → Ordering) (xs ys : List α) : Prop where
  left : ∀ x ∈ xs, c x = .gt
  right : ∀ y ∈ ys, c y = .lt

/-- A cut of a node's sequence lies in the right subtree or in the left one. -/
theorem node_cut {l r xs ys : List α} {a : α} (h : l ++ a :: r = xs ++ ys) :
    (∃ zs, xs = l ++ a :: zs ∧ r = zs ++ ys) ∨ ∃ zs, l = xs ++ zs ∧ ys = zs ++ a :: r := by
  rcases List.append_eq_append_iff.mp h with ⟨zs, hxs, hzs⟩ | ⟨zs, hl, hys⟩
  · cases zs with
    | nil => exact .inr ⟨[], by simpa using hxs.symm, by simpa using hzs.symm⟩
    | cons z zs =>
      obtain ⟨rfl, hr⟩ := List.cons.inj hzs
      exact .inl ⟨zs, hxs, hr⟩
  · exact .inr ⟨zs, hl, hys⟩

/-- The item of a cut is the root, or lies in one of the subtrees. -/
theorem node_cut_item {l r xs ys : List α} {a b : α} (h : l ++ a :: r = xs ++ b :: ys) :
    (l = xs ∧ a = b ∧ r = ys) ∨ (∃ zs, xs = l ++ a :: zs ∧ r = zs ++ b :: ys) ∨
      ∃ zs, l = xs ++ b :: zs ∧ ys = zs ++ a :: r := by
  rcases node_cut h with hright | ⟨zs, hl, hys⟩
  · exact .inr (.inl hright)
  · cases zs with
    | nil =>
      obtain ⟨rfl, rfl⟩ := List.cons.inj hys
      exact .inl ⟨by simpa using hl, rfl, rfl⟩
    | cons z zs =>
      obtain ⟨rfl, rfl⟩ := List.cons.inj hys
      exact .inr (.inr ⟨zs, hl, rfl⟩)

theorem find_of_cut {c : α → Ordering} {t : Tree α} {xs ys : List α} {b : α}
    (ht : t.toList = xs ++ b :: ys) (hcut : Cut c xs ys) (hb : c b = .eq) :
    t.find c = some b := by
  induction t generalizing xs ys with
  | leaf => exact absurd ht (by simp [toList])
  | node l a r ihl ihr =>
    rcases node_cut_item ht with ⟨-, rfl, -⟩ | ⟨zs, rfl, hr⟩ | ⟨zs, hl, rfl⟩
    · simp only [find, hb]
    · have ha : c a = .gt := hcut.left a (by simp)
      simp only [find, ha]
      exact ihr hr ⟨fun x hx => hcut.left x (by simp [hx]), hcut.right⟩
    · have ha : c a = .lt := hcut.right a (by simp)
      simp only [find, ha]
      exact ihl hl ⟨hcut.left, fun y hy => hcut.right y (by simp [hy])⟩

theorem find_none_of_cut {c : α → Ordering} {t : Tree α} {xs ys : List α}
    (ht : t.toList = xs ++ ys) (hcut : Cut c xs ys) : t.find c = none := by
  cases h : t.find c with
  | none => rfl
  | some b =>
    obtain ⟨hmem, heq⟩ := find_some h
    rw [ht, List.mem_append] at hmem
    rcases hmem with hb | hb
    · exact absurd (hcut.left b hb) (by rw [heq]; decide)
    · exact absurd (hcut.right b hb) (by rw [heq]; decide)

/-- What is left when one item of a sequence without repetition goes. -/
theorem mem_removed {xs ys : List α} {b : α} (hnodup : (xs ++ b :: ys).Nodup) (x : α) :
    x ∈ xs ++ ys ↔ x ≠ b ∧ x ∈ xs ++ b :: ys := by
  have hb : b ∉ xs ++ ys := (List.nodup_middle.mp hnodup).notMem
  simp only [List.mem_append, List.mem_cons] at hb ⊢
  constructor
  · intro hx
    exact ⟨fun he => hb (he ▸ hx), hx.imp_right .inr⟩
  · rintro ⟨hne, hx | rfl | hx⟩
    · exact .inl hx
    · exact absurd rfl hne
    · exact .inr hx

/-! ## Implementations -/

/-- What a caller may rely on. Every call is given its own comparator, and an insertion finds memory
for its node. -/
structure TreeImpl (α : Type*) where
  tsearch : (α → Ordering) → α → Tree α → Tree α
  tdelete : (α → Ordering) → Tree α → Tree α
  tsearch_new : ∀ {c : α → Ordering} {a : α} {t : Tree α} {xs ys : List α},
    t.toList = xs ++ ys → Cut c xs ys → (tsearch c a t).toList = xs ++ a :: ys
  tsearch_found : ∀ {c : α → Ordering} {a b : α} {t : Tree α} {xs ys : List α},
    t.toList = xs ++ b :: ys → Cut c xs ys → c b = .eq → (tsearch c a t).toList = t.toList
  tdelete_found : ∀ {c : α → Ordering} {b : α} {t : Tree α} {xs ys : List α},
    t.toList = xs ++ b :: ys → Cut c xs ys → c b = .eq → (tdelete c t).toList = xs ++ ys
  tdelete_missing : ∀ {c : α → Ordering} {t : Tree α} {xs ys : List α},
    t.toList = xs ++ ys → Cut c xs ys → (tdelete c t).toList = t.toList

/-! ## The unbalanced implementation -/

namespace Tree

def insert (c : α → Ordering) (x : α) : Tree α → Tree α
  | leaf => node leaf x leaf
  | node l a r =>
      match c a with
      | .eq => node l a r
      | .lt => node (l.insert c x) a r
      | .gt => node l a (r.insert c x)

/-- All of `r` to the right of all of the first tree. -/
def join : Tree α → Tree α → Tree α
  | leaf, r => r
  | node ll a lr, r => node ll a (lr.join r)

def delete (c : α → Ordering) : Tree α → Tree α
  | leaf => leaf
  | node l a r =>
      match c a with
      | .eq => l.join r
      | .lt => node (l.delete c) a r
      | .gt => node l a (r.delete c)

theorem toList_join (l r : Tree α) : (l.join r).toList = l.toList ++ r.toList := by
  induction l with
  | leaf => rfl
  | node ll a lr _ ih => simp [join, toList, ih]

theorem toList_insert_new {c : α → Ordering} {x : α} {t : Tree α} {xs ys : List α}
    (ht : t.toList = xs ++ ys) (hcut : Cut c xs ys) : (t.insert c x).toList = xs ++ x :: ys := by
  induction t generalizing xs ys with
  | leaf =>
    obtain ⟨rfl, rfl⟩ := List.append_eq_nil_iff.mp ht.symm
    rfl
  | node l a r ihl ihr =>
    rcases node_cut ht with ⟨zs, rfl, hr⟩ | ⟨zs, hl, rfl⟩
    · have ha : c a = .gt := hcut.left a (by simp)
      simp only [insert, ha, toList]
      rw [ihr hr ⟨fun x hx => hcut.left x (by simp [hx]), hcut.right⟩]
      simp
    · have ha : c a = .lt := hcut.right a (by simp)
      simp only [insert, ha, toList]
      rw [ihl hl ⟨hcut.left, fun y hy => hcut.right y (by simp [hy])⟩]
      simp

theorem insert_found {c : α → Ordering} {x b : α} {t : Tree α} (h : t.find c = some b) :
    t.insert c x = t := by
  induction t with
  | leaf => cases h
  | node l a r ihl ihr =>
    cases ha : c a with
    | eq => simp only [insert, ha]
    | lt =>
      simp only [find, ha] at h
      simp only [insert, ha, ihl h]
    | gt =>
      simp only [find, ha] at h
      simp only [insert, ha, ihr h]

theorem toList_delete_found {c : α → Ordering} {b : α} {t : Tree α} {xs ys : List α}
    (ht : t.toList = xs ++ b :: ys) (hcut : Cut c xs ys) (hb : c b = .eq) :
    (t.delete c).toList = xs ++ ys := by
  induction t generalizing xs ys with
  | leaf => exact absurd ht (by simp [toList])
  | node l a r ihl ihr =>
    rcases node_cut_item ht with ⟨rfl, rfl, rfl⟩ | ⟨zs, rfl, hr⟩ | ⟨zs, hl, rfl⟩
    · simp only [delete, hb, toList_join]
    · have ha : c a = .gt := hcut.left a (by simp)
      simp only [delete, ha, toList]
      rw [ihr hr ⟨fun x hx => hcut.left x (by simp [hx]), hcut.right⟩]
      simp
    · have ha : c a = .lt := hcut.right a (by simp)
      simp only [delete, ha, toList]
      rw [ihl hl ⟨hcut.left, fun y hy => hcut.right y (by simp [hy])⟩]
      simp

theorem delete_missing {c : α → Ordering} {t : Tree α} (h : t.find c = none) :
    t.delete c = t := by
  induction t with
  | leaf => rfl
  | node l a r ihl ihr =>
    cases ha : c a with
    | eq =>
      simp only [find, ha] at h
      cases h
    | lt =>
      simp only [find, ha] at h
      simp only [delete, ha, ihl h]
    | gt =>
      simp only [find, ha] at h
      simp only [delete, ha, ihr h]

end Tree

def TreeImpl.plain (α : Type*) : TreeImpl α where
  tsearch := Tree.insert
  tdelete := Tree.delete
  tsearch_new := toList_insert_new
  tsearch_found := fun ht hcut hb => by rw [insert_found (find_of_cut ht hcut hb)]
  tdelete_found := toList_delete_found
  tdelete_missing := fun ht hcut => by rw [delete_missing (find_none_of_cut ht hcut)]

/-! ## Trees ordered by a key -/

variable (cmp : κ → κ → Ordering) (key : α → κ)

/-- The comparator of a search for the item with key `k`. -/
def byKey (k : κ) (a : α) : Ordering := cmp k (key a)

/-- Strictly increasing keys. -/
def Ordered (l : List α) : Prop := l.Pairwise fun x y => cmp (key x) (key y) = .lt

variable {cmp key}

/-- Only the keys of the items matter. -/
theorem Ordered.congr {key' : α → κ} {l : List α} (h : Ordered cmp key l)
    (heq : ∀ x ∈ l, key' x = key x) : Ordered cmp key' l :=
  h.imp_of_mem fun hx hy hlt => by rwa [heq _ hx, heq _ hy]

theorem Ordered.nodup [ReflCmp cmp] {l : List α} (h : Ordered cmp key l) : l.Nodup :=
  h.imp fun hlt heq => by
    rw [heq, @ReflCmp.compare_self _ cmp] at hlt
    cases hlt

theorem byKey_self [ReflCmp cmp] (b : α) : byKey cmp key (key b) b = .eq :=
  ReflCmp.compare_self

/-- Putting an item with a new key where the comparator wants it keeps the order. -/
theorem Ordered.insert [OrientedCmp cmp] {xs ys : List α} {a : α}
    (h : Ordered cmp key (xs ++ ys)) (hcut : Cut (byKey cmp key (key a)) xs ys) :
    Ordered cmp key (xs ++ a :: ys) := by
  obtain ⟨hxs, hys, hxy⟩ := List.pairwise_append.mp h
  refine List.pairwise_append.mpr ⟨hxs, List.pairwise_cons.mpr ⟨hcut.right, hys⟩, ?_⟩
  intro x hx y hy
  rcases List.mem_cons.mp hy with rfl | hy
  · exact OrientedCmp.gt_iff_lt.mp (hcut.left x hx)
  · exact hxy x hx y hy

section

variable [TransCmp cmp] [LawfulEqCmp cmp]

/-- A key cuts an ordered sequence in two, or hits an item of it. -/
theorem Ordered.cut {l : List α} (h : Ordered cmp key l) (k : κ) :
    (∃ xs ys, l = xs ++ ys ∧ Cut (byKey cmp key k) xs ys) ∨
      ∃ xs b ys, l = xs ++ b :: ys ∧ Cut (byKey cmp key k) xs ys ∧ key b = k := by
  induction l with
  | nil => exact .inl ⟨[], [], rfl, by simp, by simp⟩
  | cons a l ih =>
    obtain ⟨ha, hl⟩ := List.pairwise_cons.mp h
    have hbelow : cmp k (key a) ≠ .gt → ∀ y ∈ l, byKey cmp key k y = .lt := fun hle y hy =>
      TransCmp.lt_of_isLE_of_lt (Ordering.isLE_iff_ne_gt.mpr hle) (ha y hy)
    cases hka : cmp k (key a) with
    | lt =>
      refine .inl ⟨[], a :: l, rfl, by simp, fun y hy => ?_⟩
      rcases List.mem_cons.mp hy with rfl | hy
      · exact hka
      · exact hbelow (by rw [hka]; decide) y hy
    | eq =>
      exact .inr ⟨[], a, l, rfl, ⟨by simp, hbelow (by rw [hka]; decide)⟩,
        (LawfulEqCmp.eq_of_compare hka).symm⟩
    | gt =>
      have hleft : ∀ xs : List α, (∀ x ∈ xs, byKey cmp key k x = .gt) →
          ∀ x ∈ a :: xs, byKey cmp key k x = .gt := by
        intro xs hxs x hx
        rcases List.mem_cons.mp hx with rfl | hx
        · exact hka
        · exact hxs x hx
      rcases ih hl with ⟨xs, ys, rfl, hcut⟩ | ⟨xs, b, ys, rfl, hcut, hb⟩
      · exact .inl ⟨a :: xs, ys, rfl, hleft xs hcut.left, hcut.right⟩
      · exact .inr ⟨a :: xs, b, ys, rfl, ⟨hleft xs hcut.left, hcut.right⟩, hb⟩

/-- **Searching by the key of the order** finds the item that has it, if there is one. -/
theorem find_byKey {t : Tree α} (h : Ordered cmp key t.toList) {k : κ} {b : α} :
    t.find (byKey cmp key k) = some b ↔ b ∈ t.toList ∧ key b = k := by
  constructor
  · intro hf
    obtain ⟨hmem, heq⟩ := find_some hf
    exact ⟨hmem, (LawfulEqCmp.eq_of_compare heq).symm⟩
  · rintro ⟨hmem, rfl⟩
    rcases h.cut (key b) with ⟨xs, ys, ht, hcut⟩ | ⟨xs, b', ys, ht, hcut, hb'⟩
    · have hnone := find_none_of_cut ht hcut
      rw [ht, List.mem_append] at hmem
      rcases hmem with hm | hm
      · exact absurd (hcut.left b hm) (by rw [byKey_self]; decide)
      · exact absurd (hcut.right b hm) (by rw [byKey_self]; decide)
    · rw [find_of_cut ht hcut (by rw [byKey, hb']; exact ReflCmp.compare_self), Option.some.injEq]
      rw [ht, List.mem_append, List.mem_cons] at hmem
      rcases hmem with hm | rfl | hm
      · exact absurd (hcut.left b hm) (by rw [byKey_self]; decide)
      · rfl
      · exact absurd (hcut.right b hm) (by rw [byKey_self]; decide)

/-- `tsearch` of a key that is not there adds the item. -/
theorem TreeImpl.tsearch_spec (impl : TreeImpl α) {t : Tree α} {a : α}
    (h : Ordered cmp key t.toList) (hnew : ∀ x ∈ t.toList, key x ≠ key a) :
    Ordered cmp key (impl.tsearch (byKey cmp key (key a)) a t).toList ∧
      ∀ x, x ∈ (impl.tsearch (byKey cmp key (key a)) a t).toList ↔ x = a ∨ x ∈ t.toList := by
  rcases h.cut (key a) with ⟨xs, ys, ht, hcut⟩ | ⟨xs, b, ys, ht, -, hb⟩
  · rw [impl.tsearch_new ht hcut]
    refine ⟨Ordered.insert (ht ▸ h) hcut, fun x => ?_⟩
    rw [ht]
    simp only [List.mem_append, List.mem_cons]
    tauto
  · exact absurd hb (hnew b (by rw [ht]; simp))

/-- `tdelete` of a key that is there takes its item out. -/
theorem TreeImpl.tdelete_spec (impl : TreeImpl α) {t : Tree α} {a : α}
    (h : Ordered cmp key t.toList) (ha : a ∈ t.toList) :
    Ordered cmp key (impl.tdelete (byKey cmp key (key a)) t).toList ∧
      ∀ x, x ∈ (impl.tdelete (byKey cmp key (key a)) t).toList ↔ x ≠ a ∧ x ∈ t.toList := by
  obtain ⟨xs, b, ys, ht, hcut, hb⟩ :
      ∃ xs b ys, t.toList = xs ++ b :: ys ∧ Cut (byKey cmp key (key a)) xs ys ∧ b = a := by
    have hfind := (find_byKey h).mpr ⟨ha, rfl⟩
    rcases h.cut (key a) with ⟨xs, ys, ht, hcut⟩ | ⟨xs, b, ys, ht, hcut, hb⟩
    · rw [find_none_of_cut ht hcut] at hfind
      cases hfind
    · rw [find_of_cut ht hcut (by rw [byKey, hb]; exact ReflCmp.compare_self),
        Option.some.injEq] at hfind
      exact ⟨xs, b, ys, ht, hcut, hfind⟩
  subst hb
  rw [impl.tdelete_found ht hcut (byKey_self b)]
  have hnodup := h.nodup
  rw [ht] at h hnodup ⊢
  have hsub : (xs ++ ys).Sublist (xs ++ b :: ys) :=
    (List.append_sublist_append_left xs).mpr (List.sublist_cons_self b ys)
  exact ⟨h.sublist hsub, mem_removed hnodup⟩

/-! ## Searching by another key -/

/-- **Every item is found by its own key exactly when the tree is ordered by that key.** -/
theorem find_complete_iff {t : Tree α} (hnodup : t.toList.Nodup) :
    (∀ x ∈ t.toList, t.find (byKey cmp key (key x)) = some x) ↔ Ordered cmp key t.toList := by
  constructor
  · intro h
    -- an item of a subtree is found only if the walk goes that way at every node above it
    induction t with
    | leaf => exact List.Pairwise.nil
    | node l a r ihl ihr =>
      simp only [toList] at h hnodup ⊢
      obtain ⟨hl, har, hdisj⟩ := List.nodup_append.mp hnodup
      obtain ⟨ha, hr⟩ := List.nodup_cons.mp har
      have hleft : ∀ x ∈ l.toList,
          cmp (key x) (key a) = .lt ∧ l.find (byKey cmp key (key x)) = some x := by
        intro x hx
        have hx' := h x (by simp [hx])
        simp only [find] at hx'
        split at hx'
        · rw [Option.some.injEq] at hx'
          exact absurd hx'.symm (hdisj x hx a List.mem_cons_self)
        · rename_i hlt
          exact ⟨hlt, hx'⟩
        · exact absurd rfl (hdisj x hx x (List.mem_cons_of_mem _ (find_some hx').1))
      have hright : ∀ x ∈ r.toList,
          cmp (key x) (key a) = .gt ∧ r.find (byKey cmp key (key x)) = some x := by
        intro x hx
        have hx' := h x (by simp [hx])
        simp only [find] at hx'
        split at hx'
        · rw [Option.some.injEq] at hx'
          exact absurd (hx' ▸ hx) ha
        · exact absurd rfl (hdisj x (find_some hx').1 x (List.mem_cons_of_mem _ hx))
        · rename_i hgt
          exact ⟨hgt, hx'⟩
      have hol := ihl hl fun x hx => (hleft x hx).2
      have hor := ihr hr fun x hx => (hright x hx).2
      refine List.pairwise_append.mpr ⟨hol, List.pairwise_cons.mpr ⟨fun y hy => ?_, hor⟩, ?_⟩
      · exact OrientedCmp.gt_iff_lt.mp (hright y hy).1
      · intro x hx y hy
        rcases List.mem_cons.mp hy with rfl | hy
        · exact (hleft x hx).1
        · exact TransCmp.lt_trans (hleft x hx).1 (OrientedCmp.gt_iff_lt.mp (hright y hy).1)
  · intro h x hx
    exact (find_byKey h).mpr ⟨hx, rfl⟩

/-- Two items of an ordered sequence with different keys stand in the order of their keys. -/
theorem Ordered.agrees_iff {κ' : Type*} {cmp' : κ' → κ' → Ordering} {key' : α → κ'} {l : List α}
    (h : Ordered cmp key l) :
    Ordered cmp' key' l ↔ ∀ x ∈ l, ∀ y ∈ l,
      cmp (key x) (key y) = .lt → cmp' (key' x) (key' y) = .lt := by
  constructor
  · intro h' x hx y hy
    refine List.Pairwise.forall_of_forall_of_flip
      (R := fun x y => cmp (key x) (key y) = .lt → cmp' (key' x) (key' y) = .lt)
      (fun x _ hxx => ?_) (h'.imp fun hlt' => fun _ => hlt') (h.imp fun hlt => fun hgt => ?_) hx hy
    · rw [@ReflCmp.compare_self _ cmp] at hxx
      cases hxx
    · rw [← OrientedCmp.gt_iff_lt, hlt] at hgt
      cases hgt
  · intro hagree
    exact h.imp_of_mem fun hx hy hlt => hagree _ hx _ hy hlt

/-- **Searching a tree by a key it was not built with** gives, for every key, the item that
has it and nothing otherwise, exactly when that key increases with the key of the order. -/
theorem find_other_key_iff {κ' : Type*} (cmp' : κ' → κ' → Ordering) [TransCmp cmp']
    [LawfulEqCmp cmp'] (key' : α → κ') {t : Tree α} (h : Ordered cmp key t.toList) :
    (∀ k b, t.find (byKey cmp' key' k) = some b ↔ b ∈ t.toList ∧ key' b = k) ↔
      ∀ x ∈ t.toList, ∀ y ∈ t.toList,
        cmp (key x) (key y) = .lt → cmp' (key' x) (key' y) = .lt := by
  rw [← h.agrees_iff, ← find_complete_iff h.nodup]
  constructor
  · exact fun hall x hx => (hall (key' x) x).mpr ⟨hx, rfl⟩
  · exact fun hall k b => find_byKey ((find_complete_iff h.nodup).mp hall)

/-- **An item is what a search finds** exactly when the comparator knows it and goes, at every
item above it, the way to it. -/
theorem find_iff_above {t : Tree α} (h : Ordered cmp key t.toList) {x : α} (hx : x ∈ t.toList)
    (c : α → Ordering) :
    t.find c = some x ↔ c x = .eq ∧
      ∀ a ∈ t.visited (byKey cmp key (key x)), a ≠ x → c a = byKey cmp key (key x) a := by
  induction t with
  | leaf => cases hx
  | node l a r ihl ihr =>
    have hnodup := h.nodup
    simp only [toList] at h hx hnodup
    obtain ⟨hl, har, hla⟩ := List.pairwise_append.mp h
    obtain ⟨ha, hr⟩ := List.pairwise_cons.mp har
    obtain ⟨-, harnd, hdisj⟩ := List.nodup_append.mp hnodup
    obtain ⟨hanr, -⟩ := List.nodup_cons.mp harnd
    have hanl : a ∉ l.toList := fun hal => hdisj a hal a List.mem_cons_self rfl
    rw [List.mem_append, List.mem_cons] at hx
    rcases hx with hx | rfl | hx
    · have hway : byKey cmp key (key x) a = .lt := hla x hx a List.mem_cons_self
      have hxa : a ≠ x := fun heq => hanl (heq ▸ hx)
      have hxr : x ∉ r.toList := fun hxr => hdisj x hx x (List.mem_cons_of_mem _ hxr) rfl
      simp only [visited, hway, List.forall_mem_cons, hxa, ne_eq, not_false_eq_true, true_imp_iff]
      rw [and_left_comm, ← ihl hl hx]
      cases hca : c a with
      | eq => simp [find, hca, hxa]
      | lt => simp [find, hca]
      | gt =>
        simp only [find, hca, reduceCtorEq, false_and, iff_false]
        exact fun hfind => hxr (find_some hfind).1
    · have hself : byKey cmp key (key x) x = .eq := byKey_self x
      simp only [visited, hself, List.mem_singleton, forall_eq, ne_eq, not_true_eq_false,
        false_imp_iff, and_true]
      cases hcx : c x with
      | eq => simp [find, hcx]
      | lt =>
        simp only [find, hcx, reduceCtorEq, iff_false]
        exact fun hfind => hanl (find_some hfind).1
      | gt =>
        simp only [find, hcx, reduceCtorEq, iff_false]
        exact fun hfind => hanr (find_some hfind).1
    · have hway : byKey cmp key (key x) a = .gt := OrientedCmp.gt_iff_lt.mpr (ha x hx)
      have hxa : a ≠ x := fun heq => hanr (heq ▸ hx)
      have hxl : x ∉ l.toList := fun hxl => hdisj x hxl x (List.mem_cons_of_mem _ hx) rfl
      simp only [visited, hway, List.forall_mem_cons, hxa, ne_eq, not_false_eq_true, true_imp_iff]
      rw [and_left_comm, ← ihr hr hx]
      cases hca : c a with
      | eq => simp [find, hca, hxa]
      | lt =>
        simp only [find, hca, reduceCtorEq, false_and, iff_false]
        exact fun hfind => hxl (find_some hfind).1
      | gt => simp [find, hca]

end

/-! ## Deleting along a walk -/

/-- An implementation whose deletion takes out the item that the same walk finds, whether or not
the comparator agrees with the order of the tree. -/
structure WalkImpl (α : Type*) extends TreeImpl α where
  tdelete_walk : ∀ {c : α → Ordering} {b : α} {t : Tree α}, t.find c = some b →
    ∃ xs ys, t.toList = xs ++ b :: ys ∧ (tdelete c t).toList = xs ++ ys

theorem Tree.toList_delete_walk {c : α → Ordering} {b : α} {t : Tree α}
    (h : t.find c = some b) :
    ∃ xs ys, t.toList = xs ++ b :: ys ∧ (t.delete c).toList = xs ++ ys := by
  induction t with
  | leaf => cases h
  | node l a r ihl ihr =>
    cases ha : c a with
    | eq =>
      simp only [find, ha, Option.some.injEq] at h
      exact ⟨l.toList, r.toList, by rw [toList, h], by simp only [delete, ha, toList_join]⟩
    | lt =>
      simp only [find, ha] at h
      obtain ⟨xs, ys, hl, hdel⟩ := ihl h
      exact ⟨xs, ys ++ a :: r.toList, by simp [toList, hl], by simp [delete, ha, toList, hdel]⟩
    | gt =>
      simp only [find, ha] at h
      obtain ⟨xs, ys, hr, hdel⟩ := ihr h
      exact ⟨l.toList ++ a :: xs, ys, by simp [toList, hr], by simp [delete, ha, toList, hdel]⟩

def WalkImpl.plain (α : Type*) : WalkImpl α where
  toTreeImpl := .plain α
  tdelete_walk := Tree.toList_delete_walk

/-- What a walk has found leaves the sequence, and the others keep their order. -/
theorem WalkImpl.tdelete_spec (impl : WalkImpl α) [ReflCmp cmp] {t : Tree α}
    (h : Ordered cmp key t.toList) {c : α → Ordering} {b : α} (hfind : t.find c = some b) :
    Ordered cmp key (impl.tdelete c t).toList ∧
      ∀ x, x ∈ (impl.tdelete c t).toList ↔ x ≠ b ∧ x ∈ t.toList := by
  obtain ⟨xs, ys, ht, hdel⟩ := impl.tdelete_walk hfind
  have hnodup := h.nodup
  rw [ht] at h hnodup ⊢
  rw [hdel]
  have hsub : (xs ++ ys).Sublist (xs ++ b :: ys) :=
    (List.append_sublist_append_left xs).mpr (List.sublist_cons_self b ys)
  exact ⟨h.sublist hsub, mem_removed hnodup⟩

/-- An implementation whose deletion leaves the sequence alone when the walk finds nothing. -/
structure StrictWalkImpl (α : Type*) extends WalkImpl α where
  tdelete_lost : ∀ {c : α → Ordering} {t : Tree α}, t.find c = none →
    (tdelete c t).toList = t.toList

def StrictWalkImpl.plain (α : Type*) : StrictWalkImpl α where
  toWalkImpl := .plain α
  tdelete_lost := fun h => congrArg Tree.toList (delete_missing h)

end SearchTree
