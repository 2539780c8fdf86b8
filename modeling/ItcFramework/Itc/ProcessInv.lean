import Mathlib.Data.Nat.Bitwise
import ItcFramework.Itc.Process
import ItcFramework.Transport.SysvmqReconnect

/-!
# The invariant of a process

* `ItcInstance.Layout` — what `itc_init_zz` sets once: the masks, and the id of every mailbox.
* `Messages` — the rx queues hold distinct messages, each marked as queued.
* `ItcInstance.Slots` — a mailbox that is in use has an rx queue, threads own distinct ones, and
  the free mailboxes have none.

`ItcInstance.Inv s q` puts these together; it holds between any two statements of a call, so also
while a mailbox is being deleted. The lemmas about a call say what it leaves behind in terms of
the abstract queues `q`.
-/

set_option autoImplicit false

namespace ItcFramework

open ByteImage HeapModel SearchTree

/-! ## Mailbox ids -/

/-- The number of bits of `val`. -/
def bitWidth (val : UInt32) : Nat := val.toNat.log2 + 1

theorem lt_two_pow_bitWidth (val : UInt32) : val.toNat < 2 ^ bitWidth val :=
  Nat.lt_log2_self

theorem mask_toNat {val : UInt32} (h : val ≠ 0) :
    ((0xFFFFFFFF : UInt32) >>> CLZ val).toNat = 2 ^ bitWidth val - 1 := by
  have hne : val.toNat ≠ 0 := fun h0 => h (UInt32.toNat_inj.mp h0)
  have hlog : val.toNat.log2 < 32 := (Nat.log2_lt hne).mpr val.toNat_lt
  have hclz : (CLZ val).toNat = 31 - val.toNat.log2 := by
    rw [CLZ, UInt32.toNat_ofNat', Nat.mod_eq_of_lt (by omega)]
  have hones : (0xFFFFFFFF : UInt32).toNat = 2 ^ 32 - 1 := rfl
  rw [UInt32.toNat_shiftRight, hclz, Nat.mod_eq_of_lt (by omega), hones]
  apply Nat.eq_of_testBit_eq
  intro i
  rw [Nat.testBit_shiftRight, Nat.testBit_two_pow_sub_one, Nat.testBit_two_pow_sub_one]
  congr 1
  rw [bitWidth, eq_iff_iff]
  omega

theorem and_mask_toNat {val : UInt32} (h : val ≠ 0) (x : UInt32) :
    (x &&& ((0xFFFFFFFF : UInt32) >>> CLZ val)).toNat = x.toNat % 2 ^ bitWidth val := by
  rw [UInt32.toNat_and, mask_toNat h, Nat.and_two_pow_sub_one_eq_mod]

/-- The number of bits for the mailbox in an id. -/
def mboxBits : Nat := 20

section Ids

variable {my : MboxId} {i : Nat} (hmy : my.toNat % 2 ^ mboxBits = 0) (hi : i < 2 ^ mboxBits)

include hmy hi

theorem mboxId_and_coordMask : (my ||| UInt32.ofNat i) &&& ITC_COORD_MASK = my := by
  apply UInt32.toNat_inj.mp
  have hlt := my.toNat_lt
  have hofNat : (UInt32.ofNat i).toNat = i := by
    rw [UInt32.toNat_ofNat', Nat.mod_eq_of_lt (by rw [mboxBits] at hi; omega)]
  have hmask : ITC_COORD_MASK.toNat = (2 ^ 12 - 1) <<< mboxBits := rfl
  have hproc : my.toNat = (my.toNat / 2 ^ mboxBits) <<< mboxBits := by
    rw [Nat.shiftLeft_eq]
    exact (Nat.div_mul_cancel (Nat.dvd_of_mod_eq_zero hmy)).symm
  have hlow : i &&& ITC_COORD_MASK.toNat = 0 := by
    apply Nat.eq_of_testBit_eq
    intro j
    rw [hmask, Nat.testBit_and, Nat.testBit_shiftLeft, Nat.zero_testBit]
    by_cases hj : mboxBits ≤ j
    · rw [Nat.testBit_lt_two_pow (Nat.lt_of_lt_of_le hi (Nat.pow_le_pow_right (by omega) hj))]
      rfl
    · simp [hj]
  have hhigh : my.toNat &&& ITC_COORD_MASK.toNat = my.toNat := by
    rw [hproc, hmask, ← Nat.shiftLeft_and_distrib, Nat.and_two_pow_sub_one_of_lt_two_pow]
    rw [mboxBits]
    omega
  rw [UInt32.toNat_and, UInt32.toNat_or, hofNat, Nat.and_or_distrib_right, hlow, hhigh, Nat.or_zero]

theorem mboxId_mod {k : Nat} (hk : k ≤ mboxBits) (hik : i < 2 ^ k) :
    (my ||| UInt32.ofNat i).toNat % 2 ^ k = i := by
  have hofNat : (UInt32.ofNat i).toNat = i := by
    rw [UInt32.toNat_ofNat', Nat.mod_eq_of_lt (by rw [mboxBits] at hi; omega)]
  have hdvd : 2 ^ k ∣ my.toNat :=
    Nat.dvd_trans (Nat.pow_dvd_pow 2 hk) (Nat.dvd_of_mod_eq_zero hmy)
  rw [UInt32.toNat_or, hofNat, Nat.or_mod_two_pow, Nat.mod_eq_zero_of_dvd hdvd, Nat.zero_or,
    Nat.mod_eq_of_lt hik]

theorem mboxId_and_maxMailboxes_le :
    ((my ||| UInt32.ofNat i) &&& ITC_MAX_MAILBOXES).toNat ≤ i := by
  have hlt : ITC_MAX_MAILBOXES.toNat < 2 ^ mboxBits := by decide
  have hle : ((my ||| UInt32.ofNat i) &&& ITC_MAX_MAILBOXES).toNat < 2 ^ mboxBits := by
    rw [UInt32.toNat_and]
    exact Nat.lt_of_le_of_lt Nat.and_le_right hlt
  rw [← Nat.mod_eq_of_lt hle, UInt32.toNat_and, Nat.and_mod_two_pow,
    mboxId_mod hmy hi (Nat.le_refl _) hi]
  exact Nat.and_le_left

end Ids

/-! ## Layout -/

/-- What `local_init` has set. -/
structure LocalInst.Configured (inst : LocalInst) (my : MboxId) (nrMboxes : UInt32) : Prop where
  my : inst.myMboxIdInItccoord = my
  mask : inst.itccoordMask = ITC_COORD_MASK
  localMask : inst.localMboxMask = 0xFFFFFFFF >>> CLZ nrMboxes
  nr : inst.nrLocalmbxDatas = 0xFFFFFFFF >>> CLZ nrMboxes + 1
  allocated : inst.isAllocated = true

theorem LocalInst.Configured.setData {inst : LocalInst} {my : MboxId} {nrMboxes : UInt32}
    (h : inst.Configured my nrMboxes) (i : Nat) (data : LocalMboxData) :
    (inst.setData i data).Configured my nrMboxes :=
  ⟨h.my, h.mask, h.localMask, h.nr, h.allocated⟩

/-- What `itc_init_zz` has set and no call changes, for every number of mailboxes that a C `int`
holds. -/
structure ItcInstance.Numbered {σ : Type} (s : ItcInstance σ) : Prop where
  my : s.myMboxIdInItccoord.toNat % 2 ^ mboxBits = 0
  mask : s.itccoordMask = ITC_COORD_MASK
  nrPos : s.nrMboxes ≠ 0
  nrLt : s.nrMboxes.toNat < 2 ^ 31
  localMask : s.localMboxMask = 0xFFFFFFFF >>> CLZ s.nrMboxes
  ids : ∀ i, i < s.nrMboxes.toNat →
    (s.mboxes i).mboxId = s.myMboxIdInItccoord ||| UInt32.ofNat i
  localInst : s.localInst.Configured s.myMboxIdInItccoord s.nrMboxes

/-- The same when the mailboxes fit the ids. -/
structure ItcInstance.Layout {σ : Type} (s : ItcInstance σ) : Prop where
  my : s.myMboxIdInItccoord.toNat % 2 ^ mboxBits = 0
  mask : s.itccoordMask = ITC_COORD_MASK
  nrPos : s.nrMboxes ≠ 0
  nrLt : s.nrMboxes.toNat < 2 ^ mboxBits
  localMask : s.localMboxMask = 0xFFFFFFFF >>> CLZ s.nrMboxes
  ids : ∀ i, i < s.nrMboxes.toNat →
    (s.mboxes i).mboxId = s.myMboxIdInItccoord ||| UInt32.ofNat i
  localInst : s.localInst.Configured s.myMboxIdInItccoord s.nrMboxes
  sysvmqInst : s.sysvmqInst.Configured

variable {σ : Type}

namespace ItcInstance.Numbered

variable {s : ItcInstance σ}

/-- `find_mbox` by the bits of the id. -/
theorem findMbox_eq (h : s.Numbered) (mboxId : MboxId) :
    findMbox s mboxId =
      if mboxId &&& ITC_COORD_MASK = s.myMboxIdInItccoord then
        if mboxId.toNat % 2 ^ bitWidth s.nrMboxes < s.nrMboxes.toNat then
          some (mboxId.toNat % 2 ^ bitWidth s.nrMboxes)
        else none
      else none := by
  unfold findMbox
  simp only [h.mask, h.localMask, UInt32.lt_iff_toNat_lt, and_mask_toNat h.nrPos]

theorem nrLocalmbxDatas_toNat (h : s.Numbered) :
    s.localInst.nrLocalmbxDatas.toNat = 2 ^ bitWidth s.nrMboxes := by
  have hne : s.nrMboxes.toNat ≠ 0 := fun h0 => h.nrPos (UInt32.toNat_inj.mp h0)
  have hlog : s.nrMboxes.toNat.log2 < 31 := (Nat.log2_lt hne).mpr h.nrLt
  have hle : 2 ^ bitWidth s.nrMboxes ≤ 2 ^ 31 := by
    apply Nat.pow_le_pow_right
    · omega
    · rw [bitWidth]
      omega
  have hpos : 0 < 2 ^ bitWidth s.nrMboxes := Nat.two_pow_pos _
  rw [h.localInst.nr, UInt32.toNat_add, mask_toNat h.nrPos, UInt32.toNat_one]
  omega

/-- `find_localmbx_data` by the bits of the id. -/
theorem findLocal_eq_ok (h : s.Numbered) (mboxId : MboxId) (k : Nat) :
    findLocalmbxData s.localInst mboxId = .ok k ↔
      mboxId &&& ITC_COORD_MASK = s.myMboxIdInItccoord ∧
      (mboxId &&& ITC_MAX_MAILBOXES).toNat < 2 ^ bitWidth s.nrMboxes ∧
      k = mboxId.toNat % 2 ^ bitWidth s.nrMboxes := by
  unfold findLocalmbxData
  simp only [h.localInst.allocated, h.localInst.mask, h.localInst.my, h.localInst.localMask,
    not_true_eq_false, if_false, ge_iff_le, UInt32.le_iff_toNat_le, h.nrLocalmbxDatas_toNat,
    and_mask_toNat h.nrPos]
  by_cases hproc : mboxId &&& ITC_COORD_MASK = s.myMboxIdInItccoord
  · by_cases hrange : 2 ^ bitWidth s.nrMboxes ≤ (mboxId &&& ITC_MAX_MAILBOXES).toNat
    · simp only [hproc, ne_eq, not_true_eq_false, if_false, if_pos hrange]
      constructor
      · intro hcontra
        cases hcontra
      · rintro ⟨-, hlt, -⟩
        omega
    · simp only [hproc, ne_eq, not_true_eq_false, if_false, if_neg hrange, Except.ok.injEq]
      constructor
      · rintro rfl
        exact ⟨trivial, by omega, rfl⟩
      · rintro ⟨-, -, hk⟩
        exact hk.symm
  · simp only [hproc, ne_eq, not_false_eq_true, if_true, false_and]
    constructor
    · intro hcontra
      cases hcontra
    · exact False.elim

theorem bits_le (h : s.Numbered) (hlt : s.nrMboxes.toNat < 2 ^ mboxBits) :
    bitWidth s.nrMboxes ≤ mboxBits := by
  have hne : s.nrMboxes.toNat ≠ 0 := fun h0 => h.nrPos (UInt32.toNat_inj.mp h0)
  have := (Nat.log2_lt hne).mpr hlt
  rw [bitWidth]
  omega

theorem findLocal_id (h : s.Numbered) (hlt : s.nrMboxes.toNat < 2 ^ mboxBits) {i : Nat}
    (hi : i < s.nrMboxes.toNat) : findLocalmbxData s.localInst (s.mboxes i).mboxId = .ok i := by
  have hi20 : i < 2 ^ mboxBits := Nat.lt_trans hi hlt
  have hwidth : i < 2 ^ bitWidth s.nrMboxes := Nat.lt_trans hi (lt_two_pow_bitWidth s.nrMboxes)
  rw [h.findLocal_eq_ok, h.ids i hi]
  refine ⟨mboxId_and_coordMask h.my hi20, ?_,
    (mboxId_mod h.my hi20 (h.bits_le hlt) hwidth).symm⟩
  exact Nat.lt_of_le_of_lt (mboxId_and_maxMailboxes_le h.my hi20) hwidth

end ItcInstance.Numbered

namespace ItcInstance.Layout

variable {s : ItcInstance σ}

theorem numbered (h : s.Layout) : s.Numbered :=
  ⟨h.my, h.mask, h.nrPos, Nat.lt_trans h.nrLt (by rw [mboxBits]; omega), h.localMask, h.ids,
    h.localInst⟩

theorem bits_le (h : s.Layout) : bitWidth s.nrMboxes ≤ mboxBits := h.numbered.bits_le h.nrLt

theorem findMbox_lt (h : s.Layout) {mboxId : MboxId} {i : Nat} (hfind : findMbox s mboxId = some i) :
    i < s.nrMboxes.toNat := by
  rw [h.numbered.findMbox_eq] at hfind
  split at hfind
  · split at hfind
    · cases hfind
      assumption
    · cases hfind
  · cases hfind

/-- The id of a mailbox leads to it. -/
theorem findMbox_id (h : s.Layout) {i : Nat} (hi : i < s.nrMboxes.toNat) :
    findMbox s (s.mboxes i).mboxId = some i := by
  have hi20 : i < 2 ^ mboxBits := Nat.lt_trans hi h.nrLt
  rw [h.numbered.findMbox_eq, h.ids i hi, if_pos (mboxId_and_coordMask h.my hi20),
    mboxId_mod h.my hi20 h.bits_le (Nat.lt_trans hi (lt_two_pow_bitWidth _)), if_pos hi]

/-- The local transport finds a mailbox where `find_mbox` does. -/
theorem findMbox_of_local (h : s.Layout) {mboxId : MboxId} {i : Nat}
    (hfind : findLocalmbxData s.localInst mboxId = .ok i) (hi : i < s.nrMboxes.toNat) :
    findMbox s mboxId = some i := by
  obtain ⟨hproc, -, rfl⟩ := (h.numbered.findLocal_eq_ok mboxId i).mp hfind
  rw [h.numbered.findMbox_eq, if_pos hproc, if_pos hi]

theorem findLocal_id (h : s.Layout) {i : Nat} (hi : i < s.nrMboxes.toNat) :
    findLocalmbxData s.localInst (s.mboxes i).mboxId = .ok i :=
  h.numbered.findLocal_id h.nrLt hi

end ItcInstance.Layout

/-! ## Messages -/

structure Messages (heap : Heap ItcMessage) (q : Queues) : Prop where
  nodup : ∀ i l, q i = some l → l.Nodup
  apart : ∀ i j l l', q i = some l → q j = some l' → i ≠ j → ∀ p ∈ l, p ∉ l'
  queued : ∀ i l, q i = some l → ∀ p ∈ l, ∃ m : UserMessage, heap.cells p = some m.queued

theorem UserMessage.msg_ne_queued (m m' : UserMessage) : m.msg ≠ m'.queued := by
  intro heq
  have hflags := congrArg ItcMessage.flags heq
  rw [m.flags_eq, UserMessage.queued] at hflags
  exact absurd hflags (by decide : (0 : UInt32) ≠ ITC_FLAGS_MSG_INRXQUEUE)

namespace Messages

variable {heap heap' : Heap ItcMessage} {q : Queues} {i p : Nat} {l : List Nat}

/-- A message in a user's hands is in no rx queue. -/
theorem not_mem (h : Messages heap q) {m : UserMessage} (hm : heap.cells p = some m.msg)
    (hq : q i = some l) : p ∉ l := by
  intro hp
  obtain ⟨m', hm'⟩ := h.queued i l hq p hp
  rw [hm, Option.some.injEq] at hm'
  exact m.msg_ne_queued m' hm'

theorem frame (h : Messages heap q)
    (hframe : ∀ i l, q i = some l → ∀ p ∈ l, heap'.cells p = heap.cells p) : Messages heap' q where
  nodup := h.nodup
  apart := h.apart
  queued := by
    intro i l hq p hp
    rw [hframe i l hq p hp]
    exact h.queued i l hq p hp

/-- What happens to a message in a user's hands does not touch the queues. -/
theorem of_held (h : Messages heap q) {m : UserMessage} (hm : heap.cells p = some m.msg)
    (hframe : ∀ p', p' ≠ p → heap'.cells p' = heap.cells p') : Messages heap' q :=
  h.frame fun _ _ hq p' hp' => hframe p' fun heq => h.not_mem hm hq (heq ▸ hp')

theorem alloc (h : Messages heap q) (m : ItcMessage) : Messages (heap.push m) q := by
  refine h.frame fun i l hq p hp => ?_
  obtain ⟨m', hm'⟩ := h.queued i l hq p hp
  exact Heap.push_of_ne _ _ (Nat.ne_of_lt (Heap.lt_next hm'))

/-- Another queue for one mailbox, while the messages of the others stay as they are. -/
theorem update (h : Messages heap q) {o : Option (List Nat)}
    (hnd : ∀ l, o = some l → l.Nodup)
    (hapart : ∀ l, o = some l → ∀ p ∈ l, ∀ j l', j ≠ i → q j = some l' → p ∉ l')
    (hqueued : ∀ l, o = some l → ∀ p ∈ l, ∃ m : UserMessage, heap'.cells p = some m.queued)
    (hframe : ∀ j l, j ≠ i → q j = some l → ∀ p ∈ l, heap'.cells p = heap.cells p) :
    Messages heap' (Function.update q i o) where
  nodup := by
    intro j l hj
    by_cases hji : j = i
    · rw [hji, Function.update_self] at hj
      exact hnd l hj
    · rw [Function.update_of_ne hji] at hj
      exact h.nodup j l hj
  apart := by
    intro j k l l' hj hk hjk p hp hp'
    by_cases hji : j = i
    · have hki : k ≠ i := fun heq => hjk (hji.trans heq.symm)
      rw [hji, Function.update_self] at hj
      rw [Function.update_of_ne hki] at hk
      exact hapart l hj p hp k l' hki hk hp'
    · rw [Function.update_of_ne hji] at hj
      by_cases hki : k = i
      · rw [hki, Function.update_self] at hk
        exact hapart l' hk p hp' j l hji hj hp
      · rw [Function.update_of_ne hki] at hk
        exact h.apart j k l l' hj hk hjk p hp hp'
  queued := by
    intro j l hj p hp
    by_cases hji : j = i
    · rw [hji, Function.update_self] at hj
      exact hqueued l hj p hp
    · rw [Function.update_of_ne hji] at hj
      rw [hframe j l hji hj p hp]
      exact h.queued j l hj p hp

theorem enqueue (h : Messages heap q) (hq : q i = some l) {m m' : UserMessage}
    (hm : heap.cells p = some m.msg) (hm' : heap'.cells p = some m'.queued)
    (hframe : ∀ p', p' ≠ p → heap'.cells p' = heap.cells p') :
    Messages heap' (Function.update q i (some (l ++ [p]))) := by
  have hp : p ∉ l := h.not_mem hm hq
  refine h.update ?_ ?_ ?_ ?_
  · rintro _ ⟨⟩
    refine List.nodup_append.mpr ⟨h.nodup i l hq, List.nodup_singleton p, ?_⟩
    intro x hx y hy
    rw [List.mem_singleton.mp hy]
    exact fun heq => hp (heq ▸ hx)
  · rintro _ ⟨⟩ x hx j l' hji hj
    rcases List.mem_append.mp hx with hx | hx
    · exact h.apart i j l l' hq hj (Ne.symm hji) x hx
    · rw [List.mem_singleton.mp hx]
      exact h.not_mem hm hj
  · rintro _ ⟨⟩ x hx
    rcases List.mem_append.mp hx with hx | hx
    · rw [hframe x fun heq => hp (heq ▸ hx)]
      exact h.queued i l hq x hx
    · rw [List.mem_singleton.mp hx]
      exact ⟨m', hm'⟩
  · intro j l' hji hj x hx
    exact hframe x fun heq => h.not_mem hm hj (heq ▸ hx)

theorem dequeue (h : Messages heap q) (hq : q i = some (p :: l))
    (hframe : ∀ p', p' ≠ p → heap'.cells p' = heap.cells p') :
    Messages heap' (Function.update q i (some l)) := by
  obtain ⟨hp, hnd⟩ := List.nodup_cons.mp (h.nodup i _ hq)
  refine h.update ?_ ?_ ?_ ?_
  · rintro _ ⟨⟩
    exact hnd
  · rintro _ ⟨⟩ x hx j l' hji hj
    exact h.apart i j _ l' hq hj (Ne.symm hji) x (List.mem_cons_of_mem _ hx)
  · rintro _ ⟨⟩ x hx
    rw [hframe x fun heq => hp (heq ▸ hx)]
    exact h.queued i _ hq x (List.mem_cons_of_mem _ hx)
  · intro j l' hji hj x hx
    exact hframe x fun heq =>
      h.apart i j _ l' hq hj (Ne.symm hji) p List.mem_cons_self (heq ▸ hx)

theorem create (h : Messages heap q) (i : Nat) :
    Messages heap (Function.update q i (some [])) := by
  refine h.update ?_ ?_ ?_ fun _ _ _ _ _ _ => rfl
  · rintro _ ⟨⟩
    exact List.nodup_nil
  · rintro _ ⟨⟩ x hx
    cases hx
  · rintro _ ⟨⟩ x hx
    cases hx

theorem delete (h : Messages heap q) (hq : q i = some l)
    (hframe : ∀ p, p ∉ l → heap'.cells p = heap.cells p) :
    Messages heap' (Function.update q i none) := by
  refine h.update ?_ ?_ ?_ ?_
  · rintro _ ⟨⟩
  · rintro _ ⟨⟩
  · rintro _ ⟨⟩
  · intro j l' hji hj x hx
    exact hframe x (h.apart j i l' l hj hq hji x hx)

end Messages

/-! ## Slots -/

structure ItcInstance.Slots (s : ItcInstance σ) (q : Queues) : Prop where
  queue : ∀ i, q i ≠ none → i < s.nrMboxes.toNat ∧ (s.mboxes i).pRxqInfo = true
  inuse : ∀ i, i < s.nrMboxes.toNat → (s.mboxes i).mboxState = .inuse → q i ≠ none
  closed : ∀ i, q i = none → (s.mboxes i).rxqInfo.isFdCreated = false
  freeNodup : s.freeMboxesQueue.Nodup
  free : ∀ i ∈ s.freeMboxesQueue, i < s.nrMboxes.toNat ∧ q i = none
  thread : ∀ t i, s.myThreadlocalMbox t = some i → q i ≠ none
  threadInj : ∀ t t' i, s.myThreadlocalMbox t = some i → s.myThreadlocalMbox t' = some i → t = t'
  names : ∀ i, (s.mboxes i).name.strlen < ITC_MAX_NAME_LENGTH

/-- **The invariant**: the process holds the abstract queues `q`. -/
structure ItcInstance.Inv (s : ItcInstance σ) (q : Queues) : Prop where
  layout : s.Layout
  holds : s.localInst.Holds q
  messages : Messages s.heap q
  slots : s.Slots q

namespace ItcInstance

variable {s : ItcInstance σ} {q : Queues}

@[simp] theorem setRxqInfo_mboxes_self (s : ItcInstance σ) (i : Nat) (info : RxqInfo) :
    (s.setRxqInfo i info).mboxes i = { s.mboxes i with rxqInfo := info } := if_pos rfl

theorem setMbox_ne (s : ItcInstance σ) {i j : Nat} (mbox : ItcMailbox) (h : j ≠ i) :
    (s.setMbox i mbox).mboxes j = s.mboxes j := if_neg h

theorem setRxqInfo_ne (s : ItcInstance σ) {i j : Nat} (info : RxqInfo) (h : j ≠ i) :
    (s.setRxqInfo i info).mboxes j = s.mboxes j := if_neg h

/-- A mailbox record may change as long as its id stays. -/
theorem Layout.setMbox (h : s.Layout) {i : Nat} {mbox : ItcMailbox}
    (hid : mbox.mboxId = (s.mboxes i).mboxId) : (s.setMbox i mbox).Layout where
  my := h.my
  mask := h.mask
  nrPos := h.nrPos
  nrLt := h.nrLt
  localMask := h.localMask
  ids := by
    intro j hj
    by_cases hji : j = i
    · rw [hji] at hj ⊢
      rw [show (s.setMbox i mbox).mboxes i = mbox from if_pos rfl, hid]
      exact h.ids i hj
    · rw [setMbox_ne s mbox hji]
      exact h.ids j hj
  localInst := h.localInst
  sysvmqInst := h.sysvmqInst

/-- What the slots ask for does not depend on what `setMbox` leaves as it is. -/
theorem Slots.setMbox (h : s.Slots q) {i : Nat} {mbox : ItcMailbox}
    (hp : mbox.pRxqInfo = (s.mboxes i).pRxqInfo)
    (hstate : mbox.mboxState = .inuse → (s.mboxes i).mboxState = .inuse)
    (hfd : q i = none → mbox.rxqInfo.isFdCreated = false)
    (hname : mbox.name = (s.mboxes i).name) : (s.setMbox i mbox).Slots q := by
  have hself : (s.setMbox i mbox).mboxes i = mbox := if_pos rfl
  refine ⟨?_, ?_, ?_, h.freeNodup, h.free, h.thread, h.threadInj, ?_⟩
  · intro j hj
    obtain ⟨hlt, hpj⟩ := h.queue j hj
    refine ⟨hlt, ?_⟩
    by_cases hji : j = i
    · rw [hji, hself, hp, ← hji, hpj]
    · rw [setMbox_ne s mbox hji, hpj]
  · intro j hj hinuse
    by_cases hji : j = i
    · rw [hji, hself] at hinuse
      rw [hji] at hj ⊢
      exact h.inuse i hj (hstate hinuse)
    · rw [setMbox_ne s mbox hji] at hinuse
      exact h.inuse j hj hinuse
  · intro j hj
    by_cases hji : j = i
    · rw [hji] at hj ⊢
      rw [hself]
      exact hfd hj
    · rw [setMbox_ne s mbox hji]
      exact h.closed j hj
  · intro j
    by_cases hji : j = i
    · rw [hji, hself, hname]
      exact h.names i
    · rw [setMbox_ne s mbox hji]
      exact h.names j

theorem Slots.setRxqInfo (h : s.Slots q) {i : Nat} {info : RxqInfo} (hq : q i ≠ none) :
    (s.setRxqInfo i info).Slots q :=
  h.setMbox rfl id (fun hnone => absurd hnone hq) rfl

/-- The slots depend on which mailboxes have a queue, not on what is in it. -/
theorem Slots.congr (h : s.Slots q) {q' : Queues} (hq : ∀ i, q' i = none ↔ q i = none) :
    s.Slots q' := by
  refine ⟨?_, ?_, ?_, h.freeNodup, ?_, ?_, h.threadInj, h.names⟩
  · intro i hi
    exact h.queue i ((not_congr (hq i)).mp hi)
  · intro i hlt hinuse
    exact (not_congr (hq i)).mpr (h.inuse i hlt hinuse)
  · intro i hi
    exact h.closed i ((hq i).mp hi)
  · intro i hi
    obtain ⟨hlt, hnone⟩ := h.free i hi
    exact ⟨hlt, (hq i).mpr hnone⟩
  · intro t i ht
    exact (not_congr (hq i)).mpr (h.thread t i ht)

end ItcInstance

theorem update_eq_none_iff {q : Queues} {i : Nat} {l l' : List Nat} (hq : q i = some l) (j : Nat) :
    Function.update q i (some l') j = none ↔ q j = none := by
  by_cases hji : j = i
  · rw [hji, Function.update_self, hq]
    exact iff_of_false (Option.some_ne_none l') (Option.some_ne_none l)
  · rw [Function.update_of_ne hji]

end ItcFramework
