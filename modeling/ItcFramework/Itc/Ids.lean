import ItcFramework.Itc.SendCases

/-!
# Resolving mailbox ids

`find_mbox` and `find_localmbx_data` both cut an id down to the bits of `local_mbox_mask`, and
check the bits above it differently.

* `ExactAt s id` — both resolve `id` only to the mailbox that has it, to the same one, and a send
  to `id` leaves all others alone.
* `exactAt_iff` — this is so for the ids of other processes, for those with no bit between the
  mask and the process index, and for those that both turn away.
-/

set_option autoImplicit false

namespace ItcFramework

open ByteImage HeapModel ItcInstance

variable {σ : Type}

/-! ## The bits of an id -/

/-- No bit of `n` lies between `w` and the process index. -/
theorem mod_lt_two_pow_iff (n w : Nat) :
    n % 2 ^ mboxBits < 2 ^ w ↔ ∀ j, w ≤ j → j < mboxBits → n.testBit j = false := by
  constructor
  · intro hlt j hwj hj
    have hbit : (n % 2 ^ mboxBits).testBit j = false := by
      apply Nat.testBit_lt_two_pow
      exact Nat.lt_of_lt_of_le hlt (Nat.pow_le_pow_right (by omega) hwj)
    rw [Nat.testBit_mod_two_pow, decide_eq_true hj, Bool.true_and] at hbit
    exact hbit
  · intro hbits
    apply Nat.lt_pow_two_of_testBit
    intro j hwj
    rw [Nat.testBit_mod_two_pow]
    by_cases hj : j < mboxBits
    · rw [hbits j hwj hj, Bool.and_false]
    · rw [decide_eq_false hj, Bool.false_and]

theorem testBit_coordMask (id : MboxId) (j : Nat) :
    (id &&& ITC_COORD_MASK).toNat.testBit j = (decide (mboxBits ≤ j) && id.toNat.testBit j) := by
  have hmask : ITC_COORD_MASK.toNat = (2 ^ 12 - 1) <<< mboxBits := rfl
  rw [UInt32.toNat_and, Nat.testBit_and, hmask, Nat.testBit_shiftLeft,
    Nat.testBit_two_pow_sub_one, Bool.and_comm]
  by_cases hj : j - mboxBits < 12
  · rw [decide_eq_true hj, Bool.and_true]
  · have hhigh : id.toNat.testBit j = false := by
      apply Nat.testBit_lt_two_pow
      refine Nat.lt_of_lt_of_le id.toNat_lt (Nat.pow_le_pow_right (by omega) ?_)
      simp only [mboxBits] at hj
      omega
    rw [hhigh, Bool.and_false, Bool.and_false]

/-- The id of the mailbox that the low `w` bits of `id` lead to. -/
theorem coordMask_or_mod (id : MboxId) (w : Nat) :
    id &&& ITC_COORD_MASK ||| UInt32.ofNat (id.toNat % 2 ^ w) = id ↔
      id.toNat % 2 ^ mboxBits < 2 ^ w := by
  have hofNat : (UInt32.ofNat (id.toNat % 2 ^ w)).toNat = id.toNat % 2 ^ w := by
    rw [UInt32.toNat_ofNat']
    apply Nat.mod_eq_of_lt
    exact Nat.lt_of_le_of_lt (Nat.mod_le _ _) id.toNat_lt
  have hbit : ∀ j, (id &&& ITC_COORD_MASK ||| UInt32.ofNat (id.toNat % 2 ^ w)).toNat.testBit j =
      ((decide (mboxBits ≤ j) || decide (j < w)) && id.toNat.testBit j) := by
    intro j
    rw [UInt32.toNat_or, Nat.testBit_or, testBit_coordMask, hofNat, Nat.testBit_mod_two_pow,
      Bool.and_or_distrib_right]
  rw [mod_lt_two_pow_iff]
  constructor
  · intro heq j hwj hj
    have hj' := hbit j
    rw [heq, decide_eq_false (by omega : ¬ mboxBits ≤ j), decide_eq_false (by omega : ¬ j < w)]
      at hj'
    exact hj'
  · intro hbits
    apply UInt32.toNat_inj.mp
    apply Nat.eq_of_testBit_eq
    intro j
    rw [hbit]
    by_cases hj : mboxBits ≤ j
    · rw [decide_eq_true hj, Bool.true_or, Bool.true_and]
    · by_cases hwj : j < w
      · rw [decide_eq_true hwj, Bool.or_true, Bool.true_and]
      · rw [hbits j (by omega) (by omega), Bool.and_false]

theorem and_maxMailboxes_le (id : MboxId) :
    (id &&& ITC_MAX_MAILBOXES).toNat ≤ id.toNat % 2 ^ mboxBits := by
  have hlow : ITC_MAX_MAILBOXES.toNat % 2 ^ mboxBits = ITC_MAX_MAILBOXES.toNat := rfl
  rw [UInt32.toNat_and, ← hlow, ← Nat.mod_eq_of_lt (a := id.toNat &&& _) (b := 2 ^ mboxBits),
    Nat.and_mod_two_pow, Nat.mod_mod]
  · exact Nat.and_le_left
  · exact Nat.lt_of_le_of_lt Nat.and_le_right (Nat.mod_lt _ (Nat.two_pow_pos _))

/-! ## What a send touches -/

/-- The mailboxes and their rx queues are the same, except where `find_mbox` and
`find_localmbx_data` lead. -/
structure TouchesOnly (s s' : ItcInstance σ) (toMbox : MboxId) : Prop where
  mboxes : ∀ j, findMbox s toMbox ≠ some j → s'.mboxes j = s.mboxes j
  rxq : ∀ j, findLocalmbxData s.localInst toMbox ≠ .ok j →
    (s'.localInst.localmbxData j).rxq = (s.localInst.localmbxData j).rxq

theorem TouchesOnly.refl (s : ItcInstance σ) (toMbox : MboxId) : TouchesOnly s s toMbox :=
  ⟨fun _ _ => rfl, fun _ _ => rfl⟩

theorem localSend_touches {mem : Bool} {inst inst' : LocalInst} {heap heap' : Heap ItcMessage}
    {message : Nat} {toMbox : MboxId} {rc : UInt32}
    (hsend : localSend mem inst heap message toMbox = .ok (rc, inst', heap')) (j : Nat)
    (hj : findLocalmbxData inst toMbox ≠ .ok j) :
    (inst'.localmbxData j).rxq = (inst.localmbxData j).rxq := by
  unfold localSend at hsend
  split at hsend
  · cases hsend
    rfl
  · rename_i k hk
    split at hsend
    · cases hsend
      rfl
    · have hjk : j ≠ k := fun heq => hj (heq ▸ hk)
      obtain ⟨out, -, hout⟩ := bind_eq_ok hsend
      cases hout
      simp only [LocalInst.setRxq, LocalInst.setData, if_neg hjk]

theorem itcSend_touches {E : ItcEnv σ} {fuel tid : Nat} {msg : Option Nat} {s : ItcInstance σ}
    {toMbox fromMbox : MboxId} {r : SendResult σ}
    (hsend : itcSend E fuel s tid msg toMbox fromMbox = .ok (some r)) :
    TouchesOnly s r.s toMbox := by
  rcases itcSend_changes hsend with hs | ⟨heap, -, hs | ⟨p, taken, s₁, htrans, hs⟩⟩
  · rw [hs]
    exact .refl s toMbox
  · rw [hs]
    exact ⟨fun _ _ => rfl, fun _ _ => rfl⟩
  · obtain ⟨rc, inst, heap₁, hlocal, hs₁⟩ := transSend_changes htrans
    have hrxq := localSend_touches hlocal
    have hmboxes : s₁.mboxes = s.mboxes := by
      rcases hs₁ with rfl | ⟨_, _, _, -, rfl⟩ <;> rfl
    have hinst : s₁.localInst = inst := by
      rcases hs₁ with rfl | ⟨_, _, _, -, rfl⟩ <;> rfl
    rcases hs with hs | hs
    · rw [hs]
      exact ⟨fun j _ => by rw [hmboxes], fun j hj => by rw [hinst]; exact hrxq j hj⟩
    · rw [hs]
      refine ⟨fun j hj => ?_, fun j hj => ?_⟩
      · cases hfind : findMbox s toMbox with
        | none => rw [notifyReceiver, hmboxes]
        | some i =>
          have hji : j ≠ i := fun heq => hj (heq ▸ hfind)
          simp only [notifyReceiver]
          split
          · rw [setRxqInfo_ne _ _ hji, hmboxes]
          · rw [hmboxes]
      · have hsame : ∀ o, (notifyReceiver s₁ o).localInst = s₁.localInst := by
          intro o
          cases o with
          | none => rfl
          | some i =>
            simp only [notifyReceiver]
            split <;> rfl
        rw [hsame, hinst]
        exact hrxq j hj

/-! ## Exactness -/

/-- The id `id` is resolved to the mailbox that has it, if to any. -/
structure ExactAt (s : ItcInstance σ) (id : MboxId) : Prop where
  mbox : ∀ i, findMbox s id = some i → (s.mboxes i).mboxId = id
  data : ∀ k, findLocalmbxData s.localInst id = .ok k →
    s.myMboxIdInItccoord ||| UInt32.ofNat k = id
  agree : ∀ i, findMbox s id = some i ↔
    findLocalmbxData s.localInst id = .ok i ∧ i < s.nrMboxes.toNat
  send : ∀ (E : ItcEnv σ) (fuel tid : Nat) (msg : Option Nat) (fromMbox : MboxId)
    (r : SendResult σ), itcSend E fuel s tid msg id fromMbox = .ok (some r) →
    ∀ j, j < s.nrMboxes.toNat → (s.mboxes j).mboxId ≠ id →
      r.s.mboxes j = s.mboxes j ∧
      (r.s.localInst.localmbxData j).rxq = (s.localInst.localmbxData j).rxq

/-- The ids that are resolved exactly: those of other processes, those without a bit between
`local_mbox_mask` and the process index, and those whose index is too large for either table. -/
def ResolvedExactly (s : ItcInstance σ) (id : MboxId) : Prop :=
  id &&& s.itccoordMask ≠ s.myMboxIdInItccoord ∨
    id.toNat % 2 ^ mboxBits ≤ s.localMboxMask.toNat ∨
    (s.nrMboxes ≤ id &&& s.localMboxMask ∧
      s.localInst.nrLocalmbxDatas ≤ id &&& ITC_MAX_MAILBOXES)

namespace ItcInstance.Numbered

variable {s : ItcInstance σ}

/-- The two tables agree on an id without stray bits. -/
theorem agree_of_exact (h : s.Numbered) {id : MboxId}
    (hexact : id.toNat % 2 ^ mboxBits < 2 ^ bitWidth s.nrMboxes) (i : Nat) :
    findMbox s id = some i ↔
      findLocalmbxData s.localInst id = .ok i ∧ i < s.nrMboxes.toNat := by
  have hrange := Nat.lt_of_le_of_lt (and_maxMailboxes_le id) hexact
  rw [h.findMbox_eq, h.findLocal_eq_ok]
  constructor
  · intro hfind
    split at hfind
    · rename_i hproc
      split at hfind
      · rename_i hlt
        cases hfind
        exact ⟨⟨hproc, hrange, rfl⟩, hlt⟩
      · cases hfind
    · cases hfind
  · rintro ⟨⟨hproc, -, rfl⟩, hlt⟩
    rw [if_pos hproc, if_pos hlt]

end ItcInstance.Numbered

/-- **Id resolution.** For every number of mailboxes, an id is resolved exactly if and only if it
is another process's, has no bit between the mask and the process index, or is turned away by
both tables. -/
theorem exactAt_iff (s : ItcInstance σ) (h : s.Numbered) (id : MboxId) :
    ExactAt s id ↔ ResolvedExactly s id := by
  have hmaskeq : s.localMboxMask.toNat = 2 ^ bitWidth s.nrMboxes - 1 := by
    rw [h.localMask, mask_toNat h.nrPos]
  have hpos : 0 < 2 ^ bitWidth s.nrMboxes := Nat.two_pow_pos _
  have hidx : (id &&& s.localMboxMask).toNat = id.toNat % 2 ^ bitWidth s.nrMboxes := by
    rw [h.localMask, and_mask_toNat h.nrPos]
  have hor := coordMask_or_mod id (bitWidth s.nrMboxes)
  simp only [ResolvedExactly, h.mask, hmaskeq, UInt32.le_iff_toNat_le, hidx,
    h.nrLocalmbxDatas_toNat]
  constructor
  · intro hexact
    by_cases hproc : id &&& ITC_COORD_MASK = s.myMboxIdInItccoord
    · rw [hproc] at hor
      by_cases hlt : id.toNat % 2 ^ bitWidth s.nrMboxes < s.nrMboxes.toNat
      · have hfind : findMbox s id = some (id.toNat % 2 ^ bitWidth s.nrMboxes) := by
          rw [h.findMbox_eq, if_pos hproc, if_pos hlt]
        have hmbox := hexact.mbox _ hfind
        rw [h.ids _ hlt] at hmbox
        have := hor.mp hmbox
        omega
      · by_cases hrange : (id &&& ITC_MAX_MAILBOXES).toNat < 2 ^ bitWidth s.nrMboxes
        · have := hor.mp (hexact.data _ ((h.findLocal_eq_ok id _).mpr ⟨hproc, hrange, rfl⟩))
          omega
        · omega
    · exact .inl hproc
  · intro hok
    -- either nothing is found, or there are no stray bits
    have hfound : ∀ k, findLocalmbxData s.localInst id = .ok k ∨ findMbox s id = some k →
        id &&& ITC_COORD_MASK = s.myMboxIdInItccoord ∧
        k = id.toNat % 2 ^ bitWidth s.nrMboxes ∧
        id.toNat % 2 ^ mboxBits < 2 ^ bitWidth s.nrMboxes := by
      rintro k (hlocal | hfind)
      · obtain ⟨hproc, hrange, hk⟩ := (h.findLocal_eq_ok id k).mp hlocal
        refine ⟨hproc, hk, ?_⟩
        rcases hok with hother | hbits | ⟨-, hout⟩
        · exact absurd hproc hother
        · omega
        · omega
      · rw [h.findMbox_eq] at hfind
        split at hfind
        · rename_i hproc
          split at hfind
          · rename_i hlt
            cases hfind
            refine ⟨hproc, rfl, ?_⟩
            rcases hok with hother | hbits | ⟨hout, -⟩
            · exact absurd hproc hother
            · omega
            · omega
          · cases hfind
        · cases hfind
    have hmbox : ∀ i, findMbox s id = some i → (s.mboxes i).mboxId = id := by
      intro i hfind
      obtain ⟨hproc, hi, hbits⟩ := hfound i (.inr hfind)
      have hlt : i < s.nrMboxes.toNat := by
        rw [h.findMbox_eq, if_pos hproc] at hfind
        split at hfind
        · cases hfind
          assumption
        · cases hfind
      rw [h.ids i hlt, hi, ← hproc]
      exact hor.mpr hbits
    have hdata : ∀ k, findLocalmbxData s.localInst id = .ok k →
        s.myMboxIdInItccoord ||| UInt32.ofNat k = id := by
      intro k hlocal
      obtain ⟨hproc, hk, hbits⟩ := hfound k (.inl hlocal)
      rw [hk, ← hproc]
      exact hor.mpr hbits
    refine ⟨hmbox, hdata, fun i => ?_, ?_⟩
    · constructor
      · intro hfind
        exact (h.agree_of_exact (hfound i (.inr hfind)).2.2 i).mp hfind
      · rintro ⟨hlocal, hlt⟩
        exact (h.agree_of_exact (hfound i (.inl hlocal)).2.2 i).mpr ⟨hlocal, hlt⟩
    · intro E fuel tid msg fromMbox r hsend j hj hne
      have htouches := itcSend_touches hsend
      refine ⟨htouches.mboxes j fun hfind => hne (hmbox j hfind), htouches.rxq j fun hlocal => ?_⟩
      apply hne
      rw [h.ids j hj]
      exact hdata j hlocal

theorem ItcInstance.Numbered.init (proc : Nat) {nrMboxes : UInt32} (hpos : nrMboxes ≠ 0)
    (hlt : nrMboxes.toNat < 2 ^ 31) (maxMsgsize : Nat) (kernel : σ) :
    (ItcInstance.init proc nrMboxes maxMsgsize kernel).Numbered where
  my := by
    have hofNat : (UInt32.ofNat (proc * 2 ^ 20)).toNat = proc * 2 ^ 20 % 2 ^ 32 :=
      UInt32.toNat_ofNat'
    simp only [ItcInstance.init, mboxBits, hofNat]
    omega
  mask := rfl
  nrPos := hpos
  nrLt := hlt
  localMask := rfl
  ids := fun _ _ => rfl
  localInst := ⟨rfl, rfl, rfl, rfl, rfl⟩

/-- `itc_init(1)` in process 5: the mailbox 0x00500001 has a valid id. -/
theorem exactAt_iff_valid : ExactAt (ItcInstance.init 5 2 0 ()) 0x00500001 :=
  (exactAt_iff (ItcInstance.init 5 2 0 ()) (.init 5 (by decide) (by decide) 0 ()) 0x00500001).mpr
    (.inr (.inl (by decide)))

/-- `itc_init(1)` in process 5: 0x00500005 leads to the mailbox 0x00500001. -/
theorem not_exactAt : ¬ ∀ id, ExactAt (ItcInstance.init 5 2 0 ()) id := by
  intro h
  have hmbox := (h 0x00500005).mbox 1 (by decide)
  exact absurd hmbox (by decide)

end ItcFramework
