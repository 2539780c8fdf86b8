import Mathlib.Data.Option.Basic
import Mathlib.Logic.Function.Basic
import ItcFramework.Lib.Transition

/-!
# Threads under one mutex

Threads run code over shared data, under one mutex with one condition variable. A signal wakes one
of the threads that sleep; a thread may also wake without one.

* `Instr`, `Step` — what code does at a place, and the steps of the threads.
* `Outline` — for every place whether the mutex is held there, what holds of the data there, and
  what holds of them while the mutex is free. `Sound.run` — this is so in every run; only the owner
  of the mutex changes the data.
* `Outline.Waits` — one thread waits, for `P`, and who makes `P` true signals before it releases the
  mutex. `Awaited.run` — when that thread sleeps and the mutex is free, `P` is false.
* `Sound.moves` — the threads do not block each other.
* `Finishes` — what the rest of a critical section does. `Run.view_eq` — a run has done what the
  critical sections do one after the other, in the order in which the mutex was taken.
-/

set_option autoImplicit false

namespace Monitor

open Transition

variable {T D K : Type*}

/-- What the code does at a place. -/
inductive Instr (D K : Type*) where
  /-- Nothing: the thread is between two calls. -/
  | idle
  | lock (next : K)
  | unlock (next : K)
  /-- Releases the mutex and sleeps. The thread has the mutex again at `woken`, or at `expired`
  when the wait has a time limit. -/
  | wait (woken : K) (expired : Option K)
  | signal (next : K)
  /-- Reads and changes the data; blocks at `none`. -/
  | access (f : D → Option (K × D))
  /-- Reads the data without the mutex. -/
  | peek (f : D → K)

/-- The instruction may lead to `k`. -/
def Instr.Leads : Instr D K → K → Prop
  | .idle, _ => False
  | .lock next, k => k = next
  | .unlock next, k => k = next
  | .wait woken expired, k => k = woken ∨ expired = some k
  | .signal next, k => k = next
  | .access f, k => ∃ d d', f d = some (k, d')
  | .peek f, k => ∃ d, k = f d

/-- Where a thread is. -/
inductive Pc (K : Type*) where
  | here (k : K)
  | asleep (woken : K) (expired : Option K)
  /-- Awake, and waits for the mutex. -/
  | relock (k : K)

structure State (T D K : Type*) where
  owner : Option T
  pc : T → Pc K
  data : D

inductive Event (T K : Type*) where
  | call (t : T) (k : K)
  /-- The thread takes the mutex, and is at `k`. -/
  | acquire (t : T) (k : K)
  | act (t : T)
  /-- The thread wakes `u`. -/
  | wake (t u : T)
  /-- `u` wakes of itself. -/
  | spurious (u : T)
  | expire (u : T)

/-- The places at which a run takes the mutex, in order. -/
def acquired (as : List (Event T K)) : List K :=
  as.filterMap fun
    | .acquire _ k => some k
    | _ => none

section Steps

variable [DecidableEq T]

def State.goto (s : State T D K) (t : T) (pc : Pc K) : State T D K :=
  { s with pc := Function.update s.pc t pc }

/-- An unlock by another thread than the owner changes nothing. -/
def State.release (s : State T D K) (t : T) : State T D K :=
  if s.owner = some t then { s with owner := none } else s

/-- The steps of threads that run `code` and make the calls that `entry` tells. -/
inductive Step (code : K → Instr D K) (entry : T → K → Prop) :
    State T D K → Event T K → State T D K → Prop where
  | call {s : State T D K} {t : T} {k₀ k : K} (hpc : s.pc t = .here k₀) (hcode : code k₀ = .idle)
      (hentry : entry t k) : Step code entry s (.call t k) (s.goto t (.here k))
  | lock {s : State T D K} {t : T} {k k' : K} (hpc : s.pc t = .here k) (hcode : code k = .lock k')
      (hfree : s.owner = none) :
      Step code entry s (.acquire t k') { s.goto t (.here k') with owner := some t }
  | relock {s : State T D K} {t : T} {k : K} (hpc : s.pc t = .relock k) (hfree : s.owner = none) :
      Step code entry s (.acquire t k) { s.goto t (.here k) with owner := some t }
  | unlock {s : State T D K} {t : T} {k k' : K} (hpc : s.pc t = .here k)
      (hcode : code k = .unlock k') :
      Step code entry s (.act t) ((s.release t).goto t (.here k'))
  | wait {s : State T D K} {t : T} {k woken : K} {expired : Option K} (hpc : s.pc t = .here k)
      (hcode : code k = .wait woken expired) :
      Step code entry s (.act t) ((s.release t).goto t (.asleep woken expired))
  | signal {s : State T D K} {t : T} {k k' : K} (hpc : s.pc t = .here k)
      (hcode : code k = .signal k') (hnobody : ∀ u w e, s.pc u ≠ .asleep w e) :
      Step code entry s (.act t) (s.goto t (.here k'))
  | wake {s : State T D K} {t u : T} {k k' w : K} {e : Option K} (hpc : s.pc t = .here k)
      (hcode : code k = .signal k') (hasleep : s.pc u = .asleep w e) :
      Step code entry s (.wake t u) ((s.goto u (.relock w)).goto t (.here k'))
  | access {s : State T D K} {t : T} {k n : K} {f : D → Option (K × D)} {d : D}
      (hpc : s.pc t = .here k) (hcode : code k = .access f) (hf : f s.data = some (n, d)) :
      Step code entry s (.act t) { s.goto t (.here n) with data := d }
  | peek {s : State T D K} {t : T} {k : K} {f : D → K} (hpc : s.pc t = .here k)
      (hcode : code k = .peek f) :
      Step code entry s (.act t) (s.goto t (.here (f s.data)))
  | spurious {s : State T D K} {u : T} {w : K} {e : Option K} (hasleep : s.pc u = .asleep w e) :
      Step code entry s (.spurious u) (s.goto u (.relock w))
  | expire {s : State T D K} {u : T} {w e : K} (hasleep : s.pc u = .asleep w (some e)) :
      Step code entry s (.expire u) (s.goto u (.relock e))

end Steps

/-! ## Outlines -/

/-- What holds at the places of some code. -/
structure Outline (D K : Type*) where
  /-- The mutex is held at the place. -/
  holds : K → Prop
  /-- The data while the mutex is free. -/
  inv : D → Prop
  /-- The data at a place where the mutex is held. -/
  asserts : K → D → Prop

namespace Outline

/-- A thread may take the mutex to go on at `k`. -/
structure Enters (O : Outline D K) (k : K) : Prop where
  holds : O.holds k
  asserts : ∀ d, O.inv d → O.asserts k d

/-- The instruction at `k` fits the outline. -/
def Fits (O : Outline D K) (k : K) : Instr D K → Prop
  | .idle => ¬ O.holds k
  | .lock next => ¬ O.holds k ∧ O.Enters next
  | .unlock next => O.holds k ∧ ¬ O.holds next ∧ ∀ d, O.asserts k d → O.inv d
  | .wait woken expired => O.holds k ∧ (∀ d, O.asserts k d → O.inv d) ∧ O.Enters woken ∧
      ∀ e, expired = some e → O.Enters e
  | .signal next => O.holds k ∧ O.holds next ∧ ∀ d, O.asserts k d → O.asserts next d
  | .access f => O.holds k ∧ ∀ d, O.asserts k d → ∃ next d', f d = some (next, d') ∧ O.holds next ∧
      O.asserts next d'
  | .peek f => ¬ O.holds k ∧ ∀ d, ¬ O.holds (f d)

/-- The code, and the calls, fit the outline. -/
structure Valid (O : Outline D K) (code : K → Instr D K) (entry : T → K → Prop) : Prop where
  fits : ∀ k, O.Fits k (code k)
  entry : ∀ t k, entry t k → ¬ O.holds k

/-- What holds of a thread, which owns the mutex or does not. -/
def PcOk (O : Outline D K) (d : D) (owns : Prop) : Pc K → Prop
  | .here k => (O.holds k ↔ owns) ∧ (owns → O.asserts k d)
  | .asleep woken expired => ¬ owns ∧ O.Enters woken ∧ ∀ e, expired = some e → O.Enters e
  | .relock k => ¬ owns ∧ O.Enters k

/-- The outline holds of the state. -/
structure Sound (O : Outline D K) (s : State T D K) : Prop where
  pc : ∀ t, O.PcOk s.data (s.owner = some t) (s.pc t)
  inv : s.owner = none → O.inv s.data

variable {O : Outline D K} {d d' : D} {owns owns' : Prop} {pc : Pc K}

/-- The data matter to the owner alone. -/
theorem PcOk.data (h : O.PcOk d owns pc) (hnot : ¬ owns) : O.PcOk d' owns pc := by
  cases pc with
  | here k => exact ⟨h.1, fun howns => absurd howns hnot⟩
  | asleep woken expired => exact h
  | relock k => exact h

theorem PcOk.congr (h : O.PcOk d owns pc) (howns : owns ↔ owns') : O.PcOk d owns' pc := by
  rwa [propext howns] at h

theorem PcOk.outside {k : K} (hholds : ¬ O.holds k) (howns : ¬ owns) : O.PcOk d owns (.here k) :=
  ⟨iff_of_false hholds howns, fun h => absurd h howns⟩

theorem PcOk.inside {k : K} (hholds : O.holds k) (howns : owns) (hd : O.asserts k d) :
    O.PcOk d owns (.here k) :=
  ⟨iff_of_true hholds howns, fun _ => hd⟩

variable {code : K → Instr D K} {entry : T → K → Prop} {s s' : State T D K}

namespace Sound

theorem start (hpc : ∀ t, ∃ k, s.pc t = .here k ∧ ¬ O.holds k) (hfree : s.owner = none)
    (hinv : O.inv s.data) : O.Sound s := by
  refine ⟨fun t => ?_, fun _ => hinv⟩
  obtain ⟨k, hk, hholds⟩ := hpc t
  rw [hk]
  exact .outside hholds (by simp [hfree])

/-- A thread that is at a place where the mutex is held owns it. -/
theorem owner (h : O.Sound s) {t : T} {k : K} (hpc : s.pc t = .here k) (hholds : O.holds k) :
    s.owner = some t := by
  have hok := h.pc t
  rw [hpc] at hok
  exact hok.1.mp hholds

theorem asserts (h : O.Sound s) {t : T} {k : K} (hpc : s.pc t = .here k) (hholds : O.holds k) :
    O.asserts k s.data := by
  have hok := h.pc t
  rw [hpc] at hok
  exact hok.2 (hok.1.mp hholds)

theorem not_owner (h : O.Sound s) {t : T} {k : K} (hpc : s.pc t = .here k)
    (hholds : ¬ O.holds k) : s.owner ≠ some t := by
  have hok := h.pc t
  rw [hpc] at hok
  exact fun howner => hholds (hok.1.mpr howner)

variable [DecidableEq T]

/-- A thread moves that neither takes nor releases the mutex. -/
theorem goto (h : O.Sound s) {t : T} {pc : Pc K} (hpc : O.PcOk s.data (s.owner = some t) pc) :
    O.Sound (s.goto t pc) := by
  refine ⟨fun u => ?_, h.inv⟩
  by_cases hut : u = t
  · rw [hut]
    simpa only [State.goto, Function.update_self] using hpc
  · simpa only [State.goto, Function.update_of_ne hut] using h.pc u

/-- A thread takes the mutex. -/
theorem take (h : O.Sound s) {t : T} {k : K} (hfree : s.owner = none) (hk : O.Enters k) :
    O.Sound { s.goto t (.here k) with owner := some t } := by
  refine ⟨fun u => ?_, fun hnone => by cases hnone⟩
  by_cases hut : u = t
  · rw [hut]
    simp only [State.goto, Function.update_self]
    exact .inside hk.holds trivial (hk.asserts _ (h.inv hfree))
  · simp only [State.goto, Function.update_of_ne hut]
    refine (h.pc u).congr ?_
    simp [hfree, Ne.symm hut]

/-- The owner releases the mutex. -/
theorem give (h : O.Sound s) {t : T} {pc : Pc K} (howner : s.owner = some t)
    (hinv : O.inv s.data) (hpc : O.PcOk s.data False pc) :
    O.Sound ((s.release t).goto t pc) := by
  rw [State.release, if_pos howner]
  refine ⟨fun u => ?_, fun _ => hinv⟩
  by_cases hut : u = t
  · rw [hut]
    simp only [State.goto, Function.update_self]
    exact hpc.congr (by simp)
  · simp only [State.goto, Function.update_of_ne hut]
    refine (h.pc u).congr ?_
    simp [howner, Ne.symm hut]

/-- The owner changes the data. -/
theorem change (h : O.Sound s) {t : T} {k : K} {d : D} (howner : s.owner = some t)
    (hholds : O.holds k) (hd : O.asserts k d) :
    O.Sound { s.goto t (.here k) with data := d } := by
  refine ⟨fun u => ?_, fun hnone => ?_⟩
  · by_cases hut : u = t
    · rw [hut]
      simp only [State.goto, Function.update_self]
      exact .inside hholds howner hd
    · simp only [State.goto, Function.update_of_ne hut]
      refine (h.pc u).data fun howner' => ?_
      rw [howner, Option.some.injEq] at howner'
      exact hut howner'.symm
  · simp only [State.goto, howner] at hnone
    cases hnone

/-- **A step keeps what the outline says.** -/
theorem step (hv : O.Valid code entry) (h : O.Sound s) {a : Event T K}
    (hstep : Step code entry s a s') : O.Sound s' := by
  cases hstep with
  | @call t k₀ k hpc hcode hentry =>
    have hfits := hv.fits k₀
    rw [hcode] at hfits
    exact h.goto (.outside (hv.entry t k hentry) (h.not_owner hpc hfits))
  | @lock t k k' hpc hcode hfree =>
    have hfits := hv.fits k
    rw [hcode] at hfits
    exact h.take hfree hfits.2
  | @relock t k hpc hfree =>
    have hok := h.pc t
    rw [hpc] at hok
    exact h.take hfree hok.2
  | @unlock t k k' hpc hcode =>
    have hfits := hv.fits k
    rw [hcode] at hfits
    obtain ⟨hholds, hnext, hinv⟩ := hfits
    exact h.give (h.owner hpc hholds) (hinv _ (h.asserts hpc hholds)) (.outside hnext not_false)
  | @wait t k woken expired hpc hcode =>
    have hfits := hv.fits k
    rw [hcode] at hfits
    obtain ⟨hholds, hinv, hwoken, hexpired⟩ := hfits
    exact h.give (h.owner hpc hholds) (hinv _ (h.asserts hpc hholds))
      ⟨not_false, hwoken, hexpired⟩
  | @signal t k k' hpc hcode _ =>
    have hfits := hv.fits k
    rw [hcode] at hfits
    obtain ⟨hholds, hnext, hd⟩ := hfits
    exact h.goto (.inside hnext (h.owner hpc hholds) (hd _ (h.asserts hpc hholds)))
  | @wake t u k k' w e hpc hcode hasleep =>
    have hfits := hv.fits k
    rw [hcode] at hfits
    obtain ⟨hholds, hnext, hd⟩ := hfits
    have hok := h.pc u
    rw [hasleep] at hok
    have hu : O.PcOk s.data (s.owner = some u) (.relock w) := ⟨hok.1, hok.2.1⟩
    exact (h.goto hu).goto
      (.inside hnext (h.owner hpc hholds) (hd _ (h.asserts hpc hholds)))
  | @access t k k' f d hpc hcode hf =>
    have hfits := hv.fits k
    rw [hcode] at hfits
    obtain ⟨hholds, hstep⟩ := hfits
    obtain ⟨next, d', hf', hnext, hd⟩ := hstep _ (h.asserts hpc hholds)
    rw [hf] at hf'
    cases hf'
    exact h.change (h.owner hpc hholds) hnext hd
  | @peek t k f hpc hcode =>
    have hfits := hv.fits k
    rw [hcode] at hfits
    exact h.goto (.outside (hfits.2 _) (h.not_owner hpc hfits.1))
  | @spurious u w e hasleep =>
    have hok := h.pc u
    rw [hasleep] at hok
    have hu : O.PcOk s.data (s.owner = some u) (.relock w) := ⟨hok.1, hok.2.1⟩
    exact h.goto hu
  | @expire u w e hasleep =>
    have hok := h.pc u
    rw [hasleep] at hok
    have hu : O.PcOk s.data (s.owner = some u) (.relock e) := ⟨hok.1, hok.2.2 e rfl⟩
    exact h.goto hu

/-- **In every run the data are as the outline says**, and whoever is inside holds the mutex. -/
theorem run (hv : O.Valid code entry) (h : O.Sound s) {as : List (Event T K)}
    (hrun : Run (Step code entry) s as s') : O.Sound s' :=
  hrun.invariant (fun _ _ _ hs hstep => hs.step hv hstep) h

end Sound

end Outline

open Outline

/-! ## Waiting -/

/-- The thread `r` alone waits, and only while `P` is false. Who makes `P` true is at a place that
`owes` a signal, and does not unlock the mutex before it is at another. -/
structure Waits (O : Outline D K) (code : K → Instr D K) (entry : T → K → Prop) (P : D → Prop)
    (r : T) (runs : T → K → Prop) (owes : K → Prop) : Prop where
  entry : ∀ t k, entry t k → runs t k
  leads : ∀ t k k', runs t k → (code k).Leads k' → runs t k'
  waits : ∀ t k woken expired, runs t k → code k = .wait woken expired →
    t = r ∧ ∀ d, O.asserts k d → ¬ P d
  unlocks : ∀ k next, code k = .unlock next → ¬ owes k
  owes : ∀ k f d k' d', code k = .access f → O.asserts k d → f d = some (k', d') → P d' →
    owes k' ∨ P d ∧ ¬ owes k

/-- The places at which a thread is, or will be once it has the mutex. -/
def Pc.Runs (runs : K → Prop) : Pc K → Prop
  | .here k => runs k
  | .asleep woken expired => runs woken ∧ ∀ e, expired = some e → runs e
  | .relock k => runs k

/-- Only `r` sleeps, and while `P` is true somebody is about to wake it. -/
structure Awaited (P : D → Prop) (r : T) (runs : T → K → Prop) (owes : K → Prop)
    (s : State T D K) : Prop where
  runs : ∀ t, (s.pc t).Runs (runs t)
  sleeper : ∀ t w e, s.pc t = .asleep w e → t = r
  signal : ∀ w e, s.pc r = .asleep w e → P s.data →
    ∃ t k, s.owner = some t ∧ s.pc t = .here k ∧ owes k

variable {O : Outline D K} {code : K → Instr D K} {entry : T → K → Prop} {s s' : State T D K}

namespace Awaited

variable {P : D → Prop} {r : T} {runs : T → K → Prop} {owes : K → Prop}

theorem start (hpc : ∀ t, ∃ k, s.pc t = .here k ∧ runs t k) : Awaited P r runs owes s := by
  have hawake : ∀ t w e, s.pc t ≠ .asleep w e := by
    intro t w e hasleep
    obtain ⟨k, hk, -⟩ := hpc t
    rw [hk] at hasleep
    cases hasleep
  refine ⟨fun t => ?_, fun t w e ht => absurd ht (hawake t w e), fun w e hr => absurd hr (hawake r w e)⟩
  obtain ⟨k, hk, hruns⟩ := hpc t
  rw [hk]
  exact hruns

/-- **A thread does not sleep while what it waits for is there**, once the mutex is free. -/
theorem not_lost (h : Awaited P r runs owes s) {w : K} {e : Option K} (hasleep : s.pc r = .asleep w e)
    (hfree : s.owner = none) : ¬ P s.data := by
  intro hP
  obtain ⟨t, k, howner, -⟩ := h.signal w e hasleep hP
  rw [hfree] at howner
  cases howner

/-- The place of the owner owes a signal while `r` sleeps and `P` is true. -/
theorem owner_owes (h : Awaited P r runs owes s) {w : K} {e : Option K}
    (hasleep : s.pc r = .asleep w e) (hP : P s.data) {t : T} {k : K} (howner : s.owner = some t)
    (hpc : s.pc t = .here k) : owes k := by
  obtain ⟨u, j, hu, hj, howes⟩ := h.signal w e hasleep hP
  rw [howner] at hu
  cases hu
  rw [hpc] at hj
  cases hj
  exact howes

variable [DecidableEq T]

/-- What is left to show when one thread has moved. -/
theorem move (h : Awaited P r runs owes s) {t : T} {pc : Pc K} (hpc : pc.Runs (runs t))
    (hsleeper : ∀ w e, pc = .asleep w e → t = r) (hs' : s'.pc = Function.update s.pc t pc)
    (hsignal : ∀ w e, s'.pc r = .asleep w e → P s'.data →
      ∃ t k, s'.owner = some t ∧ s'.pc t = .here k ∧ owes k) : Awaited P r runs owes s' := by
  refine ⟨fun u => ?_, fun u w e hu => ?_, hsignal⟩
  · rw [hs']
    by_cases hut : u = t
    · rw [hut, Function.update_self]
      exact hpc
    · rw [Function.update_of_ne hut]
      exact h.runs u
  · rw [hs'] at hu
    by_cases hut : u = t
    · rw [hut, Function.update_self] at hu
      rw [hut]
      exact hsleeper w e hu
    · rw [Function.update_of_ne hut] at hu
      exact h.sleeper u w e hu

/-- A thread without the mutex goes on, awake. -/
theorem goto (h : Awaited P r runs owes s) {t : T} {pc : Pc K} (hpc : pc.Runs (runs t))
    (hawake : ∀ w e, pc ≠ .asleep w e) (howner : s.owner ≠ some t) :
    Awaited P r runs owes (s.goto t pc) := by
  refine h.move hpc (fun w e hasleep => absurd hasleep (hawake w e)) rfl fun w e hr hP => ?_
  by_cases hrt : r = t
  · simp only [State.goto, hrt, Function.update_self] at hr
    exact absurd hr (hawake w e)
  · simp only [State.goto, Function.update_of_ne hrt] at hr
    obtain ⟨u, k, hu, hk, howes⟩ := h.signal w e hr hP
    have hut : u ≠ t := by
      rintro rfl
      exact howner hu
    exact ⟨u, k, hu, by simpa only [State.goto, Function.update_of_ne hut] using hk, howes⟩

theorem take (h : Awaited P r runs owes s) {t : T} {k : K} (hk : runs t k)
    (hfree : s.owner = none) :
    Awaited P r runs owes { s.goto t (.here k) with owner := some t } := by
  have hruns : (Pc.here k).Runs (runs t) := hk
  refine h.move hruns (fun w e hasleep => by cases hasleep) rfl fun w e hr hP => ?_
  by_cases hrt : r = t
  · simp only [State.goto, hrt, Function.update_self] at hr
    cases hr
  · simp only [State.goto, Function.update_of_ne hrt] at hr
    exact absurd hP (h.not_lost hr hfree)

/-- The owner releases the mutex, at a place that owes nothing; it sleeps only while `P` is false. -/
theorem give (h : Awaited P r runs owes s) {t : T} {k : K} {pc : Pc K} (hpc : s.pc t = .here k)
    (howner : s.owner = some t) (hruns : pc.Runs (runs t))
    (hsleeper : ∀ w e, pc = .asleep w e → t = r)
    (howes : P s.data → ¬ owes k ∧ ∀ w e, pc ≠ .asleep w e) :
    Awaited P r runs owes ((s.release t).goto t pc) := by
  rw [State.release, if_pos howner]
  refine h.move hruns hsleeper rfl fun w e hr hP => ?_
  obtain ⟨hno, hawake⟩ := howes hP
  by_cases hrt : r = t
  · simp only [State.goto, hrt, Function.update_self] at hr
    exact absurd hr (hawake w e)
  · simp only [State.goto, Function.update_of_ne hrt] at hr
    exact absurd (h.owner_owes hr hP howner hpc) hno

/-- The owner goes on. If it has made `P` true, it owes a signal, unless nobody sleeps. -/
theorem advance (h : Awaited P r runs owes s) {t : T} {k k' : K} {d : D} (hpc : s.pc t = .here k)
    (howner : s.owner = some t) (hruns : runs t k')
    (howes : ∀ w e, s.pc r = .asleep w e → P d → owes k' ∨ P s.data ∧ ¬ owes k) :
    Awaited P r runs owes { s.goto t (.here k') with data := d } := by
  have hpc' : (Pc.here k').Runs (runs t) := hruns
  refine h.move hpc' (fun w e hasleep => by cases hasleep) rfl fun w e hr hP => ?_
  by_cases hrt : r = t
  · simp only [State.goto, hrt, Function.update_self] at hr
    cases hr
  · simp only [State.goto, Function.update_of_ne hrt] at hr
    refine ⟨t, k', howner, Function.update_self _ _ _, ?_⟩
    rcases howes w e hr hP with hnew | ⟨hold, hno⟩
    · exact hnew
    · exact absurd (h.owner_owes hr hold howner hpc) hno

/-- **A step loses no wake-up.** -/
theorem step (hv : O.Valid code entry) (hw : Waits O code entry P r runs owes) (hs : O.Sound s)
    (h : Awaited P r runs owes s) {a : Event T K} (hstep : Step code entry s a s') :
    Awaited P r runs owes s' := by
  have hleads : ∀ {t k k'}, s.pc t = .here k → (code k).Leads k' → runs t k' := by
    intro t k k' hpc hlead
    have hruns := h.runs t
    rw [hpc] at hruns
    exact hw.leads t k k' hruns hlead
  have hinside : ∀ {t k}, s.pc t = .here k → O.holds k → s.owner = some t := hs.owner
  have hawake : ∀ (k : K) w e, Pc.here k ≠ .asleep w e := fun k w e heq => by cases heq
  cases hstep with
  | @call t k₀ k hpc hcode hentry =>
    have hfits := hv.fits k₀
    rw [hcode] at hfits
    exact h.goto (hw.entry t k hentry) (hawake k) (hs.not_owner hpc hfits)
  | @lock t k k' hpc hcode hfree =>
    exact h.take (hleads hpc (by rw [hcode]; rfl)) hfree
  | @relock t k hpc hfree =>
    have hruns := h.runs t
    rw [hpc] at hruns
    exact h.take hruns hfree
  | @unlock t k k' hpc hcode =>
    have hfits := hv.fits k
    rw [hcode] at hfits
    exact h.give hpc (hinside hpc hfits.1) (hleads hpc (by rw [hcode]; rfl))
      (fun w e heq => absurd heq (hawake k' w e))
      fun _ => ⟨hw.unlocks k k' hcode, hawake k'⟩
  | @wait t k woken expired hpc hcode =>
    have hfits := hv.fits k
    rw [hcode] at hfits
    have hruns := h.runs t
    rw [hpc] at hruns
    obtain ⟨htr, hnot⟩ := hw.waits t k woken expired hruns hcode
    have hwoken : runs t woken := hleads hpc (by rw [hcode]; exact .inl rfl)
    have hexpired : ∀ e, expired = some e → runs t e := by
      intro e he
      exact hleads hpc (by rw [hcode]; exact .inr he)
    exact h.give hpc (hinside hpc hfits.1) ⟨hwoken, hexpired⟩ (fun _ _ _ => htr)
      fun hP => absurd hP (hnot _ (hs.asserts hpc hfits.1))
  | @signal t k k' hpc hcode hnobody =>
    have hfits := hv.fits k
    rw [hcode] at hfits
    exact h.advance hpc (hinside hpc hfits.1) (hleads hpc (by rw [hcode]; rfl))
      fun w e hr => absurd hr (hnobody r w e)
  | @wake t u k k' w e hpc hcode hasleep =>
    have hfits := hv.fits k
    rw [hcode] at hfits
    have howner := hinside hpc hfits.1
    have hur := h.sleeper u w e hasleep
    have hruns := h.runs u
    rw [hasleep] at hruns
    have htu : t ≠ u := by
      rintro rfl
      rw [hpc] at hasleep
      cases hasleep
    have hother : s.owner ≠ some u := by
      rw [howner]
      exact fun heq => htu (Option.some.inj heq)
    have hwoken : Awaited P r runs owes (s.goto u (.relock w)) :=
      h.goto hruns.1 (fun _ _ heq => by cases heq) hother
    refine hwoken.advance (t := t) (k := k) ?_ howner (hleads hpc (by rw [hcode]; rfl)) ?_
    · simpa only [State.goto, Function.update_of_ne htu] using hpc
    · intro w' e' hr
      simp only [State.goto, ← hur, Function.update_self] at hr
      cases hr
  | @access t k k' f d hpc hcode hf =>
    have hfits := hv.fits k
    rw [hcode] at hfits
    exact h.advance hpc (hinside hpc hfits.1) (hleads hpc (by rw [hcode]; exact ⟨_, _, hf⟩))
      fun _ _ _ hP => hw.owes k f s.data k' d hcode (hs.asserts hpc hfits.1) hf hP
  | @peek t k f hpc hcode =>
    have hfits := hv.fits k
    rw [hcode] at hfits
    exact h.goto (hleads hpc (by rw [hcode]; exact ⟨_, rfl⟩)) (hawake _)
      (hs.not_owner hpc hfits.1)
  | @spurious u w e hasleep =>
    have hruns := h.runs u
    have hok := hs.pc u
    rw [hasleep] at hruns hok
    exact h.goto hruns.1 (fun _ _ heq => by cases heq) hok.1
  | @expire u w e hasleep =>
    have hruns := h.runs u
    have hok := hs.pc u
    rw [hasleep] at hruns hok
    exact h.goto (hruns.2 e rfl) (fun _ _ heq => by cases heq) hok.1

theorem run (hv : O.Valid code entry) (hw : Waits O code entry P r runs owes) (hs : O.Sound s)
    (h : Awaited P r runs owes s) {as : List (Event T K)}
    (hrun : Run (Step code entry) s as s') : Awaited P r runs owes s' :=
  (hrun.invariant (I := fun s => O.Sound s ∧ Awaited P r runs owes s)
    (fun _ _ _ hi hstep => ⟨hi.1.step hv hstep, step hv hw hi.1 hi.2 hstep⟩) ⟨hs, h⟩).2

end Awaited

/-! ## Moving on -/

/-- The thread whose own step it is. -/
def Event.mover : Event T K → Option T
  | .acquire t _ => some t
  | .act t => some t
  | .wake t _ => some t
  | _ => none

variable [DecidableEq T]

/-- The owner of the mutex can go on. -/
theorem Outline.Sound.owner_moves (hv : O.Valid code entry) (h : O.Sound s) {t : T}
    (howner : s.owner = some t) :
    ∃ a s', Step code entry s a s' ∧ a.mover = some t := by
  have hok := h.pc t
  cases hpc : s.pc t with
  | asleep woken expired =>
    rw [hpc] at hok
    exact absurd howner hok.1
  | relock k =>
    rw [hpc] at hok
    exact absurd howner hok.1
  | here k =>
    rw [hpc] at hok
    have hholds := hok.1.mpr howner
    have hfits := hv.fits k
    cases hcode : code k with
    | idle =>
      rw [hcode] at hfits
      exact absurd hholds hfits
    | lock next =>
      rw [hcode] at hfits
      exact absurd hholds hfits.1
    | unlock next => exact ⟨_, _, .unlock hpc hcode, rfl⟩
    | wait woken expired => exact ⟨_, _, .wait hpc hcode, rfl⟩
    | signal next =>
      by_cases hsleep : ∃ u w e, s.pc u = .asleep w e
      · obtain ⟨u, w, e, hasleep⟩ := hsleep
        exact ⟨_, _, .wake hpc hcode hasleep, rfl⟩
      · exact ⟨_, _, .signal hpc hcode fun u w e hasleep => hsleep ⟨u, w, e, hasleep⟩, rfl⟩
    | access f =>
      rw [hcode] at hfits
      obtain ⟨next, d', hf, -⟩ := hfits.2 _ (hok.2 howner)
      exact ⟨_, _, .access hpc hcode hf, rfl⟩
    | peek f =>
      rw [hcode] at hfits
      exact absurd hholds hfits.1

/-- **The threads do not block each other**: one of them can go on, or the mutex is free, and each
is between two calls or asleep. -/
theorem Outline.Sound.moves (hv : O.Valid code entry) (h : O.Sound s) :
    (∃ a s' t, Step code entry s a s' ∧ a.mover = some t) ∨
      s.owner = none ∧ ∀ t, (∃ k, s.pc t = .here k ∧ code k = .idle) ∨
        ∃ w e, s.pc t = .asleep w e := by
  cases howner : s.owner with
  | some t =>
    obtain ⟨a, s', hstep, hmover⟩ := h.owner_moves hv howner
    exact .inl ⟨a, s', t, hstep, hmover⟩
  | none =>
    by_cases hrest : ∀ t, (∃ k, s.pc t = .here k ∧ code k = .idle) ∨ ∃ w e, s.pc t = .asleep w e
    · exact .inr ⟨rfl, hrest⟩
    left
    obtain ⟨t, ht⟩ := not_forall.mp hrest
    obtain ⟨hbusy, hawake⟩ := not_or.mp ht
    have hnot : ∀ {k}, s.pc t = .here k → ¬ O.holds k := by
      intro k hpc hholds
      have := h.owner hpc hholds
      rw [howner] at this
      cases this
    cases hpc : s.pc t with
    | asleep woken expired => exact absurd ⟨woken, expired, hpc⟩ hawake
    | relock k => exact ⟨_, _, t, .relock hpc howner, rfl⟩
    | here k =>
      have hfits := hv.fits k
      cases hcode : code k with
      | idle => exact absurd ⟨k, hpc, hcode⟩ hbusy
      | lock next => exact ⟨_, _, t, .lock hpc hcode howner, rfl⟩
      | unlock next =>
        rw [hcode] at hfits
        exact absurd hfits.1 (hnot hpc)
      | wait woken expired =>
        rw [hcode] at hfits
        exact absurd hfits.1 (hnot hpc)
      | signal next =>
        rw [hcode] at hfits
        exact absurd hfits.1 (hnot hpc)
      | access f =>
        rw [hcode] at hfits
        exact absurd hfits.1 (hnot hpc)
      | peek f => exact ⟨_, _, t, .peek hpc hcode, rfl⟩

/-! ## Critical sections -/

/-- The mutex is taken while it is free, to go on at a place that the outline allows. -/
theorem Step.acquire_enters (hv : O.Valid code entry) (h : O.Sound s) {t : T} {k : K}
    (hstep : Step code entry s (.acquire t k) s') :
    s.owner = none ∧ O.Enters k ∧ s'.pc t = .here k := by
  cases hstep with
  | @lock _ k₀ _ hpc hcode hfree =>
    have hfits := hv.fits k₀
    rw [hcode] at hfits
    exact ⟨hfree, hfits.2, Function.update_self _ _ _⟩
  | relock hpc hfree =>
    have hok := h.pc t
    rw [hpc] at hok
    exact ⟨hfree, hok.2, Function.update_self _ _ _⟩

/-- `finish k d` is what the critical section that is at `k` makes of the data `d`. -/
structure Finishes (O : Outline D K) (code : K → Instr D K) (finish : K → D → D) : Prop where
  unlock : ∀ k next d, code k = .unlock next → finish k d = d
  wait : ∀ k woken expired d, code k = .wait woken expired → finish k d = d
  signal : ∀ k next d, code k = .signal next → finish k d = finish next d
  access : ∀ k f d next d', code k = .access f → O.asserts k d → f d = some (next, d') →
    finish k d = finish next d'

/-- The data once whoever is in a critical section has finished it. -/
def State.view (finish : K → D → D) (s : State T D K) : D :=
  match s.owner with
  | none => s.data
  | some t =>
      match s.pc t with
      | .here k => finish k s.data
      | _ => s.data

omit [DecidableEq T] in
theorem State.view_owner {finish : K → D → D} {t : T} {k : K} (howner : s.owner = some t)
    (hpc : s.pc t = .here k) : s.view finish = finish k s.data := by
  simp only [State.view, howner, hpc]

omit [DecidableEq T] in
theorem State.view_free {finish : K → D → D} (hfree : s.owner = none) :
    s.view finish = s.data := by
  simp only [State.view, hfree]

/-- Another thread than the owner moves. -/
theorem State.view_goto {finish : K → D → D} {t : T} {pc : Pc K} (howner : s.owner ≠ some t) :
    (s.goto t pc).view finish = s.view finish := by
  unfold State.view State.goto
  cases hs : s.owner with
  | none => rfl
  | some u =>
    have hut : u ≠ t := by
      rintro rfl
      exact howner hs
    simp only [Function.update_of_ne hut]

/-- **A critical section happens when its thread takes the mutex**, all at once. -/
theorem Step.view_eq {finish : K → D → D} (hv : O.Valid code entry) (hf : Finishes O code finish)
    (h : O.Sound s) {a : Event T K} (hstep : Step code entry s a s') :
    s'.view finish = (acquired [a]).foldl (fun d k => finish k d) (s.view finish) := by
  cases hstep with
  | @call t k₀ k hpc hcode hentry =>
    have hfits := hv.fits k₀
    rw [hcode] at hfits
    exact State.view_goto (h.not_owner hpc hfits)
  | @lock t k k' hpc hcode hfree =>
    rw [State.view_free hfree, State.view_owner rfl (Function.update_self _ _ _)]
    rfl
  | @relock t k hpc hfree =>
    rw [State.view_free hfree, State.view_owner rfl (Function.update_self _ _ _)]
    rfl
  | @unlock t k k' hpc hcode =>
    have hfits := hv.fits k
    rw [hcode] at hfits
    have howner := h.owner hpc hfits.1
    rw [State.view_owner howner hpc, hf.unlock k k' _ hcode, State.release, if_pos howner]
    exact State.view_free rfl
  | @wait t k woken expired hpc hcode =>
    have hfits := hv.fits k
    rw [hcode] at hfits
    have howner := h.owner hpc hfits.1
    rw [State.view_owner howner hpc, hf.wait k woken expired _ hcode, State.release,
      if_pos howner]
    exact State.view_free rfl
  | @signal t k k' hpc hcode _ =>
    have hfits := hv.fits k
    rw [hcode] at hfits
    have howner := h.owner hpc hfits.1
    rw [State.view_owner howner hpc, hf.signal k k' _ hcode]
    exact State.view_owner howner (Function.update_self _ _ _)
  | @wake t u k k' w e hpc hcode hasleep =>
    have hfits := hv.fits k
    rw [hcode] at hfits
    have howner := h.owner hpc hfits.1
    rw [State.view_owner howner hpc, hf.signal k k' _ hcode]
    exact State.view_owner howner (Function.update_self _ _ _)
  | @access t k k' f d hpc hcode hfd =>
    have hfits := hv.fits k
    rw [hcode] at hfits
    have howner := h.owner hpc hfits.1
    rw [State.view_owner howner hpc, hf.access k f _ k' d hcode (h.asserts hpc hfits.1) hfd]
    exact State.view_owner howner (Function.update_self _ _ _)
  | @peek t k f hpc hcode =>
    have hfits := hv.fits k
    rw [hcode] at hfits
    exact State.view_goto (h.not_owner hpc hfits.1)
  | @spurious u w e hasleep =>
    have hok := h.pc u
    rw [hasleep] at hok
    exact State.view_goto hok.1
  | @expire u w e hasleep =>
    have hok := h.pc u
    rw [hasleep] at hok
    exact State.view_goto hok.1

/-- **A run does what its critical sections do one after the other**, in the order in which the
mutex was taken. -/
theorem Run.view_eq {finish : K → D → D} (hv : O.Valid code entry) (hf : Finishes O code finish)
    (h : O.Sound s) {as : List (Event T K)} (hrun : Run (Step code entry) s as s') :
    s'.view finish = (acquired as).foldl (fun d k => finish k d) (s.view finish) := by
  induction hrun with
  | nil => rfl
  | @cons s s₁ s' a as head tail ih =>
    have happ : acquired ([a] ++ as) = acquired [a] ++ acquired as := List.filterMap_append
    rw [List.singleton_append] at happ
    rw [ih (h.step hv head), head.view_eq hv hf h, happ, List.foldl_append]

end Monitor
