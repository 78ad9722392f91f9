import Nightjar.Lib.Tables
import Mathlib.Logic.Function.Basic

namespace Nightjar.Lib

inductive Cooldown.Hold (κ : Type) where
  | free
  | cleared (k : κ)
  | unrecorded (k : κ)

inductive Cooldown.Event (κ : Type) where
  | began (k : κ) (t : Int)
  | ended (k : κ) (t : Int)

/-- Workers that take turns on keys, and are to leave a key alone for a while once it is done:
the time recorded last for each key, and what was begun and ended so far, the latest first. -/
structure Cooldown (ι κ : Type) where
  pause : Int
  clock : Int
  last : Table κ Int
  holds : ι → Cooldown.Hold κ
  log : List (Cooldown.Event κ)

namespace Cooldown

def Hold.key {κ : Type} : Hold κ → Option κ
  | free => none
  | cleared k | unrecorded k => some k

variable {ι κ : Type} [DecidableEq ι] [DecidableEq κ]

omit [DecidableEq ι] in
def cooling (s : Cooldown ι κ) (k : κ) (t : Int) : Bool :=
  (s.last.lookup k).any (fun last => decide (t - last < s.pause))

/-- What can happen at a time. A worker may give up a key it has not begun or not ended. It clears
a key only if no worker has it. -/
inductive Step (s : Cooldown ι κ) (t : Int) : Cooldown ι κ → Prop
  | quiet {holds : ι → Hold κ}
      (h : ∀ i, holds i = s.holds i ∨ holds i = .free ∧ ∃ k, s.holds i = .cleared k) :
      Step s t { s with clock := t, holds := holds }
  | clear {i : ι} {k : κ} (h : s.holds i = .free) (hd : s.cooling k t = false)
      (halone : ∀ j, (s.holds j).key ≠ some k) :
      Step s t { s with clock := t, holds := Function.update s.holds i (.cleared k) }
  | start {i : ι} {k : κ} (h : s.holds i = .cleared k) :
      Step s t { s with clock := t, log := .began k t :: s.log }
  | finish {i : ι} {k : κ} (h : s.holds i = .cleared k) :
      Step s t { s with
        clock := t
        holds := Function.update s.holds i (.unrecorded k)
        log := .ended k t :: s.log }
  | record {i : ι} {k : κ} (h : s.holds i = .unrecorded k) :
      Step s t { s with
        clock := t
        last := s.last.insert k t
        holds := Function.update s.holds i .free }

/-- Nothing is begun on a key before the pause after its last end is over. -/
def Spaced (pause : Int) (log : List (Event κ)) : Prop :=
  log.Pairwise (fun later earlier => ∀ k t t', later = .began k t → earlier = .ended k t' → t' + pause ≤ t)

structure Recorded (s : Cooldown ι κ) : Prop where
  past : ∀ k t, .ended k t ∈ s.log → t ≤ s.clock
  recorded : ∀ k t, .ended k t ∈ s.log →
    (∃ i, s.holds i = .unrecorded k) ∨ ∃ last, s.last.lookup k = some last ∧ t ≤ last
  due : ∀ i k, s.holds i = .cleared k → ∀ t, .ended k t ∈ s.log → t + s.pause ≤ s.clock
  alone : ∀ i j k, (s.holds i).key = some k → (s.holds j).key = some k → i = j
  spaced : Spaced s.pause s.log

variable {s s' : Cooldown ι κ} {t : Int} {i : ι} {k : κ}

omit [DecidableEq ι] in
theorem recorded_of_free (hfree : ∀ i, s.holds i = .free) (hlog : s.log = []) : s.Recorded := by
  refine ⟨?_, ?_, ?_, ?_, ?_⟩
  · simp [hlog]
  · simp [hlog]
  · simp [hlog]
  · intro i j k hi
    rw [hfree i] at hi
    cases hi
  · rw [hlog]
    exact .nil

omit [DecidableEq κ] in
theorem alone_update {holds : ι → Hold κ} {i : ι} {hold : Hold κ}
    (h : ∀ i j k, (holds i).key = some k → (holds j).key = some k → i = j)
    (hfree : ∀ k, hold.key = some k → ∀ j, j ≠ i → (holds j).key ≠ some k) :
    ∀ m n k, (Function.update holds i hold m).key = some k → (Function.update holds i hold n).key = some k → m = n := by
  intro m n k hm hn
  by_cases hmi : m = i
  · by_cases hni : n = i
    · rw [hmi, hni]
    · rw [hmi, Function.update_self] at hm
      rw [Function.update_of_ne hni] at hn
      exact absurd hn (hfree k hm n hni)
  · rw [Function.update_of_ne hmi] at hm
    by_cases hni : n = i
    · rw [hni, Function.update_self] at hn
      exact absurd hm (hfree k hn m hmi)
    · rw [Function.update_of_ne hni] at hn
      exact h m n k hm hn

omit [DecidableEq ι] in
theorem Recorded.quiet (h : s.Recorded) (ht : s.clock ≤ t) {holds : ι → Hold κ}
    (hquiet : ∀ i, holds i = s.holds i ∨ holds i = .free ∧ ∃ k, s.holds i = .cleared k) :
    Recorded { s with clock := t, holds := holds } := by
  have hkey {i : ι} {k : κ} (hk : (holds i).key = some k) : holds i = s.holds i := by
    refine (hquiet i).resolve_right ?_
    rintro ⟨hfree, -⟩
    rw [hfree] at hk
    cases hk
  refine ⟨fun k u hu => Int.le_trans (h.past k u hu) ht, ?_, ?_, ?_, h.spaced⟩
  · intro k u hu
    refine (h.recorded k u hu).imp_left ?_
    rintro ⟨i, hi⟩
    refine ⟨i, (hquiet i).elim (·.trans hi) ?_⟩
    rintro ⟨-, k', hk'⟩
    rw [hi] at hk'
    cases hk'
  · intro i k hi u hu
    have hi' : s.holds i = .cleared k := (hkey (congrArg Hold.key hi)).symm.trans hi
    exact Int.le_trans (h.due i k hi' u hu) ht
  · intro i j k hi hj
    exact h.alone i j k (hkey hi ▸ hi) (hkey hj ▸ hj)

theorem Recorded.clear (h : s.Recorded) (ht : s.clock ≤ t) (hfree : s.holds i = .free) (hd : s.cooling k t = false)
    (halone : ∀ j, (s.holds j).key ≠ some k) :
    Recorded { s with clock := t, holds := Function.update s.holds i (.cleared k) } := by
  refine ⟨fun k u hu => Int.le_trans (h.past k u hu) ht, ?_, ?_, ?_, h.spaced⟩
  · intro k' u hu
    refine (h.recorded k' u hu).imp_left ?_
    rintro ⟨j, hj⟩
    refine ⟨j, ?_⟩
    have hji : j ≠ i := by
      rintro rfl
      rw [hfree] at hj
      cases hj
    exact (Function.update_of_ne hji ..).trans hj
  · intro j k' hj u hu
    dsimp only at hj
    by_cases hji : j = i
    · rw [hji, Function.update_self] at hj
      cases hj
      obtain ⟨j, hj⟩ | ⟨last, hlast, hle⟩ := h.recorded k u hu
      · exact absurd (congrArg Hold.key hj) (halone j)
      · rw [cooling, hlast, Option.any_some, decide_eq_false_iff_not] at hd
        change u + s.pause ≤ t
        omega
    · rw [Function.update_of_ne hji] at hj
      exact Int.le_trans (h.due j k' hj u hu) ht
  · refine alone_update h.alone ?_
    rintro k' hk' j -
    cases hk'
    exact halone j

omit [DecidableEq ι] in
theorem Recorded.start (h : s.Recorded) (ht : s.clock ≤ t) (hi : s.holds i = .cleared k) :
    Recorded { s with clock := t, log := .began k t :: s.log } := by
  have hmem {k' : κ} {u : Int} (hu : Event.ended k' u ∈ Event.began k t :: s.log) : .ended k' u ∈ s.log :=
    (List.mem_cons.mp hu).resolve_left nofun
  refine ⟨fun k' u hu => Int.le_trans (h.past k' u (hmem hu)) ht, fun k' u hu => h.recorded k' u (hmem hu), ?_,
    h.alone, ?_⟩
  · intro j k' hj u hu
    exact Int.le_trans (h.due j k' hj u (hmem hu)) ht
  · refine List.pairwise_cons.mpr ⟨?_, h.spaced⟩
    rintro e he k' u u' hbegan rfl
    cases hbegan
    exact Int.le_trans (h.due i k hi u' he) ht

theorem Recorded.finish (h : s.Recorded) (ht : s.clock ≤ t) (hi : s.holds i = .cleared k) :
    Recorded { s with
      clock := t, holds := Function.update s.holds i (.unrecorded k), log := .ended k t :: s.log } := by
  have hmem {k' : κ} {u : Int} (hu : Event.ended k' u ∈ Event.ended k t :: s.log) :
      (k' = k ∧ u = t) ∨ .ended k' u ∈ s.log := by
    rcases List.mem_cons.mp hu with he | he
    · cases he
      exact .inl ⟨rfl, rfl⟩
    · exact .inr he
  have hother {j : ι} (hj : (s.holds j).key = some k) : j = i := h.alone j i k hj (congrArg Hold.key hi)
  refine ⟨?_, ?_, ?_, ?_, ?_⟩
  · intro k' u hu
    rcases hmem hu with ⟨-, rfl⟩ | hu
    · exact Int.le_refl u
    · exact Int.le_trans (h.past k' u hu) ht
  · intro k' u hu
    rcases hmem hu with ⟨rfl, -⟩ | hu
    · exact .inl ⟨i, Function.update_self ..⟩
    · refine (h.recorded k' u hu).imp_left ?_
      rintro ⟨j, hj⟩
      have hji : j ≠ i := by
        rintro rfl
        rw [hi] at hj
        cases hj
      exact ⟨j, (Function.update_of_ne hji ..).trans hj⟩
  · intro j k' hj u hu
    dsimp only at hj
    have hji : j ≠ i := by
      rintro rfl
      rw [Function.update_self] at hj
      cases hj
    rw [Function.update_of_ne hji] at hj
    rcases hmem hu with ⟨rfl, -⟩ | hu
    · exact absurd (hother (congrArg Hold.key hj)) hji
    · exact Int.le_trans (h.due j k' hj u hu) ht
  · refine alone_update h.alone ?_
    rintro k' hk' j hji hj
    cases hk'
    exact hji (hother hj)
  · exact List.pairwise_cons.mpr ⟨nofun, h.spaced⟩

theorem Recorded.record (h : s.Recorded) (ht : s.clock ≤ t) (hi : s.holds i = .unrecorded k) :
    Recorded { s with clock := t, last := s.last.insert k t, holds := Function.update s.holds i .free } := by
  refine ⟨fun k u hu => Int.le_trans (h.past k u hu) ht, ?_, ?_, ?_, h.spaced⟩
  · intro k' u hu
    have hlookup := Table.lookup_insert s.last k k' t
    by_cases hk : k' = k
    · exact .inr ⟨t, hlookup.trans (if_pos hk), Int.le_trans (h.past k' u hu) ht⟩
    · refine (h.recorded k' u hu).imp ?_ ?_
      · rintro ⟨j, hj⟩
        have hji : j ≠ i := by
          rintro rfl
          rw [hi] at hj
          cases hj
          exact hk rfl
        exact ⟨j, (Function.update_of_ne hji ..).trans hj⟩
      · rintro ⟨last, hlast, hle⟩
        exact ⟨last, (hlookup.trans (if_neg hk)).trans hlast, hle⟩
  · intro j k' hj u hu
    dsimp only at hj
    have hji : j ≠ i := by
      rintro rfl
      rw [Function.update_self] at hj
      cases hj
    rw [Function.update_of_ne hji] at hj
    exact Int.le_trans (h.due j k' hj u hu) ht
  · exact alone_update h.alone nofun

theorem Recorded.step (h : s.Recorded) (ht : s.clock ≤ t) (hs : Step s t s') : s'.Recorded := by
  cases hs with
  | quiet hquiet => exact h.quiet ht hquiet
  | clear hfree hd halone => exact h.clear ht hfree hd halone
  | start hi => exact h.start ht hi
  | finish hi => exact h.finish ht hi
  | record hi => exact h.record ht hi

end Cooldown

end Nightjar.Lib
