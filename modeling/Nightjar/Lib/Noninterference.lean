import Nightjar.Lib.Runs
import Mathlib.Algebra.Order.BigOperators.Group.List
import Mathlib.Algebra.Order.Ring.Nat
import Mathlib.Data.List.Forall2

namespace Nightjar.Lib

variable {α β : Type}

/-- What `R` lets vary of `a` changes the output in ways only that `S` allows. -/
def HidesUpTo (R : α → α → Prop) (S : β → β → Prop) (f : α → β) (a : α) : Prop := ∀ a', R a a' → S (f a') (f a)

/-- What `R` lets vary of `a` does not show in the output. -/
abbrev Hides (R : α → α → Prop) (f : α → β) (a : α) : Prop := HidesUpTo R Eq f a

theorem HidesUpTo.measure_eq {R : α → α → Prop} {S : β → β → Prop} {f : α → β} {a a' : α} (h : HidesUpTo R S f a)
    (m : β → Nat) (hm : ∀ {y z}, S y z → m y = m z) (ha : R a a') : m (f a') = m (f a) :=
  hm (h a' ha)

theorem sum_lt_sum_map {m : α → Nat} {f : α → α} {xs : List α} {x : α} (hx : x ∈ xs) (hlt : m x < m (f x))
    (hle : ∀ y ∈ xs, m y ≤ m (f y)) : (xs.map m).sum < ((xs.map f).map m).sum := by
  rw [List.map_map]
  exact List.sum_lt_sum m (m ∘ f) hle ⟨x, hx, hlt⟩

theorem rel_getElem? {R : α → β → Prop} {xs : List α} {ys : List β} (h : List.Forall₂ R xs ys) (i : Nat) :
    Option.Rel R xs[i]? ys[i]? := by
  induction h generalizing i with
  | nil => exact .none
  | cons hab _ ih =>
      cases i with
      | zero => exact .some hab
      | succ i => exact ih i

structure Machine (S L O : Type) where
  step : S → L → S × List O

namespace Machine

variable {S L O V : Type}

def run (M : Machine S L O) : S → List L → S × List O
  | s, [] => (s, [])
  | s, l :: ls => ((M.run (M.step s l).1 ls).1, (M.step s l).2 ++ (M.run (M.step s l).1 ls).2)

theorem run_append (M : Machine S L O) (s : S) (ls ms : List L) :
    M.run s (ls ++ ms) = ((M.run (M.run s ls).1 ms).1, (M.run s ls).2 ++ (M.run (M.run s ls).1 ms).2) := by
  induction ls generalizing s with
  | nil => rfl
  | cons l ls ih =>
      rw [List.cons_append, run, ih, run]
      simp only [List.append_assoc]

/-- An observer has a view of the state, and reads some of the output. What the
labels outside `sees` do leaves no trace in either; what the others do to the view
and put out to be read depends on the view alone. -/
structure Unwinding (M : Machine S L O) (view : S → V) (sees : L → Bool) (reads : O → Bool) : Prop where
  view_hidden : ∀ s {l}, sees l = false → view (M.step s l).1 = view s
  output_hidden : ∀ s {l}, sees l = false → (M.step s l).2.filter reads = []
  view_shown : ∀ {s t l}, sees l = true → view s = view t → view (M.step s l).1 = view (M.step t l).1
  output_shown : ∀ {s t l}, sees l = true → view s = view t →
    (M.step s l).2.filter reads = (M.step t l).2.filter reads

theorem Unwinding.output_run_filter {M : Machine S L O} {view : S → V} {sees : L → Bool} {reads : O → Bool}
    (h : Unwinding M view sees reads) {s t : S} (hst : view s = view t) (ls : List L) :
    (M.run s ls).2.filter reads = (M.run t (ls.filter sees)).2.filter reads := by
  induction ls generalizing s t with
  | nil => rfl
  | cons l ls ih =>
      rw [run, List.filter_append]
      cases hl : sees l with
      | false =>
          rw [List.filter_cons_of_neg (by simp [hl]), h.output_hidden s hl, List.nil_append]
          exact ih ((h.view_hidden s hl).trans hst)
      | true =>
          rw [List.filter_cons_of_pos hl, run, List.filter_append, h.output_shown hl hst]
          exact congrArg _ (ih (h.view_shown hl hst))

theorem Unwinding.output_eq {M : Machine S L O} {view : S → V} {sees : L → Bool} {reads : O → Bool}
    (h : Unwinding M view sees reads) (s : S) {ls ms : List L} (hlm : ls.filter sees = ms.filter sees) :
    (M.run s ls).2.filter reads = (M.run s ms).2.filter reads := by
  rw [h.output_run_filter rfl ls, h.output_run_filter rfl ms, hlm]

end Machine

namespace System

variable {S S' L L' : Type} {T : System S L} {U : System S' L'} {G : S → L → Prop}

theorem Trace.simulate {R : S → S' → Prop} {Q : L → L' → Prop}
    (hstep : ∀ {s t l l' s'}, R s t → Q l l' → T.step s l s' → ∃ t', U.step t l' t' ∧ R s' t') {s s' : S} {t : S'}
    {ls : List L} {ls' : List L'} (h : Trace T G s ls s') (hr : R s t) (hq : List.Forall₂ Q ls ls') :
    ∃ t', Trace U (fun _ _ => True) t ls' t' ∧ R s' t' := by
  induction h generalizing t ls' with
  | nil s =>
      cases hq
      exact ⟨t, .nil t, hr⟩
  | cons _ hs _ ih =>
      obtain _ | ⟨hl, hls⟩ := hq
      obtain ⟨t₁, ht₁, hr₁⟩ := hstep hr hl hs
      obtain ⟨t', ht', hr'⟩ := ih hr₁ hls
      exact ⟨t', .cons trivial ht₁ ht', hr'⟩

end System

end Nightjar.Lib
