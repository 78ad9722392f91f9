import Mathlib.Logic.Basic
import Mathlib.Data.Sum.Basic

namespace Nightjar.Lib

variable {α β γ σ : Type}

/-- The orders in which the events of two independent sources can arrive: each source's
own order is kept. -/
inductive Interleave : List α → List β → List (α ⊕ β) → Prop
  | nil : Interleave [] [] []
  | left {a : α} {as : List α} {bs : List β} {es : List (α ⊕ β)} (h : Interleave as bs es) :
      Interleave (a :: as) bs (.inl a :: es)
  | right {b : β} {as : List α} {bs : List β} {es : List (α ⊕ β)} (h : Interleave as bs es) :
      Interleave as (b :: bs) (.inr b :: es)

namespace Interleave

theorem lefts (as : List α) : Interleave as ([] : List β) (as.map .inl) := by
  induction as with
  | nil => exact .nil
  | cons a as ih => exact .left ih

theorem rights (bs : List β) : Interleave ([] : List α) bs (bs.map .inr) := by
  induction bs with
  | nil => exact .nil
  | cons b bs ih => exact .right ih

theorem append {as as' : List α} {bs bs' : List β} {es es' : List (α ⊕ β)} (h : Interleave as bs es)
    (h' : Interleave as' bs' es') : Interleave (as ++ as') (bs ++ bs') (es ++ es') := by
  induction h with
  | nil => exact h'
  | left _ ih => exact .left ih
  | right _ ih => exact .right ih

theorem foldl_view {f : σ → α ⊕ β → σ} {g : γ → α → γ} {view : σ → γ} (hl : ∀ s a, view (f s (.inl a)) = g (view s) a)
    (hr : ∀ s b, view (f s (.inr b)) = view s) {as : List α} {bs : List β} {es : List (α ⊕ β)}
    (h : Interleave as bs es) (s : σ) : view (es.foldl f s) = as.foldl g (view s) := by
  induction h generalizing s with
  | nil => rfl
  | left _ ih => rw [List.foldl_cons, ih, hl, List.foldl_cons]
  | right _ ih => rw [List.foldl_cons, ih, hr]

end Interleave

end Nightjar.Lib
