import Mathlib.Data.List.Infix

namespace Nightjar.Lib

variable {E : Type} {P : List E → Prop} {G : List E → E → Prop}

theorem forall_front (h0 : P []) (hstep : ∀ front e, P front → G front e → P (front ++ [e])) {es : List E}
    (hg : ∀ front e, front ++ [e] <+: es → G front e) : ∀ front, front <+: es → P front := by
  intro front
  induction front using List.reverseRecOn with
  | nil => exact fun _ => h0
  | append_singleton front e ih =>
      intro he
      exact hstep front e (ih ((List.prefix_append front [e]).trans he)) (hg front e he)

/-- If an event keeps the invariant exactly under its condition, the invariant holds
along a history if and only if every event meets the condition. -/
theorem forall_front_iff (h0 : P []) (hstep : ∀ front e, P front → (P (front ++ [e]) ↔ G front e)) (es : List E) :
    (∀ front, front <+: es → P front) ↔ ∀ front e, front ++ [e] <+: es → G front e := by
  constructor
  · intro h front e he
    exact (hstep front e (h front ((List.prefix_append front [e]).trans he))).mp (h _ he)
  · exact forall_front h0 (fun front e hp hg => (hstep front e hp).mpr hg)

theorem forall_event_iff {es : List E} :
    (∀ front e, front ++ [e] <+: es → G front e) ↔ ∀ i, (h : i < es.length) → G (es.take i) (es.get ⟨i, h⟩) := by
  constructor
  · intro hg i hi
    refine hg _ _ ?_
    rw [List.get_eq_getElem, List.take_concat_get' es i hi]
    exact List.take_prefix _ _
  · rintro hg front e ⟨rest, rfl⟩
    have h := hg front.length (by simp)
    simpa using h

end Nightjar.Lib
