import Nightjar.Lib.FirstSeen

namespace Nightjar.Lib.FirstSeen

variable {κ : Type}

def Effect.time : Effect κ → Option Int
  | .seen _ t => some t
  | .swept _ now => some now
  | .nothing | .cleared _ => none

/-- The clock does not go back from effect to effect. -/
def InOrder (effects : List (Effect κ)) : Prop :=
  effects.Pairwise (fun e e' => ∀ t ∈ e.time, ∀ t' ∈ e'.time, t ≤ t')

theorem InOrder.le {before after : List (Effect κ)} (h : InOrder (before ++ after)) {e e' : Effect κ}
    (he : e ∈ before) (he' : e' ∈ after) {t t' : Int} (ht : e.time = some t) (ht' : e'.time = some t') : t ≤ t' :=
  (List.pairwise_append.mp h).2.2 e he e' he' t ht t' ht'

theorem InOrder.mem_before {before after : List (Effect κ)} {e e' : Effect κ} (h : InOrder (before ++ e :: after))
    {t t' : Int} (ht : e.time = some t) (ht' : e'.time = some t') (hlt : t' < t)
    (hmem : e' ∈ before ++ e :: after) : e' ∈ before := by
  rcases List.mem_append.mp hmem with hbefore | hrest
  · exact hbefore
  · exfalso
    rcases List.mem_cons.mp hrest with rfl | hafter
    · rw [ht] at ht'
      cases ht'
      omega
    · have hle := (List.pairwise_cons.mp (List.pairwise_append.mp h).2.1).1 e' hafter t ht t' ht'
      omega

variable [DecidableEq κ] {m : FirstSeen κ} {k : κ} {t : Int}

theorem run_append (m : FirstSeen κ) (effects effects' : List (Effect κ)) :
    m.run (effects ++ effects') = (m.run effects).run effects' := List.foldl_append

theorem held_since {effects : List (Effect κ)} (h : (m.run effects).lookup k = some t) :
    ∃ before after, effects = before ++ after ∧
      (∀ mid late, after = mid ++ late → (m.run (before ++ mid)).lookup k = some t) ∧
      (before = [] ∨ ∃ early, before = early ++ [.seen k t] ∧ (m.run early).lookup k = none) := by
  induction effects using List.reverseRecOn with
  | nil =>
      refine ⟨[], [], rfl, ?_, .inl rfl⟩
      intro mid late hsplit
      rw [(List.append_eq_nil_iff.mp hsplit.symm).1]
      exact h
  | append_singleton effects effect ih =>
      have hlast := h
      rw [run_concat] at h
      rcases lookup_apply h with ⟨rfl, hnone⟩ | ⟨h, -⟩
      · refine ⟨effects ++ [.seen k t], [], (List.append_nil _).symm, ?_, .inr ⟨effects, rfl, hnone⟩⟩
        intro mid late hsplit
        rw [(List.append_eq_nil_iff.mp hsplit.symm).1, List.append_nil]
        exact hlast
      · obtain ⟨before, after, rfl, hheld, hstart⟩ := ih h
        refine ⟨before, after ++ [effect], List.append_assoc .., ?_, hstart⟩
        intro mid late hsplit
        rcases List.eq_nil_or_concat late with rfl | ⟨late, last, rfl⟩
        · rw [List.append_nil] at hsplit
          rw [← hsplit, ← List.append_assoc]
          exact hlast
        · rw [List.concat_eq_append, ← List.append_assoc] at hsplit
          exact hheld mid late (List.append_inj_left' hsplit rfl)

theorem exists_removal {effects : List (Effect κ)} (h : (m.lookup k).isSome = true)
    (hnone : (m.run effects).lookup k = none) :
    ∃ mid effect rest t, effects = mid ++ effect :: rest ∧ (m.run mid).lookup k = some t ∧
      (effect = .cleared k ∨ ∃ maxAge now, effect = .swept maxAge now ∧ maxAge < now - t) := by
  induction effects using List.reverseRecOn with
  | nil =>
      rw [show m.lookup k = none from hnone] at h
      cases h
  | append_singleton effects effect ih =>
      cases hbefore : (m.run effects).lookup k with
      | none =>
          obtain ⟨mid, removal, rest, t, rfl, hheld, hremoves⟩ := ih hbefore
          exact ⟨mid, removal, rest ++ [effect], t, by simp, hheld, hremoves⟩
      | some t =>
          refine ⟨effects, effect, [], t, rfl, hbefore, ?_⟩
          by_contra hkeeps
          rw [not_or, not_exists] at hkeeps
          have hswept (maxAge now : Int) (heq : effect = .swept maxAge now) : now - t ≤ maxAge := by
            by_contra hlt
            exact hkeeps.2 maxAge ⟨now, heq, by omega⟩
          rw [run_concat, lookup_apply_of_kept hbefore hkeeps.1 hswept] at hnone
          cases hnone

theorem found_of_held {effects : List (Effect κ)} (horder : InOrder effects) (h : (m.run effects).lookup k = some t)
    {t' : Int} (hseen : .seen k t' ∈ effects) (hlt : t < t') :
    ∃ before after, effects = before ++ .seen k t' :: after ∧ (m.run before).lookup k = some t := by
  obtain ⟨before, after, rfl, hheld, hstart⟩ := held_since h
  have hafter : .seen k t' ∈ after := by
    refine (List.mem_append.mp hseen).resolve_left ?_
    intro hbefore
    rcases hstart with rfl | ⟨early, rfl, -⟩
    · exact List.not_mem_nil hbefore
    · rw [List.append_assoc] at horder
      rcases List.mem_append.mp hbefore with hearly | hmade
      · have hle := horder.le hearly List.mem_cons_self rfl rfl
        omega
      · cases List.mem_singleton.mp hmade
        omega
  obtain ⟨mid, late, rfl⟩ := List.append_of_mem hafter
  exact ⟨before ++ mid, late, (List.append_assoc ..).symm, hheld mid _ rfl⟩

theorem aged_or_made {before after : List (Effect κ)} {window : Int} (hwindow : 0 < window)
    (horder : InOrder (before ++ .seen k t :: after)) :
    (∃ t₀, (m.run before).lookup k = some t₀ ∧ window ≤ t - t₀) ∨ (∃ t₀ ∈ m.lookup k, t - window < t₀) ∨
      ∃ early t₀ late, before ++ .seen k t :: after = early ++ .seen k t₀ :: late ∧
        (m.run early).lookup k = none ∧ t - window < t₀ ∧ t₀ ≤ t := by
  cases h : (m.run before).lookup k with
  | none => exact .inr (.inr ⟨before, t, after, rfl, h, by omega, by omega⟩)
  | some t₀ =>
      by_cases hold : window ≤ t - t₀
      · exact .inl ⟨t₀, rfl, hold⟩
      · refine .inr ?_
        obtain ⟨made, since, rfl, hheld, rfl | ⟨early, rfl, hnone⟩⟩ := held_since h
        · exact .inl ⟨t₀, hheld [] since rfl, by omega⟩
        · have hmade : .seen k t₀ ∈ early ++ [.seen k t₀] ++ since := by simp
          have hle := horder.le hmade List.mem_cons_self rfl rfl
          exact .inr ⟨early, t₀, since ++ .seen k t :: after, by simp, hnone, by omega, hle⟩

theorem aged_before_sweep {before after : List (Effect κ)} {window gap maxAge now t' : Int}
    (horder : InOrder (before ++ .swept maxAge now :: after)) (hheld : (m.run before).lookup k = some t)
    (hage : maxAge < now - t) (hmaxAge : 2 * window ≤ maxAge) (hgap : gap ≤ window) (hwindow : 0 < window)
    (hseen : .seen k t' ∈ before ++ .swept maxAge now :: after) (hlow : now - gap ≤ t') (hhigh : t' < now) :
    ∃ found since, before ++ .swept maxAge now :: after = found ++ .seen k t' :: since ∧
      (m.run found).lookup k = some t ∧ window ≤ t' - t := by
  have hbefore : .seen k t' ∈ before := horder.mem_before rfl rfl hhigh hseen
  have hold : window ≤ t' - t := by omega
  have hlt : t < t' := Int.lt_of_sub_pos (Int.lt_of_lt_of_le hwindow hold)
  obtain ⟨found, since, rfl, hlookup⟩ := found_of_held (List.pairwise_append.mp horder).1 hheld hbefore hlt
  exact ⟨found, since ++ .swept maxAge now :: after, by simp, hlookup, hold⟩

theorem age_le_of_held {effects : List (Effect κ)} {maxAge now : Int} (horder : InOrder effects)
    (h : (run (∅ : FirstSeen κ) effects).lookup k = some t) (hsweep : .swept maxAge now ∈ effects) (hlt : t < now) :
    now - t ≤ maxAge := by
  obtain ⟨before, after, rfl, hheld, rfl | ⟨early, rfl, -⟩⟩ := held_since h
  · cases hheld [] after rfl
  · have hafter : .swept maxAge now ∈ after := by
      refine (List.mem_append.mp hsweep).resolve_left ?_
      intro hbefore
      rcases List.mem_append.mp hbefore with hearly | hmade
      · rw [List.append_assoc] at horder
        have hle := horder.le hearly List.mem_cons_self rfl rfl
        omega
      · cases List.mem_singleton.mp hmade
    obtain ⟨mid, late, rfl⟩ := List.append_of_mem hafter
    have hsurvives := hheld (mid ++ [.swept maxAge now]) late (by simp)
    rw [← List.append_assoc, run_concat, apply, Table.lookup_restrict, Option.filter_eq_some_iff] at hsurvives
    simpa using hsurvives.2

/-- From one time to another, the key is seen in every stretch of the length. -/
def SeenEvery (k : κ) (gap start stop : Int) (effects : List (Effect κ)) : Prop :=
  ∀ x, start ≤ x → x + gap ≤ stop → ∃ t, .seen k t ∈ effects ∧ x ≤ t ∧ t < x + gap

theorem exists_aged {effects : List (Effect κ)} {window gap start stop x : Int} (horder : InOrder effects)
    (hcleared : .cleared k ∉ effects) (hsweeps : ∀ maxAge now, .swept maxAge now ∈ effects → 2 * window ≤ maxAge)
    (hseen : SeenEvery k gap start stop effects) (hpos : 0 < gap) (hgap : gap ≤ window)
    (hpast : ∀ t ∈ m.lookup k, ∀ t', .seen k t' ∈ effects → t ≤ t')
    (hstart : start ≤ x) (hstop : x + window + 3 * gap ≤ stop) :
    ∃ before t after t₀, effects = before ++ .seen k t :: after ∧ x ≤ t ∧ t < x + window + 3 * gap ∧
      (m.run before).lookup k = some t₀ ∧ window ≤ t - t₀ := by
  obtain ⟨t, ht, hlow, hhigh⟩ := hseen (x + window + 2 * gap) (by omega) (by omega)
  obtain ⟨t₁, ht₁, hlow₁, hhigh₁⟩ := hseen (x + gap) (by omega) (by omega)
  obtain ⟨before, after, rfl⟩ := List.append_of_mem ht
  have hwindow : 0 < window := by omega
  rcases aged_or_made hwindow horder with ⟨t₀, hfound, hold⟩ | ⟨t₀, hfirst, hlate⟩ |
    ⟨early, t₀, late, heq, hnone, hlate, hle⟩
  · exact ⟨before, t, after, t₀, rfl, by omega, by omega, hfound, hold⟩
  · have hle := hpast t₀ hfirst t₁ ht₁
    omega
  · rw [heq] at horder ht₁
    obtain ⟨early, mid, rfl⟩ := List.append_of_mem (horder.mem_before rfl rfl (by omega) ht₁)
    have hentry : ((m.run (early ++ [.seen k t₁])).lookup k).isSome = true := by
      rw [run_concat, lookup_seen]
      rfl
    have hgone : ((m.run (early ++ [.seen k t₁])).run mid).lookup k = none := by
      rw [← run_append, List.append_assoc]
      exact hnone
    obtain ⟨kept, removal, rest, t₂, rfl, hheld, hremoves⟩ := exists_removal hentry hgone
    have hsplit : before ++ .seen k t :: after =
        (early ++ [.seen k t₁] ++ kept) ++ removal :: (rest ++ .seen k t₀ :: late) := by
      rw [heq]
      simp
    rw [hsplit] at hcleared hsweeps hseen ⊢
    rw [← heq, hsplit] at horder
    rw [← run_append] at hheld
    obtain rfl | ⟨maxAge, now, rfl, hage⟩ := hremoves
    · exact absurd (by simp) hcleared
    · have hmaxAge := hsweeps maxAge now (by simp)
      have hlast : .seen k t₁ ∈ early ++ [.seen k t₁] ++ kept := by simp
      have hafter : t₁ ≤ now := horder.le hlast List.mem_cons_self rfl rfl
      have hbefore : now ≤ t₀ :=
        (List.pairwise_cons.mp (List.pairwise_append.mp horder).2.1).1 (.seen k t₀) (by simp) now rfl t₀ rfl
      obtain ⟨t₃, ht₃, hlow₃, hhigh₃⟩ := hseen (now - gap) (by omega) (by omega)
      obtain ⟨found, since, hfound, hlookup, hold⟩ :=
        aged_before_sweep horder hheld hage hmaxAge hgap hwindow ht₃ hlow₃ (by omega)
      exact ⟨found, t₃, since, t₂, hfound, by omega, by omega, hlookup, hold⟩

end Nightjar.Lib.FirstSeen
