import Nightjar.Lib.Tables
import Mathlib.Data.List.Induction

namespace Nightjar.Lib

/-- Since when each key has been seen without a break. -/
abbrev FirstSeen (κ : Type) := Table κ Int

namespace FirstSeen

/-- What an event does to the table. A sweep drops the entries older than `maxAge`. -/
inductive Effect (κ : Type) where
  | nothing
  | seen (k : κ) (t : Int)
  | cleared (k : κ)
  | swept (maxAge now : Int)
deriving DecidableEq

variable {κ : Type} [DecidableEq κ]

def apply (m : FirstSeen κ) : Effect κ → FirstSeen κ
  | .nothing => m
  | .seen k t => if (m.lookup k).isSome then m else m.insert k t
  | .cleared k => m.erase k
  | .swept maxAge now => m.restrict (fun _ t => !decide (now - t > maxAge))

def run (m : FirstSeen κ) (effects : List (Effect κ)) : FirstSeen κ := effects.foldl apply m

variable {m : FirstSeen κ} {k : κ} {t : Int}

theorem run_concat (m : FirstSeen κ) (effects : List (Effect κ)) (effect : Effect κ) :
    m.run (effects ++ [effect]) = (m.run effects).apply effect := by
  rw [run, List.foldl_append]
  rfl

theorem lookup_seen (m : FirstSeen κ) (k : κ) (t : Int) :
    (m.apply (.seen k t)).lookup k = some ((m.lookup k).getD t) := by
  rw [apply]
  split
  · rename_i hsome
    obtain ⟨t', ht'⟩ := Option.isSome_iff_exists.mp hsome
    rw [ht', Option.getD_some]
  · rename_i hnone
    rw [Option.not_isSome_iff_eq_none.mp hnone]
    exact AList.lookup_insert m

theorem lookup_seen_of_ne {j : κ} (hj : k ≠ j) (t : Int) : (m.apply (.seen j t)).lookup k = m.lookup k := by
  rw [apply]
  split
  · rfl
  · exact AList.lookup_insert_ne hj

def Effect.onEntry (k : κ) : Effect κ → Option Int → Option Int
  | .nothing, entry => entry
  | .seen j t, entry => if k = j then some (entry.getD t) else entry
  | .cleared j, entry => if k = j then none else entry
  | .swept maxAge now, entry => entry.filter (fun t => !decide (now - t > maxAge))

theorem lookup_apply_eq (m : FirstSeen κ) (effect : Effect κ) (k : κ) :
    (m.apply effect).lookup k = effect.onEntry k (m.lookup k) := by
  cases effect with
  | nothing => rfl
  | seen j t =>
      rw [Effect.onEntry]
      split
      · subst j
        exact lookup_seen m k t
      · exact lookup_seen_of_ne ‹_› t
  | cleared j => exact Table.lookup_erase m j k
  | swept maxAge now => exact Table.lookup_restrict m _ k

theorem lookup_apply {effect : Effect κ} (h : (m.apply effect).lookup k = some t) :
    (effect = .seen k t ∧ m.lookup k = none) ∨ (m.lookup k = some t ∧ effect ≠ .cleared k) := by
  cases effect with
  | nothing => exact .inr ⟨h, nofun⟩
  | seen j t' =>
      by_cases hj : k = j
      · subst hj
        rw [lookup_seen, Option.some.injEq] at h
        cases hl : m.lookup k with
        | none =>
            rw [hl, Option.getD_none] at h
            exact .inl ⟨by rw [h], rfl⟩
        | some t₀ =>
            rw [hl, Option.getD_some] at h
            exact .inr ⟨by rw [h], nofun⟩
      · rw [lookup_seen_of_ne hj] at h
        exact .inr ⟨h, nofun⟩
  | cleared j =>
      rw [apply, Table.lookup_erase] at h
      split at h
      · cases h
      · rename_i hj
        exact .inr ⟨h, fun he => hj (Effect.cleared.inj he).symm⟩
  | swept maxAge now =>
      rw [apply, Table.lookup_restrict, Option.filter_eq_some_iff] at h
      exact .inr ⟨h.1, nofun⟩

theorem exists_seen_of_lookup {effects : List (Effect κ)} (h : (run (∅ : FirstSeen κ) effects).lookup k = some t) :
    ∃ before after, effects = before ++ .seen k t :: after ∧ .cleared k ∉ after := by
  induction effects using List.reverseRecOn with
  | nil => cases h
  | append_singleton effects effect ih =>
      rw [run_concat] at h
      rcases lookup_apply h with ⟨rfl, -⟩ | ⟨h, hcleared⟩
      · exact ⟨effects, [], rfl, List.not_mem_nil⟩
      · obtain ⟨before, after, rfl, hafter⟩ := ih h
        refine ⟨before, after ++ [effect], by rw [List.append_assoc, List.cons_append], ?_⟩
        rw [List.mem_append, List.mem_singleton]
        exact not_or.mpr ⟨hafter, hcleared.symm⟩

theorem lookup_apply_of_kept {effect : Effect κ} (h : m.lookup k = some t) (hcleared : effect ≠ .cleared k)
    (hswept : ∀ maxAge now, effect = .swept maxAge now → now - t ≤ maxAge) : (m.apply effect).lookup k = some t := by
  cases effect with
  | nothing => exact h
  | seen j t' =>
      by_cases hj : k = j
      · subst hj
        rw [lookup_seen, h, Option.getD_some]
      · rw [lookup_seen_of_ne hj, h]
  | cleared j =>
      have hj : k ≠ j := fun hj => hcleared (congrArg Effect.cleared hj.symm)
      rw [apply, Table.lookup_erase, if_neg hj, h]
  | swept maxAge now =>
      rw [apply, Table.lookup_restrict, h, Option.filter_some, if_pos]
      simpa using hswept maxAge now rfl

theorem lookup_run_of_kept {effects : List (Effect κ)} (h : m.lookup k = some t) (hcleared : .cleared k ∉ effects)
    (hswept : ∀ before maxAge now after, effects = before ++ .swept maxAge now :: after →
      (m.run before).lookup k = some t → now - t ≤ maxAge) : (m.run effects).lookup k = some t := by
  induction effects using List.reverseRecOn with
  | nil => exact h
  | append_singleton effects effect ih =>
      have hbefore := ih (fun hmem => hcleared (List.mem_append_left _ hmem)) fun before maxAge now after heq =>
        hswept before maxAge now (after ++ [effect]) (by rw [heq, List.append_assoc, List.cons_append])
      rw [run_concat]
      refine lookup_apply_of_kept hbefore ?_ ?_
      · rintro rfl
        exact hcleared (List.mem_append_right _ List.mem_cons_self)
      · rintro maxAge now rfl
        exact hswept effects maxAge now [] rfl hbefore

end FirstSeen

end Nightjar.Lib
