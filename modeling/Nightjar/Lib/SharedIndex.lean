import Nightjar.Lib.Histories
import Mathlib.Logic.Function.Basic

namespace Nightjar.Lib

variable {O K E : Type}

/-- An index into which several owners put keys. An owner that changes its keys takes its
old ones out without looking who put them in last. -/
structure SharedIndex (O K : Type) where
  held : O → List K
  index : K → Option O
  last : K → Option O

namespace SharedIndex

def new : SharedIndex O K := ⟨fun _ => [], fun _ => none, fun _ => none⟩

def Kept (s : SharedIndex O K) : Prop := ∀ o k, k ∈ s.held o → s.last k = some o → s.index k = some o

def Spares (s : SharedIndex O K) (o : O) (ks : List K) : Prop :=
  ∀ k ∈ s.held o, k ∉ ks → ∀ o', o' ≠ o → k ∈ s.held o' → s.last k ≠ some o'

theorem kept_new : (new : SharedIndex O K).Kept := by
  intro o k hk
  cases hk

variable [DecidableEq O] [DecidableEq K]

def replace (s : SharedIndex O K) (o : O) (ks : List K) : SharedIndex O K where
  held := Function.update s.held o ks
  index k := if k ∈ ks then some o else if k ∈ s.held o then none else s.index k
  last k := if k ∈ ks then some o else s.last k

theorem held_replace (s : SharedIndex O K) (o o' : O) (ks : List K) :
    (s.replace o ks).held o' = if o' = o then ks else s.held o' := Function.update_apply _ _ _ _

theorem index_replace (s : SharedIndex O K) (o : O) (ks : List K) (k : K) :
    (s.replace o ks).index k = if k ∈ ks then some o else if k ∈ s.held o then none else s.index k := rfl

theorem last_replace (s : SharedIndex O K) (o : O) (ks : List K) (k : K) :
    (s.replace o ks).last k = if k ∈ ks then some o else s.last k := rfl

/-- The index after a history of events, each of which changes the keys of one owner. -/
def run (change : E → O × List K) (es : List E) : SharedIndex O K :=
  es.foldl (fun s e => s.replace (change e).1 (change e).2) new

theorem run_append (change : E → O × List K) (es : List E) (e : E) :
    run change (es ++ [e]) = (run change es).replace (change e).1 (change e).2 := by
  rw [run, List.foldl_append]
  rfl

theorem kept_replace_iff {s : SharedIndex O K} (h : s.Kept) (o : O) (ks : List K) :
    (s.replace o ks).Kept ↔ s.Spares o ks := by
  constructor
  · intro hkept k hk hnew o' hne hk' hlast
    have hindex := hkept o' k
    rw [held_replace, if_neg hne, last_replace, if_neg hnew, index_replace, if_neg hnew, if_pos hk] at hindex
    cases hindex hk' hlast
  · intro hspares o' k hk hlast
    rw [last_replace] at hlast
    rw [index_replace]
    by_cases hnew : k ∈ ks
    · rw [if_pos hnew] at hlast ⊢
      exact hlast
    · rw [if_neg hnew] at hlast ⊢
      rw [held_replace] at hk
      split at hk
      · exact absurd hk hnew
      · rename_i hne
        rw [if_neg (fun hold => hspares k hold hnew o' hne hk hlast)]
        exact h o' k hk hlast

theorem kept_run_iff (change : E → O × List K) (es : List E) :
    (∀ front, front <+: es → (run change front).Kept) ↔
      ∀ front e, front ++ [e] <+: es → (run change front).Spares (change e).1 (change e).2 := by
  refine forall_front_iff (P := fun es => (run change es).Kept) kept_new ?_ es
  intro front e hkept
  rw [run_append]
  exact kept_replace_iff hkept (change e).1 (change e).2

end SharedIndex

end Nightjar.Lib
