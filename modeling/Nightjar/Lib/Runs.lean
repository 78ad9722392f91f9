import Mathlib.Algebra.GroupWithZero.Nat

namespace Nightjar.Lib

structure System (S L : Type) where
  init : S → Prop
  step : S → L → S → Prop

namespace System

variable {S L : Type} {T : System S L} {G : S → L → Prop}

/-- The states at the end of the runs in which every step meets `G` in the
state it starts from. -/
inductive Reaches (T : System S L) (G : S → L → Prop) : S → Prop
  | init {s : S} (h : T.init s) : Reaches T G s
  | step {s s' : S} {l : L} (h : Reaches T G s) (hg : G s l) (hs : T.step s l s') : Reaches T G s'

def Reachable (T : System S L) : S → Prop := Reaches T (fun _ _ => True)

theorem Reaches.invariant {I : S → Prop} (h0 : ∀ s, T.init s → I s)
    (hstep : ∀ s l s', I s → G s l → T.step s l s' → I s') {s : S} (h : Reaches T G s) : I s := by
  induction h with
  | init h => exact h0 _ h
  | step _ hg hs ih => exact hstep _ _ _ ih hg hs

def ofStep (init : S → Prop) (next : S → L → Option S) : System S L where
  init := init
  step s l s' := next s l = some s'

def exec (next : S → L → Option S) (test : S → L → Bool) : S → List L → Option S
  | s, [] => some s
  | s, l :: ls => if test s l then (next s l).bind (fun s' => exec next test s' ls) else none

theorem exec_append {next : S → L → Option S} {test : S → L → Bool} (s : S) (ls ms : List L) :
    exec next test s (ls ++ ms) = (exec next test s ls).bind (fun t => exec next test t ms) := by
  induction ls generalizing s with
  | nil => rfl
  | cons l ls ih =>
      rw [List.cons_append, exec, exec]
      split
      · rw [Option.bind_assoc]
        simp only [ih]
      · rfl

/-- The labels of a run from one state to another in which every step meets `G`. -/
inductive Trace (T : System S L) (G : S → L → Prop) : S → List L → S → Prop
  | nil (s : S) : Trace T G s [] s
  | cons {s s' s'' : S} {l : L} {ls : List L} (hg : G s l) (hs : T.step s l s') (h : Trace T G s' ls s'') :
      Trace T G s (l :: ls) s''

theorem Trace.of_exec {init : S → Prop} {next : S → L → Option S} {test : S → L → Bool}
    (htest : ∀ s l, test s l = true → G s l) {s s' : S} {ls : List L}
    (he : System.exec next test s ls = some s') : Trace (ofStep init next) G s ls s' := by
  induction ls generalizing s with
  | nil =>
      cases he
      exact .nil _
  | cons l ls ih =>
      rw [System.exec] at he
      split at he
      · rename_i ht
        obtain ⟨t, hstep, he⟩ := Option.bind_eq_some_iff.mp he
        exact .cons (htest _ l ht) hstep (ih he)
      · cases he

theorem Reaches.trace {s s' : S} {ls : List L} (h : Reaches T G s) (ht : Trace T G s ls s') : Reaches T G s' := by
  induction ht with
  | nil => exact h
  | cons hg hs _ ih => exact ih (.step h hg hs)

theorem Reaches.exec {init : S → Prop} {next : S → L → Option S} {test : S → L → Bool}
    (htest : ∀ s l, test s l = true → G s l) {s s' : S} {ls : List L} (h : Reaches (ofStep init next) G s)
    (he : System.exec next test s ls = some s') : Reaches (ofStep init next) G s' :=
  h.trace (.of_exec htest he)

theorem Reaches.trans {init : S → Prop} {next : S → L → Option S} {s s' : S} (h : Reaches (ofStep init next) G s)
    (h' : Reaches (ofStep (· = s) next) G s') : Reaches (ofStep init next) G s' := by
  induction h' with
  | init he => exact he ▸ h
  | step _ hg hs ih => exact .step ih hg hs

theorem Trace.potential {I : S → Prop} {weight : L → Nat} {store : S → Nat}
    (hstep : ∀ s l s', I s → G s l → T.step s l s' → I s' ∧ weight l + store s' ≤ store s) {s s' : S} {ls : List L}
    (h : Trace T G s ls s') (hi : I s) : I s' ∧ (ls.map weight).sum + store s' ≤ store s := by
  induction h with
  | nil s => exact ⟨hi, by simp⟩
  | cons hg hs _ ih =>
      obtain ⟨hi', hle⟩ := hstep _ _ _ hi hg hs
      obtain ⟨hi'', hle'⟩ := ih hi'
      refine ⟨hi'', ?_⟩
      rw [List.map_cons, List.sum_cons]
      omega

end System

end Nightjar.Lib
