import Mathlib.Logic.Function.Basic

namespace Nightjar.Lib

inductive WorkStage (ν : Type) where
  | taken
  | read (v : Option ν)

/-- The work queue of a controller with one worker: what its cache holds, the changes of the cache that
no handler has been told of yet, the keys that wait, and the key that is worked on. -/
structure WorkQueue (κ ν : Type) where
  cache : κ → Option ν := fun _ => none
  untold : List κ := []
  dirty : List κ := []
  active : Option (κ × WorkStage ν) := none

namespace WorkQueue

variable {κ ν μ : Type} [DecidableEq κ]

/-- A key waits once, however often it is added. -/
def mark (q : WorkQueue κ ν) (k : κ) : WorkQueue κ ν :=
  { q with dirty := if k ∈ q.dirty then q.dirty else q.dirty ++ [k] }

inductive Action (κ ν : Type) where
  | change (k : κ) (v : Option ν)
  | enqueue
  | take
  | read
  | retry

def next (q : WorkQueue κ ν) : Action κ ν → Option (WorkQueue κ ν)
  | .change k v => some { q with cache := Function.update q.cache k v, untold := q.untold ++ [k] }
  | .enqueue =>
      match q.untold with
      | [] => none
      | k :: rest => some { q.mark k with untold := rest }
  | .take =>
      match q.active, q.dirty with
      | none, k :: rest => some { q with dirty := rest, active := some (k, .taken) }
      | _, _ => none
  | .read =>
      match q.active with
      | some (k, .taken) => some { q with active := some (k, .read (q.cache k)) }
      | _ => none
  | .retry =>
      match q.active with
      | some (k, _) => some { q.mark k with active := none }
      | none => none

def finish (q : WorkQueue κ ν) : Option (WorkQueue κ ν × κ × Option ν) :=
  match q.active with
  | some (k, .read v) => some ({ q with active := none }, k, v)
  | _ => none

def Waits (q : WorkQueue κ ν) (k : κ) : Prop := k ∈ q.untold ∨ k ∈ q.dirty

def outcome (f : ν → μ) (view : κ → Option μ) (q : WorkQueue κ ν) (k : κ) : Option μ :=
  match q.active with
  | none => view k
  | some (k', .taken) => if k = k' then (q.cache k).map f else view k
  | some (k', .read v) => if k = k' then v.map f else view k

/-- What is made of a key that does not wait is what the cache asks for. -/
def Tracks (f : ν → μ) (view : κ → Option μ) (q : WorkQueue κ ν) : Prop :=
  ∀ k, q.outcome f view k = (q.cache k).map f ∨ q.Waits k

/-- Nothing is waiting or worked on. -/
structure Settled (q : WorkQueue κ ν) : Prop where
  untold : q.untold = []
  dirty : q.dirty = []
  active : q.active = none

variable {q q' : WorkQueue κ ν} {f : ν → μ} {view view' : κ → Option μ} {k : κ} {v : Option ν}

theorem mem_dirty_mark {k' : κ} : k' ∈ (q.mark k).dirty ↔ k' ∈ q.dirty ∨ k' = k := by
  rw [mark]
  dsimp only
  split
  · rename_i hk
    constructor
    · exact .inl
    · rintro (h | rfl)
      · exact h
      · exact hk
  · rw [List.mem_append, List.mem_singleton]

omit [DecidableEq κ] in
theorem finish_eq_some (h : q.finish = some (q', k, v)) :
    q.active = some (k, .read v) ∧ q' = { q with active := none } := by
  rw [finish] at h
  split at h
  · rename_i hactive
    cases h
    exact ⟨hactive, rfl⟩
  · cases h

inductive Step (q : WorkQueue κ ν) : WorkQueue κ ν → Prop
  | change (k : κ) (v : Option ν) :
      Step q { q with cache := Function.update q.cache k v, untold := q.untold ++ [k] }
  | enqueue {k : κ} {rest : List κ} (h : q.untold = k :: rest) : Step q { q.mark k with untold := rest }
  | take {k : κ} {rest : List κ} (hactive : q.active = none) (hdirty : q.dirty = k :: rest) :
      Step q { q with dirty := rest, active := some (k, .taken) }
  | read {k : κ} (h : q.active = some (k, .taken)) : Step q { q with active := some (k, .read (q.cache k)) }
  | retry {k : κ} {stage : WorkStage ν} (h : q.active = some (k, stage)) : Step q { q.mark k with active := none }

theorem step_of_next {a : Action κ ν} (h : q.next a = some q') : q.Step q' := by
  cases a with
  | change k v =>
      cases h
      exact .change k v
  | enqueue =>
      rw [next] at h
      split at h
      · cases h
      · rename_i huntold
        cases h
        exact .enqueue huntold
  | take =>
      rw [next] at h
      split at h
      · rename_i hactive hdirty
        cases h
        exact .take hactive hdirty
      · cases h
  | read =>
      rw [next] at h
      split at h
      · rename_i hactive
        cases h
        exact .read hactive
      · cases h
  | retry =>
      rw [next] at h
      split at h
      · rename_i hactive
        cases h
        exact .retry hactive
      · cases h

theorem Tracks.step (h : Tracks f view q) (hs : q.Step q') : Tracks f view q' := by
  intro k
  cases hs with
  | change k' v =>
      by_cases hk : k = k'
      · exact .inr (.inl (List.mem_append_right _ (List.mem_singleton.mpr hk)))
      · refine (h k).imp ?_ (Or.imp_left (List.mem_append_left _))
        simp only [outcome, Function.update_of_ne hk]
        exact id
  | enqueue huntold =>
      refine (h k).imp_right ?_
      rintro (hk | hk)
      · rw [huntold, List.mem_cons] at hk
        rcases hk with rfl | hrest
        · exact .inr (mem_dirty_mark.mpr (.inr rfl))
        · exact .inl hrest
      · exact .inr (mem_dirty_mark.mpr (.inl hk))
  | take hactive hdirty =>
      rename_i k' rest
      have hk := h k
      rw [outcome, hactive, Waits, hdirty, List.mem_cons] at hk
      by_cases heq : k = k'
      · exact .inl (if_pos heq)
      · simpa [outcome, Waits, heq] using hk
  | read hactive =>
      have hk := h k
      rw [outcome, hactive] at hk
      refine hk.imp_left ?_
      simp only [outcome]
      split
      · rename_i heq
        rw [heq]
        exact id
      · exact id
  | retry hactive =>
      rename_i k' stage
      by_cases heq : k = k'
      · exact .inr (.inr (mem_dirty_mark.mpr (.inr heq)))
      · refine (h k).imp ?_ (Or.imp_right fun hk => mem_dirty_mark.mpr (.inl hk))
        cases stage <;> simp [outcome, hactive, heq, mark]

theorem Tracks.finish (h : Tracks f view q) (hfinish : q.finish = some (q', k, v))
    (hview : ∀ k', view' k' = if k' = k then v.map f else view k') : Tracks f view' q' := by
  obtain ⟨hactive, rfl⟩ := finish_eq_some hfinish
  intro k'
  have hk := h k'
  rw [outcome, hactive] at hk
  rwa [outcome, hview]

theorem Tracks.settled (h : Tracks f view q) (hq : q.Settled) (k : κ) : view k = (q.cache k).map f := by
  have hk := h k
  simpa [outcome, Waits, hq.untold, hq.dirty, hq.active] using hk

end WorkQueue

end Nightjar.Lib
