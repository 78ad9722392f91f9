import Nightjar.Notifier.ReportReconciler
import Nightjar.Notifier.Triggers
import Nightjar.Lib.Cooldown
import Nightjar.Lib.Runs

namespace Nightjar.Notifier

open Lib

/-- Where the one goroutine of the reconciler stands, with the triggers it has not visited. -/
inductive LoopPhase where
  | waiting
  | taken (triggers : Finset String) (clusterWide : Bool)
  | loop (triggers : Finset String)
  | debounced (ns : String) (triggers : Finset String)
  | passed (ns : String) (triggers : Finset String)
  | reconciling (ns : String) (triggers : Finset String)
  | succeeded (ns : String) (triggers : Finset String)

/-- The reconciler with a clock. The log holds the starts of reconciles and the completions of
those that succeeded, the latest first. -/
structure ReconcileLoop where
  rr : ReportReconciler
  phase : LoopPhase := .waiting
  clock : Int
  log : List (Cooldown.Event String) := []

inductive LoopLabel where
  | onIndexChange (event : IndexEvent)
  | take
  | list (answer : Except String (List String))
  | skipList
  | check (ns : String)
  | requeue
  | start
  | complete (answers : ReportAnswers)
  | stamp
  | finish

namespace ReconcileLoop

/-- A step of `processPendingTriggers` or of a callback at the time `t`. -/
def advance (s : ReconcileLoop) (t : Int) (l : LoopLabel) : Option ReconcileLoop :=
  match l, s.phase with
  | .onIndexChange event, _ => some { s with rr := s.rr.onIndexChange event }
  | .take, .waiting =>
      some { s with rr := s.rr.taken, phase := .taken s.rr.pendingTriggers s.rr.clusterWideTriggered }
  | .list answer, .taken triggers true =>
      if s.rr.dynamicClient then
        match answer with
        | .error _ => some { s with phase := .loop triggers }
        | .ok items => some { s with phase := .loop (triggers ∪ items.toFinset) }
      else none
  | .skipList, .taken triggers clusterWide =>
      if clusterWide && s.rr.dynamicClient then none else some { s with phase := .loop triggers }
  | .check ns, .loop triggers =>
      if ns ∈ triggers then
        if s.rr.debounced ns t then some { s with phase := .debounced ns (triggers.erase ns) }
        else some { s with phase := .passed ns (triggers.erase ns) }
      else none
  | .requeue, .debounced ns triggers => some { s with rr := s.rr.requeue ns, phase := .loop triggers }
  | .start, .passed ns triggers =>
      some { s with phase := .reconciling ns triggers, log := .began ns t :: s.log }
  | .complete answers, .reconciling ns triggers =>
      match reconcileNamespace answers with
      | .error _ => some { s with phase := .loop triggers }
      | .ok _ => some { s with phase := .succeeded ns triggers, log := .ended ns t :: s.log }
  | .stamp, .succeeded ns triggers => some { s with rr := s.rr.stamp ns t, phase := .loop triggers }
  | .finish, .loop triggers => if triggers = ∅ then some { s with phase := .waiting } else none
  | _, _ => none

def next (s : ReconcileLoop) (l : Int × LoopLabel) : Option ReconcileLoop :=
  if s.clock ≤ l.1 then (s.advance l.1 l.2).map (fun s' => { s' with clock := l.1 }) else none

structure Initial (s : ReconcileLoop) : Prop where
  phase : s.phase = .waiting
  log : s.log = []

def system : System ReconcileLoop (Int × LoopLabel) := .ofStep Initial next

/-- The namespace that the goroutine has, from its check to the update of the time. -/
def hold : LoopPhase → Cooldown.Hold String
  | .passed ns _ | .reconciling ns _ => .cleared ns
  | .succeeded ns _ => .unrecorded ns
  | _ => .free

def cooldown (s : ReconcileLoop) : Cooldown Unit String where
  pause := s.rr.debounceDuration
  clock := s.clock
  last := s.rr.lastReconcile
  holds _ := hold s.phase
  log := s.log

variable {s s' : ReconcileLoop}

theorem recorded_of_initial (h : s.Initial) : s.cooldown.Recorded := by
  refine Cooldown.recorded_of_free ?_ h.log
  intro _
  rw [cooldown, h.phase]
  rfl

theorem onIndexChange_times (rr : ReportReconciler) (event : IndexEvent) :
    (rr.onIndexChange event).debounceDuration = rr.debounceDuration ∧
      (rr.onIndexChange event).lastReconcile = rr.lastReconcile := by
  unfold ReportReconciler.onIndexChange
  split <;> exact ⟨rfl, rfl⟩

theorem step_quiet {t : Int} {rr : ReportReconciler} {phase : LoopPhase}
    (htimes : rr.debounceDuration = s.rr.debounceDuration ∧ rr.lastReconcile = s.rr.lastReconcile)
    (hhold : hold phase = hold s.phase ∨ hold phase = .free ∧ ∃ ns, hold s.phase = .cleared ns) :
    Cooldown.Step s.cooldown t (cooldown ⟨rr, phase, t, s.log⟩) := by
  have hstep : Cooldown.Step s.cooldown t { s.cooldown with clock := t, holds := fun _ => hold phase } :=
    .quiet (fun _ => hhold)
  have he : cooldown ⟨rr, phase, t, s.log⟩ = { s.cooldown with clock := t, holds := fun _ => hold phase } := by
    simp only [cooldown, htimes]
  rwa [he]

theorem update_holds (s : ReconcileLoop) (hold : Cooldown.Hold String) :
    Function.update s.cooldown.holds () hold = fun _ => hold := by
  funext i
  exact Function.update_self ..

section Holds
variable {t : Int} {ns : String}

theorem step_clear (h : hold s.phase = .free) (hd : s.rr.debounced ns t = false) :
    Cooldown.Step s.cooldown t { s.cooldown with clock := t, holds := fun _ => .cleared ns } := by
  have halone : ∀ j, (s.cooldown.holds j).key ≠ some ns := by
    intro j hj
    rw [cooldown, h] at hj
    cases hj
  rw [← update_holds]
  exact .clear h hd halone

theorem step_finish (h : hold s.phase = .cleared ns) :
    Cooldown.Step s.cooldown t
      { s.cooldown with clock := t, holds := fun _ => .unrecorded ns, log := .ended ns t :: s.log } := by
  rw [← update_holds]
  exact .finish h

theorem step_record (h : hold s.phase = .unrecorded ns) :
    Cooldown.Step s.cooldown t
      { s.cooldown with clock := t, last := s.rr.lastReconcile.insert ns t, holds := fun _ => .free } := by
  rw [← update_holds]
  exact .record h

end Holds

theorem step_of_advance {t : Int} {l : LoopLabel} (h : s.advance t l = some s') :
    Cooldown.Step s.cooldown t (cooldown { s' with clock := t }) := by
  unfold advance at h
  split at h
  · cases h
    exact step_quiet (onIndexChange_times _ _) (.inl rfl)
  · rename_i hp
    cases h
    exact step_quiet ⟨rfl, rfl⟩ (.inl (congrArg hold hp).symm)
  · rename_i hp
    split at h
    · split at h <;> cases h <;> exact step_quiet ⟨rfl, rfl⟩ (.inl (congrArg hold hp).symm)
    · cases h
  · rename_i hp
    split at h
    · cases h
    · cases h
      exact step_quiet ⟨rfl, rfl⟩ (.inl (congrArg hold hp).symm)
  · rename_i hp
    split at h
    · split at h
      · cases h
        exact step_quiet ⟨rfl, rfl⟩ (.inl (congrArg hold hp).symm)
      · rename_i hd
        cases h
        exact step_clear (congrArg hold hp) (Bool.not_eq_true _ ▸ hd)
    · cases h
  · rename_i hp
    cases h
    exact step_quiet ⟨rfl, rfl⟩ (.inl (congrArg hold hp).symm)
  · rename_i ns triggers hp
    cases h
    have hcleared : s.cooldown.holds () = .cleared ns := congrArg hold hp
    have hstep := Cooldown.Step.start (t := t) hcleared
    have hholds : s.cooldown.holds = fun _ => .cleared ns := funext fun _ => hcleared
    rw [hholds] at hstep
    exact hstep
  · rename_i ns triggers hp
    split at h
    · cases h
      exact step_quiet ⟨rfl, rfl⟩ (.inr ⟨rfl, ns, congrArg hold hp⟩)
    · cases h
      exact step_finish (congrArg hold hp)
  · rename_i hp
    cases h
    exact step_record (congrArg hold hp)
  · rename_i hp
    split at h
    · cases h
      exact step_quiet ⟨rfl, rfl⟩ (.inl (congrArg hold hp).symm)
    · cases h
  · cases h

theorem recorded_step {l : Int × LoopLabel} (h : s.cooldown.Recorded) (hs : s.next l = some s') :
    s'.cooldown.Recorded := by
  unfold next at hs
  split at hs
  · rename_i ht
    obtain ⟨s'', hadvance, rfl⟩ := Option.map_eq_some_iff.mp hs
    exact h.step ht (step_of_advance hadvance)
  · cases hs

theorem recorded_of_reachable (h : system.Reachable s) : s.cooldown.Recorded :=
  h.invariant (I := fun s => s.cooldown.Recorded) (fun _ => recorded_of_initial)
    (fun _ _ _ hrec _ hs => recorded_step hrec hs)

/-- Whatever the callbacks, the API and the clock do, a reconcile of a namespace starts no earlier
than the debounce duration after every completion of a successful one before it. -/
theorem reconcile_debounced (h : system.Reachable s) {ns : String} {t t' : Int}
    {later earlier : List (Cooldown.Event String)} (hlog : s.log = later ++ .began ns t :: earlier)
    (hended : .ended ns t' ∈ earlier) : t' + s.rr.debounceDuration ≤ t := by
  have hspaced : Cooldown.Spaced s.rr.debounceDuration s.log := (recorded_of_reachable h).spaced
  rw [hlog, Cooldown.Spaced, List.pairwise_append, List.pairwise_cons] at hspaced
  exact hspaced.2.1.1 _ hended ns t t' rfl rfl

section Samples

def started : ReconcileLoop := { rr := .new 0 true, clock := 0 }

theorem initial_started : started.Initial := ⟨rfl, rfl⟩

def created : ReportAnswers := ⟨.notFound, .ok (), .ok ()⟩

def failed : ReportAnswers := ⟨.failed "timeout", .ok (), .ok ()⟩

def twoReconciles : List (Int × LoopLabel) :=
  [(0, .onIndexChange ⟨.upsert, sampleConstraint "team"⟩), (5, .take), (5, .skipList), (5, .check "team"), (5, .start),
    (6, .onIndexChange ⟨.upsert, sampleConstraint "team"⟩), (7, .complete failed), (7, .finish),
    (8, .take), (8, .skipList), (8, .check "team"), (8, .start), (9, .complete created), (10, .stamp), (10, .finish),
    (11, .onIndexChange ⟨.upsert, sampleConstraint "team"⟩), (12, .take), (12, .skipList), (12, .check "team"),
    (12, .requeue), (12, .finish), (10 * 1000000000 + 10, .take), (10 * 1000000000 + 10, .skipList),
    (10 * 1000000000 + 10, .check "team"), (10 * 1000000000 + 11, .start)]

theorem twoReconciles_runs : (System.exec next (fun _ _ => true) started twoReconciles).isSome = true := by
  decide +kernel

def reconciledTwice : ReconcileLoop :=
  (System.exec next (fun _ _ => true) started twoReconciles).get twoReconciles_runs

theorem reconcile_debounced_twice :
    reconciledTwice.log =
        [] ++ .began "team" (10 * 1000000000 + 11) :: [.ended "team" 9, .began "team" 8, .began "team" 5] ∧
      9 + reconciledTwice.rr.debounceDuration ≤ 10 * 1000000000 + 11 := by
  have hlog : reconciledTwice.log =
      [] ++ .began "team" (10 * 1000000000 + 11) :: [.ended "team" 9, .began "team" 8, .began "team" 5] := by
    with_unfolding_all rfl
  refine ⟨hlog, reconcile_debounced ?_ hlog List.mem_cons_self⟩
  exact (System.Reaches.init initial_started).exec (fun _ _ _ => trivial) (Option.some_get twoReconciles_runs).symm

end Samples

end ReconcileLoop

end Nightjar.Notifier
