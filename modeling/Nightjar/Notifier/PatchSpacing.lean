import Nightjar.Notifier.AnnotatorWorkers
import Nightjar.Lib.Cooldown

namespace Nightjar.Notifier

open Lib

def Stage.hold : Stage → Cooldown.Hold WorkloadKey
  | checked u | read u _ => .cleared u
  | patched u => .unrecorded u
  | _ => .free

/-- The annotator with a clock and the PATCH requests that succeeded, each with the time it was
issued, the latest first. -/
structure TimedAnnotator where
  world : AnnotatorWorld
  clock : Int
  issued : List (WorkloadKey × Int) := []

namespace TimedAnnotator

def reading : AnnotatorLabel → Option Int
  | .call _ now | .worker _ (.lookup now) | .worker _ (.fetch _ now) | .worker _ (.check now)
  | .worker _ (.process now) | .worker _ (.stamp now) => some now
  | _ => none

def patches (w : AnnotatorWorld) : AnnotatorLabel → Option WorkloadKey
  | .worker i (.patch (.ok _)) => (w.workers i).update
  | _ => none

/-- A step at a time. The clock does not go back, and who reads it gets the time of the step. -/
def next (s : TimedAnnotator) (l : Int × AnnotatorLabel) : Option TimedAnnotator :=
  if s.clock ≤ l.1 ∧ (reading l.2).all (· = l.1) then
    (s.world.next l.2).map (fun w => ⟨w, l.1, (patches s.world l.2).toList.map (·, l.1) ++ s.issued⟩)
  else none

structure Initial (s : TimedAnnotator) : Prop where
  world : s.world.Initial
  issued : s.issued = []

def system : System TimedAnnotator (Int × AnnotatorLabel) := .ofStep Initial next

/-- The part of a step in which a worker turns to another stage leaves what it has alone. -/
def Keeps (st st' : Stage) : Prop := st'.hold = st.hold ∨ st'.hold = .free ∧ ∃ k, st.hold = .cleared k

/-- What a step does to the last-patch times, to the workers that have a workload and to the
requests issued. -/
inductive Step (s : TimedAnnotator) (t : Int) (l : AnnotatorLabel) : TimedAnnotator → Prop
  | quiet {w : AnnotatorWorld} (hduration : w.wa.debounceDuration = s.world.wa.debounceDuration)
      (hlast : w.wa.lastPatch = s.world.wa.lastPatch) (hkeeps : ∀ j, Keeps (s.world.workers j) (w.workers j)) :
      Step s t l ⟨w, t, s.issued⟩
  | pass {i : Nat} {u : WorkloadKey} (hl : l = .worker i (.process t)) (h : s.world.workers i = .took u)
      (hd : s.world.wa.debounced u t = false) : Step s t l ⟨s.world.put i (.checked u), t, s.issued⟩
  | issue {i : Nat} {u : WorkloadKey} {snap : Snapshot} (h : s.world.workers i = .read u snap)
      (patched : WorkloadKey → Option Snapshot) :
      Step s t l ⟨{ s.world with patched := patched }.put i (.patched u), t, (u, t) :: s.issued⟩
  | stamp {i : Nat} {u : WorkloadKey} (h : s.world.workers i = .patched u) :
      Step s t l ⟨{ s.world with wa := s.world.wa.stamp u t }.put i .idle, t, s.issued⟩

end TimedAnnotator

namespace WorkloadAnnotator

theorem queue_lastPatch (wa : WorkloadAnnotator) (u : WorkloadKey) :
    (wa.queue u).debounceDuration = wa.debounceDuration ∧ (wa.queue u).lastPatch = wa.lastPatch := by
  unfold queue
  split <;> exact ⟨rfl, rfl⟩

theorem queueAll_lastPatch (wa : WorkloadAnnotator) (us : List WorkloadKey) :
    (wa.queueAll us).debounceDuration = wa.debounceDuration ∧ (wa.queueAll us).lastPatch = wa.lastPatch := by
  induction us generalizing wa with
  | nil => exact ⟨rfl, rfl⟩
  | cons u us ih =>
      obtain ⟨hduration, hlast⟩ := ih (wa.queue u)
      exact ⟨hduration.trans (wa.queue_lastPatch u).1, hlast.trans (wa.queue_lastPatch u).2⟩

end WorkloadAnnotator

namespace TimedAnnotator

variable {s s' : TimedAnnotator}

theorem Step.quietly {t : Int} {l : AnnotatorLabel} {w : AnnotatorWorld} {i : Nat} {st : Stage}
    (hworkers : w.workers = s.world.workers) (hwa : w.wa.debounceDuration = s.world.wa.debounceDuration ∧
      w.wa.lastPatch = s.world.wa.lastPatch)
    (hkeeps : Keeps (s.world.workers i) st) : Step s t l ⟨w.put i st, t, s.issued⟩ := by
  refine .quiet hwa.1 hwa.2 ?_
  intro j
  by_cases hj : j = i
  · rw [hj, AnnotatorWorld.workers_put_self]
    exact hkeeps
  · rw [AnnotatorWorld.workers_put_of_ne w hj, hworkers]
    exact .inl rfl

theorem step_of_work {t : Int} {i : Nat} {a : Action} {w : AnnotatorWorld} {st : Stage}
    (hread : (reading (.worker i a)).all (· = t)) (h : s.world.work (s.world.workers i) a = some (w, st)) :
    Step s t (.worker i a) ⟨w.put i st, t, (patches s.world (.worker i a)).toList.map (·, t) ++ s.issued⟩ := by
  have hwork := AnnotatorWorld.Work.of_eq_some h
  generalize hst : s.world.workers i = before at h hwork
  cases hwork with
  | take | listFailed | list | cached | uncached | fetch | debounce | pass | discard | read | patchFailed
  | announced | resolved =>
      exact .quietly rfl ⟨rfl, rfl⟩ (by simp [Keeps, hst, Stage.hold])
  | announce | send => exact .quietly rfl (WorkloadAnnotator.queue_lastPatch _ _) (by rw [hst]; exact .inl rfl)
  | @process u hu now =>
      have hnow : now = t := by simpa [reading] using hread
      subst hnow
      refine .pass rfl hst ?_
      rw [AnnotatorWorld.work, if_pos hu] at h
      split at h
      · cases h
      · exact Bool.not_eq_true _ ▸ ‹_›
  | patch u snap =>
      have hp : patches s.world (.worker i (.patch (.ok ()))) = some u := by rw [patches, hst]; rfl
      rw [hp]
      exact .issue hst _
  | stamp u now =>
      have hnow : now = t := by simpa [reading] using hread
      subst hnow
      exact .stamp hst

theorem step_of_next {l : Int × AnnotatorLabel} (h : s.next l = some s') : s.clock ≤ l.1 ∧ Step s l.1 l.2 s' := by
  obtain ⟨t, l⟩ := l
  unfold next at h
  split at h
  · rename_i ht
    refine ⟨ht.1, ?_⟩
    obtain ⟨w, hw, rfl⟩ := Option.map_eq_some_iff.mp h
    cases l with
    | mutate m =>
        cases hw
        exact .quiet rfl rfl (fun _ => .inl rfl)
    | callback i =>
        obtain ⟨d, -, rfl⟩ := Option.map_eq_some_iff.mp hw
        have hqueued := s.world.wa.queueAll_lastPatch (queuedUpdates d.1.constraint)
        exact .quiet hqueued.1 hqueued.2 (fun _ => .inl rfl)
    | call k now =>
        rw [AnnotatorWorld.next] at hw
        split at hw <;> cases hw <;> exact .quiet rfl rfl (fun _ => .inl rfl)
    | submit k =>
        rw [AnnotatorWorld.next] at hw
        split at hw
        · cases hw
          have hqueued := s.world.wa.queue_lastPatch k
          exact .quiet hqueued.1 hqueued.2 (fun _ => .inl rfl)
        · cases hw
    | worker i a =>
        obtain ⟨⟨w, st⟩, hwork, rfl⟩ := Option.map_eq_some_iff.mp hw
        exact step_of_work ht.2 hwork
  · cases h

/-- Two requests for one workload are at least the debounce duration apart. -/
def Spaced (s : TimedAnnotator) : Prop :=
  s.issued.Pairwise (fun later earlier => later.1 = earlier.1 →
    earlier.2 + s.world.wa.debounceDuration ≤ later.2)

/-- A worker checks a workload only while no worker is between its own check of it and the update
of the last-patch time. -/
def ChecksAlone (s : TimedAnnotator) (l : Int × AnnotatorLabel) : Prop :=
  match l.2 with
  | .worker i (.process _) => ∀ u, s.world.workers i = .took u → ∀ j, (s.world.workers j).hold.key ≠ some u
  | _ => True

def cooldown (s : TimedAnnotator) : Cooldown Nat WorkloadKey where
  pause := s.world.wa.debounceDuration
  clock := s.clock
  last := s.world.wa.lastPatch
  holds := Stage.hold ∘ s.world.workers
  log := s.issued.flatMap (fun e => [.ended e.1 e.2, .began e.1 e.2])

theorem spaced_of_recorded (h : s.cooldown.Recorded) : s.Spaced := by
  refine (List.pairwise_flatMap.mp h.spaced).2.imp ?_
  intro later earlier hspaced hkey
  exact hspaced (.began later.1 later.2) (by simp) (.ended earlier.1 earlier.2) (by simp) later.1 later.2 earlier.2
    rfl (by rw [hkey])

theorem recorded_of_initial (h : s.Initial) : s.cooldown.Recorded := by
  refine Cooldown.recorded_of_free ?_ ?_
  · intro i
    rw [cooldown, h.world.workers]
    rfl
  · rw [cooldown, h.issued]
    rfl

theorem hold_put (w : AnnotatorWorld) (i : Nat) (st : Stage) :
    Stage.hold ∘ (w.put i st).workers = Function.update (Stage.hold ∘ w.workers) i st.hold :=
  Function.comp_update ..

theorem recorded_step {l : Int × AnnotatorLabel} (h : s.cooldown.Recorded) (hg : s.ChecksAlone l)
    (hs : s.next l = some s') : s'.cooldown.Recorded := by
  obtain ⟨ht, hstep⟩ := step_of_next hs
  cases hstep with
  | quiet hduration hlast hkeeps =>
      rw [cooldown, hduration, hlast]
      exact h.step ht (.quiet hkeeps)
  | pass hl hst hd =>
      rw [ChecksAlone, hl] at hg
      rw [cooldown, hold_put]
      exact h.step ht (.clear (congrArg Stage.hold hst) hd (hg _ hst))
  | issue hst patched =>
      have hhold : s.cooldown.holds _ = .cleared _ := congrArg Stage.hold hst
      rw [cooldown, hold_put]
      exact (h.step ht (.start hhold)).step (Int.le_refl _) (.finish hhold)
  | stamp hst =>
      rw [cooldown, hold_put]
      exact h.step ht (.record (congrArg Stage.hold hst))

/-- Where no two workers hold one workload, its patches keep their distance. -/
theorem patches_spaced (h : system.Reaches ChecksAlone s) : s.Spaced := by
  apply spaced_of_recorded
  exact h.invariant (I := fun s => s.cooldown.Recorded) (fun _ => recorded_of_initial) (fun _ _ _ => recorded_step)

def ofFirstWorker : AnnotatorLabel → Bool
  | .worker i _ => decide (i = 0)
  | _ => true

def OneWorker (_ : TimedAnnotator) (l : Int × AnnotatorLabel) : Prop := ofFirstWorker l.2 = true

instance (s : TimedAnnotator) (l : Int × AnnotatorLabel) : Decidable (s.OneWorker l) :=
  inferInstanceAs (Decidable (_ = true))

theorem workers_next {l : Int × AnnotatorLabel} (hg : s.OneWorker l) (hs : s.next l = some s') {j : Nat} (hj : j ≠ 0) :
    s'.world.workers j = s.world.workers j := by
  obtain ⟨t, l⟩ := l
  unfold next at hs
  split at hs
  · obtain ⟨w, hw, rfl⟩ := Option.map_eq_some_iff.mp hs
    cases l with
    | mutate m =>
        cases hw
        rfl
    | callback i =>
        obtain ⟨d, -, rfl⟩ := Option.map_eq_some_iff.mp hw
        rfl
    | call k now =>
        rw [AnnotatorWorld.next] at hw
        split at hw <;> cases hw <;> rfl
    | submit k =>
        rw [AnnotatorWorld.next] at hw
        split at hw <;> cases hw
        rfl
    | worker i a =>
        obtain ⟨⟨w, st⟩, hwork, rfl⟩ := Option.map_eq_some_iff.mp hw
        have hi : i = 0 := of_decide_eq_true hg
        rw [AnnotatorWorld.workers_put_of_ne w (hi ▸ hj), (AnnotatorWorld.Work.of_eq_some hwork).workers_eq]
  · cases hs

theorem reaches_of_oneWorker (h : system.Reaches OneWorker s) :
    system.Reaches ChecksAlone s ∧ ∀ j, j ≠ 0 → s.world.workers j = .idle := by
  induction h with
  | init h => exact ⟨.init h, fun j _ => by rw [h.world.workers]⟩
  | @step s s' l _ hg hs ih =>
      obtain ⟨hreach, hidle⟩ := ih
      refine ⟨.step hreach ?_ hs, fun j hj => (workers_next hg hs hj).trans (hidle j hj)⟩
      unfold ChecksAlone
      split
      · rename_i i now hl
        have hi : i = 0 := by
          rw [OneWorker, hl] at hg
          exact of_decide_eq_true hg
        intro u hu j hold
        by_cases hj : j = 0
        · rw [hj, ← hi, hu] at hold
          cases hold
        · rw [hidle j hj] at hold
          cases hold
      · trivial

section Samples

def teamWeb : WorkloadKey := ⟨"team", "Deployment", "web"⟩

def freshAnnotator : TimedAnnotator := ⟨{ index := { start := .new }, wa := .new 0 }, 0, []⟩

theorem initial_freshAnnotator : freshAnnotator.Initial := ⟨⟨⟨rfl, rfl, rfl⟩, rfl, rfl⟩, rfl⟩

def listsWeb (kind : String) : Except String (List String) := .ok (if kind = "Deployment" then ["web"] else [])

def twoUpdates : List AnnotatorLabel :=
  [.mutate (.upsert (sampleConstraint "team")), .callback 0, .mutate (.upsert (sampleConstraint "team")), .callback 0,
    .worker 0 .take, .worker 0 (.lookup 0), .worker 0 (.fetch listsWeb 0), .worker 0 (.check 0), .worker 0 .send,
    .worker 0 .finish, .worker 0 .take, .worker 0 (.lookup 0), .worker 0 (.check 0), .worker 0 .send, .worker 0 .finish]

def bothCheck : List AnnotatorLabel :=
  [.worker 0 .take, .worker 1 .take, .worker 0 (.process 0), .worker 1 (.process 0), .worker 0 .read,
    .worker 0 (.patch (.ok ())), .worker 0 (.stamp 0), .worker 1 .read, .worker 1 (.patch (.ok ())),
    .worker 1 (.stamp 0)]

def patchAgain : List (Int × AnnotatorLabel) :=
  [(0, .worker 0 .take), (0, .worker 0 (.process 0)), (0, .worker 0 .read), (1, .worker 0 (.patch (.ok ()))),
    (2, .worker 0 (.stamp 2)), (2, .worker 0 .take), (30 * 1000000000 + 2, .worker 0 (.process (30 * 1000000000 + 2))),
    (30 * 1000000000 + 2, .worker 0 .read), (30 * 1000000000 + 2, .worker 0 (.patch (.ok ())))]

def atOnce (ls : List AnnotatorLabel) : List (Int × AnnotatorLabel) := ls.map (0, ·)

theorem bothCheck_runs :
    (System.exec next (fun _ _ => true) freshAnnotator (atOnce (twoUpdates ++ bothCheck))).isSome = true := by
  decide +kernel

def patchedTwice : TimedAnnotator :=
  (System.exec next (fun _ _ => true) freshAnnotator (atOnce (twoUpdates ++ bothCheck))).get bothCheck_runs

theorem patches_not_spaced :
    system.Reachable patchedTwice ∧ patchedTwice.issued = [(teamWeb, 0), (teamWeb, 0)] ∧
      patchedTwice.world.wa.debounceDuration = 30 * 1000000000 ∧ ¬ patchedTwice.Spaced := by
  have hissued : patchedTwice.issued = [(teamWeb, 0), (teamWeb, 0)] := by decide +kernel
  have hduration : patchedTwice.world.wa.debounceDuration = 30 * 1000000000 := by decide +kernel
  refine ⟨?_, hissued, hduration, ?_⟩
  · exact (System.Reaches.init initial_freshAnnotator).exec (fun _ _ _ => trivial)
      (Option.some_get bothCheck_runs).symm
  · rw [Spaced, hissued, hduration]
    decide

theorem patchAgain_runs :
    (System.exec next (fun s l => decide (s.OneWorker l)) freshAnnotator
      (atOnce twoUpdates ++ patchAgain)).isSome = true := by
  decide +kernel

def patchedAgain : TimedAnnotator :=
  (System.exec next (fun s l => decide (s.OneWorker l)) freshAnnotator (atOnce twoUpdates ++ patchAgain)).get
    patchAgain_runs

theorem patches_spaced_again :
    patchedAgain.issued = [(teamWeb, 30 * 1000000000 + 2), (teamWeb, 1)] ∧ patchedAgain.Spaced := by
  refine ⟨by decide +kernel, patches_spaced (reaches_of_oneWorker ?_).1⟩
  exact (System.Reaches.init initial_freshAnnotator).exec (fun _ _ => of_decide_eq_true)
    (Option.some_get patchAgain_runs).symm

end Samples

end TimedAnnotator

end Nightjar.Notifier
