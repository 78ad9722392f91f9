import Nightjar.Notifier.AnnotatorWorkers

namespace Nightjar.Notifier

open Lib

/-- The annotator while `Start` shuts it down. Each call of `OnIndexChange` that was
made is kept as the sends it has ahead of it, and `left` lists the workers that have
returned. A send on the closed channel panics and ends the process. -/
structure AnnotatorShutdown where
  world : AnnotatorWorld
  notifying : List (List WorkloadKey) := []
  cancelled : Bool := false
  closed : Bool := false
  left : List Nat := []
  panicked : Bool := false

inductive ShutdownLabel where
  | mutate (m : Mutation)
  | callback (i : Nat)
  | notify (j : Nat)
  | worker (i : Nat) (a : Action)
  | cancel
  | close
  | leave (i : Nat)

def Stage.sends : Stage → Action → Option WorkloadKey
  | .namespaces _ (ns :: _), .announce => some (.ofNamespace ns)
  | .sending _ k _, .send => some k
  | _, _ => none

def Stage.Quiet : Stage → Prop
  | .took u => u.IsWorkload
  | .namespaces _ rest => rest = []
  | .workloads _ rest => rest = []
  | .fetching _ | .sending _ _ _ => False
  | .idle | .checked _ | .read _ _ | .patched _ => True

namespace AnnotatorShutdown

def next (s : AnnotatorShutdown) (l : ShutdownLabel) : Option AnnotatorShutdown :=
  if s.panicked then none
  else match l with
  | .mutate m => (s.world.next (.mutate m)).map (fun w => { s with world := w })
  | .callback i => (s.world.index.deliver i).map (fun d =>
      { s with
        world := { s.world with index := d.2 }
        notifying := queuedUpdates d.1.constraint :: s.notifying })
  | .notify j =>
      match s.notifying[j]? with
      | some (u :: rest) =>
          -- a ready case of the select, also when the channel is full
          if s.closed then some { s with panicked := true }
          else some
            { s with
              world := { s.world with wa := s.world.wa.queue u }
              notifying := s.notifying.set j rest }
      | _ => none
  | .worker i a =>
      if i ∈ s.left then none
      else if s.closed ∧ ((s.world.workers i).sends a).isSome then some { s with panicked := true }
      else (s.world.next (.worker i a)).map (fun w => { s with world := w })
  | .cancel => some { s with cancelled := true }
  | .close => if s.cancelled ∧ ¬ s.closed then some { s with closed := true } else none
  | .leave i =>
      -- both cases of the worker's select return only after the cancellation
      match s.world.workers i with
      | .idle => if s.cancelled then some { s with left := i :: s.left } else none
      | _ => none

structure Initial (s : AnnotatorShutdown) : Prop where
  world : s.world.Initial
  notifying : s.notifying = []
  closed : s.closed = false
  panicked : s.panicked = false

def system : System AnnotatorShutdown ShutdownLabel := .ofStep Initial next

/-- Nothing that still runs will send to the channel. -/
structure Drained (s : AnnotatorShutdown) : Prop where
  pending : ∀ u ∈ s.world.wa.pending, u.IsWorkload
  workers : ∀ i, (s.world.workers i).Quiet
  notifying : ∀ us ∈ s.notifying, us = []

/-- `Start` closes the channel only when it is drained, and `OnIndexChange` is not
called after that. -/
def Orderly (s : AnnotatorShutdown) : ShutdownLabel → Prop
  | .callback _ => s.closed = false
  | .close => s.Drained
  | _ => True

end AnnotatorShutdown

variable {st st' : Stage} {a : Action}

theorem Stage.Quiet.sends (h : st.Quiet) (a : Action) : st.sends a = none := by
  cases st with
  | namespaces u rest =>
      cases h
      rfl
  | sending => exact h.elim
  | _ => rfl

theorem AnnotatorWorld.Work.quiet {w w' : AnnotatorWorld} (h : Work w st a w' st') (hst : st.Quiet)
    (hpending : ∀ u ∈ w.wa.pending, u.IsWorkload) : st'.Quiet ∧ ∀ u ∈ w'.wa.pending, u.IsWorkload := by
  cases h with
  | take h =>
      rw [h] at hpending
      exact ⟨hpending _ List.mem_cons_self, fun u hu => hpending u (List.mem_cons_of_mem _ hu)⟩
  | listFailed h | list h => exact absurd h hst.1
  | cached h | uncached h =>
      rcases h.2 with hkind | hname
      · exact absurd hkind hst.2.1
      · exact absurd hname hst.2.2
  | announce | debounce | pass => cases hst
  | fetch | send => exact hst.elim
  | discard | process | read | patchFailed | patch | stamp | announced | resolved => exact ⟨trivial, hpending⟩

namespace AnnotatorShutdown

variable {s s' : AnnotatorShutdown} {l : ShutdownLabel}

inductive Step (s : AnnotatorShutdown) : ShutdownLabel → AnnotatorShutdown → Prop
  | mutate (m : Mutation) : Step s (.mutate m) { s with world := { s.world with index := s.world.index.mutate m } }
  | callback {i : Nat} {event : IndexEvent} {index : IndexLog} (h : s.world.index.deliver i = some (event, index)) :
      Step s (.callback i)
        { s with
          world := { s.world with index := index }
          notifying := queuedUpdates event.constraint :: s.notifying }
  | notify {j : Nat} {u : WorkloadKey} {rest : List WorkloadKey} (h : s.notifying[j]? = some (u :: rest))
      (hopen : s.closed = false) :
      Step s (.notify j)
        { s with world := { s.world with wa := s.world.wa.queue u }, notifying := s.notifying.set j rest }
  | notifyClosed {j : Nat} {u : WorkloadKey} {rest : List WorkloadKey} (h : s.notifying[j]? = some (u :: rest))
      (hclosed : s.closed = true) : Step s (.notify j) { s with panicked := true }
  | worker {i : Nat} {a : Action} {w : AnnotatorWorld} (h : s.world.next (.worker i a) = some w) :
      Step s (.worker i a) { s with world := w }
  | workerClosed {i : Nat} {a : Action} (h : (s.world.workers i).sends a ≠ none) (hclosed : s.closed = true) :
      Step s (.worker i a) { s with panicked := true }
  | cancel : Step s .cancel { s with cancelled := true }
  | close : Step s .close { s with closed := true }
  | leave (i : Nat) : Step s (.leave i) { s with left := i :: s.left }

theorem step_of_next (h : s.next l = some s') : Step s l s' := by
  unfold next at h
  split at h
  · cases h
  cases l with
  | mutate m =>
      cases h
      exact .mutate m
  | callback i =>
      obtain ⟨⟨event, index⟩, hd, rfl⟩ := Option.map_eq_some_iff.mp h
      exact .callback hd
  | notify j =>
      dsimp only at h
      split at h
      · rename_i hj
        split at h
        · rename_i hclosed
          cases h
          exact .notifyClosed hj hclosed
        · rename_i hopen
          cases h
          exact .notify hj (Bool.eq_false_iff.mpr hopen)
      · cases h
  | worker i a =>
      dsimp only at h
      split at h
      · cases h
      split at h
      · rename_i hsend
        cases h
        exact .workerClosed (Option.isSome_iff_ne_none.mp hsend.2) hsend.1
      · obtain ⟨w, hw, rfl⟩ := Option.map_eq_some_iff.mp h
        exact .worker hw
  | cancel =>
      cases h
      exact .cancel
  | close =>
      dsimp only at h
      split at h
      · cases h
        exact .close
      · cases h
  | leave i =>
      dsimp only at h
      split at h
      · split at h
        · cases h
          exact .leave i
        · cases h
      · cases h

theorem exec_notify (hopen : s.closed = false) (hrun : s.panicked = false) (us : List WorkloadKey)
    (calls : List (List WorkloadKey)) :
    System.exec next (fun _ _ => true) { s with notifying := us :: calls } (List.replicate us.length (.notify 0)) =
      some { s with world := { s.world with wa := s.world.wa.queueAll us }, notifying := [] :: calls } := by
  induction us generalizing s with
  | nil => rfl
  | cons u us ih =>
      have hsend : next { s with notifying := (u :: us) :: calls } (.notify 0) =
          some { s with world := { s.world with wa := s.world.wa.queue u }, notifying := us :: calls } := by
        simp [next, hopen, hrun]
      rw [List.length_cons, List.replicate_succ, System.exec, if_pos rfl, hsend]
      exact ih (s := { s with world := { s.world with wa := s.world.wa.queue u } }) hopen hrun

theorem exec_callback (hopen : s.closed = false) (hrun : s.panicked = false) {i : Nat} {event : IndexEvent}
    {index : IndexLog} (hd : s.world.index.deliver i = some (event, index)) :
    System.exec next (fun _ _ => true) s
        (.callback i :: List.replicate (queuedUpdates event.constraint).length (.notify 0)) =
      (s.world.next (.callback i)).map (fun w => { s with world := w, notifying := [] :: s.notifying }) := by
  have hcall : s.next (.callback i) =
      some { s with
        world := { s.world with index := index }
        notifying := queuedUpdates event.constraint :: s.notifying } := by
    simp [next, hrun, hd]
  rw [System.exec, if_pos rfl, hcall, AnnotatorWorld.next, hd]
  exact exec_notify (s := { s with world := { s.world with index := index } }) hopen hrun _ _

structure Safe (s : AnnotatorShutdown) : Prop where
  panicked : s.panicked = false
  drained : s.closed = true → s.Drained

theorem Drained.congr (h : s.Drained) (hwa : s'.world.wa = s.world.wa) (hworkers : s'.world.workers = s.world.workers)
    (hnotifying : s'.notifying = s.notifying) : s'.Drained :=
  ⟨hwa ▸ h.pending, hworkers ▸ h.workers, hnotifying ▸ h.notifying⟩

theorem Drained.worker (h : s.Drained) {i : Nat} {w : AnnotatorWorld} (hw : s.world.next (.worker i a) = some w) :
    Drained { s with world := w } := by
  obtain ⟨⟨w', st'⟩, hwork, rfl⟩ := Option.map_eq_some_iff.mp hw
  have hwork' := AnnotatorWorld.Work.of_eq_some hwork
  obtain ⟨hst, hpending⟩ := hwork'.quiet (h.workers i) h.pending
  refine ⟨hpending, fun j => ?_, h.notifying⟩
  by_cases hj : j = i
  · rw [hj, AnnotatorWorld.workers_put_self]
    exact hst
  · rw [AnnotatorWorld.workers_put_of_ne _ hj, hwork'.workers_eq]
    exact h.workers j

theorem Safe.step (h : s.Safe) (hg : s.Orderly l) (hs : Step s l s') : s'.Safe := by
  cases hs with
  | callback hd => exact ⟨h.panicked, fun hc => absurd hc (Bool.eq_false_iff.mp hg)⟩
  | notify hj hopen => exact ⟨h.panicked, fun hc => absurd hc (Bool.eq_false_iff.mp hopen)⟩
  | notifyClosed hj hclosed => cases (h.drained hclosed).notifying _ (List.mem_of_getElem? hj)
  | worker hw => exact ⟨h.panicked, fun hc => (h.drained hc).worker hw⟩
  | workerClosed hsend hclosed => exact absurd (((h.drained hclosed).workers _).sends _) hsend
  | close => exact ⟨h.panicked, fun _ => Drained.congr hg rfl rfl rfl⟩
  | mutate | cancel | leave => exact ⟨h.panicked, fun hc => (h.drained hc).congr rfl rfl rfl⟩

theorem safe_of_reaches (h : system.Reaches Orderly s) : s.Safe := by
  refine h.invariant (I := Safe) ?_ ?_
  · intro s hi
    exact ⟨hi.panicked, fun hc => absurd hc (Bool.eq_false_iff.mp hi.closed)⟩
  · intro s l s' hsafe hg hn
    exact hsafe.step hg (step_of_next hn)

/-- Where `Start` finds the channel drained when it closes it, and `OnIndexChange` is not
called later, nothing is ever sent on the closed channel. -/
theorem shutdown_never_panics (h : system.Reaches Orderly s) : s.panicked = false := (safe_of_reaches h).panicked

def started : AnnotatorShutdown := { world := { index := { start := .new }, wa := .new 0 } }

theorem initial_started : Initial started := ⟨⟨⟨rfl, rfl, rfl⟩, rfl, rfl⟩, rfl, rfl, rfl⟩

def listed (kind : String) : Except String (List String) := if kind = "Deployment" then .ok ["web"] else .ok []

def expanding : List ShutdownLabel :=
  [.mutate (.upsert (sampleConstraint "team")), .callback 0, .notify 0, .worker 0 .take, .worker 0 (.lookup 1),
    .worker 0 (.fetch listed 1), .worker 0 (.check 1)]

def untilClose (s : AnnotatorShutdown) : ShutdownLabel → Bool
  | .callback _ => !s.closed
  | .close => false
  | _ => true

theorem orderly_of_untilClose (s : AnnotatorShutdown) (l : ShutdownLabel) (h : s.untilClose l = true) :
    s.Orderly l := by
  cases l with
  | callback i => simpa [untilClose, Orderly] using h
  | close => cases h
  | _ => trivial

/-- The worker makes its send and finishes before the cancellation. -/
def drained : AnnotatorShutdown :=
  (System.exec next untilClose started (expanding ++ [.worker 0 .send, .worker 0 .finish, .cancel])).get (by decide)

theorem drained_drained : drained.Drained := by
  refine ⟨by decide, fun i => ?_, by decide⟩
  cases i <;> exact trivial

/-- After the close the worker still works off the update of the workload, and leaves. -/
def stopped : AnnotatorShutdown :=
  (System.exec next untilClose { drained with closed := true }
    [.worker 0 .take, .worker 0 (.process 1), .worker 0 .read, .worker 0 (.patch (.ok ())), .worker 0 (.stamp 1),
      .leave 0]).get (by decide)

theorem shutdown_never_panics_stopped :
    (stopped.world.patched ⟨"team", "Deployment", "web"⟩).isSome = true ∧ stopped.left = [0] ∧
      stopped.panicked = false := by
  have hdrained : system.Reaches Orderly drained :=
    .exec orderly_of_untilClose (.init initial_started) (Option.some_get _).symm
  have hclosed : system.Reaches Orderly { drained with closed := true } :=
    .step (l := .close) hdrained drained_drained rfl
  exact ⟨rfl, rfl, shutdown_never_panics (hclosed.exec orderly_of_untilClose (Option.some_get _).symm)⟩

def sentByWorker : AnnotatorShutdown :=
  (System.exec next (fun _ _ => true) started (expanding ++ [.cancel, .close, .worker 0 .send])).get (by decide)

def sentByCallback : AnnotatorShutdown :=
  (System.exec next (fun _ _ => true) started
    [.cancel, .close, .mutate (.upsert (sampleConstraint "team")), .callback 0, .notify 0]).get (by decide)

theorem shutdown_panics :
    (system.Reachable sentByWorker ∧ sentByWorker.panicked = true) ∧
      system.Reachable sentByCallback ∧ sentByCallback.panicked = true :=
  ⟨⟨.exec (fun _ _ _ => trivial) (.init initial_started) (Option.some_get _).symm, rfl⟩,
    .exec (fun _ _ _ => trivial) (.init initial_started) (Option.some_get _).symm, rfl⟩

end AnnotatorShutdown

end Nightjar.Notifier
