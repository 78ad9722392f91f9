import Nightjar.Notifier.ReportRuns
import Nightjar.Notifier.ReportStore

namespace Nightjar.Notifier

open Lib Lib.Strings

/-- The reconciler together with the reports as the API server stores them. -/
structure StoredWorld where
  world : ReportWorld
  store : ReportStore

/-- What a call of `ReconcileNamespace` meets: the order in which the map of the index is walked, the
workloads and the clock that it reads, and the answers of the server. -/
structure ReconcileCall where
  order : List Constraint → List Constraint := id
  perm : ∀ constraints, (order constraints).Perm constraints := by exact fun _ => .refl _
  workloads : Option (List WorkloadList) := none
  now : String
  get : GetAnswer
  answer : WriteAnswer

inductive StoredLabel where
  | own (l : ReportLabel)
  | reconcile (call : ReconcileCall)

def ReportLabel.isWrite : ReportLabel → Bool
  | .write => true
  | _ => false

namespace ReportWorld

variable {w w' : ReportWorld}

theorem reports_next {l : ReportLabel} (h : w.next l = some w') (hl : l.isWrite = false) : w'.reports = w.reports := by
  unfold next at h
  split at h
  case h_2 =>
    obtain ⟨d, -, rfl⟩ := Option.map_eq_some_iff.mp h
    rfl
  case h_9 => cases hl
  all_goals
    repeat' split at h
    all_goals cases h <;> rfl

theorem reports_write {ns : String} {snap : Snapshot} {triggers : Finset String}
    (hphase : w.phase = .read ns snap triggers) (h : w.next .write = some w') :
    w'.reports = Function.update w.reports ns (some snap) := by
  simp only [next, hphase, Option.some.injEq] at h
  rw [← h]

end ReportWorld

namespace StoredWorld

variable [Unicode] [Apimachinery] [SortSlice]

def request (opts : ReportReconcilerOptions) (store : ReportStore) (ns : String) (constraints : List Constraint)
    (call : ReconcileCall) : Except String Unit × ReportStore :=
  store.reconcileNamespace ns
    (ReportStatus.buildReportStatus opts call.workloads ns call.now (call.order constraints)) call.get call.answer

/-- A write is the request that `ReconcileNamespace` makes. One that fails is logged, and its trigger is
dropped. -/
def next (opts : ReportReconcilerOptions) (w : StoredWorld) : StoredLabel → Option StoredWorld
  | .own l => if l.isWrite then none else (w.world.next l).map (fun world => { w with world := world })
  | .reconcile call =>
      match w.world.phase with
      | .read ns snap triggers =>
          match request opts w.store ns snap.constraints call with
          | (.ok (), store) => (w.world.next .write).map (fun world => ⟨world, store⟩)
          | (.error _, store) => some ⟨{ w.world with phase := .loop triggers }, store⟩
      | _ => none

/-- The reports that are stored at the start are those of an earlier controller. -/
def system (opts : ReportReconcilerOptions) (start : ReportStore) : System StoredWorld StoredLabel :=
  .ofStep (fun w => w.world.Initial ∧ w.store = start) (next opts)

def served (opts : ReportReconcilerOptions) (w : StoredWorld) : StoredLabel → Bool
  | .own _ => true
  | .reconcile call =>
      match w.world.phase with
      | .read ns snap _ => (request opts w.store ns snap.constraints call).1.isOk
      | _ => true

def Served (opts : ReportReconcilerOptions) (w : StoredWorld) (l : StoredLabel) : Prop := served opts w l = true

variable {opts : ReportReconcilerOptions} {start : ReportStore} {w w' : StoredWorld} {l : StoredLabel} {ns : String}

theorem next_served (h : w.next opts l = some w') (hserved : Served opts w l) :
    (∃ own, own.isWrite = false ∧ w.world.next own = some w'.world ∧ w'.store = w.store) ∨
      ∃ call ns snap triggers, w.world.phase = .read ns snap triggers ∧ w.world.next .write = some w'.world ∧
        request opts w.store ns snap.constraints call = (.ok (), w'.store) := by
  cases l with
  | own l =>
      rw [next] at h
      split at h
      · cases h
      · rename_i hl
        obtain ⟨world, hworld, rfl⟩ := Option.map_eq_some_iff.mp h
        exact .inl ⟨l, Bool.not_eq_true _ ▸ hl, hworld, rfl⟩
  | reconcile call =>
      simp only [next] at h
      split at h
      · rename_i ns snap triggers hphase
        split at h
        · rename_i store hrequest
          obtain ⟨world, hworld, rfl⟩ := Option.map_eq_some_iff.mp h
          exact .inr ⟨call, ns, snap, triggers, hphase, hworld, hrequest⟩
        · rename_i hrequest
          simp only [Served, served, hphase, hrequest, Except.isOk, Except.toBool, Bool.false_eq_true] at hserved
      · cases h

/-- What the store holds of what the reconciler has written: a report without a status if it was not
there at the start and has only been created since, and otherwise the status of the last write. -/
structure Linked (opts : ReportReconcilerOptions) (start : ReportStore) (w : StoredWorld) : Prop where
  reachable : ReportWorld.system.Reachable w.world
  unwritten : ∀ ns, w.world.reports ns = none → w.store.lookup ns = start.lookup ns
  written : ∀ ns snap, w.world.reports ns = some snap → ∃ report, w.store.lookup ns = some report ∧
    ((report.status = none ∧ start.lookup ns = none) ∨ ∃ workloads now listing, listing.Perm snap.constraints ∧
      report.status = some (ReportStatus.buildReportStatus opts workloads ns now listing))

theorem Linked.own (h : Linked opts start w) {own : ReportLabel} (hown : own.isWrite = false)
    (hworld : w.world.next own = some w'.world) (hstore : w'.store = w.store) : Linked opts start w' := by
  have hreports := ReportWorld.reports_next hworld hown
  refine ⟨.step h.reachable trivial hworld, ?_, ?_⟩
  · rw [hreports, hstore]
    exact h.unwritten
  · rw [hreports, hstore]
    exact h.written

theorem Linked.write (h : Linked opts start w) {call : ReconcileCall} {snap : Snapshot} {triggers : Finset String}
    (hphase : w.world.phase = .read ns snap triggers) (hworld : w.world.next .write = some w'.world)
    (hrequest : request opts w.store ns snap.constraints call = (.ok (), w'.store)) : Linked opts start w' := by
  have hreports := ReportWorld.reports_write hphase hworld
  have hother {ns' : String} (hne : ns' ≠ ns) : w'.store.lookup ns' = w.store.lookup ns' := by
    have hstore : (request opts w.store ns snap.constraints call).2 = w'.store := congrArg Prod.snd hrequest
    rw [← hstore]
    exact ReportStore.lookup_reconcileNamespace hne
  refine ⟨.step h.reachable trivial hworld, fun ns' hnone => ?_, fun ns' snap' hsome => ?_⟩
  · rw [hreports] at hnone
    by_cases hne : ns' = ns
    · subst hne
      rw [Function.update_self] at hnone
      cases hnone
    · rw [Function.update_of_ne hne] at hnone
      exact (hother hne).trans (h.unwritten ns' hnone)
  · rw [hreports] at hsome
    by_cases hne : ns' = ns
    · subst hne
      rw [Function.update_self] at hsome
      cases hsome
      rcases ReportStore.reconcileNamespace_ok hrequest with ⟨hnew, hafter⟩ | ⟨-, hafter⟩
      · refine ⟨_, hafter, .inl ⟨rfl, ?_⟩⟩
        cases hr : w.world.reports ns' with
        | none => rw [← h.unwritten ns' hr, hnew]
        | some snap' =>
            obtain ⟨report, hreport, -⟩ := h.written ns' snap' hr
            rw [hnew] at hreport
            cases hreport
      · exact ⟨_, hafter, .inr ⟨_, _, _, call.perm _, rfl⟩⟩
    · rw [Function.update_of_ne hne] at hsome
      rw [hother hne]
      exact h.written ns' snap' hsome

theorem linked_of_reaches (h : (system opts start).Reaches (Served opts) w) : Linked opts start w := by
  refine h.invariant (I := Linked opts start) ?_ ?_
  · rintro w ⟨hinitial, rfl⟩
    refine ⟨.init hinitial, fun _ _ => rfl, fun ns snap hsome => ?_⟩
    rw [hinitial.reports] at hsome
    cases hsome
  · intro w l w' hw hserved hstep
    rcases next_served hstep hserved with
      ⟨own, hown, hworld, hstore⟩ | ⟨call, ns, snap, triggers, hphase, hworld, hrequest⟩
    · exact hw.own hown hworld hstore
    · exact hw.write hphase hworld hrequest

end StoredWorld

end Nightjar.Notifier
