import Nightjar.Notifier.ReportReconciler
import Nightjar.Notifier.ReportStatus
import Nightjar.Lib.Tables

namespace Nightjar.Notifier

open Lib Lib.Strings

/-- The ConstraintReport "constraints" of a namespace as the API server stores it. Its
status is absent until it is written. -/
structure StoredReport where
  resourceVersion : String
  status : Option ConstraintReportStatus

abbrev ReportStore := Table String StoredReport

structure WriteAnswer where
  failure : Option String := none
  resourceVersion : String

namespace ReportStore

/-- `Create`. Since the status is a subresource the server drops the one it is sent. -/
def create (store : ReportStore) (ns : String) (_status : ConstraintReportStatus) (a : WriteAnswer) :
    Except String Unit × ReportStore :=
  match a.failure, store.lookup ns with
  | some err, _ => (.error err, store)
  | none, some _ => (.error "already exists", store)
  | none, none => (.ok (), store.insert ns ⟨a.resourceVersion, none⟩)

def statusUpdate (store : ReportStore) (ns resourceVersion : String) (status : ConstraintReportStatus)
    (a : WriteAnswer) : Except String Unit × ReportStore :=
  match a.failure, store.lookup ns with
  | some err, _ => (.error err, store)
  | none, none => (.error "not found", store)
  | none, some report =>
      if report.resourceVersion = resourceVersion then
        (.ok (), store.insert ns ⟨a.resourceVersion, some status⟩)
      else (.error "conflict", store)

/-- `ReconcileNamespace` against the server. The client reads through a cache, so `get`
need not be the stored report's version. -/
def reconcileNamespace (store : ReportStore) (ns : String) (status : ConstraintReportStatus) (get : GetAnswer)
    (a : WriteAnswer) : Except String Unit × ReportStore :=
  match get with
  | .failed err => (.error err, store)
  | .notFound => store.create ns status a
  | .found resourceVersion =>
      if resourceVersion = "" then store.create ns status a
      else store.statusUpdate ns resourceVersion status a

variable {store after : ReportStore} {ns resourceVersion : String} {status : ConstraintReportStatus}
  {get : GetAnswer} {a : WriteAnswer}

theorem reconcileNamespace_answers :
    (store.reconcileNamespace ns status get a).1 =
      Notifier.reconcileNamespace
        ⟨get, (store.create ns status a).1,
          match get with
          | .found resourceVersion => (store.statusUpdate ns resourceVersion status a).1
          | _ => .ok ()⟩ := by
  unfold reconcileNamespace Notifier.reconcileNamespace
  cases get with
  | failed err => rfl
  | notFound => rfl
  | found resourceVersion =>
      dsimp only
      split <;> rfl

theorem create_ok (h : store.create ns status a = (.ok (), after)) :
    store.lookup ns = none ∧ after.lookup ns = some ⟨a.resourceVersion, none⟩ := by
  unfold create at h
  split at h
  · cases h
  · cases h
  · cases h
    exact ⟨‹_›, AList.lookup_insert _⟩

theorem statusUpdate_ok (h : store.statusUpdate ns resourceVersion status a = (.ok (), after)) :
    (store.lookup ns).isSome ∧ after.lookup ns = some ⟨a.resourceVersion, some status⟩ := by
  unfold statusUpdate at h
  split at h
  · cases h
  · cases h
  · rename_i report _ hl
    split at h
    · cases h
      exact ⟨by rw [hl]; rfl, AList.lookup_insert _⟩
    · cases h

theorem reconcileNamespace_ok (h : store.reconcileNamespace ns status get a = (.ok (), after)) :
    (store.lookup ns = none ∧ after.lookup ns = some ⟨a.resourceVersion, none⟩) ∨
      ((store.lookup ns).isSome ∧ after.lookup ns = some ⟨a.resourceVersion, some status⟩) := by
  unfold reconcileNamespace at h
  cases get with
  | failed err => cases h
  | notFound => exact .inl (create_ok h)
  | found resourceVersion =>
      dsimp only at h
      split at h
      · exact .inl (create_ok h)
      · exact .inr (statusUpdate_ok h)

theorem lookup_reconcileNamespace {ns' : String} (hne : ns' ≠ ns) :
    (store.reconcileNamespace ns status get a).2.lookup ns' = store.lookup ns' := by
  have hcreate : (store.create ns status a).2.lookup ns' = store.lookup ns' := by
    unfold create
    split
    · rfl
    · rfl
    · exact AList.lookup_insert_ne hne
  have hupdate (version : String) : (store.statusUpdate ns version status a).2.lookup ns' = store.lookup ns' := by
    unfold statusUpdate
    split
    · rfl
    · rfl
    · split
      · exact AList.lookup_insert_ne hne
      · rfl
  unfold reconcileNamespace
  cases get with
  | failed err => rfl
  | notFound => exact hcreate
  | found version =>
      dsimp only
      split
      · exact hcreate
      · exact hupdate version

section Reflects
variable [Unicode] [Apimachinery] [SortSlice]

/-- The stored report has the status that the reconciler builds from the index, at some
reading of the clock and from some listing of the constraints. -/
def Reflects (store : ReportStore) (idx : Indexer) (opts : ReportReconcilerOptions)
    (workloads : Option (List WorkloadList)) (ns : String) : Prop :=
  ∃ report now constraints, store.lookup ns = some report ∧ constraints.Perm (idx.byNamespace ns) ∧
    report.status = some (ReportStatus.buildReportStatus opts workloads ns now constraints)

theorem reconciled_reflects_iff {idx : Indexer} {opts : ReportReconcilerOptions}
    {workloads : Option (List WorkloadList)} {now : String} {constraints : List Constraint}
    (hc : constraints.Perm (idx.byNamespace ns))
    (h : store.reconcileNamespace ns (ReportStatus.buildReportStatus opts workloads ns now constraints) get a =
      (.ok (), after)) :
    after.Reflects idx opts workloads ns ↔ (store.lookup ns).isSome := by
  obtain ⟨hnone, hafter⟩ | ⟨hsome, hafter⟩ := reconcileNamespace_ok h
  · refine iff_of_false ?_ (by rw [hnone]; exact Bool.false_ne_true)
    rintro ⟨report, _, _, hl, -, hstatus⟩
    rw [hafter] at hl
    cases hl
    cases hstatus
  · exact iff_of_true ⟨_, now, constraints, hafter, hc, rfl⟩ hsome

end Reflects

section Samples
attribute [local instance] asciiTables Apimachinery.model SortSlice.stable

def policyIndex : Indexer := (Indexer.new.upsert (paymentsPolicy "deny-all")).1

def policyStatus : ConstraintReportStatus :=
  ReportStatus.buildReportStatus {} none "team" "t" [paymentsPolicy "deny-all"]

theorem policy_listed : [paymentsPolicy "deny-all"].Perm (policyIndex.byNamespace "team") := .refl _

def created : ReportStore := (ReportStore.reconcileNamespace ∅ "team" policyStatus .notFound ⟨none, "1"⟩).2

def updated : ReportStore := (created.reconcileNamespace "team" policyStatus (.found "1") ⟨none, "2"⟩).2

theorem created_without_status :
    [paymentsPolicy "deny-all"].Perm (policyIndex.byNamespace "team") ∧
      ReportStore.reconcileNamespace ∅ "team" policyStatus .notFound ⟨none, "1"⟩ = (.ok (), created) ∧
      ¬ created.Reflects policyIndex {} none "team" := by
  refine ⟨policy_listed, rfl, ?_⟩
  rintro ⟨report, _, _, hl, -, hstatus⟩
  cases hl
  cases hstatus

theorem reconciled_reflects_iff_updated :
    updated.Reflects policyIndex {} none "team" ↔ (created.lookup "team").isSome := by
  have h : created.reconcileNamespace "team"
      (ReportStatus.buildReportStatus {} none "team" "t" [paymentsPolicy "deny-all"]) (.found "1") ⟨none, "2"⟩ =
      (.ok (), updated) := rfl
  exact reconciled_reflects_iff policy_listed h

end Samples

end ReportStore

end Nightjar.Notifier
