import Nightjar.Mcp.Handlers

namespace Nightjar

/-- A detail level as the configuration or a resolver spells it. -/
def DetailLevel.ofText (s : String) : DetailLevel :=
  match s with
  | "summary" => .summary
  | "detailed" => .detailed
  | "full" => .full
  | name => .other name

theorem DetailLevel.text_ofText (s : String) : (ofText s).text = s := by
  unfold ofText
  split <;> rfl

theorem DetailLevel.ofText_eq_other {s : String} (hsummary : s ≠ "summary") (hdetailed : s ≠ "detailed")
    (hfull : s ≠ "full") : ofText s = .other s := by
  unfold ofText
  split <;> simp_all

end Nightjar

namespace Nightjar.Mcp

open Lib.Strings Notifier EventBuilder

structure Exposure where
  name : String
  ns : String
  sourceGVR : String
  sourceKind : String
  sourceName : String
  sourceNamespace : String
  summary : String
  remediation : RemediationInfo
deriving DecidableEq, Repr

def exposureOf (d : EventStructuredData) : Exposure where
  name := d.constraintName
  ns := d.constraintNamespace
  sourceGVR := d.sourceGVR
  sourceKind := d.sourceKind
  sourceName := d.sourceName
  sourceNamespace := d.sourceNamespace
  summary := d.summary
  remediation := d.remediation

/-- What is shown of the constraint at the level is what is shown of it at summary level, in
the annotations and the structured data of its event and in the results of the tools. -/
structure AsAtSummary [Unicode] [UpperCase] (eb : EventBuilder) (c : Constraint) (level : DetailLevel)
    (workload : Notifier.WorkloadRef) (now : String) : Prop where
  constraintName : (eb.buildAnnotations c level workload now).lookup "nightjar.io/constraint-name" =
    (eb.buildAnnotations c .summary workload now).lookup "nightjar.io/constraint-name"
  constraintNamespace : (eb.buildAnnotations c level workload now).lookup "nightjar.io/constraint-namespace" =
    (eb.buildAnnotations c .summary workload now).lookup "nightjar.io/constraint-namespace"
  data : exposureOf (buildStructuredData c level workload (eb.remediationBuilder.build c) now) =
    exposureOf (buildStructuredData c .summary workload (eb.remediationBuilder.build c) now)
  result : toConstraintResult c level workload.ns now =
    { toConstraintResult c .summary workload.ns now with detailLevel := level.text }

def platformTeamStep : String := "Contact your platform team for this step"

def HidesStep (c : Constraint) : Prop :=
  match branch c with
  | .own => ∃ step ∈ c.remediation, step.type = "kubectl" ∧ step.requiresPrivilege = "cluster-admin" ∧
      (step.command ≠ "" ∨ step.description ≠ platformTeamStep)
  | .webhook => True
  | .generic => c.ns = ""
  | .networkPolicy | .resourceQuota | .missingResource => False

/-- At summary level nothing of the constraint is hidden from the viewer. -/
structure NothingHidden (c : Constraint) (viewer : String) : Prop where
  name : c.ns ≠ "" ∧ c.ns = viewer ∨ c.name = "redacted"
  ns : c.ns = viewer ∨ c.ns = ""
  steps : ¬ HidesStep c

theorem scopeStep_eq_self_iff {step : RemediationStep} : scopeStep .summary step = step ↔
    ¬ (step.type = "kubectl" ∧ step.requiresPrivilege = "cluster-admin" ∧
      (step.command ≠ "" ∨ step.description ≠ platformTeamStep)) := by
  cases step
  rw [scopeStep]
  split
  · simp_all [platformTeamStep, eq_comm, and_comm]
  · simp_all

section Steps
variable [Unicode] (rb : RemediationBuilder) (c : Constraint)

omit [Unicode] in
theorem scopeRemediation_eq_self_iff (r : RemediationInfo) :
    scopeRemediation r .summary = r ↔ ∀ step ∈ r.steps, scopeStep .summary step = step := by
  obtain ⟨summary, steps⟩ := r
  have hmap : steps.map (scopeStep .summary) = steps.map id ↔ ∀ step ∈ steps, scopeStep .summary step = id step :=
    List.map_inj_left
  rw [List.map_id] at hmap
  simpa [scopeRemediation] using hmap

theorem scopeRemediation_build_iff : scopeRemediation (rb.build c) .summary = rb.build c ↔ ¬ HidesStep c := by
  rw [scopeRemediation_eq_self_iff, RemediationBuilder.build, HidesStep]
  simp only [scopeStep_eq_self_iff]
  cases branch c with
  | own => simp [RemediationBuilder.convertSteps]
  | networkPolicy =>
      simp only [RemediationBuilder.buildNetworkPolicyRemediation]
      split <;> simp
  | resourceQuota =>
      simp only [RemediationBuilder.buildResourceQuotaRemediation]
      split <;> simp
  | webhook => simp [RemediationBuilder.buildWebhookRemediation, platformTeamStep]
  | missingResource =>
      simp only [RemediationBuilder.buildMissingResourceRemediation]
      split <;> split <;> simp
  | generic =>
      simp only [RemediationBuilder.buildGenericRemediation]
      split <;> simp_all [platformTeamStep]

end Steps

section Levels
variable [Unicode] [UpperCase] (eb : EventBuilder) (c : Constraint) (level : DetailLevel)
  (workload : Notifier.WorkloadRef) (now : String)

theorem lookup_constraintName : (eb.buildAnnotations c level workload now).lookup "nightjar.io/constraint-name" =
    some (scopedConstraintName c level workload.ns) := by
  simp [buildAnnotations, List.lookup_cons]

theorem lookup_constraintNamespace :
    (eb.buildAnnotations c level workload now).lookup "nightjar.io/constraint-namespace" =
      if c.ns ≠ "" ∧ canShowNamespace c level workload.ns then some c.ns else none := by
  have hremediation (r : RemediationInfo) :
      (remediationAnnotations r).lookup "nightjar.io/constraint-namespace" = none := by
    rw [remediationAnnotations]
    split
    · rfl
    · split <;> rfl
  simp only [buildAnnotations, List.lookup_append, hremediation]
  split <;> simp [List.lookup_cons]

end Levels

theorem scopedConstraintName_other (c : Constraint) (name viewer : String) :
    scopedConstraintName c (.other name) viewer = c.name := by
  simp [scopedConstraintName]

theorem scopeRemediation_other (r : RemediationInfo) (name : String) : scopeRemediation r (.other name) = r := by
  have hstep : scopeStep (.other name) = id := by
    funext step
    simp [scopeStep]
  rw [scopeRemediation, hstep, List.map_id]

theorem name_eq_scoped_iff {c : Constraint} {viewer : String} :
    c.name = scopedConstraintName c .summary viewer ↔ c.ns ≠ "" ∧ c.ns = viewer ∨ c.name = "redacted" := by
  rw [scopedConstraintName]
  by_cases hshown : c.ns ≠ "" ∧ c.ns = viewer
  · rw [if_neg (by tauto)]
    exact iff_of_true rfl (.inl hshown)
  · rw [if_pos ⟨rfl, by tauto⟩]
    simp [hshown]

theorem ns_eq_shown_iff {c : Constraint} {viewer : String} :
    c.ns = (if canShowNamespace c .summary viewer then c.ns else "") ↔ c.ns = viewer ∨ c.ns = "" := by
  simp only [canShowNamespace, decide_eq_true_eq]
  split <;> simp_all

/-- The checks that redact look for `summary` and let every level pass that is spelled in
another way. -/
theorem unknown_level_iff [Unicode] [UpperCase] (eb : EventBuilder) (c : Constraint) (workload : Notifier.WorkloadRef)
    (now level : String) (hlevel : level ≠ "detailed" ∧ level ≠ "full") :
    AsAtSummary eb c (.ofText level) workload now ↔ level = "summary" ∨ NothingHidden c workload.ns := by
  by_cases hsummary : level = "summary"
  · rw [hsummary]
    exact iff_of_true ⟨rfl, rfl, rfl, rfl⟩ (.inl rfl)
  rw [DetailLevel.ofText_eq_other hsummary hlevel.1 hlevel.2]
  constructor
  · intro h
    right
    have hname : c.name = scopedConstraintName c .summary workload.ns :=
      (scopedConstraintName_other c level workload.ns).symm.trans (congrArg Exposure.name h.data)
    have hns : c.ns = if canShowNamespace c .summary workload.ns then c.ns else "" := congrArg Exposure.ns h.data
    have hsteps : scopeRemediation (eb.remediationBuilder.build c) .summary = eb.remediationBuilder.build c :=
      (congrArg Exposure.remediation h.data).symm.trans (scopeRemediation_other _ level)
    exact ⟨name_eq_scoped_iff.mp hname, ns_eq_shown_iff.mp hns, (scopeRemediation_build_iff _ c).mp hsteps⟩
  · rintro (heq | h)
    · exact absurd heq hsummary
    · have hname := name_eq_scoped_iff.mpr h.name
      have hns := ns_eq_shown_iff.mpr h.ns
      have hsteps := (scopeRemediation_build_iff eb.remediationBuilder c).mpr h.steps
      refine ⟨?_, ?_, ?_, ?_⟩
      · rw [lookup_constraintName, lookup_constraintName, scopedConstraintName_other, ← hname]
      · rw [lookup_constraintNamespace, lookup_constraintNamespace]
        rcases h.ns with hviewer | hcluster
        · simp [canShowNamespace, hviewer]
        · simp [hcluster]
      · simp only [exposureOf, buildStructuredData, scopedConstraintName_other, scopeRemediation_other, ← hname,
          ← hns, hsteps]
        rfl
      · simp only [toConstraintResult, scopedConstraintName_other, ← hname, ← hns]
        simp [canShowNamespace, atLeastDetailed]

section Sample
attribute [local instance] asciiTables asciiUpperCase

def teamWorkload (ns : String) : Notifier.WorkloadRef := { kind := "Deployment", name := "api", ns := ns }

theorem capitalised_level_shows :
    (toConstraintResult (paymentsPolicy "deny-all") (.ofText "Summary") "team" "").name = "deny-all" ∧
      (toConstraintResult (paymentsPolicy "deny-all") (.ofText "Summary") "team" "").ns = "payments" ∧
      (toConstraintResult (paymentsPolicy "deny-all") (.ofText "summary") "team" "").name = "redacted" ∧
      (toConstraintResult (paymentsPolicy "deny-all") (.ofText "summary") "team" "").ns = "" ∧
      ((EventBuilder.new "").buildAnnotations (paymentsPolicy "deny-all") (.ofText "Summary") (teamWorkload "team")
        "").lookup "nightjar.io/constraint-name" = some "deny-all" := by
  decide +kernel

theorem capitalised_level_own_namespace :
    ("Summary" ≠ "detailed" ∧ "Summary" ≠ "full") ∧
      AsAtSummary (EventBuilder.new "") (paymentsPolicy "deny-all") (.ofText "Summary") (teamWorkload "payments")
        "" := by
  refine ⟨by decide, (unknown_level_iff _ _ _ _ "Summary" (by decide)).mpr (.inr ⟨?_, ?_, ?_⟩)⟩
  · exact .inl (by decide)
  · exact .inl rfl
  · exact id

end Sample

end Nightjar.Mcp
