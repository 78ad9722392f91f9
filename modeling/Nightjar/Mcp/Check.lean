import Nightjar.Mcp.Handlers
import Nightjar.Nightjarctl.Check

namespace Nightjar.Mcp

open Lib Lib.Strings Notifier Apimachinery

structure CheckParams where
  manifest : String
deriving DecidableEq, Repr

structure MissingResource where
  expectedKind : String
  expectedAPIVersion : String
  reason : String
  severity : String
  forWorkload : String
  remediation : RemediationResult
deriving DecidableEq, Repr

structure CheckResult where
  wouldBlock : Bool
  blockingConstraints : List ConstraintResult
  missingPrerequisites : List MissingResource
  warnings : List String

section HandleCheck
variable [Apimachinery] [Unicode] [LabelSelectors] [Yaml]

omit [LabelSelectors] [Yaml] in
def constraintToMissingResource (rb : RemediationBuilder) (workload : Unstructured) (c : Constraint) :
    MissingResource where
  expectedKind := detailString c "expectedKind"
  expectedAPIVersion := detailString c "expectedAPIVersion"
  reason := detailString c "reason"
  severity := c.severity.text
  forWorkload := (if getNamespace workload = "" then "" else getNamespace workload ++ "/") ++ getKind workload ++ "/" ++
    getName workload
  remediation := ⟨(rb.build c).summary, (rb.build c).steps.map toolStep⟩

/-- `HandleCheck`, given the decoded body if it could be decoded and the answer of the
privacy resolver. The evaluator, if there is one, answers with what it finds missing. -/
def handleCheck (rb : RemediationBuilder) (level : DetailLevel) (now : String)
    (evaluator : Option (Unstructured → List Constraint)) (body : Option CheckParams) (idx : Indexer) :
    Except HttpError CheckResult :=
  match body with
  | none => .error (badRequest "Invalid request body")
  | some params =>
      if params.manifest = "" then .error (badRequest "manifest is required")
      else
        match Yaml.unmarshal params.manifest with
        | .error _ => .error (badRequest "Invalid YAML manifest")
        | .ok manifest =>
            let constraints := idx.byLabels manifest.ns manifest.labels
            let blocking := constraints.filter Constraint.blocks
            let warned := constraints.filter (fun c => !c.blocks && decide (c.severity.text = "Warning"))
            let missing := (evaluator.map (fun evaluate => evaluate ⟨manifest.object⟩)).getD []
            .ok {
              wouldBlock := decide (blocking.length > 0)
              blockingConstraints := blocking.map (toConstraintResult · level manifest.ns now)
              missingPrerequisites := missing.map (constraintToMissingResource rb ⟨manifest.object⟩)
              warnings := warned.map (fun c =>
                (toConstraintResult c level manifest.ns now).name ++ ": " ++ genericSummary c.constraintType) }

theorem handleCheck_ok (rb : RemediationBuilder) (level : DetailLevel) (now : String)
    (evaluator : Option (Unstructured → List Constraint)) (idx : Indexer) {text : String} {manifest : Manifest}
    (htext : text ≠ "") (hmanifest : Yaml.unmarshal text = .ok manifest) :
    ∃ result, handleCheck rb level now evaluator (some ⟨text⟩) idx = .ok result ∧
      (result.wouldBlock = true ↔ ∃ c ∈ idx.byNamespace manifest.ns, c.blocks = true ∧
        Util.matchesLabelSelector c.workloadSelector manifest.labels = true) := by
  rw [handleCheck, if_neg htext]
  simp only [hmanifest]
  refine ⟨_, rfl, ?_⟩
  simp only [gt_iff_lt, decide_eq_true_eq, List.length_pos_iff_exists_mem, List.mem_filter, Indexer.byLabels_eq]
  exact exists_congr fun c => by rw [and_assoc, and_comm (b := c.blocks = true)]

end HandleCheck

/-- The two pre-checks of a manifest come to the same verdict, or neither gives one. -/
def Agree (cli : Except String Nightjarctl.CheckResult) (mcp : Except HttpError CheckResult) : Prop :=
  cli.toOption.map Nightjarctl.CheckResult.wouldBlock = mcp.toOption.map CheckResult.wouldBlock

section Agreement
variable [Apimachinery] [Unicode] [LabelSelectors] [SortSlice] [Yaml]

/-- With an up-to-date report, they agree on a manifest that parses exactly when its
text is not empty and, if any constraint of the namespace blocks, one does that selects
the labels of the manifest. -/
theorem checks_agree_iff (rb : RemediationBuilder) (level : DetailLevel) (now : String)
    (evaluator : Option (Unstructured → List Constraint)) (idx : Indexer) (text : String)
    (get : String → Except String Unstructured)
    (hreport : ∀ manifest, Yaml.unmarshal text = .ok manifest → ∃ report,
      get manifest.ns = .ok report ∧ Nightjarctl.UpToDate idx manifest.ns report) :
    Agree (Nightjarctl.runCheck (.ok text) (.ok get)) (handleCheck rb level now evaluator (some ⟨text⟩) idx) ↔
      ∀ manifest, Yaml.unmarshal text = .ok manifest → text ≠ "" ∧
        ((∃ c ∈ idx.byNamespace manifest.ns, c.blocks = true) →
          ∃ c ∈ idx.byNamespace manifest.ns, c.blocks = true ∧
            Util.matchesLabelSelector c.workloadSelector manifest.labels = true) := by
  cases hmanifest : Yaml.unmarshal text with
  | error err =>
      refine iff_of_true ?_ nofun
      rw [Nightjarctl.runCheck, handleCheck]
      simp only [hmanifest]
      split <;> rfl
  | ok manifest =>
      obtain ⟨report, hget, huptodate⟩ := hreport manifest hmanifest
      have hcli : Nightjarctl.runCheck (.ok text) (.ok get) = .ok (Nightjarctl.checkReport manifest (.ok report)) := by
        rw [Nightjarctl.runCheck]
        simp only [hmanifest, hget]
      have hverdict := Nightjarctl.wouldBlock_checkReport huptodate
      rw [hcli]
      by_cases htext : text = ""
      · refine iff_of_false ?_ fun h => (h manifest rfl).1 htext
        rw [handleCheck, if_pos htext]
        nofun
      · obtain ⟨result, hmcp, hresult⟩ := handleCheck_ok rb level now evaluator idx htext hmanifest
        have hagree : Agree (.ok (Nightjarctl.checkReport manifest (.ok report))) (.ok result) ↔
            ((∃ c ∈ idx.byNamespace manifest.ns, c.blocks = true) ↔
              ∃ c ∈ idx.byNamespace manifest.ns, c.blocks = true ∧
                Util.matchesLabelSelector c.workloadSelector manifest.labels = true) := by
          rw [← hverdict, ← hresult]
          exact (Option.some_inj).trans Bool.eq_iff_iff
        rw [hmcp, hagree]
        constructor
        · rintro hiff m ⟨⟩
          exact ⟨htext, hiff.mp⟩
        · intro h
          exact ⟨(h manifest rfl).2, fun ⟨c, hc, hblocks, _⟩ => ⟨c, hc, hblocks⟩⟩

end Agreement

section Selected
attribute [local instance] Apimachinery.model asciiTables LabelSelectors.model SortSlice.stable

def deploymentText (app : String) : String :=
  "apiVersion: apps/v1\nkind: Deployment\nmetadata:\n  name: my-app\n  labels:\n    app: " ++ app ++ "\n"

def deployment (app : String) : Manifest :=
  ⟨[("apiVersion", .str "apps/v1"), ("kind", .str "Deployment"),
    ("metadata", .map [("name", .str "my-app"), ("labels", .map [("app", .str app)])])]⟩

@[reducible] def deploymentYaml : Yaml where
  unmarshal text :=
    if text = deploymentText "db" then .ok (deployment "db")
    else if text = deploymentText "web" then .ok (deployment "web")
    else .error "error unmarshaling JSON"

attribute [local instance] deploymentYaml

def requireLimits : Constraint where
  uid := "u"
  source := ⟨"kyverno.io", "v1", "policies"⟩
  name := "require-limits"
  ns := "default"
  workloadSelector := some ⟨[("app", "db")], []⟩
  constraintType := .admission
  effect := "deny"
  severity := .critical
  summary := "Pods must have resource limits"

def requireLimitsIndex : Indexer := (Indexer.new.upsert requireLimits).1

def requireLimitsReport : Unstructured :=
  ⟨[("status", .map (ReportStatus.buildReportStatus {} none "default" "t" [requireLimits]).object)]⟩

theorem upToDate_requireLimitsReport (text : String) : ∀ manifest, Yaml.unmarshal text = .ok manifest → ∃ report,
    (Except.ok requireLimitsReport : Except String Unstructured) = .ok report ∧
      Nightjarctl.UpToDate requireLimitsIndex manifest.ns report := by
  intro manifest hmanifest
  have hns : manifest.ns = "default" := by
    simp only [Yaml.unmarshal] at hmanifest
    split at hmanifest
    · cases hmanifest
      rfl
    · split at hmanifest <;> cases hmanifest
      rfl
  rw [hns]
  exact ⟨_, rfl, {}, none, "t", [requireLimits], .refl _, rfl⟩

theorem checks_agree_iff_selected :
    Agree (Nightjarctl.runCheck (.ok (deploymentText "db")) (.ok fun _ => .ok requireLimitsReport))
      (handleCheck (.new "platform") .summary "t" none (some ⟨deploymentText "db"⟩) requireLimitsIndex) := by
  refine (checks_agree_iff _ _ _ _ _ _ _ (upToDate_requireLimitsReport (deploymentText "db"))).mpr ?_
  intro manifest hmanifest
  cases (show Yaml.unmarshal (deploymentText "db") = .ok (deployment "db") from rfl).symm.trans hmanifest
  exact ⟨by decide, fun _ => ⟨requireLimits, List.mem_singleton_self _, rfl, rfl⟩⟩

theorem checks_disagree_on_unselected :
    (∀ manifest, Yaml.unmarshal (deploymentText "web") = .ok manifest → ∃ report,
      (Except.ok requireLimitsReport : Except String Unstructured) = .ok report ∧
        Nightjarctl.UpToDate requireLimitsIndex manifest.ns report) ∧
    ¬ Agree (Nightjarctl.runCheck (.ok (deploymentText "web")) (.ok fun _ => .ok requireLimitsReport))
      (handleCheck (.new "platform") .summary "t" none (some ⟨deploymentText "web"⟩) requireLimitsIndex) := by
  refine ⟨upToDate_requireLimitsReport (deploymentText "web"), fun hagree => ?_⟩
  have hcli : (Nightjarctl.runCheck (.ok (deploymentText "web")) (.ok fun _ => .ok requireLimitsReport)).toOption.map
      Nightjarctl.CheckResult.wouldBlock = some true := by decide
  have hmcp : (handleCheck (.new "platform") .summary "t" none (some ⟨deploymentText "web"⟩)
      requireLimitsIndex).toOption.map CheckResult.wouldBlock = some false := by decide
  cases hcli.symm.trans (hagree.trans hmcp)

end Selected

end Nightjar.Mcp
