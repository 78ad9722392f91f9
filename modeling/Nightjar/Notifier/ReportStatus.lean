import Nightjar.Notifier.EventBuilder
import Nightjar.Lib.SortSlice

namespace Nightjar.Notifier

open Lib Lib.Strings

structure SourceReference where
  apiVersion : String
  kind : String
  name : String
  ns : String
deriving DecidableEq, Repr

structure WorkloadReference where
  kind : String
  name : String
deriving DecidableEq, Repr

structure ConstraintEntry where
  name : String
  type : String
  severity : String
  message : String
  source : String
  lastSeen : String
deriving DecidableEq, Repr

structure MachineConstraintEntry where
  uid : String
  name : String
  constraintType : String
  severity : String
  effect : String
  sourceRef : SourceReference
  remediation : RemediationInfo
  metrics : List (String × MetricDataPoint)
  tags : List String
  lastObserved : String

structure MissingResourceEntry where
  expectedKind : String
  expectedAPIVersion : String
  reason : String
  severity : String
  forWorkload : WorkloadReference
  remediation : RemediationInfo

structure MachineReadableReport where
  schemaVersion : String
  generatedAt : String
  detailLevel : String
  constraints : List MachineConstraintEntry
  missingResources : List MissingResourceEntry
  tags : List String

structure ConstraintReportStatus where
  constraintCount : Nat
  criticalCount : Nat
  warningCount : Nat
  infoCount : Nat
  constraints : List ConstraintEntry
  machineReadable : MachineReadableReport
  lastUpdated : String

def severityOrder (severity : String) : Nat :=
  match severity with
  | "Critical" => 0
  | "Warning" => 1
  | "Info" => 2
  | _ => 3

def gvrToAPIVersion (gvr : GVR) : String := if gvr.group = "" then gvr.version else gvr.group ++ "/" ++ gvr.version

/-- `resource[0]-32`, on the one byte of an ASCII letter. -/
def capitalize : List Char → String
  | [] => ""
  | c :: cs => String.ofList (Char.ofNat ((c.toNat + 224) % 256) :: cs)

def gvrToKindName (gvr : GVR) : String :=
  match gvr.resource with
  | "networkpolicies" => "NetworkPolicy"
  | "resourcequotas" => "ResourceQuota"
  | "limitranges" => "LimitRange"
  | "validatingwebhookconfigurations" => "ValidatingWebhookConfiguration"
  | "mutatingwebhookconfigurations" => "MutatingWebhookConfiguration"
  | "ciliumnetworkpolicies" => "CiliumNetworkPolicy"
  | "ciliumclusterwidenetworkpolicies" => "CiliumClusterwideNetworkPolicy"
  | "pods" => "Pod"
  | "deployments" => "Deployment"
  | "statefulsets" => "StatefulSet"
  | resource => capitalize (if 1 < resource.length then trimSuffix resource "s" else resource).toList

structure ReportReconcilerOptions where
  defaultDetailLevel : DetailLevel := .summary
  defaultContact : String := "your platform team"

/-- One list of workloads, each with what the evaluator finds missing for it. -/
abbrev WorkloadList := Except String (List (Unstructured × Except String (List Constraint)))

namespace ReportStatus

section Entry
variable [Unicode] (opts : ReportReconcilerOptions) (c : Constraint) (viewerNamespace : String)

omit [Unicode] in
/-- The options after the defaults of `NewReportReconciler`. -/
def detailLevel : DetailLevel :=
  if opts.defaultDetailLevel = .other "" then .summary else opts.defaultDetailLevel

omit [Unicode] in
def remediationBuilder : RemediationBuilder := .new opts.defaultContact

omit [Unicode] in
def scopedName : String :=
  if detailLevel opts = .summary ∧ c.ns ≠ "" ∧ c.ns ≠ viewerNamespace then "cluster-policy" else c.name

omit [Unicode] in
def scopedMessage : String :=
  if detailLevel opts = .summary ∧ c.ns ≠ "" ∧ c.ns ≠ viewerNamespace then genericSummary c.constraintType
  else if c.summary ≠ "" then c.summary
  else genericSummary c.constraintType

omit [Unicode] in
def extractResourceMetrics : List (String × MetricDataPoint) := EventBuilder.metricsWith guessUnit c

omit [Unicode] in
def sourceRef : SourceReference := ⟨gvrToAPIVersion c.source, gvrToKindName c.source, c.name, c.ns⟩

omit [Unicode] in
def buildEntry (now : String) : ConstraintEntry where
  name := scopedName opts c viewerNamespace
  type := c.constraintType.text
  severity := c.severity.text
  message := scopedMessage opts c viewerNamespace
  source := c.source.resource
  lastSeen := now

def buildMachineEntry (now : String) : MachineConstraintEntry where
  uid := c.uid
  name := scopedName opts c viewerNamespace
  constraintType := c.constraintType.text
  severity := c.severity.text
  effect := c.effect
  sourceRef := sourceRef c
  remediation := (remediationBuilder opts).build c
  metrics := if c.constraintType = .resourceLimit then extractResourceMetrics c else []
  tags := c.tags
  lastObserved := now

def constraintToMissingResourceEntry [Apimachinery] (workload : Unstructured) : MissingResourceEntry where
  expectedKind := detailString c "expectedKind"
  expectedAPIVersion := detailString c "expectedAPIVersion"
  reason := detailString c "reason"
  severity := c.severity.text
  forWorkload := ⟨Apimachinery.getKind workload, Apimachinery.getName workload⟩
  remediation := (remediationBuilder opts).build c

end Entry

section Status
variable [Unicode] [Apimachinery] [SortSlice] (opts : ReportReconcilerOptions)

omit [SortSlice] in
/-- `evaluateMissingResources`, given the lists of the three workload kinds. Without
an evaluator or a client there are none. -/
def evaluateMissingResources (workloads : Option (List WorkloadList)) : List MissingResourceEntry :=
  (workloads.getD []).flatMap (fun list =>
    match list with
    | .error _ => []
    | .ok items => items.flatMap (fun item =>
        match item.2 with
        | .error _ => []
        | .ok constraints => constraints.map (constraintToMissingResourceEntry opts · item.1)))

/-- `buildReportStatus`. The readings of the clock in one call are taken as one. -/
def buildReportStatus (workloads : Option (List WorkloadList)) (ns now : String) (constraints : List Constraint) :
    ConstraintReportStatus where
  constraintCount := constraints.length
  criticalCount := constraints.countP (fun c => c.severity = .critical)
  warningCount := constraints.countP (fun c => c.severity = .warning)
  infoCount := constraints.countP (fun c => c.severity = .info)
  constraints := SortSlice.sort (fun e => severityOrder e.severity) (constraints.map (buildEntry opts · ns now))
  machineReadable :=
    { schemaVersion := "1"
      generatedAt := now
      detailLevel := (detailLevel opts).text
      constraints :=
        SortSlice.sort (fun e => severityOrder e.severity) (constraints.map (buildMachineEntry opts · ns now))
      missingResources := evaluateMissingResources opts workloads
      tags := sortedKeys (constraints.flatMap Constraint.tags) }
  lastUpdated := now

variable (workloads : Option (List WorkloadList)) (ns now : String) (cs : List Constraint)

theorem constraints_sorted :
    (buildReportStatus opts workloads ns now cs).constraints.Pairwise
      (fun e f => severityOrder e.severity ≤ severityOrder f.severity) ∧
    (buildReportStatus opts workloads ns now cs).machineReadable.constraints.Pairwise
      (fun e f => severityOrder e.severity ≤ severityOrder f.severity) :=
  ⟨SortSlice.sort_sorted _ _, SortSlice.sort_sorted _ _⟩

theorem sourceRefs_perm :
    ((buildReportStatus opts workloads ns now cs).machineReadable.constraints.map
      MachineConstraintEntry.sourceRef).Perm (cs.map sourceRef) := by
  have h := (SortSlice.sort_perm (fun e => severityOrder e.severity)
    (cs.map (buildMachineEntry opts · ns now))).map MachineConstraintEntry.sourceRef
  rwa [List.map_map] at h

theorem sum_length_sourceRef_name :
    ((buildReportStatus opts workloads ns now cs).machineReadable.constraints.map
      (fun e => e.sourceRef.name.length)).sum = (cs.map (fun c => c.name.length)).sum := by
  have h := ((sourceRefs_perm opts workloads ns now cs).map (fun ref => ref.name.length)).sum_eq
  simpa only [List.map_map, Function.comp_def, sourceRef] using h

variable {cs}

/-- A report, at summary level as at any other, tells nothing of the names and
namespaces of other namespaces' constraints exactly when it has none of them. -/
theorem buildReportStatus_hides_iff :
    Hides (Varied ns) (buildReportStatus opts workloads ns now) cs ↔ ∀ c ∈ cs, ¬ HiddenFrom ns c := by
  constructor
  · intro h c hc hhidden
    have hsame := h.measure_eq
      (fun status => (status.machineReadable.constraints.map (fun e => e.sourceRef.name.length)).sum)
      (fun heq => heq ▸ rfl) (varied_map_veil ns cs)
    simp only [sum_length_sourceRef_name] at hsame
    exact Nat.ne_of_gt (sum_length_name_veil hc hhidden) hsame
  · intro hcs cs' hv
    rw [eq_of_varied hv hcs]

end Status

section Sample
attribute [local instance] asciiTables Apimachinery.model SortSlice.stable

theorem report_tells_hidden_policies_apart :
    Varied "team" [paymentsPolicy "deny-all"] [paymentsPolicy "allow-dns"] ∧
      buildReportStatus {} none "team" "t" [paymentsPolicy "allow-dns"] ≠
        buildReportStatus {} none "team" "t" [paymentsPolicy "deny-all"] := by
  refine ⟨.cons (.inr (variant_paymentsPolicy _ _)) .nil, fun h => ?_⟩
  have hrefs := sourceRefs_perm {} none "team" "t" [paymentsPolicy "allow-dns"]
  rw [h] at hrefs
  have hsame := hrefs.symm.trans (sourceRefs_perm {} none "team" "t" [paymentsPolicy "deny-all"])
  exact absurd (List.singleton_perm_singleton.mp hsame) (by decide)

end Sample

end ReportStatus

end Nightjar.Notifier
