import Nightjar.Notifier.ReportStatus

namespace Nightjar

open Lib Lib.Strings Apimachinery

namespace Notifier

def RemediationStep.object (s : RemediationStep) : Obj :=
  [("type", .str s.type), ("description", .str s.description)] ++ omitted "command" s.command ++
    omitted "patch" s.patch ++ omitted "template" s.template ++ omitted "url" s.url ++ omitted "contact" s.contact ++
    omitted "requiresPrivilege" s.requiresPrivilege

def RemediationInfo.object (r : RemediationInfo) : Obj :=
  ("summary", .str r.summary) :: omittedSlice "steps" (r.steps.map (fun s => .map (RemediationStep.object s)))

def MetricDataPoint.object (m : MetricDataPoint) : Obj :=
  [("hard", .str m.hard), ("used", .str m.used), ("unit", .str m.unit), ("percentUsed", .float64 m.percentUsed)]

def SourceReference.object (r : SourceReference) : Obj :=
  [("apiVersion", .str r.apiVersion), ("kind", .str r.kind), ("name", .str r.name)] ++ omitted "namespace" r.ns

def ConstraintEntry.object (e : ConstraintEntry) : Obj :=
  [("name", .str e.name), ("type", .str e.type), ("severity", .str e.severity), ("message", .str e.message),
    ("source", .str e.source), ("lastSeen", .str e.lastSeen)]

def MachineConstraintEntry.object (e : MachineConstraintEntry) : Obj :=
  [("uid", .str e.uid), ("name", .str e.name), ("constraintType", .str e.constraintType),
      ("severity", .str e.severity), ("effect", .str e.effect), ("sourceRef", .map e.sourceRef.object),
      ("remediation", .map e.remediation.object)] ++
    omitempty "metrics" (e.metrics ≠ []) (.map (e.metrics.map (fun m => (m.1, .map m.2.object)))) ++
    omittedSlice "tags" (e.tags.map .str) ++ [("lastObserved", .str e.lastObserved)]

def MissingResourceEntry.object (e : MissingResourceEntry) : Obj :=
  [("expectedKind", .str e.expectedKind), ("expectedAPIVersion", .str e.expectedAPIVersion),
    ("reason", .str e.reason), ("severity", .str e.severity),
    ("forWorkload", .map [("kind", .str e.forWorkload.kind), ("name", .str e.forWorkload.name)]),
    ("remediation", .map e.remediation.object)]

def MachineReadableReport.object (r : MachineReadableReport) : Obj :=
  [("schemaVersion", .str r.schemaVersion), ("generatedAt", .str r.generatedAt),
      ("detailLevel", .str r.detailLevel)] ++
    omittedSlice "constraints" (r.constraints.map (fun e => .map e.object)) ++
    omittedSlice "missingResources" (r.missingResources.map (fun e => .map e.object)) ++
    omittedSlice "tags" (r.tags.map .str)

def ConstraintReportStatus.object (s : ConstraintReportStatus) : Obj :=
  [("constraintCount", .int64 s.constraintCount), ("criticalCount", .int64 s.criticalCount),
      ("warningCount", .int64 s.warningCount), ("infoCount", .int64 s.infoCount)] ++
    omittedSlice "constraints" (s.constraints.map (fun e => .map e.object)) ++
    [("machineReadable", .map s.machineReadable.object), ("lastUpdated", .str s.lastUpdated)]

end Notifier

structure Manifest where
  object : Obj

/-- `sigs.k8s.io/yaml.Unmarshal` into a map; the nil map has no bindings. -/
class Yaml where
  unmarshal : String → Except String Manifest

namespace Manifest

def metadata (manifest : Manifest) : Obj := ((manifest.object.lookup "metadata").bind asMap).getD []

def ns (manifest : Manifest) : String :=
  let ns := Util.safeStringFromMap manifest.metadata "namespace"
  if ns = "" then "default" else ns

/-- The labels whose values are strings. -/
def labels (manifest : Manifest) : List (String × String) :=
  (bindings (((manifest.metadata.lookup "labels").bind asMap).getD [])).filterMap
    (fun b => (asString b.2).map (b.1, ·))

end Manifest

/-- A constraint that the pre-checks take for blocking. -/
def Constraint.blocks (c : Constraint) : Bool :=
  decide (c.constraintType.text = "Admission") && decide (c.severity.text = "Critical")

namespace Nightjarctl

open Notifier

structure RemediationStep where
  type : String
  description : String
  command : String
  requiresPrivilege : String
deriving DecidableEq, Repr

structure RemediationInfo where
  summary : String
  steps : List RemediationStep := []
deriving DecidableEq, Repr

structure ConstraintInfo where
  name : String := ""
  type : String := ""
  severity : String := ""
  effect : String := ""
  message : String := ""
  source : String := ""
  tags : List String := []
  remediation : Option RemediationInfo := none
deriving DecidableEq, Repr

structure ManifestInfo where
  kind : String
  name : String
  ns : String
deriving DecidableEq, Repr

structure CheckResult where
  wouldBlock : Bool
  blockingConstraints : List ConstraintInfo := []
  warnings : List String := []
  manifest : ManifestInfo
deriving DecidableEq, Repr

def asSlice : Any → Option (List Any)
  | .slice xs => some xs
  | _ => none

def safeString (m : Obj) (key : String) : String := Util.safeStringFromMap m key

def parseStep (m : Obj) : RemediationStep :=
  ⟨safeString m "type", safeString m "description", safeString m "command", safeString m "requiresPrivilege"⟩

def parseRemediation (m : Obj) : RemediationInfo where
  summary := safeString m "summary"
  steps := ((((m.lookup "steps").bind asSlice).getD []).filterMap asMap).map parseStep

def parseConstraintMap (m : Obj) : ConstraintInfo where
  name := safeString m "name"
  type := (((m.lookup "type").bind asString).or ((m.lookup "constraintType").bind asString)).getD ""
  severity := safeString m "severity"
  effect := safeString m "effect"
  message := safeString m "message"
  source := safeString m "source"
  remediation := ((m.lookup "remediation").bind asMap).map parseRemediation
  tags := (((m.lookup "tags").bind asSlice).getD []).filterMap asString

def passesFilters (typeFilter severityFilter : String) (info : ConstraintInfo) : Bool :=
  (decide (typeFilter = "") || decide (info.type = typeFilter)) &&
    (decide (severityFilter = "") || decide (info.severity = severityFilter))

def parseList (typeFilter severityFilter : String) (constraintsList : List Any) : List ConstraintInfo :=
  ((constraintsList.filterMap asMap).map parseConstraintMap).filter (passesFilters typeFilter severityFilter)

section Extract
variable [Apimachinery]

/-- `extractConstraints`. The workload filter is not used. -/
def extractConstraints (report : Unstructured) (typeFilter severityFilter _workloadFilter : String) :
    List ConstraintInfo :=
  let machineReadable := Util.safeNestedMap report.object ["status", "machineReadable"]
  match machineReadable.bind (fun m => Util.safeNestedSlice m ["constraints"]) with
  | some constraintsList => parseList typeFilter severityFilter constraintsList
  | none =>
      match Util.safeNestedSlice report.object ["status", "constraints"] with
      | some constraintsList => parseList typeFilter severityFilter constraintsList
      | none => []

omit [Apimachinery] in
def blocks (info : ConstraintInfo) : Bool := decide (info.type = "Admission") && decide (info.severity = "Critical")

omit [Apimachinery] in
def manifestInfo (manifest : Manifest) : ManifestInfo :=
  ⟨safeString manifest.object "kind", safeString manifest.metadata "name", manifest.ns⟩

/-- The part of `runCheck` after it has asked for the report of the namespace. -/
def checkReport (manifest : Manifest) (report : Except String Unstructured) : CheckResult :=
  match report with
  | .error _ => { wouldBlock := false, manifest := manifestInfo manifest }
  | .ok report =>
      let constraints := extractConstraints report "" "" ""
      let blocking := constraints.filter blocks
      let warnings := constraints.filter (fun c => !blocks c && decide (c.severity = "Warning"))
      { wouldBlock := decide (blocking.length > 0)
        blockingConstraints := blocking
        warnings := warnings.map (fun c => c.name ++ ": " ++ c.message)
        manifest := manifestInfo manifest }

/-- `runCheck`, given the file, the client if it could be created, and its answers for
the report of a namespace. -/
def runCheck [Yaml] (file : Except String String) (client : Except String (String → Except String Unstructured)) :
    Except String CheckResult :=
  match file with
  | .error err => .error ("failed to read manifest: " ++ err)
  | .ok data =>
      match Yaml.unmarshal data with
      | .error err => .error ("failed to parse manifest: " ++ err)
      | .ok manifest =>
          match client with
          | .error err => .error ("failed to create client: " ++ err)
          | .ok get => .ok (checkReport manifest (get manifest.ns))

end Extract

section RoundTrip

def RemediationStep.ofReport (s : Nightjar.RemediationStep) : RemediationStep :=
  ⟨s.type, s.description, s.command, s.requiresPrivilege⟩

/-- What the command line keeps of a machine-readable entry: neither message nor source. -/
def ConstraintInfo.ofReport (e : MachineConstraintEntry) : ConstraintInfo where
  name := e.name
  type := e.constraintType
  severity := e.severity
  effect := e.effect
  tags := e.tags
  remediation := some ⟨e.remediation.summary, e.remediation.steps.map .ofReport⟩

theorem safeString_eq (m : Obj) (key : String) : safeString m key = ((m.lookup key).bind asString).getD "" := by
  rw [safeString, Util.safeStringFromMap]
  split
  · rename_i s hlookup
    rw [hlookup]
    rfl
  · rename_i hlookup
    cases hv : m.lookup key with
    | none => rfl
    | some v =>
        cases v with
        | str s => exact absurd hv (hlookup s)
        | _ => rfl

theorem getD_omitted (s : String) : ((if s = "" then none else some (Any.str s)).bind asString).getD "" = s := by
  split
  · exact Eq.symm ‹s = ""›
  · rfl

theorem parseStep_object (s : Nightjar.RemediationStep) : parseStep (RemediationStep.object s) = .ofReport s := by
  simp [parseStep, safeString_eq, RemediationStep.object, RemediationStep.ofReport, omitted, List.lookup_append,
    List.lookup_cons, lookup_omitempty, getD_omitted, asString]

theorem getD_omittedSlice {β : Type} (f : β → Any) (xs : List β) :
    ((if xs = [] then none else some (Any.slice (xs.map f))).bind asSlice).getD [] = xs.map f := by
  split
  · rw [‹xs = []›]
    rfl
  · rfl

theorem parseRemediation_object (r : Notifier.RemediationInfo) :
    parseRemediation r.object = ⟨r.summary, r.steps.map .ofReport⟩ := by
  have hsummary : safeString r.object "summary" = r.summary := by
    simp [safeString_eq, RemediationInfo.object, asString]
  have hsteps : ((r.object.lookup "steps").bind asSlice).getD [] =
      r.steps.map (fun s => .map (RemediationStep.object s)) := by
    rw [← getD_omittedSlice]
    simp [RemediationInfo.object, omittedSlice, List.lookup_cons, lookup_omitempty]
  have hparse : (r.steps.map RemediationStep.object).map parseStep = r.steps.map .ofReport := by
    rw [List.map_map]
    exact List.map_congr_left fun s _ => parseStep_object s
  rw [parseRemediation, hsummary, hsteps, filterMap_asMap, hparse]

theorem parseConstraintMap_object (e : MachineConstraintEntry) : parseConstraintMap e.object = .ofReport e := by
  have htags : ((e.object.lookup "tags").bind asSlice).getD [] = e.tags.map .str := by
    rw [← getD_omittedSlice]
    simp [MachineConstraintEntry.object, omittedSlice, List.lookup_append, List.lookup_cons, lookup_omitempty]
  rw [parseConstraintMap, htags, filterMap_asString]
  simp [safeString_eq, MachineConstraintEntry.object, ConstraintInfo.ofReport, omittedSlice, List.lookup_append,
    List.lookup_cons, lookup_omitempty, asString, asMap, parseRemediation_object]

end RoundTrip

section Report
variable [Apimachinery]

omit [Apimachinery] in
theorem parseList_object (entries : List MachineConstraintEntry) :
    parseList "" "" (entries.map (fun e => .map e.object)) = entries.map .ofReport := by
  have hfilters : passesFilters "" "" = fun _ => true := rfl
  rw [parseList, filterMap_asMap, List.map_map, hfilters, List.filter_true]
  exact List.map_congr_left fun e _ => parseConstraintMap_object e

theorem extractConstraints_report {report : Unstructured} {status : ConstraintReportStatus}
    (hstatus : report.object.lookup "status" = some (.map status.object))
    (hsections : status.machineReadable.constraints = [] → status.constraints = []) :
    extractConstraints report "" "" "" = status.machineReadable.constraints.map .ofReport := by
  have hmachine : Util.safeNestedMap (some report.object) ["status", "machineReadable"] =
      some status.machineReadable.object := by
    rw [Util.safeNestedMap_eq_some, field, walk, hstatus]
    simp [walk, ConstraintReportStatus.object, omittedSlice, List.lookup_append, List.lookup_cons, lookup_omitempty]
  have hentries : field status.machineReadable.object ["constraints"] =
      if status.machineReadable.constraints.map (fun e => Any.map e.object) = [] then none
      else some (.slice (status.machineReadable.constraints.map (fun e => .map e.object))) := by
    simp [field, walk, MachineReadableReport.object, omittedSlice, List.lookup_append, List.lookup_cons,
      lookup_omitempty]
  rw [extractConstraints, hmachine, Option.bind_some, Util.safeNestedSlice_omitted hentries]
  by_cases hnone : status.machineReadable.constraints = []
  · have hhuman : field report.object ["status", "constraints"] =
        if ([] : List Any) = [] then none else some (.slice []) := by
      rw [field, walk, hstatus]
      simp [walk, ConstraintReportStatus.object, omittedSlice, List.lookup_append, List.lookup_cons, lookup_omitempty,
        hsections hnone]
    rw [hnone, Util.safeNestedSlice_omitted hhuman]
    rfl
  · rw [if_neg (by simpa using hnone)]
    exact parseList_object _

/-- The status of the report is what the reconciler would write now. -/
def UpToDate [Unicode] [SortSlice] (idx : Indexer) (ns : String) (report : Unstructured) : Prop :=
  ∃ opts workloads now constraints, constraints.Perm (idx.byNamespace ns) ∧
    report.object.lookup "status" =
      some (.map (ReportStatus.buildReportStatus opts workloads ns now constraints).object)

omit [Apimachinery] in
theorem blocks_ofReport [Unicode] {opts : ReportReconcilerOptions} {ns now : String} (c : Constraint) :
    blocks (.ofReport (ReportStatus.buildMachineEntry opts c ns now)) = c.blocks :=
  rfl

theorem sections_empty [Unicode] [SortSlice] {opts : ReportReconcilerOptions} {workloads : Option (List WorkloadList)}
    {ns now : String} {constraints : List Constraint}
    (h : (ReportStatus.buildReportStatus opts workloads ns now constraints).machineReadable.constraints = []) :
    (ReportStatus.buildReportStatus opts workloads ns now constraints).constraints = [] := by
  have hmachine := (SortSlice.sort_perm (fun e => severityOrder e.severity)
    (constraints.map (ReportStatus.buildMachineEntry opts · ns now))).length_eq
  have hhuman := SortSlice.sort_perm (fun e => severityOrder e.severity)
    (constraints.map (ReportStatus.buildEntry opts · ns now))
  rw [show SortSlice.sort _ _ = [] from h, List.length_nil, List.length_map] at hmachine
  rw [List.length_eq_zero_iff.mp hmachine.symm] at hhuman ⊢
  exact List.perm_nil.mp hhuman

theorem exists_blocks_iff [Unicode] [SortSlice] {idx : Indexer} {ns : String} {report : Unstructured}
    (h : UpToDate idx ns report) :
    (∃ info ∈ extractConstraints report "" "" "", blocks info = true) ↔ ∃ c ∈ idx.byNamespace ns, c.blocks = true := by
  obtain ⟨opts, workloads, now, constraints, hperm, hstatus⟩ := h
  have hmachine := SortSlice.sort_perm (fun e => severityOrder e.severity)
    (constraints.map (ReportStatus.buildMachineEntry opts · ns now))
  rw [extractConstraints_report hstatus sections_empty]
  constructor
  · rintro ⟨info, hinfo, hblocks⟩
    obtain ⟨entry, hentry, rfl⟩ := List.mem_map.mp hinfo
    obtain ⟨c, hc, rfl⟩ := List.mem_map.mp (hmachine.mem_iff.mp hentry)
    exact ⟨c, hperm.mem_iff.mp hc, (blocks_ofReport c).symm.trans hblocks⟩
  · rintro ⟨c, hc, hblocking⟩
    exact ⟨_, List.mem_map_of_mem (hmachine.mem_iff.mpr (List.mem_map_of_mem (hperm.mem_iff.mpr hc))),
      (blocks_ofReport c).trans hblocking⟩

theorem wouldBlock_checkReport [Unicode] [SortSlice] {idx : Indexer} {manifest : Manifest} {report : Unstructured}
    (h : UpToDate idx manifest.ns report) :
    (checkReport manifest (.ok report)).wouldBlock = true ↔ ∃ c ∈ idx.byNamespace manifest.ns, c.blocks = true := by
  rw [← exists_blocks_iff h, checkReport]
  simp [List.length_pos_iff_exists_mem, List.mem_filter]

end Report

end Nightjarctl

end Nightjar
