import Mathlib.Algebra.BigOperators.Ring.Finset
import Nightjar.Lib.Float64
import Nightjar.Mcp.Resources
import Nightjar.Nightjarctl.Explain
import Nightjar.Notifier.ReportConvergence

namespace Nightjar

open Lib Lib.Strings Apimachinery

namespace Explain

variable {α : Type} {constraints constraints' : List α}

theorem ErrorKind.applies_perm (h : constraints.Perm constraints') (errorLower : String) (kind : ErrorKind α) :
    kind.applies errorLower constraints = kind.applies errorLower constraints' := by
  have hany : constraints.any kind.blames = constraints'.any kind.blames := by
    rw [Bool.eq_iff_iff, List.any_eq_true, List.any_eq_true]
    simp only [h.mem_iff]
  rw [ErrorKind.applies, ErrorKind.applies, hany]

theorem classify_perm (h : constraints.Perm constraints') (errorLower : String) (kinds : List (ErrorKind α))
    (otherwise : String) :
    (classify errorLower kinds otherwise constraints).found.Perm
        (classify errorLower kinds otherwise constraints').found ∧
      (classify errorLower kinds otherwise constraints).confidence =
        (classify errorLower kinds otherwise constraints').confidence ∧
      (classify errorLower kinds otherwise constraints).explanation =
        (classify errorLower kinds otherwise constraints').explanation := by
  have hfind : kinds.find? (ErrorKind.applies errorLower constraints) =
      kinds.find? (ErrorKind.applies errorLower constraints') :=
    congrArg (kinds.find? ·) (funext fun kind => kind.applies_perm h errorLower)
  rw [classify_eq, classify_eq, hfind]
  cases kinds.find? (ErrorKind.applies errorLower constraints') with
  | none => exact ⟨h, rfl, rfl⟩
  | some kind => exact ⟨h.filter _, rfl, rfl⟩

end Explain

namespace Nightjarctl

open Notifier Explain

structure ExplainResult where
  errorMessage : String
  explanation : String
  confidence : String
  matchingConstraints : List ConstraintInfo
  remediationSteps : List RemediationStep
deriving DecidableEq, Repr

structure RemediateResult where
  constraint : ConstraintInfo
  summary : String
  steps : List RemediationStep
deriving DecidableEq, Repr

structure NamespaceSummary where
  ns : String
  total : Int
  criticalCount : Int
  warningCount : Int
  infoCount : Int
deriving DecidableEq, Repr

structure StatusResult where
  namespaceSummaries : List NamespaceSummary
  totalConstraints : Int
  totalCritical : Int
  totalWarning : Int
  totalInfo : Int
  namespaceCount : Nat
deriving DecidableEq, Repr

section Commands
variable [Apimachinery] [Unicode]

abbrev ReportClient := Except String (String → Except String Unstructured)

omit [Apimachinery] [Unicode] in
def withReport {β : Type} (client : ReportClient) (ns : String) (command : Unstructured → Except String β) :
    Except String β :=
  match client with
  | .error err => .error ("failed to create client: " ++ err)
  | .ok get =>
      match get ns with
      | .error err => .error ("failed to get ConstraintReport: " ++ err)
      | .ok report => command report

def explainReport (errorMessage : String) (report : Unstructured) : ExplainResult :=
  let matching := matchError errorMessage (extractConstraints report "" "" "")
  { errorMessage := errorMessage
    explanation := matching.explanation
    confidence := matching.confidence
    matchingConstraints := matching.found
    remediationSteps := matching.found.flatMap (fun c => (c.remediation.map RemediationInfo.steps).getD []) }

def runExplain (errorMessage ns : String) (client : ReportClient) : Except String ExplainResult :=
  withReport client ns (fun report => .ok (explainReport errorMessage report))

def basicRemediation (constraintName : String) : RemediationInfo where
  summary := "Contact your platform team about constraint " ++ quote constraintName
  steps := [{ type := "manual", description := "Contact your platform team for assistance with this constraint",
              command := "", requiresPrivilege := "developer" }]

def remediateReport (constraintName ns : String) (report : Unstructured) : Except String RemediateResult :=
  match (extractConstraints report "" "" "").find? (fun c => c.name = constraintName) with
  | none => .error ("constraint " ++ quote constraintName ++ " not found in namespace " ++ quote ns)
  | some target =>
      let remediation := target.remediation.getD (basicRemediation constraintName)
      .ok ⟨target, remediation.summary, remediation.steps⟩

def runRemediate (constraintName ns : String) (client : ReportClient) : Except String RemediateResult :=
  withReport client ns (remediateReport constraintName ns)

omit [Apimachinery] [Unicode] in
/-- `getInt64`. A float outside the range of int64 has no defined value in Go; here it is cut off like
any other. -/
def getInt64 : Obj → List String → Option Int
  | _, [] => none
  | current, [field] =>
      match current.lookup field with
      | some (.int64 v) => some v
      | some (.float64 v) => some (Float64.truncate v)
      | some (.int v) => some v
      | _ => none
  | current, field :: fields =>
      match current.lookup field with
      | some (.map next) => getInt64 next fields
      | _ => none

omit [Unicode] in
def namespaceSummary (report : Unstructured) : NamespaceSummary where
  ns := getNamespace report
  total := (getInt64 report.object ["status", "constraintCount"]).getD 0
  criticalCount := (getInt64 report.object ["status", "criticalCount"]).getD 0
  warningCount := (getInt64 report.object ["status", "warningCount"]).getD 0
  infoCount := (getInt64 report.object ["status", "infoCount"]).getD 0

omit [Unicode] in
def addReport (r : StatusResult) (report : Unstructured) : StatusResult :=
  let summary := namespaceSummary report
  { namespaceSummaries := r.namespaceSummaries ++ [summary]
    totalConstraints := r.totalConstraints + summary.total
    totalCritical := r.totalCritical + summary.criticalCount
    totalWarning := r.totalWarning + summary.warningCount
    totalInfo := r.totalInfo + summary.infoCount
    namespaceCount := (r.namespaceSummaries ++ [summary]).length }

omit [Unicode] in
def statusOf (reports : List Unstructured) : StatusResult := reports.foldl addReport ⟨[], 0, 0, 0, 0, 0⟩

omit [Unicode] in
/-- `runStatus`, given what the API server answers to the listing of all reports. -/
def runStatus (client : Except String (Except String (List Unstructured))) : Except String StatusResult :=
  match client with
  | .error err => .error ("failed to create client: " ++ err)
  | .ok (.error err) => .error ("failed to list ConstraintReports: " ++ err)
  | .ok (.ok reports) => .ok (statusOf reports)

end Commands

section Written
variable [Apimachinery] [Unicode] [SortSlice] {opts : ReportReconcilerOptions} {ns : String}
  {constraints : List Constraint} {report : Unstructured}

omit [Apimachinery] in
def BuiltFrom (opts : ReportReconcilerOptions) (ns : String) (constraints : List Constraint)
    (report : Unstructured) : Prop :=
  ∃ workloads written listing, listing.Perm constraints ∧ report.object.lookup "status" =
    some (.map (ReportStatus.buildReportStatus opts workloads ns written listing).object)

omit [Apimachinery] [SortSlice] in
def ConstraintInfo.ofConstraint (opts : ReportReconcilerOptions) (ns : String) (c : Constraint) : ConstraintInfo where
  name := ReportStatus.scopedName opts c ns
  type := c.constraintType.text
  severity := c.severity.text
  effect := c.effect
  tags := c.tags
  remediation := some ⟨((ReportStatus.remediationBuilder opts).build c).summary,
    ((ReportStatus.remediationBuilder opts).build c).steps.map .ofReport⟩

theorem extractConstraints_builtFrom (h : BuiltFrom opts ns constraints report) :
    (extractConstraints report "" "" "").Perm (constraints.map (.ofConstraint opts ns)) := by
  obtain ⟨workloads, written, listing, hperm, hstatus⟩ := h
  have hsort := SortSlice.sort_perm (fun e => severityOrder e.severity)
    (listing.map (ReportStatus.buildMachineEntry opts · ns written))
  rw [extractConstraints_report hstatus sections_empty]
  refine (hsort.map _).trans ?_
  rw [List.map_map]
  exact hperm.map _

end Written

section Settled

/-- The server returns the report with the status that it stores for the namespace. -/
def Returns (store : ReportStore) (ns : String) (report : Unstructured) : Prop :=
  ∃ stored status, store.lookup ns = some stored ∧ stored.status = some status ∧
    report.object.lookup "status" = some (.map status.object)

variable [Apimachinery] [Unicode] [SortSlice] {opts : ReportReconcilerOptions} {start : ReportStore} {w : StoredWorld}
  {ns : String} {report : Unstructured}

theorem builtFrom_settled (h : w.Settled opts start ns) (hreport : Returns w.store ns report) :
    BuiltFrom opts ns (w.world.index.current.byNamespace ns) report := by
  obtain ⟨stored, status, hstored, hstatus, hobject⟩ := hreport
  rcases h.reflects with ⟨-, stored', hstored', hnone⟩ | ⟨workloads, stored', now, listing, hstored', hperm, hstatus'⟩
  · cases hstored.symm.trans hstored'
    cases hstatus.symm.trans hnone
  · cases hstored.symm.trans hstored'
    cases hstatus.symm.trans hstatus'
    exact ⟨workloads, now, listing, hperm, hobject⟩

section Explain

omit [Apimachinery] [SortSlice] in
theorem matchError_perm (errorMessage : String) {infos infos' : List ConstraintInfo} (h : infos.Perm infos') :
    (matchError errorMessage infos).found.Perm (matchError errorMessage infos').found ∧
      (matchError errorMessage infos).confidence = (matchError errorMessage infos').confidence ∧
      (matchError errorMessage infos).explanation = (matchError errorMessage infos').explanation :=
  classify_perm h ..

omit [Apimachinery] [SortSlice] in
theorem matchError_ofConstraint (opts : ReportReconcilerOptions) (ns errorMessage : String)
    {constraints : List Constraint} (h : ∀ c ∈ constraints, c.constraintType.Plain) :
    matchError errorMessage (constraints.map (.ofConstraint opts ns)) =
      ⟨(Mcp.matchErrorToConstraints errorMessage constraints).1.map (.ofConstraint opts ns),
        (Mcp.matchErrorToConstraints errorMessage constraints).2.1,
        (Mcp.matchErrorToConstraints errorMessage constraints).2.2⟩ := by
  have hkinds : List.Forall₂ (ErrorKind.Same (ConstraintInfo.ofConstraint opts ns) constraints)
      [networkErrors, admissionErrors, quotaErrors] ([Mcp.Topic.network, .admission, .quota].map Mcp.Topic.kind) := by
    rcases same_kinds h with _ | ⟨hnetwork, _ | ⟨hadmission, _ | ⟨hquota, _⟩⟩⟩
    exact .cons ⟨rfl, hnetwork.blames, rfl⟩ (.cons ⟨rfl, hadmission.blames, rfl⟩ (.cons ⟨rfl, hquota.blames, rfl⟩ .nil))
  have hmap := classify_map hkinds (toLower errorMessage) Mcp.Topic.any.explanation
  rw [Mcp.classify_topics, Matching.map] at hmap
  rw [matchError, ← hmap]
  rfl

omit [Apimachinery] [Unicode] [SortSlice] in
def ConstraintInfo.ofResult (r : Mcp.ConstraintResult) : ConstraintInfo where
  type := r.constraintType
  severity := r.severity
  effect := r.effect
  tags := r.tags
  remediation := r.remediation.map (fun m => ⟨m.summary, m.steps.map (fun s => .ofReport s.step)⟩)

omit [Apimachinery] [SortSlice] in
theorem ofResult_withRemediation (level : DetailLevel) (now : String) (c : Constraint) :
    ConstraintInfo.ofResult
        (Mcp.toConstraintResultWithRemediation (ReportStatus.remediationBuilder opts) level ns now c) =
      { ConstraintInfo.ofConstraint opts ns c with name := "" } := by
  simp [ConstraintInfo.ofResult, ConstraintInfo.ofConstraint, Mcp.toConstraintResultWithRemediation,
    Mcp.toConstraintResult, Mcp.toolStep, Function.comp_def]

/-- Once nothing is pending, the command line explains an error from the stored report as the MCP
server explains it from the index: by the same constraints, with the same remediation steps. -/
theorem settled_explain_agrees (h : w.Settled opts start ns) (hreport : Returns w.store ns report)
    (hplain : ∀ c ∈ w.world.index.current.byNamespace ns, c.constraintType.Plain) (hns : ns ≠ "")
    {errorMessage : String} (hmessage : errorMessage ≠ "") (level : DetailLevel) (now : String)
    {get : String → Except String Unstructured} (hget : get ns = .ok report) :
    ∃ cli mcp, runExplain errorMessage ns (.ok get) = .ok cli ∧
      Mcp.handleExplain (ReportStatus.remediationBuilder opts) level now (some ⟨errorMessage, ns⟩)
        w.world.index.current = .ok mcp ∧
      cli.explanation = mcp.explanation ∧ cli.confidence = mcp.confidence ∧
      (cli.matchingConstraints.map (fun info => { info with name := "" })).Perm
        (mcp.matchingConstraints.map .ofResult) ∧
      cli.remediationSteps.Perm (mcp.remediationSteps.map (fun s => .ofReport s.step)) := by
  have hrun : runExplain errorMessage ns (.ok get) = .ok (explainReport errorMessage report) := by
    rw [runExplain, withReport]
    simp only [hget]
  have hserved : ¬ (errorMessage = "" ∨ ns = "") := by simp [hmessage, hns]
  obtain ⟨hfound, hconfidence, hexplanation⟩ :=
    matchError_perm errorMessage (extractConstraints_builtFrom (builtFrom_settled h hreport))
  rw [matchError_ofConstraint opts ns errorMessage hplain] at hfound hconfidence hexplanation
  rw [hrun, explainReport, Mcp.handleExplain]
  dsimp only at hfound hconfidence hexplanation ⊢
  rw [if_neg hserved]
  generalize matchError errorMessage (extractConstraints report "" "" "") = matching at *
  generalize Mcp.matchErrorToConstraints errorMessage (w.world.index.current.byNamespace ns) = served at *
  refine ⟨_, _, rfl, rfl, hexplanation, hconfidence, ?_, ?_⟩
  · refine (hfound.map _).trans (.of_eq ?_)
    rw [List.map_map, List.map_map]
    exact List.map_congr_left fun c _ => (ofResult_withRemediation level now c).symm
  · refine (hfound.flatMap_right _).trans (.of_eq ?_)
    rw [List.flatMap_map, List.map_flatMap, List.flatMap_map]
    refine List.flatMap_congr fun c _ => ?_
    simp [ConstraintInfo.ofConstraint, Mcp.toConstraintResultWithRemediation, Mcp.toolStep, Function.comp_def]

end Explain

/-- Once nothing is pending, the command line and the MCP server remediate a constraint alike, provided
that the report calls by this name what has it, and that all of these have one remediation. -/
theorem settled_remediate_agrees (h : w.Settled opts start ns) (hreport : Returns w.store ns report) (hns : ns ≠ "")
    {name : String} (hname : name ≠ "")
    (hshown : ∀ c ∈ w.world.index.current.byNamespace ns, ReportStatus.scopedName opts c ns = name ↔ c.name = name)
    (hone : ∀ c ∈ w.world.index.current.byNamespace ns, ∀ c' ∈ w.world.index.current.byNamespace ns, c.name = name →
      c'.name = name → (ReportStatus.remediationBuilder opts).build c = (ReportStatus.remediationBuilder opts).build c')
    {byNamespace : String → List Constraint} (henum : Mcp.Enumerates w.world.index.current byNamespace)
    {get : String → Except String Unstructured} (hget : get ns = .ok report) :
    (∃ cli mcp, runRemediate name ns (.ok get) = .ok cli ∧
        Mcp.handleRemediation (ReportStatus.remediationBuilder opts) (some ⟨name, ns⟩) byNamespace = .ok mcp ∧
        cli.constraint.name = name ∧ cli.summary = mcp.summary ∧
        cli.steps = mcp.steps.map (fun s => .ofReport s.step)) ∨
      ((∀ c ∈ w.world.index.current.byNamespace ns, c.name ≠ name) ∧
        runRemediate name ns (.ok get) =
          .error ("constraint " ++ quote name ++ " not found in namespace " ++ quote ns) ∧
        Mcp.handleRemediation (ReportStatus.remediationBuilder opts) (some ⟨name, ns⟩) byNamespace =
          .error (Mcp.notFound "Constraint not found")) := by
  have hread := extractConstraints_builtFrom (builtFrom_settled h hreport)
  rw [runRemediate, withReport, Mcp.handleRemediation_named _ hns hname]
  simp only [hget, remediateReport]
  cases hcli : (extractConstraints report "" "" "").find? (fun c => c.name = name) with
  | none =>
      have habsent : ∀ c ∈ w.world.index.current.byNamespace ns, c.name ≠ name := by
        intro c hc hcname
        have hmem := hread.mem_iff.mpr (List.mem_map_of_mem hc)
        exact List.find?_eq_none.mp hcli _ hmem (decide_eq_true ((hshown c hc).mpr hcname))
      have hmcp : (byNamespace ns).find? (fun c => c.name = name) = none :=
        List.find?_eq_none.mpr fun c hc => by simpa using habsent c ((henum ns).mem_iff.mp hc)
      rw [hmcp]
      exact .inr ⟨habsent, rfl, rfl⟩
  | some target =>
      obtain ⟨c, hc, rfl⟩ := List.mem_map.mp (hread.mem_iff.mp (List.mem_of_find?_eq_some hcli))
      have hfound := List.find?_some hcli
      have hcshown : ReportStatus.scopedName opts c ns = name := of_decide_eq_true hfound
      have hcname : c.name = name := (hshown c hc).mp hcshown
      cases hmcp : (byNamespace ns).find? (fun c => c.name = name) with
      | none => exact absurd (decide_eq_true hcname) (List.find?_eq_none.mp hmcp c ((henum ns).mem_iff.mpr hc))
      | some c' =>
          have hc' := (henum ns).mem_iff.mp (List.mem_of_find?_eq_some hmcp)
          have hfound' := List.find?_some hmcp
          have hsame := hone c hc c' hc' hcname (of_decide_eq_true hfound')
          refine .inl ⟨_, _, rfl, rfl, hcshown, ?_, ?_⟩
          · rw [Mcp.remediationResult, ← hsame]
            rfl
          · rw [Mcp.remediationResult, ← hsame, List.map_map]
            rfl

section Status

omit [Unicode] [SortSlice] in
theorem statusOf_eq (reports : List Unstructured) :
    statusOf reports =
      { namespaceSummaries := reports.map namespaceSummary
        totalConstraints := (reports.map (fun r => (namespaceSummary r).total)).sum
        totalCritical := (reports.map (fun r => (namespaceSummary r).criticalCount)).sum
        totalWarning := (reports.map (fun r => (namespaceSummary r).warningCount)).sum
        totalInfo := (reports.map (fun r => (namespaceSummary r).infoCount)).sum
        namespaceCount := reports.length } := by
  induction reports using List.reverseRecOn with
  | nil => rfl
  | append_singleton reports report ih =>
      rw [statusOf, List.foldl_append, ← statusOf, ih]
      simp [addReport]

omit [Apimachinery] [Unicode] [SortSlice] in
/-- The numbers that the report of the MCP server for the namespace has. -/
def NamespaceSummary.ofReport (r : Mcp.Report) : NamespaceSummary :=
  ⟨r.ns, r.constraintCount, r.criticalCount, r.warningCount, r.infoCount⟩

theorem namespaceSummary_builtFrom {constraints : List Constraint} (hreport : BuiltFrom opts ns constraints report) :
    namespaceSummary report =
      ⟨getNamespace report, constraints.length, constraints.countP (fun c => c.severity = .critical),
        constraints.countP (fun c => c.severity = .warning), constraints.countP (fun c => c.severity = .info)⟩ := by
  obtain ⟨workloads, written, listing, hperm, hstatus⟩ := hreport
  rw [← hperm.length_eq, ← hperm.countP_eq, ← hperm.countP_eq, ← hperm.countP_eq]
  simp [namespaceSummary, getInt64, hstatus, ConstraintReportStatus.object, ReportStatus.buildReportStatus,
    List.lookup_cons]

omit [Apimachinery] [Unicode] [SortSlice] in
/-- The constraints with the property, each counted once for every one of the namespaces that it applies to. -/
def listings (idx : Indexer) (nss : List String) (p : Constraint → Bool) : Nat :=
  ((idx.all.filter p).map (fun c => nss.countP (matchesNamespace c))).sum

omit [Apimachinery] [Unicode] [SortSlice] in
theorem sum_byNamespace (idx : Indexer) (nss : List String) (p : Constraint → Bool) :
    (nss.map (fun ns => ((idx.byNamespace ns).countP p : Int))).sum = listings idx nss p := by
  have hrow (ns : String) : (idx.byNamespace ns).countP p = (idx.all.filter p).countP (matchesNamespace · ns) := by
    rw [Indexer.byNamespace, List.countP_filter, List.countP_filter]
    exact List.countP_congr fun c _ => by rw [Bool.and_comm]
  have hsum := sum_countP_comm (fun ns c => matchesNamespace c ns) nss (idx.all.filter p)
  rw [listings, ← hsum, Nat.cast_list_sum, List.map_map]
  simp only [hrow]
  rfl

/-- Once nothing is pending, the command line lists each namespace of the reports with the numbers of
the MCP server's report for it, and its totals count a constraint once for every one of these
namespaces that it applies to. -/
theorem settled_status_agrees {reports : List Unstructured}
    (h : ∀ r ∈ reports, w.Settled opts start (getNamespace r) ∧ Returns w.store (getNamespace r) r)
    (rb : RemediationBuilder) (level : DetailLevel) (now : String) :
    ∃ result, runStatus (.ok (.ok reports)) = .ok result ∧
      result.namespaceSummaries = reports.map (fun r => .ofReport
        (Mcp.buildReport rb level now (w.world.index.current.byNamespace (getNamespace r)) (getNamespace r))) ∧
      result.namespaceCount = reports.length ∧
      result.totalConstraints = listings w.world.index.current (reports.map getNamespace) (fun _ => true) ∧
      result.totalCritical =
        listings w.world.index.current (reports.map getNamespace) (fun c => c.severity = .critical) ∧
      result.totalWarning =
        listings w.world.index.current (reports.map getNamespace) (fun c => c.severity = .warning) ∧
      result.totalInfo = listings w.world.index.current (reports.map getNamespace) (fun c => c.severity = .info) := by
  have hsummary {r : Unstructured} (hr : r ∈ reports) : namespaceSummary r = .ofReport
      (Mcp.buildReport rb level now (w.world.index.current.byNamespace (getNamespace r)) (getNamespace r)) := by
    obtain ⟨hsettled, hreturns⟩ := h r hr
    rw [namespaceSummary_builtFrom (builtFrom_settled hsettled hreturns)]
    rfl
  have htotal (f : NamespaceSummary → Int) (p : Constraint → Bool)
      (hf : ∀ ns, f (.ofReport (Mcp.buildReport rb level now (w.world.index.current.byNamespace ns) ns)) =
        (w.world.index.current.byNamespace ns).countP p) :
      (reports.map (fun r => f (namespaceSummary r))).sum =
        listings w.world.index.current (reports.map getNamespace) p := by
    rw [← sum_byNamespace, List.map_map]
    refine congrArg List.sum (List.map_congr_left fun r hr => ?_)
    rw [hsummary hr, hf]
    rfl
  refine ⟨_, rfl, ?_⟩
  rw [statusOf_eq]
  refine ⟨List.map_congr_left fun r hr => hsummary hr, rfl, ?_, ?_, ?_, ?_⟩
  · exact htotal NamespaceSummary.total _ fun ns => by rw [List.countP_true]; rfl
  · exact htotal NamespaceSummary.criticalCount _ fun ns => rfl
  · exact htotal NamespaceSummary.warningCount _ fun ns => rfl
  · exact htotal NamespaceSummary.infoCount _ fun ns => rfl

end Status

end Settled

section Samples

attribute [local instance] Apimachinery.model asciiTables SortSlice.stable

def teamReport : Unstructured :=
  ⟨[("metadata", .map [("name", .str "constraints"), ("namespace", .str "team"), ("resourceVersion", .str "2")]),
    ("status", .map (ReportStatus.buildReportStatus {} none "team" "t" [sampleConstraint "team"]).object)]⟩

def teamReports (ns : String) : Except String Unstructured :=
  if ns = "team" then .ok teamReport else .error "not found"

theorem returns_teamReport : Returns storedTeam.store "team" teamReport := ⟨_, _, rfl, rfl, rfl⟩

theorem byNamespace_team : storedTeam.world.index.current.byNamespace "team" = [sampleConstraint "team"] := rfl

theorem settled_explain_agrees_team : ∃ cli mcp,
    runExplain "denied by policy" "team" (.ok teamReports) = .ok cli ∧
      Mcp.handleExplain (.new "your platform team") .full "now" (some ⟨"denied by policy", "team"⟩)
        storedTeam.world.index.current = .ok mcp ∧
      cli.explanation = mcp.explanation ∧ cli.confidence = mcp.confidence ∧
      (cli.matchingConstraints.map (fun info => { info with name := "" })).Perm
        (mcp.matchingConstraints.map .ofResult) ∧
      cli.remediationSteps.Perm (mcp.remediationSteps.map (fun s => .ofReport s.step)) := by
  refine settled_explain_agrees settled_storedTeam returns_teamReport ?_
    (by decide) (by decide) .full "now" (show teamReports "team" = .ok teamReport from rfl)
  rw [byNamespace_team]
  intro c hc
  rw [List.mem_singleton.mp hc]
  trivial

theorem settled_remediate_agrees_team : ∃ cli mcp,
    runRemediate "sample" "team" (.ok teamReports) = .ok cli ∧
      Mcp.handleRemediation (.new "your platform team") (some ⟨"sample", "team"⟩)
        storedTeam.world.index.current.byNamespace = .ok mcp ∧
      cli.constraint.name = "sample" ∧ cli.summary = mcp.summary ∧
      cli.steps = mcp.steps.map (fun s => .ofReport s.step) := by
  have hagree := settled_remediate_agrees settled_storedTeam returns_teamReport
    (by decide) (show "sample" ≠ "" by decide) (by rw [byNamespace_team]; decide)
    (by
      rw [byNamespace_team]
      intro c hc c' hc' _ _
      rw [List.mem_singleton.mp hc, List.mem_singleton.mp hc'])
    (fun _ => .refl _) (show teamReports "team" = .ok teamReport from rfl)
  refine hagree.resolve_right fun habsent => ?_
  exact habsent.1 _ (by rw [byNamespace_team]; exact List.mem_singleton_self _) rfl

theorem settled_status_agrees_team : ∃ result, runStatus (.ok (.ok [teamReport])) = .ok result ∧
    result.totalCritical = listings storedTeam.world.index.current ["team"] (fun c => c.severity = .critical) := by
  have hreports : ∀ r ∈ [teamReport], storedTeam.Settled {} teamStart (getNamespace r) ∧
      Returns storedTeam.store (getNamespace r) r := by
    intro r hr
    rw [List.mem_singleton.mp hr]
    exact ⟨settled_storedTeam, returns_teamReport⟩
  obtain ⟨result, hresult, -, -, -, hcritical, -⟩ := settled_status_agrees hreports (.new "") .full "now"
  exact ⟨result, hresult, hcritical⟩

end Samples

end Nightjarctl

end Nightjar
