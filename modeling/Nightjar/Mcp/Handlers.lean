import Nightjar.Notifier.ReportStatus

namespace Nightjar.Mcp

open Lib Lib.Strings Notifier

structure HttpError where
  message : String
  status : Nat
deriving DecidableEq, Repr

def badRequest (message : String) : HttpError := ⟨message, 400⟩

structure QueryParams where
  ns : String
  workloadLabels : List (String × String) := []
  constraintType : String := ""
  severity : String := ""
  includeRemediation : Bool := false
deriving DecidableEq, Repr

structure ExplainParams where
  errorMessage : String
  ns : String
deriving DecidableEq, Repr

/-- `mcp.RemediationStep`: a step with the note whether a tool can run it. -/
structure ToolStep where
  step : RemediationStep
  automated : Bool
deriving DecidableEq, Repr

structure RemediationResult where
  summary : String
  steps : List ToolStep
deriving DecidableEq, Repr

structure ConstraintResult where
  name : String
  ns : String
  constraintType : String
  severity : String
  sourceKind : String
  sourceAPIVersion : String
  effect : String
  remediation : Option RemediationResult := none
  metrics : List (String × MetricDataPoint)
  tags : List String
  detailLevel : String
  lastObserved : String

structure QueryResult where
  ns : String
  constraints : List ConstraintResult
  total : Nat

structure ExplainResult where
  explanation : String
  matchingConstraints : List ConstraintResult
  confidence : String
  remediationSteps : List ToolStep

structure ReportEntry where
  name : String
  type : String
  severity : String
  effect : String
  source : String
  remediation : Option RemediationResult
  tags : List String

structure Report where
  ns : String
  constraintCount : Nat
  criticalCount : Nat
  warningCount : Nat
  infoCount : Nat
  constraints : List ReportEntry
  schemaVersion : String
  detailLevel : String
  generatedAt : String

def gvrToKind (gvr : GVR) : String :=
  match gvr.resource with
  | "networkpolicies" => "NetworkPolicy"
  | "resourcequotas" => "ResourceQuota"
  | "limitranges" => "LimitRange"
  | "validatingwebhookconfigurations" => "ValidatingWebhookConfiguration"
  | "mutatingwebhookconfigurations" => "MutatingWebhookConfiguration"
  | "ciliumnetworkpolicies" => "CiliumNetworkPolicy"
  | "ciliumclusterwidenetworkpolicies" => "CiliumClusterwideNetworkPolicy"
  | resource => capitalize (if 1 < resource.length then trimSuffix resource "s" else resource).toList

def guessUnit (resourceName : String) : String :=
  if resourceName = "cpu" || hasSuffix resourceName ".cpu" then "cores"
  else if resourceName = "memory" || hasSuffix resourceName ".memory" then "bytes"
  else if contains resourceName "storage" then "bytes"
  else "count"

def extractMetrics (c : Constraint) : List (String × MetricDataPoint) := EventBuilder.metricsWith guessUnit c

/-- What an error message is about. -/
inductive Topic where
  | network
  | admission
  | quota
  | any
deriving DecidableEq, Repr

namespace Topic

def patterns : Topic → List String
  | network => ["connection refused", "connection timed out", "network unreachable", "no route to host", "dial tcp",
      "i/o timeout", "egress", "ingress"]
  | admission => ["denied", "rejected", "forbidden", "admission", "webhook", "not allowed", "policy violation",
      "constraint"]
  | quota => ["exceeded quota", "resource quota", "limit exceeded", "insufficient", "cpu", "memory", "storage"]
  | any => []

def relevant : Topic → Constraint → Bool
  | network, c => decide (c.constraintType = .networkIngress) || decide (c.constraintType = .networkEgress)
  | admission, c => decide (c.constraintType = .admission)
  | quota, c => decide (c.constraintType = .resourceLimit)
  | any, _ => true

def confidence : Topic → String
  | any => "low"
  | _ => "high"

def explanation : Topic → String
  | network => "This error appears to be network-related. The following network policies may be blocking traffic."
  | admission => "This error appears to be from an admission controller. " ++
      "The following admission policies may be rejecting the request."
  | quota => "This error appears to be quota-related. The following resource quotas may be limiting resources."
  | any => "Could not determine the specific cause. " ++
      "Here are all constraints in the namespace that might be relevant."

end Topic

section Handlers
variable [Unicode] [LabelSelectors] [SortSlice]

omit [LabelSelectors] [SortSlice] in
/-- The first topic whose words are in the message and that some constraint is on. -/
def topicOf (errorMessage : String) (constraints : List Constraint) : Topic :=
  ([Topic.network, .admission, .quota].find? (fun topic =>
    topic.patterns.any (contains (toLower errorMessage)) && constraints.any topic.relevant)).getD .any

omit [LabelSelectors] [SortSlice] in
def matchErrorToConstraints (errorMessage : String) (constraints : List Constraint) :
    List Constraint × String × String :=
  let topic := topicOf errorMessage constraints
  (constraints.filter topic.relevant, topic.confidence, topic.explanation)

omit [Unicode] [LabelSelectors] [SortSlice] in
def toConstraintResult (c : Constraint) (level : DetailLevel) (viewerNamespace now : String) : ConstraintResult where
  name := EventBuilder.scopedConstraintName c level viewerNamespace
  ns := if EventBuilder.canShowNamespace c level viewerNamespace then c.ns else ""
  constraintType := c.constraintType.text
  severity := c.severity.text
  sourceKind := gvrToKind c.source
  sourceAPIVersion := gvrToAPIVersion c.source
  effect := c.effect
  metrics :=
    if c.constraintType = .resourceLimit ∧ EventBuilder.atLeastDetailed level then extractMetrics c else []
  tags := c.tags
  detailLevel := level.text
  lastObserved := now

omit [Unicode] [LabelSelectors] [SortSlice] in
def toolStep (step : RemediationStep) : ToolStep :=
  ⟨step, decide (step.type = "kubectl") || decide (step.type = "annotation")⟩

omit [LabelSelectors] [SortSlice] in
def toConstraintResultWithRemediation (rb : RemediationBuilder) (level : DetailLevel) (ns now : String)
    (c : Constraint) : ConstraintResult :=
  let remediation := rb.build c
  { toConstraintResult c level ns now with
    remediation := some ⟨remediation.summary, remediation.steps.map toolStep⟩ }

omit [Unicode] [LabelSelectors] [SortSlice] in
def passesFilters (params : QueryParams) (c : Constraint) : Bool :=
  (decide (params.constraintType = "") || decide (c.constraintType.text = params.constraintType)) &&
    (decide (params.severity = "") || decide (c.severity.text = params.severity))

omit [Unicode] [LabelSelectors] [SortSlice] in
def filterConstraints (constraints : List Constraint) (params : QueryParams) : List Constraint :=
  constraints.filter (passesFilters params)

variable (rb : RemediationBuilder) (level : DetailLevel) (now : String)

/-- `HandleQuery`, given the decoded body if it could be decoded and the answer of
the privacy resolver. -/
def handleQuery (body : Option QueryParams) (idx : Indexer) : Except HttpError QueryResult :=
  match body with
  | none => .error (badRequest "Invalid request body")
  | some params =>
      if params.ns = "" then .error (badRequest "namespace is required")
      else
        let constraints :=
          if params.workloadLabels.length > 0 then idx.byLabels params.ns params.workloadLabels
          else idx.byNamespace params.ns
        let results := (filterConstraints constraints params).map (fun c =>
          if params.includeRemediation then toConstraintResultWithRemediation rb level params.ns now c
          else toConstraintResult c level params.ns now)
        .ok ⟨params.ns, SortSlice.sort (fun r => severityOrder r.severity) results, results.length⟩

omit [LabelSelectors] [SortSlice] in
def handleExplain (body : Option ExplainParams) (idx : Indexer) : Except HttpError ExplainResult :=
  match body with
  | none => .error (badRequest "Invalid request body")
  | some params =>
      if params.errorMessage = "" ∨ params.ns = "" then
        .error (badRequest "error_message and namespace are required")
      else
        let found := matchErrorToConstraints params.errorMessage (idx.byNamespace params.ns)
        let results := found.1.map (toConstraintResultWithRemediation rb level params.ns now)
        .ok {
          explanation := found.2.2
          matchingConstraints := results
          confidence := found.2.1
          remediationSteps := results.flatMap (fun r => (r.remediation.map RemediationResult.steps).getD []) }

omit [LabelSelectors] [SortSlice] in
def buildReportEntry (ns : String) (c : Constraint) : ReportEntry :=
  let result := toConstraintResultWithRemediation rb level ns now c
  ⟨result.name, result.constraintType, result.severity, result.effect, result.sourceKind, result.remediation,
    result.tags⟩

omit [LabelSelectors] [SortSlice] in
def buildReport (constraints : List Constraint) (ns : String) : Report where
  ns := ns
  constraintCount := constraints.length
  criticalCount := constraints.countP (fun c => c.severity = .critical)
  warningCount := constraints.countP (fun c => c.severity = .warning)
  infoCount := constraints.countP (fun c => c.severity = .info)
  constraints := constraints.map (buildReportEntry rb level now ns)
  schemaVersion := "1"
  detailLevel := level.text
  generatedAt := now

omit [Unicode] [LabelSelectors] [SortSlice] in
def reportNamespace (path : String) : String := trimSuffix (trimPrefix path "/resources/reports/") "/"

omit [LabelSelectors] [SortSlice] in
def handleReportResource (path : String) (idx : Indexer) : Except HttpError Report :=
  if reportNamespace path = "" then .error (badRequest "Namespace is required")
  else .ok (buildReport rb level now (idx.byNamespace (reportNamespace path)) (reportNamespace path))

end Handlers

/-- Two responses that are the same up to what `S` lets vary in their payload. -/
inductive SameResponse {β : Type} (S : β → β → Prop) : Except HttpError β → Except HttpError β → Prop
  | error (e : HttpError) : SameResponse S (.error e) (.error e)
  | ok {a b : β} (h : S a b) : SameResponse S (.ok a) (.ok b)

structure SameQuery (a b : QueryResult) : Prop where
  ns : a.ns = b.ns
  total : a.total = b.total
  constraints : a.constraints.Perm b.constraints

structure SameExplain (a b : ExplainResult) : Prop where
  explanation : a.explanation = b.explanation
  confidence : a.confidence = b.confidence
  matchingConstraints : a.matchingConstraints.Perm b.matchingConstraints
  remediationSteps : a.remediationSteps.Perm b.remediationSteps

structure SameReport (a b : Report) : Prop where
  constraints : a.constraints.Perm b.constraints
  rest : { a with constraints := [] } = { b with constraints := [] }

section Privacy
variable [Unicode] [LabelSelectors] [SortSlice] {rb : RemediationBuilder} {now ns : String} {idx idx' : Indexer}
  {c c' : Constraint}

omit [LabelSelectors] [SortSlice] in
theorem result_variant (h : Variant ns c c') (hs : Silent c) :
    toConstraintResultWithRemediation rb .summary ns now c' =
      toConstraintResultWithRemediation rb .summary ns now c := by
  have hresult : toConstraintResult c' .summary ns now = toConstraintResult c .summary ns now := by
    rw [toConstraintResult, toConstraintResult, EventBuilder.scopedConstraintName_hidden h.hidden,
      EventBuilder.scopedConstraintName_hidden h.hidden', if_neg (EventBuilder.canShowNamespace_hidden h.hidden),
      if_neg (EventBuilder.canShowNamespace_hidden h.hidden')]
    cases h
    rfl
  rw [toConstraintResultWithRemediation, toConstraintResultWithRemediation, build_variant rb h hs, hresult]

omit [Unicode] [LabelSelectors] [SortSlice] in
theorem relevant_variant (topic : Topic) (h : Variant ns c c') : topic.relevant c' = topic.relevant c := by
  cases h
  cases topic <;> rfl

/-- The constraints a query with the parameters selects among those of its namespace. -/
def selects (params : QueryParams) (c : Constraint) : Bool :=
  (decide (params.workloadLabels = []) || Util.matchesLabelSelector c.workloadSelector params.workloadLabels) &&
    passesFilters params c

omit [Unicode] [SortSlice] in
theorem filterConstraints_eq (params : QueryParams) (idx : Indexer) :
    filterConstraints (if params.workloadLabels.length > 0 then idx.byLabels params.ns params.workloadLabels
      else idx.byNamespace params.ns) params = (idx.byNamespace params.ns).filter (selects params) := by
  rw [filterConstraints]
  split
  · rename_i hlabels
    have hne : params.workloadLabels ≠ [] := List.ne_nil_of_length_pos hlabels
    rw [Indexer.byLabels_eq, List.filter_filter]
    exact List.filter_congr fun c _ => by simp [selects, hne, Bool.and_comm]
  · rename_i hlabels
    have hnil : params.workloadLabels = [] := List.eq_nil_of_length_eq_zero (Nat.eq_zero_of_not_pos hlabels)
    exact List.filter_congr fun c _ => by simp [selects, hnil]

section Same
variable (hv : IndexVaried ns idx idx') (hs : ∀ c ∈ idx.byNamespace ns, HiddenFrom ns c → Silent c)
include hv hs

theorem handleQuery_same {params : QueryParams} (hns : params.ns = ns) (hrem : params.includeRemediation = true) :
    SameResponse SameQuery (handleQuery rb .summary now (some params) idx')
      (handleQuery rb .summary now (some params) idx) := by
  subst hns
  have hperm := hv.view_perm (q := selects params) (r := toConstraintResultWithRemediation rb .summary params.ns now)
    (fun h => by cases h; rfl) (fun c hc c' hc' => result_variant hc' (hs c hc hc'.hidden))
  simp only [handleQuery, filterConstraints_eq, hrem, if_true]
  split
  · exact .error _
  · exact .ok ⟨rfl, hperm.length_eq, (SortSlice.sort_perm _ _).trans (hperm.trans (SortSlice.sort_perm _ _).symm)⟩

omit [LabelSelectors] [SortSlice] hs in
theorem topicOf_varied (errorMessage : String) :
    topicOf errorMessage (idx'.byNamespace ns) = topicOf errorMessage (idx.byNamespace ns) := by
  have hany (topic : Topic) := hv.any_eq (relevant_variant topic)
  simp only [topicOf, hany]

omit [LabelSelectors] [SortSlice] in
theorem handleExplain_same {params : ExplainParams} (hns : params.ns = ns) :
    SameResponse SameExplain (handleExplain rb .summary now (some params) idx')
      (handleExplain rb .summary now (some params) idx) := by
  subst hns
  have hperm (topic : Topic) := hv.view_perm (q := topic.relevant)
    (r := toConstraintResultWithRemediation rb .summary params.ns now)
    (relevant_variant topic) (fun c hc c' hc' => result_variant hc' (hs c hc hc'.hidden))
  simp only [handleExplain, matchErrorToConstraints, topicOf_varied hv]
  split
  · exact .error _
  · exact .ok ⟨rfl, rfl, hperm _, (hperm _).flatMap_right _⟩

omit [LabelSelectors] [SortSlice] in
theorem handleReportResource_same {path : String} (hns : reportNamespace path = ns) :
    SameResponse SameReport (handleReportResource rb .summary now path idx')
      (handleReportResource rb .summary now path idx) := by
  subst hns
  have hall : (idx'.byNamespace (reportNamespace path)).length = (idx.byNamespace (reportNamespace path)).length := by
    simpa only [List.countP_true] using hv.countP_eq (q := fun _ => true) (fun _ => rfl)
  have hcount (severity : Severity) := hv.countP_eq (q := fun c => c.severity = severity) (fun h => by cases h; rfl)
  have hperm := hv.view_perm (q := fun _ => true) (r := buildReportEntry rb .summary now (reportNamespace path))
    (fun _ => rfl) (fun c hc c' hc' => by
      rw [buildReportEntry, buildReportEntry, result_variant hc' (hs c hc hc'.hidden)])
  rw [List.filter_true, List.filter_true] at hperm
  rw [handleReportResource, handleReportResource]
  split
  · exact .error _
  · refine .ok ⟨hperm, ?_⟩
    simp only [buildReport, hall, hcount]

end Same

/-- The length of the command an entry proposes first. -/
def commandLength (e : ReportEntry) : Nat :=
  ((e.remediation.bind (·.steps.head?)).map (fun s => s.step.command.length)).getD 0

omit [LabelSelectors] [SortSlice] in
theorem commandLength_entry (hns : c.ns ≠ "") (hs : ¬ Silent c) (level : DetailLevel) :
    commandLength (buildReportEntry rb level now ns c) = (inspectCommand c).length := by
  obtain ⟨_, hhead⟩ := head_build rb hns hs
  simp [commandLength, buildReportEntry, toConstraintResultWithRemediation, toolStep, hhead]

omit [Unicode] [LabelSelectors] [SortSlice] in
theorem reportNamespace_path (ns : String) : reportNamespace ("/resources/reports/" ++ (ns ++ "/")) = ns := by
  rw [reportNamespace, trimPrefix_append, trimSuffix_append]

/-- The responses of the three handlers at summary level tell nothing of the names
and namespaces of constraints from other namespaces exactly when the remediation of
each of them is silent. -/
theorem handlers_hide_iff (rb : RemediationBuilder) (now ns : String) (idx : Indexer) :
    ((∀ params : QueryParams, params.ns = ns → params.includeRemediation = true →
        HidesUpTo (IndexVaried ns) (SameResponse SameQuery) (handleQuery rb .summary now (some params)) idx) ∧
      (∀ params : ExplainParams, params.ns = ns →
        HidesUpTo (IndexVaried ns) (SameResponse SameExplain) (handleExplain rb .summary now (some params)) idx) ∧
      (∀ path : String, reportNamespace path = ns →
        HidesUpTo (IndexVaried ns) (SameResponse SameReport) (handleReportResource rb .summary now path) idx)) ↔
      ns = "" ∨ ∀ c ∈ idx.byNamespace ns, HiddenFrom ns c → Silent c := by
  constructor
  · rintro ⟨-, -, hreport⟩
    by_cases hempty : ns = ""
    · exact .inl hempty
    · refine .inr fun c hc hhidden => by_contra fun hs => ?_
      have hns := reportNamespace_path ns
      have hsame := hreport _ hns _ (indexVaried_upsert hc (variant_relabel hhidden))
      rw [handleReportResource, handleReportResource, hns, if_neg hempty, if_neg hempty] at hsame
      obtain ⟨hentries, -⟩ : SameReport _ _ := by cases hsame with | ok h => exact h
      have hrelabel := variant_relabel hhidden
      have hlonger := sum_upsert_relabel hc hhidden
        (m := fun c => commandLength (buildReportEntry rb .summary now ns c)) (by
          rw [commandLength_entry hhidden.1 hs, commandLength_entry hrelabel.hidden'.1 (mt hrelabel.silent_iff.mp hs)]
          exact length_inspectCommand_relabel hs)
      have hsum := (hentries.map commandLength).sum_eq
      simp only [buildReport, List.map_map] at hsum
      exact Nat.ne_of_gt hlonger hsum
  · rintro (rfl | hs)
    · refine ⟨fun params hns _ idx' _ => ?_, fun params hns idx' _ => ?_, fun path hns idx' _ => ?_⟩
      · rw [handleQuery, handleQuery, if_pos hns, if_pos hns]
        exact .error _
      · rw [handleExplain, handleExplain, if_pos (.inr hns), if_pos (.inr hns)]
        exact .error _
      · rw [handleReportResource, handleReportResource, if_pos hns, if_pos hns]
        exact .error _
    · exact ⟨fun params hns hrem idx' hv => handleQuery_same hv hs hns hrem,
        fun params hns idx' hv => handleExplain_same hv hs hns,
        fun path hns idx' hv => handleReportResource_same hv hs hns⟩

end Privacy

section Sample
attribute [local instance] asciiTables

theorem mcp_report_tells_hidden_policies_apart :
    IndexVaried "team" paymentsIndex renamedIndex ∧
      ¬ SameResponse SameReport
        (handleReportResource (.new "") .summary "t" "/resources/reports/team" renamedIndex)
        (handleReportResource (.new "") .summary "t" "/resources/reports/team" paymentsIndex) := by
  refine ⟨indexVaried_payments, fun h => ?_⟩
  have hns : reportNamespace "/resources/reports/team" = "team" := by decide
  rw [handleReportResource, handleReportResource, hns, if_neg (by decide), if_neg (by decide),
    byNamespace_paymentsIndex, byNamespace_renamedIndex] at h
  obtain ⟨hentries, -⟩ : SameReport _ _ := by cases h with | ok h => exact h
  have hlength := congrArg commandLength (List.singleton_perm_singleton.mp hentries)
  rw [commandLength_entry (by decide) (by decide), commandLength_entry (by decide) (by decide)] at hlength
  exact absurd hlength (by decide)

end Sample

end Nightjar.Mcp
