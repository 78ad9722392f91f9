import Nightjar.Correlator
import Nightjar.Unstructured
import Nightjar.Lib.Json
import Nightjar.Notifier.Privacy

namespace Nightjar.Notifier

open Lib Lib.Strings

structure WorkloadRef where
  apiVersion : String := ""
  kind : String
  name : String
  ns : String
  uid : String := ""
deriving DecidableEq, Repr

structure MetricDataPoint where
  hard : String := ""
  used : String := ""
  unit : String
  percentUsed : Rat := 0

structure EventStructuredData where
  schemaVersion : String
  constraintUID : String
  constraintName : String
  constraintNamespace : String
  constraintType : String
  severity : String
  effect : String
  sourceGVR : String
  sourceKind : String
  sourceName : String
  sourceNamespace : String
  workloadKind : String
  workloadName : String
  workloadNamespace : String
  summary : String
  remediation : RemediationInfo
  metrics : List (String × MetricDataPoint)
  tags : List String
  detailLevel : String
  observedAt : String

/-- A field with the option `omitempty`. -/
def omitEmpty (key s : String) : List (String × Json) := if s = "" then [] else [(key, .str s)]

def RemediationStep.json (s : RemediationStep) : Json :=
  .obj ([("type", .str s.type), ("description", .str s.description)] ++ omitEmpty "command" s.command ++
    omitEmpty "patch" s.patch ++ omitEmpty "template" s.template ++ omitEmpty "url" s.url ++
    omitEmpty "contact" s.contact ++ omitEmpty "requiresPrivilege" s.requiresPrivilege)

def RemediationInfo.json (r : RemediationInfo) : Json :=
  .obj (("summary", .str r.summary) ::
    if r.steps = [] then [] else [("steps", .arr (r.steps.map RemediationStep.json))])

def MetricDataPoint.json (m : MetricDataPoint) : Json :=
  .obj [("hard", .str m.hard), ("used", .str m.used), ("unit", .str m.unit),
    ("percentUsed", .num (.ofFloat64 m.percentUsed))]

def EventStructuredData.json (d : EventStructuredData) : Json :=
  .obj ([("schemaVersion", .str d.schemaVersion), ("constraintUid", .str d.constraintUID),
      ("constraintName", .str d.constraintName)] ++
    omitEmpty "constraintNamespace" d.constraintNamespace ++
    [("constraintType", .str d.constraintType), ("severity", .str d.severity), ("effect", .str d.effect),
      ("sourceGvr", .str d.sourceGVR), ("sourceKind", .str d.sourceKind), ("sourceName", .str d.sourceName)] ++
    omitEmpty "sourceNamespace" d.sourceNamespace ++
    [("workloadKind", .str d.workloadKind), ("workloadName", .str d.workloadName),
      ("workloadNamespace", .str d.workloadNamespace), ("summary", .str d.summary),
      ("remediation", d.remediation.json)] ++
    (if d.metrics = [] then [] else [("metrics", .obj (d.metrics.map (fun m => (m.1, m.2.json))))]) ++
    (if d.tags = [] then [] else [("tags", .arr (d.tags.map .str))]) ++
    [("detailLevel", .str d.detailLevel), ("observedAt", .str d.observedAt)])

def formatGVR (gvr : GVR) : String :=
  (if gvr.group = "" then "core" else gvr.group) ++ "/" ++ gvr.version ++ "/" ++ gvr.resource

def singular (resource : String) : String :=
  if hasSuffix resource "ies" then trimSuffix resource "ies" ++ "y" else trimSuffix resource "s"

def gvrToKind [UpperCase] (gvr : GVR) : String :=
  match (singular gvr.resource).toList with
  | [] => ""
  | c :: cs => String.ofList (UpperCase.toUpper c :: cs)

/-- The runes of a name, with a dash before each capital but the first rune. -/
def dashed : List Char → List Char
  | [] => []
  | r :: rs => r :: rs.flatMap (fun r => if 'A' ≤ r ∧ r ≤ 'Z' then ['-', r] else [r])

def toKebabCase [Unicode] (s : String) : String := toLower (String.ofList (dashed s.toList))

def genericSummary : ConstraintType → String
  | .networkIngress => "Inbound network traffic is restricted by a network policy"
  | .networkEgress => "Outbound network traffic is restricted by a network policy"
  | .admission => "An admission policy may reject your resources"
  | .resourceLimit => "Resource quotas or limits apply to this namespace"
  | .meshPolicy => "Service mesh policies affect this workload"
  | .missing => "A required companion resource may be missing"
  | _ => "A policy constraint affects this workload"

def guessUnit (resourceName : String) : String :=
  if resourceName = "cpu" || hasSuffix resourceName ".cpu" then "cores"
  else if resourceName = "memory" || hasSuffix resourceName ".memory" then "bytes"
  else if resourceName = "pods" then "count"
  else if resourceName = "services" then "count"
  else if contains resourceName "storage" then "bytes"
  else "count"

def eventType : Severity → String
  | .critical => "Warning"
  | .warning => "Warning"
  | _ => "Normal"

structure EventBuilder where
  remediationBuilder : RemediationBuilder

namespace EventBuilder

def new (defaultContact : String) : EventBuilder := ⟨.new defaultContact⟩

def scopedConstraintName (c : Constraint) (level : DetailLevel) (viewerNamespace : String) : String :=
  if level = .summary ∧ (c.ns = "" ∨ c.ns ≠ viewerNamespace) then "redacted" else c.name

def canShowNamespace (c : Constraint) (level : DetailLevel) (viewerNamespace : String) : Bool :=
  match level with
  | .summary => decide (c.ns = viewerNamespace)
  | .detailed => decide (c.ns = "" ∨ c.ns = viewerNamespace)
  | _ => true

def scopedSummary (c : Constraint) : DetailLevel → String
  | .full => c.summary
  | .detailed => c.summary
  | _ => genericSummary c.constraintType

def scopeStep (level : DetailLevel) (step : RemediationStep) : RemediationStep :=
  if level = .summary ∧ step.type = "kubectl" ∧ step.requiresPrivilege = "cluster-admin" then
    { step with command := "", description := "Contact your platform team for this step" }
  else step

def scopeRemediation (r : RemediationInfo) (level : DetailLevel) : RemediationInfo :=
  ⟨r.summary, r.steps.map (scopeStep level)⟩

def metricOf (guessUnit : String → String) (name : String) (info : Obj) : MetricDataPoint where
  hard := (info.lookup "hard").elim "" (fun v => (asString v).getD "")
  used := (info.lookup "used").elim "" (fun v => (asString v).getD "")
  unit := guessUnit name
  percentUsed :=
    match info.lookup "percent" with
    | some (.int percent) => Float64.ofInt percent
    | some (.float64 percent) => percent
    | _ => 0

/-- The metrics, in the order of their names as JSON writes them. -/
def metricsWith (guessUnit : String → String) (c : Constraint) : List (String × MetricDataPoint) :=
  match c.details.lookup "resources" with
  | some (.map resources) => (sortedKeys (resources.map Prod.fst)).filterMap (fun name =>
      ((resources.lookup name).bind asMap).map (fun info => (name, metricOf guessUnit name info)))
  | _ => []

def extractMetrics (c : Constraint) : List (String × MetricDataPoint) := metricsWith guessUnit c

def atLeastDetailed (level : DetailLevel) : Prop := level = .detailed ∨ level = .full

instance (level : DetailLevel) : Decidable (atLeastDetailed level) := inferInstanceAs (Decidable (_ ∨ _))

section Build
variable [Unicode] [UpperCase] (eb : EventBuilder) (c : Constraint) (level : DetailLevel) (workload : WorkloadRef)

/-- `observedAt` is the clock's reading, written as JSON carries it. -/
def buildStructuredData (remediation : RemediationInfo) (observedAt : String) : EventStructuredData where
  schemaVersion := "1"
  constraintUID := c.uid
  constraintName := scopedConstraintName c level workload.ns
  constraintNamespace := if canShowNamespace c level workload.ns then c.ns else ""
  constraintType := c.constraintType.text
  severity := c.severity.text
  effect := c.effect
  sourceGVR := formatGVR c.source
  sourceKind := gvrToKind c.source
  sourceName := if atLeastDetailed level then c.name else ""
  sourceNamespace := if atLeastDetailed level then c.ns else ""
  workloadKind := workload.kind
  workloadName := workload.name
  workloadNamespace := workload.ns
  summary := scopedSummary c level
  remediation := scopeRemediation remediation level
  metrics := if c.constraintType = .resourceLimit ∧ atLeastDetailed level then extractMetrics c else []
  tags := c.tags
  detailLevel := level.text
  observedAt := observedAt

def buildLabels : List (String × String) :=
  [("nightjar.io/managed-by", "nightjar"), ("nightjar.io/severity", toLower c.severity.text),
    ("nightjar.io/constraint-type", toKebabCase c.constraintType.text)]

def remediationAnnotations (remediation : RemediationInfo) : List (String × String) :=
  match remediation.steps with
  | [] => []
  | step :: _ => ("nightjar.io/remediation-type", step.type) ::
      if step.contact ≠ "" then [("nightjar.io/remediation-contact", step.contact)] else []

def buildAnnotations (observedAt : String) : List (String × String) :=
  let remediation := eb.remediationBuilder.build c
  [("nightjar.io/managed-by", "nightjar"),
    ("nightjar.io/constraint-type", c.constraintType.text),
    ("nightjar.io/severity", c.severity.text),
    ("nightjar.io/effect", c.effect),
    ("nightjar.io/detail-level", level.text),
    ("nightjar.io/constraint-name", scopedConstraintName c level workload.ns)] ++
  (if c.ns ≠ "" ∧ canShowNamespace c level workload.ns then [("nightjar.io/constraint-namespace", c.ns)] else []) ++
  [("nightjar.io/source-gvr", formatGVR c.source)] ++
  remediationAnnotations remediation ++
  [("nightjar.io/structured-data", (buildStructuredData c level workload remediation observedAt).json.text)]

/-- `BuildEvent`, with the two readings of the clock it makes. -/
def buildEvent (message now observedAt : String) : Event where
  generateName := "nightjar-"
  ns := workload.ns
  labels := buildLabels c
  annotations := eb.buildAnnotations c level workload observedAt
  involvedObject := ⟨workload.apiVersion, workload.kind, workload.name, workload.ns, workload.uid⟩
  reason := "ConstraintNotification"
  message := message
  type := eventType c.severity
  component := "nightjar-controller"
  firstTimestamp := now
  lastTimestamp := now
  count := 1
  reportingController := "nightjar.io/controller"
  reportingInstance := "nightjar"

end Build

/-- Nothing in the remediation an event shows at summary level is made from the
constraint's name or namespace. The command of a webhook is redacted there. -/
def SummarySilent (c : Constraint) : Prop := Silent c ∨ branch c = .webhook

instance (c : Constraint) : Decidable (SummarySilent c) := inferInstanceAs (Decidable (_ ∨ _))

section Json

theorem lookup_omitEmpty (key key' s : String) : (omitEmpty key s).lookup key' =
    if key' = key ∧ s ≠ "" then some (.str s) else none := by
  rw [omitEmpty]
  by_cases hs : s = ""
  · simp [hs]
  · by_cases hk : key' = key
    · simp [hs, hk]
    · have hb : (key' == key) = false := by simpa using hk
      simp [hs, hk, List.lookup_cons, hb]

theorem command_of_json_eq {s t : RemediationStep} (h : RemediationStep.json s = RemediationStep.json t) :
    s.command = t.command := by
  have hget (s : RemediationStep) :
      (RemediationStep.json s).get? "command" = if s.command ≠ "" then some (.str s.command) else none := by
    simp [RemediationStep.json, Json.get?, List.lookup_cons, List.lookup_append, lookup_omitEmpty]
  have hst := congrArg (Json.get? · "command") h
  simp only [hget] at hst
  by_cases hs : s.command = "" <;> by_cases ht : t.command = "" <;> simp_all

theorem steps_of_json_eq {r r' : RemediationInfo} (h : RemediationInfo.json r = RemediationInfo.json r') :
    r.steps.map RemediationStep.json = r'.steps.map RemediationStep.json := by
  have hget (r : RemediationInfo) : (RemediationInfo.json r).get? "steps" =
      if r.steps = [] then none else some (.arr (r.steps.map RemediationStep.json)) := by
    by_cases hs : r.steps = [] <;> simp [RemediationInfo.json, Json.get?, List.lookup_cons, hs]
  have hr := congrArg (Json.get? · "steps") h
  simp only [hget] at hr
  by_cases hs : r.steps = [] <;> by_cases ht : r'.steps = [] <;> simp_all

theorem remediation_of_json_eq {d d' : EventStructuredData} (h : d.json = d'.json) :
    d.remediation.json = d'.remediation.json := by
  have hget (d : EventStructuredData) : d.json.get? "remediation" = some d.remediation.json := by
    simp [EventStructuredData.json, Json.get?, List.lookup_cons, List.lookup_append, lookup_omitEmpty]
  have hd := congrArg (Json.get? · "remediation") h
  simpa only [hget, Option.some.injEq] using hd

end Json

theorem scopedConstraintName_hidden {viewer : String} {c : Constraint} (hc : HiddenFrom viewer c) :
    scopedConstraintName c .summary viewer = "redacted" :=
  if_pos ⟨rfl, .inr hc.2⟩

theorem canShowNamespace_hidden {viewer : String} {c : Constraint} (hc : HiddenFrom viewer c) :
    ¬ canShowNamespace c .summary viewer = true :=
  fun hshown => hc.2 (of_decide_eq_true hshown)

theorem scopeStep_clusterAdmin {step : RemediationStep} (htype : step.type = "kubectl")
    (hprivilege : step.requiresPrivilege = "cluster-admin") : scopeStep .summary step =
      { step with command := "", description := "Contact your platform team for this step" } :=
  if_pos ⟨rfl, htype, hprivilege⟩

theorem scopeStep_developer {level : DetailLevel} {step : RemediationStep}
    (hprivilege : step.requiresPrivilege = "developer") : scopeStep level step = step := by
  refine if_neg fun hadmin => ?_
  exact absurd (hprivilege.symm.trans hadmin.2.2) (by decide)

section Privacy
variable [Unicode] [UpperCase] {c c' : Constraint} {workload : WorkloadRef}

omit [UpperCase] in
theorem scopeRemediation_variant {viewer : String} (rb : RemediationBuilder) (h : Variant viewer c c')
    (hs : SummarySilent c) : scopeRemediation (rb.build c') .summary = scopeRemediation (rb.build c) .summary ∧
      remediationAnnotations (rb.build c') = remediationAnnotations (rb.build c) := by
  rcases hs with hs | hwebhook
  · rw [build_variant rb h hs]
    exact ⟨rfl, rfl⟩
  · have hsummary : rb.generateSummary c' = rb.generateSummary c := by
      cases h
      rfl
    have hcontact : rb.resolveContact c' = rb.resolveContact c := by
      cases h
      rfl
    rw [RemediationBuilder.build, RemediationBuilder.build, h.branch_eq, hwebhook]
    refine ⟨?_, rfl⟩
    simp only [scopeRemediation, RemediationBuilder.buildWebhookRemediation, List.map_cons, hsummary, hcontact,
      scopeStep_clusterAdmin]

theorem buildEvent_variant (eb : EventBuilder) (h : Variant workload.ns c c') (hs : SummarySilent c)
    (message now observedAt : String) : eb.buildEvent c' .summary workload message now observedAt =
      eb.buildEvent c .summary workload message now observedAt := by
  obtain ⟨hscoped, hfirst⟩ := scopeRemediation_variant eb.remediationBuilder h hs
  have hname : scopedConstraintName c' .summary workload.ns = scopedConstraintName c .summary workload.ns := by
    rw [scopedConstraintName_hidden h.hidden, scopedConstraintName_hidden h.hidden']
  have hshow := canShowNamespace_hidden h.hidden
  have hshow' := canShowNamespace_hidden h.hidden'
  have hdata : buildStructuredData c' .summary workload (eb.remediationBuilder.build c') observedAt =
      buildStructuredData c .summary workload (eb.remediationBuilder.build c) observedAt := by
    rw [buildStructuredData, buildStructuredData, hscoped, hname, if_neg hshow, if_neg hshow']
    cases h
    rfl
  rw [buildEvent, buildEvent, buildAnnotations, buildAnnotations, hdata, hfirst, hname,
    if_neg (fun hshown => hshow' hshown.2), if_neg (fun hshown => hshow hshown.2)]
  cases h
  rfl

theorem inspectCommand_of_buildAnnotations (eb : EventBuilder) (hc : Variant workload.ns c c')
    (hs : ¬ SummarySilent c) (observedAt : String)
    (h : eb.buildAnnotations c' .summary workload observedAt = eb.buildAnnotations c .summary workload observedAt) :
    inspectCommand c' = inspectCommand c := by
  obtain ⟨hsilent, hwebhook⟩ := not_or.mp hs
  have hlast := congrArg List.getLast? h
  rw [buildAnnotations, buildAnnotations, List.getLast?_concat, List.getLast?_concat, Option.some.injEq,
    Prod.mk.injEq, Json.text_inj] at hlast
  have hsteps := congrArg List.head? (steps_of_json_eq (remediation_of_json_eq hlast.2))
  have hscoped (description command : String) : scopeStep .summary
      { type := "kubectl", description := description, command := command, requiresPrivilege := "developer" } =
      { type := "kubectl", description := description, command := command, requiresPrivilege := "developer" } :=
    scopeStep_developer rfl
  obtain ⟨_, hhead⟩ := head_build eb.remediationBuilder hc.hidden.1 hsilent
  obtain ⟨_, hhead'⟩ := head_build eb.remediationBuilder hc.hidden'.1 (mt hc.silent_iff.mp hsilent)
  rw [if_neg hwebhook] at hhead
  rw [hc.branch_eq, if_neg hwebhook] at hhead'
  simp only [buildStructuredData, scopeRemediation, List.head?_map, hhead, hhead', Option.map_some, hscoped,
    Option.some.injEq] at hsteps
  exact command_of_json_eq hsteps

theorem scopedConstraintName_of_buildAnnotations (eb : EventBuilder) (level : DetailLevel) (observedAt : String)
    (h : eb.buildAnnotations c' level workload observedAt = eb.buildAnnotations c level workload observedAt) :
    scopedConstraintName c' level workload.ns = scopedConstraintName c level workload.ns := by
  have hname := congrArg (·[5]?) h
  simpa [buildAnnotations] using hname

end Privacy

end EventBuilder

end Nightjar.Notifier
