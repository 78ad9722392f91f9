import Nightjar.Adapters.Builtin

namespace Nightjar.Adapters

open Lib.Strings Apimachinery Util

/-- A parse result whose constraints carry the given source and, in order, the given
severities. A rejected object has none. -/
def Sets (source : GVR) (severities : List Severity) : Except String (List Constraint) → Prop
  | .ok cs => (∀ c ∈ cs, c.source = source) ∧ cs.map Constraint.severity = severities
  | .error _ => severities = []

/-- A parse result whose constraints have remediation hints that begin with the text. -/
def Hints (hint : String) : Except String (List Constraint) → Prop
  | .ok cs => ∀ c ∈ cs, hint.toList <+: c.remediationHint.toList
  | .error _ => True

theorem sets_filterMap {ε : Type} {source : GVR} (entries : List ε) (severity : ε → Option Severity)
    (build : ε → Option Constraint) (hseverity : ∀ e, (build e).map Constraint.severity = severity e)
    (hsource : ∀ e c, build e = some c → c.source = source) :
    Sets source (entries.filterMap severity) (.ok (entries.filterMap build)) := by
  constructor
  · intro c hc
    obtain ⟨e, _, he⟩ := List.mem_filterMap.mp hc
    exact hsource e c he
  · rw [List.map_filterMap]
    exact List.filterMap_congr (fun e _ => hseverity e)

theorem filterMap_zipIdx_fst {ε β : Type} (f : ε → Option β) (entries : List ε) :
    entries.zipIdx.filterMap (fun e => f e.1) = entries.filterMap f := by
  have h : entries.zipIdx.filterMap (fun e => f e.1) = (entries.zipIdx.map Prod.fst).filterMap f := by
    rw [List.filterMap_map]
    rfl
  rw [h, List.zipIdx_map_fst]

section Rules
variable [Apimachinery]

namespace NetworkPolicy

def severities (obj : Unstructured) : List Severity := (slots obj).map (fun _ => .warning)

theorem sets_parse [Unicode] (obj : Unstructured) : Sets gvr (severities obj) (parse obj) := by
  rw [severities, slots, parse]
  cases hs : safeNestedMap obj.object ["spec"] with
  | none => rfl
  | some spec =>
      refine ⟨?_, ?_⟩
      · intro c hc
        obtain ⟨_, _, _, _, -, rfl⟩ := direction_of_mem_parse (by rw [parse, hs]) hc
        rfl
      · simp only [List.map_append]
        congr 1 <;> split <;> simp [directionConstraint]

theorem hints_parse [Unicode] (obj : Unstructured) : Hints "Review NetworkPolicy " (parse obj) := by
  cases h : parse obj with
  | error err => trivial
  | ok cs =>
      intro c hc
      obtain ⟨_, _, _, _, -, rfl⟩ := direction_of_mem_parse h hc
      simp [directionConstraint]

end NetworkPolicy

namespace Cilium

/-- A direction with deny rules is critical, and so is a spec without any rule. -/
def specSeverities (spec : Obj) : List Severity :=
  (if hasSection spec "ingress" "ingressDeny" then
    [if 0 < (rulesOf spec "ingressDeny").length then .critical else .warning] else []) ++
  (if hasSection spec "egress" "egressDeny" then
    [if 0 < (rulesOf spec "egressDeny").length then .critical else .warning] else []) ++
  (if !hasSection spec "ingress" "ingressDeny" && !hasSection spec "egress" "egressDeny" then [.critical] else [])

def severities (obj : Unstructured) : List Severity := (getSpecs obj).flatMap specSeverities

def sourceOf (obj : Unstructured) : GVR := if isClusterWide obj then gvrCCNP else gvrCNP

theorem sets_parse [Unicode] (obj : Unstructured) : Sets (sourceOf obj) (severities obj) (parse obj) := by
  rw [severities, parse]
  cases getSpecs obj with
  | nil => rfl
  | cons spec specs =>
      refine ⟨?_, ?_⟩
      · intro c hc
        obtain ⟨spec, _, hc⟩ := List.mem_flatMap.mp hc
        obtain ⟨_, _, _, _, rfl⟩ := section_of_mem_specConstraints hc
        rfl
      · rw [List.map_flatMap]
        congr 1
        funext spec
        rw [specConstraints, specSeverities]
        simp only [List.map_append]
        congr 1
        · congr 1 <;> split <;> simp [sectionConstraint]
        · split <;> simp [sectionConstraint]

theorem hints_parse [Unicode] (obj : Unstructured) : Hints "Review Cilium" (parse obj) := by
  rw [parse]
  cases getSpecs obj with
  | nil => trivial
  | cons spec specs =>
      intro c hc
      obtain ⟨_, _, hc⟩ := List.mem_flatMap.mp hc
      obtain ⟨_, _, _, _, rfl⟩ := section_of_mem_specConstraints hc
      cases hwide : isClusterWide obj <;> simp [sectionConstraint, buildRemediationHint, hwide]

end Cilium

namespace ResourceQuota

def severities (obj : Unstructured) : List Severity :=
  match safeNestedMap obj.object ["spec"] with
  | none => []
  | some spec =>
      let hard := (safeNestedMap spec ["hard"]).getD []
      if hard.length = 0 then []
      else [severityOf (maxPercent (resourceInfos hard (safeNestedMap (safeNestedMap obj.object ["status"]) ["used"])))]

theorem sets_parse (obj : Unstructured) : Sets gvr (severities obj) (parse obj) := by
  rw [severities, parse]
  cases safeNestedMap obj.object ["spec"] with
  | none => rfl
  | some spec =>
      dsimp only
      split <;> simp [Sets]

theorem hints_parse (obj : Unstructured) :
    Hints "Request quota increase or reduce resource usage" (parse obj) := by
  rw [parse]
  cases safeNestedMap obj.object ["spec"] with
  | none => trivial
  | some spec =>
      dsimp only
      split <;> simp [Hints]

end ResourceQuota

namespace LimitRange

def severities (obj : Unstructured) : List Severity := (slots obj).map (fun _ => .info)

theorem sets_parse [Unicode] (obj : Unstructured) : Sets gvr (severities obj) (parse obj) := by
  rw [severities, slots, parse]
  cases safeNestedMap obj.object ["spec"] with
  | none => rfl
  | some spec =>
      dsimp only
      split
      · rename_i h
        rw [List.length_eq_zero_iff.mp h]
        simp [Sets]
      · rw [List.map_filterMap]
        apply sets_filterMap
        · rintro ⟨raw, i⟩
          cases asMap raw <;> simp [limitConstraint]
        · rintro ⟨raw, i⟩ c hc
          obtain ⟨limit, _, rfl⟩ := Option.map_eq_some_iff.mp hc
          rfl

theorem hints_parse [Unicode] (obj : Unstructured) : Hints "Ensure your " (parse obj) := by
  rw [parse]
  cases safeNestedMap obj.object ["spec"] with
  | none => trivial
  | some spec =>
      dsimp only
      split
      · simp [Hints]
      · intro c hc
        obtain ⟨_, _, hentry⟩ := List.mem_filterMap.mp hc
        obtain ⟨_, _, rfl⟩ := Option.map_eq_some_iff.mp hentry
        simp [limitConstraint]

end LimitRange

namespace WebhookConfig

variable [Unicode]

def severities (obj : Unstructured) : List Severity :=
  ((safeNestedSlice obj.object ["webhooks"]).getD []).filterMap (fun raw =>
    (ownedElsewhere raw).map (fun webhook => if failurePolicyOf webhook = "Fail" then .warning else .info))

omit [Unicode] in
def sourceOf (obj : Unstructured) : GVR := if isValidating obj then validatingGVR else mutatingGVR

theorem sets_parse (obj : Unstructured) : Sets (sourceOf obj) (severities obj) (parse obj) := by
  rw [severities, parse]
  split
  · rename_i h
    rw [List.length_eq_zero_iff.mp h]
    simp [Sets]
  · rw [← filterMap_zipIdx_fst]
    apply sets_filterMap
    · rintro ⟨raw, i⟩
      cases ownedElsewhere raw <;> simp [webhookConstraint]
    · rintro ⟨raw, i⟩ c hc
      obtain ⟨webhook, _, rfl⟩ := Option.map_eq_some_iff.mp hc
      rfl

theorem hints_parse (obj : Unstructured) : Hints "Check webhook " (parse obj) := by
  rw [parse]
  split
  · simp [Hints]
  · intro c hc
    obtain ⟨_, _, hentry⟩ := List.mem_filterMap.mp hc
    obtain ⟨_, _, rfl⟩ := Option.map_eq_some_iff.mp hentry
    simp [webhookConstraint]

end WebhookConfig

namespace Gatekeeper

variable [Unicode]

def severities (obj : Unstructured) : List Severity :=
  match safeNestedMap obj.object ["spec"] with
  | none => []
  | some spec =>
      let enforcementAction := safeNestedString spec ["enforcementAction"]
      [mapEnforcementToSeverity (if enforcementAction = "" then "deny" else enforcementAction)]

theorem sets_parse (obj : Unstructured) : Sets (gvrFromObject obj) (severities obj) (parse obj) := by
  rw [severities, parse]
  cases safeNestedMap obj.object ["spec"] <;> simp [Sets]

theorem hints_parse (obj : Unstructured) : Hints "Review Gatekeeper constraint " (parse obj) := by
  rw [parse]
  cases safeNestedMap obj.object ["spec"] <;> simp [Hints]

end Gatekeeper

namespace Kyverno

variable [Unicode]

def ruleSeverity (globalAction : String) (rule : Obj) : Severity :=
  if determineRuleType rule = .validate then mapValidationActionToSeverity (ruleAction rule globalAction) else .info

def severities (obj : Unstructured) : List Severity :=
  match safeNestedMap obj.object ["spec"] with
  | none => []
  | some spec => ((safeNestedSlice spec ["rules"]).getD []).filterMap
      (fun raw => (asMap raw).map (ruleSeverity (globalActionOf spec)))

omit [Unicode] in
def sourceOf (obj : Unstructured) : GVR := if getKind obj = "ClusterPolicy" then gvrClusterPolicy else gvrPolicy

theorem sets_rules (obj : Unstructured) (globalAction : String) (rules : List Any) :
    Sets (sourceOf obj) (rules.filterMap (fun raw => (asMap raw).map (ruleSeverity globalAction)))
      (.ok (rules.zipIdx.filterMap (ruleConstraint obj globalAction))) := by
  rw [← filterMap_zipIdx_fst]
  apply sets_filterMap
  · rintro ⟨raw, i⟩
    cases h : asMap raw <;> simp [ruleConstraint, parseRule, h, ruleSeverity]
  · rintro ⟨raw, i⟩ c hc
    cases h : asMap raw with
    | none => simp [ruleConstraint, h] at hc
    | some rule =>
        simp only [ruleConstraint, h, parseRule, Option.some.injEq] at hc
        rw [← hc, sourceOf]
        simp

theorem sets_parse (obj : Unstructured) : Sets (sourceOf obj) (severities obj) (parse obj) := by
  rw [severities, parse]
  cases safeNestedMap obj.object ["spec"] with
  | none => rfl
  | some spec =>
      dsimp only
      split
      · rename_i h
        rw [List.length_eq_zero_iff.mp h]
        rfl
      · have hrules := sets_rules obj (globalActionOf spec) ((safeNestedSlice spec ["rules"]).getD [])
        split
        · rename_i h
          rw [List.length_eq_zero_iff.mp h] at hrules
          exact hrules.2.symm
        · exact hrules

theorem hints_parse (obj : Unstructured) : Hints "Review Kyverno policy " (parse obj) := by
  rw [parse]
  cases safeNestedMap obj.object ["spec"] with
  | none => trivial
  | some spec =>
      dsimp only
      split
      · trivial
      · split
        · trivial
        · intro c hc
          obtain ⟨entry, _, hentry⟩ := List.mem_filterMap.mp hc
          rw [ruleConstraint] at hentry
          split at hentry <;> cases hentry
          simp

end Kyverno

namespace Generic

/-- What the generic adapter takes from the object as the configuration tells it. -/
structure Reading where
  severity : Severity
  workloadSelector : Option LabelSelector
  namespaceSelector : Option LabelSelector
  effect : String
  summary : String
deriving DecidableEq, Repr

variable [Unicode]

def reading (obj : Unstructured) (cfg : ParseConfig) : Reading :=
  let annotations := getAnnotations obj
  let paths := cfg.fieldPaths.getD {}
  let selectors := extractSelectors (safeNestedMap obj.object ["spec"])
  { severity := if getAnnotation annotations annotationSeverity = ""
      then overrideSeverity .info cfg.severityOverride else severityOf <| getAnnotation annotations annotationSeverity
    workloadSelector := selectorAt obj paths.selectorPath selectors.1
    namespaceSelector := selectorAt obj paths.namespaceSelectorPath selectors.2
    effect := textAt obj paths.effectPath "unknown"
    summary := if getAnnotation annotations annotationSummary = ""
      then textAt obj paths.summaryPath (summaryOf obj) else summaryOf obj }

/-- The constraint of an object that is filed under the GVR and read like this. -/
def constraintAs (obj : Unstructured) (gvr : GVR) (r : Reading) : Constraint :=
  { genericConstraint obj gvr with
    severity := r.severity
    workloadSelector := r.workloadSelector
    namespaceSelector := r.namespaceSelector
    effect := r.effect
    summary := r.summary }

theorem constraintAs_inj {obj : Unstructured} {gvr gvr' : GVR} {r r' : Reading} :
    constraintAs obj gvr r = constraintAs obj gvr' r' ↔ gvr = gvr' ∧ r = r' := by
  constructor
  · intro h
    cases r
    cases r'
    simp only [constraintAs, genericConstraint, Constraint.mk.injEq] at h
    simp_all
  · rintro ⟨rfl, rfl⟩
    rfl

theorem parseWithConfig_eq (obj : Unstructured) (gvr : GVR) (cfg : ParseConfig) :
    parseWithConfig obj gvr cfg = .ok [constraintAs obj gvr (reading obj cfg)] := by
  have hinfo : severityOf "" = .info := rfl
  have hparse : parseWithConfig obj gvr cfg = .ok [applyConfig obj cfg (genericConstraint obj gvr)] := rfl
  rw [hparse, applyConfig]
  cases hpaths : cfg.fieldPaths with
  | none =>
      simp only [constraintAs, reading, hpaths, genericConstraint, selectorAt, textAt, Option.getD_none]
      split <;> simp_all
  | some paths =>
      simp only [constraintAs, reading, hpaths, genericConstraint, applyFieldPaths, Option.getD_some]
      split <;> simp_all

theorem parse_eq (obj : Unstructured) : parse obj = .ok [constraintAs obj
    ⟨(groupVersionKind obj).group, (groupVersionKind obj).version, guessResource (groupVersionKind obj).kind⟩
    (reading obj ⟨none, ""⟩)] := by
  rw [← parseWithConfig_eq]
  simp [parse, parseWithConfig, parseWithGVR, applyConfig, overrideSeverity]

end Generic

namespace Builtin

variable [Unicode]

def sourceOf : Builtin → Unstructured → GVR
  | networkPolicy, _ => NetworkPolicy.gvr
  | cilium, obj => Cilium.sourceOf obj
  | resourceQuota, _ => ResourceQuota.gvr
  | limitRange, _ => LimitRange.gvr
  | webhookConfig, obj => WebhookConfig.sourceOf obj
  | gatekeeper, obj => Gatekeeper.gvrFromObject obj
  | kyverno, obj => Kyverno.sourceOf obj
  | generic, obj =>
      ⟨(groupVersionKind obj).group, (groupVersionKind obj).version, Generic.guessResource (groupVersionKind obj).kind⟩

/-- The severities the adapter derives from the object, one for each constraint. -/
def severities : Builtin → Unstructured → List Severity
  | networkPolicy => NetworkPolicy.severities
  | cilium => Cilium.severities
  | resourceQuota => ResourceQuota.severities
  | limitRange => LimitRange.severities
  | webhookConfig => WebhookConfig.severities
  | gatekeeper => Gatekeeper.severities
  | kyverno => Kyverno.severities
  | generic => fun obj => [Generic.severityOf <| Generic.getAnnotation (getAnnotations obj) Generic.annotationSeverity]

theorem sets_parse (b : Builtin) (obj : Unstructured) : Sets (b.sourceOf obj) (b.severities obj) (b.parse obj) := by
  cases b with
  | networkPolicy => exact NetworkPolicy.sets_parse obj
  | cilium => exact Cilium.sets_parse obj
  | resourceQuota => exact ResourceQuota.sets_parse obj
  | limitRange => exact LimitRange.sets_parse obj
  | webhookConfig => exact WebhookConfig.sets_parse obj
  | gatekeeper => exact Gatekeeper.sets_parse obj
  | kyverno => exact Kyverno.sets_parse obj
  | generic => simp [Sets, sourceOf, severities, parse, Generic.parse, Generic.parseWithGVR, Generic.genericConstraint]

/-- How the remediation hint of each of the adapter's constraints begins. -/
def hint : Builtin → String
  | networkPolicy => "Review NetworkPolicy "
  | cilium => "Review Cilium"
  | resourceQuota => "Request quota increase or reduce resource usage"
  | limitRange => "Ensure your "
  | webhookConfig => "Check webhook "
  | gatekeeper => "Review Gatekeeper constraint "
  | kyverno => "Review Kyverno policy "
  | generic => "This constraint was auto-discovered. Contact your platform team for details."

omit [Unicode] [Apimachinery] in
theorem hint_inj {b b' : Builtin} {text : List Char} (h : b.hint.toList <+: text) (h' : b'.hint.toList <+: text) :
    b = b' := by
  have hprefix := List.prefix_or_prefix_of_prefix h h'
  revert hprefix
  clear h h'
  cases b <;> cases b' <;> decide

theorem hints_parse (b : Builtin) (obj : Unstructured) : Hints b.hint (b.parse obj) := by
  cases b with
  | networkPolicy => exact NetworkPolicy.hints_parse obj
  | cilium => exact Cilium.hints_parse obj
  | resourceQuota => exact ResourceQuota.hints_parse obj
  | limitRange => exact LimitRange.hints_parse obj
  | webhookConfig => exact WebhookConfig.hints_parse obj
  | gatekeeper => exact Gatekeeper.hints_parse obj
  | kyverno => exact Kyverno.hints_parse obj
  | generic =>
      intro c hc
      rw [List.mem_singleton.mp hc]
      exact List.prefix_refl _

end Builtin

end Rules

end Nightjar.Adapters
