import Nightjar.Adapters.Slot

namespace Nightjar.Adapters.Kyverno

open Lib.Strings Apimachinery Util

def gvrClusterPolicy : GVR := ⟨"kyverno.io", "v1", "clusterpolicies"⟩

def gvrPolicy : GVR := ⟨"kyverno.io", "v1", "policies"⟩

def adapterName : String := "kyverno"

def handles : List GVR := [gvrClusterPolicy, gvrPolicy]

inductive RuleType where
  | validate
  | mutate
  | generate
  | verifyImages
  | unknown
deriving DecidableEq, Repr

def RuleType.text : RuleType → String
  | validate => "validate"
  | mutate => "mutate"
  | generate => "generate"
  | verifyImages => "verifyImages"
  | unknown => "unknown"

def RuleType.effect : RuleType → String
  | validate => "deny"
  | mutate => "mutate"
  | generate => "generate"
  | verifyImages => "deny"
  | unknown => "unknown"

def mapRuleTypeToConstraintType : RuleType → ConstraintType
  | .validate | .verifyImages => .admission
  | .mutate | .generate => .admission
  | .unknown => .unknown

def buildRemediation (policyName ns : String) (isClusterPolicy : Bool) : List RemediationStep :=
  [{ type := "kubectl", description := "View the policy details",
     command := if isClusterPolicy then "kubectl get clusterpolicy " ++ policyName ++ " -o yaml"
       else "kubectl get policy -n " ++ ns ++ " " ++ policyName ++ " -o yaml",
     requiresPrivilege := "developer" },
   { type := "kubectl", description := "Check policy report for violations",
     command := "kubectl get policyreport -A -o wide", requiresPrivilege := "developer" },
   { type := "manual", description := "Contact platform team to request an exception or policy modification",
     contact := "platform-team@company.com", requiresPrivilege := "developer" },
   { type := "link", description := "Kyverno documentation", url := "https://kyverno.io/docs/",
     requiresPrivilege := "developer" }]

structure MatchInfo where
  namespaces : List String
  targets : List ResourceTarget
  selector : Option LabelSelector

def MatchInfo.none : MatchInfo := ⟨[], [], .none⟩

section Parse
variable [Apimachinery]

def determineRuleType (rule : Obj) : RuleType :=
  if (safeNestedMap rule ["validate"]).isSome then .validate
  else if (safeNestedMap rule ["mutate"]).isSome then .mutate
  else if (safeNestedMap rule ["generate"]).isSome then .generate
  else if (safeNestedMap rule ["verifyImages"]).isSome || (safeNestedSlice rule ["verifyImages"]).isSome
    then .verifyImages
  else .unknown

def buildRuleDetails (rule : Obj) (ruleType : RuleType) (action : String) (targets : List ResourceTarget) : Obj :=
  let message := match safeNestedMap rule ["validate"] with
    | none => ""
    | some validate => safeStringFromMap validate "message"
  [("ruleType", .str ruleType.text), ("action", .str action)] ++
    (if targets = [] then [] else [("resourceTargets", .targets targets)]) ++
    (if message = "" then [] else [("validationMessage", .str message)])

def globalActionOf (spec : Obj) : String :=
  let globalAction := safeNestedString spec ["validationFailureAction"]
  if globalAction = "" then "Audit" else globalAction

variable [Unicode]

omit [Apimachinery] in
def mapValidationActionToSeverity (action : String) : Severity :=
  match toLower action with
  | "enforce" => .critical
  | "audit" => .warning
  | _ => .warning

omit [Apimachinery] in
/-- The target of a kinds list. The group part of `Group/Kind` and the guessed
plural of the kind go into two separate sets. -/
def kindsTarget (kinds : List String) : List ResourceTarget :=
  if kinds = [] then []
  else
    let parts := kinds.map (splitOnce '/')
    [⟨uniqueStrings (parts.filterMap (fun p => match p with | [group, _] => some group | _ => none)),
      uniqueStrings ((kinds.zip parts).map (fun p => match p.2 with
        | [_, kind] => toLower kind ++ "s"
        | _ => toLower p.1 ++ "s"))⟩]

def extractFromResources (resources : Obj) : MatchInfo where
  namespaces := safeNestedStringSlice resources ["namespaces"]
  targets := kindsTarget (safeNestedStringSlice resources ["kinds"])
  selector := safeNestedLabelSelector resources ["selector"]

/-- One more resources block: namespaces and targets accumulate, the first
selector found stays. -/
def addResources (info : MatchInfo) (resources : Obj) : MatchInfo :=
  let more := extractFromResources resources
  ⟨info.namespaces ++ more.namespaces, info.targets ++ more.targets, info.selector.or more.selector⟩

def clauseResources (matchBlock : Obj) (clauses : String) : List Obj :=
  (((safeNestedSlice matchBlock [clauses]).getD []).filterMap asMap).filterMap
    (fun clause => safeNestedMap clause ["resources"])

def extractMatchInfo : Option Obj → MatchInfo
  | none => .none
  | some matchBlock =>
      let info := ((safeNestedMap matchBlock ["resources"]).toList ++ clauseResources matchBlock "any" ++
        clauseResources matchBlock "all").foldl addResources .none
      { info with namespaces := uniqueStrings info.namespaces }

/-- The resources blocks of a rule, in the order in which they are read. -/
def resourcesBlocks (rule : Obj) : List Obj :=
  match safeNestedMap rule ["match"] with
  | none => []
  | some matchBlock => (safeNestedMap matchBlock ["resources"]).toList ++ clauseResources matchBlock "any" ++
      clauseResources matchBlock "all"

/-- What the blocks come to: all targets, and the first selector. -/
theorem foldl_addResources (info : MatchInfo) (blocks : List Obj) :
    (blocks.foldl addResources info).targets =
      info.targets ++ blocks.flatMap (fun block => (extractFromResources block).targets) ∧
    (blocks.foldl addResources info).selector =
      info.selector.or (blocks.filterMap (fun block => (extractFromResources block).selector)).head? := by
  induction blocks generalizing info with
  | nil => exact ⟨(List.append_nil _).symm, Option.or_none.symm⟩
  | cons block blocks ih =>
      obtain ⟨htargets, hselector⟩ := ih (addResources info block)
      rw [List.foldl_cons, htargets, hselector, List.flatMap_cons, ← List.append_assoc]
      refine ⟨rfl, ?_⟩
      rw [addResources, Option.or_assoc, List.filterMap_cons]
      cases (extractFromResources block).selector <;> rfl

theorem extractMatchInfo_eq (rule : Obj) :
    (extractMatchInfo (safeNestedMap rule ["match"])).targets =
      (resourcesBlocks rule).flatMap (fun block => (extractFromResources block).targets) ∧
    (extractMatchInfo (safeNestedMap rule ["match"])).selector =
      ((resourcesBlocks rule).filterMap (fun block => (extractFromResources block).selector)).head? := by
  rw [resourcesBlocks]
  cases safeNestedMap rule ["match"] with
  | none => exact ⟨rfl, rfl⟩
  | some matchBlock => exact foldl_addResources ..

omit [Apimachinery] in
def actionVerb (ruleType : RuleType) (action : String) : String :=
  match ruleType with
  | .validate =>
      match toLower action with
      | "enforce" => "enforces"
      | "audit" => "audits"
      | _ => "validates"
  | .mutate => "mutates"
  | .generate => "generates resources from"
  | .verifyImages => "verifies images for"
  | .unknown => "validates"

omit [Apimachinery] in
def buildRuleSummary (policyName ruleName : String) (ruleType : RuleType) (action : String)
    (targets : List ResourceTarget) (isClusterPolicy : Bool) : String :=
  "Kyverno " ++ (if isClusterPolicy then "ClusterPolicy" else "Policy") ++ " " ++ quote policyName ++
    " rule " ++ quote ruleName ++ " " ++ actionVerb ruleType action ++ " " ++ resourceList targets

omit [Apimachinery] in
def buildTags (ruleType : RuleType) (action : String) (isClusterPolicy : Bool) : List String :=
  ["kyverno", "admission", ruleType.text] ++ (if isClusterPolicy then ["cluster-wide"] else []) ++
    match toLower action with
    | "enforce" => ["blocking"]
    | "audit" => ["audit"]
    | _ => []

def ruleAction (rule : Obj) (globalAction : String) : String :=
  match determineRuleType rule with
  | .validate =>
      let action := safeNestedString rule ["validate", "validationFailureAction"]
      if action = "" then globalAction else action
  | _ => "mutate"

def parseRule (obj : Unstructured) (rule : Obj) (index : Nat) (globalAction : String)
    (isClusterPolicy : Bool) : Except String (Option Constraint) :=
  let policyName := getName obj
  let ns := getNamespace obj
  let ruleName := safeStringFromMap rule "name"
  let ruleName := if ruleName = "" then "rule-" ++ toString index else ruleName
  let ruleType := determineRuleType rule
  let action := ruleAction rule globalAction
  let info := extractMatchInfo (safeNestedMap rule ["match"])
  .ok (some {
    uid := getUID obj ++ "-rule-" ++ toString index
    source := if isClusterPolicy then gvrClusterPolicy else gvrPolicy
    name := policyName ++ "/" ++ ruleName
    ns := ns
    affectedNamespaces := if !isClusterPolicy && ns ≠ "" && info.namespaces.length = 0 then [ns]
      else info.namespaces
    workloadSelector := info.selector
    resourceTargets := info.targets
    constraintType := mapRuleTypeToConstraintType ruleType
    effect := ruleType.effect
    severity := if ruleType = .validate then mapValidationActionToSeverity action else .info
    summary := buildRuleSummary policyName ruleName ruleType action info.targets isClusterPolicy
    remediationHint := "Review Kyverno policy " ++ policyName ++ " or contact your platform team"
    remediation := buildRemediation policyName ns isClusterPolicy
    details := buildRuleDetails rule ruleType action info.targets
    tags := buildTags ruleType action isClusterPolicy
    rawObject := some obj })

/-- The constraint of one entry of the rules list; entries that are not maps
and rules that fail to parse are passed over. -/
def ruleConstraint (obj : Unstructured) (globalAction : String) (entry : Any × Nat) : Option Constraint :=
  match asMap entry.1 with
  | none => none
  | some rule =>
      match parseRule obj rule entry.2 globalAction (decide (getKind obj = "ClusterPolicy")) with
      | .ok c => c
      | .error _ => none

def parse (obj : Unstructured) : Except String (List Constraint) :=
  match safeNestedMap obj.object ["spec"] with
  | none => .error ("kyverno policy " ++ getName obj ++ ": missing spec")
  | some spec =>
      let rules := (safeNestedSlice spec ["rules"]).getD []
      if rules.length = 0 then .error ("kyverno policy " ++ getName obj ++ ": no rules defined")
      else
        let constraints := rules.zipIdx.filterMap (ruleConstraint obj (globalActionOf spec))
        if constraints.length = 0 then .error ("kyverno policy " ++ getName obj ++ ": no valid rules parsed")
        else .ok constraints

end Parse

section Slots
variable [Apimachinery]

def slots (obj : Unstructured) : List Slot :=
  match safeNestedMap obj.object ["spec"] with
  | none => []
  | some spec => ((safeNestedSlice spec ["rules"]).getD []).zipIdx.filterMap
      (fun r => (asMap r.1).map (fun _ => .rule r.2))

theorem slots_nodup (obj : Unstructured) : (slots obj).Nodup := by
  unfold slots
  split
  · exact List.nodup_nil
  · apply nodup_filterMap_zipIdx _ _ Slot.rule (fun _ _ h => Slot.rule.inj h)
    intro e s hs
    obtain ⟨_, _, rfl⟩ := Option.map_eq_some_iff.mp hs
    rfl

theorem filedIn_rules [Unicode] (obj : Unstructured) (globalAction : String) (rules : List Any) :
    FiledIn obj (rules.zipIdx.filterMap (fun r => (asMap r.1).map (fun _ => Slot.rule r.2)))
      (.ok (rules.zipIdx.filterMap (ruleConstraint obj globalAction))) := by
  apply filedIn_filterMap
  · rintro ⟨raw, i⟩
    cases h : asMap raw <;> simp [ruleConstraint, parseRule, h, Slot.uid, Slot.suffix, String.append_assoc]
  · rintro ⟨raw, i⟩ c hc
    cases h : asMap raw with
    | none => simp [ruleConstraint, h] at hc
    | some rule =>
        simp only [ruleConstraint, h, parseRule, Option.some.injEq] at hc
        rw [← hc]

theorem filedIn_parse [Unicode] (obj : Unstructured) : FiledIn obj (slots obj) (parse obj) := by
  rw [slots, parse]
  cases safeNestedMap obj.object ["spec"] with
  | none => rfl
  | some spec =>
      dsimp only
      split
      · rename_i h
        rw [List.length_eq_zero_iff.mp h]
        rfl
      · have hf := filedIn_rules obj (globalActionOf spec) ((safeNestedSlice spec ["rules"]).getD [])
        split
        · rename_i h
          rw [List.length_eq_zero_iff.mp h] at hf
          exact List.map_eq_nil_iff.mp hf.1.symm
        · exact hf

end Slots

end Nightjar.Adapters.Kyverno
