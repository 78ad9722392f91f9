import Nightjar.Adapters.Slot

namespace Nightjar.Adapters.Gatekeeper

open Lib.Strings Apimachinery Util

def gatekeeperConstraintGroup : String := "constraints.gatekeeper.sh"

def defaultVersion : String := "v1beta1"

def adapterName : String := "gatekeeper"

/-- A wildcard resource stands for every constraint kind of the group. -/
def handles : List GVR := [⟨gatekeeperConstraintGroup, defaultVersion, "*"⟩]

def namespaceScope (namespaces : List String) : String :=
  if namespaces = [] then ""
  else if namespaces.length ≤ 2 then " in " ++ ", ".intercalate namespaces
  else " in " ++ toString namespaces.length ++ " namespaces"

def buildDetails (enforcementAction : String) (targets : List ResourceTarget) (affected excluded : List String)
    (parameters : Obj) : Obj :=
  [("enforcementAction", .str enforcementAction)] ++
    (if targets = [] then [] else [("resourceTargets", .targets targets)]) ++
    (if affected = [] then [] else [("affectedNamespaces", .strings affected)]) ++
    (if excluded = [] then [] else [("excludedNamespaces", .strings excluded)]) ++
    (if parameters.length = 0 then [] else [("parameters", .map parameters)])

section Parse
variable [Apimachinery]

def extractNamespaces (matchBlock : Option Obj) : List String × List String :=
  (safeNestedStringSlice matchBlock ["namespaces"], safeNestedStringSlice matchBlock ["excludedNamespaces"])

def extractLabelSelector (matchBlock : Option Obj) : Option LabelSelector :=
  safeNestedLabelSelector matchBlock ["labelSelector"]

def extractNamespaceSelector (matchBlock : Option Obj) : Option LabelSelector :=
  safeNestedLabelSelector matchBlock ["namespaceSelector"]

variable [Unicode]

omit [Apimachinery] in
def mapEnforcementToSeverity (action : String) : Severity :=
  match toLower action with
  | "deny" => .critical
  | "warn" => .warning
  | "dryrun" => .info
  | _ => .critical

omit [Apimachinery] in
def mapEnforcementToEffect (action : String) : String :=
  match toLower action with
  | "deny" => "deny"
  | "warn" => "warn"
  | "dryrun" => "audit"
  | _ => "deny"

def kindTarget (entry : Obj) : Option ResourceTarget :=
  let kinds := safeNestedStringSlice entry ["kinds"]
  if 0 < kinds.length then
    some ⟨safeNestedStringSlice entry ["apiGroups"], kinds.map (fun kind => toLower kind ++ "s")⟩
  else none

def extractResourceTargets (matchBlock : Option Obj) : List ResourceTarget :=
  (((safeNestedSlice matchBlock ["kinds"]).getD []).filterMap asMap).filterMap kindTarget

def gvrFromObject (obj : Unstructured) : GVR :=
  let gvk := groupVersionKind obj
  ⟨gvk.group, gvk.version, toLower gvk.kind ++ "s"⟩

omit [Apimachinery] in
def actionVerb (enforcementAction : String) : String :=
  match toLower enforcementAction with
  | "deny" => "rejects"
  | "warn" => "warns on"
  | "dryrun" => "audits"
  | _ => "validates"

omit [Apimachinery] in
def buildSummary (kind name enforcementAction : String) (targets : List ResourceTarget)
    (namespaces : List String) : String :=
  "Gatekeeper " ++ kind ++ " " ++ quote name ++ " " ++ actionVerb enforcementAction ++ " " ++
    resourceList targets ++ namespaceScope namespaces

omit [Apimachinery] in
def buildTags (kind enforcementAction : String) : List String :=
  ["gatekeeper", "admission", "opa", toLower kind] ++
    match toLower enforcementAction with
    | "deny" => ["blocking"]
    | "warn" => ["warning"]
    | "dryrun" => ["audit"]
    | _ => []

omit [Apimachinery] in
def buildRemediation (kind name : String) : List RemediationStep :=
  [{ type := "kubectl", description := "View the constraint details",
     command := "kubectl get " ++ toLower kind ++ " " ++ name ++ " -o yaml", requiresPrivilege := "developer" },
   { type := "kubectl", description := "Check for violations",
     command := "kubectl get " ++ toLower kind ++ " " ++ name ++ " -o jsonpath='\x7b.status.totalViolations\x7d'",
     requiresPrivilege := "developer" },
   { type := "manual", description := "Contact platform team to request an exception or policy modification",
     contact := "platform-team@company.com", requiresPrivilege := "developer" },
   { type := "link", description := "Gatekeeper documentation",
     url := "https://open-policy-agent.github.io/gatekeeper/website/docs/", requiresPrivilege := "developer" }]

def parse (obj : Unstructured) : Except String (List Constraint) :=
  match safeNestedMap obj.object ["spec"] with
  | none => .error ("gatekeeper constraint " ++ getName obj ++ ": missing spec")
  | some spec =>
      let name := getName obj
      let kind := getKind obj
      let enforcementAction := safeNestedString spec ["enforcementAction"]
      let enforcementAction := if enforcementAction = "" then "deny" else enforcementAction
      let matchBlock := safeNestedMap spec ["match"]
      let (affected, excluded) := extractNamespaces matchBlock
      let targets := extractResourceTargets matchBlock
      .ok [{ uid := getUID obj
             source := gvrFromObject obj
             name := name
             ns := ""
             affectedNamespaces := affected
             namespaceSelector := extractNamespaceSelector matchBlock
             workloadSelector := extractLabelSelector matchBlock
             resourceTargets := targets
             constraintType := .admission
             effect := mapEnforcementToEffect enforcementAction
             severity := mapEnforcementToSeverity enforcementAction
             summary := buildSummary kind name enforcementAction targets affected
             remediationHint := "Review Gatekeeper constraint " ++ kind ++ "/" ++ name ++
               " or contact your platform team"
             remediation := buildRemediation kind name
             details := buildDetails enforcementAction targets affected excluded
               ((safeNestedMap spec ["parameters"]).getD [])
             tags := buildTags kind enforcementAction
             rawObject := some obj }]

end Parse

section Slots
variable [Apimachinery]

def slots (obj : Unstructured) : List Slot :=
  match safeNestedMap obj.object ["spec"] with
  | none => []
  | some _ => [.whole]

theorem slots_nodup (obj : Unstructured) : (slots obj).Nodup := by
  unfold slots
  split <;> simp

theorem filedIn_parse [Unicode] (obj : Unstructured) : FiledIn obj (slots obj) (parse obj) := by
  rw [slots, parse]
  cases safeNestedMap obj.object ["spec"] <;> simp [FiledIn]

end Slots

end Nightjar.Adapters.Gatekeeper
