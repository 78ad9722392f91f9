import Nightjar.Adapters.Slot

namespace Nightjar.Adapters.Generic

open Lib.Strings Apimachinery Util

structure FieldPaths where
  selectorPath : String := ""
  namespaceSelectorPath : String := ""
  effectPath : String := ""
  summaryPath : String := ""
deriving DecidableEq, Repr

structure ParseConfig where
  fieldPaths : Option FieldPaths
  severityOverride : String
deriving DecidableEq, Repr

def annotationSummary : String := "nightjar.io/summary"

def annotationSeverity : String := "nightjar.io/severity"

def annotationType : String := "nightjar.io/constraint-type"

def adapterName : String := "generic"

def handles : List GVR := []

def getAnnotation (annotations : List (String × String)) (key : String) : String :=
  (annotations.lookup key).getD ""

def severityOf (text : String) : Severity :=
  match text with
  | "Critical" | "critical" => .critical
  | "Warning" | "warning" => .warning
  | _ => .info

def constraintTypeOf (text : String) : ConstraintType :=
  match text with
  | "NetworkIngress" => .networkIngress
  | "NetworkEgress" => .networkEgress
  | "Admission" => .admission
  | "ResourceLimit" => .resourceLimit
  | "MeshPolicy" => .meshPolicy
  | "MissingResource" => .missing
  | _ => .unknown

def overrideSeverity (current : Severity) (override : String) : Severity :=
  match override with
  | "Critical" => .critical
  | "Warning" => .warning
  | "Info" => .info
  | _ => current

def splitFieldPath (path : String) : List String := (split '.' path).filter (· ≠ "")

section Parse
variable [Apimachinery]

def extractSelectors (spec : Option Obj) : Option LabelSelector × Option LabelSelector :=
  (((safeNestedLabelSelector spec ["selector"]).or (safeNestedLabelSelector spec ["podSelector"])).or
      (safeNestedLabelSelector spec ["workloadSelector"]),
    safeNestedLabelSelector spec ["namespaceSelector"])

def probes (spec : Option Obj) : List (String × Any × String) :=
  let rules := (safeNestedSlice spec ["rules"]).getD []
  let matchBlock := safeNestedMap spec ["match"]
  let kinds := (safeNestedSlice matchBlock ["kinds"]).getD []
  let namespaces := safeNestedStringSlice matchBlock ["namespaces"]
  (if rules.length = 0 then [] else [("ruleCount", .int rules.length, "rules")]) ++
  (if (safeNestedMap spec ["parameters"]).isSome then [("hasParameters", .bool true, "parameters")] else []) ++
  (if kinds.length = 0 then [] else [("matchKinds", .int kinds.length, "match.kinds")]) ++
  (if namespaces = [] then [] else [("matchNamespaces", .strings namespaces, "match.namespaces")])

def discoveredFields (spec : Option Obj) : List String :=
  (if (extractSelectors spec).1.isSome then ["workloadSelector"] else []) ++
  (if (extractSelectors spec).2.isSome then ["namespaceSelector"] else []) ++
  (probes spec).map (fun p => p.2.2)

def buildDetails (spec : Option Obj) : Obj :=
  (probes spec).map (fun p => (p.1, p.2.1)) ++
    (if discoveredFields spec = [] then [] else [("discoveredFields", .strings (discoveredFields spec))])

variable [Unicode]

def summaryOf (obj : Unstructured) : String :=
  let summary := getAnnotation (getAnnotations obj) annotationSummary
  if summary ≠ "" then summary
  else if getNamespace obj ≠ "" then
    getKind obj ++ " " ++ quote (getName obj) ++ " in namespace " ++ quote (getNamespace obj)
  else getKind obj ++ " " ++ quote (getName obj) ++ " (cluster-scoped)"

def genericConstraint (obj : Unstructured) (gvr : GVR) : Constraint :=
  let spec := safeNestedMap obj.object ["spec"]
  { uid := getUID obj
    source := gvr
    name := getName obj
    ns := getNamespace obj
    affectedNamespaces := if getNamespace obj = "" then [] else [getNamespace obj]
    workloadSelector := (extractSelectors spec).1
    namespaceSelector := (extractSelectors spec).2
    constraintType := constraintTypeOf <| getAnnotation (getAnnotations obj) annotationType
    effect := "unknown"
    severity := severityOf <| getAnnotation (getAnnotations obj) annotationSeverity
    summary := summaryOf obj
    remediationHint := "This constraint was auto-discovered. Contact your platform team for details."
    details := buildDetails spec
    rawObject := some obj }

def parseWithGVR (obj : Unstructured) (gvr : GVR) : Except String (List Constraint) :=
  .ok [genericConstraint obj gvr]

def selectorAt (obj : Unstructured) (path : String) (current : Option LabelSelector) : Option LabelSelector :=
  if path = "" then current
  else (safeNestedLabelSelector obj.object (splitFieldPath path)).or current

def textAt (obj : Unstructured) (path : String) (current : String) : String :=
  if path = "" then current
  else
    let text := safeNestedString obj.object (splitFieldPath path)
    if text = "" then current else text

def applyFieldPaths (obj : Unstructured) (c : Constraint) (paths : FieldPaths) : Constraint :=
  { c with
    workloadSelector := selectorAt obj paths.selectorPath c.workloadSelector
    namespaceSelector := selectorAt obj paths.namespaceSelectorPath c.namespaceSelector
    effect := textAt obj paths.effectPath c.effect
    summary := if getAnnotation (getAnnotations obj) annotationSummary = ""
      then textAt obj paths.summaryPath c.summary else c.summary }

/-- The profile's overrides on one constraint. The annotation of the object
wins over the severity of the profile. -/
def applyConfig (obj : Unstructured) (cfg : ParseConfig) (c : Constraint) : Constraint :=
  let c := { c with severity := if getAnnotation (getAnnotations obj) annotationSeverity = ""
    then overrideSeverity c.severity cfg.severityOverride else c.severity }
  match cfg.fieldPaths with
  | none => c
  | some paths => applyFieldPaths obj c paths

def parseWithConfig (obj : Unstructured) (gvr : GVR) (cfg : ParseConfig) : Except String (List Constraint) :=
  match parseWithGVR obj gvr with
  | .error e => .error e
  | .ok [] => .ok []
  | .ok (c :: cs) => .ok (applyConfig obj cfg c :: cs)

def guessResource (kind : String) : String :=
  if kind = "" then "unknown"
  else
    let lower := toLower kind
    if hasSuffix lower "y" then String.ofList lower.toList.dropLast ++ "ies"
    else if hasSuffix lower "s" || hasSuffix lower "x" || hasSuffix lower "ch" || hasSuffix lower "sh"
      then lower ++ "es"
    else lower ++ "s"

def parse (obj : Unstructured) : Except String (List Constraint) :=
  let gvk := groupVersionKind obj
  parseWithGVR obj ⟨gvk.group, gvk.version, guessResource gvk.kind⟩

theorem filedIn_parseWithGVR (obj : Unstructured) (gvr : GVR) :
    FiledIn obj [.whole] (parseWithGVR obj gvr) := by
  simp [FiledIn, parseWithGVR, genericConstraint]

theorem filedIn_parseWithConfig (obj : Unstructured) (gvr : GVR) (cfg : ParseConfig) :
    FiledIn obj [.whole] (parseWithConfig obj gvr cfg) := by
  cases h : cfg.fieldPaths <;>
    simp [FiledIn, parseWithConfig, parseWithGVR, applyConfig, h, applyFieldPaths, genericConstraint]

end Parse

end Nightjar.Adapters.Generic
