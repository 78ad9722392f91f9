import Nightjar.Adapters.Slot
import Nightjar.Lib.Float64

namespace Nightjar.Adapters.NetworkPolicy

open Lib.Strings Apimachinery Util

def gvr : GVR := ⟨"networking.k8s.io", "v1", "networkpolicies"⟩

def adapterName : String := "networkpolicy"

def handles : List GVR := [gvr]

def portText : Option Any → String
  | some (.int64 n) => toString n
  | some (.float64 q) => toString (Lib.Float64.truncate q)
  | some (.str s) => s
  | _ => ""

def extractPort (port : Obj) : Option String :=
  let protocol := safeStringFromMap port "protocol"
  let protocol := if protocol = "" then "TCP" else protocol
  let text := portText (port.lookup "port")
  if text = "" then none else some (text ++ "/" ++ protocol)

def containsPolicyType (policyTypes : List String) (target : String) : Bool := decide (target ∈ policyTypes)

section Parse
variable [Apimachinery]

def extractPolicyTypes (spec : Obj) : List String := safeNestedStringSlice spec ["policyTypes"]

def extractPorts (rule : Obj) : List String :=
  (((safeNestedSlice rule ["ports"]).getD []).filterMap asMap).filterMap extractPort

def extractCIDR (peer : Obj) : Option String :=
  match safeNestedMap peer ["ipBlock"] with
  | none => none
  | some ipBlock =>
      let cidr := safeStringFromMap ipBlock "cidr"
      if cidr = "" then none else some cidr

def extractCIDRsFromRule (rule : Obj) (direction : String) : List String :=
  (((safeNestedSlice rule [direction]).getD []).filterMap asMap).filterMap extractCIDR

def extractDetails (spec : Obj) (sectionName direction : String) : Obj :=
  match safeNestedSlice spec [sectionName] with
  | none => [("ruleCount", .int 0), ("deniesAll", .bool true)]
  | some rules =>
      let ports := (rules.filterMap asMap).flatMap extractPorts
      let cidrs := (rules.filterMap asMap).flatMap (extractCIDRsFromRule · direction)
      [("ruleCount", .int rules.length)] ++
        uniqueEntry "allowedPorts" ports ++ uniqueEntry "allowedCIDRs" cidrs

def extractIngressDetails (spec : Obj) : Obj := extractDetails spec "ingress" "from"

def extractEgressDetails (spec : Obj) : Obj := extractDetails spec "egress" "to"

variable [Unicode]

def buildSummary (name : String) (spec : Obj) (sectionName : String) : String :=
  let rules := (safeNestedSlice spec [sectionName]).getD []
  if rules = [] then "NetworkPolicy " ++ quote name ++ " denies all " ++ sectionName ++ " traffic"
  else "NetworkPolicy " ++ quote name ++ " restricts " ++ sectionName ++ " to " ++
    toString rules.length ++ " rule(s)"

def buildIngressSummary (name : String) (spec : Obj) : String := buildSummary name spec "ingress"

def buildEgressSummary (name : String) (spec : Obj) : String := buildSummary name spec "egress"

/-- The constraint of one direction. Both directions carry the object's own UID. -/
def directionConstraint (obj : Unstructured) (spec : Obj) (type : ConstraintType) (summary : String)
    (details : Obj) : Constraint where
  uid := getUID obj
  source := gvr
  name := getName obj
  ns := getNamespace obj
  affectedNamespaces := [getNamespace obj]
  workloadSelector := safeNestedLabelSelector spec ["podSelector"]
  constraintType := type
  effect := "restrict"
  severity := .warning
  summary := summary
  remediationHint := "Review NetworkPolicy " ++ getNamespace obj ++ "/" ++ getName obj ++
    " or contact your platform team"
  details := details
  rawObject := some obj

def parse (obj : Unstructured) : Except String (List Constraint) :=
  match safeNestedMap obj.object ["spec"] with
  | none => .error ("networkpolicy " ++ getNamespace obj ++ "/" ++ getName obj ++ ": missing spec")
  | some spec =>
      let policyTypes := extractPolicyTypes spec
      .ok ((if containsPolicyType policyTypes "Ingress" || policyTypes.length = 0 then
          [directionConstraint obj spec .networkIngress (buildIngressSummary (getName obj) spec)
            (extractIngressDetails spec)] else []) ++
        (if containsPolicyType policyTypes "Egress" then
          [directionConstraint obj spec .networkEgress (buildEgressSummary (getName obj) spec)
            (extractEgressDetails spec)] else []))

theorem direction_of_mem_parse {obj : Unstructured} {cs : List Constraint} (h : parse obj = .ok cs) {c : Constraint}
    (hc : c ∈ cs) : ∃ spec type summary details, (type = .networkIngress ∨ type = .networkEgress) ∧
      c = directionConstraint obj spec type summary details := by
  rw [parse] at h
  split at h
  · cases h
  · rename_i spec _
    cases h
    rcases List.mem_append.mp hc with hc | hc <;> split at hc
    · exact ⟨spec, _, _, _, .inl rfl, List.mem_singleton.mp hc⟩
    · cases hc
    · exact ⟨spec, _, _, _, .inr rfl, List.mem_singleton.mp hc⟩
    · cases hc

end Parse

section Slots
variable [Apimachinery]

def slots (obj : Unstructured) : List Slot :=
  match safeNestedMap obj.object ["spec"] with
  | none => []
  | some spec =>
      (if containsPolicyType (extractPolicyTypes spec) "Ingress" || (extractPolicyTypes spec).length = 0
        then [.whole] else []) ++
      (if containsPolicyType (extractPolicyTypes spec) "Egress" then [.whole] else [])

/-- The policy lists both directions in `spec.policyTypes`. -/
def BothDirections (obj : Unstructured) : Prop :=
  ∃ spec, safeNestedMap obj.object ["spec"] = some spec ∧
    "Ingress" ∈ extractPolicyTypes spec ∧ "Egress" ∈ extractPolicyTypes spec

theorem slots_nodup_iff (obj : Unstructured) : (slots obj).Nodup ↔ ¬ BothDirections obj := by
  rw [slots, BothDirections]
  cases hs : safeNestedMap obj.object ["spec"] with
  | none => simp
  | some spec =>
      by_cases hi : "Ingress" ∈ extractPolicyTypes spec <;>
        by_cases he : "Egress" ∈ extractPolicyTypes spec <;>
          by_cases hl : (extractPolicyTypes spec).length = 0 <;> simp_all [containsPolicyType]

theorem filedIn_parse [Unicode] (obj : Unstructured) : FiledIn obj (slots obj) (parse obj) := by
  rw [slots, parse]
  cases hs : safeNestedMap obj.object ["spec"] with
  | none => rfl
  | some spec =>
      refine ⟨?_, ?_⟩
      · simp only [List.map_append]
        congr 1 <;> split <;> simp [directionConstraint]
      · intro c hc
        obtain ⟨_, _, _, _, -, rfl⟩ := direction_of_mem_parse (by rw [parse, hs]) hc
        rfl

end Slots

end Nightjar.Adapters.NetworkPolicy
