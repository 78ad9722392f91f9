import Nightjar.Adapters.Slot

namespace Nightjar.Adapters.Cilium

open Lib.Strings Apimachinery Util

def gvrCNP : GVR := ⟨"cilium.io", "v2", "ciliumnetworkpolicies"⟩

def gvrCCNP : GVR := ⟨"cilium.io", "v2", "ciliumclusterwidenetworkpolicies"⟩

def adapterName : String := "cilium"

def handles : List GVR := [gvrCNP, gvrCCNP]

def nonEmpty (s : String) : Option String := if s = "" then none else some s

def hasKey (m : Obj) (key : String) : Bool := (m.lookup key).isSome

def extractPort (p : Obj) : Option String :=
  let protocol := safeStringFromMap p "protocol"
  let protocol := if protocol = "" then "TCP" else protocol
  (nonEmpty (safeStringFromMap p "port")).map (· ++ "/" ++ protocol)

def extractFQDN (f : Obj) : List String :=
  (nonEmpty (safeStringFromMap f "matchName")).toList ++ (nonEmpty (safeStringFromMap f "matchPattern")).toList

def policyType (isClusterWide : Bool) : String :=
  if isClusterWide then "CiliumClusterwideNetworkPolicy" else "CiliumNetworkPolicy"

def egressParts (entities fqdns : List String) : List String :=
  (if entities = [] then [] else [", ".intercalate (uniqueStrings entities)]) ++
  (if fqdns = [] then []
    else if (uniqueStrings fqdns).length ≤ 3 then [", ".intercalate (uniqueStrings fqdns)]
    else [toString (uniqueStrings fqdns).length ++ " FQDN(s)"])

section Parse
variable [Apimachinery]

def maps (rule : Obj) (fieldName : String) : List Obj :=
  ((safeNestedSlice rule [fieldName]).getD []).filterMap asMap

/-- `specs` wins over `spec` when it has at least one map. -/
def getSpecs (obj : Unstructured) : List Obj :=
  match maps obj.object "specs" with
  | spec :: specs => spec :: specs
  | [] => (safeNestedMap obj.object ["spec"]).toList

def extractPorts (rule : Obj) : List String :=
  (maps rule "toPorts").flatMap (fun port => (maps port "ports").filterMap extractPort)

def extractEntities (rule : Obj) (fieldName : String) : List String := safeNestedStringSlice rule [fieldName]

def extractCIDRs (rule : Obj) (fields : List String) : List String :=
  fields.flatMap (fun f => safeNestedStringSlice rule [f] ++
    (maps rule f).filterMap (fun cs => nonEmpty (safeStringFromMap cs "cidr")))

def extractFQDNs (rule : Obj) : List String := (maps rule "toFQDNs").flatMap extractFQDN

def hasL7Rules (rule : Obj) : Bool :=
  (maps rule "toPorts").any (fun port =>
    match safeNestedMap port ["rules"] with
    | none => false
    | some rules => hasKey rules "http" || hasKey rules "dns" || hasKey rules "kafka" ||
        hasKey rules "l7" || hasKey rules "l7proto")

def extractL7Types (rule : Obj) : List String :=
  (maps rule "toPorts").flatMap (fun port =>
    match safeNestedMap port ["rules"] with
    | none => []
    | some rules =>
        (if hasKey rules "http" then ["http"] else []) ++ (if hasKey rules "dns" then ["dns"] else []) ++
        (if hasKey rules "kafka" then ["kafka"] else []) ++ (nonEmpty (safeStringFromMap rules "l7proto")).toList)

def extractIngressDetails (ingress ingressDeny : List Any) : Obj :=
  let rules := (ingress ++ ingressDeny).filterMap asMap
  [("allowRuleCount", .int ingress.length), ("denyRuleCount", .int ingressDeny.length)] ++
    uniqueEntry "ports" (rules.flatMap extractPorts) ++
    uniqueEntry "entities" (rules.flatMap (extractEntities · "fromEntities")) ++
    uniqueEntry "cidrs" (rules.flatMap (extractCIDRs · ["fromCIDR", "fromCIDRSet"])) ++
    uniqueEntry "l7Types" (rules.flatMap extractL7Types)

def extractEgressDetails (egress egressDeny : List Any) : Obj :=
  let rules := (egress ++ egressDeny).filterMap asMap
  [("allowRuleCount", .int egress.length), ("denyRuleCount", .int egressDeny.length)] ++
    uniqueEntry "ports" (rules.flatMap extractPorts) ++
    uniqueEntry "entities" (rules.flatMap (extractEntities · "toEntities")) ++
    uniqueEntry "cidrs" (rules.flatMap (extractCIDRs · ["toCIDR", "toCIDRSet"])) ++
    uniqueEntry "fqdns" (rules.flatMap extractFQDNs) ++
    uniqueEntry "l7Types" (rules.flatMap extractL7Types)

variable [Unicode]

def buildIngressSummary (name : String) (ingress ingressDeny : List Any) (isClusterWide : Bool) : String :=
  let subject := policyType isClusterWide ++ " " ++ quote name
  let rules := ingress.filterMap asMap
  let entities := rules.flatMap (extractEntities · "fromEntities")
  let hasL7 := rules.any hasL7Rules
  if 0 < ingressDeny.length then
    subject ++ " explicitly denies " ++ toString ingressDeny.length ++ " ingress source(s)"
  else if ingress.length = 0 then subject ++ " denies all ingress traffic"
  else if 0 < entities.length then
    subject ++ " allows ingress from " ++ ", ".intercalate (uniqueStrings entities) ++
      (if hasL7 then " with L7 filtering" else "")
  else if hasL7 then
    subject ++ " restricts ingress with L7 rules (" ++ toString ingress.length ++ " rule(s))"
  else subject ++ " restricts ingress to " ++ toString ingress.length ++ " rule(s)"

def buildEgressSummary (name : String) (egress egressDeny : List Any) (isClusterWide : Bool) : String :=
  let subject := policyType isClusterWide ++ " " ++ quote name
  let rules := egress.filterMap asMap
  let parts := egressParts (rules.flatMap (extractEntities · "toEntities")) (rules.flatMap extractFQDNs)
  let hasL7 := rules.any hasL7Rules
  if 0 < egressDeny.length then
    subject ++ " explicitly denies " ++ toString egressDeny.length ++ " egress destination(s)"
  else if egress.length = 0 then subject ++ " denies all egress traffic"
  else if 0 < parts.length then
    subject ++ " allows egress to " ++ " and ".intercalate parts ++ (if hasL7 then " with L7 filtering" else "")
  else if hasL7 then
    subject ++ " restricts egress with L7 rules (" ++ toString egress.length ++ " rule(s))"
  else subject ++ " restricts egress to " ++ toString egress.length ++ " rule(s)"

omit [Apimachinery] in
def buildRemediationHint (name ns : String) (isClusterWide : Bool) : String :=
  if isClusterWide then
    "Review CiliumClusterwideNetworkPolicy " ++ quote name ++ " or contact your platform team"
  else "Review CiliumNetworkPolicy " ++ ns ++ "/" ++ name ++ " or contact your platform team"

def isClusterWide (obj : Unstructured) : Bool :=
  decide ((groupVersionKind obj).kind = "CiliumClusterwideNetworkPolicy")

def sectionConstraint (obj : Unstructured) (spec : Obj) (type : ConstraintType) (deny : Bool)
    (summary : String) (details : Obj) : Constraint where
  uid := getUID obj
  source := if isClusterWide obj then gvrCCNP else gvrCNP
  name := getName obj
  ns := getNamespace obj
  affectedNamespaces := if !isClusterWide obj && getNamespace obj ≠ "" then [getNamespace obj] else []
  workloadSelector := safeNestedLabelSelector spec ["endpointSelector"]
  constraintType := type
  effect := if deny then "deny" else "restrict"
  severity := if deny then .critical else .warning
  summary := summary
  remediationHint := buildRemediationHint (getName obj) (getNamespace obj) (isClusterWide obj)
  details := details
  rawObject := some obj

omit [Unicode] in
def rulesOf (spec : Obj) (sectionName : String) : List Any := (safeNestedSlice spec [sectionName]).getD []

omit [Unicode] in
def hasSection (spec : Obj) (allow deny : String) : Bool :=
  decide (0 < (rulesOf spec allow).length) || decide (0 < (rulesOf spec deny).length)

def specConstraints (obj : Unstructured) (spec : Obj) : List Constraint :=
  let ingress := rulesOf spec "ingress"
  let ingressDeny := rulesOf spec "ingressDeny"
  let egress := rulesOf spec "egress"
  let egressDeny := rulesOf spec "egressDeny"
  let hasIngress := hasSection spec "ingress" "ingressDeny"
  let hasEgress := hasSection spec "egress" "egressDeny"
  (if hasIngress then
    [sectionConstraint obj spec .networkIngress (0 < ingressDeny.length)
      (buildIngressSummary (getName obj) ingress ingressDeny (isClusterWide obj))
      (extractIngressDetails ingress ingressDeny)] else []) ++
  (if hasEgress then
    [sectionConstraint obj spec .networkEgress (0 < egressDeny.length)
      (buildEgressSummary (getName obj) egress egressDeny (isClusterWide obj))
      (extractEgressDetails egress egressDeny)] else []) ++
  (if !hasIngress && !hasEgress then
    [sectionConstraint obj spec .networkIngress true
      ("CiliumNetworkPolicy " ++ quote (getName obj) ++ " denies all traffic to selected pods")
      [("deniesAll", .bool true)]] else [])

def parse (obj : Unstructured) : Except String (List Constraint) :=
  let specs := getSpecs obj
  if specs.length = 0 then .error ("cilium policy " ++ getName obj ++ ": missing spec or specs")
  else .ok (specs.flatMap (specConstraints obj))

theorem section_of_mem_specConstraints {obj : Unstructured} {spec : Obj} {c : Constraint}
    (hc : c ∈ specConstraints obj spec) : ∃ type denies summary details,
      c = sectionConstraint obj spec type denies summary details := by
  simp only [specConstraints, List.mem_append] at hc
  rcases hc with (hc | hc) | hc <;> split at hc
  · exact ⟨_, _, _, _, List.mem_singleton.mp hc⟩
  · cases hc
  · exact ⟨_, _, _, _, List.mem_singleton.mp hc⟩
  · cases hc
  · exact ⟨_, _, _, _, List.mem_singleton.mp hc⟩
  · cases hc

end Parse

section Slots
variable [Apimachinery]

def specSlots (spec : Obj) : List Slot :=
  (if hasSection spec "ingress" "ingressDeny" then [.whole] else []) ++
  (if hasSection spec "egress" "egressDeny" then [.whole] else []) ++
  (if !hasSection spec "ingress" "ingressDeny" && !hasSection spec "egress" "egressDeny" then [.whole] else [])

def slots (obj : Unstructured) : List Slot := (getSpecs obj).flatMap specSlots

/-- The policy has several specs, or its one spec has both an ingress and an
egress section. -/
def ManySections (obj : Unstructured) : Prop :=
  1 < (getSpecs obj).length ∨ ∃ spec ∈ getSpecs obj,
    hasSection spec "ingress" "ingressDeny" = true ∧ hasSection spec "egress" "egressDeny" = true

theorem specSlots_eq_replicate (spec : Obj) : specSlots spec =
    .replicate (if hasSection spec "ingress" "ingressDeny" && hasSection spec "egress" "egressDeny"
      then 2 else 1) .whole := by
  rw [specSlots]
  cases hasSection spec "ingress" "ingressDeny" <;> cases hasSection spec "egress" "egressDeny" <;> rfl

theorem slots_nodup_iff (obj : Unstructured) : (slots obj).Nodup ↔ ¬ ManySections obj := by
  rw [slots, ManySections]
  match getSpecs obj with
  | [] => simp
  | [spec] =>
      simp only [List.flatMap_cons, List.flatMap_nil, List.append_nil, specSlots_eq_replicate, List.nodup_replicate]
      split <;> simp_all
  | spec₁ :: spec₂ :: specs =>
      refine iff_of_false ?_ (fun h => h (Or.inl (by simp)))
      have hpos (spec : Obj) : Slot.whole ∈ specSlots spec := by
        rw [specSlots_eq_replicate]
        split <;> simp
      rw [List.flatMap_cons, List.flatMap_cons]
      intro hn
      exact List.disjoint_of_nodup_append hn (hpos spec₁) (List.mem_append_left _ (hpos spec₂))

theorem filedIn_parse [Unicode] (obj : Unstructured) : FiledIn obj (slots obj) (parse obj) := by
  rw [slots, parse]
  cases hs : getSpecs obj with
  | nil => rfl
  | cons spec specs =>
      refine ⟨?_, ?_⟩
      · rw [List.map_flatMap, List.map_flatMap]
        congr 1
        funext spec
        rw [specConstraints, specSlots]
        simp only [List.map_append]
        congr 1
        · congr 1 <;> split <;> simp [sectionConstraint]
        · split <;> simp [sectionConstraint]
      · intro c hc
        obtain ⟨spec, _, hc⟩ := List.mem_flatMap.mp hc
        obtain ⟨_, _, _, _, rfl⟩ := section_of_mem_specConstraints hc
        rfl

end Slots

end Nightjar.Adapters.Cilium
