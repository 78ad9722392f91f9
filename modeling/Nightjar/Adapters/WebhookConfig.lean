import Nightjar.Adapters.Slot

namespace Nightjar.Adapters.WebhookConfig

open Lib.Strings Apimachinery Util

def validatingGVR : GVR := ⟨"admissionregistration.k8s.io", "v1", "validatingwebhookconfigurations"⟩

def mutatingGVR : GVR := ⟨"admissionregistration.k8s.io", "v1", "mutatingwebhookconfigurations"⟩

def adapterName : String := "webhookconfig"

def handles : List GVR := [validatingGVR, mutatingGVR]

def setToSortedSlice (set : List String) : List String := sortedKeys set

section Parse
variable [Apimachinery]

def ruleTarget (rule : Obj) : Option ResourceTarget :=
  let apiGroups := safeNestedStringSlice rule ["apiGroups"]
  let resources := safeNestedStringSlice rule ["resources"]
  if 0 < apiGroups.length ∧ 0 < resources.length then some ⟨apiGroups, resources⟩ else none

def parseRules (rules : List Any) : List String × List String × List ResourceTarget :=
  let ruleMaps := rules.filterMap asMap
  (setToSortedSlice (ruleMaps.flatMap (safeNestedStringSlice · ["operations"])),
    setToSortedSlice (ruleMaps.flatMap (safeNestedStringSlice · ["resources"])),
    ruleMaps.filterMap ruleTarget)

variable [Unicode]

omit [Apimachinery] in
def namesNightjar (s : String) : Bool := contains (toLower s) "nightjar"

/-- Nightjar's own webhooks are skipped, by name or by the name of the service
they call. -/
def shouldSkipWebhook (webhook : Obj) (webhookName : String) : Bool :=
  if namesNightjar webhookName then true
  else
    match safeNestedMap webhook ["clientConfig"] with
    | none => false
    | some clientConfig =>
        match safeNestedMap clientConfig ["service"] with
        | none => false
        | some service => namesNightjar (safeStringFromMap service "name")

omit [Apimachinery] in
def buildWebhookSummary (webhookType webhookName : String) (operations resources : List String) : String :=
  let parts := (if operations = [] then [] else [",".intercalate operations]) ++
    (if resources = [] then [] else ["on " ++ ", ".intercalate resources])
  let subject := webhookType ++ " webhook " ++ quote webhookName
  if parts = [] then subject else subject ++ " intercepts " ++ " ".intercalate parts

def isValidating (obj : Unstructured) : Bool := decide (getKind obj = "ValidatingWebhookConfiguration")

omit [Apimachinery] [Unicode] in
def failurePolicyOf (webhook : Obj) : String :=
  let failurePolicy := safeStringFromMap webhook "failurePolicy"
  if failurePolicy = "" then "Fail" else failurePolicy

def webhookConstraint (obj : Unstructured) (webhook : Obj) (i : Nat) : Constraint :=
  let webhookName := safeStringFromMap webhook "name"
  let webhookType := if isValidating obj then "Validating" else "Mutating"
  let failurePolicy := failurePolicyOf webhook
  let (operations, resources, resourceTargets) := parseRules ((safeNestedSlice webhook ["rules"]).getD [])
  { uid := getUID obj ++ "-" ++ toString i
    source := if isValidating obj then validatingGVR else mutatingGVR
    name := getName obj ++ "-" ++ webhookName
    ns := ""
    namespaceSelector := safeNestedLabelSelector webhook ["namespaceSelector"]
    resourceTargets := resourceTargets
    constraintType := .admission
    effect := "intercept"
    severity := if failurePolicy = "Fail" then .warning else .info
    summary := buildWebhookSummary webhookType webhookName operations resources
    remediationHint := "Check webhook " ++ quote webhookName ++ " logs if requests are being rejected"
    details := [("webhookName", .str webhookName), ("webhookType", .str webhookType),
        ("failurePolicy", .str failurePolicy)] ++
      (if operations = [] then [] else [("operations", .strings operations)]) ++
      (if resources = [] then [] else [("resources", .strings resources)])
    rawObject := some obj }

def ownedElsewhere (raw : Any) : Option Obj :=
  (asMap raw).bind (fun webhook =>
    if shouldSkipWebhook webhook (safeStringFromMap webhook "name") then none else some webhook)

def parse (obj : Unstructured) : Except String (List Constraint) :=
  let webhooks := (safeNestedSlice obj.object ["webhooks"]).getD []
  if webhooks.length = 0 then .ok []
  else .ok (webhooks.zipIdx.filterMap
    (fun w => (ownedElsewhere w.1).map (fun webhook => webhookConstraint obj webhook w.2)))

def slots (obj : Unstructured) : List Slot :=
  ((safeNestedSlice obj.object ["webhooks"]).getD []).zipIdx.filterMap
    (fun w => (ownedElsewhere w.1).map (fun _ => .entry w.2))

theorem slots_nodup (obj : Unstructured) : (slots obj).Nodup := by
  apply nodup_filterMap_zipIdx _ _ Slot.entry (fun _ _ h => Slot.entry.inj h)
  intro e s hs
  obtain ⟨_, _, rfl⟩ := Option.map_eq_some_iff.mp hs
  rfl

theorem filedIn_parse (obj : Unstructured) : FiledIn obj (slots obj) (parse obj) := by
  unfold slots parse
  dsimp only
  split
  · rename_i h
    rw [List.length_eq_zero_iff.mp h]
    simp [FiledIn]
  · apply filedIn_filterMap
    · rintro ⟨raw, i⟩
      cases ownedElsewhere raw <;> simp [webhookConstraint, Slot.uid, Slot.suffix, String.append_assoc]
    · rintro ⟨raw, i⟩ c hc
      obtain ⟨webhook, _, rfl⟩ := Option.map_eq_some_iff.mp hc
      rfl

end Parse

end Nightjar.Adapters.WebhookConfig
