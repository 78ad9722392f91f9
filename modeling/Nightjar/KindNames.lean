import Nightjar.Mcp.Handlers

namespace Nightjar.KindNames

open Lib.Strings Notifier

/-- The resources that both the report and the MCP server list with their kinds. -/
def listed : List String :=
  ["networkpolicies", "resourcequotas", "limitranges", "validatingwebhookconfigurations",
    "mutatingwebhookconfigurations", "ciliumnetworkpolicies", "ciliumclusterwidenetworkpolicies"]

/-- The kind that both give a resource they do not list. -/
def genericKind (resource : String) : String :=
  capitalize (if 1 < resource.length then trimSuffix resource "s" else resource).toList

theorem mcp_eq_genericKind {gvr : GVR} (h : gvr.resource ∉ listed) : Mcp.gvrToKind gvr = genericKind gvr.resource := by
  rw [Mcp.gvrToKind]
  split <;> simp_all [listed, genericKind]

theorem report_eq_mcp_of_listed {gvr : GVR} (h : gvr.resource ∈ listed) : gvrToKindName gvr = Mcp.gvrToKind gvr := by
  have hkinds : ∀ resource ∈ listed, gvrToKindName ⟨"", "", resource⟩ = Mcp.gvrToKind ⟨"", "", resource⟩ := by decide
  exact hkinds _ h

theorem report_eq_mcp {gvr : GVR} (h : gvr.resource ≠ "statefulsets") : gvrToKindName gvr = Mcp.gvrToKind gvr := by
  have hpod : genericKind "pods" = "Pod" := by decide
  have hdeployment : genericKind "deployments" = "Deployment" := by decide
  by_cases hl : gvr.resource ∈ listed
  · exact report_eq_mcp_of_listed hl
  · rw [mcp_eq_genericKind hl, gvrToKindName]
    split <;> simp_all [listed, genericKind]

theorem report_eq_mcp_iff {gvr : GVR} : gvrToKindName gvr = Mcp.gvrToKind gvr ↔ gvr.resource ≠ "statefulsets" := by
  refine ⟨fun he hs => ?_, report_eq_mcp⟩
  have hstatefulsets : gvrToKindName ⟨"", "", "statefulsets"⟩ ≠ Mcp.gvrToKind ⟨"", "", "statefulsets"⟩ := by decide
  rw [← hs] at hstatefulsets
  exact hstatefulsets he

theorem toUpper_of_isLower [UpperCase] {c : Char} (h : c.isLower = true) :
    UpperCase.toUpper c = Char.ofNat ((c.toNat + 224) % 256) := by
  have hletters : ∀ n < 26, (Char.ofNat (97 + n)).toUpper = Char.ofNat ((97 + n + 224) % 256) := by decide
  have hrange : ('a'.val ≤ c.val && c.val ≤ 'z'.val) = true := h
  rw [Bool.and_eq_true, decide_eq_true_iff, decide_eq_true_iff] at hrange
  have hge : 97 ≤ c.toNat := UInt32.le_iff_toNat_le.mp hrange.1
  have hle : c.toNat ≤ 122 := UInt32.le_iff_toNat_le.mp hrange.2
  have hc := hletters (c.toNat - 97) (by omega)
  rw [Nat.add_sub_cancel' hge, Char.ofNat_toNat] at hc
  rw [UpperCase.toUpper_ascii c (by omega), hc]

/-- The names of resources begin with a lower-case letter. -/
def startsLower (resource : String) : Bool := resource.toList.head?.any Char.isLower

theorem event_cases [UpperCase] (gvr : GVR) :
    (singular gvr.resource).toList = [] ∧ gvrToKind gvr = "" ∨
      ∃ c cs, (singular gvr.resource).toList = c :: cs ∧ gvrToKind gvr = String.ofList (UpperCase.toUpper c :: cs) := by
  unfold gvrToKind
  cases (singular gvr.resource).toList with
  | nil => exact .inl ⟨rfl, rfl⟩
  | cons c cs => exact .inr ⟨c, cs, rfl, rfl⟩

theorem event_eq_capitalize [UpperCase] {gvr : GVR} (h : startsLower (singular gvr.resource) = true) :
    gvrToKind gvr = capitalize (singular gvr.resource).toList := by
  rw [startsLower] at h
  obtain ⟨hs, he⟩ | ⟨c, cs, hs, he⟩ := event_cases gvr
  · rw [he, hs, capitalize]
  · rw [hs, List.head?_cons, Option.any_some] at h
    rw [he, hs, capitalize, toUpper_of_isLower h]

theorem head?_trimSuffix_s {resource : String} (h : resource ≠ "s") :
    (trimSuffix resource "s").toList.head? = resource.toList.head? := by
  by_cases hs : hasSuffix resource "s" = true
  · obtain ⟨t, rfl⟩ := eq_append_of_hasSuffix hs
    have hne : t.toList ≠ [] := by
      intro ht
      rw [String.toList_eq_nil_iff.mp ht] at h
      exact h rfl
    rw [trimSuffix_append, String.toList_append, List.head?_append_of_ne_nil _ hne]
  · rw [trimSuffix, if_neg hs]

theorem genericKind_eq {resource : String} (h : resource ≠ "s") :
    genericKind resource = capitalize (trimSuffix resource "s").toList := by
  rw [genericKind]
  split
  · rfl
  · rename_i hlength
    have hs : ¬ hasSuffix resource "s" = true := by
      intro hs
      obtain ⟨t, rfl⟩ := eq_append_of_hasSuffix hs
      have ht : t.length = 0 := by
        rw [String.length_append, show "s".length = 1 from rfl] at hlength
        omega
      rw [String.length_eq_zero_iff.mp ht] at h
      exact h rfl
    rw [trimSuffix, if_neg hs]

theorem event_eq_genericKind [UpperCase] {gvr : GVR} (hstart : startsLower gvr.resource = true)
    (hies : hasSuffix gvr.resource "ies" = false) (hs : gvr.resource ≠ "s") :
    gvrToKind gvr = genericKind gvr.resource := by
  have hsingular : singular gvr.resource = trimSuffix gvr.resource "s" := by
    rw [singular, hies, if_neg Bool.false_ne_true]
  rw [startsLower, ← head?_trimSuffix_s hs, ← hsingular] at hstart
  rw [event_eq_capitalize hstart, genericKind_eq hs, hsingular]

/-- The letters of a kind, whatever their case. -/
def folded (kind : String) : List Char := kind.toList.map Char.toLower

theorem listed_kinds : ∀ resource ∈ listed, startsLower (singular resource) = true ∧
    (singular resource).toList.tail ≠ (Mcp.gvrToKind ⟨"", "", resource⟩).toList.tail ∧
    folded (capitalize (singular resource).toList) = folded (Mcp.gvrToKind ⟨"", "", resource⟩) := by
  decide +kernel

section Differences
variable [UpperCase] {gvr : GVR}

theorem tail_event : (gvrToKind gvr).toList.tail = (singular gvr.resource).toList.tail := by
  obtain ⟨hs, he⟩ | ⟨c, cs, hs, he⟩ := event_cases gvr
  · rw [he, hs]
    rfl
  · rw [he, hs, String.toList_ofList, List.tail_cons, List.tail_cons]

theorem length_event : (gvrToKind gvr).toList.length = (singular gvr.resource).toList.length := by
  obtain ⟨hs, he⟩ | ⟨c, cs, hs, he⟩ := event_cases gvr
  · rw [he, hs]
    rfl
  · rw [he, hs, String.toList_ofList, List.length_cons, List.length_cons]

theorem event_ne_mcp_of_listed (h : gvr.resource ∈ listed) : gvrToKind gvr ≠ Mcp.gvrToKind gvr := by
  obtain ⟨-, htail, -⟩ := listed_kinds _ h
  intro he
  exact htail (tail_event.symm.trans (congrArg (fun s => s.toList.tail) he))

omit [UpperCase] in
theorem length_capitalize (cs : List Char) : (capitalize cs).toList.length = cs.length := by
  cases cs with
  | nil => rfl
  | cons c cs => rw [capitalize, String.toList_ofList, List.length_cons, List.length_cons]

theorem event_ne_mcp_of_ies (h : hasSuffix gvr.resource "ies" = true) : gvrToKind gvr ≠ Mcp.gvrToKind gvr := by
  by_cases hl : gvr.resource ∈ listed
  · exact event_ne_mcp_of_listed hl
  · obtain ⟨t, ht⟩ := eq_append_of_hasSuffix h
    have hsingular : singular gvr.resource = t ++ "y" := by
      rw [singular, if_pos h, ht, trimSuffix_append]
    have hies : t ++ "ies" = t ++ "ie" ++ "s" := by
      rw [String.append_assoc]
      rfl
    have hcut : trimSuffix gvr.resource "s" = t ++ "ie" := by
      rw [ht, hies, trimSuffix_append]
    have hs : gvr.resource ≠ "s" := by
      intro hs
      rw [hs] at h
      exact absurd h (by decide)
    intro he
    have hlength := congrArg (fun s => s.toList.length) he
    rw [length_event, hsingular, mcp_eq_genericKind hl, genericKind_eq hs, length_capitalize, hcut,
      String.toList_append, String.toList_append, List.length_append, List.length_append] at hlength
    simp at hlength

theorem event_ne_mcp_of_s (h : gvr.resource = "s") : gvrToKind gvr ≠ Mcp.gvrToKind gvr := by
  have hl : gvr.resource ∉ listed := by
    rw [h]
    decide
  intro he
  have hlength := congrArg (fun s => s.toList.length) he
  rw [length_event, mcp_eq_genericKind hl, h] at hlength
  exact absurd hlength (by decide)

end Differences

theorem event_eq_mcp_iff [UpperCase] {gvr : GVR} (hstart : startsLower gvr.resource = true) :
    gvrToKind gvr = Mcp.gvrToKind gvr ↔
      gvr.resource ∉ listed ∧ hasSuffix gvr.resource "ies" = false ∧ gvr.resource ≠ "s" := by
  constructor
  · intro he
    exact ⟨fun hl => event_ne_mcp_of_listed hl he, Bool.eq_false_iff.mpr fun hies => event_ne_mcp_of_ies hies he,
      fun hs => event_ne_mcp_of_s hs he⟩
  · rintro ⟨hl, hies, hs⟩
    rw [event_eq_genericKind hstart hies hs, mcp_eq_genericKind hl]

theorem report_folded (gvr : GVR) : folded (gvrToKindName gvr) = folded (Mcp.gvrToKind gvr) := by
  by_cases hs : gvr.resource = "statefulsets"
  · have hstatefulsets : folded (gvrToKindName ⟨"", "", "statefulsets"⟩) =
        folded (Mcp.gvrToKind ⟨"", "", "statefulsets"⟩) := by decide
    rw [← hs] at hstatefulsets
    exact hstatefulsets
  · rw [report_eq_mcp hs]

theorem event_folded_of_listed [UpperCase] {gvr : GVR} (h : gvr.resource ∈ listed) :
    folded (gvrToKind gvr) = folded (Mcp.gvrToKind gvr) := by
  obtain ⟨hstart, -, hletters⟩ := listed_kinds _ h
  rw [event_eq_capitalize hstart]
  exact hletters

/-- The three kinds of a resource. The report and the MCP server give the same one but for the
case of one entry that only the report lists. The event builder gives it too, with its first
letter as the only capital; of the names in `ies` this is said of the listed ones. -/
theorem kind_names_agree [UpperCase] (gvr : GVR) (hstart : startsLower gvr.resource = true) :
    (folded (gvrToKindName gvr) = folded (Mcp.gvrToKind gvr) ∧
      (gvr.resource ≠ "statefulsets" → gvrToKindName gvr = Mcp.gvrToKind gvr)) ∧
    (gvr.resource ≠ "s" → (hasSuffix gvr.resource "ies" = true → gvr.resource ∈ listed) →
      folded (gvrToKind gvr) = folded (Mcp.gvrToKind gvr) ∧
        (gvr.resource ∉ listed → gvrToKind gvr = Mcp.gvrToKind gvr)) := by
  refine ⟨⟨report_folded gvr, report_eq_mcp_iff.mpr⟩, fun hs hies => ?_⟩
  have hexact (hl : gvr.resource ∉ listed) : gvrToKind gvr = Mcp.gvrToKind gvr :=
    (event_eq_mcp_iff hstart).mpr ⟨hl, Bool.eq_false_iff.mpr fun h => hl (hies h), hs⟩
  by_cases hl : gvr.resource ∈ listed
  · exact ⟨event_folded_of_listed hl, hexact⟩
  · exact ⟨by rw [hexact hl], hexact⟩

section Sample
attribute [local instance] asciiUpperCase

def networkPolicies : GVR := ⟨"networking.k8s.io", "v1", "networkpolicies"⟩

theorem kind_names_agree_networkPolicies :
    folded (gvrToKind networkPolicies) = folded (gvrToKindName networkPolicies) ∧
      gvrToKindName networkPolicies = Mcp.gvrToKind networkPolicies := by
  obtain ⟨⟨hreport, hexact⟩, hevent⟩ := kind_names_agree networkPolicies (by decide)
  exact ⟨(hevent (by decide) (by decide)).1.trans hreport.symm, hexact (by decide)⟩

theorem kind_names_differ_networkPolicies :
    gvrToKind networkPolicies = "Networkpolicy" ∧ gvrToKindName networkPolicies = "NetworkPolicy" ∧
      Mcp.gvrToKind networkPolicies = "NetworkPolicy" ∧
      ¬ ∀ gvr : GVR, gvr.resource ≠ "" → gvr.resource.toList.all Char.isLower = true →
        gvrToKind gvr = gvrToKindName gvr ∧ gvrToKindName gvr = Mcp.gvrToKind gvr := by
  refine ⟨by decide, by decide, by decide, fun h => ?_⟩
  have hsame := (h networkPolicies (by decide) (by decide)).1
  exact absurd hsame (by decide)

end Sample

end Nightjar.KindNames
