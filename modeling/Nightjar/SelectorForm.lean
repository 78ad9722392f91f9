import Nightjar.Util

namespace Nightjar

def LabelSelectorRequirement.object (r : LabelSelectorRequirement) : Obj :=
  [("key", .str r.key), ("operator", .str r.operator)] ++ omittedSlice "values" (r.values.map .str)

/-- The form of a selector in an API object. Each part is left out when it is empty. -/
def LabelSelector.object (s : LabelSelector) : Obj :=
  omitempty "matchLabels" (s.matchLabels ≠ []) (.map (s.matchLabels.map (fun b => (b.1, .str b.2)))) ++
    omittedSlice "matchExpressions" (s.matchExpressions.map (fun r => .map r.object))

namespace Util

section RoundTrip
variable [Apimachinery]

omit [Apimachinery] in
theorem getD_omitted_list {α β : Type} (f : α → β) (xs : List α) :
    (if xs = [] then none else some (xs.map f)).getD [] = xs.map f := by
  split
  · rw [‹xs = []›]
    rfl
  · rfl

theorem requirementOf_object (r : LabelSelectorRequirement) : requirementOf r.object = r := by
  have hvalues : field r.object ["values"] = if r.values = [] then none else some (.slice (r.values.map .str)) := by
    simp [field, walk, LabelSelectorRequirement.object, omittedSlice, List.lookup_cons, lookup_omitempty]
  rw [requirementOf, safeNestedSlice_omitted hvalues, getD_omitted_list, filterMap_asString]
  rfl

theorem matchLabels_object {s : LabelSelector} (h : (s.matchLabels.map Prod.fst).Nodup) :
    (bindings ((safeNestedMap s.object ["matchLabels"]).getD [])).filterMap (fun b => (asString b.2).map (b.1, ·)) =
      s.matchLabels := by
  have hfield : field s.object ["matchLabels"] =
      if s.matchLabels = [] then none else some (.map (s.matchLabels.map (fun b => (b.1, .str b.2)))) := by
    simp [field, walk, LabelSelector.object, omittedSlice, List.lookup_append, lookup_omitempty]
  have hkeys : (s.matchLabels.map (fun b => (b.1, Any.str b.2))).map Prod.fst = s.matchLabels.map Prod.fst := by
    rw [List.map_map]
    rfl
  rw [safeNestedMap_omitted hfield, getD_omitted_list, bindings_of_nodup (hkeys ▸ h), List.filterMap_map]
  exact List.filterMap_some

theorem matchExpressions_object (s : LabelSelector) :
    (((safeNestedSlice s.object ["matchExpressions"]).getD []).filterMap asMap).map requirementOf =
      s.matchExpressions := by
  have hfield : field s.object ["matchExpressions"] =
      if s.matchExpressions = [] then none
      else some (.slice (s.matchExpressions.map (fun r => .map r.object))) := by
    simp [field, walk, LabelSelector.object, omittedSlice, List.lookup_append, lookup_omitempty]
  rw [safeNestedSlice_omitted hfield, getD_omitted_list, filterMap_asMap, List.map_map]
  exact (List.map_congr_left fun r _ => requirementOf_object r).trans (List.map_id s.matchExpressions)

theorem safeNestedLabelSelector_object {m : Obj} {fields : List String} {s : LabelSelector}
    (h : (s.matchLabels.map Prod.fst).Nodup) (hform : field m fields = some (.map s.object)) :
    safeNestedLabelSelector (some m) fields = some s := by
  rw [safeNestedLabelSelector, safeNestedMap_eq_some.mpr hform]
  dsimp only
  rw [matchLabels_object h, matchExpressions_object]

theorem safeNestedLabelSelector_absent {obj : Option Obj} {fields : List String}
    (h : obj.bind (field · fields) = none) : safeNestedLabelSelector obj fields = none := by
  cases obj with
  | none => rfl
  | some m =>
      have hmap : safeNestedMap (some m) fields = none := safeNestedMap_absent h
      rw [safeNestedLabelSelector, hmap]

/-- Wherever an object holds the form of a selector, it is read back. A path that leads nowhere
gives nil, and the empty form gives the selector of everything. -/
theorem safeNestedLabelSelector_round_trip [LabelSelectors] (fields : List String) :
    (∀ (m : Obj) (s : LabelSelector), (s.matchLabels.map Prod.fst).Nodup → field m fields = some (.map s.object) →
      safeNestedLabelSelector (some m) fields = some s ∧
        ∀ labels, matchesLabelSelector (safeNestedLabelSelector (some m) fields) labels =
          matchesLabelSelector (some s) labels) ∧
    (∀ obj : Option Obj, obj.bind (field · fields) = none → safeNestedLabelSelector obj fields = none) ∧
    ∀ m : Obj, field m fields = some (.map []) → ∃ s, safeNestedLabelSelector (some m) fields = some s ∧
      ∀ labels, matchesLabelSelector (some s) labels = true := by
  refine ⟨fun m s hkeys hform => ?_, fun _ => safeNestedLabelSelector_absent, fun m hform => ?_⟩
  · have hread := safeNestedLabelSelector_object hkeys hform
    exact ⟨hread, fun labels => by rw [hread]⟩
  · have hnil : (⟨[], []⟩ : LabelSelector).object = [] := rfl
    refine ⟨⟨[], []⟩, safeNestedLabelSelector_object List.nodup_nil ?_, fun labels => rfl⟩
    rw [hform, hnil]

end RoundTrip

section Sample
attribute [local instance] Apimachinery.model LabelSelectors.model

def frontend : LabelSelector where
  matchLabels := [("app", "web"), ("tier", "frontend")]
  matchExpressions := [⟨"env", "In", ["prod", "staging"]⟩, ⟨"canary", "DoesNotExist", []⟩]

def policyWith (podSelector : Obj) : Obj := [("spec", .map [("podSelector", .map podSelector)])]

theorem safeNestedLabelSelector_round_trip_frontend :
    safeNestedLabelSelector (some (policyWith frontend.object)) ["spec", "podSelector"] = some frontend ∧
      matchesLabelSelector (safeNestedLabelSelector (some (policyWith frontend.object)) ["spec", "podSelector"])
        [("env", "prod"), ("tier", "frontend"), ("app", "web")] = true ∧
      safeNestedLabelSelector (some [("spec", .map [])]) ["spec", "podSelector"] = none ∧
      (safeNestedLabelSelector (some (policyWith [])) ["spec", "podSelector"]).isSome := by
  obtain ⟨hobject, habsent, hempty⟩ := safeNestedLabelSelector_round_trip ["spec", "podSelector"]
  obtain ⟨hread, hmatches⟩ := hobject (policyWith frontend.object) frontend (by decide) rfl
  obtain ⟨s, hs, -⟩ := hempty (policyWith []) rfl
  exact ⟨hread, (hmatches _).trans (by decide), habsent (some [("spec", .map [])]) rfl, by rw [hs]; rfl⟩

end Sample

end Util

end Nightjar
