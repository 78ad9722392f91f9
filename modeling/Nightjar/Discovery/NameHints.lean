import Nightjar.Discovery.Lifecycle
import Nightjar.Discovery.Routing
import Mathlib.Data.Fintype.EquivFin

namespace Nightjar.Discovery

open Lib.Strings Adapters

def splitCSV (s : String) : List String := ((split ',' s).map trimSpace).filter (· ≠ "")

theorem splitCSV_intercalate {items : List String}
    (hitems : ∀ item ∈ items, item ≠ "" ∧ trimSpace item = item ∧ ',' ∉ item.toList) :
    splitCSV (",".intercalate items) = items := by
  rcases eq_or_ne items [] with rfl | hne
  · decide
  · have hsplit : split ',' (",".intercalate items) = items := by
      have hlist : (",".intercalate items).toList = [','].intercalate (items.map String.toList) := by
        simp [String.toList_intercalate]
      rw [split, hlist, List.splitOn_intercalate]
      · simp
      · intro l hl
        obtain ⟨item, hitem, rfl⟩ := List.mem_map.mp hl
        exact (hitems item hitem).2.2
      · simpa using hne
    have htrim : items.map trimSpace = items := by
      rw [List.map_congr_left (fun item hitem => (hitems item hitem).2.1), List.map_id']
    rw [splitCSV, hsplit, htrim, List.filter_eq_self]
    intro item hitem
    exact decide_eq_true (hitems item hitem).1

namespace Engine

variable {α : Type}

def setAdditionalHints (e : Engine α) (hints : List String) : Engine α :=
  { e with nameHints := e.nameHints ++ hints }

def knownGroups (e : Engine α) : Finset String :=
  ("" :: e.policyGroups ++ e.registry.gvrMap.keys.map GVR.group ++
    e.profileStates.map (fun ps => ps.gvr.group)).toFinset ∪ e.annotatedCRDs.image GVR.group

theorem isConstraintLike_of_unknown_group [Unicode] (e : Engine α) {gvr : GVR} (hgroup : gvr.group ∉ e.knownGroups)
    (resourceName : String) :
    e.isConstraintLike gvr resourceName = e.nameHints.any (contains (toLower resourceName)) := by
  simp only [knownGroups, Finset.mem_union, List.mem_toFinset, List.mem_cons, List.mem_append, List.mem_map,
    Finset.mem_image, not_or, not_exists, not_and] at hgroup
  obtain ⟨⟨⟨⟨hcore, hpolicy⟩, hregistry⟩, hprofiles⟩, hannotated⟩ := hgroup
  have hforGVR : e.registry.forGVR gvr = none := by
    rw [Registry.forGVR, AList.lookup_eq_none]
    intro hmem
    exact hregistry gvr hmem rfl
  have hany : e.profileStates.any (fun ps => ps.enabled && decide (ps.gvr = gvr)) = false := by
    rw [List.any_eq_false]
    rintro ps hps h
    simp only [Bool.and_eq_true, decide_eq_true_eq] at h
    exact hprofiles ps hps (by rw [h.2])
  have hcrd : gvr ∉ e.annotatedCRDs := fun h => hannotated gvr h rfl
  simp [isConstraintLike, hcore, hpolicy, hforGVR, hany, hcrd]

theorem isConstraintLike_of_hint [Unicode] {e : Engine α} {resourceName hint : String} (hmem : hint ∈ e.nameHints)
    (hcontains : contains (toLower resourceName) hint = true) (gvr : GVR) :
    e.isConstraintLike gvr resourceName = true := by
  have hany : e.nameHints.any (contains (toLower resourceName)) = true := List.any_eq_true.mpr ⟨hint, hmem, hcontains⟩
  simp [isConstraintLike, hany]

/-- Only the name is brought to lower case, not the hint it is searched for. -/
theorem hints_effective_iff [Unicode] (e : Engine α) (csv name : String) :
    ((∃ hint ∈ splitCSV csv, contains (toLower name) (toLower hint) = true) →
      ∀ gvr : GVR, gvr.resource = name →
        (e.setAdditionalHints (splitCSV csv)).isConstraintLike gvr gvr.resource = true) ↔
      (∃ hint ∈ e.nameHints ++ splitCSV csv, contains (toLower name) hint = true) ∨
        ∀ hint ∈ splitCSV csv, contains (toLower name) (toLower hint) = false := by
  constructor
  · intro heffective
    by_cases hnamed : ∃ hint ∈ splitCSV csv, contains (toLower name) (toLower hint) = true
    · left
      obtain ⟨group, hgroup⟩ := Infinite.exists_notMem_finset (e.setAdditionalHints (splitCSV csv)).knownGroups
      have hlike := heffective hnamed ⟨group, "v1", name⟩ rfl
      rw [isConstraintLike_of_unknown_group _ hgroup, List.any_eq_true] at hlike
      exact hlike
    · right
      intro hint hmem
      exact Bool.eq_false_iff.mpr (fun h => hnamed ⟨hint, hmem, h⟩)
  · rintro (⟨hint, hmem, hcontains⟩ | hnone) ⟨hint', hmem', hcontains'⟩ gvr rfl
    · exact isConstraintLike_of_hint (e := e.setAdditionalHints (splitCSV csv)) hmem hcontains gvr
    · rw [hnone hint' hmem'] at hcontains'
      cases hcontains'

section Sample
attribute [local instance] asciiTables Apimachinery.model

theorem hint_guardRail_missed :
    splitCSV "GuardRail" = ["GuardRail"] ∧ contains (toLower "guardrails") (toLower "GuardRail") = true ∧
      (controllerEngine.setAdditionalHints (splitCSV "GuardRail")).isConstraintLike
        ⟨"corp.io", "v1", "guardrails"⟩ "guardrails" = false := by
  refine ⟨?_, ?_, ?_⟩ <;> decide +kernel

end Sample

end Engine

end Nightjar.Discovery
