import Nightjar.Discovery.Ingestion
import Nightjar.Correlator.FlowKeys

namespace Nightjar.Discovery

open Adapters Apimachinery Lib.Strings

theorem length_of_isUUID {u : String} (h : Correlator.isUUID u = true) : u.toList.length = 36 := by
  rw [Correlator.isUUID, Bool.and_eq_true, decide_eq_true_iff] at h
  exact h.1

theorem slot_uid_ne {u v : UID} (hu : Correlator.isUUID u = true) (hv : Correlator.isUUID v = true)
    (hne : u ≠ v) (s t : Slot) : s.uid u ≠ t.uid v := by
  intro h
  exact hne (append_inj_of_length ((length_of_isUUID hu).trans (length_of_isUUID hv).symm) h)

def placeKeyed : List Builtin := [.resourceQuota, .limitRange, .webhookConfig, .gatekeeper, .kyverno, .generic]

/-- An object beside the adapter that parses it. The generic adapter also has the entry
points `ParseWithGVR` and `ParseWithConfig`, which are routes of their own. -/
structure ParsedObject where
  route : Route Builtin
  gvr : GVR
  object : Unstructured

namespace ParsedObject

def PlaceKeyed (o : ParsedObject) : Prop :=
  match o.route with
  | .adapter b => b ∈ placeKeyed
  | .generic | .genericWith _ => True

variable [Apimachinery] [Unicode]

def uids (o : ParsedObject) : List UID :=
  match o.route.parse o.gvr o.object with
  | .ok cs => cs.map Constraint.uid
  | .error _ => []

theorem uids_eq (o : ParsedObject) : o.uids = (o.route.slots o.object).map (Slot.uid (getUID o.object)) := by
  have hfiled := o.route.filedIn_parse o.gvr o.object
  unfold uids
  split <;> rename_i h <;> rw [h] at hfiled
  · exact hfiled.1
  · rw [show o.route.slots o.object = [] from hfiled, List.map_nil]

theorem slots_nodup {o : ParsedObject} (h : o.PlaceKeyed) : (o.route.slots o.object).Nodup := by
  rw [Route.slots_nodup_iff]
  unfold PlaceKeyed at h
  cases hr : o.route with
  | generic | genericWith _ => trivial
  | adapter b =>
      rw [hr] at h
      cases b with
      | networkPolicy | cilium => simp [placeKeyed] at h
      | resourceQuota | limitRange | webhookConfig | gatekeeper | kyverno | generic => trivial

theorem uids_nodup {o : ParsedObject} (h : o.PlaceKeyed) : o.uids.Nodup := by
  rw [uids_eq]
  exact (slots_nodup h).map (Slot.uid_injective _)

theorem uids_disjoint {o p : ParsedObject} (ho : Correlator.isUUID (getUID o.object) = true)
    (hp : Correlator.isUUID (getUID p.object) = true) (hne : getUID o.object ≠ getUID p.object) :
    o.uids.Disjoint p.uids := by
  intro u hu hu'
  rw [uids_eq] at hu hu'
  obtain ⟨s, -, rfl⟩ := List.mem_map.mp hu
  obtain ⟨t, -, ht⟩ := List.mem_map.mp hu'
  exact slot_uid_ne ho hp hne s t ht.symm

end ParsedObject

/-- No two constraints of objects with different UIDs have one UID, and no two of one object. -/
theorem synthetic_uids_distinct [Apimachinery] [Unicode] (objects : List ParsedObject)
    (hkeyed : ∀ o ∈ objects, o.PlaceKeyed) (huuid : ∀ o ∈ objects, Correlator.isUUID (getUID o.object) = true)
    (hdistinct : objects.Pairwise (fun o p => getUID o.object ≠ getUID p.object)) :
    objects.Pairwise (fun o p => o.uids.Disjoint p.uids) ∧ ∀ o ∈ objects, o.uids.Nodup := by
  refine ⟨?_, fun o ho => ParsedObject.uids_nodup (hkeyed o ho)⟩
  refine hdistinct.imp_of_mem ?_
  intro o p ho hp hne
  exact ParsedObject.uids_disjoint (huuid o ho) (huuid p hp) hne

section Samples
attribute [local instance] Apimachinery.model asciiTables

def uidObject (uid : UID) (spec : Obj) : Unstructured :=
  ⟨[("metadata", .map [("name", .str "sample"), ("namespace", .str "team"), ("uid", .str uid)]), ("spec", .map spec)]⟩

def twoLimits : ParsedObject where
  route := .adapter .limitRange
  gvr := LimitRange.gvr
  object := uidObject "0b7d2c1e-4a5f-4e8b-9c3d-1f2a3b4c5d6e" [("limits", .slice [.map [], .map []])]

def unknownPolicy : ParsedObject where
  route := .generic
  gvr := ⟨"example.com", "v1", "policies"⟩
  object := uidObject "0b7d2c1e-4a5f-4e8b-9c3d-1f2a3b4c5d6f" []

theorem synthetic_uids_distinct_twoLimits :
    twoLimits.uids = ["0b7d2c1e-4a5f-4e8b-9c3d-1f2a3b4c5d6e-0", "0b7d2c1e-4a5f-4e8b-9c3d-1f2a3b4c5d6e-1"] ∧
      [twoLimits, unknownPolicy].Pairwise (fun o p => o.uids.Disjoint p.uids) ∧
      ∀ o ∈ [twoLimits, unknownPolicy], o.uids.Nodup := by
  refine ⟨by rw [ParsedObject.uids_eq]; decide, synthetic_uids_distinct _ ?_ ?_ ?_⟩
  · intro o ho
    obtain rfl | rfl := List.mem_pair.mp ho
    · exact (by decide : Builtin.limitRange ∈ placeKeyed)
    · trivial
  · intro o ho
    obtain rfl | rfl := List.mem_pair.mp ho <;> decide
  · exact List.pairwise_pair.mpr (by decide)

end Samples

end Nightjar.Discovery
