import Nightjar.Lib.Strings
import Nightjar.Lib.Tables

namespace Nightjar.Hubble

open Lib Lib.Strings

def stripSource (l : String) : String :=
  match splitOnce ':' l with
  | [_, rest] => rest
  | _ => l

def addLabel (result : Table String String) (l : String) : Table String String :=
  match splitOnce '=' (stripSource l) with
  | [key, value] => AList.insert key value result
  | [key] => if key ≠ "" then AList.insert key "" result else result
  | _ => result

def parseLabels (protoLabels : List String) : Option (Table String String) :=
  if protoLabels = [] then none else some (protoLabels.foldl addLabel ∅)

def labelText (source key value : String) : String := source ++ ":" ++ (key ++ "=" ++ value)

theorem addLabel_labelText {source key : String} (hsource : ':' ∉ source.toList) (hkey : '=' ∉ key.toList)
    (value : String) (result : Table String String) :
    addLabel result (labelText source key value) = AList.insert key value result := by
  have hstrip : stripSource (labelText source key value) = key ++ "=" ++ value := by
    rw [stripSource, labelText, splitOnce_append rfl hsource]
  rw [addLabel, hstrip, splitOnce_append rfl hkey]

section RoundTrip
variable (source : String → String)

/-- The texts of the labels, the source chosen for each key. -/
def labelTexts (es : List (String × String)) : List String := es.map (fun e => labelText (source e.1) e.1 e.2)

variable {source}

theorem foldl_addLabel_labelTexts {es : List (String × String)}
    (h : ∀ e ∈ es, ':' ∉ (source e.1).toList ∧ '=' ∉ e.1.toList) (result : Table String String) :
    (labelTexts source es).foldl addLabel result = es.foldl (fun m e => AList.insert e.1 e.2 m) result := by
  induction es generalizing result with
  | nil => rfl
  | cons e es ih =>
      obtain ⟨⟨hsource, hkey⟩, hrest⟩ := List.forall_mem_cons.mp h
      rw [labelTexts, List.map_cons, List.foldl_cons, List.foldl_cons, addLabel_labelText hsource hkey]
      exact ih hrest _

theorem parseLabels_labelTexts {es : List (String × String)} (hne : es ≠ [])
    (h : ∀ e ∈ es, ':' ∉ (source e.1).toList ∧ '=' ∉ e.1.toList) :
    parseLabels (labelTexts source es) = some (es.foldl (fun m e => AList.insert e.1 e.2 m) ∅) := by
  have htexts : labelTexts source es ≠ [] := fun he => hne (List.map_eq_nil_iff.mp he)
  rw [parseLabels, if_neg htexts, foldl_addLabel_labelTexts h]

end RoundTrip

/-- The labels of a map in any order, each with any source before it, are read back as the map.
Keys and sources may be empty too, and the values are arbitrary. -/
theorem parseLabels_round_trip (source : String → String) (labels : Table String String) (hne : labels ≠ ∅)
    (hkeys : ∀ k ∈ labels, '=' ∉ k.toList) (hsources : ∀ k ∈ labels, ':' ∉ (source k).toList)
    (es : List (String × String)) (hes : (es.map (fun e => ⟨e.1, e.2⟩)).Perm labels.entries) :
    ∃ result, parseLabels (labelTexts source es) = some result ∧ ∀ k, result.lookup k = labels.lookup k := by
  have hmem {k v : String} : (k, v) ∈ es ↔ labels.lookup k = some v := by
    rw [← Option.mem_def, AList.mem_lookup_iff, ← hes.mem_iff]
    simp
  have hlabel {e : String × String} (he : e ∈ es) : e.1 ∈ labels :=
    AList.lookup_isSome.mp (by rw [hmem.mp he]; rfl)
  have hentries : es ≠ [] := by
    rintro rfl
    exact hne (AList.ext (List.nil_perm.mp hes))
  refine ⟨_, parseLabels_labelTexts hentries fun e he => ⟨hsources _ (hlabel he), hkeys _ (hlabel he)⟩, fun k => ?_⟩
  obtain ⟨hnot, hl⟩ | ⟨v, hv, hl⟩ := Table.lookup_foldl_insert es ∅ k
  · have hnone : labels.lookup k = none := by
      rw [Option.eq_none_iff_forall_ne_some]
      intro v hv
      exact hnot (List.mem_map.mpr ⟨_, hmem.mpr hv, rfl⟩)
    rw [hl, hnone]
    rfl
  · exact hl.trans (hmem.mp hv).symm

def podLabels : Table String String :=
  AList.insert "app" "web" (AList.insert "uri" "http://x?a=b" (AList.insert "host" "" ∅))

theorem parseLabels_round_trip_podLabels :
    ∃ result, parseLabels ["reserved:host=", "k8s:app=web", "k8s:uri=http://x?a=b"] = some result ∧
      ∀ k, result.lookup k = podLabels.lookup k := by
  have hne : podLabels ≠ ∅ := fun h => absurd (congrArg AList.keys h) (by decide)
  have hkeys : ∀ k ∈ podLabels.keys, '=' ∉ k.toList := by decide
  have hsources : ∀ k ∈ podLabels.keys, ':' ∉ (if k = "host" then "reserved" else "k8s").toList := by decide
  exact parseLabels_round_trip (fun k => if k = "host" then "reserved" else "k8s") podLabels hne hkeys hsources
    [("host", ""), ("app", "web"), ("uri", "http://x?a=b")] (by decide)

end Nightjar.Hubble
