import Nightjar.Adapters.Slot

namespace Nightjar.Adapters.LimitRange

open Lib.Strings Apimachinery Util

def gvr : GVR := ⟨"", "v1", "limitranges"⟩

def adapterName : String := "limitrange"

def handles : List GVR := [gvr]

def formatResourceName (name : String) : String :=
  match name with
  | "cpu" => "CPU"
  | "memory" => "Memory"
  | _ => name

def stringMapAt (details : Obj) (key : String) : Option (List (String × String)) :=
  match details.lookup key with
  | some (.stringMap m) => some m
  | _ => none

def resourceRange (minVals maxVals : List (String × String)) (resource : String) : Option String :=
  let minStr := (minVals.lookup resource).getD ""
  let maxStr := (maxVals.lookup resource).getD ""
  if minStr ≠ "" ∧ maxStr ≠ "" then some (formatResourceName resource ++ " " ++ minStr ++ "-" ++ maxStr)
  else if maxStr ≠ "" then some (formatResourceName resource ++ " max " ++ maxStr)
  else if minStr ≠ "" then some (formatResourceName resource ++ " min " ++ minStr)
  else none

def rangeParts (details : Obj) : List String :=
  let minVals := (stringMapAt details "min").getD []
  let maxVals := (stringMapAt details "max").getD []
  let ranges := (sortedKeys (minVals.map Prod.fst ++ maxVals.map Prod.fst)).filterMap
    (resourceRange minVals maxVals)
  if ranges = [] then [] else [", ".intercalate ranges]

def defaultParts (details : Obj) : List String :=
  let defaults := (stringMapAt details "default").getD []
  if defaults = [] then []
  else ["defaults: " ++ ", ".intercalate ((sortedKeys (defaults.map Prod.fst)).map
    (fun r => formatResourceName r ++ "=" ++ (defaults.lookup r).getD ""))]

def buildLimitSummary (limitType : String) (details : Obj) : String :=
  let parts := rangeParts details ++ defaultParts details
  if parts = [] then limitType ++ " limits defined"
  else limitType ++ " limits: " ++ "; ".intercalate parts

section Parse
variable [Apimachinery]

def extractResourceMap (limit : Obj) (fieldName : String) : List (String × String) :=
  (bindings ((safeNestedMap limit [fieldName]).getD [])).filterMap (fun b => (asString b.2).map (b.1, ·))

def resourceEntry (limit : Obj) (fieldName : String) : Obj :=
  let vals := extractResourceMap limit fieldName
  if vals = [] then [] else [(fieldName, .stringMap vals)]

def limitTypeOf (limit : Obj) : String :=
  let limitType := safeStringFromMap limit "type"
  if limitType = "" then "Container" else limitType

def limitDetails (limit : Obj) : Obj :=
  [("type", .str (limitTypeOf limit))] ++ resourceEntry limit "default" ++ resourceEntry limit "defaultRequest" ++
    resourceEntry limit "max" ++ resourceEntry limit "min" ++ resourceEntry limit "maxLimitRequestRatio"

variable [Unicode]

def limitConstraint (obj : Unstructured) (limit : Obj) (i : Nat) : Constraint where
  uid := getUID obj ++ "-" ++ toString i
  source := gvr
  name := getName obj ++ "-" ++ toLower (limitTypeOf limit) ++ "-" ++ toString i
  ns := getNamespace obj
  affectedNamespaces := [getNamespace obj]
  constraintType := .resourceLimit
  effect := "limit"
  severity := .info
  summary := buildLimitSummary (limitTypeOf limit) (limitDetails limit)
  remediationHint := "Ensure your " ++ toLower (limitTypeOf limit) ++
    "s specify resource requests/limits within these bounds"
  details := limitDetails limit
  rawObject := some obj

def parse (obj : Unstructured) : Except String (List Constraint) :=
  match safeNestedMap obj.object ["spec"] with
  | none => .error ("limitrange " ++ getNamespace obj ++ "/" ++ getName obj ++ ": missing spec")
  | some spec =>
      let limits := (safeNestedSlice spec ["limits"]).getD []
      if limits.length = 0 then .ok []
      else .ok (limits.zipIdx.filterMap (fun l => (asMap l.1).map (fun limit => limitConstraint obj limit l.2)))

end Parse

section Slots
variable [Apimachinery]

def slots (obj : Unstructured) : List Slot :=
  match safeNestedMap obj.object ["spec"] with
  | none => []
  | some spec => ((safeNestedSlice spec ["limits"]).getD []).zipIdx.filterMap
      (fun l => (asMap l.1).map (fun _ => .entry l.2))

theorem slots_nodup (obj : Unstructured) : (slots obj).Nodup := by
  unfold slots
  split
  · exact List.nodup_nil
  · apply nodup_filterMap_zipIdx _ _ Slot.entry (fun _ _ h => Slot.entry.inj h)
    intro e s hs
    obtain ⟨_, _, rfl⟩ := Option.map_eq_some_iff.mp hs
    rfl

theorem filedIn_parse [Unicode] (obj : Unstructured) : FiledIn obj (slots obj) (parse obj) := by
  rw [slots, parse]
  cases safeNestedMap obj.object ["spec"] with
  | none => rfl
  | some spec =>
      dsimp only
      split
      · rename_i h
        rw [List.length_eq_zero_iff.mp h]
        simp [FiledIn]
      · apply filedIn_filterMap
        · rintro ⟨raw, i⟩
          cases asMap raw <;> simp [limitConstraint, Slot.uid, Slot.suffix, String.append_assoc]
        · rintro ⟨raw, i⟩ c hc
          obtain ⟨limit, _, rfl⟩ := Option.map_eq_some_iff.mp hc
          rfl

end Slots

end Nightjar.Adapters.LimitRange
