import Nightjar.Adapters.Slot
import Nightjar.Lib.Float64

namespace Nightjar.Adapters.ResourceQuota

open Lib Lib.Strings Apimachinery Util

def gvr : GVR := ⟨"", "v1", "resourcequotas"⟩

def adapterName : String := "resourcequota"

def handles : List GVR := [gvr]

def isCPUResource (name : String) : Bool := decide (name = "cpu") || hasSuffix name ".cpu"

def isMemoryResource (name : String) : Bool := decide (name = "memory") || hasSuffix name ".memory"

def formatResourceName (name : String) : String :=
  match name with
  | "cpu" => "CPU"
  | "memory" => "Memory"
  | "pods" => "Pods"
  | "services" => "Services"
  | "secrets" => "Secrets"
  | "configmaps" => "ConfigMaps"
  | "persistentvolumeclaims" => "PVCs"
  | _ => name

def infoText : Option Any → String
  | some (.str s) => s
  | some (.int n) => toString n
  | _ => "<nil>"

def summaryPart (name : String) (info : Obj) : String :=
  match info.lookup "used" with
  | none => formatResourceName name ++ ": limit " ++ infoText (info.lookup "hard")
  | some used =>
      formatResourceName name ++ ": " ++ infoText used ++ "/" ++ infoText (info.lookup "hard") ++
        match info.lookup "percent" with
        | none => ""
        | some percent => " (" ++ infoText percent ++ "%)"

def buildSummary (resources : List (String × Obj)) : String :=
  "; ".intercalate ((sortedKeys (resources.map Prod.fst)).filterMap
    (fun name => (resources.lookup name).map (summaryPart name)))

def severityOf (maxPercent : Rat) : Severity :=
  if 90 ≤ maxPercent then .critical else if 75 ≤ maxPercent then .warning else .info

section Parse
variable [Apimachinery]

/-- The usage in percent, in binary64 arithmetic. -/
def percentOf (name : String) (used hard : Rat) : Rat :=
  if isCPUResource name then
    Float64.mul (Float64.div (Float64.ofInt (quantityMilliValue used)) (Float64.ofInt (quantityMilliValue hard))) 100
  else if isMemoryResource name then
    Float64.mul (Float64.div (Float64.ofInt (quantityValue used)) (Float64.ofInt (quantityValue hard))) 100
  else
    Float64.mul (Float64.div (Float64.ofInt (quantityValue used)) (Float64.ofInt (quantityValue hard))) 100

def resourceInfo (used : Option Obj) (name hardText : String) (hard : Rat) : Obj × Option Rat :=
  match used.bind (List.lookup name) with
  | some (.str usedText) =>
      match parseQuantity usedText with
      | .error _ => ([("hard", .str hardText)], none)
      | .ok usedQty =>
          if hard = 0 then ([("hard", .str hardText), ("used", .str usedText)], none)
          else
            let percent := percentOf name usedQty hard
            ([("hard", .str hardText), ("used", .str usedText), ("percent", .int (Float64.truncate percent))],
              some percent)
  | _ => ([("hard", .str hardText)], none)

def resourceInfos (hard : Obj) (used : Option Obj) : List (String × Obj × Option Rat) :=
  (sortedKeys (hard.map Prod.fst)).filterMap (fun name =>
    match hard.lookup name with
    | some (.str hardText) =>
        match parseQuantity hardText with
        | .ok hardQty => some (name, resourceInfo used name hardText hardQty)
        | .error _ => none
    | _ => none)

theorem mem_resourceInfos {hard : Obj} {used : Option Obj} {name : String} {info : Obj × Option Rat} :
    (name, info) ∈ resourceInfos hard used ↔ ∃ hardText hardQty, hard.lookup name = some (.str hardText) ∧
      parseQuantity hardText = .ok hardQty ∧ resourceInfo used name hardText hardQty = info := by
  rw [resourceInfos, List.mem_filterMap]
  constructor
  · rintro ⟨key, -, hinfo⟩
    split at hinfo
    · rename_i hardText hl
      split at hinfo
      · rename_i hardQty hq
        cases hinfo
        exact ⟨hardText, hardQty, hl, hq, rfl⟩
      · cases hinfo
    · cases hinfo
  · rintro ⟨hardText, hardQty, hl, hq, rfl⟩
    have hkey : name ∈ hard.map Prod.fst := by
      obtain ⟨l₁, l₂, rfl, -⟩ := List.lookup_eq_some_iff.mp hl
      simp
    refine ⟨name, mem_sortedKeys.mpr hkey, ?_⟩
    rw [hl]
    dsimp only
    rw [hq]

def maxPercent (infos : List (String × Obj × Option Rat)) : Rat :=
  infos.foldl (fun acc info =>
    match info.2.2 with
    | some percent => if acc < percent then percent else acc
    | none => acc) 0

def parse (obj : Unstructured) : Except String (List Constraint) :=
  match safeNestedMap obj.object ["spec"] with
  | none => .error ("resourcequota " ++ getNamespace obj ++ "/" ++ getName obj ++ ": missing spec")
  | some spec =>
      let hard := (safeNestedMap spec ["hard"]).getD []
      if hard.length = 0 then .ok []
      else
        let used := safeNestedMap (safeNestedMap obj.object ["status"]) ["used"]
        let infos := resourceInfos hard used
        let resources := infos.map (fun info => (info.1, info.2.1))
        .ok [{ uid := getUID obj
               source := gvr
               name := getName obj
               ns := getNamespace obj
               affectedNamespaces := [getNamespace obj]
               constraintType := .resourceLimit
               effect := "limit"
               severity := severityOf (maxPercent infos)
               summary := buildSummary resources
               remediationHint := "Request quota increase or reduce resource usage"
               details := [("resources", .mapOfMaps resources)]
               rawObject := some obj }]

def slots (obj : Unstructured) : List Slot :=
  match safeNestedMap obj.object ["spec"] with
  | none => []
  | some spec => if ((safeNestedMap spec ["hard"]).getD []).length = 0 then [] else [.whole]

theorem slots_nodup (obj : Unstructured) : (slots obj).Nodup := by
  unfold slots
  split
  · exact List.nodup_nil
  · split <;> simp

theorem filedIn_parse (obj : Unstructured) : FiledIn obj (slots obj) (parse obj) := by
  rw [slots, parse]
  cases safeNestedMap obj.object ["spec"] with
  | none => rfl
  | some spec =>
      dsimp only
      split <;> simp [FiledIn]

end Parse

end Nightjar.Adapters.ResourceQuota
