import Nightjar.Unstructured

namespace Nightjar

/-- `metav1.LabelSelectorAsSelector` and the matching of its result. -/
class LabelSelectors where
  asSelector : LabelSelector → Except String (List (String × String) → Bool)

namespace LabelSelectors

def requirement (r : LabelSelectorRequirement) : Except String (List (String × String) → Bool) :=
  if r.operator = "In" ∨ r.operator = "NotIn" then
    if r.values = [] then .error "for 'in', 'notin' operators, values set can't be empty"
    else if r.operator = "In" then .ok (fun labels => (labels.lookup r.key).any (fun v => decide (v ∈ r.values)))
    else .ok (fun labels => (labels.lookup r.key).all (fun v => decide (v ∉ r.values)))
  else if r.operator = "Exists" ∨ r.operator = "DoesNotExist" then
    if r.values ≠ [] then .error "values set must be empty for exists and does not exist"
    else .ok (fun labels => (labels.lookup r.key).isSome == decide (r.operator = "Exists"))
  else .error (r.operator ++ " is not a valid label selector operator")

/-- The selectors of the API conventions, with no check of the syntax of labels. -/
@[reducible] def model : LabelSelectors where
  asSelector selector := (selector.matchExpressions.mapM requirement).map (fun rs labels =>
    selector.matchLabels.all (fun b => decide (labels.lookup b.1 = some b.2)) && rs.all (fun r => r labels))

/-- A selector reads the labels as a map: two lists that answer every key alike are the same to it. -/
class Lawful [LabelSelectors] : Prop where
  congr : ∀ {selector isMatch}, asSelector selector = .ok isMatch →
    ∀ {labels labels'}, (∀ k, labels.lookup k = labels'.lookup k) → isMatch labels = isMatch labels'

theorem requirement_congr {r : LabelSelectorRequirement} {isMatch : List (String × String) → Bool}
    (h : requirement r = .ok isMatch) {labels labels' : List (String × String)}
    (hlabels : ∀ k, labels.lookup k = labels'.lookup k) : isMatch labels = isMatch labels' := by
  rw [requirement] at h
  split_ifs at h <;> cases h <;> simp only [hlabels]

theorem requirements_congr {rs : List LabelSelectorRequirement} {tests : List (List (String × String) → Bool)}
    (h : rs.mapM requirement = .ok tests) {labels labels' : List (String × String)}
    (hlabels : ∀ k, labels.lookup k = labels'.lookup k) :
    tests.all (fun t => t labels) = tests.all (fun t => t labels') := by
  induction rs generalizing tests with
  | nil =>
      cases h
      rfl
  | cons r rs ih =>
      rw [List.mapM_cons] at h
      cases hr : requirement r with
      | error e =>
          rw [hr] at h
          cases h
      | ok t =>
          cases hrs : rs.mapM requirement with
          | error e =>
              rw [hr, hrs] at h
              cases h
          | ok ts =>
              rw [hr, hrs] at h
              cases h
              rw [List.all_cons, List.all_cons, requirement_congr hr hlabels, ih hrs]

theorem lawful_model : @Lawful model := by
  refine @Lawful.mk model ?_
  intro selector isMatch h labels labels' hlabels
  change (selector.matchExpressions.mapM requirement).map _ = .ok isMatch at h
  cases hrs : selector.matchExpressions.mapM requirement with
  | error e =>
      rw [hrs] at h
      cases h
  | ok tests =>
      rw [hrs] at h
      cases h
      simp only [hlabels, requirements_congr hrs hlabels]

end LabelSelectors

namespace Util

open Apimachinery

variable [Apimachinery]

def safe {α : Type} (accessor : Obj → List String → Except String (Option α)) (obj : Option Obj)
    (fields : List String) : Option α :=
  match obj with
  | none => none
  | some m =>
      match accessor m fields with
      | .ok (some v) => some v
      | _ => none

def safeNestedString (obj : Option Obj) (fields : List String) : String :=
  (safe nestedString obj fields).getD ""

def safeNestedStringSlice (obj : Option Obj) (fields : List String) : List String :=
  (safe nestedStringSlice obj fields).getD []

def safeNestedMap (obj : Option Obj) (fields : List String) : Option Obj := safe nestedMap obj fields

def safeNestedSlice (obj : Option Obj) (fields : List String) : Option (List Any) :=
  safe nestedSlice obj fields

omit [Apimachinery] in
theorem safe_eq_some {α : Type} {accessor : Obj → List String → Except String (Option α)} {m : Obj}
    {fields : List String} {v : α} : safe accessor (some m) fields = some v ↔ accessor m fields = .ok (some v) := by
  rw [safe]
  split <;> simp_all

theorem safeNestedMap_eq_some {m o : Obj} {fields : List String} :
    safeNestedMap (some m) fields = some o ↔ field m fields = some (.map o) :=
  safe_eq_some.trans (nestedMap_found m fields o)

theorem safeNestedSlice_eq_some {m : Obj} {xs : List Any} {fields : List String} :
    safeNestedSlice (some m) fields = some xs ↔ field m fields = some (.slice xs) :=
  safe_eq_some.trans (nestedSlice_found m fields xs)

section Omitted
variable {α : Type} {found : Option α} {stored : Option Any} {inj : α → Any}

omit [Apimachinery] in
theorem absent_of_found (hfound : ∀ v, found = some v ↔ stored = some (inj v)) (h : stored = none) : found = none := by
  rw [Option.eq_none_iff_forall_ne_some]
  intro v hv
  rw [hfound, h] at hv
  cases hv

omit [Apimachinery] in
/-- What an accessor finds of a field that may be left out. -/
theorem omitted_of_found (hfound : ∀ v, found = some v ↔ stored = some (inj v)) {absent : Prop} [Decidable absent]
    {v : α} (h : stored = if absent then none else some (inj v)) : found = if absent then none else some v := by
  split at h
  · rw [if_pos ‹absent›, absent_of_found hfound h]
  · rw [if_neg ‹¬ absent›, hfound, h]

end Omitted

theorem safeNestedMap_absent {m : Obj} {fields : List String} (h : field m fields = none) :
    safeNestedMap (some m) fields = none :=
  absent_of_found (fun _ => safeNestedMap_eq_some) h

theorem safeNestedMap_omitted {m o : Obj} {fields : List String} {absent : Prop} [Decidable absent]
    (h : field m fields = if absent then none else some (.map o)) :
    safeNestedMap (some m) fields = if absent then none else some o :=
  omitted_of_found (fun _ => safeNestedMap_eq_some) h

theorem safeNestedSlice_omitted {m : Obj} {fields : List String} {xs : List Any} {absent : Prop} [Decidable absent]
    (h : field m fields = if absent then none else some (.slice xs)) :
    safeNestedSlice (some m) fields = if absent then none else some xs :=
  omitted_of_found (fun _ => safeNestedSlice_eq_some) h

omit [Apimachinery] in
def safeStringFromMap (m : Obj) (key : String) : String :=
  match m.lookup key with
  | some (.str s) => s
  | _ => ""

def requirementOf (expr : Obj) : LabelSelectorRequirement where
  key := safeStringFromMap expr "key"
  operator := safeStringFromMap expr "operator"
  values := ((safeNestedSlice expr ["values"]).getD []).filterMap asString

/-- `SafeNestedLabelSelector`: nil only when the path holds no map. Entries of
the wrong type are skipped. -/
def safeNestedLabelSelector (obj : Option Obj) (fields : List String) : Option LabelSelector :=
  match safeNestedMap obj fields with
  | none => none
  | some selector => some {
      matchLabels := (bindings ((safeNestedMap selector ["matchLabels"]).getD [])).filterMap
        (fun b => (asString b.2).map (b.1, ·))
      matchExpressions := (((safeNestedSlice selector ["matchExpressions"]).getD []).filterMap asMap).map
        requirementOf }

omit [Apimachinery] in
def uniqueStrings (s : List String) : List String := Lib.Strings.unique s

omit [Apimachinery] in
def uniqueEntry (key : String) (xs : List String) : Obj :=
  if xs = [] then [] else [(key, .strings (uniqueStrings xs))]

omit [Apimachinery] in
def resourceList (targets : List ResourceTarget) : String :=
  let kinds := targets.flatMap ResourceTarget.resources
  if kinds = [] then "resources"
  else if kinds.length ≤ 3 then ", ".intercalate kinds
  else toString kinds.length ++ " resource types"

omit [Apimachinery] in
def matchesLabelSelector [LabelSelectors] (selector : Option LabelSelector) (labels : List (String × String)) : Bool :=
  match selector with
  | none => true
  | some selector =>
      if selector.matchLabels = [] ∧ selector.matchExpressions = [] then true
      else
        match LabelSelectors.asSelector selector with
        | .error _ => false
        | .ok isMatch => isMatch labels

omit [Apimachinery] in
theorem matchesLabelSelector_congr [LabelSelectors] [LabelSelectors.Lawful] (selector : Option LabelSelector)
    {labels labels' : List (String × String)} (h : ∀ k, labels.lookup k = labels'.lookup k) :
    matchesLabelSelector selector labels = matchesLabelSelector selector labels' := by
  cases selector with
  | none => rfl
  | some selector =>
      rw [matchesLabelSelector, matchesLabelSelector]
      cases hs : LabelSelectors.asSelector selector with
      | error e => rfl
      | ok isMatch => simp only [LabelSelectors.Lawful.congr hs h]

end Util

end Nightjar
