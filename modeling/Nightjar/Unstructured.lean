import Nightjar.Types
import Nightjar.Lib.Strings
import Mathlib.Data.Rat.Floor

namespace Nightjar

open Lib.Strings

def walk : List String → Any → Option Any
  | [], v => some v
  | k :: ks, .map m => (m.lookup k).bind (walk ks)
  | _ :: _, _ => none

def field (m : Obj) (path : List String) : Option Any := walk path (.map m)

def fieldString (m : Obj) (path : List String) : String :=
  match field m path with
  | some (.str s) => s
  | _ => ""

def bindings (m : Obj) : Obj := (m.map Prod.fst).dedup.filterMap (fun k => (m.lookup k).map (k, ·))

def asString : Any → Option String
  | .str s => some s
  | _ => none

def asMap : Any → Option Obj
  | .map m => some m
  | _ => none

def stringBindings (m : Obj) : Option (List (String × String)) :=
  (bindings m).mapM (fun b => (asString b.2).map (b.1, ·))

theorem lookup_of_mem_nodup {m : Obj} (h : (m.map Prod.fst).Nodup) {b : String × Any} (hb : b ∈ m) :
    m.lookup b.1 = some b.2 := by
  obtain ⟨before, after, rfl⟩ := List.append_of_mem hb
  rw [List.map_append, List.map_cons, List.nodup_middle, List.nodup_cons] at h
  refine List.lookup_eq_some_iff.mpr ⟨before, after, rfl, ?_⟩
  intro p hp
  have hne : b.1 ≠ p.1 := by
    intro he
    exact h.1 (List.mem_append_left _ (List.mem_map.mpr ⟨p, hp, he.symm⟩))
  simpa using hne

theorem bindings_of_nodup {m : Obj} (h : (m.map Prod.fst).Nodup) : bindings m = m := by
  have hself : ∀ b ∈ m, (m.lookup b.1).map (b.1, ·) = some b := by
    intro b hb
    rw [lookup_of_mem_nodup h hb]
    rfl
  rw [bindings, h.dedup, List.filterMap_map]
  exact (List.filterMap_congr hself).trans List.filterMap_some

theorem filterMap_asMap {β : Type} (f : β → Obj) (xs : List β) :
    (xs.map (fun x => Any.map (f x))).filterMap asMap = xs.map f := by
  rw [List.filterMap_map]
  exact congrFun List.filterMap_eq_map xs

theorem filterMap_asString (xs : List String) : (xs.map Any.str).filterMap asString = xs := by
  rw [List.filterMap_map]
  exact List.filterMap_some

/-- A field with the option `omitempty`, as the API server returns it. -/
def omitempty (key : String) (present : Prop) [Decidable present] (v : Any) : Obj := if present then [(key, v)] else []

def omitted (key s : String) : Obj := omitempty key (s ≠ "") (.str s)

def omittedSlice (key : String) (xs : List Any) : Obj := omitempty key (xs ≠ []) (.slice xs)

theorem lookup_omitempty (key : String) (present : Prop) [Decidable present] (v : Any) (k : String) :
    (omitempty key present v).lookup k = if k = key ∧ present then some v else none := by
  unfold omitempty
  by_cases hp : present
  · by_cases hk : k = key
    · simp [hp, hk]
    · simp [hp, hk, List.lookup_cons, beq_false_of_ne hk]
  · simp [hp]

/-- What the program calls of k8s.io/apimachinery, with the documented
behaviour it relies on. An accessor answers `ok none` when the field is not
found and an error when it is of another type. -/
class Apimachinery where
  nestedString : Obj → List String → Except String (Option String)
  nestedStringSlice : Obj → List String → Except String (Option (List String))
  nestedSlice : Obj → List String → Except String (Option (List Any))
  nestedMap : Obj → List String → Except String (Option Obj)
  getName : Unstructured → String
  getNamespace : Unstructured → String
  getUID : Unstructured → UID
  getKind : Unstructured → String
  getAnnotations : Unstructured → List (String × String)
  groupVersionKind : Unstructured → GVK
  parseGroupVersion : String → Except String (String × String)
  parseQuantity : String → Except String Rat
  quantityValue : Rat → Int
  quantityMilliValue : Rat → Int
  nestedString_found : ∀ m path s, nestedString m path = .ok (some s) ↔ field m path = some (.str s)
  nestedStringSlice_found : ∀ m path xs,
    nestedStringSlice m path = .ok (some xs) ↔ field m path = some (.slice (xs.map .str))
  nestedSlice_found : ∀ m path xs, nestedSlice m path = .ok (some xs) ↔ field m path = some (.slice xs)
  nestedMap_found : ∀ m path o, nestedMap m path = .ok (some o) ↔ field m path = some (.map o)
  getName_eq : ∀ u, getName u = fieldString u.object ["metadata", "name"]
  getNamespace_eq : ∀ u, getNamespace u = fieldString u.object ["metadata", "namespace"]
  getUID_eq : ∀ u, getUID u = fieldString u.object ["metadata", "uid"]
  getKind_eq : ∀ u, getKind u = fieldString u.object ["kind"]
  getAnnotations_eq : ∀ u, getAnnotations u =
    (((field u.object ["metadata", "annotations"]).bind asMap).bind stringBindings).getD []
  parseGroupVersion_core : ∀ v : String, '/' ∉ v.toList → parseGroupVersion v = .ok ("", v)
  parseGroupVersion_group : ∀ g v : String, '/' ∉ g.toList → '/' ∉ v.toList →
    parseGroupVersion (g ++ "/" ++ v) = .ok (g, v)
  parseGroupVersion_error : ∀ s : String, 1 < s.toList.count '/' → ∃ e, parseGroupVersion s = .error e
  groupVersionKind_ok : ∀ u g v, parseGroupVersion (fieldString u.object ["apiVersion"]) = .ok (g, v) →
    groupVersionKind u = ⟨g, v, getKind u⟩
  groupVersionKind_error : ∀ u e, parseGroupVersion (fieldString u.object ["apiVersion"]) = .error e →
    groupVersionKind u = ⟨"", "", ""⟩
  quantityValue_int : ∀ n : Int, n.natAbs < 2 ^ 63 → quantityValue n = n
  quantityMilliValue_milli : ∀ n : Int, n.natAbs < 2 ^ 63 → quantityMilliValue (n / 1000 : Rat) = n

namespace Apimachinery

def modelNestedString (m : Obj) (path : List String) : Except String (Option String) :=
  match field m path with
  | none => .ok none
  | some (.str s) => .ok (some s)
  | some _ => .error "accessor error: not a string"

def modelNestedSlice (m : Obj) (path : List String) : Except String (Option (List Any)) :=
  match field m path with
  | none => .ok none
  | some (.slice xs) => .ok (some xs)
  | some _ => .error "accessor error: not a slice"

def modelNestedStringSlice (m : Obj) (path : List String) : Except String (Option (List String)) :=
  match field m path with
  | none => .ok none
  | some (.slice xs) =>
      match xs.mapM asString with
      | some ss => .ok (some ss)
      | none => .error "accessor error: contains a value that is not a string"
  | some _ => .error "accessor error: not a slice"

def modelNestedMap (m : Obj) (path : List String) : Except String (Option Obj) :=
  match field m path with
  | none => .ok none
  | some (.map o) => .ok (some o)
  | some _ => .error "accessor error: not a map"

def modelParseGroupVersion (s : String) : Except String (String × String) :=
  match s.toList.count '/' with
  | 0 => .ok ("", s)
  | 1 => .ok (String.ofList (s.toList.takeWhile (· ≠ '/')), String.ofList (s.toList.dropWhile (· ≠ '/')).tail)
  | _ => .error ("unexpected GroupVersion string: " ++ s)

def modelGroupVersionKind (u : Unstructured) : GVK :=
  match modelParseGroupVersion (fieldString u.object ["apiVersion"]) with
  | .ok (g, v) => ⟨g, v, fieldString u.object ["kind"]⟩
  | .error _ => ⟨"", "", ""⟩

def digitsValue (s : List Char) : Option Nat :=
  if s ≠ [] ∧ s.all Char.isDigit then some (Nat.ofDigitChars 10 s 0) else none

/-- Whole numbers and whole milli-units, the forms the examples of this
development use. -/
def modelParseQuantity (s : String) : Except String Rat :=
  match digitsValue s.toList, digitsValue s.toList.dropLast with
  | some n, _ => .ok n
  | none, some n => if s.toList.getLast? = some 'm' then .ok (n / 1000 : Rat) else .error "unable to parse quantity"
  | none, none => .error "unable to parse quantity"

def awayFromZero (q : Rat) : Int := if 0 ≤ q then ⌈q⌉ else ⌊q⌋

theorem asString_eq_some {v : Any} {s : String} : asString v = some s ↔ v = .str s := by
  cases v <;> simp [asString]

theorem mapM_asString_eq_some {xs : List Any} {ss : List String} :
    xs.mapM asString = some ss ↔ xs = ss.map Any.str := by
  induction xs generalizing ss with
  | nil => cases ss <;> simp
  | cons x xs ih =>
      rw [List.mapM_cons]
      cases ss with
      | nil => cases asString x <;> cases xs.mapM asString <;> simp
      | cons s ss =>
          rw [List.map_cons, List.cons.injEq, ← asString_eq_some, ← ih]
          cases asString x <;> cases xs.mapM asString <;> simp

theorem modelParseGroupVersion_group (g v : String) (hg : '/' ∉ g.toList) (hv : '/' ∉ v.toList) :
    modelParseGroupVersion (g ++ "/" ++ v) = .ok (g, v) := by
  have hc : (g ++ "/" ++ v).toList.count '/' = 1 := by
    simp [List.count_append, List.count_eq_zero_of_not_mem hg, List.count_eq_zero_of_not_mem hv]
  have hall : ∀ c ∈ g.toList, decide (c ≠ '/') = true := by
    intro c hm
    simp only [decide_eq_true_eq]
    rintro rfl
    exact hg hm
  have htl : (g ++ "/" ++ v).toList = g.toList ++ '/' :: v.toList := by simp
  rw [modelParseGroupVersion, hc, htl, List.takeWhile_append_of_pos hall, List.dropWhile_append_of_pos hall]
  simp

@[reducible] def model : Apimachinery where
  nestedString := modelNestedString
  nestedStringSlice := modelNestedStringSlice
  nestedSlice := modelNestedSlice
  nestedMap := modelNestedMap
  getName u := fieldString u.object ["metadata", "name"]
  getNamespace u := fieldString u.object ["metadata", "namespace"]
  getUID u := fieldString u.object ["metadata", "uid"]
  getKind u := fieldString u.object ["kind"]
  getAnnotations u := (((field u.object ["metadata", "annotations"]).bind asMap).bind stringBindings).getD []
  groupVersionKind := modelGroupVersionKind
  parseGroupVersion := modelParseGroupVersion
  parseQuantity := modelParseQuantity
  quantityValue := awayFromZero
  quantityMilliValue q := awayFromZero (q * 1000)
  nestedString_found m path s := by
    rw [modelNestedString]
    split <;> simp_all
  nestedStringSlice_found m path xs := by
    rw [modelNestedStringSlice]
    split
    · simp_all
    · rename_i ys h
      rw [h, Option.some.injEq, Any.slice.injEq, ← mapM_asString_eq_some]
      split <;> simp_all
    · rename_i h _
      simp_all
  nestedSlice_found m path xs := by
    rw [modelNestedSlice]
    split <;> simp_all
  nestedMap_found m path o := by
    rw [modelNestedMap]
    split <;> simp_all
  getName_eq _ := rfl
  getNamespace_eq _ := rfl
  getUID_eq _ := rfl
  getKind_eq _ := rfl
  getAnnotations_eq _ := rfl
  parseGroupVersion_core v hv := by
    simp [modelParseGroupVersion, List.count_eq_zero_of_not_mem hv]
  parseGroupVersion_group := modelParseGroupVersion_group
  parseGroupVersion_error s hs := by
    refine ⟨"unexpected GroupVersion string: " ++ s, ?_⟩
    rw [modelParseGroupVersion]
    split <;> first | omega | rfl
  groupVersionKind_ok u g v h := by
    rw [modelGroupVersionKind, h]
  groupVersionKind_error u e h := by
    rw [modelGroupVersionKind, h]
  quantityValue_int n _ := by
    rw [awayFromZero]
    split <;> simp
  quantityMilliValue_milli n _ := by
    have h : (n / 1000 : Rat) * 1000 = n := by field_simp
    rw [h]
    rw [awayFromZero]
    split <;> simp

end Apimachinery

end Nightjar
