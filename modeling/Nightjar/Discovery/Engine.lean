import Nightjar.Indexer
import Nightjar.Adapters.Builtin
import Mathlib.Data.Finset.Insert

namespace Nightjar.Discovery

open Adapters Lib.Strings Apimachinery Util

def defaultPolicyGroups : List String :=
  ["networking.k8s.io", "cilium.io", "constraints.gatekeeper.sh", "kyverno.io", "security.istio.io",
    "networking.istio.io", "admissionregistration.k8s.io", "policy"]

def defaultPolicyNameHints : List String :=
  ["policy", "policies", "constraint", "constraints", "rule", "rules", "quota", "quotas", "limit", "limits",
    "authorization"]

def isPolicyAnnotation : String := "nightjar.io/is-policy"

/-- The stop channels: the engine's own, and those made by `RegisterProfile`,
numbered as they are made. -/
inductive StopCh where
  | engine
  | profile (n : Nat)
deriving DecidableEq, Repr

structure Informer where
  gvr : GVR
  stopCh : StopCh
deriving DecidableEq, Repr

structure ProfileState where
  gvr : GVR
  adapter : String
  fieldPaths : Option Generic.FieldPaths
  severity : String
  enabled : Bool
  stopCh : Option Nat := none
deriving DecidableEq, Repr

structure ConstraintProfile where
  name : String
  gvr : GVR
  adapter : String
  enabled : Bool
  severity : String := ""
  fieldPaths : Option Generic.FieldPaths := none
deriving DecidableEq, Repr

/-- The engine. `calls` records the GVRs that `startInformer` was called for, and
`started`, `closed` and `nextCh` the goroutines and channels it has made;
`dynamicClient` says whether the client is non-nil. -/
structure Engine (α : Type) where
  registry : Registry α
  dynamicClient : Bool := true
  watchedGVRs : Finset GVR := ∅
  informers : AList (fun _ : GVR => Informer) := ∅
  policyGroups : List String := defaultPolicyGroups
  nameHints : List String := defaultPolicyNameHints
  profiles : AList (fun _ : String => ProfileState) := ∅
  annotatedCRDs : Finset GVR := ∅
  checkAnnotation : Bool := true
  stopped : Bool := false
  calls : List GVR := []
  started : List Informer := []
  closed : Finset StopCh := ∅
  nextCh : Nat := 0

inductive EventObj where
  | unstructured (obj : Unstructured)
  | deletedFinalStateUnknown (obj : EventObj)
  | other

inductive Route (α : Type) where
  | adapter (a : α)
  | generic
  | genericWith (cfg : Generic.ParseConfig)

namespace Route

variable {α : Type} [Apimachinery] [Unicode]

def parse [Adapter α] (r : Route α) (gvr : GVR) (obj : Unstructured) : Except String (List Constraint) :=
  match r with
  | adapter a => Adapter.parse a obj
  | generic => Generic.parseWithGVR obj gvr
  | genericWith cfg => Generic.parseWithConfig obj gvr cfg

omit [Unicode] in
def slots [SlottedAdapter α] (r : Route α) (obj : Unstructured) : List Slot :=
  match r with
  | adapter a => SlottedAdapter.slots a obj
  | generic | genericWith _ => [.whole]

theorem filedIn_parse [SlottedAdapter α] (r : Route α) (gvr : GVR) (obj : Unstructured) :
    FiledIn obj (r.slots obj) (r.parse gvr obj) := by
  cases r with
  | adapter a => exact SlottedAdapter.filedIn_parse a obj
  | generic => exact Generic.filedIn_parseWithGVR obj gvr
  | genericWith cfg => exact Generic.filedIn_parseWithConfig obj gvr cfg

end Route

namespace Engine

variable {α : Type}

def new (registry : Registry α) (dynamicClient : Bool) : Engine α where
  registry := registry
  dynamicClient := dynamicClient

def profileStates (e : Engine α) : List ProfileState := e.profiles.entries.map (·.2)

/-- The order in which a `range` over the profiles visits them, which the
language leaves open. -/
structure Order (e : Engine α) where
  states : List ProfileState
  perm : states.Perm e.profileStates

instance (e : Engine α) : Inhabited e.Order := ⟨e.profileStates, .refl _⟩

def profileFor (e : Engine α) (order : e.Order) (gvr : GVR) : Option ProfileState :=
  order.states.find? (fun ps => ps.enabled && decide (ps.gvr = gvr))

def namedAdapter (e : Engine α) (profileCfg : Option ProfileState) : Option α :=
  match profileCfg with
  | some ps => if ps.adapter ≠ "" ∧ ps.adapter ≠ "generic" then e.registry.forName ps.adapter else none
  | none => none

def route (e : Engine α) (order : e.Order) (gvr : GVR) : Route α :=
  let profileCfg := e.profileFor order gvr
  match ((e.namedAdapter profileCfg).or (e.registry.forGVR gvr)).or (e.registry.forGroup gvr.group) with
  | some a => .adapter a
  | none =>
      match profileCfg with
      | some ps => .genericWith ⟨ps.fieldPaths, ps.severity⟩
      | none => .generic

section Events
variable [Adapter α] [Apimachinery] [Unicode]

def parseObject (e : Engine α) (order : e.Order) (gvr : GVR) (obj : Unstructured) :
    Except String (List Constraint) :=
  (e.route order gvr).parse gvr obj

def handleAdd (e : Engine α) (order : e.Order) (gvr : GVR) (obj : EventObj) : List Mutation :=
  if gvr ∉ e.watchedGVRs then []
  else
    match obj with
    | .unstructured obj =>
        match e.parseObject order gvr obj with
        | .error _ => []
        | .ok constraints => constraints.map .upsert
    | _ => []

def handleUpdate (e : Engine α) (order : e.Order) (gvr : GVR) (obj : EventObj) : List Mutation :=
  e.handleAdd order gvr obj

def deleteObject (e : Engine α) (order : e.Order) (gvr : GVR) (obj : Unstructured) : List Mutation :=
  match e.parseObject order gvr obj with
  | .error _ | .ok [] => [.delete (getUID obj)]
  | .ok constraints => constraints.map (fun c => .delete c.uid)

/-- `handleDelete`. Unlike the other two it does not look at `watchedGVRs`. -/
def handleDelete (e : Engine α) (order : e.Order) (gvr : GVR) (obj : EventObj) : List Mutation :=
  match obj with
  | .unstructured obj => e.deleteObject order gvr obj
  | .deletedFinalStateUnknown (.unstructured obj) => e.deleteObject order gvr obj
  | _ => []

end Events

end Engine

end Nightjar.Discovery
