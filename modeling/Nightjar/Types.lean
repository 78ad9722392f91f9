import Mathlib.Data.Rat.Defs

namespace Nightjar

structure GVR where
  group : String
  version : String
  resource : String
deriving DecidableEq, Repr

structure GVK where
  group : String
  version : String
  kind : String
deriving DecidableEq, Repr

structure ResourceTarget where
  apiGroups : List String
  resources : List String
deriving DecidableEq, Repr

/-- The values an `interface{}` holds in this program, by dynamic type. API
objects only use the JSON ones; the others are what the adapters put into
`Details`. A map is read through its first binding of each key. -/
inductive Any where
  | null
  | bool (b : Bool)
  | int (n : Int)
  | int64 (n : Int)
  | float64 (q : Rat)
  | str (s : String)
  | slice (xs : List Any)
  | map (m : List (String × Any))
  | strings (xs : List String)
  | stringMap (m : List (String × String))
  | mapOfMaps (m : List (String × List (String × Any)))
  | targets (ts : List ResourceTarget)

abbrev Obj := List (String × Any)

structure Unstructured where
  object : Obj

abbrev UID := String

structure LabelSelectorRequirement where
  key : String
  operator : String
  values : List String
deriving DecidableEq, Repr

structure LabelSelector where
  matchLabels : List (String × String)
  matchExpressions : List LabelSelectorRequirement
deriving DecidableEq, Repr

inductive ConstraintType where
  | networkIngress
  | networkEgress
  | admission
  | resourceLimit
  | meshPolicy
  | missing
  | unknown
  | other (name : String)
deriving DecidableEq, Repr

inductive Severity where
  | critical
  | warning
  | info
  | other (name : String)
deriving DecidableEq, Repr

def ConstraintType.text : ConstraintType → String
  | networkIngress => "NetworkIngress"
  | networkEgress => "NetworkEgress"
  | admission => "Admission"
  | resourceLimit => "ResourceLimit"
  | meshPolicy => "MeshPolicy"
  | missing => "MissingResource"
  | unknown => "Unknown"
  | other name => name

def Severity.text : Severity → String
  | critical => "Critical"
  | warning => "Warning"
  | info => "Info"
  | other name => name

inductive DetailLevel where
  | summary
  | detailed
  | full
  | other (name : String)
deriving DecidableEq, Repr

def DetailLevel.text : DetailLevel → String
  | summary => "summary"
  | detailed => "detailed"
  | full => "full"
  | other name => name

structure RemediationStep where
  type : String
  description : String
  command : String := ""
  patch : String := ""
  template : String := ""
  url : String := ""
  contact : String := ""
  requiresPrivilege : String
deriving DecidableEq, Repr

/-- `types.Constraint`, the normalized form of a policy object. An empty
namespace means cluster-scoped. -/
structure Constraint where
  uid : UID
  source : GVR
  name : String
  ns : String
  affectedNamespaces : List String := []
  namespaceSelector : Option LabelSelector := none
  workloadSelector : Option LabelSelector := none
  resourceTargets : List ResourceTarget := []
  constraintType : ConstraintType
  effect : String
  severity : Severity
  details : Obj := []
  summary : String
  remediationHint : String := ""
  remediation : List RemediationStep := []
  tags : List String := []
  rawObject : Option Unstructured := none

end Nightjar
