import Nightjar.Indexer

namespace Nightjar

open Lib.Strings

namespace Api

structure HttpRequest where
  method : String
  query : List (String × String)
deriving DecidableEq, Repr

inductive HttpResponse where
  | ok (constraints : List Constraint)
  | error (statusCode : Nat) (body : String)

def stripRawObject (c : Constraint) : Constraint := { c with rawObject := none }

def serveHTTP (idx : Option Indexer) (r : HttpRequest) : HttpResponse :=
  if r.method ≠ "GET" then .error 405 "Method not allowed\n"
  else
    match idx with
    | none => .ok []
    | some idx =>
        let ns := (r.query.lookup "namespace").getD ""
        let constraints := if ns ≠ "" then idx.byNamespace ns else idx.all
        .ok (constraints.map stripRawObject)

end Api

namespace Webhook

open Api

inductive Raw where
  | nil
  | malformed
  | json (v : Any)

structure AdmissionRequest where
  uid : UID
  kind : GVK
  ns : String
  object : Raw

structure AdmissionResponse where
  uid : UID := ""
  allowed : Bool
  warnings : List String := []
deriving DecidableEq, Repr

def unmarshalLabels : Any → Option (List (String × String))
  | .null => some []
  | .map m => (bindings m).mapM (fun b =>
      match b.2 with
      | .str s => some (b.1, s)
      | .null => some (b.1, "")
      | _ => none)
  | _ => none

def unmarshalField {α : Type} (zero : α) (key : String) (read : Any → Option α) : Any → Option α
  | .null => some zero
  | .map m => ((m.lookup key).map read).getD (some zero)
  | _ => none

/-- The keys are matched exactly. encoding/json also takes a key of another case, such
as `Metadata`, which is not how the API server writes an object. -/
def extractLabels (req : AdmissionRequest) : List (String × String) :=
  match req.object with
  | .nil | .malformed => []
  | .json v => (unmarshalField [] "metadata" (unmarshalField [] "labels" unmarshalLabels) v).getD []

def warningSeverity (c : Constraint) : Bool :=
  decide (c.severity.text = "Warning") || decide (c.severity.text = "Critical")

section Warnings
variable [Unicode]

def targetMatches (group resource : String) (target : ResourceTarget) : Bool :=
  (decide (target.apiGroups = []) || target.apiGroups.any (fun g => decide (g = "*") || decide (g = group))) &&
    target.resources.any (fun r => decide (r = "*") || decide (r = resource))

def constraintApplies (req : AdmissionRequest) (c : Constraint) : Bool :=
  decide (c.resourceTargets = []) ||
    c.resourceTargets.any (targetMatches req.kind.group (toLower req.kind.kind ++ "s"))

omit [Unicode] in
def formatWarning (c : Constraint) : String :=
  (if c.severity.text = "Critical" then "[CRITICAL]" else "[WARNING]") ++ " " ++ c.summary ++ " - " ++
    c.remediationHint

def warned (req : AdmissionRequest) (constraints : List Constraint) : List Constraint :=
  constraints.filter (fun c => warningSeverity c && constraintApplies req c)

def buildWarnings (req : AdmissionRequest) (constraints : List Constraint) : List String :=
  (warned req constraints).map formatWarning

omit [Unicode] in
/-- `ConstraintClient.Query` over a transport. The labels are not part of the URL. -/
def query (transport : HttpRequest → Except String HttpResponse) (ns : String) (_labels : List (String × String)) :
    Except String (List Constraint) :=
  match transport ⟨"GET", [("namespace", ns)]⟩ with
  | .error e => .error ("failed to query controller: " ++ e)
  | .ok (.error statusCode body) => .error ("controller returned status " ++ toString statusCode ++ ": " ++ body)
  | .ok (.ok constraints) => .ok constraints

def processRequest (client : String → List (String × String) → Except String (List Constraint))
    (req : Option AdmissionRequest) : AdmissionResponse :=
  match req with
  | none => { allowed := true }
  | some req =>
      match client req.ns (extractLabels req) with
      | .error _ => { uid := req.uid, allowed := true }
      | .ok constraints => { uid := req.uid, allowed := true, warnings := buildWarnings req constraints }

omit [Unicode] in
/-- The controller as the webhook sees it when it can be reached. -/
def controller (idx : Indexer) (r : HttpRequest) : Except String HttpResponse := .ok (serveHTTP (some idx) r)

end Warnings

section Refinement
variable [Unicode] {idx : Indexer} {req : AdmissionRequest}

omit [Unicode] in
theorem query_controller {ns : String} (hns : ns ≠ "") (labels : List (String × String)) :
    query (controller idx) ns labels = .ok ((idx.byNamespace ns).map stripRawObject) := by
  have hresponse : serveHTTP (some idx) ⟨"GET", [("namespace", ns)]⟩ =
      .ok ((idx.byNamespace ns).map stripRawObject) := by
    simp [serveHTTP, hns]
  rw [query, controller, hresponse]

theorem warned_strip (cs : List Constraint) :
    warned req (cs.map stripRawObject) = (warned req cs).map stripRawObject := by
  rw [warned, warned, List.filter_map]
  rfl

theorem warnings_processRequest (hns : req.ns ≠ "") :
    (processRequest (query (controller idx)) (some req)).warnings = buildWarnings req (idx.byNamespace req.ns) := by
  rw [processRequest, query_controller hns]
  dsimp only
  rw [buildWarnings, buildWarnings, warned_strip, List.map_map]
  rfl

variable [LabelSelectors]

/-- The warnings are those of the label query, and none is for a constraint that
excludes the labels of the object. -/
def RefinesByLabels (idx : Indexer) (req : AdmissionRequest) : Prop :=
  (processRequest (query (controller idx)) (some req)).warnings.Perm
    (buildWarnings req (idx.byLabels req.ns (extractLabels req))) ∧
  ∀ answer, query (controller idx) req.ns (extractLabels req) = .ok answer → ∀ c ∈ warned req answer,
    Util.matchesLabelSelector c.workloadSelector (extractLabels req) = true

/-- This holds exactly when no constraint of the namespace that would warn excludes
the labels. -/
theorem refinesByLabels_iff (idx : Indexer) (req : AdmissionRequest) (hns : req.ns ≠ "") : RefinesByLabels idx req ↔
    ∀ c ∈ idx.byNamespace req.ns, warningSeverity c = true → constraintApplies req c = true →
      Util.matchesLabelSelector c.workloadSelector (extractLabels req) = true := by
  have hanswer : query (controller idx) req.ns (extractLabels req) =
      .ok ((idx.byNamespace req.ns).map stripRawObject) := query_controller hns (extractLabels req)
  constructor
  · rintro ⟨-, hexcluded⟩ c hc hseverity happlies
    refine hexcluded _ hanswer (stripRawObject c) ?_
    rw [warned_strip]
    refine List.mem_map_of_mem (List.mem_filter.mpr ⟨hc, ?_⟩)
    rw [hseverity, happlies]
    rfl
  · intro hmatch
    have hwarned {c : Constraint} (hc : c ∈ warned req (idx.byNamespace req.ns)) :
        Util.matchesLabelSelector c.workloadSelector (extractLabels req) = true := by
      obtain ⟨hc, hp⟩ := List.mem_filter.mp hc
      obtain ⟨hseverity, happlies⟩ := Bool.and_eq_true_iff.mp hp
      exact hmatch c hc hseverity happlies
    refine ⟨?_, ?_⟩
    · have hkeep : warned req (idx.byLabels req.ns (extractLabels req)) = warned req (idx.byNamespace req.ns) := by
        rw [Indexer.byLabels_eq, warned, List.filter_comm, ← warned, List.filter_eq_self]
        exact fun c hc => hwarned hc
      rw [warnings_processRequest hns, buildWarnings, buildWarnings, hkeep]
    · intro answer hquery c hc
      cases hanswer.symm.trans hquery
      rw [warned_strip] at hc
      obtain ⟨stored, hstored, rfl⟩ := List.mem_map.mp hc
      exact show Util.matchesLabelSelector stored.workloadSelector _ = true from hwarned hstored

end Refinement

section Database
attribute [local instance] asciiTables LabelSelectors.model

def databasePolicy : Constraint where
  uid := "u"
  source := ⟨"networking.k8s.io", "v1", "networkpolicies"⟩
  name := "database-ingress"
  ns := "team"
  workloadSelector := some ⟨[("app", "db")], []⟩
  constraintType := .networkIngress
  effect := "restrict"
  severity := .warning
  summary := "Restricts ingress to the database"

def databaseIndex : Indexer := (Indexer.new.upsert databasePolicy).1

def deploy (app : String) : AdmissionRequest where
  uid := "r"
  kind := ⟨"apps", "v1", "Deployment"⟩
  ns := "team"
  object := .json (.map [("metadata", .map [("labels", .map [("app", .str app)])])])

theorem refinesByLabels_iff_database : (deploy "db").ns ≠ "" ∧ RefinesByLabels databaseIndex (deploy "db") := by
  refine ⟨by decide, (refinesByLabels_iff databaseIndex (deploy "db") (by decide)).mpr ?_⟩
  have hindex : databaseIndex.byNamespace "team" = [databasePolicy] := rfl
  rw [show (deploy "db").ns = "team" from rfl, hindex]
  rintro c hc - -
  cases List.mem_singleton.mp hc
  rfl

theorem webhook_warns_unselected : (deploy "web").ns ≠ "" ∧
    (processRequest (query (controller databaseIndex)) (some (deploy "web"))).warnings =
      ["[WARNING] Restricts ingress to the database - "] ∧
    Util.matchesLabelSelector databasePolicy.workloadSelector (extractLabels (deploy "web")) = false ∧
    ¬ RefinesByLabels databaseIndex (deploy "web") := by
  refine ⟨by decide, by decide, by decide, fun hrefines => ?_⟩
  have hlength := hrefines.1.length_eq
  revert hlength
  decide

end Database

end Webhook

end Nightjar
