import Nightjar.Notifier.Privacy
import Nightjar.Lib.Json

namespace Nightjar.Notifier

open Lib Lib.Strings

structure ConstraintSummary where
  type : String
  severity : String
  name : String
  source : String
deriving DecidableEq, Repr

def ConstraintSummary.json (s : ConstraintSummary) : Json :=
  .obj [("type", .str s.type), ("severity", .str s.severity), ("name", .str s.name), ("source", .str s.source)]

def summarize (c : Constraint) : ConstraintSummary where
  type := c.constraintType.text
  severity := c.severity.text
  name := c.name
  source := c.source.resource

structure Tally where
  critical : Nat := 0
  warning : Nat := 0
  info : Nat := 0
  maxSeverity : String := "none"
deriving DecidableEq, Repr

def Tally.add (t : Tally) : Severity → Tally
  | .critical => { t with critical := t.critical + 1, maxSeverity := "critical" }
  | .warning =>
      { t with
        warning := t.warning + 1
        maxSeverity := if t.maxSeverity ≠ "critical" then "warning" else t.maxSeverity }
  | .info =>
      { t with info := t.info + 1, maxSeverity := if t.maxSeverity = "none" then "info" else t.maxSeverity }
  | .other _ => t

def tally (constraints : List Constraint) : Tally := constraints.foldl (fun t c => t.add c.severity) {}

def buildStatusString (total critical warning : Nat) : String :=
  if total = 0 then "No constraints"
  else
    let parts := (if 0 < critical then [toString critical ++ " critical"] else []) ++
      (if 0 < warning then [toString warning ++ " warning"] else [])
    if parts ≠ [] then toString total ++ " constraints (" ++ ", ".intercalate parts ++ ")"
    else toString total ++ " constraints"

/-- `buildAnnotationPatch`: the annotations the patch sets, or removes where it
holds nothing. -/
def buildAnnotationPatch (now : String) (constraints : List Constraint) : List (String × Option String) :=
  if constraints.length = 0 then
    [("nightjar.io/status", none), ("nightjar.io/constraints", none), ("nightjar.io/max-severity", none),
      ("nightjar.io/critical-count", none), ("nightjar.io/warning-count", none), ("nightjar.io/info-count", none),
      ("nightjar.io/last-evaluated", none)]
  else
    let t := tally constraints
    [("nightjar.io/status", some (buildStatusString constraints.length t.critical t.warning)),
      ("nightjar.io/constraints", some (Json.arr (constraints.map (fun c => (summarize c).json))).text),
      ("nightjar.io/max-severity", some t.maxSeverity),
      ("nightjar.io/critical-count", some (toString t.critical)),
      ("nightjar.io/warning-count", some (toString t.warning)),
      ("nightjar.io/info-count", some (toString t.info)),
      ("nightjar.io/last-evaluated", some now)]

/-- Two values of an annotation that are the same, or the texts of two arrays with
the same entries. -/
def SameValue (a b : Option (Option String)) : Prop :=
  a = b ∨ ∃ xs ys : List Json, xs.Perm ys ∧ a = some (some (Json.arr xs).text) ∧ b = some (some (Json.arr ys).text)

def SamePatch (p q : List (String × Option String)) : Prop := ∀ key, SameValue (p.lookup key) (q.lookup key)

theorem add_right_comm (t : Tally) (a b : Severity) : (t.add a).add b = (t.add b).add a := by
  cases a <;> cases b <;> simp only [Tally.add] <;> grind

theorem tally_perm {cs cs' : List Constraint} (h : cs.Perm cs') : tally cs = tally cs' := by
  have : RightCommutative (fun (t : Tally) (c : Constraint) => t.add c.severity) :=
    ⟨fun t c d => add_right_comm t c.severity d.severity⟩
  exact h.foldl_eq ({} : Tally)

theorem lookup_constraints {cs : List Constraint} (hne : cs ≠ []) (now : String) :
    (buildAnnotationPatch now cs).lookup "nightjar.io/constraints" =
      some (some (Json.arr (cs.map (fun c => (summarize c).json))).text) := by
  rw [buildAnnotationPatch, if_neg (by simpa using hne)]
  rfl

theorem samePatch_of_perm {cs cs' : List Constraint} (h : cs.Perm cs') (now : String) :
    SamePatch (buildAnnotationPatch now cs) (buildAnnotationPatch now cs') := by
  intro key
  by_cases hnil : cs = []
  · subst hnil
    rw [h.nil_eq]
    exact .inl rfl
  · have hnil' : cs' ≠ [] := fun hcs' => hnil (hcs' ▸ h).eq_nil
    by_cases hkey : key = "nightjar.io/constraints"
    · rw [hkey, lookup_constraints hnil, lookup_constraints hnil']
      exact .inr ⟨_, _, h.map _, rfl, rfl⟩
    · have hkey' : (key == "nightjar.io/constraints") = false := by simpa using hkey
      refine .inl ?_
      rw [buildAnnotationPatch, buildAnnotationPatch, if_neg (by simpa using hnil), if_neg (by simpa using hnil')]
      simp only [List.lookup_cons, hkey', h.length_eq, tally_perm h]

def entryName (j : Json) : String :=
  match j.get? "name" with
  | some (.str name) => name
  | _ => ""

theorem map_entryName (cs : List Constraint) :
    (cs.map (fun c => (summarize c).json)).map entryName = cs.map Constraint.name := by
  rw [List.map_map]
  exact List.map_congr_left fun c _ => rfl

theorem names_perm_of_samePatch {cs cs' : List Constraint} (hne : cs ≠ []) (hne' : cs' ≠ []) {now : String}
    (h : SamePatch (buildAnnotationPatch now cs) (buildAnnotationPatch now cs')) :
    (cs.map Constraint.name).Perm (cs'.map Constraint.name) := by
  rw [← map_entryName cs, ← map_entryName cs']
  refine List.Perm.map entryName ?_
  have hvalue := h "nightjar.io/constraints"
  rw [lookup_constraints hne, lookup_constraints hne'] at hvalue
  simp only [SameValue, Option.some.injEq, Json.text_inj, Json.arr.injEq] at hvalue
  rcases hvalue with heq | ⟨xs, ys, hperm, rfl, rfl⟩
  · rw [heq]
  · exact hperm

/-- The annotations of a workload tell nothing of the names and namespaces of
constraints from other namespaces exactly when none of these affects it. -/
theorem annotationPatch_hides_iff (viewer now : String) (idx : Indexer) :
    HidesUpTo (IndexVaried viewer) SamePatch (fun idx => buildAnnotationPatch now (idx.byNamespace viewer)) idx ↔
      ∀ c ∈ idx.byNamespace viewer, ¬ HiddenFrom viewer c := by
  constructor
  · intro h c hc hhidden
    have hlonger := sum_upsert_relabel hc hhidden (m := fun c => c.name.length) length_name_relabel
    have hne' : (idx.upsert (relabel viewer c)).1.byNamespace viewer ≠ [] := by
      intro hnil
      rw [hnil] at hlonger
      exact absurd hlonger (Nat.not_lt_zero _)
    have hnames := names_perm_of_samePatch hne' (List.ne_nil_of_mem hc)
      (h _ (indexVaried_upsert hc (variant_relabel hhidden)))
    have hsum := (hnames.map String.length).sum_eq
    rw [List.map_map, List.map_map] at hsum
    exact Nat.ne_of_gt hlonger hsum
  · intro hnone idx' hv
    refine samePatch_of_perm ?_ now
    have hview := hv.view_perm (q := fun _ => true) (r := id) (fun _ => rfl)
      (fun c hc c' hc' => absurd hc'.hidden (hnone c hc))
    simpa only [List.filter_true, List.map_id] using hview

theorem annotations_tell_hidden_policies_apart :
    IndexVaried "team" paymentsIndex renamedIndex ∧
      ¬ SamePatch (buildAnnotationPatch "t" (renamedIndex.byNamespace "team"))
        (buildAnnotationPatch "t" (paymentsIndex.byNamespace "team")) := by
  refine ⟨indexVaried_payments, fun h => ?_⟩
  rw [byNamespace_paymentsIndex, byNamespace_renamedIndex] at h
  have hnames := names_perm_of_samePatch (List.cons_ne_nil _ _) (List.cons_ne_nil _ _) h
  exact absurd (List.singleton_perm_singleton.mp hnames) (by decide)

end Nightjar.Notifier
