import Nightjar.Notifier.AnnotationPatch
import Nightjar.Lib.MergePatch

namespace Nightjar.Notifier

open Lib Lib.Strings

/-- The keys of the annotations that the annotator writes. -/
def workloadAnnotations : List String :=
  ["nightjar.io/status", "nightjar.io/constraints", "nightjar.io/max-severity", "nightjar.io/critical-count",
    "nightjar.io/warning-count", "nightjar.io/info-count", "nightjar.io/last-evaluated"]

def annotationValue : Option String → Json
  | some value => .str value
  | none => .null

def patchBody (patch : List (String × Option String)) : Json :=
  .obj [("metadata", .obj [("annotations", .obj (patch.map (fun e => (e.1, annotationValue e.2))))])]

/-- What `applyPatch` makes the API server store, given the workload it has. -/
def applyPatch (workload : Json) (patch : List (String × Option String)) : Json :=
  Json.mergePatch (some workload) (patchBody patch)

/-- An annotation of a workload. A workload without the map has none. -/
def annotationOf (workload : Json) (key : String) : Option Json :=
  ((workload.get? "metadata").bind (·.get? "annotations")).bind (·.get? key)

theorem keys_buildAnnotationPatch (now : String) (cs : List Constraint) :
    (buildAnnotationPatch now cs).map Prod.fst = workloadAnnotations := by
  unfold buildAnnotationPatch
  split <;> rfl

theorem lookup_patch_values (patch : List (String × Option String)) (key : String) :
    (patch.map (fun e => (e.1, annotationValue e.2))).lookup key = (patch.lookup key).map annotationValue := by
  induction patch with
  | nil => rfl
  | cons e patch ih =>
      rw [List.map_cons, List.lookup_cons, List.lookup_cons, ih]
      split <;> rfl

def patchedValue (old : Option Json) : Option (Option String) → Option Json
  | none => old
  | some none => none
  | some (some value) => some (.str value)

theorem patchedMember_value (old : Option Json) (value : Option (Option String)) :
    Json.patchedMember old (value.map annotationValue) = patchedValue old value := by
  rcases value with _ | _ | value
  · rfl
  · rfl
  · simp [Json.patchedMember, annotationValue, patchedValue, Json.mergePatch]

theorem get?_mergePatch_singleton (target : Option Json) (key : String) (members : List (String × Json)) :
    (Json.mergePatch target (.obj [(key, .obj members)])).get? key =
      some (Json.mergePatch (target.bind (·.get? key)) (.obj members)) := by
  have hkeys : ([(key, Json.obj members)].map Prod.fst).Nodup := List.nodup_singleton key
  rw [Json.get?_mergePatch hkeys, Json.lookup_cons_ite, if_pos rfl]
  rfl

theorem get?_mergePatch_of_ne (target : Option Json) {key other : String} (value : Json) (h : other ≠ key) :
    (Json.mergePatch target (.obj [(key, value)])).get? other = target.bind (·.get? other) := by
  have hkeys : ([(key, value)].map Prod.fst).Nodup := List.nodup_singleton key
  rw [Json.get?_mergePatch hkeys, Json.lookup_cons_ite, if_neg h]
  rfl

theorem annotationOf_applyPatch {patch : List (String × Option String)} (hkeys : (patch.map Prod.fst).Nodup)
    (workload : Json) (key : String) :
    annotationOf (applyPatch workload patch) key = patchedValue (annotationOf workload key) (patch.lookup key) := by
  have hkeys' : ((patch.map (fun e => (e.1, annotationValue e.2))).map Prod.fst).Nodup := by
    rwa [List.map_map]
  rw [annotationOf, applyPatch, patchBody, get?_mergePatch_singleton, Option.bind_some, Option.bind_some,
    get?_mergePatch_singleton, Option.bind_some, Json.get?_mergePatch hkeys', lookup_patch_values,
    patchedMember_value]
  rfl

/-- The workload is the same outside its annotations. -/
structure SameElsewhere (workload workload' : Json) : Prop where
  fields : ∀ field, field ≠ "metadata" → workload'.get? field = workload.get? field
  metadata : ∀ field, field ≠ "annotations" →
    (workload'.get? "metadata").bind (·.get? field) = (workload.get? "metadata").bind (·.get? field)

theorem sameElsewhere_applyPatch (workload : Json) (patch : List (String × Option String)) :
    SameElsewhere workload (applyPatch workload patch) where
  fields field h := by rw [applyPatch, patchBody, get?_mergePatch_of_ne _ _ h, Option.bind_some]
  metadata field h := by
    rw [applyPatch, patchBody, get?_mergePatch_singleton, Option.bind_some, Option.bind_some,
      get?_mergePatch_of_ne _ _ h]

theorem nodup_keys (now : String) (cs : List Constraint) : ((buildAnnotationPatch now cs).map Prod.fst).Nodup := by
  rw [keys_buildAnnotationPatch]
  decide

theorem lookup_buildAnnotationPatch_none {key : String} (h : key ∉ workloadAnnotations) (now : String)
    (cs : List Constraint) : (buildAnnotationPatch now cs).lookup key = none := by
  rw [List.lookup_eq_none_iff]
  intro e he
  have hne : key ≠ e.1 := by
    rintro rfl
    apply h
    rw [← keys_buildAnnotationPatch now cs]
    exact List.mem_map_of_mem he
  simpa using hne

theorem annotationOf_applyPatch_of_notMem (workload : Json) (now : String) (cs : List Constraint) {key : String}
    (h : key ∉ workloadAnnotations) :
    annotationOf (applyPatch workload (buildAnnotationPatch now cs)) key = annotationOf workload key := by
  rw [annotationOf_applyPatch (nodup_keys now cs), lookup_buildAnnotationPatch_none h]
  rfl

theorem annotationOf_applyPatch_nil (workload : Json) (now : String) {key : String} (h : key ∈ workloadAnnotations) :
    annotationOf (applyPatch workload (buildAnnotationPatch now [])) key = none := by
  have hremoved : ∀ key ∈ workloadAnnotations, (buildAnnotationPatch "" []).lookup key = some none := by decide
  have hnow : buildAnnotationPatch now [] = buildAnnotationPatch "" [] := rfl
  rw [annotationOf_applyPatch (nodup_keys now []), hnow, hremoved key h]
  rfl

section Counts

def severityRank : Severity → Nat
  | .critical => 3
  | .warning => 2
  | .info => 1
  | .other _ => 0

def rankText : Nat → String
  | 0 => "none"
  | 1 => "info"
  | 2 => "warning"
  | _ + 3 => "critical"

def maxRank (cs : List Constraint) : Nat := (cs.map (fun c => severityRank c.severity)).foldr max 0

def countOf (severity : Severity) (cs : List Constraint) : Nat := cs.countP (fun c => c.severity = severity)

theorem add_maxSeverity {t : Tally} {r : Nat} (h : t.maxSeverity = rankText r) (severity : Severity) :
    (t.add severity).maxSeverity = rankText (max r (severityRank severity)) := by
  cases severity with
  | other _ => simp [Tally.add, severityRank, h]
  | critical | warning | info =>
      obtain _ | _ | _ | n := r <;> simp [Tally.add, severityRank, h, rankText]

theorem countOf_cons (severity : Severity) (c : Constraint) (cs : List Constraint) :
    countOf severity (c :: cs) = (if c.severity = severity then 1 else 0) + countOf severity cs := by
  rw [countOf, List.countP_cons, Nat.add_comm]
  simp only [decide_eq_true_eq]
  rfl

theorem maxRank_cons (c : Constraint) (cs : List Constraint) :
    maxRank (c :: cs) = max (severityRank c.severity) (maxRank cs) := rfl

theorem add_counts (t : Tally) (severity : Severity) :
    (t.add severity).critical = t.critical + (if severity = .critical then 1 else 0) ∧
      (t.add severity).warning = t.warning + (if severity = .warning then 1 else 0) ∧
      (t.add severity).info = t.info + (if severity = .info then 1 else 0) := by
  cases severity <;> exact ⟨rfl, rfl, rfl⟩

theorem foldl_add (cs : List Constraint) {t : Tally} {r : Nat} (h : t.maxSeverity = rankText r) :
    cs.foldl (fun t c => t.add c.severity) t =
      { critical := t.critical + countOf .critical cs
        warning := t.warning + countOf .warning cs
        info := t.info + countOf .info cs
        maxSeverity := rankText (max r (maxRank cs)) } := by
  induction cs generalizing t r with
  | nil => simp [countOf, maxRank, ← h]
  | cons c cs ih =>
      obtain ⟨hcritical, hwarning, hinfo⟩ := add_counts t c.severity
      rw [List.foldl_cons, ih (add_maxSeverity h c.severity), maxRank_cons, max_assoc]
      simp only [countOf_cons, hcritical, hwarning, hinfo, Nat.add_assoc]

theorem tally_eq (cs : List Constraint) :
    tally cs =
      { critical := countOf .critical cs
        warning := countOf .warning cs
        info := countOf .info cs
        maxSeverity := rankText (maxRank cs) } := by
  have h := foldl_add cs (t := {}) (r := 0) rfl
  simpa [tally] using h

theorem annotationOf_counts (workload : Json) {cs cs' : List Constraint} (hne : cs ≠ []) (hperm : cs'.Perm cs)
    (now : String) :
    annotationOf (applyPatch workload (buildAnnotationPatch now cs')) "nightjar.io/max-severity" =
        some (.str (rankText (maxRank cs))) ∧
      annotationOf (applyPatch workload (buildAnnotationPatch now cs')) "nightjar.io/critical-count" =
        some (.str (toString (countOf .critical cs))) ∧
      annotationOf (applyPatch workload (buildAnnotationPatch now cs')) "nightjar.io/warning-count" =
        some (.str (toString (countOf .warning cs))) ∧
      annotationOf (applyPatch workload (buildAnnotationPatch now cs')) "nightjar.io/info-count" =
        some (.str (toString (countOf .info cs))) := by
  have hne' : cs'.length ≠ 0 := by
    rw [hperm.length_eq]
    simpa using hne
  have ht : tally cs' = _ := (tally_perm hperm).trans (tally_eq cs)
  have hpatch := annotationOf_applyPatch (nodup_keys now cs') workload
  rw [hpatch, hpatch, hpatch, hpatch, buildAnnotationPatch, if_neg hne', ht]
  exact ⟨rfl, rfl, rfl, rfl⟩

end Counts

/-- The annotations of a workload that had none of the annotator's are back after the patch for
no constraints; no patch touches anything else; and the annotations say how many constraints of each
severity there are and which is the highest, in whatever order the constraints come. -/
theorem annotation_patches_clean (workload : Json) {cs : List Constraint} (hne : cs ≠ []) (now now' : String) :
    ((∀ key ∈ workloadAnnotations, annotationOf workload key = none) →
      ∀ key, annotationOf (applyPatch (applyPatch workload (buildAnnotationPatch now cs))
        (buildAnnotationPatch now' [])) key = annotationOf workload key) ∧
    (∀ ds, SameElsewhere workload (applyPatch workload (buildAnnotationPatch now ds)) ∧
      ∀ key, key ∉ workloadAnnotations →
        annotationOf (applyPatch workload (buildAnnotationPatch now ds)) key = annotationOf workload key) ∧
    ∀ cs', cs'.Perm cs →
      annotationOf (applyPatch workload (buildAnnotationPatch now cs')) "nightjar.io/max-severity" =
          some (.str (rankText (maxRank cs))) ∧
        annotationOf (applyPatch workload (buildAnnotationPatch now cs')) "nightjar.io/critical-count" =
          some (.str (toString (countOf .critical cs))) ∧
        annotationOf (applyPatch workload (buildAnnotationPatch now cs')) "nightjar.io/warning-count" =
          some (.str (toString (countOf .warning cs))) ∧
        annotationOf (applyPatch workload (buildAnnotationPatch now cs')) "nightjar.io/info-count" =
          some (.str (toString (countOf .info cs))) := by
  refine ⟨?_, ?_, fun cs' hperm => annotationOf_counts workload hne hperm now⟩
  · intro hclean key
    by_cases hkey : key ∈ workloadAnnotations
    · rw [annotationOf_applyPatch_nil _ now' hkey, hclean key hkey]
    · rw [annotationOf_applyPatch_of_notMem _ now' [] hkey, annotationOf_applyPatch_of_notMem _ now cs hkey]
  · intro ds
    exact ⟨sameElsewhere_applyPatch workload _, fun key => annotationOf_applyPatch_of_notMem workload now ds⟩

section Samples

def ownedWorkload : Json :=
  .obj [("kind", .str "Deployment"), ("metadata", .obj [("annotations", .obj [("team", .str "web")])])]

def criticalConstraint : Constraint where
  uid := "u"
  source := ⟨"policy", "v1", "policies"⟩
  name := "deny"
  ns := "team"
  constraintType := .admission
  effect := "deny"
  severity := .critical
  summary := ""

theorem annotation_patches_clean_owned :
    annotationOf (applyPatch (applyPatch ownedWorkload (buildAnnotationPatch "t" [criticalConstraint]))
        (buildAnnotationPatch "t" [])) "team" = some (.str "web") ∧
      annotationOf (applyPatch ownedWorkload (buildAnnotationPatch "t" [criticalConstraint]))
        "nightjar.io/max-severity" = some (.str "critical") := by
  obtain ⟨hback, -, hcounts⟩ :=
    annotation_patches_clean ownedWorkload (List.cons_ne_nil criticalConstraint []) "t" "t"
  refine ⟨?_, (hcounts _ (.refl _)).1⟩
  refine hback ?_ "team"
  intro key hkey
  have hkeys : ∀ key ∈ workloadAnnotations, key ≠ "team" := by decide
  simp [annotationOf, ownedWorkload, Json.get?, List.lookup_cons, beq_false_of_ne (hkeys key hkey)]

end Samples

end Nightjar.Notifier
