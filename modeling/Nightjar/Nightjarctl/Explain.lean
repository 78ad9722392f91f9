import Nightjar.Mcp.Handlers
import Nightjar.Nightjarctl.Check

namespace Nightjar

open Lib Lib.Strings

namespace Explain

variable {α : Type}

/-- The words of one kind of error, the constraints it is blamed on and what is said then. -/
structure ErrorKind (α : Type) where
  patterns : List String
  blames : α → Bool
  explanation : String

structure Matching (α : Type) where
  found : List α
  confidence : String
  explanation : String

def matchPatterns (errorLower : String) (constraints : List α) (kind : ErrorKind α) :
    List String → Matching α → Matching α
  | [], m => m
  | pattern :: patterns, m =>
      if contains errorLower pattern then
        let found := m.found ++ constraints.filter kind.blames
        if found.length > 0 then ⟨found, "high", kind.explanation⟩ else { m with found := found }
      else matchPatterns errorLower constraints kind patterns m

def matchKind (errorLower : String) (constraints : List α) (m : Matching α) (kind : ErrorKind α) : Matching α :=
  if m.found.length = 0 then matchPatterns errorLower constraints kind kind.patterns m else m

def classify (errorLower : String) (kinds : List (ErrorKind α)) (otherwise : String) (constraints : List α) :
    Matching α :=
  let m := kinds.foldl (matchKind errorLower constraints)
    ⟨[], "low", "No matching constraints found for this error message."⟩
  if m.found.length = 0 then ⟨constraints, "low", otherwise⟩ else m

def ErrorKind.applies (errorLower : String) (constraints : List α) (kind : ErrorKind α) : Bool :=
  kind.patterns.any (contains errorLower) && constraints.any kind.blames

theorem filter_blames_ne_nil {constraints : List α} {kind : ErrorKind α} :
    constraints.filter kind.blames ≠ [] ↔ constraints.any kind.blames = true := by
  rw [Ne, List.filter_eq_nil_iff, List.any_eq_true]
  push Not
  rfl

theorem matchPatterns_eq (errorLower : String) (constraints : List α) (kind : ErrorKind α) {m : Matching α}
    (hm : m.found = []) (patterns : List String) :
    matchPatterns errorLower constraints kind patterns m =
      if patterns.any (contains errorLower) && constraints.any kind.blames then
        ⟨constraints.filter kind.blames, "high", kind.explanation⟩
      else m := by
  induction patterns with
  | nil => rfl
  | cons pattern patterns ih =>
      rw [matchPatterns, hm, List.nil_append, List.any_cons]
      dsimp only
      by_cases hp : contains errorLower pattern = true
      · rw [if_pos hp, hp, Bool.true_or, Bool.true_and]
        by_cases hany : constraints.any kind.blames = true
        · rw [if_pos hany, if_pos (List.length_pos_of_ne_nil (filter_blames_ne_nil.mpr hany))]
        · have hnone := not_ne_iff.mp (mt filter_blames_ne_nil.mp hany)
          rw [if_neg hany, hnone, ← hm, if_neg (by rw [hm]; exact Nat.lt_irrefl 0)]
      · rw [if_neg hp, ih, Bool.eq_false_iff.mpr hp, Bool.false_or]

theorem foldl_matchKind_found (errorLower : String) (constraints : List α) (kinds : List (ErrorKind α)) {m : Matching α}
    (hm : m.found ≠ []) : kinds.foldl (matchKind errorLower constraints) m = m := by
  induction kinds with
  | nil => rfl
  | cons kind kinds ih =>
      have hstep : matchKind errorLower constraints m kind = m := if_neg (mt List.length_eq_zero_iff.mp hm)
      rw [List.foldl_cons, hstep, ih]

theorem foldl_matchKind_eq (errorLower : String) (constraints : List α) (kinds : List (ErrorKind α)) {m : Matching α}
    (hm : m.found = []) :
    kinds.foldl (matchKind errorLower constraints) m =
      ((kinds.find? (ErrorKind.applies errorLower constraints)).map
        (fun kind => ⟨constraints.filter kind.blames, "high", kind.explanation⟩)).getD m := by
  induction kinds with
  | nil => rfl
  | cons kind kinds ih =>
      have hstep : matchKind errorLower constraints m kind =
          if kind.applies errorLower constraints then ⟨constraints.filter kind.blames, "high", kind.explanation⟩
          else m := by
        rw [matchKind, if_pos (by rw [hm]; rfl), matchPatterns_eq errorLower constraints kind hm]
        rfl
      rw [List.foldl_cons, hstep, List.find?_cons]
      cases happlies : kind.applies errorLower constraints with
      | false => exact ih
      | true =>
          rw [ErrorKind.applies, Bool.and_eq_true] at happlies
          rw [if_pos rfl, foldl_matchKind_found]
          · rfl
          · exact filter_blames_ne_nil.mpr happlies.2

theorem classify_eq (errorLower : String) (kinds : List (ErrorKind α)) (otherwise : String) (constraints : List α) :
    classify errorLower kinds otherwise constraints =
      ((kinds.find? (ErrorKind.applies errorLower constraints)).map
        (fun kind => ⟨constraints.filter kind.blames, "high", kind.explanation⟩)).getD
        ⟨constraints, "low", otherwise⟩ := by
  rw [classify, foldl_matchKind_eq errorLower constraints kinds rfl]
  cases hkind : kinds.find? (ErrorKind.applies errorLower constraints) with
  | none => rfl
  | some kind =>
      have happlies := List.find?_some hkind
      rw [ErrorKind.applies, Bool.and_eq_true] at happlies
      rw [Option.map_some, Option.getD_some, if_neg]
      · rfl
      · exact mt List.length_eq_zero_iff.mp (filter_blames_ne_nil.mpr happlies.2)

variable {β : Type} {f : β → α} {constraints : List β}

/-- Two kinds of errors with the same words and text that blame the same constraints, the
ones in one form and the others in another. -/
structure ErrorKind.Same (f : β → α) (constraints : List β) (kind : ErrorKind α) (kind' : ErrorKind β) : Prop where
  patterns : kind.patterns = kind'.patterns
  blames : ∀ c ∈ constraints, kind.blames (f c) = kind'.blames c
  explanation : kind.explanation = kind'.explanation

def Matching.map (f : β → α) (m : Matching β) : Matching α := ⟨m.found.map f, m.confidence, m.explanation⟩

theorem ErrorKind.Same.filter {kind : ErrorKind α} {kind' : ErrorKind β} (h : kind.Same f constraints kind') :
    (constraints.map f).filter kind.blames = (constraints.filter kind'.blames).map f := by
  rw [List.filter_map]
  exact congrArg (List.map f) (List.filter_congr h.blames)

theorem ErrorKind.Same.applies {kind : ErrorKind α} {kind' : ErrorKind β} (h : kind.Same f constraints kind')
    (errorLower : String) : kind.applies errorLower (constraints.map f) = kind'.applies errorLower constraints := by
  have hany : (constraints.map f).any kind.blames = constraints.any kind'.blames := by
    rw [Bool.eq_iff_iff, ← filter_blames_ne_nil, ← filter_blames_ne_nil, h.filter, Ne, List.map_eq_nil_iff]
  rw [ErrorKind.applies, ErrorKind.applies, h.patterns, hany]

theorem classify_map {kinds : List (ErrorKind α)} {kinds' : List (ErrorKind β)}
    (h : List.Forall₂ (ErrorKind.Same f constraints) kinds kinds') (errorLower otherwise : String) :
    classify errorLower kinds otherwise (constraints.map f) =
      (classify errorLower kinds' otherwise constraints).map f := by
  rw [classify_eq, classify_eq]
  induction h with
  | nil => rfl
  | @cons kind kind' _ _ hkind _ ih =>
      rw [List.find?_cons, List.find?_cons, hkind.applies]
      cases kind'.applies errorLower constraints with
      | false => exact ih
      | true =>
          dsimp only [Option.map_some, Option.getD_some]
          rw [hkind.filter, hkind.explanation]
          rfl

def positions (p : α → Bool) (xs : List α) : List Nat := (List.range xs.length).filter (fun i => (xs[i]?).any p)

theorem filterMap_positions (p : α → Bool) (xs : List α) : (positions p xs).filterMap (xs[·]?) = xs.filter p := by
  have hall := SortSlice.filterMap_range xs
  calc (positions p xs).filterMap (xs[·]?)
      = (List.range xs.length).filterMap (fun i => (xs[i]?).filter p) := by
        rw [positions, List.filterMap_filter]
        refine List.filterMap_congr (fun i _ => ?_)
        cases xs[i]? with
        | none => rfl
        | some x => cases hp : p x <;> simp [hp, Option.filter_some]
    _ = ((List.range xs.length).filterMap (xs[·]?)).filter p := by rw [List.filter_filterMap]
    _ = xs.filter p := by rw [hall]

end Explain

namespace Nightjarctl

open Explain

def networkErrors : ErrorKind ConstraintInfo where
  patterns := ["connection refused", "connection timed out", "network unreachable", "no route to host", "dial tcp",
    "i/o timeout", "egress", "ingress"]
  blames c := decide (c.type = "NetworkIngress") || decide (c.type = "NetworkEgress")
  explanation := "This error appears to be network-related. The following network policies may be blocking traffic."

def admissionErrors : ErrorKind ConstraintInfo where
  patterns := ["denied", "rejected", "forbidden", "admission", "webhook", "not allowed", "policy violation",
    "constraint"]
  blames c := decide (c.type = "Admission")
  explanation := "This error appears to be from an admission controller. " ++
    "The following admission policies may be rejecting the request."

def quotaErrors : ErrorKind ConstraintInfo where
  patterns := ["exceeded quota", "resource quota", "limit exceeded", "insufficient", "cpu", "memory", "storage"]
  blames c := decide (c.type = "ResourceLimit")
  explanation := "This error appears to be quota-related. The following resource quotas may be limiting resources."

def matchError [Unicode] (errorMessage : String) (constraints : List ConstraintInfo) : Matching ConstraintInfo :=
  classify (toLower errorMessage) [networkErrors, admissionErrors, quotaErrors]
    ("Could not determine the specific cause. " ++
      "Here are all constraints in the namespace that might be relevant.") constraints

/-- What is shown of a constraint as far as `matchError` reads it. -/
def rendering (c : Constraint) : ConstraintInfo := { name := c.name, type := c.constraintType.text }

end Nightjarctl

namespace Mcp

open Explain

def Topic.kind (topic : Topic) : ErrorKind Constraint := ⟨topic.patterns, topic.relevant, topic.explanation⟩

theorem classify_topics [Unicode] (errorMessage : String) (constraints : List Constraint) :
    classify (toLower errorMessage) ([Topic.network, .admission, .quota].map Topic.kind) Topic.any.explanation
        constraints =
      ⟨(matchErrorToConstraints errorMessage constraints).1, (matchErrorToConstraints errorMessage constraints).2.1,
        (matchErrorToConstraints errorMessage constraints).2.2⟩ := by
  rw [classify_eq, List.find?_map]
  have htopic : topicOf errorMessage constraints = ([Topic.network, .admission, .quota].find?
      (ErrorKind.applies (toLower errorMessage) constraints ∘ Topic.kind)).getD .any := rfl
  rw [matchErrorToConstraints, htopic]
  cases hfound : [Topic.network, .admission, .quota].find?
      (ErrorKind.applies (toLower errorMessage) constraints ∘ Topic.kind) with
  | none =>
      have hall : constraints.filter Topic.any.relevant = constraints := List.filter_eq_self.mpr (fun _ _ => rfl)
      dsimp only [Option.getD_none]
      rw [hall]
      rfl
  | some topic =>
      have hmem := List.mem_of_find?_eq_some hfound
      have hconfidence : topic.confidence = "high" := by
        rcases List.mem_cons.mp hmem with rfl | hmem
        · rfl
        · rcases List.mem_cons.mp hmem with rfl | hmem
          · rfl
          · rw [List.mem_singleton.mp hmem]
            rfl
      dsimp only [Option.getD_some]
      rw [hconfidence]
      rfl

end Mcp

/-- A type that is none of the constants is not spelled like one of them either. -/
def ConstraintType.Plain : ConstraintType → Prop
  | .other name => ∀ t ∈ [networkIngress, .networkEgress, .admission, .resourceLimit, .meshPolicy, .missing, .unknown],
      name ≠ t.text
  | _ => True

namespace Nightjarctl

open Explain

theorem text_eq_iff {t t' : ConstraintType} (h : t.Plain)
    (ht : t' ∈ [.networkIngress, .networkEgress, .admission, .resourceLimit]) : t.text = t'.text ↔ t = t' := by
  cases t with
  | other name =>
      have hne : name ≠ t'.text := h t' (List.mem_of_mem_take (i := 4) ht)
      refine iff_of_false hne ?_
      rintro rfl
      revert ht
      simp
  | _ =>
      revert t'
      decide

theorem same_kinds {constraints : List Constraint} (h : ∀ c ∈ constraints, c.constraintType.Plain) :
    List.Forall₂ (ErrorKind.Same rendering constraints) [networkErrors, admissionErrors, quotaErrors]
      ([Mcp.Topic.network, .admission, .quota].map Mcp.Topic.kind) := by
  have htype {c : Constraint} (hc : c ∈ constraints) (t : ConstraintType)
      (ht : t ∈ [.networkIngress, .networkEgress, .admission, .resourceLimit]) :
      decide ((rendering c).type = t.text) = decide (c.constraintType = t) :=
    decide_eq_decide.mpr (text_eq_iff (h c hc) ht)
  refine .cons ⟨rfl, fun c hc => ?_, rfl⟩ (.cons ⟨rfl, fun c hc => ?_, rfl⟩ (.cons ⟨rfl, fun c hc => ?_, rfl⟩ .nil))
  · exact congrArg₂ or (htype hc .networkIngress (by decide)) (htype hc .networkEgress (by decide))
  · exact htype hc .admission (by decide)
  · exact htype hc .resourceLimit (by decide)

/-- The classifier of the command line, shown the names and types of constraints, picks
those at the positions that the classifier of the MCP server picks, and says the same. -/
theorem explain_agrees [Unicode] (errorMessage : String) (constraints : List Constraint)
    (h : ∀ c ∈ constraints, c.constraintType.Plain) :
    ∃ ps : List Nat, ps.Pairwise (· < ·) ∧ (∀ i ∈ ps, i < constraints.length) ∧
      (matchError errorMessage (constraints.map rendering)).found = ps.filterMap ((constraints.map rendering)[·]?) ∧
      (Mcp.matchErrorToConstraints errorMessage constraints).1 = ps.filterMap (constraints[·]?) ∧
      (matchError errorMessage (constraints.map rendering)).confidence =
        (Mcp.matchErrorToConstraints errorMessage constraints).2.1 ∧
      (matchError errorMessage (constraints.map rendering)).explanation =
        (Mcp.matchErrorToConstraints errorMessage constraints).2.2 := by
  have hsame : matchError errorMessage (constraints.map rendering) =
      ⟨(Mcp.matchErrorToConstraints errorMessage constraints).1.map rendering,
        (Mcp.matchErrorToConstraints errorMessage constraints).2.1,
        (Mcp.matchErrorToConstraints errorMessage constraints).2.2⟩ := by
    have hmap := classify_map (same_kinds h) (toLower errorMessage) Mcp.Topic.any.explanation
    rw [Mcp.classify_topics, Matching.map] at hmap
    dsimp only at hmap
    exact hmap
  rw [hsame]
  dsimp only
  let relevant := (Mcp.topicOf errorMessage constraints).relevant
  have hfound : (positions relevant constraints).filterMap (constraints[·]?) =
      (Mcp.matchErrorToConstraints errorMessage constraints).1 := filterMap_positions relevant constraints
  refine ⟨positions relevant constraints, ?_, ?_, ?_, hfound.symm, rfl, rfl⟩
  · exact List.pairwise_lt_range.filter _
  · intro i hi
    exact List.mem_range.mp (List.mem_of_mem_filter hi)
  · rw [← hfound, List.map_filterMap]
    simp only [List.getElem?_map]

section Samples

attribute [local instance] asciiTables

def blockers : List Constraint :=
  [{ uid := "a", source := ⟨"", "v1", "resourcequotas"⟩, name := "quota", ns := "team",
     constraintType := .resourceLimit, effect := "limit", severity := .warning, summary := "" },
   { uid := "b", source := ⟨"mesh.io", "v1", "meshes"⟩, name := "mesh", ns := "team", constraintType := .other "Mesh",
     effect := "route", severity := .info, summary := "" }]

theorem quota_explained :
    ∃ ps : List Nat, ps.Pairwise (· < ·) ∧ (∀ i ∈ ps, i < blockers.length) ∧
      (matchError "Forbidden: exceeded quota" (blockers.map rendering)).found =
        ps.filterMap ((blockers.map rendering)[·]?) ∧
      (Mcp.matchErrorToConstraints "Forbidden: exceeded quota" blockers).1 = ps.filterMap (blockers[·]?) ∧
      (matchError "Forbidden: exceeded quota" (blockers.map rendering)).confidence =
        (Mcp.matchErrorToConstraints "Forbidden: exceeded quota" blockers).2.1 ∧
      (matchError "Forbidden: exceeded quota" (blockers.map rendering)).explanation =
        (Mcp.matchErrorToConstraints "Forbidden: exceeded quota" blockers).2.2 := by
  refine explain_agrees "Forbidden: exceeded quota" blockers ?_
  intro c hc
  obtain rfl | hc := List.mem_cons.mp hc
  · trivial
  · rw [List.mem_singleton.mp hc]
    change (ConstraintType.other "Mesh").Plain
    rw [ConstraintType.Plain]
    decide

end Samples

end Nightjarctl

end Nightjar
