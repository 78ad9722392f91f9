import Nightjar.Indexer
import Nightjar.Adapters.Kyverno

namespace Nightjar.Adapters.Kyverno

open Lib.Strings Apimachinery Util

section Selectors
variable [Apimachinery] [Unicode] [LabelSelectors]

omit [Unicode] [LabelSelectors] in
def anyClauses (rule : Obj) : List Obj :=
  ((safeNestedSlice (safeNestedMap rule ["match"]) ["any"]).getD []).filterMap asMap

omit [Unicode] [LabelSelectors] in
def clauseSelector (clause : Obj) : Option LabelSelector :=
  safeNestedLabelSelector (safeNestedMap clause ["resources"]) ["selector"]

omit [Unicode] [LabelSelectors] in
/-- The selectors of a rule, in the order in which its blocks are read. -/
def selectors (rule : Obj) : List LabelSelector :=
  (resourcesBlocks rule).filterMap (fun block : Obj => safeNestedLabelSelector block ["selector"])

def ClauseAccepts (clause : Obj) (labels : List (String × String)) : Prop :=
  matchesLabelSelector (clauseSelector clause) labels = true

omit [LabelSelectors] in
theorem workloadSelector_eq {obj : Unstructured} {rule : Obj} {index : Nat} {globalAction : String}
    {isClusterPolicy : Bool} {c : Constraint}
    (hparse : parseRule obj rule index globalAction isClusterPolicy = .ok (some c)) :
    c.workloadSelector = (selectors rule).head? := by
  cases hparse
  exact (extractMatchInfo_eq rule).2

omit [Apimachinery] [Unicode] in
theorem mem_byLabels {idx : Indexer} {ns : String} {c : Constraint} {labels : List (String × String)}
    (hc : c ∈ idx.byNamespace ns) (hmatch : matchesLabelSelector c.workloadSelector labels = true) :
    c ∈ idx.byLabels ns labels := by
  rw [Indexer.byLabels_eq]
  exact List.mem_filter.mpr ⟨hc, hmatch⟩

/-- The selector of a rule's constraint accepts all labels that one of its any-clauses
accepts exactly when the first selector of the rule is as wide as every one of them. -/
theorem kyverno_selectors_iff (obj : Unstructured) (rule : Obj) (index : Nat) (globalAction : String)
    (isClusterPolicy : Bool) :
    (∀ c, parseRule obj rule index globalAction isClusterPolicy = .ok (some c) → ∀ labels,
      (∃ clause ∈ anyClauses rule, ClauseAccepts clause labels) →
        matchesLabelSelector c.workloadSelector labels = true ∧
        ∀ idx ns, c ∈ Indexer.byNamespace idx ns → c ∈ idx.byLabels ns labels) ↔
    ∀ selector ∈ (selectors rule).head?, ∀ clause ∈ anyClauses rule, ∀ labels,
      ClauseAccepts clause labels → matchesLabelSelector (some selector) labels = true := by
  constructor
  · intro h selector hselector clause hclause labels haccepts
    have hmatch := (h _ rfl labels ⟨clause, hclause, haccepts⟩).1
    rw [workloadSelector_eq rfl, Option.mem_def.mp hselector] at hmatch
    exact hmatch
  · rintro h c hparse labels ⟨clause, hclause, haccepts⟩
    have hmatch : matchesLabelSelector c.workloadSelector labels = true := by
      rw [workloadSelector_eq hparse]
      cases hfirst : (selectors rule).head? with
      | none => rfl
      | some selector => exact h selector hfirst clause hclause labels haccepts
    exact ⟨hmatch, fun idx ns hc => mem_byLabels hc hmatch⟩

end Selectors

section Samples
attribute [local instance] Apimachinery.model asciiTables LabelSelectors.model

def clauseFor (app : String) : Any :=
  .map [("resources", .map [("kinds", .slice [.str "Pod"]),
    ("selector", .map [("matchLabels", .map [("app", .str app)])])])]

def webOrDb : Obj :=
  [("name", .str "require-probes"), ("match", .map [("any", .slice [clauseFor "web", clauseFor "db"])])]

theorem kyverno_second_selector_dropped :
    (∃ clause ∈ anyClauses webOrDb, ClauseAccepts clause [("app", "db")]) ∧
    ∃ c, parseRule ⟨[]⟩ webOrDb 0 "Enforce" true = .ok (some c) ∧
      matchesLabelSelector c.workloadSelector [("app", "db")] = false := by
  refine ⟨⟨_, List.mem_cons_of_mem _ List.mem_cons_self, ?_⟩, _, rfl, ?_⟩
  · rfl
  · rfl

end Samples

end Nightjar.Adapters.Kyverno
