import Nightjar.Lib.Counting
import Nightjar.Mcp.ListNamespaces

namespace Nightjar.Mcp

open Lib Lib.Strings Notifier ListNamespaces

def notFound (message : String) : HttpError := ⟨message, 404⟩

structure RemediationParams where
  constraintName : String
  ns : String
deriving DecidableEq, Repr

section Named
variable [Unicode] (rb : RemediationBuilder)

def remediationResult (c : Constraint) : RemediationResult :=
  ⟨(rb.build c).summary, (rb.build c).steps.map toolStep⟩

/-- `HandleRemediation`, given the decoded body if it could be decoded. The index ranges over a map, so
the order of the constraints of a namespace is an argument: it may be another one in every call. -/
def handleRemediation (body : Option RemediationParams) (byNamespace : String → List Constraint) :
    Except HttpError RemediationResult :=
  match body with
  | none => .error (badRequest "Invalid request body")
  | some params =>
      if params.constraintName = "" ∨ params.ns = "" then
        .error (badRequest "constraint_name and namespace are required")
      else
        match (byNamespace params.ns).find? (fun c => c.name = params.constraintName) with
        | none => .error (notFound "Constraint not found")
        | some target => .ok (remediationResult rb target)

def handleConstraintResource (level : DetailLevel) (now path : String) (byNamespace : String → List Constraint) :
    Except HttpError ConstraintResult :=
  match splitOnce '/' (trimPrefix path "/resources/constraints/") with
  | ns :: name :: _ =>
      match (byNamespace ns).find? (fun c => c.name = name) with
      | none => .error (notFound "Constraint not found")
      | some c => .ok (toConstraintResultWithRemediation rb level ns now c)
  | _ => .error (badRequest "Namespace and constraint name are required")

end Named

structure AdapterHealth where
  enabled : Bool
  watchedResources : Nat
  errorCount : Nat := 0
  reason : String := ""
deriving DecidableEq, Repr

structure MCPHealth where
  enabled : Bool
  transport : String
  port : Nat
deriving DecidableEq, Repr

structure IndexerHealth where
  totalConstraints : Nat
  namespacesWithConstraints : Nat
deriving DecidableEq, Repr

/-- `mcp.HealthResponse`; the field `Hubble` is never set. -/
structure HealthResponse where
  status : String
  adapters : List (String × AdapterHealth)
  mcp : MCPHealth
  indexer : IndexerHealth
  lastScan : String
deriving DecidableEq, Repr

structure CapabilitiesResource where
  version : String
  adapters : List String
  constraintTypes : Table String Nat
  totalConstraints : Nat
  namespaceCount : Nat
  hubbleEnabled : Bool
  mcpEnabled : Bool
  lastScan : String

def typeCount (allConstraints : List Constraint) : Table String Nat :=
  Table.tally (allConstraints.map (fun c => c.constraintType.text))

def nsSet (allConstraints : List Constraint) : Table String Bool :=
  Table.keySet (allConstraints.flatMap namespacesOf)

def handleHealthResource (now : String) (allConstraints : List Constraint) : HealthResponse where
  status := "healthy"
  adapters :=
    [("networkpolicy", ⟨true, 1, 0, ""⟩), ("resourcequota", ⟨true, 1, 0, ""⟩), ("limitrange", ⟨true, 1, 0, ""⟩),
      ("webhookconfig", ⟨true, 2, 0, ""⟩), ("generic", ⟨true, 0, 0, ""⟩)]
  mcp := ⟨true, "sse", 8090⟩
  indexer := ⟨allConstraints.length, (nsSet allConstraints).size⟩
  lastScan := now

def handleCapabilitiesResource (now : String) (allConstraints : List Constraint) : CapabilitiesResource where
  version := "1"
  adapters := ["networkpolicy", "resourcequota", "limitrange", "webhookconfig", "generic"]
  constraintTypes := typeCount allConstraints
  totalConstraints := allConstraints.length
  namespaceCount := (nsSet allConstraints).size
  hubbleEnabled := false
  mcpEnabled := true
  lastScan := now

section Agreement
variable [Unicode] (rb : RemediationBuilder) (level : DetailLevel) (now : String) {ns name : String}

omit [Unicode] in
def constraintPath (ns name : String) : String := "/resources/constraints/" ++ (ns ++ "/" ++ name)

theorem handleConstraintResource_path (hslash : '/' ∉ ns.toList) (byNamespace : String → List Constraint) :
    handleConstraintResource rb level now (constraintPath ns name) byNamespace =
      match (byNamespace ns).find? (fun c => c.name = name) with
      | none => .error (notFound "Constraint not found")
      | some c => .ok (toConstraintResultWithRemediation rb level ns now c) := by
  have hsplit : splitOnce '/' (trimPrefix (constraintPath ns name) "/resources/constraints/") = [ns, name] := by
    have htrim : trimPrefix (constraintPath ns name) "/resources/constraints/" = ns ++ "/" ++ name :=
      trimPrefix_append _ _
    have hsep : "/".toList = ['/'] := rfl
    rw [htrim, splitOnce_append hsep hslash]
  simp only [handleConstraintResource, hsplit]

theorem handleRemediation_named (hns : ns ≠ "") (hname : name ≠ "") (byNamespace : String → List Constraint) :
    handleRemediation rb (some ⟨name, ns⟩) byNamespace =
      match (byNamespace ns).find? (fun c => c.name = name) with
      | none => .error (notFound "Constraint not found")
      | some c => .ok (remediationResult rb c) :=
  if_neg (by simp [hns, hname])

theorem remediationResult_inj {c c' : Constraint} :
    remediationResult rb c = remediationResult rb c' ↔ rb.build c = rb.build c' := by
  constructor
  · intro h
    obtain ⟨hsummary, hsteps⟩ := RemediationResult.mk.inj h
    have hinj : Function.Injective toolStep := fun s s' hs => congrArg ToolStep.step hs
    have hsteps := List.map_injective_iff.mpr hinj hsteps
    cases hb : rb.build c
    cases hb' : rb.build c'
    simp_all
  · intro h
    rw [remediationResult, remediationResult, h]

omit [Unicode] in
/-- The remediation that the constraint resource answers with. -/
def remediationOf (response : Except HttpError ConstraintResult) : Except HttpError (Option RemediationResult) :=
  response.map ConstraintResult.remediation

omit [Unicode] in
/-- The orders in which the index can enumerate the constraints of each namespace. -/
def Enumerates (idx : Indexer) (byNamespace : String → List Constraint) : Prop :=
  ∀ ns, (byNamespace ns).Perm (idx.byNamespace ns)

omit [Unicode] in
theorem exists_enumerates_first {idx : Indexer} {c : Constraint} (hc : c ∈ idx.byNamespace ns) :
    ∃ byNamespace, Enumerates idx byNamespace ∧ (byNamespace ns).head? = some c := by
  obtain ⟨before, after, hsplit⟩ := List.append_of_mem hc
  refine ⟨fun n => if n = ns then c :: (before ++ after) else idx.byNamespace n, fun n => ?_, by simp⟩
  dsimp only
  split
  · rename_i hn
    rw [hn, hsplit]
    exact List.perm_middle.symm
  · exact .refl _

omit [Unicode] in
theorem find?_of_head? {byNamespace : String → List Constraint} {c : Constraint}
    (h : (byNamespace ns).head? = some c) : (byNamespace ns).find? (fun d => d.name = c.name) = some c := by
  obtain ⟨rest, hrest⟩ := List.head?_eq_some_iff.mp h
  rw [hrest]
  simp

/-- The remediation tool and the constraint resource answer a name alike, in whatever orders the index
enumerates the namespace, exactly if the constraints of that name have one remediation. -/
theorem named_answers_agree_iff (idx : Indexer) (hns : ns ≠ "") (hname : name ≠ "") (hslash : '/' ∉ ns.toList) :
    (∀ byNamespace byNamespace', Enumerates idx byNamespace → Enumerates idx byNamespace' →
      remediationOf (handleConstraintResource rb level now (constraintPath ns name) byNamespace') =
        (handleRemediation rb (some ⟨name, ns⟩) byNamespace).map some) ↔
      ∀ c ∈ idx.byNamespace ns, ∀ c' ∈ idx.byNamespace ns, c.name = name → c'.name = name →
        rb.build c = rb.build c' := by
  simp only [handleConstraintResource_path rb level now hslash, handleRemediation_named rb hns hname]
  constructor
  · intro h c hc c' hc' hcname hcname'
    obtain ⟨first, hfirst, hhead⟩ := exists_enumerates_first hc
    obtain ⟨first', hfirst', hhead'⟩ := exists_enumerates_first hc'
    have hanswers := h first first' hfirst hfirst'
    rw [← hcname, find?_of_head? hhead, hcname, ← hcname', find?_of_head? hhead'] at hanswers
    exact ((remediationResult_inj rb).mp (Option.some.inj (Except.ok.inj hanswers))).symm
  · intro h byNamespace byNamespace' henum henum'
    have hfound {order : String → List Constraint} (horder : Enumerates idx order) {c : Constraint}
        (hc : (order ns).find? (fun d => d.name = name) = some c) : c ∈ idx.byNamespace ns ∧ c.name = name :=
      ⟨(horder ns).mem_iff.mp (List.mem_of_find?_eq_some hc), by simpa using List.find?_some hc⟩
    have hmissing {order order' : String → List Constraint} (horder : Enumerates idx order)
        (horder' : Enumerates idx order') (hnone : (order ns).find? (fun d => d.name = name) = none) :
        (order' ns).find? (fun d => d.name = name) = none := by
      rw [List.find?_eq_none] at hnone ⊢
      exact fun d hd => hnone d (((horder ns).trans (horder' ns).symm).mem_iff.mpr hd)
    cases hc : (byNamespace ns).find? (fun d => d.name = name) with
    | none =>
        rw [hmissing henum henum' hc]
        rfl
    | some c =>
        cases hc' : (byNamespace' ns).find? (fun d => d.name = name) with
        | none =>
            rw [hmissing henum' henum hc'] at hc
            cases hc
        | some c' =>
            obtain ⟨hmem, hcname⟩ := hfound henum hc
            obtain ⟨hmem', hcname'⟩ := hfound henum' hc'
            have hsame := (remediationResult_inj rb).mpr (h c' hmem' c hmem hcname' hcname)
            exact congrArg (fun r => Except.ok (some r)) hsame

end Agreement

section Privacy
variable [Unicode] (rb : RemediationBuilder) (level : DetailLevel) (now : String) {ns name : String}
  {idx idx' : Indexer} {α : Type}

omit [Unicode] in
/-- What a handler may answer, for the orders in which the index may enumerate the constraints. -/
def answers (handler : (String → List Constraint) → α) (idx : Indexer) : Set α :=
  { answer | ∃ byNamespace, Enumerates idx byNamespace ∧ handler byNamespace = answer }

omit [Unicode] in
theorem answers_subset {handler : (String → List Constraint) → α}
    (hreads : ∀ order order', order ns = order' ns → handler order = handler order')
    (h : (idx.byNamespace ns).Perm (idx'.byNamespace ns)) : answers handler idx ⊆ answers handler idx' := by
  rintro _ ⟨byNamespace, henum, rfl⟩
  refine ⟨Function.update idx'.byNamespace ns (byNamespace ns), fun n => ?_, ?_⟩
  · by_cases hn : n = ns
    · subst hn
      rw [Function.update_self]
      exact (henum n).trans h
    · rw [Function.update_of_ne hn]
  · exact hreads _ _ (Function.update_self ..)

omit [Unicode] in
theorem byNamespace_perm_of_varied (hv : IndexVaried ns idx idx')
    (hnone : ∀ c ∈ idx.byNamespace ns, ¬ HiddenFrom ns c) : (idx'.byNamespace ns).Perm (idx.byNamespace ns) := by
  have hview := hv.view_perm (q := fun _ => true) (r := id) (fun _ => rfl)
    (fun c hc c' hc' => absurd hc'.hidden (hnone c hc))
  simpa using hview

omit [Unicode] in
theorem answers_hides {handler : (String → List Constraint) → α}
    (hreads : ∀ order order', order ns = order' ns → handler order = handler order')
    (hnone : ∀ c ∈ idx.byNamespace ns, ¬ HiddenFrom ns c) : Hides (IndexVaried ns) (answers handler) idx := by
  intro idx' hv
  have hperm := byNamespace_perm_of_varied hv hnone
  exact Set.Subset.antisymm (answers_subset hreads hperm) (answers_subset hreads hperm.symm)

omit [Unicode] in
def freshName (idx : Indexer) (ns : String) : String :=
  String.ofList ('x' :: (idx.byNamespace ns).flatMap (fun c => c.name.toList))

omit [Unicode] in
theorem name_ne_freshName {c : Constraint} (hc : c ∈ idx.byNamespace ns) : c.name ≠ freshName idx ns := by
  obtain ⟨before, after, hsplit⟩ := List.append_of_mem hc
  intro heq
  have hlength := congrArg (fun name => name.toList.length) heq
  rw [freshName, hsplit] at hlength
  simp at hlength
  omega

omit [Unicode] in
theorem freshName_ne_empty : freshName idx ns ≠ "" := by
  intro heq
  have hlist := congrArg String.toList heq
  rw [freshName, String.toList_ofList] at hlist
  cases hlist

omit [Unicode] in
def lookupNamed (result : Constraint → α) (ns name : String) (byNamespace : String → List Constraint) :
    Except HttpError α :=
  match (byNamespace ns).find? (fun c => c.name = name) with
  | none => .error (notFound "Constraint not found")
  | some c => .ok (result c)

omit [Unicode] in
theorem not_hidden_of_lookupNamed (result : Constraint → α)
    (h : Hides (IndexVaried ns) (answers (lookupNamed result ns (freshName idx ns))) idx) :
    ∀ c ∈ idx.byNamespace ns, ¬ HiddenFrom ns c := by
  intro c hc hhidden
  have hvariant : Variant ns c { c with name := freshName idx ns, ns := c.ns } := .mk _ _ hhidden hhidden
  have hunknown :
      .error (notFound "Constraint not found") ∈ answers (lookupNamed result ns (freshName idx ns)) idx := by
    refine ⟨idx.byNamespace, fun _ => .refl _, ?_⟩
    have hnot : (idx.byNamespace ns).find? (fun c => c.name = freshName idx ns) = none :=
      List.find?_eq_none.mpr fun c hc => by simpa using name_ne_freshName hc
    rw [lookupNamed, hnot]
  rw [← h _ (indexVaried_upsert hc hvariant)] at hunknown
  obtain ⟨byNamespace, henum, hanswer⟩ := hunknown
  obtain ⟨-, hmatches⟩ := Indexer.mem_byNamespace.mp hc
  have hrenamed : { c with name := freshName idx ns, ns := c.ns } ∈ byNamespace ns := by
    refine (henum ns).mem_iff.mpr (Indexer.mem_byNamespace.mpr ⟨?_, hmatches⟩)
    rw [Indexer.mem_all, Indexer.upsert, KeyedStore.lookup_upsert, if_pos rfl]
  rw [lookupNamed] at hanswer
  split at hanswer
  · rename_i hnone
    exact List.find?_eq_none.mp hnone _ hrenamed (decide_eq_true rfl)
  · cases hanswer

/-- The remediation tool and the constraint resource keep the names of hidden constraints from a caller
who guesses them, at whatever level of detail, exactly if no constraint is hidden from the namespace. -/
theorem named_endpoints_hide_iff (idx : Indexer) (hns : ns ≠ "") (hslash : '/' ∉ ns.toList) :
    ((∀ name, Hides (IndexVaried ns) (answers (handleRemediation rb (some ⟨name, ns⟩))) idx) ↔
        ∀ c ∈ idx.byNamespace ns, ¬ HiddenFrom ns c) ∧
      ((∀ name, Hides (IndexVaried ns) (answers (handleConstraintResource rb level now (constraintPath ns name))) idx) ↔
        ∀ c ∈ idx.byNamespace ns, ¬ HiddenFrom ns c) := by
  have htool {name : String} (hname : name ≠ "") :
      handleRemediation rb (some ⟨name, ns⟩) = lookupNamed (remediationResult rb) ns name :=
    funext (handleRemediation_named rb hns hname)
  have hresource (name : String) : handleConstraintResource rb level now (constraintPath ns name) =
      lookupNamed (toConstraintResultWithRemediation rb level ns now) ns name :=
    funext (handleConstraintResource_path rb level now hslash)
  refine ⟨⟨fun h => ?_, fun hnone name => ?_⟩, ⟨fun h => ?_, fun hnone name => ?_⟩⟩
  · have hfresh := h (freshName idx ns)
    rw [htool freshName_ne_empty] at hfresh
    exact not_hidden_of_lookupNamed _ hfresh
  · refine answers_hides (fun order order' horder => ?_) hnone
    rw [handleRemediation, handleRemediation, horder]
  · have hfresh := h (freshName idx ns)
    rw [hresource] at hfresh
    exact not_hidden_of_lookupNamed _ hfresh
  · refine answers_hides (fun order order' horder => ?_) hnone
    rw [hresource, lookupNamed, lookupNamed, horder]

end Privacy

section Counts

theorem typeCount_perm {cs cs' : List Constraint} (h : cs.Perm cs') (t : String) :
    (typeCount cs).lookup t = (typeCount cs').lookup t := by
  have hmap := h.map (fun c => c.constraintType.text)
  rw [typeCount, typeCount, Table.lookup_tally, Table.lookup_tally, hmap.count_eq]
  exact if_congr hmap.mem_iff rfl rfl

theorem size_nsSet {cs cs' : List Constraint} (h : cs.Perm cs') :
    (nsSet cs).size = (handleListNamespaces cs').length := by
  have hgroup : (nsSet cs).size = (nsMap cs').size := by
    refine Table.size_congr fun ns => ?_
    have hkeys : ns ∈ cs.flatMap namespacesOf ↔
        ns ∈ (cs'.flatMap (fun c => (namespacesOf c).map (fun ns => (ns, c)))).map Prod.fst := by
      simp [h.mem_iff]
    rw [nsSet, nsMap, Table.lookup_keySet, Table.lookup_group, if_congr hkeys rfl rfl]
    split <;> rfl
  rw [hgroup, handleListNamespaces, List.length_insertionSort, List.length_map]
  rfl

end Counts

section Samples

attribute [local instance] asciiTables

def defaultsIndex : Indexer :=
  Indexer.new.applyAll [.upsert { limit "default" "team" ["team"] .warning with uid := "quota" },
    .upsert { limit "default" "team" ["team"] .critical with
      uid := "policy", source := ⟨"networking.k8s.io", "v1", "networkpolicies"⟩, constraintType := .networkIngress }]

theorem named_answers_differ : ("team" ≠ "" ∧ "default" ≠ "" ∧ '/' ∉ "team".toList) ∧
    ¬ ∀ byNamespace byNamespace', Enumerates defaultsIndex byNamespace → Enumerates defaultsIndex byNamespace' →
      remediationOf (handleConstraintResource (.new "") .full "now" (constraintPath "team" "default") byNamespace') =
        (handleRemediation (.new "") (some ⟨"default", "team"⟩) byNamespace).map some := by
  refine ⟨by decide, fun h => ?_⟩
  have hsame := (named_answers_agree_iff (.new "") .full "now" defaultsIndex (by decide) (by decide) (by decide)).mp h
  exact absurd hsame (by decide)

theorem named_endpoints_hide_payments :
    ¬ ∀ name, Hides (IndexVaried "team") (answers (handleRemediation (.new "") (some ⟨name, "team"⟩)))
      paymentsIndex := by
  intro h
  have hnone := (named_endpoints_hide_iff (.new "") .summary "now" paymentsIndex (by decide) (by decide)).1.mp h
  rw [byNamespace_paymentsIndex] at hnone
  exact absurd hnone (by decide)

end Samples

end Nightjar.Mcp
