import Nightjar.Lib.Tables
import Nightjar.Mcp.Handlers

namespace Nightjar.Mcp

open Lib Lib.Strings Notifier

structure NamespaceSummary where
  ns : String
  total : Nat
  criticalCount : Nat := 0
  warningCount : Nat := 0
  infoCount : Nat := 0
  topConstraint : String := ""
deriving DecidableEq, Repr

namespace ListNamespaces

/-- The namespaces under which a constraint is appended to `nsMap`, once for each time. -/
def namespacesOf (c : Constraint) : List String := c.affectedNamespaces ++ if c.ns ≠ "" then [c.ns] else []

def nsMap (allConstraints : List Constraint) : Table String (List Constraint) :=
  Table.group (allConstraints.flatMap (fun c => (namespacesOf c).map (fun ns => (ns, c))))

def addUnseen (acc : List UID × List Constraint) (c : Constraint) : List UID × List Constraint :=
  if c.uid ∈ acc.1 then acc else (c.uid :: acc.1, acc.2 ++ [c])

def unique (constraints : List Constraint) : List Constraint := (constraints.foldl addUnseen ([], [])).2

/-- The turn of the loop over the constraints of a namespace; `topSeverity` is the second
component. -/
def tally (acc : NamespaceSummary × String) (c : Constraint) : NamespaceSummary × String :=
  let severity := c.severity.text
  if severity = "Critical" then
    let summary := { acc.1 with criticalCount := acc.1.criticalCount + 1 }
    if acc.2 = "" then ({ summary with topConstraint := c.name }, severity) else (summary, acc.2)
  else if severity = "Warning" then
    let summary := { acc.1 with warningCount := acc.1.warningCount + 1 }
    if acc.2 = "" ∨ acc.2 = "Info" then ({ summary with topConstraint := c.name }, severity) else (summary, acc.2)
  else if severity = "Info" then
    let summary := { acc.1 with infoCount := acc.1.infoCount + 1 }
    if acc.2 = "" then ({ summary with topConstraint := c.name }, severity) else (summary, acc.2)
  else acc

def summaryOf (ns : String) (unique : List Constraint) : NamespaceSummary :=
  (unique.foldl tally ({ ns, total := unique.length }, "")).1

def summarize (ns : String) (constraints : List Constraint) : NamespaceSummary := summaryOf ns (unique constraints)

end ListNamespaces

open ListNamespaces

/-- `HandleListNamespaces`, given the constraints in the order in which the index
enumerates them. The namespaces of the summaries are distinct, so there is one way to
sort them. -/
def handleListNamespaces (allConstraints : List Constraint) : List NamespaceSummary :=
  ((nsMap allConstraints).entries.map (fun e => summarize e.1 e.2)).insertionSort (fun a b => a.ns ≤ b.ns)

namespace ListNamespaces

/-- The constraint is one of those that the summary of the namespace is made of. -/
def listedIn (ns : String) (c : Constraint) : Bool := decide (ns ∈ namespacesOf c)

theorem mem_namespacesOf {c : Constraint} {ns : String} :
    ns ∈ namespacesOf c ↔ ns ∈ c.affectedNamespaces ∨ (c.ns ≠ "" ∧ ns = c.ns) := by
  rw [namespacesOf, List.mem_append]
  split
  · simp [*]
  · simp_all

theorem foldl_addUnseen_same {c : Constraint} {copies : List Constraint} (h : ∀ d ∈ copies, d = c)
    (acc : List UID × List Constraint) :
    copies.foldl addUnseen acc = if copies = [] then acc else addUnseen acc c := by
  induction copies generalizing acc with
  | nil => rfl
  | cons d copies ih =>
      obtain ⟨rfl, hrest⟩ := List.forall_mem_cons.mp h
      have hagain : addUnseen (addUnseen acc d) d = addUnseen acc d := by
        rw [addUnseen, addUnseen]
        split <;> simp [*]
      rw [List.foldl_cons, ih hrest, if_neg (List.cons_ne_nil _ _), hagain, ite_id]

theorem foldl_addUnseen_blocks (copies : Constraint → List Constraint) (h : ∀ c, ∀ d ∈ copies c, d = c)
    {cs : List Constraint} (hnodup : (cs.map Constraint.uid).Nodup) (acc : List UID × List Constraint)
    (hfresh : ∀ c ∈ cs, c.uid ∉ acc.1) :
    ((cs.flatMap copies).foldl addUnseen acc).2 = acc.2 ++ cs.filter (fun c => copies c ≠ []) := by
  induction cs generalizing acc with
  | nil => simp
  | cons c cs ih =>
      rw [List.map_cons, List.nodup_cons] at hnodup
      obtain ⟨hc, hrest⟩ := List.forall_mem_cons.mp hfresh
      rw [List.flatMap_cons, List.foldl_append, foldl_addUnseen_same (h c)]
      by_cases hcopies : copies c = []
      · rw [if_pos hcopies, ih hnodup.2 acc hrest]
        simp [hcopies]
      · rw [if_neg hcopies, addUnseen, if_neg hc, ih hnodup.2 _ ?_]
        · simp [hcopies]
        · intro d hd hmem
          obtain he | hmem := List.mem_cons.mp hmem
          · exact hnodup.1 (List.mem_map.mpr ⟨d, hd, he⟩)
          · exact hrest d hd hmem

theorem unique_group {cs : List Constraint} (hnodup : (cs.map Constraint.uid).Nodup) (ns : String) :
    unique (((cs.flatMap (fun c => (namespacesOf c).map (fun ns => (ns, c)))).filter
      (fun p => p.1 = ns)).map Prod.snd) = cs.filter (listedIn ns) := by
  have hblocks : ((cs.flatMap (fun c => (namespacesOf c).map (fun ns => (ns, c)))).filter (fun p => p.1 = ns)).map
      Prod.snd = cs.flatMap (fun c => ((namespacesOf c).filter (fun n => n = ns)).map (fun _ => c)) := by
    simp only [List.filter_flatMap, List.map_flatMap, List.filter_map, List.map_map]
    rfl
  rw [hblocks, unique, foldl_addUnseen_blocks _ ?_ hnodup _ (fun _ _ => List.not_mem_nil), List.nil_append]
  · refine List.filter_congr (fun c _ => ?_)
    rw [listedIn]
    simp [List.filter_eq_nil_iff]
  · intro c d hd
    obtain ⟨_, -, rfl⟩ := List.mem_map.mp hd
    rfl

theorem mem_handleListNamespaces {cs : List Constraint} (hnodup : (cs.map Constraint.uid).Nodup)
    {summary : NamespaceSummary} :
    summary ∈ handleListNamespaces cs ↔
      ∃ ns, (∃ c ∈ cs, listedIn ns c) ∧ summary = summaryOf ns (cs.filter (listedIn ns)) := by
  have hkeys (ns : String) :
      ns ∈ (cs.flatMap (fun c => (namespacesOf c).map (fun ns => (ns, c)))).map Prod.fst ↔ ∃ c ∈ cs, listedIn ns c := by
    simp [listedIn]
  rw [handleListNamespaces, List.mem_insertionSort, List.mem_map]
  constructor
  · rintro ⟨e, he, rfl⟩
    have hl : (nsMap cs).lookup e.1 = some e.2 := AList.mem_lookup_iff.mpr he
    rw [nsMap, Table.lookup_group] at hl
    split at hl
    · rename_i hmem
      refine ⟨e.1, (hkeys e.1).mp hmem, ?_⟩
      rw [summarize, ← Option.some.inj hl, unique_group hnodup]
    · cases hl
  · rintro ⟨ns, hns, rfl⟩
    have hl := Table.lookup_group (cs.flatMap (fun c => (namespacesOf c).map (fun ns => (ns, c)))) ns
    rw [if_pos ((hkeys ns).mpr hns)] at hl
    refine ⟨⟨ns, _⟩, AList.mem_lookup_iff.mp hl, ?_⟩
    rw [summarize, unique_group hnodup]

def pickTop (top : String × String) (c : Constraint) : String × String :=
  if c.severity.text = "Critical" then if top.2 = "" then (c.name, "Critical") else top
  else if c.severity.text = "Warning" then if top.2 = "" ∨ top.2 = "Info" then (c.name, "Warning") else top
  else if c.severity.text = "Info" then if top.2 = "" then (c.name, "Info") else top
  else top

theorem tally_top (acc : NamespaceSummary × String) (c : Constraint) :
    ((tally acc c).1.topConstraint, (tally acc c).2) = pickTop (acc.1.topConstraint, acc.2) c := by
  rw [tally, pickTop]
  dsimp only
  split_ifs <;> simp_all

theorem tally_counts (acc : NamespaceSummary × String) (c : Constraint) :
    (tally acc c).1.ns = acc.1.ns ∧ (tally acc c).1.total = acc.1.total ∧
      (tally acc c).1.criticalCount = acc.1.criticalCount + [c].countP (fun c => c.severity.text = "Critical") ∧
      (tally acc c).1.warningCount = acc.1.warningCount + [c].countP (fun c => c.severity.text = "Warning") ∧
      (tally acc c).1.infoCount = acc.1.infoCount + [c].countP (fun c => c.severity.text = "Info") := by
  rw [tally]
  dsimp only
  split_ifs <;> simp_all

theorem foldl_tally_top (u : List Constraint) (acc : NamespaceSummary × String) :
    ((u.foldl tally acc).1.topConstraint, (u.foldl tally acc).2) = u.foldl pickTop (acc.1.topConstraint, acc.2) := by
  induction u generalizing acc with
  | nil => rfl
  | cons c u ih => rw [List.foldl_cons, ih, tally_top, List.foldl_cons]

theorem foldl_tally_counts (u : List Constraint) (acc : NamespaceSummary × String) :
    (u.foldl tally acc).1.ns = acc.1.ns ∧ (u.foldl tally acc).1.total = acc.1.total ∧
      (u.foldl tally acc).1.criticalCount = acc.1.criticalCount + u.countP (fun c => c.severity.text = "Critical") ∧
      (u.foldl tally acc).1.warningCount = acc.1.warningCount + u.countP (fun c => c.severity.text = "Warning") ∧
      (u.foldl tally acc).1.infoCount = acc.1.infoCount + u.countP (fun c => c.severity.text = "Info") := by
  induction u generalizing acc with
  | nil => exact ⟨rfl, rfl, rfl, rfl, rfl⟩
  | cons c u ih =>
      obtain ⟨hns, htotal, hcritical, hwarning, hinfo⟩ := tally_counts acc c
      obtain ⟨hns', htotal', hcritical', hwarning', hinfo'⟩ := ih (tally acc c)
      have hcount (p : Constraint → Bool) : (c :: u).countP p = [c].countP p + u.countP p := by
        rw [← List.countP_append, List.singleton_append]
      rw [List.foldl_cons, hns', htotal', hcritical', hwarning', hinfo', hns, htotal, hcritical, hwarning, hinfo,
        hcount, hcount, hcount]
      exact ⟨rfl, rfl, Nat.add_assoc _ _ _, Nat.add_assoc _ _ _, Nat.add_assoc _ _ _⟩

/-- The numbers of a summary and those of a list of severities. -/
structure Counts (summary : NamespaceSummary) (severities : List String) : Prop where
  total : summary.total = severities.length
  critical : summary.criticalCount = severities.count "Critical"
  warning : summary.warningCount = severities.count "Warning"
  info : summary.infoCount = severities.count "Info"

theorem ns_summaryOf (ns : String) (u : List Constraint) : (summaryOf ns u).ns = ns := (foldl_tally_counts u _).1

theorem count_map {α : Type} (f : α → String) (xs : List α) (s : String) :
    (xs.map f).count s = xs.countP (fun x => f x = s) := by
  rw [List.count, List.countP_map]
  refine List.countP_congr (fun x _ => ?_)
  simp

theorem counts_summaryOf (ns : String) (u : List Constraint) :
    Counts (summaryOf ns u) (u.map (fun c => c.severity.text)) := by
  obtain ⟨-, htotal, hcritical, hwarning, hinfo⟩ := foldl_tally_counts u ({ ns, total := u.length }, "")
  refine ⟨?_, ?_, ?_, ?_⟩
  · rw [summaryOf, htotal, List.length_map]
  · rw [summaryOf, hcritical, count_map, Nat.zero_add]
  · rw [summaryOf, hwarning, count_map, Nat.zero_add]
  · rw [summaryOf, hinfo, count_map, Nat.zero_add]

theorem Counts.perm {summary : NamespaceSummary} {ss ss' : List String} (h : ss.Perm ss') :
    Counts summary ss ↔ Counts summary ss' := by
  constructor
  · rintro ⟨htotal, hcritical, hwarning, hinfo⟩
    exact ⟨htotal.trans h.length_eq, hcritical.trans (h.count_eq _), hwarning.trans (h.count_eq _),
      hinfo.trans (h.count_eq _)⟩
  · rintro ⟨htotal, hcritical, hwarning, hinfo⟩
    exact ⟨htotal.trans h.length_eq.symm, hcritical.trans (h.count_eq _).symm, hwarning.trans (h.count_eq _).symm,
      hinfo.trans (h.count_eq _).symm⟩

theorem matches_of_listedIn {c : Constraint} {ns : String} (h : listedIn ns c = true) :
    matchesNamespace c ns = true := by
  have hmem := mem_namespacesOf.mp (of_decide_eq_true h)
  rw [matchesNamespace, Bool.or_eq_true, Bool.or_eq_true, decide_eq_true_iff, decide_eq_true_iff, decide_eq_true_iff]
  obtain haffected | ⟨-, hns⟩ := hmem
  · exact .inr haffected
  · exact .inl (.inr hns.symm)

theorem counts_byNamespace_iff (idx : Indexer) {cs : List Constraint} (hcs : cs.Perm idx.all) (ns : String) :
    Counts (summaryOf ns (cs.filter (listedIn ns))) ((idx.byNamespace ns).map (fun c => c.severity.text)) ↔
      ∀ c ∈ idx.all, c.ns = "" → ns ∈ c.affectedNamespaces := by
  have hown : Counts (summaryOf ns (cs.filter (listedIn ns)))
      ((idx.all.filter (listedIn ns)).map (fun c => c.severity.text)) :=
    (Counts.perm ((hcs.filter _).map _)).mp (counts_summaryOf ns (cs.filter (listedIn ns)))
  constructor
  · intro h c hc hcluster
    have hlength : (idx.all.filter (listedIn ns)).length = (idx.byNamespace ns).length := by
      rw [← List.length_map (f := fun c : Constraint => c.severity.text), ← hown.total, h.total, List.length_map]
    have hsub : (idx.all.filter (listedIn ns)).Sublist (idx.byNamespace ns) :=
      List.monotone_filter_right idx.all (fun c hc => matches_of_listedIn hc)
    have hmem : c ∈ idx.byNamespace ns := Indexer.mem_byNamespace.mpr ⟨hc, by simp [matchesNamespace, hcluster]⟩
    rw [← hsub.eq_of_length hlength, List.mem_filter] at hmem
    obtain haffected | ⟨hne, -⟩ := mem_namespacesOf.mp (of_decide_eq_true hmem.2)
    · exact haffected
    · exact absurd hcluster hne
  · intro h
    have hsame : idx.byNamespace ns = idx.all.filter (listedIn ns) := by
      refine List.filter_congr (fun c hc => ?_)
      rw [Bool.eq_iff_iff]
      refine ⟨fun hm => ?_, matches_of_listedIn⟩
      rw [listedIn, decide_eq_true_iff, mem_namespacesOf]
      by_cases hcluster : c.ns = ""
      · exact .inl (h c hc hcluster)
      · simp only [matchesNamespace, hcluster, decide_false, Bool.false_or, Bool.or_eq_true, decide_eq_true_iff] at hm
        obtain hown | haffected := hm
        · exact .inr ⟨hcluster, hown.symm⟩
        · exact .inl haffected
    rw [hsame]
    exact hown

end ListNamespaces

section Query
variable [Unicode] [LabelSelectors] [SortSlice] (rb : RemediationBuilder) (level : DetailLevel) (now : String)

theorem severities_handleQuery {ns : String} (hns : ns ≠ "") (includeRemediation : Bool) (idx : Indexer) :
    ∃ q, handleQuery rb level now (some { ns, includeRemediation }) idx = .ok q ∧ q.total = q.constraints.length ∧
      (q.constraints.map ConstraintResult.severity).Perm ((idx.byNamespace ns).map (fun c => c.severity.text)) := by
  have hall : filterConstraints (idx.byNamespace ns) { ns, includeRemediation } = idx.byNamespace ns :=
    List.filter_eq_self.mpr (fun _ _ => rfl)
  refine ⟨_, if_neg hns, (SortSlice.sort_perm _ _).length_eq.symm, ?_⟩
  refine ((SortSlice.sort_perm _ _).map _).trans (.of_eq ?_)
  rw [List.map_map]
  change (filterConstraints (idx.byNamespace ns) { ns, includeRemediation }).map _ = _
  rw [hall]
  refine List.map_congr_left (fun c _ => ?_)
  cases includeRemediation <;> rfl

/-- What a summary says of a namespace is what the query for the namespace says, in total
and of each severity, exactly if there is such a query and every cluster-scoped
constraint names the namespace among those it affects. -/
theorem list_namespaces_agrees_iff (includeRemediation : Bool) (idx : Indexer) {cs : List Constraint}
    (hcs : cs.Perm idx.all) {summary : NamespaceSummary} (h : summary ∈ handleListNamespaces cs) :
    (∃ q, handleQuery rb level now (some { ns := summary.ns, includeRemediation }) idx = .ok q ∧
        summary.total = q.total ∧
        summary.criticalCount = q.constraints.countP (fun r => r.severity = "Critical") ∧
        summary.warningCount = q.constraints.countP (fun r => r.severity = "Warning") ∧
        summary.infoCount = q.constraints.countP (fun r => r.severity = "Info")) ↔
      summary.ns ≠ "" ∧ ∀ c ∈ idx.all, c.ns = "" → summary.ns ∈ c.affectedNamespaces := by
  have hnodup : (cs.map Constraint.uid).Nodup := (hcs.map _).nodup_iff.mpr idx.byUID.nodup_map_key
  obtain ⟨ns, -, rfl⟩ := (mem_handleListNamespaces hnodup).mp h
  rw [ns_summaryOf]
  by_cases hns : ns = ""
  · refine iff_of_false ?_ (fun hc => hc.1 hns)
    rintro ⟨q, hq, -⟩
    rw [handleQuery, if_pos hns] at hq
    cases hq
  · obtain ⟨q, hq, htotal, hperm⟩ := severities_handleQuery rb level now hns includeRemediation idx
    rw [and_iff_right hns, ← counts_byNamespace_iff idx hcs ns, ← Counts.perm hperm]
    constructor
    · rintro ⟨q', hq', htotal', hcritical, hwarning, hinfo⟩
      cases hq.symm.trans hq'
      refine ⟨?_, ?_, ?_, ?_⟩
      · rw [htotal', htotal, List.length_map]
      · rw [hcritical, count_map]
      · rw [hwarning, count_map]
      · rw [hinfo, count_map]
    · rintro ⟨htotal', hcritical, hwarning, hinfo⟩
      rw [List.length_map] at htotal'
      rw [count_map] at hcritical hwarning hinfo
      exact ⟨q, hq, htotal'.trans htotal.symm, hcritical, hwarning, hinfo⟩

end Query

namespace ListNamespaces

def isRanked (c : Constraint) : Bool := decide (severityOrder c.severity.text < 3)

def isWarning (c : Constraint) : Bool := decide (c.severity.text = "Warning")

/-- No Critical constraint of the namespace is passed over: the first that has one of the
three severities is Critical, or none is, or a Critical one has the same name as the first
Warning (as the first of all, if there is no Warning). Where none has one of the three
severities, one has no name. -/
def NonePassedOver (u : List Constraint) : Prop :=
  match u.find? isRanked with
  | none => ∃ c ∈ u, c.name = ""
  | some first => first.severity.text = "Critical" ∨ (∀ c ∈ u, c.severity.text ≠ "Critical") ∨
      ∃ c ∈ u, c.severity.text = "Critical" ∧ c.name = ((u.find? isWarning).getD first).name

theorem severityOrder_eq (s : String) :
    severityOrder s = if s = "Critical" then 0 else if s = "Warning" then 1 else if s = "Info" then 2 else 3 := by
  unfold severityOrder
  split <;> simp_all

theorem severityOrder_le_three (s : String) : severityOrder s ≤ 3 := by
  rw [severityOrder_eq]
  split_ifs <;> omega

theorem severityOrder_critical_le {s : String} (h : s = "Critical") (s' : String) :
    severityOrder s ≤ severityOrder s' := by
  rw [h]
  exact Nat.zero_le _

theorem critical_of_severityOrder_le {s s' : String} (hs' : s' = "Critical")
    (h : severityOrder s ≤ severityOrder s') : s = "Critical" := by
  by_contra hs
  rw [hs', severityOrder_eq s, if_neg hs] at h
  change _ ≤ 0 at h
  split_ifs at h <;> omega

theorem isRanked_iff {c : Constraint} :
    isRanked c = true ↔ c.severity.text = "Critical" ∨ c.severity.text = "Warning" ∨ c.severity.text = "Info" := by
  rw [isRanked, decide_eq_true_iff, severityOrder_eq]
  split_ifs <;> simp_all

theorem foldl_pickTop_settled {top : String × String} (h : top.2 = "Critical" ∨ top.2 = "Warning")
    (u : List Constraint) : u.foldl pickTop top = top := by
  induction u with
  | nil => rfl
  | cons c u ih =>
      have hstep : pickTop top c = top := by
        rw [pickTop]
        obtain h | h := h <;> simp [h]
      rw [List.foldl_cons, hstep, ih]

theorem foldl_pickTop_info {top : String × String} (h : top.2 = "Info") (u : List Constraint) :
    (u.foldl pickTop top).1 = ((u.find? isWarning).map Constraint.name).getD top.1 := by
  induction u with
  | nil => rfl
  | cons c u ih =>
      rw [List.foldl_cons, List.find?_cons]
      by_cases hw : c.severity.text = "Warning"
      · have hstep : pickTop top c = (c.name, "Warning") := by simp [pickTop, hw, h]
        rw [hstep, foldl_pickTop_settled (.inr rfl)]
        simp [isWarning, hw]
      · have hstep : pickTop top c = top := by
          rw [pickTop]
          simp [hw, h]
        rw [hstep, ih]
        simp [isWarning, hw]

theorem foldl_pickTop_start (u : List Constraint) :
    (u.foldl pickTop ("", "")).1 =
      ((u.find? isRanked).map (fun first =>
        if first.severity.text = "Critical" then first.name else ((u.find? isWarning).getD first).name)).getD "" := by
  induction u with
  | nil => rfl
  | cons c u ih =>
      rw [List.foldl_cons, List.find?_cons, List.find?_cons]
      by_cases hr : isRanked c = true
      · rw [hr]
        obtain hc | hc | hc := isRanked_iff.mp hr
        · have hstep : pickTop ("", "") c = (c.name, "Critical") := by simp [pickTop, hc]
          rw [hstep, foldl_pickTop_settled (.inl rfl)]
          simp [hc]
        · have hstep : pickTop ("", "") c = (c.name, "Warning") := by simp [pickTop, hc]
          rw [hstep, foldl_pickTop_settled (.inr rfl)]
          simp [hc, isWarning]
        · have hstep : pickTop ("", "") c = (c.name, "Info") := by simp [pickTop, hc]
          rw [hstep, foldl_pickTop_info rfl]
          cases u.find? isWarning <;> simp [hc, isWarning]
      · have hnot := mt isRanked_iff.mpr hr
        rw [not_or, not_or] at hnot
        obtain ⟨hcritical, hwarning, hinfo⟩ := hnot
        have hstep : pickTop ("", "") c = ("", "") := by simp [pickTop, hcritical, hwarning, hinfo]
        rw [hstep, ih]
        simp [hr, isWarning, hwarning]

theorem picked_le {u : List Constraint} {first : Constraint} (hfirst : u.find? isRanked = some first)
    (hnone : ∀ c ∈ u, c.severity.text ≠ "Critical") :
    (u.find? isWarning).getD first ∈ u ∧
      ∀ c ∈ u, severityOrder ((u.find? isWarning).getD first).severity.text ≤ severityOrder c.severity.text := by
  cases hwarning : u.find? isWarning with
  | some w =>
      have hfound := List.find?_some hwarning
      have hw : w.severity.text = "Warning" := of_decide_eq_true hfound
      refine ⟨List.mem_of_find?_eq_some hwarning, fun c hc => ?_⟩
      rw [Option.getD_some, hw, severityOrder_eq c.severity.text, if_neg (hnone c hc)]
      change 1 ≤ _
      split_ifs <;> omega
  | none =>
      have hmem := List.mem_of_find?_eq_some hfirst
      have hnowarning : ∀ c ∈ u, c.severity.text ≠ "Warning" := by
        intro c hc hw
        exact List.find?_eq_none.mp hwarning c hc (decide_eq_true hw)
      have hinfo : first.severity.text = "Info" := by
        obtain hc | hc | hc := isRanked_iff.mp (List.find?_some hfirst)
        · exact absurd hc (hnone first hmem)
        · exact absurd hc (hnowarning first hmem)
        · exact hc
      refine ⟨hmem, fun c hc => ?_⟩
      rw [Option.getD_none, hinfo, severityOrder_eq c.severity.text, if_neg (hnone c hc), if_neg (hnowarning c hc)]
      change 2 ≤ _
      split_ifs <;> omega

theorem top_most_severe_iff (u : List Constraint) :
    (∃ c ∈ u, c.name = (u.foldl pickTop ("", "")).1 ∧
        ∀ c' ∈ u, severityOrder c.severity.text ≤ severityOrder c'.severity.text) ↔
      NonePassedOver u := by
  rw [foldl_pickTop_start, NonePassedOver]
  cases hfirst : u.find? isRanked with
  | none =>
      have hlow : ∀ c ∈ u, 3 ≤ severityOrder c.severity.text := by
        intro c hc
        exact Nat.le_of_not_lt (fun h => List.find?_eq_none.mp hfirst c hc (decide_eq_true h))
      constructor
      · rintro ⟨c, hc, hname, -⟩
        exact ⟨c, hc, hname⟩
      · rintro ⟨c, hc, hname⟩
        exact ⟨c, hc, hname, fun c' hc' => Nat.le_trans (severityOrder_le_three _) (hlow c' hc')⟩
  | some first =>
      have hmem := List.mem_of_find?_eq_some hfirst
      dsimp only [Option.map_some, Option.getD_some]
      by_cases hcritical : first.severity.text = "Critical"
      · exact iff_of_true ⟨first, hmem, (if_pos hcritical).symm, fun c' _ => severityOrder_critical_le hcritical _⟩
          (.inl hcritical)
      · rw [if_neg hcritical]
        constructor
        · rintro ⟨c, hc, hname, hmax⟩
          refine .inr (or_iff_not_imp_left.mpr fun hsome => ?_)
          push Not at hsome
          obtain ⟨c', hc', hcritical'⟩ := hsome
          exact ⟨c, hc, critical_of_severityOrder_le hcritical' (hmax c' hc'), hname⟩
        · rintro (h | hnone | ⟨c, hc, hc', hname⟩)
          · exact absurd h hcritical
          · obtain ⟨hpicked, hmax⟩ := picked_le hfirst hnone
            exact ⟨_, hpicked, rfl, hmax⟩
          · exact ⟨c, hc, hname, fun c' _ => severityOrder_critical_le hc' _⟩

end ListNamespaces

/-- The top constraint of a summary is one of the most severe of its namespace exactly if
the order in which the index enumerates the constraints passes over no Critical one. -/
theorem top_constraint_iff (idx : Indexer) {cs : List Constraint} (hcs : cs.Perm idx.all) {summary : NamespaceSummary}
    (h : summary ∈ handleListNamespaces cs) :
    (∃ c ∈ cs.filter (listedIn summary.ns), c.name = summary.topConstraint ∧
        ∀ c' ∈ cs.filter (listedIn summary.ns), severityOrder c.severity.text ≤ severityOrder c'.severity.text) ↔
      NonePassedOver (cs.filter (listedIn summary.ns)) := by
  have hnodup : (cs.map Constraint.uid).Nodup := (hcs.map _).nodup_iff.mpr idx.byUID.nodup_map_key
  obtain ⟨ns, -, rfl⟩ := (mem_handleListNamespaces hnodup).mp h
  have htop : (summaryOf ns (cs.filter (listedIn ns))).topConstraint =
      ((cs.filter (listedIn ns)).foldl pickTop ("", "")).1 := congrArg Prod.fst (foldl_tally_top _ _)
  rw [ns_summaryOf, htop]
  exact top_most_severe_iff _

section Samples

attribute [local instance] asciiTables LabelSelectors.model SortSlice.stable

def limit (name ns : String) (affected : List String) (severity : Severity) : Constraint where
  uid := name
  source := ⟨"", "v1", "resourcequotas"⟩
  name := name
  ns := ns
  affectedNamespaces := affected
  constraintType := .resourceLimit
  effect := "limit"
  severity := severity
  summary := ""

def quotaIndex (affected : List String) : Indexer :=
  Indexer.new.applyAll [.upsert (limit "whole-cluster" "" affected .critical),
    .upsert (limit "quota" "team" ["team"] .warning)]

theorem cluster_scoped_not_listed :
    ∃ summary ∈ handleListNamespaces (quotaIndex []).all,
      ¬ ∃ q, handleQuery (.new "") .full "now" (some { ns := summary.ns }) (quotaIndex []) = .ok q ∧
        summary.total = q.total ∧
        summary.criticalCount = q.constraints.countP (fun r => r.severity = "Critical") ∧
        summary.warningCount = q.constraints.countP (fun r => r.severity = "Warning") ∧
        summary.infoCount = q.constraints.countP (fun r => r.severity = "Info") := by
  refine ⟨⟨"team", 1, 0, 1, 0, "quota"⟩, by decide, ?_⟩
  rintro ⟨q, hq, htotal, -⟩
  cases hq
  revert htotal
  decide

theorem named_cluster_scoped_agrees :
    ∃ q, handleQuery (.new "") .full "now" (some { ns := "team" }) (quotaIndex ["team"]) = .ok q ∧ 2 = q.total ∧
      1 = q.constraints.countP (fun r => r.severity = "Critical") ∧
      1 = q.constraints.countP (fun r => r.severity = "Warning") ∧
      0 = q.constraints.countP (fun r => r.severity = "Info") := by
  have hlisted : ⟨"team", 2, 1, 1, 0, "quota"⟩ ∈ handleListNamespaces (quotaIndex ["team"]).all := by decide
  exact (list_namespaces_agrees_iff (.new "") .full "now" false (quotaIndex ["team"]) (.refl _) hlisted).mpr (by decide)

def enumerated (criticalFirst : Bool) : List Constraint :=
  let critical := limit "whole-cluster" "" ["team"] .critical
  let warning := limit "quota" "team" ["team"] .warning
  if criticalFirst then [critical, warning] else [warning, critical]

theorem critical_passed_over :
    (enumerated false).Perm (quotaIndex ["team"]).all ∧
      ∃ summary ∈ handleListNamespaces (enumerated false),
        ¬ ∃ c ∈ (enumerated false).filter (listedIn summary.ns), c.name = summary.topConstraint ∧
          ∀ c' ∈ (enumerated false).filter (listedIn summary.ns),
            severityOrder c.severity.text ≤ severityOrder c'.severity.text :=
  ⟨.refl _, ⟨"team", 2, 1, 1, 0, "quota"⟩, by decide, by decide⟩

theorem critical_enumerated_first :
    ∃ c ∈ (enumerated true).filter (listedIn "team"), c.name = "whole-cluster" ∧
      ∀ c' ∈ (enumerated true).filter (listedIn "team"),
        severityOrder c.severity.text ≤ severityOrder c'.severity.text := by
  have hperm : (enumerated true).Perm (quotaIndex ["team"]).all := .swap _ _ _
  have hlisted : ⟨"team", 2, 1, 1, 0, "whole-cluster"⟩ ∈ handleListNamespaces (enumerated true) := by decide
  exact (top_constraint_iff (quotaIndex ["team"]) hperm hlisted).mpr (.inl rfl)

end Samples

end Nightjar.Mcp
