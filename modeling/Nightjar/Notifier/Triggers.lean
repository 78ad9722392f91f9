import Nightjar.Notifier.ReportReconciler
import Nightjar.Notifier.WorkloadAnnotator

namespace Nightjar.Notifier

/-- The callbacks act on the namespace when the constraint changes: it is named,
or the constraint asks for all namespaces. -/
def Names (c : Constraint) (ns : String) : Prop :=
  ns ∈ constraintNamespaces c ∨ c.ns = "" ∧ c.affectedNamespaces = []

/-- A cluster-scoped constraint that lists the namespaces it affects, without this one. -/
def Omits (c : Constraint) (ns : String) : Prop :=
  c.ns = "" ∧ c.affectedNamespaces ≠ [] ∧ ns ∉ c.affectedNamespaces

theorem names_or_omits {c : Constraint} {ns : String} (h : matchesNamespace c ns = true) :
    Names c ns ∨ Omits c ns := by
  simp only [matchesNamespace, Bool.or_eq_true, decide_eq_true_eq] at h
  rw [Names, Omits, constraintNamespaces]
  grind

section Changes
variable {idx : Indexer} {ns : String}

theorem event_of_changed {m : Mutation} (hdiff : ¬ (idx.byNamespace ns).Perm ((idx.apply m).1.byNamespace ns)) :
    (∃ event ∈ (idx.apply m).2, matchesNamespace event.constraint ns = true) ∨
      ∃ c old, m = .upsert c ∧ idx.byUID.lookup c.uid = some old ∧
        matchesNamespace old ns = true ∧ matchesNamespace c ns = false := by
  by_contra hnone
  rw [not_or] at hnone
  obtain ⟨hevent, hreplace⟩ := hnone
  refine hdiff (Indexer.byNamespace_perm_iff.mpr fun d hd => ?_)
  rw [Indexer.mem_all, Indexer.mem_all]
  cases m with
  | upsert c =>
      have hc : matchesNamespace c ns = false := by
        rw [← Bool.not_eq_true]
        exact fun h => hevent ⟨⟨.upsert, c⟩, List.mem_cons_self, h⟩
      have hlookup := idx.byUID.lookup_upsert c d.uid
      rw [Indexer.apply, Indexer.upsert, hlookup]
      split
      · rename_i huid
        refine iff_of_false (fun hl => hreplace ⟨c, d, rfl, huid ▸ hl, hd, hc⟩) ?_
        rintro ⟨⟩
        rw [hc] at hd
        cases hd
      · rfl
  | delete uid =>
      rw [Indexer.apply, Indexer.byUID_delete]
      split
      · rename_i huid
        refine iff_of_false (fun hl => hevent ?_) (Option.some_ne_none d).symm
        rw [huid] at hl
        exact ⟨⟨.delete, d⟩, by simp [Indexer.apply, Indexer.delete, hl], hd⟩
      · rfl
  | deleteBySource gvr =>
      rw [Indexer.apply, Indexer.lookup_deleteBySource]
      split
      · rename_i hmem
        refine iff_of_false (fun hl => hevent ?_) (Option.some_ne_none d).symm
        obtain ⟨c, hc, huid⟩ := List.mem_map.mp hmem
        have hall : c ∈ idx.all := (List.mem_filter.mp hc).1
        rw [Indexer.mem_all, huid, hl] at hall
        cases hall
        exact ⟨⟨.delete, d⟩, List.mem_map_of_mem hc, hd⟩
      · rfl

end Changes

namespace ReportReconciler

variable {rr : ReportReconciler} {event : IndexEvent} {ns : String}

theorem mem_pending_onIndexChange : ns ∈ (rr.onIndexChange event).pendingTriggers ↔
    ns ∈ rr.pendingTriggers ∨ ns ∈ constraintNamespaces event.constraint := by
  rw [onIndexChange]
  split
  · rename_i h
    simp [List.length_eq_zero_iff.mp h.2]
  · simp

theorem clusterWide_onIndexChange : (rr.onIndexChange event).clusterWideTriggered = true ↔
    rr.clusterWideTriggered = true ∨ event.constraint.ns = "" ∧ event.constraint.affectedNamespaces = [] := by
  rw [onIndexChange]
  split
  · rename_i h
    have hall : event.constraint.affectedNamespaces = [] := by
      simpa [constraintNamespaces, h.1] using h.2
    simp [h.1, hall]
  · rename_i h
    refine (or_iff_left ?_).symm
    rintro ⟨hns, hall⟩
    exact h ⟨hns, by simp [constraintNamespaces, hns, hall]⟩

theorem dynamicClient_onIndexChange : (rr.onIndexChange event).dynamicClient = rr.dynamicClient := by
  rw [onIndexChange]
  split <;> rfl

theorem triggered_onIndexChange :
    ns ∈ (rr.onIndexChange event).pendingTriggers ∨ (rr.onIndexChange event).clusterWideTriggered = true ↔
      (ns ∈ rr.pendingTriggers ∨ rr.clusterWideTriggered = true) ∨ Names event.constraint ns := by
  rw [mem_pending_onIndexChange, clusterWide_onIndexChange, Names]
  tauto

def onIndexChanges (rr : ReportReconciler) (events : List IndexEvent) : ReportReconciler :=
  events.foldl onIndexChange rr

theorem triggered_onIndexChanges {events : List IndexEvent} :
    ns ∈ (rr.onIndexChanges events).pendingTriggers ∨ (rr.onIndexChanges events).clusterWideTriggered = true ↔
      (ns ∈ rr.pendingTriggers ∨ rr.clusterWideTriggered = true) ∨
        ∃ event ∈ events, Names event.constraint ns := by
  induction events generalizing rr with
  | nil => simp [onIndexChanges]
  | cons event events ih =>
      rw [onIndexChanges, List.foldl_cons]
      refine ih.trans ?_
      rw [triggered_onIndexChange, or_assoc, List.exists_mem_cons_iff]

end ReportReconciler

namespace WorkloadAnnotator

theorem queuedUpdates_of_names {c : Constraint} {ns : String} (h : Names c ns) :
    .ofNamespace ns ∈ queuedUpdates c ∨ .clusterWide ∈ queuedUpdates c := by
  unfold Names constraintNamespaces at h
  rw [queuedUpdates]
  simp only [List.mem_append, List.mem_map, Lib.Strings.mem_unique]
  by_cases hall : c.ns = "" ∧ c.affectedNamespaces = []
  · exact .inr (.inr (by simp [hall]))
  · rw [or_iff_left hall, List.mem_append] at h
    left
    by_cases hns : ns ∈ c.affectedNamespaces
    · exact .inl (.inl ⟨ns, hns, rfl⟩)
    · have hown := h.resolve_left hns
      split at hown
      · cases hown
      · rename_i hne
        cases List.mem_singleton.mp hown
        exact .inl (.inr (by simp [hne, hns]))

def onIndexChanges (wa : WorkloadAnnotator) (events : List IndexEvent) : WorkloadAnnotator :=
  events.foldl onIndexChange wa

theorem onIndexChanges_eq (wa : WorkloadAnnotator) (events : List IndexEvent) :
    wa.onIndexChanges events = wa.queueAll (events.flatMap (fun event => queuedUpdates event.constraint)) := by
  induction events generalizing wa with
  | nil => rfl
  | cons event events ih =>
      rw [onIndexChanges, List.foldl_cons, List.flatMap_cons, queueAll, List.foldl_append]
      exact ih (wa.onIndexChange event)

end WorkloadAnnotator

/-- A namespace whose view changes is covered by the callbacks, except where the
changed constraints that match it are cluster-scoped and list other namespaces,
or where a write replaces a constraint that matches it by one that does not. -/
theorem changed_covered (idx : Indexer) (m : Mutation) (ns : String)
    (hdiff : ¬ (idx.byNamespace ns).Perm ((idx.apply m).1.byNamespace ns))
    (rr : ReportReconciler) (wa : WorkloadAnnotator)
    (hroom : wa.pending.length +
      ((idx.apply m).2.flatMap (fun event => queuedUpdates event.constraint)).length ≤ pendingCapacity) :
    ((ns ∈ (rr.onIndexChanges (idx.apply m).2).pendingTriggers ∨
        (rr.onIndexChanges (idx.apply m).2).clusterWideTriggered = true) ∧
      (.ofNamespace ns ∈ (wa.onIndexChanges (idx.apply m).2).pending ∨
        .clusterWide ∈ (wa.onIndexChanges (idx.apply m).2).pending)) ∨
    ((∃ event ∈ (idx.apply m).2, matchesNamespace event.constraint ns = true) ∧
      ∀ event ∈ (idx.apply m).2, matchesNamespace event.constraint ns = true → Omits event.constraint ns) ∨
    ∃ c old, m = .upsert c ∧ idx.byUID.lookup c.uid = some old ∧
      matchesNamespace old ns = true ∧ matchesNamespace c ns = false := by
  by_cases hnamed : ∃ event ∈ (idx.apply m).2, Names event.constraint ns
  · left
    obtain ⟨event, he, hn⟩ := id hnamed
    refine ⟨ReportReconciler.triggered_onIndexChanges.mpr (.inr hnamed), ?_⟩
    rw [WorkloadAnnotator.onIndexChanges_eq, WorkloadAnnotator.pending_queueAll hroom]
    have hsent {u : WorkloadKey} (hu : u ∈ queuedUpdates event.constraint) : u ∈ wa.pending ++
        (idx.apply m).2.flatMap (fun event => queuedUpdates event.constraint) :=
      List.mem_append_right _ (List.mem_flatMap.mpr ⟨event, he, hu⟩)
    exact (WorkloadAnnotator.queuedUpdates_of_names hn).imp hsent hsent
  · right
    rcases event_of_changed hdiff with hmatched | hreplaced
    · refine .inl ⟨hmatched, ?_⟩
      intro event he hmatch
      exact (names_or_omits hmatch).resolve_left (fun hn => hnamed ⟨event, he, hn⟩)
    · exact .inr hreplaced

def sampleConstraint (ns : String) : Constraint where
  uid := "u"
  source := ⟨"constraints.gatekeeper.sh", "v1beta1", "k8srequiredlabels"⟩
  name := "sample"
  ns := ns
  affectedNamespaces := ["team"]
  constraintType := .admission
  effect := "deny"
  severity := .critical
  summary := ""

theorem byNamespace_sampleConstraint (scope ns : String) (h : matchesNamespace (sampleConstraint scope) ns = true) :
    ¬ (Indexer.new.byNamespace ns).Perm ((Indexer.new.apply (.upsert (sampleConstraint scope))).1.byNamespace ns) := by
  rw [Indexer.byNamespace_perm_iff]
  intro hsame
  have hmem : sampleConstraint scope ∈ (Indexer.new.apply (.upsert (sampleConstraint scope))).1.all :=
    List.mem_cons_self
  exact absurd ((hsame _ h).mpr hmem) (by simp)

theorem changed_covered_team :
    ((("team" ∈ ((ReportReconciler.new 0 true).onIndexChanges
            (Indexer.new.apply (.upsert (sampleConstraint "team"))).2).pendingTriggers ∨
          ((ReportReconciler.new 0 true).onIndexChanges
            (Indexer.new.apply (.upsert (sampleConstraint "team"))).2).clusterWideTriggered = true) ∧
        (.ofNamespace "team" ∈ ((WorkloadAnnotator.new 0).onIndexChanges
            (Indexer.new.apply (.upsert (sampleConstraint "team"))).2).pending ∨
          .clusterWide ∈ ((WorkloadAnnotator.new 0).onIndexChanges
            (Indexer.new.apply (.upsert (sampleConstraint "team"))).2).pending)) ∨
      ((∃ event ∈ (Indexer.new.apply (.upsert (sampleConstraint "team"))).2,
          matchesNamespace event.constraint "team" = true) ∧
        ∀ event ∈ (Indexer.new.apply (.upsert (sampleConstraint "team"))).2,
          matchesNamespace event.constraint "team" = true → Omits event.constraint "team") ∨
      ∃ c old, Mutation.upsert (sampleConstraint "team") = .upsert c ∧
        Indexer.new.byUID.lookup c.uid = some old ∧
        matchesNamespace old "team" = true ∧ matchesNamespace c "team" = false) :=
  changed_covered .new (.upsert (sampleConstraint "team")) "team"
    (byNamespace_sampleConstraint "team" "team" (by decide)) (.new 0 true) (.new 0) (by decide)

theorem listed_namespaces_not_covered :
    ¬ (Indexer.new.byNamespace "other").Perm
        ((Indexer.new.apply (.upsert (sampleConstraint ""))).1.byNamespace "other") ∧
    ¬ ("other" ∈ ((ReportReconciler.new 0 true).onIndexChanges
          (Indexer.new.apply (.upsert (sampleConstraint ""))).2).pendingTriggers ∨
        ((ReportReconciler.new 0 true).onIndexChanges
          (Indexer.new.apply (.upsert (sampleConstraint ""))).2).clusterWideTriggered = true) ∧
    ¬ (.ofNamespace "other" ∈ ((WorkloadAnnotator.new 0).onIndexChanges
          (Indexer.new.apply (.upsert (sampleConstraint ""))).2).pending ∨
        .clusterWide ∈ ((WorkloadAnnotator.new 0).onIndexChanges
          (Indexer.new.apply (.upsert (sampleConstraint ""))).2).pending) :=
  ⟨byNamespace_sampleConstraint "" "other" (by decide), by decide, by decide⟩

end Nightjar.Notifier
