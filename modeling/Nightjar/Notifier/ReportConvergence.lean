import Nightjar.Discovery.Mirror
import Nightjar.Mcp.Handlers
import Nightjar.Notifier.StoredReports

namespace Nightjar.Notifier

open Lib

theorem constraint_of_event {idx : Indexer} {m : Mutation} {event : IndexEvent} (h : event ∈ (idx.apply m).2) :
    m = .upsert event.constraint ∨ event.constraint ∈ idx.all := by
  cases m with
  | upsert c =>
      rw [List.mem_singleton.mp h]
      exact .inl rfl
  | delete uid =>
      rw [Indexer.apply, Indexer.delete] at h
      split at h
      · cases h
      · rename_i c hc
        rw [List.mem_singleton.mp h, Indexer.mem_all, KeyedStore.key_of_lookup hc]
        exact .inr hc
  | deleteBySource gvr =>
      obtain ⟨c, hc, rfl⟩ := List.mem_map.mp h
      exact .inr (Indexer.mem_bySourceGVR.mp hc).1

theorem filter_byNamespace (idx : Indexer) (g : GVR) (ns : String) :
    (idx.byNamespace ns).filter (fun c => c.source = g) = (idx.bySourceGVR g).filter (matchesNamespace · ns) := by
  rw [Indexer.byNamespace, Indexer.bySourceGVR, List.filter_filter, List.filter_filter]
  exact List.filter_congr fun c _ => Bool.and_comm ..

namespace IndexLog

variable {s : IndexLog} {ns : String}

/-- No write puts a constraint that does not match the namespace in the place of one that does. -/
def Stays (s : IndexLog) (ns : String) : Prop :=
  ∀ k c old, s.log[k]? = some (.upsert c) → (s.atTime k).byUID.lookup c.uid = some old →
    matchesNamespace old ns = true → matchesNamespace c ns = true

theorem view_step (hstays : s.Stays ns) {k : Nat} (hk : k < s.now)
    (hquiet : ∀ event, s.Emitted (k + 1) event → matchesNamespace event.constraint ns = false) :
    ((s.atTime k).byNamespace ns).Perm ((s.atTime (k + 1)).byNamespace ns) := by
  have hm : s.log[k]? = some s.log[k] := List.getElem?_eq_getElem hk
  rw [atTime_succ hm]
  by_contra hdiff
  rcases event_of_changed hdiff with ⟨event, hevent, hmatch⟩ | ⟨c, old, hc, hold, hmatch, hnot⟩
  · rw [hquiet event ⟨k, _, rfl, hm, hevent⟩] at hmatch
    cases hmatch
  · rw [hstays k c old (hc ▸ hm) hold hmatch] at hnot
    cases hnot

theorem written_of_emitted {n : Nat} {event : IndexEvent} (he : s.Emitted n event) :
    event.constraint ∈ s.start.all ∨ .upsert event.constraint ∈ s.log := by
  have hwritten (k : Nat) {c : Constraint} (hc : c ∈ (s.atTime k).all) : c ∈ s.start.all ∨ .upsert c ∈ s.log := by
    induction k with
    | zero => exact .inl hc
    | succ k ih =>
        cases hm : s.log[k]? with
        | none =>
            have hlast : s.log.take (k + 1) = s.log.take k := by rw [List.take_add_one, hm]; exact List.append_nil _
            rw [atTime, hlast] at hc
            exact ih hc
        | some m =>
            rw [atTime_succ hm] at hc
            rcases Indexer.mem_all_of_mem_apply hc with hc | rfl
            · exact ih hc
            · exact .inr (List.mem_of_getElem? hm)
  obtain ⟨k, m, rfl, hm, hevent⟩ := he
  rcases constraint_of_event hevent with rfl | hmem
  · exact .inr (List.mem_of_getElem? hm)
  · exact hwritten k hmem

theorem view_since (hstays : s.Stays ns) {n : Nat} (hn : n ≤ s.now)
    (hquiet : ∀ k event, n < k → s.Emitted k event → matchesNamespace event.constraint ns = false) :
    ((s.atTime n).byNamespace ns).Perm (s.current.byNamespace ns) := by
  have hall : ∀ k, n + k ≤ s.now → ((s.atTime n).byNamespace ns).Perm ((s.atTime (n + k)).byNamespace ns) := by
    intro k
    induction k with
    | zero => exact fun _ => List.Perm.refl _
    | succ k ih =>
        intro hk
        refine (ih (Nat.le_of_succ_le hk)).trans (view_step hstays hk fun event he => ?_)
        exact hquiet _ event (Nat.lt_succ_of_le (Nat.le_add_right n k)) he
  have hlast := hall (s.now - n)
  rw [Nat.add_sub_cancel' hn] at hlast
  exact hlast (Nat.le_refl _)

end IndexLog

namespace ReportWorld

variable {w : ReportWorld} {ns : String}

/-- What the events say of the namespace reaches it: they do not list other namespaces in its place,
and those for all namespaces find it in the last listing. -/
structure Announces (w : ReportWorld) (ns : String) : Prop where
  omits : ∀ n event, w.index.Emitted n event → ¬ Omits event.constraint ns
  listed : ∀ n event, w.index.Emitted n event → event.constraint.ns = "" →
    event.constraint.affectedNamespaces = [] → w.Listed ns

theorem announces_of_namespaced (h : ∀ n event, w.index.Emitted n event → event.constraint.ns ≠ "") :
    w.Announces ns :=
  ⟨fun n event he homits => h n event he homits.1, fun n event he hcluster => absurd hcluster (h n event he)⟩

theorem Announces.asks (h : w.Announces ns) {n : Nat} {event : IndexEvent} (he : w.index.Emitted n event)
    (hmatch : matchesNamespace event.constraint ns = true) : w.Asks event ns := by
  rcases (names_or_omits hmatch).resolve_right (h.omits n event he) with hnamed | ⟨hcluster, hall⟩
  · exact .inl hnamed
  · exact .inr ⟨⟨hcluster, hall⟩, h.listed n event he hcluster hall⟩

theorem reported_of_asks (h : system.Reachable w) (hq : Quiescent w) {n : Nat} {event : IndexEvent}
    (he : w.index.Emitted n event) (hasks : w.Asks event ns) :
    ∃ report, w.reports ns = some report ∧ n ≤ report.after := by
  have ha := accounted_of_reachable h
  have hran : (n, event) ∈ w.index.ran := by
    refine (ha.shown.tracked.emitted he).resolve_left ?_
    simp [hq.callbacks]
  apply hq.reported
  rcases hasks with hnamed | ⟨⟨hcluster, hall⟩, items, hitems, hns⟩
  · exact ha.named hran ns hnamed
  · rcases ha.clusterWide hran hcluster hall with hpending | ⟨items', hitems', hheld⟩
    · simp [ListPending, hq.clusterWide, hq.phase] at hpending
    · cases hitems.symm.trans hitems'
      exact hheld ns hns

section Settled
variable (h : system.Reachable w) (hq : Quiescent w) (hstays : w.index.Stays ns) (hannounces : w.Announces ns)
include h hq hannounces

theorem quiet_after {after : Nat} (hafter : ∀ report, w.reports ns = some report → report.after = after) (k : Nat)
    (event : IndexEvent) (hk : after < k) (he : w.index.Emitted k event) :
    matchesNamespace event.constraint ns = false := by
  rw [← Bool.not_eq_true]
  intro hmatch
  obtain ⟨report, hreport, hle⟩ := reported_of_asks h hq he (hannounces.asks he hmatch)
  rw [hafter report hreport] at hle
  exact absurd hk (Nat.not_lt.mpr hle)

include hstays

theorem report_current {report : Snapshot} (hreport : w.reports ns = some report) :
    report.constraints.Perm (w.index.current.byNamespace ns) := by
  obtain ⟨hle, hshown⟩ := (accounted_of_reachable h).shown.reports hreport
  rw [hshown]
  refine IndexLog.view_since hstays hle (quiet_after h hq hannounces fun report' hreport' => ?_)
  cases hreport.symm.trans hreport'
  rfl

theorem view_of_no_report (hnone : w.reports ns = none) :
    (w.index.start.byNamespace ns).Perm (w.index.current.byNamespace ns) := by
  refine IndexLog.view_since hstays (Nat.zero_le _) (quiet_after h hq hannounces fun report hreport => ?_)
  rw [hnone] at hreport
  cases hreport

end Settled

end ReportWorld

namespace StoredWorld

open Lib.Strings

variable [Unicode] [Apimachinery] [SortSlice] {opts : ReportReconcilerOptions} {start : ReportStore} {w : StoredWorld}
  {ns : String}

/-- Every request has succeeded, nothing is pending, the changes of the namespace's constraints have been
announced to it, and its report has been written. -/
structure Settled (opts : ReportReconcilerOptions) (start : ReportStore) (w : StoredWorld) (ns : String) : Prop where
  reaches : (system opts start).Reaches (Served opts) w
  quiescent : w.world.Quiescent
  stays : w.world.index.Stays ns
  announces : w.world.Announces ns
  written : (w.world.reports ns).isSome = true

/-- The report was not there at the start, and its status has never been stored. -/
def OnlyCreated (start : ReportStore) (w : StoredWorld) (ns : String) : Prop :=
  start.lookup ns = none ∧ ∃ report, w.store.lookup ns = some report ∧ report.status = none

theorem Settled.reflects (h : Settled opts start w ns) :
    OnlyCreated start w ns ∨ ∃ workloads, w.store.Reflects w.world.index.current opts workloads ns := by
  obtain ⟨snap, hsnap⟩ := Option.isSome_iff_exists.mp h.written
  have hlinked := linked_of_reaches h.reaches
  obtain ⟨report, hreport, ⟨hnone, hnew⟩ | ⟨workloads, now, listing, hperm, hstatus⟩⟩ := hlinked.written ns snap hsnap
  · exact .inl ⟨hnew, report, hreport, hnone⟩
  · have hcurrent := ReportWorld.report_current hlinked.reachable h.quiescent h.stays h.announces hsnap
    exact .inr ⟨workloads, report, now, listing, hreport, hperm.trans hcurrent, hstatus⟩

end StoredWorld

section Agreement

open Mcp ReportStatus Lib.Strings

variable [Unicode]

end Agreement

section Cluster

open Adapters Discovery Lib.Strings Apimachinery

variable {α : Type} [Adapter α] [Apimachinery] [Unicode] {g : GVR}

/-- The mutation that an event of the GVR, or another source, makes. -/
def mutationOf : Happening α g → Mutation
  | .event _ (.added obj) | .event _ (.updated obj) => .upsert (Generic.genericConstraint obj g)
  | .event _ (.deleted obj) | .event _ (.tombstone obj) => .delete (getUID obj)
  | .other m => m

theorem mutations_eq (h : Happening α g) : h.mutations = [mutationOf h] := by
  cases h with
  | event path ev =>
      rw [Happening.mutations, path.handle_eq]
      cases ev <;> rfl
  | other m => rfl

theorem flatMap_mutations (hs : List (Happening α g)) : hs.flatMap Happening.mutations = hs.map mutationOf := by
  rw [List.map_eq_flatMap]
  exact List.flatMap_congr fun h _ => mutations_eq h

theorem follow_eq (idx : Indexer) (hs : List (Happening α g)) :
    Happening.follow idx hs = idx.applyAll (hs.map mutationOf) := by
  induction hs generalizing idx with
  | nil => rfl
  | cons h hs ih =>
      rw [Happening.follow, List.foldl_cons, mutations_eq]
      exact ih _

omit [Unicode] in
theorem lookup_observe {live : Cluster} {ev : InformerEvent} {uid : UID} {obj : Unstructured}
    (h : (live.observe ev).lookup uid = some obj) : live.lookup uid = some obj ∨ ev.object = obj := by
  cases ev with
  | added obj' | updated obj' =>
      rw [Cluster.observe, KeyedStore.lookup_upsert] at h
      split at h
      · exact .inr (Option.some.inj h)
      · exact .inl h
  | deleted obj' | tombstone obj' =>
      rw [Cluster.observe, KeyedStore.lookup_delete] at h
      split at h
      · cases h
      · exact .inl h

omit [Adapter α] [Unicode] in
theorem event_of_cluster {hs : List (Happening α g)} {uid : UID} {obj : Unstructured}
    (h : (Happening.cluster hs).lookup uid = some obj) : ∃ path ev, .event path ev ∈ hs ∧ ev.object = obj := by
  induction hs using List.reverseRecOn with
  | nil =>
      rw [Happening.cluster, List.foldl_nil, KeyedStore.lookup_empty] at h
      cases h
  | append_singleton hs hap ih =>
      rw [Happening.cluster, List.foldl_append] at h
      have hbefore (hl : (Happening.cluster hs).lookup uid = some obj) :
          ∃ path ev, .event path ev ∈ hs ++ [hap] ∧ ev.object = obj := by
        obtain ⟨path, ev, hev, hobj⟩ := ih hl
        exact ⟨path, ev, List.mem_append_left _ hev, hobj⟩
      cases hap with
      | other m => exact hbefore h
      | event path ev =>
          rcases lookup_observe h with hl | hobj
          · exact hbefore hl
          · exact ⟨path, ev, List.mem_append_right _ (List.mem_singleton_self _), hobj⟩

def NamespacesFixed (hs : List (Happening α g)) : Prop :=
  ∀ path ev path' ev', .event path ev ∈ hs → .event path' ev' ∈ hs → getUID ev.object = getUID ev'.object →
    getNamespace ev.object = getNamespace ev'.object

theorem matchesNamespace_generic (obj : Unstructured) (g : GVR) (ns : String) :
    matchesNamespace (Generic.genericConstraint obj g) ns =
      (decide (getNamespace obj = "") || decide (getNamespace obj = ns)) := by
  by_cases hcluster : getNamespace obj = "" <;>
    simp [matchesNamespace, Generic.genericConstraint, hcluster, eq_comm]

theorem not_omits_generic (obj : Unstructured) (ns : String) : ¬ Omits (Generic.genericConstraint obj g) ns := by
  rintro ⟨hcluster, haffected, -⟩
  have hns : getNamespace obj = "" := hcluster
  simp [Generic.genericConstraint, hns] at haffected

/-- The mutations of the index are those that the informer of the GVR makes by the generic path, and
those of other sources. -/
structure Watched (index : IndexLog) (mine : UID → Prop) (hs : List (Happening α g)) : Prop where
  log : index.log = hs.flatMap Happening.mutations
  start : ∀ c ∈ index.start.all, c.source ≠ g ∧ ¬ mine c.uid
  admissible : ∀ h ∈ hs, h.Admissible mine
  fixed : NamespacesFixed hs

namespace Watched

variable {index : IndexLog} {mine : UID → Prop} {hs : List (Happening α g)} {ns : String}

theorem mutation_at (hw : Watched index mine hs) (k : Nat) : index.log[k]? = (hs[k]?).map mutationOf := by
  rw [hw.log, flatMap_mutations, List.getElem?_map]

theorem atTime_eq (hw : Watched index mine hs) (k : Nat) :
    index.atTime k = Happening.follow index.start (hs.take k) := by
  rw [IndexLog.atTime, hw.log, flatMap_mutations, ← List.map_take, follow_eq]

theorem mirrors (hw : Watched index mine hs) (k : Nat) : Mirrors g mine (index.atTime k)
    (Happening.cluster (hs.take k)) (index.start.applyAll (Happening.others (hs.take k))) := by
  rw [hw.atTime_eq]
  exact Mirrors.run hw.start fun h hh => hw.admissible h (List.mem_of_mem_take hh)

theorem event_of_mem (hw : Watched index mine hs) {k : Nat} {c : Constraint} (hc : c ∈ (index.atTime k).all)
    (hsource : c.source = g) : ∃ path ev, .event path ev ∈ hs ∧ c = Generic.genericConstraint ev.object g := by
  have hmem := (hw.mirrors k).bySourceGVR_perm.mem_iff.mp (Indexer.mem_bySourceGVR.mpr ⟨hc, hsource⟩)
  obtain ⟨obj, hobj, rfl⟩ := List.mem_map.mp hmem
  obtain ⟨path, ev, hev, rfl⟩ := event_of_cluster (KeyedStore.mem_values.mp hobj)
  exact ⟨path, ev, List.mem_of_mem_take hev, rfl⟩

theorem event_of_upsert (hw : Watched index mine hs) {k : Nat} {c : Constraint}
    (hm : index.log[k]? = some (.upsert c)) (hsource : c.source = g) :
    ∃ path ev, .event path ev ∈ hs ∧ c = Generic.genericConstraint ev.object g := by
  rw [hw.mutation_at] at hm
  obtain ⟨h, hk, hmutation⟩ := Option.map_eq_some_iff.mp hm
  have hmem := List.mem_of_getElem? hk
  cases h with
  | other m =>
      have hforeign : Foreign g mine m := hw.admissible _ hmem
      rw [show m = .upsert c from hmutation] at hforeign
      exact absurd hsource hforeign.1
  | event path ev =>
      cases ev with
      | added obj | updated obj =>
          cases hmutation
          exact ⟨path, _, hmem, rfl⟩
      | deleted obj | tombstone obj => cases hmutation

theorem stays (hw : Watched index mine hs)
    (hothers : ∀ k c old, index.log[k]? = some (.upsert c) → c.source ≠ g →
      (index.atTime k).byUID.lookup c.uid = some old → matchesNamespace old ns = true → matchesNamespace c ns = true) :
    index.Stays ns := by
  intro k c old hm hold hmatch
  by_cases hsource : c.source = g
  · obtain ⟨path, ev, hev, rfl⟩ := hw.event_of_upsert hm hsource
    have hmine : mine (getUID ev.object) := hw.admissible _ hev
    have hlookup := (hw.mirrors k).lookup (getUID ev.object)
    rw [(hw.mirrors k).lookup_rest hmine, Option.or_none] at hlookup
    obtain ⟨obj, hobj, rfl⟩ := Option.map_eq_some_iff.mp (hlookup.symm.trans hold)
    obtain ⟨path', ev', hev', rfl⟩ := event_of_cluster hobj
    have hns := hw.fixed path' ev' path ev (List.mem_of_mem_take hev') hev (KeyedStore.key_of_lookup hobj)
    rw [matchesNamespace_generic, hns, ← matchesNamespace_generic ev.object g] at hmatch
    exact hmatch
  · exact hothers k c old hm hsource hold hmatch

theorem not_omits (hw : Watched index mine hs)
    (hothers : ∀ n event, index.Emitted n event → event.constraint.source ≠ g → ¬ Omits event.constraint ns)
    (n : Nat) (event : IndexEvent) (he : index.Emitted n event) : ¬ Omits event.constraint ns := by
  by_cases hsource : event.constraint.source = g
  · obtain ⟨k, m, rfl, hm, hevent⟩ := id he
    rcases constraint_of_event hevent with rfl | hmem
    · obtain ⟨_, ev, _, hc⟩ := hw.event_of_upsert hm hsource
      rw [hc]
      exact not_omits_generic ev.object ns
    · obtain ⟨_, ev, _, hc⟩ := hw.event_of_mem hmem hsource
      rw [hc]
      exact not_omits_generic ev.object ns
  · exact hothers n event he hsource

end Watched

section Stored
variable [SortSlice] {opts : ReportReconcilerOptions} {start : ReportStore}

omit [SortSlice] in
theorem Watched.byNamespace_perm {index : IndexLog} {mine : UID → Prop} {hs : List (Happening α g)}
    (hw : Watched index mine hs) (ns : String) : ((index.current.byNamespace ns).filter (fun c => c.source = g)).Perm
      (((Happening.cluster hs).values.filter (fun obj => getNamespace obj = "" ∨ getNamespace obj = ns)).map
        (Generic.genericConstraint · g)) := by
  have hlog : hs.take index.now = hs := by
    rw [IndexLog.now, hw.log, flatMap_mutations, List.length_map, List.take_length]
  have hmirrors := (hw.mirrors index.now).bySourceGVR_perm
  rw [hlog] at hmirrors
  rw [filter_byNamespace]
  refine (hmirrors.filter _).trans (.of_eq ?_)
  rw [List.filter_map]
  congr 1
  refine List.filter_congr fun obj _ => ?_
  rw [Function.comp_apply, matchesNamespace_generic, Bool.decide_or]

/-- From the cluster to the reports: once nothing is pending, the constraints of the GVR in the stored
report of a namespace, unless it has only been created, are one for each live object of the namespace or
of no namespace, parsed from its latest version. Where no report has been written there is no such
object. -/
theorem reports_mirror_cluster {w : StoredWorld}
    (h : (StoredWorld.system opts start).Reaches (StoredWorld.Served opts) w) (hq : w.world.Quiescent)
    {mine : UID → Prop} {hs : List (Happening α g)} (hw : Watched w.world.index mine hs) {ns : String}
    (hstays : ∀ k c old, w.world.index.log[k]? = some (.upsert c) → c.source ≠ g →
      (w.world.index.atTime k).byUID.lookup c.uid = some old → matchesNamespace old ns = true →
        matchesNamespace c ns = true)
    (homits : ∀ n event, w.world.index.Emitted n event → event.constraint.source ≠ g → ¬ Omits event.constraint ns)
    (hlisted : ∀ n event, w.world.index.Emitted n event → event.constraint.ns = "" →
      event.constraint.affectedNamespaces = [] → w.world.Listed ns) :
    let objects := (Happening.cluster hs).values.filter (fun obj => getNamespace obj = "" ∨ getNamespace obj = ns)
    (w.world.reports ns = none ∧ objects = []) ∨ w.OnlyCreated start ns ∨
      ∃ report workloads now listing, w.store.lookup ns = some report ∧
        report.status = some (ReportStatus.buildReportStatus opts workloads ns now listing) ∧
        (listing.filter (fun c => c.source = g)).Perm (objects.map (Generic.genericConstraint · g)) := by
  have hannounces : w.world.Announces ns := ⟨hw.not_omits homits, hlisted⟩
  have hobjects := hw.byNamespace_perm ns
  cases hr : w.world.reports ns with
  | some snap =>
      have hsettled : w.Settled opts start ns :=
        ⟨h, hq, hw.stays hstays, hannounces, Option.isSome_iff_exists.mpr ⟨_, hr⟩⟩
      refine .inr (hsettled.reflects.imp_right ?_)
      rintro ⟨workloads, report, now, listing, hreport, hperm, hstatus⟩
      exact ⟨report, workloads, now, listing, hreport, hstatus, (hperm.filter _).trans hobjects⟩
  | none =>
      have hstart : (w.world.index.start.byNamespace ns).filter (fun c => c.source = g) = [] := by
        rw [List.filter_eq_nil_iff]
        intro c hc hsource
        exact (hw.start c (Indexer.mem_byNamespace.mp hc).1).1 (of_decide_eq_true hsource)
      have hsame := ReportWorld.view_of_no_report (StoredWorld.linked_of_reaches h).reachable hq (hw.stays hstays)
        hannounces hr
      have hnone := (List.Perm.of_eq hstart).symm.trans ((hsame.filter _).trans hobjects)
      exact .inl ⟨rfl, List.map_eq_nil_iff.mp (List.nil_perm.mp hnone)⟩

end Stored

end Cluster

section Sample

open Adapters Discovery Lib.Strings Apimachinery

attribute [local instance] Apimachinery.model asciiTables SortSlice.stable

theorem index_stays_reported : ReportWorld.reported.index.Stays "team" := by
  intro k c old hm hold hmatch
  have hmem := List.mem_of_getElem? hm
  cases List.mem_singleton.mp (show _ ∈ [Mutation.upsert (sampleConstraint "team")] from hmem)
  decide

theorem announces_reported : ReportWorld.reported.Announces "team" := by
  refine ReportWorld.announces_of_namespaced fun n event he => ?_
  rcases IndexLog.written_of_emitted he with hstart | hlog
  · cases hstart
  · cases event
    cases List.mem_singleton.mp (show _ ∈ [Mutation.upsert (sampleConstraint "team")] from hlog)
    exact show "team" ≠ "" by decide

theorem reaches_answered {start : ReportStore} {ls : List StoredLabel} {w : StoredWorld}
    (hrun : System.exec (StoredWorld.next {}) (StoredWorld.served {}) ⟨ReportWorld.started, start⟩ ls = some w) :
    (StoredWorld.system {} start).Reaches (StoredWorld.Served {}) w := by
  have hinit : (StoredWorld.system {} start).init ⟨ReportWorld.started, start⟩ := ⟨ReportWorld.initial_started, rfl⟩
  exact (System.Reaches.init hinit).exec (fun _ _ h => h) hrun

def teamStart : ReportStore := AList.insert "team" ⟨"1", none⟩ ∅

def teamCall (get : GetAnswer) (version : String) : ReconcileCall :=
  { now := "t", get := get, answer := ⟨none, version⟩ }

def teamStore : ReportStore :=
  (StoredWorld.request {} teamStart "team" [sampleConstraint "team"] (teamCall (.found "1") "2")).2

def storedTeam : StoredWorld := ⟨ReportWorld.reported, teamStore⟩

def answering : List ReportLabel → List ReconcileCall → List StoredLabel
  | .write :: ls, call :: calls => .reconcile call :: answering ls calls
  | l :: ls, calls => .own l :: answering ls calls
  | [], _ => []

theorem settled_storedTeam : storedTeam.Settled {} teamStart "team" where
  reaches := by
    have hrun : System.exec (StoredWorld.next {}) (StoredWorld.served {}) ⟨ReportWorld.started, teamStart⟩
        (answering ReportWorld.oneReport [teamCall (.found "1") "2"]) = some storedTeam := rfl
    exact reaches_answered hrun
  quiescent := ⟨rfl, by decide, by decide, rfl⟩
  stays := index_stays_reported
  announces := announces_reported
  written := by decide

def teamLimit (uid name : String) : Unstructured :=
  ⟨[("metadata", .map [("name", .str name), ("namespace", .str "team"), ("uid", .str uid)])]⟩

def teamHistory : List (Happening Builtin limitsGVR) :=
  [.event limitsPath (.added (teamLimit "a" "cpu")), .event limitsPath (.added (teamLimit "b" "memory")),
    .event limitsPath (.updated (teamLimit "a" "gpu")), .event limitsPath (.tombstone (teamLimit "b" "memory"))]

def teamLabels : List ReportLabel :=
  [.mutate (.upsert (Generic.genericConstraint (teamLimit "a" "cpu") limitsGVR)), .callback 0, .take, .skipList,
    .check "team" 0, .read, .mutate (.upsert (Generic.genericConstraint (teamLimit "b" "memory") limitsGVR)), .write,
    .stamp 0, .finish, .callback 0, .mutate (.upsert (Generic.genericConstraint (teamLimit "a" "gpu") limitsGVR)),
    .mutate (.delete "b"), .callback 1, .callback 0, .take, .skipList, .check "team" 60000000000, .read,
    .write, .stamp 60000000000, .finish]

theorem teamLabels_run :
    (System.exec (StoredWorld.next {}) (StoredWorld.served {}) ⟨ReportWorld.started, ∅⟩
      (answering teamLabels [teamCall .notFound "1", teamCall (.found "1") "2"])).isSome = true := by decide +kernel

def teamReported : StoredWorld :=
  (System.exec (StoredWorld.next {}) (StoredWorld.served {}) ⟨ReportWorld.started, ∅⟩
    (answering teamLabels [teamCall .notFound "1", teamCall (.found "1") "2"])).get teamLabels_run

theorem watched_teamReported : Watched teamReported.world.index (· ∈ ["a", "b"]) teamHistory where
  log := by
    rw [flatMap_mutations]
    rfl
  start _ hc := by cases hc
  admissible := by decide
  fixed path ev path' ev' h h' _ := by
    have hteam {path : GenericPath Builtin limitsGVR} {ev : InformerEvent} (h : .event path ev ∈ teamHistory) :
        getNamespace ev.object = "team" := by
      simp only [teamHistory, List.mem_cons, List.not_mem_nil, or_false] at h
      rcases h with h | h | h | h <;> cases h <;> rfl
    rw [hteam h, hteam h']

theorem reports_mirror_cluster_team :
    (Happening.cluster teamHistory).values.map getName = ["gpu"] ∧
      ∃ report workloads now listing, teamReported.store.lookup "team" = some report ∧
        report.status = some (ReportStatus.buildReportStatus {} workloads "team" now listing) ∧
        (listing.filter (fun c => c.source = limitsGVR)).Perm
          (((Happening.cluster teamHistory).values.filter
            (fun obj => getNamespace obj = "" ∨ getNamespace obj = "team")).map
            (Generic.genericConstraint · limitsGVR)) := by
  have hwritten (m : Mutation) (hm : m ∈ teamReported.world.index.log) (c : Constraint) (hc : m = .upsert c) :
      c.source = limitsGVR ∧ c.ns ≠ "" := by
    have hlog : teamReported.world.index.log = teamHistory.map mutationOf := rfl
    subst hc
    simp only [hlog, teamHistory, List.map_cons, List.map_nil, mutationOf, List.mem_cons, List.not_mem_nil,
      or_false, reduceCtorEq] at hm
    rcases hm with hm | hm | hm <;> cases hm <;> exact ⟨rfl, by decide⟩
  have hemitted {n : Nat} {event : IndexEvent} (he : teamReported.world.index.Emitted n event) :
      event.constraint.source = limitsGVR ∧ event.constraint.ns ≠ "" := by
    rcases IndexLog.written_of_emitted he with hstart | hlog
    · cases hstart
    · exact hwritten _ hlog _ rfl
  have hreaches : (StoredWorld.system {} ∅).Reaches (StoredWorld.Served {}) teamReported :=
    reaches_answered (Option.some_get teamLabels_run).symm
  have hquiescent : teamReported.world.Quiescent := ⟨rfl, by decide +kernel, by decide +kernel, rfl⟩
  have hlisted (n : Nat) (event : IndexEvent) (he : teamReported.world.index.Emitted n event)
      (hcluster : event.constraint.ns = "") (_ : event.constraint.affectedNamespaces = []) :
      teamReported.world.Listed "team" := absurd hcluster (hemitted he).2
  have hmirrors := reports_mirror_cluster hreaches hquiescent watched_teamReported
    (fun k c old hm hsource => absurd (hwritten _ (List.mem_of_getElem? hm) c rfl).1 hsource)
    (fun n event he hsource => absurd (hemitted he).1 hsource) hlisted
  have hstored : ((teamReported.store.lookup "team").bind StoredReport.status).isSome = true := by decide +kernel
  refine ⟨by decide, ?_⟩
  rcases hmirrors with ⟨hnone, -⟩ | ⟨-, report, hreport, hstatus⟩ | hmirrors
  · exact absurd hnone (by decide +kernel)
  · rw [hreport, Option.bind_some, hstatus] at hstored
    cases hstored
  · exact hmirrors

end Sample

end Nightjar.Notifier
