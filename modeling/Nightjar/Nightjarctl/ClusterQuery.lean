import Nightjar.Discovery.ClusterMirror
import Nightjar.Nightjarctl.Answers

namespace Nightjar.Nightjarctl

open Lib Lib.Strings Apimachinery Notifier Adapters Discovery

structure QueryResult where
  ns : String
  constraints : List ConstraintInfo
  total : Nat

section Query
variable [Apimachinery]

def runQuery (typeFilter severityFilter workloadFilter ns : String) (client : ReportClient) :
    Except String QueryResult :=
  withReport client ns (fun report =>
    let constraints := extractConstraints report typeFilter severityFilter workloadFilter
    .ok ⟨ns, constraints, constraints.length⟩)

theorem extractConstraints_filters (report : Unstructured) (typeFilter severityFilter workloadFilter : String) :
    extractConstraints report typeFilter severityFilter workloadFilter =
      (extractConstraints report "" "" "").filter (passesFilters typeFilter severityFilter) := by
  have hlist (entries : List Any) : parseList typeFilter severityFilter entries =
      (parseList "" "" entries).filter (passesFilters typeFilter severityFilter) := by
    rw [parseList, parseList, show passesFilters "" "" = fun _ => true from rfl, List.filter_true]
  rw [extractConstraints, extractConstraints]
  split
  · exact hlist _
  · split
    · exact hlist _
    · rfl

end Query

/-- The index was empty when the informers started, and these are the events that have come since. -/
structure Ingested {α : Type} [Apimachinery] [Unicode] [SlottedAdapter α] (index : IndexLog)
    (hs : List (Arrival α)) : Prop where
  start : index.start = .new
  log : index.log = hs.flatMap Arrival.mutations
  watched : ∀ a ∈ hs, a.gvr ∈ a.engine.watchedGVRs
  isUUID : ∀ a ∈ hs, Correlator.isUUID a.uid = true
  sameSlots : Arrival.SameSlots hs

section Cluster
variable [Apimachinery] [Unicode] {α : Type} [SlottedAdapter α] {hs : List (Arrival α)}

/-- The constraints that the adapters make of the cluster for the namespace. -/
def applicable (hs : List (Arrival α)) (ns : String) : List Constraint :=
  ((Arrival.live hs).values.flatMap Arrival.constraints).filter (matchesNamespace · ns)

theorem follow_eq_applyAll (idx : Indexer) (hs : List (Arrival α)) :
    Arrival.follow idx hs = idx.applyAll (hs.flatMap Arrival.mutations) := by
  rw [Arrival.follow, Indexer.applyAll, List.foldl_flatMap]
  rfl

theorem Ingested.byNamespace_perm {index : IndexLog} (h : Ingested index hs) (ns : String) :
    (index.current.byNamespace ns).Perm (applicable hs ns) := by
  have hcurrent : index.current = Arrival.follow .new hs := by
    rw [follow_eq_applyAll, ← h.log, ← h.start, IndexLog.current, IndexLog.atTime, IndexLog.now, List.take_length]
  rw [hcurrent]
  exact (Arrival.index_mirrors_cluster h.watched h.isUUID h.sameSlots).filter _

variable [SortSlice] {opts : ReportReconcilerOptions} {start : ReportStore} {w : StoredWorld} {ns : String}
  {report : Unstructured}

/-- From the cluster to the command line: once nothing is pending, a query prints one entry for each
constraint that the adapters make of the latest version of a live object and that applies to the
namespace, if the entry passes the filters. The workload filter is not looked at. -/
theorem query_mirrors_cluster (h : w.Settled opts start ns) (hingested : Ingested w.world.index hs)
    (hreport : Returns w.store ns report) (typeFilter severityFilter workloadFilter : String)
    {get : String → Except String Unstructured} (hget : get ns = .ok report) :
    ∃ result, runQuery typeFilter severityFilter workloadFilter ns (.ok get) = .ok result ∧
      result.constraints.Perm
        (((applicable hs ns).map (.ofConstraint opts ns)).filter (passesFilters typeFilter severityFilter)) ∧
      result.total = (applicable hs ns).countP (fun c =>
        passesFilters typeFilter severityFilter (.ofConstraint opts ns c)) := by
  have hread : (extractConstraints report "" "" "").Perm ((applicable hs ns).map (.ofConstraint opts ns)) :=
    (extractConstraints_builtFrom (builtFrom_settled h hreport)).trans ((hingested.byNamespace_perm ns).map _)
  have hlisted := hread.filter (passesFilters typeFilter severityFilter)
  rw [← extractConstraints_filters report typeFilter severityFilter workloadFilter] at hlisted
  have hrun : runQuery typeFilter severityFilter workloadFilter ns (.ok get) =
      .ok ⟨ns, extractConstraints report typeFilter severityFilter workloadFilter,
        (extractConstraints report typeFilter severityFilter workloadFilter).length⟩ := by
    rw [runQuery, withReport]
    simp only [hget]
  refine ⟨_, hrun, hlisted, ?_⟩
  rw [hlisted.length_eq, ← List.countP_eq_length_filter, List.countP_map]
  rfl

end Cluster

section Samples

attribute [local instance] Apimachinery.model asciiTables SortSlice.stable

open Arrival

def mixedLabels : List ReportLabel :=
  (mixedHistory.flatMap mutations).map .mutate ++ List.replicate 6 (.callback 0) ++
    [.take, .skipList, .check "team" 0, .read, .write, .stamp 0, .finish]

def mixedCalls : List StoredLabel := answering mixedLabels [teamCall (.found "1") "2"]

theorem mixedCalls_run : (System.exec (StoredWorld.next {}) (StoredWorld.served {}) ⟨ReportWorld.started, teamStart⟩
    mixedCalls).isSome = true := by decide +kernel

def mixedReported : StoredWorld :=
  (System.exec (StoredWorld.next {}) (StoredWorld.served {}) ⟨ReportWorld.started, teamStart⟩ mixedCalls).get
    mixedCalls_run

theorem ingested_mixedReported : Ingested mixedReported.world.index mixedHistory where
  start := rfl
  log := rfl
  watched := watched_mixedHistory
  isUUID := isUUID_mixedHistory
  sameSlots := sameSlots_mixedHistory

def writesOnly (ns : String) : Mutation → Bool
  | .upsert c => c.ns = ns
  | _ => true

theorem ns_of_written {c : Constraint} (hc : .upsert c ∈ mixedReported.world.index.log) : c.ns = "team" := by
  have hall : mixedReported.world.index.log.all (writesOnly "team") = true := by decide +kernel
  exact of_decide_eq_true (List.all_eq_true.mp hall _ hc)

theorem settled_mixedReported : mixedReported.Settled {} teamStart "team" where
  reaches := reaches_answered (Option.some_get mixedCalls_run).symm
  quiescent := ⟨rfl, by decide +kernel, by decide +kernel, rfl⟩
  stays k c old hm _ _ := by
    rw [matchesNamespace, ns_of_written (List.mem_of_getElem? hm)]
    simp
  announces := by
    refine ReportWorld.announces_of_namespaced fun n event he => ?_
    rcases IndexLog.written_of_emitted he with hstart | hlog
    · cases hstart
    · rw [ns_of_written hlog]
      decide
  written := by decide +kernel

theorem stored_mixed : ((mixedReported.store.lookup "team").bind StoredReport.status).isSome = true := by decide +kernel

def mixedReport (ns : String) : Except String Unstructured :=
  if ns = "team" then
    .ok ⟨[("metadata", .map [("name", .str "constraints"), ("namespace", .str "team"), ("resourceVersion", .str "2")]),
      ("status", .map (((mixedReported.store.lookup "team").bind StoredReport.status).get stored_mixed).object)]⟩
  else .error "not found"

theorem query_mirrors_cluster_mixedHistory :
    ∃ result, runQuery "ResourceLimit" "" "web" "team" (.ok mixedReport) = .ok result ∧
      result.constraints.Perm (((applicable mixedHistory "team").map (.ofConstraint {} "team")).filter
        (passesFilters "ResourceLimit" "")) ∧
      result.total = 2 := by
  obtain ⟨stored, hstored, hstatus⟩ := Option.bind_eq_some_iff.mp (Option.some_get stored_mixed).symm
  obtain ⟨result, hrun, hlisted, htotal⟩ := query_mirrors_cluster settled_mixedReported ingested_mixedReported
    ⟨stored, _, hstored, hstatus, rfl⟩ "ResourceLimit" "" "web" (show mixedReport "team" = _ from rfl)
  exact ⟨result, hrun, hlisted, htotal.trans (by decide +kernel)⟩

end Samples

end Nightjar.Nightjarctl
