import Nightjar.Indexer
import Nightjar.Lib.Strings

namespace Nightjar.Notifier

/-- `workloadKey`; without a kind or a name it stands for a namespace. -/
structure WorkloadKey where
  ns : String
  kind : String := ""
  name : String := ""
deriving DecidableEq, Repr

def nsWorkloadCacheTTL : Int := 30 * 1000000000

def clusterWideSentinel : String := "\x00cluster-wide"

def pendingCapacity : Nat := 1000

def namespaceWorkloadKinds : List (String × GVR) :=
  [("Deployment", ⟨"apps", "v1", "deployments"⟩), ("StatefulSet", ⟨"apps", "v1", "statefulsets"⟩),
    ("DaemonSet", ⟨"apps", "v1", "daemonsets"⟩)]

namespace WorkloadKey

def ofNamespace (ns : String) : WorkloadKey := { ns := ns }

def clusterWide : WorkloadKey := { ns := clusterWideSentinel }

def IsClusterWide (k : WorkloadKey) : Prop := k.ns = clusterWideSentinel

def IsNamespace (k : WorkloadKey) : Prop := k.ns ≠ clusterWideSentinel ∧ (k.kind = "" ∨ k.name = "")

def IsWorkload (k : WorkloadKey) : Prop := k.ns ≠ clusterWideSentinel ∧ k.kind ≠ "" ∧ k.name ≠ ""

instance (k : WorkloadKey) : Decidable k.IsClusterWide := inferInstanceAs (Decidable (_ = _))

instance (k : WorkloadKey) : Decidable k.IsNamespace := inferInstanceAs (Decidable (_ ∧ _))

instance (k : WorkloadKey) : Decidable k.IsWorkload := inferInstanceAs (Decidable (_ ∧ _))

/-- Working off the update `u` includes the workload `k`. -/
def Covers (u k : WorkloadKey) : Prop := u = k ∨ u.IsNamespace ∧ u.ns = k.ns ∨ u.IsClusterWide

end WorkloadKey

structure WorkloadAnnotator where
  debounceDuration : Int
  lastPatch : AList (fun _ : WorkloadKey => Int) := ∅
  pending : List WorkloadKey := []
  nsCache : AList (fun _ : String => List WorkloadKey × Int) := ∅

def queuedUpdates (c : Constraint) : List WorkloadKey :=
  (Lib.Strings.unique c.affectedNamespaces).map .ofNamespace ++
  (if c.ns ≠ "" ∧ c.ns ∉ c.affectedNamespaces then [.ofNamespace c.ns] else []) ++
  (if c.ns = "" ∧ c.affectedNamespaces = [] then [.clusterWide] else [])

def fetchedWorkloads (ns : String) (answer : String → Except String (List String)) : List WorkloadKey :=
  namespaceWorkloadKinds.flatMap (fun kind =>
    match answer kind.1 with
    | .error _ => []
    | .ok names => names.map (WorkloadKey.mk ns kind.1))

namespace WorkloadAnnotator

def new (debounceDuration : Int) : WorkloadAnnotator where
  debounceDuration := if debounceDuration = 0 then 30 * 1000000000 else debounceDuration

/-- A send that drops the update when the channel is full. -/
def queue (wa : WorkloadAnnotator) (u : WorkloadKey) : WorkloadAnnotator :=
  if wa.pending.length < pendingCapacity then { wa with pending := wa.pending ++ [u] } else wa

def queueAll (wa : WorkloadAnnotator) (us : List WorkloadKey) : WorkloadAnnotator := us.foldl queue wa

def onIndexChange (wa : WorkloadAnnotator) (event : IndexEvent) : WorkloadAnnotator :=
  wa.queueAll (queuedUpdates event.constraint)

def debounced (wa : WorkloadAnnotator) (k : WorkloadKey) (now : Int) : Bool :=
  (wa.lastPatch.lookup k).any (fun lastPatch => decide (now - lastPatch < wa.debounceDuration))

def stamp (wa : WorkloadAnnotator) (k : WorkloadKey) (now : Int) : WorkloadAnnotator :=
  { wa with lastPatch := wa.lastPatch.insert k now }

def cachedWorkloads (wa : WorkloadAnnotator) (ns : String) (now : Int) : Option (List WorkloadKey) :=
  if ns = "" then some []
  else (wa.nsCache.lookup ns).bind (fun cached => if now - cached.2 < nsWorkloadCacheTTL then some cached.1 else none)

theorem cachedWorkloads_eq_some_iff {wa : WorkloadAnnotator} {ns : String} (hns : ns ≠ "") {now : Int}
    {workloads : List WorkloadKey} :
    wa.cachedWorkloads ns now = some workloads ↔
      ∃ fetchedAt, wa.nsCache.lookup ns = some (workloads, fetchedAt) ∧ now - fetchedAt < nsWorkloadCacheTTL := by
  rw [cachedWorkloads, if_neg hns, Option.bind_eq_some_iff]
  constructor
  · rintro ⟨⟨cached, fetchedAt⟩, hcached, hrecent⟩
    split at hrecent
    · cases hrecent
      exact ⟨fetchedAt, hcached, ‹_›⟩
    · cases hrecent
  · rintro ⟨fetchedAt, hcached, hrecent⟩
    exact ⟨_, hcached, if_pos hrecent⟩

def storeWorkloads (wa : WorkloadAnnotator) (ns : String) (workloads : List WorkloadKey) (now : Int) :
    WorkloadAnnotator :=
  { wa with nsCache := wa.nsCache.insert ns (workloads, now) }

/-- `listNamespaceWorkloads`, with the clock at the check of the cache and at the store. A kind
whose List fails is left out; the error it could return is never set. -/
def listNamespaceWorkloads (wa : WorkloadAnnotator) (ns : String) (answer : String → Except String (List String))
    (now stored : Int) : WorkloadAnnotator × Except String (List WorkloadKey) :=
  match wa.cachedWorkloads ns now with
  | some workloads => (wa, .ok workloads)
  | none => (wa.storeWorkloads ns (fetchedWorkloads ns answer) stored, .ok (fetchedWorkloads ns answer))

theorem pending_queue {wa : WorkloadAnnotator} (hroom : wa.pending.length < pendingCapacity) (u : WorkloadKey) :
    (wa.queue u).pending = wa.pending ++ [u] := by
  rw [queue, if_pos hroom]

theorem pending_queueAll {wa : WorkloadAnnotator} {us : List WorkloadKey}
    (hroom : wa.pending.length + us.length ≤ pendingCapacity) :
    (wa.queueAll us).pending = wa.pending ++ us := by
  induction us generalizing wa with
  | nil => simp [queueAll]
  | cons u us ih =>
      rw [List.length_cons] at hroom
      have hlt : wa.pending.length < pendingCapacity := by omega
      have hrest : (wa.queue u).pending.length + us.length ≤ pendingCapacity := by
        rw [pending_queue hlt, List.length_append, List.length_singleton]
        omega
      have hsent := ih hrest
      rw [queueAll] at hsent
      rw [queueAll, List.foldl_cons, hsent, pending_queue hlt, List.append_assoc]
      rfl

end WorkloadAnnotator

end Nightjar.Notifier
