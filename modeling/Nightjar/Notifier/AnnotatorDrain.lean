import Nightjar.Notifier.WorkloadCache
import Mathlib.Algebra.Order.BigOperators.Group.Finset
import Mathlib.Order.Lattice.Nat

namespace Nightjar.Notifier

open Lib

/-- A cluster as the annotator sees it. The API admits no name that is empty or has a NUL, so no
namespace has the name that stands for all of them. -/
structure Cluster where
  namespaces : List String
  workloads : String → String → List String
  namespace_names : ∀ ns ∈ namespaces, ns ≠ "" ∧ ns ≠ clusterWideSentinel
  workload_names : ∀ ns kind, ∀ name ∈ workloads ns kind, name ≠ ""
  workloads_in : ∀ ns, ns ∉ namespaces → ∀ kind, workloads ns kind = []

namespace Cluster

variable (cluster : Cluster)

/-- What a List of the kind may answer: an error, or some of what the namespace has. -/
def Answers (ns kind : String) : Except String (List String) → Prop
  | .error _ => True
  | .ok names => names.Subperm (cluster.workloads ns kind)

instance (ns kind : String) : DecidablePred (cluster.Answers ns kind)
  | .error _ => .isTrue trivial
  | .ok names => inferInstanceAs (Decidable (names.Subperm _))

def listing (ns : String) : List WorkloadKey := fetchedWorkloads ns (fun kind => .ok (cluster.workloads ns kind))

def perNamespace : Nat := cluster.namespaces.toFinset.sup (fun ns => (cluster.listing ns).length)

theorem length_listing_le (ns : String) : (cluster.listing ns).length ≤ cluster.perNamespace := by
  by_cases h : ns ∈ cluster.namespaces
  · exact Finset.le_sup (f := fun ns => (cluster.listing ns).length) (List.mem_toFinset.mpr h)
  · have hnil : cluster.listing ns = [] := by
      simp [listing, fetchedWorkloads, cluster.workloads_in ns h]
    rw [hnil]
    exact Nat.zero_le _

end Cluster

namespace WorkloadKey

theorem level (u : WorkloadKey) :
    (u.IsClusterWide ∧ ¬ u.IsNamespace ∧ ¬ u.IsWorkload) ∨ (¬ u.IsClusterWide ∧ u.IsNamespace ∧ ¬ u.IsWorkload) ∨
      (¬ u.IsClusterWide ∧ ¬ u.IsNamespace ∧ u.IsWorkload) := by
  unfold IsClusterWide IsNamespace IsWorkload
  tauto

theorem length_eq_levels (us : List WorkloadKey) :
    us.length = us.countP (·.IsClusterWide) + us.countP (·.IsNamespace) + us.countP (·.IsWorkload) := by
  induction us with
  | nil => rfl
  | cons u us ih =>
      rcases u.level with ⟨hc, hn, hw⟩ | ⟨hc, hn, hw⟩ | ⟨hc, hn, hw⟩ <;>
        simp only [List.length_cons, List.countP_cons, hc, hn, hw, decide_true, decide_false, if_true, if_false,
          Bool.false_eq_true] <;>
        omega

end WorkloadKey

/-- The worker takes an entry from the queue. -/
def AnnotatorLabel.takes : AnnotatorLabel → Bool
  | .worker _ .take => true
  | _ => false

/-- The worker puts an entry into the queue, unless the queue is full. -/
def AnnotatorLabel.queues : AnnotatorLabel → Bool
  | .worker _ .announce | .worker _ .send => true
  | _ => false

/-- The entries that the entries of a queue can lead to: those of the namespaces of the cluster for
each cluster-wide one, and those of their workloads for each namespace. -/
def Cluster.further (cluster : Cluster) (pending : List WorkloadKey) : Nat :=
  (pending.countP (·.IsClusterWide) * cluster.namespaces.length + pending.countP (·.IsNamespace)) *
    (cluster.perNamespace + 1)

structure StepCosts where
  take : Nat
  send : Nat
  other : Nat

namespace StepCosts

variable (c : StepCosts)

def ofLabel : AnnotatorLabel → Nat
  | .worker _ .take => c.take
  | .worker _ .announce | .worker _ .send => c.send
  | _ => c.other

def ofWorkload : Nat := 4 * c.other

def perWorkload : Nat := c.other + c.send + c.take + c.ofWorkload

def ofNamespace (workloads : Nat) : Nat := 3 * c.other + workloads * c.perWorkload

def perNamespace (workloads : Nat) : Nat := c.send + c.take + c.ofNamespace workloads

def ofCluster (namespaces workloads : Nat) : Nat := 2 * c.other + namespaces * c.perNamespace workloads

theorem perWorkload_eq : c.perWorkload = c.other + c.send + c.take + c.ofWorkload := rfl

theorem perNamespace_eq (workloads : Nat) :
    c.perNamespace workloads = c.send + c.take + c.ofNamespace workloads := rfl

variable (cluster : Cluster)

def ofUpdate (u : WorkloadKey) : Nat :=
  if u.IsClusterWide then c.ofCluster cluster.namespaces.length cluster.perNamespace
  else if u.IsNamespace then c.ofNamespace cluster.perNamespace
  else c.ofWorkload

def ofStage : Stage → Nat
  | .idle => 0
  | .took u => c.ofUpdate cluster u
  | .namespaces _ rest => c.other + rest.length * c.perNamespace cluster.perNamespace
  | .fetching _ => 2 * c.other + cluster.perNamespace * c.perWorkload
  | .workloads _ rest => c.other + rest.length * c.perWorkload
  | .sending _ _ rest => c.other + (c.send + c.take + c.ofWorkload) + rest.length * c.perWorkload
  | .checked _ => 3 * c.other
  | .read _ _ => 2 * c.other
  | .patched _ => c.other

def ofQueue (pending : List WorkloadKey) : Nat := (pending.map (fun u => c.take + c.ofUpdate cluster u)).sum

theorem ofUpdate_namespace {u : WorkloadKey} (h : u.IsNamespace) :
    c.ofUpdate cluster u = c.ofNamespace cluster.perNamespace := by
  rw [ofUpdate, if_neg (show ¬ u.IsClusterWide from h.1), if_pos h]

theorem ofUpdate_workload {u : WorkloadKey} (h : u.IsWorkload) : c.ofUpdate cluster u = c.ofWorkload := by
  have hn : ¬ u.IsNamespace := fun hn => hn.2.elim h.2.1 h.2.2
  rw [ofUpdate, if_neg (show ¬ u.IsClusterWide from h.1), if_neg hn]

theorem ofQueue_cons (u : WorkloadKey) (pending : List WorkloadKey) :
    c.ofQueue cluster (u :: pending) = c.take + c.ofUpdate cluster u + c.ofQueue cluster pending := by
  rw [ofQueue, List.map_cons, List.sum_cons]
  rfl

theorem ofQueue_eq (pending : List WorkloadKey) :
    c.ofQueue cluster pending =
      pending.countP (·.IsClusterWide) * (c.take + c.ofCluster cluster.namespaces.length cluster.perNamespace) +
      pending.countP (·.IsNamespace) * (c.take + c.ofNamespace cluster.perNamespace) +
      pending.countP (·.IsWorkload) * (c.take + c.ofWorkload) := by
  induction pending with
  | nil => simp [ofQueue]
  | cons u pending ih =>
      rw [ofQueue_cons, ih]
      rcases u.level with ⟨hc, hn, hw⟩ | ⟨hc, hn, hw⟩ | ⟨hc, hn, hw⟩ <;>
        simp only [List.countP_cons, ofUpdate, hc, hn, hw, decide_true, decide_false, if_true, if_false,
          Bool.false_eq_true, Nat.add_mul, Nat.one_mul, Nat.add_zero] <;>
        omega

theorem ofQueue_sends_le (pending : List WorkloadKey) :
    (mk 0 1 0).ofQueue cluster pending ≤ cluster.further pending := by
  rw [ofQueue_eq, Cluster.further]
  simp only [ofCluster, perNamespace, ofNamespace, perWorkload, ofWorkload]
  nlinarith

theorem ofQueue_takes_le (pending : List WorkloadKey) :
    (mk 1 0 0).ofQueue cluster pending ≤ pending.length + cluster.further pending := by
  rw [ofQueue_eq, Cluster.further, WorkloadKey.length_eq_levels pending]
  simp only [ofCluster, perNamespace, ofNamespace, perWorkload, ofWorkload]
  nlinarith

theorem ofQueue_steps_le (pending : List WorkloadKey) :
    (mk 1 1 1).ofQueue cluster pending ≤ 7 * (pending.length + cluster.further pending) := by
  rw [ofQueue_eq, Cluster.further, WorkloadKey.length_eq_levels pending]
  simp only [ofCluster, perNamespace, ofNamespace, perWorkload, ofWorkload]
  nlinarith

theorem countP_le_sum {c : StepCosts} {p : AnnotatorLabel → Bool} (hp : ∀ l, p l = true → 1 ≤ c.ofLabel l)
    (ls : List AnnotatorLabel) : ls.countP p ≤ (ls.map c.ofLabel).sum := by
  induction ls with
  | nil => exact Nat.le_refl _
  | cons l ls ih =>
      rw [List.countP_cons, List.map_cons, List.sum_cons]
      split
      · rename_i hl
        have hone := hp l hl
        omega
      · omega

theorem ofQueue_queue_le (wa : WorkloadAnnotator) (u : WorkloadKey) :
    c.ofQueue cluster (wa.queue u).pending ≤ c.ofQueue cluster wa.pending + (c.take + c.ofUpdate cluster u) := by
  unfold WorkloadAnnotator.queue
  split
  · simp [ofQueue]
  · exact Nat.le_add_right _ _

end StepCosts

namespace AnnotatorLabel

theorem one_le_of_queues (l : AnnotatorLabel) (h : l.queues = true) : 1 ≤ (StepCosts.mk 0 1 0).ofLabel l := by
  unfold queues at h
  split at h
  · exact Nat.le_refl _
  · exact Nat.le_refl _
  · cases h

theorem one_le_of_takes (l : AnnotatorLabel) (h : l.takes = true) : 1 ≤ (StepCosts.mk 1 0 0).ofLabel l := by
  unfold takes at h
  split at h
  · exact Nat.le_refl _
  · cases h

theorem one_le_uniform (l : AnnotatorLabel) : 1 ≤ (StepCosts.mk 1 1 1).ofLabel l := by
  unfold StepCosts.ofLabel
  split <;> exact Nat.le_refl _

end AnnotatorLabel

namespace AnnotatorWorld

/-- What is left to do for the queue and for the first `n` workers. -/
def store (n : Nat) (c : StepCosts) (cluster : Cluster) (w : AnnotatorWorld) : Nat :=
  c.ofQueue cluster w.wa.pending + ∑ i ∈ Finset.range n, c.ofStage cluster (w.workers i)

def AnsweredAt (cluster : Cluster) : Stage → Action → Prop
  | _, .list (.ok namespaces) => namespaces.Subperm cluster.namespaces
  | .fetching u, .fetch answer _ => ∀ kind ∈ namespaceWorkloadKinds, cluster.Answers u.ns kind.1 (answer kind.1)
  | _, _ => True

/-- A step of one of the `n` workers. -/
def Answered (n : Nat) (cluster : Cluster) (w : AnnotatorWorld) : AnnotatorLabel → Prop
  | .worker i a => i < n ∧ AnsweredAt cluster (w.workers i) a
  | _ => False

instance (cluster : Cluster) (st : Stage) (a : Action) : Decidable (AnsweredAt cluster st a) := by
  unfold AnsweredAt
  split <;> infer_instance

instance (n : Nat) (cluster : Cluster) (w : AnnotatorWorld) : DecidablePred (Answered n cluster w)
  | .worker _ _ => inferInstanceAs (Decidable (_ ∧ _))
  | .mutate _ | .callback _ | .call _ _ | .submit _ => .isFalse id

def StageWithin : Stage → Prop
  | .namespaces _ rest => ∀ ns ∈ rest, ns ≠ clusterWideSentinel
  | .fetching u => u.IsNamespace
  | .workloads _ rest => ∀ k ∈ rest, k.IsWorkload
  | .sending _ k rest => k.IsWorkload ∧ ∀ k ∈ rest, k.IsWorkload
  | _ => True

def ListingWithin (cluster : Cluster) (workloads : List WorkloadKey) : Prop :=
  workloads.length ≤ cluster.perNamespace ∧ ∀ k ∈ workloads, k.IsWorkload

/-- The cache holds listings of the cluster. -/
def CacheWithin (cluster : Cluster) (wa : WorkloadAnnotator) : Prop :=
  ∀ ns cached, ns ≠ clusterWideSentinel → wa.nsCache.lookup ns = some cached → ListingWithin cluster cached.1

structure Within (cluster : Cluster) (w : AnnotatorWorld) : Prop where
  cache : CacheWithin cluster w.wa
  stages : ∀ i, StageWithin (w.workers i)

theorem ListingWithin.cached {cluster : Cluster} {wa : WorkloadAnnotator} (h : CacheWithin cluster wa) {ns : String}
    (hns : ns ≠ clusterWideSentinel) {now : Int} {workloads : List WorkloadKey}
    (hc : wa.cachedWorkloads ns now = some workloads) : ListingWithin cluster workloads := by
  by_cases hempty : ns = ""
  · rw [WorkloadAnnotator.cachedWorkloads, if_pos hempty] at hc
    cases hc
    exact ⟨Nat.zero_le _, fun k hk => absurd hk List.not_mem_nil⟩
  · obtain ⟨fetchedAt, hcached, -⟩ := (WorkloadAnnotator.cachedWorkloads_eq_some_iff hempty).mp hc
    exact h ns _ hns hcached

theorem ListingWithin.fetched {cluster : Cluster} {ns : String} (hns : ns ≠ clusterWideSentinel)
    {answer : String → Except String (List String)}
    (h : ∀ kind ∈ namespaceWorkloadKinds, cluster.Answers ns kind.1 (answer kind.1)) :
    ListingWithin cluster (fetchedWorkloads ns answer) := by
  constructor
  · refine (?_ : _ ≤ (cluster.listing ns).length).trans (cluster.length_listing_le ns)
    rw [Cluster.listing, NamespaceListing.fetchedWorkloads_eq, NamespaceListing.fetchedWorkloads_eq]
    refine NamespaceListing.length_flatMap_le (fun kind hkind => ?_)
    have hanswer := h kind hkind
    cases hnames : answer kind.1 with
    | error => exact Nat.zero_le _
    | ok names =>
        rw [hnames] at hanswer
        rw [NamespaceListing.part, NamespaceListing.part, List.length_map, List.length_map]
        exact List.Subperm.length_le hanswer
  · intro k hk
    obtain ⟨kind, hkind, hk⟩ := List.mem_flatMap.mp hk
    have hanswer := h kind hkind
    cases hnames : answer kind.1 with
    | error err =>
        rw [hnames] at hk
        cases hk
    | ok names =>
        rw [hnames] at hk hanswer
        obtain ⟨name, hname, rfl⟩ := List.mem_map.mp hk
        have hkinds : ∀ kind ∈ namespaceWorkloadKinds, kind.1 ≠ "" := by decide
        exact ⟨hns, hkinds _ hkind, cluster.workload_names ns kind.1 name (List.Subperm.subset hanswer hname)⟩

theorem CacheWithin.storeWorkloads {cluster : Cluster} {wa : WorkloadAnnotator} (h : CacheWithin cluster wa)
    {ns : String} {workloads : List WorkloadKey} (hl : ListingWithin cluster workloads) (now : Int) :
    CacheWithin cluster (wa.storeWorkloads ns workloads now) := by
  intro ns' cached hns' hc
  rw [WorkloadAnnotator.storeWorkloads, Table.lookup_insert] at hc
  split at hc
  · cases hc
    exact hl
  · exact h ns' cached hns' hc

theorem CacheWithin.queue {cluster : Cluster} {wa : WorkloadAnnotator} (h : CacheWithin cluster wa) (u : WorkloadKey) :
    CacheWithin cluster (wa.queue u) := by
  unfold WorkloadAnnotator.queue
  split <;> exact h

variable {n : Nat} {cluster : Cluster} {w w' : AnnotatorWorld} {i : Nat} {a : Action} {st : Stage}

theorem Within.work (h : Within cluster w) (hg : AnsweredAt cluster (w.workers i) a)
    (hw : Work w (w.workers i) a w' st) : CacheWithin cluster w'.wa ∧ StageWithin st := by
  have hstage := h.stages i
  generalize w.workers i = before at hw hstage hg ⊢
  cases hw with
  | take | listFailed | discard | process | read | patchFailed | patch | stamp | announced | resolved =>
      exact ⟨h.cache, trivial⟩
  | list hu =>
      exact ⟨h.cache, fun ns hns => (cluster.namespace_names ns (List.Subperm.subset hg hns)).2⟩
  | announce u ns rest => exact ⟨h.cache.queue _, fun ns hns => hstage ns (List.mem_cons_of_mem _ hns)⟩
  | cached hu hc => exact ⟨h.cache, (ListingWithin.cached h.cache hu.1 hc).2⟩
  | uncached hu now => exact ⟨h.cache, hu⟩
  | fetch u answer now =>
      have hl := ListingWithin.fetched hstage.1 hg
      exact ⟨h.cache.storeWorkloads hl now, hl.2⟩
  | debounce hd u rest => exact ⟨h.cache, fun k hk => hstage k (List.mem_cons_of_mem _ hk)⟩
  | pass u k rest now =>
      exact ⟨h.cache, hstage k List.mem_cons_self, fun k hk => hstage k (List.mem_cons_of_mem _ hk)⟩
  | send u k rest => exact ⟨h.cache.queue _, hstage.2⟩

theorem Within.work_cost (h : Within cluster w) (hg : AnsweredAt cluster (w.workers i) a)
    (hw : Work w (w.workers i) a w' st) (c : StepCosts) :
    c.ofLabel (.worker i a) + (c.ofQueue cluster w'.wa.pending + c.ofStage cluster st) ≤
      c.ofQueue cluster w.wa.pending + c.ofStage cluster (w.workers i) := by
  have hstage := h.stages i
  generalize w.workers i = before at hw hstage hg ⊢
  cases hw with
  | @take u rest hp =>
      rw [hp, c.ofQueue_cons]
      simp only [StepCosts.ofLabel, StepCosts.ofStage]
      omega
  | listFailed hu =>
      simp only [StepCosts.ofLabel, StepCosts.ofStage, StepCosts.ofUpdate, if_pos hu, StepCosts.ofCluster]
      omega
  | @list u namespaces hu =>
      have hle := Nat.mul_le_mul_right (c.perNamespace cluster.perNamespace) (List.Subperm.length_le hg)
      simp only [StepCosts.ofLabel, StepCosts.ofStage, StepCosts.ofUpdate, if_pos hu, StepCosts.ofCluster]
      omega
  | announce u ns rest =>
      have hns : (WorkloadKey.ofNamespace ns).IsNamespace := ⟨hstage ns List.mem_cons_self, .inl rfl⟩
      have hqueue := c.ofQueue_queue_le cluster w.wa (.ofNamespace ns)
      rw [c.ofUpdate_namespace cluster hns] at hqueue
      simp only [StepCosts.ofLabel, StepCosts.ofStage, List.length_cons, Nat.succ_mul]
      have hper := c.perNamespace_eq cluster.perNamespace
      omega
  | cached hu hc =>
      have hle := Nat.mul_le_mul_right c.perWorkload (ListingWithin.cached h.cache hu.1 hc).1
      simp only [StepCosts.ofLabel, StepCosts.ofStage, c.ofUpdate_namespace cluster hu, StepCosts.ofNamespace]
      omega
  | uncached hu now =>
      simp only [StepCosts.ofLabel, StepCosts.ofStage, c.ofUpdate_namespace cluster hu, StepCosts.ofNamespace]
      omega
  | fetch u answer now =>
      have hl := ListingWithin.fetched hstage.1 hg
      have hle := Nat.mul_le_mul_right c.perWorkload hl.1
      simp only [StepCosts.ofLabel, StepCosts.ofStage, WorkloadAnnotator.storeWorkloads]
      omega
  | debounce _ u rest | pass u _ rest _ =>
      have hper := c.perWorkload_eq
      simp only [StepCosts.ofLabel, StepCosts.ofStage, List.length_cons, Nat.succ_mul]
      omega
  | send u k rest =>
      have hqueue := c.ofQueue_queue_le cluster w.wa k
      rw [c.ofUpdate_workload cluster hstage.1] at hqueue
      simp only [StepCosts.ofLabel, StepCosts.ofStage]
      omega
  | discard hu _ | process hu _ =>
      simp only [StepCosts.ofLabel, StepCosts.ofStage, c.ofUpdate_workload cluster hu, StepCosts.ofWorkload]
      omega
  | read | patchFailed | patch | stamp | announced | resolved =>
      simp only [StepCosts.ofLabel, StepCosts.ofStage, WorkloadAnnotator.stamp, List.length_nil, Nat.zero_mul]
      omega

theorem store_put (cluster : Cluster) (st : Stage) (c : StepCosts) (hi : i < n) (hworkers : w'.workers = w.workers) :
    (w'.put i st).store n c cluster + c.ofStage cluster (w.workers i) + c.ofQueue cluster w.wa.pending =
      w.store n c cluster + c.ofStage cluster st + c.ofQueue cluster w'.wa.pending := by
  have hmem : i ∈ Finset.range n := Finset.mem_range.mpr hi
  have hput : ∑ j ∈ (Finset.range n).erase i, c.ofStage cluster ((w'.put i st).workers j) =
      ∑ j ∈ (Finset.range n).erase i, c.ofStage cluster (w.workers j) := by
    refine Finset.sum_congr rfl ?_
    intro j hj
    rw [workers_put_of_ne _ (Finset.ne_of_mem_erase hj), hworkers]
  unfold store
  rw [← Finset.add_sum_erase _ _ hmem, ← Finset.add_sum_erase _ (fun j => c.ofStage cluster (w.workers j)) hmem,
    hput, workers_put_self]
  change c.ofQueue cluster w'.wa.pending + _ + _ + _ = _
  omega

theorem Within.step (h : Within cluster w) {l : AnnotatorLabel} (hg : Answered n cluster w l)
    (hs : w.next l = some w') (c : StepCosts) :
    Within cluster w' ∧ c.ofLabel l + w'.store n c cluster ≤ w.store n c cluster := by
  cases l with
  | mutate | callback | call | submit => exact hg.elim
  | worker i a =>
      obtain ⟨⟨w', st⟩, hwork, rfl⟩ := Option.map_eq_some_iff.mp hs
      have hw := Work.of_eq_some hwork
      obtain ⟨hcache, hstage⟩ := h.work hg.2 hw
      have hcost := h.work_cost hg.2 hw c
      have hstore := store_put cluster st c hg.1 hw.workers_eq
      refine ⟨⟨hcache, ?_⟩, by dsimp only; omega⟩
      intro j
      by_cases hj : j = i
      · rw [hj, workers_put_self]
        exact hstage
      · rw [workers_put_of_ne _ hj, hw.workers_eq]
        exact h.stages j

theorem countP_le_ofQueue (hidle : ∀ i, w.workers i = .idle) (hcache : CacheWithin cluster w.wa)
    {ls : List AnnotatorLabel} (ht : system.Trace (Answered n cluster) w ls w') {p : AnnotatorLabel → Bool}
    {c : StepCosts} (hp : ∀ l, p l = true → 1 ≤ c.ofLabel l) : ls.countP p ≤ c.ofQueue cluster w.wa.pending := by
  have hwithin : Within cluster w := ⟨hcache, fun i => by rw [hidle]; trivial⟩
  have hstep : ∀ w l w', Within cluster w → Answered n cluster w l → system.step w l w' →
      Within cluster w' ∧ c.ofLabel l + w'.store n c cluster ≤ w.store n c cluster :=
    fun _ _ _ h hg hs => h.step hg hs c
  have hspent := (ht.potential hstep hwithin).2
  have hstart : w.store n c cluster = c.ofQueue cluster w.wa.pending := by
    rw [store, Finset.sum_eq_zero (fun i _ => by rw [hidle]; rfl), Nat.add_zero]
  have hcount := StepCosts.countP_le_sum hp ls
  omega

/-- Nothing is queued and no worker is at work. -/
def Drained (n : Nat) (w : AnnotatorWorld) : Prop := w.wa.pending = [] ∧ ∀ i, i < n → w.workers i = .idle

theorem exists_work (cluster : Cluster) (w : AnnotatorWorld) {st : Stage} (h : st ≠ .idle) :
    ∃ a r, w.work st a = some r ∧ AnsweredAt cluster st a := by
  cases st with
  | idle => exact absurd rfl h
  | took u =>
      rcases u.level with ⟨hu, -⟩ | ⟨-, hu, -⟩ | ⟨-, -, hu⟩
      · exact ⟨.list (.error ""), _, if_pos hu, trivial⟩
      · refine ⟨.lookup 0, ?_⟩
        cases hc : w.wa.cachedWorkloads u.ns 0 <;>
          exact ⟨_, by simp only [work, if_pos hu, hc]; rfl, trivial⟩
      · refine ⟨.process 0, ?_⟩
        by_cases hd : w.wa.debounced u 0 = true
        · exact ⟨_, (if_pos hu).trans (if_pos hd), trivial⟩
        · exact ⟨_, (if_pos hu).trans (if_neg hd), trivial⟩
  | namespaces u rest =>
      cases rest with
      | nil => exact ⟨.finish, _, rfl, trivial⟩
      | cons ns rest => exact ⟨.announce, _, rfl, trivial⟩
  | fetching u =>
      exact ⟨.fetch (fun _ => .error "") 0, _, rfl, fun _ _ => trivial⟩
  | workloads u rest =>
      cases rest with
      | nil => exact ⟨.finish, _, rfl, trivial⟩
      | cons k rest =>
          refine ⟨.check 0, ?_⟩
          by_cases hd : w.wa.debounced k 0 = true
          · exact ⟨_, if_pos hd, trivial⟩
          · exact ⟨_, if_neg hd, trivial⟩
  | sending u k rest => exact ⟨.send, _, rfl, trivial⟩
  | checked u => exact ⟨.read, _, rfl, trivial⟩
  | read u snap => exact ⟨.patch (.error ""), _, rfl, trivial⟩
  | patched u => exact ⟨.stamp 0, _, rfl, trivial⟩

theorem exists_step (hn : 0 < n) (h : ¬ w.Drained n) : ∃ l w', Answered n cluster w l ∧ system.step w l w' := by
  by_cases hidle : ∀ i, i < n → w.workers i = .idle
  · cases hp : w.wa.pending with
    | nil => exact absurd ⟨hp, hidle⟩ h
    | cons u rest =>
        refine ⟨.worker 0 .take, ({ w with wa := { w.wa with pending := rest } } : AnnotatorWorld).put 0 (.took u),
          ⟨hn, trivial⟩, ?_⟩
        change (w.work (w.workers 0) .take).map _ = some _
        rw [hidle 0 hn, work, hp]
        rfl
  · push Not at hidle
    obtain ⟨i, hi, hst⟩ := hidle
    obtain ⟨a, r, hwork, hg⟩ := exists_work cluster w hst
    refine ⟨.worker i a, r.1.put i r.2, ⟨hi, hg⟩, ?_⟩
    change (w.work (w.workers i) a).map _ = some _
    rw [hwork]
    rfl

/-- With no further changes the workers come to the end of the queue: the entries they put in, the
entries they take and the steps they make are bounded, and they do not stop before the queue is
empty. A full queue drops entries, which are counted here all the same. -/
theorem queue_drains (hn : 0 < n) (hidle : ∀ i, w.workers i = .idle) (hcache : CacheWithin cluster w.wa)
    {ls : List AnnotatorLabel} (ht : system.Trace (Answered n cluster) w ls w') :
    ls.countP (·.queues) ≤ cluster.further w.wa.pending ∧
      ls.countP (·.takes) ≤ w.wa.pending.length + cluster.further w.wa.pending ∧
      ls.length ≤ 7 * (w.wa.pending.length + cluster.further w.wa.pending) ∧
      ((¬ ∃ l w'', Answered n cluster w' l ∧ system.step w' l w'') → w'.Drained n) := by
  have hqueues := countP_le_ofQueue hidle hcache ht (c := ⟨0, 1, 0⟩) AnnotatorLabel.one_le_of_queues
  have htakes := countP_le_ofQueue hidle hcache ht (c := ⟨1, 0, 0⟩) AnnotatorLabel.one_le_of_takes
  have hsteps := countP_le_ofQueue hidle hcache ht (p := fun _ => true) (c := ⟨1, 1, 1⟩)
    (fun l _ => AnnotatorLabel.one_le_uniform l)
  rw [List.countP_true] at hsteps
  refine ⟨hqueues.trans ?_, htakes.trans ?_, hsteps.trans ?_, ?_⟩
  · exact StepCosts.ofQueue_sends_le cluster _
  · exact StepCosts.ofQueue_takes_le cluster _
  · exact StepCosts.ofQueue_steps_le cluster _
  · intro hstuck
    by_contra h
    exact hstuck (exists_step hn h)

section Samples

def teamCluster : Cluster where
  namespaces := ["team"]
  workloads ns kind := if ns = "team" ∧ kind = "Deployment" then ["web"] else []
  namespace_names := by decide
  workload_names ns kind name h := by
    split at h
    · rw [List.mem_singleton.mp h]
      decide
    · cases h
  workloads_in ns h kind :=
    if_neg (fun hc : ns = "team" ∧ kind = "Deployment" => h (List.mem_singleton.mpr hc.1))

def clusterChanged : AnnotatorWorld :=
  { index := { start := .new }, wa := { debounceDuration := 30 * 1000000000, pending := [.clusterWide] } }

def drainLabels : List AnnotatorLabel :=
  [.take, .list (.ok ["team"]), .announce, .finish, .take, .lookup 0,
    .fetch (fun kind => .ok (if kind = "Deployment" then ["web"] else [])) 0, .check 0, .send, .finish, .take,
    .process 0, .read, .patch (.ok ()), .stamp 0].map (.worker 0)

theorem drainLabels_run :
    (System.exec next (fun w l => decide (Answered 1 teamCluster w l)) clusterChanged drainLabels).isSome = true := by
  decide +kernel

def clusterDrained : AnnotatorWorld :=
  (System.exec next (fun w l => decide (Answered 1 teamCluster w l)) clusterChanged drainLabels).get drainLabels_run

theorem queue_drains_team :
    (drainLabels.countP (·.queues) = 2 ∧ teamCluster.further clusterChanged.wa.pending = 2 ∧
      drainLabels.countP (·.takes) = 3 ∧ clusterDrained.Drained 1) ∧
    drainLabels.length ≤ 7 * (clusterChanged.wa.pending.length + teamCluster.further clusterChanged.wa.pending) := by
  have ht : system.Trace (Answered 1 teamCluster) clusterChanged drainLabels clusterDrained :=
    .of_exec (fun _ _ h => of_decide_eq_true h) (Option.some_get drainLabels_run).symm
  have hcache : CacheWithin teamCluster clusterChanged.wa := by
    intro ns cached hns hc
    cases hc
  obtain ⟨-, -, hlength, -⟩ := queue_drains Nat.one_pos (fun _ => rfl) hcache ht
  refine ⟨⟨by decide, by decide, by decide, by decide +kernel, ?_⟩, hlength⟩
  intro i hi
  obtain rfl : i = 0 := by omega
  rfl

end Samples

end AnnotatorWorld

end Nightjar.Notifier
