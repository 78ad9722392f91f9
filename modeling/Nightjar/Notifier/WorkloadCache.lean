import Nightjar.Notifier.AnnotatorWorkers
import Nightjar.Lib.Histories
import Nightjar.Lib.Tables

namespace Nightjar.Notifier

open Lib

structure NamespaceListing where
  contents : String → List String
  failure : String → Option String

namespace NamespaceListing

def answer (l : NamespaceListing) (kind : String) : Except String (List String) :=
  match l.failure kind with
  | some err => .error err
  | none => .ok (l.contents kind)

def complete (l : NamespaceListing) (ns : String) : List WorkloadKey :=
  fetchedWorkloads ns (fun kind => .ok (l.contents kind))

def Unfailed (l : NamespaceListing) : Prop := ∀ kind ∈ namespaceWorkloadKinds, l.failure kind.1 = none

/-- A List fails only for a kind of which the namespace holds nothing. -/
def FailsOnEmpty (l : NamespaceListing) : Prop :=
  ∀ kind ∈ namespaceWorkloadKinds, l.failure kind.1 ≠ none → l.contents kind.1 = []

theorem Unfailed.failsOnEmpty {l : NamespaceListing} (h : l.Unfailed) : l.FailsOnEmpty :=
  fun kind hkind hfail => absurd (h kind hkind) hfail

def part (ns kind : String) : Except String (List String) → List WorkloadKey
  | .error _ => []
  | .ok names => names.map (WorkloadKey.mk ns kind)

theorem fetchedWorkloads_eq (ns : String) (answer : String → Except String (List String)) :
    fetchedWorkloads ns answer = namespaceWorkloadKinds.flatMap (fun kind => part ns kind.1 (answer kind.1)) := rfl

theorem length_flatMap_le {α β : Type} {xs : List α} {f g : α → List β}
    (hle : ∀ x ∈ xs, (f x).length ≤ (g x).length) : (xs.flatMap f).length ≤ (xs.flatMap g).length := by
  induction xs with
  | nil => exact Nat.le_refl _
  | cons x xs ih =>
      have hrest := ih (fun y hy => hle y (List.mem_cons_of_mem x hy))
      have hx := hle x List.mem_cons_self
      simp only [List.flatMap_cons, List.length_append]
      omega

theorem flatMap_eq_iff {α β : Type} {xs : List α} {f g : α → List β}
    (hle : ∀ x ∈ xs, (f x).length ≤ (g x).length) :
    xs.flatMap f = xs.flatMap g ↔ ∀ x ∈ xs, f x = g x := by
  induction xs with
  | nil => simp
  | cons x xs ih =>
      have hrest : ∀ y ∈ xs, (f y).length ≤ (g y).length := fun y hy => hle y (List.mem_cons_of_mem x hy)
      rw [List.flatMap_cons, List.flatMap_cons, List.forall_mem_cons, ← ih hrest]
      constructor
      · intro h
        have hlength := congrArg List.length h
        have hx := hle x List.mem_cons_self
        have hxs := length_flatMap_le hrest
        rw [List.length_append, List.length_append] at hlength
        exact List.append_inj h (by omega)
      · rintro ⟨hx, hxs⟩
        rw [hx, hxs]

theorem part_answer_eq_iff (l : NamespaceListing) (ns kind : String) :
    part ns kind (l.answer kind) = part ns kind (.ok (l.contents kind)) ↔
      (l.failure kind ≠ none → l.contents kind = []) := by
  unfold answer
  cases l.failure kind with
  | none => exact iff_of_true rfl (fun h => absurd rfl h)
  | some err =>
      change [] = (l.contents kind).map (WorkloadKey.mk ns kind) ↔ _
      rw [eq_comm, List.map_eq_nil_iff]
      exact ⟨fun h _ => h, fun h => h (Option.some_ne_none err)⟩

theorem fetched_eq_complete_iff (l : NamespaceListing) (ns : String) :
    fetchedWorkloads ns l.answer = l.complete ns ↔ l.FailsOnEmpty := by
  rw [complete, fetchedWorkloads_eq, fetchedWorkloads_eq, flatMap_eq_iff]
  · exact forall₂_congr (fun kind _ => part_answer_eq_iff l ns kind.1)
  · intro kind _
    unfold answer
    split
    · exact Nat.zero_le _
    · exact Nat.le_refl _

end NamespaceListing

/-- A call of `listNamespaceWorkloads`: when it checks the cache and when it stores, and what the
namespace is like in between. -/
structure ListCall where
  ns : String
  now : Int
  stored : Int
  listing : NamespaceListing

structure CacheRun where
  wa : WorkloadAnnotator
  fetched : Table String NamespaceListing := ∅

namespace CacheRun

def Fetches (s : CacheRun) (c : ListCall) : Prop := s.wa.cachedWorkloads c.ns c.now = none

instance (s : CacheRun) (c : ListCall) : Decidable (s.Fetches c) := inferInstanceAs (Decidable (_ = none))

def call (s : CacheRun) (c : ListCall) : CacheRun where
  wa := (s.wa.listNamespaceWorkloads c.ns c.listing.answer c.now c.stored).1
  fetched := if s.Fetches c then s.fetched.insert c.ns c.listing else s.fetched

def run (debounceDuration : Int) (calls : List ListCall) : CacheRun := calls.foldl call ⟨.new debounceDuration, ∅⟩

theorem run_concat (d : Int) (calls : List ListCall) (c : ListCall) : run d (calls ++ [c]) = (run d calls).call c := by
  rw [run, List.foldl_append]
  rfl

def Serves (s : CacheRun) (ns : String) (now : Int) (workloads : List WorkloadKey) : Prop :=
  ns ≠ "" ∧ s.wa.cachedWorkloads ns now = some workloads

/-- What the cache serves is all the namespace held when it was fetched. -/
def ServesComplete (s : CacheRun) : Prop :=
  ∀ ns now workloads, s.Serves ns now workloads →
    ∃ l, s.fetched.lookup ns = some l ∧ workloads = l.complete ns

/-- What the cache serves was fetched without a failure. -/
def ServesUnfailed (s : CacheRun) : Prop :=
  ∀ ns now workloads, s.Serves ns now workloads → ∃ l, s.fetched.lookup ns = some l ∧ l.Unfailed

def Linked (s : CacheRun) : Prop :=
  ∀ ns, (s.wa.nsCache.lookup ns).map Prod.fst = (s.fetched.lookup ns).map (fun l => fetchedWorkloads ns l.answer)

theorem Linked.call {s : CacheRun} (h : s.Linked) (c : ListCall) : (s.call c).Linked := by
  intro ns
  unfold CacheRun.call WorkloadAnnotator.listNamespaceWorkloads
  cases hc : s.wa.cachedWorkloads c.ns c.now with
  | some workloads =>
      have hf : ¬ s.Fetches c := by
        rw [Fetches, hc]
        exact Option.some_ne_none _
      simp only [if_neg hf]
      exact h ns
  | none =>
      have hf : s.Fetches c := hc
      simp only [if_pos hf, WorkloadAnnotator.storeWorkloads]
      rw [Table.lookup_insert, Table.lookup_insert]
      split
      · subst ns
        rfl
      · exact h ns

theorem linked_run (d : Int) (calls : List ListCall) : (run d calls).Linked := by
  induction calls using List.reverseRecOn with
  | nil => exact fun _ => rfl
  | append_singleton calls c ih =>
      rw [run_concat]
      exact ih.call c

theorem serves_iff {s : CacheRun} (h : s.Linked) {ns : String} {workloads : List WorkloadKey} :
    (∃ now, s.Serves ns now workloads) ↔
      ns ≠ "" ∧ ∃ l, s.fetched.lookup ns = some l ∧ workloads = fetchedWorkloads ns l.answer := by
  have hlink := h ns
  constructor
  · rintro ⟨now, hns, hserved⟩
    refine ⟨hns, ?_⟩
    obtain ⟨fetchedAt, hcached, -⟩ := (WorkloadAnnotator.cachedWorkloads_eq_some_iff hns).mp hserved
    rw [hcached] at hlink
    obtain ⟨l, hl, he⟩ := Option.map_eq_some_iff.mp hlink.symm
    exact ⟨l, hl, he.symm⟩
  · rintro ⟨hns, l, hl, rfl⟩
    rw [hl] at hlink
    obtain ⟨⟨workloads, stored⟩, hcached, rfl⟩ := Option.map_eq_some_iff.mp hlink
    refine ⟨stored, hns, (WorkloadAnnotator.cachedWorkloads_eq_some_iff hns).mpr ⟨stored, hcached, ?_⟩⟩
    rw [Int.sub_self]
    decide

def AllFetched (Good : NamespaceListing → Prop) (s : CacheRun) : Prop :=
  ∀ ns l, ns ≠ "" → s.fetched.lookup ns = some l → Good l

theorem servesComplete_iff {s : CacheRun} (h : s.Linked) :
    s.ServesComplete ↔ s.AllFetched NamespaceListing.FailsOnEmpty := by
  constructor
  · intro hserves ns l hns hl
    obtain ⟨now, hserved⟩ := (serves_iff h).mpr ⟨hns, l, hl, rfl⟩
    obtain ⟨l', hl', he⟩ := hserves ns now _ hserved
    rw [hl] at hl'
    cases hl'
    exact (l.fetched_eq_complete_iff ns).mp he
  · intro hall ns now workloads hserved
    obtain ⟨hns, l, hl, rfl⟩ := (serves_iff h).mp ⟨now, hserved⟩
    exact ⟨l, hl, (l.fetched_eq_complete_iff ns).mpr (hall ns l hns hl)⟩

theorem servesUnfailed_iff {s : CacheRun} (h : s.Linked) :
    s.ServesUnfailed ↔ s.AllFetched NamespaceListing.Unfailed := by
  constructor
  · intro hserves ns l hns hl
    obtain ⟨now, hserved⟩ := (serves_iff h).mpr ⟨hns, l, hl, rfl⟩
    obtain ⟨l', hl', hgood⟩ := hserves ns now _ hserved
    rw [hl] at hl'
    cases hl'
    exact hgood
  · intro hall ns now workloads hserved
    obtain ⟨hns, l, hl, -⟩ := (serves_iff h).mp ⟨now, hserved⟩
    exact ⟨l, hl, hall ns l hns hl⟩

/-- Each call that fetches finds the namespace as it should be. -/
def FetchesOnly (Good : NamespaceListing → Prop) (d : Int) (calls : List ListCall) : Prop :=
  ∀ p c, p ++ [c] <+: calls → (run d p).Fetches c → Good c.listing

theorem allFetched_call_iff {Good : NamespaceListing → Prop} {s : CacheRun} (h : s.AllFetched Good) (c : ListCall) :
    (s.call c).AllFetched Good ↔ (s.Fetches c → Good c.listing) := by
  constructor
  · intro hall hf
    have hns : c.ns ≠ "" := by
      intro hns
      rw [Fetches, WorkloadAnnotator.cachedWorkloads, if_pos hns] at hf
      cases hf
    refine hall c.ns c.listing hns ?_
    rw [call, if_pos hf]
    exact AList.lookup_insert _
  · intro hgood ns l hns hl
    rw [call] at hl
    dsimp only at hl
    split at hl
    · rename_i hf
      rw [Table.lookup_insert] at hl
      split at hl
      · cases hl
        exact hgood hf
      · exact h ns l hns hl
    · exact h ns l hns hl

theorem allFetched_run_iff (Good : NamespaceListing → Prop) (d : Int) (calls : List ListCall) :
    (∀ p, p <+: calls → (run d p).AllFetched Good) ↔ FetchesOnly Good d calls := by
  refine forall_front_iff (P := fun p => (run d p).AllFetched Good) ?_ ?_ calls
  · intro ns l hns hl
    cases hl
  · intro p c h
    rw [run_concat]
    exact allFetched_call_iff h c

/-- Along a sequence of calls the cache never serves a listing with a failure in it exactly if no
List fails; and it never hides a workload exactly if a List fails only where there is nothing to list. -/
theorem cache_serves_complete_iff (d : Int) (calls : List ListCall) :
    ((∀ p, p <+: calls → (run d p).ServesComplete ∧ (run d p).ServesUnfailed) ↔
      FetchesOnly NamespaceListing.Unfailed d calls) ∧
    ((∀ p, p <+: calls → (run d p).ServesComplete) ↔ FetchesOnly NamespaceListing.FailsOnEmpty d calls) := by
  rw [← allFetched_run_iff, ← allFetched_run_iff]
  have hcomplete (p : List ListCall) := servesComplete_iff (linked_run d p)
  refine ⟨forall₂_congr (fun p _ => ?_), forall₂_congr (fun p _ => hcomplete p)⟩
  rw [hcomplete, servesUnfailed_iff (linked_run d p), and_iff_right_iff_imp]
  exact fun h ns l hns hl => (h ns l hns hl).failsOnEmpty

section Samples

def timedOut : ListCall where
  ns := "team"
  now := 0
  stored := 0
  listing := ⟨fun kind => if kind = "Deployment" then ["web"] else [],
    fun kind => if kind = "Deployment" then some "timeout" else none⟩

theorem cache_hides_deployment :
    (run 0 [timedOut]).Serves "team" 1 [] ∧
      (run 0 [timedOut]).fetched.lookup "team" = some timedOut.listing ∧
      timedOut.listing.complete "team" = [⟨"team", "Deployment", "web"⟩] ∧
      ¬ (run 0 [timedOut]).ServesComplete ∧ ¬ (run 0 [timedOut]).ServesUnfailed := by
  have hserved : (run 0 [timedOut]).Serves "team" 1 [] := ⟨by decide, by decide⟩
  have hfetched : (run 0 [timedOut]).fetched.lookup "team" = some timedOut.listing := rfl
  refine ⟨hserved, hfetched, by decide, ?_, ?_⟩
  · intro h
    obtain ⟨l, hl, he⟩ := h _ _ _ hserved
    rw [hfetched] at hl
    cases hl
    revert he
    decide
  · intro h
    obtain ⟨l, hl, hgood⟩ := h _ _ _ hserved
    rw [hfetched] at hl
    cases hl
    exact absurd (hgood ("Deployment", ⟨"apps", "v1", "deployments"⟩) List.mem_cons_self) (by decide)

end Samples

end CacheRun

namespace AnnotatorWorld

theorem work_lists {w : AnnotatorWorld} {u : WorkloadKey} (hu : u.IsNamespace)
    (answer : String → Except String (List String)) (now stored : Int) :
    ∃ wa workloads, w.wa.listNamespaceWorkloads u.ns answer now stored = (wa, .ok workloads) ∧
      (w.work (.took u) (.lookup now) = some ({ w with wa := wa }, .workloads u workloads) ∨
        w.work (.took u) (.lookup now) = some (w, .fetching u) ∧
          w.work (.fetching u) (.fetch answer stored) = some ({ w with wa := wa }, .workloads u workloads)) := by
  unfold WorkloadAnnotator.listNamespaceWorkloads
  cases hc : w.wa.cachedWorkloads u.ns now with
  | some workloads => exact ⟨w.wa, workloads, rfl, .inl (by simp [work, hu, hc])⟩
  | none => exact ⟨_, _, rfl, .inr ⟨by simp [work, hu, hc], rfl⟩⟩

end AnnotatorWorld

end Nightjar.Notifier
