import Nightjar.Indexer
import Mathlib.Data.Finset.Basic
import Mathlib.Data.Finset.Dedup

namespace Nightjar.Notifier

def constraintNamespaces (c : Constraint) : List String :=
  c.affectedNamespaces ++ if c.ns = "" then [] else [c.ns]

/-- The state of `ReportReconciler`. Times and durations are in nanoseconds; the
client is only asked whether it is nil. -/
structure ReportReconciler where
  debounceDuration : Int
  dynamicClient : Bool
  lastReconcile : AList (fun _ : String => Int) := ∅
  pendingTriggers : Finset String := ∅
  clusterWideTriggered : Bool := false

inductive GetAnswer where
  | found (resourceVersion : String)
  | notFound
  | failed (err : String)
deriving DecidableEq, Repr

structure ReportAnswers where
  get : GetAnswer
  create : Except String Unit
  update : Except String Unit

def reconcileNamespace (a : ReportAnswers) : Except String Unit :=
  match a.get with
  | .failed err => .error err
  | .notFound => a.create
  | .found resourceVersion => if resourceVersion = "" then a.create else a.update

structure Answers where
  namespaces : Except String (List String)
  report : String → ReportAnswers
  checkedAt : String → Int
  doneAt : String → Int

namespace ReportReconciler

def new (debounceDuration : Int) (dynamicClient : Bool) : ReportReconciler where
  debounceDuration := if debounceDuration = 0 then 10 * 1000000000 else debounceDuration
  dynamicClient := dynamicClient

def onIndexChange (rr : ReportReconciler) (event : IndexEvent) : ReportReconciler :=
  if event.constraint.ns = "" ∧ (constraintNamespaces event.constraint).length = 0 then
    { rr with clusterWideTriggered := true }
  else { rr with pendingTriggers := rr.pendingTriggers ∪ (constraintNamespaces event.constraint).toFinset }

/-- A namespace never reconciled has the zero time, long ago. -/
def debounced (rr : ReportReconciler) (ns : String) (now : Int) : Bool :=
  (rr.lastReconcile.lookup ns).any (fun lastReconcile => decide (now - lastReconcile < rr.debounceDuration))

def taken (rr : ReportReconciler) : ReportReconciler :=
  { rr with pendingTriggers := ∅, clusterWideTriggered := false }

def requeue (rr : ReportReconciler) (ns : String) : ReportReconciler :=
  { rr with pendingTriggers := insert ns rr.pendingTriggers }

def stamp (rr : ReportReconciler) (ns : String) (now : Int) : ReportReconciler :=
  { rr with lastReconcile := rr.lastReconcile.insert ns now }

def triggers (rr : ReportReconciler) (a : Answers) : Finset String :=
  if rr.clusterWideTriggered && rr.dynamicClient then
    match a.namespaces with
    | .error _ => rr.pendingTriggers
    | .ok items => rr.pendingTriggers ∪ items.toFinset
  else rr.pendingTriggers

def visit (a : Answers) (run : ReportReconciler × List String) (ns : String) : ReportReconciler × List String :=
  if run.1.debounced ns (a.checkedAt ns) then (run.1.requeue ns, run.2)
  else
    match reconcileNamespace (a.report ns) with
    | .error _ => run
    | .ok _ => (run.1.stamp ns (a.doneAt ns), ns :: run.2)

/-- `processPendingTriggers`, with the namespaces it reconciled. The order in
which the loop visits the triggers is left open. -/
def processPendingTriggers (rr : ReportReconciler) (a : Answers) (order : List String) :
    ReportReconciler × List String :=
  order.foldl (visit a) (rr.taken, [])

section Visit
variable (a : Answers) (run : ReportReconciler × List String) (ns x : String)

theorem mem_pending_visit : ns ∈ (visit a run x).1.pendingTriggers ↔
    ns ∈ run.1.pendingTriggers ∨ ns = x ∧ run.1.debounced ns (a.checkedAt ns) = true := by
  rw [visit]
  split
  · rename_i hd
    have hns : ns = x ∧ run.1.debounced ns (a.checkedAt ns) = true ↔ ns = x :=
      and_iff_left_of_imp (fun h => h ▸ hd)
    rw [hns, requeue, Finset.mem_insert, or_comm]
  · rename_i hd
    have hns : ¬ (ns = x ∧ run.1.debounced ns (a.checkedAt ns) = true) := fun h => hd (h.1 ▸ h.2)
    rw [or_iff_left hns]
    split <;> rfl

theorem mem_reconciled_visit : ns ∈ (visit a run x).2 ↔ ns ∈ run.2 ∨ ns = x ∧
    run.1.debounced ns (a.checkedAt ns) = false ∧ reconcileNamespace (a.report ns) = .ok () := by
  rw [visit]
  split
  · rename_i hd
    refine (or_iff_left ?_).symm
    rintro ⟨rfl, hf, _⟩
    rw [hd] at hf
    cases hf
  · rename_i hd
    rw [Bool.not_eq_true] at hd
    split
    · rename_i err herr
      refine (or_iff_left ?_).symm
      rintro ⟨rfl, _, hok⟩
      rw [herr] at hok
      cases hok
    · rename_i hok
      rw [List.mem_cons, or_comm]
      refine or_congr_right ((and_iff_left_of_imp ?_).symm)
      rintro rfl
      exact ⟨hd, hok⟩

theorem clusterWideTriggered_visit :
    (visit a run x).1.clusterWideTriggered = run.1.clusterWideTriggered := by
  rw [visit]
  split
  · rfl
  · split <;> rfl

variable {ns x}

theorem debounced_visit (hne : ns ≠ x) (now : Int) :
    (visit a run x).1.debounced ns now = run.1.debounced ns now := by
  rw [visit]
  split
  · rfl
  · split
    · rfl
    · rw [debounced, stamp, AList.lookup_insert_ne hne]
      rfl

end Visit

section Loop
variable (a : Answers) {order : List String} (hn : order.Nodup) (run : ReportReconciler × List String) (ns : String)
include hn

theorem mem_pending_foldl_visit : ns ∈ (order.foldl (visit a) run).1.pendingTriggers ↔
    ns ∈ run.1.pendingTriggers ∨ ns ∈ order ∧ run.1.debounced ns (a.checkedAt ns) = true := by
  induction order generalizing run with
  | nil => simp
  | cons x xs ih =>
      obtain ⟨hx, hxs⟩ := List.nodup_cons.mp hn
      rw [List.foldl_cons, ih hxs, mem_pending_visit, List.mem_cons, or_and_right, or_assoc]
      refine or_congr_right (or_congr_right (and_congr_right fun hm => ?_))
      have hne : ns ≠ x := fun h => hx (h ▸ hm)
      rw [debounced_visit a run hne]

theorem mem_reconciled_foldl_visit : ns ∈ (order.foldl (visit a) run).2 ↔ ns ∈ run.2 ∨ ns ∈ order ∧
    run.1.debounced ns (a.checkedAt ns) = false ∧ reconcileNamespace (a.report ns) = .ok () := by
  induction order generalizing run with
  | nil => simp
  | cons x xs ih =>
      obtain ⟨hx, hxs⟩ := List.nodup_cons.mp hn
      rw [List.foldl_cons, ih hxs, mem_reconciled_visit, List.mem_cons, or_and_right, or_assoc]
      refine or_congr_right (or_congr_right (and_congr_right fun hm => ?_))
      have hne : ns ≠ x := fun h => hx (h ▸ hm)
      rw [debounced_visit a run hne]

omit hn in
theorem clusterWideTriggered_foldl_visit :
    (order.foldl (visit a) run).1.clusterWideTriggered = run.1.clusterWideTriggered := by
  induction order generalizing run with
  | nil => rfl
  | cons x xs ih => rw [List.foldl_cons, ih, clusterWideTriggered_visit]

end Loop

structure Visits (rr : ReportReconciler) (a : Answers) where
  order : List String
  nodup : order.Nodup
  complete : order.toFinset = rr.triggers a

def Served (rr : ReportReconciler) (a : Answers) (ns : String) : Prop :=
  rr.debounced ns (a.checkedAt ns) = true ∨ reconcileNamespace (a.report ns) = .ok ()

theorem served_iff {rr : ReportReconciler} {a : Answers} (v : Visits rr a) {ns : String} (hns : ns ∈ rr.triggers a) :
    ns ∈ (rr.processPendingTriggers a v.order).2 ∨ ns ∈ (rr.processPendingTriggers a v.order).1.pendingTriggers ↔
      rr.Served a ns := by
  have hm : ns ∈ v.order := by rw [← List.mem_toFinset, v.complete]; exact hns
  have hd : rr.taken.debounced ns (a.checkedAt ns) = rr.debounced ns (a.checkedAt ns) := rfl
  rw [processPendingTriggers, Served, mem_reconciled_foldl_visit a v.nodup, mem_pending_foldl_visit a v.nodup]
  have hp : rr.taken.pendingTriggers = ∅ := rfl
  rw [hd, hp]
  cases rr.debounced ns (a.checkedAt ns) <;> simp [hm]

/-- Every trigger of the run is served or still pending, and so is the request
for all namespaces. -/
def NothingLost (rr : ReportReconciler) (a : Answers) (after : ReportReconciler × List String) : Prop :=
  (∀ ns ∈ rr.pendingTriggers, ns ∈ after.2 ∨ ns ∈ after.1.pendingTriggers) ∧
  (rr.clusterWideTriggered = true → after.1.clusterWideTriggered = true ∨
    rr.dynamicClient = true ∧ ∃ items, a.namespaces = .ok items ∧
      ∀ ns ∈ items, ns ∈ after.2 ∨ ns ∈ after.1.pendingTriggers)

/-- A run loses nothing exactly when its only failures are those of the debounce
check: a failed write, a failed listing or a nil client loses the trigger. -/
theorem nothingLost_iff (rr : ReportReconciler) (a : Answers) (v : Visits rr a) :
    rr.NothingLost a (rr.processPendingTriggers a v.order) ↔
      (∀ ns ∈ rr.pendingTriggers, rr.Served a ns) ∧
      (rr.clusterWideTriggered = true → rr.dynamicClient = true ∧ ∃ items, a.namespaces = .ok items ∧
        ∀ ns ∈ items, rr.Served a ns) := by
  have hpending {ns : String} (hns : ns ∈ rr.pendingTriggers) : ns ∈ rr.triggers a := by
    rw [triggers]
    split
    · split
      · exact hns
      · exact Finset.mem_union_left _ hns
    · exact hns
  have hlisted {items : List String} (hc : rr.clusterWideTriggered = true) (hd : rr.dynamicClient = true)
      (hl : a.namespaces = .ok items) {ns : String} (hns : ns ∈ items) : ns ∈ rr.triggers a := by
    rw [triggers, hc, hd, hl]
    exact Finset.mem_union_right _ (List.mem_toFinset.mpr hns)
  have hflag : (rr.processPendingTriggers a v.order).1.clusterWideTriggered = false :=
    clusterWideTriggered_foldl_visit a _
  rw [NothingLost]
  refine and_congr (forall₂_congr fun ns hns => served_iff v (hpending hns)) (imp_congr_right fun hc => ?_)
  rw [hflag, or_iff_right Bool.false_ne_true]
  refine and_congr_right fun hd => exists_congr fun items => and_congr_right fun hl => ?_
  exact forall₂_congr fun ns hns => served_iff v (hlisted hc hd hl hns)

def onePending : ReportReconciler := { new 0 true with pendingTriggers := {"team"} }

def writesFail : Answers where
  namespaces := .ok []
  report _ := ⟨.notFound, .error "conflict", .ok ()⟩
  checkedAt _ := 0
  doneAt _ := 0

def visitsOnePending : Visits onePending writesFail := ⟨["team"], by decide, by decide⟩

theorem failed_write_loses_trigger :
    ¬ onePending.NothingLost writesFail (onePending.processPendingTriggers writesFail visitsOnePending.order) := by
  intro h
  exact absurd (h.1 "team" (by decide)) (by decide)

end ReportReconciler

end Nightjar.Notifier
