import Nightjar.Discovery.Channels
import Nightjar.Discovery.Routing

namespace Nightjar.Discovery

open Lib Adapters Lib.Strings Apimachinery

/-- Where a scan stands. The lock is held while it is `watching`. -/
inductive ScanPhase where
  | idle
  | examining (todo discovered : List GVR)
  | watching (todo : List GVR)
deriving DecidableEq, Repr

namespace ScanPhase

def unexamined : ScanPhase → List GVR
  | examining todo _ => todo
  | idle | watching _ => []

def pending : ScanPhase → List GVR
  | idle => []
  | examining _ discovered => discovered
  | watching todo => todo

end ScanPhase

/-- An engine in the middle of its scans. `lists` and `examined` belong to the latest
scan, whose verdicts are recorded newest first, and `past` to the earlier ones. -/
structure Scanner (α : Type) where
  engine : Engine α
  phase : ScanPhase := .idle
  lists : List APIResourceList := []
  examined : List (GVR × Bool) := []
  past : List (GVR × Bool) := []

/-- The moves of a scan. What the classification reads may be set anew before any of
them, except for the profiles. -/
inductive ScanStep (α : Type) where
  | reconfigure (registry : Registry α) (policyGroups nameHints : List String) (annotated : Bool)
  | begin (lists : List APIResourceList)
  | examine
  | refresh (crds : Option (List Unstructured))
  | watch (handlerOk : GVR → Bool)
  | finish

namespace Engine

variable {α : Type}

/-- What a scan examines: the resources, sub-resources apart, of the lists whose group
version parses. -/
def candidates [Apimachinery] (lists : List APIResourceList) : List GVR :=
  lists.flatMap (fun list =>
    match parseGroupVersion list.groupVersion with
    | .error _ => []
    | .ok (group, version) =>
        (list.apiResources.filter (fun name => !contains name "/")).map (GVR.mk group version))

theorem discover_eq [Apimachinery] [Unicode] (e : Engine α) (lists : List APIResourceList) :
    e.discover lists = (candidates lists).filter (fun gvr => e.isConstraintLike gvr gvr.resource) := by
  rw [discover, candidates, List.filter_flatMap]
  congr 1
  funext list
  cases parseGroupVersion list.groupVersion <;> rfl

theorem mem_suppressed_iff {e : Engine α} {g : GVR} :
    g ∈ e.suppressed ↔ ∃ ps ∈ e.profileStates, ps.enabled = false ∧ ps.gvr = g := by
  simp [suppressed, and_assoc]

theorem suppressed_watchGVR (handlerOk : GVR → Bool) (e : Engine α) (g : GVR) :
    (watchGVR handlerOk e g).suppressed = e.suppressed := by
  rw [watchGVR, startInformer]
  split
  · rfl
  · split <;> rfl

theorem watchedGVRs_watchGVR (handlerOk : GVR → Bool) (e : Engine α) (g : GVR) :
    (watchGVR handlerOk e g).watchedGVRs =
      if g ∈ e.suppressed then e.watchedGVRs else insert g e.watchedGVRs := by
  rw [watchGVR, startInformer]
  by_cases hs : g ∈ e.suppressed
  · rw [if_pos (.inl hs), if_pos hs]
  · rw [if_neg hs]
    by_cases hw : g ∈ e.watchedGVRs
    · rw [if_pos (.inr hw), Finset.insert_eq_of_mem hw]
    · rw [if_neg (not_or.mpr ⟨hs, hw⟩)]
      split <;> rfl

/-- What the calls of `startInformer` since `start` have done: there was one for each GVR that has become
watched and for no other, and it started an informer or failed. -/
def StartedSince (start e : Engine α) : Prop :=
  ∃ calls started, e.calls = calls ++ start.calls ∧ e.started = started ++ start.started ∧ calls.Nodup ∧
    (∀ g, g ∈ calls ↔ g ∈ e.watchedGVRs ∧ g ∉ start.watchedGVRs) ∧
    started.Sublist (calls.map (fun g => ⟨g, .engine⟩))

theorem startedSince_self (e : Engine α) : StartedSince e e :=
  ⟨[], [], rfl, rfl, List.nodup_nil, fun g => by simp, List.nil_sublist _⟩

theorem StartedSince.watchGVR {start e : Engine α} (h : StartedSince start e)
    (hgrows : start.watchedGVRs ⊆ e.watchedGVRs) (handlerOk : GVR → Bool) (g : GVR) :
    StartedSince start (watchGVR handlerOk e g) := by
  obtain ⟨calls, started, hcalls, hstarted, hnodup, hmem, hsublist⟩ := id h
  rw [Engine.watchGVR, startInformer]
  split
  · exact h
  · rename_i hnew
    obtain ⟨-, hunwatched⟩ := not_or.mp hnew
    have hcall : g ∉ calls := fun hg => hunwatched ((hmem g).mp hg).1
    have hmem' (g' : GVR) : g' ∈ g :: calls ↔ g' ∈ insert g e.watchedGVRs ∧ g' ∉ start.watchedGVRs := by
      rw [List.mem_cons, hmem, Finset.mem_insert, or_and_right]
      refine or_congr_left (iff_self_and.mpr ?_)
      rintro rfl hstart
      exact hunwatched (hgrows hstart)
    split
    · exact ⟨g :: calls, ⟨g, .engine⟩ :: started, congrArg _ hcalls, congrArg _ hstarted, hnodup.cons hcall, hmem',
        hsublist.cons_cons _⟩
    · exact ⟨g :: calls, started, congrArg _ hcalls, hstarted, hnodup.cons hcall, hmem', hsublist.cons _⟩

theorem StartedSince.refreshAnnotatedCRDs [Apimachinery] {start e : Engine α} (h : StartedSince start e)
    (crds : Option (List Unstructured)) : StartedSince start (e.refreshAnnotatedCRDs crds) := by
  obtain he | ⟨annotated, he⟩ := refreshAnnotatedCRDs_cases e crds
  · rw [he]
    exact h
  · rw [he]
    exact h

theorem refreshAnnotatedCRDs_frame [Apimachinery] (e : Engine α) (crds : Option (List Unstructured)) :
    (e.refreshAnnotatedCRDs crds).watchedGVRs = e.watchedGVRs ∧
      (e.refreshAnnotatedCRDs crds).suppressed = e.suppressed := by
  cases crds with
  | none => exact ⟨rfl, rfl⟩
  | some items =>
      rw [refreshAnnotatedCRDs]
      split <;> exact ⟨rfl, rfl⟩

end Engine

namespace Scanner

open Engine

variable {α : Type} [Apimachinery] [Unicode] {s s' : Scanner α}

def next (s : Scanner α) : ScanStep α → Option (Scanner α)
  | .reconfigure registry policyGroups nameHints annotated =>
      some { s with engine := { s.engine with
        registry := registry
        policyGroups := policyGroups
        nameHints := nameHints
        checkAnnotation := annotated } }
  | .begin lists =>
      match s.phase with
      | .idle => some { s with
          phase := .examining (candidates lists) []
          lists := lists
          examined := []
          past := s.examined ++ s.past }
      | _ => none
  | .examine =>
      match s.phase with
      | .examining (g :: todo) discovered => some { s with
          phase := .examining todo
            (if s.engine.isConstraintLike g g.resource then discovered ++ [g] else discovered)
          examined := (g, s.engine.isConstraintLike g g.resource) :: s.examined }
      | _ => none
  | .refresh crds =>
      match s.phase with
      | .examining [] discovered => some { s with
          engine := if s.engine.checkAnnotation then s.engine.refreshAnnotatedCRDs crds else s.engine
          phase := .watching discovered }
      | _ => none
  | .watch handlerOk =>
      match s.phase with
      | .watching (g :: todo) => some { s with
          engine := watchGVR handlerOk s.engine g
          phase := .watching todo }
      | _ => none
  | .finish =>
      match s.phase with
      | .watching [] => some { s with phase := .idle }
      | _ => none

def new (start : Engine α) : Scanner α where
  engine := start

def runs (start : Scanner α) : System (Scanner α) (ScanStep α) := .ofStep (· = start) next

inductive Step (s : Scanner α) : ScanStep α → Scanner α → Prop
  | reconfigure (registry) (policyGroups nameHints) (annotated) :
      Step s (.reconfigure registry policyGroups nameHints annotated) { s with engine := { s.engine with
        registry := registry
        policyGroups := policyGroups
        nameHints := nameHints
        checkAnnotation := annotated } }
  | begin (lists) (hphase : s.phase = .idle) : Step s (.begin lists) { s with
      phase := .examining (candidates lists) []
      lists := lists
      examined := []
      past := s.examined ++ s.past }
  | examine (g todo discovered) (hphase : s.phase = .examining (g :: todo) discovered) : Step s .examine { s with
      phase := .examining todo (if s.engine.isConstraintLike g g.resource then discovered ++ [g] else discovered)
      examined := (g, s.engine.isConstraintLike g g.resource) :: s.examined }
  | refresh (crds discovered) (hphase : s.phase = .examining [] discovered) : Step s (.refresh crds) { s with
      engine := if s.engine.checkAnnotation then s.engine.refreshAnnotatedCRDs crds else s.engine
      phase := .watching discovered }
  | watch (handlerOk g todo) (hphase : s.phase = .watching (g :: todo)) : Step s (.watch handlerOk) { s with
      engine := watchGVR handlerOk s.engine g
      phase := .watching todo }
  | finish (hphase : s.phase = .watching []) : Step s .finish { s with phase := .idle }

theorem step_of_next {l : ScanStep α} (h : s.next l = some s') : Step s l s' := by
  cases l with
  | reconfigure =>
      cases h
      exact .reconfigure ..
  | begin | examine | refresh | watch | finish =>
      rw [next] at h
      split at h
      · cases h
        constructor
        assumption
      · cases h

structure Progress (start : Engine α) (s : Scanner α) : Prop where
  started : StartedSince start s.engine
  grows : start.watchedGVRs ⊆ s.engine.watchedGVRs
  like_of_watched : ∀ g ∈ s.engine.watchedGVRs, g ∈ start.watchedGVRs ∨ (g, true) ∈ s.examined ++ s.past
  examined_eq : s.examined.reverse.map Prod.fst ++ s.phase.unexamined = candidates s.lists
  like_of_pending : ∀ g ∈ s.phase.pending, (g, true) ∈ s.examined
  pending_or_watched : ∀ g, (g, true) ∈ s.examined → g ∉ s.engine.suppressed →
    g ∈ s.phase.pending ∨ g ∈ s.engine.watchedGVRs

omit [Unicode] in
theorem progress_new (start : Engine α) : Progress start (Scanner.new start) where
  started := startedSince_self start
  grows := Finset.Subset.refl _
  like_of_watched := fun _ hg => .inl hg
  examined_eq := rfl
  like_of_pending := nofun
  pending_or_watched := nofun

theorem watchedGVRs_subset {l : ScanStep α} (h : Step s l s') : s.engine.watchedGVRs ⊆ s'.engine.watchedGVRs := by
  cases h with
  | reconfigure | begin | examine | finish => exact Finset.Subset.refl _
  | refresh crds =>
      dsimp only
      split
      · rw [(refreshAnnotatedCRDs_frame _ crds).1]
      · exact Finset.Subset.refl _
  | watch handlerOk g =>
      dsimp only
      rw [watchedGVRs_watchGVR]
      split
      · exact Finset.Subset.refl _
      · exact Finset.subset_insert g _

theorem suppressed_eq {l : ScanStep α} (h : Step s l s') : s'.engine.suppressed = s.engine.suppressed := by
  cases h with
  | reconfigure | begin | examine | finish => rfl
  | refresh crds =>
      dsimp only
      split
      · exact (refreshAnnotatedCRDs_frame _ crds).2
      · rfl
  | watch handlerOk g => exact suppressed_watchGVR handlerOk _ g

theorem Progress.step {start : Engine α} {l : ScanStep α} (h : Progress start s) (hstep : Step s l s') :
    Progress start s' := by
  have hgrows := watchedGVRs_subset hstep
  have hsuppressed := suppressed_eq hstep
  cases hstep with
  | reconfigure => exact ⟨h.1, h.2, h.3, h.4, h.5, h.6⟩
  | begin lists hphase =>
      refine ⟨h.started, h.grows, fun g hg => ?_, rfl, nofun, nofun⟩
      exact h.like_of_watched g hg
  | examine g todo discovered hphase =>
      have hexamined := h.examined_eq
      have hlike := h.like_of_pending
      have hdone := h.pending_or_watched
      rw [hphase] at hexamined hlike hdone
      refine ⟨h.started, h.grows, fun g' hg' => ?_, ?_, fun g' hg' => ?_, fun g' hg' hs => ?_⟩
      · exact (h.like_of_watched g' hg').imp_right (List.mem_cons_of_mem _)
      · simpa [ScanPhase.unexamined] using hexamined
      · rw [ScanPhase.pending] at hg'
        split at hg'
        · rename_i hg
          rcases List.mem_append.mp hg' with hg' | hg'
          · exact List.mem_cons_of_mem _ (hlike g' hg')
          · rw [List.mem_singleton.mp hg', hg]
            exact List.mem_cons_self
        · exact List.mem_cons_of_mem _ (hlike g' hg')
      · rw [ScanPhase.pending]
        rcases List.mem_cons.mp hg' with heq | hg'
        · obtain ⟨rfl, hg⟩ := Prod.mk.inj heq
          rw [if_pos hg.symm]
          exact .inl (List.mem_append_right _ List.mem_cons_self)
        · refine (hdone g' hg' hs).imp_left fun hg' => ?_
          split
          · exact List.mem_append_left _ hg'
          · exact hg'
  | refresh crds discovered hphase =>
      have hwatched : (if s.engine.checkAnnotation then s.engine.refreshAnnotatedCRDs crds else s.engine).watchedGVRs =
          s.engine.watchedGVRs := by
        split
        · exact (refreshAnnotatedCRDs_frame _ crds).1
        · rfl
      have hexamined := h.examined_eq
      have hlike := h.like_of_pending
      have hdone := h.pending_or_watched
      rw [hphase] at hexamined hlike hdone
      refine ⟨?_, h.grows.trans hgrows, fun g hg => ?_, hexamined, hlike, fun g hg hs => ?_⟩
      · dsimp only
        split
        · exact h.started.refreshAnnotatedCRDs crds
        · exact h.started
      · exact h.like_of_watched g (hwatched ▸ hg)
      · exact (hdone g hg (hsuppressed ▸ hs)).imp_right (@hgrows g)
  | watch handlerOk g todo hphase =>
      have hexamined := h.examined_eq
      have hlike := h.like_of_pending
      have hdone := h.pending_or_watched
      rw [hphase] at hexamined hlike hdone
      have hwatched := watchedGVRs_watchGVR handlerOk s.engine g
      refine ⟨h.started.watchGVR h.grows handlerOk g, h.grows.trans hgrows, fun g' hg' => ?_, hexamined,
        fun g' hg' => hlike g' (List.mem_cons_of_mem _ hg'), fun g' hg' hs => ?_⟩
      · dsimp only at hg'
        rw [hwatched] at hg'
        split at hg'
        · exact h.like_of_watched g' hg'
        · rcases Finset.mem_insert.mp hg' with rfl | hg'
          · exact .inr (List.mem_append_left _ (hlike g' List.mem_cons_self))
          · exact h.like_of_watched g' hg'
      · rw [hsuppressed] at hs
        rcases hdone g' hg' hs with hg' | hg'
        · rcases List.mem_cons.mp hg' with rfl | hg'
          · refine .inr ?_
            dsimp only
            rw [hwatched, if_neg hs]
            exact Finset.mem_insert_self ..
          · exact .inl hg'
        · exact .inr (hgrows hg')
  | finish hphase =>
      have hexamined := h.examined_eq
      have hdone := h.pending_or_watched
      rw [hphase] at hexamined hdone
      exact ⟨h.1, h.2, h.3, hexamined, nofun, hdone⟩

theorem progress_of_reachable {start : Engine α} (h : (runs (new start)).Reachable s) : Progress start s := by
  refine h.invariant ?_ ?_
  · rintro _ rfl
    exact progress_new start
  · intro s l s' hs _ hstep
    exact hs.step (step_of_next hstep)

theorem watchedGVRs_subset_of_reachable (h : (runs s).Reachable s') :
    s.engine.watchedGVRs ⊆ s'.engine.watchedGVRs := by
  refine h.invariant (I := fun s' => s.engine.watchedGVRs ⊆ s'.engine.watchedGVRs) ?_ ?_
  · rintro _ rfl
    exact Finset.Subset.refl _
  · intro t l t' ht _ hstep
    exact ht.trans (watchedGVRs_subset (step_of_next hstep))

section Uninterrupted

def scanSteps (e : Engine α) (lists : List APIResourceList) (crds : Option (List Unstructured))
    (handlerOk : GVR → Bool) : List (ScanStep α) :=
  let examine : List (ScanStep α) := List.replicate (candidates lists).length .examine
  let watch : List (ScanStep α) := List.replicate (e.discover lists).length (.watch handlerOk)
  ScanStep.begin lists :: (examine ++ ScanStep.refresh crds :: (watch ++ [ScanStep.finish]))

def execute (s : Scanner α) (ls : List (ScanStep α)) : Option (Scanner α) := System.exec next (fun _ _ => true) s ls

theorem execute_cons {l : ScanStep α} {ls : List (ScanStep α)} (h : s.next l = some s') :
    s.execute (l :: ls) = s'.execute ls := by
  rw [execute, System.exec, if_pos rfl, h]
  rfl

theorem execute_append {ls ms : List (ScanStep α)} (h : s.execute ls = some s') :
    s.execute (ls ++ ms) = s'.execute ms := by
  rw [execute, System.exec_append, show System.exec next (fun _ _ => true) s ls = some s' from h]
  rfl

theorem execute_examine {todo discovered : List GVR} (hphase : s.phase = .examining todo discovered) :
    ∃ s', s.execute (List.replicate todo.length .examine) = some s' ∧ s'.engine = s.engine ∧
      s'.phase = .examining [] (discovered ++ todo.filter (fun g => s.engine.isConstraintLike g g.resource)) := by
  induction todo generalizing s discovered with
  | nil => exact ⟨s, rfl, rfl, by rw [hphase, List.filter_nil, List.append_nil]⟩
  | cons g todo ih =>
      have hnext : ∃ t, s.next .examine = some t ∧ t.engine = s.engine ∧ t.phase = .examining todo
          (if s.engine.isConstraintLike g g.resource then discovered ++ [g] else discovered) := by
        rw [next, hphase]
        exact ⟨_, rfl, rfl, rfl⟩
      obtain ⟨t, hnext, hengine, ht⟩ := hnext
      obtain ⟨s', hexec, hengine', hs'⟩ := ih ht
      rw [List.length_cons, List.replicate_succ, execute_cons hnext]
      refine ⟨s', hexec, hengine'.trans hengine, ?_⟩
      rw [hs', hengine, List.filter_cons]
      split
      · rw [List.append_assoc]
        rfl
      · rfl

theorem execute_watch (handlerOk : GVR → Bool) {todo : List GVR} (hphase : s.phase = .watching todo) :
    ∃ s', s.execute (List.replicate todo.length (.watch handlerOk)) = some s' ∧
      s'.engine = s.engine.watchAll todo handlerOk ∧ s'.phase = .watching [] := by
  induction todo generalizing s with
  | nil => exact ⟨s, rfl, rfl, hphase⟩
  | cons g todo ih =>
      have hnext : ∃ t, s.next (.watch handlerOk) = some t ∧ t.engine = watchGVR handlerOk s.engine g ∧
          t.phase = .watching todo := by
        rw [next, hphase]
        exact ⟨_, rfl, rfl, rfl⟩
      obtain ⟨t, hnext, hengine, ht⟩ := hnext
      obtain ⟨s', hexec, hengine', hs'⟩ := ih ht
      rw [List.length_cons, List.replicate_succ, execute_cons hnext]
      exact ⟨s', hexec, by rw [hengine', hengine]; rfl, hs'⟩

theorem execute_scanSteps (hphase : s.phase = .idle) (lists : List APIResourceList)
    (crds : Option (List Unstructured)) (handlerOk : GVR → Bool) :
    ∃ s', s.execute (scanSteps s.engine lists crds handlerOk) = some s' ∧
      s'.engine = s.engine.scan lists crds handlerOk ∧ s'.phase = .idle := by
  have hbegin : ∃ t, s.next (.begin lists) = some t ∧ t.engine = s.engine ∧
      t.phase = .examining (candidates lists) [] := by
    rw [next, hphase]
    exact ⟨_, rfl, rfl, rfl⟩
  obtain ⟨t, hbegin, hengine, ht⟩ := hbegin
  obtain ⟨u, hexamine, hengine', hu⟩ := execute_examine ht
  rw [hengine, List.nil_append, ← discover_eq] at hu
  have hrefresh : ∃ v, u.next (.refresh crds) = some v ∧
      v.engine = (if s.engine.checkAnnotation then s.engine.refreshAnnotatedCRDs crds else s.engine) ∧
      v.phase = .watching (s.engine.discover lists) := by
    rw [next, hu, hengine', hengine]
    exact ⟨_, rfl, rfl, rfl⟩
  obtain ⟨v, hrefresh, hengine'', hv⟩ := hrefresh
  obtain ⟨w, hwatch, hscan, hw⟩ := execute_watch handlerOk hv
  have hfinish : ∃ s', w.next .finish = some s' ∧ s'.engine = w.engine ∧ s'.phase = .idle := by
    rw [next, hw]
    exact ⟨_, rfl, rfl, rfl⟩
  obtain ⟨s', hfinish, hengineFinal, hs'⟩ := hfinish
  refine ⟨s', ?_, ?_, hs'⟩
  · rw [scanSteps, execute_cons hbegin, execute_append hexamine, execute_cons hrefresh, execute_append hwatch,
      execute_cons hfinish]
    rfl
  · rw [hengineFinal, hscan, hengine'', scan]

end Uninterrupted

/-- Over any number of scans, `startInformer` is called once for each GVR that has become
watched and for no other, and the watched GVRs only grow. Between scans, those of the
latest lists that looked like constraints when they were examined are watched unless a
disabled profile names them, and nothing is watched that neither was at the start nor
looked like a constraint in some scan. -/
theorem scans_converge {start : Engine α} (h : (runs (new start)).Reachable s) (h' : (runs s).Reachable s') :
    StartedSince start s.engine ∧ s.engine.watchedGVRs ⊆ s'.engine.watchedGVRs ∧
    (s.phase = .idle → s.examined.reverse.map Prod.fst = candidates s.lists ∧
      ∀ g, (g, true) ∈ s.examined → (∀ ps ∈ s.engine.profileStates, ps.enabled = false → ps.gvr ≠ g) →
        g ∈ s.engine.watchedGVRs) ∧
    ∀ g ∈ s.engine.watchedGVRs, g ∈ start.watchedGVRs ∨ (g, true) ∈ s.examined ++ s.past := by
  have hprogress := progress_of_reachable h
  have hdone := hprogress.pending_or_watched
  have hexamined := hprogress.examined_eq
  refine ⟨hprogress.started, watchedGVRs_subset_of_reachable h', fun hphase => ⟨?_, fun g hg hnamed => ?_⟩,
    hprogress.like_of_watched⟩
  · rw [hphase, ScanPhase.unexamined, List.append_nil] at hexamined
    exact hexamined
  · have hsuppressed : g ∉ s.engine.suppressed := by
      rw [mem_suppressed_iff]
      rintro ⟨ps, hps, hdisabled, hgvr⟩
      exact hnamed ps hps hdisabled hgvr
    rw [hphase] at hdone
    exact (hdone g hg hsuppressed).resolve_left List.not_mem_nil

end Scanner

section Hints
attribute [local instance] Apimachinery.model asciiTables

/-- The same GVR in two lists, a sub-resource, a list with a malformed group version,
and a resource that the classification comes to know only later. -/
def hintedLists : List APIResourceList :=
  [⟨"example.io/v1", ["limits", "limits/status", "widgets"]⟩, ⟨"a/b/c", ["policies"]⟩, ⟨"example.io/v1", ["limits"]⟩]

def laterScan : List (ScanStep Builtin) :=
  [.begin hintedLists, .examine, .reconfigure controllerEngine.registry [] ["widget"] true, .examine, .examine,
    .refresh none, .watch (fun _ => true), .watch (fun _ => true), .finish]

def hintedSteps : List (ScanStep Builtin) :=
  Scanner.scanSteps controllerEngine hintedLists none (fun _ => true) ++ laterScan

def hinted : Scanner Builtin := ((Scanner.new controllerEngine).execute hintedSteps).get (by decide)

theorem scans_converge_hinted : (Scanner.runs (Scanner.new controllerEngine)).Reachable hinted ∧
    hinted.phase = .idle ∧ hinted.engine.calls = [⟨"example.io", "v1", "widgets"⟩, ⟨"example.io", "v1", "limits"⟩] ∧
    ∀ g, (g, true) ∈ hinted.examined → g ∈ hinted.engine.watchedGVRs := by
  have hreach : (Scanner.runs (Scanner.new controllerEngine)).Reachable hinted :=
    .exec (fun _ _ _ => trivial) (.init rfl) (Option.some_get _).symm
  have hphase : hinted.phase = .idle := by decide
  refine ⟨hreach, hphase, by decide, fun g hg => ?_⟩
  exact ((Scanner.scans_converge hreach (.init rfl)).2.2.1 hphase).2 g hg (List.forall_mem_nil _)

end Hints

end Nightjar.Discovery
