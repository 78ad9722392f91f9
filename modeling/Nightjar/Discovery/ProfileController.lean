import Nightjar.Discovery.AnnotatedCRDs
import Nightjar.Discovery.Handlers
import Nightjar.Lib.WorkQueue

namespace Nightjar.Discovery

open Adapters Lib Lib.Strings

structure ConstraintProfileSpec where
  gvr : GVR
  adapter : String
  enabled : Bool
  severity : String := ""
  fieldPaths : Option Generic.FieldPaths := none
deriving DecidableEq, Repr

namespace ConstraintProfileSpec

def named (spec : ConstraintProfileSpec) (name : String) : ConstraintProfile :=
  ⟨name, spec.gvr, spec.adapter, spec.enabled, spec.severity, spec.fieldPaths⟩

/-- What the engine keeps of a profile, apart from the stop channel. -/
def state (spec : ConstraintProfileSpec) : ProfileState :=
  ⟨spec.gvr, spec.adapter, spec.fieldPaths, spec.severity, spec.enabled, none⟩

end ConstraintProfileSpec

inductive GetError where
  | notFound
  | other (err : String)

section Reconcile
variable {α : Type}

def reconcile (e : Engine α) (name : String) (profile : Except GetError ConstraintProfile) (handlerOk : Bool) :
    Except String (Engine α × List Mutation) :=
  match profile with
  | .error .notFound => .ok (e.unregisterProfile name)
  | .error (.other err) => .error err
  | .ok profile => .ok (e.registerProfile profile handlerOk, [])

/-- The answer of the cache for a profile that it holds or does not hold. -/
def found (name : String) (spec : Option ConstraintProfileSpec) : Except GetError ConstraintProfile :=
  match spec with
  | none => .error .notFound
  | some spec => .ok (spec.named name)

end Reconcile

/-- The controller of the ConstraintProfiles with its work queue and the engine; `cleanups` are the
deletions that `UnregisterProfile` makes after it has released the lock. -/
structure ProfileController (α : Type) where
  engine : Engine α
  index : Indexer := .new
  cleanups : List Mutation := []
  queue : WorkQueue String ConstraintProfileSpec := {}

inductive ProfileMove where
  | change (name : String) (spec : Option ConstraintProfileSpec)
  | enqueue
  | take
  | get
  | getFailed (err : String)
  | reconcile (handlerOk : Bool)
  | clean
  | refresh (crds : Option (List Unstructured))
  | watch (discovered : List GVR) (handlerOk : GVR → Bool)

namespace ProfileController

variable {α : Type}

def settle (w : ProfileController α) (q : WorkQueue String ConstraintProfileSpec)
    (answer : Except String (Engine α × List Mutation)) : Option (ProfileController α) :=
  match answer with
  | .ok (e, ms) => some { w with engine := e, cleanups := w.cleanups ++ ms, queue := q }
  | .error _ => (w.queue.next .retry).map (fun q => { w with queue := q })

def queued (w : ProfileController α) (a : WorkQueue.Action String ConstraintProfileSpec) :
    Option (ProfileController α) :=
  (w.queue.next a).map (fun q => { w with queue := q })

def next [Apimachinery] (w : ProfileController α) : ProfileMove → Option (ProfileController α)
  | .change name spec => w.queued (.change name spec)
  | .enqueue => w.queued .enqueue
  | .take => w.queued .take
  | .get => w.queued .read
  | .getFailed err =>
      match w.queue.active with
      | some (name, .taken) => w.settle w.queue (Discovery.reconcile w.engine name (.error (.other err)) true)
      | _ => none
  | .reconcile handlerOk =>
      match w.queue.finish with
      | some (q, name, spec) => w.settle q (Discovery.reconcile w.engine name (found name spec) handlerOk)
      | none => none
  | .clean =>
      match w.cleanups with
      | m :: rest => some { w with index := (w.index.apply m).1, cleanups := rest }
      | [] => none
  | .refresh crds => some { w with engine := w.engine.refreshAnnotatedCRDs crds }
  | .watch discovered handlerOk => some { w with engine := w.engine.watchAll discovered handlerOk }

structure Initial (w : ProfileController α) : Prop where
  profiles : w.engine.profiles = ∅
  cleanups : w.cleanups = []
  queue : w.queue = {}

def system (α : Type) [Apimachinery] : System (ProfileController α) ProfileMove := .ofStep Initial next

inductive Step [Apimachinery] (w : ProfileController α) : ProfileMove → ProfileController α → Prop
  | queue {l : ProfileMove} {q : WorkQueue String ConstraintProfileSpec} (h : w.queue.Step q) :
      Step w l { w with queue := q }
  | register {name : String} {spec : ConstraintProfileSpec} {q : WorkQueue String ConstraintProfileSpec}
      (h : w.queue.finish = some (q, name, some spec)) (handlerOk : Bool) :
      Step w (.reconcile handlerOk)
        { w with
          engine := w.engine.registerProfile (spec.named name) handlerOk
          cleanups := w.cleanups ++ []
          queue := q }
  | unregister {name : String} {q : WorkQueue String ConstraintProfileSpec}
      (h : w.queue.finish = some (q, name, none)) (handlerOk : Bool) :
      Step w (.reconcile handlerOk)
        { w with
          engine := (w.engine.unregisterProfile name).1
          cleanups := w.cleanups ++ (w.engine.unregisterProfile name).2
          queue := q }
  | clean {m : Mutation} {rest : List Mutation} (h : w.cleanups = m :: rest) :
      Step w .clean { w with index := (w.index.apply m).1, cleanups := rest }
  | refresh (crds : Option (List Unstructured)) :
      Step w (.refresh crds) { w with engine := w.engine.refreshAnnotatedCRDs crds }
  | watch (discovered : List GVR) (handlerOk : GVR → Bool) :
      Step w (.watch discovered handlerOk) { w with engine := w.engine.watchAll discovered handlerOk }

section Runs
variable [Apimachinery] {w w' : ProfileController α} {l : ProfileMove}

theorem step_of_queued {a : WorkQueue.Action String ConstraintProfileSpec} (h : w.queued a = some w') :
    Step w l w' := by
  obtain ⟨q, hq, rfl⟩ := Option.map_eq_some_iff.mp h
  exact .queue (WorkQueue.step_of_next hq)

theorem step_of_next (h : w.next l = some w') : Step w l w' := by
  cases l with
  | change name spec => exact step_of_queued h
  | enqueue => exact step_of_queued h
  | take => exact step_of_queued h
  | get => exact step_of_queued h
  | getFailed err =>
      rw [next] at h
      split at h
      · exact step_of_queued h
      · cases h
  | reconcile handlerOk =>
      rw [next] at h
      split at h
      · rename_i q name spec hfinish
        cases spec with
        | none =>
            cases h
            exact .unregister hfinish handlerOk
        | some spec =>
            cases h
            exact .register hfinish handlerOk
      · cases h
  | clean =>
      rw [next] at h
      split at h
      · rename_i hclean
        cases h
        exact .clean hclean
      · cases h
  | refresh crds =>
      cases h
      exact .refresh crds
  | watch discovered handlerOk =>
      cases h
      exact .watch discovered handlerOk

end Runs

end ProfileController

section Settings
variable {α : Type} {e : Engine α}

namespace Engine

/-- What the engine has registered under a name, apart from the stop channel. -/
def settings (e : Engine α) (name : String) : Option ProfileState :=
  (e.profiles.lookup name).map (fun ps => { ps with stopCh := none })

theorem settings_registerProfile (e : Engine α) (spec : ConstraintProfileSpec) (name : String) (handlerOk : Bool)
    (m : String) : (e.registerProfile (spec.named name) handlerOk).settings m =
      if m = name then some spec.state else e.settings m := by
  have hlookup : ∃ s, (e.registerProfile (spec.named name) handlerOk).profiles.lookup m =
      if m = name then some ((spec.named name).state s) else e.profiles.lookup m := lookup_registerProfile
  obtain ⟨s, hs⟩ := hlookup
  rw [settings, hs]
  split <;> rfl

theorem lookup_unregisterProfile_eq (e : Engine α) (name m : String) :
    (e.unregisterProfile name).1.profiles.lookup m = if m = name then none else e.profiles.lookup m := by
  split
  · rename_i hm
    subst hm
    obtain ⟨hnone, h⟩ | ⟨ps, -, ⟨-, h⟩ | ⟨-, h⟩⟩ := unregisterProfile_cases e m
    · rw [h, hnone]
    · rw [h, lookup_removeProfile, if_pos rfl]
    · rw [h]
      exact lookup_removeProfile.trans (if_pos rfl)
  · rename_i hm
    exact lookup_unregisterProfile hm

theorem settings_unregisterProfile (e : Engine α) (name m : String) :
    (e.unregisterProfile name).1.settings m = if m = name then none else e.settings m := by
  rw [settings, lookup_unregisterProfile_eq]
  split <;> rfl

theorem settings_watchAll (e : Engine α) (discovered : List GVR) (handlerOk : GVR → Bool) (m : String) :
    (e.watchAll discovered handlerOk).settings m = e.settings m := by
  rw [settings, (watchAll_frame e discovered handlerOk).2.2.2]
  rfl

theorem settings_refreshAnnotatedCRDs [Apimachinery] (e : Engine α) (crds : Option (List Unstructured)) (m : String) :
    (e.refreshAnnotatedCRDs crds).settings m = e.settings m := by
  obtain h | ⟨annotated, h⟩ := refreshAnnotatedCRDs_cases e crds
  · rw [h]
  · rw [h]
    rfl

/-- The route of an object of the GVR when it is the given profile that is for it. -/
def routeFor (registry : Registry α) (choice : Option ConstraintProfileSpec) (gvr : GVR) : Route α :=
  let named := choice.bind (fun spec =>
    if spec.adapter ≠ "" ∧ spec.adapter ≠ "generic" then registry.forName spec.adapter else none)
  match (named.or (registry.forGVR gvr)).or (registry.forGroup gvr.group) with
  | some a => .adapter a
  | none =>
      match choice with
      | some spec => .genericWith ⟨spec.fieldPaths, spec.severity⟩
      | none => .generic

end Engine

/-- The profile is one of those in the cluster that are enabled for the GVR, or there is none. -/
def Chosen (cluster : String → Option ConstraintProfileSpec) (gvr : GVR) : Option ConstraintProfileSpec → Prop
  | some spec => (∃ name, cluster name = some spec) ∧ spec.enabled = true ∧ spec.gvr = gvr
  | none => ∀ name spec, cluster name = some spec → spec.enabled = true → spec.gvr ≠ gvr

section Chosen
variable {cluster : String → Option ConstraintProfileSpec}
  (h : ∀ name, e.settings name = (cluster name).map ConstraintProfileSpec.state) {gvr : GVR} {order : e.Order}
include h

theorem chosen_of_profileFor {ps : ProfileState} (hfor : e.profileFor order gvr = some ps) :
    ∃ spec, Chosen cluster gvr (some spec) ∧ { ps with stopCh := none } = spec.state := by
  obtain ⟨name, hlookup⟩ := Engine.mem_profileStates.mp (order.perm.mem_iff.mp (List.mem_of_find?_eq_some hfor))
  have hsettings := h name
  rw [Engine.settings, hlookup] at hsettings
  obtain ⟨spec, hspec, hstate⟩ := Option.map_eq_some_iff.mp hsettings.symm
  obtain ⟨hgvr, -, -, -, henabled, -⟩ := ProfileState.mk.inj hstate
  have hfound := List.find?_some hfor
  rw [Bool.and_eq_true, decide_eq_true_eq] at hfound
  exact ⟨spec, ⟨⟨name, hspec⟩, henabled.trans hfound.1, hgvr.trans hfound.2⟩, hstate.symm⟩

theorem chosen_of_profileFor_none (hfor : e.profileFor order gvr = none) : Chosen cluster gvr none := by
  intro name spec hspec henabled hgvr
  have hsettings := h name
  rw [hspec, Engine.settings] at hsettings
  obtain ⟨ps, hlookup, hstate⟩ := Option.map_eq_some_iff.mp hsettings
  obtain ⟨hgvr', -, -, -, henabled', -⟩ := ProfileState.mk.inj hstate
  have hmem : ps ∈ order.states := order.perm.mem_iff.mpr (Engine.mem_profileStates.mpr ⟨name, hlookup⟩)
  have hnot := List.find?_eq_none.mp hfor ps hmem
  rw [henabled', hgvr', henabled, hgvr] at hnot
  simp at hnot

theorem route_of_settings (order : e.Order) (gvr : GVR) :
    ∃ choice, Chosen cluster gvr choice ∧ e.route order gvr = Engine.routeFor e.registry choice gvr := by
  cases hfor : e.profileFor order gvr with
  | none =>
      refine ⟨none, chosen_of_profileFor_none h hfor, ?_⟩
      rw [Engine.route, hfor]
      rfl
  | some ps =>
      obtain ⟨spec, hchosen, hstate⟩ := chosen_of_profileFor h hfor
      refine ⟨some spec, hchosen, ?_⟩
      obtain ⟨-, hadapter, hpaths, hseverity, -, -⟩ := ProfileState.mk.inj hstate
      rw [Engine.route, hfor, Engine.routeFor, Option.bind_some, ← hadapter, ← hpaths, ← hseverity]
      rfl

end Chosen

end Settings

section Obeyed
variable {α : Type} {e : Engine α}

structure Obeyed (e : Engine α) : Prop where
  watched : ∀ {name ps}, e.profiles.lookup name = some ps → (ps.gvr ∈ e.watchedGVRs ↔ ps.enabled = true)
  apart : ∀ {name ps m ps'}, e.profiles.lookup name = some ps → e.profiles.lookup m = some ps' → m ≠ name →
    ps'.gvr ≠ ps.gvr

theorem Obeyed.registerProfile (h : Obeyed e) (spec : ConstraintProfileSpec) (name : String)
    (handlerOk : Bool) (hapart : ∀ m ps, m ≠ name → e.profiles.lookup m = some ps → ps.gvr ≠ spec.gvr) :
    Obeyed (e.registerProfile (spec.named name) handlerOk) := by
  have hlookup {m : String} {ps : ProfileState}
      (hps : (e.registerProfile (spec.named name) handlerOk).profiles.lookup m = some ps) :
      (m = name ∧ ps.gvr = spec.gvr ∧ ps.enabled = spec.enabled) ∨ (m ≠ name ∧ e.profiles.lookup m = some ps) := by
    have hregistered : ∃ s, (e.registerProfile (spec.named name) handlerOk).profiles.lookup m =
        if m = name then some ((spec.named name).state s) else e.profiles.lookup m := Engine.lookup_registerProfile
    obtain ⟨s, hs⟩ := hregistered
    rw [hs] at hps
    split at hps
    · rename_i hm
      cases hps
      exact .inl ⟨hm, rfl, rfl⟩
    · rename_i hm
      exact .inr ⟨hm, hps⟩
  constructor
  · intro m ps hps
    rw [Engine.mem_watched_registerProfile]
    obtain ⟨-, hgvr, henabled⟩ | ⟨hm, hps⟩ := hlookup hps
    · rw [hgvr, henabled]
      exact iff_of_eq (if_pos rfl)
    · exact (iff_of_eq (if_neg (hapart m ps hm hps))).trans (h.watched hps)
  · intro m ps m' ps' hps hps' hne
    obtain ⟨hm, hgvr, -⟩ | ⟨hm, hold⟩ := hlookup hps
    · obtain ⟨hm', -⟩ | ⟨hm', hold'⟩ := hlookup hps'
      · exact absurd (hm'.trans hm.symm) hne
      · rw [hgvr]
        exact hapart m' ps' hm' hold'
    · obtain ⟨-, hgvr', -⟩ | ⟨-, hold'⟩ := hlookup hps'
      · rw [hgvr']
        exact (hapart m ps hm hold).symm
      · exact h.apart hold hold' hne

theorem Obeyed.unregisterProfile (h : Obeyed e) (name : String) :
    Obeyed (e.unregisterProfile name).1 := by
  have hlookup {m : String} {ps : ProfileState} (hps : (e.unregisterProfile name).1.profiles.lookup m = some ps) :
      m ≠ name ∧ e.profiles.lookup m = some ps := by
    rw [Engine.lookup_unregisterProfile_eq] at hps
    split at hps
    · cases hps
    · exact ⟨‹_›, hps⟩
  constructor
  · intro m ps hps
    obtain ⟨hm, hps⟩ := hlookup hps
    rw [Engine.mem_watched_unregisterProfile, ← h.watched hps]
    refine and_iff_left fun ps' hps' hgvr => ?_
    exact absurd hgvr.symm (h.apart hps' hps hm)
  · intro m ps m' ps' hps hps' hne
    exact h.apart (hlookup hps).2 (hlookup hps').2 hne

theorem Obeyed.watchAll (h : Obeyed e) (discovered : List GVR) (handlerOk : GVR → Bool) :
    Obeyed (e.watchAll discovered handlerOk) := by
  obtain ⟨-, -, -, hprofiles⟩ := Engine.watchAll_frame e discovered handlerOk
  constructor
  · intro name ps hps
    rw [hprofiles] at hps
    cases henabled : ps.enabled with
    | true => exact iff_of_true (Engine.mem_watchedGVRs_watchAll.mpr (.inl ((h.watched hps).mpr henabled))) rfl
    | false =>
        have hsuppressed : e.Suppressed ps.gvr :=
          ⟨fun hw => by simpa [henabled] using (h.watched hps).mp hw, name, ps, hps, rfl, henabled⟩
        exact iff_of_false (hsuppressed.watchAll discovered handlerOk).unwatched Bool.false_ne_true
  · intro name ps m ps' hps hps'
    rw [hprofiles] at hps hps'
    exact h.apart hps hps'

end Obeyed

namespace ProfileController

section Convergence
variable {α : Type} [Apimachinery] {w w' : ProfileController α} {l : ProfileMove}
  {G : ProfileController α → ProfileMove → Prop}

def Mirrors (w : ProfileController α) : Prop := w.queue.Tracks ConstraintProfileSpec.state w.engine.settings

theorem Mirrors.step (h : w.Mirrors) (hs : Step w l w') : w'.Mirrors := by
  cases hs with
  | queue hq => exact WorkQueue.Tracks.step h hq
  | register hfinish handlerOk =>
      exact WorkQueue.Tracks.finish h hfinish (w.engine.settings_registerProfile _ _ handlerOk)
  | unregister hfinish handlerOk => exact WorkQueue.Tracks.finish h hfinish (w.engine.settings_unregisterProfile _)
  | clean => exact h
  | refresh crds =>
      rw [Mirrors, funext (w.engine.settings_refreshAnnotatedCRDs crds)]
      exact h
  | watch discovered handlerOk =>
      rw [Mirrors, funext (w.engine.settings_watchAll discovered handlerOk)]
      exact h

theorem mirrors_of_reaches (h : (system α).Reaches G w) : w.Mirrors := by
  refine h.invariant (fun w hw => ?_) fun w l w' hw _ hnext => hw.step (step_of_next hnext)
  intro name
  left
  rw [hw.queue, WorkQueue.outcome, Engine.settings, hw.profiles]
  rfl

/-- Once nothing waits, the engine has registered the profiles of the cluster as they are, and it
parses the objects of a GVR as one of the profiles that are enabled for it says. -/
theorem profiles_converge (h : (system α).Reachable w) (hsettled : w.queue.Settled) :
    (∀ name, w.engine.settings name = (w.queue.cache name).map ConstraintProfileSpec.state) ∧
      ∀ order gvr, ∃ choice, Chosen w.queue.cache gvr choice ∧
        w.engine.route order gvr = Engine.routeFor w.engine.registry choice gvr := by
  have hmirrors := (mirrors_of_reaches h).settled hsettled
  exact ⟨hmirrors, route_of_settings hmirrors⟩

/-- A profile is registered only while no other profile that is registered names its GVR. -/
def Exclusive (w : ProfileController α) (_ : ProfileMove) : Prop :=
  ∀ name spec, w.queue.active = some (name, .read (some spec)) →
    ∀ m ps, m ≠ name → w.engine.profiles.lookup m = some ps → ps.gvr ≠ spec.gvr

theorem obeyed_step (h : Obeyed w.engine) (hg : w.Exclusive l) (hs : Step w l w') : Obeyed w'.engine := by
  cases hs with
  | queue | clean => exact h
  | register hfinish handlerOk =>
      exact h.registerProfile _ _ handlerOk (hg _ _ (WorkQueue.finish_eq_some hfinish).1)
  | unregister hfinish handlerOk => exact h.unregisterProfile _
  | refresh crds =>
      obtain heq | ⟨annotated, heq⟩ := Engine.refreshAnnotatedCRDs_cases w.engine crds
      · dsimp only
        rw [heq]
        exact h
      · dsimp only
        rw [heq]
        exact ⟨h.watched, h.apart⟩
  | watch discovered handlerOk => exact h.watchAll discovered handlerOk

/-- Once nothing waits, the GVR of a profile is watched if and only if the profile is enabled, provided
that profiles for one GVR are never registered together. -/
theorem watched_iff_enabled (h : (system α).Reaches Exclusive w) (hsettled : w.queue.Settled) {name : String}
    {spec : ConstraintProfileSpec} (hspec : w.queue.cache name = some spec) :
    spec.gvr ∈ w.engine.watchedGVRs ↔ spec.enabled = true := by
  have hobeyed : Obeyed w.engine := by
    refine h.invariant (I := fun w => Obeyed w.engine) (fun w hw => ?_) fun w l w' hw hg hnext =>
      obeyed_step hw hg (step_of_next hnext)
    constructor <;> simp [hw.profiles]
  have hsettings := (mirrors_of_reaches h).settled hsettled name
  rw [hspec, Engine.settings] at hsettings
  obtain ⟨ps, hlookup, hstate⟩ := Option.map_eq_some_iff.mp hsettings
  obtain ⟨hgvr, -, -, -, henabled, -⟩ := ProfileState.mk.inj hstate
  rw [← hgvr, ← henabled]
  exact hobeyed.watched hlookup

end Convergence

section Sample
attribute [local instance] Apimachinery.model asciiTables

def exampleSpec (resource : String) (enabled : Bool) : ConstraintProfileSpec where
  gvr := ⟨"example.io", "v1", resource⟩
  adapter := "generic"
  enabled := enabled
  severity := "critical"

def started : ProfileController Builtin := { engine := controllerEngine }

theorem initial_started : started.Initial := ⟨rfl, rfl, rfl⟩

def disabledMeanwhile : List ProfileMove :=
  [.change "limits" (some (exampleSpec "limits" true)), .enqueue, .take, .get,
    .change "limits" (some (exampleSpec "limits" false)), .reconcile true, .enqueue, .take, .getFailed "timeout",
    .change "quotas" (some (exampleSpec "quotas" true)), .enqueue, .take, .get, .reconcile true, .take, .get,
    .reconcile true, .watch [(exampleSpec "limits" true).gvr, (exampleSpec "quotas" true).gvr] (fun _ => true)]

def isExclusive (w : ProfileController Builtin) : Bool :=
  match w.queue.active with
  | some (name, .read (some spec)) =>
      w.engine.profiles.entries.all (fun entry => entry.1 = name || !decide (entry.2.gvr = spec.gvr))
  | _ => true

theorem exclusive_of_isExclusive {w : ProfileController Builtin} (h : w.isExclusive = true) (l : ProfileMove) :
    w.Exclusive l := by
  intro name spec hactive m ps hm hps hgvr
  rw [isExclusive, hactive] at h
  have hentry := List.all_eq_true.mp h ⟨m, ps⟩ (AList.mem_lookup_iff.mp hps)
  simp [hm, hgvr] at hentry

theorem disabledMeanwhile_runs :
    (System.exec next (fun w _ => w.isExclusive) started disabledMeanwhile).isSome = true := by decide +kernel

def converged : ProfileController Builtin :=
  (System.exec next (fun w _ => w.isExclusive) started disabledMeanwhile).get disabledMeanwhile_runs

theorem reaches_converged : (system Builtin).Reaches Exclusive converged :=
  (System.Reaches.init initial_started).exec (fun _ l h => exclusive_of_isExclusive h l)
    (Option.some_get disabledMeanwhile_runs).symm

theorem settled_converged : converged.queue.Settled := ⟨rfl, rfl, rfl⟩

theorem profiles_converge_converged :
    converged.engine.settings "limits" = some (exampleSpec "limits" false).state ∧
      ∃ choice, Chosen converged.queue.cache (exampleSpec "quotas" true).gvr choice ∧
        converged.engine.route default (exampleSpec "quotas" true).gvr =
          Engine.routeFor converged.engine.registry choice (exampleSpec "quotas" true).gvr := by
  have hreachable : (system Builtin).Reachable converged :=
    (System.Reaches.init initial_started).exec (fun _ _ _ => trivial) (Option.some_get disabledMeanwhile_runs).symm
  obtain ⟨hsettings, hroute⟩ := profiles_converge hreachable settled_converged
  exact ⟨hsettings "limits", hroute default _⟩

theorem watched_iff_enabled_converged :
    (exampleSpec "limits" false).gvr ∉ converged.engine.watchedGVRs ∧
      (exampleSpec "quotas" true).gvr ∈ converged.engine.watchedGVRs := by
  have hlimits : converged.queue.cache "limits" = some (exampleSpec "limits" false) := rfl
  have hquotas : converged.queue.cache "quotas" = some (exampleSpec "quotas" true) := rfl
  exact ⟨fun hw => Bool.false_ne_true ((watched_iff_enabled reaches_converged settled_converged hlimits).mp hw),
    (watched_iff_enabled reaches_converged settled_converged hquotas).mpr rfl⟩

end Sample

end ProfileController

end Nightjar.Discovery
