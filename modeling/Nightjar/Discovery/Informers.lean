import Nightjar.Discovery.Channels
import Nightjar.Discovery.Routing

namespace Nightjar.Discovery

open Lib Adapters Lib.Strings

/-- The calls that change the engine, with the answers of the API. `refresh` and
`watch` are the two parts of a `scan` between which other calls may come. -/
inductive Op where
  | register (p : ConstraintProfile) (handlerOk : Bool)
  | unregister (name : String)
  | scan (lists : List APIResourceList) (crds : Option (List Unstructured)) (handlerOk : GVR → Bool)
  | refresh (crds : Option (List Unstructured))
  | watch (discovered : List GVR) (handlerOk : GVR → Bool)
  | stop

def Op.Undisturbed : Op → Prop
  | register _ handlerOk => handlerOk = true
  | scan _ _ handlerOk | watch _ handlerOk => ∀ g, handlerOk g = true
  | unregister _ | refresh _ => True
  | stop => False

namespace Engine

variable {α : Type}

/-- Some informer started for the GVR has an open stop channel. -/
def Live (e : Engine α) (g : GVR) : Prop := ∃ c, ⟨g, c⟩ ∈ e.started ∧ c ∉ e.closed

def LiveWithout (e : Engine α) (ch : Nat) (g : GVR) : Prop :=
  ∃ c, ⟨g, c⟩ ∈ e.started ∧ c ∉ e.closed ∧ c ≠ .profile ch

def Running (e : Engine α) (ch : Nat) : Prop := (∃ g, ⟨g, .profile ch⟩ ∈ e.started) ∧ .profile ch ∉ e.closed

structure Fresh (e : Engine α) : Prop where
  watchedGVRs : e.watchedGVRs = ∅
  profiles : e.profiles = ∅
  started : e.started = []
  closed : e.closed = ∅
  stopped : e.stopped = false

theorem Fresh.channels {e : Engine α} (h : e.Fresh) : Channels e := by
  constructor <;> simp [Stored, h.profiles, h.started, h.closed]

section Runs
variable [Apimachinery] [Unicode]

def run (e : Engine α) : Op → Engine α
  | .register p handlerOk => e.registerProfile p handlerOk
  | .unregister name => (e.unregisterProfile name).1
  | .scan lists crds handlerOk => e.scan lists crds handlerOk
  | .refresh crds => e.refreshAnnotatedCRDs crds
  | .watch discovered handlerOk => e.watchAll discovered handlerOk
  | .stop => e.stop

def lifecycle (α : Type) (dynamicClient : Bool) : System (Engine α) Op where
  init e := e.Fresh ∧ e.dynamicClient = dynamicClient
  step e op e' := e' = e.run op

theorem Channels.run {e : Engine α} (h : Channels e) (op : Op) : Channels (e.run op) := by
  cases op with
  | register p handlerOk => exact h.registerProfile p handlerOk
  | unregister name => exact h.unregisterProfile name
  | scan lists crds handlerOk =>
      apply Channels.watchAll
      split
      · exact h.refreshAnnotatedCRDs crds
      · exact h
  | refresh crds => exact h.refreshAnnotatedCRDs crds
  | watch discovered handlerOk => exact h.watchAll discovered handlerOk
  | stop => exact h.stop

end Runs

section Liveness
variable {e : Engine α}

/-- The call does not close the last open channel of a GVR that stays watched.
A registration does so when it retargets the profile that owns the informer, a
removal when another enabled profile relies on it. -/
def KeepsWatchers (e : Engine α) : Op → Prop
  | .register p _ => ∀ ch g, e.Stored p.name ch g → g ≠ p.gvr → g ∈ e.watchedGVRs → e.LiveWithout ch g
  | .unregister name => ∀ ch g, e.Stored name ch g → e.Needed name g → g ∈ e.watchedGVRs → e.LiveWithout ch g
  | _ => True

theorem live_stopProfileInformer (h : Channels e) {name : String} {g : GVR} (hlive : e.Live g)
    (hkeep : ∀ ch, e.Stored name ch g → e.LiveWithout ch g) :
    ∃ c, ⟨g, c⟩ ∈ e.started ∧ c ∉ (e.stopProfileInformer name).closed := by
  simp only [closed_stopProfileInformer]
  obtain ⟨c, hc, hopen⟩ := hlive
  by_cases hown : ∃ ch, c = .profile ch ∧ ∃ g', e.Stored name ch g'
  · obtain ⟨ch, rfl, g', hs⟩ := hown
    cases h.stored_gvr hs hc
    obtain ⟨c', hc', hopen', hne'⟩ := hkeep ch hs
    refine ⟨c', hc', ?_⟩
    rintro (hcl | ⟨ch', g', rfl, hs'⟩)
    · exact hopen' hcl
    · rw [(hs'.eq hs).1] at hne'
      exact hne' rfl
  · refine ⟨c, hc, ?_⟩
    rintro (hcl | ⟨ch, g', rfl, hs⟩)
    · exact hopen hcl
    · exact hown ⟨ch, rfl, g', hs⟩

theorem live_registerProfile (h : Channels e) (hlive : ∀ g ∈ e.watchedGVRs, e.Live g)
    (hclient : e.dynamicClient = true) (p : ConstraintProfile) (hkeep : e.KeepsWatchers (.register p true)) :
    ∀ g ∈ (e.registerProfile p true).watchedGVRs, (e.registerProfile p true).Live g := by
  intro g hg
  rw [Live]
  simp only [(registerProfile_frame e p _).1, mem_started_registerProfile]
  rw [mem_watched_registerProfile] at hg
  split at hg
  · rename_i heq
    subst heq
    simp only [closed_releaseExisting]
    by_cases hw : p.gvr ∈ e.watchedGVRs
    · obtain ⟨c, hc, hopen⟩ := hlive p.gvr hw
      refine ⟨c, .inl hc, ?_⟩
      rintro (hcl | ⟨ch, g, rfl, hs, hne | hd⟩)
      · exact hopen hcl
      · exact hne (h.stored_gvr hs hc).symm
      · rw [hg] at hd
        cases hd
    · refine ⟨.profile e.nextCh, .inr ⟨⟨hg, hw, hclient, rfl⟩, rfl⟩, ?_⟩
      rintro (hcl | ⟨ch, g, hch, hs, _⟩)
      · exact Nat.lt_irrefl _ (h.closed_lt hcl)
      · cases hch
        exact Nat.lt_irrefl _ (h.stored_lt hs)
  · rename_i hne
    obtain ⟨c, hc, hopen⟩ := live_stopProfileInformer h (hlive g hg) (fun ch hs => hkeep ch g hs hne hg)
    exact ⟨c, .inl hc, fun hcl => hopen (closed_releaseExisting_subset hcl)⟩

theorem live_unregisterProfile (h : Channels e) (hlive : ∀ g ∈ e.watchedGVRs, e.Live g) (name : String)
    (hkeep : e.KeepsWatchers (.unregister name)) :
    ∀ g ∈ (e.unregisterProfile name).1.watchedGVRs, (e.unregisterProfile name).1.Live g := by
  intro g hg
  obtain ⟨hw, hneeded⟩ := mem_watched_unregisterProfile.mp hg
  obtain ⟨hstarted, hclosed, -⟩ := unregisterProfile_frame e name
  rw [Live, hstarted, hclosed]
  apply live_stopProfileInformer h (hlive g hw)
  intro ch hs
  obtain ⟨ps, hl, _, hgvr⟩ := id hs
  exact hkeep ch g hs (hneeded ps hl hgvr) hw

theorem live_watchAll (discovered : List GVR) {handlerOk : GVR → Bool} (hok : ∀ g, handlerOk g = true)
    (hengine : .engine ∉ e.closed) (hlive : ∀ g ∈ e.watchedGVRs, e.Live g) :
    ∀ g ∈ (e.watchAll discovered handlerOk).watchedGVRs, (e.watchAll discovered handlerOk).Live g := by
  induction discovered generalizing e with
  | nil => exact hlive
  | cons gvr discovered ih =>
      rw [watchAll, List.foldl_cons]
      apply ih
      all_goals unfold watchGVR startInformer
      all_goals rw [hok, if_pos rfl]
      · split <;> exact hengine
      · split
        · exact hlive
        · intro g hg
          rcases Finset.mem_insert.mp hg with rfl | hg
          · exact ⟨.engine, List.mem_cons_self, hengine⟩
          · obtain ⟨c, hc, hopen⟩ := hlive g hg
            exact ⟨c, List.mem_cons_of_mem _ hc, hopen⟩

theorem keepsWatchers_of_live [Apimachinery] [Unicode] (op : Op)
    (hlive : ∀ g ∈ (e.run op).watchedGVRs, (e.run op).Live g) : e.KeepsWatchers op := by
  cases op with
  | register p handlerOk =>
      intro ch g hs hne hw
      obtain ⟨c, hc, hopen⟩ := hlive g (by rw [run, mem_watched_registerProfile, if_neg hne]; exact hw)
      rw [run, (registerProfile_frame e p _).1, closed_releaseExisting, not_or] at hopen
      rw [run, mem_started_registerProfile] at hc
      refine ⟨c, hc.resolve_right ?_, hopen.1, ?_⟩
      · rintro ⟨_, hnew⟩
        cases hnew
        exact hne rfl
      · rintro rfl
        exact hopen.2 ⟨ch, g, rfl, hs, .inl hne⟩
  | unregister name =>
      intro ch g hs hneeded hw
      obtain ⟨hstarted, hclosed, -⟩ := unregisterProfile_frame e name
      obtain ⟨c, hc, hopen⟩ := hlive g (mem_watched_unregisterProfile.mpr ⟨hw, fun _ _ _ => hneeded⟩)
      rw [run, hclosed, closed_stopProfileInformer, not_or] at hopen
      rw [run, hstarted] at hc
      refine ⟨c, hc, hopen.1, ?_⟩
      rintro rfl
      exact hopen.2 ⟨ch, g, rfl, hs⟩
  | scan | refresh | watch | stop => trivial

end Liveness

section Liveness
variable [Apimachinery] [Unicode] {e : Engine α}

structure Watching (e : Engine α) : Prop where
  channels : Channels e
  running : e.stopped = false
  client : e.dynamicClient = true
  live : ∀ g ∈ e.watchedGVRs, e.Live g

omit [Apimachinery] [Unicode] in
theorem Watching.watchAll (h : Watching e) (discovered : List GVR) {handlerOk : GVR → Bool}
    (hok : ∀ g, handlerOk g = true) : Watching (e.watchAll discovered handlerOk) where
  channels := h.channels.watchAll discovered handlerOk
  running := (watchAll_frame e discovered handlerOk).1.trans h.running
  client := (watchAll_frame e discovered handlerOk).2.1.trans h.client
  live := live_watchAll discovered hok (h.channels.engine_open h.running) h.live

omit [Unicode] in
theorem Watching.refreshAnnotatedCRDs (h : Watching e) (crds : Option (List Unstructured)) :
    Watching (e.refreshAnnotatedCRDs crds) := by
  obtain he | ⟨crds', he⟩ := refreshAnnotatedCRDs_cases e crds
  · rw [he]
    exact h
  · have hch := h.channels.refreshAnnotatedCRDs crds
    rw [he] at hch ⊢
    exact ⟨hch, h.running, h.client, h.live⟩

theorem Watching.run (h : Watching e) {op : Op} (hop : op.Undisturbed) (hkeep : e.KeepsWatchers op) :
    Watching (e.run op) := by
  cases op with
  | register p handlerOk =>
      cases hop
      obtain ⟨_, hs, hc⟩ := registerProfile_frame e p true
      exact ⟨h.channels.registerProfile p true, hs.trans h.running, hc.trans h.client,
        live_registerProfile h.channels h.live h.client p hkeep⟩
  | unregister name =>
      obtain ⟨_, _, hs, hc⟩ := unregisterProfile_frame e name
      exact ⟨h.channels.unregisterProfile name, hs.trans h.running, hc.trans h.client,
        live_unregisterProfile h.channels h.live name hkeep⟩
  | scan lists crds handlerOk =>
      apply Watching.watchAll _ _ hop
      split
      · exact h.refreshAnnotatedCRDs crds
      · exact h
  | refresh crds => exact h.refreshAnnotatedCRDs crds
  | watch discovered handlerOk => exact h.watchAll discovered hop
  | stop => exact hop.elim

/-- Watched means live in every run whose calls keep the watchers. -/
theorem watched_live_of_keepsWatchers
    (h : (lifecycle α true).Reaches (fun e op => op.Undisturbed ∧ e.KeepsWatchers op) e) :
    ∀ g ∈ e.watchedGVRs, ∃ i ∈ e.started, i.gvr = g ∧ i.stopCh ∉ e.closed := by
  have hinv : Watching e := by
    refine h.invariant (I := Watching) ?_ ?_
    · rintro e ⟨hfresh, hclient⟩
      exact ⟨hfresh.channels, hfresh.stopped, hclient, by simp [hfresh.watchedGVRs]⟩
    · rintro e op e' hinv ⟨hop, hkeep⟩ rfl
      exact hinv.run hop hkeep
  intro g hg
  obtain ⟨c, hc, hopen⟩ := hinv.live g hg
  exact ⟨⟨g, c⟩, hc, rfl, hopen⟩

end Liveness

section Retargeted
attribute [local instance] Apimachinery.model asciiTables

def sampleProfile (resource : String) : ConstraintProfile where
  name := "sample"
  gvr := ⟨"example.io", "v1", resource⟩
  adapter := "generic"
  enabled := true

theorem fresh_controllerEngine : controllerEngine.Fresh := by
  constructor <;> rfl

theorem watched_live_of_registered :
    (lifecycle Builtin true).Reaches (fun e op => op.Undisturbed ∧ e.KeepsWatchers op)
      (controllerEngine.registerProfile (sampleProfile "limits") true) ∧
    ∀ g ∈ (controllerEngine.registerProfile (sampleProfile "limits") true).watchedGVRs,
      ∃ i ∈ (controllerEngine.registerProfile (sampleProfile "limits") true).started,
        i.gvr = g ∧ i.stopCh ∉ (controllerEngine.registerProfile (sampleProfile "limits") true).closed := by
  have hreach : (lifecycle Builtin true).Reaches (fun e op => op.Undisturbed ∧ e.KeepsWatchers op)
      (controllerEngine.registerProfile (sampleProfile "limits") true) := by
    refine .step (l := .register (sampleProfile "limits") true) (.init ⟨fresh_controllerEngine, rfl⟩) ⟨rfl, ?_⟩ rfl
    rintro ch g ⟨ps, hl, _⟩
    cases hl
  exact ⟨hreach, watched_live_of_keepsWatchers hreach⟩

def retargeted : Engine Builtin :=
  (controllerEngine.registerProfile (sampleProfile "limits") true).registerProfile (sampleProfile "quotas") true

theorem retargeted_not_live :
    (lifecycle Builtin true).Reaches (fun _ op => op.Undisturbed) retargeted ∧
    ⟨"example.io", "v1", "limits"⟩ ∈ retargeted.watchedGVRs ∧
    ¬ ∃ i ∈ retargeted.started, i.gvr = ⟨"example.io", "v1", "limits"⟩ ∧ i.stopCh ∉ retargeted.closed := by
  refine ⟨?_, by decide, by decide⟩
  refine .step (l := .register (sampleProfile "quotas") true) ?_ rfl rfl
  exact .step (l := .register (sampleProfile "limits") true) (.init ⟨fresh_controllerEngine, rfl⟩) rfl rfl

end Retargeted

section Ownership
variable {e : Engine α}

/-- The call does not lose the channel of a running informer, which a registration
does when it repeats an enabled profile that owns its informer, and it does not
start an informer once the engine is stopped. -/
def KeepsChannels (e : Engine α) : Op → Prop
  | .register p handlerOk => (∀ ch, e.Stored p.name ch p.gvr → p.enabled = true → ¬ e.Running ch) ∧
      (e.stopped = true → ¬ e.Starts p handlerOk)
  | _ => True

structure Owned (e : Engine α) : Prop where
  channels : Channels e
  stored : ∀ {ch}, e.Running ch → ∃ n g, e.Stored n ch g
  stopped : e.stopped = true → ∀ ch, ¬ e.Running ch

theorem Owned.registerProfile (h : Owned e) {p : ConstraintProfile} {handlerOk : Bool}
    (hkeep : e.KeepsChannels (.register p handlerOk)) : Owned (e.registerProfile p handlerOk) := by
  obtain ⟨hclosed, hstopped, -⟩ := registerProfile_frame e p handlerOk
  have hrun {ch} (hr : (e.registerProfile p handlerOk).Running ch) :
      (e.Running ch ∧ .profile ch ∉ (e.releaseExisting p).closed) ∨ (e.Starts p handlerOk ∧ ch = e.nextCh) := by
    obtain ⟨⟨g, hg⟩, hopen⟩ := hr
    rw [hclosed] at hopen
    rcases mem_started_registerProfile.mp hg with hg | ⟨hs, hnew⟩
    · exact .inl ⟨⟨⟨g, hg⟩, fun hc => hopen (closed_releaseExisting.mpr (.inl hc))⟩, hopen⟩
    · cases hnew
      exact .inr ⟨hs, rfl⟩
  refine ⟨h.channels.registerProfile p handlerOk, ?_, ?_⟩
  · intro ch hr
    rcases hrun hr with ⟨hr, hopen⟩ | ⟨hs, rfl⟩
    · obtain ⟨n, g, hs⟩ := h.stored hr
      by_cases hn : n = p.name
      · subst hn
        rw [closed_releaseExisting, not_or] at hopen
        have hsame : g = p.gvr ∧ p.enabled = true := by
          by_contra hne
          refine hopen.2 ⟨ch, g, rfl, hs, ?_⟩
          rw [← Bool.not_eq_true]
          exact not_and_or.mp hne
        cases hsame.1
        exact absurd hr (hkeep.1 ch hs hsame.2)
      · exact ⟨n, g, stored_registerProfile.mpr (by rwa [if_neg hn])⟩
    · exact ⟨p.name, p.gvr, stored_registerProfile.mpr (by rw [if_pos rfl]; exact ⟨hs.1, hs.2.1, rfl, rfl⟩)⟩
  · intro hst ch hr
    rw [hstopped] at hst
    rcases hrun hr with ⟨hr, _⟩ | ⟨hs, _⟩
    · exact h.stopped hst ch hr
    · exact hkeep.2 hst hs

theorem Owned.unregisterProfile (h : Owned e) (name : String) : Owned (e.unregisterProfile name).1 := by
  obtain ⟨hstarted, hclosed, hstopped, -⟩ := unregisterProfile_frame e name
  have hrun {ch} (hr : (e.unregisterProfile name).1.Running ch) :
      e.Running ch ∧ .profile ch ∉ (e.stopProfileInformer name).closed := by
    rw [Running, hstarted, hclosed] at hr
    exact ⟨⟨hr.1, fun hc => hr.2 (closed_stopProfileInformer.mpr (.inl hc))⟩, hr.2⟩
  refine ⟨h.channels.unregisterProfile name, ?_, ?_⟩
  · intro ch hr
    obtain ⟨hr, hopen⟩ := hrun hr
    obtain ⟨n, g, hs⟩ := h.stored hr
    refine ⟨n, g, stored_unregisterProfile.mpr ⟨?_, hs⟩⟩
    rintro rfl
    exact hopen (closed_stopProfileInformer.mpr (.inr ⟨ch, g, rfl, hs⟩))
  · intro hst ch hr
    exact h.stopped (hstopped ▸ hst) ch (hrun hr).1

theorem Owned.stop (h : Owned e) : Owned e.stop := by
  have hnone : ∀ ch, ¬ e.stop.Running ch := by
    rintro ch ⟨hg, hopen⟩
    rw [started_stop] at hg
    have hr : e.Running ch := ⟨hg, fun hc => hopen (closed_subset_stop e hc)⟩
    cases hst : e.stopped with
    | true => exact h.stopped hst ch hr
    | false =>
        obtain ⟨n, g, hs⟩ := h.stored hr
        exact hopen (closed_stop hst hs)
  exact ⟨h.channels.stop, fun hr => absurd hr (hnone _), fun _ => hnone⟩

theorem Owned.watchAll (h : Owned e) (discovered : List GVR) (handlerOk : GVR → Bool) :
    Owned (e.watchAll discovered handlerOk) := by
  obtain ⟨hstopped, _, hclosed, hprofiles⟩ := watchAll_frame e discovered handlerOk
  have hrun {ch} (hr : (e.watchAll discovered handlerOk).Running ch) : e.Running ch := by
    obtain ⟨⟨g, hg⟩, hopen⟩ := hr
    exact ⟨⟨g, mem_started_watchAll.mp hg⟩, hclosed ▸ hopen⟩
  refine ⟨h.channels.watchAll discovered handlerOk, ?_, ?_⟩
  · intro ch hr
    obtain ⟨n, g, hs⟩ := h.stored (hrun hr)
    refine ⟨n, g, ?_⟩
    rw [Stored, hprofiles]
    exact hs
  · intro hst ch hr
    exact h.stopped (hstopped ▸ hst) ch (hrun hr)

theorem Owned.refreshAnnotatedCRDs [Apimachinery] (h : Owned e) (crds : Option (List Unstructured)) :
    Owned (e.refreshAnnotatedCRDs crds) := by
  obtain he | ⟨crds', he⟩ := refreshAnnotatedCRDs_cases e crds
  · rw [he]
    exact h
  · have hch := h.channels.refreshAnnotatedCRDs crds
    rw [he] at hch ⊢
    exact ⟨hch, h.stored, h.stopped⟩

variable [Apimachinery] [Unicode]

theorem Owned.run (h : Owned e) {op : Op} (hkeep : e.KeepsChannels op) : Owned (e.run op) := by
  cases op with
  | register p handlerOk => exact h.registerProfile hkeep
  | unregister name => exact h.unregisterProfile name
  | scan lists crds handlerOk =>
      apply Owned.watchAll
      split
      · exact h.refreshAnnotatedCRDs crds
      · exact h
  | refresh crds => exact h.refreshAnnotatedCRDs crds
  | watch discovered handlerOk => exact h.watchAll discovered handlerOk
  | stop => exact h.stop

/-- In every run whose calls keep the channels, the channel of each running
informer of a profile is in exactly one entry, and none runs after `Stop`. -/
theorem profile_informers_owned {dynamicClient : Bool}
    (h : (lifecycle α dynamicClient).Reaches KeepsChannels e) :
    (∀ i ∈ e.started, ∀ ch, i.stopCh = .profile ch → .profile ch ∉ e.closed →
      ∃! name, ∃ ps, e.profiles.lookup name = some ps ∧ ps.stopCh = some ch) ∧
    (e.stopped = true → ∀ i ∈ e.started, ∀ ch, i.stopCh = .profile ch → .profile ch ∈ e.closed) := by
  have hinv : Owned e := by
    refine h.invariant (I := Owned) ?_ ?_
    · rintro e ⟨hfresh, _⟩
      refine ⟨hfresh.channels, ?_, ?_⟩
      · rintro ch ⟨⟨g, hg⟩, _⟩
        rw [hfresh.started] at hg
        cases hg
      · intro hst
        rw [hfresh.stopped] at hst
        cases hst
    · rintro e op e' hinv hkeep rfl
      exact hinv.run hkeep
  constructor
  · rintro ⟨g, c⟩ hi ch rfl hopen
    obtain ⟨n, g', hs⟩ := hinv.stored ⟨⟨g, hi⟩, hopen⟩
    obtain ⟨ps, hl, hch, _⟩ := id hs
    refine ⟨n, ⟨ps, hl, hch⟩, ?_⟩
    rintro m ⟨ps', hl', hch'⟩
    exact hinv.channels.stored_inj ⟨ps', hl', hch', rfl⟩ hs
  · rintro hst ⟨g, c⟩ hi ch rfl
    by_contra hopen
    exact hinv.stopped hst ch ⟨⟨g, hi⟩, hopen⟩

end Ownership

section Repeated
attribute [local instance] Apimachinery.model asciiTables

theorem profile_informers_owned_registered :
    (lifecycle Builtin true).Reaches KeepsChannels (controllerEngine.registerProfile (sampleProfile "limits") true) ∧
    (∀ i ∈ (controllerEngine.registerProfile (sampleProfile "limits") true).started, ∀ ch,
      i.stopCh = .profile ch →
      .profile ch ∉ (controllerEngine.registerProfile (sampleProfile "limits") true).closed →
      ∃! name, ∃ ps, (controllerEngine.registerProfile (sampleProfile "limits") true).profiles.lookup name =
        some ps ∧ ps.stopCh = some ch) := by
  have hreach : (lifecycle Builtin true).Reaches KeepsChannels
      (controllerEngine.registerProfile (sampleProfile "limits") true) := by
    refine .step (l := .register (sampleProfile "limits") true) (.init ⟨fresh_controllerEngine, rfl⟩) ⟨?_, nofun⟩ rfl
    rintro ch ⟨ps, hl, _⟩
    cases hl
  exact ⟨hreach, (profile_informers_owned hreach).1⟩

def repeated : Engine Builtin :=
  (controllerEngine.registerProfile (sampleProfile "limits") true).registerProfile (sampleProfile "limits") true

theorem repeated_leaks_informer :
    (lifecycle Builtin true).Reaches (fun _ _ => True) repeated ∧
    ⟨⟨"example.io", "v1", "limits"⟩, .profile 0⟩ ∈ repeated.started ∧ .profile 0 ∉ repeated.closed ∧
    (¬ ∃ name ps, repeated.profiles.lookup name = some ps ∧ ps.stopCh = some 0) ∧
    ⟨⟨"example.io", "v1", "limits"⟩, .profile 0⟩ ∈ repeated.stop.started ∧ .profile 0 ∉ repeated.stop.closed := by
  refine ⟨?_, by decide, by decide, ?_, by decide, by decide⟩
  · refine .step (l := .register (sampleProfile "limits") true) ?_ trivial rfl
    exact .step (l := .register (sampleProfile "limits") true) (.init ⟨fresh_controllerEngine, rfl⟩) trivial rfl
  · rintro ⟨name, ps, hl, hch⟩
    have hall : ∀ ps ∈ repeated.profileStates, ps.stopCh ≠ some 0 := by decide
    exact hall ps (mem_profileStates.mpr ⟨name, hl⟩) hch

end Repeated

end Engine

end Nightjar.Discovery
