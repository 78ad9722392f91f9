import Nightjar.Discovery.Lifecycle

namespace Nightjar.Discovery.Engine

variable {α : Type} {e e' : Engine α} {n m : String} {ch : Nat} {g : GVR}

/-- The entry of the profile holds the channel, for an informer on the GVR. -/
def Stored (e : Engine α) (name : String) (ch : Nat) (g : GVR) : Prop :=
  ∃ ps, e.profiles.lookup name = some ps ∧ ps.stopCh = some ch ∧ ps.gvr = g

theorem Stored.eq {ch' : Nat} {g' : GVR} (h : e.Stored n ch g) (h' : e.Stored n ch' g') : ch = ch' ∧ g = g' := by
  obtain ⟨ps, hl, hch, rfl⟩ := h
  obtain ⟨ps', hl', hch', rfl⟩ := h'
  cases hl.symm.trans hl'
  exact ⟨Option.some.inj (hch.symm.trans hch'), rfl⟩

theorem mem_profileStates {ps : ProfileState} :
    ps ∈ e.profileStates ↔ ∃ name, e.profiles.lookup name = some ps := by
  rw [profileStates, List.mem_map]
  constructor
  · rintro ⟨⟨name, ps⟩, hm, rfl⟩
    exact ⟨name, AList.mem_lookup_iff.mpr hm⟩
  · rintro ⟨name, hl⟩
    exact ⟨⟨name, ps⟩, AList.mem_lookup_iff.mp hl, rfl⟩

theorem stored_setProfile {p : ConstraintProfile} {s : Option Nat} :
    (e.setProfile p s).Stored n ch g ↔ if n = p.name then s = some ch ∧ p.gvr = g else e.Stored n ch g := by
  unfold Stored setProfile
  by_cases h : n = p.name
  · subst h
    simp [ConstraintProfile.state]
  · simp [AList.lookup_insert_ne h, h]

theorem stopProfileInformer_cases (e : Engine α) (n : String) :
    (e.stopProfileInformer n = e ∧ ∀ ch g, ¬ e.Stored n ch g) ∨
    ∃ ps ch, e.profiles.lookup n = some ps ∧ ps.stopCh = some ch ∧
      e.stopProfileInformer n = { e with
        closed := insert (.profile ch) e.closed
        profiles := e.profiles.insert n { ps with stopCh := none } } := by
  unfold stopProfileInformer Stored
  cases hl : e.profiles.lookup n with
  | none => exact .inl ⟨rfl, by simp⟩
  | some ps =>
      cases hc : ps.stopCh with
      | none => exact .inl ⟨by simp [hc], by simp [hc]⟩
      | some ch => exact .inr ⟨ps, ch, rfl, hc, by simp [hc]⟩

section Frame
variable (e n)

@[simp] theorem started_stopProfileInformer : (e.stopProfileInformer n).started = e.started := by
  obtain ⟨h, _⟩ | ⟨ps, ch, _, _, h⟩ := stopProfileInformer_cases e n <;> rw [h]

@[simp] theorem nextCh_stopProfileInformer : (e.stopProfileInformer n).nextCh = e.nextCh := by
  obtain ⟨h, _⟩ | ⟨ps, ch, _, _, h⟩ := stopProfileInformer_cases e n <;> rw [h]

@[simp] theorem stopped_stopProfileInformer : (e.stopProfileInformer n).stopped = e.stopped := by
  obtain ⟨h, _⟩ | ⟨ps, ch, _, _, h⟩ := stopProfileInformer_cases e n <;> rw [h]

@[simp] theorem watchedGVRs_stopProfileInformer : (e.stopProfileInformer n).watchedGVRs = e.watchedGVRs := by
  obtain ⟨h, _⟩ | ⟨ps, ch, _, _, h⟩ := stopProfileInformer_cases e n <;> rw [h]

@[simp] theorem dynamicClient_stopProfileInformer :
    (e.stopProfileInformer n).dynamicClient = e.dynamicClient := by
  obtain ⟨h, _⟩ | ⟨ps, ch, _, _, h⟩ := stopProfileInformer_cases e n <;> rw [h]

end Frame

theorem lookup_stopProfileInformer : (e.stopProfileInformer n).profiles.lookup m =
    (e.profiles.lookup m).map (fun ps => if m = n then { ps with stopCh := none } else ps) := by
  obtain ⟨h, hnone⟩ | ⟨ps, ch, hl, _, h⟩ := stopProfileInformer_cases e n
  · rw [h]
    cases hm : e.profiles.lookup m with
    | none => rfl
    | some ps =>
        by_cases hmn : m = n
        · subst hmn
          have hch : ps.stopCh = none := by
            cases hc : ps.stopCh with
            | none => rfl
            | some ch => exact absurd ⟨ps, hm, hc, rfl⟩ (hnone ch ps.gvr)
          simp [← hch]
        · simp [hmn]
  · rw [h]
    by_cases hmn : m = n
    · subst hmn
      simp [hl]
    · simp [hmn, AList.lookup_insert_ne hmn]

theorem stored_stopProfileInformer :
    (e.stopProfileInformer n).Stored m ch g ↔ m ≠ n ∧ e.Stored m ch g := by
  obtain ⟨h, hnone⟩ | ⟨ps, c, hl, hc, h⟩ := stopProfileInformer_cases e n
  · rw [h]
    refine ⟨fun hs => ⟨?_, hs⟩, And.right⟩
    rintro rfl
    exact hnone ch g hs
  · rw [h]
    unfold Stored
    by_cases hm : m = n
    · subst hm
      simp
    · simp [AList.lookup_insert_ne hm, hm]

theorem closed_stopProfileInformer {c : StopCh} :
    c ∈ (e.stopProfileInformer n).closed ↔ c ∈ e.closed ∨ ∃ ch g, c = .profile ch ∧ e.Stored n ch g := by
  obtain ⟨h, hnone⟩ | ⟨ps, ch, hl, hc, h⟩ := stopProfileInformer_cases e n
  · simp [h, hnone]
  · rw [h, Finset.mem_insert, or_comm]
    simp [Stored, hl, hc]

theorem closed_releaseExisting {p : ConstraintProfile} {c : StopCh} :
    c ∈ (e.releaseExisting p).closed ↔ c ∈ e.closed ∨
      ∃ ch g, c = .profile ch ∧ e.Stored p.name ch g ∧ (g ≠ p.gvr ∨ p.enabled = false) := by
  rw [releaseExisting]
  cases hl : e.profiles.lookup p.name with
  | none => simp [Stored, hl]
  | some existing =>
      simp only
      split
      · rename_i hc
        rw [closed_stopProfileInformer]
        simp [Stored, hl, hc]
      · rename_i hc
        simp [Stored, hl, hc]

theorem closed_releaseExisting_subset {p : ConstraintProfile} :
    (e.releaseExisting p).closed ⊆ (e.stopProfileInformer p.name).closed := by
  intro c hc
  rw [closed_stopProfileInformer]
  exact (closed_releaseExisting.mp hc).imp_right (fun ⟨ch, g, hch, hs, _⟩ => ⟨ch, g, hch, hs⟩)

theorem releaseExisting_cases (e : Engine α) (p : ConstraintProfile) :
    e.releaseExisting p = e ∨ e.releaseExisting p = e.stopProfileInformer p.name := by
  rw [releaseExisting]
  split
  · exact .inl rfl
  · split
    · exact .inr rfl
    · exact .inl rfl

section Frame
variable (e) (p : ConstraintProfile)

@[simp] theorem started_releaseExisting : (e.releaseExisting p).started = e.started := by
  obtain h | h := releaseExisting_cases e p <;> simp [h]

@[simp] theorem watchedGVRs_releaseExisting : (e.releaseExisting p).watchedGVRs = e.watchedGVRs := by
  obtain h | h := releaseExisting_cases e p <;> simp [h]

@[simp] theorem nextCh_releaseExisting : (e.releaseExisting p).nextCh = e.nextCh := by
  obtain h | h := releaseExisting_cases e p <;> simp [h]

@[simp] theorem stopped_releaseExisting : (e.releaseExisting p).stopped = e.stopped := by
  obtain h | h := releaseExisting_cases e p <;> simp [h]

@[simp] theorem dynamicClient_releaseExisting : (e.releaseExisting p).dynamicClient = e.dynamicClient := by
  obtain h | h := releaseExisting_cases e p <;> simp [h]

end Frame

theorem stored_releaseExisting {p : ConstraintProfile} (hn : n ≠ p.name) :
    (e.releaseExisting p).Stored n ch g ↔ e.Stored n ch g := by
  obtain h | h := releaseExisting_cases e p <;> rw [h]
  rw [stored_stopProfileInformer, and_iff_right hn]

def Starts (e : Engine α) (p : ConstraintProfile) (handlerOk : Bool) : Prop :=
  p.enabled = true ∧ p.gvr ∉ e.watchedGVRs ∧ e.dynamicClient = true ∧ handlerOk = true

section Register
variable {p : ConstraintProfile} {handlerOk : Bool}

theorem registerProfile_frame (e : Engine α) (p : ConstraintProfile) (handlerOk : Bool) :
    (e.registerProfile p handlerOk).closed = (e.releaseExisting p).closed ∧
    (e.registerProfile p handlerOk).stopped = e.stopped ∧
    (e.registerProfile p handlerOk).dynamicClient = e.dynamicClient := by
  rw [← stopped_releaseExisting e p, ← dynamicClient_releaseExisting e p]
  rw [registerProfile, applyProfile, startProfileInformer]
  split
  · exact ⟨rfl, rfl, rfl⟩
  · split
    · split <;> exact ⟨rfl, rfl, rfl⟩
    · exact ⟨rfl, rfl, rfl⟩

theorem mem_started_registerProfile {i : Informer} : i ∈ (e.registerProfile p handlerOk).started ↔
    i ∈ e.started ∨ e.Starts p handlerOk ∧ i = ⟨p.gvr, .profile e.nextCh⟩ := by
  rw [registerProfile, applyProfile, startProfileInformer, Starts]
  split
  · simp_all [stopGVRInformer, setProfile]
  · split
    · split <;> simp_all [start, openChannel, setProfile, or_comm]
    · simp_all [setProfile]

theorem mem_watched_registerProfile : g ∈ (e.registerProfile p handlerOk).watchedGVRs ↔
    if g = p.gvr then p.enabled = true else g ∈ e.watchedGVRs := by
  rw [registerProfile, applyProfile, startProfileInformer]
  split
  · by_cases hg : g = p.gvr <;> simp_all [stopGVRInformer, setProfile]
  · split
    · split <;> by_cases hg : g = p.gvr <;> simp_all [start, openChannel, setProfile]
    · by_cases hg : g = p.gvr <;> simp_all [setProfile]

theorem profiles_startProfileInformer {gvr : GVR} {stopCh : Nat} :
    (e.startProfileInformer gvr stopCh handlerOk).profiles = e.profiles := by
  rw [startProfileInformer]
  split <;> rfl

theorem profiles_applyProfile (e : Engine α) (p : ConstraintProfile) (handlerOk : Bool) :
    ∃ s, (e.applyProfile p handlerOk).profiles = e.profiles ∨
      (e.applyProfile p handlerOk).profiles = (e.setProfile p s).profiles := by
  rw [applyProfile]
  split
  · exact ⟨none, .inl rfl⟩
  · split
    · exact ⟨some e.nextCh, .inr profiles_startProfileInformer⟩
    · exact ⟨none, .inl rfl⟩

theorem lookup_registerProfile : ∃ s, (e.registerProfile p handlerOk).profiles.lookup m =
    if m = p.name then some (p.state s) else e.profiles.lookup m := by
  have hset (e' : Engine α) (s : Option Nat) : (e'.setProfile p s).profiles.lookup m =
      if m = p.name then some (p.state s) else e'.profiles.lookup m := by
    by_cases hm : m = p.name
    · subst hm
      simp [setProfile]
    · simp [setProfile, hm, AList.lookup_insert_ne hm]
  have hrelease : m ≠ p.name → (e.releaseExisting p).profiles.lookup m = e.profiles.lookup m := by
    intro hm
    obtain h | h := releaseExisting_cases e p
    · rw [h]
    · simp [h, lookup_stopProfileInformer, hm]
  obtain ⟨s, h | h⟩ := profiles_applyProfile ((e.releaseExisting p).setProfile p none) p handlerOk
  · refine ⟨none, ?_⟩
    rw [registerProfile, h, hset]
    split
    · rfl
    · rename_i hm
      exact hrelease hm
  · refine ⟨s, ?_⟩
    rw [registerProfile, h, hset, hset]
    split
    · rfl
    · rename_i hm
      exact hrelease hm

theorem stored_startProfileInformer {gvr : GVR} {stopCh : Nat} :
    (e.startProfileInformer gvr stopCh handlerOk).Stored n ch g ↔ e.Stored n ch g := by
  rw [startProfileInformer]
  split <;> rfl

theorem stored_registerProfile : (e.registerProfile p handlerOk).Stored n ch g ↔
    if n = p.name then p.enabled = true ∧ p.gvr ∉ e.watchedGVRs ∧ e.nextCh = ch ∧ p.gvr = g
    else e.Stored n ch g := by
  have hset {s : Option Nat} : ((e.releaseExisting p).setProfile p s).Stored n ch g ↔
      if n = p.name then s = some ch ∧ p.gvr = g else e.Stored n ch g := by
    rw [stored_setProfile]
    split
    · rfl
    · rename_i hn
      exact stored_releaseExisting hn
  rw [registerProfile, applyProfile]
  split
  · rename_i hd
    refine hset.trans ?_
    simp [hd]
  · rename_i he
    split
    · rename_i hw
      rw [stored_startProfileInformer]
      refine stored_setProfile.trans ?_
      rw [hset]
      by_cases hn : n = p.name <;> simp_all [setProfile]
    · rename_i hw
      rw [hset]
      by_cases hn : n = p.name <;> simp_all [setProfile]

end Register

def Needed (e : Engine α) (name : String) (g : GVR) : Prop :=
  ∃ m other, m ≠ name ∧ e.profiles.lookup m = some other ∧ other.enabled = true ∧ other.gvr = g

section Unregister
variable {name : String}

theorem lookup_removeProfile {m : String} :
    ((e.stopProfileInformer name).removeProfile name).profiles.lookup m =
      if m = name then none else e.profiles.lookup m := by
  rw [removeProfile]
  by_cases hm : m = name
  · subst hm
    simp
  · rw [if_neg hm, AList.lookup_erase_ne hm]
    obtain ⟨h, _⟩ | ⟨ps, ch, _, _, h⟩ := stopProfileInformer_cases e name
    · rw [h]
    · rw [h, AList.lookup_insert_ne hm]

theorem any_removeProfile_iff {gvr : GVR} : ((e.stopProfileInformer name).removeProfile name).profileStates.any
    (fun other => other.enabled && decide (other.gvr = gvr)) = true ↔ e.Needed name gvr := by
  simp only [List.any_eq_true, mem_profileStates, lookup_removeProfile, Bool.and_eq_true, decide_eq_true_eq, Needed]
  constructor
  · rintro ⟨other, ⟨m, hm⟩, hother⟩
    split at hm
    · cases hm
    · rename_i hne
      exact ⟨m, other, hne, hm, hother⟩
  · rintro ⟨m, other, hne, hm, hother⟩
    exact ⟨other, ⟨m, by rw [if_neg hne, hm]⟩, hother⟩

theorem unregisterProfile_cases (e : Engine α) (name : String) :
    (e.profiles.lookup name = none ∧ (e.unregisterProfile name).1 = e) ∨
    ∃ ps, e.profiles.lookup name = some ps ∧
      ((e.Needed name ps.gvr ∧ (e.unregisterProfile name).1 = (e.stopProfileInformer name).removeProfile name) ∨
        (¬ e.Needed name ps.gvr ∧ (e.unregisterProfile name).1 =
          ((e.stopProfileInformer name).removeProfile name).stopGVRInformer ps.gvr)) := by
  rw [unregisterProfile]
  cases hl : e.profiles.lookup name with
  | none => exact .inl ⟨rfl, rfl⟩
  | some ps =>
      refine .inr ⟨ps, rfl, ?_⟩
      simp only
      split
      · rename_i hany
        exact .inl ⟨any_removeProfile_iff.mp hany, rfl⟩
      · rename_i hany
        exact .inr ⟨fun hn => hany (any_removeProfile_iff.mpr hn), rfl⟩

theorem mutations_unregisterProfile {ps : ProfileState} (hl : e.profiles.lookup name = some ps) :
    (e.Needed name ps.gvr → (e.unregisterProfile name).2 = []) ∧
    (¬ e.Needed name ps.gvr → (e.unregisterProfile name).2 = [.deleteBySource ps.gvr]) := by
  rw [unregisterProfile, hl, ← any_removeProfile_iff]
  simp only
  split
  · rename_i hany
    exact ⟨fun _ => rfl, fun h => absurd hany h⟩
  · rename_i hany
    exact ⟨fun h => absurd h hany, fun _ => rfl⟩

theorem unregisterProfile_frame (e : Engine α) (name : String) : (e.unregisterProfile name).1.started = e.started ∧
    (e.unregisterProfile name).1.closed = (e.stopProfileInformer name).closed ∧
    (e.unregisterProfile name).1.stopped = e.stopped ∧
    (e.unregisterProfile name).1.dynamicClient = e.dynamicClient := by
  rw [← started_stopProfileInformer e name, ← stopped_stopProfileInformer e name,
    ← dynamicClient_stopProfileInformer e name]
  obtain ⟨hl, h⟩ | ⟨ps, hl, ⟨_, h⟩ | ⟨_, h⟩⟩ := unregisterProfile_cases e name
  · have hstop : e.stopProfileInformer name = e := by rw [stopProfileInformer, hl]
    rw [h, hstop]
    exact ⟨rfl, rfl, rfl, rfl⟩
  · rw [h]
    exact ⟨rfl, rfl, rfl, rfl⟩
  · rw [h]
    exact ⟨rfl, rfl, rfl, rfl⟩

theorem stored_unregisterProfile :
    (e.unregisterProfile name).1.Stored n ch g ↔ n ≠ name ∧ e.Stored n ch g := by
  have hremove : ((e.stopProfileInformer name).removeProfile name).Stored n ch g ↔ n ≠ name ∧ e.Stored n ch g := by
    unfold Stored
    rw [lookup_removeProfile]
    by_cases hn : n = name <;> simp [hn]
  obtain ⟨hl, h⟩ | ⟨ps, hl, ⟨_, h⟩ | ⟨_, h⟩⟩ := unregisterProfile_cases e name
  · rw [h]
    refine ⟨fun hs => ⟨?_, hs⟩, And.right⟩
    rintro rfl
    obtain ⟨ps, hs, _⟩ := hs
    rw [hl] at hs
    cases hs
  · rw [h]
    exact hremove
  · rw [h]
    exact hremove

theorem mem_watched_unregisterProfile : g ∈ (e.unregisterProfile name).1.watchedGVRs ↔
    g ∈ e.watchedGVRs ∧ ∀ ps, e.profiles.lookup name = some ps → ps.gvr = g → e.Needed name g := by
  obtain ⟨hl, h⟩ | ⟨ps, hl, ⟨hneed, h⟩ | ⟨hneed, h⟩⟩ := unregisterProfile_cases e name
  · simp [h, hl]
  · rw [h, hl]
    refine ⟨fun hg => ⟨by simpa [removeProfile] using hg, ?_⟩, fun hg => by simpa [removeProfile] using hg.1⟩
    rintro ps' ⟨⟩ rfl
    exact hneed
  · have hw : g ∈ (((e.stopProfileInformer name).removeProfile name).stopGVRInformer ps.gvr).watchedGVRs ↔
        g ≠ ps.gvr ∧ g ∈ e.watchedGVRs := by
      simp [stopGVRInformer, removeProfile]
    rw [h, hl, hw]
    constructor
    · rintro ⟨hne, hg⟩
      refine ⟨hg, ?_⟩
      rintro ps' ⟨⟩ heq
      exact absurd heq.symm hne
    · rintro ⟨hg, hall⟩
      refine ⟨?_, hg⟩
      rintro rfl
      exact hneed (hall ps rfl rfl)

end Unregister

theorem lookup_unregisterProfile {name : String} (hm : m ≠ name) :
    (e.unregisterProfile name).1.profiles.lookup m = e.profiles.lookup m := by
  have hremove : ((e.stopProfileInformer name).removeProfile name).profiles.lookup m = e.profiles.lookup m := by
    rw [lookup_removeProfile, if_neg hm]
  obtain ⟨_, h⟩ | ⟨ps, _, ⟨_, h⟩ | ⟨_, h⟩⟩ := unregisterProfile_cases e name
  · rw [h]
  · rw [h]
    exact hremove
  · rw [h]
    exact hremove

theorem watchAll_frame (e : Engine α) (discovered : List GVR) (handlerOk : GVR → Bool) :
    (e.watchAll discovered handlerOk).stopped = e.stopped ∧
    (e.watchAll discovered handlerOk).dynamicClient = e.dynamicClient ∧
    (e.watchAll discovered handlerOk).closed = e.closed ∧
    (e.watchAll discovered handlerOk).profiles = e.profiles := by
  induction discovered generalizing e with
  | nil => exact ⟨rfl, rfl, rfl, rfl⟩
  | cons gvr discovered ih =>
      have hstep : (watchGVR handlerOk e gvr).stopped = e.stopped ∧
          (watchGVR handlerOk e gvr).dynamicClient = e.dynamicClient ∧
          (watchGVR handlerOk e gvr).closed = e.closed ∧ (watchGVR handlerOk e gvr).profiles = e.profiles := by
        rw [watchGVR, startInformer]
        split
        · exact ⟨rfl, rfl, rfl, rfl⟩
        · split <;> exact ⟨rfl, rfl, rfl, rfl⟩
      obtain ⟨h₁, h₂, h₃, h₄⟩ := ih (watchGVR handlerOk e gvr)
      exact ⟨h₁.trans hstep.1, h₂.trans hstep.2.1, h₃.trans hstep.2.2.1, h₄.trans hstep.2.2.2⟩

theorem mem_started_watchAll {discovered : List GVR} {handlerOk : GVR → Bool} :
    ⟨g, .profile ch⟩ ∈ (e.watchAll discovered handlerOk).started ↔ ⟨g, .profile ch⟩ ∈ e.started := by
  induction discovered generalizing e with
  | nil => rfl
  | cons gvr discovered ih =>
      refine ih.trans ?_
      rw [watchGVR, startInformer]
      split
      · rfl
      · split <;> simp [start]

theorem refreshAnnotatedCRDs_cases [Apimachinery] (e : Engine α) (crds : Option (List Unstructured)) :
    e.refreshAnnotatedCRDs crds = e ∨
      ∃ annotated, e.refreshAnnotatedCRDs crds = { e with annotatedCRDs := annotated } := by
  unfold refreshAnnotatedCRDs
  split
  · exact .inl rfl
  · split
    · exact .inr ⟨_, rfl⟩
    · exact .inl rfl

section Stop
variable (names : List String)

theorem closed_foldl_stopProfileInformer {c : StopCh} :
    c ∈ (names.foldl stopProfileInformer e).closed ↔
      c ∈ e.closed ∨ ∃ n ∈ names, ∃ ch g, c = .profile ch ∧ e.Stored n ch g := by
  induction names generalizing e with
  | nil => simp
  | cons name names ih =>
      rw [List.foldl_cons, ih, closed_stopProfileInformer]
      constructor
      · rintro ((hc | ⟨ch, g, hc, hs⟩) | ⟨n, hn, ch, g, hc, hs⟩)
        · exact .inl hc
        · exact .inr ⟨name, List.mem_cons_self, ch, g, hc, hs⟩
        · exact .inr ⟨n, List.mem_cons_of_mem _ hn, ch, g, hc, (stored_stopProfileInformer.mp hs).2⟩
      · rintro (hc | ⟨n, hn, ch, g, hc, hs⟩)
        · exact .inl (.inl hc)
        · by_cases he : n = name
          · subst he
            exact .inl (.inr ⟨ch, g, hc, hs⟩)
          · have hn : n ∈ names := (List.mem_cons.mp hn).resolve_left he
            exact .inr ⟨n, hn, ch, g, hc, stored_stopProfileInformer.mpr ⟨he, hs⟩⟩

theorem foldl_stopProfileInformer_frame :
    (names.foldl stopProfileInformer e).started = e.started ∧
    (names.foldl stopProfileInformer e).stopped = e.stopped ∧
    (names.foldl stopProfileInformer e).dynamicClient = e.dynamicClient := by
  induction names generalizing e with
  | nil => exact ⟨rfl, rfl, rfl⟩
  | cons name names ih => simpa using ih (e := e.stopProfileInformer name)

theorem closed_stop (hrun : e.stopped = false) (hs : e.Stored n ch g) : .profile ch ∈ e.stop.closed := by
  rw [stop, hrun, if_neg Bool.false_ne_true, closed_foldl_stopProfileInformer]
  obtain ⟨ps, hl, hps⟩ := hs
  have hkey : n ∈ e.profiles.keys := AList.mem_keys.mp (AList.lookup_isSome.mp (by rw [hl]; rfl))
  exact .inr ⟨n, hkey, ch, g, rfl, ps, hl, hps⟩

theorem started_stop (e : Engine α) : e.stop.started = e.started := by
  rw [stop]
  split
  · rfl
  · exact (foldl_stopProfileInformer_frame _).1

theorem closed_subset_stop (e : Engine α) : e.closed ⊆ e.stop.closed := by
  intro c hc
  rw [stop]
  split
  · exact hc
  · rw [closed_foldl_stopProfileInformer]
    exact .inl (Finset.mem_insert_of_mem hc)

end Stop

/-- Each channel is held by one entry, for the GVR whose informer runs on it, and
is open while it is held. -/
structure Channels (e : Engine α) : Prop where
  stored_lt : ∀ {n ch g}, e.Stored n ch g → ch < e.nextCh
  started_lt : ∀ {g ch}, ⟨g, .profile ch⟩ ∈ e.started → ch < e.nextCh
  closed_lt : ∀ {ch}, .profile ch ∈ e.closed → ch < e.nextCh
  stored_open : ∀ {n ch g}, e.Stored n ch g → .profile ch ∉ e.closed
  stored_inj : ∀ {n m ch g g'}, e.Stored n ch g → e.Stored m ch g' → n = m
  stored_gvr : ∀ {n ch g g'}, e.Stored n ch g → ⟨g', .profile ch⟩ ∈ e.started → g' = g
  engine_open : e.stopped = false → .engine ∉ e.closed

namespace Channels

theorem of_stored (h : Channels e) (hstored : ∀ {n ch g}, e'.Stored n ch g → e.Stored n ch g)
    (hstarted : e'.started = e.started) (hclosed : e'.closed = e.closed) (hnext : e'.nextCh = e.nextCh)
    (hstopped : e'.stopped = e.stopped) : Channels e' where
  stored_lt hs := hnext ▸ h.stored_lt (hstored hs)
  started_lt hs := hnext ▸ h.started_lt (hstarted ▸ hs)
  closed_lt hs := hnext ▸ h.closed_lt (hclosed ▸ hs)
  stored_open hs := hclosed ▸ h.stored_open (hstored hs)
  stored_inj hs hs' := h.stored_inj (hstored hs) (hstored hs')
  stored_gvr hs hm := h.stored_gvr (hstored hs) (hstarted ▸ hm)
  engine_open hs := hclosed ▸ h.engine_open (hstopped ▸ hs)

theorem stopProfileInformer (h : Channels e) (n : String) : Channels (e.stopProfileInformer n) where
  stored_lt hs := by
    rw [nextCh_stopProfileInformer]
    exact h.stored_lt (stored_stopProfileInformer.mp hs).2
  started_lt hs := by
    rw [nextCh_stopProfileInformer]
    exact h.started_lt (started_stopProfileInformer e n ▸ hs)
  closed_lt hs := by
    rw [nextCh_stopProfileInformer]
    rcases closed_stopProfileInformer.mp hs with hc | ⟨ch, g, hc, hs⟩
    · exact h.closed_lt hc
    · cases hc
      exact h.stored_lt hs
  stored_open hs := by
    rw [closed_stopProfileInformer]
    obtain ⟨hne, hs⟩ := stored_stopProfileInformer.mp hs
    rintro (hc | ⟨ch, g, hc, hs'⟩)
    · exact h.stored_open hs hc
    · cases hc
      exact hne (h.stored_inj hs hs')
  stored_inj hs hs' :=
    h.stored_inj (stored_stopProfileInformer.mp hs).2 (stored_stopProfileInformer.mp hs').2
  stored_gvr hs hm :=
    h.stored_gvr (stored_stopProfileInformer.mp hs).2 (started_stopProfileInformer e n ▸ hm)
  engine_open hs := by
    rw [closed_stopProfileInformer]
    rintro (hc | ⟨ch, g, hc, _⟩)
    · exact h.engine_open (stopped_stopProfileInformer e n ▸ hs) hc
    · cases hc

theorem start (h : Channels e) {i : Informer}
    (hi : i.stopCh = .engine ∨ ∃ n ch, i.stopCh = .profile ch ∧ e.Stored n ch i.gvr) : Channels (e.start i) where
  stored_lt := h.stored_lt
  closed_lt := h.closed_lt
  stored_open := h.stored_open
  stored_inj := h.stored_inj
  engine_open := h.engine_open
  started_lt hs := by
    rcases List.mem_cons.mp hs with rfl | hs
    · obtain hi | ⟨n, ch, hi, hs⟩ := hi <;> cases hi
      exact h.stored_lt hs
    · exact h.started_lt hs
  stored_gvr hs hm := by
    rcases List.mem_cons.mp hm with rfl | hm
    · obtain hi | ⟨n, ch, hi, hs'⟩ := hi <;> cases hi
      have hs : e.Stored _ _ _ := hs
      cases h.stored_inj hs hs'
      exact (hs'.eq hs).2
    · exact h.stored_gvr hs hm

theorem openChannel (h : Channels e) (p : ConstraintProfile) : Channels (e.openChannel p) := by
  have hstored {n ch g} (hs : (e.openChannel p).Stored n ch g) :
      (n = p.name ∧ ch = e.nextCh) ∨ (n ≠ p.name ∧ e.Stored n ch g) := by
    have hs : (e.setProfile p (some e.nextCh)).Stored n ch g := hs
    rw [stored_setProfile] at hs
    split at hs
    · rename_i hn
      exact .inl ⟨hn, (Option.some.inj hs.1).symm⟩
    · rename_i hn
      exact .inr ⟨hn, hs⟩
  constructor
  · intro n ch g hs
    rcases hstored hs with ⟨_, rfl⟩ | ⟨_, hs⟩
    · exact Nat.lt_succ_self _
    · exact Nat.lt_succ_of_lt (h.stored_lt hs)
  · exact fun hs => Nat.lt_succ_of_lt (h.started_lt hs)
  · exact fun hs => Nat.lt_succ_of_lt (h.closed_lt hs)
  · intro n ch g hs hc
    rcases hstored hs with ⟨_, rfl⟩ | ⟨_, hs⟩
    · exact Nat.lt_irrefl _ (h.closed_lt hc)
    · exact h.stored_open hs hc
  · intro n m ch g g' hs hs'
    rcases hstored hs with ⟨hn, hch⟩ | ⟨_, hs⟩ <;> rcases hstored hs' with ⟨hm, hch'⟩ | ⟨_, hs'⟩
    · exact hn.trans hm.symm
    · exact absurd hch (h.stored_lt hs').ne
    · exact absurd hch' (h.stored_lt hs).ne
    · exact h.stored_inj hs hs'
  · intro n ch g g' hs hm
    rcases hstored hs with ⟨_, rfl⟩ | ⟨_, hs⟩
    · exact absurd (h.started_lt hm) (Nat.lt_irrefl _)
    · exact h.stored_gvr hs hm
  · exact h.engine_open

theorem releaseExisting (h : Channels e) (p : ConstraintProfile) : Channels (e.releaseExisting p) := by
  rw [Engine.releaseExisting]
  split
  · exact h
  · split
    · exact h.stopProfileInformer p.name
    · exact h

theorem setProfile_none (h : Channels e) (p : ConstraintProfile) : Channels (e.setProfile p none) := by
  refine h.of_stored ?_ rfl rfl rfl rfl
  intro n ch g hs
  rw [stored_setProfile] at hs
  split at hs
  · exact absurd hs.1 (by simp)
  · exact hs

theorem startProfileInformer (h : Channels e) {gvr : GVR} {stopCh : Nat} (hs : e.Stored n stopCh gvr)
    (handlerOk : Bool) : Channels (e.startProfileInformer gvr stopCh handlerOk) := by
  rw [Engine.startProfileInformer]
  split
  · exact h.start (.inr ⟨n, stopCh, rfl, hs⟩)
  · exact h

theorem registerProfile (h : Channels e) (p : ConstraintProfile) (handlerOk : Bool) :
    Channels (e.registerProfile p handlerOk) := by
  have hset : Channels ((e.releaseExisting p).setProfile p none) := (h.releaseExisting p).setProfile_none p
  rw [Engine.registerProfile, applyProfile]
  split
  · exact hset.of_stored id rfl rfl rfl rfl
  · split
    · refine (hset.openChannel p).startProfileInformer (n := p.name) ?_ handlerOk
      exact stored_setProfile.mpr (by simp)
    · exact hset

theorem removeProfile (h : Channels e) (name : String) : Channels (e.removeProfile name) := by
  refine h.of_stored ?_ rfl rfl rfl rfl
  rintro n ch g ⟨ps, hl, hps⟩
  by_cases hn : n = name
  · subst hn
    simp [Engine.removeProfile] at hl
  · exact ⟨ps, by rwa [Engine.removeProfile, AList.lookup_erase_ne hn] at hl, hps⟩

theorem unregisterProfile (h : Channels e) (name : String) : Channels (e.unregisterProfile name).1 := by
  rw [Engine.unregisterProfile]
  split
  · exact h
  · have hremove := (h.stopProfileInformer name).removeProfile name
    simp only
    split
    · exact hremove
    · exact hremove.of_stored id rfl rfl rfl rfl

theorem stop (h : Channels e) : Channels e.stop := by
  rw [Engine.stop]
  split
  · exact h
  · have hclose : Channels { e with stopped := true, closed := insert .engine e.closed } := {
      stored_lt := h.stored_lt
      started_lt := h.started_lt
      stored_inj := h.stored_inj
      stored_gvr := h.stored_gvr
      closed_lt := fun hc => h.closed_lt (by simpa using hc)
      stored_open := fun hs hc => h.stored_open hs (by simpa using hc)
      engine_open := nofun }
    generalize e.profiles.keys = names
    induction names using List.reverseRecOn with
    | nil => exact hclose
    | append_singleton names name ih =>
        rw [List.foldl_append]
        exact ih.stopProfileInformer name

theorem watchAll (h : Channels e) (discovered : List GVR) (handlerOk : GVR → Bool) :
    Channels (e.watchAll discovered handlerOk) := by
  induction discovered generalizing e with
  | nil => exact h
  | cons gvr discovered ih =>
      apply ih
      have hw : Channels { e with watchedGVRs := insert gvr e.watchedGVRs, calls := gvr :: e.calls } :=
        h.of_stored id rfl rfl rfl rfl
      rw [watchGVR, startInformer]
      split
      · exact h
      · split
        · exact hw.start (.inl rfl)
        · exact hw

theorem refreshAnnotatedCRDs [Apimachinery] (h : Channels e) (crds : Option (List Unstructured)) :
    Channels (e.refreshAnnotatedCRDs crds) := by
  obtain he | ⟨annotated, he⟩ := refreshAnnotatedCRDs_cases e crds
  · rw [he]
    exact h
  · rw [he]
    exact h.of_stored id rfl rfl rfl rfl

end Channels

end Nightjar.Discovery.Engine
