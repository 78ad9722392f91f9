import Nightjar.Discovery.Handlers

namespace Nightjar.Discovery.Engine

open Adapters Lib.Strings

variable {α : Type}

section Order
variable (e : Engine α) (handlerOk : ConstraintProfile → Bool)

def registerAll (ps : List ConstraintProfile) : Engine α := ps.foldl (fun e p => e.registerProfile p (handlerOk p)) e

theorem mem_watched_registerAll_concat {ps : List ConstraintProfile} {p : ConstraintProfile} {g : GVR} :
    g ∈ (e.registerAll handlerOk (ps ++ [p])).watchedGVRs ↔
      if g = p.gvr then p.enabled = true else g ∈ (e.registerAll handlerOk ps).watchedGVRs := by
  rw [registerAll, List.foldl_append]
  exact mem_watched_registerProfile

def Agree (ps : List ConstraintProfile) : Prop := ∀ p ∈ ps, ∀ q ∈ ps, p.gvr = q.gvr → p.enabled = q.enabled

theorem mem_watched_registerAll {ps : List ConstraintProfile} (hps : Agree ps) {g : GVR} :
    g ∈ (e.registerAll handlerOk ps).watchedGVRs ↔
      (∃ p ∈ ps, p.gvr = g ∧ p.enabled = true) ∨ (∀ p ∈ ps, p.gvr ≠ g) ∧ g ∈ e.watchedGVRs := by
  induction ps using List.reverseRecOn with
  | nil => simp [registerAll]
  | append_singleton ps p ih =>
      have hinit : Agree ps := by
        intro q hq r hr
        exact hps q (List.mem_append_left _ hq) r (List.mem_append_left _ hr)
      rw [mem_watched_registerAll_concat, ih hinit]
      split
      · rename_i hg
        have hlast : p ∈ ps ++ [p] := List.mem_append_right _ (List.mem_singleton_self p)
        constructor
        · intro hp
          exact .inl ⟨p, hlast, hg.symm, hp⟩
        · rintro (⟨q, hq, hqg, hqe⟩ | ⟨hnone, _⟩)
          · rw [hps p hlast q hq (hg.symm.trans hqg.symm)]
            exact hqe
          · exact absurd hg.symm (hnone p hlast)
      · rename_i hg
        have hp : p.gvr ≠ g := Ne.symm hg
        simp [or_and_right, exists_or, forall_and, or_imp, hp]

/-- All orders of registration end with the same watched GVRs exactly when no
two of the profiles name one GVR with different settings of `enabled`. -/
theorem watched_registerAll_perm_iff (ps : List ConstraintProfile) :
    (∀ qs rs : List ConstraintProfile, qs.Perm ps → rs.Perm ps →
      (e.registerAll handlerOk qs).watchedGVRs = (e.registerAll handlerOk rs).watchedGVRs) ↔
    ∀ p ∈ ps, ∀ q ∈ ps, p.gvr = q.gvr → p.enabled = q.enabled := by
  constructor
  · intro hsame p hp q hq hg
    have hlast {r : ConstraintProfile} (hr : r ∈ ps) : (ps.erase r ++ [r]).Perm ps :=
      (List.perm_append_singleton r _).trans (List.perm_cons_erase hr).symm
    have hw := congrArg (p.gvr ∈ ·) (hsame _ _ (hlast hp) (hlast hq))
    simpa [mem_watched_registerAll_concat, hg] using hw
  · intro hagree qs rs hqs hrs
    have hof {xs : List ConstraintProfile} (hxs : xs.Perm ps) : Agree xs :=
      fun p hp q hq => hagree p (hxs.mem_iff.mp hp) q (hxs.mem_iff.mp hq)
    ext g
    rw [mem_watched_registerAll e handlerOk (hof hqs), mem_watched_registerAll e handlerOk (hof hrs)]
    simp only [hqs.mem_iff, hrs.mem_iff]

end Order

section Conflict
attribute [local instance] Apimachinery.model asciiTables

def enabledFirst : List ConstraintProfile :=
  [sampleProfile "limits", { sampleProfile "limits" with name := "opt-out", enabled := false }]

theorem registration_order_matters : (enabledFirst.map ConstraintProfile.name).Nodup ∧
    (controllerEngine.registerAll (fun _ => true) enabledFirst).watchedGVRs ≠
      (controllerEngine.registerAll (fun _ => true) enabledFirst.reverse).watchedGVRs := by
  decide

end Conflict

section Undo
variable {e : Engine α} {p : ConstraintProfile}

theorem needed_registerProfile {handlerOk : Bool} {g : GVR} :
    (e.registerProfile p handlerOk).Needed p.name g ↔ e.Needed p.name g := by
  refine exists_congr fun m => exists_congr fun other => and_congr_right fun hm => ?_
  obtain ⟨s, hs⟩ := lookup_registerProfile (e := e) (p := p) (m := m)
  rw [hs, if_neg hm]

theorem mem_watched_unregister_register {handlerOk : Bool} {g : GVR} (hp : p.enabled = true) :
    g ∈ ((e.registerProfile p handlerOk).unregisterProfile p.name).1.watchedGVRs ↔
      if g = p.gvr then e.Needed p.name g else g ∈ e.watchedGVRs := by
  obtain ⟨s, hs⟩ := lookup_registerProfile (e := e) (p := p) (m := p.name)
  rw [mem_watched_unregisterProfile, mem_watched_registerProfile, hs, if_pos rfl, needed_registerProfile]
  by_cases hg : g = p.gvr
  · simp [hg, hp, ConstraintProfile.state]
  · simp [hg, ConstraintProfile.state, Ne.symm hg]

theorem watched_unregister_register_iff {handlerOk : Bool} (hp : p.enabled = true) :
    ((e.registerProfile p handlerOk).unregisterProfile p.name).1.watchedGVRs = e.watchedGVRs ↔
      (e.Needed p.name p.gvr ↔ p.gvr ∈ e.watchedGVRs) := by
  simp only [Finset.ext_iff, mem_watched_unregister_register hp]
  constructor
  · intro h
    simpa using h p.gvr
  · intro h g
    split
    · rename_i hg
      rw [hg]
      exact h
    · rfl

/-- Registering a profile and unregistering it restores the watched GVRs and the
index exactly when another enabled profile names the GVR and it was watched, or
none does and it was neither watched nor indexed. -/
theorem unregister_undoes_register_iff (e : Engine α) (idx : Indexer) (p : ConstraintProfile) (handlerOk : Bool)
    (hp : p.enabled = true) :
    ((e.registerProfile p handlerOk).unregisterProfile p.name).1.watchedGVRs = e.watchedGVRs ∧
      (∀ c, c ∈ (idx.applyAll ((e.registerProfile p handlerOk).unregisterProfile p.name).2).all ↔ c ∈ idx.all) ↔
    e.Needed p.name p.gvr ∧ p.gvr ∈ e.watchedGVRs ∨
      ¬ e.Needed p.name p.gvr ∧ p.gvr ∉ e.watchedGVRs ∧ ∀ c ∈ idx.all, c.source ≠ p.gvr := by
  obtain ⟨s, hs⟩ := lookup_registerProfile (e := e) (p := p) (m := p.name)
  have hmut := mutations_unregisterProfile (hs.trans (if_pos rfl))
  simp only [ConstraintProfile.state, needed_registerProfile] at hmut
  rw [watched_unregister_register_iff hp]
  by_cases hneed : e.Needed p.name p.gvr
  · rw [hmut.1 hneed]
    simp [hneed]
  · have hindex : (∀ c, c ∈ (idx.deleteBySource p.gvr).1.all ↔ c ∈ idx.all) ↔ ∀ c ∈ idx.all, c.source ≠ p.gvr := by
      simp only [Indexer.mem_all_deleteBySource, and_iff_left_iff_imp]
    rw [hmut.2 hneed, Indexer.applyAll_cons, Indexer.applyAll_nil, Indexer.apply, hindex]
    simp [hneed]

end Undo

section Discovered
attribute [local instance] Apimachinery.model asciiTables

theorem unregister_undoes_register_fresh : (sampleProfile "limits").enabled = true ∧
    ((controllerEngine.registerProfile (sampleProfile "limits") true).unregisterProfile "sample").1.watchedGVRs =
      controllerEngine.watchedGVRs := by
  have hneed : ¬ controllerEngine.Needed "sample" (sampleProfile "limits").gvr := by
    rw [← any_removeProfile_iff]
    decide
  have hundo := (unregister_undoes_register_iff controllerEngine .new (sampleProfile "limits") true rfl).mpr
    (.inr ⟨hneed, by decide, by simp⟩)
  exact ⟨rfl, hundo.1⟩

def discovered : World Builtin :=
  (World.execute [.op (.scan [⟨"example.io/v1", ["limits"]⟩] none (fun _ => true)), World.sampleEvent, .parse 0 [],
    .write 0, .write 0]).get (by decide)

theorem unregister_stops_discovery :
    (World.runs Builtin World.limits).Reachable discovered ∧ discovered.engine.profiles.lookup "sample" = none ∧
    ((discovered.engine.registerProfile (sampleProfile "limits") true).unregisterProfile "sample").1.watchedGVRs ≠
      discovered.engine.watchedGVRs ∧
    (discovered.index.applyAll
      ((discovered.engine.registerProfile (sampleProfile "limits") true).unregisterProfile "sample").2).all.length ≠
      discovered.index.all.length :=
  ⟨World.reachable_execute _, by decide, by decide, by decide⟩

end Discovered

end Nightjar.Discovery.Engine
