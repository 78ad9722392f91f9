import Nightjar.Adapters.GroupFallback

namespace Nightjar.Adapters

open Lib

namespace Registry

variable {α : Type}

/-- No lookup and no listing tells the two registries apart. `All` and `HandledGVRs`
range over a map, so they are compared up to order. -/
structure SameAnswers (r r' : Registry α) : Prop where
  forGVR : ∀ gvr, r'.forGVR gvr = r.forGVR gvr
  forGroup : ∀ group, r'.forGroup group = r.forGroup group
  forName : ∀ name, r'.forName name = r.forName name
  all : r'.all.Perm r.all
  handledGVRs : r'.handledGVRs.Perm r.handledGVRs

theorem SameAnswers.refl (r : Registry α) : r.SameAnswers r :=
  ⟨fun _ => rfl, fun _ => rfl, fun _ => rfl, .refl _, .refl _⟩

variable [Adapter α]

theorem mapGVRs_keeps {a b : α} {gvrs : List GVR} {r : Registry α} {g : GVR} (h : r.forGVR g = some b) :
    (mapGVRs a gvrs r).1.forGVR g = some b := by
  induction gvrs generalizing r with
  | nil => exact h
  | cons gvr gvrs ih =>
      rw [mapGVRs]
      split
      · exact h
      · rename_i hfree
        apply ih
        have hne : g ≠ gvr := by
          rintro rfl
          rw [forGVR, hfree] at h
          cases h
        rw [forGVR_mapGVR, if_neg hne, h]

theorem mapGVRs_taken {a : α} {gvrs : List GVR} {r : Registry α} (h : ∃ gvr ∈ gvrs, r.forGVR gvr ≠ none) :
    (mapGVRs a gvrs r).2 ≠ none := by
  induction gvrs generalizing r with
  | nil =>
      obtain ⟨gvr, hmem, -⟩ := h
      cases hmem
  | cons gvr gvrs ih =>
      rw [mapGVRs]
      split
      · exact Option.some_ne_none _
      · rename_i hfree
        obtain ⟨g, hmem, hg⟩ := h
        apply ih
        refine ⟨g, ?_, ?_⟩
        · obtain rfl | hmem := List.mem_cons.mp hmem
          · exact absurd hfree hg
          · exact hmem
        · rw [forGVR_mapGVR]
          split
          · exact Option.some_ne_none _
          · exact hg

theorem register_of_free {r : Registry α} {a : α} (h : r.forName (Adapter.name a) = none) :
    (r.register a).2 = (mapGVRs a (Adapter.handles a) r).2 ∧
      (∀ gvr, (r.register a).1.forGVR gvr = (mapGVRs a (Adapter.handles a) r).1.forGVR gvr) := by
  have h : r.adapters.lookup (Adapter.name a) = none := h
  rw [register, h]
  cases hm : mapGVRs a (Adapter.handles a) r with
  | mk r' err => cases err <;> exact ⟨rfl, fun _ => rfl⟩

theorem register_of_named {r : Registry α} {a : α} (h : r.forName (Adapter.name a) ≠ none) :
    r.register a = (r, some (.nameTaken (Adapter.name a))) := by
  obtain ⟨b, hb⟩ := Option.ne_none_iff_exists'.mp h
  have hb : r.adapters.lookup (Adapter.name a) = some b := hb
  rw [register, hb]

theorem forGVR_register_head {r : Registry α} {a : α} {gvr : GVR} {gvrs : List GVR}
    (hname : r.forName (Adapter.name a) = none) (hhandles : Adapter.handles a = gvr :: gvrs)
    (hfree : r.forGVR gvr = none) : (r.register a).1.forGVR gvr = some a := by
  have hl : r.gvrMap.lookup gvr = none := hfree
  rw [(register_of_free hname).2, hhandles, mapGVRs, hl]
  apply mapGVRs_keeps
  rw [forGVR_mapGVR, if_pos rfl]

theorem register_of_head_taken {r : Registry α} {a : α} {gvr : GVR} {gvrs : List GVR}
    (hname : r.forName (Adapter.name a) = none) (hhandles : Adapter.handles a = gvr :: gvrs)
    (htaken : r.forGVR gvr ≠ none) : (r.register a).1 = r := by
  obtain ⟨b, hb⟩ := Option.ne_none_iff_exists'.mp htaken
  have hb : r.gvrMap.lookup gvr = some b := hb
  have hn : r.adapters.lookup (Adapter.name a) = none := hname
  simp only [register, hn, hhandles, mapGVRs, hb]

/-- A registration that meets a GVR of another adapter fails, and it leaves no trace
exactly if it fails before it maps its first GVR. -/
theorem register_conflict_unchanged_iff (r : Registry α) (a : α)
    (hconflict : ∃ gvr ∈ Adapter.handles a, r.forGVR gvr ≠ none) :
    ((r.register a).2 ≠ none ∧ r.SameAnswers (r.register a).1) ↔
      r.forName (Adapter.name a) ≠ none ∨ ∃ gvr ∈ (Adapter.handles a).head?, r.forGVR gvr ≠ none := by
  by_cases hname : r.forName (Adapter.name a) = none
  · constructor
    · rintro ⟨-, hsame⟩
      right
      cases hh : Adapter.handles a with
      | nil =>
          obtain ⟨gvr, hmem, -⟩ := hconflict
          rw [hh] at hmem
          cases hmem
      | cons gvr gvrs =>
          refine ⟨gvr, rfl, ?_⟩
          intro hfree
          have hmapped := forGVR_register_head hname hh hfree
          rw [hsame.forGVR gvr, hfree] at hmapped
          cases hmapped
    · rintro (h | ⟨gvr, hmem, htaken⟩)
      · exact absurd hname h
      · obtain ⟨gvrs, hh⟩ := List.head?_eq_some_iff.mp hmem
        refine ⟨?_, ?_⟩
        · rw [(register_of_free hname).1]
          exact mapGVRs_taken hconflict
        · rw [register_of_head_taken hname hh htaken]
          exact .refl r
  · rw [register_of_named hname]
    exact ⟨fun _ => .inl hname, fun _ => ⟨Option.some_ne_none _, .refl r⟩⟩

section GroupsServed

/-- A group of which a GVR is mapped has an adapter. -/
def GroupsServed (r : Registry α) : Prop := ∀ gvr : GVR, r.forGVR gvr ≠ none → r.forGroup gvr.group ≠ none

omit [Adapter α] in
theorem GroupsServed.mapGVR {r : Registry α} (h : r.GroupsServed) (gvr : GVR) (a : α) :
    (r.mapGVR gvr a).GroupsServed := by
  intro g hg
  rw [forGVR_mapGVR] at hg
  rw [forGroup_mapGVR, Ne, Option.or_eq_none_iff]
  rintro ⟨hold, hnew⟩
  split at hg
  · subst g
    rw [if_pos rfl] at hnew
    cases hnew
  · exact h g hg hold

omit [Adapter α] in
theorem GroupsServed.of_maps {r r' : Registry α} (h : r.GroupsServed) (hg : r'.gvrMap = r.gvrMap)
    (hgroup : r'.groupMap = r.groupMap) : r'.GroupsServed := by
  intro gvr hgvr
  rw [forGroup, hgroup]
  rw [forGVR, hg] at hgvr
  exact h gvr hgvr

theorem GroupsServed.mapGVRs {a : α} {gvrs : List GVR} {r : Registry α} (h : r.GroupsServed) :
    (mapGVRs a gvrs r).1.GroupsServed := by
  induction gvrs generalizing r with
  | nil => exact h
  | cons gvr gvrs ih =>
      rw [Registry.mapGVRs]
      split
      · exact h
      · exact ih (h.mapGVR gvr a)

theorem GroupsServed.register {r : Registry α} (h : r.GroupsServed) (a : α) : (r.register a).1.GroupsServed := by
  obtain ⟨hg, hgroup⟩ | he := register_maps r a
  · exact h.mapGVRs.of_maps hg hgroup
  · rw [he]
    exact h

/-- A group that loses its adapter gets the adapter of a GVR that is left, if one is: the
loop over `gvrMap` comes to every GVR. -/
theorem GroupsServed.reassignGroup {r : Registry α} (h : r.GroupsServed) {name group : String} {range : List GVR}
    (hrange : ∀ gvr, gvr ∈ range ↔ r.forGVR gvr ≠ none) : (reassignGroup name range r group).GroupsServed := by
  intro gvr hgvr
  rw [forGVR_reassignGroup] at hgvr
  by_cases he : gvr.group = group
  · subst he
    unfold Registry.reassignGroup
    split
    · exact h gvr hgvr
    · split
      · have hfind : (range.find? (fun g => g.group = gvr.group)).isSome :=
          List.find?_isSome.mpr ⟨gvr, (hrange gvr).mpr hgvr, decide_eq_true rfl⟩
        obtain ⟨left, hleft⟩ := Option.isSome_iff_exists.mp hfind
        obtain ⟨a, ha⟩ := Option.ne_none_iff_exists'.mp ((hrange left).mp (List.mem_of_find?_eq_some hleft))
        have ha : r.gvrMap.lookup left = some a := ha
        simp only [hleft, Option.bind_some, ha]
        rw [forGroup, AList.lookup_insert]
        exact Option.some_ne_none a
      · exact h gvr hgvr
  · rw [forGroup_reassignGroup_ne range r he]
    exact h gvr hgvr

theorem GroupsServed.foldl {name : String} {ranges : String → List GVR} {groups : List String} {r : Registry α}
    (h : r.GroupsServed) (hranges : ∀ group gvr, gvr ∈ ranges group ↔ r.forGVR gvr ≠ none) :
    (groups.foldl (fun r group => Registry.reassignGroup name (ranges group) r group) r).GroupsServed := by
  induction groups generalizing r with
  | nil => exact h
  | cons group groups ih =>
      apply ih (h.reassignGroup (hranges group))
      intro other gvr
      rw [forGVR_reassignGroup]
      exact hranges other gvr

theorem GroupsServed.removeGVRs {r : Registry α} (h : r.GroupsServed) (name : String) :
    (r.removeGVRs name).GroupsServed := by
  intro gvr hgvr
  obtain ⟨a, ha⟩ := Option.ne_none_iff_exists'.mp hgvr
  apply h gvr
  rw [(forGVR_removeGVRs.mp ha).1]
  exact Option.some_ne_none a

omit [Adapter α] in
theorem mem_keys_iff {r : Registry α} {gvr : GVR} : gvr ∈ r.gvrMap.keys ↔ r.forGVR gvr ≠ none := by
  rw [← AList.mem_keys, ← AList.lookup_isSome, Option.isSome_iff_ne_none]
  rfl

theorem GroupsServed.unregister {r : Registry α} (h : r.GroupsServed) {ranges : String → List GVR} {name : String}
    (hranges : ∀ group, (ranges group).Perm (r.removeGVRs name).gvrMap.keys) :
    (r.unregister ranges name).1.GroupsServed := by
  unfold Registry.unregister
  split
  · exact h
  · refine GroupsServed.of_maps (GroupsServed.foldl (h.removeGVRs name) ?_) rfl rfl
    intro group gvr
    rw [(hranges group).mem_iff, mem_keys_iff]

theorem GroupsServed.unregisterGVR {r : Registry α} (h : r.GroupsServed) (gvr : GVR) :
    (r.unregisterGVR gvr).GroupsServed := by
  intro g hg
  have hold : r.forGroup g.group ≠ none := by
    apply h g
    rw [forGVR_unregisterGVR] at hg
    split at hg
    · exact absurd rfl hg
    · exact hg
  unfold Registry.unregisterGVR at hg ⊢
  split
  · exact hold
  · rename_i hl
    rw [hl] at hg
    dsimp only at hg ⊢
    split
    · exact hold
    · rename_i hgroup
      rw [hgroup] at hg
      dsimp only at hg
      split
      · rename_i hlast
        rw [if_pos hlast] at hg
        have hmem : g ∈ (r.gvrMap.erase gvr).keys := AList.mem_keys.mp
          (AList.lookup_isSome.mp (Option.isSome_iff_ne_none.mpr hg))
        have hne : g.group ≠ gvr.group := by simpa using List.all_eq_true.mp hlast.2 g hmem
        rw [forGroup, AList.lookup_erase_ne hne]
        exact hold
      · exact hold

end GroupsServed

section Inverse

omit [Adapter α] in
theorem mapGVR_adapters (r : Registry α) (gvr : GVR) (a : α) : (r.mapGVR gvr a).adapters = r.adapters := by
  unfold mapGVR indexGroup
  split <;> rfl

theorem mapGVRs_adapters (a : α) (gvrs : List GVR) (r : Registry α) :
    (mapGVRs a gvrs r).1.adapters = r.adapters := by
  induction gvrs generalizing r with
  | nil => rfl
  | cons gvr gvrs ih =>
      rw [mapGVRs]
      split
      · rfl
      · rw [ih, mapGVR_adapters]

theorem reassignGroup_adapters (name : String) (range : List GVR) (r : Registry α) (group : String) :
    (reassignGroup name range r group).adapters = r.adapters := by
  unfold reassignGroup
  split
  · rfl
  · split
    · split <;> rfl
    · rfl

theorem foldl_reassignGroup_adapters (name : String) (ranges : String → List GVR) (groups : List String)
    (r : Registry α) :
    (groups.foldl (fun r group => reassignGroup name (ranges group) r group) r).adapters = r.adapters := by
  induction groups generalizing r with
  | nil => rfl
  | cons group groups ih => rw [List.foldl_cons, ih, reassignGroup_adapters]

theorem forName_register {r r' : Registry α} {a : α} (h : r.register a = (r', none)) (name : String) :
    r.forName (Adapter.name a) = none ∧
      r'.forName name = if name = Adapter.name a then some a else r.forName name := by
  unfold register at h
  split at h
  · cases h
  · rename_i hfree
    split at h
    · cases h
    · rename_i hm
      cases h
      refine ⟨hfree, ?_⟩
      have hkeep := mapGVRs_adapters a (Adapter.handles a) r
      rw [hm] at hkeep
      rw [forName, Table.lookup_insert, hkeep]
      rfl

theorem forName_unregister {r r' : Registry α} {ranges : String → List GVR} {name : String}
    (h : r.unregister ranges name = (r', none)) (other : String) :
    r'.forName other = if other = name then none else r.forName other := by
  unfold unregister at h
  split at h
  · cases h
  · cases h
    rw [forName, Table.lookup_erase, foldl_reassignGroup_adapters]
    rfl

theorem forGroup_reassignGroup_kept {name group : String} {r : Registry α} {b : α} (range : List GVR)
    (hb : r.forGroup group = some b) (hname : Adapter.name b ≠ name) (turn : String) :
    (reassignGroup name range r turn).forGroup group = some b := by
  by_cases he : group = turn
  · subst he
    have hl : r.groupMap.lookup group = some b := hb
    simp only [reassignGroup, hl, if_neg hname]
    exact hb
  · rw [forGroup_reassignGroup_ne range r he, hb]

theorem forGroup_foldl_kept {name group : String} {ranges : String → List GVR} {groups : List String}
    {r : Registry α} {b : α} (hb : r.forGroup group = some b) (hname : Adapter.name b ≠ name) :
    (groups.foldl (fun r group => reassignGroup name (ranges group) r group) r).forGroup group = some b := by
  induction groups generalizing r with
  | nil => exact hb
  | cons turn groups ih => exact ih (forGroup_reassignGroup_kept (ranges turn) hb hname turn)

/-- The group has no adapter, or the one that is removed. -/
def Vacating (r : Registry α) (name group : String) : Prop :=
  ∀ b, r.forGroup group = some b → Adapter.name b = name

theorem forGroup_reassignGroup_unmapped {name group : String} {r : Registry α} (range : List GVR)
    (hnone : ∀ gvr : GVR, gvr.group = group → r.forGVR gvr = none) (hg : r.Vacating name group) :
    (reassignGroup name range r group).forGroup group = none := by
  rw [Option.eq_none_iff_forall_ne_some]
  intro b hb
  obtain ⟨hold, hname⟩ | ⟨gvr, hgroup, hmap⟩ := forGroup_reassignGroup hb
  · exact hname (hg b hold)
  · rw [hnone gvr hgroup] at hmap
    cases hmap

theorem forGroup_foldl_unmapped {name group : String} {ranges : String → List GVR} {groups : List String}
    {r : Registry α} (hnone : ∀ gvr : GVR, gvr.group = group → r.forGVR gvr = none)
    (hg : r.Vacating name group) (hmem : group ∈ groups ∨ r.forGroup group = none) :
    (groups.foldl (fun r group => reassignGroup name (ranges group) r group) r).forGroup group = none := by
  induction groups generalizing r with
  | nil => exact hmem.resolve_left List.not_mem_nil
  | cons turn groups ih =>
      have hnone' : ∀ gvr : GVR, gvr.group = group → (reassignGroup name (ranges turn) r turn).forGVR gvr = none := by
        intro gvr hgroup
        rw [forGVR_reassignGroup, hnone gvr hgroup]
      by_cases he : group = turn
      · subst he
        have hfree := forGroup_reassignGroup_unmapped (ranges group) hnone hg
        refine ih hnone' ?_ (.inr hfree)
        intro b hb
        rw [hfree] at hb
        cases hb
      · have hsame : (reassignGroup name (ranges turn) r turn).forGroup group = r.forGroup group :=
          forGroup_reassignGroup_ne (ranges turn) r he
        refine ih hnone' ?_ ?_
        · intro b hb
          exact hg b (hsame ▸ hb)
        · rw [hsame]
          exact hmem.imp_left (fun h => (List.mem_cons.mp h).resolve_left he)

/-- What ties the three maps together while only whole adapters come and go. -/
structure Consistent (r : Registry α) : Prop where
  groups : r.GroupsMapped
  served : r.GroupsServed
  named : ∀ gvr a, r.forGVR gvr = some a → r.forName (Adapter.name a) ≠ none

theorem consistent_new : (new : Registry α).Consistent where
  groups := groupsMapped_new
  served gvr h := absurd (forGVR_new gvr) h
  named gvr a h := by cases h

theorem Consistent.register {r r' : Registry α} {a : α} (h : r.Consistent) (hr : r.register a = (r', none)) :
    r'.Consistent := by
  have hgroups := h.groups.register a
  have hserved := h.served.register a
  rw [hr] at hgroups hserved
  refine ⟨hgroups, hserved, ?_⟩
  intro gvr b hb
  rw [(forName_register hr _).2]
  split
  · exact Option.some_ne_none a
  · rename_i hne
    have hb : (r.register a).1.forGVR gvr = some b := by rw [hr, hb]
    obtain hold | rfl := forGVR_register hb
    · exact h.named gvr b hold
    · exact absurd rfl hne

theorem Consistent.unregister {r r' : Registry α} {ranges : String → List GVR} {name : String} (h : r.Consistent)
    (hranges : ∀ group, (ranges group).Perm (r.removeGVRs name).gvrMap.keys)
    (hr : r.unregister ranges name = (r', none)) : r'.Consistent := by
  have hgroups := h.groups.unregister ranges name
  have hserved := h.served.unregister hranges
  rw [hr] at hgroups hserved
  refine ⟨hgroups, hserved, ?_⟩
  intro gvr b hb
  obtain ⟨hold, hne⟩ := (forGVR_unregister hr).mp hb
  rw [forName_unregister hr, if_neg hne]
  exact h.named gvr b hold

theorem Consistent.name_ne {r : Registry α} (h : r.Consistent) {name : String} (hfree : r.forName name = none)
    {gvr : GVR} {b : α} (hb : r.forGVR gvr = some b) : Adapter.name b ≠ name := by
  rintro rfl
  exact h.named gvr b hb hfree

theorem forGVR_unregister_register {r r₁ r₂ : Registry α} {a : α} {ranges : String → List GVR} (h : r.Consistent)
    (hr : r.register a = (r₁, none)) (hu : r₁.unregister ranges (Adapter.name a) = (r₂, none)) (gvr : GVR) :
    r₂.forGVR gvr = r.forGVR gvr := by
  have hfree := (forName_register hr "").1
  ext b
  rw [forGVR_unregister hu, (register_ok hr).1, Option.or_eq_some_iff]
  constructor
  · rintro ⟨hold | ⟨-, hnew⟩, hname⟩
    · exact hold
    · split at hnew
      · cases hnew
        exact absurd rfl hname
      · cases hnew
  · intro hold
    exact ⟨.inl hold, h.name_ne hfree hold⟩

omit [Adapter α] in
theorem GroupsServed.forGVR_eq_none {r : Registry α} (h : r.GroupsServed) {gvr : GVR}
    (hnone : r.forGroup gvr.group = none) : r.forGVR gvr = none := by
  by_contra hmapped
  exact h gvr hmapped hnone

section NewGroup
variable {r r₁ : Registry α} {a : α} {group : String}

theorem forGVR_removeGVRs_new (h : r.Consistent) (hr : r.register a = (r₁, none)) (hnone : r.forGroup group = none)
    (gvr : GVR) (hgvr : gvr.group = group) : (r₁.removeGVRs (Adapter.name a)).forGVR gvr = none := by
  subst hgvr
  rw [Option.eq_none_iff_forall_ne_some]
  intro b hb
  obtain ⟨hb, hname⟩ := forGVR_removeGVRs.mp hb
  rw [(register_ok hr).1, h.served.forGVR_eq_none hnone, Option.none_or] at hb
  split at hb
  · cases hb
    exact hname rfl
  · cases hb

theorem vacating_new (hr : r.register a = (r₁, none)) (hnone : r.forGroup group = none) :
    r₁.Vacating (Adapter.name a) group := by
  intro b hb
  rw [(register_ok hr).2 group, hnone, Option.none_or] at hb
  split at hb
  · cases hb
    rfl
  · cases hb

theorem affected_new (h : r.Consistent) (hr : r.register a = (r₁, none)) (hnone : r.forGroup group = none) :
    group ∈ r₁.affectedGroups (Adapter.name a) ∨ r₁.forGroup group = none := by
  have hgroup := (register_ok hr).2 group
  rw [hnone, Option.none_or] at hgroup
  by_cases hmem : group ∈ (Adapter.handles a).map GVR.group
  · left
    obtain ⟨gvr, hgvr, rfl⟩ := List.mem_map.mp hmem
    apply mem_affectedGroups (a := a)
    rw [(register_ok hr).1, if_pos hgvr, h.served.forGVR_eq_none hnone]
    rfl
  · right
    rw [if_neg hmem] at hgroup
    exact hgroup

end NewGroup

theorem forGroup_unregister_register {r r₁ r₂ : Registry α} {a : α} {ranges : String → List GVR} (h : r.Consistent)
    (hr : r.register a = (r₁, none)) (hu : r₁.unregister ranges (Adapter.name a) = (r₂, none)) (group : String) :
    r₂.forGroup group = r.forGroup group := by
  unfold unregister at hu
  split at hu
  · cases hu
  cases hu
  change (List.foldl _ (r₁.removeGVRs (Adapter.name a)) _).forGroup group = _
  cases hold : r.forGroup group with
  | some b =>
      have hgroup := (register_ok hr).2 group
      obtain ⟨gvr, -, hmap⟩ := h.groups group b hold
      rw [hold, Option.some_or] at hgroup
      exact forGroup_foldl_kept hgroup (h.name_ne (forName_register hr "").1 hmap)
  | none =>
      have hvacating := vacating_new hr hold
      exact forGroup_foldl_unmapped (forGVR_removeGVRs_new h hr hold) hvacating (affected_new h hr hold)

end Inverse

end Registry

namespace RegistryRun

variable {α : Type} [Adapter α]

theorem groupsServed_step {s s' : RegistryRun α} {c : RegistryCall α} (h : s.registry.GroupsServed)
    (hs : (system α).step s c s') : s'.registry.GroupsServed := by
  obtain ⟨hranges, rfl⟩ := hs
  cases c with
  | register a => exact h.register a
  | registerGVR gvr a => exact h.mapGVR gvr a
  | unregisterGVR gvr => exact h.unregisterGVR gvr
  | unregister name ranges =>
      have hu := h.unregister hranges
      rw [next]
      split <;> simpa only [*] using hu

/-- Whatever calls are made, in whatever order and with whatever outcome, a group of which
a GVR is mapped has an adapter to fall back to. -/
theorem forGroup_ne_none_of_mapped {s : RegistryRun α} (h : (system α).Reachable s) {gvr : GVR}
    (hmapped : s.registry.forGVR gvr ≠ none) : s.registry.forGroup gvr.group ≠ none := by
  refine System.Reaches.invariant (I := fun s : RegistryRun α => s.registry.GroupsServed) ?_ ?_ h gvr hmapped
  · rintro _ rfl
    exact Registry.consistent_new.served
  · intro s c s' hi _ hs
    exact groupsServed_step hi hs

/-- The call is `Register` or `Unregister` and succeeds. -/
def Succeeds (s : RegistryRun α) : RegistryCall α → Prop
  | .register a => (s.registry.register a).2 = none
  | .unregister name ranges => (s.registry.unregister ranges name).2 = none
  | .registerGVR _ _ | .unregisterGVR _ => False

theorem consistent_step {s s' : RegistryRun α} {c : RegistryCall α} (h : s.registry.Consistent)
    (hc : s.Succeeds c) (hs : (system α).step s c s') : s'.registry.Consistent := by
  obtain ⟨hranges, rfl⟩ := hs
  cases c with
  | register a => exact h.register (Prod.ext rfl hc)
  | unregister name ranges =>
      have hu := h.unregister hranges (Prod.ext rfl hc)
      rw [next]
      split <;> simpa only [*] using hu
  | registerGVR gvr a => exact hc.elim
  | unregisterGVR gvr => exact hc.elim

theorem consistent_of_reaches {s : RegistryRun α} (h : (system α).Reaches Succeeds s) : s.registry.Consistent := by
  refine h.invariant (I := fun s : RegistryRun α => s.registry.Consistent) ?_ (fun _ _ _ => consistent_step)
  rintro _ rfl
  exact Registry.consistent_new

/-- `Unregister` directly after a `Register` of the adapter succeeds and gives back all three
maps, whatever the order in which it ranges over them. -/
theorem unregister_restores {s : RegistryRun α} (h : (system α).Reaches Succeeds s) {a : α}
    (ha : (s.registry.register a).2 = none) (ranges : String → List GVR) :
    ∃ r, (s.registry.register a).1.unregister ranges (Adapter.name a) = (r, none) ∧
      (∀ name, r.forName name = s.registry.forName name) ∧
      (∀ gvr, r.forGVR gvr = s.registry.forGVR gvr) ∧
      (∀ group, r.forGroup group = s.registry.forGroup group) := by
  have hi := consistent_of_reaches h
  obtain ⟨r₁, hr⟩ : ∃ r₁, s.registry.register a = (r₁, none) := ⟨_, Prod.ext rfl ha⟩
  have hname := Registry.forName_register hr
  have hnamed : r₁.adapters.lookup (Adapter.name a) = some a := by
    have := (hname (Adapter.name a)).2
    rwa [if_pos rfl] at this
  obtain ⟨r₂, hu⟩ : ∃ r₂, r₁.unregister ranges (Adapter.name a) = (r₂, none) := by
    rw [Registry.unregister, hnamed]
    exact ⟨_, rfl⟩
  refine ⟨r₂, by rw [hr, hu], ?_, Registry.forGVR_unregister_register hi hr hu,
    Registry.forGroup_unregister_register hi hr hu⟩
  intro name
  rw [Registry.forName_unregister hu, (hname name).2]
  split
  · rw [‹name = _›, (hname name).1]
  · rfl

theorem Reaches.register {G : RegistryRun α → RegistryCall α → Prop} {s : RegistryRun α}
    (h : (system α).Reaches G s) (a : α) (hg : G s (.register a)) :
    (system α).Reaches G (s.next (.register a)) :=
  .step h hg ⟨trivial, rfl⟩

section Samples

def firstOnly : RegistryRun SampleAdapter := RegistryRun.next ⟨.new, []⟩ (.register first)

def overlapping : SampleAdapter := ⟨"overlapping", [others, things]⟩

def neighbour : SampleAdapter := ⟨"neighbour", [others]⟩

theorem firstOnly_reaches {G : RegistryRun SampleAdapter → RegistryCall SampleAdapter → Prop}
    (hg : G ⟨.new, []⟩ (.register first)) : (system SampleAdapter).Reaches G firstOnly :=
  Reaches.register (.init rfl) first hg

theorem register_conflict_leaves_gvr :
    (system SampleAdapter).Reachable firstOnly ∧
      (∃ gvr ∈ Adapter.handles overlapping, firstOnly.registry.forGVR gvr ≠ none) ∧
      (firstOnly.registry.register overlapping).2 = some (.gvrTaken things "first" "overlapping") ∧
      (firstOnly.registry.register overlapping).1.forName "overlapping" = none ∧
      firstOnly.registry.forGVR others = none ∧
      (firstOnly.registry.register overlapping).1.forGVR others = some overlapping ∧
      firstOnly.registry.handledGVRs = [things] ∧
      (firstOnly.registry.register overlapping).1.handledGVRs = [others, things] ∧
      ¬firstOnly.registry.SameAnswers (firstOnly.registry.register overlapping).1 := by
  refine ⟨firstOnly_reaches trivial, ⟨things, by decide, by decide⟩, by decide, by decide,
    by decide, by decide, by decide, by decide, ?_⟩
  intro h
  have hfree : (firstOnly.registry.register overlapping).1.forGVR others = none := by
    rw [h.forGVR others]
    rfl
  revert hfree
  decide

theorem register_conflict_unchanged_second :
    (firstOnly.registry.register ⟨"second", [things, others]⟩).2 ≠ none ∧
      firstOnly.registry.SameAnswers (firstOnly.registry.register ⟨"second", [things, others]⟩).1 :=
  (Registry.register_conflict_unchanged_iff firstOnly.registry ⟨"second", [things, others]⟩
    ⟨things, by decide, by decide⟩).mpr (.inr ⟨things, rfl, by decide⟩)

theorem forGroup_ne_none_overlapping :
    (firstOnly.next (.register overlapping)).registry.forGroup others.group ≠ none := by
  have h : (system SampleAdapter).Reachable (firstOnly.next (.register overlapping)) :=
    Reaches.register (firstOnly_reaches trivial) overlapping trivial
  exact forGroup_ne_none_of_mapped h (by decide)

theorem unregister_restores_neighbour :
    ∃ r, (firstOnly.registry.register neighbour).1.unregister (fun _ => [things]) "neighbour" = (r, none) ∧
      (∀ name, r.forName name = firstOnly.registry.forName name) ∧
      (∀ gvr, r.forGVR gvr = firstOnly.registry.forGVR gvr) ∧
      (∀ group, r.forGroup group = firstOnly.registry.forGroup group) :=
  unregister_restores (firstOnly_reaches rfl) (a := neighbour) (by decide) (fun _ => [things])

end Samples

end RegistryRun

end Nightjar.Adapters
