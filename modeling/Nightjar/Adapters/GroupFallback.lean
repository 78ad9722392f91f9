import Nightjar.Adapters.Registry
import Nightjar.Lib.Runs

namespace Nightjar.Adapters

open Lib

inductive RegistryCall (α : Type) where
  | register (a : α)
  | unregister (name : String) (ranges : String → List GVR)
  | registerGVR (gvr : GVR) (a : α)
  | unregisterGVR (gvr : GVR)

/-- A registry beside the names that were unregistered and have not been given to
`Register` or `RegisterGVR` since. -/
structure RegistryRun (α : Type) where
  registry : Registry α
  unregistered : List String

namespace Registry

variable {α : Type}

/-- The adapter of a group has a GVR of the group. -/
def GroupsMapped (r : Registry α) : Prop :=
  ∀ group a, r.forGroup group = some a → ∃ gvr : GVR, gvr.group = group ∧ r.forGVR gvr = some a

/-- A GVR of the same group, other than this one, that is mapped to the adapter. -/
def AnotherGVR (r : Registry α) (gvr : GVR) (a : α) : Prop :=
  ∃ other : GVR, other ≠ gvr ∧ other.group = gvr.group ∧ r.forGVR other = some a

theorem groupsMapped_new : (new : Registry α).GroupsMapped := by
  intro group a h
  cases h

/-- Mapping a GVR keeps the groups mapped unless it takes the last GVR of the group
from the group's adapter. -/
theorem GroupsMapped.mapGVR {r : Registry α} (h : r.GroupsMapped) {gvr : GVR} {a : α}
    (hkeep : ∀ b, r.forGVR gvr = some b → r.forGroup gvr.group = some b → b ≠ a → r.AnotherGVR gvr b) :
    (r.mapGVR gvr a).GroupsMapped := by
  intro group b hb
  rw [forGroup_mapGVR, Option.or_eq_some_iff] at hb
  obtain hb | ⟨-, hb⟩ := hb
  · obtain ⟨g, hg, hmap⟩ := h group b hb
    by_cases he : g = gvr
    · subst he hg
      by_cases hba : b = a
      · exact ⟨g, rfl, by rw [forGVR_mapGVR, if_pos rfl, hba]⟩
      · obtain ⟨other, hne, hgroup, hother⟩ := hkeep b hmap hb hba
        exact ⟨other, hgroup, by rw [forGVR_mapGVR, if_neg hne, hother]⟩
    · exact ⟨g, hg, by rw [forGVR_mapGVR, if_neg he, hmap]⟩
  · split at hb
    · cases hb
      exact ⟨gvr, Eq.symm ‹_›, by rw [forGVR_mapGVR, if_pos rfl]⟩
    · cases hb

theorem GroupsMapped.of_maps {r r' : Registry α} (h : r.GroupsMapped) (hg : r'.gvrMap = r.gvrMap)
    (hgroup : r'.groupMap = r.groupMap) : r'.GroupsMapped := by
  intro group a ha
  unfold forGroup at ha
  rw [hgroup] at ha
  obtain ⟨gvr, he, hm⟩ := h group a ha
  refine ⟨gvr, he, ?_⟩
  rw [forGVR, hg]
  exact hm

variable [Adapter α]

/-- What a registration maps, it maps to the new adapter; a GVR that has an adapter
ends the loop, so none is taken away. -/
theorem GroupsMapped.mapGVRs {a : α} {gvrs : List GVR} {r : Registry α} (h : r.GroupsMapped) :
    (mapGVRs a gvrs r).1.GroupsMapped := by
  induction gvrs generalizing r with
  | nil => exact h
  | cons gvr gvrs ih =>
      rw [Registry.mapGVRs]
      split
      · exact h
      · rename_i hfree
        refine ih (h.mapGVR ?_)
        intro b hb
        rw [forGVR, hfree] at hb
        cases hb

theorem register_maps (r : Registry α) (a : α) :
    (r.register a).1.gvrMap = (mapGVRs a (Adapter.handles a) r).1.gvrMap ∧
        (r.register a).1.groupMap = (mapGVRs a (Adapter.handles a) r).1.groupMap ∨
      (r.register a).1 = r := by
  unfold register
  split
  · exact .inr rfl
  · left
    split
    · rename_i hm
      rw [hm]
      exact ⟨rfl, rfl⟩
    · rename_i hm
      rw [hm]
      exact ⟨rfl, rfl⟩

theorem GroupsMapped.register {r : Registry α} (h : r.GroupsMapped) (a : α) : (r.register a).1.GroupsMapped := by
  obtain ⟨hg, hgroup⟩ | he := register_maps r a
  · exact h.mapGVRs.of_maps hg hgroup
  · rw [he]
    exact h

theorem forGVR_mapGVRs {a b : α} {gvrs : List GVR} {r : Registry α} {g : GVR}
    (h : (Registry.mapGVRs a gvrs r).1.forGVR g = some b) : r.forGVR g = some b ∨ b = a := by
  induction gvrs generalizing r with
  | nil => exact .inl h
  | cons gvr gvrs ih =>
      rw [Registry.mapGVRs] at h
      split at h
      · exact .inl h
      · obtain h | h := ih h
        · rw [forGVR_mapGVR] at h
          split at h
          · cases h
            exact .inr rfl
          · exact .inl h
        · exact .inr h

theorem forGVR_register {a b : α} {r : Registry α} {g : GVR} (h : (r.register a).1.forGVR g = some b) :
    r.forGVR g = some b ∨ b = a := by
  obtain ⟨hg, -⟩ | he := register_maps r a
  · unfold forGVR at h
    rw [hg] at h
    exact forGVR_mapGVRs h
  · rw [he] at h
    exact .inl h

theorem forGVR_removeGVRs {r : Registry α} {name : String} {g : GVR} {a : α} :
    (r.removeGVRs name).forGVR g = some a ↔ r.forGVR g = some a ∧ Adapter.name a ≠ name := by
  rw [forGVR, removeGVRs, Table.lookup_restrict, Option.filter_eq_some_iff, decide_eq_true_iff]
  rfl

theorem mem_affectedGroups {r : Registry α} {gvr : GVR} {a : α} (h : r.forGVR gvr = some a) :
    gvr.group ∈ r.affectedGroups (Adapter.name a) := by
  refine List.mem_dedup.mpr (List.mem_map.mpr ⟨gvr, ?_, rfl⟩)
  refine AList.mem_keys.mp (AList.lookup_isSome.mp ?_)
  have hl : r.gvrMap.lookup gvr = some a := h
  simp [Table.lookup_restrict, hl]

@[simp] theorem forGVR_reassignGroup (name : String) (range : List GVR) (r : Registry α) (group : String)
    (g : GVR) : (reassignGroup name range r group).forGVR g = r.forGVR g := by
  unfold reassignGroup
  split
  · rfl
  · split
    · split <;> rfl
    · rfl

theorem forGroup_reassignGroup_ne {name group other : String} (range : List GVR) (r : Registry α)
    (h : other ≠ group) : (reassignGroup name range r group).forGroup other = r.forGroup other := by
  unfold reassignGroup forGroup
  split
  · rfl
  · split
    · split
      · exact AList.lookup_insert_ne h
      · exact AList.lookup_erase_ne h
    · rfl

theorem forGroup_reassignGroup {name group : String} {range : List GVR} {r : Registry α} {a : α}
    (h : (reassignGroup name range r group).forGroup group = some a) :
    (r.forGroup group = some a ∧ Adapter.name a ≠ name) ∨
      ∃ gvr : GVR, gvr.group = group ∧ r.forGVR gvr = some a := by
  unfold reassignGroup at h
  split at h
  · rename_i hnone
    rw [forGroup, hnone] at h
    cases h
  · rename_i g hg
    split at h
    · split at h
      · rename_i b hb
        rw [forGroup, AList.lookup_insert] at h
        cases h
        obtain ⟨gvr, hfind, hl⟩ := Option.bind_eq_some_iff.mp hb
        exact .inr ⟨gvr, by simpa using List.find?_some hfind, hl⟩
      · rw [forGroup, AList.lookup_erase] at h
        cases h
    · rename_i hname
      have : g = a := Option.some.inj (hg.symm.trans h)
      subst this
      exact .inl ⟨h, hname⟩

/-- While the loop over the affected groups runs, a group that it has not come to may
still have the adapter that is removed. -/
def Settling (r : Registry α) (name : String) (pending : List String) : Prop :=
  ∀ group a, r.forGroup group = some a →
    (∃ gvr : GVR, gvr.group = group ∧ r.forGVR gvr = some a) ∨ group ∈ pending ∧ Adapter.name a = name

theorem GroupsMapped.removeGVRs {r : Registry α} (h : r.GroupsMapped) (name : String) :
    (r.removeGVRs name).Settling name (r.affectedGroups name) := by
  intro group a ha
  obtain ⟨gvr, rfl, hmap⟩ := h group a ha
  by_cases hname : Adapter.name a = name
  · subst hname
    exact .inr ⟨mem_affectedGroups hmap, rfl⟩
  · exact .inl ⟨gvr, rfl, forGVR_removeGVRs.mpr ⟨hmap, hname⟩⟩

theorem Settling.reassignGroup {r : Registry α} {name group : String} {pending : List String}
    (h : r.Settling name (group :: pending)) (range : List GVR) :
    (reassignGroup name range r group).Settling name pending := by
  intro other a ha
  simp only [forGVR_reassignGroup]
  by_cases he : other = group
  · subst he
    obtain ⟨hold, hname⟩ | hmap := forGroup_reassignGroup ha
    · obtain hmap | ⟨-, hn⟩ := h other a hold
      · exact .inl hmap
      · exact absurd hn hname
    · exact .inl hmap
  · rw [forGroup_reassignGroup_ne range r he] at ha
    obtain hmap | ⟨hmem, hn⟩ := h other a ha
    · exact .inl hmap
    · exact .inr ⟨(List.mem_cons.mp hmem).resolve_left he, hn⟩

theorem Settling.foldl {name : String} (ranges : String → List GVR) {groups : List String} {r : Registry α}
    (h : r.Settling name groups) :
    (groups.foldl (fun r group => Registry.reassignGroup name (ranges group) r group) r).GroupsMapped := by
  induction groups generalizing r with
  | nil =>
      intro group a ha
      obtain hmap | ⟨hmem, -⟩ := h group a ha
      · exact hmap
      · exact absurd hmem List.not_mem_nil
  | cons group groups ih => exact ih (h.reassignGroup (ranges group))

theorem forGVR_foldl_reassignGroup (name : String) (ranges : String → List GVR) (groups : List String)
    (r : Registry α) (g : GVR) :
    (groups.foldl (fun r group => Registry.reassignGroup name (ranges group) r group) r).forGVR g =
      r.forGVR g := by
  induction groups generalizing r with
  | nil => rfl
  | cons group groups ih => rw [List.foldl_cons, ih, forGVR_reassignGroup]

theorem GroupsMapped.unregister {r : Registry α} (h : r.GroupsMapped) (ranges : String → List GVR)
    (name : String) : (r.unregister ranges name).1.GroupsMapped := by
  unfold Registry.unregister
  split
  · exact h
  · exact (Settling.foldl ranges (h.removeGVRs name)).of_maps rfl rfl

theorem unregister_error {r r' : Registry α} {ranges : String → List GVR} {name : String} {e : UnregisterError}
    (h : r.unregister ranges name = (r', some e)) : r' = r := by
  unfold Registry.unregister at h
  split at h
  · cases h
    rfl
  · cases h

theorem forGVR_unregister {r r' : Registry α} {ranges : String → List GVR} {name : String}
    (h : r.unregister ranges name = (r', none)) {g : GVR} {a : α} :
    r'.forGVR g = some a ↔ r.forGVR g = some a ∧ Adapter.name a ≠ name := by
  unfold Registry.unregister at h
  split at h
  · cases h
  · cases h
    rw [← forGVR_removeGVRs,
      ← forGVR_foldl_reassignGroup name ranges (r.affectedGroups name) (r.removeGVRs name)]
    rfl

theorem unregisterGVR_gvrMap (r : Registry α) (gvr : GVR) :
    r.forGVR gvr = none ∧ r.unregisterGVR gvr = r ∨ (r.unregisterGVR gvr).gvrMap = r.gvrMap.erase gvr := by
  unfold unregisterGVR
  split
  · exact .inl ⟨‹_›, rfl⟩
  · right
    dsimp only
    split
    · rfl
    · split <;> rfl

theorem forGVR_unregisterGVR (r : Registry α) (gvr g : GVR) :
    (r.unregisterGVR gvr).forGVR g = if g = gvr then none else r.forGVR g := by
  obtain ⟨hnone, he⟩ | hmap := unregisterGVR_gvrMap r gvr
  · rw [he]
    split
    · rw [‹g = gvr›, hnone]
    · rfl
  · rw [forGVR, hmap, Table.lookup_erase]
    rfl

theorem forGroup_of_unregisterGVR {r : Registry α} {gvr : GVR} {group : String} {b : α}
    (h : (r.unregisterGVR gvr).forGroup group = some b) : r.forGroup group = some b := by
  unfold unregisterGVR at h
  split at h
  · exact h
  · dsimp only at h
    split at h
    · exact h
    · split at h
      · rw [forGroup, Table.lookup_erase] at h
        split at h
        · cases h
        · exact h
      · exact h

/-- With the last GVR of its group an adapter loses the group. -/
theorem forGroup_unregisterGVR_last {r : Registry α} {gvr : GVR} {b : α} (hb : r.forGVR gvr = some b)
    (hgroup : r.forGroup gvr.group = some b)
    (hlast : ∀ other : GVR, other ≠ gvr → other.group = gvr.group → r.forGVR other = none) :
    (r.unregisterGVR gvr).forGroup gvr.group = none := by
  have hall : (r.gvrMap.erase gvr).keys.all (fun other => other.group ≠ gvr.group) = true := by
    rw [List.all_eq_true]
    intro other hmem
    have hsome : (AList.lookup other (r.gvrMap.erase gvr)).isSome := AList.lookup_isSome.mpr (AList.mem_keys.mpr hmem)
    rw [Table.lookup_erase] at hsome
    split at hsome
    · cases hsome
    · rename_i hne
      rw [decide_eq_true_iff]
      intro hg
      have hnone : AList.lookup other r.gvrMap = none := hlast other hne hg
      rw [hnone] at hsome
      cases hsome
  have hl : r.gvrMap.lookup gvr = some b := hb
  have hg : r.groupMap.lookup gvr.group = some b := hgroup
  rw [unregisterGVR, hl]
  simp only [hg, hall, and_self, if_true]
  exact AList.lookup_erase _ _

theorem GroupsMapped.unregisterGVR {r : Registry α} (h : r.GroupsMapped) {gvr : GVR}
    (hkeep : ∀ b, r.forGVR gvr = some b → r.forGroup gvr.group = some b →
      r.AnotherGVR gvr b ∨ ∀ other : GVR, other ≠ gvr → other.group = gvr.group → r.forGVR other = none) :
    (r.unregisterGVR gvr).GroupsMapped := by
  intro group b hb
  have hold := forGroup_of_unregisterGVR hb
  obtain ⟨g, rfl, hmap⟩ := h group b hold
  by_cases he : g = gvr
  · subst he
    obtain ⟨other, hne, hgroup, hother⟩ | hlast := hkeep b hmap hold
    · exact ⟨other, hgroup, by rw [forGVR_unregisterGVR, if_neg hne, hother]⟩
    · rw [forGroup_unregisterGVR_last hmap hold hlast] at hb
      cases hb
  · exact ⟨g, rfl, by rw [forGVR_unregisterGVR, if_neg he, hmap]⟩

end Registry

namespace RegistryRun

variable {α : Type} [Adapter α]

def next (s : RegistryRun α) : RegistryCall α → RegistryRun α
  | .register a => ⟨(s.registry.register a).1, s.unregistered.filter (· ≠ Adapter.name a)⟩
  | .unregister name ranges =>
      match s.registry.unregister ranges name with
      | (r, some _) => ⟨r, s.unregistered⟩
      | (r, none) => ⟨r, name :: s.unregistered⟩
  | .registerGVR gvr a => ⟨s.registry.registerGVR gvr a, s.unregistered.filter (· ≠ Adapter.name a)⟩
  | .unregisterGVR gvr => ⟨s.registry.unregisterGVR gvr, s.unregistered⟩

/-- A loop over a map visits each key once. -/
def Ranges (s : RegistryRun α) : RegistryCall α → Prop
  | .unregister name ranges => ∀ group, (ranges group).Perm (s.registry.removeGVRs name).gvrMap.keys
  | _ => True

def system (α : Type) [Adapter α] : System (RegistryRun α) (RegistryCall α) where
  init s := s = ⟨.new, []⟩
  step s c s' := s.Ranges c ∧ s' = s.next c

/-- The call does not take the last GVR of a group from the adapter that has the group
while the group keeps or gets a GVR of another adapter. -/
def KeepsGVR (s : RegistryRun α) : RegistryCall α → Prop
  | .registerGVR gvr a => ∀ b, s.registry.forGVR gvr = some b → s.registry.forGroup gvr.group = some b →
      b ≠ a → s.registry.AnotherGVR gvr b
  | .unregisterGVR gvr => ∀ b, s.registry.forGVR gvr = some b → s.registry.forGroup gvr.group = some b →
      s.registry.AnotherGVR gvr b ∨
        ∀ other : GVR, other ≠ gvr → other.group = gvr.group → s.registry.forGVR other = none
  | .register _ | .unregister _ _ => True

structure Sound (s : RegistryRun α) : Prop where
  groups : s.registry.GroupsMapped
  live : ∀ gvr a, s.registry.forGVR gvr = some a → Adapter.name a ∉ s.unregistered

theorem sound_register {s : RegistryRun α} (h : s.Sound) (a : α) : (s.next (.register a)).Sound where
  groups := h.groups.register a
  live gvr b hb := by
    intro hmem
    obtain ⟨hmem, hne⟩ := List.mem_filter.mp hmem
    obtain hold | rfl := Registry.forGVR_register hb
    · exact h.live gvr b hold hmem
    · simp at hne

theorem sound_registerGVR {s : RegistryRun α} (h : s.Sound) {gvr : GVR} {a : α}
    (hk : s.KeepsGVR (.registerGVR gvr a)) : (s.next (.registerGVR gvr a)).Sound where
  groups := h.groups.mapGVR hk
  live g b hb := by
    intro hmem
    obtain ⟨hmem, hne⟩ := List.mem_filter.mp hmem
    have hb : (s.registry.mapGVR gvr a).forGVR g = some b := hb
    rw [Registry.forGVR_mapGVR] at hb
    split at hb
    · cases hb
      simp at hne
    · exact h.live g b hb hmem

theorem sound_unregister {s : RegistryRun α} (h : s.Sound) (name : String) (ranges : String → List GVR) :
    (s.next (.unregister name ranges)).Sound := by
  have hgroups := h.groups.unregister ranges name
  rw [next]
  match hu : s.registry.unregister ranges name with
  | (r, some _) =>
      rw [Registry.unregister_error hu]
      exact h
  | (r, none) =>
      rw [hu] at hgroups
      refine ⟨hgroups, ?_⟩
      intro gvr a ha hmem
      obtain ⟨hold, hne⟩ := (Registry.forGVR_unregister hu).mp ha
      obtain he | hmem := List.mem_cons.mp hmem
      · exact hne he
      · exact h.live gvr a hold hmem

theorem sound_unregisterGVR {s : RegistryRun α} (h : s.Sound) {gvr : GVR}
    (hk : s.KeepsGVR (.unregisterGVR gvr)) : (s.next (.unregisterGVR gvr)).Sound where
  groups := h.groups.unregisterGVR hk
  live g b hb := by
    have hb : (s.registry.unregisterGVR gvr).forGVR g = some b := hb
    rw [Registry.forGVR_unregisterGVR] at hb
    split at hb
    · cases hb
    · exact h.live g b hb

theorem sound_step {s s' : RegistryRun α} {c : RegistryCall α} (h : s.Sound) (hk : s.KeepsGVR c)
    (hs : (system α).step s c s') : s'.Sound := by
  obtain ⟨-, rfl⟩ := hs
  cases c with
  | register a => exact sound_register h a
  | unregister name ranges => exact sound_unregister h name ranges
  | registerGVR gvr a => exact sound_registerGVR h hk
  | unregisterGVR gvr => exact sound_unregisterGVR h hk

theorem sound_of_reaches {s : RegistryRun α} (h : (system α).Reaches KeepsGVR s) : s.Sound := by
  refine h.invariant (I := Sound) ?_ (fun _ _ _ => sound_step)
  rintro _ rfl
  refine ⟨Registry.groupsMapped_new, ?_⟩
  intro gvr a ha
  cases ha

theorem forGroup_sound {s : RegistryRun α} (h : (system α).Reaches KeepsGVR s) {group : String} {a : α}
    (ha : s.registry.forGroup group = some a) :
    (∃ gvr : GVR, gvr.group = group ∧ s.registry.forGVR gvr = some a) ∧ Adapter.name a ∉ s.unregistered := by
  have hs := sound_of_reaches h
  obtain ⟨gvr, hgvr, hmap⟩ := hs.groups group a ha
  exact ⟨⟨gvr, hgvr, hmap⟩, hs.live gvr a hmap⟩

section Samples

structure SampleAdapter where
  name : String
  handles : List GVR
deriving DecidableEq

instance : Adapter SampleAdapter := ⟨SampleAdapter.name, SampleAdapter.handles, fun _ _ => .ok []⟩

def things : GVR := ⟨"shared.io", "v1", "things"⟩

def others : GVR := ⟨"shared.io", "v1", "others"⟩

def first : SampleAdapter := ⟨"first", [things]⟩

def firstOfBoth : SampleAdapter := ⟨"first", [things, others]⟩

def second : SampleAdapter := ⟨"second", []⟩

def registered (a : SampleAdapter) : RegistryRun SampleAdapter :=
  (RegistryRun.next ⟨.new, []⟩ (.register a)).next (.register second)

def overwritten (a : SampleAdapter) : RegistryRun SampleAdapter :=
  ((registered a).next (.registerGVR things second)).next (.unregister "first" (fun _ => [things]))

theorem overwritten_reaches {G : RegistryRun SampleAdapter → RegistryCall SampleAdapter → Prop}
    (a : SampleAdapter) (hregister : ∀ s a, G s (.register a))
    (hmap : G (registered a) (.registerGVR things second)) (hunregister : ∀ s name r, G s (.unregister name r))
    (hrange : [things].Perm
      (((registered a).next (.registerGVR things second)).registry.removeGVRs "first").gvrMap.keys) :
    (system SampleAdapter).Reaches G (overwritten a) := by
  have h1 : (system SampleAdapter).Reaches G (registered a) :=
    .step (.step (.init rfl) (hregister _ _) ⟨trivial, rfl⟩) (hregister _ _) ⟨trivial, rfl⟩
  exact .step (.step h1 hmap ⟨trivial, rfl⟩) (hunregister _ _ _) ⟨fun _ => hrange, rfl⟩

theorem group_kept_after_unregister :
    (system SampleAdapter).Reachable (overwritten first) ∧
      (overwritten first).registry.forGroup "shared.io" = some first ∧
      (∀ gvr, (overwritten first).registry.forGVR gvr ≠ some first) ∧
      (overwritten first).registry.forName "first" = none ∧ "first" ∈ (overwritten first).unregistered := by
  refine ⟨overwritten_reaches first (fun _ _ => trivial) trivial (fun _ _ _ => trivial) (by decide), by decide, ?_,
    by decide, by decide⟩
  intro gvr h
  have hu : ((registered first).next (.registerGVR things second)).registry.unregister (fun _ => [things]) "first" =
      ((overwritten first).registry, none) := rfl
  exact ((Registry.forGVR_unregister hu).mp h).2 rfl

theorem forGroup_sound_overwritten :
    (∃ gvr : GVR, gvr.group = "shared.io" ∧ (overwritten firstOfBoth).registry.forGVR gvr = some second) ∧
      Adapter.name second ∉ (overwritten firstOfBoth).unregistered := by
  have hkeeps : (registered firstOfBoth).KeepsGVR (.registerGVR things second) := by
    intro b hb _ _
    exact ⟨others, by decide, rfl, hb⟩
  have hreach := overwritten_reaches firstOfBoth (fun _ _ => trivial) hkeeps (fun _ _ _ => trivial) (by decide)
  exact forGroup_sound hreach (by decide)

end Samples

end RegistryRun

end Nightjar.Adapters
