import Nightjar.Discovery.Ingestion

namespace Nightjar.Discovery

open Adapters Lib Lib.Strings Apimachinery

inductive InformerEvent where
  | added (obj : Unstructured)
  | updated (obj : Unstructured)
  | deleted (obj : Unstructured)
  | tombstone (obj : Unstructured)

def InformerEvent.object : InformerEvent → Unstructured
  | added obj | updated obj | deleted obj | tombstone obj => obj

/-- The live objects of a GVR, each in its latest version. -/
abbrev Cluster [Apimachinery] := KeyedStore getUID

def Cluster.observe [Apimachinery] (live : Cluster) : InformerEvent → Cluster
  | .added obj | .updated obj => live.upsert obj
  | .deleted obj | .tombstone obj => live.delete (getUID obj)

/-- The engine at a time when the GVR is watched, no profile names it, and neither
it nor its group has an adapter. -/
structure GenericPath (α : Type) (g : GVR) where
  engine : Engine α
  order : engine.Order
  watched : g ∈ engine.watchedGVRs
  unprofiled : ∀ ps ∈ engine.profileStates, ps.gvr ≠ g
  unclaimed : engine.registry.forGVR g = none ∧ engine.registry.forGroup g.group = none

/-- What happens to the index: an event of the GVR, or a mutation made for another. -/
inductive Happening (α : Type) (g : GVR) where
  | event (path : GenericPath α g) (ev : InformerEvent)
  | other (m : Mutation)

/-- The mutation deals with constraints of other sources, none of which carries the
UID of an object of the GVR. -/
def Foreign (g : GVR) (mine : UID → Prop) : Mutation → Prop
  | .upsert c => c.source ≠ g ∧ ¬ mine c.uid
  | .delete uid => ¬ mine uid
  | .deleteBySource gvr => gvr ≠ g

instance (g : GVR) (mine : UID → Prop) [DecidablePred mine] : DecidablePred (Foreign g mine)
  | .upsert c => inferInstanceAs (Decidable (c.source ≠ g ∧ ¬ mine c.uid))
  | .delete uid => inferInstanceAs (Decidable (¬ mine uid))
  | .deleteBySource gvr => inferInstanceAs (Decidable (gvr ≠ g))

section Mirror
variable {α : Type} [Adapter α] [Apimachinery] [Unicode] {g : GVR}

omit [Adapter α] [Apimachinery] [Unicode] in
theorem GenericPath.route_eq (path : GenericPath α g) : path.engine.route path.order g = .generic := by
  have hprofile : path.engine.profileFor path.order g = none := by
    rw [Engine.profileFor, List.find?_eq_none]
    intro ps hps henabled
    rw [Bool.and_eq_true, decide_eq_true_eq] at henabled
    exact path.unprofiled ps (path.order.perm.mem_iff.mp hps) henabled.2
  rw [Engine.route, hprofile, path.unclaimed.1, path.unclaimed.2]
  rfl

theorem GenericPath.parseObject_eq (path : GenericPath α g) (obj : Unstructured) :
    path.engine.parseObject path.order g obj = .ok [Generic.genericConstraint obj g] := by
  rw [Engine.parseObject, path.route_eq]
  rfl

namespace GenericPath

def handle (path : GenericPath α g) : InformerEvent → List Mutation
  | .added obj => path.engine.handleAdd path.order g (.unstructured obj)
  | .updated obj => path.engine.handleUpdate path.order g (.unstructured obj)
  | .deleted obj => path.engine.handleDelete path.order g (.unstructured obj)
  | .tombstone obj => path.engine.handleDelete path.order g (.deletedFinalStateUnknown (.unstructured obj))

theorem handle_eq (path : GenericPath α g) (ev : InformerEvent) : path.handle ev =
    match ev with
    | .added obj | .updated obj => [.upsert (Generic.genericConstraint obj g)]
    | .deleted obj | .tombstone obj => [.delete (getUID obj)] := by
  have hadd (obj : Unstructured) : path.engine.handleAdd path.order g (.unstructured obj) =
      [.upsert (Generic.genericConstraint obj g)] := by
    rw [Engine.handleAdd, if_neg (not_not_intro path.watched)]
    simp only [path.parseObject_eq]
    rfl
  have hdelete (obj : Unstructured) : path.engine.deleteObject path.order g obj = [.delete (getUID obj)] := by
    rw [Engine.deleteObject]
    simp only [path.parseObject_eq]
    rfl
  cases ev with
  | added obj | updated obj => exact hadd obj
  | deleted obj | tombstone obj => exact hdelete obj

end GenericPath

namespace Happening

def mutations : Happening α g → List Mutation
  | event path ev => path.handle ev
  | other m => [m]

omit [Adapter α] [Unicode] in
def observed (live : Cluster) : Happening α g → Cluster
  | event _ ev => live.observe ev
  | other _ => live

omit [Adapter α] [Apimachinery] [Unicode] in
def mutation? : Happening α g → Option Mutation
  | event _ _ => none
  | other m => some m

omit [Adapter α] [Unicode] in
def Admissible (mine : UID → Prop) : Happening α g → Prop
  | event _ ev => mine (getUID ev.object)
  | other m => Foreign g mine m

omit [Adapter α] [Unicode] in
instance (mine : UID → Prop) [DecidablePred mine] : DecidablePred (fun h : Happening α g => h.Admissible mine)
  | event _ ev => inferInstanceAs (Decidable (mine (getUID ev.object)))
  | other m => inferInstanceAs (Decidable (Foreign g mine m))

def follow (idx : Indexer) (hs : List (Happening α g)) : Indexer :=
  hs.foldl (fun idx h => idx.applyAll h.mutations) idx

omit [Adapter α] [Unicode] in
def cluster (hs : List (Happening α g)) : Cluster := hs.foldl observed .empty

omit [Adapter α] [Apimachinery] [Unicode] in
def others (hs : List (Happening α g)) : List Mutation := hs.filterMap mutation?

end Happening

structure Mirrors (g : GVR) (mine : UID → Prop) (idx : Indexer) (live : Cluster) (rest : Indexer) : Prop where
  lookup : ∀ uid, idx.byUID.lookup uid =
    ((live.lookup uid).map (Generic.genericConstraint · g)).or (rest.byUID.lookup uid)
  live : ∀ {uid obj}, live.lookup uid = some obj → mine uid
  rest : ∀ {c}, c ∈ rest.all → c.source ≠ g ∧ ¬ mine c.uid

namespace Mirrors

variable {mine : UID → Prop} {idx rest : Indexer} {live : Cluster}

theorem lookup_rest (h : Mirrors g mine idx live rest) {uid : UID} (huid : mine uid) :
    rest.byUID.lookup uid = none := by
  rw [Option.eq_none_iff_forall_not_mem]
  intro c hc
  have hk := KeyedStore.key_of_lookup hc
  exact (h.rest (Indexer.mem_all.mpr (hk ▸ hc))).2 (hk ▸ huid)

theorem lookup_live (h : Mirrors g mine idx live rest) {uid : UID} (huid : ¬ mine uid) : live.lookup uid = none := by
  rw [Option.eq_none_iff_forall_not_mem]
  exact fun obj hobj => huid (h.live hobj)

theorem put (h : Mirrors g mine idx live rest) {obj : Unstructured} (hobj : mine (getUID obj)) :
    Mirrors g mine (idx.upsert (Generic.genericConstraint obj g)).1 (live.upsert obj) rest where
  lookup uid := by
    have hkey : (Generic.genericConstraint obj g).uid = getUID obj := rfl
    rw [Indexer.upsert, KeyedStore.lookup_upsert, KeyedStore.lookup_upsert, h.lookup, hkey]
    split <;> rfl
  live {uid obj'} hl := by
    rw [KeyedStore.lookup_upsert] at hl
    split at hl
    · exact ‹getUID obj = uid› ▸ hobj
    · exact h.live hl
  rest := h.rest

theorem remove (h : Mirrors g mine idx live rest) {uid : UID} (huid : mine uid) :
    Mirrors g mine (idx.delete uid).1 (live.delete uid) rest where
  lookup k := by
    rw [Indexer.byUID_delete, KeyedStore.lookup_delete, h.lookup]
    split
    · rename_i hk
      rw [hk, h.lookup_rest huid]
      rfl
    · rfl
  live {k obj} hl := by
    rw [KeyedStore.lookup_delete] at hl
    split at hl
    · cases hl
    · exact h.live hl
  rest := h.rest

theorem observe (h : Mirrors g mine idx live rest) (path : GenericPath α g) {ev : InformerEvent}
    (hev : mine (getUID ev.object)) :
    Mirrors g mine (idx.applyAll (path.handle ev)) (live.observe ev) rest := by
  rw [path.handle_eq]
  cases ev with
  | added obj | updated obj => exact h.put hev
  | deleted obj | tombstone obj => exact h.remove hev

theorem other (h : Mirrors g mine idx live rest) {m : Mutation} (hm : Foreign g mine m) :
    Mirrors g mine (idx.apply m).1 live (rest.apply m).1 where
  lookup uid := by
    cases m with
    | upsert c =>
        rw [Indexer.apply, Indexer.apply, Indexer.upsert, Indexer.upsert, KeyedStore.lookup_upsert,
          KeyedStore.lookup_upsert, h.lookup]
        split
        · rename_i huid
          rw [← huid, h.lookup_live hm.2]
          rfl
        · rfl
    | delete uid' =>
        rw [Indexer.apply, Indexer.apply, Indexer.byUID_delete, Indexer.byUID_delete, h.lookup]
        split
        · rename_i huid
          rw [huid, h.lookup_live hm]
          rfl
        · rfl
    | deleteBySource gvr =>
        rw [Indexer.apply, Indexer.apply, Indexer.filter_deleteBySource, Indexer.filter_deleteBySource, h.lookup]
        cases live.lookup uid with
        | none => rfl
        | some obj =>
            have hkept : (!decide ((Generic.genericConstraint obj g).source = gvr)) = true := by
              simp [show (Generic.genericConstraint obj g).source = g from rfl, Ne.symm hm]
            rw [Option.map_some, Option.some_or, Option.some_or, Option.filter_some, if_pos hkept]
  live := h.live
  rest {c} hc := by
    rcases Indexer.mem_all_of_mem_apply hc with hc | rfl
    · exact h.rest hc
    · exact hm

theorem happen (h : Mirrors g mine idx live rest) {hap : Happening α g} (hadm : hap.Admissible mine) :
    Mirrors g mine (idx.applyAll hap.mutations) (hap.observed live) (rest.applyAll hap.mutation?.toList) := by
  cases hap with
  | event path ev => exact h.observe path hadm
  | other m => exact h.other hadm

theorem run (hidx : ∀ c ∈ idx.all, c.source ≠ g ∧ ¬ mine c.uid) {hs : List (Happening α g)}
    (hhs : ∀ h ∈ hs, h.Admissible mine) :
    Mirrors g mine (Happening.follow idx hs) (Happening.cluster hs) (idx.applyAll (Happening.others hs)) := by
  induction hs using List.reverseRecOn with
  | nil =>
      refine ⟨fun uid => ?_, fun {uid obj} hl => ?_, fun {c} hc => hidx c hc⟩
      · rw [Happening.cluster, List.foldl_nil, KeyedStore.lookup_empty]
        rfl
      · rw [Happening.cluster, List.foldl_nil, KeyedStore.lookup_empty] at hl
        cases hl
  | append_singleton hs hap ih =>
      have hbefore := ih (fun h hh => hhs h (List.mem_append_left _ hh))
      have hadm : hap.Admissible mine := hhs hap (List.mem_append_right _ List.mem_cons_self)
      have hothers : Happening.others (hs ++ [hap]) = Happening.others hs ++ hap.mutation?.toList := by
        rw [Happening.others, List.filterMap_append]
        cases hap <;> rfl
      rw [Happening.follow, Happening.cluster, List.foldl_append, List.foldl_append, hothers, Indexer.applyAll,
        List.foldl_append]
      exact hbefore.happen hadm

theorem mem_iff (h : Mirrors g mine idx live rest) {c : Constraint} (hc : c.source ≠ g) :
    c ∈ idx.all ↔ c ∈ rest.all := by
  rw [Indexer.mem_all, Indexer.mem_all, h.lookup]
  cases hl : live.lookup c.uid with
  | none => rfl
  | some obj =>
      rw [h.lookup_rest (h.live hl)]
      refine iff_of_false ?_ (by simp)
      rw [Option.map_some, Option.some_or, Option.some.injEq]
      rintro rfl
      exact hc rfl

theorem bySourceGVR_perm (h : Mirrors g mine idx live rest) :
    (idx.bySourceGVR g).Perm (live.values.map (Generic.genericConstraint · g)) := by
  have hnodup : (live.values.map (Generic.genericConstraint · g)).Nodup := by
    have hkeys : ((live.values.map (Generic.genericConstraint · g)).map Constraint.uid) = live.values.map getUID :=
      List.map_map ..
    exact (hkeys ▸ live.nodup_map_key).of_map Constraint.uid
  rw [List.perm_ext_iff_of_nodup (idx.nodup_bySourceGVR g) hnodup]
  intro c
  rw [Indexer.mem_bySourceGVR, Indexer.mem_all, h.lookup, List.mem_map]
  constructor
  · rintro ⟨hlookup, hsource⟩
    cases hl : live.lookup c.uid with
    | none =>
        rw [hl] at hlookup
        exact absurd hsource (h.rest (Indexer.mem_all.mpr hlookup)).1
    | some obj =>
        rw [hl, Option.map_some, Option.some_or, Option.some.injEq] at hlookup
        refine ⟨obj, KeyedStore.mem_values.mpr ?_, hlookup⟩
        rw [KeyedStore.key_of_lookup hl, hl]
  · rintro ⟨obj, hobj, rfl⟩
    have hl : live.lookup (Generic.genericConstraint obj g).uid = some obj := KeyedStore.mem_values.mp hobj
    rw [hl]
    exact ⟨rfl, rfl⟩

end Mirrors

/-- Along every history of the GVR, the index holds of this source exactly one
constraint for each live object, parsed from its latest version, and of the other
sources what it would hold without these events. -/
theorem follow_mirrors_cluster {mine : UID → Prop} {idx : Indexer}
    (hidx : ∀ c ∈ idx.all, c.source ≠ g ∧ ¬ mine c.uid) {hs : List (Happening α g)}
    (hhs : ∀ h ∈ hs, h.Admissible mine) :
    (∃ cs, List.Forall₂ (fun obj c => Generic.parseWithGVR obj g = .ok [c]) (Happening.cluster hs).values cs ∧
      ((Happening.follow idx hs).bySourceGVR g).Perm cs) ∧
    ∀ c, c.source ≠ g → (c ∈ (Happening.follow idx hs).all ↔ c ∈ (idx.applyAll (Happening.others hs)).all) := by
  have hmirrors := Mirrors.run hidx hhs
  refine ⟨⟨_, ?_, hmirrors.bySourceGVR_perm⟩, fun c hc => hmirrors.mem_iff hc⟩
  rw [List.forall₂_map_right_iff, List.forall₂_same]
  exact fun obj _ => rfl

end Mirror

section Limits
attribute [local instance] Apimachinery.model asciiTables

def limitsGVR : GVR := ⟨"example.io", "v1", "limits"⟩

def limitsPath : GenericPath Builtin limitsGVR where
  engine := watching limitsGVR
  order := default
  watched := mem_watching limitsGVR
  unprofiled := nofun
  unclaimed := ⟨rfl, rfl⟩

def limit (uid name : String) : Unstructured :=
  ⟨[("metadata", .map [("name", .str name), ("uid", .str uid)])]⟩

/-- Two objects, the first of which is renamed and then deleted by a tombstone with
its old version, and a constraint of another source. -/
def limitsHistory : List (Happening Builtin limitsGVR) :=
  [.event limitsPath (.added (limit "a" "cpu")), .event limitsPath (.added (limit "b" "memory")),
    .other (.upsert (Generic.genericConstraint (limit "c" "web") ingressesGVR)),
    .event limitsPath (.updated (limit "a" "gpu")), .event limitsPath (.tombstone (limit "a" "cpu"))]

theorem follow_mirrors_cluster_limits :
    (∀ h ∈ limitsHistory, h.Admissible (· ∈ ["a", "b"])) ∧
      (Happening.cluster limitsHistory).values = [limit "b" "memory"] ∧
      (∃ cs, List.Forall₂ (fun obj c => Generic.parseWithGVR obj limitsGVR = .ok [c])
          (Happening.cluster limitsHistory).values cs ∧
        ((Happening.follow .new limitsHistory).bySourceGVR limitsGVR).Perm cs) ∧
      ∀ c, c.source ≠ limitsGVR → (c ∈ (Happening.follow .new limitsHistory).all ↔
        c ∈ (Indexer.new.applyAll (Happening.others limitsHistory)).all) := by
  have hadm : ∀ h ∈ limitsHistory, h.Admissible (· ∈ ["a", "b"]) := by decide
  exact ⟨hadm, rfl, follow_mirrors_cluster (by simp) hadm⟩

end Limits

end Nightjar.Discovery
