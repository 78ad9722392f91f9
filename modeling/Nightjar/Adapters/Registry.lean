import Nightjar.Types
import Nightjar.Lib.Strings
import Nightjar.Lib.Tables

namespace Nightjar.Adapters

open Lib Lib.Strings

class Adapter (α : Type) where
  name : α → String
  handles : α → List GVR
  parse : α → Unstructured → Except String (List Constraint)

def gvrString (gvr : GVR) : String := gvr.group ++ "/" ++ gvr.version ++ ", Resource=" ++ gvr.resource

inductive RegisterError where
  | nameTaken (name : String)
  | gvrTaken (gvr : GVR) (existing name : String)
deriving DecidableEq, Repr

def RegisterError.message [Unicode] : RegisterError → String
  | nameTaken name => "adapter " ++ quote name ++ " already registered"
  | gvrTaken gvr existing name => "GVR " ++ gvrString gvr ++ " already registered to adapter " ++
      quote existing ++ ", cannot register to " ++ quote name

inductive UnregisterError where
  | notRegistered (name : String)
deriving DecidableEq, Repr

def UnregisterError.message [Unicode] : UnregisterError → String
  | notRegistered name => "adapter " ++ quote name ++ " not registered"

structure Registry (α : Type) where
  adapters : AList (fun _ : String => α)
  gvrMap : AList (fun _ : GVR => α)
  groupMap : AList (fun _ : String => α)

namespace Registry

variable {α : Type}

def new : Registry α := ⟨∅, ∅, ∅⟩

def forGVR (r : Registry α) (gvr : GVR) : Option α := r.gvrMap.lookup gvr

def forName (r : Registry α) (name : String) : Option α := r.adapters.lookup name

def forGroup (r : Registry α) (group : String) : Option α := r.groupMap.lookup group

/-- In the order of the map, which Go leaves open. -/
def all (r : Registry α) : List α := r.adapters.entries.map (·.2)

def handledGVRs (r : Registry α) : List GVR := r.gvrMap.keys

@[simp] theorem forGVR_new (gvr : GVR) : (new : Registry α).forGVR gvr = none := rfl

@[simp] theorem forGroup_new (group : String) : (new : Registry α).forGroup group = none := rfl

def indexGroup (r : Registry α) (group : String) (a : α) : Registry α :=
  match r.groupMap.lookup group with
  | some _ => r
  | none => { r with groupMap := r.groupMap.insert group a }

def mapGVR (r : Registry α) (gvr : GVR) (a : α) : Registry α :=
  { r with gvrMap := r.gvrMap.insert gvr a }.indexGroup gvr.group a

theorem forGVR_mapGVR (r : Registry α) (gvr g : GVR) (a : α) :
    (r.mapGVR gvr a).forGVR g = if g = gvr then some a else r.forGVR g := by
  have hmap : (r.mapGVR gvr a).gvrMap = r.gvrMap.insert gvr a := by
    rw [mapGVR, indexGroup]
    split <;> rfl
  rw [forGVR, hmap]
  by_cases h : g = gvr
  · subst h
    simp
  · simp [forGVR, AList.lookup_insert_ne h, h]

theorem forGroup_mapGVR (r : Registry α) (gvr : GVR) (group : String) (a : α) :
    (r.mapGVR gvr a).forGroup group =
      (r.forGroup group).or (if group = gvr.group then some a else none) := by
  unfold mapGVR indexGroup forGroup
  by_cases h : group = gvr.group
  · subst h
    cases hl : r.groupMap.lookup gvr.group <;> simp [hl]
  · split <;> simp [AList.lookup_insert_ne h, h]

variable [Adapter α]

/-- The loop of `Register`. A conflict leaves the mappings made before it in place. -/
def mapGVRs (a : α) : List GVR → Registry α → Registry α × Option RegisterError
  | [], r => (r, none)
  | gvr :: gvrs, r =>
      match r.gvrMap.lookup gvr with
      | some existing => (r, some (.gvrTaken gvr (Adapter.name existing) (Adapter.name a)))
      | none => mapGVRs a gvrs (r.mapGVR gvr a)

def register (r : Registry α) (a : α) : Registry α × Option RegisterError :=
  match r.adapters.lookup (Adapter.name a) with
  | some _ => (r, some (.nameTaken (Adapter.name a)))
  | none =>
      match mapGVRs a (Adapter.handles a) r with
      | (r, some err) => (r, some err)
      | (r, none) => ({ r with adapters := r.adapters.insert (Adapter.name a) a }, none)

def registerAll : List α → Registry α → Except RegisterError (Registry α)
  | [], r => .ok r
  | a :: as, r =>
      match r.register a with
      | (_, some err) => .error err
      | (r, none) => registerAll as r

theorem mapGVRs_ok {a : α} {gvrs : List GVR} {r r' : Registry α} (h : mapGVRs a gvrs r = (r', none)) :
    (∀ g, r'.forGVR g = (r.forGVR g).or (if g ∈ gvrs then some a else none)) ∧
    (∀ group, r'.forGroup group = (r.forGroup group).or (if group ∈ gvrs.map GVR.group then some a else none)) := by
  induction gvrs generalizing r with
  | nil =>
      cases h
      simp
  | cons gvr gvrs ih =>
      rw [mapGVRs] at h
      split at h
      · cases h
      · rename_i hfree
        obtain ⟨hg, hgroup⟩ := ih h
        constructor
        · intro g
          rw [hg, forGVR_mapGVR]
          by_cases he : g = gvr
          · subst he
            simp [forGVR, hfree]
          · simp [he]
        · intro group
          rw [hgroup, forGroup_mapGVR, Option.or_assoc]
          by_cases he : group = gvr.group <;> simp [he]

theorem register_ok {a : α} {r r' : Registry α} (h : r.register a = (r', none)) :
    (∀ g, r'.forGVR g = (r.forGVR g).or (if g ∈ Adapter.handles a then some a else none)) ∧
    (∀ group, r'.forGroup group =
      (r.forGroup group).or (if group ∈ (Adapter.handles a).map GVR.group then some a else none)) := by
  unfold register at h
  split at h
  · cases h
  · split at h
    · cases h
    · rename_i hm
      cases h
      obtain ⟨hg, hgroup⟩ := mapGVRs_ok hm
      exact ⟨hg, hgroup⟩

theorem registerAll_ok {as : List α} {r r' : Registry α} (h : registerAll as r = .ok r') :
    (∀ g, r'.forGVR g = (r.forGVR g).or (as.find? (fun a => decide (g ∈ Adapter.handles a)))) ∧
    (∀ group, r'.forGroup group =
      (r.forGroup group).or (as.find? (fun a => decide (group ∈ (Adapter.handles a).map GVR.group)))) := by
  induction as generalizing r with
  | nil =>
      cases h
      simp
  | cons a as ih =>
      rw [registerAll] at h
      split at h
      · cases h
      · rename_i hr
        obtain ⟨hg, hgroup⟩ := ih h
        obtain ⟨hg', hgroup'⟩ := register_ok hr
        constructor
        · intro g
          rw [hg, hg', Option.or_assoc, List.find?_cons]
          by_cases hm : g ∈ Adapter.handles a <;> simp [hm]
        · intro group
          rw [hgroup, hgroup', Option.or_assoc, List.find?_cons]
          by_cases hm : group ∈ (Adapter.handles a).map GVR.group <;> simp [hm]

/-- The groups of the GVRs that are mapped to an adapter of the name. -/
def affectedGroups (r : Registry α) (name : String) : List String :=
  ((Table.restrict r.gvrMap (fun _ a => Adapter.name a = name)).keys.map GVR.group).dedup

def removeGVRs (r : Registry α) (name : String) : Registry α :=
  { r with gvrMap := Table.restrict r.gvrMap (fun _ a => Adapter.name a ≠ name) }

/-- One turn of the loop over the affected groups. It ranges over `gvrMap` in the order
`range` and stops at the first GVR of the group. -/
def reassignGroup (name : String) (range : List GVR) (r : Registry α) (group : String) : Registry α :=
  match r.groupMap.lookup group with
  | none => r
  | some g =>
      if Adapter.name g = name then
        match (range.find? (fun gvr => gvr.group = group)).bind r.gvrMap.lookup with
        | some a => { r with groupMap := r.groupMap.insert group a }
        | none => { r with groupMap := r.groupMap.erase group }
      else r

/-- Go leaves open in which order a loop ranges over a map; `ranges group` is the order
that the loop for the group takes. -/
def unregister (ranges : String → List GVR) (r : Registry α) (name : String) :
    Registry α × Option UnregisterError :=
  match r.adapters.lookup name with
  | none => (r, some (.notRegistered name))
  | some _ =>
      let r' := (r.affectedGroups name).foldl (fun r group => reassignGroup name (ranges group) r group)
        (r.removeGVRs name)
      ({ r' with adapters := r'.adapters.erase name }, none)

def registerGVR (r : Registry α) (gvr : GVR) (a : α) : Registry α := r.mapGVR gvr a

def unregisterGVR (r : Registry α) (gvr : GVR) : Registry α :=
  match r.gvrMap.lookup gvr with
  | none => r
  | some a =>
      let r := { r with gvrMap := r.gvrMap.erase gvr }
      match r.groupMap.lookup gvr.group with
      | none => r
      | some g =>
          if Adapter.name g = Adapter.name a ∧ r.gvrMap.keys.all (fun other => other.group ≠ gvr.group) then
            { r with groupMap := r.groupMap.erase gvr.group }
          else r

end Registry

end Nightjar.Adapters
