import Nightjar.Discovery.Engine
import Nightjar.Lib.Runs
import Mathlib.Data.Finset.Basic

namespace Nightjar.Discovery

open Adapters Lib.Strings Apimachinery Util

structure APIResourceList where
  groupVersion : String
  apiResources : List String
deriving DecidableEq, Repr

def ConstraintProfile.state (p : ConstraintProfile) (stopCh : Option Nat) : ProfileState where
  gvr := p.gvr
  adapter := p.adapter
  fieldPaths := p.fieldPaths
  severity := p.severity
  enabled := p.enabled
  stopCh := stopCh

def annotatedGVR [Apimachinery] (crd : Unstructured) : Option GVR :=
  if (getAnnotations crd).lookup isPolicyAnnotation ≠ some "true" then none
  else do
    let spec ← (crd.object.lookup "spec").bind asMap
    let group := safeStringFromMap spec "group"
    let names ← (spec.lookup "names").bind asMap
    let plural := safeStringFromMap names "plural"
    if group = "" ∨ plural = "" then none
    else
      match spec.lookup "versions" with
      | some (.slice (.map firstVer :: _)) =>
          let version := safeStringFromMap firstVer "name"
          if version = "" then none else some ⟨group, version, plural⟩
      | _ => none

namespace Engine

variable {α : Type}

def start (e : Engine α) (i : Informer) : Engine α :=
  { e with informers := e.informers.insert i.gvr i, started := i :: e.started }

def startInformer (e : Engine α) (gvr : GVR) (handlerOk : Bool) : Engine α :=
  let e := { e with calls := gvr :: e.calls }
  if handlerOk then e.start ⟨gvr, .engine⟩ else e

def startProfileInformer (e : Engine α) (gvr : GVR) (stopCh : Nat) (handlerOk : Bool) : Engine α :=
  if e.dynamicClient && handlerOk then e.start ⟨gvr, .profile stopCh⟩ else e

def stopProfileInformer (e : Engine α) (name : String) : Engine α :=
  match e.profiles.lookup name with
  | none => e
  | some ps =>
      match ps.stopCh with
      | none => e
      | some ch => { e with
          closed := insert (.profile ch) e.closed
          profiles := e.profiles.insert name { ps with stopCh := none } }

def stopGVRInformer (e : Engine α) (gvr : GVR) : Engine α :=
  { e with watchedGVRs := e.watchedGVRs.erase gvr, informers := e.informers.erase gvr }

/-- The part of `RegisterProfile` that deals with the entry already there. -/
def releaseExisting (e : Engine α) (p : ConstraintProfile) : Engine α :=
  match e.profiles.lookup p.name with
  | none => e
  | some existing =>
      if existing.gvr ≠ p.gvr ∨ p.enabled = false then e.stopProfileInformer p.name else e

def setProfile (e : Engine α) (p : ConstraintProfile) (stopCh : Option Nat) : Engine α :=
  { e with profiles := e.profiles.insert p.name (p.state stopCh) }

def openChannel (e : Engine α) (p : ConstraintProfile) : Engine α :=
  { e.setProfile p (some e.nextCh) with
    watchedGVRs := insert p.gvr e.watchedGVRs
    nextCh := e.nextCh + 1 }

/-- The rest of `RegisterProfile`, once the new entry is in place. -/
def applyProfile (e : Engine α) (p : ConstraintProfile) (handlerOk : Bool) : Engine α :=
  if p.enabled = false then e.stopGVRInformer p.gvr
  else if p.gvr ∉ e.watchedGVRs then (e.openChannel p).startProfileInformer p.gvr e.nextCh handlerOk
  else e

def registerProfile (e : Engine α) (p : ConstraintProfile) (handlerOk : Bool) : Engine α :=
  ((e.releaseExisting p).setProfile p none).applyProfile p handlerOk

def removeProfile (e : Engine α) (name : String) : Engine α :=
  { e with profiles := e.profiles.erase name }

def unregisterProfile (e : Engine α) (name : String) : Engine α × List Mutation :=
  match e.profiles.lookup name with
  | none => (e, [])
  | some ps =>
      let e := (e.stopProfileInformer name).removeProfile name
      if e.profileStates.any (fun other => other.enabled && decide (other.gvr = ps.gvr)) then (e, [])
      else (e.stopGVRInformer ps.gvr, [.deleteBySource ps.gvr])

def stop (e : Engine α) : Engine α :=
  if e.stopped then e
  else e.profiles.keys.foldl stopProfileInformer { e with stopped := true, closed := insert .engine e.closed }

def isConstraintLike [Unicode] (e : Engine α) (gvr : GVR) (resourceName : String) : Bool :=
  decide (gvr.group ∈ e.policyGroups) ||
  (e.registry.forGVR gvr).isSome ||
  (decide (gvr.group = "") && decide (resourceName ∈ ["resourcequotas", "limitranges"])) ||
  e.nameHints.any (contains (toLower resourceName)) ||
  e.profileStates.any (fun ps => ps.enabled && decide (ps.gvr = gvr)) ||
  decide (gvr ∈ e.annotatedCRDs)

def discover [Apimachinery] [Unicode] (e : Engine α) (lists : List APIResourceList) : List GVR :=
  lists.flatMap (fun list =>
    match parseGroupVersion list.groupVersion with
    | .error _ => []
    | .ok (group, version) =>
        ((list.apiResources.filter (fun name => !contains name "/")).map (GVR.mk group version)).filter
          (fun gvr => e.isConstraintLike gvr gvr.resource))

def refreshAnnotatedCRDs [Apimachinery] (e : Engine α) (crds : Option (List Unstructured)) : Engine α :=
  match crds with
  | none => e
  | some items =>
      if e.dynamicClient then { e with annotatedCRDs := (items.filterMap annotatedGVR).toFinset } else e

def suppressed (e : Engine α) : List GVR :=
  (e.profileStates.filter (fun ps => !ps.enabled)).map ProfileState.gvr

def watchGVR (handlerOk : GVR → Bool) (e : Engine α) (gvr : GVR) : Engine α :=
  if gvr ∈ e.suppressed ∨ gvr ∈ e.watchedGVRs then e
  else { e with watchedGVRs := insert gvr e.watchedGVRs }.startInformer gvr (handlerOk gvr)

def watchAll (e : Engine α) (discovered : List GVR) (handlerOk : GVR → Bool) : Engine α :=
  discovered.foldl (watchGVR handlerOk) e

def scan [Apimachinery] [Unicode] (e : Engine α) (lists : List APIResourceList)
    (crds : Option (List Unstructured)) (handlerOk : GVR → Bool) : Engine α :=
  let discovered := e.discover lists
  let e := if e.checkAnnotation then e.refreshAnnotatedCRDs crds else e
  e.watchAll discovered handlerOk

end Engine

end Nightjar.Discovery
