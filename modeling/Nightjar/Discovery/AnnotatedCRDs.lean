import Nightjar.Discovery.Scans

namespace Nightjar.Discovery

open Adapters Lib.Strings Apimachinery

/-- The names of the versions a CustomResourceDefinition serves. -/
def servedVersions (crd : Unstructured) : List String :=
  match field crd.object ["spec", "versions"] with
  | some (.slice versions) => versions.filterMap (fun
      | .map version =>
          match version.lookup "served", version.lookup "name" with
          | some (.bool true), some (.str name) => some name
          | _, _ => none
      | _ => none)
  | _ => []

/-- The CustomResourceDefinition marks the resource it defines as a policy and serves it at
the version of the GVR. -/
structure MarksPolicy [Apimachinery] (crd : Unstructured) (gvr : GVR) : Prop where
  annotated : (getAnnotations crd).lookup isPolicyAnnotation = some "true"
  group : field crd.object ["spec", "group"] = some (.str gvr.group)
  plural : field crd.object ["spec", "names", "plural"] = some (.str gvr.resource)
  served : gvr.version ∈ servedVersions crd

namespace Engine

variable {α : Type}

/-- The checks of `isConstraintLike` other than the look into the cache of annotated
definitions. -/
def recognises [Unicode] (e : Engine α) (gvr : GVR) : Bool :=
  { e with annotatedCRDs := ∅ }.isConstraintLike gvr gvr.resource

theorem isConstraintLike_iff [Unicode] (e : Engine α) (gvr : GVR) :
    e.isConstraintLike gvr gvr.resource = true ↔ e.recognises gvr = true ∨ gvr ∈ e.annotatedCRDs := by
  simp [recognises, isConstraintLike, profileStates]

theorem mem_watchedGVRs_watchAll {e : Engine α} {discovered : List GVR} {handlerOk : GVR → Bool} {gvr : GVR} :
    gvr ∈ (e.watchAll discovered handlerOk).watchedGVRs ↔
      gvr ∈ e.watchedGVRs ∨ gvr ∈ discovered ∧ gvr ∉ e.suppressed := by
  induction discovered generalizing e with
  | nil => simp [watchAll]
  | cons g discovered ih =>
      rw [watchAll, List.foldl_cons, ← watchAll, ih, watchedGVRs_watchGVR, suppressed_watchGVR, List.mem_cons]
      by_cases hs : g ∈ e.suppressed
      · rw [if_pos hs]
        by_cases hg : gvr = g
        · simp [hg, hs]
        · simp [hg]
      · rw [if_neg hs, Finset.mem_insert]
        by_cases hg : gvr = g
        · simp [hg, hs]
        · simp [hg]

theorem watchGVR_checks [Unicode] (handlerOk : GVR → Bool) (e : Engine α) (g : GVR) :
    (watchGVR handlerOk e g).recognises = e.recognises ∧
      (watchGVR handlerOk e g).annotatedCRDs = e.annotatedCRDs := by
  rw [watchGVR, startInformer]
  split
  · exact ⟨rfl, rfl⟩
  · split <;> exact ⟨rfl, rfl⟩

theorem watchAll_checks [Unicode] (e : Engine α) (discovered : List GVR) (handlerOk : GVR → Bool) :
    (e.watchAll discovered handlerOk).recognises = e.recognises ∧
      (e.watchAll discovered handlerOk).annotatedCRDs = e.annotatedCRDs ∧
      (e.watchAll discovered handlerOk).suppressed = e.suppressed := by
  induction discovered generalizing e with
  | nil => exact ⟨rfl, rfl, rfl⟩
  | cons g discovered ih =>
      obtain ⟨hrecognises, hannotated, hsuppressed⟩ := ih (watchGVR handlerOk e g)
      obtain ⟨hrecognises', hannotated'⟩ := watchGVR_checks handlerOk e g
      rw [watchAll, List.foldl_cons, ← watchAll]
      exact ⟨hrecognises.trans hrecognises', hannotated.trans hannotated',
        hsuppressed.trans (suppressed_watchGVR handlerOk e g)⟩

section Scan
variable [Apimachinery] [Unicode]

def readAnnotations (e : Engine α) (crds : Option (List Unstructured)) : Engine α :=
  if e.checkAnnotation then e.refreshAnnotatedCRDs crds else e

theorem scan_eq (e : Engine α) (lists : List APIResourceList) (crds : Option (List Unstructured))
    (handlerOk : GVR → Bool) :
    e.scan lists crds handlerOk = (e.readAnnotations crds).watchAll (e.discover lists) handlerOk :=
  rfl

omit [Unicode] in
theorem readAnnotations_cases (e : Engine α) (crds : Option (List Unstructured)) :
    e.readAnnotations crds = e ∨ ∃ items, crds = some items ∧
      e.readAnnotations crds = { e with annotatedCRDs := (items.filterMap annotatedGVR).toFinset } := by
  unfold readAnnotations
  split
  · cases crds with
    | none => exact .inl rfl
    | some items =>
        rw [refreshAnnotatedCRDs]
        split
        · exact .inr ⟨items, rfl, rfl⟩
        · exact .inl rfl
  · exact .inl rfl

theorem readAnnotations_frame (e : Engine α) (crds : Option (List Unstructured)) :
    (e.readAnnotations crds).watchedGVRs = e.watchedGVRs ∧ (e.readAnnotations crds).suppressed = e.suppressed ∧
      (e.readAnnotations crds).recognises = e.recognises := by
  rcases e.readAnnotations_cases crds with h | ⟨items, -, h⟩
  · rw [h]
    exact ⟨rfl, rfl, rfl⟩
  · rw [h]
    exact ⟨rfl, rfl, rfl⟩

theorem mem_watchedGVRs_scan {e : Engine α} {lists : List APIResourceList} {crds : Option (List Unstructured)}
    {handlerOk : GVR → Bool} {gvr : GVR} :
    gvr ∈ (e.scan lists crds handlerOk).watchedGVRs ↔ gvr ∈ e.watchedGVRs ∨
      (gvr ∈ candidates lists ∧ (e.recognises gvr = true ∨ gvr ∈ e.annotatedCRDs)) ∧ gvr ∉ e.suppressed := by
  obtain ⟨hwatched, hsuppressed, -⟩ := e.readAnnotations_frame crds
  rw [scan_eq, mem_watchedGVRs_watchAll, hwatched, hsuppressed, discover_eq, List.mem_filter, isConstraintLike_iff]

theorem annotated_picked_up_iff (e : Engine α) (lists : List APIResourceList) (crds : List Unstructured)
    (handlerOk : GVR → Bool) :
    (∀ gvr ∈ candidates lists, (∃ crd ∈ crds, MarksPolicy crd gvr) → gvr ∉ e.suppressed →
      gvr ∈ (e.scan lists (some crds) handlerOk).watchedGVRs) ↔
    ∀ gvr ∈ candidates lists, (∃ crd ∈ crds, MarksPolicy crd gvr) → gvr ∉ e.suppressed →
      gvr ∈ e.watchedGVRs ∨ gvr ∈ e.annotatedCRDs ∨ e.recognises gvr = true := by
  refine forall₄_congr fun gvr hmem hmarked hfree => ?_
  rw [mem_watchedGVRs_scan]
  constructor
  · rintro (hwatched | ⟨⟨-, hlike | hcached⟩, -⟩)
    · exact .inl hwatched
    · exact .inr (.inr hlike)
    · exact .inr (.inl hcached)
  · rintro (hwatched | hcached | hlike)
    · exact .inl hwatched
    · exact .inr ⟨⟨hmem, .inr hcached⟩, hfree⟩
    · exact .inr ⟨⟨hmem, .inl hlike⟩, hfree⟩

theorem scan_frame (e : Engine α) (lists : List APIResourceList) (crds : Option (List Unstructured))
    (handlerOk : GVR → Bool) : (e.scan lists crds handlerOk).recognises = e.recognises ∧
      (e.scan lists crds handlerOk).suppressed = e.suppressed ∧
      (e.scan lists crds handlerOk).annotatedCRDs = (e.readAnnotations crds).annotatedCRDs := by
  obtain ⟨-, hsuppressed, hrecognises⟩ := e.readAnnotations_frame crds
  obtain ⟨hrecognises', hannotated, hsuppressed'⟩ :=
    watchAll_checks (e.readAnnotations crds) (e.discover lists) handlerOk
  rw [scan_eq]
  exact ⟨hrecognises'.trans hrecognises, hsuppressed'.trans hsuppressed, hannotated⟩

theorem watched_after_rescan {e : Engine α} (hcheck : e.checkAnnotation = true) (hclient : e.dynamicClient = true)
    {lists lists' : List APIResourceList} {crds : List Unstructured} {crds' : Option (List Unstructured)}
    {handlerOk handlerOk' : GVR → Bool} {crd : Unstructured} {gvr : GVR} (hcrd : crd ∈ crds)
    (hgvr : annotatedGVR crd = some gvr) (hmem : gvr ∈ candidates lists') (hfree : gvr ∉ e.suppressed) :
    gvr ∈ ((e.scan lists (some crds) handlerOk).scan lists' crds' handlerOk').watchedGVRs := by
  obtain ⟨-, hsuppressed, hannotated⟩ := e.scan_frame lists (some crds) handlerOk
  have hcached : gvr ∈ (e.scan lists (some crds) handlerOk).annotatedCRDs := by
    rw [hannotated, readAnnotations, if_pos hcheck, refreshAnnotatedCRDs]
    simp only [hclient, if_true, List.mem_toFinset, List.mem_filterMap]
    exact ⟨crd, hcrd, hgvr⟩
  rw [mem_watchedGVRs_scan, hsuppressed]
  exact .inr ⟨⟨hmem, .inr hcached⟩, hfree⟩

theorem missed_by_every_scan {e : Engine α} {crds : List Unstructured} {handlerOk : GVR → Bool} {gvr : GVR}
    (hwatched : gvr ∉ e.watchedGVRs) (hcached : gvr ∉ e.annotatedCRDs) (hlike : e.recognises gvr = false)
    (hfirst : ∀ crd ∈ crds, annotatedGVR crd ≠ some gvr) (scans : List (List APIResourceList)) :
    gvr ∉ (scans.foldl (fun e lists => e.scan lists (some crds) handlerOk) e).watchedGVRs := by
  induction scans generalizing e with
  | nil => exact hwatched
  | cons lists scans ih =>
      obtain ⟨hrecognises, -, hannotated⟩ := e.scan_frame lists (some crds) handlerOk
      rw [List.foldl_cons]
      apply ih
      · rw [mem_watchedGVRs_scan]
        rintro (h | ⟨⟨-, h | h⟩, -⟩)
        · exact hwatched h
        · exact absurd h (by simp [hlike])
        · exact hcached h
      · rw [hannotated]
        rcases e.readAnnotations_cases (some crds) with h | ⟨items, ⟨⟩, h⟩
        · rw [h]
          exact hcached
        · rw [h, List.mem_toFinset, List.mem_filterMap]
          rintro ⟨crd, hcrd, hgvr⟩
          exact hfirst crd hcrd hgvr
      · rw [hrecognises]
        exact hlike

end Scan

section Sample
attribute [local instance] Apimachinery.model asciiTables

def networkZonesCRD (versions : List (String × Bool)) : Unstructured :=
  ⟨[("metadata", .map [("name", .str "networkzones.security.mycompany.com"),
      ("annotations", .map [("nightjar.io/is-policy", .str "true")])]),
    ("spec", .map [("group", .str "security.mycompany.com"), ("names", .map [("plural", .str "networkzones")]),
      ("versions", .slice (versions.map (fun v => .map [("name", .str v.1), ("served", .bool v.2)])))])]⟩

def networkZones : GVR := ⟨"security.mycompany.com", "v1", "networkzones"⟩

theorem networkZones_missed :
    controllerEngine.checkAnnotation = true ∧
      networkZones ∈ candidates [⟨"security.mycompany.com/v1", ["networkzones", "networkzones/status"]⟩] ∧
      MarksPolicy (networkZonesCRD [("v1", true)]) networkZones ∧ networkZones ∉ controllerEngine.suppressed ∧
      networkZones ∉ (controllerEngine.scan [⟨"security.mycompany.com/v1", ["networkzones", "networkzones/status"]⟩]
        (some [networkZonesCRD [("v1", true)]]) (fun _ => true)).watchedGVRs := by
  have hmarks : MarksPolicy (networkZonesCRD [("v1", true)]) networkZones :=
    ⟨by decide +kernel, rfl, rfl, by decide +kernel⟩
  refine ⟨rfl, by decide +kernel, hmarks, by decide +kernel, by decide +kernel⟩

example : annotatedGVR (networkZonesCRD [("v1beta1", false), ("v1", true)]) =
    some { networkZones with version := "v1beta1" } := by decide +kernel

end Sample

end Engine

end Nightjar.Discovery
