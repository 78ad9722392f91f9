import Nightjar.Discovery.Ingestion
import Nightjar.Discovery.Informers

namespace Nightjar.Discovery

open Lib Adapters Lib.Strings

inductive EventKind where
  | add
  | update
  | delete
deriving DecidableEq, Repr

/-- A call of an event handler between its steps: past the check of
`watchedGVRs`, or with writes to the index still to make. -/
inductive Handler where
  | idle
  | accepted (kind : EventKind) (obj : EventObj)
  | writing (rest : List Mutation)

namespace Engine

variable {α : Type}

def accepts (e : Engine α) (g : GVR) : EventKind → Bool
  | .add | .update => decide (g ∈ e.watchedGVRs)
  | .delete => true

/-- The GVRs whose constraints a call deletes after it has released the lock. -/
def deferred (e : Engine α) : Op → List GVR
  | .unregister name => (e.unregisterProfile name).2.filterMap
      (fun | .deleteBySource gvr => some gvr | _ => none)
  | _ => []

section Events
variable [Adapter α] [Apimachinery] [Unicode] (e : Engine α) (order : e.Order) (g : GVR)

/-- The body of `handleAdd` after its check. -/
def upserts (obj : EventObj) : List Mutation :=
  match obj with
  | .unstructured obj =>
      match e.parseObject order g obj with
      | .error _ => []
      | .ok constraints => constraints.map .upsert
  | _ => []

def writes (kind : EventKind) (obj : EventObj) : List Mutation :=
  match kind with
  | .add | .update => e.upserts order g obj
  | .delete => e.handleDelete order g obj

def handle (kind : EventKind) (obj : EventObj) : List Mutation :=
  match kind with
  | .add => e.handleAdd order g obj
  | .update => e.handleUpdate order g obj
  | .delete => e.handleDelete order g obj

theorem handleAdd_eq (obj : EventObj) :
    e.handleAdd order g obj = if g ∈ e.watchedGVRs then e.upserts order g obj else [] := by
  unfold handleAdd
  rw [ite_not]
  rfl

theorem handle_eq (kind : EventKind) (obj : EventObj) :
    e.handle order g kind obj = if e.accepts g kind then e.writes order g kind obj else [] := by
  cases kind with
  | add | update => simpa [handle, handleUpdate, accepts, writes] using e.handleAdd_eq order g obj
  | delete => rfl

end Events

end Engine

section Suppression
variable {α : Type} {e : Engine α} {g : GVR}

namespace Engine

def Names (e : Engine α) (g : GVR) : Op → Prop
  | .register p _ => p.gvr = g ∨ ∃ ps, e.profiles.lookup p.name = some ps ∧ ps.gvr = g
  | .unregister name => ∃ ps, e.profiles.lookup name = some ps ∧ ps.gvr = g
  | _ => False

structure Suppressed (e : Engine α) (g : GVR) : Prop where
  unwatched : g ∉ e.watchedGVRs
  disabled : ∃ name ps, e.profiles.lookup name = some ps ∧ ps.gvr = g ∧ ps.enabled = false

namespace Suppressed

theorem mem_suppressed (h : e.Suppressed g) : g ∈ e.suppressed := by
  obtain ⟨name, ps, hl, hg, hd⟩ := h.disabled
  rw [suppressed, List.mem_map]
  exact ⟨ps, List.mem_filter.mpr ⟨mem_profileStates.mpr ⟨name, hl⟩, by simp [hd]⟩, hg⟩

theorem registerProfile (h : e.Suppressed g) {p : ConstraintProfile} {handlerOk : Bool}
    (hn : ¬ e.Names g (.register p handlerOk)) : (e.registerProfile p handlerOk).Suppressed g := by
  obtain ⟨hp, hold⟩ := not_or.mp hn
  obtain ⟨name, ps, hl, hg, hd⟩ := h.disabled
  refine ⟨?_, name, ps, ?_, hg, hd⟩
  · rw [mem_watched_registerProfile, if_neg (Ne.symm hp)]
    exact h.unwatched
  · obtain ⟨s, hs⟩ := lookup_registerProfile (e := e) (p := p) (m := name)
    rw [hs, if_neg, hl]
    rintro rfl
    exact hold ⟨ps, hl, hg⟩

theorem unregisterProfile (h : e.Suppressed g) {name : String} (hn : ¬ e.Names g (.unregister name)) :
    (e.unregisterProfile name).1.Suppressed g := by
  obtain ⟨m, ps, hl, hg, hd⟩ := h.disabled
  refine ⟨fun hw => h.unwatched (mem_watched_unregisterProfile.mp hw).1, m, ps, ?_, hg, hd⟩
  rw [lookup_unregisterProfile, hl]
  rintro rfl
  exact hn ⟨ps, hl, hg⟩

theorem watchAll (h : e.Suppressed g) (discovered : List GVR) (handlerOk : GVR → Bool) :
    (e.watchAll discovered handlerOk).Suppressed g := by
  induction discovered generalizing e with
  | nil => exact h
  | cons gvr discovered ih =>
      refine ih ?_
      rw [watchGVR]
      split
      · exact h
      · rename_i hnew
        have hne : g ≠ gvr := by
          rintro rfl
          exact hnew (.inl h.mem_suppressed)
        rw [startInformer]
        split
        · exact ⟨by simp [start, hne, h.unwatched], h.disabled⟩
        · exact ⟨by simp [hne, h.unwatched], h.disabled⟩

theorem stop (h : e.Suppressed g) : e.stop.Suppressed g := by
  have hfold (names : List String) {e : Engine α} (h : e.Suppressed g) :
      (names.foldl stopProfileInformer e).Suppressed g := by
    induction names generalizing e with
    | nil => exact h
    | cons n names ih =>
        refine ih ⟨by simpa using h.unwatched, ?_⟩
        obtain ⟨m, ps, hl, hg, hd⟩ := h.disabled
        refine ⟨m, if m = n then { ps with stopCh := none } else ps, ?_, ?_, ?_⟩
        · rw [lookup_stopProfileInformer, hl]
          rfl
        · split <;> exact hg
        · split <;> exact hd
  rw [Engine.stop]
  split
  · exact h
  · exact hfold _ ⟨h.unwatched, h.disabled⟩

variable [Apimachinery] [Unicode]

omit [Unicode] in
theorem refreshAnnotatedCRDs (h : e.Suppressed g) (crds : Option (List Unstructured)) :
    (e.refreshAnnotatedCRDs crds).Suppressed g := by
  obtain he | ⟨annotated, he⟩ := refreshAnnotatedCRDs_cases e crds
  · rw [he]
    exact h
  · rw [he]
    exact ⟨h.unwatched, h.disabled⟩

theorem run (h : e.Suppressed g) {o : Op} (hn : ¬ e.Names g o) : (e.run o).Suppressed g := by
  cases o with
  | register p handlerOk => exact h.registerProfile hn
  | unregister name => exact h.unregisterProfile hn
  | scan lists crds handlerOk =>
      apply Suppressed.watchAll
      split
      · exact h.refreshAnnotatedCRDs crds
      · exact h
  | refresh crds => exact h.refreshAnnotatedCRDs crds
  | watch discovered handlerOk => exact h.watchAll discovered handlerOk
  | stop => exact h.stop

end Suppressed

theorem suppressed_registerProfile (e : Engine α) {p : ConstraintProfile} (hp : p.enabled = false) (handlerOk : Bool) :
    (e.registerProfile p handlerOk).Suppressed p.gvr := by
  obtain ⟨s, hs⟩ := lookup_registerProfile (e := e) (p := p) (m := p.name)
  refine ⟨?_, p.name, p.state s, ?_, rfl, hp⟩
  · rw [mem_watched_registerProfile, if_pos rfl, hp]
    exact Bool.false_ne_true
  · rw [hs, if_pos rfl]

end Engine

end Suppression

/-- The engine and its index, with the handler calls of the informers on one
GVR in progress and the GVRs that `UnregisterProfile` calls have still to clean up. -/
structure World (α : Type) where
  engine : Engine α
  index : Indexer := .new
  handlers : Nat → Handler := fun _ => .idle
  cleanups : List GVR := []

inductive Move where
  | op (o : Op)
  | cleanup (i : Nat)
  | event (i : Nat) (kind : EventKind) (obj : EventObj)
  | parse (i : Nat) (states : List ProfileState)
  | write (i : Nat)

namespace World

variable {α : Type}

def put (w : World α) (i : Nat) (h : Handler) : World α := { w with handlers := Function.update w.handlers i h }

theorem handlers_put_self (w : World α) (i : Nat) (h : Handler) : (w.put i h).handlers i = h :=
  Function.update_self ..

theorem handlers_put_of_ne (w : World α) {i j : Nat} (hj : j ≠ i) (h : Handler) :
    (w.put i h).handlers j = w.handlers j :=
  Function.update_of_ne hj ..

def Initial (w : World α) : Prop :=
  w.engine.Fresh ∧ w.index = .new ∧ w.cleanups = [] ∧ ∀ i, w.handlers i = .idle

def Idle (w : World α) : Prop := ∀ i, w.handlers i = .idle

variable [Adapter α] [Apimachinery] [Unicode]

def locked (w : World α) (o : Op) : World α :=
  { w with engine := w.engine.run o, cleanups := w.cleanups ++ w.engine.deferred o }

def next (g : GVR) (w : World α) : Move → Option (World α)
  | .op o => some (w.locked o)
  | .cleanup i => (w.cleanups[i]?).map (fun gvr =>
      { w with index := (w.index.deleteBySource gvr).1, cleanups := w.cleanups.eraseIdx i })
  | .event i kind obj =>
      match w.handlers i with
      | .idle => some (if w.engine.accepts g kind then w.put i (.accepted kind obj) else w)
      | _ => none
  | .parse i states =>
      match w.handlers i with
      | .accepted kind obj =>
          if h : states.Perm w.engine.profileStates then
            some (w.put i (.writing (w.engine.writes ⟨states, h⟩ g kind obj)))
          else none
      | _ => none
  | .write i =>
      match w.handlers i with
      | .writing [] => some (w.put i .idle)
      | .writing (m :: rest) => some ({ w with index := (w.index.apply m).1 }.put i (.writing rest))
      | _ => none

inductive Step (g : GVR) : World α → Move → World α → Prop
  | op (w : World α) (o : Op) : Step g w (.op o) (w.locked o)
  | cleanup (w : World α) {i : Nat} {gvr : GVR} (hi : w.cleanups[i]? = some gvr) :
      Step g w (.cleanup i) { w with index := (w.index.deleteBySource gvr).1, cleanups := w.cleanups.eraseIdx i }
  | ignored (w : World α) {i : Nat} {kind : EventKind} {obj : EventObj} (hi : w.handlers i = .idle) :
      Step g w (.event i kind obj) w
  | accepted (w : World α) {i : Nat} {kind : EventKind} {obj : EventObj} (hi : w.handlers i = .idle)
      (ha : w.engine.accepts g kind = true) : Step g w (.event i kind obj) (w.put i (.accepted kind obj))
  | parsed (w : World α) {i : Nat} {kind : EventKind} {obj : EventObj} (order : w.engine.Order)
      (hi : w.handlers i = .accepted kind obj) :
      Step g w (.parse i order.states) (w.put i (.writing (w.engine.writes order g kind obj)))
  | finished (w : World α) {i : Nat} (hi : w.handlers i = .writing []) : Step g w (.write i) (w.put i .idle)
  | wrote (w : World α) {i : Nat} {m : Mutation} {rest : List Mutation} (hi : w.handlers i = .writing (m :: rest)) :
      Step g w (.write i) ({ w with index := (w.index.apply m).1 }.put i (.writing rest))

theorem step_of_next {g : GVR} {w w' : World α} {l : Move} (h : w.next g l = some w') : Step g w l w' := by
  cases l with
  | op o =>
      cases h
      exact .op w o
  | cleanup i =>
      obtain ⟨gvr, hi, rfl⟩ := Option.map_eq_some_iff.mp h
      exact .cleanup w hi
  | event i kind obj =>
      rw [next] at h
      split at h
      · rename_i hi
        cases h
        split
        · rename_i ha
          exact .accepted w hi ha
        · exact .ignored w hi
      · cases h
  | parse i states =>
      rw [next] at h
      split at h
      · rename_i kind obj hi
        split at h
        · rename_i hperm
          cases h
          exact .parsed w ⟨states, hperm⟩ hi
        · cases h
      · cases h
  | write i =>
      rw [next] at h
      split at h
      · rename_i hi
        cases h
        exact .finished w hi
      · rename_i m rest hi
        cases h
        exact .wrote w hi
      · cases h

def runs (α : Type) [Adapter α] (g : GVR) : System (World α) Move := .ofStep Initial (next g)

def runsFrom (g : GVR) (start : World α) : System (World α) Move := .ofStep (· = start) (next g)

end World

section Quiet
variable {α : Type} {g : GVR} {w w' : World α}

/-- Nothing the call still has to do adds a constraint of the GVR. An object that is yet to be parsed
counts as one that does. -/
def Handler.Harmless (g : GVR) : Handler → Prop
  | idle | accepted .delete _ => True
  | accepted _ obj => ∀ o, obj ≠ .unstructured o
  | writing rest => ∀ c, .upsert c ∈ rest → c.source ≠ g

namespace World

def Clean (g : GVR) (w : World α) : Prop := ∀ c ∈ w.index.all, c.source ≠ g

def Harmless (g : GVR) (w : World α) : Prop := ∀ i, (w.handlers i).Harmless g

structure Quiet (g : GVR) (w : World α) : Prop where
  unwatched : g ∉ w.engine.watchedGVRs
  clean : w.Clean g
  harmless : w.Harmless g

theorem Harmless.put (h : w.Harmless g) {i : Nat} {k : Handler} (hk : k.Harmless g) : (w.put i k).Harmless g := by
  intro j
  by_cases hj : j = i
  · subst hj
    rw [handlers_put_self]
    exact hk
  · rw [handlers_put_of_ne w hj]
    exact h j

end World

variable [Adapter α] [Apimachinery] [Unicode] {e : Engine α} (order : e.Order)

theorem upsert_notMem_handleDelete {obj : EventObj} {c : Constraint} :
    .upsert c ∉ e.handleDelete order g obj := by
  have hobj (o : Unstructured) : .upsert c ∉ e.deleteObject order g o := by
    rw [Engine.deleteObject]
    split <;> simp
  cases obj with
  | unstructured o => exact hobj o
  | other => exact List.not_mem_nil
  | deletedFinalStateUnknown obj =>
      cases obj with
      | unstructured o => exact hobj o
      | deletedFinalStateUnknown | other => exact List.not_mem_nil

theorem Handler.Harmless.writes {kind : EventKind} {obj : EventObj} (h : (Handler.accepted kind obj).Harmless g) :
    (Handler.writing (e.writes order g kind obj)).Harmless g := by
  intro c hc
  cases kind with
  | add | update =>
      cases obj with
      | unstructured o => exact absurd rfl (h o)
      | deletedFinalStateUnknown | other => cases hc
  | delete => exact absurd hc (upsert_notMem_handleDelete order)

theorem World.Quiet.step (h : w.Quiet g) {l : Move} (hs : Step g w l w') (hw : g ∉ w'.engine.watchedGVRs) :
    w'.Quiet g := by
  have hk (i : Nat) {k : Handler} (hi : w.handlers i = k) : k.Harmless g := hi ▸ h.harmless i
  cases hs with
  | op o => exact ⟨hw, h.clean, h.harmless⟩
  | cleanup hi => exact ⟨hw, fun c hc => h.clean c (Indexer.mem_all_deleteBySource.mp hc).1, h.harmless⟩
  | ignored => exact h
  | @accepted i kind obj hi ha =>
      refine ⟨hw, h.clean, h.harmless.put ?_⟩
      cases kind with
      | add | update => exact absurd (of_decide_eq_true ha) h.unwatched
      | delete => trivial
  | parsed order hi => exact ⟨hw, h.clean, h.harmless.put ((hk _ hi).writes order)⟩
  | finished hi => exact ⟨hw, h.clean, h.harmless.put trivial⟩
  | wrote hi =>
      refine ⟨hw, ?_, Harmless.put h.harmless fun c hc => hk _ hi c (List.mem_cons_of_mem _ hc)⟩
      intro c hc
      rcases Indexer.mem_all_of_mem_apply hc with hc | rfl
      · exact h.clean c hc
      · exact hk _ hi c List.mem_cons_self

end Quiet

section Disabling
variable {α : Type} [Adapter α] [Apimachinery] [Unicode]

namespace World

def SparesProfiles (g : GVR) (w : World α) : Move → Prop
  | .op o => ¬ w.engine.Names g o
  | _ => True

/-- After the registration the GVR is unwatched and without constraints whenever
no handler is in progress, until a call for a profile that names it. -/
def StaysCleared (w : World α) (p : ConstraintProfile) (handlerOk : Bool) : Prop :=
  ∀ w', (runsFrom p.gvr (w.locked (.register p handlerOk))).Reaches (SparesProfiles p.gvr) w' → w'.Idle →
    p.gvr ∉ w'.engine.watchedGVRs ∧ w'.Clean p.gvr

/-- Registering a disabled profile deletes no constraint: the GVR is cleared if
none of its constraints was indexed or about to be, and without handlers in
progress only then. -/
theorem disabled_staysCleared (w : World α) (p : ConstraintProfile) (hp : p.enabled = false) (handlerOk : Bool) :
    (w.Clean p.gvr ∧ w.Harmless p.gvr → w.StaysCleared p handlerOk) ∧
    (w.Idle → w.StaysCleared p handlerOk → w.Clean p.gvr) := by
  have hsupp := w.engine.suppressed_registerProfile hp handlerOk
  constructor
  · rintro ⟨hclean, hharmless⟩ w' h _
    have hinv : w'.engine.Suppressed p.gvr ∧ w'.Quiet p.gvr := by
      refine h.invariant (I := fun w => w.engine.Suppressed p.gvr ∧ w.Quiet p.gvr) ?_ ?_
      · rintro w rfl
        exact ⟨hsupp, hsupp.unwatched, hclean, hharmless⟩
      · rintro w l w' ⟨hsupp, hquiet⟩ hspares hnext
        have hs := step_of_next hnext
        have hsupp' : w'.engine.Suppressed p.gvr := by
          cases hs with
          | op o => exact hsupp.run hspares
          | cleanup | ignored | accepted | parsed | finished | wrote => exact hsupp
        exact ⟨hsupp', hquiet.step hs hsupp'.unwatched⟩
    exact ⟨hinv.2.unwatched, hinv.2.clean⟩
  · intro hidle h
    exact (h _ (.init rfl) hidle).2

end World

end Disabling

namespace World

section Indexed
attribute [local instance] Apimachinery.model asciiTables

def limits : GVR := (Engine.sampleProfile "limits").gvr

def disabledLimits : ConstraintProfile := { Engine.sampleProfile "limits" with enabled := false }

def fresh : World Builtin := { engine := controllerEngine }

theorem initial_fresh : Initial fresh := ⟨Engine.fresh_controllerEngine, rfl, rfl, fun _ => rfl⟩

def register : Move := .op (.register (Engine.sampleProfile "limits") true)

def sampleEvent : Move := .event 0 .add (.unstructured (sampleObject []))

def execute (ls : List Move) : Option (World Builtin) := System.exec (next limits) (fun _ _ => true) fresh ls

theorem reachable_execute {ls : List Move} (h : (execute ls).isSome = true) :
    (runs Builtin limits).Reachable ((execute ls).get h) :=
  System.Reaches.exec (fun _ _ _ => trivial) (.init initial_fresh) (Option.some_get h).symm

theorem disabled_staysCleared_fresh : disabledLimits.enabled = false ∧ fresh.StaysCleared disabledLimits true := by
  have hclean : fresh.Clean limits := by
    intro c hc
    cases hc
  exact ⟨rfl, (disabled_staysCleared fresh disabledLimits rfl true).1 ⟨hclean, fun _ => trivial⟩⟩

def indexed : World Builtin :=
  (execute [register, sampleEvent, .parse 0 [(Engine.sampleProfile "limits").state (some 0)], .write 0, .write 0]).get
    (by decide)

theorem idle_indexed : indexed.Idle := by
  intro i
  cases i with
  | zero => rfl
  | succ n => rfl

theorem disabling_keeps_constraint :
    (runs Builtin limits).Reachable indexed ∧ indexed.Idle ∧ ¬ indexed.StaysCleared disabledLimits true := by
  refine ⟨reachable_execute _, idle_indexed, ?_⟩
  intro h
  have hclean : ∀ c ∈ indexed.index.all, c.source ≠ limits := (h _ (.init rfl) idle_indexed).2
  exact absurd hclean (by decide)

end Indexed

end World

section Unregistering
variable {α : Type} [Adapter α] [Apimachinery] [Unicode] {g : GVR} {w w' : World α}

namespace World

def StaysUnwatched (g : GVR) (w : World α) (l : Move) : Prop :=
  ∀ w', w.next g l = some w' → g ∉ w'.engine.watchedGVRs

/-- When the constraints of the GVR are deleted, no handler in progress is about
to add another. -/
def CleansAlone (g : GVR) (w : World α) : Move → Prop
  | .cleanup i => w.cleanups[i]? = some g → w.Harmless g
  | _ => True

theorem mem_cleanups_step {l : Move} (hs : Step g w l w') (hm : g ∈ w.cleanups) :
    g ∈ w'.cleanups ∨ ∃ i, l = .cleanup i ∧ w.cleanups[i]? = some g ∧ w'.Clean g ∧ w'.handlers = w.handlers := by
  cases hs with
  | op o => exact .inl (List.mem_append_left _ hm)
  | @cleanup i gvr hi =>
      by_cases hg : gvr = g
      · subst hg
        exact .inr ⟨i, rfl, hi, fun c hc => (Indexer.mem_all_deleteBySource.mp hc).2, rfl⟩
      · obtain ⟨hlt, rfl⟩ := List.getElem?_eq_some_iff.mp hi
        rw [← (List.getElem_cons_eraseIdx_perm hlt).mem_iff, List.mem_cons] at hm
        exact .inl (hm.resolve_left (Ne.symm hg))
  | ignored | accepted | parsed | finished | wrote => exact .inl hm

/-- The GVR is unwatched, and until it is cleaned its `DeleteBySource` is still to come. -/
def Cleaning (w : World α) (g : GVR) : Prop := g ∉ w.engine.watchedGVRs ∧ (g ∈ w.cleanups ∨ w.Quiet g)

omit [Adapter α] in
theorem cleaning_unregister (w : World α) {name : String} {ps : ProfileState}
    (hl : w.engine.profiles.lookup name = some ps) (hlast : ¬ w.engine.Needed name ps.gvr) :
    (w.locked (.unregister name)).Cleaning ps.gvr := by
  refine ⟨?_, .inl ?_⟩
  · rw [locked, Engine.run, Engine.mem_watched_unregisterProfile]
    exact fun hw => hlast (hw.2 ps hl rfl)
  · rw [locked, Engine.deferred, (Engine.mutations_unregisterProfile hl).2 hlast]
    exact List.mem_append_right _ List.mem_cons_self

theorem Cleaning.step {l : Move} (h : w.Cleaning g) (hstays : w.StaysUnwatched g l)
    (halone : w.CleansAlone g l) (hnext : w.next g l = some w') : w'.Cleaning g := by
  have hs := step_of_next hnext
  have hw' := hstays w' hnext
  refine ⟨hw', ?_⟩
  rcases h.2 with hm | hquiet
  · rcases mem_cleanups_step hs hm with hm | ⟨i, rfl, hi, hclean, hhandlers⟩
    · exact .inl hm
    · refine .inr ⟨hw', hclean, ?_⟩
      rw [Harmless, hhandlers]
      exact halone hi
  · exact .inr (hquiet.step hs hw')

/-- In a run in which the cleanup is made while no handler is about to add a
constraint, none is left once the last profile of the GVR has been unregistered. -/
theorem unregistered_clean (w : World α) {name : String} {ps : ProfileState}
    (hl : w.engine.profiles.lookup name = some ps) (hlast : ¬ w.engine.Needed name ps.gvr)
    (h : (runsFrom ps.gvr (w.locked (.unregister name))).Reaches
      (fun w l => w.StaysUnwatched ps.gvr l ∧ w.CleansAlone ps.gvr l) w')
    (hdone : ps.gvr ∉ w'.cleanups) : w'.Clean ps.gvr := by
  have hinv : w'.Cleaning ps.gvr := by
    refine h.invariant (I := fun w => w.Cleaning ps.gvr) ?_ ?_
    · rintro w' rfl
      exact cleaning_unregister w hl hlast
    · rintro w l w' hw ⟨hstays, halone⟩ hnext
      exact hw.step hstays halone hnext
  exact (hinv.2.resolve_left hdone).clean

end World

end Unregistering

namespace World

section Raced
attribute [local instance] Apimachinery.model asciiTables

def unregister : Move := .op (.unregister "sample")

def cleaned : World Builtin :=
  { indexed.locked (.unregister "sample") with index := (indexed.index.deleteBySource limits).1, cleanups := [] }

theorem unregistered_clean_cleaned : ¬ indexed.Clean limits ∧ limits ∉ cleaned.cleanups ∧ cleaned.Clean limits := by
  have hl : indexed.engine.profiles.lookup "sample" = some ((Engine.sampleProfile "limits").state (some 0)) := by
    decide
  have hlast : ¬ indexed.engine.Needed "sample" limits := by
    rw [← Engine.any_removeProfile_iff]
    decide
  have hreach : (runsFrom limits (indexed.locked (.unregister "sample"))).Reaches
      (fun w l => w.StaysUnwatched limits l ∧ w.CleansAlone limits l) cleaned := by
    refine .step (l := .cleanup 0) (.init rfl) ⟨?_, ?_⟩ rfl
    · intro w' hw'
      cases hw'
      decide
    · intro _ i
      rw [show (indexed.locked (.unregister "sample")).handlers i = .idle from idle_indexed i]
      trivial
  have hindexed : ¬ ∀ c ∈ indexed.index.all, c.source ≠ limits := by decide
  exact ⟨hindexed, List.not_mem_nil, unregistered_clean indexed hl hlast hreach List.not_mem_nil⟩

/-- The handler has checked the GVR when the profile is unregistered, and writes after the cleanup. -/
def raced : World Builtin :=
  (execute [register, sampleEvent, unregister, .cleanup 0, .parse 0 [], .write 0, .write 0]).get (by decide)

theorem racing_event_undoes_unregister :
    (runs Builtin limits).Reachable raced ∧ raced.Idle ∧ raced.cleanups = [] ∧
    limits ∉ raced.engine.watchedGVRs ∧ ¬ raced.Clean limits := by
  refine ⟨reachable_execute _, ?_, by decide, by decide, ?_⟩
  · intro i
    cases i with
    | zero => rfl
    | succ n => rfl
  · have hraced : ¬ ∀ c ∈ raced.index.all, c.source ≠ limits := by decide
    exact hraced

end Raced

end World

end Nightjar.Discovery
