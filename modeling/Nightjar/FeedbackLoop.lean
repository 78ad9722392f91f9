import Nightjar.Notifier.Dispatcher
import Nightjar.Lib.Runs
import Mathlib.Data.Finset.Prod

namespace Nightjar

open Lib Lib.Strings Notifier Dedupe

/-- What an Event says of the object it is about and is kept on the way round. -/
structure Involved where
  kind : String
  ns : String
  name : String
deriving DecidableEq, Repr

def ObjectReference.involved (o : ObjectReference) : Involved := ⟨o.kind, o.ns, o.name⟩

def CorrelatedNotification.involved (n : CorrelatedNotification) : Involved := ⟨n.workloadKind, n.ns, n.workloadName⟩

/-- The goroutine that reads the notifications, within a call of `Dispatch`. -/
inductive Dispatching where
  | idle
  | received (n : CorrelatedNotification)
  | marked (n : CorrelatedNotification) (decidedAt : Int)

def Dispatching.carried : Dispatching → Option CorrelatedNotification
  | idle => none
  | received n => some n
  | marked n _ => some n

def Dispatching.decision : Dispatching → List (Answer Dispatcher.DedupeKey)
  | marked n decidedAt => [⟨Dispatcher.key n, decidedAt, true⟩]
  | _ => []

structure Created where
  event : Event
  constraintUID : UID
  decidedAt : Int
  createdAt : Int

def Created.involved (c : Created) : Involved := c.event.involvedObject.involved

def Created.key (c : Created) : Dispatcher.DedupeKey :=
  ⟨c.constraintUID, c.involved.ns ++ "/" ++ c.involved.name⟩

/-- The correlator, its channel, the dispatcher and the Events it has created. The
objects of the external Events so far and the UIDs that were indexed are kept beside. -/
structure FeedbackLoop where
  clock : Int
  index : Indexer := .new
  seenPairs : Cache Correlator.DedupeKey := ∅
  handling : Option (Event × List Constraint) := none
  notifications : List CorrelatedNotification := []
  dedupe : Run Dispatcher.DedupeKey := {}
  dispatching : Dispatching := .idle
  created : List Created := []
  external : List Involved := []
  indexed : List UID := []

namespace FeedbackLoop

inductive Move where
  | tick (now : Int)
  | mutate (m : Mutation)
  | external (event : Event) (allowed : Bool) (order : List Nat)
  | feedback (i : Nat) (uid : UID) (allowed : Bool) (order : List Nat)
  | offer
  | finish
  | receive
  | limit
  | mark
  | create (now observedAt : String)
  | fail
  | cleanSeenPairs
  | cleanDedupe

def Initial (s : FeedbackLoop) : Prop := ∃ clock, s = { clock := clock }

/-- The candidates of an Event, in the order in which the index hands them out. -/
def ordered (s : FeedbackLoop) (event : Event) (allowed : Bool) (order : List Nat) : List Constraint :=
  order.filterMap ((Correlator.candidates allowed s.index event)[·]?)

def handle (s : FeedbackLoop) (event : Event) (allowed : Bool) (order : List Nat) : Option FeedbackLoop :=
  match s.handling with
  | some _ => none
  | none =>
      if order.Perm (List.range (Correlator.candidates allowed s.index event).length) then
        some { s with handling := some (event, s.ordered event allowed order) }
      else none

def mutated (s : FeedbackLoop) (m : Mutation) : FeedbackLoop :=
  { s with
    index := (s.index.apply m).1
    indexed :=
      match m with
      | .upsert c => c.uid :: s.indexed
      | _ => s.indexed }

def offered (s : FeedbackLoop) (event : Event) (c : Constraint) (rest : List Constraint) : FeedbackLoop :=
  let answer := Correlator.tryMarkSeen s.seenPairs (Correlator.key event c) s.clock
  { s with
    seenPairs := answer.2
    notifications :=
      if answer.1 then Correlator.send s.notifications (Correlator.notification event c) else s.notifications
    handling := some (event, rest) }

section Next
variable [Unicode] [UpperCase] (opts : DispatcherOptions)

omit [Unicode] [UpperCase] in
def marked (s : FeedbackLoop) (n : CorrelatedNotification) : FeedbackLoop :=
  { s with
    dedupe := s.dedupe.call (Dispatcher.dedupe opts) (Dispatcher.key n) s.clock
    dispatching :=
      if (Dispatcher.tryMarkSeen opts s.dedupe.cache (Dispatcher.key n) s.clock).1 then .marked n s.clock else .idle }

def creation (s : FeedbackLoop) (n : CorrelatedNotification) (decidedAt : Int) (now observedAt : String) : Created :=
  ⟨Dispatcher.createEvent opts n now observedAt, n.constraint.uid, decidedAt, s.clock⟩

def next (s : FeedbackLoop) : Move → Option FeedbackLoop
  | .tick now => if s.clock ≤ now then some { s with clock := now } else none
  | .mutate m => some (s.mutated m)
  | .external event allowed order =>
      handle { s with external := event.involvedObject.involved :: s.external } event allowed order
  | .feedback i uid allowed order =>
      (s.created[i]?).bind (fun c => s.handle { c.event with uid := uid } allowed order)
  | .offer =>
      match s.handling with
      | some (event, c :: rest) => some (s.offered event c rest)
      | _ => none
  | .finish =>
      match s.handling with
      | some (_, []) => some { s with handling := none }
      | _ => none
  | .receive =>
      match s.dispatching, s.notifications with
      | .idle, n :: rest => some { s with dispatching := .received n, notifications := rest }
      | _, _ => none
  | .limit =>
      match s.dispatching with
      | .received _ => some { s with dispatching := .idle }
      | _ => none
  | .mark =>
      match s.dispatching with
      | .received n => some (s.marked opts n)
      | _ => none
  | .create now observedAt =>
      match s.dispatching with
      | .marked n decidedAt =>
          some { s with created := s.creation opts n decidedAt now observedAt :: s.created, dispatching := .idle }
      | _ => none
  | .fail =>
      match s.dispatching with
      | .marked _ _ => some { s with dispatching := .idle }
      | _ => none
  | .cleanSeenPairs => some { s with seenPairs := Correlator.cleanupDedupeCache s.seenPairs s.clock }
  | .cleanDedupe => some { s with dedupe := s.dedupe.sweep (Dispatcher.dedupe opts) s.clock }

def runs : System FeedbackLoop Move := .ofStep Initial (next opts)

inductive Step : FeedbackLoop → FeedbackLoop → Prop
  | tick (s : FeedbackLoop) {now : Int} (h : s.clock ≤ now) : Step s { s with clock := now }
  | mutate (s : FeedbackLoop) (m : Mutation) : Step s (s.mutated m)
  | external (s : FeedbackLoop) (event : Event) (allowed : Bool) (order : List Nat) (h : s.handling = none) :
      Step s { s with
        external := event.involvedObject.involved :: s.external
        handling := some (event, s.ordered event allowed order) }
  | feedback (s : FeedbackLoop) {c : Created} (hc : c ∈ s.created) (uid : UID) (allowed : Bool) (order : List Nat)
      (h : s.handling = none) :
      Step s { s with
        handling := some ({ c.event with uid := uid }, s.ordered { c.event with uid := uid } allowed order) }
  | offer (s : FeedbackLoop) {event : Event} {c : Constraint} {rest : List Constraint}
      (h : s.handling = some (event, c :: rest)) : Step s (s.offered event c rest)
  | finish (s : FeedbackLoop) : Step s { s with handling := none }
  | receive (s : FeedbackLoop) {n : CorrelatedNotification} {rest : List CorrelatedNotification}
      (hd : s.dispatching = .idle) (hn : s.notifications = n :: rest) :
      Step s { s with dispatching := .received n, notifications := rest }
  | drop (s : FeedbackLoop) : Step s { s with dispatching := .idle }
  | mark (s : FeedbackLoop) {n : CorrelatedNotification} (h : s.dispatching = .received n) : Step s (s.marked opts n)
  | create (s : FeedbackLoop) {n : CorrelatedNotification} {decidedAt : Int} (h : s.dispatching = .marked n decidedAt)
      (now observedAt : String) :
      Step s { s with created := s.creation opts n decidedAt now observedAt :: s.created, dispatching := .idle }
  | cleanSeenPairs (s : FeedbackLoop) :
      Step s { s with seenPairs := Correlator.cleanupDedupeCache s.seenPairs s.clock }
  | cleanDedupe (s : FeedbackLoop) : Step s { s with dedupe := s.dedupe.sweep (Dispatcher.dedupe opts) s.clock }

variable {opts} {s s' : FeedbackLoop}

omit [Unicode] [UpperCase] in
theorem handle_eq_some {event : Event} {allowed : Bool} {order : List Nat}
    (h : s.handle event allowed order = some s') :
    s.handling = none ∧ s' = { s with handling := some (event, s.ordered event allowed order) } := by
  rw [handle] at h
  split at h
  · cases h
  · rename_i hnone
    split at h
    · cases h
      exact ⟨hnone, rfl⟩
    · cases h

theorem step_of_next {l : Move} (h : s.next opts l = some s') : Step opts s s' := by
  cases l with
  | tick now =>
      rw [next] at h
      split at h
      · rename_i hle
        cases h
        exact .tick s hle
      · cases h
  | mutate m =>
      cases h
      exact .mutate s m
  | external event allowed order =>
      obtain ⟨hnone, rfl⟩ := handle_eq_some h
      exact .external s event allowed order hnone
  | feedback i uid allowed order =>
      obtain ⟨c, hc, hh⟩ := Option.bind_eq_some_iff.mp h
      obtain ⟨hnone, rfl⟩ := handle_eq_some hh
      exact .feedback s (List.mem_of_getElem? hc) uid allowed order hnone
  | offer =>
      rw [next] at h
      split at h
      · rename_i hh
        cases h
        exact .offer s hh
      · cases h
  | finish =>
      rw [next] at h
      split at h
      · cases h
        exact .finish s
      · cases h
  | receive =>
      rw [next] at h
      split at h
      · rename_i hd hn
        cases h
        exact .receive s hd hn
      · cases h
  | limit | fail =>
      rw [next] at h
      split at h
      · cases h
        exact .drop s
      · cases h
  | mark =>
      rw [next] at h
      split at h
      · rename_i hd
        cases h
        exact .mark s hd
      · cases h
  | create now observedAt =>
      rw [next] at h
      split at h
      · rename_i hd
        cases h
        exact .create s hd now observedAt
      · cases h
  | cleanSeenPairs =>
      cases h
      exact .cleanSeenPairs s
  | cleanDedupe =>
      cases h
      exact .cleanDedupe s

end Next

section Origin

/-- The notification is about an external object and a constraint that was indexed. -/
def Known (s : FeedbackLoop) (n : CorrelatedNotification) : Prop :=
  n.involved ∈ s.external ∧ n.constraint.uid ∈ s.indexed

structure Sourced (s : FeedbackLoop) : Prop where
  index : ∀ {c}, c ∈ s.index.all → c.uid ∈ s.indexed
  handling : ∀ {event cs}, s.handling = some (event, cs) →
    event.involvedObject.involved ∈ s.external ∧ ∀ c ∈ cs, c.uid ∈ s.indexed
  notifications : ∀ {n}, n ∈ s.notifications → s.Known n
  dispatching : ∀ {n}, s.dispatching.carried = some n → s.Known n
  created : ∀ {c}, c ∈ s.created → c.involved ∈ s.external ∧ c.constraintUID ∈ s.indexed

variable {s s' : FeedbackLoop}

theorem Sourced.ordered (h : s.Sourced) {event : Event} {allowed : Bool} {order : List Nat} :
    ∀ c ∈ s.ordered event allowed order, c.uid ∈ s.indexed := by
  intro c hc
  obtain ⟨i, _, hi⟩ := List.mem_filterMap.mp hc
  have hmem := List.mem_of_getElem? hi
  rw [Correlator.candidates] at hmem
  split at hmem
  · cases hmem
  · exact h.index (Indexer.mem_byNamespace.mp hmem).1

theorem mem_send {channel : List CorrelatedNotification} {n m : CorrelatedNotification}
    (h : m ∈ Correlator.send channel n) : m ∈ channel ∨ m = n := by
  rw [Correlator.send] at h
  split at h
  · simpa using h
  · exact .inl h

variable [Unicode] [UpperCase] {opts : DispatcherOptions}

omit [Unicode] [UpperCase] in
theorem Sourced.mutated (h : s.Sourced) (m : Mutation) : (s.mutated m).Sourced := by
  have hgrows : s.indexed ⊆ (s.mutated m).indexed := by
    intro uid huid
    cases m with
    | upsert c => exact List.mem_cons_of_mem _ huid
    | delete | deleteBySource => exact huid
  have hknown {n : CorrelatedNotification} (hn : s.Known n) : (s.mutated m).Known n := ⟨hn.1, hgrows hn.2⟩
  refine ⟨fun {c} hc => ?_, fun hh => ?_, fun hn => hknown (h.notifications hn), fun hd => hknown (h.dispatching hd),
    fun hc => ⟨(h.created hc).1, hgrows (h.created hc).2⟩⟩
  · rcases Indexer.mem_all_of_mem_apply hc with hc | rfl
    · exact hgrows (h.index hc)
    · exact List.mem_cons_self
  · exact ⟨(h.handling hh).1, fun c hc => hgrows ((h.handling hh).2 c hc)⟩

omit [Unicode] [UpperCase] in
theorem Sourced.offered (h : s.Sourced) {event : Event} {c : Constraint} {rest : List Constraint}
    (hh : s.handling = some (event, c :: rest)) : (s.offered event c rest).Sourced := by
  obtain ⟨hevent, hcs⟩ := h.handling hh
  rw [List.forall_mem_cons] at hcs
  refine ⟨h.index, ?_, fun {n} hn => ?_, h.dispatching, h.created⟩
  · rintro _ _ ⟨⟩
    exact ⟨hevent, hcs.2⟩
  · rw [FeedbackLoop.offered] at hn
    simp only at hn
    split at hn
    · rcases mem_send hn with hn | rfl
      · exact h.notifications hn
      · exact ⟨hevent, hcs.1⟩
    · exact h.notifications hn

theorem Sourced.step (h : s.Sourced) (hs : Step opts s s') : s'.Sourced := by
  cases hs with
  | tick | cleanSeenPairs | cleanDedupe => exact ⟨h.index, h.handling, h.notifications, h.dispatching, h.created⟩
  | mutate m => exact h.mutated m
  | external event allowed order hnone =>
      refine ⟨h.index, ?_, fun hn => ?_, fun hd => ?_, fun hc => ?_⟩
      · rintro _ _ ⟨⟩
        exact ⟨List.mem_cons_self, h.ordered⟩
      · exact ⟨List.mem_cons_of_mem _ (h.notifications hn).1, (h.notifications hn).2⟩
      · exact ⟨List.mem_cons_of_mem _ (h.dispatching hd).1, (h.dispatching hd).2⟩
      · exact ⟨List.mem_cons_of_mem _ (h.created hc).1, (h.created hc).2⟩
  | feedback hc uid allowed order hnone =>
      refine { h with handling := ?_ }
      rintro _ _ ⟨⟩
      exact ⟨(h.created hc).1, h.ordered⟩
  | offer hh => exact h.offered hh
  | finish => exact { h with handling := fun hnone => by cases hnone }
  | receive hd hn =>
      have hmem {m : CorrelatedNotification} (hm : m ∈ s.notifications) := h.notifications hm
      rw [hn] at hmem
      refine { h with dispatching := ?_, notifications := fun hm => hmem (List.mem_cons_of_mem _ hm) }
      rintro _ ⟨⟩
      exact hmem List.mem_cons_self
  | drop => exact { h with dispatching := fun hd => by cases hd }
  | mark hd =>
      refine { h with dispatching := fun {m} hm => ?_ }
      rw [marked] at hm
      split at hm
      · exact h.dispatching (hd ▸ hm)
      · cases hm
  | create hd now observedAt =>
      have hknown := h.dispatching (congrArg Dispatching.carried hd)
      refine { h with dispatching := fun hd => (by cases hd), created := fun hc => ?_ }
      rcases List.mem_cons.mp hc with rfl | hc
      · exact hknown
      · exact h.created hc

end Origin

section Decisions

def decisions (s : FeedbackLoop) : List (Answer Dispatcher.DedupeKey) :=
  s.dispatching.decision ++ s.created.map (fun c => ⟨c.key, c.decidedAt, true⟩)

structure Decided (opts : DispatcherOptions) (s : FeedbackLoop) : Prop where
  tracks : Tracks (Dispatcher.dedupe opts) s.dedupe s.clock
  spaced : (Dispatcher.dedupe opts).Spaced s.dedupe.log
  logged : s.decisions.Sublist s.dedupe.log

variable [Unicode] [UpperCase] {opts : DispatcherOptions} {s s' : FeedbackLoop}

theorem Decided.step (h : s.Decided opts) (hs : Step opts s s') : s'.Decided opts := by
  cases hs with
  | tick hle => exact ⟨h.tracks.later hle, h.spaced, h.logged⟩
  | mutate | external | feedback | offer | finish | cleanSeenPairs => exact ⟨h.tracks, h.spaced, h.logged⟩
  | receive hd =>
      refine ⟨h.tracks, h.spaced, ?_⟩
      have hlogged := h.logged
      rw [decisions, hd] at hlogged
      exact hlogged
  | drop => exact ⟨h.tracks, h.spaced, (List.sublist_append_right _ _).trans h.logged⟩
  | mark hd =>
      have hlogged := h.logged
      rw [decisions, hd] at hlogged
      refine ⟨h.tracks.call (le_refl _) _, h.spaced.call h.tracks (le_refl _) _, ?_⟩
      rw [decisions, marked, Run.call]
      dsimp only
      split
      · rename_i hok
        rw [Dispatcher.tryMarkSeen] at hok
        rw [hok]
        exact hlogged.cons_cons _
      · exact hlogged.cons _
  | create hd now observedAt =>
      refine ⟨h.tracks, h.spaced, ?_⟩
      have hlogged := h.logged
      rw [decisions, hd] at hlogged
      exact hlogged
  | cleanDedupe => exact ⟨h.tracks.sweep (le_refl _), h.spaced, h.logged⟩

theorem sourced_decided (h : (runs opts).Reachable s) : s.Sourced ∧ s.Decided opts := by
  refine System.Reaches.invariant (I := fun s => s.Sourced ∧ s.Decided opts) ?_ ?_ h
  · rintro _ ⟨clock, rfl⟩
    refine ⟨⟨?_, ?_, ?_, ?_, ?_⟩, .start clock, .nil, .refl _⟩
    · simp
    · simp
    · simp
    · simp [Dispatching.carried]
    · simp
  · intro s l s' hinv _ hnext
    have hs := step_of_next hnext
    exact ⟨hinv.1.step hs, hinv.2.step hs⟩

omit [Unicode] [UpperCase] in
theorem Decided.created_spaced (h : s.Decided opts) : s.created.Pairwise (fun last first =>
    last.key = first.key → first.decidedAt + Dispatcher.window opts ≤ last.decidedAt) := by
  have hpairs := List.pairwise_map.mp ((h.spaced.sublist h.logged).sublist (List.sublist_append_right _ _))
  exact hpairs.imp fun hpair hkey => hpair hkey rfl rfl

/-- The Events decided on in a period. -/
def decidedIn (s : FeedbackLoop) (start stop : Int) : List Created :=
  s.created.filter (fun c => decide (start ≤ c.decidedAt ∧ c.decidedAt ≤ stop))

/-- Among the Events decided on in a period shorter than the window no two are for
one constraint and one object. Every Event is about an object of an external one, so
there are at most as many as constraints times external objects. -/
theorem feedback_bounded (h : (runs opts).Reachable s) {start stop : Int}
    (hperiod : stop - start < Dispatcher.window opts) :
    ((s.decidedIn start stop).map (fun c => (c.constraintUID, c.involved.ns, c.involved.name))).Nodup ∧
      (∀ c ∈ s.created, c.involved ∈ s.external) ∧
      (s.decidedIn start stop).length ≤ s.indexed.toFinset.card * s.external.toFinset.card := by
  obtain ⟨hsourced, hdecided⟩ := sourced_decided h
  have hnodup : ((s.decidedIn start stop).map
      (fun c => (c.constraintUID, c.involved.ns, c.involved.name))).Nodup := by
    refine List.pairwise_map.mpr
      ((hdecided.created_spaced.filter _).imp_of_mem fun {last first} hlast hfirst hgap => ?_)
    intro heq
    injection heq with huid heq
    injection heq with hns hname
    have hspan := hgap (by rw [Created.key, Created.key, huid, hns, hname])
    have hin := of_decide_eq_true (List.mem_filter.mp hlast).2
    have hin' := of_decide_eq_true (List.mem_filter.mp hfirst).2
    omega
  refine ⟨hnodup, fun c hc => (hsourced.created hc).1, ?_⟩
  have hpairs : ((s.decidedIn start stop).map (fun c => (c.constraintUID, c.involved))).Nodup := by
    refine .of_map (fun p => (p.1, p.2.ns, p.2.name)) ?_
    rwa [List.map_map]
  rw [← List.length_map (fun c : Created => (c.constraintUID, c.involved)), ← List.toFinset_card_of_nodup hpairs,
    ← Finset.card_product]
  refine Finset.card_le_card fun p hp => ?_
  obtain ⟨c, hc, rfl⟩ := List.mem_map.mp (List.mem_toFinset.mp hp)
  have hknown := hsourced.created (List.mem_of_mem_filter hc)
  exact Finset.mem_product.mpr ⟨List.mem_toFinset.mpr hknown.2, List.mem_toFinset.mpr hknown.1⟩

end Decisions

section Sample
attribute [local instance] asciiTables asciiUpperCase

def podEvent : Event where
  uid := "e1"
  ns := "team"
  involvedObject := { kind := "Pod", name := "web", ns := "team" }
  type := "Warning"

def execute (ls : List Move) : Option FeedbackLoop := System.exec (next {}) (fun _ _ => true) { clock := 0 } ls

theorem reachable_execute {ls : List Move} (h : (execute ls).isSome = true) :
    (runs {}).Reachable ((execute ls).get h) :=
  System.Reaches.exec (fun _ _ _ => trivial) (.init ⟨0, rfl⟩) (Option.some_get h).symm

def firstRound : List Move :=
  [.mutate (.upsert (paymentsPolicy "deny-all")), .external podEvent true [0], .offer, .finish, .receive, .mark]

def notified : FeedbackLoop :=
  (execute (firstRound ++ [.create "t" "t", .tick (30 * Dispatcher.minute), .feedback 0 "e2" true [0], .offer,
    .finish, .receive, .mark])).get (by decide)

theorem feedback_bounded_notified : notified.dedupe.log.length = 2 ∧
    (notified.decidedIn 0 (30 * Dispatcher.minute)).length = 1 ∧
    (notified.decidedIn 0 (30 * Dispatcher.minute)).length ≤
      notified.indexed.toFinset.card * notified.external.toFinset.card :=
  ⟨by decide, by decide, (feedback_bounded (reachable_execute (by decide))
    (show 30 * Dispatcher.minute - 0 < Dispatcher.window {} by decide)).2.2⟩

def notifiedTwice : FeedbackLoop :=
  (execute (firstRound ++ [.tick 1000000000, .create "t" "t", .tick (60 * Dispatcher.minute),
    .feedback 0 "e2" true [0], .offer, .finish, .receive, .mark, .create "t" "t"])).get (by decide)

theorem two_events_within_window : (runs {}).Reachable notifiedTwice ∧
    60 * Dispatcher.minute - 1000000000 < Dispatcher.window {} ∧
    ¬ ((notifiedTwice.created.filter (fun c =>
        decide (1000000000 ≤ c.createdAt ∧ c.createdAt ≤ 60 * Dispatcher.minute))).map
      (fun c => (c.constraintUID, c.involved.ns, c.involved.name))).Nodup :=
  ⟨reachable_execute _, by decide, by decide⟩

end Sample

end FeedbackLoop

end Nightjar
