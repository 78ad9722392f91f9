import Nightjar.FeedbackLoop
import Nightjar.Lib.Noninterference

namespace Nightjar

open Lib Lib.Strings Notifier Dedupe

/-- The constraint itself, or one hidden from the viewer that differs from it in its name, and in its
namespace as far as the same namespaces are affected, and whose Events do not show the difference. -/
def Renamed (viewer : String) (c c' : Constraint) : Prop :=
  c' = c ∨ Variant viewer c c' ∧ EventBuilder.SummarySilent c ∧ ∀ ns, matchesNamespace c' ns = matchesNamespace c ns

def Event.Alike (event event' : Event) : Prop := event'.uid = event.uid ∧ event'.involvedObject = event.involvedObject

def CorrelatedNotification.Alike (viewer : String) (n n' : CorrelatedNotification) : Prop :=
  n'.involved = n.involved ∧ Renamed viewer n.constraint n'.constraint

inductive Dispatching.Alike (viewer : String) : Dispatching → Dispatching → Prop
  | idle : Alike viewer .idle .idle
  | received {n n' : CorrelatedNotification} (h : n.Alike viewer n') : Alike viewer (.received n) (.received n')
  | marked {n n' : CorrelatedNotification} (h : n.Alike viewer n') (decidedAt : Int) :
      Alike viewer (.marked n decidedAt) (.marked n' decidedAt)

/-- Two Events for one object and one constraint, of the same times, and in the namespace of the viewer
two Events that are the same. -/
structure Created.Alike (viewer : String) (c c' : Created) : Prop where
  object : c'.event.involvedObject = c.event.involvedObject
  constraintUID : c'.constraintUID = c.constraintUID
  decidedAt : c'.decidedAt = c.decidedAt
  createdAt : c'.createdAt = c.createdAt
  same : c.involved.ns = viewer → c' = c

section Renamed
variable {viewer : String} {c c' : Constraint}

theorem Renamed.uid_eq (h : Renamed viewer c c') : c'.uid = c.uid := by
  rcases h with rfl | ⟨hv, -⟩
  · rfl
  · exact hv.uid_eq

theorem Renamed.source_eq (h : Renamed viewer c c') : c'.source = c.source := by
  rcases h with rfl | ⟨⟨⟩, -⟩ <;> rfl

theorem Renamed.matchesNamespace_eq (h : Renamed viewer c c') (ns : String) :
    matchesNamespace c' ns = matchesNamespace c ns := by
  rcases h with rfl | ⟨-, -, hmatch⟩
  · rfl
  · exact hmatch ns

end Renamed

namespace FeedbackLoop

/-- Two moves that differ at most in the name of a hidden constraint that is indexed. -/
inductive Move.Alike (viewer : String) : Move → Move → Prop
  | same (l : Move) : Alike viewer l l
  | upsert {c c' : Constraint} (h : Renamed viewer c c') : Alike viewer (.mutate (.upsert c)) (.mutate (.upsert c'))

structure Alike (viewer : String) (s s' : FeedbackLoop) : Prop where
  clock : s'.clock = s.clock
  index : s.index.byUID.Related (Renamed viewer) s'.index.byUID
  seenPairs : s'.seenPairs = s.seenPairs
  handling : Option.Rel (fun p p' => p.1.Alike p'.1 ∧ List.Forall₂ (Renamed viewer) p.2 p'.2) s.handling s'.handling
  notifications : List.Forall₂ (CorrelatedNotification.Alike viewer) s.notifications s'.notifications
  dedupe : s'.dedupe = s.dedupe
  dispatching : s.dispatching.Alike viewer s'.dispatching
  created : List.Forall₂ (Created.Alike viewer) s.created s'.created

section Index
variable {viewer : String} {idx idx' : Indexer}

theorem related_delete (h : idx.byUID.Related (Renamed viewer) idx'.byUID) (uid : UID) :
    (idx.delete uid).1.byUID.Related (Renamed viewer) (idx'.delete uid).1.byUID := by
  have hfound := h.isSome_lookup uid
  rw [Indexer.delete, Indexer.delete]
  cases hl : idx.byUID.lookup uid <;> cases hl' : idx'.byUID.lookup uid <;> rw [hl, hl'] at hfound
  · exact h
  · cases hfound
  · cases hfound
  · exact h.delete uid

theorem related_deleteBySource (h : idx.byUID.Related (Renamed viewer) idx'.byUID) (gvr : GVR) :
    (idx.deleteBySource gvr).1.byUID.Related (Renamed viewer) (idx'.deleteBySource gvr).1.byUID := by
  have hdeleted : List.Forall₂ (Renamed viewer) (idx.bySourceGVR gvr) (idx'.bySourceGVR gvr) :=
    List.rel_filter (fun c c' hc => by simp only [hc.source_eq]) h.values
  have huids : (idx'.bySourceGVR gvr).map Constraint.uid = (idx.bySourceGVR gvr).map Constraint.uid :=
    map_eq_of_forall₂ (fun _ _ hc => hc.uid_eq) hdeleted
  rw [Indexer.deleteBySource, Indexer.deleteBySource, huids]
  exact h.deleteAll _

theorem forall₂_candidates (h : idx.byUID.Related (Renamed viewer) idx'.byUID) {event event' : Event}
    (he : event.Alike event') (allowed : Bool) :
    List.Forall₂ (Renamed viewer) (Correlator.candidates allowed idx event)
      (Correlator.candidates allowed idx' event') := by
  rw [Correlator.candidates, Correlator.candidates, he.2]
  split
  · exact .nil
  · exact List.rel_filter (fun c c' hc => by simp only [hc.matchesNamespace_eq]) h.values

end Index

section Moves
variable {viewer : String} {s s' t : FeedbackLoop}

theorem Alike.start (viewer : String) (clock : Int) : Alike viewer { clock := clock } { clock := clock } :=
  ⟨rfl, .nil, rfl, .none, .nil, rfl, .idle, .nil⟩

theorem Alike.handling_some (h : Alike viewer s s') {event : Event} {cs : List Constraint}
    (hs : s.handling = some (event, cs)) :
    ∃ event' cs', s'.handling = some (event', cs') ∧ event.Alike event' ∧ List.Forall₂ (Renamed viewer) cs cs' := by
  have hrel := h.handling
  rw [hs] at hrel
  generalize s'.handling = handling' at hrel
  cases hrel with
  | @some _ p' hp => exact ⟨p'.1, p'.2, rfl, hp⟩

theorem Alike.handling_none (h : Alike viewer s s') (hs : s.handling = none) : s'.handling = none := by
  have hrel := h.handling
  rw [hs] at hrel
  generalize s'.handling = handling' at hrel
  cases hrel
  rfl

theorem Alike.dispatching_received (h : Alike viewer s s') {n : CorrelatedNotification}
    (hs : s.dispatching = .received n) : ∃ n', s'.dispatching = .received n' ∧ n.Alike viewer n' := by
  have hrel := h.dispatching
  rw [hs] at hrel
  generalize s'.dispatching = dispatching' at hrel
  cases hrel with
  | received hn => exact ⟨_, rfl, hn⟩

theorem Alike.dispatching_marked (h : Alike viewer s s') {n : CorrelatedNotification} {decidedAt : Int}
    (hs : s.dispatching = .marked n decidedAt) : ∃ n', s'.dispatching = .marked n' decidedAt ∧ n.Alike viewer n' := by
  have hrel := h.dispatching
  rw [hs] at hrel
  generalize s'.dispatching = dispatching' at hrel
  cases hrel with
  | marked hn => exact ⟨_, rfl, hn⟩

theorem Alike.dispatching_idle (h : Alike viewer s s') (hs : s.dispatching = .idle) : s'.dispatching = .idle := by
  have hrel := h.dispatching
  rw [hs] at hrel
  generalize s'.dispatching = dispatching' at hrel
  cases hrel
  rfl

theorem Alike.mutated (h : Alike viewer s s') {m m' : Mutation} (hm : Move.Alike viewer (.mutate m) (.mutate m')) :
    Alike viewer (s.mutated m) (s'.mutated m') := by
  refine { h with index := ?_ }
  cases hm with
  | same =>
      cases m with
      | upsert c => exact h.index.upsert rfl (.inl rfl)
      | delete uid => exact related_delete h.index uid
      | deleteBySource gvr => exact related_deleteBySource h.index gvr
  | upsert hc => exact h.index.upsert (hc.uid_eq) hc

theorem Alike.ordered (h : Alike viewer s s') {event event' : Event} (he : event.Alike event') (allowed : Bool)
    (order : List Nat) :
    List.Forall₂ (Renamed viewer) (s.ordered event allowed order) (s'.ordered event' allowed order) := by
  have hcandidates := forall₂_candidates h.index he allowed
  apply List.rel_filterMap (R := Eq) ?_ (List.forall₂_refl order)
  rintro i _ rfl
  exact rel_getElem? hcandidates i

/-- The same order is one of the candidates of both. -/
theorem Alike.handle (h : Alike viewer s s') {event event' : Event} (he : event.Alike event') {allowed : Bool}
    {order : List Nat} (ht : s.handle event allowed order = some t) :
    ∃ t', s'.handle event' allowed order = some t' ∧ Alike viewer t t' := by
  have hcount := (forall₂_candidates h.index he allowed).length_eq
  have hordered := h.ordered he allowed order
  rw [FeedbackLoop.handle] at ht
  split at ht
  · cases ht
  · rename_i hnone
    split at ht
    · rename_i hperm
      cases ht
      rw [hcount] at hperm
      refine ⟨{ s' with handling := some (event', s'.ordered event' allowed order) }, ?_, { h with handling := ?_ }⟩
      · rw [FeedbackLoop.handle, h.handling_none hnone, if_pos hperm]
      · exact .some ⟨he, hordered⟩
    · cases ht

theorem Alike.offered (h : Alike viewer s s') {event event' : Event} (he : event.Alike event') {c c' : Constraint}
    (hc : Renamed viewer c c') {rest rest' : List Constraint} (hrest : List.Forall₂ (Renamed viewer) rest rest') :
    Alike viewer (s.offered event c rest) (s'.offered event' c' rest') := by
  have hkey : Correlator.key event' c' = Correlator.key event c := by
    rw [Correlator.key, Correlator.key, he.1, hc.uid_eq]
  have hn : (Correlator.notification event c).Alike viewer (Correlator.notification event' c') := by
    refine ⟨?_, hc⟩
    simp only [CorrelatedNotification.involved, Correlator.notification, he.2]
  rw [FeedbackLoop.offered, FeedbackLoop.offered, hkey, h.seenPairs, h.clock]
  refine { h with clock := rfl, seenPairs := rfl, handling := .some ⟨he, hrest⟩, notifications := ?_ }
  dsimp only
  split
  · rw [Correlator.send, Correlator.send, h.notifications.length_eq]
    split
    · exact List.rel_append h.notifications (.cons hn .nil)
    · exact h.notifications
  · exact h.notifications

variable {opts : DispatcherOptions}

theorem key_eq {n n' : CorrelatedNotification} (h : n.Alike viewer n') : Dispatcher.key n' = Dispatcher.key n := by
  obtain ⟨hinvolved, hc⟩ := h
  injection hinvolved with _ hns hname
  rw [Dispatcher.key, Dispatcher.key, hc.uid_eq, hns, hname]

theorem Alike.marked (h : Alike viewer s s') {n n' : CorrelatedNotification} (hn : n.Alike viewer n') :
    Alike viewer (s.marked opts n) (s'.marked opts n') := by
  rw [FeedbackLoop.marked, FeedbackLoop.marked, key_eq hn, h.dedupe, h.clock]
  refine { h with clock := rfl, dedupe := rfl, dispatching := ?_ }
  dsimp only
  split
  · exact .marked hn _
  · exact .idle

variable [Unicode] [UpperCase]

theorem createEvent_eq {n n' : CorrelatedNotification} (hn : n.Alike viewer n') (hns : n.ns = viewer)
    (now observedAt : String) : Dispatcher.createEvent opts n' now observedAt =
      Dispatcher.createEvent opts n now observedAt := by
  obtain ⟨hinvolved, hc⟩ := hn
  injection hinvolved with hkind hns' hname
  rw [Dispatcher.createEvent, Dispatcher.createEvent, hkind, hns', hname]
  rcases hc with hc | ⟨hv, hsilent, -⟩
  · rw [hc]
  · rw [← hns] at hv
    exact Dispatcher.eventFor_variant opts hv hsilent now observedAt

theorem Alike.creation (h : Alike viewer s s') {n n' : CorrelatedNotification} (hn : n.Alike viewer n')
    (decidedAt : Int) (now observedAt : String) :
    (s.creation opts n decidedAt now observedAt).Alike viewer (s'.creation opts n' decidedAt now observedAt) := by
  have huid := hn.2.uid_eq
  refine ⟨?_, huid, rfl, h.clock, fun hns => ?_⟩
  · injection hn.1 with hkind hns hname
    rw [FeedbackLoop.creation, FeedbackLoop.creation, Dispatcher.createEvent, Dispatcher.createEvent, hkind, hns, hname]
    rfl
  · rw [FeedbackLoop.creation, FeedbackLoop.creation, createEvent_eq hn hns, huid, h.clock]

theorem Alike.next (h : Alike viewer s s') {l l' : Move} (hl : Move.Alike viewer l l') (ht : s.next opts l = some t) :
    ∃ t', s'.next opts l' = some t' ∧ Alike viewer t t' := by
  obtain l | hc := hl
  · cases l with
    | tick now =>
        rw [FeedbackLoop.next] at ht
        split at ht
        · rename_i hle
          cases ht
          rw [← h.clock] at hle
          exact ⟨{ s' with clock := now }, if_pos hle, { h with clock := rfl }⟩
        · cases ht
    | mutate m =>
        cases ht
        exact ⟨_, rfl, h.mutated (.same _)⟩
    | external event allowed order =>
        have hexternal : Alike viewer { s with external := event.involvedObject.involved :: s.external }
            { s' with external := event.involvedObject.involved :: s'.external } := { h with }
        exact hexternal.handle ⟨rfl, rfl⟩ ht
    | feedback i uid allowed order =>
        obtain ⟨c, hc, hhandle⟩ := Option.bind_eq_some_iff.mp ht
        have hrel := rel_getElem? h.created i
        rw [hc] at hrel
        rw [FeedbackLoop.next]
        generalize s'.created[i]? = created' at hrel
        cases hrel with
        | @some _ c' hcreated =>
            have he : Event.Alike { c.event with uid := uid } { c'.event with uid := uid } := ⟨rfl, hcreated.object⟩
            exact h.handle he hhandle
    | offer =>
        rw [FeedbackLoop.next] at ht
        split at ht
        · rename_i hs
          cases ht
          obtain ⟨event', cs', hs', he, hcs⟩ := h.handling_some hs
          cases hcs with
          | cons hc hrest =>
              refine ⟨_, ?_, h.offered he hc hrest⟩
              rw [FeedbackLoop.next, hs']
        · cases ht
    | finish =>
        rw [FeedbackLoop.next] at ht
        split at ht
        · rename_i hs
          cases ht
          obtain ⟨event', cs', hs', -, hcs⟩ := h.handling_some hs
          cases hcs
          refine ⟨{ s' with handling := none }, ?_, { h with handling := .none }⟩
          rw [FeedbackLoop.next, hs']
        · cases ht
    | receive =>
        rw [FeedbackLoop.next] at ht
        split at ht
        · rename_i hidle hn
          cases ht
          have hrel := h.notifications
          rw [hn] at hrel
          obtain ⟨n', rest', hn', hrest, hs'⟩ := List.forall₂_cons_left_iff.mp hrel
          refine ⟨{ s' with dispatching := .received n', notifications := rest' }, ?_,
            { h with dispatching := .received hn', notifications := hrest }⟩
          rw [FeedbackLoop.next, h.dispatching_idle hidle, hs']
        · cases ht
    | limit =>
        rw [FeedbackLoop.next] at ht
        split at ht
        · rename_i hs
          cases ht
          obtain ⟨n', hs', -⟩ := h.dispatching_received hs
          refine ⟨{ s' with dispatching := .idle }, ?_, { h with dispatching := .idle }⟩
          rw [FeedbackLoop.next, hs']
        · cases ht
    | mark =>
        rw [FeedbackLoop.next] at ht
        split at ht
        · rename_i hs
          cases ht
          obtain ⟨n', hs', hn⟩ := h.dispatching_received hs
          refine ⟨_, ?_, h.marked hn⟩
          rw [FeedbackLoop.next, hs']
        · cases ht
    | create now observedAt =>
        rw [FeedbackLoop.next] at ht
        split at ht
        · rename_i hs
          cases ht
          obtain ⟨n', hs', hn⟩ := h.dispatching_marked hs
          refine ⟨{ s' with created := s'.creation opts n' _ now observedAt :: s'.created, dispatching := .idle }, ?_,
            { h with dispatching := .idle, created := .cons (h.creation hn _ now observedAt) h.created }⟩
          rw [FeedbackLoop.next, hs']
        · cases ht
    | fail =>
        rw [FeedbackLoop.next] at ht
        split at ht
        · rename_i hs
          cases ht
          obtain ⟨n', hs', -⟩ := h.dispatching_marked hs
          refine ⟨{ s' with dispatching := .idle }, ?_, { h with dispatching := .idle }⟩
          rw [FeedbackLoop.next, hs']
        · cases ht
    | cleanSeenPairs =>
        cases ht
        refine ⟨_, rfl, { h with seenPairs := ?_ }⟩
        rw [h.seenPairs, h.clock]
    | cleanDedupe =>
        cases ht
        refine ⟨_, rfl, { h with dedupe := ?_ }⟩
        rw [h.dedupe, h.clock]
  · cases ht
    exact ⟨_, rfl, h.mutated (.upsert hc)⟩

end Moves

section Runs

/-- The Events that are created in a namespace. -/
def shownIn (viewer : String) (s : FeedbackLoop) : List Created :=
  s.created.filter (fun c => decide (c.involved.ns = viewer))

variable {viewer : String} {s s' : FeedbackLoop}

theorem involved_eq {c c' : Created} (h : c.Alike viewer c') : c'.involved = c.involved := by
  rw [Created.involved, Created.involved, h.object]

theorem Alike.shownIn_eq (h : Alike viewer s s') : s'.shownIn viewer = s.shownIn viewer := by
  have hcreated := h.created
  rw [shownIn, shownIn]
  generalize s.created = cs, s'.created = cs' at hcreated
  induction hcreated with
  | nil => rfl
  | @cons c c' _ _ hc _ ih =>
      rw [List.filter_cons, List.filter_cons, involved_eq hc, ih]
      split
      · rename_i hns
        rw [hc.same (of_decide_eq_true hns)]
      · rfl

variable [Unicode] [UpperCase] {opts : DispatcherOptions}

/-- Privacy of the whole loop, over two runs: when the constraints hidden from a namespace are given other
names, the same moves are possible, and lead to the same Events in that namespace, of the same text and at
the same times, also where one Event leads to the next. Elsewhere the Events are for the same objects and
constraints. -/
theorem names_unobserved {clock : Int} {ls ls' : List Move}
    (h : (runs opts).Trace (fun _ _ => True) { clock := clock } ls s) (hls : List.Forall₂ (Move.Alike viewer) ls ls') :
    ∃ s', (runs opts).Trace (fun _ _ => True) { clock := clock } ls' s' ∧ s'.shownIn viewer = s.shownIn viewer ∧
      s'.created.map (fun c => (c.constraintUID, c.involved, c.decidedAt, c.createdAt)) =
        s.created.map (fun c => (c.constraintUID, c.involved, c.decidedAt, c.createdAt)) := by
  obtain ⟨s', hs', halike⟩ := h.simulate (R := Alike viewer) (U := runs opts)
    (fun hst hl hstep => hst.next hl hstep) (.start viewer clock) hls
  refine ⟨s', hs', halike.shownIn_eq, map_eq_of_forall₂ (fun c c' hc => ?_) halike.created⟩
  rw [hc.constraintUID, involved_eq hc, hc.decidedAt, hc.createdAt]

end Runs

section Sample
attribute [local instance] asciiTables asciiUpperCase

def contactPolicy (name : String) : Constraint :=
  { paymentsPolicy name with
    remediation :=
      [{ type := "manual", description := "Ask the owners of the service", requiresPrivilege := "developer" }] }

theorem renamed_contactPolicy (name name' : String) :
    Renamed "team" (contactPolicy name) (contactPolicy name') := by
  have hhidden : "payments" ≠ "" ∧ "payments" ≠ "team" := by decide
  exact .inr ⟨Variant.mk name' "payments" hhidden hhidden, .inl (.inl rfl), fun _ => rfl⟩

def contactRounds (name : String) : List Move :=
  [.mutate (.upsert (contactPolicy name)), .external podEvent true [0], .offer, .finish, .receive, .mark,
    .create "t" "t", .tick (60 * Dispatcher.minute), .feedback 0 "e2" true [0], .offer, .finish, .receive, .mark,
    .create "t" "t"]

theorem alike_contactRounds (name name' : String) :
    List.Forall₂ (Move.Alike "team") (contactRounds name) (contactRounds name') :=
  .cons (.upsert (renamed_contactPolicy name name')) (List.forall₂_same.mpr fun l _ => .same l)

theorem names_unobserved_contactRounds : ∃ s s',
    (runs {}).Trace (fun _ _ => True) { clock := 0 } (contactRounds "deny-all") s ∧
    (runs {}).Trace (fun _ _ => True) { clock := 0 } (contactRounds "allow-dns") s' ∧
    (s'.shownIn "team").length = 2 ∧ s'.shownIn "team" = s.shownIn "team" := by
  have hs : (execute (contactRounds "deny-all")).isSome = true := by decide
  have htwo : (((execute (contactRounds "deny-all")).get hs).shownIn "team").length = 2 := by decide +revert
  have htrace : (runs {}).Trace (fun _ _ => True) { clock := 0 } (contactRounds "deny-all")
      ((execute (contactRounds "deny-all")).get hs) :=
    System.Trace.of_exec (fun _ _ _ => trivial) (Option.some_get hs).symm
  obtain ⟨s', hs', hshown, -⟩ := names_unobserved htrace (alike_contactRounds "deny-all" "allow-dns")
  refine ⟨_, s', htrace, hs', ?_, hshown⟩
  rw [hshown, htwo]

end Sample

end FeedbackLoop

end Nightjar
