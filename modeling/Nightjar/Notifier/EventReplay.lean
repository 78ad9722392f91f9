import Nightjar.Notifier.IndexLog
import Nightjar.Lib.Runs

namespace Nightjar

open Lib

def IndexEvent.stored (ev : IndexEvent) : Option Constraint :=
  match ev.type with
  | .upsert => some ev.constraint
  | .delete => none

/-- A map kept up to date by the change events alone. -/
def IndexEvent.replay (events : List IndexEvent) : KeyedStore Constraint.uid :=
  events.foldl (fun m ev =>
    match ev.type with
    | .upsert => m.upsert ev.constraint
    | .delete => m.delete ev.constraint.uid) .empty

namespace IndexEvent

theorem replay_concat (events : List IndexEvent) (ev : IndexEvent) (uid : UID) :
    (replay (events ++ [ev])).lookup uid =
      if ev.constraint.uid = uid then ev.stored else (replay events).lookup uid := by
  rw [replay, List.foldl_append, List.foldl_cons, List.foldl_nil, ← replay, stored]
  cases ev.type with
  | upsert => exact KeyedStore.lookup_upsert ..
  | delete =>
      dsimp only
      rw [KeyedStore.lookup_delete]
      by_cases huid : ev.constraint.uid = uid
      · rw [if_pos huid, if_pos huid.symm]
      · rw [if_neg huid, if_neg (Ne.symm huid)]

end IndexEvent

/-- The events either have one about the UID, which says what is stored under it after
the mutation, or none, and what is stored stays. -/
def Indexer.Announced (idx : Indexer) (uid : UID) (outcome : Indexer × List IndexEvent) : Prop :=
  (∃ ev ∈ outcome.2, ev.constraint.uid = uid ∧ outcome.1.byUID.lookup uid = ev.stored ∧
    ∀ ev' ∈ outcome.2, ev'.constraint.uid = uid → ev' = ev) ∨
  ((∀ ev ∈ outcome.2, ev.constraint.uid ≠ uid) ∧ outcome.1.byUID.lookup uid = idx.byUID.lookup uid)

namespace Indexer

variable (idx : Indexer) (uid : UID)

theorem announced_singleton {idx' : Indexer} {ev : IndexEvent}
    (h : ∀ uid, idx'.byUID.lookup uid = if ev.constraint.uid = uid then ev.stored else idx.byUID.lookup uid) :
    idx.Announced uid (idx', [ev]) := by
  by_cases huid : ev.constraint.uid = uid
  · refine .inl ⟨ev, List.mem_singleton_self _, huid, ?_, fun ev' hev' _ => List.mem_singleton.mp hev'⟩
    rw [h, if_pos huid]
  · refine .inr ⟨fun ev' hev' => ?_, ?_⟩
    · rw [List.mem_singleton.mp hev']
      exact huid
    · rw [h, if_neg huid]

theorem announced_upsert (c : Constraint) : idx.Announced uid (idx.upsert c) :=
  announced_singleton idx uid (fun _ => KeyedStore.lookup_upsert ..)

theorem announced_delete (u : UID) : idx.Announced uid (idx.delete u) := by
  rw [delete]
  cases hl : idx.byUID.lookup u with
  | none => exact .inr ⟨List.forall_mem_nil _, rfl⟩
  | some c =>
      refine announced_singleton idx uid (fun uid => ?_)
      rw [KeyedStore.lookup_delete, KeyedStore.key_of_lookup hl]
      simp only [eq_comm]
      rfl

theorem mem_events_deleteBySource {gvr : GVR} {ev : IndexEvent} : ev ∈ (idx.deleteBySource gvr).2 ↔
    ev.type = .delete ∧ idx.byUID.lookup ev.constraint.uid = some ev.constraint ∧ ev.constraint.source = gvr := by
  rw [deleteBySource, List.mem_map]
  constructor
  · rintro ⟨c, hc, rfl⟩
    obtain ⟨hc, hsource⟩ := mem_bySourceGVR.mp hc
    exact ⟨rfl, mem_all.mp hc, hsource⟩
  · rintro ⟨htype, hlookup, hsource⟩
    refine ⟨ev.constraint, mem_bySourceGVR.mpr ⟨mem_all.mpr hlookup, hsource⟩, ?_⟩
    rw [← htype]

theorem announced_deleteBySource (gvr : GVR) : idx.Announced uid (idx.deleteBySource gvr) := by
  have habout {ev : IndexEvent} (hev : ev ∈ (idx.deleteBySource gvr).2) (huid : ev.constraint.uid = uid) :
      ev.type = .delete ∧ idx.byUID.lookup uid = some ev.constraint ∧ ev.constraint.source = gvr :=
    huid ▸ (mem_events_deleteBySource idx).mp hev
  have hfilter := filter_deleteBySource idx gvr uid
  by_cases hdeleted : ∃ c, idx.byUID.lookup uid = some c ∧ c.source = gvr
  · obtain ⟨c, hl, hsource⟩ := hdeleted
    have hkey := KeyedStore.key_of_lookup hl
    refine .inl ⟨⟨.delete, c⟩, (mem_events_deleteBySource idx).mpr ⟨rfl, hkey.symm ▸ hl, hsource⟩, hkey, ?_, ?_⟩
    · rw [hfilter, hl]
      simp [hsource, IndexEvent.stored]
    · rintro ⟨type, c'⟩ hev' huid
      obtain ⟨htype, hl', -⟩ := habout hev' huid
      cases htype
      cases hl.symm.trans hl'
      rfl
  · refine .inr ⟨fun ev hev huid => hdeleted ⟨_, (habout hev huid).2⟩, ?_⟩
    rw [hfilter]
    cases hl : idx.byUID.lookup uid with
    | none => rfl
    | some c =>
        have hsource : c.source ≠ gvr := fun hsource => hdeleted ⟨c, hl, hsource⟩
        simp [hsource]

theorem announced_apply (m : Mutation) : idx.Announced uid (idx.apply m) := by
  cases m with
  | upsert c => exact idx.announced_upsert uid c
  | delete u => exact idx.announced_delete uid u
  | deleteBySource gvr => exact idx.announced_deleteBySource uid gvr

end Indexer

namespace Notifier

inductive LogStep where
  | mutate (m : Mutation)
  | deliver (i : Nat)

namespace IndexLog

def next (s : IndexLog) : LogStep → Option IndexLog
  | .mutate m => some (s.mutate m)
  | .deliver i => (s.deliver i).map Prod.snd

/-- The interleavings of mutations and their callbacks, from the empty index. -/
def runs : System IndexLog LogStep := .ofStep (fun s => s = { start := .new }) next

/-- The events in the order in which their callbacks ran. -/
def delivered (s : IndexLog) : List IndexEvent := s.ran.reverse.map Prod.snd

def lastAbout (s : IndexLog) (uid : UID) : Option (Nat × IndexEvent) :=
  s.ran.find? (fun c => decide (c.2.constraint.uid = uid))

def Recorded (s : IndexLog) (c : Nat × IndexEvent) : Prop := c ∈ s.callbacks ∨ c ∈ s.ran

/-- The event comes from the last mutation that touched the UID. -/
structure Latest (s : IndexLog) (uid : UID) (c : Nat × IndexEvent) : Prop where
  recorded : s.Recorded c
  about : c.2.constraint.uid = uid
  stored : s.current.byUID.lookup uid = c.2.stored
  last : ∀ {d}, s.Recorded d → d.2.constraint.uid = uid → d = c ∨ d.1 < c.1

def Accounted (s : IndexLog) (uid : UID) : Prop :=
  (∃ c, s.Latest uid c) ∨
    ((∀ c, s.Recorded c → c.2.constraint.uid ≠ uid) ∧ s.current.byUID.lookup uid = none)

variable {s s' : IndexLog} {uid : UID}

theorem replay_delivered (s : IndexLog) (uid : UID) :
    (IndexEvent.replay s.delivered).lookup uid = (s.lastAbout uid).bind (fun c => c.2.stored) := by
  rw [delivered, lastAbout]
  induction s.ran with
  | nil => rfl
  | cons c ran ih =>
      rw [List.reverse_cons, List.map_append, List.map_singleton, IndexEvent.replay_concat, List.find?_cons]
      by_cases huid : c.2.constraint.uid = uid
      · simp [huid]
      · rw [if_neg huid, ih]
        simp [huid]

theorem current_mutate (m : Mutation) : (s.mutate m).current = (s.current.apply m).1 := by
  rw [current, now_mutate, atTime_succ List.getElem?_concat_length, atTime_mutate (Nat.le_refl _)]
  rfl

theorem recorded_mutate {m : Mutation} {c : Nat × IndexEvent} :
    (s.mutate m).Recorded c ↔ s.Recorded c ∨ c.1 = s.now + 1 ∧ c.2 ∈ (s.current.apply m).2 := by
  have hnew : c ∈ (s.current.apply m).2.map (s.now + 1, ·) ↔ c.1 = s.now + 1 ∧ c.2 ∈ (s.current.apply m).2 := by
    rw [List.mem_map]
    constructor
    · rintro ⟨ev, hev, rfl⟩
      exact ⟨rfl, hev⟩
    · rintro ⟨hn, hev⟩
      exact ⟨c.2, hev, by rw [← hn]⟩
  rw [Recorded, Recorded, mutate, List.mem_append, hnew]
  tauto

theorem recorded_deliver {i : Nat} {event : IndexEvent} (hd : s.deliver i = some (event, s')) {c : Nat × IndexEvent} :
    s'.Recorded c ↔ s.Recorded c := by
  obtain ⟨n, hn, -, -, hcb, hran⟩ := deliver_eq_some hd
  refine ⟨fun hc => ?_, fun hc => mem_deliver hd hc⟩
  rw [Recorded, hcb, hran, List.mem_cons] at hc
  rcases hc with hc | rfl | hc
  · exact .inl (List.mem_of_mem_eraseIdx hc)
  · exact .inl hn
  · exact .inr hc

theorem Accounted.mutate (h : s.Accounted uid) (htracked : s.Tracked) (m : Mutation) : (s.mutate m).Accounted uid := by
  have hle {c : Nat × IndexEvent} (hc : s.Recorded c) : c.1 < s.now + 1 := Nat.lt_succ_of_le (htracked.le_now hc)
  rcases s.current.announced_apply uid m with ⟨ev, hev, huid, hstored, hunique⟩ | ⟨hnone, hsame⟩
  · refine .inl ⟨(s.now + 1, ev), recorded_mutate.mpr (.inr ⟨rfl, hev⟩), huid, ?_, fun {d} hd hduid => ?_⟩
    · rw [current_mutate, hstored]
    · rcases recorded_mutate.mp hd with hd | ⟨hn, hd⟩
      · exact .inr (hle hd)
      · exact .inl (Prod.ext hn (hunique d.2 hd hduid))
  · have hold {d : Nat × IndexEvent} (hd : (s.mutate m).Recorded d) (hduid : d.2.constraint.uid = uid) :
        s.Recorded d := (recorded_mutate.mp hd).resolve_right fun hd => hnone d.2 hd.2 hduid
    rcases h with ⟨c, hc⟩ | ⟨hnever, hempty⟩
    · refine .inl ⟨c, recorded_mutate.mpr (.inl hc.recorded), hc.about, ?_, fun hd hduid => ?_⟩
      · rw [current_mutate, hsame, hc.stored]
      · exact hc.last (hold hd hduid) hduid
    · refine .inr ⟨fun d hd hduid => hnever d (hold hd hduid) hduid, ?_⟩
      rw [current_mutate, hsame, hempty]

theorem Accounted.deliver (h : s.Accounted uid) {i : Nat} {event : IndexEvent} (hd : s.deliver i = some (event, s')) :
    s'.Accounted uid := by
  obtain ⟨-, -, hstart, hlog, -⟩ := deliver_eq_some hd
  have hcurrent : s'.current = s.current := by
    rw [current, current, atTime, atTime, now, now, hstart, hlog]
  rcases h with ⟨c, hc⟩ | ⟨hnever, hempty⟩
  · exact .inl ⟨c, (recorded_deliver hd).mpr hc.recorded, hc.about, hcurrent ▸ hc.stored,
      fun hd' => hc.last ((recorded_deliver hd).mp hd')⟩
  · exact .inr ⟨fun d hd' => hnever d ((recorded_deliver hd).mp hd'), hcurrent ▸ hempty⟩

theorem accounted_of_reachable (h : runs.Reachable s) : s.Tracked ∧ ∀ uid, s.Accounted uid := by
  refine h.invariant (I := fun s => s.Tracked ∧ ∀ uid, s.Accounted uid) ?_ ?_
  · rintro _ rfl
    refine ⟨Fresh.tracked ⟨rfl, rfl, rfl⟩, fun uid => .inr ⟨?_, KeyedStore.lookup_empty uid⟩⟩
    rintro c (hc | hc) <;> cases hc
  · rintro s l s' ⟨htracked, haccounted⟩ - hstep
    cases l with
    | mutate m =>
        cases hstep
        exact ⟨htracked.mutate m, fun uid => (haccounted uid).mutate htracked m⟩
    | deliver i =>
        obtain ⟨⟨event, t⟩, hd, rfl⟩ := Option.map_eq_some_iff.mp hstep
        exact ⟨htracked.deliver hd, fun uid => (haccounted uid).deliver hd⟩

/-- Once all callbacks have run, replaying them yields the index, provided that the one
that ran last about each UID belongs to the last mutation that touched it. -/
theorem replay_eq_index (h : runs.Reachable s) (hdone : s.callbacks = [])
    (hlast : ∀ uid c, s.lastAbout uid = some c → ∀ d ∈ s.ran, d.2.constraint.uid = uid → d.1 ≤ c.1) (uid : UID) :
    (IndexEvent.replay s.delivered).lookup uid = s.current.byUID.lookup uid := by
  have hran {c : Nat × IndexEvent} (hc : s.Recorded c) : c ∈ s.ran := by
    rw [Recorded, hdone] at hc
    exact hc.resolve_left List.not_mem_nil
  rw [replay_delivered]
  rcases (accounted_of_reachable h).2 uid with ⟨c, hc⟩ | ⟨hnever, hempty⟩
  · cases hfound : s.lastAbout uid with
    | none =>
        exact absurd hc.about (by simpa using List.find?_eq_none.mp hfound c (hran hc.recorded))
    | some d =>
        have hd : d ∈ s.ran := List.mem_of_find?_eq_some hfound
        have hduid : d.2.constraint.uid = uid := by simpa using List.find?_some hfound
        have hle := hlast uid d hfound c (hran hc.recorded) hc.about
        rcases hc.last (.inr hd) hduid with rfl | hlt
        · exact hc.stored.symm
        · omega
  · have hnone : s.lastAbout uid = none := by
      rw [lastAbout, List.find?_eq_none]
      intro c hc
      simpa using hnever c (.inr hc)
    rw [hnone, hempty]
    rfl

def contest (order : List Nat) : Option IndexLog :=
  System.exec next (fun _ _ => true) { start := .new }
    ([.mutate (.upsert { sampleConstraint "team" with severity := .warning }),
      .mutate (.upsert (sampleConstraint "team"))] ++ order.map .deliver)

def inOrder : IndexLog := (contest [0, 0]).get (by decide)

def outOfOrder : IndexLog := (contest [1, 0]).get (by decide)

theorem reachable_of_contest {order : List Nat} (h : contest order = some s) : runs.Reachable s :=
  .exec (fun _ _ _ => trivial) (.init rfl) h

theorem reachable_inOrder : runs.Reachable inOrder := reachable_of_contest (Option.some_get _).symm

theorem last_inOrder (uid : UID) (c : Nat × IndexEvent) (hc : inOrder.lastAbout uid = some c) (d : Nat × IndexEvent)
    (hd : d ∈ inOrder.ran) (hduid : d.2.constraint.uid = uid) : d.1 ≤ c.1 := by
  have hran : inOrder.ran = [(2, ⟨.upsert, sampleConstraint "team"⟩),
      (1, ⟨.upsert, { sampleConstraint "team" with severity := .warning }⟩)] := rfl
  rw [hran] at hd
  have huid : uid = "u" := by
    rw [← hduid]
    rcases List.mem_pair.mp hd with rfl | rfl <;> rfl
  rw [huid, lastAbout, hran, List.find?_cons_of_pos (by rfl)] at hc
  cases hc
  rcases List.mem_pair.mp hd with rfl | rfl <;> decide

theorem replay_eq_index_inOrder :
    (IndexEvent.replay inOrder.delivered).lookup "u" = inOrder.current.byUID.lookup "u" :=
  replay_eq_index (reachable_inOrder) rfl last_inOrder "u"

theorem replay_keeps_replaced :
    runs.Reachable outOfOrder ∧ outOfOrder.callbacks = [] ∧
      ((IndexEvent.replay outOfOrder.delivered).lookup "u").map Constraint.severity = some .warning ∧
      (outOfOrder.current.byUID.lookup "u").map Constraint.severity = some .critical :=
  ⟨reachable_of_contest (Option.some_get _).symm, rfl, by decide, by decide⟩

end IndexLog

end Notifier

end Nightjar
