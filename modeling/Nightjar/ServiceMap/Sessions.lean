import Nightjar.Lib.Follower
import Nightjar.Lib.Runs
import Nightjar.ServiceMap.ClusterIPs

namespace Nightjar.ServiceMap

open Lib

/-- The services of the cluster, the map, and what the open watch of Services has yet to
deliver. -/
structure Watched where
  cluster : Table (String × String) Service := ∅
  map : ServiceMap := new
  watch : Option (List ServiceEvent) := none

inductive WatchStep where
  | change (e : ServiceEvent)
  /-- `Watch` is called without a resource version, so it begins with an Added event for
  every service, in any order. -/
  | start (existing : List Service)
  | receive
  /-- The result channel is closed; what it had not delivered is lost. -/
  | close
  | endpoints (e : EndpointsEvent)

namespace Watched

def next (s : Watched) : WatchStep → Option Watched
  | .change e =>
      -- only a service that exists is deleted
      if e.version.isSome ∨ (s.cluster.lookup e.key).isSome then
        some { s with cluster := track s.cluster (.inl e), watch := s.watch.map (· ++ [e]) }
      else none
  | .start existing =>
      if s.watch = none ∧ existing.Perm (s.cluster.entries.map Sigma.snd) then
        some { s with watch := some (existing.map .upsert) }
      else none
  | .receive =>
      match s.watch with
      | some (e :: rest) => some { s with map := s.map.onService e, watch := some rest }
      | some [] | none => none
  | .close =>
      match s.watch with
      | some _ => some { s with watch := none }
      | none => none
  | .endpoints e => some { s with map := s.map.onEndpoints e }

def runs : System Watched WatchStep := .ofStep (· = {}) next

/-- A watch starts only when every tracked service still exists. -/
def StillExist (s : Watched) : WatchStep → Prop
  | .start _ => ∀ o entry, s.map.services.lookup o = some entry → (s.cluster.lookup o).isSome
  | .change _ | .receive | .close | .endpoints _ => True

def TrackedExist (s : Watched) : Prop := ∀ o, (s.map.services.lookup o).isSome ↔ (s.cluster.lookup o).isSome

def view (s : Watched) : Follower (String × String) ServiceEntry where
  source o := (s.cluster.lookup o).map Service.entry
  copy := s.map.services.lookup
  pending := s.watch.map (fun es => es.map (fun e => (e.key, e.version.map Service.entry)))

def Keyed (s : Watched) : Prop := ∀ o svc, s.cluster.lookup o = some svc → (svc.ns, svc.name) = o

theorem services_onService (sm : ServiceMap) (e : ServiceEvent) :
    (sm.onService e).services.lookup = Follower.put sm.services.lookup (e.key, e.version.map Service.entry) := by
  funext o
  rw [Follower.put, Function.update_apply]
  cases e with
  | upsert svc =>
      rw [onService, services_upsertService]
      exact Table.lookup_insert _ _ _ _
  | delete ns name =>
      rw [onService, services_deleteService]
      exact Table.lookup_erase _ _ _

theorem entries_track (t : Table (String × String) Service) (e : ServiceEvent) :
    (fun o => ((track t (.inl e)).lookup o).map Service.entry) =
      Follower.put (fun o => (t.lookup o).map Service.entry) (e.key, e.version.map Service.entry) := by
  funext o
  rw [Follower.put, Function.update_apply, lookup_track]
  split <;> rfl

variable {s s' : Watched}

theorem Keyed.lists (hk : s.Keyed) {existing : List Service} (h : existing.Perm (s.cluster.entries.map Sigma.snd)) :
    Follower.Lists s.view.source (existing.map (fun svc => ((svc.ns, svc.name), svc.entry))) := by
  have hmem (svc : Service) : svc ∈ existing ↔ ∃ o, s.cluster.lookup o = some svc := by
    rw [h.mem_iff, List.mem_map]
    constructor
    · rintro ⟨e, he, rfl⟩
      exact ⟨e.1, AList.mem_lookup_iff.mpr he⟩
    · rintro ⟨o, ho⟩
      exact ⟨⟨o, svc⟩, AList.mem_lookup_iff.mp ho, rfl⟩
  intro o entry
  rw [List.mem_map]
  constructor
  · rintro ⟨svc, hsvc, he⟩
    obtain ⟨rfl, rfl⟩ := Prod.mk.inj he
    obtain ⟨o, ho⟩ := (hmem svc).mp hsvc
    rw [hk o svc ho]
    exact Option.map_eq_some_iff.mpr ⟨svc, ho, rfl⟩
  · intro ho
    obtain ⟨svc, hsvc, rfl⟩ := Option.map_eq_some_iff.mp ho
    exact ⟨svc, (hmem svc).mpr ⟨o, hsvc⟩, by rw [hk o svc hsvc]⟩

theorem next_cases {l : WatchStep} (h : next s l = some s') :
    (∃ e, l = .change e ∧ s' = { s with cluster := track s.cluster (.inl e), watch := s.watch.map (· ++ [e]) }) ∨
    (∃ existing, l = .start existing ∧ s.watch = none ∧ existing.Perm (s.cluster.entries.map Sigma.snd) ∧
      s' = { s with watch := some (existing.map .upsert) }) ∨
    (∃ e rest, l = .receive ∧ s.watch = some (e :: rest) ∧
      s' = { s with map := s.map.onService e, watch := some rest }) ∨
    (∃ rest, l = .close ∧ s.watch = some rest ∧ s' = { s with watch := none }) ∨
    ∃ e, l = .endpoints e ∧ s' = { s with map := s.map.onEndpoints e } := by
  cases l with
  | change e =>
      rw [next] at h
      split at h
      · exact .inl ⟨e, rfl, (Option.some.inj h).symm⟩
      · cases h
  | start existing =>
      rw [next] at h
      split at h
      · rename_i hc
        exact .inr (.inl ⟨existing, rfl, hc.1, hc.2, (Option.some.inj h).symm⟩)
      · cases h
  | receive =>
      rw [next] at h
      split at h
      · rename_i e rest hw
        exact .inr (.inr (.inl ⟨e, rest, rfl, hw, (Option.some.inj h).symm⟩))
      · cases h
      · cases h
  | close =>
      rw [next] at h
      split at h
      · rename_i rest hw
        exact .inr (.inr (.inr (.inl ⟨rest, rfl, hw, (Option.some.inj h).symm⟩)))
      · cases h
  | endpoints e => exact .inr (.inr (.inr (.inr ⟨e, rfl, (Option.some.inj h).symm⟩)))

theorem Keyed.step (hk : s.Keyed) {l : WatchStep} (h : next s l = some s') : s'.Keyed := by
  obtain ⟨e, -, rfl⟩ | ⟨_, -, -, -, rfl⟩ | ⟨_, _, -, -, rfl⟩ | ⟨_, -, -, rfl⟩ | ⟨_, -, rfl⟩ := next_cases h
  · intro o svc hsvc
    rw [lookup_track] at hsvc
    split at hsvc
    · cases e with
      | upsert svc' =>
          cases hsvc
          exact Eq.symm ‹_›
      | delete ns name => cases hsvc
    · exact hk o svc hsvc
  all_goals exact hk

theorem step_view (hk : s.Keyed) {l : WatchStep} (hg : s.StillExist l) (h : next s l = some s') :
    (∃ a, s.view.NoneGone a ∧ Follower.Step s.view a s'.view) ∨ s'.view = s.view := by
  obtain ⟨e, -, rfl⟩ | ⟨existing, rfl, hw, hperm, rfl⟩ | ⟨e, rest, -, hw, rfl⟩ | ⟨rest, -, hw, rfl⟩ | ⟨e, -, rfl⟩ :=
    next_cases h
  · refine .inl ⟨.change e.key (e.version.map Service.entry), trivial, ?_⟩
    have hstep := Follower.Step.change s.view e.key (e.version.map Service.entry)
    convert hstep using 1
    rw [view, entries_track]
    cases hw : s.watch <;> simp [view, hw]
  · refine .inl ⟨.start (existing.map (fun svc => ((svc.ns, svc.name), svc.entry))), ?_, ?_⟩
    · intro o ho
      obtain ⟨entry, hentry⟩ := Option.isSome_iff_exists.mp ho
      exact Option.isSome_map.trans (hg o entry hentry)
    · have hstep := Follower.Step.start s.view _ (by rw [view, hw]; rfl) (hk.lists hperm)
      convert hstep using 1
      simp [view, ServiceEvent.key, ServiceEvent.version]
  · have hstep := Follower.Step.deliver s.view (e.key, e.version.map Service.entry)
      (rest.map (fun e => (e.key, e.version.map Service.entry))) (by rw [view, hw]; rfl)
    refine .inl ⟨.deliver, trivial, ?_⟩
    convert hstep using 1
    rw [view, services_onService]
    rfl
  · have hstep := Follower.Step.stop s.view (rest.map (fun e => (e.key, e.version.map Service.entry)))
      (by rw [view, hw]; rfl)
    exact .inl ⟨.stop, trivial, hstep⟩
  · refine .inr ?_
    rw [view, services_onEndpoints]
    rfl

/-- In every run whose watches start when every tracked service still exists, the services
that are tracked once a watch has delivered all there is are those that exist. -/
theorem tracked_of_still_exist (h : System.Reaches runs StillExist s) (hdone : s.watch = some []) : s.TrackedExist := by
  have hinv : s.view.Synced ∧ s.Keyed := by
    refine h.invariant (I := fun s => s.view.Synced ∧ s.Keyed) ?_ ?_
    · rintro s rfl
      constructor
      · intro rest hrest
        cases hrest
      · intro o svc hsvc
        cases hsvc
    · rintro s l s' ⟨hsynced, hkeyed⟩ hg hs
      refine ⟨?_, hkeyed.step hs⟩
      obtain ⟨a, ha, hstep⟩ | heq := step_view hkeyed hg hs
      · exact hsynced.step ha hstep
      · rwa [heq]
  have hcopy := hinv.1.copy_eq (by rw [view, hdone]; rfl)
  intro o
  have ho : s.map.services.lookup o = (s.cluster.lookup o).map Service.entry := congrFun hcopy o
  rw [ho, Option.isSome_map]

section Samples

instance (s : Watched) (l : WatchStep) : Decidable (s.StillExist l) :=
  match l with
  | .start _ => decidable_of_iff' _ (Table.forall_lookup_iff (P := fun o _ => (s.cluster.lookup o).isSome = true))
  | .change _ | .receive | .close | .endpoints _ => .isTrue trivial

def movedInGap : Watched :=
  (System.exec next (fun s l => decide (s.StillExist l)) {}
    [.change (.upsert web), .start [web], .change (.upsert shop), .receive, .close,
      .change (.upsert { web with clusterIP := "10.0.0.9" }), .start [shop, { web with clusterIP := "10.0.0.9" }],
      .receive, .receive]).get (by decide)

theorem moved_service_tracked : movedInGap.watch = some [] ∧ movedInGap.TrackedExist :=
  ⟨by decide, tracked_of_still_exist (System.Reaches.exec (fun _ _ h => of_decide_eq_true h) (.init rfl)
    (Option.some_get _).symm) (by decide)⟩

def deletedInGap : Watched :=
  (System.exec next (fun _ _ => true) {}
    [.change (.upsert web), .start [web], .receive, .close, .change (.delete "team" "web"), .start []]).get (by decide)

theorem deleted_service_tracked :
    ¬ ∀ s, System.Reachable runs s → s.watch = some [] → s.TrackedExist := by
  intro h
  have hreach : System.Reachable runs deletedInGap :=
    System.Reaches.exec (fun _ _ _ => trivial) (.init rfl) (Option.some_get _).symm
  have htracked : (deletedInGap.map.services.lookup ("team", "web")).isSome = true := by decide
  have hgone := (h deletedInGap hreach (by decide) ("team", "web")).mp htracked
  revert hgone
  decide

end Samples

end Watched

end Nightjar.ServiceMap
