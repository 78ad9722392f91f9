import Nightjar.ServiceMap
import Nightjar.Lib.Interleave
import Mathlib.Data.List.TakeWhile

namespace Nightjar.ServiceMap

open Lib

/-- The map after the Service events alone. -/
def serviceMap (ss : List ServiceEvent) : ServiceMap := ss.foldl onService new

/-- The map without its endpoint index, which is all that Endpoints events change. -/
def core (sm : ServiceMap) : ServiceMap := { sm with endpointToService := ∅ }

@[simp] theorem core_services (sm : ServiceMap) : sm.core.services = sm.services := rfl

@[simp] theorem core_onEndpoints (sm : ServiceMap) (e : EndpointsEvent) : (sm.onEndpoints e).core = sm.core := by
  cases e with
  | upsert ep =>
      rw [onEndpoints, upsertEndpoints]
      split <;> rfl
  | delete ns name => rfl

theorem core_removeOld (sm : ServiceMap) (ns name : String) :
    (sm.removeOld ns name).core = sm.core.removeOld ns name := by
  unfold removeOld
  rw [core_services]
  split
  · exact (List.foldl_hom core (fun _ _ => rfl)).symm
  · rfl

theorem core_indexPorts (sm : ServiceMap) (infos : List ServiceInfo) :
    (infos.foldl indexPort sm).core = infos.foldl indexPort sm.core :=
  (List.foldl_hom core (fun _ _ => rfl)).symm

theorem core_onService (sm : ServiceMap) (e : ServiceEvent) : (sm.onService e).core = sm.core.onService e := by
  cases e with
  | upsert svc =>
      have h := core_indexPorts (sm.removeOld svc.ns svc.name) svc.entry.ports
      rw [core_removeOld] at h
      rw [onService, onService, upsertService, upsertService, ← h]
      rfl
  | delete ns name =>
      rw [onService, onService, deleteService, deleteService, ← core_removeOld]
      rfl

@[simp] theorem endpoints_onService (sm : ServiceMap) (e : ServiceEvent) :
    (sm.onService e).endpointToService = sm.endpointToService := by
  cases e with
  | upsert svc =>
      have h := foldl_keeps (f := indexPort) endpointToService (fun _ _ => rfl) svc.entry.ports
        (sm.removeOld svc.ns svc.name)
      exact h.trans (endpoints_removeOld sm svc.ns svc.name)
  | delete ns name => exact endpoints_removeOld sm ns name

theorem core_run {ss : List ServiceEvent} {es : List EndpointsEvent} {ms : List WatchEvent}
    (h : Interleave ss es ms) : (run ms).core = serviceMap ss :=
  h.foldl_view core_onService core_onEndpoints new

/-- The keys that the event writes to the endpoint index when it is handled in this state. -/
def writes (sm : ServiceMap) : EndpointsEvent → List String
  | .upsert ep =>
      match sm.services.lookup (ep.ns, ep.name) with
      | none => []
      | some svc => (assignments svc ep).map Prod.fst
  | .delete _ _ => []

@[simp] theorem writes_core (sm : ServiceMap) (e : EndpointsEvent) : writes sm.core e = writes sm e := by
  cases e <;> rfl

/-- Whether the Endpoints events can be spread over the Service events so that none of
them writes the key. It is best to handle each as early as it does not. -/
def avoids (key : String) (sm : ServiceMap) : List ServiceEvent → List EndpointsEvent → Bool
  | [], es => es.all (fun e => key ∉ writes sm e)
  | s :: ss, es => avoids key (sm.onService s) ss (es.dropWhile (fun e => key ∉ writes sm e))

theorem avoids_of_suffix {key : String} {ss : List ServiceEvent} {sm : ServiceMap} {es es' : List EndpointsEvent}
    (h : avoids key sm ss es = true) (hs : es' <:+ es) : avoids key sm ss es' = true := by
  induction ss generalizing sm es es' with
  | nil =>
      rw [avoids, List.all_eq_true] at h ⊢
      intro e he
      exact h e (hs.subset he)
  | cons s ss ih =>
      rw [avoids] at h ⊢
      refine ih h ?_
      obtain ⟨front, rfl⟩ := hs
      rw [List.dropWhile_append]
      split
      · exact List.suffix_rfl
      · exact (List.dropWhile_suffix _).trans (List.suffix_append _ _)

theorem avoids_cons {key : String} {ss : List ServiceEvent} {sm : ServiceMap} {e : EndpointsEvent}
    {es : List EndpointsEvent} (hw : key ∉ writes sm e) (h : avoids key sm ss es = true) :
    avoids key sm ss (e :: es) = true := by
  cases ss with
  | nil =>
      rw [avoids] at h ⊢
      rw [List.all_cons, h, Bool.and_true]
      exact decide_eq_true hw
  | cons s ss =>
      rw [avoids] at h ⊢
      rwa [List.dropWhile_cons_of_pos (by simpa using hw)]

/-- Some Endpoints event maps the address to its service and nothing after it need take
the mapping away: after the Service events `before` the service has a port that the
event maps there, no later event deletes the service's endpoints, the later events can
avoid the key, and in the end it is no ClusterIP of a service. -/
def Mapped (ss : List ServiceEvent) (es : List EndpointsEvent) (key : String) : Prop :=
  ∃ before after earlier ep later, ss = before ++ after ∧ es = earlier ++ .upsert ep :: later ∧
    key ∈ writes (serviceMap before) (.upsert ep) ∧ .delete ep.ns ep.name ∉ later ∧
    avoids key (serviceMap before) after later = true ∧ (serviceMap ss).ipToService.lookup key = none

theorem info_of_mem_assignments {svc : ServiceEntry} {ep : Endpoints} {a : String × ServiceInfo}
    (h : a ∈ assignments svc ep) : a.2 ∈ svc.ports := by
  simp only [assignments, List.mem_flatMap, List.mem_map] at h
  obtain ⟨_, _, _, _, _, _, info, hinfo, rfl⟩ := h
  exact List.mem_of_mem_filter hinfo

variable {sm : ServiceMap} {t : Table (String × String) Service} {key : String}

theorem Indexes.owner (h : sm.Indexes t) {ns name : String} {svc : ServiceEntry}
    (hl : sm.services.lookup (ns, name) = some svc) {info : ServiceInfo} (hi : info ∈ svc.ports) :
    info.ns = ns ∧ info.name = name := by
  rw [h.services] at hl
  obtain ⟨s, hs, rfl⟩ := Option.map_eq_some_iff.mp hl
  obtain ⟨port, -, rfl⟩ := List.mem_map.mp hi
  exact Prod.mk.inj (h.keys _ _ hs)

theorem lookup_upsertEndpoints (h : sm.Indexes t) (ep : Endpoints) (key : String) :
    (key ∉ writes sm (.upsert ep) ∧
        (sm.upsertEndpoints ep).endpointToService.lookup key = sm.endpointToService.lookup key) ∨
      ∃ info, key ∈ writes sm (.upsert ep) ∧ info.ns = ep.ns ∧ info.name = ep.name ∧
        (sm.upsertEndpoints ep).endpointToService.lookup key = some info := by
  cases hl : sm.services.lookup (ep.ns, ep.name) with
  | none =>
      have hw : writes sm (.upsert ep) = [] := by rw [writes, hl]
      have he : sm.upsertEndpoints ep = sm := by rw [upsertEndpoints, hl]
      rw [hw, he]
      exact .inl ⟨List.not_mem_nil, rfl⟩
  | some svc =>
      have hw : writes sm (.upsert ep) = (assignments svc ep).map Prod.fst := by rw [writes, hl]
      rw [hw, upsertEndpoints, hl]
      obtain hfree | ⟨info, hmem, hset⟩ := Table.lookup_foldl_insert (assignments svc ep) sm.endpointToService key
      · exact .inl hfree
      · obtain ⟨hns, hname⟩ := h.owner hl (info_of_mem_assignments hmem)
        exact .inr ⟨info, List.mem_map.mpr ⟨_, hmem, rfl⟩, hns, hname, hset⟩

theorem lookup_deleteEndpoints (sm : ServiceMap) (ns name key : String) (info : ServiceInfo) :
    (sm.deleteEndpoints ns name).endpointToService.lookup key = some info ↔
      sm.endpointToService.lookup key = some info ∧ ¬ (info.ns = ns ∧ info.name = name) := by
  rw [deleteEndpoints, Table.lookup_restrict, Option.filter_eq_some_iff, decide_eq_true_iff]

theorem lookup_onEndpoints (h : sm.Indexes t) {e : EndpointsEvent} {info : ServiceInfo} (hw : key ∉ writes sm e)
    (hd : e ≠ .delete info.ns info.name) (hl : sm.endpointToService.lookup key = some info) :
    (sm.onEndpoints e).endpointToService.lookup key = some info := by
  cases e with
  | upsert ep =>
      obtain ⟨-, hkeep⟩ | ⟨_, hmem, -⟩ := lookup_upsertEndpoints h ep key
      · exact hkeep.trans hl
      · exact absurd hmem hw
  | delete ns name =>
      refine (lookup_deleteEndpoints sm ns name key info).mpr ⟨hl, ?_⟩
      rintro ⟨rfl, rfl⟩
      exact hd rfl

theorem lookup_origin {ss : List ServiceEvent} {es : List EndpointsEvent} {ms : List WatchEvent}
    (hm : Interleave ss es ms) (h : sm.Indexes t) {info : ServiceInfo}
    (hl : (ms.foldl on sm).endpointToService.lookup key = some info) :
    (sm.endpointToService.lookup key = some info ∧ .delete info.ns info.name ∉ es ∧
        avoids key sm.core ss es = true) ∨
      ∃ before after earlier ep later, ss = before ++ after ∧ es = earlier ++ .upsert ep :: later ∧
        key ∈ writes (before.foldl onService sm.core) (.upsert ep) ∧ .delete ep.ns ep.name ∉ later ∧
        avoids key (before.foldl onService sm.core) after later = true := by
  induction hm generalizing sm t with
  | nil => exact .inl ⟨hl, List.not_mem_nil, rfl⟩
  | @left s ss es ms _ ih =>
      obtain ⟨hold, hdel, hav⟩ | ⟨before, after, earlier, ep, later, rfl, rfl, hw, hdel, hav⟩ := ih (h.on (.inl s)) hl
      · rw [on, endpoints_onService] at hold
        rw [on, core_onService] at hav
        refine .inl ⟨hold, hdel, ?_⟩
        rw [avoids]
        exact avoids_of_suffix hav (List.dropWhile_suffix _)
      · rw [on, core_onService] at hw hav
        exact .inr ⟨s :: before, after, earlier, ep, later, rfl, rfl, hw, hdel, hav⟩
  | @right e ss es ms _ ih =>
      obtain ⟨hold, hdel, hav⟩ | ⟨before, after, earlier, ep, later, rfl, rfl, hw, hdel, hav⟩ := ih (h.on (.inr e)) hl
      · rw [on, core_onEndpoints] at hav
        cases e with
        | upsert ep =>
            obtain ⟨hfree, hkeep⟩ | ⟨info', hw, hns, hname, hset⟩ := lookup_upsertEndpoints h ep key
            · refine .inl ⟨hkeep.symm.trans hold, ?_, avoids_cons (by rwa [writes_core]) hav⟩
              rw [List.mem_cons, not_or]
              exact ⟨by rintro ⟨⟩, hdel⟩
            · have hinfo : info' = info := Option.some.inj (hset.symm.trans hold)
              subst hinfo
              rw [hns, hname] at hdel
              exact .inr ⟨[], ss, [], ep, es, rfl, rfl, by rwa [List.foldl_nil, writes_core], hdel, hav⟩
        | delete ns name =>
            obtain ⟨hold, hne⟩ := (lookup_deleteEndpoints sm ns name key info).mp hold
            refine .inl ⟨hold, ?_, avoids_cons List.not_mem_nil hav⟩
            rw [List.mem_cons, not_or]
            refine ⟨?_, hdel⟩
            rintro ⟨⟩
            exact hne ⟨rfl, rfl⟩
      · rw [on, core_onEndpoints] at hw hav
        exact .inr ⟨before, after, e :: earlier, ep, later, rfl, rfl, hw, hdel, hav⟩

theorem lookup_foldl_onEndpoints (h : sm.Indexes t) {es : List EndpointsEvent} {info : ServiceInfo}
    (hw : ∀ e ∈ es, key ∉ writes sm e) (hd : .delete info.ns info.name ∉ es)
    (hl : sm.endpointToService.lookup key = some info) :
    ((es.map Sum.inr).foldl on sm).endpointToService.lookup key = some info := by
  induction es generalizing sm t with
  | nil => exact hl
  | cons e es ih =>
      rw [List.mem_cons, not_or] at hd
      refine ih (h.on (.inr e)) ?_ hd.2 (lookup_onEndpoints h (hw e List.mem_cons_self) (Ne.symm hd.1) hl)
      intro e' he'
      rw [on, ← writes_core, core_onEndpoints, writes_core]
      exact hw e' (List.mem_cons_of_mem e he')

theorem core_foldl_onEndpoints (es : List EndpointsEvent) (sm : ServiceMap) :
    ((es.map Sum.inr).foldl on sm).core = sm.core :=
  (Interleave.rights es).foldl_view core_onService core_onEndpoints sm

theorem exists_keeping {ss : List ServiceEvent} {es : List EndpointsEvent} {info : ServiceInfo} (h : sm.Indexes t)
    (hav : avoids key sm.core ss es = true) (hd : .delete info.ns info.name ∉ es)
    (hl : sm.endpointToService.lookup key = some info) :
    ∃ ms, Interleave ss es ms ∧ (ms.foldl on sm).endpointToService.lookup key = some info := by
  induction ss generalizing sm t es with
  | nil =>
      refine ⟨es.map .inr, .rights es, lookup_foldl_onEndpoints h ?_ hd hl⟩
      intro e he
      rw [avoids, List.all_eq_true] at hav
      have hw := of_decide_eq_true (hav e he)
      rwa [writes_core] at hw
  | cons s ss ih =>
      let early := es.takeWhile (fun e => key ∉ writes sm.core e)
      let late := es.dropWhile (fun e => key ∉ writes sm.core e)
      have hes : early ++ late = es := List.takeWhile_append_dropWhile
      rw [← hes, List.mem_append, not_or] at hd
      let mid := (early.map Sum.inr).foldl on sm
      have hmid : mid.endpointToService.lookup key = some info := by
        refine lookup_foldl_onEndpoints h ?_ hd.1 hl
        intro e he
        have hw := of_decide_eq_true (List.mem_takeWhile_imp (p := fun e => key ∉ writes sm.core e) he)
        rwa [writes_core] at hw
      have hcore : (mid.on (.inl s)).core = sm.core.onService s := by
        rw [on, core_onService, core_foldl_onEndpoints]
      rw [avoids, ← hcore] at hav
      have hend : (mid.on (.inl s)).endpointToService.lookup key = some info := by
        rw [on, endpoints_onService]
        exact hmid
      obtain ⟨ms, hms, hlast⟩ := ih ((h.foldl _).on (.inl s)) hav hd.2 hend
      refine ⟨early.map .inr ++ .inl s :: ms, ?_, ?_⟩
      · have hi := (Interleave.rights early).append (.left (a := s) hms)
        rwa [hes] at hi
      · rw [List.foldl_append, List.foldl_cons]
        exact hlast

theorem foldl_onEndpoints_new (es : List EndpointsEvent) : (es.map Sum.inr).foldl on new = new := by
  induction es with
  | nil => rfl
  | cons e es ih =>
      have he : new.onEndpoints e = new := by cases e <;> rfl
      rw [List.map_cons, List.foldl_cons, on, he, ih]

theorem endpoints_serviceMap (ss : List ServiceEvent) : (serviceMap ss).endpointToService = ∅ := by
  have h := core_run (Interleave.lefts ss)
  rw [← h]
  rfl

theorem resolvePort_run {ss : List ServiceEvent} {es : List EndpointsEvent} {ms : List WatchEvent}
    (h : Interleave ss es ms) (ip : String) (port : Int) :
    (run ms).resolvePort ip port = ((serviceMap ss).ipToService.lookup (formatIPPort ip port)).or
      ((run ms).endpointToService.lookup (formatIPPort ip port)) := by
  rw [← core_run h]
  rfl

theorem run_endpoints_first (ss : List ServiceEvent) (es : List EndpointsEvent) :
    run (es.map .inr ++ ss.map .inl) = serviceMap ss := by
  rw [run, List.foldl_append, foldl_onEndpoints_new, List.foldl_map]
  rfl

theorem resolvePort_endpoints_first (ss : List ServiceEvent) (es : List EndpointsEvent) (ip : String) (port : Int) :
    (run (es.map .inr ++ ss.map .inl)).resolvePort ip port =
      (serviceMap ss).ipToService.lookup (formatIPPort ip port) := by
  rw [resolvePort, run_endpoints_first, endpoints_serviceMap]
  exact Option.or_none

theorem interleave_endpoints_first (ss : List ServiceEvent) (es : List EndpointsEvent) :
    Interleave ss es (es.map .inr ++ ss.map .inl) := by
  have h := (Interleave.rights (α := ServiceEvent) es).append (Interleave.lefts (β := EndpointsEvent) ss)
  rwa [List.nil_append, List.append_nil] at h

/-- A mapped key has an entry after the interleaving that handles the earlier Endpoints
events first, then the Service events before the mapping, the mapping, and the rest. -/
theorem Mapped.exists_entry {ss : List ServiceEvent} {es : List EndpointsEvent} (h : Mapped ss es key) :
    ∃ ms info, Interleave ss es ms ∧ (run ms).endpointToService.lookup key = some info := by
  obtain ⟨before, after, earlier, ep, later, rfl, rfl, hw, hdel, hav, -⟩ := h
  let front : List WatchEvent := earlier.map .inr ++ before.map .inl
  have hfront : run front = serviceMap before := run_endpoints_first before earlier
  have hidx := indexes_run front
  have hcore : (run front).core = serviceMap before := core_run (interleave_endpoints_first before earlier)
  rw [← hfront] at hw
  obtain ⟨hfree, -⟩ | ⟨info, -, hns, hname, hset⟩ := lookup_upsertEndpoints hidx ep key
  · exact absurd hw hfree
  · rw [← hns, ← hname] at hdel
    have hmid : ((run front).on (.inr (.upsert ep))).core = serviceMap before := by
      rw [on, core_onEndpoints, hcore]
    rw [← hmid] at hav
    obtain ⟨ms, hms, hlast⟩ := exists_keeping (hidx.on (.inr (.upsert ep))) hav hdel hset
    refine ⟨front ++ .inr (.upsert ep) :: ms, info, ?_, ?_⟩
    · exact (interleave_endpoints_first before earlier).append (.right hms)
    · rw [run, List.foldl_append, List.foldl_cons]
      exact hlast

theorem entry_mapped {ss : List ServiceEvent} {es : List EndpointsEvent} {ms : List WatchEvent}
    (h : Interleave ss es ms) {info : ServiceInfo} (hl : (run ms).endpointToService.lookup key = some info)
    (hip : (serviceMap ss).ipToService.lookup key = none) : Mapped ss es key := by
  obtain ⟨hnew, -⟩ | ⟨before, after, earlier, ep, later, hss, hes, hw, hdel, hav⟩ := lookup_origin h indexes_new hl
  · cases hnew
  · exact ⟨before, after, earlier, ep, later, hss, hes, hw, hdel, hav, hip⟩

theorem resolvePort_commutes_iff (ss : List ServiceEvent) (es : List EndpointsEvent) :
    (∀ ms ms', Interleave ss es ms → Interleave ss es ms' →
        ∀ ip port, (run ms).resolvePort ip port = (run ms').resolvePort ip port) ↔
      ∀ ip port, ¬ Mapped ss es (formatIPPort ip port) := by
  constructor
  · intro h ip port hm
    obtain ⟨ms, info, hms, hl⟩ := hm.exists_entry
    obtain ⟨_, _, _, _, _, _, _, _, _, _, hip⟩ := hm
    have he := h ms _ hms (interleave_endpoints_first ss es) ip port
    rw [resolvePort_run hms, resolvePort_endpoints_first, hip, hl] at he
    cases he
  · intro h ms ms' hms hms' ip port
    rw [resolvePort_run hms, resolvePort_run hms']
    cases hip : (serviceMap ss).ipToService.lookup (formatIPPort ip port) with
    | some info => rfl
    | none =>
        have hnone : ∀ {ms}, Interleave ss es ms →
            (run ms).endpointToService.lookup (formatIPPort ip port) = none := by
          intro ms hms
          refine Option.eq_none_iff_forall_ne_some.mpr (fun info hl => ?_)
          exact h ip port (entry_mapped hms hl hip)
        rw [hnone hms, hnone hms']

section Samples

def web : Service := ⟨"team", "web", "10.0.0.1", [⟨"http", 80, "TCP"⟩]⟩

def webEndpoints : Endpoints := ⟨"team", "web", [⟨["10.1.0.7"], [⟨"http", 8080⟩]⟩]⟩

def serviceFirst : List WatchEvent := [.inl (ServiceEvent.upsert web), .inr (EndpointsEvent.upsert webEndpoints)]

def endpointsFirst : List WatchEvent := [.inr (EndpointsEvent.upsert webEndpoints), .inl (ServiceEvent.upsert web)]

theorem endpoints_before_service_lost :
    Interleave [ServiceEvent.upsert web] [EndpointsEvent.upsert webEndpoints] serviceFirst ∧
      Interleave [ServiceEvent.upsert web] [EndpointsEvent.upsert webEndpoints] endpointsFirst ∧
      (run serviceFirst).resolvePort "10.1.0.7" 8080 = some ⟨"web", "team", 80, "http", "TCP", "10.0.0.1"⟩ ∧
      (run endpointsFirst).resolvePort "10.1.0.7" 8080 = none :=
  ⟨.left (.right .nil), .right (.left .nil), by decide, by decide⟩

end Samples

end Nightjar.ServiceMap
