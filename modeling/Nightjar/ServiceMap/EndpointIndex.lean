import Nightjar.ServiceMap.ClusterIPs

namespace Nightjar

open Lib

def Endpoints.Has (ep : Endpoints) (ip : String) (port : Int) : Prop :=
  ∃ subset ∈ ep.subsets, ip ∈ subset.addresses ∧ ∃ p ∈ subset.ports, p.port = port

instance (ep : Endpoints) (ip : String) (port : Int) : Decidable (ep.Has ip port) :=
  inferInstanceAs (Decidable (∃ _ ∈ _, _))

namespace ServiceMap

def trackEndpoints (l : Table (String × String) Endpoints) : WatchEvent → Table (String × String) Endpoints
  | .inr (.upsert ep) => l.insert (ep.ns, ep.name) ep
  | .inr (.delete ns name) => l.erase (ns, name)
  | .inl _ => l

def latestEndpoints (events : List WatchEvent) : Table (String × String) Endpoints := events.foldl trackEndpoints ∅

def NoClusterIP (events : List WatchEvent) (ip : String) : Prop :=
  ∀ o svc, (tracked events).lookup o = some svc → svc.clusterIP ≠ ip

/-- What is found for an address that is no ClusterIP is a port of a tracked service, in
its latest version, whose latest Endpoints list the address and the port. -/
def EndpointsCurrent (events : List WatchEvent) : Prop :=
  ∀ ip port info, NoClusterIP events ip → (run events).resolvePort ip port = some info →
    ∃ o svc ep, (tracked events).lookup o = some svc ∧ (latestEndpoints events).lookup o = some ep ∧
      ep.Has ip port ∧ info ∈ svc.entry.ports

/-- The event leaves no entry of its service behind: the ports that are mapped are among
those of the new version of the service, and the addresses that are mapped are among
those of the new Endpoints. -/
def LeavesNoneBehind (sm : ServiceMap) : WatchEvent → Prop
  | .inl e => ∀ key info, sm.endpointToService.lookup key = some info → (info.ns, info.name) = e.key →
      ∃ svc, e.version = some svc ∧ info ∈ svc.entry.ports
  | .inr (.upsert ep) => ∀ key info, sm.endpointToService.lookup key = some info →
      (info.ns, info.name) = (ep.ns, ep.name) → ∃ ip port, ep.Has ip port ∧ key = formatIPPort ip port
  | .inr (.delete _ _) => True

/-- The addresses with their ports, in the order of the loops of `upsertEndpoints`. -/
def slots (ep : Endpoints) : List (String × EndpointPort) :=
  ep.subsets.flatMap (fun subset => subset.addresses.flatMap (fun ip => subset.ports.map (fun port => (ip, port))))

def slotKey (slot : String × EndpointPort) : String := formatIPPort slot.1 slot.2.port

def matchesPort (port : EndpointPort) (info : ServiceInfo) : Bool := info.portName = port.name ∨ info.port = port.port

theorem assignments_eq (entry : ServiceEntry) (ep : Endpoints) :
    assignments entry ep = (slots ep).flatMap (fun slot =>
      (entry.ports.filter (matchesPort slot.2)).map (fun info => (slotKey slot, info))) := by
  simp only [assignments, slots, List.flatMap_assoc, List.flatMap_map]
  rfl

theorem mem_slots {ep : Endpoints} {slot : String × EndpointPort} :
    slot ∈ slots ep ↔ ∃ subset ∈ ep.subsets, slot.1 ∈ subset.addresses ∧ slot.2 ∈ subset.ports := by
  simp only [slots, List.mem_flatMap, List.mem_map]
  constructor
  · rintro ⟨subset, hsubset, ip, hip, port, hport, rfl⟩
    exact ⟨subset, hsubset, hip, hport⟩
  · rintro ⟨subset, hsubset, hip, hport⟩
    exact ⟨subset, hsubset, slot.1, hip, slot.2, hport, rfl⟩

theorem has_of_mem_slots {ep : Endpoints} {slot : String × EndpointPort} (h : slot ∈ slots ep) :
    ep.Has slot.1 slot.2.port := by
  obtain ⟨subset, hsubset, hip, hport⟩ := mem_slots.mp h
  exact ⟨subset, hsubset, hip, slot.2, hport, rfl⟩

theorem mem_slotKeys {ep : Endpoints} {key : String} :
    key ∈ (slots ep).map slotKey ↔ ∃ ip port, ep.Has ip port ∧ key = formatIPPort ip port := by
  rw [List.mem_map]
  constructor
  · rintro ⟨slot, hslot, rfl⟩
    exact ⟨slot.1, slot.2.port, has_of_mem_slots hslot, rfl⟩
  · rintro ⟨ip, _, ⟨subset, hsubset, hip, port, hport, rfl⟩, rfl⟩
    exact ⟨(ip, port), mem_slots.mpr ⟨subset, hsubset, hip, hport⟩, rfl⟩

theorem origin_upsertEndpoints {sm : ServiceMap} {ep : Endpoints} {key : String} {info : ServiceInfo}
    (hl : (sm.upsertEndpoints ep).endpointToService.lookup key = some info) :
    sm.endpointToService.lookup key = some info ∨
      ∃ entry slot, sm.services.lookup (ep.ns, ep.name) = some entry ∧ slot ∈ slots ep ∧ info ∈ entry.ports ∧
        key = slotKey slot := by
  cases hs : sm.services.lookup (ep.ns, ep.name) with
  | none =>
      rw [upsertEndpoints, hs] at hl
      exact .inl hl
  | some entry =>
      rw [upsertEndpoints, hs] at hl
      obtain ⟨-, hkeep⟩ | ⟨info', hmem, hset⟩ :=
        Table.lookup_foldl_insert (assignments entry ep) sm.endpointToService key
      · exact .inl (hkeep.symm.trans hl)
      · obtain rfl : info' = info := Option.some.inj (hset.symm.trans hl)
        rw [assignments_eq, List.mem_flatMap] at hmem
        obtain ⟨slot, hslot, hmem⟩ := hmem
        obtain ⟨_, hport, he⟩ := List.mem_map.mp hmem
        obtain ⟨rfl, rfl⟩ := Prod.mk.inj he
        exact .inr ⟨entry, slot, rfl, hslot, List.mem_of_mem_filter hport, rfl⟩

/-- An entry of the endpoint index that is current. -/
structure Current (t : Table (String × String) Service) (l : Table (String × String) Endpoints) (key : String)
    (info : ServiceInfo) : Prop where
  service : ∃ svc, t.lookup (info.ns, info.name) = some svc ∧ info ∈ svc.entry.ports
  endpoints : ∃ ep ip port, l.lookup (info.ns, info.name) = some ep ∧ ep.Has ip port ∧ key = formatIPPort ip port

def AllCurrent (sm : ServiceMap) (t : Table (String × String) Service) (l : Table (String × String) Endpoints) : Prop :=
  ∀ key info, sm.endpointToService.lookup key = some info → Current t l key info

variable {sm : ServiceMap} {t : Table (String × String) Service} {l : Table (String × String) Endpoints}

theorem AllCurrent.onService (hc : AllCurrent sm t l) {e : ServiceEvent} (hg : sm.LeavesNoneBehind (.inl e)) :
    AllCurrent (sm.onService e) (track t (.inl e)) l := by
  intro key info hl
  rw [endpoints_onService] at hl
  obtain ⟨hsvc, hep⟩ := hc key info hl
  refine ⟨?_, hep⟩
  rw [lookup_track]
  split
  · exact hg key info hl ‹_›
  · exact hsvc

theorem AllCurrent.upsertEndpoints (hc : AllCurrent sm t l) (h : sm.Indexes t) {ep : Endpoints}
    (hg : sm.LeavesNoneBehind (.inr (.upsert ep))) :
    AllCurrent (sm.upsertEndpoints ep) t (l.insert (ep.ns, ep.name) ep) := by
  intro key info hl
  obtain hold | ⟨entry, slot, hentry, hslot, hinfo, rfl⟩ := origin_upsertEndpoints hl
  · obtain ⟨hsvc, hep⟩ := hc key info hold
    refine ⟨hsvc, ?_⟩
    rw [Table.lookup_insert]
    split
    · obtain ⟨ip, port, hhas, hkey⟩ := hg key info hold ‹_›
      exact ⟨ep, ip, port, rfl, hhas, hkey⟩
    · exact hep
  · obtain ⟨hns, hname⟩ := h.owner hentry hinfo
    rw [h.services] at hentry
    obtain ⟨svc, hsvc, rfl⟩ := Option.map_eq_some_iff.mp hentry
    refine ⟨⟨svc, ?_, hinfo⟩, ep, slot.1, slot.2.port, ?_, has_of_mem_slots hslot, rfl⟩
    · rw [hns, hname, hsvc]
    · rw [hns, hname, Table.lookup_insert, if_pos rfl]

theorem AllCurrent.deleteEndpoints (hc : AllCurrent sm t l) (ns name : String) :
    AllCurrent (sm.deleteEndpoints ns name) t (l.erase (ns, name)) := by
  intro key info hl
  obtain ⟨hl, hne⟩ := (lookup_deleteEndpoints sm ns name key info).mp hl
  obtain ⟨hsvc, hep⟩ := hc key info hl
  refine ⟨hsvc, ?_⟩
  rw [Table.lookup_erase, if_neg (fun he => hne (Prod.mk.inj he))]
  exact hep

theorem AllCurrent.on (hc : AllCurrent sm t l) (h : sm.Indexes t) {e : WatchEvent} (hg : sm.LeavesNoneBehind e) :
    AllCurrent (sm.on e) (track t e) (trackEndpoints l e) := by
  cases e with
  | inl e => exact hc.onService hg
  | inr e =>
      cases e with
      | upsert ep => exact hc.upsertEndpoints h hg
      | delete ns name => exact hc.deleteEndpoints ns name

theorem exists_owned (events : List WatchEvent) : ∃ s, Owned (run events) (tracked events) s := by
  induction events using List.reverseRecOn with
  | nil => exact ⟨_, owned_serviceMap []⟩
  | append_singleton events e ih =>
      obtain ⟨s, hs⟩ := ih
      rw [run, tracked, List.foldl_append, List.foldl_append]
      cases e with
      | inl e => exact ⟨_, hs.onService (indexes_run events) e⟩
      | inr e =>
          have hips : ((run events).onEndpoints e).ipToService = (run events).ipToService :=
            congrArg (fun sm => sm.ipToService) (core_onEndpoints (run events) e)
          refine ⟨s, hs.held, fun key => ?_, fun key info hl => ?_⟩
          · exact (hs.index key).trans (by rw [← hips]; rfl)
          · exact hs.current key info (by rw [← hips]; exact hl)

theorem endpointsCurrent_of_allCurrent {events : List WatchEvent}
    (h : AllCurrent (run events) (tracked events) (latestEndpoints events)) : EndpointsCurrent events := by
  intro ip port info hnot hres
  obtain ⟨s, hs⟩ := exists_owned events
  have hnone : (run events).ipToService.lookup (formatIPPort ip port) = none := by
    refine Option.eq_none_iff_forall_ne_some.mpr (fun info' hl => ?_)
    obtain ⟨svc, hsvc, -, -, hkey⟩ := hs.current _ info' hl
    exact hnot _ svc hsvc (formatIPPort_inj.mp hkey).1.symm
  rw [resolvePort, hnone, Option.none_or] at hres
  obtain ⟨⟨svc, hsvc, hinfo⟩, ep, ip', port', hep, hhas, hkey⟩ := h _ info hres
  obtain ⟨rfl, rfl⟩ := formatIPPort_inj.mp hkey
  exact ⟨_, svc, ep, hsvc, hep, hhas, hinfo⟩

/-- In a history whose events leave none behind, lookups of endpoints are never stale. -/
theorem endpoints_current_of_none_left (events : List WatchEvent)
    (h : ∀ front e, front ++ [e] <+: events → (run front).LeavesNoneBehind e) :
    ∀ front, front <+: events → EndpointsCurrent front := by
  intro front hfront
  refine endpointsCurrent_of_allCurrent (forall_front
    (P := fun front => AllCurrent (run front) (tracked front) (latestEndpoints front)) ?_ ?_ h front hfront)
  · intro key info hl
    cases hl
  · intro front e hc hg
    rw [run, tracked, latestEndpoints, List.foldl_append, List.foldl_append, List.foldl_append]
    exact hc.on (indexes_run front) hg

/-- The port of the service that the loop keeps for an endpoint port: the last match. -/
def lastMatch (entry : ServiceEntry) (port : EndpointPort) : Option ServiceInfo :=
  entry.ports.reverse.find? (matchesPort port)

theorem lookup_insert_all (key k : String) (infos : List ServiceInfo) (m : Table String ServiceInfo) :
    ((infos.map (fun info => (k, info))).foldl (fun m a => m.insert a.1 a.2) m).lookup key =
      if key = k then infos.getLast?.or (m.lookup key) else m.lookup key := by
  induction infos using List.reverseRecOn with
  | nil => simp
  | append_singleton infos info ih =>
      rw [List.map_append, List.foldl_append, List.map_singleton, List.foldl_cons, List.foldl_nil,
        Table.lookup_insert, ih]
      split <;> simp

theorem lookup_insert_slots (entry : ServiceEntry) (ss : List (String × EndpointPort)) (m : Table String ServiceInfo)
    {slot : String × EndpointPort} (hslot : slot ∈ ss) (hsome : (lastMatch entry slot.2).isSome) :
    ∃ slot' ∈ ss, slotKey slot' = slotKey slot ∧ (lastMatch entry slot'.2).isSome ∧
      ((ss.flatMap (fun slot => (entry.ports.filter (matchesPort slot.2)).map (fun info => (slotKey slot, info)))).foldl
        (fun m a => m.insert a.1 a.2) m).lookup (slotKey slot) = lastMatch entry slot'.2 := by
  induction ss using List.reverseRecOn with
  | nil => cases hslot
  | append_singleton ss s ih =>
      have hlast : (entry.ports.filter (matchesPort s.2)).getLast? = lastMatch entry s.2 := by
        rw [lastMatch, List.getLast?_eq_head?_reverse, ← List.filter_reverse, List.head?_filter]
      rw [List.flatMap_append, List.foldl_append, List.flatMap_singleton, lookup_insert_all, hlast]
      by_cases hs : slotKey slot = slotKey s ∧ (lastMatch entry s.2).isSome
      · obtain ⟨hkey, hsome'⟩ := hs
        refine ⟨s, List.mem_append_right ss List.mem_cons_self, hkey.symm, hsome', ?_⟩
        rw [if_pos hkey, Option.or_of_isSome hsome']
      · have hmem : slot ∈ ss := by
          rcases List.mem_append.mp hslot with hmem | hmem
          · exact hmem
          · obtain rfl := List.mem_singleton.mp hmem
            exact absurd ⟨rfl, hsome⟩ hs
        obtain ⟨slot', hslot', hkey, hsome', hl⟩ := ih hmem
        refine ⟨slot', List.mem_append_left [s] hslot', hkey, hsome', ?_⟩
        rw [hl]
        split
        · have hnone : lastMatch entry s.2 = none :=
            Option.not_isSome_iff_eq_none.mp (fun h => hs ⟨‹_›, h⟩)
          rw [hnone, Option.none_or]
        · rfl

theorem lookup_upsertEndpoints_last {sm : ServiceMap} {ep : Endpoints} {entry : ServiceEntry}
    (hentry : sm.services.lookup (ep.ns, ep.name) = some entry) {slot : String × EndpointPort} (hslot : slot ∈ slots ep)
    (hsome : (lastMatch entry slot.2).isSome) :
    ∃ slot' ∈ slots ep, slot'.1 = slot.1 ∧ slot'.2.port = slot.2.port ∧ (lastMatch entry slot'.2).isSome ∧
      (sm.upsertEndpoints ep).endpointToService.lookup (slotKey slot) = lastMatch entry slot'.2 := by
  obtain ⟨slot', hslot', hkey, hsome', hl⟩ := lookup_insert_slots entry (slots ep) sm.endpointToService hslot hsome
  obtain ⟨hip, hport⟩ := formatIPPort_inj.mp hkey
  refine ⟨slot', hslot', hip, hport, hsome', ?_⟩
  rw [upsertEndpoints, hentry]
  dsimp only
  rw [assignments_eq]
  exact hl

def lastPort (ports : List ServicePort) (port : EndpointPort) : Option ServicePort :=
  ports.reverse.find? (fun p => p.name = port.name ∨ p.port = port.port)

theorem lastMatch_entry (svc : Service) (port : EndpointPort) :
    lastMatch svc.entry port = (lastPort svc.ports port).map svc.info := by
  rw [lastMatch, lastPort, Service.entry, ← List.map_reverse, List.find?_map]
  rfl

/-- No port that stands after one with the name has the number. -/
def NoneAfter (ports : List ServicePort) (port : EndpointPort) : Prop :=
  ports.Pairwise (fun p p' => p.name = port.name → p'.port ≠ port.port)

instance (ports : List ServicePort) (port : EndpointPort) : Decidable (NoneAfter ports port) :=
  inferInstanceAs (Decidable (ports.Pairwise _))

theorem lastPort_eq_some {ports : List ServicePort} {port : EndpointPort} {p : ServicePort}
    (h : lastPort ports port = some p) :
    (p.name = port.name ∨ p.port = port.port) ∧ ∃ before after, ports = before ++ p :: after ∧
      ∀ p' ∈ after, p'.name ≠ port.name ∧ p'.port ≠ port.port := by
  obtain ⟨hp, as, bs, heq, hfree⟩ := List.find?_eq_some_iff_append.mp h
  refine ⟨of_decide_eq_true hp, bs.reverse, as.reverse, ?_, ?_⟩
  · rw [← List.reverse_reverse ports, heq]
    simp
  · intro p' hp'
    have hp' := hfree p' (List.mem_reverse.mp hp')
    rwa [Bool.not_eq_true', decide_eq_false_iff_not, not_or] at hp'

theorem lastPort_isSome {ports : List ServicePort} {port : EndpointPort} (h : ∃ p ∈ ports, p.name = port.name) :
    (lastPort ports port).isSome := by
  obtain ⟨p, hp, hname⟩ := h
  rw [lastPort, List.find?_isSome]
  exact ⟨p, List.mem_reverse.mpr hp, decide_eq_true (.inl hname)⟩

theorem lastPort_name_iff {ports : List ServicePort} {port : EndpointPort}
    (hnodup : (ports.map ServicePort.name).Nodup) (hnamed : ∃ p ∈ ports, p.name = port.name) {p : ServicePort}
    (hp : lastPort ports port = some p) : p.name = port.name ↔ NoneAfter ports port := by
  obtain ⟨hmatch, before, after, rfl, hfree⟩ := lastPort_eq_some hp
  rw [NoneAfter, List.pairwise_append, List.pairwise_cons]
  constructor
  · intro hname
    have hbefore : ∀ q ∈ before, q.name ≠ port.name := by
      intro q hq hq'
      rw [List.map_append, List.map_cons, List.nodup_middle, List.nodup_cons, List.mem_append, not_or] at hnodup
      exact hnodup.1.1 (List.mem_map.mpr ⟨q, hq, hq'.trans hname.symm⟩)
    refine ⟨?_, ⟨fun q hq _ => (hfree q hq).2, ?_⟩, fun q hq q' _ hq' => absurd hq' (hbefore q hq)⟩
    · exact List.pairwise_of_forall_mem_list (fun q hq q' _ hq' => absurd hq' (hbefore q hq))
    · exact List.pairwise_of_forall_mem_list (fun q hq q' _ hq' => absurd hq' (hfree q hq).1)
  · rintro ⟨-, -, hnone⟩
    obtain ⟨q, hq, hname⟩ := hnamed
    rw [List.mem_append, List.mem_cons] at hq
    obtain hq | rfl | hq := hq
    · exact hmatch.resolve_right (hnone q hq p List.mem_cons_self hname)
    · exact hname
    · exact absurd hname (hfree q hq).1

/-- The Endpoints give no address one number under two names, and no number is that of a
service port which stands after the one that the endpoint port names. -/
structure NumbersApart (svc : Service) (ep : Endpoints) : Prop where
  names : ∀ slot ∈ slots ep, ∀ slot' ∈ slots ep, slot'.1 = slot.1 → slot'.2.port = slot.2.port →
    slot'.2.name = slot.2.name
  noneAfter : ∀ slot ∈ slots ep, NoneAfter svc.ports slot.2

theorem lookup_upsertEndpoints_lastPort {sm : ServiceMap} {svc : Service} {ep : Endpoints}
    (hsvc : sm.services.lookup (ep.ns, ep.name) = some svc.entry) {slot : String × EndpointPort}
    (hslot : slot ∈ slots ep) (hnamed : ∃ p ∈ svc.ports, p.name = slot.2.name) :
    ∃ slot' ∈ slots ep, slot'.1 = slot.1 ∧ slot'.2.port = slot.2.port ∧
      ∃ p, lastPort svc.ports slot'.2 = some p ∧
        (sm.upsertEndpoints ep).endpointToService.lookup (slotKey slot) = some (svc.info p) := by
  have hsome : (lastMatch svc.entry slot.2).isSome := by
    rw [lastMatch_entry, Option.isSome_map]
    exact lastPort_isSome hnamed
  obtain ⟨slot', hslot', hip, hport, hsome', hl⟩ := lookup_upsertEndpoints_last hsvc hslot hsome
  rw [lastMatch_entry] at hl hsome'
  rw [Option.isSome_map] at hsome'
  obtain ⟨p, hp⟩ := Option.isSome_iff_exists.mp hsome'
  rw [hp] at hl
  exact ⟨slot', hslot', hip, hport, p, hp, hl⟩

theorem endpoint_port_resolves_iff (sm : ServiceMap) (svc : Service) (ep : Endpoints)
    (hsvc : sm.services.lookup (ep.ns, ep.name) = some svc.entry) (hnodup : (svc.ports.map ServicePort.name).Nodup)
    (hnamed : ∀ subset ∈ ep.subsets, ∀ port ∈ subset.ports, ∃ p ∈ svc.ports, p.name = port.name) :
    (∀ slot ∈ slots ep, ∃ p ∈ svc.ports, p.name = slot.2.name ∧
        (sm.upsertEndpoints ep).endpointToService.lookup (formatIPPort slot.1 slot.2.port) = some (svc.info p)) ↔
      NumbersApart svc ep := by
  have hnamed' : ∀ slot ∈ slots ep, ∃ p ∈ svc.ports, p.name = slot.2.name := by
    intro slot hslot
    obtain ⟨subset, hsubset, -, hport⟩ := mem_slots.mp hslot
    exact hnamed subset hsubset slot.2 hport
  constructor
  · intro h
    have hsame : ∀ slot ∈ slots ep, ∀ slot' ∈ slots ep, slot'.1 = slot.1 → slot'.2.port = slot.2.port →
        slot'.2.name = slot.2.name := by
      intro slot hslot slot' hslot' hip hport
      obtain ⟨p, -, hname, hl⟩ := h slot hslot
      obtain ⟨p', -, hname', hl'⟩ := h slot' hslot'
      rw [hip, hport, hl] at hl'
      have hinfo : p.name = p'.name := congrArg ServiceInfo.portName (Option.some.inj hl')
      exact hname'.symm.trans (hinfo.symm.trans hname)
    refine ⟨hsame, ?_⟩
    rintro ⟨ip, name, number⟩ hslot
    obtain ⟨⟨ip', name', number'⟩, hslot', hip, hport, p, hp, hl⟩ :=
      lookup_upsertEndpoints_lastPort hsvc hslot (hnamed' _ hslot)
    obtain rfl : name' = name := hsame _ hslot _ hslot' hip hport
    obtain rfl : number' = number := hport
    obtain ⟨p', -, hname, hl'⟩ := h _ hslot
    have hinfo : p.name = p'.name := congrArg ServiceInfo.portName (Option.some.inj (hl.symm.trans hl'))
    exact (lastPort_name_iff hnodup (hnamed' _ hslot) hp).mp (hinfo.trans hname)
  · intro hapart slot hslot
    obtain ⟨slot', hslot', hip, hport, p, hp, hl⟩ := lookup_upsertEndpoints_lastPort hsvc hslot (hnamed' slot hslot)
    have hname := (lastPort_name_iff hnodup (hnamed' slot' hslot') hp).mpr (hapart.noneAfter slot' hslot')
    refine ⟨p, ?_, hname.trans (hapart.names slot hslot slot' hslot' hip hport), hl⟩
    obtain ⟨-, before, after, heq, -⟩ := lastPort_eq_some hp
    rw [heq]
    exact List.mem_append_right before List.mem_cons_self

section Samples

theorem leavesNoneBehind_service_iff {sm : ServiceMap} {e : ServiceEvent} :
    sm.LeavesNoneBehind (.inl e) ↔ ∀ entry ∈ sm.endpointToService.entries, (entry.2.ns, entry.2.name) = e.key →
      ∃ svc ∈ e.version, entry.2 ∈ svc.entry.ports :=
  Table.forall_lookup_iff (m := sm.endpointToService) (P := fun _ (info : ServiceInfo) =>
    (info.ns, info.name) = e.key → ∃ svc ∈ e.version, info ∈ svc.entry.ports)

theorem leavesNoneBehind_endpoints_iff {sm : ServiceMap} {ep : Endpoints} :
    sm.LeavesNoneBehind (.inr (.upsert ep)) ↔ ∀ entry ∈ sm.endpointToService.entries,
      (entry.2.ns, entry.2.name) = (ep.ns, ep.name) → entry.1 ∈ (slots ep).map slotKey := by
  simp only [mem_slotKeys]
  exact Table.forall_lookup_iff (m := sm.endpointToService) (P := fun key (info : ServiceInfo) =>
    (info.ns, info.name) = (ep.ns, ep.name) → ∃ ip port, ep.Has ip port ∧ key = formatIPPort ip port)

instance (sm : ServiceMap) (e : WatchEvent) : Decidable (sm.LeavesNoneBehind e) :=
  match e with
  | .inl _ => decidable_of_iff' _ leavesNoneBehind_service_iff
  | .inr (.upsert _) => decidable_of_iff' _ leavesNoneBehind_endpoints_iff
  | .inr (.delete _ _) => .isTrue trivial

def webAt (addresses : List String) : Endpoints := ⟨"team", "web", [⟨addresses, [⟨"http", 8080⟩]⟩]⟩

def scaledDown : List WatchEvent :=
  [.inl (.upsert web), .inr (.upsert (webAt ["10.1.0.7", "10.1.0.8"])), .inr (.upsert (webAt ["10.1.0.8"]))]

def scaledUp : List WatchEvent :=
  [.inl (.upsert web), .inr (.upsert (webAt ["10.1.0.7"])), .inr (.upsert (webAt ["10.1.0.7", "10.1.0.8"])),
    .inr (.delete "team" "web"), .inl (.delete "team" "web")]

theorem scaled_down_endpoint_found : ¬ EndpointsCurrent scaledDown := by
  intro h
  obtain ⟨o, svc, ep, -, hep, hhas, -⟩ := h "10.1.0.7" 8080 (web.info ⟨"http", 80, "TCP"⟩)
    (Table.forall_lookup_iff.mpr (by decide)) (by decide)
  have hnot : ∀ o ep, (latestEndpoints scaledDown).lookup o = some ep → ¬ ep.Has "10.1.0.7" 8080 :=
    Table.forall_lookup_iff.mpr (by decide)
  exact hnot o ep hep hhas

theorem scaled_up_endpoints_current :
    (run (scaledUp.take 3)).resolvePort "10.1.0.8" 8080 = some (web.info ⟨"http", 80, "TCP"⟩) ∧
      ∀ front, front <+: scaledUp → EndpointsCurrent front :=
  ⟨by decide, endpoints_current_of_none_left scaledUp (forall_event_iff.mpr (by decide))⟩

def panel : Service := ⟨"team", "panel", "10.0.0.2", [⟨"http", 80, "TCP"⟩, ⟨"admin", 8080, "TCP"⟩]⟩

def panelEndpoints (http admin : Int) : Endpoints :=
  ⟨"team", "panel", [⟨["10.1.0.8", "10.1.0.9"], [⟨"http", http⟩, ⟨"admin", admin⟩]⟩]⟩

theorem http_resolves_to_admin :
    ¬ ∀ slot ∈ slots (panelEndpoints 8080 9090), ∃ p ∈ panel.ports, p.name = slot.2.name ∧
      ((serviceMap [.upsert panel]).upsertEndpoints (panelEndpoints 8080 9090)).endpointToService.lookup
        (formatIPPort slot.1 slot.2.port) = some (panel.info p) := by
  decide

theorem panel_ports_resolve :
    (serviceMap [.upsert panel]).services.lookup ("team", "panel") = some panel.entry ∧
      ∀ slot ∈ slots (panelEndpoints 8000 80), ∃ p ∈ panel.ports, p.name = slot.2.name ∧
        ((serviceMap [.upsert panel]).upsertEndpoints (panelEndpoints 8000 80)).endpointToService.lookup
          (formatIPPort slot.1 slot.2.port) = some (panel.info p) :=
  ⟨by decide, (endpoint_port_resolves_iff (serviceMap [.upsert panel]) panel (panelEndpoints 8000 80) (by decide)
    (by decide) (by decide)).mpr ⟨by decide, by decide⟩⟩

end Samples

end ServiceMap

end Nightjar
