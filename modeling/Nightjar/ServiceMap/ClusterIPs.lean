import Nightjar.Lib.SharedIndex
import Nightjar.Lib.Strings
import Nightjar.ServiceMap.Watches

namespace Nightjar

open Lib Lib.Strings

theorem formatIPPort_inj {ip ip' : String} {port port' : Int} :
    formatIPPort ip port = formatIPPort ip' port' ↔ ip = ip' ∧ port = port' := by
  have hcolon (n : Int) : ':' ∉ (toString n).toList := by
    intro h
    obtain hsign | hdigit := sign_or_digit_of_mem_repr h
    · exact absurd hsign (by decide)
    · exact absurd hdigit (by decide)
  rw [formatIPPort, formatIPPort, append_last_sep_inj (by rfl) (hcolon port) (hcolon port')]
  exact and_congr_right (fun _ => ⟨int_repr_injective, congrArg toString⟩)

/-- The service has the ClusterIP and exposes the port on it. -/
def Service.Uses (svc : Service) (ip : String) (port : Int) : Prop :=
  hasClusterIP svc.clusterIP = true ∧ svc.clusterIP = ip ∧ port ∈ svc.ports.map ServicePort.port

instance (svc : Service) (ip : String) (port : Int) : Decidable (svc.Uses ip port) :=
  inferInstanceAs (Decidable (_ ∧ _ ∧ _))

/-- The keys under which the entry stands in the index of ClusterIPs. -/
def ServiceEntry.keys (entry : ServiceEntry) : List String :=
  if hasClusterIP entry.clusterIP then entry.ports.map (fun info => formatIPPort entry.clusterIP info.port) else []

theorem Service.mem_keys_iff {svc : Service} {key : String} :
    key ∈ svc.entry.keys ↔ hasClusterIP svc.clusterIP = true ∧
      ∃ info ∈ svc.entry.ports, key = formatIPPort svc.clusterIP info.port := by
  rw [ServiceEntry.keys]
  change key ∈ (if hasClusterIP svc.clusterIP then _ else _) ↔ _
  split
  · rename_i hip
    rw [List.mem_map]
    exact ⟨fun ⟨info, hmem, he⟩ => ⟨hip, info, hmem, he.symm⟩, fun ⟨_, info, hmem, he⟩ => ⟨info, hmem, he.symm⟩⟩
  · rename_i hip
    exact iff_of_false List.not_mem_nil (fun h => hip h.1)

theorem Service.uses_iff {svc : Service} {ip : String} {port : Int} :
    svc.Uses ip port ↔ formatIPPort ip port ∈ svc.entry.keys := by
  rw [mem_keys_iff, Uses]
  refine and_congr_right (fun _ => ?_)
  constructor
  · rintro ⟨rfl, hport⟩
    obtain ⟨p, hp, rfl⟩ := List.mem_map.mp hport
    exact ⟨svc.info p, List.mem_map.mpr ⟨p, hp, rfl⟩, rfl⟩
  · rintro ⟨info, hinfo, he⟩
    obtain ⟨rfl, rfl⟩ := formatIPPort_inj.mp he
    obtain ⟨p, hp, rfl⟩ := List.mem_map.mp hinfo
    exact ⟨rfl, List.mem_map.mpr ⟨p, hp, rfl⟩⟩

namespace ServiceEvent

def key : ServiceEvent → String × String
  | .upsert svc => (svc.ns, svc.name)
  | .delete ns name => (ns, name)

/-- What there is of the service after the event. -/
def version : ServiceEvent → Option Service
  | .upsert svc => some svc
  | .delete _ _ => none

def Uses : ServiceEvent → String → Int → Prop
  | .upsert svc, ip, port => svc.Uses ip port
  | .delete _ _, _, _ => False

instance (e : ServiceEvent) (ip : String) (port : Int) : Decidable (e.Uses ip port) :=
  match e with
  | .upsert svc => inferInstanceAs (Decidable (svc.Uses ip port))
  | .delete _ _ => inferInstanceAs (Decidable False)

theorem key_of_mem_ports (e : ServiceEvent) {svc : Service} (hv : e.version = some svc) {info : ServiceInfo}
    (hinfo : info ∈ svc.entry.ports) : (info.ns, info.name) = e.key := by
  cases e with
  | delete ns name => cases hv
  | upsert svc' =>
      cases hv
      obtain ⟨p, -, rfl⟩ := List.mem_map.mp hinfo
      rfl

end ServiceEvent

namespace ServiceMap

def keysOf (version : Option Service) : List String := version.elim [] (fun svc => svc.entry.keys)

theorem lookup_track (t : Table (String × String) Service) (e : ServiceEvent) (o : String × String) :
    (track t (.inl e)).lookup o = if o = e.key then e.version else t.lookup o := by
  cases e with
  | upsert svc => exact Table.lookup_insert t (svc.ns, svc.name) o svc
  | delete ns name => exact Table.lookup_erase t (ns, name) o

theorem ip_removePorts (entry : ServiceEntry) (ports : List ServiceInfo) (sm : ServiceMap) (key : String) :
    (ports.foldl (removePort entry) sm).ipToService.lookup key =
      if hasClusterIP entry.clusterIP ∧ key ∈ ports.map (fun info => formatIPPort entry.clusterIP info.port) then none
      else sm.ipToService.lookup key := by
  induction ports generalizing sm with
  | nil => simp
  | cons port ports ih =>
      rw [List.foldl_cons, ih, removePort]
      by_cases hip : hasClusterIP entry.clusterIP = true
      · by_cases hkey : key = formatIPPort entry.clusterIP port.port <;> simp [hip, hkey, Table.lookup_erase]
      · simp [hip]

theorem ip_removeServiceFromIndexes (entry : ServiceEntry) (sm : ServiceMap) (key : String) :
    (sm.removeServiceFromIndexes entry).ipToService.lookup key =
      if key ∈ entry.keys then none else sm.ipToService.lookup key := by
  rw [removeServiceFromIndexes, ip_removePorts, ServiceEntry.keys]
  by_cases hip : hasClusterIP entry.clusterIP = true <;> simp [hip]

theorem ip_indexPort (sm : ServiceMap) (info : ServiceInfo) (key : String) :
    (sm.indexPort info).ipToService.lookup key =
      if hasClusterIP info.clusterIP ∧ key = formatIPPort info.clusterIP info.port then some info
      else sm.ipToService.lookup key := by
  rw [indexPort]
  by_cases hip : hasClusterIP info.clusterIP = true <;> simp [hip, Table.lookup_insert]

theorem ip_indexPorts (infos : List ServiceInfo) (sm : ServiceMap) (key : String) :
    ((∀ info ∈ infos, ¬ (hasClusterIP info.clusterIP ∧ key = formatIPPort info.clusterIP info.port)) ∧
        (infos.foldl indexPort sm).ipToService.lookup key = sm.ipToService.lookup key) ∨
      ∃ info ∈ infos, (hasClusterIP info.clusterIP ∧ key = formatIPPort info.clusterIP info.port) ∧
        (infos.foldl indexPort sm).ipToService.lookup key = some info := by
  induction infos generalizing sm with
  | nil =>
      refine .inl ⟨?_, rfl⟩
      intro info hinfo
      cases hinfo
  | cons info infos ih =>
      rw [List.foldl_cons]
      obtain ⟨hfree, hl⟩ | ⟨info', hmem, hkey, hl⟩ := ih (sm.indexPort info)
      · rw [hl, ip_indexPort, List.forall_mem_cons]
        split
        · exact .inr ⟨info, List.mem_cons_self, ‹_›, rfl⟩
        · exact .inl ⟨⟨‹_›, hfree⟩, rfl⟩
      · exact .inr ⟨info', List.mem_cons_of_mem info hmem, hkey, hl⟩

variable {sm : ServiceMap} {t : Table (String × String) Service}

theorem Indexes.ip_removeOld (h : sm.Indexes t) (ns name key : String) :
    (sm.removeOld ns name).ipToService.lookup key =
      if key ∈ keysOf (t.lookup (ns, name)) then none else sm.ipToService.lookup key := by
  rw [removeOld, h.services]
  cases t.lookup (ns, name) with
  | none => exact (if_neg List.not_mem_nil).symm
  | some svc => exact ip_removeServiceFromIndexes svc.entry sm key

theorem Indexes.ip_onService (h : sm.Indexes t) (e : ServiceEvent) (key : String) :
    (key ∉ keysOf e.version ∧ (sm.onService e).ipToService.lookup key =
        if key ∈ keysOf (t.lookup e.key) then none else sm.ipToService.lookup key) ∨
      ∃ svc, e.version = some svc ∧ ∃ info ∈ svc.entry.ports, hasClusterIP svc.clusterIP = true ∧
        key = formatIPPort svc.clusterIP info.port ∧ (sm.onService e).ipToService.lookup key = some info := by
  cases e with
  | delete ns name => exact .inl ⟨List.not_mem_nil, h.ip_removeOld ns name key⟩
  | upsert svc =>
      have hsame : ∀ info ∈ svc.entry.ports, info.clusterIP = svc.clusterIP := by
        intro info hinfo
        obtain ⟨p, -, rfl⟩ := List.mem_map.mp hinfo
        rfl
      obtain ⟨hfree, hl⟩ | ⟨info, hinfo, ⟨hip, hkey⟩, hl⟩ :=
        ip_indexPorts svc.entry.ports (sm.removeOld svc.ns svc.name) key
      · refine .inl ⟨?_, hl.trans (h.ip_removeOld svc.ns svc.name key)⟩
        intro hmem
        obtain ⟨hip, info, hinfo, he⟩ := Service.mem_keys_iff.mp hmem
        rw [← hsame info hinfo] at hip he
        exact hfree info hinfo ⟨hip, he⟩
      · rw [hsame info hinfo] at hip hkey
        exact .inr ⟨svc, rfl, info, hinfo, hip, hkey, hl⟩

abbrev Owners := SharedIndex (String × String) String

/-- The index of ClusterIPs, with each service as the owner of its keys. -/
structure Owned (sm : ServiceMap) (t : Table (String × String) Service) (s : Owners) : Prop where
  held : ∀ o, s.held o = keysOf (t.lookup o)
  index : ∀ key, s.index key = (sm.ipToService.lookup key).map (fun info => (info.ns, info.name))
  current : ∀ key info, sm.ipToService.lookup key = some info → ∃ svc, t.lookup (info.ns, info.name) = some svc ∧
    info ∈ svc.entry.ports ∧ hasClusterIP svc.clusterIP = true ∧ key = formatIPPort svc.clusterIP info.port

theorem Owned.onService {s : Owners} (ho : Owned sm t s) (h : sm.Indexes t) (e : ServiceEvent) :
    Owned (sm.onService e) (track t (.inl e)) (s.replace e.key (keysOf e.version)) where
  held o := by
    rw [SharedIndex.held_replace, lookup_track]
    split
    · rfl
    · exact ho.held o
  index key := by
    rw [SharedIndex.index_replace]
    obtain ⟨hfree, hl⟩ | ⟨svc, hv, info, hinfo, hip, hkey, hl⟩ := h.ip_onService e key
    · rw [if_neg hfree, hl, ho.held, ho.index]
      split <;> rfl
    · have hmem : key ∈ keysOf e.version := by
        rw [hv]
        exact Service.mem_keys_iff.mpr ⟨hip, info, hinfo, hkey⟩
      rw [if_pos hmem, hl, Option.map_some, e.key_of_mem_ports hv hinfo]
  current key info hinfo := by
    obtain ⟨-, hl⟩ | ⟨svc, hv, info', hinfo', hip, hkey, hl⟩ := h.ip_onService e key
    · rw [hl] at hinfo
      split at hinfo
      · cases hinfo
      · rename_i hold
        obtain ⟨svc, hsvc, hmem, hip, hkey⟩ := ho.current key info hinfo
        refine ⟨svc, ?_, hmem, hip, hkey⟩
        rw [lookup_track, if_neg ?_, hsvc]
        intro he
        rw [← he, hsvc] at hold
        exact hold (Service.mem_keys_iff.mpr ⟨hip, info, hmem, hkey⟩)
    · obtain rfl : info' = info := Option.some.inj (hl.symm.trans hinfo)
      refine ⟨svc, ?_, hinfo', hip, hkey⟩
      rw [lookup_track, if_pos (e.key_of_mem_ports hv hinfo'), hv]

def trackedServices (ss : List ServiceEvent) : Table (String × String) Service := tracked (ss.map .inl)

def owners (ss : List ServiceEvent) : Owners := .run (fun e => (e.key, keysOf e.version)) ss

def lastUser (ss : List ServiceEvent) (ip : String) (port : Int) : Option (String × String) :=
  ss.foldl (fun last e => if e.Uses ip port then some e.key else last) none

/-- Every tracked service that was the last one upserted with its ClusterIP and port is
found there. -/
def ClusterIPsFound (ss : List ServiceEvent) : Prop :=
  ∀ o svc port, (trackedServices ss).lookup o = some svc → svc.Uses svc.clusterIP port →
    lastUser ss svc.clusterIP port = some o →
    ∃ info ∈ svc.entry.ports, info.port = port ∧ (serviceMap ss).resolvePort svc.clusterIP port = some info

/-- Of the addresses that the event takes from its service, none is used by another
tracked service that was upserted with it last. -/
def SparesOthers (ss : List ServiceEvent) (e : ServiceEvent) : Prop :=
  ∀ old ip port, (trackedServices ss).lookup e.key = some old → old.Uses ip port → ¬ e.Uses ip port →
    ∀ o svc, o ≠ e.key → (trackedServices ss).lookup o = some svc → svc.Uses ip port → lastUser ss ip port ≠ some o

theorem uses_iff_mem_keysOf {e : ServiceEvent} {ip : String} {port : Int} :
    e.Uses ip port ↔ formatIPPort ip port ∈ keysOf e.version := by
  cases e with
  | upsert svc => exact Service.uses_iff
  | delete ns name => exact iff_of_false (fun h => h) List.not_mem_nil

theorem lastUser_append (ss : List ServiceEvent) (e : ServiceEvent) (ip : String) (port : Int) :
    lastUser (ss ++ [e]) ip port = if e.Uses ip port then some e.key else lastUser ss ip port := by
  rw [lastUser, List.foldl_append]
  rfl

theorem last_owners (ss : List ServiceEvent) (ip : String) (port : Int) :
    (owners ss).last (formatIPPort ip port) = lastUser ss ip port := by
  induction ss using List.reverseRecOn with
  | nil => rfl
  | append_singleton ss e ih =>
      rw [owners, SharedIndex.run_append, SharedIndex.last_replace, ← owners, ih, lastUser_append]
      exact if_congr uses_iff_mem_keysOf.symm rfl rfl

theorem indexes_serviceMap (ss : List ServiceEvent) : (serviceMap ss).Indexes (trackedServices ss) := by
  have h := indexes_run (ss.map .inl)
  rwa [run, List.foldl_map] at h

theorem owned_serviceMap (ss : List ServiceEvent) : Owned (serviceMap ss) (trackedServices ss) (owners ss) := by
  induction ss using List.reverseRecOn with
  | nil => exact ⟨fun _ => rfl, fun _ => rfl, fun _ _ h => by cases h⟩
  | append_singleton ss e ih =>
      have h := ih.onService (indexes_serviceMap ss) e
      rw [owners, SharedIndex.run_append, serviceMap, List.foldl_append, trackedServices, tracked, List.map_append,
        List.foldl_append]
      exact h

theorem mem_keysOf_iff {version : Option Service} {key : String} :
    key ∈ keysOf version ↔
      ∃ svc port, version = some svc ∧ svc.Uses svc.clusterIP port ∧ key = formatIPPort svc.clusterIP port := by
  cases version with
  | none => exact iff_of_false List.not_mem_nil (by rintro ⟨_, _, ⟨⟩, _⟩)
  | some svc =>
      constructor
      · intro h
        obtain ⟨hip, info, hinfo, rfl⟩ := Service.mem_keys_iff.mp h
        exact ⟨svc, info.port, rfl, Service.uses_iff.mpr h, rfl⟩
      · rintro ⟨_, port, ⟨⟩, huses, rfl⟩
        exact Service.uses_iff.mp huses

theorem kept_owners_iff (ss : List ServiceEvent) : (owners ss).Kept ↔ ClusterIPsFound ss := by
  have ho := owned_serviceMap ss
  have hendpoints (key : String) : (serviceMap ss).endpointToService.lookup key = none := by
    rw [endpoints_serviceMap]
    rfl
  constructor
  · intro hkept o svc port hsvc huses hlast
    have hheld : formatIPPort svc.clusterIP port ∈ (owners ss).held o := by
      rw [ho.held, hsvc]
      exact Service.uses_iff.mp huses
    have hindex := hkept o _ hheld ((last_owners ss _ _).trans hlast)
    rw [ho.index] at hindex
    obtain ⟨info, hinfo, howner⟩ := Option.map_eq_some_iff.mp hindex
    obtain ⟨svc', hsvc', hmem, -, hkey⟩ := ho.current _ info hinfo
    rw [howner, hsvc] at hsvc'
    cases hsvc'
    refine ⟨info, hmem, (formatIPPort_inj.mp hkey).2.symm, ?_⟩
    rw [resolvePort, hinfo]
    rfl
  · intro hfound o key hheld hlast
    rw [ho.held] at hheld
    obtain ⟨svc, port, hsvc, huses, rfl⟩ := mem_keysOf_iff.mp hheld
    rw [last_owners] at hlast
    obtain ⟨info, hmem, -, hres⟩ := hfound o svc port hsvc huses hlast
    rw [resolvePort, hendpoints, Option.or_none] at hres
    obtain ⟨p, -, rfl⟩ := List.mem_map.mp hmem
    rw [ho.index, hres, ← (indexes_serviceMap ss).keys o svc hsvc]
    rfl

theorem spares_owners_iff (ss : List ServiceEvent) (e : ServiceEvent) :
    (owners ss).Spares e.key (keysOf e.version) ↔ SparesOthers ss e := by
  have ho := owned_serviceMap ss
  constructor
  · intro hspares old ip port hold huses hnew o svc hne hsvc huses' hlast
    refine hspares (formatIPPort ip port) ?_ (mt uses_iff_mem_keysOf.mpr hnew) o hne ?_
      ((last_owners ss ip port).trans hlast)
    · rw [ho.held, hold]
      exact Service.uses_iff.mp huses
    · rw [ho.held, hsvc]
      exact Service.uses_iff.mp huses'
  · intro hspares key hold hnew o hne hheld hlast
    rw [ho.held] at hold hheld
    obtain ⟨old, port, ho', huses, rfl⟩ := mem_keysOf_iff.mp hold
    obtain ⟨svc, hsvc, huses'⟩ : ∃ svc, (trackedServices ss).lookup o = some svc ∧ svc.Uses old.clusterIP port := by
      obtain ⟨svc, port', hsvc, huses', hkey⟩ := mem_keysOf_iff.mp hheld
      obtain ⟨hip, rfl⟩ := formatIPPort_inj.mp hkey
      exact ⟨svc, hsvc, hip ▸ huses'⟩
    rw [last_owners] at hlast
    exact hspares old old.clusterIP port ho' huses (mt uses_iff_mem_keysOf.mp hnew) o svc hne hsvc huses' hlast

theorem clusterIPs_found_iff (ss : List ServiceEvent) :
    (∀ front, front <+: ss → ClusterIPsFound front) ↔
      ∀ front e, front ++ [e] <+: ss → SparesOthers front e := by
  have h := SharedIndex.kept_run_iff (fun e : ServiceEvent => (e.key, keysOf e.version)) ss
  simp only [← kept_owners_iff, ← spares_owners_iff]
  exact h

section Samples

def shop : Service := ⟨"team", "shop", "10.0.0.1", [⟨"http", 80, "TCP"⟩]⟩

theorem reused_clusterIP_lost :
    ¬ ClusterIPsFound [.upsert web, .upsert shop, .upsert { web with clusterIP := "10.0.0.9" }] := by
  intro h
  obtain ⟨info, -, -, hres⟩ := h ("team", "shop") shop 80 (by decide) (by decide) (by decide)
  cases hres

end Samples

end ServiceMap

end Nightjar
