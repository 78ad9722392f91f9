import Nightjar.Lib.Tables

namespace Nightjar

open Lib

structure ServiceInfo where
  name : String
  ns : String
  port : Int
  portName : String
  protocol : String
  clusterIP : String
deriving DecidableEq, Repr

structure ServicePort where
  name : String
  port : Int
  protocol : String
deriving DecidableEq, Repr

/-- What `upsertService` reads of a Service. -/
structure Service where
  ns : String
  name : String
  clusterIP : String
  ports : List ServicePort
deriving DecidableEq, Repr

structure EndpointPort where
  name : String
  port : Int
deriving DecidableEq, Repr

structure EndpointSubset where
  addresses : List String
  ports : List EndpointPort
deriving DecidableEq, Repr

structure Endpoints where
  ns : String
  name : String
  subsets : List EndpointSubset
deriving DecidableEq, Repr

structure ServiceEntry where
  name : String
  ns : String
  clusterIP : String
  ports : List ServiceInfo
deriving DecidableEq, Repr

/-- The maps that the source nests by namespace are keyed by the pair here. -/
structure ServiceMap where
  services : Table (String × String) ServiceEntry
  ipToService : Table String ServiceInfo
  portToServices : Table (String × Int) (List ServiceInfo)
  endpointToService : Table String ServiceInfo

def formatIPPort (ip : String) (port : Int) : String := ip ++ ":" ++ toString port

def hasClusterIP (ip : String) : Bool := ip ≠ "" && ip ≠ "None"

def Service.info (svc : Service) (port : ServicePort) : ServiceInfo where
  name := svc.name
  ns := svc.ns
  port := port.port
  portName := port.name
  protocol := port.protocol
  clusterIP := svc.clusterIP

def Service.entry (svc : Service) : ServiceEntry where
  name := svc.name
  ns := svc.ns
  clusterIP := svc.clusterIP
  ports := svc.ports.map svc.info

namespace ServiceMap

def new : ServiceMap := ⟨∅, ∅, ∅, ∅⟩

def portList (sm : ServiceMap) (ns : String) (port : Int) : List ServiceInfo :=
  (sm.portToServices.lookup (ns, port)).getD []

/-- The turn of the loop over the entry's ports in `removeServiceFromIndexes`. -/
def removePort (entry : ServiceEntry) (sm : ServiceMap) (port : ServiceInfo) : ServiceMap :=
  let key := (entry.ns, port.port)
  let ports :=
    match sm.portToServices.lookup key with
    | none => sm.portToServices
    | some portList =>
        match portList.filter (fun s => s.name ≠ entry.name) with
        | [] => sm.portToServices.erase key
        | filtered => sm.portToServices.insert key filtered
  let ips :=
    if hasClusterIP entry.clusterIP then sm.ipToService.erase (formatIPPort entry.clusterIP port.port)
    else sm.ipToService
  { sm with portToServices := ports, ipToService := ips }

def removeServiceFromIndexes (sm : ServiceMap) (entry : ServiceEntry) : ServiceMap :=
  entry.ports.foldl (removePort entry) sm

/-- The turn of the loop over the service's ports in `upsertService`. -/
def indexPort (sm : ServiceMap) (info : ServiceInfo) : ServiceMap :=
  { sm with
    portToServices := sm.portToServices.insert (info.ns, info.port) (sm.portList info.ns info.port ++ [info])
    ipToService :=
      if hasClusterIP info.clusterIP then sm.ipToService.insert (formatIPPort info.clusterIP info.port) info
      else sm.ipToService }

def removeOld (sm : ServiceMap) (ns name : String) : ServiceMap :=
  match sm.services.lookup (ns, name) with
  | some old => sm.removeServiceFromIndexes old
  | none => sm

def upsertService (sm : ServiceMap) (svc : Service) : ServiceMap :=
  let sm := svc.entry.ports.foldl indexPort (sm.removeOld svc.ns svc.name)
  { sm with services := sm.services.insert (svc.ns, svc.name) svc.entry }

def deleteService (sm : ServiceMap) (ns name : String) : ServiceMap :=
  let sm := sm.removeOld ns name
  { sm with services := sm.services.erase (ns, name) }

/-- The assignments to `endpointToService` that the loops of `upsertEndpoints` make, in
their order. -/
def assignments (svc : ServiceEntry) (ep : Endpoints) : List (String × ServiceInfo) :=
  ep.subsets.flatMap (fun subset => subset.addresses.flatMap (fun ip => subset.ports.flatMap (fun port =>
    (svc.ports.filter (fun info => info.portName = port.name ∨ info.port = port.port)).map
      (fun info => (formatIPPort ip port.port, info)))))

def upsertEndpoints (sm : ServiceMap) (ep : Endpoints) : ServiceMap :=
  match sm.services.lookup (ep.ns, ep.name) with
  | none => sm
  | some svc => { sm with
      endpointToService := (assignments svc ep).foldl (fun m a => m.insert a.1 a.2) sm.endpointToService }

def deleteEndpoints (sm : ServiceMap) (ns name : String) : ServiceMap :=
  { sm with
    endpointToService := Table.restrict sm.endpointToService (fun _ info => ¬ (info.ns = ns ∧ info.name = name)) }

def resolvePort (sm : ServiceMap) (ip : String) (port : Int) : Option ServiceInfo :=
  let key := formatIPPort ip port
  (sm.ipToService.lookup key).or (sm.endpointToService.lookup key)

def resolvePortInNamespace (sm : ServiceMap) (ns : String) (port : Int) : List ServiceInfo := sm.portList ns port

end ServiceMap

/-- What the watch of Services delivers: Added and Modified are one case. -/
inductive ServiceEvent where
  | upsert (svc : Service)
  | delete (ns name : String)
deriving DecidableEq

inductive EndpointsEvent where
  | upsert (ep : Endpoints)
  | delete (ns name : String)
deriving DecidableEq

abbrev WatchEvent := ServiceEvent ⊕ EndpointsEvent

namespace ServiceMap

def onService (sm : ServiceMap) : ServiceEvent → ServiceMap
  | .upsert svc => sm.upsertService svc
  | .delete ns name => sm.deleteService ns name

def onEndpoints (sm : ServiceMap) : EndpointsEvent → ServiceMap
  | .upsert ep => sm.upsertEndpoints ep
  | .delete ns name => sm.deleteEndpoints ns name

def on (sm : ServiceMap) : WatchEvent → ServiceMap
  | .inl e => sm.onService e
  | .inr e => sm.onEndpoints e

def run (events : List WatchEvent) : ServiceMap := events.foldl on new

def track (t : Table (String × String) Service) : WatchEvent → Table (String × String) Service
  | .inl (.upsert svc) => t.insert (svc.ns, svc.name) svc
  | .inl (.delete ns name) => t.erase (ns, name)
  | .inr _ => t

def tracked (events : List WatchEvent) : Table (String × String) Service := events.foldl track ∅

/-- The entries for one port that the services of a namespace declare. -/
def declared (t : Table (String × String) Service) (ns : String) (port : Int) : List ServiceInfo :=
  t.collect (fun key svc => if key.1 = ns then svc.entry.ports.filter (fun info => info.port = port) else [])

theorem portList_removePort (entry : ServiceEntry) (sm : ServiceMap) (port : ServiceInfo) (ns : String) (p : Int) :
    (removePort entry sm port).portList ns p =
      if ns = entry.ns ∧ p = port.port then (sm.portList ns p).filter (fun s => s.name ≠ entry.name)
      else sm.portList ns p := by
  by_cases hk : ns = entry.ns ∧ p = port.port
  · obtain ⟨rfl, rfl⟩ := hk
    rw [if_pos ⟨rfl, rfl⟩]
    unfold removePort portList
    dsimp only
    cases hl : sm.portToServices.lookup (entry.ns, port.port) with
    | none => simp [hl]
    | some l =>
        dsimp only
        split
        · rename_i hf
          rw [AList.lookup_erase, Option.getD_some, hf]
          rfl
        · rw [AList.lookup_insert, Option.getD_some, Option.getD_some]
  · have hne : (ns, p) ≠ (entry.ns, port.port) := by
      rintro ⟨⟩
      exact hk ⟨rfl, rfl⟩
    rw [if_neg hk]
    unfold removePort portList
    dsimp only
    split
    · rfl
    · split
      · rw [AList.lookup_erase_ne hne]
      · rw [AList.lookup_insert_ne hne]

theorem portList_removePorts (entry : ServiceEntry) (ports : List ServiceInfo) (sm : ServiceMap) (ns : String)
    (p : Int) :
    (ports.foldl (removePort entry) sm).portList ns p =
      if ns = entry.ns ∧ p ∈ ports.map ServiceInfo.port then (sm.portList ns p).filter (fun s => s.name ≠ entry.name)
      else sm.portList ns p := by
  induction ports generalizing sm with
  | nil => simp
  | cons port ports ih =>
      rw [List.foldl_cons, ih, portList_removePort]
      by_cases hns : ns = entry.ns
      · by_cases hp : p = port.port <;> simp [hns, hp]
      · simp [hns]

theorem portList_indexPort (sm : ServiceMap) (info : ServiceInfo) (ns : String) (p : Int) :
    (sm.indexPort info).portList ns p =
      sm.portList ns p ++ [info].filter (fun info => info.ns = ns ∧ info.port = p) := by
  by_cases hk : info.ns = ns ∧ info.port = p
  · obtain ⟨rfl, rfl⟩ := hk
    simp [indexPort, portList]
  · have hne : (ns, p) ≠ (info.ns, info.port) := by
      rintro ⟨⟩
      exact hk ⟨rfl, rfl⟩
    rw [portList, indexPort, AList.lookup_insert_ne hne]
    simp [hk, portList]

theorem portList_indexPorts (infos : List ServiceInfo) (sm : ServiceMap) (ns : String) (p : Int) :
    (infos.foldl indexPort sm).portList ns p =
      sm.portList ns p ++ infos.filter (fun info => info.ns = ns ∧ info.port = p) := by
  induction infos generalizing sm with
  | nil => simp
  | cons info infos ih =>
      rw [List.foldl_cons, ih, portList_indexPort, List.append_assoc, ← List.filter_append]
      rfl

theorem foldl_keeps {β γ : Type} {f : ServiceMap → β → ServiceMap} (view : ServiceMap → γ)
    (h : ∀ sm x, view (f sm x) = view sm) (xs : List β) (sm : ServiceMap) : view (xs.foldl f sm) = view sm := by
  induction xs generalizing sm with
  | nil => rfl
  | cons x xs ih => rw [List.foldl_cons, ih, h]

@[simp] theorem services_removeOld (sm : ServiceMap) (ns name : String) :
    (sm.removeOld ns name).services = sm.services := by
  unfold removeOld
  split
  · exact foldl_keeps (f := removePort _) services (fun _ _ => rfl) _ sm
  · rfl

@[simp] theorem endpoints_removeOld (sm : ServiceMap) (ns name : String) :
    (sm.removeOld ns name).endpointToService = sm.endpointToService := by
  unfold removeOld
  split
  · exact foldl_keeps (f := removePort _) endpointToService (fun _ _ => rfl) _ sm
  · rfl

theorem services_upsertService (sm : ServiceMap) (svc : Service) :
    (sm.upsertService svc).services = sm.services.insert (svc.ns, svc.name) svc.entry := by
  have h := foldl_keeps (f := indexPort) services (fun _ _ => rfl) svc.entry.ports (sm.removeOld svc.ns svc.name)
  rw [upsertService, h, services_removeOld]

theorem services_deleteService (sm : ServiceMap) (ns name : String) :
    (sm.deleteService ns name).services = sm.services.erase (ns, name) := by
  rw [deleteService, services_removeOld]

theorem portList_upsertService (sm : ServiceMap) (svc : Service) (ns : String) (p : Int) :
    (sm.upsertService svc).portList ns p =
      (sm.removeOld svc.ns svc.name).portList ns p ++
        (if svc.ns = ns then svc.entry.ports.filter (fun info => info.port = p) else []) := by
  have hl : (sm.upsertService svc).portList ns p =
      (svc.entry.ports.foldl indexPort (sm.removeOld svc.ns svc.name)).portList ns p := rfl
  have hns : ∀ info ∈ svc.entry.ports, info.ns = svc.ns := by
    intro info hmem
    obtain ⟨port, -, rfl⟩ := List.mem_map.mp hmem
    rfl
  rw [hl, portList_indexPorts]
  congr 1
  split
  · exact List.filter_congr (fun info hmem => by simp [hns info hmem, ‹svc.ns = ns›])
  · rw [List.filter_eq_nil_iff]
    intro info hmem
    simp [hns info hmem, ‹¬ svc.ns = ns›]

/-- The map holds the entries of the services `t`, and its port index lists what they
declare. -/
structure Indexes (sm : ServiceMap) (t : Table (String × String) Service) : Prop where
  services : ∀ key, sm.services.lookup key = (t.lookup key).map Service.entry
  keys : ∀ key svc, t.lookup key = some svc → (svc.ns, svc.name) = key
  ports : ∀ ns p, (sm.portList ns p).Perm (declared t ns p)

theorem indexes_new : new.Indexes ∅ where
  services _ := rfl
  keys _ _ h := by cases h
  ports _ _ := .rfl

variable {sm : ServiceMap} {t : Table (String × String) Service}

theorem Indexes.name_of_mem_erase (h : sm.Indexes t) {ns name : String} {p : Int} {info : ServiceInfo}
    (hmem : info ∈ declared (t.erase (ns, name)) ns p) : info.name ≠ name := by
  obtain ⟨key, svc, hl, hm⟩ := Table.mem_collect.mp hmem
  split at hm
  · rename_i hns
    subst hns
    obtain ⟨port, -, rfl⟩ := List.mem_map.mp (List.mem_of_mem_filter hm)
    rw [Table.lookup_erase] at hl
    split at hl
    · cases hl
    · have hk := h.keys key svc hl
      rintro rfl
      subst hk
      exact absurd rfl ‹_›
  · cases hm

theorem Indexes.portList_removeOld (h : sm.Indexes t) (ns name ns' : String) (p : Int) :
    ((sm.removeOld ns name).portList ns' p).Perm (declared (t.erase (ns, name)) ns' p) := by
  unfold removeOld
  cases ht : t.lookup (ns, name) with
  | none =>
      rw [h.services, ht, Table.erase_of_lookup_none ht]
      exact h.ports ns' p
  | some svc =>
      have hk := h.keys _ _ ht
      obtain ⟨rfl, rfl⟩ : svc.ns = ns ∧ svc.name = name := Prod.mk.inj hk
      have hsplit := (h.ports ns' p).trans (Table.collect_erase ht)
      rw [h.services, ht]
      dsimp only [Option.map_some]
      rw [removeServiceFromIndexes, portList_removePorts]
      by_cases hns : svc.ns = ns'
      · subst hns
        rw [if_pos rfl] at hsplit
        split
        · have hf := hsplit.filter (fun info => info.name ≠ svc.name)
          have hold : (svc.entry.ports.filter (fun info => info.port = p)).filter (fun info => info.name ≠ svc.name)
              = [] := by
            rw [List.filter_eq_nil_iff]
            intro info hmem
            obtain ⟨port, -, rfl⟩ := List.mem_map.mp (List.mem_of_mem_filter hmem)
            simp [Service.info]
          have hkept : (declared (t.erase (svc.ns, svc.name)) svc.ns p).filter (fun info => info.name ≠ svc.name) =
              declared (t.erase (svc.ns, svc.name)) svc.ns p := by
            rw [List.filter_eq_self]
            intro info hmem
            exact decide_eq_true (h.name_of_mem_erase hmem)
          rw [List.filter_append, hold, List.nil_append] at hf
          exact hf.trans (.of_eq hkept)
        · rename_i hp
          have hnone : svc.entry.ports.filter (fun info => info.port = p) = [] := by
            rw [List.filter_eq_nil_iff]
            intro info hmem he
            exact hp ⟨rfl, List.mem_map.mpr ⟨info, hmem, of_decide_eq_true he⟩⟩
          rwa [hnone] at hsplit
      · rw [if_neg (fun hc => hns hc.1.symm)]
        rw [if_neg hns] at hsplit
        exact hsplit

theorem Indexes.upsertService (h : sm.Indexes t) (svc : Service) :
    (sm.upsertService svc).Indexes (t.insert (svc.ns, svc.name) svc) where
  services key := by
    rw [services_upsertService, Table.lookup_insert, Table.lookup_insert, h.services]
    split <;> rfl
  keys key v hv := by
    rw [Table.lookup_insert] at hv
    split at hv
    · cases hv
      exact Eq.symm ‹_›
    · exact h.keys key v hv
  ports ns p := by
    rw [portList_upsertService, declared, Table.collect_insert]
    exact ((h.portList_removeOld svc.ns svc.name ns p).append_right _).trans List.perm_append_comm

theorem Indexes.deleteService (h : sm.Indexes t) (ns name : String) :
    (sm.deleteService ns name).Indexes (t.erase (ns, name)) where
  services key := by
    rw [services_deleteService, Table.lookup_erase, Table.lookup_erase, h.services]
    split <;> rfl
  keys key v hv := by
    rw [Table.lookup_erase] at hv
    split at hv
    · cases hv
    · exact h.keys key v hv
  ports ns' p := h.portList_removeOld ns name ns' p

@[simp] theorem services_onEndpoints (sm : ServiceMap) (e : EndpointsEvent) :
    (sm.onEndpoints e).services = sm.services := by
  cases e with
  | upsert ep =>
      rw [onEndpoints, upsertEndpoints]
      split <;> rfl
  | delete ns name => rfl

@[simp] theorem portToServices_onEndpoints (sm : ServiceMap) (e : EndpointsEvent) :
    (sm.onEndpoints e).portToServices = sm.portToServices := by
  cases e with
  | upsert ep =>
      rw [onEndpoints, upsertEndpoints]
      split <;> rfl
  | delete ns name => rfl

theorem Indexes.on (h : sm.Indexes t) (e : WatchEvent) : (sm.on e).Indexes (track t e) := by
  cases e with
  | inl e =>
      cases e with
      | upsert svc => exact h.upsertService svc
      | delete ns name => exact h.deleteService ns name
  | inr e =>
      refine ⟨fun key => ?_, h.keys, fun ns p => ?_⟩
      · rw [ServiceMap.on, services_onEndpoints]
        exact h.services key
      · rw [ServiceMap.on, portList, portToServices_onEndpoints]
        exact h.ports ns p

theorem Indexes.foldl (h : sm.Indexes t) (events : List WatchEvent) :
    (events.foldl ServiceMap.on sm).Indexes (events.foldl track t) := by
  induction events generalizing sm t with
  | nil => exact h
  | cons e events ih => exact ih (h.on e)

theorem indexes_run (events : List WatchEvent) : (run events).Indexes (tracked events) :=
  indexes_new.foldl events

/-- Whatever the events were, the port index of a namespace lists each entry that the
services tracked in it declare for the port, as often as it is declared, and no other. -/
theorem resolvePortInNamespace_exact (events : List WatchEvent) (ns : String) (port : Int) :
    ((run events).resolvePortInNamespace ns port).Perm (declared (tracked events) ns port) :=
  (indexes_run events).ports ns port

end ServiceMap

end Nightjar
