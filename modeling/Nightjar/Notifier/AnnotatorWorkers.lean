import Nightjar.Notifier.IndexLog
import Nightjar.Lib.Runs

namespace Nightjar.Notifier

open Lib

/-- Where a worker stands in `processUpdate`, with the update it works off. -/
inductive Stage where
  | idle
  | took (u : WorkloadKey)
  | namespaces (u : WorkloadKey) (rest : List String)
  | fetching (u : WorkloadKey)
  | workloads (u : WorkloadKey) (rest : List WorkloadKey)
  | sending (u k : WorkloadKey) (rest : List WorkloadKey)
  | checked (u : WorkloadKey)
  | read (u : WorkloadKey) (snap : Snapshot)
  | patched (u : WorkloadKey)

def Stage.update : Stage → Option WorkloadKey
  | idle => none
  | took u | namespaces u _ | fetching u | workloads u _ | sending u _ _ | checked u | read u _ | patched u => some u

/-- The annotator with its workers, the index they read and the annotations they
write. A caller of `QueueWorkloadUpdate` waits between the check and the send. -/
structure AnnotatorWorld where
  index : IndexLog
  wa : WorkloadAnnotator
  callers : List WorkloadKey := []
  workers : Nat → Stage := fun _ => .idle
  patched : WorkloadKey → Option Snapshot := fun _ => none

inductive Action where
  | take
  | list (answer : Except String (List String))
  | announce
  | lookup (now : Int)
  | fetch (answer : String → Except String (List String)) (now : Int)
  | check (now : Int)
  | send
  | process (now : Int)
  | read
  | patch (answer : Except String Unit)
  | stamp (now : Int)
  | finish

inductive AnnotatorLabel where
  | mutate (m : Mutation)
  | callback (i : Nat)
  | call (k : WorkloadKey) (now : Int)
  | submit (k : WorkloadKey)
  | worker (i : Nat) (a : Action)

namespace AnnotatorWorld

def put (w : AnnotatorWorld) (i : Nat) (st : Stage) : AnnotatorWorld :=
  { w with workers := Function.update w.workers i st }

theorem workers_put_self (w : AnnotatorWorld) (i : Nat) (st : Stage) : (w.put i st).workers i = st :=
  Function.update_self ..

theorem workers_put_of_ne (w : AnnotatorWorld) {i j : Nat} (h : j ≠ i) (st : Stage) :
    (w.put i st).workers j = w.workers j :=
  Function.update_of_ne h ..

def work (w : AnnotatorWorld) (st : Stage) (a : Action) : Option (AnnotatorWorld × Stage) :=
  match st, a with
  | .idle, .take =>
      match w.wa.pending with
      | [] => none
      | u :: rest => some ({ w with wa := { w.wa with pending := rest } }, .took u)
  | .took u, .list answer =>
      if u.IsClusterWide then
        match answer with
        | .error _ => some (w, .idle)
        | .ok namespaces => some (w, .namespaces u namespaces)
      else none
  | .namespaces u (ns :: rest), .announce =>
      some ({ w with wa := w.wa.queue (.ofNamespace ns) }, .namespaces u rest)
  | .took u, .lookup now =>
      if u.IsNamespace then
        match w.wa.cachedWorkloads u.ns now with
        | some workloads => some (w, .workloads u workloads)
        | none => some (w, .fetching u)
      else none
  | .fetching u, .fetch answer now =>
      some ({ w with wa := w.wa.storeWorkloads u.ns (fetchedWorkloads u.ns answer) now },
        .workloads u (fetchedWorkloads u.ns answer))
  | .workloads u (k :: rest), .check now =>
      if w.wa.debounced k now then some (w, .workloads u rest) else some (w, .sending u k rest)
  | .sending u k rest, .send => some ({ w with wa := w.wa.queue k }, .workloads u rest)
  | .took u, .process now =>
      if u.IsWorkload then if w.wa.debounced u now then some (w, .idle) else some (w, .checked u)
      else none
  | .checked u, .read => some (w, .read u (w.index.read u.ns))
  | .read u snap, .patch answer =>
      match answer with
      | .error _ => some (w, .idle)
      | .ok _ => some ({ w with patched := Function.update w.patched u (some snap) }, .patched u)
  | .patched u, .stamp now => some ({ w with wa := w.wa.stamp u now }, .idle)
  | .namespaces _ [], .finish | .workloads _ [], .finish => some (w, .idle)
  | _, _ => none

def next (w : AnnotatorWorld) : AnnotatorLabel → Option AnnotatorWorld
  | .mutate m => some { w with index := w.index.mutate m }
  | .callback i => (w.index.deliver i).map (fun d => { w with index := d.2, wa := w.wa.onIndexChange d.1 })
  | .call k now => if w.wa.debounced k now then some w else some { w with callers := k :: w.callers }
  | .submit k =>
      if k ∈ w.callers then some { w with wa := w.wa.queue k, callers := w.callers.erase k } else none
  | .worker i a => (w.work (w.workers i) a).map (fun r => r.1.put i r.2)

structure Initial (w : AnnotatorWorld) : Prop where
  index : w.index.Fresh
  workers : w.workers = fun _ => .idle
  patched : w.patched = fun _ => none

def system : System AnnotatorWorld AnnotatorLabel := .ofStep Initial next

inductive Work (w : AnnotatorWorld) : Stage → Action → AnnotatorWorld → Stage → Prop
  | take {u : WorkloadKey} {rest : List WorkloadKey} (h : w.wa.pending = u :: rest) :
      Work w .idle .take { w with wa := { w.wa with pending := rest } } (.took u)
  | listFailed {u : WorkloadKey} {err : String} (h : u.IsClusterWide) :
      Work w (.took u) (.list (.error err)) w .idle
  | list {u : WorkloadKey} {namespaces : List String} (h : u.IsClusterWide) :
      Work w (.took u) (.list (.ok namespaces)) w (.namespaces u namespaces)
  | announce (u : WorkloadKey) (ns : String) (rest : List String) :
      Work w (.namespaces u (ns :: rest)) .announce { w with wa := w.wa.queue (.ofNamespace ns) }
        (.namespaces u rest)
  | cached {u : WorkloadKey} {now : Int} {workloads : List WorkloadKey} (h : u.IsNamespace)
      (hc : w.wa.cachedWorkloads u.ns now = some workloads) :
      Work w (.took u) (.lookup now) w (.workloads u workloads)
  | uncached {u : WorkloadKey} (h : u.IsNamespace) (now : Int) : Work w (.took u) (.lookup now) w (.fetching u)
  | fetch (u : WorkloadKey) (answer : String → Except String (List String)) (now : Int) :
      Work w (.fetching u) (.fetch answer now)
        { w with wa := w.wa.storeWorkloads u.ns (fetchedWorkloads u.ns answer) now }
        (.workloads u (fetchedWorkloads u.ns answer))
  | debounce {k : WorkloadKey} {now : Int} (h : w.wa.debounced k now = true) (u : WorkloadKey)
      (rest : List WorkloadKey) : Work w (.workloads u (k :: rest)) (.check now) w (.workloads u rest)
  | pass (u k : WorkloadKey) (rest : List WorkloadKey) (now : Int) :
      Work w (.workloads u (k :: rest)) (.check now) w (.sending u k rest)
  | send (u k : WorkloadKey) (rest : List WorkloadKey) :
      Work w (.sending u k rest) .send { w with wa := w.wa.queue k } (.workloads u rest)
  | discard {u : WorkloadKey} {now : Int} (h : u.IsWorkload) (hd : w.wa.debounced u now = true) :
      Work w (.took u) (.process now) w .idle
  | process {u : WorkloadKey} (h : u.IsWorkload) (now : Int) : Work w (.took u) (.process now) w (.checked u)
  | read (u : WorkloadKey) : Work w (.checked u) .read w (.read u (w.index.read u.ns))
  | patchFailed (u : WorkloadKey) (snap : Snapshot) (err : String) :
      Work w (.read u snap) (.patch (.error err)) w .idle
  | patch (u : WorkloadKey) (snap : Snapshot) :
      Work w (.read u snap) (.patch (.ok ())) { w with patched := Function.update w.patched u (some snap) }
        (.patched u)
  | stamp (u : WorkloadKey) (now : Int) :
      Work w (.patched u) (.stamp now) { w with wa := w.wa.stamp u now } .idle
  | announced (u : WorkloadKey) : Work w (.namespaces u []) .finish w .idle
  | resolved (u : WorkloadKey) : Work w (.workloads u []) .finish w .idle

theorem Work.of_eq_some {w w' : AnnotatorWorld} {st st' : Stage} {a : Action} (h : w.work st a = some (w', st')) :
    Work w st a w' st' := by
  unfold work at h
  split at h
  · split at h
    · cases h
    · rename_i hp
      cases h
      exact .take hp
  · split at h
    · rename_i hu
      split at h
      · cases h
        exact .listFailed hu
      · cases h
        exact .list hu
    · cases h
  · cases h
    exact .announce _ _ _
  · split at h
    · rename_i hu
      split at h
      · rename_i hc
        cases h
        exact .cached hu hc
      · cases h
        exact .uncached hu _
    · cases h
  · cases h
    exact .fetch _ _ _
  · split at h
    · rename_i hd
      cases h
      exact .debounce hd _ _
    · cases h
      exact .pass _ _ _ _
  · cases h
    exact .send _ _ _
  · split at h
    · rename_i hu
      split at h
      · rename_i hd
        cases h
        exact .discard hu hd
      · cases h
        exact .process hu _
    · cases h
  · cases h
    exact .read _
  · split at h
    · cases h
      exact .patchFailed _ _ _
    · cases h
      exact .patch _ _
  · cases h
    exact .stamp _ _
  · cases h
    exact .announced _
  · cases h
    exact .resolved _
  · cases h

theorem Work.workers_eq {w w' : AnnotatorWorld} {st st' : Stage} {a : Action} (h : Work w st a w' st') :
    w'.workers = w.workers := by
  cases h <;> rfl

end AnnotatorWorld

end Nightjar.Notifier
