import Nightjar.Lib.Channel
import Nightjar.Lib.Runs
import Nightjar.Lib.Strings
import Nightjar.Lib.Tables

namespace Nightjar.Mcp

open Lib Lib.Strings

/-- One call of `BroadcastEvent` with its marshalled payload: the call number `seq` of
the goroutine `caller`. -/
structure Broadcast where
  caller : Nat
  seq : Nat
  payload : String
deriving DecidableEq, Repr

/-- `a` is an earlier broadcast than `b` if one caller made both. -/
def Broadcast.Before (a b : Broadcast) : Prop := a.caller = b.caller → a.seq < b.seq

/-- A call of `BroadcastEvent` inside its loop, with the clients it still ranges over. -/
structure Broadcasting where
  item : Broadcast
  todo : List (String × Nat)
deriving DecidableEq, Repr

structure SendStep where
  client : Nat
  item : Broadcast
  registered : Bool
  room : Bool
deriving DecidableEq, Repr

def SendStep.Took (x : SendStep) : Prop := x.registered = true ∧ x.room = true

instance (x : SendStep) : Decidable x.Took := inferInstanceAs (Decidable (_ ∧ _))

inductive Handler where
  | waiting
  | streaming (clientID : String)
  | leaving (clientID : String)
  | returned
deriving DecidableEq, Repr

/-- The ID under which the client is connected. -/
def Handler.clientID : Handler → Option String
  | .streaming id | .leaving id => some id
  | .waiting | .returned => none

def clientID (n : Nat) : String := "client-" ++ toString n

/-- The server with the calls of `handleSSE` and `BroadcastEvent` that run. Call `h` of
`handleSSE` makes the channel `h`. The broadcasts hold the read lock of the table, `calls`
counts the broadcasts of each caller, and `sends` keeps every send step. A send on a closed
channel and a second close panic. -/
structure SseServer where
  sseClients : Table String Nat := ∅
  clientIDCounter : Nat := 0
  handlers : Nat → Handler := fun _ => .waiting
  channels : Nat → Channel Broadcast := fun _ => .make 100
  broadcasting : Table Nat Broadcasting := ∅
  calls : Nat → Nat := fun _ => 0
  sends : List SendStep := []
  panicked : Bool := false

inductive SseLabel where
  | connect (h : Nat)
  | read (h : Nat)
  | hangUp (h : Nat)
  | disconnect (h : Nat)
  | broadcast (caller : Nat) (payload : Option String) (order : List (String × Nat))
  | send (caller : Nat)
  | finish (caller : Nat)
deriving DecidableEq, Repr

namespace SseServer

def Unlocked (s : SseServer) : Prop := s.broadcasting.entries = []

instance (s : SseServer) : Decidable s.Unlocked := inferInstanceAs (Decidable (_ = _))

def clients (s : SseServer) : List (String × Nat) := s.sseClients.entries.map (fun e => (e.1, e.2))

def setChannel (s : SseServer) (h : Nat) (ch : Channel Broadcast) : SseServer :=
  { s with channels := Function.update s.channels h ch }

def setHandler (s : SseServer) (h : Nat) (st : Handler) : SseServer :=
  { s with handlers := Function.update s.handlers h st }

def register (s : SseServer) (h : Nat) : SseServer :=
  let id := clientID (s.clientIDCounter + 1)
  { s with
    clientIDCounter := s.clientIDCounter + 1
    channels := Function.update s.channels h (.make 100)
    sseClients := s.sseClients.insert id h
    handlers := Function.update s.handlers h (.streaming id) }

/-- The deferred cleanup of `handleSSE`. -/
def unregister (s : SseServer) (h : Nat) (id : String) : SseServer :=
  let t := { s with sseClients := s.sseClients.erase id }.setHandler h .returned
  match (s.channels h).close with
  | some ch => t.setChannel h ch
  | none => { t with panicked := true }

def startBroadcast (s : SseServer) (c : Nat) (payload : String) (order : List (String × Nat)) : SseServer :=
  { s with
    broadcasting := s.broadcasting.insert c ⟨⟨c, s.calls c, payload⟩, order⟩
    calls := Function.update s.calls c (s.calls c + 1) }

/-- What the send step to a client finds in the state it is made in. -/
def found (s : SseServer) (b : Broadcast) (id : String) (h : Nat) : SendStep where
  client := h
  item := b
  registered := decide (s.sseClients.lookup id = some h)
  room := decide ((s.channels h).buffer.length < 100)

def record (s : SseServer) (c : Nat) (b : Broadcast) (id : String) (h : Nat) (rest : List (String × Nat)) : SseServer :=
  { s with
    broadcasting := s.broadcasting.insert c ⟨b, rest⟩
    sends := s.sends ++ [s.found b id h] }

def sendTo (s : SseServer) (c : Nat) (b : Broadcast) (id : String) (h : Nat) (rest : List (String × Nat)) : SseServer :=
  match (s.channels h).offer b with
  | .sent ch => (s.record c b id h rest).setChannel h ch
  | .full => s.record c b id h rest
  | .panics => { s.record c b id h rest with panicked := true }

def next (s : SseServer) (l : SseLabel) : Option SseServer :=
  if s.panicked then none
  else match l with
  | .connect h =>
      match s.handlers h with
      | .waiting => if s.Unlocked then some (s.register h) else none
      | _ => none
  | .read h =>
      match s.handlers h with
      | .streaming id =>
          match (s.channels h).receive with
          | some (_, ch) => some (s.setChannel h ch)
          -- an empty channel blocks, unless it is closed
          | none =>
              if (s.channels h).closed then some (s.setHandler h (.leaving id)) else none
      | _ => none
  | .hangUp h =>
      match s.handlers h with
      | .streaming id => some (s.setHandler h (.leaving id))
      | _ => none
  | .disconnect h =>
      match s.handlers h with
      | .leaving id => if s.Unlocked then some (s.unregister h id) else none
      | _ => none
  | .broadcast c payload order =>
      if s.broadcasting.lookup c = none then
        match payload with
        | some payload => if order.Perm s.clients then some (s.startBroadcast c payload order) else none
        | none => some s
      else none
  | .send c =>
      match s.broadcasting.lookup c with
      | some ⟨b, (id, h) :: rest⟩ => some (s.sendTo c b id h rest)
      | _ => none
  | .finish c =>
      match s.broadcasting.lookup c with
      | some ⟨_, []⟩ => some { s with broadcasting := s.broadcasting.erase c }
      | _ => none

def Initial (s : SseServer) : Prop := s = {}

def system : System SseServer SseLabel := .ofStep Initial next

/-- The broadcasts whose send step found the client registered with room in its buffer,
in the order of these steps. -/
def delivered (s : SseServer) (h : Nat) : List Broadcast :=
  (s.sends.filter (fun x => x.client = h ∧ x.Took)).map SendStep.item

variable {s s' : SseServer} {l : SseLabel}

inductive Step (s : SseServer) : SseLabel → SseServer → Prop
  | connect {h : Nat} (hh : s.handlers h = .waiting) (hlock : s.Unlocked) : Step s (.connect h) (s.register h)
  | read {h : Nat} {id : String} {b : Broadcast} {rest : List Broadcast} (hh : s.handlers h = .streaming id)
      (hb : (s.channels h).buffer = b :: rest) : Step s (.read h) (s.setChannel h ((s.channels h).pop hb))
  | readClosed {h : Nat} {id : String} (hh : s.handlers h = .streaming id) :
      Step s (.read h) (s.setHandler h (.leaving id))
  | hangUp {h : Nat} {id : String} (hh : s.handlers h = .streaming id) :
      Step s (.hangUp h) (s.setHandler h (.leaving id))
  | disconnect {h : Nat} {id : String} (hh : s.handlers h = .leaving id) (hlock : s.Unlocked) :
      Step s (.disconnect h) (s.unregister h id)
  | broadcast {c : Nat} {payload : String} {order : List (String × Nat)} (hc : s.broadcasting.lookup c = none)
      (horder : order.Perm s.clients) : Step s (.broadcast c payload order) (s.startBroadcast c payload order)
  | unmarshalled {c : Nat} {order : List (String × Nat)} : Step s (.broadcast c none order) s
  | send {c : Nat} {b : Broadcast} {id : String} {h : Nat} {rest : List (String × Nat)}
      (hc : s.broadcasting.lookup c = some ⟨b, (id, h) :: rest⟩) : Step s (.send c) (s.sendTo c b id h rest)
  | finish {c : Nat} {b : Broadcast} (hc : s.broadcasting.lookup c = some ⟨b, []⟩) :
      Step s (.finish c) { s with broadcasting := s.broadcasting.erase c }

theorem step_of_next (h : s.next l = some s') : Step s l s' := by
  unfold next at h
  split at h
  · cases h
  cases l with
  | connect =>
      dsimp only at h
      split at h
      · split at h
        · cases h
          exact .connect ‹_› ‹_›
        · cases h
      · cases h
  | read =>
      dsimp only at h
      split at h
      · rename_i hh
        split at h
        · rename_i hr
          cases h
          obtain ⟨rest, hb, rfl⟩ := Channel.receive_eq_some hr
          exact .read hh hb
        · split at h
          · cases h
            exact .readClosed hh
          · cases h
      · cases h
  | hangUp =>
      dsimp only at h
      split at h
      · cases h
        exact .hangUp ‹_›
      · cases h
  | disconnect =>
      dsimp only at h
      split at h
      · split at h
        · cases h
          exact .disconnect ‹_› ‹_›
        · cases h
      · cases h
  | broadcast =>
      dsimp only at h
      split at h
      · split at h
        · split at h
          · cases h
            exact .broadcast ‹_› ‹_›
          · cases h
        · cases h
          exact .unmarshalled
      · cases h
  | send =>
      dsimp only at h
      split at h
      · cases h
        exact .send ‹_›
      · cases h
  | finish =>
      dsimp only at h
      split at h
      · cases h
        exact .finish ‹_›
      · cases h

section Lookups

variable {i j : Nat} {id : String}

theorem setChannel_channels (ch : Channel Broadcast) :
    (s.setChannel j ch).channels i = if i = j then ch else s.channels i := Function.update_apply _ _ _ _

theorem setHandler_handlers (st : Handler) :
    (s.setHandler j st).handlers i = if i = j then st else s.handlers i := Function.update_apply _ _ _ _

theorem register_handlers : (s.register j).handlers i =
    if i = j then .streaming (clientID (s.clientIDCounter + 1)) else s.handlers i := Function.update_apply _ _ _ _

theorem register_lookup : (s.register j).sseClients.lookup id =
    if id = clientID (s.clientIDCounter + 1) then some j else s.sseClients.lookup id := Table.lookup_insert _ _ _ _

theorem unregister_of_open (hopen : (s.channels j).closed = false) (id : String) :
    s.unregister j id = ({ s with sseClients := s.sseClients.erase id }.setHandler j .returned).setChannel j
      { s.channels j with closed := true } := by
  rw [unregister, Channel.close_of_open hopen]

theorem unregister_lookup (hopen : (s.channels j).closed = false) (id' : String) :
    (s.unregister j id).sseClients.lookup id' = if id' = id then none else s.sseClients.lookup id' := by
  rw [unregister_of_open hopen]
  exact Table.lookup_erase _ _ _

theorem unregister_handlers (hopen : (s.channels j).closed = false) :
    (s.unregister j id).handlers i = if i = j then .returned else s.handlers i := by
  rw [unregister_of_open hopen]
  exact setHandler_handlers _

theorem unregister_channels (hopen : (s.channels j).closed = false) :
    (s.unregister j id).channels i = if i = j then { s.channels j with closed := true } else s.channels i := by
  rw [unregister_of_open hopen]
  exact setChannel_channels _

end Lookups

theorem clientID_injective {m n : Nat} (h : clientID m = clientID n) : m = n :=
  repr_injective (String.append_right_inj _ |>.mp h)

/-- The table holds exactly the connected clients, under IDs the counter has given out,
and their channels are open. -/
structure Registry (s : SseServer) : Prop where
  panicked : s.panicked = false
  counted : ∀ id h, s.sseClients.lookup id = some h → ∃ n ≤ s.clientIDCounter, id = clientID n
  connected : ∀ id h, (s.handlers h).clientID = some id ↔ s.sseClients.lookup id = some h
  opened : ∀ id h, s.sseClients.lookup id = some h → (s.channels h).closed = false
  made : ∀ h, s.handlers h = .waiting → s.channels h = .make 100
  cap : ∀ h, (s.channels h).cap = 100

theorem Registry.unused (h : s.Registry) : s.sseClients.lookup (clientID (s.clientIDCounter + 1)) = none := by
  cases hl : s.sseClients.lookup (clientID (s.clientIDCounter + 1)) with
  | none => rfl
  | some j =>
      obtain ⟨n, hn, he⟩ := h.counted _ _ hl
      have := clientID_injective he
      omega

theorem Registry.unseen (h : s.Registry) {j : Nat} (hj : (s.handlers j).clientID = none) (id : String) :
    s.sseClients.lookup id ≠ some j := by
  intro hid
  have := (h.connected id j).mpr hid
  rw [hj] at this
  cases this

theorem Registry.register_channels (h : s.Registry) {j : Nat} (hj : s.handlers j = .waiting) :
    (s.register j).channels = s.channels := by
  rw [SseServer.register, ← h.made j hj]
  exact Function.update_eq_self j s.channels

theorem Registry.id_eq (h : s.Registry) {id id' : String} {j : Nat} (hid : s.sseClients.lookup id = some j)
    (hid' : s.sseClients.lookup id' = some j) : id' = id := by
  rw [← h.connected] at hid hid'
  exact Option.some.inj (hid'.symm.trans hid)

theorem Registry.open_of_connected (h : s.Registry) {id : String} {j : Nat} (hj : (s.handlers j).clientID = some id) :
    (s.channels j).closed = false := h.opened id j ((h.connected id j).mp hj)

theorem Registry.register_connected (h : s.Registry) {j : Nat} (hj : s.handlers j = .waiting) (id : String) (i : Nat) :
    ((s.register j).handlers i).clientID = some id ↔ (s.register j).sseClients.lookup id = some i := by
  have hj' : s.sseClients.lookup id ≠ some j := h.unseen (by rw [hj, Handler.clientID]) id
  rw [register_lookup, register_handlers]
  by_cases hi : i = j
  · subst i
    by_cases hid : id = clientID (s.clientIDCounter + 1)
    · simp [hid, Handler.clientID]
    · simp [hid, Ne.symm hid, hj', Handler.clientID]
  · rw [if_neg hi, h.connected]
    split
    · rw [‹id = _›, h.unused]
      simp [Ne.symm hi]
    · rfl

theorem Registry.register (h : s.Registry) {j : Nat} (hj : s.handlers j = .waiting) : (s.register j).Registry := by
  refine ⟨h.panicked, ?_, h.register_connected hj, ?_, ?_, ?_⟩
  · intro id i hi
    rw [register_lookup] at hi
    split at hi
    · exact ⟨_, le_refl _, ‹_›⟩
    · obtain ⟨n, hn, he⟩ := h.counted id i hi
      exact ⟨n, Nat.le_succ_of_le hn, he⟩
  · intro id i hi
    rw [h.register_channels hj]
    rw [register_lookup] at hi
    split at hi
    · cases hi
      rw [h.made _ hj, Channel.make]
    · exact h.opened id i hi
  · intro i hi
    rw [h.register_channels hj]
    rw [register_handlers] at hi
    split at hi
    · cases hi
    · exact h.made i hi
  · rw [h.register_channels hj]
    exact h.cap

theorem Registry.setChannel (h : s.Registry) {j : Nat} {ch : Channel Broadcast} (hj : s.handlers j ≠ .waiting)
    (hclosed : ch.closed = (s.channels j).closed) (hcap : ch.cap = (s.channels j).cap) :
    (s.setChannel j ch).Registry := by
  refine ⟨h.panicked, h.counted, h.connected, ?_, ?_, ?_⟩
  · intro id i hi
    rw [setChannel_channels]
    split
    · subst i
      exact hclosed.trans (h.opened id j hi)
    · exact h.opened id i hi
  · intro i hi
    have hij : i ≠ j := fun he => hj (he ▸ hi)
    rw [setChannel_channels, if_neg hij]
    exact h.made i hi
  · intro i
    rw [setChannel_channels]
    split
    · exact hcap.trans (h.cap j)
    · exact h.cap i

theorem Registry.leave (h : s.Registry) {j : Nat} {id : String} (hj : s.handlers j = .streaming id) :
    (s.setHandler j (.leaving id)).Registry := by
  refine ⟨h.panicked, h.counted, ?_, h.opened, ?_, h.cap⟩
  · intro id' i
    rw [setHandler_handlers]
    split
    · subst i
      have hid := h.connected id' j
      rw [hj] at hid
      exact hid
    · exact h.connected id' i
  · intro i hi
    rw [setHandler_handlers] at hi
    split at hi
    · cases hi
    · exact h.made i hi

theorem Registry.unregister_connected (h : s.Registry) {j : Nat} {id : String} (hj : s.handlers j = .leaving id)
    (id' : String) (i : Nat) :
    ((s.unregister j id).handlers i).clientID = some id' ↔ (s.unregister j id).sseClients.lookup id' = some i := by
  have hc : (s.handlers j).clientID = some id := by rw [hj, Handler.clientID]
  have hid := (h.connected id j).mp hc
  rw [unregister_lookup (h.open_of_connected hc), unregister_handlers (h.open_of_connected hc)]
  by_cases hij : i = j
  · rw [if_pos hij, hij]
    by_cases hid' : id' = id
    · simp [hid', Handler.clientID]
    · have hne : s.sseClients.lookup id' ≠ some j := fun hl => hid' (h.id_eq hid hl)
      simp [hid', hne, Handler.clientID]
  · rw [if_neg hij, h.connected]
    split
    · subst id'
      simp [hid, Ne.symm hij]
    · rfl

theorem Registry.unregister (h : s.Registry) {j : Nat} {id : String} (hj : s.handlers j = .leaving id) :
    (s.unregister j id).Registry := by
  have hc : (s.handlers j).clientID = some id := by rw [hj, Handler.clientID]
  have hopen := h.open_of_connected hc
  refine ⟨?_, ?_, h.unregister_connected hj, ?_, ?_, ?_⟩
  · rw [unregister_of_open hopen]
    exact h.panicked
  · intro id' i hi
    rw [unregister_lookup hopen] at hi
    split at hi
    · cases hi
    · rw [unregister_of_open hopen]
      exact h.counted id' i hi
  · intro id' i hi
    rw [unregister_lookup hopen] at hi
    split at hi
    · cases hi
    · rename_i hne
      have hij : i ≠ j := by
        rintro rfl
        exact hne (h.id_eq ((h.connected id i).mp hc) hi)
      rw [unregister_channels hopen, if_neg hij]
      exact h.opened id' i hi
  · intro i hi
    rw [unregister_handlers hopen] at hi
    rw [unregister_channels hopen]
    split at hi
    · cases hi
    · rw [if_neg ‹_›]
      exact h.made i hi
  · intro i
    rw [unregister_channels hopen]
    split
    · exact h.cap j
    · exact h.cap i

end SseServer

end Nightjar.Mcp
