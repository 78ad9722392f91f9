import Nightjar.Hubble.ConnectionLoop
import Nightjar.Hubble.Converter
import Nightjar.Lib.Channel
import Nightjar.Lib.Runs

namespace Nightjar.Hubble

open Lib

inductive ConnectionState where
  | disconnected
  | connecting
  | connected
  | reconnecting
deriving DecidableEq, Repr

/-- Where the goroutine of `connectionLoop` stands, the calls it makes included. -/
inductive LoopStage where
  | top
  | dialing
  | connecting
  | backingOff
  | established
  | opening
  | polling
  | receiving
  | recording (drop : FlowDrop)
  | counting
  | disconnecting
  | disconnected
  | returning
  | leaving
  | done

namespace LoopStage

/-- Between `connect` and the `Close` of the connection. -/
def dialled : LoopStage → Bool
  | established | opening | polling | receiving | recording _ | counting | disconnecting => true
  | _ => false

/-- Between the two changes of the state around a stream. -/
def connected : LoopStage → Bool
  | opening | polling | receiving | recording _ | counting | disconnecting | disconnected => true
  | _ => false

def inHand : LoopStage → List FlowDrop
  | recording drop => [drop]
  | _ => []

/-- The counter of flow drops is behind the channel. -/
def uncounted : LoopStage → Nat
  | counting => 1
  | _ => 0

def unrecorded : LoopStage → Nat
  | disconnected => 1
  | _ => 0

/-- The deferred `close(c.drops)` has run. -/
def dropsClosed : LoopStage → Bool
  | leaving | done => true
  | _ => false

end LoopStage

inductive Answer where
  | error
  | response (flow : Option Flow) (now : Int)

inductive LoopAction where
  | select
  | announce
  | connect (ok : Bool)
  | wake (timer : Bool)
  | establish
  | getFlows (ok : Bool)
  | check
  | recv (answer : Answer)
  | record
  | count
  | hangUp
  | reconnect
  | closeDrops
  | leave

/-- Cancelling the context, calls of `Close` and their return, the reader of the drops,
and the loop. -/
inductive ClientLabel where
  | cancel
  | close
  | closed
  | read
  | loop (a : LoopAction)

/-- The client with its goroutine. `closing` are the calls of `Close` that wait, `closed` says
that one has returned, and `drained` that the reader has been told the end of the drops. The last
fields record what the relay sent, what found the channel full, and how many connections were
made and closed. -/
structure ClientRun where
  opts : ClientOptions
  reconnectInterval : Int
  loop : LoopStage := .top
  conn : Bool := false
  state : ConnectionState := .disconnected
  drops : Channel FlowDrop
  cancelled : Bool := false
  stopped : Bool := false
  closing : Nat := 0
  closed : Bool := false
  drained : Bool := false
  reconnects : UInt64 := 0
  flowDrops : UInt64 := 0
  panicked : Bool := false
  responses : List (Option Flow × Int) := []
  lost : List FlowDrop := []
  dialled : Nat := 0
  hungUp : Nat := 0

def ClientOptions.withDefaults (opts : ClientOptions) : ClientOptions where
  reconnectInterval :=
    if opts.reconnectInterval = 0 then defaultClientOptions.reconnectInterval else opts.reconnectInterval
  maxReconnectInterval :=
    if opts.maxReconnectInterval = 0 then defaultClientOptions.maxReconnectInterval else opts.maxReconnectInterval
  int64 := by
    split
    · exact defaultClientOptions.int64
    · exact opts.int64

def defaultBufferSize : Nat := 1000

def newClient (opts : ClientOptions) (bufferSize : Nat) : ClientRun where
  opts := opts.withDefaults
  reconnectInterval := opts.withDefaults.reconnectInterval
  drops := .make (if bufferSize = 0 then defaultBufferSize else bufferSize)

namespace ClientRun

def drop? (r : Option Flow × Int) : Option FlowDrop := r.1.bind (convertFlow · r.2)

/-- The drops among the responses. -/
def converted (s : ClientRun) : List FlowDrop := s.responses.filterMap drop?

def recordFlowDrop (s : ClientRun) (drop : FlowDrop) : ClientRun :=
  match s.drops.offer drop with
  | .sent ch => { s with drops := ch, loop := .counting }
  | .full => { s with lost := s.lost ++ [drop], loop := .polling }
  | .panics => { s with panicked := true }

def respond (s : ClientRun) (flow : Option Flow) (now : Int) : ClientRun :=
  { s with
    responses := s.responses ++ [(flow, now)]
    loop := match drop? (flow, now) with
      | none => .polling
      | some drop => .recording drop }

def closeDrops (s : ClientRun) : ClientRun :=
  match s.drops.close with
  | some ch => { s with drops := ch, loop := .leaving }
  | none => { s with panicked := true }

def loopNext (s : ClientRun) (a : LoopAction) : Option ClientRun :=
  match s.loop, a with
  | .top, .select => some { s with loop := if s.cancelled || s.stopped then .returning else .dialing }
  | .dialing, .announce => some { s with state := .connecting, loop := .connecting }
  | .connecting, .connect true => some { s with conn := true, dialled := s.dialled + 1, loop := .established }
  | .connecting, .connect false => some { s with loop := .backingOff }
  -- when the timer and an end are ready, the select takes either
  | .backingOff, .wake true =>
      some { s with reconnectInterval := s.opts.nextReconnectInterval s.reconnectInterval, loop := .top }
  | .backingOff, .wake false => if s.cancelled || s.stopped then some { s with loop := .returning } else none
  | .established, .establish =>
      some { s with reconnectInterval := s.opts.reconnectInterval, state := .connected, loop := .opening }
  | .opening, .getFlows true => some { s with loop := .polling }
  | .opening, .getFlows false => some { s with loop := .disconnecting }
  | .polling, .check => some { s with loop := if s.stopped then .disconnecting else .receiving }
  | .receiving, .recv .error => some { s with loop := .disconnecting }
  | .receiving, .recv (.response flow now) => some (s.respond flow now)
  | .recording drop, .record => some (s.recordFlowDrop drop)
  | .counting, .count => some { s with flowDrops := s.flowDrops + 1, loop := .polling }
  | .disconnecting, .hangUp =>
      some (if s.conn then { s with conn := false, hungUp := s.hungUp + 1, loop := .disconnected }
        else { s with loop := .disconnected })
  | .disconnected, .reconnect =>
      some { s with state := .reconnecting, reconnects := s.reconnects + 1, loop := .top }
  | .returning, .closeDrops => some s.closeDrops
  | .leaving, .leave => some { s with loop := .done }
  | _, _ => none

def next (s : ClientRun) (l : ClientLabel) : Option ClientRun :=
  if s.panicked then none
  else
    match l, s.loop with
    | .cancel, _ => some { s with cancelled := true }
    | .close, _ => some { s with stopped := true, closing := s.closing + 1 }
    | .closed, .done => if s.closing = 0 then none else some { s with closing := s.closing - 1, closed := true }
    | .closed, _ => none
    | .read, _ =>
        match s.drops.receive with
        | some (_, ch) => some { s with drops := ch }
        | none => if s.drops.closed then some { s with drained := true } else none
    | .loop a, _ => s.loopNext a

def Initial (s : ClientRun) : Prop := ∃ opts bufferSize, s = newClient opts bufferSize

theorem initial_newClient (opts : ClientOptions) (bufferSize : Nat) : Initial (newClient opts bufferSize) :=
  ⟨opts, bufferSize, rfl⟩

def system : System ClientRun ClientLabel := .ofStep Initial next

inductive Step (s : ClientRun) : ClientLabel → ClientRun → Prop
  | cancel : Step s .cancel { s with cancelled := true }
  | close : Step s .close { s with stopped := true, closing := s.closing + 1 }
  | closed (h : s.loop = .done) : Step s .closed { s with closing := s.closing - 1, closed := true }
  | read {drop : FlowDrop} {ch : Channel FlowDrop} (h : s.drops.receive = some (drop, ch)) :
      Step s .read { s with drops := ch }
  | drain (h : s.drops.receive = none) (hc : s.drops.closed = true) : Step s .read { s with drained := true }
  | stop (h : s.loop = .top) (hs : (s.cancelled || s.stopped) = true) :
      Step s (.loop .select) { s with loop := .returning }
  | dial (h : s.loop = .top) (hs : (s.cancelled || s.stopped) = false) :
      Step s (.loop .select) { s with loop := .dialing }
  | announce (h : s.loop = .dialing) : Step s (.loop .announce) { s with state := .connecting, loop := .connecting }
  | connect (h : s.loop = .connecting) :
      Step s (.loop (.connect true)) { s with conn := true, dialled := s.dialled + 1, loop := .established }
  | fail (h : s.loop = .connecting) : Step s (.loop (.connect false)) { s with loop := .backingOff }
  | retry (h : s.loop = .backingOff) : Step s (.loop (.wake true))
      { s with reconnectInterval := s.opts.nextReconnectInterval s.reconnectInterval, loop := .top }
  | giveUp (h : s.loop = .backingOff) (hs : (s.cancelled || s.stopped) = true) :
      Step s (.loop (.wake false)) { s with loop := .returning }
  | establish (h : s.loop = .established) : Step s (.loop .establish)
      { s with reconnectInterval := s.opts.reconnectInterval, state := .connected, loop := .opening }
  | opened (h : s.loop = .opening) : Step s (.loop (.getFlows true)) { s with loop := .polling }
  | refused (h : s.loop = .opening) : Step s (.loop (.getFlows false)) { s with loop := .disconnecting }
  | stopStream (h : s.loop = .polling) (hs : s.stopped = true) :
      Step s (.loop .check) { s with loop := .disconnecting }
  | await (h : s.loop = .polling) (hs : s.stopped = false) : Step s (.loop .check) { s with loop := .receiving }
  | broken (h : s.loop = .receiving) : Step s (.loop (.recv .error)) { s with loop := .disconnecting }
  | skipped {flow : Option Flow} {now : Int} (h : s.loop = .receiving) (hd : drop? (flow, now) = none) :
      Step s (.loop (.recv (.response flow now)))
        { s with responses := s.responses ++ [(flow, now)], loop := .polling }
  | dropped {flow : Option Flow} {now : Int} {drop : FlowDrop} (h : s.loop = .receiving)
      (hd : drop? (flow, now) = some drop) : Step s (.loop (.recv (.response flow now)))
        { s with responses := s.responses ++ [(flow, now)], loop := .recording drop }
  | sent {drop : FlowDrop} (h : s.loop = .recording drop) (ho : s.drops.closed = false) (hroom : s.drops.HasRoom) :
      Step s (.loop .record) { s with drops := s.drops.push drop, loop := .counting }
  | lose {drop : FlowDrop} (h : s.loop = .recording drop) (ho : s.drops.closed = false) (hroom : ¬ s.drops.HasRoom) :
      Step s (.loop .record) { s with lost := s.lost ++ [drop], loop := .polling }
  | sendPanics {drop : FlowDrop} (h : s.loop = .recording drop) (hc : s.drops.closed = true) :
      Step s (.loop .record) { s with panicked := true }
  | count (h : s.loop = .counting) : Step s (.loop .count) { s with flowDrops := s.flowDrops + 1, loop := .polling }
  | hangUp (h : s.loop = .disconnecting) (hc : s.conn = true) :
      Step s (.loop .hangUp) { s with conn := false, hungUp := s.hungUp + 1, loop := .disconnected }
  | hangUpNil (h : s.loop = .disconnecting) (hc : s.conn = false) :
      Step s (.loop .hangUp) { s with loop := .disconnected }
  | reconnect (h : s.loop = .disconnected) : Step s (.loop .reconnect)
      { s with state := .reconnecting, reconnects := s.reconnects + 1, loop := .top }
  | closeDrops (h : s.loop = .returning) (ho : s.drops.closed = false) :
      Step s (.loop .closeDrops) { s with drops := { s.drops with closed := true }, loop := .leaving }
  | closePanics (h : s.loop = .returning) (hc : s.drops.closed = true) :
      Step s (.loop .closeDrops) { s with panicked := true }
  | leave (h : s.loop = .leaving) : Step s (.loop .leave) { s with loop := .done }

variable {s s' : ClientRun} {l : ClientLabel}

theorem step_record {drop : FlowDrop} (h : s.loop = .recording drop) :
    Step s (.loop .record) (s.recordFlowDrop drop) := by
  unfold recordFlowDrop
  cases hc : s.drops.closed with
  | true =>
      rw [Channel.offer, if_pos hc]
      exact .sendPanics h hc
  | false =>
      rw [Channel.offer_of_open hc]
      by_cases hroom : s.drops.HasRoom
      · rw [if_pos hroom]
        exact .sent h hc hroom
      · rw [if_neg hroom]
        exact .lose h hc hroom

theorem step_closeDrops (h : s.loop = .returning) : Step s (.loop .closeDrops) s.closeDrops := by
  unfold closeDrops
  cases hc : s.drops.closed with
  | true =>
      rw [Channel.close, if_pos hc]
      exact .closePanics h hc
  | false =>
      rw [Channel.close_of_open hc]
      exact .closeDrops h hc

theorem step_respond (h : s.loop = .receiving) (flow : Option Flow) (now : Int) :
    Step s (.loop (.recv (.response flow now))) (s.respond flow now) := by
  unfold respond
  cases hd : drop? (flow, now) with
  | none => exact .skipped h hd
  | some drop => exact .dropped h hd

theorem step_of_loopNext {a : LoopAction} (h : s.loopNext a = some s') : Step s (.loop a) s' := by
  unfold loopNext at h
  split at h <;> rename_i hloop <;> try cases h
  · split
    · exact .stop hloop ‹_›
    · exact .dial hloop (Bool.not_eq_true _ ▸ ‹¬ _›)
  · exact .announce hloop
  · exact .connect hloop
  · exact .fail hloop
  · exact .retry hloop
  · split at h
    · cases h
      exact .giveUp hloop ‹_›
    · cases h
  · exact .establish hloop
  · exact .opened hloop
  · exact .refused hloop
  · split
    · exact .stopStream hloop ‹_›
    · exact .await hloop (Bool.not_eq_true _ ▸ ‹¬ _›)
  · exact .broken hloop
  · exact step_respond hloop _ _
  · exact step_record hloop
  · exact .count hloop
  · split
    · exact .hangUp hloop ‹_›
    · exact .hangUpNil hloop (Bool.not_eq_true _ ▸ ‹¬ _›)
  · exact .reconnect hloop
  · exact step_closeDrops hloop
  · exact .leave hloop

theorem step_of_next (h : s.next l = some s') : Step s l s' := by
  unfold next at h
  split at h
  · cases h
  · split at h
    · cases h
      exact .cancel
    · cases h
      exact .close
    · rename_i hloop
      split at h
      · cases h
      · cases h
        exact .closed hloop
    · cases h
    · split at h
      · cases h
        exact .read ‹_›
      · split at h
        · cases h
          exact .drain ‹_› ‹_›
        · cases h
    · exact step_of_loopNext h

structure Delivers (s : ClientRun) : Prop where
  settled : ∃ settled, s.converted = settled ++ s.loop.inHand ∧ s.drops.accepted.Sublist settled ∧
    settled.Perm (s.drops.accepted ++ s.lost)
  counted : s.flowDrops + UInt64.ofNat s.loop.uncounted = UInt64.ofNat s.drops.accepted.length
  bounded : s.drops.buffer.length ≤ s.drops.cap

theorem Delivers.keep (hd : Delivers s) (hresponses : s'.responses = s.responses) (hlost : s'.lost = s.lost)
    (haccepted : s'.drops.accepted = s.drops.accepted) (hcap : s'.drops.cap = s.drops.cap)
    (hbuffer : s'.drops.buffer.length ≤ s.drops.buffer.length) (hcounter : s'.flowDrops = s.flowDrops)
    (hhand : s'.loop.inHand = s.loop.inHand) (huncounted : s'.loop.uncounted = s.loop.uncounted) : Delivers s' := by
  refine ⟨?_, ?_, ?_⟩
  · rw [converted, hresponses, hhand, haccepted, hlost]
    exact hd.settled
  · rw [hcounter, huncounted, haccepted]
    exact hd.counted
  · rw [hcap]
    exact hbuffer.trans hd.bounded

theorem converted_respond (s : ClientRun) (r : Option Flow × Int) :
    (s.responses ++ [r]).filterMap drop? = s.converted ++ (drop? r).toList := by
  rw [List.filterMap_append, converted]
  cases hd : drop? r <;> simp [hd]

theorem Delivers.step (hd : Delivers s) (hs : Step s l s') : Delivers s' := by
  obtain ⟨⟨settled, hconverted, hsublist, hperm⟩, hcounted, hbounded⟩ := id hd
  cases hs with
  | cancel | close | closed h | drain h hc => exact hd.keep rfl rfl rfl rfl le_rfl rfl rfl rfl
  | stop h hs | dial h hs | giveUp h hs | stopStream h hs | await h hs | hangUp h hs | hangUpNil h hs
  | closeDrops h hs =>
      exact hd.keep rfl rfl rfl rfl le_rfl rfl (by rw [h]; rfl) (by rw [h]; rfl)
  | announce h | connect h | fail h | retry h | establish h | opened h | refused h | broken h | reconnect h | leave h =>
      exact hd.keep rfl rfl rfl rfl le_rfl rfl (by rw [h]; rfl) (by rw [h]; rfl)
  | sendPanics h hc | closePanics h hc => exact hd.keep rfl rfl rfl rfl le_rfl rfl rfl rfl
  | read h =>
      obtain ⟨rest, hb, rfl⟩ := Channel.receive_eq_some h
      exact hd.keep rfl rfl rfl rfl (by rw [hb]; exact Nat.le_succ _) rfl rfl rfl
  | skipped h hnone =>
      rw [h] at hconverted hcounted
      refine ⟨⟨settled, ?_, hsublist, hperm⟩, hcounted, hbounded⟩
      rw [converted, converted_respond, hconverted, hnone]
      simp [LoopStage.inHand]
  | dropped h hsome =>
      rw [h] at hconverted hcounted
      refine ⟨⟨settled, ?_, hsublist, hperm⟩, hcounted, hbounded⟩
      rw [converted, converted_respond, hconverted, hsome]
      exact congrArg (· ++ _) (List.append_nil settled)
  | @sent drop h ho hroom =>
      rw [h] at hconverted hcounted
      refine ⟨⟨settled ++ [drop], ?_, hsublist.append (List.Sublist.refl _), ?_⟩, ?_, ?_⟩
      · exact hconverted.trans (List.append_nil _).symm
      · calc settled ++ [drop]
          _ |>.Perm ((s.drops.accepted ++ s.lost) ++ [drop]) := hperm.append_right _
          _ |>.Perm ((s.drops.accepted ++ [drop]) ++ s.lost) := by
              rw [List.append_assoc, List.append_assoc]
              exact List.perm_append_comm.append_left _
      · have hlength : (s.drops.push drop).accepted.length = s.drops.accepted.length + 1 := List.length_append
        rw [hlength, UInt64.ofNat_add, ← hcounted]
        simp [LoopStage.uncounted]
      · have hlength : (s.drops.push drop).buffer.length = s.drops.buffer.length + 1 := List.length_append
        rw [hlength]
        exact hroom
  | @lose drop h ho hroom =>
      rw [h] at hconverted hcounted
      refine ⟨⟨settled ++ [drop], ?_, hsublist.trans (List.sublist_append_left _ _), ?_⟩, hcounted, hbounded⟩
      · exact hconverted.trans (List.append_nil _).symm
      · rw [← List.append_assoc]
        exact hperm.append_right _
  | count h =>
      rw [h] at hconverted hcounted
      refine ⟨⟨settled, hconverted, hsublist, hperm⟩, ?_, hbounded⟩
      rw [← hcounted]
      simp [LoopStage.uncounted]

/-- The connection is held from `connect` on until the stream has ended, and the state and the
counter of reconnects follow it. -/
structure Connects (s : ClientRun) : Prop where
  conn : s.conn = s.loop.dialled
  state : s.state = .connected ↔ s.loop.connected = true
  dialled : s.dialled = s.hungUp + s.conn.toNat
  recorded : s.reconnects + UInt64.ofNat s.loop.unrecorded = UInt64.ofNat s.hungUp

theorem Connects.step (hc : Connects s) (hs : Step s l s') : Connects s' := by
  obtain ⟨hconn, hstate, hdialled, hrecorded⟩ := id hc
  cases hs with
  | cancel | close | closed h | drain h hc | read h | sendPanics h hc | closePanics h hc =>
      exact ⟨hconn, hstate, hdialled, hrecorded⟩
  | stop h hs | dial h hs | giveUp h hs | stopStream h hs | await h hs | closeDrops h hs | skipped h hs
  | dropped h hs =>
      rw [h] at hconn hstate hrecorded
      exact ⟨hconn, hstate, hdialled, hrecorded⟩
  | fail h | retry h | opened h | refused h | broken h | leave h | count h =>
      rw [h] at hconn hstate hrecorded
      exact ⟨hconn, hstate, hdialled, hrecorded⟩
  | sent h ho hroom | lose h ho hroom =>
      rw [h] at hconn hstate hrecorded
      exact ⟨hconn, hstate, hdialled, hrecorded⟩
  | announce h =>
      rw [h] at hconn hrecorded
      exact ⟨hconn, by simp [LoopStage.connected], hdialled, hrecorded⟩
  | establish h =>
      rw [h] at hconn hrecorded
      exact ⟨hconn, by simp [LoopStage.connected], hdialled, hrecorded⟩
  | connect h =>
      rw [h] at hconn hstate hrecorded
      refine ⟨rfl, hstate, ?_, hrecorded⟩
      rw [hdialled, hconn]
      rfl
  | hangUp h hs =>
      rw [h] at hconn hstate hrecorded
      refine ⟨rfl, hstate, ?_, ?_⟩
      · rw [hdialled, hs]
        rfl
      · rw [UInt64.ofNat_add, ← hrecorded]
        simp [LoopStage.unrecorded]
  | hangUpNil h hs =>
      rw [h, hs] at hconn
      cases hconn
  | reconnect h =>
      rw [h] at hconn hrecorded
      refine ⟨hconn, by simp [LoopStage.connected], hdialled, ?_⟩
      rw [← hrecorded]
      simp [LoopStage.unrecorded]

structure Closes (s : ClientRun) : Prop where
  panicked : s.panicked = false
  drops : s.drops.closed = s.loop.dropsClosed
  drained : s.drained = true → s.drops.buffer = [] ∧ s.drops.closed = true
  closed : s.closed = true → s.loop = .done

theorem Closes.keep (hc : Closes s) (hpanicked : s'.panicked = s.panicked) (hdrops : s'.drops = s.drops)
    (hdrained : s'.drained = s.drained) (hclosed : s'.closed = s.closed)
    (hloop : s'.loop.dropsClosed = s.loop.dropsClosed) (hdone : s.loop ≠ .done) : Closes s' := by
  refine ⟨hpanicked.trans hc.panicked, ?_, ?_, ?_⟩
  · rw [hdrops, hloop]
    exact hc.drops
  · rw [hdrained, hdrops]
    exact hc.drained
  · rw [hclosed]
    exact fun h => absurd (hc.closed h) hdone

theorem Closes.step (hc : Closes s) (hs : Step s l s') : Closes s' := by
  obtain ⟨hpanicked, hdrops, hdrained, hclosed⟩ := id hc
  cases hs with
  | cancel | close => exact ⟨hpanicked, hdrops, hdrained, hclosed⟩
  | closed h => exact ⟨hpanicked, hdrops, hdrained, fun _ => h⟩
  | drain h hend => exact ⟨hpanicked, hdrops, fun _ => ⟨Channel.buffer_of_receive_none h, hend⟩, hclosed⟩
  | read h =>
      obtain ⟨rest, hb, rfl⟩ := Channel.receive_eq_some h
      refine ⟨hpanicked, hdrops, fun hd => ?_, hclosed⟩
      rw [(hdrained hd).1] at hb
      cases hb
  | stop h hs | dial h hs | giveUp h hs | stopStream h hs | await h hs | hangUp h hs | hangUpNil h hs | skipped h hs
  | dropped h hs => exact hc.keep rfl rfl rfl rfl (by rw [h]; rfl) (by rw [h]; exact LoopStage.noConfusion)
  | announce h | connect h | fail h | retry h | establish h | opened h | refused h | broken h | reconnect h | count h =>
      exact hc.keep rfl rfl rfl rfl (by rw [h]; rfl) (by rw [h]; exact LoopStage.noConfusion)
  | lose h ho hroom => exact hc.keep rfl rfl rfl rfl (by rw [h]; rfl) (by rw [h]; exact LoopStage.noConfusion)
  | sent h ho hroom =>
      rw [h] at hclosed
      refine ⟨hpanicked, ho, fun hd => ?_, fun hd => LoopStage.noConfusion (hclosed hd)⟩
      rw [(hdrained hd).2] at ho
      cases ho
  | sendPanics h hend | closePanics h hend =>
      rw [h, hend] at hdrops
      cases hdrops
  | closeDrops h ho =>
      rw [h] at hclosed
      refine ⟨hpanicked, rfl, fun hd => ?_, fun hd => LoopStage.noConfusion (hclosed hd)⟩
      rw [(hdrained hd).2] at ho
      cases ho
  | leave h =>
      rw [h] at hdrops
      exact ⟨hpanicked, hdrops, hdrained, fun _ => rfl⟩

structure Sound (s : ClientRun) : Prop where
  delivers : Delivers s
  connects : Connects s
  closes : Closes s

theorem sound_newClient (opts : ClientOptions) (bufferSize : Nat) : Sound (newClient opts bufferSize) where
  delivers := ⟨⟨[], rfl, List.Sublist.refl _, List.Perm.refl _⟩, rfl, Nat.zero_le _⟩
  connects := ⟨rfl, by simp [newClient, LoopStage.connected], rfl, rfl⟩
  closes := ⟨rfl, rfl, Bool.noConfusion, Bool.noConfusion⟩

theorem sound_of_reaches {G : ClientRun → ClientLabel → Prop} (h : system.Reaches G s) : Sound s := by
  refine h.invariant (I := Sound) ?_ ?_
  · rintro _ ⟨opts, bufferSize, rfl⟩
    exact sound_newClient opts bufferSize
  · intro s l s' hs _ hnext
    have hstep := step_of_next hnext
    exact ⟨hs.delivers.step hstep, hs.connects.step hstep, hs.closes.step hstep⟩

/-- What the reader has got and what waits for it are, in the order of the relay, drops that the
relay sent. The others found the channel full, or one is in hand. The counter counts those that
went in, the channel is closed once and not sent to after that, and its end is told only when
nothing waits. -/
theorem drops_delivered (h : system.Reachable s) :
    s.panicked = false ∧ s.drops.buffer.length ≤ s.drops.cap ∧
      (s.drops.received ++ s.drops.buffer).Sublist s.converted ∧
      s.converted.Perm (s.drops.received ++ s.drops.buffer ++ s.lost ++ s.loop.inHand) ∧
      s.flowDrops + UInt64.ofNat s.loop.uncounted = UInt64.ofNat (s.drops.received ++ s.drops.buffer).length ∧
      (s.drained = true → s.drops.buffer = [] ∧ s.loop.dropsClosed = true) := by
  obtain ⟨⟨⟨settled, hconverted, hsublist, hperm⟩, hcounted, hbounded⟩, -, hcloses⟩ := sound_of_reaches h
  rw [s.drops.conserved] at hsublist hperm hcounted
  refine ⟨hcloses.panicked, hbounded, ?_, ?_, hcounted, fun hd => ?_⟩
  · rw [hconverted]
    exact hsublist.trans (List.sublist_append_left _ _)
  · rw [hconverted]
    exact hperm.append_right _
  · rw [← hcloses.drops]
    exact hcloses.drained hd

def Roomy (s : ClientRun) (l : ClientLabel) : Prop := l = .loop .record → s.drops.HasRoom

theorem lost_of_roomy (h : system.Reaches Roomy s) : s.lost = [] := by
  refine h.invariant (I := fun s => s.lost = []) ?_ ?_
  · rintro _ ⟨opts, bufferSize, rfl⟩
    rfl
  · intro s l s' hlost hroomy hnext
    cases step_of_next hnext with
    | lose h ho hroom => exact absurd (hroomy rfl) hroom
    | _ => exact hlost

/-- A reader that keeps the channel from filling up misses nothing. -/
theorem drops_delivered_all (h : system.Reaches Roomy s) :
    s.converted = s.drops.received ++ s.drops.buffer ++ s.loop.inHand := by
  obtain ⟨⟨⟨settled, hconverted, hsublist, hperm⟩, -, -⟩, -, -⟩ := sound_of_reaches h
  rw [lost_of_roomy h, List.append_nil] at hperm
  rw [hconverted, ← s.drops.conserved, hsublist.eq_of_length hperm.length_eq.symm]

section Sample

def webDrop (uuid : String) : Flow where
  verdict := .dropped
  uuid := uuid
  dropReasonDesc := .policyDenied
  time := none
  source := some ⟨1, "clients", "client-0", ["k8s:app=client"], []⟩
  destination := some ⟨2, "shared", "web-0", ["k8s:app=web"], [none, some ⟨"Deployment", "web"⟩]⟩
  ip := none
  l4 := some (.tcp 40000 80 none)

def oneDrop : List ClientLabel :=
  [.loop .select, .loop .announce, .loop (.connect true), .loop .establish, .loop (.getFlows true), .loop .check,
    .loop (.recv (.response (some (webDrop "a")) 0)), .loop .record, .loop .count]

def anotherDrop : List ClientLabel :=
  [.loop .check, .loop (.recv (.response (some (webDrop "b")) 1)), .loop .record, .close]

def hangsUp : List ClientLabel :=
  [.loop .check, .read, .loop .hangUp, .loop .reconnect, .loop .select, .loop .closeDrops, .read, .loop .leave]

def roomy (s : ClientRun) : ClientLabel → Bool
  | .loop .record => decide s.drops.HasRoom
  | _ => true

theorem roomy_sound (s : ClientRun) (l : ClientLabel) (h : roomy s l = true) : Roomy s l := by
  rintro rfl
  exact of_decide_eq_true h

theorem oneDrop_runs : (System.exec next roomy (newClient defaultClientOptions 1) oneDrop).isSome = true := by decide

def streaming : ClientRun := (System.exec next roomy (newClient defaultClientOptions 1) oneDrop).get oneDrop_runs

theorem drops_delivered_all_streaming : streaming.drops.buffer.length = 1 ∧
    streaming.converted = streaming.drops.received ++ streaming.drops.buffer ++ streaming.loop.inHand :=
  ⟨by decide, drops_delivered_all
    ((System.Reaches.init (initial_newClient _ _)).exec roomy_sound (Option.some_get oneDrop_runs).symm)⟩

theorem anotherDrop_runs : (System.exec next (fun _ _ => true) streaming anotherDrop).isSome = true := by decide

def overrun : ClientRun := (System.exec next (fun _ _ => true) streaming anotherDrop).get anotherDrop_runs

theorem reachable_overrun : system.Reachable overrun := by
  have hstreaming : system.Reachable streaming :=
    (System.Reaches.init (initial_newClient _ _)).exec (fun _ _ _ => trivial) (Option.some_get oneDrop_runs).symm
  exact hstreaming.exec (fun _ _ _ => trivial) (Option.some_get anotherDrop_runs).symm

theorem drops_delivered_overrun : overrun.lost.length = 1 ∧ overrun.panicked = false ∧
    overrun.drops.buffer.length ≤ overrun.drops.cap ∧
    (overrun.drops.received ++ overrun.drops.buffer).Sublist overrun.converted ∧
    overrun.converted.Perm
      (overrun.drops.received ++ overrun.drops.buffer ++ overrun.lost ++ overrun.loop.inHand) ∧
    overrun.flowDrops + UInt64.ofNat overrun.loop.uncounted =
      UInt64.ofNat (overrun.drops.received ++ overrun.drops.buffer).length ∧
    (overrun.drained = true → overrun.drops.buffer = [] ∧ overrun.loop.dropsClosed = true) :=
  ⟨by decide, drops_delivered reachable_overrun⟩

theorem hangsUp_runs : (System.exec next (fun _ _ => true) overrun hangsUp).isSome = true := by decide

def hungUpRun : ClientRun := (System.exec next (fun _ _ => true) overrun hangsUp).get hangsUp_runs

theorem reachable_hungUpRun : system.Reachable hungUpRun :=
  reachable_overrun.exec (fun _ _ _ => trivial) (Option.some_get hangsUp_runs).symm

end Sample

end ClientRun

end Nightjar.Hubble
