import Nightjar.Mcp.Sse

namespace Nightjar.Mcp

open Lib

namespace SseServer

variable {s s' : SseServer} {l : SseLabel}

/-- The clients ahead of a running broadcast are registered, each stands there once, and
none of them has this broadcast or a later one of its caller. -/
structure Running (s : SseServer) (c : Nat) (p : Broadcasting) : Prop where
  caller : p.item.caller = c
  seq : p.item.seq + 1 = s.calls c
  registered : ∀ e ∈ p.todo, s.sseClients.lookup e.1 = some e.2
  nodup : (p.todo.map Prod.snd).Nodup
  unsent : ∀ e ∈ p.todo, ∀ b ∈ (s.channels e.2).accepted, b.Before p.item

def Sending (s : SseServer) : Prop := ∀ c p, s.broadcasting.lookup c = some p → s.Running c p

/-- What each channel took is what the send steps delivered, with the broadcasts of every
caller in the caller's order. -/
structure Log (s : SseServer) : Prop where
  accepted : ∀ h, (s.channels h).accepted = s.delivered h
  past : ∀ h, ∀ b ∈ (s.channels h).accepted, b.seq < s.calls b.caller
  ordered : ∀ h, (s.channels h).accepted.Pairwise Broadcast.Before

theorem Sending.of_unlocked (h : s.Unlocked) : s.Sending := by
  intro c p hp
  have : p ∈ s.broadcasting.lookup c := hp
  rw [AList.mem_lookup_iff, h] at this
  cases this

theorem Sending.congr (h : s.Sending) (hb : s'.broadcasting = s.broadcasting) (hr : s'.sseClients = s.sseClients)
    (hcalls : s'.calls = s.calls) (ha : ∀ j, (s'.channels j).accepted = (s.channels j).accepted) : s'.Sending := by
  intro c p hp
  rw [hb] at hp
  have hv := h c p hp
  refine ⟨hv.caller, hcalls ▸ hv.seq, hr ▸ hv.registered, hv.nodup, ?_⟩
  intro e he b hbe
  rw [ha] at hbe
  exact hv.unsent e he b hbe

theorem Log.congr (h : s.Log) (hsends : s'.sends = s.sends) (hcalls : s'.calls = s.calls)
    (ha : ∀ j, (s'.channels j).accepted = (s.channels j).accepted) : s'.Log := by
  refine ⟨fun j => ?_, fun j => ?_, fun j => ?_⟩
  · rw [ha, h.accepted, delivered, delivered, hsends]
  · rw [ha, hcalls]
    exact h.past j
  · rw [ha]
    exact h.ordered j

theorem accepted_setChannel {j : Nat} {ch : Channel Broadcast} (h : ch.accepted = (s.channels j).accepted) (i : Nat) :
    ((s.setChannel j ch).channels i).accepted = (s.channels i).accepted := by
  rw [setChannel_channels]
  split
  · rw [‹i = j›, h]
  · rfl

theorem accepted_push (j : Nat) (b : Broadcast) (i : Nat) :
    ((s.setChannel j ((s.channels j).push b)).channels i).accepted =
      (s.channels i).accepted ++ if j = i then [b] else [] := by
  rw [setChannel_channels]
  by_cases hi : i = j
  · rw [if_pos hi, if_pos hi.symm, hi, Channel.push]
  · rw [if_neg hi, if_neg (Ne.symm hi), List.append_nil]

theorem accepted_unregister {j : Nat} (hopen : (s.channels j).closed = false) (id : String) (i : Nat) :
    ((s.unregister j id).channels i).accepted = (s.channels i).accepted := by
  rw [unregister_channels hopen]
  split
  · rw [‹i = j›]
  · rfl

theorem mem_clients {e : String × Nat} : e ∈ s.clients ↔ s.sseClients.lookup e.1 = some e.2 := by
  have hmem : s.sseClients.lookup e.1 = some e.2 ↔ Sigma.mk e.1 e.2 ∈ s.sseClients.entries := AList.mem_lookup_iff
  rw [hmem, clients, List.mem_map]
  constructor
  · rintro ⟨x, hx, rfl⟩
    exact hx
  · intro h
    exact ⟨_, h, rfl⟩

theorem Registry.clients_nodup (h : s.Registry) : (s.clients.map Prod.snd).Nodup := by
  have hn : s.clients.Nodup := s.sseClients.nodupKeys.nodup.map (fun x y hxy => by cases x; cases y; cases hxy; rfl)
  refine hn.map_on ?_
  intro a ha b hb hab
  have ha' := mem_clients.mp ha
  have hb' := mem_clients.mp hb
  rw [← hab] at hb'
  exact Prod.ext (h.id_eq hb' ha') hab

theorem Sending.startBroadcast (h : s.Sending) (hreg : s.Registry) (hlog : s.Log) {c : Nat} {payload : String}
    {order : List (String × Nat)} (horder : order.Perm s.clients) : (s.startBroadcast c payload order).Sending := by
  intro d p hp
  have hp' : (if d = c then some ⟨⟨c, s.calls c, payload⟩, order⟩ else s.broadcasting.lookup d) = some p :=
    (Table.lookup_insert _ _ _ _).symm.trans hp
  have hcalls : (s.startBroadcast c payload order).calls d = if d = c then s.calls c + 1 else s.calls d :=
    Function.update_apply _ _ _ _
  split at hp'
  · rename_i hd
    cases hp'
    refine ⟨hd.symm, ?_, ?_, ?_, ?_⟩
    · rw [hcalls, if_pos hd]
    · intro e he
      exact mem_clients.mp (horder.mem_iff.mp he)
    · exact (horder.map Prod.snd).nodup_iff.mpr hreg.clients_nodup
    · intro e he b hb hcaller
      have := hlog.past e.2 b hb
      rwa [hcaller] at this
  · have hv := h d p hp'
    refine ⟨hv.caller, ?_, hv.registered, hv.nodup, hv.unsent⟩
    rw [hcalls, if_neg ‹_›]
    exact hv.seq

theorem Log.startBroadcast (h : s.Log) (c : Nat) (payload : String) (order : List (String × Nat)) :
    (s.startBroadcast c payload order).Log := by
  refine ⟨h.accepted, ?_, h.ordered⟩
  intro j b hb
  have hlt := h.past j b hb
  have hcalls : (s.startBroadcast c payload order).calls b.caller =
      if b.caller = c then s.calls c + 1 else s.calls b.caller := Function.update_apply _ _ _ _
  rw [hcalls]
  split
  · rename_i hc
    rw [hc] at hlt
    exact Nat.lt_succ_of_lt hlt
  · exact hlt

section Send

variable {c j : Nat} {b : Broadcast} {id : String} {rest : List (String × Nat)}

theorem sendTo_of_open (hopen : (s.channels j).closed = false) :
    s.sendTo c b id j rest =
      if (s.channels j).HasRoom then (s.record c b id j rest).setChannel j ((s.channels j).push b)
      else s.record c b id j rest := by
  rw [sendTo, Channel.offer_of_open hopen]
  by_cases hroom : (s.channels j).HasRoom
  · rw [if_pos hroom, if_pos hroom]
  · rw [if_neg hroom, if_neg hroom]

theorem record_lookup (d : Nat) : (s.record c b id j rest).broadcasting.lookup d =
    if d = c then some ⟨b, rest⟩ else s.broadcasting.lookup d := Table.lookup_insert _ _ _ _

theorem Registry.took_iff (h : s.Registry) (hid : s.sseClients.lookup id = some j) :
    (s.found b id j).Took ↔ (s.channels j).HasRoom := by
  rw [SendStep.Took, found, Channel.HasRoom, h.cap]
  simp [hid]

theorem delivered_record (i : Nat) : (s.record c b id j rest).delivered i =
    s.delivered i ++ if j = i ∧ (s.found b id j).Took then [b] else [] := by
  rw [delivered, record, List.filter_append, List.map_append, delivered]
  congr 1
  have hclient : (s.found b id j).client = j := rfl
  have hitem : (s.found b id j).item = b := rfl
  by_cases hi : j = i ∧ (s.found b id j).Took
  · obtain ⟨rfl, htook⟩ := hi
    simp [hclient, hitem, htook]
  · simp [hclient, hi]

theorem Sending.record (h : s.Sending) (hc : s.broadcasting.lookup c = some ⟨b, (id, j) :: rest⟩) :
    (s.record c b id j rest).Sending := by
  intro d p hp
  rw [record_lookup] at hp
  split at hp
  · subst d
    cases hp
    have hv := h c _ hc
    exact ⟨hv.caller, hv.seq, fun e he => hv.registered e (List.mem_cons_of_mem _ he), (List.nodup_cons.mp hv.nodup).2,
      fun e he => hv.unsent e (List.mem_cons_of_mem _ he)⟩
  · have hv := h d p hp
    exact ⟨hv.caller, hv.seq, hv.registered, hv.nodup, hv.unsent⟩

theorem Sending.push (h : s.Sending)
    (hb : ∀ d p, s.broadcasting.lookup d = some p → ∀ e ∈ p.todo, e.2 = j → b.Before p.item) :
    (s.setChannel j ((s.channels j).push b)).Sending := by
  intro d p hp
  have hv := h d p hp
  refine ⟨hv.caller, hv.seq, hv.registered, hv.nodup, ?_⟩
  intro e he a ha
  rw [accepted_push] at ha
  rcases List.mem_append.mp ha with ha | ha
  · exact hv.unsent e he a ha
  · split at ha
    · rw [List.mem_singleton.mp ha]
      exact hb d p hp e he (Eq.symm ‹_›)
    · cases ha

/-- After the send step the client is ahead of no running broadcast of the caller. -/
theorem Sending.before (h : s.Sending) (hc : s.broadcasting.lookup c = some ⟨b, (id, j) :: rest⟩) (d : Nat)
    (p : Broadcasting) (hp : (s.record c b id j rest).broadcasting.lookup d = some p) (e : String × Nat)
    (he : e ∈ p.todo) (hej : e.2 = j) : b.Before p.item := by
  have hv := h c _ hc
  rw [record_lookup] at hp
  split at hp
  · cases hp
    exact absurd (List.mem_map.mpr ⟨e, he, hej⟩) (List.nodup_cons.mp hv.nodup).1
  · intro hcaller
    rw [hv.caller, (h d p hp).caller] at hcaller
    exact absurd hcaller.symm ‹_›

theorem Sending.sendTo (h : s.Sending) (hopen : (s.channels j).closed = false)
    (hc : s.broadcasting.lookup c = some ⟨b, (id, j) :: rest⟩) : (s.sendTo c b id j rest).Sending := by
  rw [sendTo_of_open hopen]
  split
  · exact (h.record hc).push (h.before hc)
  · exact h.record hc

theorem Log.sendTo (h : s.Log) (hreg : s.Registry) (hsending : s.Sending)
    (hc : s.broadcasting.lookup c = some ⟨b, (id, j) :: rest⟩) : (s.sendTo c b id j rest).Log := by
  have hv := hsending c _ hc
  have hid : s.sseClients.lookup id = some j := hv.registered _ List.mem_cons_self
  have htook := hreg.took_iff (b := b) hid
  rw [sendTo_of_open (hreg.opened id j hid)]
  split
  · rename_i hroom
    have hacc : ∀ i, (((s.record c b id j rest).setChannel j ((s.channels j).push b)).channels i).accepted =
        (s.channels i).accepted ++ if j = i then [b] else [] := accepted_push j b
    refine ⟨fun i => ?_, fun i => ?_, fun i => ?_⟩
    · have hd : (s.record c b id j rest).delivered i = _ := delivered_record i
      simp only [htook.mpr hroom, and_true] at hd
      rw [hacc, h.accepted]
      exact hd.symm
    · rw [hacc]
      intro a ha
      rcases List.mem_append.mp ha with ha | ha
      · exact h.past i a ha
      · split at ha
        · rw [List.mem_singleton.mp ha, hv.caller]
          exact Nat.lt_of_succ_le (le_of_eq hv.seq)
        · cases ha
    · rw [hacc]
      split
      · rename_i hi
        refine List.pairwise_append.mpr ⟨h.ordered i, List.pairwise_singleton _ _, ?_⟩
        intro a ha a' ha'
        rw [List.mem_singleton.mp ha']
        exact hv.unsent _ List.mem_cons_self a (hi ▸ ha)
      · rw [List.append_nil]
        exact h.ordered i
  · rename_i hroom
    refine ⟨fun i => ?_, h.past, h.ordered⟩
    rw [delivered_record, if_neg (fun hi => hroom (htook.mp hi.2)), List.append_nil]
    exact h.accepted i

theorem Registry.sendTo (h : s.Registry) (hid : s.sseClients.lookup id = some j) :
    (s.sendTo c b id j rest).Registry := by
  have hrec : (s.record c b id j rest).Registry :=
    ⟨h.panicked, h.counted, h.connected, h.opened, h.made, h.cap⟩
  rw [sendTo_of_open (h.opened id j hid)]
  split
  · refine hrec.setChannel ?_ rfl rfl
    intro hj
    exact h.unseen (by rw [show s.handlers j = .waiting from hj, Handler.clientID]) id hid
  · exact hrec

end Send

structure Inv (s : SseServer) : Prop where
  registry : s.Registry
  sending : s.Sending
  log : s.Log

theorem Inv.step (h : s.Inv) (hs : Step s l s') : s'.Inv := by
  obtain ⟨hreg, hsending, hlog⟩ := h
  cases hs with
  | connect hh hlock =>
      refine ⟨hreg.register hh, .of_unlocked hlock, hlog.congr rfl rfl (fun j => ?_)⟩
      rw [hreg.register_channels hh]
  | @read j id b rest hh hb =>
      have ha : ∀ i, ((s.setChannel j ((s.channels j).pop hb)).channels i).accepted = (s.channels i).accepted :=
        accepted_setChannel rfl
      exact ⟨hreg.setChannel (by rw [hh]; exact Handler.noConfusion) rfl rfl, hsending.congr rfl rfl rfl ha,
        hlog.congr rfl rfl ha⟩
  | readClosed hh | hangUp hh =>
      exact ⟨hreg.leave hh, hsending.congr rfl rfl rfl (fun _ => rfl), hlog.congr rfl rfl (fun _ => rfl)⟩
  | @disconnect j id hh hlock =>
      have hopen : (s.channels j).closed = false := hreg.open_of_connected (by rw [hh, Handler.clientID])
      have heq := unregister_of_open hopen id
      refine ⟨hreg.unregister hh, .of_unlocked ?_, hlog.congr ?_ ?_ (accepted_unregister hopen id)⟩
      · rw [heq]
        exact hlock
      · rw [heq]
        rfl
      · rw [heq]
        rfl
  | broadcast hc horder =>
      exact ⟨⟨hreg.panicked, hreg.counted, hreg.connected, hreg.opened, hreg.made, hreg.cap⟩,
        hsending.startBroadcast hreg hlog horder, hlog.startBroadcast _ _ _⟩
  | unmarshalled => exact ⟨hreg, hsending, hlog⟩
  | send hc =>
      have hid := (hsending _ _ hc).registered _ List.mem_cons_self
      exact ⟨hreg.sendTo hid, hsending.sendTo (hreg.opened _ _ hid) hc, hlog.sendTo hreg hsending hc⟩
  | @finish c b hc =>
      refine ⟨⟨hreg.panicked, hreg.counted, hreg.connected, hreg.opened, hreg.made, hreg.cap⟩, ?_,
        hlog.congr rfl rfl (fun _ => rfl)⟩
      intro d p hp
      have hp' : (if d = c then none else s.broadcasting.lookup d) = some p :=
        (Table.lookup_erase _ _ _).symm.trans hp
      split at hp'
      · cases hp'
      · have hv := hsending d p hp'
        exact ⟨hv.caller, hv.seq, hv.registered, hv.nodup, hv.unsent⟩

theorem inv_of_reachable (h : system.Reachable s) : s.Inv := by
  refine h.invariant (I := Inv) ?_ (fun s l s' hinv _ hn => hinv.step (step_of_next hn))
  rintro s rfl
  refine ⟨⟨rfl, ?_, ?_, ?_, fun _ _ => rfl, fun _ => rfl⟩, .of_unlocked rfl, ⟨fun _ => rfl, ?_, ?_⟩⟩
  · intro id h hl
    cases hl
  · intro id h
    exact ⟨nofun, nofun⟩
  · intro id h hl
    cases hl
  · intro h b hb
    cases hb
  · intro h
    exact .nil

theorem exec_reads {h : Nat} {id : String} (hrun : s.panicked = false) (hh : s.handlers h = .streaming id) :
    ∃ s', System.exec next (fun _ _ => true) s (List.replicate (s.channels h).buffer.length (.read h)) = some s' ∧
      (s'.channels h).received = (s.channels h).received ++ (s.channels h).buffer := by
  generalize hbuf : (s.channels h).buffer = buffer
  induction buffer generalizing s with
  | nil => exact ⟨s, rfl, (List.append_nil _).symm⟩
  | cons b rest ih =>
      have hread : s.next (.read h) = some (s.setChannel h ((s.channels h).pop hbuf)) := by
        simp [next, hrun, hh, Channel.receive_of_buffer hbuf]
      have hch : (s.setChannel h ((s.channels h).pop hbuf)).channels h = (s.channels h).pop hbuf := by
        rw [setChannel_channels, if_pos rfl]
      obtain ⟨s', hexec, hs'⟩ := ih (s := s.setChannel h ((s.channels h).pop hbuf)) hrun hh (by rw [hch]; rfl)
      refine ⟨s', ?_, ?_⟩
      · rw [List.length_cons, List.replicate_succ, System.exec, if_pos rfl, hread]
        exact hexec
      · rw [hs', hch, Channel.pop, List.append_assoc, List.singleton_append]

theorem Inv.returned (h : s.Inv) {j : Nat} (hj : s.handlers j = .returned) (hs : Step s l s') :
    s'.handlers j = .returned ∧ s'.channels j = s.channels j := by
  have hne : ∀ {i : Nat} {st : Handler}, s.handlers i = st → st ≠ .returned → j ≠ i := by
    rintro i st hi hst rfl
    exact hst (hi.symm.trans hj)
  cases hs with
  | connect hh =>
      have hji := hne hh Handler.noConfusion
      rw [register_handlers, if_neg hji, h.registry.register_channels hh]
      exact ⟨hj, rfl⟩
  | read hh =>
      rw [setChannel_channels, if_neg (hne hh Handler.noConfusion)]
      exact ⟨hj, rfl⟩
  | readClosed hh | hangUp hh =>
      rw [setHandler_handlers, if_neg (hne hh Handler.noConfusion)]
      exact ⟨hj, rfl⟩
  | @disconnect i id hh =>
      have hji := hne hh Handler.noConfusion
      have hopen : (s.channels i).closed = false := h.registry.open_of_connected (by rw [hh, Handler.clientID])
      rw [unregister_handlers hopen, unregister_channels hopen, if_neg hji, if_neg hji]
      exact ⟨hj, rfl⟩
  | @send c b id i rest hc =>
      have hid := (h.sending _ _ hc).registered _ List.mem_cons_self
      have hji : j ≠ i := by
        rintro rfl
        exact h.registry.unseen (by rw [hj, Handler.clientID]) id hid
      rw [sendTo_of_open (h.registry.opened _ _ hid)]
      split
      · rw [setChannel_channels, if_neg hji]
        exact ⟨hj, rfl⟩
      · exact ⟨hj, rfl⟩
  | broadcast | unmarshalled | finish => exact ⟨hj, rfl⟩

/-- Nothing is sent on a closed channel and none is closed twice, the connected clients
have distinct IDs, and each client reads in order what was delivered to it. What it has
not read is in its buffer: it gets that by reading on, and a disconnect leaves it there. -/
theorem sse_delivery (hs : system.Reachable s) :
    s.panicked = false ∧
      (∀ id h h', (s.handlers h).clientID = some id → (s.handlers h').clientID = some id → h = h') ∧
      ∀ h, s.delivered h = (s.channels h).received ++ (s.channels h).buffer ∧
        (s.channels h).received.Nodup ∧ (s.channels h).received.Pairwise Broadcast.Before ∧
        (∀ id, s.handlers h = .streaming id → ∃ s',
          System.exec next (fun _ _ => true) s (List.replicate (s.channels h).buffer.length (.read h)) = some s' ∧
          (s'.channels h).received = s.delivered h) ∧
        (s.handlers h = .returned → ∀ l s', s.next l = some s' →
          s'.handlers h = .returned ∧ s'.channels h = s.channels h) := by
  have hinv := inv_of_reachable hs
  refine ⟨hinv.registry.panicked, ?_, fun h => ?_⟩
  · intro id h h' hh hh'
    rw [hinv.registry.connected] at hh hh'
    exact Option.some.inj (hh.symm.trans hh')
  · have hcons : s.delivered h = (s.channels h).received ++ (s.channels h).buffer :=
      (hinv.log.accepted h).symm.trans (s.channels h).conserved
    have hord : (s.channels h).received.Pairwise Broadcast.Before := by
      have := hinv.log.ordered h
      rw [(s.channels h).conserved] at this
      exact (List.pairwise_append.mp this).1
    refine ⟨hcons, hord.imp ?_, hord, fun id hh => ?_, fun hh l s' hn => hinv.returned hh (step_of_next hn)⟩
    · rintro a b hab rfl
      exact lt_irrefl _ (hab rfl)
    · rw [hcons]
      exact exec_reads hinv.registry.panicked hh

/-- Two broadcasts that overlap: client 0 gets both, the later one first, and client 1
leaves with one of them unread. -/
def overlapped : SseServer :=
  (System.exec next (fun _ _ => true) {}
    [.connect 0, .connect 1,
      .broadcast 7 (some "a") [("client-1", 0), ("client-2", 1)],
      .broadcast 8 (some "b") [("client-1", 0), ("client-2", 1)],
      .send 8, .send 7, .send 7, .send 8, .finish 7, .finish 8, .read 0, .read 1, .hangUp 1, .disconnect 1]).get
    (by decide +kernel)

theorem sse_delivery_overlapped :
    overlapped.delivered 0 = [⟨8, 0, "b"⟩, ⟨7, 0, "a"⟩] ∧ overlapped.handlers 0 = .streaming "client-1" ∧
      overlapped.delivered 1 = [⟨7, 0, "a"⟩, ⟨8, 0, "b"⟩] ∧ (overlapped.channels 1).received = [⟨7, 0, "a"⟩] ∧
      overlapped.panicked = false ∧
      ∀ h, overlapped.delivered h = (overlapped.channels h).received ++ (overlapped.channels h).buffer := by
  have hs : system.Reachable overlapped := .exec (fun _ _ _ => trivial) (.init rfl) (Option.some_get _).symm
  refine ⟨by decide +kernel, by decide +kernel, by decide +kernel, by decide +kernel, (sse_delivery hs).1, ?_⟩
  exact fun h => ((sse_delivery hs).2.2 h).1

end SseServer

end Nightjar.Mcp
