import Mathlib.Logic.Function.Basic

namespace Nightjar.Lib

variable {κ ν : Type}

/-- A copy of a source that is kept by sessions: a session starts with what the source
holds and goes on with its changes, and between sessions nothing is heard. -/
structure Follower (κ ν : Type) where
  source : κ → Option ν
  copy : κ → Option ν
  pending : Option (List (κ × Option ν))

namespace Follower

inductive Action (κ ν : Type) where
  | change (k : κ) (v : Option ν)
  | start (held : List (κ × ν))
  | deliver
  | stop

def Lists (source : κ → Option ν) (held : List (κ × ν)) : Prop := ∀ k v, (k, v) ∈ held ↔ source k = some v

/-- A session starts only when the source still has every key of the copy. -/
def NoneGone (s : Follower κ ν) : Action κ ν → Prop
  | .start _ => ∀ k, (s.copy k).isSome → (s.source k).isSome
  | .change _ _ | .deliver | .stop => True

variable [DecidableEq κ]

def put (f : κ → Option ν) (c : κ × Option ν) : κ → Option ν := Function.update f c.1 c.2

inductive Step : Follower κ ν → Action κ ν → Follower κ ν → Prop
  | change (s : Follower κ ν) (k : κ) (v : Option ν) :
      Step s (.change k v) { s with source := put s.source (k, v), pending := s.pending.map (· ++ [(k, v)]) }
  | start (s : Follower κ ν) (held : List (κ × ν)) (hp : s.pending = none) (hl : Lists s.source held) :
      Step s (.start held) { s with pending := some (held.map (fun e => (e.1, some e.2))) }
  | deliver (s : Follower κ ν) (c : κ × Option ν) (rest : List (κ × Option ν)) (hp : s.pending = some (c :: rest)) :
      Step s .deliver { s with copy := put s.copy c, pending := some rest }
  | stop (s : Follower κ ν) (rest : List (κ × Option ν)) (hp : s.pending = some rest) :
      Step s .stop { s with pending := none }

def Synced (s : Follower κ ν) : Prop := ∀ rest, s.pending = some rest → rest.foldl put s.copy = s.source

theorem foldl_put_held (held : List (κ × ν)) (f : κ → Option ν) (k : κ) :
    (held.map (fun e => (e.1, some e.2))).foldl put f k = f k ∧ (∀ v, (k, v) ∉ held) ∨
      ∃ v, (k, v) ∈ held ∧ (held.map (fun e => (e.1, some e.2))).foldl put f k = some v := by
  induction held generalizing f with
  | nil => exact .inl ⟨rfl, fun _ => List.not_mem_nil⟩
  | cons e held ih =>
      rw [List.map_cons, List.foldl_cons]
      obtain ⟨hkeep, hnot⟩ | ⟨v, hmem, hset⟩ := ih (put f (e.1, some e.2))
      · rw [hkeep, put, Function.update_apply]
        split
        · rename_i hk
          exact .inr ⟨e.2, by rw [hk]; exact List.mem_cons_self, rfl⟩
        · rename_i hk
          refine .inl ⟨rfl, fun v hv => ?_⟩
          obtain he | hv := List.mem_cons.mp hv
          · exact hk (congrArg Prod.fst he)
          · exact hnot v hv
      · exact .inr ⟨v, List.mem_cons_of_mem e hmem, hset⟩

theorem foldl_put_eq_source_iff {s : Follower κ ν} {held : List (κ × ν)} (hl : Lists s.source held) :
    (held.map (fun e => (e.1, some e.2))).foldl put s.copy = s.source ↔ s.NoneGone (.start held) := by
  constructor
  · intro h k hk
    rw [← h]
    obtain ⟨hkeep, -⟩ | ⟨v, -, hset⟩ := foldl_put_held held s.copy k
    · rwa [hkeep]
    · rw [hset]
      rfl
  · intro h
    funext k
    obtain ⟨hkeep, hnot⟩ | ⟨v, hmem, hset⟩ := foldl_put_held held s.copy k
    · have hsource : s.source k = none :=
        Option.eq_none_iff_forall_ne_some.mpr (fun v hv => hnot v ((hl k v).mpr hv))
      rw [hkeep, hsource]
      refine Option.not_isSome_iff_eq_none.mp (fun hk => ?_)
      have hsome := h k hk
      rw [hsource] at hsome
      cases hsome
    · rw [hset, (hl k v).mp hmem]

theorem Synced.step {s s' : Follower κ ν} {a : Action κ ν} (h : s.Synced) (hg : s.NoneGone a) (hs : Step s a s') :
    s'.Synced := by
  cases hs with
  | change k v =>
      intro rest hrest
      obtain ⟨rest', hrest', rfl⟩ := Option.map_eq_some_iff.mp hrest
      rw [List.foldl_append, h rest' hrest']
      rfl
  | start held hp hl =>
      rintro rest ⟨⟩
      exact (foldl_put_eq_source_iff hl).mpr hg
  | deliver c rest hp =>
      rintro rest' ⟨⟩
      exact h (c :: rest) hp
  | stop rest hp => rintro rest' ⟨⟩

theorem Synced.copy_eq {s : Follower κ ν} (h : s.Synced) (hp : s.pending = some []) : s.copy = s.source := h [] hp

end Follower

end Nightjar.Lib
