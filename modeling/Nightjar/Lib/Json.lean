import Nightjar.Lib.Strings
import Nightjar.Lib.Float64

namespace Nightjar.Lib

def isNumberChar (c : Char) : Bool := c.isDigit || c ∈ ['+', '-', '.', 'e']

structure NumberText where
  chars : List Char
  ne_nil : chars ≠ []
  isNumberChar : ∀ c ∈ chars, isNumberChar c = true

namespace NumberText

open Float64 (roundEven)

theorem isNumberChar_toDigits {n : Nat} {c : Char} (hc : c ∈ Nat.toDigits 10 n) : Lib.isNumberChar c = true := by
  rw [Lib.isNumberChar, Nat.isDigit_of_mem_toDigits (by decide) (by decide) hc, Bool.true_or]

def carried (m e : Int) : Nat × Int := if m % 10 = 0 then ((m / 10).toNat, e + 1) else (m.toNat, e)

/-- The fewest significant digits that read back as the number, and the power of
ten they are multiplied with. -/
def shortest (q : Rat) : Nat × Int :=
  let e := Int.log 10 |q|
  let candidate (n : Nat) : Option (Nat × Int) :=
    let scaled : Rat := |q| / 10 ^ (e - n)
    let readsBack (m : Int) : Bool := decide (Float64.round (m * 10 ^ (e - n)) = |q|)
    ([roundEven scaled, ⌊scaled⌋, ⌊scaled⌋ + 1].find? readsBack).map (carried · (e - n))
  ((List.range 17).findSome? candidate).getD ((roundEven (|q| / 10 ^ (e - 16))).toNat, e - 16)

/-- The digits of a number with the decimal point put at its place. -/
def fixed (ds : List Char) (exponent : Int) : List Char :=
  if 0 ≤ exponent then ds ++ List.replicate exponent.toNat '0'
  else if exponent.natAbs < ds.length then
    ds.take (ds.length - exponent.natAbs) ++ '.' :: ds.drop (ds.length - exponent.natAbs)
  else '0' :: '.' :: (List.replicate (exponent.natAbs - ds.length) '0' ++ ds)

def scientific (ds : List Char) (exponent : Int) : List Char :=
  ds.take 1 ++ (if ds.length ≤ 1 then [] else '.' :: ds.drop 1) ++
    'e' :: (if exponent + ds.length - 1 < 0 then '-' else '+') ::
      Nat.toDigits 10 (exponent + ds.length - 1).natAbs

section Digits
variable {ds : List Char} (hds : ∀ c ∈ ds, Lib.isNumberChar c = true) (exponent : Int)
include hds

theorem isNumberChar_fixed {c : Char} (hc : c ∈ fixed ds exponent) : Lib.isNumberChar c = true := by
  have hzero {n : Nat} (hm : c ∈ List.replicate n '0') : Lib.isNumberChar c = true := by
    rw [List.eq_of_mem_replicate hm]
    rfl
  rw [fixed] at hc
  split_ifs at hc
  · rcases List.mem_append.mp hc with hc | hc
    · exact hds c hc
    · exact hzero hc
  · rcases List.mem_append.mp hc with hc | hc
    · exact hds c (List.mem_of_mem_take hc)
    · rcases List.mem_cons.mp hc with rfl | hc
      · rfl
      · exact hds c (List.mem_of_mem_drop hc)
  · rcases List.mem_cons.mp hc with rfl | hc
    · rfl
    · rcases List.mem_cons.mp hc with rfl | hc
      · rfl
      · rcases List.mem_append.mp hc with hc | hc
        · exact hzero hc
        · exact hds c hc

theorem isNumberChar_scientific {c : Char} (hc : c ∈ scientific ds exponent) : Lib.isNumberChar c = true := by
  rw [scientific, List.mem_append, List.mem_append, List.mem_cons, List.mem_cons] at hc
  rcases hc with (hc | hc) | rfl | rfl | hc
  · exact hds c (List.mem_of_mem_take hc)
  · split at hc
    · cases hc
    · rcases List.mem_cons.mp hc with rfl | hc
      · rfl
      · exact hds c (List.mem_of_mem_drop hc)
  · rfl
  · split <;> rfl
  · exact isNumberChar_toDigits hc

end Digits

theorem fixed_ne_nil {ds : List Char} (hds : ds ≠ []) (exponent : Int) : fixed ds exponent ≠ [] := by
  rw [fixed]
  split_ifs
  · simp [hds]
  · simp
  · simp

theorem scientific_ne_nil (ds : List Char) (exponent : Int) : scientific ds exponent ≠ [] := by
  simp [scientific]

def magnitude (q : Rat) : List Char :=
  if |q| < 1 / 1000000 ∨ 1000000000000000000000 ≤ |q| then scientific (Nat.toDigits 10 (shortest q).1) (shortest q).2
  else fixed (Nat.toDigits 10 (shortest q).1) (shortest q).2

/-- How `encoding/json` writes a `float64`. -/
def ofFloat64 (q : Rat) : NumberText where
  chars := if q = 0 then ['0'] else (if q < 0 then ['-'] else []) ++ magnitude q
  ne_nil := by
    have hne : magnitude q ≠ [] := by
      rw [magnitude]
      split
      · exact scientific_ne_nil _ _
      · exact fixed_ne_nil Nat.toDigits_ne_nil _
    split
    · simp
    · simp [hne]
  isNumberChar c hc := by
    have hmag (hm : c ∈ magnitude q) : Lib.isNumberChar c = true := by
      rw [magnitude] at hm
      split at hm
      · exact isNumberChar_scientific (fun _ => isNumberChar_toDigits) _ hm
      · exact isNumberChar_fixed (fun _ => isNumberChar_toDigits) _ hm
    split at hc
    · rw [List.mem_singleton.mp hc]
      rfl
    · rcases List.mem_append.mp hc with hc | hc
      · split at hc
        · rw [List.mem_singleton.mp hc]
          rfl
        · cases hc
      · exact hmag hc

end NumberText

inductive Json where
  | null
  | bool (b : Bool)
  | num (n : NumberText)
  | str (s : String)
  | arr (xs : List Json)
  | obj (fields : List (String × Json))

namespace Json

open Strings

def shortEscape (c : Char) : Option Char :=
  if c = '"' then some '"'
  else if c = '\\' then some '\\'
  else if c = '\x08' then some 'b'
  else if c = '\x0c' then some 'f'
  else if c = '\n' then some 'n'
  else if c = '\r' then some 'r'
  else if c = '\t' then some 't'
  else none

def shortUnescape (e : Char) : Char :=
  if e = 'b' then '\x08'
  else if e = 'f' then '\x0c'
  else if e = 'n' then '\n'
  else if e = 'r' then '\r'
  else if e = 't' then '\t'
  else e

def Escaped (c : Char) : Prop :=
  c.toNat < 32 ∨ c = '<' ∨ c = '>' ∨ c = '&' ∨ c.toNat = 0x2028 ∨ c.toNat = 0x2029

instance (c : Char) : Decidable (Escaped c) := inferInstanceAs (Decidable (_ ∨ _))

def escape (c : Char) : List Char :=
  match shortEscape c with
  | some e => ['\\', e]
  | none => if Escaped c then '\\' :: 'u' :: hex 4 c.toNat else [c]

def quoted (s : String) : List Char := '"' :: (s.toList.flatMap escape ++ ['"'])

def get? : Json → String → Option Json
  | obj fields, key => fields.lookup key
  | _, _ => none

mutual

/-- The text `json.Marshal` writes, with its escapes of HTML characters. -/
def render : Json → List Char
  | null => ['n', 'u', 'l', 'l']
  | bool true => ['t', 'r', 'u', 'e']
  | bool false => ['f', 'a', 'l', 's', 'e']
  | num n => n.chars
  | str s => quoted s
  | arr [] => ['[', ']']
  | arr (x :: xs) => '[' :: (render x ++ items xs)
  | obj [] => ['\x7b', '\x7d']
  | obj ((k, v) :: fields) => '\x7b' :: (quoted k ++ ':' :: (render v ++ members fields))

def items : List Json → List Char
  | [] => [']']
  | x :: xs => ',' :: (render x ++ items xs)

def members : List (String × Json) → List Char
  | [] => ['\x7d']
  | (k, v) :: fields => ',' :: (quoted k ++ ':' :: (render v ++ members fields))

end

def text (j : Json) : String := String.ofList j.render

theorem shortUnescape_of_shortEscape {c e : Char} (h : shortEscape c = some e) : shortUnescape e = c ∧ e ≠ 'u' := by
  rw [shortEscape] at h
  split_ifs at h with h₁ h₂ h₃ h₄ h₅ h₆ h₇
  all_goals
    cases h
    subst c
    decide

theorem digitChar_inj {m n : Nat} (hm : m < 16) (hn : n < 16) (h : Nat.digitChar m = Nat.digitChar n) : m = n := by
  have hall : ∀ i j : Fin 16, Nat.digitChar i = Nat.digitChar j → i = j := by decide
  exact congrArg Fin.val (hall ⟨m, hm⟩ ⟨n, hn⟩ h)

theorem hex_inj {width m n : Nat} (hm : m < 16 ^ width) (hn : n < 16 ^ width) (h : hex width m = hex width n) :
    m = n := by
  have hmod : m % 16 ^ width = n % 16 ^ width := by
    clear hm hn
    induction width with
    | zero => simp [Nat.mod_one]
    | succ width ih =>
        rw [hex, hex, List.cons.injEq] at h
        have hdigit := digitChar_inj (Nat.mod_lt _ (by decide)) (Nat.mod_lt _ (by decide)) h.1
        have hrest := ih h.2
        rw [Nat.pow_succ, Nat.mod_mul, Nat.mod_mul, hdigit, hrest]
  rwa [Nat.mod_eq_of_lt hm, Nat.mod_eq_of_lt hn] at hmod

/-- The three ways a character is written in a string. -/
inductive Written (c : Char) : List Char → Prop
  | short {e : Char} (h : shortEscape c = some e) : Written c ['\\', e]
  | code (h : c.toNat < 16 ^ 4) : Written c ('\\' :: 'u' :: hex 4 c.toNat)
  | plain (hquote : c ≠ '"') (hslash : c ≠ '\\') : Written c [c]

theorem written_escape (c : Char) : Written c (escape c) := by
  rw [escape]
  split
  · rename_i e he
    exact .short he
  · rename_i hnone
    split
    · rename_i hc
      refine .code ?_
      rcases hc with h | rfl | rfl | rfl | h | h
      · exact h.trans (by decide)
      · decide
      · decide
      · decide
      · rw [h]
        decide
      · rw [h]
        decide
    · refine .plain ?_ ?_
      · rintro rfl
        cases hnone
      · rintro rfl
        cases hnone

theorem length_hex (width n : Nat) : (hex width n).length = width := by
  induction width with
  | zero => rfl
  | succ width ih => rw [hex, List.length_cons, ih]

theorem Written.append_inj {c d : Char} {x y u v : List Char} (hx : Written c x) (hy : Written d y)
    (h : x ++ u = y ++ v) : c = d ∧ u = v := by
  cases hx with
  | short hc =>
      obtain ⟨hback, hu⟩ := shortUnescape_of_shortEscape hc
      cases hy with
      | short hd =>
          injection h with _ h
          injection h with he h
          subst he
          exact ⟨hback.symm.trans (shortUnescape_of_shortEscape hd).1, h⟩
      | code => exact absurd (List.cons.inj (List.cons.inj h).2).1 hu
      | plain _ hd => exact absurd (List.cons.inj h).1.symm hd
  | code hc =>
      cases hy with
      | short hd => exact absurd (List.cons.inj (List.cons.inj h).2).1.symm (shortUnescape_of_shortEscape hd).2
      | code hd =>
          injection h with _ h
          injection h with _ h
          obtain ⟨hhex, huv⟩ := List.append_inj h (by rw [length_hex, length_hex])
          exact ⟨Char.toNat_inj.mp (hex_inj hc hd hhex), huv⟩
      | plain _ hd => exact absurd (List.cons.inj h).1.symm hd
  | plain _ hc =>
      cases hy with
      | short | code => exact absurd (List.cons.inj h).1 hc
      | plain => exact List.cons.inj h

theorem Written.head_ne_quote {c : Char} {x u : List Char} (hx : Written c x) : (x ++ u).head? ≠ some '"' := by
  cases hx with
  | short | code => simp
  | plain hc => simpa using hc

theorem body_append_inj {s t u v : List Char} (h : s.flatMap escape ++ '"' :: u = t.flatMap escape ++ '"' :: v) :
    s = t ∧ u = v := by
  induction s generalizing t with
  | nil =>
      cases t with
      | nil => exact ⟨rfl, (List.cons.inj h).2⟩
      | cons d ds =>
          rw [List.flatMap_cons, List.append_assoc] at h
          exact absurd (congrArg List.head? h.symm) ((written_escape d).head_ne_quote)
  | cons c cs ih =>
      cases t with
      | nil =>
          rw [List.flatMap_cons, List.append_assoc] at h
          exact absurd (congrArg List.head? h) ((written_escape c).head_ne_quote)
      | cons d ds =>
          rw [List.flatMap_cons, List.flatMap_cons, List.append_assoc, List.append_assoc] at h
          obtain ⟨rfl, hrest⟩ := (written_escape c).append_inj (written_escape d) h
          obtain ⟨rfl, huv⟩ := ih hrest
          exact ⟨rfl, huv⟩

theorem quoted_append_inj {s t : String} {u v : List Char} (h : quoted s ++ u = quoted t ++ v) : s = t ∧ u = v := by
  simp only [quoted, List.cons_append, List.append_assoc, List.nil_append, List.cons.injEq, true_and] at h
  obtain ⟨hst, huv⟩ := body_append_inj h
  exact ⟨String.toList_inj.mp hst, huv⟩

/-- What follows a value does not continue a number. -/
def Ends (u : List Char) : Prop := ∀ c ∈ u.head?, isNumberChar c = false

theorem digits_append_inj {x y u v : List Char} (hx : ∀ c ∈ x, isNumberChar c = true)
    (hy : ∀ c ∈ y, isNumberChar c = true) (hu : Ends u) (hv : Ends v) (h : x ++ u = y ++ v) : x = y ∧ u = v := by
  have hsplit {x u : List Char} (hx : ∀ c ∈ x, isNumberChar c = true) (hu : Ends u) :
      (x ++ u).takeWhile isNumberChar = x := by
    rw [List.takeWhile_append_of_pos (by simpa using hx)]
    cases u with
    | nil => simp
    | cons c cs => simp [hu c rfl]
  have hxy : x = y := by rw [← hsplit hx hu, h, hsplit hy hv]
  subst hxy
  exact ⟨rfl, List.append_cancel_left h⟩

/-- The first character of a value, with one for all numbers. -/
def lead : Json → Char
  | null => 'n'
  | bool true => 't'
  | bool false => 'f'
  | num _ => '0'
  | str _ => '"'
  | arr _ => '['
  | obj _ => '\x7b'

def leadOf (c : Char) : Char := if isNumberChar c then '0' else c

theorem render_lead (j : Json) : ∃ c rest, render j = c :: rest ∧ leadOf c = lead j := by
  rcases j with _ | b | ⟨chars, hne, hmem⟩ | s | xs | fields
  · exact ⟨_, _, rfl, rfl⟩
  · cases b <;> exact ⟨_, _, rfl, rfl⟩
  · obtain ⟨c, cs, rfl⟩ := List.exists_cons_of_ne_nil hne
    exact ⟨c, cs, rfl, if_pos (hmem c List.mem_cons_self)⟩
  · exact ⟨_, _, rfl, rfl⟩
  · cases xs <;> exact ⟨_, _, rfl, rfl⟩
  · cases fields <;> exact ⟨_, _, rfl, rfl⟩

theorem lead_eq {j j' : Json} {u v : List Char} (h : render j ++ u = render j' ++ v) : lead j = lead j' := by
  obtain ⟨c, rest, hr, hc⟩ := render_lead j
  obtain ⟨c', rest', hr', hc'⟩ := render_lead j'
  rw [hr, hr', List.cons_append, List.cons_append, List.cons.injEq] at h
  rw [← hc, ← hc', h.1]

theorem lead_ne_close (j : Json) : lead j ≠ ']' := by
  rcases j with _ | b | n | s | xs | fields
  case bool => cases b <;> simp [lead]
  all_goals simp [lead]

inductive SameShape : Json → Json → Prop
  | null : SameShape null null
  | bool (b : Bool) : SameShape (bool b) (bool b)
  | num (m n : NumberText) : SameShape (num m) (num n)
  | str (s t : String) : SameShape (str s) (str t)
  | arr (xs ys : List Json) : SameShape (arr xs) (arr ys)
  | obj (fs gs : List (String × Json)) : SameShape (obj fs) (obj gs)

theorem sameShape_of_lead {j j' : Json} (h : lead j = lead j') : SameShape j j' := by
  revert h
  fun_cases lead j <;> fun_cases lead j' <;> intro h
  all_goals first
    | constructor
    | exact absurd h (by decide)

theorem render_ne_close (j : Json) (u v : List Char) : render j ++ u ≠ ']' :: v := by
  obtain ⟨c, rest, hr, hc⟩ := render_lead j
  rw [hr, List.cons_append]
  intro h
  rw [(List.cons.inj h).1] at hc
  exact lead_ne_close j hc.symm

theorem ends_items (xs : List Json) (u : List Char) : Ends (items xs ++ u) := by
  cases xs with
  | nil => rintro c ⟨⟩; decide
  | cons => rintro c ⟨⟩; decide

theorem ends_members (fields : List (String × Json)) (u : List Char) : Ends (members fields ++ u) := by
  cases fields with
  | nil => rintro c ⟨⟩; decide
  | cons => rintro c ⟨⟩; decide

mutual

theorem render_append_inj : ∀ (j j' : Json) {u v : List Char}, Ends u → Ends v →
    render j ++ u = render j' ++ v → j = j' ∧ u = v
  | j, j', u, v, hu, hv, h => by
      cases sameShape_of_lead (lead_eq h) with
      | null => exact ⟨rfl, List.append_cancel_left h⟩
      | bool => exact ⟨rfl, List.append_cancel_left h⟩
      | num m n =>
          obtain ⟨hmn, huv⟩ := digits_append_inj m.isNumberChar n.isNumberChar hu hv h
          cases m
          cases n
          cases hmn
          exact ⟨rfl, huv⟩
      | str s t =>
          obtain ⟨rfl, huv⟩ := quoted_append_inj h
          exact ⟨rfl, huv⟩
      | arr xs ys =>
          cases xs with
          | nil =>
              cases ys with
              | nil => exact ⟨rfl, List.append_cancel_left h⟩
              | cons y ys =>
                  simp only [render, List.cons_append, List.append_assoc] at h
                  exact absurd (List.cons.inj h).2.symm (render_ne_close y _ _)
          | cons x xs =>
              cases ys with
              | nil =>
                  simp only [render, List.cons_append, List.append_assoc] at h
                  exact absurd (List.cons.inj h).2 (render_ne_close x _ _)
              | cons y ys =>
                  obtain ⟨hxy, huv⟩ := items_append_inj (x :: xs) (y :: ys) (congrArg (',' :: ·) (List.cons.inj h).2)
                  exact ⟨congrArg arr hxy, huv⟩
      | obj fs gs =>
          cases fs with
          | nil =>
              cases gs with
              | nil => exact ⟨rfl, List.append_cancel_left h⟩
              | cons g gs => exact absurd (List.cons.inj (List.cons.inj h).2).1 (by decide)
          | cons f fs =>
              cases gs with
              | nil => exact absurd (List.cons.inj (List.cons.inj h).2).1 (by decide)
              | cons g gs =>
                  obtain ⟨hfg, huv⟩ :=
                    members_append_inj (f :: fs) (g :: gs) (congrArg (',' :: ·) (List.cons.inj h).2)
                  exact ⟨congrArg obj hfg, huv⟩

theorem items_append_inj : ∀ (xs ys : List Json) {u v : List Char}, items xs ++ u = items ys ++ v → xs = ys ∧ u = v
  | [], [], u, v, h => ⟨rfl, (List.cons.inj h).2⟩
  | [], _ :: _, _, _, h => absurd (List.cons.inj h).1 (by decide)
  | _ :: _, [], _, _, h => absurd (List.cons.inj h).1 (by decide)
  | x :: xs, y :: ys, u, v, h => by
      rw [items, items, List.cons_append, List.cons_append, List.append_assoc, List.append_assoc] at h
      obtain ⟨rfl, hrest⟩ := render_append_inj x y (ends_items xs u) (ends_items ys v) (List.cons.inj h).2
      obtain ⟨rfl, huv⟩ := items_append_inj xs ys hrest
      exact ⟨rfl, huv⟩

theorem members_append_inj : ∀ (fs gs : List (String × Json)) {u v : List Char},
    members fs ++ u = members gs ++ v → fs = gs ∧ u = v
  | [], [], u, v, h => ⟨rfl, (List.cons.inj h).2⟩
  | [], _ :: _, _, _, h => absurd (List.cons.inj h).1 (by decide)
  | _ :: _, [], _, _, h => absurd (List.cons.inj h).1 (by decide)
  | (k, x) :: fs, (l, y) :: gs, u, v, h => by
      simp only [members, List.cons_append, List.append_assoc, List.cons.injEq, true_and] at h
      obtain ⟨rfl, hvalue⟩ := quoted_append_inj h
      obtain ⟨rfl, hrest⟩ := render_append_inj x y (ends_members fs u) (ends_members gs v) (List.cons.inj hvalue).2
      obtain ⟨rfl, huv⟩ := members_append_inj fs gs hrest
      exact ⟨rfl, huv⟩

end

/-- A text is the text of one value only. -/
theorem text_inj {j j' : Json} : text j = text j' ↔ j = j' := by
  refine ⟨fun h => ?_, congrArg text⟩
  have hends : Ends [] := fun c hc => by cases hc
  have hrender : render j = render j' := by simpa [text] using congrArg String.toList h
  exact (render_append_inj j j' hends hends (congrArg (· ++ []) hrender)).1

end Json

end Nightjar.Lib
