/-
A JSON reader over lists of characters, and how texts that it reads are
put together.

`parse` reads the whole grammar: blanks, literals, numbers with fraction
and exponent, strings with every escape, arrays and objects. A number
means the rational it denotes, and an object keeps its members in order.

# How a proof goes

`Reads text v` says that the reader takes exactly `text` for `v`, whatever
comes after. The pieces of a text are read one by one (`Reads.str`,
`Reads.int`, `Reads.fixed`), then put together (`Reads.array`,
`Reads.object`); at the end `Reads.parse` reads the whole. No piece is
ever read inside another's proof.

# Fuel

`value` counts its depth down, and every character read pays for one
level, so the length of the text is enough.
-/
import Mathlib.Data.List.Forall2
import Mathlib.Tactic.Positivity
import Mathlib.Algebra.Order.Ring.Rat
import Mathlib.Algebra.Field.Rat

/-- A JSON value. -/
inductive Json where
  | null
  | bool (b : Bool)
  | num (q : Rat)
  | str (s : List Char)
  | arr (vs : List Json)
  | obj (ms : List (List Char × Json))
deriving Repr

namespace Json

-- ================================================================ characters

/-- A blank between tokens. -/
def isSpace (c : Char) : Bool :=
  c == ' ' || c == '\t' || c == '\n' || c == '\r'

/-- `text` after its leading blanks. -/
def skip (text : List Char) : List Char := text.dropWhile isSpace

/-- The value of a hexadecimal digit. -/
def hexValue (c : Char) : Option Nat :=
  if c.isDigit then some (c.toNat - 48)
  else if 'a' ≤ c ∧ c ≤ 'f' then some (c.toNat - 87)
  else if 'A' ≤ c ∧ c ≤ 'F' then some (c.toNat - 55)
  else none

/-- Four hexadecimal digits. -/
def hex4 (a b c d : Char) : Option Nat := do
  some (((← hexValue a) * 16 + (← hexValue b)) * 256
    + (← hexValue c) * 16 + (← hexValue d))

/-- The character of a one-letter escape. -/
def shortEscape (c : Char) : Option Char :=
  if c = '"' ∨ c = '\\' ∨ c = '/' then some c
  else if c = 'b' then some (Char.ofNat 8)
  else if c = 'f' then some (Char.ofNat 12)
  else if c = 'n' then some '\n'
  else if c = 'r' then some '\r'
  else if c = 't' then some '\t'
  else none

/-- The characters of a string from behind its opening quote to its
closing one, and the text behind that. -/
def chars : List Char → Option (List Char × List Char)
  | [] => none
  | '"' :: text => some ([], text)
  | '\\' :: 'u' :: a :: b :: c :: d :: text =>
      match hex4 a b c d with
      | none => none
      | some u =>
          if 0xD800 ≤ u ∧ u < 0xDC00 then
            match text with
            | '\\' :: 'u' :: a :: b :: c :: d :: text =>
                match hex4 a b c d with
                | none => none
                | some v =>
                    if 0xDC00 ≤ v ∧ v < 0xE000 then
                      (chars text).map fun p => (Char.ofNat
                        (0x10000 + (u - 0xD800) * 0x400 + (v - 0xDC00))
                          :: p.1, p.2)
                    else none
            | _ => none
          else if 0xDC00 ≤ u ∧ u < 0xE000 then none
          else (chars text).map fun p => (Char.ofNat u :: p.1, p.2)
  | '\\' :: e :: text =>
      match shortEscape e with
      | none => none
      | some c => (chars text).map fun p => (c :: p.1, p.2)
  | c :: text =>
      if c.toNat < 32 then none
      else (chars text).map fun p => (c :: p.1, p.2)

-- =================================================================== numbers

/-- The run of digits at the head of a text. -/
def digits (text : List Char) : List Char := text.takeWhile Char.isDigit

/-- What is behind it. -/
def pastDigits (text : List Char) : List Char :=
  text.dropWhile Char.isDigit

/-- An integer part: digits, with no zero before another digit. -/
def wellFormedInt : List Char → Bool
  | [] => false
  | [_] => true
  | c :: _ => c != '0'

/-- The digits of the fraction at the head of a text, and what is behind
it. -/
def fraction : List Char → Option (List Char × List Char)
  | '.' :: text =>
      if digits text = [] then none
      else some (digits text, pastDigits text)
  | text => some ([], text)

/-- The exponent at the head of a text, and what is behind it. -/
def exponent (text : List Char) : Option (Int × List Char) :=
  match text with
  | [] => some (0, [])
  | c :: tail =>
      if c = 'e' ∨ c = 'E' then
        let (neg, tail) := match tail with
          | '-' :: tail => (true, tail)
          | '+' :: tail => (false, tail)
          | tail => (false, tail)
        if digits tail = [] then none
        else
          let n : Int := Nat.ofDigitChars 10 (digits tail) 0
          some (if neg then -n else n, pastDigits tail)
      else some (0, text)

/-- A number without its sign. -/
def unsigned (text : List Char) : Option (Rat × List Char) :=
  if wellFormedInt (digits text) then do
    let (fs, text') ← fraction (pastDigits text)
    let (e, text'') ← exponent text'
    some ((Nat.ofDigitChars 10 (digits text ++ fs) 0 : Rat)
      / (10 : Rat) ^ fs.length * (10 : Rat) ^ e, text'')
  else none

/-- A number. -/
def number : List Char → Option (Rat × List Char)
  | '-' :: text => (unsigned text).map fun p => (-p.1, p.2)
  | text => unsigned text

-- ==================================================================== values

/-- `text` behind `word`, if it begins with it. -/
def behind (word text : List Char) : Option (List Char) :=
  if word.isPrefixOf text then some (text.drop word.length) else none

mutual

/-- The value at the head of a text, and what is behind it. -/
def value : Nat → List Char → Option (Json × List Char)
  | 0, _ => none
  | n + 1, text =>
      match skip text with
      | [] => none
      | c :: tail =>
          if c = '"' then (chars tail).map fun p => (.str p.1, p.2)
          else if c = '[' then
            match behind [']'] (skip tail) with
            | some rest => some (.arr [], rest)
            | none => (elements n tail).map fun p => (.arr p.1, p.2)
          else if c = '\x7b' then
            match behind ['\x7d'] (skip tail) with
            | some rest => some (.obj [], rest)
            | none => (members n tail).map fun p => (.obj p.1, p.2)
          else if c = 'n' then
            (behind "ull".toList tail).map fun rest => (.null, rest)
          else if c = 't' then
            (behind "rue".toList tail).map fun rest => (.bool true, rest)
          else if c = 'f' then
            (behind "alse".toList tail).map fun rest => (.bool false, rest)
          else (number (c :: tail)).map fun p => (.num p.1, p.2)

/-- The elements of an array that is not empty, from its first on. -/
def elements : Nat → List Char → Option (List Json × List Char)
  | 0, _ => none
  | n + 1, text =>
      match value n text with
      | none => none
      | some (v, text) =>
          match skip text with
          | ',' :: text =>
              (elements n text).map fun p => (v :: p.1, p.2)
          | ']' :: text => some ([v], text)
          | _ => none

/-- The members of an object that is not empty, from its first on. -/
def members : Nat → List Char → Option (List (List Char × Json) × List Char)
  | 0, _ => none
  | n + 1, text =>
      match (behind ['"'] (skip text)).bind chars with
      | none => none
      | some (k, text) =>
          match (behind [':'] (skip text)).bind (value n) with
          | none => none
          | some (v, text) =>
              match skip text with
              | ',' :: text =>
                  (members n text).map fun p => ((k, v) :: p.1, p.2)
              | '\x7d' :: text => some ([(k, v)], text)
              | _ => none

end

/-- The value that a text is, blanks around it allowed. -/
def parse (text : List Char) : Option Json :=
  match value (text.length + 1) text with
  | none => none
  | some (v, rest) => if skip rest = [] then some v else none

/-- The names of an object's members, in order. -/
def keys : Json → List (List Char)
  | obj ms => ms.map Prod.fst
  | _ => []

/-- The value of an object's first member of a name. -/
def find (name : List Char) : Json → Option Json
  | obj ms => (ms.find? fun m => m.1 == name).map Prod.snd
  | _ => none

example : (parse "\x7b\"a\": [true, 1e3], \"\\u0062\": null \x7d".toList).map
    keys = some ["a".toList, "b".toList] := by decide +kernel


-- ================================================================= strings

/-- Characters that a string holds as they are. -/
def Plain (s : List Char) : Prop :=
  ∀ c ∈ s, c ≠ '"' ∧ c ≠ '\\' ∧ 32 ≤ c.toNat

instance (s : List Char) : Decidable (Plain s) := List.decidableBAll _ s

/-- Plain texts join to a plain text. -/
theorem Plain.append {s s' : List Char} (h : Plain s) (h' : Plain s') :
    Plain (s ++ s') := by
  intro c hc
  rcases List.mem_append.mp hc with hc | hc
  · exact h c hc
  · exact h' c hc

/-- A plain text holds no quote, so counting its quotes gives none. -/
theorem Plain.count {s : List Char} (h : Plain s) : s.count '"' = 0 :=
  List.count_eq_zero.mpr fun hc => (h _ hc).1 rfl

/-- Within a string, `text` stands for the characters `s`. -/
def Encodes (text s : List Char) : Prop :=
  ∀ rest, chars (text ++ rest) = (chars rest).map fun p => (s ++ p.1, p.2)

/-- The empty string is written as nothing between its quotes. -/
theorem Encodes.nil : Encodes [] [] := by
  intro rest
  cases h : chars rest <;> simp [h]

/-- Encodings join: a string is written piece by piece. -/
theorem Encodes.append {t₁ t₂ s₁ s₂ : List Char} (h₁ : Encodes t₁ s₁)
    (h₂ : Encodes t₂ s₂) : Encodes (t₁ ++ t₂) (s₁ ++ s₂) := by
  intro rest
  rw [List.append_assoc, h₁, h₂]
  cases chars rest <;> simp

/-- A character that is neither a quote nor a backslash nor a control stands
for itself. -/
theorem Encodes.char {c : Char} (hq : c ≠ '"') (hb : c ≠ '\\')
    (hc : 32 ≤ c.toNat) : Encodes [c] [c] := by
  intro rest
  have hlt : ¬c.toNat < 32 := by omega
  show chars (c :: rest) = _
  rw [chars]
  · rw [if_neg hlt]
    rfl
  · exact hq
  · rintro - - - - - rfl
    exact (hb rfl).elim
  · rintro - - rfl
    exact (hb rfl).elim

/-- A plain text needs no escape: it is its own encoding. -/
theorem Encodes.plain {s : List Char} (h : Plain s) : Encodes s s := by
  induction s with
  | nil => exact Encodes.nil
  | cons c s ih =>
      obtain ⟨hq, hb, hc⟩ := h c (by simp)
      exact (Encodes.char hq hb hc).append
        (ih fun d hd => h d (List.mem_cons_of_mem _ hd))

/-- The two-character escapes, by the table that the reader itself uses. -/
theorem Encodes.short {e c : Char} (hu : e ≠ 'u')
    (h : shortEscape e = some c) : Encodes ['\\', e] [c] := by
  intro rest
  show chars ('\\' :: e :: rest) = _
  rw [chars, h]
  · rfl
  · exact fun _ _ _ _ _ he _ => hu he

/-- A `\u` escape below the surrogates stands for one character. -/
theorem Encodes.unicode {a b c d : Char} {u : Nat}
    (h : hex4 a b c d = some u) (hu : u < 0xD800) :
    Encodes ['\\', 'u', a, b, c, d] [Char.ofNat u] := by
  intro rest
  show chars ('\\' :: 'u' :: a :: b :: c :: d :: rest) = _
  rw [chars, h]
  simp only
  rw [if_neg (by omega), if_neg (by omega)]
  rfl

-- ================================================================ composition

/-- Nothing that would go on with a number. -/
def Stops (rest : List Char) : Prop :=
  ∀ c ∈ rest.head?, c.isDigit = false ∧ c ≠ '.' ∧ c ≠ 'e' ∧ c ≠ 'E'

instance : (rest : List Char) → Decidable (Stops rest)
  | [] => isTrue nofun
  | c :: _ =>
      decidable_of_iff (c.isDigit = false ∧ c ≠ '.' ∧ c ≠ 'e' ∧ c ≠ 'E')
        (by simp [Stops])

/-- The reader takes exactly `text` for `v`. -/
def Reads (text : List Char) (v : Json) : Prop :=
  ∀ n rest, text.length ≤ n → Stops rest →
    value n (text ++ rest) = some (v, rest)

/-- Whether a text ends a number depends on its first character alone. -/
theorem stops_cons {c : Char} {rest : List Char} (h : Stops [c]) :
    Stops (c :: rest) := h

/-- Blanks. -/
def Blank (gap : List Char) : Prop := ∀ c ∈ gap, isSpace c = true

instance (gap : List Char) : Decidable (Blank gap) := List.decidableBAll _ gap

/-- White space in front is skipped whole. -/
theorem skip_blank {gap : List Char} (h : Blank gap) (text : List Char) :
    skip (gap ++ text) = skip text := by
  induction gap with
  | nil => rfl
  | cons c gap ih =>
      have hc : isSpace c = true := h c (by simp)
      show skip (c :: (gap ++ text)) = _
      rw [skip, List.dropWhile_cons, if_pos hc]
      exact ih fun d hd => h d (List.mem_cons_of_mem _ hd)

/-- And nothing else is. -/
theorem skip_cons {c : Char} {text : List Char} (h : isSpace c = false) :
    skip (c :: text) = c :: text := by
  rw [skip, List.dropWhile_cons, if_neg (by rw [h]; decide)]

/-- White space before a value changes nothing of what is read. -/
theorem value_blank {gap : List Char} (h : Blank gap) (n : Nat)
    (text : List Char) : value n (gap ++ text) = value n text := by
  cases n with
  | zero => rw [value, value]
  | succ n => rw [value, value, skip_blank h]

/-- A text that is read is a value, and so it is with blanks behind. -/
theorem Reads.parse_gap {text gap : List Char} {v : Json}
    (h : Reads text v) (hgap : Blank gap) : Json.parse (text ++ gap) = some v := by
  have hstops : Stops gap := by
    intro c hc
    have hsp : isSpace c = true := hgap c (List.mem_of_mem_head? hc)
    simp only [isSpace, Bool.or_eq_true, beq_iff_eq] at hsp
    rcases hsp with ((rfl | rfl) | rfl) | rfl <;> decide
  have hv : value ((text ++ gap).length + 1) (text ++ gap) = some (v, gap) := by
    apply h
    · rw [List.length_append]
      omega
    · exact hstops
  have hskip : skip gap = [] := by
    simpa [skip] using skip_blank hgap []
  rw [Json.parse, hv]
  exact if_pos hskip

/-- From the reading of a value in any context to the reading of a whole text:
nothing is left over behind it. -/
theorem Reads.parse {text : List Char} {v : Json} (h : Reads text v) :
    Json.parse text = some v := by
  have hnil : Blank [] := by decide
  have hv := h.parse_gap hnil
  rwa [List.append_nil] at hv

/-- A string. -/
theorem Reads.str {text s : List Char} (h : Encodes text s) :
    Reads ('"' :: text ++ ['"']) (.str s) := by
  intro n rest hn _
  cases n with
  | zero => simp at hn
  | succ n =>
      have hchars : chars (text ++ '"' :: rest) = some (s, rest) := by
        rw [h, chars]
        simp
      have htext : '"' :: text ++ ['"'] ++ rest
          = '"' :: (text ++ '"' :: rest) := by simp
      rw [value, htext, skip_cons (by decide)]
      simp only [if_true, hchars, Option.map_some]


-- =================================================================== numbers

/-- The digits of a number end where the first character that is none stands.
-/
theorem digits_append {ds rest : List Char}
    (hd : ∀ c ∈ ds, c.isDigit = true)
    (hr : ∀ c ∈ rest.head?, c.isDigit = false) :
    digits (ds ++ rest) = ds ∧ pastDigits (ds ++ rest) = rest := by
  have hrest : digits rest = [] ∧ pastDigits rest = rest := by
    cases rest with
    | nil => exact ⟨rfl, rfl⟩
    | cons c rest =>
        have hc : ¬c.isDigit = true := by
          rw [hr c rfl]
          decide
        exact ⟨List.takeWhile_cons_of_neg hc, List.dropWhile_cons_of_neg hc⟩
  constructor
  · rw [digits, List.takeWhile_append_of_pos hd]
    exact (congrArg (ds ++ ·) hrest.1).trans (List.append_nil ds)
  · rw [pastDigits, List.dropWhile_append_of_pos hd]
    exact hrest.2

/-- `text` is a number without a sign, `q`. -/
structure Numeral (text : List Char) (q : Rat) : Prop where
  head : ∃ c tail, text = c :: tail ∧ c.isDigit = true
  reads : ∀ rest, Stops rest → unsigned (text ++ rest) = some (q, rest)

/-- A decimal is made of digits. -/
theorem toDigits_digit {n : Nat} :
    ∀ c ∈ Nat.toDigits 10 n, c.isDigit = true := fun _ hc =>
  Nat.isDigit_of_mem_toDigits (by decide) (by decide) hc

/-- A positive number does not begin with a zero. -/
theorem toDigits_head {n : Nat} (h : 0 < n) :
    ∃ c tail, Nat.toDigits 10 n = c :: tail ∧ c ≠ '0' := by
  induction n using Nat.strongRecOn with
  | ind n ih =>
    rw [Nat.toDigits_eq_if (by decide)]
    split
    next hlt =>
      refine ⟨n.digitChar, [], rfl, ?_⟩
      revert h
      have hall : ∀ m < 10, 0 < m → m.digitChar ≠ '0' := by decide
      exact hall n hlt
    next hge =>
      obtain ⟨c, tail, he, hc⟩ := ih (n / 10) (by omega) (by omega)
      exact ⟨c, tail ++ [(n % 10).digitChar], by rw [he]; rfl, hc⟩

/-- And has no leading zero, as JSON asks of a number. -/
theorem toDigits_wellFormed (n : Nat) :
    wellFormedInt (Nat.toDigits 10 n) = true := by
  rcases Nat.eq_zero_or_pos n with rfl | hn
  · rfl
  · obtain ⟨c, tail, he, hc⟩ := toDigits_head hn
    rw [he]
    cases tail with
    | nil => rfl
    | cons d tail => exact bne_iff_ne.mpr hc

/-- Cutting a number leaves one, as long as a digit is left. -/
theorem wellFormedInt_take {ds : List Char} (h : wellFormedInt ds = true)
    (k : Nat) : wellFormedInt (ds.take (k + 1)) = true := by
  cases ds with
  | nil => cases h
  | cons c ds =>
      rw [List.take_succ_cons]
      cases ds with
      | nil => rw [List.take_nil]; rfl
      | cons d ds =>
          cases k with
          | zero => rfl
          | succ k => exact h

/-- No exponent follows. -/
theorem exponent_stops {rest : List Char} (h : Stops rest) :
    exponent rest = some (0, rest) := by
  cases rest with
  | nil => rfl
  | cons c rest =>
      obtain ⟨-, -, he, hE⟩ := h c rfl
      have hno : ¬(c = 'e' ∨ c = 'E') := by
        rintro (hc | hc)
        · exact he hc
        · exact hE hc
      exact if_neg hno

/-- Without a point there is no fraction, and nothing of the text is used up.
-/
theorem fraction_stops {rest : List Char} (h : Stops rest) :
    fraction rest = some ([], rest) := by
  cases rest with
  | nil => rfl
  | cons c rest =>
      obtain ⟨-, hdot, -⟩ := h c rfl
      rw [fraction]
      rintro t he
      exact hdot (List.cons.inj he).1

private theorem toDigits_cons (n : Nat) :
    ∃ c tail, Nat.toDigits 10 n = c :: tail ∧ c.isDigit = true := by
  cases h : Nat.toDigits 10 n with
  | nil => exact absurd h Nat.toDigits_ne_nil
  | cons c tail =>
      have hmem : c ∈ Nat.toDigits 10 n := by
        rw [h]
        exact List.mem_cons_self
      exact ⟨c, tail, rfl, toDigits_digit c hmem⟩

/-- A run of digits with no zero in front. -/
theorem Numeral.digits {ds : List Char} (hwf : wellFormedInt ds = true)
    (hds : ∀ c ∈ ds, c.isDigit = true) :
    Numeral ds (Nat.ofDigitChars 10 ds 0) where
  head := by
    cases ds with
    | nil => cases hwf
    | cons c tail => exact ⟨c, tail, rfl, hds c List.mem_cons_self⟩
  reads := by
    intro rest h
    obtain ⟨hd, hp⟩ := digits_append hds fun c hc => (h c hc).1
    rw [unsigned, hd, hp, if_pos hwf, fraction_stops h]
    simp [exponent_stops h]

/-- A natural number in decimal. -/
theorem Numeral.nat (n : Nat) : Numeral (Nat.toDigits 10 n) n := by
  have h := Numeral.digits (toDigits_wellFormed n) toDigits_digit
  rwa [Nat.ofDigitChars_ten_toDigits] at h

/-- A decimal fraction: the integer part and the digits behind the
point. -/
theorem Numeral.fixed (n : Nat) {fs : List Char} (hne : fs ≠ [])
    (hfs : ∀ c ∈ fs, c.isDigit = true) :
    Numeral (Nat.toDigits 10 n ++ '.' :: fs)
      (n + Nat.ofDigitChars 10 fs 0 / (10 : Rat) ^ fs.length) where
  head := by
    obtain ⟨c, tail, he, hc⟩ := toDigits_cons n
    exact ⟨c, tail ++ '.' :: fs, by rw [he]; rfl, hc⟩
  reads := by
    intro rest h
    rw [List.append_assoc, List.cons_append]
    have hdot : ∀ c ∈ ('.' :: (fs ++ rest)).head?, c.isDigit = false := by
      intro c hc
      cases hc
      rfl
    obtain ⟨hd, hp⟩ := digits_append (toDigits_digit (n := n)) hdot
    obtain ⟨hd', hp'⟩ := digits_append hfs fun c hc => (h c hc).1
    have hfrac : fraction ('.' :: (fs ++ rest)) = some (fs, rest) := by
      rw [fraction, hd', hp', if_neg hne]
    have hvalue : Nat.ofDigitChars 10 (Nat.toDigits 10 n ++ fs) 0
        = 10 ^ fs.length * n + Nat.ofDigitChars 10 fs 0 := by
      rw [Nat.ofDigitChars_append, Nat.ofDigitChars_ten_toDigits,
        Nat.ofDigitChars_eq_ofDigitChars_zero]
    have hpow : (10 : Rat) ^ fs.length ≠ 0 := by positivity
    rw [unsigned, hd, hp, if_pos (toDigits_wellFormed n), hfrac]
    simp only [exponent_stops h, Option.bind_eq_bind, Option.bind_some,
      hvalue, zpow_zero, mul_one]
    push_cast
    rw [add_div, mul_div_cancel_left₀ _ hpow]

private theorem ne_of_digit {c d : Char} (hc : c.isDigit = true)
    (hd : d.isDigit = false) : c ≠ d := by
  rintro rfl
  rw [hc] at hd
  cases hd

/-- The reader's first character decides that a number follows. -/
private theorem value_number {c : Char} {tail rest : List Char} {q : Rat}
    (hc : c = '-' ∨ c.isDigit = true)
    (h : number (c :: tail) = some (q, rest)) (n : Nat) :
    value (n + 1) (c :: tail) = some (.num q, rest) := by
  have hne : ∀ d : Char, d ≠ '-' → d.isDigit = false → c ≠ d := by
    intro d hm hd
    rcases hc with rfl | hc
    · exact fun he => hm he.symm
    · exact ne_of_digit hc hd
  have hsp : isSpace c = false := by
    simp only [isSpace, Bool.or_eq_false_iff, beq_eq_false_iff_ne]
    exact ⟨⟨⟨hne _ (by decide) (by decide), hne _ (by decide) (by decide)⟩,
      hne _ (by decide) (by decide)⟩, hne _ (by decide) (by decide)⟩
  rw [value, skip_cons hsp]
  simp only [if_neg (hne '"' (by decide) (by decide)),
    if_neg (hne '[' (by decide) (by decide)),
    if_neg (hne '\x7b' (by decide) (by decide)),
    if_neg (hne 'n' (by decide) (by decide)),
    if_neg (hne 't' (by decide) (by decide)),
    if_neg (hne 'f' (by decide) (by decide)), h, Option.map_some]

/-- A number without a sign. -/
theorem Numeral.pos {text : List Char} {q : Rat} (h : Numeral text q) :
    Reads text (.num q) := by
  intro n rest hn hrest
  obtain ⟨c, tail, rfl, hc⟩ := h.head
  cases n with
  | zero => simp at hn
  | succ n =>
      refine value_number (.inr hc) ?_ n
      rw [number]
      · exact h.reads rest hrest
      · rintro t he
        rw [(List.cons.inj he).1] at hc
        cases hc

/-- And with one. -/
theorem Numeral.neg {text : List Char} {q : Rat} (h : Numeral text q) :
    Reads ('-' :: text) (.num (-q)) := by
  intro n rest hn hrest
  cases n with
  | zero => simp at hn
  | succ n =>
      refine value_number (.inl rfl) ?_ n
      rw [List.append_eq, number, h.reads rest hrest]
      rfl

-- ======================================================== arrays and objects

/-- Texts with a comma and `gap` between them. -/
def listed (gap : List Char) : List (List Char) → List Char
  | [] => []
  | t :: ts => t ++ ts.flatMap fun t => ',' :: (gap ++ t)

/-- A member's name and the text of its value. -/
def member (gap : List Char) (m : List Char × List Char) : List Char :=
  '"' :: (m.1 ++ '"' :: ':' :: (gap ++ m.2))

/-- An array of texts. -/
def arrayText (gap : List Char) (ts : List (List Char)) : List Char :=
  '[' :: (listed gap ts ++ [']'])

/-- An object of named texts. -/
def objectText (gap : List Char) (ms : List (List Char × List Char)) :
    List Char :=
  '\x7b' :: (listed gap (ms.map (member gap)) ++ ['\x7d'])

/-- A number ends at the comma between members, -/
theorem stops_comma (rest : List Char) : Stops (',' :: rest) :=
  stops_cons (by decide)

/-- at the bracket that closes a list, -/
theorem stops_bracket (rest : List Char) : Stops (']' :: rest) :=
  stops_cons (by decide)

/-- and at the brace that closes an object. -/
theorem stops_brace (rest : List Char) : Stops ('\x7d' :: rest) :=
  stops_cons (by decide)

variable {gap : List Char}

/-- The elements behind the first, by induction on them. -/
theorem elements_reads (hgap : Blank gap) {ts : List (List Char)}
    {vs : List Json} (h : List.Forall₂ Reads ts vs) :
    ∀ {t : List Char} {v : Json}, Reads t v →
      ∀ (n : Nat) (g rest : List Char), Blank g →
        (listed gap (t :: ts)).length < n →
        elements n (g ++ (listed gap (t :: ts) ++ ']' :: rest))
          = some (v :: vs, rest) := by
  -- on the elements behind the first: either it is the last one, before the
  -- bracket,
  induction h with
  | nil =>
      intro t v ht n g rest hg hn
      cases n with
      | zero => cases hn
      | succ n =>
          have hlen : t.length ≤ n := by
            simp [listed] at hn
            omega
          have hv := ht n (']' :: rest) hlen (stops_bracket rest)
          simp only [listed, List.flatMap_nil, List.append_nil]
          rw [elements, value_blank hg, hv]
          simp only [skip_cons (show isSpace ']' = false by decide)]
  -- or a comma follows, and the reader starts over with one unit less
  | @cons t' v' ts vs ht' _ ih =>
      intro t v ht n g rest hg hn
      cases n with
      | zero => cases hn
      | succ n =>
          have hlen : t.length ≤ n := by
            simp [listed] at hn
            omega
          have hlen' : (listed gap (t' :: ts)).length < n := by
            simp [listed] at hn ⊢
            omega
          have htext : listed gap (t :: t' :: ts) ++ ']' :: rest
              = t ++ ',' :: (gap ++ (listed gap (t' :: ts) ++ ']' :: rest)) := by
            simp [listed]
          have hv := ht n (',' :: (gap ++ (listed gap (t' :: ts)
            ++ ']' :: rest))) hlen (stops_comma _)
          rw [htext, elements, value_blank hg, hv]
          simp only [skip_cons (show isSpace ',' = false by decide),
            ih ht' n gap rest hgap hlen', Option.map_some]

/-- No value begins with a closing bracket. -/
theorem value_bracket {n : Nat} {text rest : List Char}
    (h : behind [']'] (skip text) = some rest) : value n text = none := by
  cases n with
  | zero => rw [value]
  | succ n =>
      cases hs : skip text with
      | nil =>
          rw [hs] at h
          cases h
      | cons c tail =>
          have hc : c = ']' := by
            rw [hs, behind] at h
            split at h
            next hp =>
              have he : ']' = c := by simpa [List.isPrefixOf] using hp
              exact he.symm
            next => cases h
          rw [value, hs, hc]
          rfl

/-- An array. -/
theorem Reads.array (hgap : Blank gap) {ts : List (List Char)}
    {vs : List Json} (h : List.Forall₂ Reads ts vs) :
    Reads (arrayText gap ts) (.arr vs) := by
  intro n rest hn _
  cases n with
  | zero => simp [arrayText] at hn
  | succ n =>
      have htext : arrayText gap ts ++ rest
          = '[' :: (listed gap ts ++ ']' :: rest) := by
        simp [arrayText]
      rw [htext, value, skip_cons (by decide)]
      -- an empty array is told by its bracket
      cases h with
      | nil =>
          have hend : behind [']'] (skip (']' :: rest)) = some rest := by
            rw [skip_cons (by decide)]
            rfl
          simp [listed, hend]
      | @cons t v ts vs ht hts =>
          have hlen : (listed gap (t :: ts)).length < n := by
            simp [arrayText] at hn
            omega
          have helems := elements_reads hgap hts ht n [] rest
            (by simp [Blank]) hlen
          rw [List.nil_append] at helems
          have hopen : behind [']'] (skip (listed gap (t :: ts)
              ++ ']' :: rest)) = none := by
            cases hb : behind [']'] (skip (listed gap (t :: ts)
                ++ ']' :: rest)) with
            | none => rfl
            | some r =>
                cases n with
                | zero => cases hlen
                | succ n =>
                    rw [elements, value_bracket hb] at helems
                    cases helems
          simp [hopen, helems]

/-- A member of an object: its text and what is read of it. -/
def ReadsMember (m : List Char × List Char) (w : List Char × Json) : Prop :=
  m.1 = w.1 ∧ Plain m.1 ∧ Reads m.2 w.2

/-- A value that is read makes a member that is read, under any plain name. -/
theorem Reads.named {text : List Char} {v : Json} (h : Reads text v)
    {name : List Char} (hn : Plain name) :
    ReadsMember (name, text) (name, v) := ⟨rfl, hn, h⟩

/-- The name and the value of a member. -/
theorem member_reads (hgap : Blank gap) {m : List Char × List Char}
    {w : List Char × Json} (h : ReadsMember m w) {n : Nat}
    {g rest : List Char} (hg : Blank g) (hn : m.2.length ≤ n)
    (hrest : Stops rest) :
    ∃ text, (behind ['"'] (skip (g ++ (member gap m ++ rest)))).bind chars
        = some (w.1, text) ∧
      (behind [':'] (skip text)).bind (value n) = some (w.2, rest) := by
  obtain ⟨hk, hplain, hv⟩ := h
  refine ⟨':' :: (gap ++ (m.2 ++ rest)), ?_, ?_⟩
  · have htext : member gap m ++ rest
        = '"' :: (m.1 ++ '"' :: ':' :: (gap ++ (m.2 ++ rest))) := by
      simp [member]
    have hquote : behind ['"'] ('"' :: (m.1 ++ '"' :: ':' ::
        (gap ++ (m.2 ++ rest))))
        = some (m.1 ++ '"' :: ':' :: (gap ++ (m.2 ++ rest))) := by
      simp [behind]
    rw [skip_blank hg, htext, skip_cons (by decide), hquote,
      Option.bind_some, Encodes.plain hplain, chars, ← hk]
    simp
  · have hcolon : behind [':'] (':' :: (gap ++ (m.2 ++ rest)))
        = some (gap ++ (m.2 ++ rest)) := by
      simp [behind]
    rw [skip_cons (by decide), hcolon, Option.bind_some, value_blank hgap]
    exact hv n rest hn hrest

/-- A comma behind a member brings the next one. -/
theorem members_comma (hgap : Blank gap) {m : List Char × List Char}
    {w : List Char × Json} (h : ReadsMember m w) {n : Nat}
    {g t : List Char} (hg : Blank g) (hn : m.2.length ≤ n) :
    members (n + 1) (g ++ (member gap m ++ ',' :: t))
      = (members n t).map fun p => (w :: p.1, p.2) := by
  obtain ⟨text, hkey, hval⟩ :=
    member_reads hgap h (n := n) hg hn (stops_comma t)
  rw [members, hkey]
  simp only [hval, skip_cons (show isSpace ',' = false by decide)]

/-- The members of an object, one after the other, by induction on the list
with the first member kept apart: a comma leads back to the start, the closing
brace ends it. The reader gets a unit of fuel for each character, which is
more than it uses. -/
theorem members_reads (hgap : Blank gap)
    {ms : List (List Char × List Char)} {ws : List (List Char × Json)}
    (h : List.Forall₂ ReadsMember ms ws) :
    ∀ {m : List Char × List Char} {w : List Char × Json}, ReadsMember m w →
      ∀ (n : Nat) (g rest : List Char), Blank g →
        (listed gap ((m :: ms).map (member gap))).length < n →
        members n (g ++ (listed gap ((m :: ms).map (member gap))
          ++ '\x7d' :: rest)) = some (w :: ws, rest) := by
  induction h with
  | nil =>
      intro m w hm n g rest hg hn
      cases n with
      | zero => cases hn
      | succ n =>
          have hlen : m.2.length ≤ n := by
            simp [listed, member] at hn
            omega
          obtain ⟨text, hkey, hval⟩ :=
            member_reads hgap hm (n := n) hg hlen (stops_brace rest)
          simp only [listed, List.map_cons, List.map_nil, List.flatMap_nil,
            List.append_nil]
          rw [members, hkey]
          simp only [hval, skip_cons (show isSpace '\x7d' = false by decide)]
  | @cons m' w' ms ws hm' _ ih =>
      intro m w hm n g rest hg hn
      cases n with
      | zero => cases hn
      | succ n =>
          have hlen : m.2.length ≤ n := by
            simp [listed, member] at hn
            omega
          have hlen' : (listed gap ((m' :: ms).map (member gap))).length
              < n := by
            simp [listed] at hn ⊢
            omega
          have htext : listed gap ((m :: m' :: ms).map (member gap))
                ++ '\x7d' :: rest
              = member gap m ++ ',' :: (gap ++ (listed gap
                ((m' :: ms).map (member gap)) ++ '\x7d' :: rest)) := by
            simp [listed]
          rw [htext, members_comma hgap hm hg hlen,
            ih hm' n gap rest hgap hlen']
          rfl

/-- An object. -/
theorem Reads.object (hgap : Blank gap)
    {ms : List (List Char × List Char)} {ws : List (List Char × Json)}
    (h : List.Forall₂ ReadsMember ms ws) :
    Reads (objectText gap ms) (.obj ws) := by
  intro n rest hn _
  cases n with
  | zero => simp [objectText] at hn
  | succ n =>
      have htext : objectText gap ms ++ rest
          = '\x7b' :: (listed gap (ms.map (member gap)) ++ '\x7d' :: rest) := by
        simp [objectText]
      rw [htext, value, skip_cons (by decide)]
      cases h with
      | nil =>
          have hend : behind ['\x7d'] (skip ('\x7d' :: rest))
              = some rest := by
            rw [skip_cons (by decide)]
            rfl
          simp [listed, hend]
      | @cons m w ms ws hm hms =>
          have hlen : (listed gap ((m :: ms).map (member gap))).length
              < n := by
            simp only [objectText, List.length_cons, List.length_append,
              List.length_nil] at hn
            omega
          have hmem := members_reads hgap hms hm n [] rest nofun hlen
          rw [List.nil_append] at hmem
          have hopen : behind ['\x7d'] (skip (listed gap ((m :: ms).map
              (member gap)) ++ '\x7d' :: rest)) = none := by
            simp [listed, member, skip_cons, isSpace, behind,
              List.isPrefixOf]
          simp [-List.map_cons, hopen, hmem]

-- ============================================================ broken objects

/-- A member and what separates it from the next one. -/
def leading (gap : List Char) (m : List Char × List Char) : List Char :=
  member gap m ++ ',' :: gap

/-- White space before a member is skipped. -/
theorem members_blank {g : List Char} (h : Blank g) (n : Nat)
    (text : List Char) : members n (g ++ text) = members n text := by
  cases n with
  | zero => rw [members, members]
  | succ n => rw [members, members, skip_blank h]

/-- Behind a member nothing but a comma or the closing brace goes on. -/
theorem members_broken (hgap : Blank gap) {m : List Char × List Char}
    {w : List Char × Json} (h : ReadsMember m w) {n : Nat}
    {c : Char} {t : List Char} (hn : m.2.length ≤ n)
    (hstop : Stops [c]) (hsp : isSpace c = false) (hcomma : c ≠ ',')
    (hbrace : c ≠ '\x7d') :
    members (n + 1) (member gap m ++ c :: t) = none := by
  have hnil : Blank [] := by decide
  have hstops : Stops (c :: t) := stops_cons hstop
  obtain ⟨text, hkey, hval⟩ := member_reads hgap h (n := n) hnil hn hstops
  rw [List.nil_append] at hkey
  rw [members, hkey]
  simp only [hval, skip_cons hsp]
  split
  next he => exact absurd (List.cons.inj he).1 hcomma
  next he => exact absurd (List.cons.inj he).1 hbrace
  next => rfl

/-- Members that are read, by induction on them, put off what follows. -/
theorem members_leading (hgap : Blank gap)
    {ms : List (List Char × List Char)} {ws : List (List Char × Json)}
    (h : List.Forall₂ ReadsMember ms ws) (rest : List Char) :
    ∀ n, (ms.flatMap (leading gap)).length ≤ n →
      ∃ k, n ≤ k + (ms.flatMap (leading gap)).length ∧
        members n (ms.flatMap (leading gap) ++ rest)
          = (members k rest).map fun p => (ws ++ p.1, p.2) := by
  induction h with
  | nil =>
      intro n _
      refine ⟨n, Nat.le_add_right _ _, ?_⟩
      simp
  | @cons m w ms ws hm _ ih =>
      intro n hn
      have hnil : Blank [] := by decide
      have htext : (m :: ms).flatMap (leading gap) ++ rest
          = [] ++ (member gap m
            ++ ',' :: (gap ++ (ms.flatMap (leading gap) ++ rest))) := by
        simp [leading]
      have hlen : ((m :: ms).flatMap (leading gap)).length
          = m.1.length + m.2.length + 2 * gap.length + 4
            + (ms.flatMap (leading gap)).length := by
        simp [leading, member]
        omega
      obtain ⟨n, rfl⟩ : ∃ n', n = n' + 1 := ⟨n - 1, by omega⟩
      obtain ⟨k, hk, hrest⟩ := ih n (by omega)
      refine ⟨k, by omega, ?_⟩
      rw [htext, members_comma hgap hm hnil (by omega), members_blank hgap,
        hrest, Option.map_map]
      rfl

/-- An object that begins with members that are read has them in front,
and the rest of its members is read of the rest of the text. -/
theorem parse_leading (hgap : Blank gap)
    {ms : List (List Char × List Char)} {ws : List (List Char × Json)}
    (h : List.Forall₂ ReadsMember ms ws) (hne : ms ≠ []) {rest : List Char}
    {j : Json}
    (hp : parse ('\x7b' :: (ms.flatMap (leading gap) ++ rest)) = some j) :
    ∃ k ms' rest', rest.length ≤ k ∧ members k rest = some (ms', rest') ∧
      j = .obj (ws ++ ms') := by
  obtain ⟨n, hn⟩ : ∃ n, (ms.flatMap (leading gap) ++ rest).length = n :=
    ⟨_, rfl⟩
  have hsum := hn
  rw [List.length_append] at hsum
  obtain ⟨k, hk, hmem⟩ := members_leading hgap h rest (n + 1) (by omega)
  -- the object is not empty
  have hopen : behind ['\x7d'] (skip (ms.flatMap (leading gap) ++ rest))
      = none := by
    cases ms with
    | nil => exact absurd rfl hne
    | cons m ms =>
        simp [leading, member, skip_cons, isSpace, behind, List.isPrefixOf]
  have hvalue : value (n + 1 + 1)
      ('\x7b' :: (ms.flatMap (leading gap) ++ rest))
      = (members k rest).map fun p => (.obj (ws ++ p.1), p.2) := by
    rw [value, skip_cons (by decide)]
    simp [hopen, hmem]
    rfl
  rw [parse, List.length_cons, hn, hvalue] at hp
  cases hm : members k rest with
  | none => simp [hm] at hp
  | some p =>
      refine ⟨k, p.1, p.2, by omega, hm, ?_⟩
      simp only [hm, Option.map_some] at hp
      split at hp
      · exact (Option.some.inj hp).symm
      · cases hp

end Json
