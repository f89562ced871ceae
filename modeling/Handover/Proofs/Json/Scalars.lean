import Handover.Json.Decoder
import Mathlib.Data.List.TakeDrop

/-! # Reading what was written: blanks, numbers and strings

A number is read up to the first character that cannot belong to it, so its digits are read back only
where the text after them `Stops` a number; between the limits of the 64-bit integers the digits then
give the number itself (`Numeral.run_read`).  A string needs no such care: its quote ends it, since
every quote inside is escaped, and whatever spells a character is undone on its own
(`stringBody_of_spells`).  A string is written in one of its spellings (`quotes_stringLiteral`), so any
characters at all are read back (`run_string`).
-/

namespace Handover.Json

variable {α β : Type}

theorem run_bind_of_ok {read : Decoder α} {next : α → Decoder β} {input rest : List Char} {a : α}
    (ok : read.run input = .ok (a, rest)) : (read >>= next).run input = (next a).run rest := by
  rw [StateT.run_bind, ok]
  rfl

theorem run_map_of_ok {read : Decoder α} {f : α → β} {input rest : List Char} {a : α}
    (ok : read.run input = .ok (a, rest)) : (f <$> read).run input = .ok (f a, rest) := by
  rw [StateT.run_map, ok]
  rfl

/-! ## Blanks -/

def Blank (cs : List Char) : Prop := ∀ c ∈ cs, Decoder.isBlank c

theorem blank_nil : Blank [] := by simp [Blank]

theorem blank_space : Blank [' '] := by simp [Blank, Decoder.isBlank]

theorem run_peek {blank : List Char} (empty : Blank blank) {c : Char}
    (solid : Decoder.isBlank c = false) (rest : List Char) :
    Decoder.peek.run (blank ++ c :: rest) = .ok (c, c :: rest) := by
  show Decoder.peek (blank ++ c :: rest) = _
  rw [Decoder.peek, List.dropWhile_append_of_pos empty, List.dropWhile_cons_of_neg (by simp [solid])]

theorem run_advance (c : Char) (rest : List Char) :
    Decoder.advance.run (c :: rest) = .ok ((), rest) := rfl

/-- A decoder that looks at a character and passes it goes on behind it. -/
theorem run_led {next : Char → Decoder α} {body : Decoder α} {blank : List Char}
    (empty : Blank blank) {c : Char} (solid : Decoder.isBlank c = false)
    (led : next c = do Decoder.advance; body) (rest : List Char) :
    (Decoder.peek >>= next).run (blank ++ c :: rest) = body.run rest := by
  rw [run_bind_of_ok (run_peek empty solid rest), led, run_bind_of_ok (run_advance c rest)]

theorem run_expect {blank : List Char} (empty : Blank blank) {c : Char}
    (solid : Decoder.isBlank c = false) (rest : List Char) :
    (Decoder.expect c).run (blank ++ c :: rest) = .ok ((), rest) := by
  rw [Decoder.expect, run_bind_of_ok (run_peek empty solid rest), if_pos rfl, run_advance]

theorem run_expect_here {c : Char} (solid : Decoder.isBlank c = false) (rest : List Char) :
    (Decoder.expect c).run (c :: rest) = .ok ((), rest) :=
  run_expect blank_nil solid rest

theorem run_literal (cs rest : List Char) :
    (Decoder.literal cs).run (cs ++ rest) = .ok ((), rest) := by
  induction cs with
  | nil => rfl
  | cons c cs ih =>
    rw [Decoder.literal, run_bind_of_ok (StateT.run_get _)]
    simp [ih]

/-! ## Numbers -/

/-- A number that stands before these characters ends there. -/
def Stops (rest : List Char) : Prop :=
  ∀ c ∈ rest.head?, c.isDigit = false ∧ c ≠ '.' ∧ c ≠ 'e' ∧ c ≠ 'E'

namespace Numeral

theorem span_digits {ds rest : List Char} (digital : ∀ c ∈ ds, c.isDigit)
    (ends : ∀ c ∈ rest.head?, c.isDigit = false) :
    (ds ++ rest).span Char.isDigit = (ds, rest) := by
  have none : rest.takeWhile Char.isDigit = [] ∧ rest.dropWhile Char.isDigit = rest := by
    cases rest with
    | nil => simp
    | cons c rest => simp [ends c rfl]
  rw [List.span_eq_takeWhile_dropWhile, List.takeWhile_append_of_pos digital,
    List.dropWhile_append_of_pos digital, none.1, none.2, List.append_nil]

theorem run_digits {ds rest : List Char} (digital : ∀ c ∈ ds, c.isDigit) (some_digit : ds ≠ [])
    (stops : Stops rest) : digits.run (ds ++ rest) = .ok (ds, rest) := by
  show digits (ds ++ rest) = _
  rw [digits, span_digits digital fun c first => (stops c first).1]
  cases ds with
  | nil => exact absurd rfl some_digit
  | cons d ds => rfl

-- More digits never make the number smaller, so a number that fits is never cut off on the way.
theorem le_ofDigitChars (n : Nat) (ds : List Char) : n ≤ Nat.ofDigitChars 10 ds n := by
  induction ds generalizing n with
  | nil => simp
  | cons d ds ih =>
    rw [Nat.ofDigitChars_cons]
    have := ih (10 * n + (d.toNat - '0'.toNat))
    omega

theorem gather_of_le {n : Nat} {ds : List Char} (fits : Nat.ofDigitChars 10 ds n ≤ maxSignificand) :
    gather n ds = (Nat.ofDigitChars 10 ds n, ds.length) := by
  induction ds generalizing n with
  | nil => simp [gather]
  | cons d ds ih =>
    rw [Nat.ofDigitChars_cons] at fits ⊢
    have head := le_ofDigitChars (10 * n + (d.toNat - '0'.toNat)) ds
    rw [gather, Nat.mul_comm n 10]
    simp only [ih fits, List.length_cons]
    rw [if_pos (by omega)]

theorem head?_toDigits {n : Nat} (positive : 0 < n) : (Nat.toDigits 10 n).head? ≠ some '0' := by
  induction n using Nat.strongRecOn with
  | _ n ih =>
    rw [Nat.toDigits_eq_if (by decide)]
    split
    case isTrue small => simp; omega
    case isFalse large =>
      have tens := ih (n / 10) (by omega) (by omega)
      rwa [List.head?_append, Option.or_of_isSome (by simp [Nat.toDigits_ne_nil])]

-- Between the digits and what follows there is no fraction and no exponent.
theorem run_unsigned (negative : Bool) {n : Nat} (fits : n ≤ maxSignificand) {rest : List Char}
    (stops : Stops rest) :
    (unsigned negative).run (Nat.toDigits 10 n ++ rest) = .ok (ofInteger negative n, rest) := by
  have digital : ∀ c ∈ Nat.toDigits 10 n, c.isDigit := fun c member =>
    Nat.isDigit_of_mem_toDigits (by decide) (by decide) member
  have gathered : gather 0 (Nat.toDigits 10 n) = (n, (Nat.toDigits 10 n).length) := by
    have all := @gather_of_le 0 (Nat.toDigits 10 n) (by rwa [Nat.ofDigitChars_ten_toDigits])
    rwa [Nat.ofDigitChars_ten_toDigits] at all
  have plain : ¬ ((Nat.toDigits 10 n).length > 1 ∧ (Nat.toDigits 10 n).head? = some '0') := by
    rintro ⟨long, zero⟩
    rcases Nat.eq_zero_or_pos n with rfl | positive
    · simp at long
    · exact head?_toDigits positive zero
  rw [unsigned, run_bind_of_ok (run_digits digital Nat.toDigits_ne_nil stops)]
  simp only [if_neg plain, gathered]
  rw [run_bind_of_ok (StateT.run_get _)]
  split
  case h_1 => simpa using (stops _ rfl).2.1
  case h_2 => simpa using (stops _ rfl).2.2.1
  case h_3 => simpa using (stops _ rfl).2.2.2
  case h_4 =>
    rw [if_pos (Int.sub_self _)]
    rfl

/-- Whole numbers of 64 bits, with or without sign. -/
def Fits (z : Int) : Prop := Int64.minValue.toInt ≤ z ∧ z < UInt64.size

theorem toList_toString_of_nonneg {z : Int} (natural : 0 ≤ z) :
    (toString z).toList = Nat.toDigits 10 z.toNat := by
  rw [Int.toString_eq_repr, Int.repr_eq_if, if_pos natural, Nat.repr_eq_ofList_toDigits,
    String.toList_ofList]

theorem toList_toString_of_neg {z : Int} (negative : z < 0) :
    (toString z).toList = '-' :: Nat.toDigits 10 (-z).toNat := by
  rw [Int.toString_eq_repr, Int.repr_eq_if, if_neg (by omega), Nat.repr_eq_ofList_toDigits,
    String.toList_append, String.toList_ofList]
  simp

theorem isDigit_of_head?_toDigits {n : Nat} {c : Char} (first : (Nat.toDigits 10 n).head? = some c) :
    c.isDigit :=
  Nat.isDigit_of_mem_toDigits (by decide) (by decide) (List.mem_of_head? first)

theorem run_read {z : Int} (fits : Fits z) {rest : List Char} (stops : Stops rest) :
    read.run ((toString z).toList ++ rest) = .ok (.integer z, rest) := by
  obtain ⟨low, high⟩ := fits
  have least : Int64.minValue.toInt = -9223372036854775808 := by decide
  have most : (UInt64.size : Int) = 18446744073709551616 := by decide
  have longest : maxSignificand = 18446744073709551615 := by decide
  rw [read, run_bind_of_ok (StateT.run_get _)]
  by_cases natural : 0 ≤ z
  · rw [toList_toString_of_nonneg natural]
    split
    case h_1 tail written =>
      -- the digits do not begin with a sign
      have first : (Nat.toDigits 10 z.toNat).head? = some '-' := by
        have all := congrArg List.head? written
        rwa [List.head?_append, Option.or_of_isSome (by simp [Nat.toDigits_ne_nil])] at all
      exact absurd (isDigit_of_head?_toDigits first) (by decide)
    case h_2 =>
      rw [run_unsigned false (by omega) stops, ofInteger]
      simp [Int.toNat_of_nonneg natural]
  · rw [toList_toString_of_neg (by omega), List.cons_append]
    show (unsigned true).run (Nat.toDigits 10 (-z).toNat ++ rest) = _
    rw [run_unsigned true (by omega) stops, ofInteger]
    have apart : ¬ ((-z).toNat = 0 ∨ -((-z).toNat : Int) < Int64.minValue.toInt) := by omega
    simp only [Bool.not_true, Bool.false_eq_true, if_false, if_neg apart]
    have same : -((-z).toNat : Int) = z := by omega
    rw [same]

end Numeral

/-! ## Strings -/

/-- Four hexadecimal digits and the number they stand for. -/
inductive Hex : List Char → Nat → Prop where
  | digits {w x y z : Char} {a b c d : Nat} (first : Text.hexDigit? w = some a)
      (second : Text.hexDigit? x = some b) (third : Text.hexDigit? y = some c)
      (fourth : Text.hexDigit? z = some d) : Hex [w, x, y, z] (((a * 16 + b) * 16 + c) * 16 + d)

/-- The texts between quotes that stand for one character. -/
inductive Spells : List Char → Char → Prop where
  | plain {c : Char} (noQuote : c ≠ '"') (noBackslash : c ≠ '\\') (visible : ¬ c < ' ') : Spells [c] c
  | named {letter c : Char} (named : namedEscape? letter = some c) : Spells ['\\', letter] c
  | unit {digits : List Char} {n : Nat} (hex : Hex digits n) (notHigh : isHighSurrogate n = false)
      (notLow : isLowSurrogate n = false) : Spells ('\\' :: 'u' :: digits) (.ofNat n)
  | pair {digits digits' : List Char} {high low : Nat} (left : Hex digits high)
      (right : Hex digits' low) (isHigh : isHighSurrogate high = true)
      (isLow : isLowSurrogate low = true) :
      Spells ('\\' :: 'u' :: (digits ++ '\\' :: 'u' :: digits'))
        (.ofNat (0x10000 + (high - 0xD800) * 0x400 + (low - 0xDC00)))

/-- The texts that stand for a string, each character in a spelling of its own. -/
def Quotes (s : String) (text : List Char) : Prop :=
  ∃ pieces : List (List Char), List.Forall₂ Spells pieces s.toList ∧
    text = '"' :: (pieces.flatten ++ ['"'])

theorem unit_of_hex {digits : List Char} {n : Nat} (hex : Hex digits n) (rest : List Char) :
    unit (digits ++ rest) = .ok (n, rest) := by
  cases hex with
  | digits first second third fourth =>
    simp only [List.cons_append, List.nil_append, unit, first, second, third, fourth]

theorem stringBody_of_escape {cs rest : List Char} {c : Char} (read : escape cs = .ok (c, rest)) :
    stringBody ('\\' :: cs) = (stringBody rest).map fun (cs, rest) => (c :: cs, rest) := by
  rw [stringBody]
  split
  case h_1 e failed => rw [read] at failed; cases failed
  case h_2 c' rest' same =>
    rw [read] at same
    cases same
    rfl

theorem stringBody_of_spells {piece : List Char} {c : Char} (spells : Spells piece c)
    (rest : List Char) :
    stringBody (piece ++ rest) = (stringBody rest).map fun (cs, rest) => (c :: cs, rest) := by
  cases spells with
  | plain noQuote noBackslash visible =>
    rw [List.singleton_append, stringBody, if_neg visible]
    · exact noQuote
    · exact noBackslash
  | @named letter c named =>
    refine stringBody_of_escape ?_
    show escape (letter :: rest) = _
    rw [escape, named]
    rintro rfl
    cases named
  | @unit digits n hex notHigh notLow =>
    refine stringBody_of_escape ?_
    show unitEscape (digits ++ rest) = _
    rw [unitEscape, unit_of_hex hex]
    simp [notHigh, notLow]
  | @pair digits digits' high low left right isHigh isLow =>
    refine stringBody_of_escape ?_
    show unitEscape (digits ++ '\\' :: 'u' :: digits' ++ rest) = _
    -- a high surrogate alone is no error yet: the second unit is read first
    have apart : isLowSurrogate high = false := by
      simp only [isHighSurrogate, isLowSurrogate, decide_eq_true_eq, decide_eq_false_iff_not] at *
      omega
    rw [List.append_assoc, unitEscape, unit_of_hex left]
    simp [apart, isHigh, lowSurrogate, unit_of_hex right, isLow, Except.map]

theorem stringBody_of_pieces {pieces : List (List Char)} {cs : List Char}
    (spells : List.Forall₂ Spells pieces cs) (rest : List Char) :
    stringBody (pieces.flatten ++ '"' :: rest) = .ok (cs, rest) := by
  induction spells with
  | nil => rw [List.flatten_nil, List.nil_append, stringBody]
  | cons head _ ih =>
    rw [List.flatten_cons, List.append_assoc, stringBody_of_spells head, ih]
    rfl

/-- A string is read behind its first quote. -/
theorem Quotes.exists_body {s : String} {text : List Char} (quotes : Quotes s text) :
    ∃ body, text = '"' :: body ∧ ∀ rest, string.run (body ++ rest) = .ok (s, rest) := by
  obtain ⟨pieces, spells, rfl⟩ := quotes
  refine ⟨_, rfl, fun rest => ?_⟩
  rw [List.append_assoc, List.singleton_append]
  show string (pieces.flatten ++ '"' :: rest) = _
  rw [string, stringBody_of_pieces spells]
  simp [Except.map]

/-! ## Written strings -/

theorem hexDigit?_digitChar {d : Nat} (small : d < 16) :
    Text.hexDigit? (Nat.digitChar d) = some d := by
  have all : ∀ d < 16, Text.hexDigit? (Nat.digitChar d) = some d := by decide
  exact all d small

theorem spells_control {c : Char} (control : c < ' ') :
    Spells ['\\', 'u', '0', '0', Nat.digitChar (c.toNat / 16), Nat.digitChar (c.toNat % 16)] c := by
  have small : c.toNat < 32 := control
  have zero : Text.hexDigit? '0' = some 0 := by decide
  have hex := Hex.digits zero zero (hexDigit?_digitChar (by omega : c.toNat / 16 < 16))
    (hexDigit?_digitChar (by omega : c.toNat % 16 < 16))
  have value : ((0 * 16 + 0) * 16 + c.toNat / 16) * 16 + c.toNat % 16 = c.toNat := by omega
  rw [value] at hex
  have spells := Spells.unit hex (by simp [isHighSurrogate]; omega) (by simp [isLowSurrogate]; omega)
  rwa [Char.ofNat_toNat] at spells

theorem spells_escapedChar (c : Char) : Spells (escapedChar c) c := by
  unfold escapedChar
  split
  case isTrue special => rcases special with rfl | rfl <;> exact .named rfl
  -- the five control characters that have a letter
  iterate 5
    split
    case isTrue same =>
      subst same
      exact .named rfl
  split
  case isTrue control => exact spells_control control
  case isFalse special _ _ _ _ _ visible =>
    rw [not_or] at special
    exact .plain special.1 special.2 visible

theorem quotes_stringLiteral (s : String) : Quotes s (stringLiteral s) := by
  refine ⟨s.toList.map escapedChar, ?_, ?_⟩
  · induction s.toList with
    | nil => exact .nil
    | cons c cs ih => exact .cons (spells_escapedChar c) ih
  · rw [stringLiteral, List.flatMap_def]
    rfl

theorem run_string (s : String) (rest : List Char) :
    string.run (s.toList.flatMap escapedChar ++ '"' :: rest) = .ok (s, rest) := by
  obtain ⟨body, written, run⟩ := (quotes_stringLiteral s).exists_body
  obtain rfl : s.toList.flatMap escapedChar ++ ['"'] = body := (List.cons.inj written).2
  have all := run rest
  rwa [List.append_assoc, List.singleton_append] at all

end Handover.Json
