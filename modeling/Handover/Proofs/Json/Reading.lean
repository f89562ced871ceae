import Handover.Json.Format
import Handover.Proofs.Json.Scalars

/-! # Texts that a decoder takes in full

`Reads read text a` says that the decoder passes exactly this text and answers `a`, whatever blanks
stand before it and whatever stands behind it, as long as that does not go on a number.  Numbers,
strings and truth values are read in this sense.

For lists and objects, `Items` and `Members` say which texts stand between the brackets, with any
blanks around the commas.  A decoder of lists or objects counts its steps against the length of the
text; since every item and every member takes a character, the count never runs out first
(`Items.run`, `Members.run`).
-/

namespace Handover.Json

variable {α β κ σ : Type}

/-- The text begins where a value can begin. -/
def Starts (text : List Char) : Prop :=
  ∃ c cs, text = c :: cs ∧ Decoder.isBlank c = false ∧ c ≠ ',' ∧ c ≠ ']'

/-- The decoder passes the text and nothing else. -/
structure Reads (read : Decoder α) (text : List Char) (a : α) : Prop where
  starts : Starts text
  run {blank rest : List Char} : Blank blank → Stops rest →
    read.run (blank ++ (text ++ rest)) = .ok (a, rest)

theorem Reads.run_here {read : Decoder α} {text rest : List Char} {a : α} (reads : Reads read text a)
    (stops : Stops rest) : read.run (text ++ rest) = .ok (a, rest) :=
  reads.run blank_nil stops

theorem Reads.map {read : Decoder α} {text : List Char} {a : α} (reads : Reads read text a)
    (f : α → β) : Reads (f <$> read) text (f a) where
  starts := reads.starts
  run empty stops := run_map_of_ok (reads.run empty stops)

theorem Stops.blank_append {blank rest : List Char} (empty : Blank blank) (stops : Stops rest) :
    Stops (blank ++ rest) := by
  cases blank with
  | nil => exact stops
  | cons c blank =>
    intro d first
    obtain rfl : c = d := by simpa using first
    have : Decoder.isBlank c := empty c (by simp)
    simp only [Decoder.isBlank, decide_eq_true_eq] at this
    rcases this with rfl | rfl | rfl | rfl <;> decide

theorem Reads.decode {read : Decoder α} {text : List Char} {a : α} (reads : Reads read text a)
    {before after : List Char} (left : Blank before) (right : Blank after) :
    Decoder.decode read (.ofList (before ++ (text ++ after))) = .ok a := by
  have stops : Stops after := by
    have ends : Stops [] := by simp [Stops]
    simpa using ends.blank_append right
  have all : after.all Decoder.isBlank := List.all_eq_true.mpr right
  rw [Decoder.decode, String.toList_ofList, reads.run left stops]
  simp [bind, Except.bind, all]
  rfl

/-! ## Simple values -/

theorem not_isBlank_of_startsNumeral {c : Char} (starts : Decoder.startsNumeral c) :
    Decoder.isBlank c = false ∧ c ≠ ',' ∧ c ≠ ']' := by
  simp only [Decoder.startsNumeral, decide_eq_true_eq] at starts
  refine ⟨?_, ?_, ?_⟩
  · simp only [Decoder.isBlank, decide_eq_false_iff_not]
    rintro (rfl | rfl | rfl | rfl) <;> simp at starts
  · rintro rfl
    simp at starts
  · rintro rfl
    simp at starts

theorem startsNumeral_toString (z : Int) :
    ∃ c cs, (toString z).toList = c :: cs ∧ Decoder.startsNumeral c := by
  by_cases natural : 0 ≤ z
  · rw [Numeral.toList_toString_of_nonneg natural]
    cases digits : Nat.toDigits 10 z.toNat with
    | nil => exact absurd digits Nat.toDigits_ne_nil
    | cons d ds =>
      have digit : d.isDigit := Numeral.isDigit_of_head?_toDigits (n := z.toNat) (by simp [digits])
      exact ⟨d, ds, rfl, by simp [Decoder.startsNumeral, digit]⟩
  · rw [Numeral.toList_toString_of_neg (by omega)]
    exact ⟨'-', _, rfl, rfl⟩

theorem reads_integer (expected : String) {ofInt? : Int → Option α} {z : Int} {a : α}
    (fits : Numeral.Fits z) (value : ofInt? z = some a) :
    Reads (Decoder.integer expected ofInt?) (toString z).toList a := by
  obtain ⟨c, cs, written, numeral⟩ := startsNumeral_toString z
  obtain ⟨solid, others⟩ := not_isBlank_of_startsNumeral numeral
  refine ⟨⟨c, cs, written, solid, others⟩, ?_⟩
  intro blank rest empty stops
  have read := Numeral.run_read fits stops
  rw [written, List.cons_append] at read ⊢
  rw [Decoder.integer, run_bind_of_ok (run_peek empty solid _), if_pos numeral, run_bind_of_ok read]
  simp only [value]
  rfl

theorem Quotes.reads {s : String} {text : List Char} (quotes : Quotes s text) :
    Reads Decoder.text text s := by
  obtain ⟨body, rfl, run⟩ := quotes.exists_body
  refine ⟨⟨'"', body, rfl, by decide, by decide, by decide⟩, fun {_ rest} empty _ => ?_⟩
  exact (run_led empty (by decide) rfl _).trans (run rest)

theorem reads_text (s : String) : Reads Decoder.text (stringLiteral s) s :=
  (quotes_stringLiteral s).reads

/-- A word is passed letter by letter after its first letter told which it is. -/
theorem run_word (cs : List Char) (a : α) (rest : List Char) :
    (do Decoder.literal cs; return a : Decoder α).run (cs ++ rest) = .ok (a, rest) := by
  rw [run_bind_of_ok (run_literal cs rest)]
  rfl

theorem reads_boolean (layout : Layout) (depth : Nat) (b : Bool) :
    Reads Decoder.boolean ((Json.boolean b).render layout depth) b := by
  cases b with
  | true =>
    refine ⟨⟨'t', _, rfl, by decide, by decide, by decide⟩, fun {_ rest} empty _ => ?_⟩
    rw [render, List.cons_append]
    exact (run_led empty (by decide) rfl _).trans (run_word ['r', 'u', 'e'] true rest)
  | false =>
    refine ⟨⟨'f', _, rfl, by decide, by decide, by decide⟩, fun {_ rest} empty _ => ?_⟩
    rw [render, List.cons_append]
    exact (run_led empty (by decide) rfl _).trans (run_word ['a', 'l', 's', 'e'] false rest)

/-! ## Lists -/

/-- What stands before the first item or member, or before a later one. -/
inductive Opens : Bool → List Char → Prop where
  | first {blank : List Char} (empty : Blank blank) : Opens true blank
  | later {before after : List Char} (left : Blank before) (right : Blank after) :
      Opens false (before ++ ',' :: after)

/-- The text of the items up to the closing bracket. -/
inductive Items (item : Decoder α) : Bool → List Char → List α → Prop where
  | nil {first : Bool} {blank : List Char} (empty : Blank blank) : Items item first blank []
  | cons {first : Bool} {separator text later : List Char} {x : α} {xs : List α}
      (opens : Opens first separator) (reads : Reads item text x) (tail : Items item false later xs) :
      Items item first (separator ++ (text ++ later)) (x :: xs)

theorem stops_cons {c : Char} (ends : c.isDigit = false ∧ c ≠ '.' ∧ c ≠ 'e' ∧ c ≠ 'E')
    (rest : List Char) : Stops (c :: rest) := by
  intro d first
  obtain rfl : c = d := by simpa using first
  exact ends

theorem Opens.stops {separator : List Char} (opens : Opens false separator) (rest : List Char) :
    Stops (separator ++ rest) := by
  cases opens with
  | later left right =>
    rw [List.append_assoc, List.cons_append]
    exact (stops_cons (by decide) _).blank_append left

theorem run_hasItem {first : Bool} {separator text : List Char} (opens : Opens first separator)
    (starts : Starts text) (rest : List Char) :
    (Decoder.hasItem first).run (separator ++ (text ++ rest)) = .ok (true, text ++ rest) := by
  obtain ⟨c, cs, rfl, solid, noComma, noBracket⟩ := starts
  rw [List.cons_append]
  cases opens with
  | first empty =>
    rw [Decoder.hasItem, run_bind_of_ok (run_peek empty solid _)]
    split
    · contradiction
    · contradiction
    · rfl
  | later left right =>
    rw [List.append_assoc, List.cons_append]
    refine (run_led left (by decide) rfl _).trans ?_
    rw [run_bind_of_ok (run_peek right solid _)]
    simp only [if_neg noBracket]
    rfl

theorem run_hasItem_end (first : Bool) {blank : List Char} (empty : Blank blank) (rest : List Char) :
    (Decoder.hasItem first).run (blank ++ ']' :: rest) = .ok (false, ']' :: rest) := by
  rw [Decoder.hasItem, run_bind_of_ok (run_peek empty (by decide) _)]
  rfl

theorem Items.stops {item : Decoder α} {text : List Char} {xs : List α}
    (items : Items item false text xs) (rest : List Char) : Stops (text ++ ']' :: rest) := by
  cases items with
  | nil empty => exact (stops_cons (by decide) rest).blank_append empty
  | cons opens _ _ =>
    rw [List.append_assoc]
    exact opens.stops _

theorem Items.run {item : Decoder α} {first : Bool} {text : List Char} {xs : List α}
    (items : Items item first text xs) {fuel : Nat} (enough : text.length < fuel) (rest : List Char) :
    (Decoder.items item first fuel).run (text ++ ']' :: rest) = .ok (xs, ']' :: rest) := by
  induction items generalizing fuel with
  | nil empty =>
    cases fuel with
    | zero => omega
    | succ fuel =>
      rw [Decoder.items, run_bind_of_ok (run_hasItem_end _ empty rest)]
      rfl
  | @cons first separator text later x xs opens reads tail ih =>
    cases fuel with
    | zero => omega
    | succ fuel =>
      -- the item has a first character, which pays for this step
      obtain ⟨c, cs, written, _⟩ := reads.starts
      simp only [List.length_append, written, List.length_cons] at enough
      rw [Decoder.items, List.append_assoc, List.append_assoc,
        run_bind_of_ok (run_hasItem opens reads.starts _), if_pos rfl,
        run_bind_of_ok (reads.run_here (tail.stops rest)), run_bind_of_ok (ih (by omega))]
      rfl

theorem Items.reads {item : Decoder α} {text : List Char} {xs : List α}
    (items : Items item true text xs) : Reads (Decoder.listOf item) ('[' :: (text ++ [']'])) xs where
  starts := ⟨'[', _, rfl, by decide, by decide, by decide⟩
  run {blank rest} empty _ := by
    rw [List.cons_append, List.append_assoc, List.singleton_append]
    refine (run_led empty (by decide) rfl _).trans ?_
    have enough : text.length < (text ++ ']' :: rest).length + 1 := by
      rw [List.length_append]
      omega
    rw [run_bind_of_ok (StateT.run_get _), run_bind_of_ok (items.run enough rest),
      run_bind_of_ok (run_expect_here (by decide) rest)]
    rfl

/-! ## Objects -/

/-- The text of the members up to the closing bracket, and what is gathered from them. -/
inductive Members (name : Decoder κ) (value : σ → κ → Decoder σ) :
    Bool → σ → List Char → σ → Prop where
  | nil {first : Bool} {s : σ} {blank : List Char} (empty : Blank blank) :
      Members name value first s blank s
  | cons {first : Bool} {s s' s'' : σ} {separator key text later : List Char} {k : κ}
      (opens : Opens first separator)
      (named : ∀ rest, name.run ('"' :: (key ++ rest)) = .ok (k, rest))
      (valued : ∀ {rest}, Stops rest → (value s k).run (text ++ rest) = .ok (s', rest))
      (tail : Members name value false s' later s'') :
      Members name value first s (separator ++ '"' :: (key ++ (text ++ later))) s''

theorem run_hasMember {first : Bool} {separator : List Char} (opens : Opens first separator)
    (rest : List Char) :
    (Decoder.hasMember first).run (separator ++ '"' :: rest) = .ok (true, '"' :: rest) := by
  cases opens with
  | first empty =>
    rw [Decoder.hasMember, run_bind_of_ok (run_peek empty (by decide) _)]
    rfl
  | later left right =>
    rw [List.append_assoc, List.cons_append]
    refine (run_led left (by decide) rfl _).trans ?_
    rw [run_bind_of_ok (run_peek right (by decide) _)]
    rfl

theorem run_hasMember_end (first : Bool) {blank : List Char} (empty : Blank blank)
    (rest : List Char) :
    (Decoder.hasMember first).run (blank ++ '\x7d' :: rest) = .ok (false, '\x7d' :: rest) := by
  rw [Decoder.hasMember, run_bind_of_ok (run_peek empty (by decide) _)]
  rfl

variable {name : Decoder κ} {value : σ → κ → Decoder σ}

theorem Members.stops {s s' : σ} {text : List Char} (members : Members name value false s text s')
    (rest : List Char) : Stops (text ++ '\x7d' :: rest) := by
  cases members with
  | nil empty => exact (stops_cons (by decide) rest).blank_append empty
  | cons opens _ _ _ =>
    rw [List.append_assoc]
    exact opens.stops _

theorem Members.run {first : Bool} {s s' : σ} {text : List Char}
    (members : Members name value first s text s') {fuel : Nat} (enough : text.length < fuel)
    (rest : List Char) :
    (Decoder.members name value first s fuel).run (text ++ '\x7d' :: rest) =
      .ok (s', '\x7d' :: rest) := by
  induction members generalizing fuel with
  | nil empty =>
    cases fuel with
    | zero => omega
    | succ fuel =>
      rw [Decoder.members, run_bind_of_ok (run_hasMember_end _ empty rest)]
      rfl
  | cons opens named valued tail ih =>
    cases fuel with
    | zero => omega
    | succ fuel =>
      -- the quote of the name pays for this step
      simp only [List.length_append, List.length_cons] at enough
      simp only [List.append_assoc, List.cons_append]
      rw [Decoder.members, run_bind_of_ok (run_hasMember opens _), if_pos rfl,
        run_bind_of_ok (named _), run_bind_of_ok (valued (tail.stops rest)), ih (by omega)]

theorem Members.run_allMembers {s s' : σ} {text : List Char}
    (members : Members name value true s text s') (rest : List Char) :
    (Decoder.allMembers name value s).run (text ++ '\x7d' :: rest) = .ok (s', '\x7d' :: rest) := by
  have enough : text.length < (text ++ '\x7d' :: rest).length + 1 := by
    rw [List.length_append]
    omega
  rw [Decoder.allMembers, run_bind_of_ok (StateT.run_get _)]
  exact members.run enough rest

end Handover.Json
