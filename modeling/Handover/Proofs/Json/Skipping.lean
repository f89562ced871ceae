import Handover.Proofs.Json.Grammar

/-! # JSON is skipped

A value nobody asks for is passed in full, whatever valid JSON it is (`Valid.run_skip`).

Decoders count their steps.  A step that looks at a value and one that looks at an item or a member both
take one off the count, so a value has twice its length to spend: its brackets pay for themselves, and
every comma pays for the two steps of the item behind it.
-/

namespace Handover.Json

/-! ## Strings -/

theorem skipString_of_piece {piece : List Char} (valid : Piece piece) (rest : List Char) :
    skipString (piece ++ rest) = skipString rest := by
  cases valid with
  | plain noQuote noBackslash visible =>
    rw [List.singleton_append, skipString, if_neg visible]
    · exact noQuote
    · exact fun backslash _ => noBackslash backslash
    · exact fun _ backslash _ => noBackslash backslash
    · exact fun _ _ backslash _ => noBackslash backslash
  | @named letter named =>
    show skipString ('\\' :: letter :: rest) = _
    rw [skipString, if_pos named]
    rintro rfl
    cases named
  | @unit digits n hex =>
    show skipString ('\\' :: 'u' :: (digits ++ rest)) = _
    rw [skipString]
    split
    case h_1 e failed =>
      rw [unit_of_hex hex] at failed
      cases failed
    case h_2 m rest' read =>
      rw [unit_of_hex hex] at read
      cases read
      rfl

theorem StringText.exists_body {text : List Char} (string : StringText text) :
    ∃ body, text = '"' :: body ∧ ∀ rest, skipString (body ++ rest) = .ok rest := by
  obtain ⟨pieces, valid, rfl⟩ := string
  refine ⟨_, rfl, fun rest => ?_⟩
  rw [List.append_assoc, List.singleton_append]
  induction pieces with
  | nil => rw [List.flatten_nil, List.nil_append, skipString]
  | cons piece pieces ih =>
    obtain ⟨first, others⟩ := List.forall_mem_cons.mp valid
    rw [List.flatten_cons, List.append_assoc, skipString_of_piece first, ih others]

theorem run_liftM {α : Type} {result : Except DecodeError α} {a : α} (ok : result = .ok a)
    (input : List Char) : (liftM result : Decoder α).run input = .ok (a, input) := by
  rw [ok]
  rfl

/-! ## Numbers -/

theorem run_skipDigits {ds rest : List Char} (digits : Digits ds)
    (ends : ∀ c ∈ rest.head?, c.isDigit = false) :
    Decoder.skipDigits.run (ds ++ rest) = .ok ((), rest) := by
  rw [Decoder.skipDigits, run_bind_of_ok (StateT.run_get _), Numeral.span_digits digits.2 ends]
  simp only [if_neg digits.1]
  rfl

theorem Exponent.ends {text : List Char} (exponent : Exponent text) {rest : List Char}
    (stops : Stops rest) : ∀ c ∈ (text ++ rest).head?, c.isDigit = false ∧ c ≠ '.' := by
  cases exponent with
  | none => exact fun c first => ⟨(stops c first).1, (stops c first).2.1⟩
  | some letters _ _ =>
    intro c first
    obtain rfl := Option.some.inj first
    rcases letters with rfl | rfl <;> decide

theorem Exponent.run_skip {text : List Char} (exponent : Exponent text) {rest : List Char}
    (stops : Stops rest) : Decoder.skipExponent.run (text ++ rest) = .ok ((), rest) := by
  rw [Decoder.skipExponent, run_bind_of_ok (StateT.run_get _)]
  cases exponent with
  | none =>
    rw [List.nil_append]
    split
    case h_7 => rfl
    all_goals exact absurd rfl (by first | exact (stops _ rfl).2.2.1 | exact (stops _ rfl).2.2.2)
  | @some letter sign ds letters signs digits =>
    have ran := run_skipDigits digits fun c first => (stops c first).1
    obtain ⟨d, ds, rfl⟩ := List.exists_cons_of_ne_nil digits.1
    have digit := digits.2 d List.mem_cons_self
    have unsigned : d ≠ '+' ∧ d ≠ '-' := by
      constructor <;> rintro rfl <;> simp at digit
    -- a sign, or a first digit that is none, decides which way the exponent is met
    rcases signs with rfl | rfl | rfl
    · rcases letters with rfl | rfl
      all_goals
        split
        all_goals simp_all
    · rcases letters with rfl | rfl <;> exact ran
    · rcases letters with rfl | rfl <;> exact ran

/-- Passes what may follow the whole part of a number. -/
def skipFraction : Decoder Unit := do
  match ← get with
  | '.' :: rest => set rest; Decoder.skipDigits
  | _ => pure ()
  Decoder.skipExponent

def skipUnsigned : Decoder Unit := do
  match ← get with
  | '0' :: rest =>
    if (rest.head?.filter Char.isDigit).isSome then throw .malformed
    set rest
  | _ => Decoder.skipDigits
  skipFraction

theorem skipNumeral_eq : Decoder.skipNumeral = (do
    if (← get).head? = some '-' then Decoder.advance
    skipUnsigned) := rfl

theorem run_skipFraction {fraction exponent rest : List Char} (decimals : Fraction fraction)
    (scale : Exponent exponent) (stops : Stops rest) :
    skipFraction.run (fraction ++ (exponent ++ rest)) = .ok ((), rest) := by
  have ends := scale.ends stops
  rw [skipFraction, run_bind_of_ok (StateT.run_get _)]
  cases decimals with
  | none =>
    rw [List.nil_append]
    split
    case h_1 tail point => exact absurd rfl (ends '.' (by rw [point]; rfl)).2
    case h_2 => exact scale.run_skip stops
  | @some ds digits =>
    have ran := run_skipDigits digits fun c first => (ends c first).1
    show (Decoder.skipDigits >>= fun _ => Decoder.skipExponent).run (ds ++ (exponent ++ rest)) = _
    rw [run_bind_of_ok ran]
    exact scale.run_skip stops

theorem Fraction.ends {fraction exponent rest : List Char} (decimals : Fraction fraction)
    (scale : Exponent exponent) (stops : Stops rest) :
    ∀ c ∈ (fraction ++ (exponent ++ rest)).head?, c.isDigit = false := by
  cases decimals with
  | none => exact fun c first => (scale.ends stops c first).1
  | some _ =>
    intro c first
    obtain rfl := Option.some.inj first
    decide

theorem run_skipUnsigned {whole fraction exponent rest : List Char} (digits : Whole whole)
    (decimals : Fraction fraction) (scale : Exponent exponent) (stops : Stops rest) :
    skipUnsigned.run (whole ++ (fraction ++ (exponent ++ rest))) = .ok ((), rest) := by
  have ends := decimals.ends scale stops
  have ran := run_skipFraction decimals scale stops
  rw [skipUnsigned, run_bind_of_ok (StateT.run_get _)]
  cases digits with
  | zero =>
    -- a zero that another digit follows would not be a number
    have alone : ((fraction ++ (exponent ++ rest)).head?.filter Char.isDigit).isSome = false := by
      cases first : (fraction ++ (exponent ++ rest)).head? with
      | none => rfl
      | some c => simp [ends c first]
    rw [List.singleton_append]
    simp only [alone]
    exact ran
  | @positive d ds digits nonzero =>
    rw [List.cons_append]
    split
    case h_1 tail same => exact absurd (List.cons.inj same).1 nonzero
    case h_2 =>
      rw [← List.cons_append, run_bind_of_ok (run_skipDigits digits ends)]
      exact ran

theorem Whole.exists_digit {text : List Char} (digits : Whole text) :
    ∃ d ds, text = d :: ds ∧ d.isDigit := by
  cases digits with
  | zero => exact ⟨'0', [], rfl, by decide⟩
  | positive digits _ => exact ⟨_, _, rfl, digits.2 _ List.mem_cons_self⟩

theorem NumeralText.exists_head {text : List Char} (numeral : NumeralText text) :
    ∃ c cs, text = c :: cs ∧ Decoder.startsNumeral c := by
  cases numeral with
  | parts signs digits _ _ =>
    rcases signs with rfl | rfl
    · obtain ⟨d, ds, rfl, digit⟩ := digits.exists_digit
      exact ⟨d, _, rfl, by simp [Decoder.startsNumeral, digit]⟩
    · exact ⟨'-', _, rfl, rfl⟩

theorem NumeralText.run_skip {text : List Char} (numeral : NumeralText text) {rest : List Char}
    (stops : Stops rest) : Decoder.skipNumeral.run (text ++ rest) = .ok ((), rest) := by
  cases numeral with
  | parts signs digits decimals scale =>
    have ran := run_skipUnsigned digits decimals scale stops
    rw [skipNumeral_eq, run_bind_of_ok (StateT.run_get _)]
    simp only [List.append_assoc]
    rcases signs with rfl | rfl
    · obtain ⟨d, ds, rfl, digit⟩ := digits.exists_digit
      rw [if_neg]
      · exact ran
      · intro signed
        obtain rfl := Option.some.inj signed
        cases digit
    · exact ran

/-! ## Values -/

theorem Valid.starts {text : List Char} (valid : Valid text) : Starts text := by
  cases valid with
  | null => exact ⟨'n', _, rfl, by decide, by decide, by decide⟩
  | true => exact ⟨'t', _, rfl, by decide, by decide, by decide⟩
  | false => exact ⟨'f', _, rfl, by decide, by decide, by decide⟩
  | numeral numeral =>
    obtain ⟨c, cs, rfl, starts⟩ := numeral.exists_head
    exact ⟨c, cs, rfl, not_isBlank_of_startsNumeral starts⟩
  | string string =>
    obtain ⟨body, rfl, _⟩ := string.exists_body
    exact ⟨'"', body, rfl, by decide, by decide, by decide⟩
  | list => exact ⟨'[', _, rfl, by decide, by decide, by decide⟩
  | object => exact ⟨'\x7b', _, rfl, by decide, by decide, by decide⟩

theorem Joined.stops {parts : List (List Char)} {text : List Char} (joined : Joined false parts text)
    {closing : Char} (closes : closing = ']' ∨ closing = '\x7d') (rest : List Char) :
    Stops (text ++ closing :: rest) := by
  cases joined with
  | nil empty =>
    refine Stops.blank_append empty ?_
    rcases closes with rfl | rfl <;> exact stops_cons (by decide) rest
  | cons opens _ =>
    rw [List.append_assoc]
    exact opens.stops _

/-- The text is passed, blanks before it included, if the count of steps is at least twice its
length. -/
def Passes (skip : Nat → Decoder Unit) (text : List Char) : Prop :=
  ∀ fuel, 2 * text.length ≤ fuel → ∀ blank rest, Blank blank → Stops rest →
    (skip fuel).run (blank ++ (text ++ rest)) = .ok ((), rest)

/-- Passes the closing bracket, or a comma and what comes next. -/
def endOrNext (closing : Char) (next : Decoder Unit) : Decoder Unit := do
  let c ← Decoder.peek
  if c = closing then Decoder.advance
  else if c = ',' then do Decoder.advance; next
  else throw .malformed

def skipMember (fuel : Nat) : Decoder Unit := do
  Decoder.expect '"'
  set (← skipString (← get))
  Decoder.expect ':'
  Decoder.skipValue fuel

theorem skipItems_succ (fuel : Nat) : Decoder.skipItems (fuel + 1) = (do
    Decoder.skipValue fuel
    endOrNext ']' (Decoder.skipItems fuel)) := by
  rw [Decoder.skipItems]
  refine bind_congr fun _ => bind_congr fun c => ?_
  split
  case h_1 => rfl
  case h_2 => rfl
  case h_3 noBracket noComma => rw [if_neg noBracket, if_neg noComma]

theorem skipMembers_succ (fuel : Nat) : Decoder.skipMembers (fuel + 1) = (do
    skipMember fuel
    endOrNext '\x7d' (Decoder.skipMembers fuel)) := by
  rw [Decoder.skipMembers, skipMember]
  simp only [bind_assoc]
  refine bind_congr fun _ => bind_congr fun _ => bind_congr fun _ => bind_congr fun _ =>
    bind_congr fun _ => bind_congr fun _ => bind_congr fun c => ?_
  split
  case h_1 => rfl
  case h_2 => rfl
  case h_3 noBracket noComma => rw [if_neg noBracket, if_neg noComma]

/-- Parts are passed from one of them on, if each is and if what comes after a part is either the
closing bracket or a comma and another part. -/
theorem run_parts {skip skipPart : Nat → Decoder Unit} {closing : Char}
    (closes : closing = ']' ∨ closing = '\x7d')
    (step : ∀ fuel, skip (fuel + 1) = do skipPart fuel; endOrNext closing (skip fuel))
    {part body : List Char} {parts : List (List Char)}
    (passes : ∀ p ∈ part :: parts, Passes skipPart p) (joined : Joined false parts body) {fuel : Nat}
    (enough : 2 * (part.length + body.length) < fuel) {blank : List Char} (empty : Blank blank)
    (rest : List Char) :
    (skip fuel).run (blank ++ (part ++ (body ++ closing :: rest))) = .ok ((), rest) := by
  have bracket : Decoder.isBlank closing = false ∧ closing ≠ ',' := by
    rcases closes with rfl | rfl <;> decide
  induction parts generalizing part body fuel blank with
  | nil =>
    obtain ⟨fuel, rfl⟩ := Nat.exists_eq_add_one_of_ne_zero (Nat.ne_zero_of_lt enough)
    have first := passes part List.mem_cons_self fuel (by omega) blank (body ++ closing :: rest) empty
      (joined.stops closes rest)
    cases joined with
    | nil ends =>
      rw [step, run_bind_of_ok first, endOrNext, run_bind_of_ok (run_peek ends bracket.1 rest),
        if_pos rfl]
      rfl
  | cons part' parts ih =>
    obtain ⟨fuel, rfl⟩ := Nat.exists_eq_add_one_of_ne_zero (Nat.ne_zero_of_lt enough)
    have first := passes part List.mem_cons_self fuel (by omega) blank (body ++ closing :: rest) empty
      (joined.stops closes rest)
    rw [step, run_bind_of_ok first, endOrNext]
    -- the comma pays for the two steps between this part and the next
    cases joined with
    | cons opens tail =>
      cases opens with
      | later left right =>
        simp only [List.length_append, List.length_cons] at enough
        simp only [List.append_assoc, List.cons_append]
        rw [run_bind_of_ok (run_peek left (by decide) _), if_neg (Ne.symm bracket.2), if_pos rfl,
          run_bind_of_ok (run_advance _ _)]
        exact ih (fun p member => passes p (List.mem_cons_of_mem _ member)) tail (by omega) right

theorem run_allParts {skip skipPart : Nat → Decoder Unit} {closing : Char}
    (closes : closing = ']' ∨ closing = '\x7d')
    (step : ∀ fuel, skip (fuel + 1) = do skipPart fuel; endOrNext closing (skip fuel))
    {body : List Char} {parts : List (List Char)}
    (starts : ∀ p ∈ parts, ∃ c cs, p = c :: cs ∧ Decoder.isBlank c = false ∧ c ≠ closing)
    (passes : ∀ p ∈ parts, Passes skipPart p) (joined : Joined true parts body) {fuel : Nat}
    (enough : 2 * body.length < fuel) (rest : List Char) :
    (do if (← Decoder.peek) = closing then Decoder.advance else skip fuel : Decoder Unit).run
      (body ++ closing :: rest) = .ok ((), rest) := by
  cases joined with
  | nil empty =>
    have solid : Decoder.isBlank closing = false := by rcases closes with rfl | rfl <;> decide
    rw [run_bind_of_ok (run_peek empty solid rest), if_pos rfl]
    rfl
  | @cons _ separator part later _ opens tail =>
    cases opens with
    | first empty =>
      simp only [List.length_append] at enough
      have left : 2 * (part.length + later.length) < fuel := by omega
      have ran := run_parts closes step passes tail left blank_nil rest
      obtain ⟨c, cs, rfl, solid, goesOn⟩ := starts _ List.mem_cons_self
      simp only [List.append_assoc, List.cons_append]
      rw [run_bind_of_ok (run_peek empty solid _), if_neg goesOn]
      exact ran

theorem Member.passes {member : Member} (named : StringText member.name)
    (passes : Passes Decoder.skipValue member.value) : Passes skipMember member.text := by
  intro fuel enough blank rest empty stops
  obtain ⟨body, quoted, skipped⟩ := named.exists_body
  have shorter : member.value.length ≤ member.text.length := by
    simp only [Member.text, List.length_append, List.length_cons]
    omega
  rw [Member.text, quoted]
  simp only [List.cons_append, List.append_assoc]
  rw [skipMember, run_bind_of_ok (run_expect empty (by decide) _),
    run_bind_of_ok (StateT.run_get _), run_bind_of_ok (run_liftM (skipped _) _),
    run_bind_of_ok (StateT.run_set _ _), run_bind_of_ok (run_expect member.before_blank (by decide) _)]
  exact passes fuel (by omega) _ rest member.after_blank stops

theorem Member.starts {member : Member} (named : StringText member.name) :
    ∃ c cs, member.text = c :: cs ∧ Decoder.isBlank c = false ∧ c ≠ '\x7d' := by
  obtain ⟨body, quoted, _⟩ := named.exists_body
  rw [Member.text, quoted]
  exact ⟨'"', _, rfl, by decide, by decide⟩

/-- What begins with a character that tells what it is goes on behind that character. -/
theorem passes_of_led {c : Char} {cs : List Char} {body : Nat → Decoder Unit}
    (led : ∀ fuel blank rest, Blank blank →
      (Decoder.skipValue (fuel + 1)).run (blank ++ c :: rest) = (body fuel).run rest)
    (ran : ∀ fuel, 2 * cs.length < fuel → ∀ rest, (body fuel).run (cs ++ rest) = .ok ((), rest)) :
    Passes Decoder.skipValue (c :: cs) := by
  intro fuel enough blank rest empty _
  rw [List.length_cons] at enough
  obtain ⟨fuel, rfl⟩ := Nat.exists_eq_add_one_of_ne_zero (Nat.ne_zero_of_lt enough)
  rw [List.cons_append, led fuel blank _ empty]
  exact ran fuel (by omega) rest

/-- Any JSON is skipped, in as many steps as twice its length. -/
theorem Valid.passes {text : List Char} (valid : Valid text) : Passes Decoder.skipValue text := by
  induction valid with
  | null =>
    exact passes_of_led (fun _ _ rest empty => run_led empty (by decide) rfl rest)
      fun _ _ rest => run_literal ['u', 'l', 'l'] rest
  | true =>
    exact passes_of_led (fun _ _ rest empty => run_led empty (by decide) rfl rest)
      fun _ _ rest => run_literal ['r', 'u', 'e'] rest
  | false =>
    exact passes_of_led (fun _ _ rest empty => run_led empty (by decide) rfl rest)
      fun _ _ rest => run_literal ['a', 'l', 's', 'e'] rest
  | numeral numeral =>
    intro fuel enough blank rest empty stops
    obtain ⟨c, cs, rfl, starts⟩ := numeral.exists_head
    obtain ⟨fuel, rfl⟩ := Nat.exists_eq_add_one_of_ne_zero (Nat.ne_zero_of_lt enough)
    have solid := (not_isBlank_of_startsNumeral starts).1
    rw [List.cons_append, Decoder.skipValue, run_bind_of_ok (run_peek empty solid _)]
    split
    case h_7 =>
      rw [if_pos starts]
      exact numeral.run_skip stops
    -- every other value begins with a character that no number begins with
    all_goals cases starts
  | string string =>
    obtain ⟨body, rfl, skipped⟩ := string.exists_body
    refine passes_of_led (fun _ _ rest empty => run_led empty (by decide) rfl rest) fun _ _ rest => ?_
    rw [run_bind_of_ok (StateT.run_get _), run_bind_of_ok (run_liftM (skipped rest) _)]
    rfl
  | @list items body joined valid ih =>
    refine passes_of_led (fun _ _ rest empty => run_led empty (by decide) rfl rest)
      fun fuel enough rest => ?_
    rw [List.length_append] at enough
    rw [List.append_assoc]
    refine run_allParts (.inl rfl) skipItems_succ (fun p member => ?_) ih joined (by omega) rest
    obtain ⟨c, cs, same, solid, _, noBracket⟩ := (valid p member).starts
    exact ⟨c, cs, same, solid, noBracket⟩
  | @object members body joined named valid ih =>
    refine passes_of_led (fun _ _ rest empty => run_led empty (by decide) rfl rest)
      fun fuel enough rest => ?_
    rw [List.length_append] at enough
    rw [List.append_assoc]
    refine run_allParts (.inr rfl) skipMembers_succ (fun p here => ?_) (fun p here => ?_) joined
      (by omega) rest
    · obtain ⟨member, listed, rfl⟩ := List.mem_map.mp here
      exact Member.starts (named member listed)
    · obtain ⟨member, listed, rfl⟩ := List.mem_map.mp here
      exact Member.passes (named member listed) (ih member listed)

theorem Valid.run_skip {text : List Char} (valid : Valid text) {blank rest : List Char}
    (empty : Blank blank) (stops : Stops rest) :
    Decoder.skip.run (blank ++ (text ++ rest)) = .ok ((), rest) := by
  have enough : 2 * text.length ≤ 2 * (blank ++ (text ++ rest)).length + 2 := by
    simp only [List.length_append]
    omega
  rw [Decoder.skip, run_bind_of_ok (StateT.run_get _)]
  exact valid.passes _ enough blank rest empty stops

end Handover.Json
