import Handover.Proofs.Json.Reading
import Handover.Proofs.Rearrangement

/-! # Formats that read what they write

A format is lawful if every value is read back from its text in every layout that adds nothing but
blanks; the two directions of a format are independent programs, and each way to build a format is
shown to keep the law.  A whole text may end with blanks (`ReadsBack.decode`).

The members of a record are read as changes of a blank record, in the order in which they were written.
So a record is lawful as soon as its fields have different names and their changes, applied one after
the other to the blank record, rebuild the value (`Record.lawful`).  A field that may be left out is
always written, so it never falls back to its default.
-/

namespace Handover.Json

variable {α β κ σ : Type}

/-! ## Layouts and lawful formats -/

/-- A layout that leaves nothing but blanks between the parts of a text. -/
structure Layout.Plain (layout : Layout) : Prop where
  gap (depth : Nat) : Blank (layout.gap depth)
  colon : ∃ blank, Blank blank ∧ layout.colon = ':' :: blank

/-- However the JSON value is laid out, its text is read as the given value. -/
def ReadsBack (read : Decoder α) (json : Json) (a : α) : Prop :=
  ∀ layout : Layout, layout.Plain → ∀ depth, Reads read (json.render layout depth) a

def Format.Lawful (format : Format α) : Prop := ∀ a, ReadsBack format.read (format.write a) a

namespace Layout

theorem plain_compact : compact.Plain where
  gap _ := blank_nil
  colon := ⟨[], blank_nil, rfl⟩

theorem plain_indented : indented.Plain where
  gap depth c member := by
    rcases List.mem_cons.mp member with rfl | blanks
    · decide
    · rw [List.eq_of_mem_replicate blanks]
      decide
  colon := ⟨[' '], blank_space, rfl⟩

end Layout

theorem ReadsBack.map {read : Decoder α} {json : Json} {a : α} (back : ReadsBack read json a)
    (f : α → β) : ReadsBack (f <$> read) json (f a) :=
  fun layout plain depth => (back layout plain depth).map f

theorem ReadsBack.decode {read : Decoder α} {json : Json} {a : α} (back : ReadsBack read json a)
    {layout : Layout} (plain : layout.Plain) {rest : List Char} (blank : Blank rest) :
    Decoder.decode read (.ofList (json.render layout 0 ++ rest)) = .ok a := by
  have decoded := (back layout plain 0).decode blank_nil blank
  rwa [List.nil_append] at decoded

theorem Format.Lawful.decode_compact {format : Format α} (lawful : format.Lawful) (a : α) :
    Decoder.decode format.read (format.write a).compact = .ok a := by
  simpa [Json.compact] using (lawful a).decode Layout.plain_compact blank_nil

namespace Format

theorem Lawful.map {format : Format α} (lawful : format.Lawful) {toNew : α → β} {toOld : β → α}
    (inverse : ∀ b, toNew (toOld b) = b) : (format.map toNew toOld).Lawful := by
  intro b
  have back := (lawful (toOld b)).map toNew
  rwa [inverse] at back

theorem lawful_uint32 : uint32.Lawful := by
  intro n layout _ depth
  have small : n.toNat < UInt32.size := n.toNat_lt
  refine reads_integer "u32" ⟨?_, ?_⟩ ?_
  · have least : Int64.minValue.toInt ≤ 0 := by decide
    omega
  · have wider : (UInt32.size : Int) < UInt64.size := by decide
    omega
  · rw [if_pos (by omega), Int.toNat_natCast, UInt32.ofNat_toNat]

theorem lawful_uint64 : uint64.Lawful := by
  intro n layout _ depth
  have small : n.toNat < UInt64.size := n.toNat_lt
  refine reads_integer "u64" ⟨?_, ?_⟩ ?_
  · have least : Int64.minValue.toInt ≤ 0 := by decide
    omega
  · omega
  · rw [if_pos (by omega), Int.toNat_natCast, UInt64.ofNat_toNat]

theorem lawful_int64 : int64.Lawful := by
  intro n layout _ depth
  have low := n.minValue_le_toInt
  have high := n.toInt_le
  have bounds : Int64.maxValue.toInt < UInt64.size := by decide
  refine reads_integer "i64" ⟨?_, ?_⟩ ?_
  · omega
  · omega
  · rw [if_pos (by omega), Int64.ofInt_toInt]

theorem lawful_text : text.Lawful := fun s _ _ _ => reads_text s

theorem lawful_boolean : boolean.Lawful := fun b layout _ depth => reads_boolean layout depth b

theorem items_renderItems {item : Format α} (lawful : item.Lawful) {layout : Layout}
    (plain : layout.Plain) (depth outer : Nat) (xs : List α) :
    Items item.read false
      (renderItems layout depth (xs.map item.write) ++ layout.gap outer) xs := by
  induction xs with
  | nil => exact .nil (plain.gap outer)
  | cons x xs ih =>
    have opens : Opens false (',' :: layout.gap depth) := .later blank_nil (plain.gap depth)
    have all := Items.cons opens (lawful x layout plain depth) ih
    rw [List.map_cons, renderItems]
    simpa [List.append_assoc] using all

theorem Lawful.list {item : Format α} (lawful : item.Lawful) : (list item).Lawful := by
  intro xs layout plain depth
  -- no layout puts a gap into an empty list
  cases xs with
  | nil => exact (Items.nil blank_nil).reads
  | cons x xs =>
    have all := Items.cons (.first (plain.gap (depth + 1))) (lawful x layout plain (depth + 1))
      (items_renderItems lawful plain (depth + 1) depth xs)
    show Reads (Decoder.listOf item.read)
      ((Json.list (item.write x :: xs.map item.write)).render layout depth) _
    rw [render]
    simpa [List.append_assoc] using all.reads

end Format

/-! ## Objects -/

/-- The members that a list of names and values is read as, one after the other. -/
inductive Gathers (name : Decoder κ) (value : σ → κ → Decoder σ) (layout : Layout) (depth : Nat) :
    σ → List (String × Json) → σ → Prop where
  | nil {s : σ} : Gathers name value layout depth s [] s
  | cons {s s' s'' : σ} {key : String} {json : Json} {members : List (String × Json)} {k : κ}
      (named : ∀ rest, name.run (stringLiteral key ++ rest) = .ok (k, rest))
      (valued : ∀ {rest}, Stops rest →
        (value s k).run (layout.colon ++ (json.render layout depth ++ rest)) = .ok (s', rest))
      (tail : Gathers name value layout depth s' members s'') :
      Gathers name value layout depth s ((key, json) :: members) s''

variable {name : Decoder κ} {value : σ → κ → Decoder σ} {layout : Layout}

theorem Gathers.cons_members {first : Bool} {separator later : List Char} {s s' s'' : σ} {depth : Nat}
    {key : String} {json : Json} {k : κ} (opens : Opens first separator)
    (named : ∀ rest, name.run (stringLiteral key ++ rest) = .ok (k, rest))
    (valued : ∀ {rest}, Stops rest →
      (value s k).run (layout.colon ++ (json.render layout depth ++ rest)) = .ok (s', rest))
    (tail : Members name value false s' later s'') :
    Members name value first s
      (separator ++ (stringLiteral key ++ (layout.colon ++ (json.render layout depth ++ later))))
      s'' := by
  have all := @Members.cons _ _ name value first s s' s'' separator
    (key.toList.flatMap escapedChar ++ ['"']) (layout.colon ++ json.render layout depth) later k opens
    (fun rest => by simpa [stringLiteral] using named rest)
    (fun stops => by simpa using valued stops) tail
  simpa [stringLiteral] using all

theorem Gathers.members_renderMembers (plain : layout.Plain) {depth : Nat} {s s' : σ}
    {members : List (String × Json)} (gathers : Gathers name value layout depth s members s')
    (outer : Nat) :
    Members name value false s (renderMembers layout depth members ++ layout.gap outer) s' := by
  induction gathers with
  | nil => exact .nil (plain.gap outer)
  | cons named valued _ ih =>
    have all := cons_members (.later blank_nil (plain.gap depth)) named valued ih
    rw [renderMembers]
    simpa [List.append_assoc] using all

/-- An object is taken up to its closing bracket once its opening one is passed. -/
theorem Gathers.run_allMembers (plain : layout.Plain) {depth : Nat} {s s' : σ}
    {members : List (String × Json)} (gathers : Gathers name value layout (depth + 1) s members s') :
    ∃ text, (Json.object members).render layout depth = '\x7b' :: (text ++ ['\x7d']) ∧
      ∀ rest, (Decoder.allMembers name value s).run (text ++ '\x7d' :: rest) =
        .ok (s', '\x7d' :: rest) := by
  cases gathers with
  | nil => exact ⟨[], rfl, (Members.nil blank_nil).run_allMembers⟩
  | cons named valued tail =>
    have all := cons_members (.first (plain.gap (depth + 1))) named valued
      (tail.members_renderMembers plain depth)
    refine ⟨_, ?_, all.run_allMembers⟩
    rw [render]
    simp [List.append_assoc]

/-! ## Records -/

/-- Reading the written fields one after the other turns one value into another. -/
inductive Restores (a : α) : List (Field α) → α → α → Prop where
  | nil {b : α} : Restores a [] b b
  | cons {field : Field α} {fields : List (Field α)} {change : α → α} {b c : α}
      (back : ReadsBack field.read (field.write a) change) (tail : Restores a fields (change b) c) :
      Restores a (field :: fields) b c

theorem Field.readsBack_mandatory {name : String} {format : Format β} (lawful : format.Lawful)
    {get : α → β} {set : β → α → α} {a : α} :
    ReadsBack (mandatory name format get set).read ((mandatory name format get set).write a)
      (set (get a)) :=
  (lawful (get a)).map set

theorem Field.readsBack_optional {name : String} {format : Format β} (lawful : format.Lawful)
    {get : α → β} {set : β → α → α} {a : α} :
    ReadsBack (optional name format get set).read ((optional name format get set).write a)
      (set (get a)) :=
  (lawful (get a)).map set

namespace Record

variable {record : Record α}

theorem run_name (s : String) (rest : List Char) :
    Decoder.name.run (stringLiteral s ++ rest) = .ok (s, rest) := by
  have body := run_string s rest
  rw [stringLiteral, List.cons_append, List.cons_append, List.append_assoc, Decoder.name,
    run_bind_of_ok (run_advance _ _)]
  exact body

theorem run_readMember {field : Field α}
    (found : record.fields.find? (·.name = field.name) = some field) {part : Partial α}
    (unseen : field.name ∉ part.seen) {text : List Char} {change : α → α}
    (reads : Reads field.read text change) {before after rest : List Char} (left : Blank before)
    (right : Blank after) (stops : Stops rest) :
    (record.readMember part field.name).run (before ++ ':' :: (after ++ (text ++ rest))) =
      .ok (⟨change part.value, field.name :: part.seen⟩, rest) := by
  rw [readMember, found]
  simp only [if_neg unseen]
  rw [run_bind_of_ok (run_expect left (by decide) _), run_bind_of_ok (reads.run right stops)]
  rfl

theorem gathers (plain : layout.Plain) (depth : Nat) {a b c : α} {fields : List (Field α)}
    (restores : Restores a fields b c) (distinct : (fields.map (·.name)).Nodup)
    (found : ∀ field ∈ fields, record.fields.find? (·.name = field.name) = some field)
    {seen : List String} (unseen : ∀ field ∈ fields, field.name ∉ seen) :
    Gathers Decoder.name record.readMember layout depth ⟨b, seen⟩
      (fields.map fun field => (field.name, field.write a))
      ⟨c, (fields.map (·.name)).reverse ++ seen⟩ := by
  obtain ⟨blank, empty, colon⟩ := plain.colon
  induction restores generalizing seen with
  | nil => exact .nil
  | @cons field fields change b c back _ ih =>
    rw [List.forall_mem_cons] at found unseen
    obtain ⟨fresh, distinct⟩ := List.nodup_cons.mp distinct
    -- the name just seen is none of those to come
    have later : ∀ field' ∈ fields, field'.name ∉ field.name :: seen := by
      intro field' member same
      rcases List.mem_cons.mp same with here | before
      · exact fresh (List.mem_map.mpr ⟨field', member, here⟩)
      · exact unseen.2 field' member before
    have tail := ih distinct found.2 later
    simp only [List.map_cons, List.reverse_cons, List.append_assoc, List.singleton_append]
    refine .cons (run_name _) (fun {rest} stops => ?_) tail
    rw [colon]
    exact run_readMember found.1 unseen.1 (back layout plain depth) blank_nil empty stops

/-- A record is complete once all fields that it requires are seen. -/
theorem finish_of_seen {part : Partial α}
    (all : ∀ field ∈ record.fields, field.required = true → field.name ∈ part.seen)
    (rest : List Char) : (record.finish part).run rest = .ok (part.value, rest) := by
  have complete : record.fields.find? (fun field =>
      field.required ∧ field.name ∉ part.seen) = none := by
    rw [List.find?_eq_none]
    intro field member
    simpa using all field member
  rw [finish, complete]
  rfl

/-- An object whose members are gathered to a complete record is read as that record. -/
theorem reads_object {body : List Char} {part : Partial α}
    (run : ∀ rest, (Decoder.allMembers Decoder.name record.readMember ⟨record.blank, []⟩).run
      (body ++ '\x7d' :: rest) = .ok (part, '\x7d' :: rest))
    (all : ∀ field ∈ record.fields, field.required = true → field.name ∈ part.seen) :
    Reads record.read ('\x7b' :: (body ++ ['\x7d'])) part.value where
  starts := ⟨'\x7b', _, rfl, by decide, by decide, by decide⟩
  run {blank rest} empty _ := by
    rw [List.cons_append, List.append_assoc, List.singleton_append]
    refine (run_led empty (by decide) rfl _).trans ?_
    rw [run_bind_of_ok (run rest), run_bind_of_ok (finish_of_seen all _),
      run_bind_of_ok (run_expect_here (by decide) rest)]
    rfl

theorem lawful (distinct : (record.fields.map (·.name)).Nodup)
    (restores : ∀ a, Restores a record.fields record.blank a) : record.format.Lawful := by
  intro a layout plain depth
  have found : ∀ field ∈ record.fields, record.fields.find? (·.name = field.name) = some field :=
    fun field member => (find?_key_eq_some_iff distinct field.name field).mpr ⟨member, rfl⟩
  have unseen : ∀ field ∈ record.fields, field.name ∉ ([] : List String) := by simp
  obtain ⟨text, written, run⟩ :=
    (gathers plain (depth + 1) (restores a) distinct found unseen).run_allMembers plain
  have seen : ∀ field ∈ record.fields, field.required = true →
      field.name ∈ (record.fields.map (·.name)).reverse ++ [] := by
    intro field member _
    rw [List.append_nil, List.mem_reverse]
    exact List.mem_map_of_mem member
  show Reads record.read ((record.write a).render layout depth) a
  rw [write, written]
  exact reads_object run seen

end Record

/-! ## Tables -/

theorem readsBack_mapOf {number : Decoder κ} {key : κ → String}
    (named : ∀ k rest,
      (Decoder.numericName number).run (stringLiteral (key k) ++ rest) = .ok (k, rest))
    {format : Format α} (lawful : format.Lawful) (rows : List (κ × α)) :
    ReadsBack (Decoder.mapOf number format.read)
      (.object (rows.map fun (k, a) => (key k, format.write a))) rows := by
  intro layout plain depth
  obtain ⟨blank, empty, colon⟩ := plain.colon
  -- the rows are gathered behind those read before
  have gathers : ∀ before, Gathers (Decoder.numericName number)
      (fun rows k => do Decoder.expect ':'; return rows ++ [(k, ← format.read)]) layout (depth + 1)
      before (rows.map fun (k, a) => (key k, format.write a)) (before ++ rows) := by
    induction rows with
    | nil =>
      intro before
      rw [List.append_nil]
      exact .nil
    | cons row rows ih =>
      intro before
      obtain ⟨k, a⟩ := row
      have tail := ih (before ++ [(k, a)])
      rw [List.append_assoc, List.singleton_append] at tail
      refine .cons (named k) (fun {rest} stops => ?_) tail
      rw [colon, List.cons_append, run_bind_of_ok (run_expect_here (by decide) _),
        run_bind_of_ok ((lawful a layout plain (depth + 1)).run empty stops)]
      rfl
  obtain ⟨text, written, run⟩ := (gathers []).run_allMembers plain
  rw [written]
  refine ⟨⟨'\x7b', _, rfl, by decide, by decide, by decide⟩, fun {_ rest} empty _ => ?_⟩
  rw [List.cons_append, List.append_assoc, List.singleton_append]
  refine (run_led empty (by decide) rfl _).trans ?_
  rw [run_bind_of_ok (run rest), run_bind_of_ok (run_expect_here (by decide) rest)]
  rfl

theorem escapedChar_of_isDigit {c : Char} (digit : c.isDigit) : escapedChar c = [c] := by
  have apart : ∀ d : Char, d.isDigit = false → c ≠ d := by
    rintro d other rfl
    rw [digit] at other
    cases other
  have visible : ¬ c < ' ' := by
    intro control
    simp only [Char.isDigit, Bool.and_eq_true, decide_eq_true_eq] at digit
    have low : 48 ≤ c.toNat := digit.1
    have high : c.toNat < 32 := control
    omega
  simp [escapedChar, apart '"', apart '\\', apart '\x08', apart '\x0c', apart '\n', apart '\r',
    apart '\t', visible]

/-- Digits are not escaped, so a name that is a number is read like the number itself. -/
theorem run_numericName {number : Decoder κ} {digits : String} {k : κ}
    (reads : Reads number digits.toList k) (digital : ∀ c ∈ digits.toList, c.isDigit)
    (rest : List Char) :
    (Decoder.numericName number).run (stringLiteral digits ++ rest) = .ok (k, rest) := by
  have verbatim : digits.toList.flatMap escapedChar = digits.toList := by
    generalize digits.toList = ds at digital
    induction ds with
    | nil => rfl
    | cons d ds ih =>
      rw [List.forall_mem_cons] at digital
      rw [List.flatMap_cons, ih digital.2, escapedChar_of_isDigit digital.1, List.singleton_append]
  have read := reads.run_here (stops_cons (c := '"') (by decide) rest)
  obtain ⟨c, cs, written, _⟩ := reads.starts
  have numeral : Decoder.startsNumeral c := by
    have digit := digital c (by simp [written])
    simp [Decoder.startsNumeral, digit]
  rw [written, List.cons_append] at read
  rw [stringLiteral, verbatim, written, List.cons_append, List.cons_append, List.append_assoc,
    Decoder.numericName, run_bind_of_ok (run_advance _ _), run_bind_of_ok (StateT.run_get _)]
  simp only [List.cons_append, List.nil_append, List.head?_cons, Option.filter_some, numeral, if_true]
  rw [run_bind_of_ok read, run_bind_of_ok (StateT.run_get _)]
  rfl

/-! ## Variants -/

theorem run_caseName {cases : List (Case α)} {c : Case α} {name : String}
    (found : cases.find? (·.name = name) = some c) {blank : List Char} (empty : Blank blank)
    (rest : List Char) :
    (caseName cases).run (blank ++ (stringLiteral name ++ rest)) = .ok (c, rest) := by
  have body := run_string name rest
  rw [stringLiteral, List.cons_append, List.cons_append, List.append_assoc]
  refine (run_led empty (by decide) rfl _).trans ?_
  rw [List.singleton_append, run_bind_of_ok body]
  simp only [found]
  rfl

theorem readsBack_bare {cases : List (Case α)} {name : String} {a : α}
    (found : cases.find? (·.name = name) = some (.bare name a)) :
    ReadsBack (readVariant cases) (.text name) a := by
  intro layout _ depth
  refine ⟨⟨'"', _, rfl, by decide, by decide, by decide⟩, fun {_ rest} empty _ => ?_⟩
  have named := run_caseName found blank_nil rest
  rw [List.nil_append] at named
  rw [render, stringLiteral, List.cons_append, List.cons_append] at *
  rw [readVariant, run_bind_of_ok (run_peek empty (by decide) _)]
  show (caseName cases >>= _ : Decoder α).run _ = _
  rw [run_bind_of_ok named]
  rfl

theorem readsBack_case {cases : List (Case α)} {name kind : String} {read : Decoder α} {json : Json}
    {a : α} (found : cases.find? (·.name = name) = some ⟨name, .some kind read⟩)
    (back : ReadsBack read json a) : ReadsBack (readVariant cases) (.object [(name, json)]) a := by
  intro layout plain depth
  obtain ⟨blank, empty, colon⟩ := plain.colon
  refine ⟨⟨'\x7b', _, rfl, by decide, by decide, by decide⟩, fun {front rest} clear _ => ?_⟩
  have stops : Stops (layout.gap depth ++ '\x7d' :: rest) :=
    (stops_cons (by decide) rest).blank_append (plain.gap depth)
  have reads := (back layout plain (depth + 1)).run empty stops
  have named := run_caseName found (plain.gap (depth + 1))
    (':' :: (blank ++ (json.render layout (depth + 1) ++ (layout.gap depth ++ '\x7d' :: rest))))
  rw [render, colon, renderMembers]
  simp only [List.cons_append, List.append_assoc, List.nil_append]
  refine (run_led clear (by decide) rfl _).trans ?_
  rw [run_bind_of_ok named, run_bind_of_ok (run_expect_here (by decide) _)]
  show (read >>= _ : Decoder α).run _ = _
  rw [run_bind_of_ok reads, run_bind_of_ok (run_expect (plain.gap depth) (by decide) rest)]
  rfl

end Handover.Json
