import Handover.Proofs.Json.Reading

/-! # Which texts are JSON

The grammar of JSON, said without a decoder.

* `Valid`: strings and numbers of any kind, and lists and objects with any blanks between their parts.
* `Joined`: layout and contents are kept apart.  It alone knows about commas and blanks; what the parts
  between them may be is said part by part.
* `Quotes`, `IntegerText`, `ListText` and `ObjectText`: the texts that stand for a given value.  An
  object that lists fields may list any of those it could, in any order and each at most once, and
  between them it may have anything under other names.
-/

namespace Handover.Json

/-! ## Strings -/

/-- What a string is made of where it need not stand for anything: halves of surrogate pairs may be
alone. -/
inductive Piece : List Char → Prop where
  | plain {c : Char} (noQuote : c ≠ '"') (noBackslash : c ≠ '\\') (visible : ¬ c < ' ') : Piece [c]
  | named {letter : Char} (named : (namedEscape? letter).isSome) : Piece ['\\', letter]
  | unit {digits : List Char} {n : Nat} (hex : Hex digits n) : Piece ('\\' :: 'u' :: digits)

def StringText (text : List Char) : Prop :=
  ∃ pieces : List (List Char), (∀ piece ∈ pieces, Piece piece) ∧
    text = '"' :: (pieces.flatten ++ ['"'])

/-! ## Numbers -/

def Digits (ds : List Char) : Prop := ds ≠ [] ∧ ∀ d ∈ ds, d.isDigit

/-- Only zero begins with a zero. -/
inductive Whole : List Char → Prop where
  | zero : Whole ['0']
  | positive {d : Char} {ds : List Char} (digits : Digits (d :: ds)) (nonzero : d ≠ '0') :
      Whole (d :: ds)

inductive Fraction : List Char → Prop where
  | none : Fraction []
  | some {ds : List Char} (digits : Digits ds) : Fraction ('.' :: ds)

inductive Exponent : List Char → Prop where
  | none : Exponent []
  | some {letter : Char} {sign ds : List Char} (letters : letter = 'e' ∨ letter = 'E')
      (signs : sign = [] ∨ sign = ['+'] ∨ sign = ['-']) (digits : Digits ds) :
      Exponent (letter :: (sign ++ ds))

inductive NumeralText : List Char → Prop where
  | parts {sign whole fraction exponent : List Char} (signs : sign = [] ∨ sign = ['-'])
      (whole_part : Whole whole) (fraction_part : Fraction fraction)
      (exponent_part : Exponent exponent) :
      NumeralText (sign ++ (whole ++ (fraction ++ exponent)))

/-! ## Lists and objects -/

/-- The parts between two brackets, with a comma before each but the first and blanks anywhere. -/
inductive Joined : Bool → List (List Char) → List Char → Prop where
  | nil {first : Bool} {blank : List Char} (empty : Blank blank) : Joined first [] blank
  | cons {first : Bool} {separator part later : List Char} {parts : List (List Char)}
      (opens : Opens first separator) (tail : Joined false parts later) :
      Joined first (part :: parts) (separator ++ (part ++ later))

/-- The text of a member: its name with quotes, a colon between blanks, and its value. -/
structure Member where
  name : List Char
  before : List Char
  after : List Char
  value : List Char
  before_blank : Blank before
  after_blank : Blank after

def Member.text (member : Member) : List Char :=
  member.name ++ (member.before ++ ':' :: (member.after ++ member.value))

inductive Valid : List Char → Prop where
  | null : Valid ['n', 'u', 'l', 'l']
  | true : Valid ['t', 'r', 'u', 'e']
  | false : Valid ['f', 'a', 'l', 's', 'e']
  | numeral {text : List Char} (numeral : NumeralText text) : Valid text
  | string {text : List Char} (string : StringText text) : Valid text
  | list {items : List (List Char)} {body : List Char} (joined : Joined true items body)
      (valid : ∀ item ∈ items, Valid item) : Valid ('[' :: (body ++ [']']))
  | object {members : List Member} {body : List Char}
      (joined : Joined true (members.map Member.text) body)
      (named : ∀ member ∈ members, StringText member.name)
      (valid : ∀ member ∈ members, Valid member.value) : Valid ('\x7b' :: (body ++ ['\x7d']))

/-! ## Texts of given values -/

def IntegerText (z : Int) (text : List Char) : Prop := text = (toString z).toList

def BooleanText (b : Bool) (text : List Char) : Prop := text = (toString b).toList

def ListText {α : Type} (texts : α → List Char → Prop) (xs : List α) (text : List Char) : Prop :=
  ∃ items body, List.Forall₂ texts xs items ∧ Joined true items body ∧
    text = '[' :: (body ++ [']'])

/-- A member that an object may have: its name and the texts of its value. -/
structure Entry where
  name : String
  texts : List Char → Prop

/-- Of the members, those that are entries have these names, in this order; the others have names that
no entry has, and any JSON for values.  All names are read, so each must stand for a string. -/
inductive Lists (entries : List Entry) : List Member → List String → Prop where
  | nil : Lists entries [] []
  | entry {entry : Entry} {member : Member} {members : List Member} {names : List String}
      (known : entry ∈ entries) (named : Quotes entry.name member.name)
      (valued : entry.texts member.value) (tail : Lists entries members names) :
      Lists entries (member :: members) (entry.name :: names)
  | other {name : String} {member : Member} {members : List Member} {names : List String}
      (unknown : name ∉ entries.map (·.name)) (named : Quotes name member.name)
      (valued : Valid member.value) (tail : Lists entries members names) :
      Lists entries (member :: members) names

/-- The texts of objects that list the entries of these names, each once, and whatever else. -/
def ObjectText (entries : List Entry) (names : List String) (text : List Char) : Prop :=
  names.Nodup ∧ ∃ members body, Lists entries members names ∧
    Joined true (members.map Member.text) body ∧ text = '\x7b' :: (body ++ ['\x7d'])

/-- The texts of objects that list all entries. -/
def RecordText (entries : List Entry) (text : List Char) : Prop :=
  ∃ names, (∀ entry ∈ entries, entry.name ∈ names) ∧ ObjectText entries names text

end Handover.Json
