import Handover.Double.Shortest
import Handover.Text.Quoted

/-! # Decoding errors

A text can fail to be the JSON form of a value in three ways: it is no JSON, it ends too early, or it
is JSON of another shape than the value has.  Only the last kind has more to tell.
-/

namespace Handover.Json

/-- A number as it is written: a whole number of at most 64 bits, or anything else, which is rounded
to binary floating point. -/
inductive Numeral where
  | integer (value : Int)
  | floating (negative : Bool) (value : Double)
deriving DecidableEq

/-- What stands in the text where something else was expected. -/
inductive Found where
  | numeral (value : Numeral)
  | boolean (value : Bool)
  | text (value : String)
  | null
  | sequence
  | map
  /-- The bare name of a variant that carries data. -/
  | unitVariant
deriving DecidableEq

def Found.message : Found → String
  | numeral (.integer z) => s!"integer `{z}`"
  | numeral (.floating negative x) =>
    s!"floating point `" ++ (if negative then "-" else "") ++ x.shortest.text ++ "`"
  | boolean b => s!"boolean `{b}`"
  | text s => "string " ++ Text.quoted s
  | null => "null"
  | sequence => "sequence"
  | map => "map"
  | unitVariant => "unit variant"

/-- How well-formed JSON differs from the shape that is expected. -/
inductive Mismatch where
  | missingField (field : String)
  | duplicateField (field : String)
  | unknownVariant (name : String) (known : List String)
  | wrongType (found : Found) (expected : String)
  | wrongValue (found : Found) (expected : String)
  | wrongLength (count : Nat) (expected : String)
deriving DecidableEq

/-- The names of the variants that would have been understood. -/
def variantChoice (known : List String) : String :=
  let tick (name : String) : String := s!"`{name}`"
  match known with
  | [] => "there are no variants"
  | [a] => "expected " ++ tick a
  | [a, b] => "expected " ++ tick a ++ " or " ++ tick b
  | _ => "expected one of " ++ ", ".intercalate (known.map tick)

def Mismatch.message : Mismatch → String
  | missingField field => s!"missing field `{field}`"
  | duplicateField field => s!"duplicate field `{field}`"
  | unknownVariant name known => s!"unknown variant `{name}`, " ++ variantChoice known
  | wrongType found expected => s!"invalid type: {found.message}, expected {expected}"
  | wrongValue found expected => s!"invalid value: {found.message}, expected {expected}"
  | wrongLength count expected => s!"invalid length {count}, expected {expected}"

inductive DecodeError where
  /-- The text is not JSON. -/
  | malformed
  /-- The text ends where JSON does not. -/
  | truncated
  /-- The text is JSON of the wrong shape. -/
  | mismatch (mismatch : Mismatch)
deriving DecidableEq

/-- Reads something from the front of a text and leaves the rest. -/
abbrev Decoder (α : Type) := StateT (List Char) (Except DecodeError) α

end Handover.Json
