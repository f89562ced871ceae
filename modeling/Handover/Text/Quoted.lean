import Handover.Text.Shapeless

/-! # Quoted text

Text between double quotes, so written that it can be told apart from any other text: quotes and
backslashes are escaped, the common controls have names, and every other character without a shape of
its own is written by its number.
-/

namespace Handover.Text

/-- One character inside double quotes. -/
def quotedChar (c : Char) : List Char :=
  if c = '"' ∨ c = '\\' then ['\\', c]
  else if c = '\n' then ['\\', 'n']
  else if c = '\r' then ['\\', 'r']
  else if c = '\t' then ['\\', 't']
  else if c.toNat = 0 then ['\\', '0']
  else if isShapeless c then ['\\', 'u', '\x7b'] ++ Nat.toDigits 16 c.toNat ++ ['\x7d']
  else [c]

/-- The text between double quotes. -/
def quoted (s : String) : String := .ofList ('"' :: s.toList.flatMap quotedChar ++ ['"'])

end Handover.Text
