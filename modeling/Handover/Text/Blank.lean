import Handover.Text.CodePoints

/-! # White space

The characters that leave a space and nothing else: blanks of every width, tabs and line ends.
-/

namespace Handover.Text

def blank : CodePoints := ⟨#[
  (0x9, 0xd), (0x20, 0x20), (0x85, 0x85), (0xa0, 0xa0), (0x1680, 0x1680), (0x2000, 0x200a),
  (0x2028, 0x2029), (0x202f, 0x202f), (0x205f, 0x205f), (0x3000, 0x3000)]⟩

def isBlank (c : Char) : Bool := blank.contains c

end Handover.Text
