/-! # Control sequences

A text may hold more than what it shows: characters and sequences that steer the terminal, such as those
that set colours.  A sequence begins with the escape character, and what follows decides how it ends: an
instruction with its final character, a system command with a bell, a device string with the next
escape.  `visible` is what remains of a text without them.

A tab or a line end inside an instruction is shown, and so is what follows it, until another control
takes the instruction up again where it was left.
-/

namespace Handover.Text

/-- Where a text stands in a control sequence. -/
inductive ControlMode where
  | outside
  | escape
  /-- In a sequence that has announced its final character. -/
  | announced
  /-- In an instruction, before its final character. -/
  | instruction
  | command
  /-- At the head of a device string. -/
  | device
  /-- In the parameters at the head of a device string. -/
  | deviceParameters
  /-- In the last part of the head of a device string. -/
  | deviceTail
  /-- In a string that is not for the reader. -/
  | string
deriving DecidableEq

/-- Whether a character moves the place of what is shown next and does nothing else. -/
def isMotion (c : Char) : Bool := c = '\t' ∨ c = '\n' ∨ c = '\x0c' ∨ c = '\r'

namespace ControlMode

def shows (mode : ControlMode) (c : Char) : Bool :=
  match mode with
  | outside => isMotion c ∨ ' ' ≤ c ∧ c ≠ '\x7f'
  | escape | announced | instruction => isMotion c
  | command | device | deviceParameters | deviceTail | string => false

/-- The mode after a character that neither breaks off a sequence nor begins one. -/
def follow (mode : ControlMode) (c : Char) : ControlMode :=
  let isWithin (first last : Char) : Bool := first ≤ c ∧ c ≤ last
  match mode with
  | outside => outside
  | escape =>
    if c = '[' then instruction
    else if c = ']' then command
    else if c = 'P' then device
    else if c = 'X' ∨ c = '^' ∨ c = '_' then string
    else if isWithin ' ' '/' then announced
    else if isWithin '0' '~' then outside
    else escape
  | announced => if isWithin '0' '~' then outside else announced
  | instruction => if isWithin '@' '~' then outside else instruction
  | command => if c = '\x07' then outside else command
  | device =>
    if isWithin ' ' '/' then deviceTail
    else if isWithin '0' '?' then deviceParameters
    else if isWithin '@' '~' then string
    else device
  | deviceParameters =>
    if isWithin ' ' '/' then deviceTail
    else if isWithin '<' '~' then string
    else deviceParameters
  | deviceTail => if isWithin '0' '~' then string else deviceTail
  | string =>
    -- The byte that ends a string is looked for inside of encoded characters too.
    if '\x7f' < c ∧ 0x9c ∈ String.utf8EncodeChar c then outside else string

end ControlMode

structure ControlState where
  mode : ControlMode
  /-- Whether the sequence is interrupted by text that is shown. -/
  isInterrupted : Bool
deriving DecidableEq

namespace ControlState

def start : ControlState := ⟨.outside, false⟩

def shows (state : ControlState) (c : Char) : Bool :=
  (if state.isInterrupted then .outside else state.mode).shows c

def next (state : ControlState) (c : Char) : ControlState :=
  if c = '\x18' ∨ c = '\x1a' then start
  else if c = '\x1b' then ⟨.escape, false⟩
  else if state.isInterrupted then
    if '\x7f' < c then start else { state with isInterrupted := state.shows c }
  else ⟨state.mode.follow c, state.mode ≠ .outside ∧ state.shows c⟩

end ControlState

def visibleFrom (state : ControlState) : List Char → List Char
  | [] => []
  | c :: cs =>
    if state.shows c then c :: visibleFrom (state.next c) cs else visibleFrom (state.next c) cs

def visible (text : String) : String := .ofList (visibleFrom .start text.toList)

/-- Nothing is shown that is not in the text. -/
theorem visibleFrom_sublist (state : ControlState) (cs : List Char) :
    (visibleFrom state cs).Sublist cs := by
  induction cs generalizing state with
  | nil => exact .slnil
  | cons c cs ih =>
    rw [visibleFrom]
    split
    · exact (ih _).cons_cons c
    · exact (ih _).cons c

/-- A text without controls shows itself. -/
theorem visibleFrom_start {cs : List Char} (h : ∀ c ∈ cs, ' ' ≤ c ∧ c ≠ '\x7f') :
    visibleFrom .start cs = cs := by
  induction cs with
  | nil => rfl
  | cons c cs ih =>
    have hc := h c (by simp)
    have stays : ControlState.start.next c = .start := by
      have : c ≠ '\x1b' := by rintro rfl; exact absurd hc.1 (by decide)
      simp [ControlState.next, ControlState.start, ControlMode.follow, this]
    rw [visibleFrom, stays, ih fun d hd => h d (by simp [hd])]
    simp [ControlState.shows, ControlState.start, ControlMode.shows, hc]

end Handover.Text
