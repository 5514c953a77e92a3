/-!
# Text without terminal controls

Some characters a terminal obeys and does not show: the controls other than blanks, and the
sequences that an escape character begins. The character after the escape character tells how its
sequence ends. `plain` leaves out what a terminal would obey. A blank inside a sequence is shown,
and so is what follows it up to the next control, where the sequence goes on.
-/

set_option autoImplicit false
set_option relaxedAutoImplicit false

namespace JvmSchema.Text

/-- How far a sequence has been read. -/
inductive Sequence
  /-- The escape character. -/
  | escape
  /-- The escape character and intermediate ones. -/
  | intermediate
  /-- The parameters of a control, up to its final letter. -/
  | control
  /-- The beginning of a device control. -/
  | device
  /-- The parameters of a device control. -/
  | deviceParameters
  /-- The intermediate characters of a device control. -/
  | deviceIntermediate
  /-- A string up to its terminator. -/
  | string
  /-- A system command up to the bell. -/
  | command
  deriving DecidableEq, Repr

/-- A tab, a line or page break, or a carriage return. -/
def isBlankControl (char : Char) : Bool :=
  char = '\t' ∨ char = '\n' ∨ char = '\x0c' ∨ char = '\r'

/-- Whether a terminal shows a character that stands outside sequences. -/
def isShown (char : Char) : Bool :=
  isBlankControl char ∨ (' ' ≤ char ∧ char ≠ '\x7f')

/-- Whether a character has the string terminator among its bytes. -/
def endsString (char : Char) : Bool :=
  0x9c ∈ String.utf8EncodeChar char

namespace Sequence

/-- The sequence after one more character, if it goes on. -/
def afterNext (char : Char) : Sequence → Option Sequence
  | escape =>
    if ' ' ≤ char ∧ char ≤ '/' then some intermediate
    else if char = '[' then some control
    else if char = ']' then some command
    else if char = 'P' then some device
    else if char = 'X' ∨ char = '^' ∨ char = '_' then some string
    else if '0' ≤ char ∧ char ≤ '~' then none
    else some escape
  | intermediate => if '0' ≤ char ∧ char ≤ '~' then none else some intermediate
  | control => if '@' ≤ char ∧ char ≤ '~' then none else some control
  | device =>
    if ' ' ≤ char ∧ char ≤ '/' then some deviceIntermediate
    else if '0' ≤ char ∧ char ≤ '?' then some deviceParameters
    else if '@' ≤ char ∧ char ≤ '~' then some string
    else some device
  | deviceParameters =>
    if ' ' ≤ char ∧ char ≤ '/' then some deviceIntermediate
    else if '<' ≤ char ∧ char ≤ '~' then some string
    else some deviceParameters
  | deviceIntermediate =>
    if '0' ≤ char ∧ char ≤ '~' then some string else some deviceIntermediate
  | string => if endsString char then none else some string
  | command => if char = '\x07' then none else some command

/-- Whether blanks inside the sequence are shown. -/
def showsBlanks : Sequence → Bool
  | escape | intermediate | control => true
  | _ => false

end Sequence

/-- The sequence after one more character. An escape character begins a new one, and the characters
for cancelling and substitution end any. -/
def sequenceAfter (sequence? : Option Sequence) (char : Char) : Option Sequence :=
  if char = '\x1b' then some .escape
  else if char = '\x18' ∨ char = '\x1a' then none
  else sequence?.bind (·.afterNext char)

/-- Whether a terminal shows a character at a point of a sequence, if there is one. -/
def isShownIn (sequence? : Option Sequence) (char : Char) : Bool :=
  match sequence? with
  | none => isShown char
  | some sequence => sequence.showsBlanks ∧ isBlankControl char

/-- What a terminal shows of a text. While `showing`, a sequence waits for the next control; a
character beyond ASCII ends it. -/
def shown (sequence? : Option Sequence) (showing : Bool) : List Char → List Char
  | [] => []
  | char :: rest =>
    if showing ∧ isShown char then
      char :: shown (if '\x7f' < char then none else sequence?) true rest
    else if isShownIn sequence? char then
      char :: shown (sequenceAfter sequence? char) true rest
    else shown (sequenceAfter sequence? char) false rest

/-- A text without what a terminal would obey. -/
def plain (text : String) : String :=
  String.ofList (shown none false text.toList)

end JvmSchema.Text
