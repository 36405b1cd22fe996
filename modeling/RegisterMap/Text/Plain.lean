import RegisterMap.Text.Basic

/-!
# Plain text

What text shows where nothing acts on control characters: `plain` drops them,
white space apart, and with them the escape sequences. A sequence opens with
the escape character. What follows says how it closes: after one character, at
the final character of a control sequence, or at the end of a string.
-/

namespace RegisterMap.Text

/-- What is open at a place of a text. -/
inductive Escape where
  | closed
  /-- Right after the escape character. -/
  | opened
  /-- After an intermediate character. -/
  | intermediate
  /-- A control sequence. -/
  | control
  /-- A title, which a bell closes. -/
  | title
  /-- A string, which only its terminator closes. -/
  | string
  deriving DecidableEq, Repr

/-- White space among the control characters. -/
def isLayout (c : Char) : Bool := c == '\t' || c == '\n' || c == '\x0c' || c == '\r'

/-- A control character of ASCII. -/
def isControl (c : Char) : Bool := c.toNat < 0x20 || c.toNat == 0x7F

namespace Escape

/-- The kind of sequence that a character opens after the escape character. -/
def kind (c : Char) : Escape :=
  if ' ' ≤ c ∧ c ≤ '/' then intermediate
  else if c = '[' then control
  else if c = ']' then title
  else if c = 'P' ∨ c = 'X' ∨ c = '^' ∨ c = '_' then string
  else closed

/-- What is open after a character that is no control character. -/
def afterGraphic (e : Escape) (c : Char) : Escape :=
  match e with
  | opened => if c.toNat < 0x80 then kind c else opened
  | intermediate => if '0' ≤ c ∧ c ≤ '~' then closed else intermediate
  | control => if '@' ≤ c ∧ c ≤ '~' then closed else control
  | string => if 0x9C ∈ String.utf8EncodeChar c then closed else string
  | e => e

/-- What is open after a character. -/
def after (e : Escape) (c : Char) : Escape :=
  if c = '\x1b' then opened
  else if c = '\x18' ∨ c = '\x1a' then closed
  else if isControl c then
    match e with
    | title => if c = '\x07' then closed else title
    | string => string
    | e => if isLayout c then closed else e
  else e.afterGraphic c

def shows (e : Escape) (c : Char) : Bool :=
  match e with
  | closed => isLayout c || !isControl c
  | title => false
  | string => false
  | _ => isLayout c

end Escape

/-- What shows of a text while a sequence is open. -/
def plainFrom (e : Escape) : Text → Text
  | [] => []
  | c :: s => if e.shows c then c :: plainFrom (e.after c) s else plainFrom (e.after c) s

/-- The text less its escape sequences and control characters. -/
def plain (s : Text) : Text := plainFrom .closed s

end RegisterMap.Text
