import RegisterMap.Text.Basic

/-!
# References

A reference is written between `&` and `;`: one of five names, `#` and the
decimal digits of a code point, or `#x` and its hexadecimal digits. `resolve`
replaces every reference of a text. Positions in faults count bytes of the text.
-/

namespace RegisterMap.Markup

inductive NumberFault where
  | empty
  | digit
  /-- Past 32 bits. -/
  | tooLarge
  deriving DecidableEq, Repr

inductive CharacterFault where
  | sign
  | number (fault : NumberFault)
  /-- The null character. -/
  | null
  /-- A surrogate, or past the last code point. -/
  | codepoint (n : Nat)
  deriving DecidableEq, Repr

inductive ReferenceFault where
  /-- No `;` ends the reference. -/
  | unterminated (start stop : Nat)
  | unknown (start stop : Nat) (name : Text)
  | character (fault : CharacterFault)
  deriving DecidableEq, Repr

def NumberFault.message : NumberFault → Text
  | empty => "cannot parse integer from empty string".toList
  | digit => "invalid digit found in string".toList
  | tooLarge => "number too large to fit in target type".toList

def CharacterFault.message : CharacterFault → Text
  | sign => "unexpected number sign".toList
  | number f => f.message
  | null => "0x0 character is not permitted in XML".toList
  | codepoint n => "`".toList ++ Text.decimal n ++ "` is not a valid codepoint".toList

def ReferenceFault.message : ReferenceFault → Text
  | unterminated start stop =>
    "Error while escaping character at range ".toList ++ Text.decimal start ++ "..".toList ++
      Text.decimal stop ++ ": Cannot find ';' after '&'".toList
  | unknown start stop name =>
    "at ".toList ++ Text.decimal start ++ "..".toList ++ Text.decimal stop ++
      ": unrecognized entity `".toList ++ name ++ "`".toList
  | character f => "invalid character reference: ".toList ++ f.message

/-- The causes of a fault, outermost first. -/
def ReferenceFault.causes : ReferenceFault → List Text
  | character (.number f) => [f.message, f.message]
  | character f => [f.message]
  | _ => []

/-- The fault and its causes, outermost first. -/
def ReferenceFault.chain (f : ReferenceFault) : List Text := f.message :: f.causes

/-- The value of a digit in a radix of ten or sixteen. -/
def digit? (radix : Nat) (c : Char) : Option Nat :=
  let n :=
    if '0' ≤ c ∧ c ≤ '9' then c.toNat - '0'.toNat
    else if 'a' ≤ c ∧ c ≤ 'f' then c.toNat - 'a'.toNat + 10
    else if 'A' ≤ c ∧ c ≤ 'F' then c.toNat - 'A'.toNat + 10
    else radix
  if n < radix then some n else none

/-- The number that digits write after some of value `n`. The first digit that
is none, or does not fit, is the fault. -/
def numberAfter (radix n : Nat) : Text → Except NumberFault Nat
  | [] => .ok n
  | c :: s =>
    match digit? radix c with
    | none => .error .digit
    | some d =>
      if n * radix + d < UInt32.size then numberAfter radix (n * radix + d) s else .error .tooLarge

def number (radix : Nat) (s : Text) : Except CharacterFault Nat :=
  match s with
  | [] => .error (.number .empty)
  | '+' :: _ => .error .sign
  | '-' :: _ => .error .sign
  | c :: s =>
    match numberAfter radix 0 (c :: s) with
    | .ok n => .ok n
    | .error e => .error (.number e)

/-- The character of a number after `#`. -/
def character (s : Text) : Except CharacterFault Char := do
  let n ← match s with
    | 'x' :: digits => number 16 digits
    | digits => number 10 digits
  if n = 0 then throw .null
  else if n.isValidChar then return Char.ofNat n
  else throw (.codepoint n)

/-- The characters that have a name. -/
def namedCharacters : List (Text × Char) :=
  [("lt".toList, '<'), ("gt".toList, '>'), ("amp".toList, '&'), ("apos".toList, '\x27'),
   ("quot".toList, '\x22')]

/-- The character of a reference whose name starts at a position. -/
def referent (start : Nat) (name : Text) : Except ReferenceFault Char :=
  match name with
  | '#' :: digits =>
    match character digits with
    | .ok c => .ok c
    | .error e => .error (.character e)
  | name =>
    match namedCharacters.lookup name with
    | some c => .ok c
    | none => .error (.unknown start (start + Text.byteSize name) name)

/-- The name before the next `;`, and what follows. No name holds `&`. -/
def cutReference : Text → Option (Text × Text)
  | [] => none
  | c :: s =>
    if c = ';' then some ([], s)
    else if c = '&' then none
    else (cutReference s).map fun (name, rest) => (c :: name, rest)

theorem cutReference_length {s name rest : Text} (h : cutReference s = some (name, rest)) :
    rest.length < s.length := by
  induction s generalizing name with
  | nil => cases h
  | cons c s ih =>
    unfold cutReference at h
    split at h
    · cases h; simp
    · split at h
      · cases h
      · simp only [Option.map_eq_some_iff, Prod.mk.injEq, Prod.exists] at h
        obtain ⟨n, r, hr, -, rfl⟩ := h
        exact Nat.lt_succ_of_lt (ih hr)

/-- Replaces the references of what is left at a position of a text of `size` bytes. -/
def resolveFrom (size position : Nat) : Text → Except ReferenceFault Text
  | [] => .ok []
  | c :: s =>
    if c = '&' then
      match _h : cutReference s with
      | none => .error (.unterminated position size)
      | some (name, rest) => do
        let r ← referent (position + 1) name
        let t ← resolveFrom size (position + Text.byteSize name + 2) rest
        return r :: t
    else do
      let t ← resolveFrom size (position + c.utf8Size) s
      return c :: t
termination_by s => s.length
decreasing_by
  · have := cutReference_length _h; simp; omega
  · simp

/-- The text with every reference replaced by its character. -/
def resolve (s : Text) : Except ReferenceFault Text := resolveFrom (Text.byteSize s) 0 s

end RegisterMap.Markup
