import RegisterMap.Text.Blank

/-!
# Reset values

A reset value is one or more hexadecimal digits of value at most 255, after an
optional `0x` or `0X` and between white space. Its literal is `0x` and two
lowercase digits.
-/

namespace RegisterMap.Reset

/-- The value of an ASCII hexadecimal digit. -/
def digit? (c : Char) : Option Nat :=
  if '0' ≤ c ∧ c ≤ '9' then some (c.toNat - '0'.toNat)
  else if 'a' ≤ c ∧ c ≤ 'f' then some (c.toNat - 'a'.toNat + 10)
  else if 'A' ≤ c ∧ c ≤ 'F' then some (c.toNat - 'A'.toNat + 10)
  else none

/-- The value of the digits after some of value `n`. -/
def valueAfter? (n : Nat) : Text → Option Nat
  | [] => some n
  | c :: s => (digit? c).bind fun d => valueAfter? (16 * n + d) s

/-- The text less one leading `0x` or `0X`. -/
def digits : Text → Text
  | '0' :: 'x' :: s => s
  | '0' :: 'X' :: s => s
  | s => s

/-- The reset value that a text writes. -/
def parse? (s : Text) : Option UInt8 :=
  match digits (Text.trim s) with
  | [] => none
  | c :: ds =>
    (valueAfter? 0 (c :: ds)).bind fun n => if n < 256 then some (UInt8.ofNat n) else none

/-- The literal of a reset value: `0x` and two lowercase hexadecimal digits. -/
def literal (b : UInt8) : Text :=
  ['0', 'x', Nat.digitChar (b.toNat / 16), Nat.digitChar (b.toNat % 16)]

end RegisterMap.Reset
