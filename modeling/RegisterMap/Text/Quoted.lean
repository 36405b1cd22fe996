import RegisterMap.Text.Basic
import RegisterMap.Text.PrintTable

/-!
# Quoted text

Two quoted forms for messages. `quoted` escapes quotes, backslashes, line ends
and every character that does not print by its code point; `quotedBytes`
writes printed ASCII as it is and every other byte in hexadecimal.
-/

namespace RegisterMap.Text

/-- A character inside quotes. -/
def escaped (c : Char) : Text :=
  if c = '\x00' then ['\\', '0']
  else if c = '\t' then ['\\', 't']
  else if c = '\r' then ['\\', 'r']
  else if c = '\n' then ['\\', 'n']
  else if c = '\\' ∨ c = '\x22' then ['\\', c]
  else if isPrinted c then [c]
  else ['\\', 'u', '\x7b'] ++ hexadecimal c.toNat ++ ['\x7d']

def quoted (s : Text) : Text :=
  ['\x22'] ++ s.flatMap escaped ++ ['\x22']

/-- A byte inside quotes. -/
def escapedByte (b : UInt8) : Text :=
  if b = 34 then ['\\', '\x22']
  else if 32 ≤ b ∧ b ≤ 126 then [Char.ofNat b.toNat]
  else ['0', 'x'] ++ (hexadecimal b.toNat).map Char.toUpper

/-- The UTF-8 bytes of a text in double quotes. -/
def quotedBytes (s : Text) : Text :=
  ['\x22'] ++ (bytes s).flatMap escapedByte ++ ['\x22']

end RegisterMap.Text
