import RegisterMap.Text.Basic
import RegisterMap.Text.CaseTable

/-!
# Upper and lower case

Full Unicode case mapping: a character may become several. Lower case of a
whole text (`lowercase`) writes the sigma at the end of a word as `ς`; lower
case character by character does not.
-/

namespace RegisterMap.Text

/-- The image of a character beyond ASCII under a case mapping. -/
def mapCase (lists : List (Nat × List Nat)) (runs : List CaseRun) (c : Char) : Text :=
  match lists.lookup c.toNat with
  | some ns => ns.map Char.ofNat
  | none =>
    match CaseRun.image? runs c.toNat with
    | some n => [Char.ofNat n]
    | none => [c]

def upper (c : Char) : Text :=
  if c.toNat < 0x80 then [c.toUpper] else mapCase upperLists upperRuns c

/-- The lower case of a character, wherever it stands. -/
def lower (c : Char) : Text :=
  if c.toNat < 0x80 then [c.toLower] else mapCase lowerLists lowerRuns c

def isCased (c : Char) : Bool := casedRanges.has c.toNat

def isCaseIgnorable (c : Char) : Bool := caseIgnorableRanges.has c.toNat

/-- The next character that counts for case is cased. -/
def startsCased (s : Text) : Bool :=
  match s.dropWhile isCaseIgnorable with
  | [] => false
  | c :: _ => isCased c

/-- Lower case after a text whose last character that counts for case is cased, or not. -/
def lowercaseAfter (cased : Bool) : Text → Text
  | [] => []
  | c :: s =>
    if c = 'Σ' then (if cased && !startsCased s then 'ς' else 'σ') :: lowercaseAfter true s
    else lower c ++ lowercaseAfter (if isCaseIgnorable c then cased else isCased c) s

def lowercase (s : Text) : Text := lowercaseAfter false s

/-- The first character in upper case, the rest in lower case. -/
def capitalized : Text → Text
  | [] => []
  | c :: s => upper c ++ s.flatMap lower

end RegisterMap.Text
