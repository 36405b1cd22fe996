/-!
# Text

Text is a list of characters. It is cut at the characters of a class
(`trimEndBy`), at a separator (`pieces`), at a mark (`cut`), and joined again
(`join`). Sizes and positions count UTF-8 bytes.
-/

namespace RegisterMap

abbrev Text := List Char

namespace Text

/-- The text less the characters of a class at its end. -/
def trimEndBy (p : Char → Bool) : Text → Text
  | [] => []
  | c :: s =>
    match trimEndBy p s with
    | [] => if p c then [] else [c]
    | d :: r => c :: d :: r

/-- The text less the characters of a class at both ends. -/
def trimBy (p : Char → Bool) (s : Text) : Text :=
  trimEndBy p (s.dropWhile p)

/-- The pieces between the separators: one more than there are separators. -/
def pieces (sep : Char) : Text → List Text
  | [] => [[]]
  | c :: s =>
    if c = sep then [] :: pieces sep s
    else
      match pieces sep s with
      | [] => [[c]]
      | p :: ps => (c :: p) :: ps

/-- The lines of a text. A line feed at the end opens no line. -/
def lines (s : Text) : List Text :=
  match pieces '\n' s with
  | [] => []
  | p :: ps => if (p :: ps).getLast (by simp) = [] then (p :: ps).dropLast else p :: ps

/-- The first line, less a carriage return before its line feed. -/
def firstLine (s : Text) : Text :=
  match pieces '\n' s with
  | p :: _ :: _ => if p.getLast? = some '\r' then p.dropLast else p
  | _ => s

/-- The pieces with a separator between them. -/
def join (sep : Text) : List Text → Text
  | [] => []
  | [p] => p
  | p :: q :: ps => p ++ sep ++ join sep (q :: ps)

/-- What follows `mark` at the start of a text. -/
def after? (mark s : Text) : Option Text :=
  match mark, s with
  | [], s => some s
  | _ :: _, [] => none
  | m :: mark, c :: s => if m = c then after? mark s else none

/-- What follows a lowercase ASCII word at the start of a text, in any case. -/
def afterAnyCase? (word s : Text) : Option Text :=
  match word, s with
  | [], s => some s
  | _ :: _, [] => none
  | w :: word, c :: s => if c.toLower = w then afterAnyCase? word s else none

/-- The text before and after the first `mark`. -/
def cut (mark : Text) : Text → Option (Text × Text)
  | [] => (after? mark []).map ([], ·)
  | c :: s =>
    match after? mark (c :: s) with
    | some rest => some ([], rest)
    | none => (cut mark s).map fun (before, rest) => (c :: before, rest)

theorem after?_length {mark s rest : Text} (h : after? mark s = some rest) :
    rest.length + mark.length = s.length := by
  fun_induction after? mark s with
  | case1 => simp_all
  | case2 => simp at h
  | case3 mark c s ih => have := ih h; simp; omega
  | case4 => simp at h

theorem afterAnyCase?_length {word s rest : Text} (h : afterAnyCase? word s = some rest) :
    rest.length + word.length = s.length := by
  fun_induction afterAnyCase? word s with
  | case1 => simp_all
  | case2 => simp at h
  | case3 word c s ih => have := ih h; simp; omega
  | case4 => simp at h

theorem cut_length {mark s before rest : Text} (h : cut mark s = some (before, rest)) :
    rest.length ≤ s.length := by
  induction s generalizing before with
  | nil =>
    simp only [cut, Option.map_eq_some_iff, Prod.mk.injEq] at h
    obtain ⟨r, hr, -, rfl⟩ := h
    have := after?_length hr; omega
  | cons c s ih =>
    unfold cut at h
    split at h
    · rename_i r hr
      cases h
      have := after?_length hr; omega
    · simp only [Option.map_eq_some_iff, Prod.mk.injEq, Prod.exists] at h
      obtain ⟨b, r, hr, -, rfl⟩ := h
      exact Nat.le_succ_of_le (ih hr)

def byteSize : Text → Nat
  | [] => 0
  | c :: s => c.utf8Size + byteSize s

def bytes (s : Text) : List UInt8 := s.flatMap String.utf8EncodeChar

def decimal (n : Nat) : Text := Nat.toDigits 10 n

/-- The hexadecimal digits of a number, lowercase. -/
def hexadecimal (n : Nat) : Text := Nat.toDigits 16 n

end Text

end RegisterMap
