import RegisterMap.Markup.Blank
import RegisterMap.Markup.Fault

/-!
# Tokens

A token is a tag, or a piece of content between tags. Tokens keep every
character, so that `render` gives back the text they were scanned from. A text
without a token ahead is used up; a token that cannot be read is a fault, and
nothing after it is scanned.
-/

namespace RegisterMap.Markup

/-- Content that is no tag. -/
inductive Piece where
  | text (s : Text)
  | comment (s : Text)
  | cdata (s : Text)
  /-- A document type declaration, from its keyword on. -/
  | doctype (s : Text)
  | instruction (s : Text)
  deriving DecidableEq, Repr

inductive Token where
  | piece (p : Piece)
  | opening (tag : Text)
  /-- A tag that ends in `/` and is its own closing tag. -/
  | empty (tag : Text)
  | closing (tag : Text)
  deriving DecidableEq, Repr

def Piece.render : Piece → Text
  | text s => s
  | comment s => "<!--".toList ++ s ++ "-->".toList
  | cdata s => "<![CDATA[".toList ++ s ++ "]]>".toList
  | doctype s => "<!".toList ++ s ++ ">".toList
  | instruction s => "<?".toList ++ s ++ "?>".toList

/-- The tag of an element that has content. -/
def openingTag (tag : Text) : Text := '<' :: tag ++ ['>']

def emptyTag (tag : Text) : Text := '<' :: tag ++ ['/', '>']

def closingTag (tag : Text) : Text := '<' :: '/' :: tag ++ ['>']

def Token.render : Token → Text
  | piece p => p.render
  | opening tag => openingTag tag
  | empty tag => emptyTag tag
  | closing tag => closingTag tag

/-- The name that an opening tag begins with. -/
def tagName (tag : Text) : Text := tag.takeWhile (!isBlank ·)

/-- The name in a closing tag: all of it less the white space at its end. -/
def closingName (tag : Text) : Text :=
  match Text.trimEndBy isBlank tag with
  | [] => tag
  | c :: s => c :: s

/-- Splits at the first `>` outside quotes. -/
def cutTag (quote : Option Char) : Text → Option (Text × Text)
  | [] => none
  | c :: s =>
    let split := fun quote => (cutTag quote s).map fun (tag, rest) => (c :: tag, rest)
    match quote with
    | none =>
      if c = '>' then some ([], s)
      else split (if c = '\x27' ∨ c = '\x22' then some c else none)
    | some q => split (if c = q then none else some q)

/-- Splits at the first `>` that matches no `<` before it. -/
def cutBalanced (depth : Nat) : Text → Option (Text × Text)
  | [] => none
  | c :: s =>
    if c = '>' ∧ depth = 0 then some ([], s)
    else
      let depth := if c = '<' then depth + 1 else if c = '>' then depth - 1 else depth
      (cutBalanced depth s).map fun (inside, rest) => (c :: inside, rest)

/-- A token and what follows it. -/
abbrev Scanned := Except Fault (Token × Text)

/-- A piece that ends at a mark, or the fault of one that does not. -/
def scanPiece (piece : Text → Piece) (fault : ScanFault) (split : Option (Text × Text)) : Scanned :=
  match split with
  | some (inside, rest) => .ok (.piece (piece inside), rest)
  | none => .error (.scan fault)

/-- After `<!` and a letter `D`, at that letter. -/
def scanDoctype (s : Text) : Scanned :=
  match cutBalanced 0 s with
  | none => .error (.scan .doctype)
  | some (inside, rest) =>
    match Text.afterAnyCase? "doctype".toList inside with
    | none => .error (.scan .doctype)
    | some name =>
      if name.all isBlank then .error (.nest .unnamedDoctype)
      else .ok (.piece (.doctype inside), rest)

/-- After `<!`. -/
def scanBang : Text → Scanned
  | '-' :: s =>
    match s with
    | '-' :: s => scanPiece .comment .comment (Text.cut "-->".toList s)
    | _ => .error (.scan .comment)
  | '[' :: s =>
    match Text.after? "CDATA[".toList s with
    | some s => scanPiece .cdata .cdata (Text.cut "]]>".toList s)
    | none => .error (.scan .cdata)
  | 'D' :: s => scanDoctype ('D' :: s)
  | 'd' :: s => scanDoctype ('d' :: s)
  | _ => .error (.scan .unknown)

/-- After `<?`. -/
def scanInstruction : Text → Scanned
  | '>' :: _ => .error (.scan .instruction)
  | s => scanPiece .instruction .instruction (Text.cut "?>".toList s)

/-- After `</`. -/
def scanClosing (s : Text) : Scanned :=
  match cutTag none s with
  | some (tag, rest) => .ok (.closing tag, rest)
  | none => .error (.scan .tag)

/-- After `<`. -/
def scanOpening (s : Text) : Scanned :=
  match cutTag none s with
  | some (tag, rest) =>
    if tag.getLast? = some '/' then .ok (.empty tag.dropLast, rest) else .ok (.opening tag, rest)
  | none => .error (.scan .tag)

/-- After `<`. -/
def scanMarkup : Text → Scanned
  | [] => .error (.scan .tag)
  | '!' :: s => scanBang s
  | '/' :: s => scanClosing s
  | '?' :: s => scanInstruction s
  | c :: s => scanOpening (c :: s)

/-- The token ahead, if there is one. -/
def scan? : Text → Option Scanned
  | [] => none
  | '<' :: s => some (scanMarkup s)
  | c :: s =>
    some (.ok (.piece (.text (c :: s.takeWhile (· ≠ '<'))), s.dropWhile (· ≠ '<')))

end RegisterMap.Markup
