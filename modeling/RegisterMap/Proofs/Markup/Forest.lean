import RegisterMap.Markup.Content
import RegisterMap.Proofs.Markup.Scan
import RegisterMap.Proofs.Text.Basic

/-!
# Forests that are read back

Content is rendered token by token, and its tokens nest back into it. Content is
`Sound` when every token of it is scanned back: tags and markup are sealed, a
closing tag names its element, and no text stands beside text. Parsing what is
rendered of sound content gives the content back (`parse_render`).
-/

namespace RegisterMap.Markup

variable {c d : Content} {ts : List Token} {opened : List Text} {stop : Option Fault} {t : Text}

theorem Piece.render_text (s : Text) : (Piece.text s).render = s := rfl

namespace Content

def tokens : Content → List Token
  | nil => []
  | piece p rest => .piece p :: rest.tokens
  | empty tag rest => .empty tag :: rest.tokens
  | element tag inner closing rest =>
    .opening tag :: (inner.tokens ++ .closing closing :: rest.tokens)

def append : Content → Content → Content
  | nil, d => d
  | piece p rest, d => piece p (rest.append d)
  | empty tag rest, d => empty tag (rest.append d)
  | element tag inner closing rest, d => element tag inner closing (rest.append d)

theorem append_nil (c : Content) : c.append nil = c := by
  induction c with
  | nil => rfl
  | piece p rest ih => rw [append, ih]
  | empty tag rest ih => rw [append, ih]
  | element tag inner closing rest _ ih => rw [append, ih]

def startsText : Content → Bool
  | piece (.text _) _ => true
  | _ => false

/-- Content that is scanned back. -/
inductive Sound : Content → Prop
  | nil : Sound nil
  | text {s : Text} {rest : Content} : s ≠ [] → '<' ∉ s → rest.startsText = false → Sound rest →
      Sound (piece (.text s) rest)
  | piece {p : Piece} {rest : Content} : (Token.piece p).Sealed → Sound rest →
      Sound (piece p rest)
  | empty {tag : Text} {rest : Content} : (Token.empty tag).Sealed → Sound rest →
      Sound (empty tag rest)
  | element {tag closing : Text} {inner rest : Content} : (Token.opening tag).Sealed →
      (Token.closing closing).Sealed → closingName closing = tagName tag → Sound inner →
      Sound rest → Sound (element tag inner closing rest)

theorem breaks_render (h : c.startsText = false) (ht : Breaks t) : Breaks (c.render ++ t) := by
  cases c with
  | nil => exact ht
  | piece p rest =>
    intro e he
    cases p with
    | text s => cases h
    | _ =>
      cases he
      rfl
  | empty tag rest =>
    intro e he
    cases he
    rfl
  | element tag inner closing rest =>
    intro e he
    cases he
    rfl

theorem stream_render (h : c.Sound) (ht : Breaks t) :
    stream (c.render ++ t) = ⟨c.tokens ++ (stream t).tokens, (stream t).fault⟩ := by
  induction h generalizing t with
  | nil => simp [render, tokens]
  | @text s rest hs hn hb _ ih =>
    rw [render, Piece.render_text, List.append_assoc,
      stream_of_scan? (scan?_text hs hn (breaks_render hb ht)), ih ht, tokens, List.cons_append]
  | @piece p rest hp _ ih =>
    rw [render, List.append_assoc]
    change stream ((Token.piece p).render ++ _) = _
    rw [hp.stream, ih ht, tokens, List.cons_append]
  | @empty tag rest hs _ ih =>
    rw [render, List.append_assoc]
    change stream ((Token.empty tag).render ++ _) = _
    rw [hs.stream, ih ht, tokens, List.cons_append]
  | @element tag closing inner rest ho hc _ _ _ ihi ihr =>
    have hb : Breaks ((Token.closing closing).render ++ (rest.render ++ t)) := by
      intro e he
      cases he
      rfl
    have hr : (element tag inner closing rest).render ++ t =
        (Token.opening tag).render ++
          (inner.render ++ ((Token.closing closing).render ++ (rest.render ++ t))) := by
      simp only [render, Token.render, List.append_assoc]
    rw [hr, ho.stream, ihi hb, hc.stream, ihr ht]
    simp [tokens]

/-- The tokens of content nest back into it, whatever follows them. -/
theorem nest_tokens (h : c.Sound) : nest stop opened (c.tokens ++ ts) =
    (nest stop opened ts).map fun n => (c.append n.1, n.2) := by
  induction h generalizing opened ts with
  | nil =>
    cases hn : nest stop opened ts with
    | error e => rw [tokens, List.nil_append, hn]; rfl
    | ok n => rw [tokens, List.nil_append, hn]; rfl
  | text _ _ _ _ ih | piece _ _ ih | empty _ _ ih =>
    rw [tokens, List.cons_append, nest, ih]
    cases nest stop opened ts <;> rfl
  | @element tag closing inner rest _ _ hname _ _ ihi ihr =>
    -- the inner content nests up to the closing tag, which ends it and leaves the rest outside
    rw [tokens, List.cons_append, List.append_assoc, List.cons_append, nest, ihi, nest,
      if_pos hname, ihr]
    cases nest stop opened ts with
    | error e => rfl
    | ok n => simp [Except.map, bind, Except.bind, pure, Except.pure, append, append_nil]

/-- Sound content is read back from its text. -/
theorem parse_render (h : c.Sound) : Content.parse c.render = .ok c := by
  have hs := stream_render h (t := []) (fun e he => by cases he)
  rw [List.append_nil, stream_nil] at hs
  simp only [Content.parse, hs, nest_tokens h, nest, List.getLast?_nil, Except.map, bind,
    Except.bind, pure, Except.pure, append_nil]

end Content

theorem childElements_render (h : c.Sound) : childElements c.render = .ok c.elements := by
  rw [childElements, Content.parse_render h]
  rfl

end RegisterMap.Markup
