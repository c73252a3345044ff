import QuotedText.Text.Blank

/-!
# Lexemes of SQL text

SQL text is cut into words, quoted literals, calls of `NOW()` and the gaps between them. A literal
runs to the next `'`, whatever follows it; a gap is one parenthesis or comma, or a space, tab or
line break with all the blanks behind it. Blanks of other kinds belong to the word they stand in
when no such gap comes before them. The lexemes make up the text (`Lexeme.ofText_flatten`).
-/

namespace QuotedText.Sql

/-- What a lexeme is. -/
inductive LexemeKind where
  /-- A maximal run of characters that belong to nothing else. -/
  | word
  /-- A literal with both its quotes. -/
  | literal
  /-- A call of `NOW()`. -/
  | call
  /-- What only separates. -/
  | gap
  /-- A literal without its closing quote. -/
  | unterminated
deriving DecidableEq, Repr

/-- A piece of SQL text with its kind. -/
structure Lexeme where
  /-- What the piece is. -/
  kind : LexemeKind
  /-- The piece of text. -/
  text : Text
deriving DecidableEq, Repr

/-- The one call that stands for itself. -/
def nowCall : Text := ['N', 'O', 'W', '(', ')']

/-- A space, tab or line break begins a gap. -/
def beginsBlankGap (c : Char) : Bool :=
  c == ' ' || c == '\r' || c == '\n' || c == '\t'

/-- A parenthesis or comma is a gap of its own. -/
def isPunctuation (c : Char) : Bool :=
  c == '(' || c == ')' || c == ','

namespace Lexeme

/-- Puts a character of a word before a list of lexemes; it joins the first when that is a word. -/
def consWord (c : Char) : List Lexeme → List Lexeme
  | ⟨.word, text⟩ :: more => ⟨.word, c :: text⟩ :: more
  | more => ⟨.word, [c]⟩ :: more

/-- The texts of a list of lexemes, one after the other. -/
def texts (lexemes : List Lexeme) : Text :=
  lexemes.flatMap (·.text)

@[simp] theorem texts_nil : texts [] = [] := rfl

@[simp] theorem texts_cons (lexeme : Lexeme) (more : List Lexeme) :
    texts (lexeme :: more) = lexeme.text ++ texts more := by
  simp [texts]

/-- A character of a word stands before the texts of the lexemes. -/
@[simp] theorem texts_consWord (c : Char) (lexemes : List Lexeme) :
    texts (consWord c lexemes) = c :: texts lexemes := by
  unfold consWord
  split <;> simp

/-- The lexemes of a text in order. -/
def ofText : Text → List Lexeme
  | [] => []
  | c :: rest =>
    if c == '\'' then
      let body := rest.takeWhile (· != '\'')
      match _closed : rest.dropWhile (· != '\'') with
      | [] => [⟨.unterminated, c :: rest⟩]
      | close :: after => ⟨.literal, c :: body ++ [close]⟩ :: ofText after
    else if beginsBlankGap c then
      ⟨.gap, c :: rest.takeWhile isBlank⟩ :: ofText (rest.dropWhile isBlank)
    else if isPunctuation c then
      ⟨.gap, [c]⟩ :: ofText rest
    else if nowCall.isPrefixOf (c :: rest) then
      ⟨.call, nowCall⟩ :: ofText ((c :: rest).drop nowCall.length)
    else consWord c (ofText rest)
termination_by text => text.length
decreasing_by
  · have shorter := (List.dropWhile_sublist (· != '\'') (l := rest)).length_le
    rw [_closed, List.length_cons] at shorter
    simp only [List.length_cons]
    omega
  · have shorter := (List.dropWhile_sublist isBlank (l := rest)).length_le
    simp only [List.length_cons]
    omega
  · simp
  · simp only [List.length_drop, List.length_cons, nowCall, List.length_nil]
    omega
  · simp

/-- The lexemes lose no text. -/
theorem ofText_flatten (text : Text) : texts (ofText text) = text := by
  fun_induction ofText text with
  | case1 => rfl
  | case2 c rest _ closed => simp
  | case3 c rest _ body close after closed ih =>
    have whole := List.takeWhile_append_dropWhile (p := (· != '\'')) (l := rest)
    rw [closed] at whole
    simp only [texts_cons, ih]
    simpa [body] using whole
  | case4 c rest _ _ ih =>
    simp only [texts_cons, ih, List.cons_append, List.takeWhile_append_dropWhile]
  | case5 c rest _ _ _ ih => simp [ih]
  | case6 c rest _ _ _ here ih =>
    obtain ⟨after, equal⟩ := List.isPrefixOf_iff_prefix.mp here
    simp only [nowCall, List.cons_append, List.nil_append, List.cons.injEq] at equal
    obtain ⟨rfl, rfl⟩ := equal
    simpa [nowCall] using ih
  | case7 c rest _ _ _ _ ih => rw [texts_consWord, ih]

end Lexeme

end QuotedText.Sql
