import QuotedText.Text.Basic

/-!
# Values in SQL literals

A value is made fit for a literal by giving its line breaks one form, doubling its quotes and
putting a backslash before its semicolons. In the other direction, the doubled quotes inside the
literals of a text can be shown as backticks.
-/

namespace QuotedText.Sql

/-- The typographic apostrophe, which is written like a quote. -/
def apostrophe : Char := '\u2019'

/-- Gives every line break the form of a line feed; a carriage return takes the line feed behind
it with it. -/
def unifyLineBreaks : Text → Text
  | [] => []
  | '\r' :: '\n' :: rest => '\n' :: unifyLineBreaks rest
  | c :: rest => (if c == '\r' then '\n' else c) :: unifyLineBreaks rest

/-- How a character is written in a literal. -/
def escapeChar (c : Char) : Text :=
  if c == '\'' || c == apostrophe then ['\'', '\'']
  else if c == ';' then ['\\', ';']
  else [c]

/-- A value as it is written between the quotes of a literal. -/
def cleanValue (value : Text) : Text :=
  (unifyLineBreaks value).flatMap escapeChar

/-- A value as a literal. -/
def quoteValue (value : Text) : Text :=
  '\'' :: cleanValue value ++ ['\'']

/-- The form of text in which each doubled quote inside a literal is a backtick; `inLiteral` says
whether a literal is open at its start. -/
def backtickEscapesFrom (inLiteral : Bool) : Text → Text
  | [] => []
  | '\'' :: '\'' :: rest =>
    (if inLiteral then ['\x60'] else ['\'', '\'']) ++ backtickEscapesFrom inLiteral rest
  | c :: rest => c :: backtickEscapesFrom (if c == '\'' then !inLiteral else inLiteral) rest

/-- Writes each doubled quote inside a literal as a backtick; an empty literal stays. -/
def backtickEscapes (text : Text) : Text :=
  backtickEscapesFrom false text

/-- Text without quotes has nothing to rewrite. -/
theorem backtickEscapes_of_no_quote {text : Text} (plain : '\'' ∉ text) :
    backtickEscapes text = text := by
  unfold backtickEscapes
  fun_induction backtickEscapesFrom false text <;> simp_all

end QuotedText.Sql
