import QuotedText.Sql.Lexeme

/-!
# SQL tokens

Tokens are the lexemes that carry meaning: words that are not blank, literals and calls. A literal
without its closing quote has no tokens; its position is the number of bytes before it.
-/

namespace QuotedText.Sql

/-- What a token is. -/
inductive TokenKind where
  | identifier
  | stringLiteral
  | functionCall
deriving DecidableEq, Repr

/-- A token with the text it stands for. -/
structure Token where
  /-- What the token is. -/
  kind : TokenKind
  /-- The text of the token, with the quotes of a literal. -/
  text : Text
deriving DecidableEq, Repr

/-- Why SQL text has no tokens. -/
inductive LexError where
  /-- No quote closes the literal that starts at this byte. -/
  | unterminatedLiteral (position : Nat)
deriving DecidableEq, Repr

namespace LexError

/-- The wording of a cause. -/
def message : LexError → String
  | .unterminatedLiteral position =>
    "unterminated string literal starting at byte " ++ toString position

end LexError

namespace Lexeme

/-- The token that a lexeme stands for; gaps and blank words stand for none. -/
def token? (lexeme : Lexeme) : Option Token :=
  match lexeme.kind with
  | .word => if lexeme.text.isBlankText then none else some ⟨.identifier, lexeme.text⟩
  | .literal => some ⟨.stringLiteral, lexeme.text⟩
  | .call => some ⟨.functionCall, lexeme.text⟩
  | .gap | .unterminated => none

end Lexeme

/-- The tokens of a list of lexemes that starts at byte `position`. -/
def tokensFrom (position : Nat) : List Lexeme → Except LexError (List Token)
  | [] => .ok []
  | lexeme :: more =>
    if lexeme.kind = .unterminated then .error (.unterminatedLiteral position)
    else
      (tokensFrom (position + lexeme.text.byteLength) more).map (lexeme.token?.toList ++ ·)

/-- The tokens of SQL text. -/
def tokens (text : Text) : Except LexError (List Token) :=
  tokensFrom 0 (Lexeme.ofText text)

/-- The texts of the tokens of SQL text. -/
def tokenTexts (text : Text) : Except LexError (List Text) :=
  (tokens text).map (·.map (·.text))

end QuotedText.Sql
