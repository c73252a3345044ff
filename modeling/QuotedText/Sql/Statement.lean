import QuotedText.Quote.Split
import QuotedText.Sql.Token

/-!
# SQL statements

A script is split behind every semicolon outside quotes. A piece that holds nothing but blanks
before its closing semicolons is no statement.
-/

namespace QuotedText.Sql

/-- Splits a script on a token outside literals and quoted names. -/
def split (token : Text) (options : SplitOptions) (script : Text) :
    Except ScanError (List Text) :=
  QuoteStyle.sql.split token options script

/-- What ends a statement. -/
def terminator : Pattern :=
  ⟨[';'], List.cons_ne_nil _ _⟩

/-- Whether a piece of a script says nothing: it is blank but for the semicolons at its end. -/
def isVacant (piece : Text) : Bool :=
  (piece.dropEndWhile (· == ';')).isBlankText

/-- The statements of a script in order, each with its semicolon. -/
def statements (script : Text) : List Text :=
  (QuoteStyle.sql.splitOn terminator { includeToken := true } script).filter (!isVacant ·)

/-- The statements of a script, each with its tokens. -/
def tokenizedStatements (script : Text) : List (Text × Except LexError (List Token)) :=
  (statements script).map fun statement => (statement, tokens statement)

end QuotedText.Sql
