import QuotedText.CommandLine.Switch
import QuotedText.Json.Pretty
import QuotedText.Quote.Span
import QuotedText.Sql.Token

/-!
# Reports

What a command has found is printed line by line: pieces of text as they are, spans and tokens
behind columns of fixed width. In JSON it is one array.
-/

namespace QuotedText.CommandLine

/-- Texts as lines. -/
def lines (texts : List Text) : Text :=
  texts.flatMap (· ++ ['\n'])

/-- A value as JSON and a line feed. -/
def jsonLine (value : JsonValue) : Text :=
  value.pretty 0 ++ ['\n']

/-- Pads a text with spaces on its right. -/
def padRight (width : Nat) (text : Text) : Text :=
  text ++ List.replicate (width - text.length) ' '

/-- Pads a text with spaces on its left. -/
def padLeft (width : Nat) (text : Text) : Text :=
  List.replicate (width - text.length) ' ' ++ text

/-- A number in decimal digits. -/
def decimal (value : Nat) : Text :=
  Nat.toDigits 10 value

/-- The name of a kind of span. -/
def spanKindName : SpanKind → Text
  | .unquoted => "unquoted".toList
  | .quoted => "quoted".toList
  | .unterminated => "unterminated_quote".toList

/-- The name of a kind of token. -/
def tokenKindName : Sql.TokenKind → Text
  | .identifier => "identifier".toList
  | .stringLiteral => "string_literal".toList
  | .functionCall => "function_call".toList

/-- Pieces of text as they are printed. -/
def piecesReport (format : Format) (pieces : List Text) : Text :=
  match format with
  | .text => lines pieces
  | .json => jsonLine (.array (pieces.map .string))

/-- A span as a line: its kind, its positions and its text. -/
def spanRow (located : Span.Located) : Text :=
  padRight 20 (spanKindName located.span.kind) ++ padLeft 6 (decimal located.start) ++
    ['.', '.'] ++ padRight 6 (decimal located.stop) ++ located.span.text

/-- A span as a JSON object. -/
def spanObject (located : Span.Located) : JsonValue :=
  .object [
    ("kind".toList, .string (spanKindName located.span.kind)),
    ("start".toList, .number located.start),
    ("end".toList, .number located.stop),
    ("text".toList, .string located.span.text)]

/-- Spans as they are printed. -/
def spansReport (format : Format) (spans : List Span.Located) : Text :=
  match format with
  | .text => lines (spans.map spanRow)
  | .json => jsonLine (.array (spans.map spanObject))

/-- A token as a line: its kind and its text. -/
def tokenRow (token : Sql.Token) : Text :=
  padRight 16 (tokenKindName token.kind) ++ token.text

/-- A token as a JSON object. -/
def tokenObject (token : Sql.Token) : JsonValue :=
  .object [
    ("kind".toList, .string (tokenKindName token.kind)),
    ("text".toList, .string token.text)]

/-- Tokens as they are printed. -/
def tokensReport (format : Format) (tokens : List Sql.Token) : Text :=
  match format with
  | .text => lines (tokens.map tokenRow)
  | .json => jsonLine (.array (tokens.map tokenObject))

end QuotedText.CommandLine
