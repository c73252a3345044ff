import QuotedText.Text.Basic

/-!
# Commands and their switches

Every command has a name, the switches it knows and a limit on its operands. A switch has a long
name and sometimes a letter; it takes a value or is turned on. Which layouts and which rewrites a
value can name is fixed here as well.
-/

namespace QuotedText.CommandLine

/-- The switches of all commands. -/
inductive Switch where
  | config
  | file
  | quote
  | caseSensitive
  | noEscape
  | quiet
  | includeToken
  | noTrim
  | tokenCaseSensitive
  | format
  | op
  | bytes
  | fromChar
deriving DecidableEq, Repr

namespace Switch

/-- The name of a switch, which is written behind two dashes. -/
def long : Switch → Text
  | config => "config".toList
  | file => "file".toList
  | quote => "quote".toList
  | caseSensitive => "case-sensitive".toList
  | noEscape => "no-escape".toList
  | quiet => "quiet".toList
  | includeToken => "include-token".toList
  | noTrim => "no-trim".toList
  | tokenCaseSensitive => "token-case-sensitive".toList
  | format => "format".toList
  | op => "op".toList
  | bytes => "bytes".toList
  | fromChar => "from-char".toList

/-- The letter of a switch, which is written behind one dash. -/
def letter? : Switch → Option Char
  | quiet => some 'q'
  | bytes => some 'b'
  | _ => none

/-- Whether a switch takes a value. -/
def takesValue : Switch → Bool
  | config | file | quote | format | op | bytes | fromChar => true
  | caseSensitive | noEscape | quiet | includeToken | noTrim | tokenCaseSensitive => false

end Switch

/-- The commands. -/
inductive CommandName where
  | contains
  | split
  | sqlSplit
  | lex
  | truncate
  | unquoted
  | spans
  | backtick
  | version
deriving DecidableEq, Repr

namespace CommandName

/-- Every command. -/
def all : List CommandName :=
  [contains, split, sqlSplit, lex, truncate, unquoted, spans, backtick, version]

/-- How a command is written. -/
def written : CommandName → Text
  | contains => "contains".toList
  | split => "split".toList
  | sqlSplit => "sql-split".toList
  | lex => "lex".toList
  | truncate => "truncate".toList
  | unquoted => "unquoted".toList
  | spans => "spans".toList
  | backtick => "backtick".toList
  | version => "version".toList

/-- The command that is written so. -/
def ofText? (text : Text) : Option CommandName :=
  all.find? (·.written == text)

/-- The switches of a command. -/
def switches : CommandName → List Switch
  | contains => [.config, .file, .quote, .caseSensitive, .noEscape, .quiet]
  | split =>
    [.config, .file, .quote, .caseSensitive, .noEscape, .includeToken, .noTrim,
      .tokenCaseSensitive, .format]
  | sqlSplit | lex => [.config, .file, .format]
  | truncate => [.config, .file, .bytes, .fromChar]
  | unquoted => [.config, .file, .quote, .caseSensitive, .noEscape, .op]
  | spans => [.config, .file, .quote, .caseSensitive, .noEscape, .format]
  | backtick => [.config, .file]
  | version => [.config]

/-- How many operands a command takes at most. -/
def operandLimit : CommandName → Nat
  | contains | split => 2
  | sqlSplit | lex | truncate | unquoted | spans | backtick => 1
  | version => 0

end CommandName

/-- The layout of what is printed. -/
inductive Format where
  | text
  | json
deriving DecidableEq, Repr

/-- The rewrites of unquoted text. -/
inductive Rewrite where
  | flatten
  | upper
  | lower
deriving DecidableEq, Repr

end QuotedText.CommandLine
