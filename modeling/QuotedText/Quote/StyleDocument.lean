import QuotedText.Quote.Style
import QuotedText.Yaml.Standard

/-!
# Documents that spell out a quote style

A style document is a record with three fields: the quotes, each a character, and the names of the
letter case and of the escape. What it leaves out keeps its default, and so does everything in a
blank document. The record is closed, so another key is an error. How a document is read is left to
a decoder.
-/

namespace QuotedText

/-- Why a document spells out no quote style. -/
inductive StyleDocumentError where
  /-- It cannot be decoded. -/
  | malformed
deriving DecidableEq, Repr

namespace StyleDocumentError

/-- The wording, which is the same for every cause. -/
def message : StyleDocumentError → String
  | .malformed => "failed to parse scan config YAML"

end StyleDocumentError

namespace StyleDocument

/-- The key of the list of quotes. -/
def quotesKey : Text := ['q', 'u', 'o', 't', 'e', '_', 'c', 'h', 'a', 'r', 's']

/-- The key of the letter case. -/
def letterCaseKey : Text := ['c', 'a', 's', 'e']

/-- The key of the escape. -/
def escapeKey : Text := ['e', 's', 'c', 'a', 'p', 'e']

/-- The name of a letter case. -/
def letterCaseName : LetterCase → Text
  | .sensitive => ['s', 'e', 'n', 's', 'i', 't', 'i', 'v', 'e']
  | .insensitive => ['i', 'n', 's', 'e', 'n', 's', 'i', 't', 'i', 'v', 'e']

/-- The name of an escape. -/
def escapeName : Escape → Text
  | .doubled => ['d', 'o', 'u', 'b', 'l', 'e', 'd', '_', 'c', 'h', 'a', 'r']
  | .none => ['n', 'o', 'n', 'e']

/-- The record that a document holds. -/
def record : Yaml.Record where
  fields := [quotesKey, letterCaseKey, escapeKey]
  closed := true

/-- The letter cases by their names. -/
def letterCases : List (Text × LetterCase) :=
  [LetterCase.sensitive, .insensitive].map fun named => (letterCaseName named, named)

/-- The escapes by their names. -/
def escapes : List (Text × Escape) :=
  [Escape.doubled, .none].map fun named => (escapeName named, named)

/-- The value that is taken from the node of a field, or the default of a field without one. -/
def valueOr {α : Type} (default : α) (take : Yaml.Node → Option α) : Option Yaml.Node → Option α
  | some node => take node
  | none => some default

/-- The style that a node gives. -/
def style? (decoder : Yaml.Decoder) (node : Yaml.Node) : Option QuoteStyle := do
  let defaults : QuoteStyle := {}
  let given ← decoder.record? record node
  let quotes ← valueOr defaults.quotes (decoder.list? decoder.char?) (given quotesKey)
  let letterCase ← valueOr defaults.letterCase (decoder.choice? letterCases) (given letterCaseKey)
  let escape ← valueOr defaults.escape (decoder.choice? escapes) (given escapeKey)
  return { quotes, letterCase, escape }

/-- The style that a decoder finds in a text. -/
def decode? (decoder : Yaml.Decoder) (text : Text) : Option QuoteStyle :=
  (decoder.node? text).bind (style? decoder)

end StyleDocument

namespace QuoteStyle

/-- The quote style that a document spells out. -/
def decoded (decoder : Yaml.Decoder) (text : Text) : Except StyleDocumentError QuoteStyle :=
  if text.isBlankText then .ok {}
  else
    match StyleDocument.decode? decoder text with
    | some style => .ok style
    | none => .error .malformed

/-- The quote style that a document spells out for the decoder that runs. -/
def ofDocument (text : Text) : Except StyleDocumentError QuoteStyle :=
  decoded .standard text

/-- A blank document leaves every default. -/
theorem decoded_of_blank (decoder : Yaml.Decoder) {text : Text}
    (blank : text.isBlankText = true) : decoded decoder text = .ok {} :=
  if_pos blank

/-- Any other document spells out the style that is decoded from it. -/
theorem decoded_of_some {decoder : Yaml.Decoder} {text : Text} {style : QuoteStyle}
    (visible : text.isBlankText = false) (found : StyleDocument.decode? decoder text = some style) :
    decoded decoder text = .ok style := by
  rw [decoded, visible, if_neg Bool.false_ne_true, found]

/-- A document from which nothing is decoded is an error unless it is blank. -/
theorem decoded_of_none {decoder : Yaml.Decoder} {text : Text}
    (visible : text.isBlankText = false) (nothing : StyleDocument.decode? decoder text = none) :
    decoded decoder text = .error .malformed := by
  rw [decoded, visible, if_neg Bool.false_ne_true, nothing]

end QuoteStyle

end QuotedText
