import QuotedText.Quote.Region
import QuotedText.Quote.Pattern

/-!
# Searching outside quotes

A pattern occurs outside quotes when it matches at some character that lies in no quoted region.
A match that starts there may run into quoted text.
-/

namespace QuotedText

/-- Why a search or a split cannot be made. -/
inductive ScanError where
  /-- The text to search for is empty. -/
  | emptyNeedle
  /-- The text to split on is empty. -/
  | emptyToken
deriving DecidableEq, Repr

namespace ScanError

/-- The wording of a cause. -/
def message : ScanError → String
  | .emptyNeedle => "needle must not be empty"
  | .emptyToken => "split token must not be empty"

end ScanError

namespace QuoteStyle

/-- Whether a pattern matches at some unquoted character of a text. -/
def occurs (style : QuoteStyle) (pattern : Pattern) : Text → Bool
  | [] => false
  | c :: rest =>
    match _found : style.region? (c :: rest) with
    | some region => occurs style pattern region.rest
    | none => (pattern.match? style.letterCase (c :: rest)).isSome || occurs style pattern rest
termination_by text => text.length
decreasing_by
  · exact region?_shorter _found
  · simp

/-- Whether a text holds `needle` outside quotes. -/
def contains (style : QuoteStyle) (needle text : Text) : Except ScanError Bool :=
  match Pattern.ofText? needle with
  | none => .error .emptyNeedle
  | some pattern => .ok (style.occurs pattern text)

/-- A search for a needle that is not empty has an answer. -/
theorem contains_of_ne_nil (style : QuoteStyle) {needle : Text} (nonempty : needle ≠ [])
    (text : Text) : style.contains needle text = .ok (style.occurs ⟨needle, nonempty⟩ text) := by
  rw [contains, Pattern.ofText?_of_ne_nil nonempty]

end QuoteStyle

end QuotedText
