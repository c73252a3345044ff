import QuotedText.Text.LetterCase

/-!
# Quote styles

A quote style says which characters open a quoted region, whether the case of letters counts when
two quotes are compared, and whether a doubled quote inside a region stands for the quote itself.
`QuoteStyle.sql` is the style of SQL scripts.
-/

namespace QuotedText

/-- How a quoted region may hold its own quote. -/
inductive Escape where
  /-- Two quotes in a row stand for one and leave the region open. -/
  | doubled
  /-- The first repeat of the quote closes the region. -/
  | none
deriving DecidableEq, Repr

/-- What counts as quoted. -/
structure QuoteStyle where
  /-- The characters that open a quoted region. -/
  quotes : List Char := ['\'']
  /-- Whether the case of letters counts when quotes or needles are compared. -/
  letterCase : LetterCase := .insensitive
  /-- How a region may hold its own quote. -/
  escape : Escape := .doubled
deriving DecidableEq, Repr

namespace QuoteStyle

/-- SQL scripts quote literals with `'` and names with a backtick, and compare both exactly. -/
def sql : QuoteStyle :=
  { quotes := ['\'', '\x60'], letterCase := .sensitive }

/-- Whether a character opens a quoted region. -/
def isQuote (style : QuoteStyle) (c : Char) : Bool :=
  style.letterCase.memberOf style.quotes c

/-- Whether a character is the quote that opened a region. -/
def closes (style : QuoteStyle) (opener c : Char) : Bool :=
  style.letterCase.same c opener

/-- Being a quote depends on the key of a character alone. -/
theorem isQuote_congr {style : QuoteStyle} {a b : Char} (h : style.letterCase.same a b) :
    style.isQuote a = style.isQuote b := by
  have equal : (fun member => style.letterCase.same member a) =
      fun member => style.letterCase.same member b := by
    funext member
    rw [Bool.eq_iff_iff, LetterCase.same_iff, LetterCase.same_iff, LetterCase.same_iff.mp h]
  rw [isQuote, isQuote, LetterCase.memberOf, LetterCase.memberOf, equal]

/-- Whether a character closes a region depends on the keys of both. -/
theorem closes_of_same {style : QuoteStyle} {opener opener' c c' : Char}
    (openers : style.letterCase.same opener opener') (same : style.letterCase.same c c') :
    style.closes opener c = style.closes opener' c' := by
  rw [Bool.eq_iff_iff, closes, closes, LetterCase.same_iff, LetterCase.same_iff,
    LetterCase.same_iff.mp openers, LetterCase.same_iff.mp same]

end QuoteStyle

end QuotedText
