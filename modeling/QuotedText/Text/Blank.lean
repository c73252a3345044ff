import QuotedText.Text.Basic

/-!
# Blanks, flattening and words

A character is blank when Unicode gives it the property `White_Space`. Flattening replaces each
maximal run of blanks by one space; words are the maximal runs of characters that are neither
blank nor a parenthesis or comma. Text without blanks is left alone
(`Text.flatten_of_no_blank`), and no word is empty (`Text.ne_nil_of_mem_words`).
-/

namespace QuotedText

/-- The ranges of code points with the property `White_Space`, ends included. -/
def blankRanges : List (Nat × Nat) :=
  [(0x0009, 0x000D), (0x0020, 0x0020), (0x0085, 0x0085), (0x00A0, 0x00A0), (0x1680, 0x1680),
    (0x2000, 0x200A), (0x2028, 0x2029), (0x202F, 0x202F), (0x205F, 0x205F), (0x3000, 0x3000)]

/-- Whether a code point lies in one of the given ranges. -/
def inRanges (ranges : List (Nat × Nat)) (codePoint : Nat) : Bool :=
  ranges.any fun range => decide (range.1 ≤ codePoint) && decide (codePoint ≤ range.2)

/-- A blank is a character with the property `White_Space`. -/
def isBlank (c : Char) : Bool :=
  inRanges blankRanges c.toNat

/-- A blank, a parenthesis or a comma separates words. -/
def isWordSeparator (c : Char) : Bool :=
  isBlank c || c == '(' || c == ')' || c == ','

/-- A blank separates words. -/
theorem isWordSeparator_of_isBlank {c : Char} (blank : isBlank c = true) :
    isWordSeparator c = true := by
  simp [isWordSeparator, blank]

namespace Text

/-- A blank text holds nothing but blanks; the empty text is blank. -/
def isBlankText (text : Text) : Bool :=
  text.all isBlank

/-- Drops the blanks at the head of a text. -/
def trimStart (text : Text) : Text :=
  text.dropWhile isBlank

/-- Drops the characters at the end of a text that satisfy `drop`. -/
def dropEndWhile (drop : Char → Bool) (text : Text) : Text :=
  (text.reverse.dropWhile drop).reverse

/-- Drops the blanks at both ends of a text. -/
def trim (text : Text) : Text :=
  dropEndWhile isBlank (trimStart text)

/-- Replaces each run of blanks by one space; `inRun` says whether a run has already begun before
the text. -/
def flattenFrom (inRun : Bool) : Text → Text
  | [] => []
  | c :: rest =>
    if isBlank c then
      if inRun then flattenFrom true rest else ' ' :: flattenFrom true rest
    else c :: flattenFrom false rest

/-- Replaces each maximal run of blanks by one space. -/
def flatten (text : Text) : Text :=
  flattenFrom false text

/-- The words of a text in order: what its separators leave, without the empty pieces. -/
def words (text : Text) : List Text :=
  (text.splitOnP isWordSeparator).filter (· ≠ [])

/-- The empty text is blank. -/
@[simp] theorem isBlankText_nil : isBlankText [] = true := rfl

/-- A text is blank when its parts are. -/
theorem isBlankText_append (front back : Text) :
    isBlankText (front ++ back) = (isBlankText front && isBlankText back) := by
  simp [isBlankText]

/-- No word is empty. -/
theorem ne_nil_of_mem_words {word text : Text} (h : word ∈ words text) : word ≠ [] := by
  simpa using (List.mem_filter.mp h).2

/-- A text without blanks is already flat. -/
theorem flatten_of_no_blank {text : Text} (noBlank : text.all (!isBlank ·)) :
    flatten text = text := by
  unfold flatten
  induction text with
  | nil => rfl
  | cons c rest ih => simp_all [flattenFrom]

end Text

end QuotedText
