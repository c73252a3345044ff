import QuotedText.Quote.Search

/-!
# Splitting outside quotes

A text is cut behind every match of a token that starts at an unquoted character; the scan goes on
behind the match, wherever that is. `QuoteStyle.pieces` gives everything between the cuts,
`QuoteStyle.split` the pieces worth reporting: all that are not empty, or, with trimming, each piece
that is not blank with the blank pieces before it. With the token kept the pieces make up the text
(`QuoteStyle.pieces_flatten`).
-/

namespace QuotedText

/-- How a text is split. -/
structure SplitOptions where
  /-- Whether a piece keeps the match that ends it. -/
  includeToken : Bool := false
  /-- Whether blank pieces are held over to the next piece. -/
  trimmed : Bool := true
  /-- Whether the case of letters counts when the token is matched. -/
  tokenCase : LetterCase := .insensitive
deriving DecidableEq, Repr

namespace QuoteStyle

/-- The pieces of a text between the matches of a token, of which there is at least one. -/
def pieces (style : QuoteStyle) (token : Pattern) (options : SplitOptions) : Text → List Text
  | [] => [[]]
  | c :: rest =>
    match _found : style.region? (c :: rest) with
    | some region => (pieces style token options region.rest).modifyHead (region.text ++ ·)
    | none =>
      match _matches : token.match? options.tokenCase (c :: rest) with
      | some (matched, after) =>
        (if options.includeToken then matched else []) :: pieces style token options after
      | none => (pieces style token options rest).modifyHead (c :: ·)
termination_by text => text.length
decreasing_by
  · exact region?_shorter _found
  · exact Pattern.match?_shorter _matches
  · simp

/-- Joins each blank piece to the next one that is not blank; blank pieces at the end are dropped.
The blank text `held` waits for the first piece. -/
def holdBlanks (held : Text) : List Text → List Text
  | [] => []
  | piece :: more =>
    if (held ++ piece).isBlankText then holdBlanks (held ++ piece) more
    else (held ++ piece) :: holdBlanks [] more

/-- The pieces of a text that are reported. -/
def splitOn (style : QuoteStyle) (token : Pattern) (options : SplitOptions) (text : Text) :
    List Text :=
  if options.trimmed then holdBlanks [] (style.pieces token options text)
  else (style.pieces token options text).filter (· ≠ [])

/-- Splits a text on a token outside quotes. -/
def split (style : QuoteStyle) (token : Text) (options : SplitOptions) (text : Text) :
    Except ScanError (List Text) :=
  match Pattern.ofText? token with
  | none => .error .emptyToken
  | some pattern => .ok (style.splitOn pattern options text)

/-- A split on a token that is not empty reports segments. -/
theorem split_of_ne_nil (style : QuoteStyle) {token : Text} (nonempty : token ≠ [])
    (options : SplitOptions) (text : Text) :
    style.split token options text = .ok (style.splitOn ⟨token, nonempty⟩ options text) := by
  rw [split, Pattern.ofText?_of_ne_nil nonempty]

/-- There is always a first piece. -/
theorem pieces_ne_nil (style : QuoteStyle) (token : Pattern) (options : SplitOptions)
    (text : Text) : style.pieces token options text ≠ [] := by
  fun_induction pieces style token options text <;> simp_all

/-- Text put before the first piece stands before the whole. -/
theorem flatten_modifyHead_append {pieces : List Text} (front : Text) (nonempty : pieces ≠ []) :
    (pieces.modifyHead (front ++ ·)).flatten = front ++ pieces.flatten := by
  cases pieces with
  | nil => exact absurd rfl nonempty
  | cons piece more => simp

/-- With the token kept, the pieces make up the text. -/
theorem pieces_flatten (style : QuoteStyle) (token : Pattern) {options : SplitOptions}
    (kept : options.includeToken = true) (text : Text) :
    (style.pieces token options text).flatten = text := by
  fun_induction pieces style token options text with
  | case1 => rfl
  | case2 c rest region found ih =>
    rw [flatten_modifyHead_append _ (pieces_ne_nil _ _ _ _), ih, region?_append found]
  | case3 c rest _ matched after found ih =>
    rw [List.flatten_cons, ih, if_pos kept]
    exact LetterCase.match?_append found
  | case4 c rest _ _ ih =>
    have joined := flatten_modifyHead_append [c] (pieces_ne_nil style token options rest)
    rw [ih] at joined
    exact joined

end QuoteStyle

end QuotedText
