import QuotedText.Proofs.Quote.Escape
import QuotedText.Proofs.Quote.Hold
import QuotedText.Proofs.Quote.Piece

/-!
# Text that goes on

A scan looks ahead of its place for a second closing quote and for the rest of a match, and nothing
else in a text depends on what comes later. So when a text goes on, only its last span and its last
segment may change, and what a search has found stays found
(`QuoteStyle.append_keeps_decisions`). A region that something follows is read as before
(`QuoteStyle.region?_append_text`), and where a match is missing only its end, the text that is left
has no match at all (`QuoteStyle.pieces_of_short`).
-/

namespace QuotedText

section

variable {α : Type}

/-- All but the last element of a list are among those that at most one element follows. -/
theorem prefix_dropLast_append {former latter : List α} (short : latter.length ≤ 1) :
    (former ++ latter).dropLast <+: former := by
  match latter, short with
  | [], _ =>
    rw [List.append_nil]
    exact List.dropLast_prefix former
  | [last], _ => exact ⟨[], by rw [List.append_nil, List.dropLast_concat]⟩

/-- Let a report of a list go on behind its first elements with at most one entry for each other
element. Then all but the last entry stay when the list goes on behind its last element. -/
theorem prefix_dropLast_report {report : List α → List α} {former longer : List α}
    (nothing : report [] = [])
    (goesOn : ∀ front, ∃ further : List α → List α,
      (∀ more, report (front ++ more) = report front ++ further more) ∧
      ∀ last, (further [last]).length ≤ 1)
    (begins : former.dropLast <+: longer) : (report former).dropLast <+: report longer := by
  rcases List.eq_nil_or_concat' former with rfl | ⟨front, last, rfl⟩
  · rw [nothing]
    exact List.nil_prefix
  · rw [List.dropLast_concat] at begins
    obtain ⟨rest, rfl⟩ := begins
    obtain ⟨further, whole, short⟩ := goesOn front
    rw [whole, whole]
    exact (prefix_dropLast_append (short last)).trans (List.prefix_append _ _)

/-- When the first elements of both are changed, all but the last of a list stay the first of
another. -/
theorem prefix_dropLast_modifyHead {former latter : List α} (change : α → α)
    (begins : former.dropLast <+: latter) :
    (former.modifyHead change).dropLast <+: latter.modifyHead change := by
  match former, begins with
  | [], _ => exact List.nil_prefix
  | [only], _ => exact List.nil_prefix
  | first :: next :: more, begins =>
    obtain ⟨rest, rfl⟩ := begins
    exact List.prefix_append (change first :: (next :: more).dropLast) rest

end

namespace LetterCase

/-- A pattern that matches at the head of a text still does when the text goes on. -/
theorem MatchesHead.append {letterCase : LetterCase} {pattern text : Text}
    (found : letterCase.MatchesHead pattern text) (more : Text) :
    letterCase.MatchesHead pattern (text ++ more) := by
  obtain ⟨matched, begins, agrees⟩ := found
  exact ⟨matched, begins.trans (List.prefix_append text more), agrees⟩

/-- A pattern that comes to match when a text goes on is longer than the text. -/
theorem MatchesHead.length_lt {letterCase : LetterCase} {pattern text more : Text}
    (found : letterCase.MatchesHead pattern (text ++ more))
    (unmatched : ¬letterCase.MatchesHead pattern text) : text.length < pattern.length := by
  obtain ⟨matched, begins, agrees⟩ := found
  by_contra enough
  have sameLength : matched.length = pattern.length := agrees.length_eq
  have inText : matched <+: text :=
    List.prefix_of_prefix_length_le begins (List.prefix_append text more) (by omega)
  exact unmatched ⟨matched, inText, agrees⟩

end LetterCase

namespace Span

/-- All but the last of located spans are located as before. -/
theorem dropLast_located (start : Nat) (spans : List Span) :
    (located start spans).dropLast = located start spans.dropLast := by
  rcases List.eq_nil_or_concat' spans with rfl | ⟨front, last, rfl⟩
  · rfl
  · rw [located_append, List.dropLast_concat]
    exact List.dropLast_concat

/-- Spans at the head of a list are located at the head. -/
theorem prefix_located (start : Nat) {front spans : List Span} (begins : front <+: spans) :
    located start front <+: located start spans := by
  obtain ⟨rest, rfl⟩ := begins
  rw [located_append]
  exact List.prefix_append _ _

end Span

namespace QuoteStyle

variable {style : QuoteStyle} {token : Pattern} {options : SplitOptions}

/-! ## Spans -/

/-- A region that something follows is read as before when the text goes on. -/
theorem region?_append_text {text : Text} {region : Region}
    (found : style.region? text = some region) (followed : region.rest ≠ []) (more : Text) :
    style.region? (text ++ more) = some { region with rest := region.rest ++ more } := by
  have sameHead : (region.rest ++ more).head? = region.rest.head? :=
    List.head?_append_of_ne_nil region.rest followed
  have read : style.region? (region.text ++ (region.rest ++ more)) =
      some { region with rest := region.rest ++ more } :=
    region?_of_head found fun c isHead => sameHead ▸ isHead
  rwa [← List.append_assoc, region?_append found] at read

/-- Well-cut spans have text. -/
theorem WellCut.texts_ne_nil {spans : List Span} (cut : style.WellCut spans)
    (nonempty : spans ≠ []) : Span.texts spans ≠ [] := by
  obtain ⟨first, more, rfl⟩ := List.exists_cons_of_ne_nil nonempty
  rw [Span.texts_cons]
  exact List.append_ne_nil_of_left_ne_nil cut.text_ne_nil _

/-- When a text goes on, the spans that others follow stay. -/
theorem WellCut.spans_append_text {before after : List Span}
    (cut : style.WellCut (before ++ after)) (nonempty : after ≠ []) (more : Text) :
    style.spans (Span.texts (before ++ after) ++ more) =
      before ++ style.spans (Span.texts after ++ more) := by
  induction before with
  | nil => rfl
  | cons span before ih =>
    have later := ih cut.tail
    have followed : Span.texts (before ++ after) ≠ [] :=
      cut.tail.texts_ne_nil (List.append_ne_nil_of_right_ne_nil before nonempty)
    have sameHead : (Span.texts (before ++ after) ++ more).head? =
        (Span.texts (before ++ after)).head? := List.head?_append_of_ne_nil _ followed
    rw [List.cons_append] at cut
    rw [List.cons_append, Span.texts_cons, List.append_assoc, List.cons_append, ← later]
    generalize before ++ after = rest at cut followed sameHead
    cases cut with
    | @unquoted text _ nonemptyText plain maximal cut =>
      have quote := (WellCut.unquoted nonemptyText plain maximal cut).isQuote_head
      refine spans_append_unquoted nonemptyText plain ?_
      intro next isNext unquoted
      obtain ⟨c, isHead, -, unquotedIff⟩ := exists_head_spans isNext
      rw [sameHead] at isHead
      have isPlain := unquotedIff.mp unquoted
      rw [quote c isHead] at isPlain
      contradiction
    | @quoted opener close body _ quote inside closes ends _ =>
      have endsLonger : style.EndsBefore opener (Span.texts rest ++ more) := by
        intro doubled c isHead
        rw [sameHead] at isHead
        exact ends doubled c isHead
      have found := region?_closed quote inside closes endsLonger
      simpa [Region.span] using spans_region found
    | unterminated => exact absurd rfl followed

/-- All but the last span of a text stay when the text goes on. -/
theorem prefix_dropLast_spans (style : QuoteStyle) (text more : Text) :
    (style.spans text).dropLast <+: style.spans (text ++ more) := by
  have flat := style.spans_flatten text
  have cut := style.wellCut_spans text
  rcases List.eq_nil_or_concat' (style.spans text) with none | ⟨front, last, split⟩
  · rw [none]
    exact List.nil_prefix
  · rw [split] at cut flat ⊢
    have longer := cut.spans_append_text (List.cons_ne_nil last []) more
    rw [flat] at longer
    rw [longer, List.dropLast_concat]
    exact List.prefix_append _ _

/-! ## Searches -/

/-- What a search has found stays found when the text goes on. -/
theorem occurs_append {pattern : Pattern} {text : Text} (found : style.occurs pattern text = true)
    (more : Text) : style.occurs pattern (text ++ more) = true := by
  fun_induction occurs style pattern text with
  | case1 => contradiction
  | case2 c rest region isRegion ih =>
    have followed : region.rest ≠ [] := by
      intro nothing
      rw [nothing, occurs] at found
      contradiction
    rw [occurs_region (region?_append_text isRegion followed more)]
    exact ih found
  | case3 c rest none ih =>
    rw [List.cons_append, occurs_unquoted (not_isQuote_of_region? none), Bool.or_eq_true]
    rw [Bool.or_eq_true] at found
    rcases found with here | later
    · left
      rw [Pattern.match?, LetterCase.isSome_match?_iff] at here ⊢
      exact here.append more
    · exact .inr (ih later)

/-! ## Splits -/

/-- A text shorter than the token is one piece. -/
theorem pieces_of_short {text : Text} (short : text.length < token.text.length) :
    style.pieces token options text = [text] := by
  fun_induction pieces style token options text with
  | case1 => rfl
  | case2 c rest region found ih =>
    have shorter := region?_shorter found
    rw [ih (by omega), List.modifyHead_cons, region?_append found]
  | case3 c rest _ matched after found ih =>
    have sameLength := LetterCase.match?_length found
    have whole := congrArg List.length (LetterCase.match?_append found)
    rw [List.length_append] at whole
    omega
  | case4 c rest _ _ ih =>
    rw [List.length_cons] at short
    rw [ih (by omega), List.modifyHead_cons]

/-- All but the last piece of a text stay when the text goes on. -/
theorem prefix_dropLast_pieces (style : QuoteStyle) (token : Pattern) (options : SplitOptions)
    (text more : Text) :
    (style.pieces token options text).dropLast <+: style.pieces token options (text ++ more) := by
  fun_induction pieces style token options text with
  | case1 => exact List.nil_prefix
  | case2 c rest region found ih =>
    by_cases followed : region.rest = []
    · rw [followed, pieces]
      exact List.nil_prefix
    · rw [pieces_region (region?_append_text found followed more)]
      exact prefix_dropLast_modifyHead _ ih
  | case3 c rest none matched after found ih =>
    obtain ⟨whole, agrees⟩ := LetterCase.match?_eq_some_iff.mp found
    have plain := not_isQuote_head_of_match? none found
    rw [whole, List.append_assoc, pieces_match agrees plain,
      List.dropLast_cons_of_ne_nil (pieces_ne_nil style token options after)]
    exact List.cons_prefix_cons.mpr ⟨rfl, ih⟩
  | case4 c rest none unmatched ih =>
    have here := Pattern.not_matchesHead_of_match? unmatched
    by_cases later : options.tokenCase.MatchesHead token.text (c :: (rest ++ more))
    · -- The match needs more text than there was, so there was no cut from here on.
      have short : (c :: rest).length < token.text.length := later.length_lt here
      rw [List.length_cons] at short
      rw [pieces_of_short (by omega)]
      exact List.nil_prefix
    · rw [List.cons_append, pieces_unmatched (not_isQuote_of_region? none) later]
      exact prefix_dropLast_modifyHead _ ih

/-- A trimmed report goes on behind some pieces with at most one segment for each other piece. -/
theorem exists_goesOn_holdBlanks (front : List Text) :
    ∃ further : List Text → List Text,
      (∀ more, holdBlanks [] (front ++ more) = holdBlanks [] front ++ further more) ∧
      ∀ piece, (further [piece]).length ≤ 1 := by
  obtain ⟨waiting, -, -, goesOn⟩ := exists_holdBlanks_append Text.isBlankText_nil front
  refine ⟨holdBlanks waiting, goesOn, ?_⟩
  intro piece
  rw [holdBlanks]
  split <;> simp [holdBlanks]

/-- All but the last reported segment stay when the text goes on. -/
theorem prefix_dropLast_splitOn (style : QuoteStyle) (token : Pattern) (options : SplitOptions)
    (text more : Text) :
    (style.splitOn token options text).dropLast <+: style.splitOn token options (text ++ more) := by
  have begins := prefix_dropLast_pieces style token options text more
  unfold splitOn
  split
  · exact prefix_dropLast_report rfl exists_goesOn_holdBlanks begins
  · refine prefix_dropLast_report rfl ?_ begins
    intro front
    exact ⟨List.filter _, fun _ => List.filter_append .., fun _ => List.length_filter_le ..⟩

/-- When a text goes on, all its spans but the last stay where they are, all its segments but the
last stay the same, and a needle that it contains is still contained. -/
theorem append_keeps_decisions (style : QuoteStyle) (text more : Text) :
    (style.locatedSpans text).dropLast <+: style.locatedSpans (text ++ more) ∧
      (∀ (token : Text) (options : SplitOptions), token ≠ [] →
        ∃ segments longer, style.split token options text = .ok segments ∧
          style.split token options (text ++ more) = .ok longer ∧ segments.dropLast <+: longer) ∧
      ∀ needle, style.contains needle text = .ok true →
        style.contains needle (text ++ more) = .ok true := by
  refine ⟨?_, ?_, ?_⟩
  · rw [locatedSpans, Span.dropLast_located]
    exact Span.prefix_located 0 (prefix_dropLast_spans style text more)
  · intro token options nonempty
    exact ⟨_, _, split_of_ne_nil style nonempty options text,
      split_of_ne_nil style nonempty options (text ++ more),
      prefix_dropLast_splitOn style _ options text more⟩
  · intro needle found
    by_cases nonempty : needle ≠ []
    · rw [contains_of_ne_nil style nonempty] at found ⊢
      exact congrArg Except.ok (occurs_append (Except.ok.inj found) more)
    · obtain rfl : needle = [] := by simpa using nonempty
      contradiction

/-- The quote that comes next opens the last region again and the character that comes next ends the
last match, so the last span and the last segments change and what is before them stays. -/
theorem append_keeps_decisions_lookahead :
    [';', ';'] ≠ [] ∧ QuoteStyle.contains {} ['x'] "x;;'a';".toList = .ok true ∧
      QuoteStyle.contains {} ['x'] ("x;;'a';".toList ++ ";'b'".toList) = .ok true ∧
      QuoteStyle.split {} [';', ';'] {} "x;;'a';".toList = .ok [['x'], "'a';".toList] ∧
      QuoteStyle.split {} [';', ';'] {} ("x;;'a';".toList ++ ";'b'".toList) =
        .ok [['x'], "'a'".toList, "'b'".toList] ∧
      (∃ segments longer, QuoteStyle.split {} [';', ';'] {} "x;;'a';".toList = .ok segments ∧
        QuoteStyle.split {} [';', ';'] {} ("x;;'a';".toList ++ ";'b'".toList) = .ok longer ∧
        segments.dropLast <+: longer) ∧
      (QuoteStyle.locatedSpans {} "x;;'a'".toList).dropLast <+:
        QuoteStyle.locatedSpans {} ("x;;'a'".toList ++ "'b'".toList) := by
  have nonempty : [';', ';'] ≠ [] := by simp
  have occurs : QuoteStyle.occurs {} ⟨['x'], by simp⟩ "x;;'a';".toList = true := by decide +kernel
  have found : QuoteStyle.contains {} ['x'] "x;;'a';".toList = .ok true :=
    congrArg Except.ok occurs
  have pieces : QuoteStyle.splitOn {} ⟨[';', ';'], by simp⟩ {} "x;;'a';".toList =
      [['x'], "'a';".toList] := by
    decide +kernel
  have longer : QuoteStyle.splitOn {} ⟨[';', ';'], by simp⟩ {}
      ("x;;'a';".toList ++ ";'b'".toList) = [['x'], "'a'".toList, "'b'".toList] := by
    decide +kernel
  obtain ⟨-, splits, searches⟩ := append_keeps_decisions {} "x;;'a';".toList ";'b'".toList
  obtain ⟨spans, -, -⟩ := append_keeps_decisions {} "x;;'a'".toList "'b'".toList
  exact ⟨nonempty, found, searches ['x'] found, congrArg Except.ok pieces,
    congrArg Except.ok longer, splits [';', ';'] {} nonempty, spans⟩

end QuoteStyle

end QuotedText
