import QuotedText.Proofs.Quote.Search
import QuotedText.Proofs.Quote.Split

/-!
# Searches and splits

A search and a split with the same letter case try the same characters up to the first match. So
what a search does not find leaves the text in one piece (`QuoteStyle.pieces_of_not_occurs`), and
what it finds cuts the text (`QuoteStyle.one_lt_length_pieces`). Each cut that drops its match costs
as many characters as the token has (`QuoteStyle.length_flatten_pieces`), which is why the segments
tell whether there was a match (`QuoteStyle.contains_iff_split_ne`).
-/

namespace QuotedText.QuoteStyle

variable {style : QuoteStyle} {token : Pattern} {options : SplitOptions}

/-- A text in which the token is not found is one piece. -/
theorem pieces_of_not_occurs (sameCase : options.tokenCase = style.letterCase) {text : Text}
    (absent : style.occurs token text = false) : style.pieces token options text = [text] := by
  fun_induction pieces style token options text with
  | case1 => rfl
  | case2 c rest region found ih =>
    rw [occurs_region found] at absent
    rw [ih absent, List.modifyHead_cons, region?_append found]
  | case3 c rest none matched after found ih =>
    rw [occurs_unquoted (not_isQuote_of_region? none), ← sameCase, found] at absent
    contradiction
  | case4 c rest none _ ih =>
    rw [occurs_unquoted (not_isQuote_of_region? none), Bool.or_eq_false_iff] at absent
    rw [ih absent.2, List.modifyHead_cons]

/-- A text in which the token is found has several pieces. -/
theorem one_lt_length_pieces (sameCase : options.tokenCase = style.letterCase) {text : Text}
    (found : style.occurs token text = true) : 1 < (style.pieces token options text).length := by
  fun_induction pieces style token options text with
  | case1 =>
    rw [occurs] at found
    contradiction
  | case2 c rest region isRegion ih =>
    rw [occurs_region isRegion] at found
    rw [List.length_modifyHead]
    exact ih found
  | case3 c rest _ matched after _ ih =>
    have positive := List.length_pos_iff.mpr (pieces_ne_nil style token options after)
    rw [List.length_cons]
    omega
  | case4 c rest none unmatched ih =>
    rw [occurs_unquoted (not_isQuote_of_region? none), ← sameCase, unmatched] at found
    rw [List.length_modifyHead]
    exact ih (by simpa using found)

/-- With the token dropped, a text has the characters of its pieces and those of one token for each
piece but the last. -/
theorem length_flatten_pieces (style : QuoteStyle) (token : Pattern)
    (dropped : options.includeToken = false) (text : Text) :
    (style.pieces token options text).flatten.length +
        (style.pieces token options text).length * token.text.length =
      text.length + token.text.length := by
  fun_induction pieces style token options text with
  | case1 => simp
  | case2 c rest region found ih =>
    have whole := congrArg List.length (region?_append found)
    rw [List.length_append] at whole
    rw [flatten_modifyHead_append _ (pieces_ne_nil _ _ _ _), List.length_modifyHead,
      List.length_append]
    omega
  | case3 c rest _ matched after found ih =>
    have whole := congrArg List.length (LetterCase.match?_append found)
    have sameLength := LetterCase.match?_length found
    rw [List.length_append] at whole
    rw [if_neg (by simp [dropped]), List.flatten_cons, List.nil_append, List.length_cons,
      Nat.add_mul, Nat.one_mul]
    omega
  | case4 c rest _ _ ih =>
    have joined := flatten_modifyHead_append [c] (pieces_ne_nil style token options rest)
    have length := congrArg List.length joined
    simp only [List.cons_append, List.nil_append, List.length_cons] at length
    rw [List.length_modifyHead, List.length_cons]
    omega

/-- With the token dropped, the pieces of a text in which it is found do not make up the text. -/
theorem flatten_pieces_ne (dropped : options.includeToken = false)
    (sameCase : options.tokenCase = style.letterCase) {text : Text}
    (found : style.occurs token text = true) :
    (style.pieces token options text).flatten ≠ text := by
  intro whole
  have several := one_lt_length_pieces sameCase found
  have lengths := length_flatten_pieces style token dropped text
  have positive := List.length_pos_iff.mpr token.nonempty
  have longer : 1 * token.text.length <
      (style.pieces token options text).length * token.text.length :=
    Nat.mul_lt_mul_of_pos_right several positive
  rw [whole] at lengths
  omega

/-- A needle that is not empty is contained in a text when the segments of the untrimmed split that
drops it in the same letter case do not make up the text. When it is not contained, the text is
the only segment, unless it is empty. -/
theorem contains_iff_split_ne (style : QuoteStyle) (needle text : Text) (nonempty : needle ≠ []) :
    ∃ segments, style.split needle ⟨false, false, style.letterCase⟩ text = .ok segments ∧
      (style.contains needle text = .ok true ↔ segments.flatten ≠ text) ∧
      (style.contains needle text = .ok false →
        segments = if text = [] then [] else [text]) := by
  have alone (absent : style.occurs ⟨needle, nonempty⟩ text = false) :
      style.pieces ⟨needle, nonempty⟩ ⟨false, false, style.letterCase⟩ text = [text] :=
    pieces_of_not_occurs rfl absent
  refine ⟨_, split_of_untrimmed style nonempty rfl text, ?_, ?_⟩
  · rw [contains_of_ne_nil style nonempty, List.flatten_filter_ne_nil]
    constructor
    · intro found
      exact flatten_pieces_ne rfl rfl (Except.ok.inj found)
    · intro different
      by_contra absent
      have absentHere : style.occurs ⟨needle, nonempty⟩ text = false := by simpa using absent
      rw [alone absentHere, List.flatten_singleton] at different
      exact different rfl
  · intro absent
    rw [contains_of_ne_nil style nonempty] at absent
    rw [alone (Except.ok.inj absent)]
    by_cases empty : text = []
    · rw [if_pos empty, List.filter_cons_of_neg (by simp [empty]), List.filter_nil]
    · rw [if_neg empty, List.filter_cons_of_pos (by simp [empty]), List.filter_nil]

/-- A needle that runs into a region is found by both when it starts outside, and by neither when it
starts in the region. -/
theorem contains_iff_split_ne_into_region :
    [';', '\''] ≠ [] ∧ QuoteStyle.contains {} [';', '\''] "x;'a".toList = .ok true ∧
      (∃ segments, QuoteStyle.split {} [';', '\''] ⟨false, false, .insensitive⟩ "x;'a".toList =
        .ok segments ∧ segments.flatten ≠ "x;'a".toList) ∧
      QuoteStyle.contains {} [';', '\''] "x';'a".toList = .ok false ∧
      QuoteStyle.split {} [';', '\''] ⟨false, false, .insensitive⟩ "x';'a".toList =
        .ok ["x';'a".toList] := by
  have nonempty : [';', '\''] ≠ [] := by simp
  have occurs : QuoteStyle.occurs {} ⟨[';', '\''], by simp⟩ "x;'a".toList = true := by
    decide +kernel
  have occursNot : QuoteStyle.occurs {} ⟨[';', '\''], by simp⟩ "x';'a".toList = false := by
    decide +kernel
  have found : QuoteStyle.contains {} [';', '\''] "x;'a".toList = .ok true :=
    congrArg Except.ok occurs
  have absent : QuoteStyle.contains {} [';', '\''] "x';'a".toList = .ok false :=
    congrArg Except.ok occursNot
  obtain ⟨segments, report, foundIff, -⟩ :=
    contains_iff_split_ne {} [';', '\''] "x;'a".toList nonempty
  obtain ⟨others, reportOthers, -, alone⟩ :=
    contains_iff_split_ne {} [';', '\''] "x';'a".toList nonempty
  have onlyOne : others = ["x';'a".toList] := alone absent
  exact ⟨nonempty, found, ⟨segments, report, foundIff.mp found⟩, absent, onlyOne ▸ reportOthers⟩

end QuotedText.QuoteStyle
