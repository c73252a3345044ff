import QuotedText.Proofs.Quote.Hold
import QuotedText.Proofs.Quote.Split

/-!
# Trimmed splits

Trimming has no say in where a text is cut (`QuoteStyle.pieces_congr`), so a trimmed split can be
told from the untrimmed one. Of its segments each maximal run of blank ones goes to the segment
behind the run, and a run at the end goes nowhere (`QuoteStyle.split_trimmed_eq_carryBlanks`). When
only the last segment may be blank, trimming leaves it out and does nothing else
(`QuoteStyle.holdBlanks_eq_filter`).
-/

namespace QuotedText.QuoteStyle

/-! ## Runs of blank pieces -/

/-- Puts each maximal run of blank segments before the segment that follows it; a run that none
follows is dropped. -/
def carryBlanks (segments : List Text) : List Text :=
  match _found : segments.dropWhile (·.isBlankText) with
  | [] => []
  | visible :: more =>
    ((segments.takeWhile (·.isBlankText)).flatten ++ visible) :: carryBlanks more
termination_by segments.length
decreasing_by
  have shorter := (List.dropWhile_sublist (·.isBlankText) (l := segments)).length_le
  rw [_found, List.length_cons] at shorter
  exact shorter

/-- What has been held goes with the first run of blank pieces to the piece behind the run. -/
theorem holdBlanks_of_blank {held : Text} (blank : held.isBlankText = true) (pieces : List Text) :
    holdBlanks held pieces =
      match pieces.dropWhile (·.isBlankText) with
      | [] => []
      | visible :: more =>
        (held ++ (pieces.takeWhile (·.isBlankText)).flatten ++ visible) :: holdBlanks [] more := by
  induction pieces generalizing held with
  | nil => rfl
  | cons piece pieces ih =>
    have whole : (held ++ piece).isBlankText = piece.isBlankText := by
      rw [Text.isBlankText_append, blank, Bool.true_and]
    cases blankPiece : piece.isBlankText with
    | true =>
      have blankWhole : (held ++ piece).isBlankText = true := whole.trans blankPiece
      rw [holdBlanks_hold _ blankWhole, ih blankWhole, List.dropWhile_cons_of_pos blankPiece,
        List.takeWhile_cons_of_pos blankPiece, List.flatten_cons, List.append_assoc held piece]
    | false =>
      have visible : ¬piece.isBlankText = true := by simp [blankPiece]
      rw [holdBlanks_report _ (whole.trans blankPiece), List.dropWhile_cons_of_neg visible,
        List.takeWhile_cons_of_neg visible, List.flatten_nil, List.append_nil]

/-- A trimmed split goes through its pieces run by run. -/
theorem holdBlanks_eq_carryBlanks (pieces : List Text) :
    holdBlanks [] pieces = carryBlanks pieces := by
  fun_induction carryBlanks pieces with
  | case1 pieces none => rw [holdBlanks_of_blank Text.isBlankText_nil, none]
  | case2 pieces visible more found ih =>
    rw [holdBlanks_of_blank Text.isBlankText_nil, found, ← ih]
    rfl

/-- Pieces that are empty add nothing to what is held. -/
theorem holdBlanks_filter_ne_nil {held : Text} (blank : held.isBlankText = true)
    (pieces : List Text) : holdBlanks held (pieces.filter (· ≠ [])) = holdBlanks held pieces := by
  induction pieces generalizing held with
  | nil => rfl
  | cons piece pieces ih =>
    by_cases empty : piece = []
    · have blankStill : (held ++ piece).isBlankText = true := by rwa [empty, List.append_nil]
      rw [List.filter_cons_of_neg (by simp [empty]), holdBlanks_hold _ blankStill, empty,
        List.append_nil, ih blank]
    · rw [List.filter_cons_of_pos (by simp [empty])]
      cases blankPiece : (held ++ piece).isBlankText with
      | true => rw [holdBlanks_hold _ blankPiece, holdBlanks_hold _ blankPiece, ih blankPiece]
      | false =>
        rw [holdBlanks_report _ blankPiece, holdBlanks_report _ blankPiece, ih Text.isBlankText_nil]

/-- When only the last piece may be blank, the pieces that are not blank are reported as they
are. -/
theorem holdBlanks_eq_filter {pieces : List Text}
    (visible : ∀ piece ∈ pieces.dropLast, piece.isBlankText = false) :
    holdBlanks [] pieces = pieces.filter (!·.isBlankText) := by
  induction pieces with
  | nil => rfl
  | cons piece more ih =>
    rw [holdBlanks, List.nil_append]
    by_cases last : more = []
    · rw [last]
      cases blank : piece.isBlankText <;> simp [holdBlanks, blank]
    · rw [List.dropLast_cons_of_ne_nil last, List.forall_mem_cons] at visible
      obtain ⟨visibleHere, visibleLater⟩ := visible
      rw [if_neg (by simp [visibleHere]), List.filter_cons_of_pos (by simp [visibleHere]),
        ih visibleLater]

/-! ## The split without trimming -/

variable {style : QuoteStyle} {token : Pattern}

/-- Where a text is cut depends on the token, its letter case and whether it is kept, and not on
trimming. -/
theorem pieces_congr {first second : SplitOptions}
    (sameToken : first.includeToken = second.includeToken)
    (sameCase : first.tokenCase = second.tokenCase) (text : Text) :
    style.pieces token first text = style.pieces token second text := by
  fun_induction pieces style token first text with
  | case1 => rw [pieces]
  | case2 c rest region found ih => rw [pieces_region found, ih]
  | case3 c rest none matched after found ih =>
    rw [sameCase] at found
    rw [pieces_of_match? none found, ih, sameToken]
  | case4 c rest none unmatched ih =>
    rw [sameCase] at unmatched
    have here := Pattern.not_matchesHead_of_match? unmatched
    rw [pieces_unmatched (not_isQuote_of_region? none) here, ih]

/-- What a trimmed split reports is determined by what the split reports without trimming: each
maximal run of blank segments goes before the segment that follows it, and a run at the end is
dropped. -/
theorem split_trimmed_eq_carryBlanks (style : QuoteStyle) (token text : Text)
    (options : SplitOptions) (nonempty : token ≠ []) :
    ∃ segments, style.split token { options with trimmed := false } text = .ok segments ∧
      style.split token { options with trimmed := true } text = .ok (carryBlanks segments) := by
  have samePieces (trimmed : Bool) :
      style.pieces ⟨token, nonempty⟩ { options with trimmed := trimmed } text =
        style.pieces ⟨token, nonempty⟩ options text := by
    apply pieces_congr
    · rfl
    · rfl
  refine ⟨(style.pieces ⟨token, nonempty⟩ options text).filter (· ≠ []), ?_, ?_⟩
  · rw [split_of_untrimmed style nonempty rfl, samePieces]
  · rw [split_of_ne_nil style nonempty, splitOn, if_pos rfl, samePieces,
      ← holdBlanks_eq_carryBlanks, holdBlanks_filter_ne_nil Text.isBlankText_nil]

/-- The token is blank and is kept, so a blank segment may be the token alone; two in a row go to
the segment behind them, and the one at the end goes nowhere. -/
theorem split_trimmed_eq_carryBlanks_blank_token :
    [' '] ≠ [] ∧
      QuoteStyle.split {} [' '] ⟨true, false, .sensitive⟩ "a   \tb 'c d'  ".toList =
        .ok ["a ".toList, [' '], [' '], "\tb ".toList, "'c d' ".toList, [' ']] ∧
      QuoteStyle.split {} [' '] ⟨true, true, .sensitive⟩ "a   \tb 'c d'  ".toList =
        .ok (carryBlanks ["a ".toList, [' '], [' '], "\tb ".toList, "'c d' ".toList, [' ']]) ∧
      carryBlanks ["a ".toList, [' '], [' '], "\tb ".toList, "'c d' ".toList, [' ']] =
        ["a ".toList, "  \tb ".toList, "'c d' ".toList] := by
  have nonempty : [' '] ≠ [] := by simp
  have pieces : QuoteStyle.splitOn {} ⟨[' '], by simp⟩ ⟨true, false, .sensitive⟩
      "a   \tb 'c d'  ".toList =
        ["a ".toList, [' '], [' '], "\tb ".toList, "'c d' ".toList, [' ']] := by
    decide +kernel
  have untrimmed : QuoteStyle.split {} [' '] ⟨true, false, .sensitive⟩ "a   \tb 'c d'  ".toList =
      .ok ["a ".toList, [' '], [' '], "\tb ".toList, "'c d' ".toList, [' ']] :=
    congrArg Except.ok pieces
  obtain ⟨segments, report, trimmed⟩ := split_trimmed_eq_carryBlanks {} [' ']
    "a   \tb 'c d'  ".toList ⟨true, false, .sensitive⟩ nonempty
  obtain rfl := Except.ok.inj (report.symm.trans untrimmed)
  exact ⟨nonempty, untrimmed, trimmed, by decide +kernel⟩

end QuotedText.QuoteStyle
