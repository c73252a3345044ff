import QuotedText.Quote.Split

/-!
# Held blanks

A trimmed split goes through its pieces and holds blank text back until a piece comes that is not
blank. What has been held is all that it remembers of the pieces before
(`QuoteStyle.exists_holdBlanks_append`), and each reported segment is one piece with held blanks
before it (`QuoteStyle.exists_of_mem_holdBlanks`). So a split that keeps its token loses nothing but
blanks at the end of the text, and these only when it is trimmed
(`QuoteStyle.split_loses_blanks_only`).
-/

namespace QuotedText.QuoteStyle

/-- A piece that makes the held text more than blanks is reported with it. -/
theorem holdBlanks_report {held piece : Text} (more : List Text)
    (visible : (held ++ piece).isBlankText = false) :
    holdBlanks held (piece :: more) = (held ++ piece) :: holdBlanks [] more := by
  rw [holdBlanks, if_neg (by simp [visible])]

/-- A piece that adds blanks to held blanks is held with them. -/
theorem holdBlanks_hold {held piece : Text} (more : List Text)
    (blank : (held ++ piece).isBlankText = true) :
    holdBlanks held (piece :: more) = holdBlanks (held ++ piece) more := by
  rw [holdBlanks, if_pos blank]

/-- No reported segment is blank. -/
theorem not_isBlankText_of_mem_holdBlanks {held segment : Text} {pieces : List Text}
    (member : segment ∈ holdBlanks held pieces) : segment.isBlankText = false := by
  fun_induction holdBlanks held pieces with
  | case1 => contradiction
  | case2 held piece more _ ih => exact ih member
  | case3 held piece more visible ih =>
    rcases List.mem_cons.mp member with rfl | later
    · exact Bool.eq_false_iff.mpr visible
    · exact ih later

/-- Behind some pieces a trimmed split goes on with blank text that waits for the next piece. With
that text, what the pieces have reported is all of them. -/
theorem exists_holdBlanks_append {held : Text} (blank : held.isBlankText = true)
    (pieces : List Text) :
    ∃ waiting : Text, waiting.isBlankText = true ∧
      (holdBlanks held pieces).flatten ++ waiting = held ++ pieces.flatten ∧
      ∀ more, holdBlanks held (pieces ++ more) =
        holdBlanks held pieces ++ holdBlanks waiting more := by
  induction pieces generalizing held with
  | nil => exact ⟨held, blank, by simp [holdBlanks], fun more => rfl⟩
  | cons piece pieces ih =>
    cases blankPiece : (held ++ piece).isBlankText with
    | true =>
      obtain ⟨waiting, blankWaiting, whole, goesOn⟩ := ih blankPiece
      refine ⟨waiting, blankWaiting, ?_, ?_⟩
      · rw [holdBlanks_hold _ blankPiece, whole, List.flatten_cons, List.append_assoc]
      · intro more
        rw [List.cons_append, holdBlanks_hold _ blankPiece, holdBlanks_hold _ blankPiece, goesOn]
    | false =>
      obtain ⟨waiting, blankWaiting, whole, goesOn⟩ := ih Text.isBlankText_nil
      refine ⟨waiting, blankWaiting, ?_, ?_⟩
      · rw [holdBlanks_report _ blankPiece, List.flatten_cons, List.append_assoc, whole]
        simp
      · intro more
        rw [List.cons_append, holdBlanks_report _ blankPiece, holdBlanks_report _ blankPiece,
          goesOn, List.cons_append]

/-- A piece that is not blank is reported with the text held before it, between segments that do not
depend on it. -/
theorem exists_holdBlanks_visible (earlier : List Text) :
    ∃ segments waiting, segments.flatten ++ waiting = earlier.flatten ∧
      ∀ (piece : Text) (following : List Text), piece.isBlankText = false →
        holdBlanks [] (earlier ++ piece :: following) =
          segments ++ (waiting ++ piece) :: holdBlanks [] following := by
  obtain ⟨waiting, -, whole, goesOn⟩ := exists_holdBlanks_append Text.isBlankText_nil earlier
  refine ⟨holdBlanks [] earlier, waiting, whole, ?_⟩
  intro piece following visible
  have visibleWhole : (waiting ++ piece).isBlankText = false := by
    rw [Text.isBlankText_append, visible, Bool.and_false]
  rw [goesOn, holdBlanks_report following visibleWhole]

/-- A segment is a piece with held blanks before it. -/
theorem exists_of_mem_holdBlanks {held segment : Text} {pieces : List Text}
    (blank : held.isBlankText = true) (member : segment ∈ holdBlanks held pieces) :
    ∃ front, ∃ piece ∈ pieces, segment = front ++ piece ∧ front.isBlankText = true := by
  induction pieces generalizing held with
  | nil => contradiction
  | cons piece pieces ih =>
    cases blankPiece : (held ++ piece).isBlankText with
    | true =>
      rw [holdBlanks_hold _ blankPiece] at member
      obtain ⟨front, later, isPiece, segmentEq, blankFront⟩ := ih blankPiece member
      exact ⟨front, later, List.mem_cons_of_mem piece isPiece, segmentEq, blankFront⟩
    | false =>
      rw [holdBlanks_report _ blankPiece] at member
      rcases List.mem_cons.mp member with rfl | laterMember
      · exact ⟨held, piece, List.mem_cons_self, rfl, blank⟩
      · obtain ⟨front, later, isPiece, segmentEq, blankFront⟩ := ih Text.isBlankText_nil laterMember
        exact ⟨front, later, List.mem_cons_of_mem piece isPiece, segmentEq, blankFront⟩

/-- With the token kept, the segments of a split and a blank rest make up the text. Without trimming
there is no rest and no segment is empty; with trimming no segment is blank. -/
theorem split_loses_blanks_only (style : QuoteStyle) (token text : Text) (options : SplitOptions)
    (nonempty : token ≠ []) (kept : options.includeToken = true) :
    ∃ segments rest, style.split token options text = .ok segments ∧
      text = segments.flatten ++ rest ∧
      (options.trimmed = false → rest = []) ∧
      (options.trimmed = true → ∀ c ∈ rest, isBlank c = true) ∧
      ∀ segment ∈ segments,
        segment ≠ [] ∧ (options.trimmed = true → ∃ c ∈ segment, isBlank c = false) := by
  have whole := pieces_flatten style ⟨token, nonempty⟩ kept text
  rw [split_of_ne_nil style nonempty]
  by_cases trimmed : options.trimmed = true
  · have report : style.splitOn ⟨token, nonempty⟩ options text =
        holdBlanks [] (style.pieces ⟨token, nonempty⟩ options text) := if_pos trimmed
    have nothing : Text.isBlankText [] = true := rfl
    obtain ⟨waiting, blank, flat, -⟩ :=
      exists_holdBlanks_append nothing (style.pieces ⟨token, nonempty⟩ options text)
    rw [report]
    refine ⟨_, waiting, rfl, ?_, ?_, fun _ => List.all_eq_true.mp blank, ?_⟩
    · rw [flat, whole, List.nil_append]
    · intro untrimmed
      simp [trimmed] at untrimmed
    · intro segment member
      have visible := not_isBlankText_of_mem_holdBlanks member
      have something : segment ≠ [] := by
        rintro rfl
        simp [nothing] at visible
      have found : ∃ c ∈ segment, isBlank c = false := by simpa [Text.isBlankText] using visible
      exact ⟨something, fun _ => found⟩
  · have report : style.splitOn ⟨token, nonempty⟩ options text =
        (style.pieces ⟨token, nonempty⟩ options text).filter (· ≠ []) := if_neg trimmed
    rw [report]
    refine ⟨_, [], rfl, ?_, fun _ => rfl, fun isTrimmed => absurd isTrimmed trimmed, ?_⟩
    · rw [List.append_nil, List.flatten_filter_ne_nil, whole]
    · intro segment member
      have something : segment ≠ [] := by simpa using (List.mem_filter.mp member).2
      exact ⟨something, fun isTrimmed => absurd isTrimmed trimmed⟩

/-- A long s matches the token, which has one byte less, so the first segment ends there; the blank
piece behind it waits for the next piece, and the blanks at the end are no segment. -/
theorem split_loses_blanks_only_long_s :
    ['s', ','] ≠ [] ∧ (⟨true, true, .insensitive⟩ : SplitOptions).includeToken = true ∧
      QuoteStyle.split {} ['s', ','] ⟨true, true, .insensitive⟩ "aſ,\u2003's,'S, \t".toList =
        .ok ["aſ,".toList, "\u2003's,'S,".toList] ∧
      ∃ segments rest, QuoteStyle.split {} ['s', ','] ⟨true, true, .insensitive⟩
          "aſ,\u2003's,'S, \t".toList = .ok segments ∧
        "aſ,\u2003's,'S, \t".toList = segments.flatten ++ rest ∧
        (∀ c ∈ rest, isBlank c = true) ∧
        ∀ segment ∈ segments, segment ≠ [] ∧ ∃ c ∈ segment, isBlank c = false := by
  have nonempty : ['s', ','] ≠ [] := by simp
  have pieces : QuoteStyle.splitOn {} ⟨['s', ','], by simp⟩ ⟨true, true, .insensitive⟩
      "aſ,\u2003's,'S, \t".toList = ["aſ,".toList, "\u2003's,'S,".toList] := by
    decide +kernel
  obtain ⟨segments, rest, report, whole, -, blank, visible⟩ := split_loses_blanks_only {} ['s', ',']
    "aſ,\u2003's,'S, \t".toList ⟨true, true, .insensitive⟩ nonempty rfl
  refine ⟨nonempty, rfl, congrArg Except.ok pieces, segments, rest, report, whole, blank rfl, ?_⟩
  intro segment member
  exact ⟨(visible segment member).1, (visible segment member).2 rfl⟩

end QuotedText.QuoteStyle
