import QuotedText.Proofs.Quote.Hold
import QuotedText.Proofs.Sql.Region
import QuotedText.Proofs.Text.Trim

/-!
# Values in scripts

A script with a place for a value is the text before the place and the text behind it. When the
place lies outside quotes, a literal that is put there is a region of its own, so it joins the last
piece before the place to the first piece behind it (`Sql.pieces_quoteValue`) and does nothing to
the others. Which value it is makes no difference to the statements around the one that holds it
(`Sql.statements_quoteValue`).
-/

namespace QuotedText

namespace Sql

open QuoteStyle

/-- A piece with a character other than blanks and semicolons is a statement. -/
theorem isVacant_eq_false {piece : Text} {c : Char} (member : c ∈ piece)
    (visible : isBlank c = false) (other : c ≠ ';') : isVacant piece = false := by
  have stays : (c == ';') = false := by simpa using other
  exact Text.isBlankText_eq_false (Text.mem_dropEndWhile member stays) visible

/-- A literal has a quote. -/
theorem quote_mem_quoteValue (value : Text) : '\'' ∈ quoteValue value :=
  List.mem_cons_self

/-- A literal is one piece. -/
theorem pieces_quoteValue_self (value : Text) (options : SplitOptions) :
    QuoteStyle.sql.pieces terminator options (quoteValue value) = [quoteValue value] := by
  rw [pieces_eq_cutSpans (terminator_apart options.tokenCase), spans_quoteValue]
  simp [cutSpans, glue]

/-- Outside quotes, a literal joins the last piece before it to the first piece behind it. -/
theorem pieces_quoteValue {pre post : Text} (options : SplitOptions)
    (closed : ∀ span ∈ QuoteStyle.sql.spans pre, span.kind ≠ .unterminated)
    (apartBefore : pre.getLast? ≠ some '\'') (apartBehind : post.head? ≠ some '\'')
    (value : Text) :
    QuoteStyle.sql.pieces terminator options (pre ++ (quoteValue value ++ post)) =
      glue (QuoteStyle.sql.pieces terminator options pre)
        (glue [quoteValue value] (QuoteStyle.sql.pieces terminator options post)) := by
  have apart := terminator_apart options.tokenCase
  have seamBehind : QuoteStyle.sql.Seam (QuoteStyle.sql.spans (quoteValue value))
      (QuoteStyle.sql.spans post) := by
    rw [spans_quoteValue]
    rintro last isLast
    obtain rfl : ⟨.quoted, quoteValue value⟩ = last := Option.some.inj isLast
    intro opener isOpener _ c isNext
    obtain rfl : '\'' = opener := Option.some.inj isOpener
    rw [spans_flatten] at isNext
    refine not_closes_sql ?_
    rintro rfl
    exact apartBehind isNext
  have seamBefore : QuoteStyle.sql.Seam (QuoteStyle.sql.spans pre)
      (QuoteStyle.sql.spans (quoteValue value ++ post)) := by
    refine seam_of_quote closed ?_ ?_
    · intro q isNext
      obtain rfl : '\'' = q := Option.some.inj isNext
      exact isQuote_sql.mpr (.inl rfl)
    · intro q isNext c isLast
      obtain rfl : '\'' = q := Option.some.inj isNext
      refine not_closes_sql ?_
      rintro rfl
      exact apartBefore isLast
  rw [pieces_append apart seamBefore, pieces_append apart seamBehind,
    pieces_quoteValue_self value options]

/-- Outside quotes, the statements around the one that holds a value do not depend on the value,
and neither does the text that this statement has before the value and behind it. -/
theorem statements_quoteValue (pre post : Text)
    (closed : ∀ span ∈ QuoteStyle.sql.spans pre, span.kind ≠ .unterminated)
    (apartBefore : pre.getLast? ≠ some '\'') (apartBehind : post.head? ≠ some '\'') :
    ∃ before after front back, front <:+ pre ∧ back <+: post ∧
      ∀ value, statements (pre ++ quoteValue value ++ post) =
        before ++ [front ++ quoteValue value ++ back] ++ after := by
  have kept : ({ includeToken := true } : SplitOptions).includeToken = true := rfl
  have preFlat := pieces_flatten QuoteStyle.sql terminator kept pre
  have postFlat := pieces_flatten QuoteStyle.sql terminator kept post
  -- The value goes between the last piece before it and the first piece behind it.
  obtain ⟨earlier, last, preSplit⟩ := (List.eq_nil_or_concat' _).resolve_left
    (pieces_ne_nil QuoteStyle.sql terminator { includeToken := true } pre)
  obtain ⟨next, following, postSplit⟩ := List.exists_cons_of_ne_nil
    (pieces_ne_nil QuoteStyle.sql terminator { includeToken := true } post)
  obtain ⟨segments, waiting, whole, reports⟩ := exists_holdBlanks_visible earlier
  refine ⟨segments.filter (!isVacant ·), (holdBlanks [] following).filter (!isVacant ·),
    waiting ++ last, next, ?_, ?_, ?_⟩
  · refine ⟨segments.flatten, ?_⟩
    rw [← List.append_assoc, whole, ← preFlat, preSplit]
    simp
  · refine ⟨following.flatten, ?_⟩
    rw [← postFlat, postSplit, List.flatten_cons]
  · intro value
    have quote : '\'' ∈ last ++ (quoteValue value ++ next) := by
      simp [quote_mem_quoteValue]
    have visible : isBlank '\'' = false := by decide
    have pieces : QuoteStyle.sql.pieces terminator { includeToken := true }
        (pre ++ quoteValue value ++ post) =
          earlier ++ (last ++ (quoteValue value ++ next)) :: following := by
      rw [List.append_assoc, pieces_quoteValue _ closed apartBefore apartBehind, preSplit,
        postSplit]
      exact glue_concat earlier following last (quoteValue value ++ next)
    have segmentsEq : QuoteStyle.sql.splitOn terminator { includeToken := true }
        (pre ++ quoteValue value ++ post) =
          segments ++ (waiting ++ (last ++ (quoteValue value ++ next))) ::
            holdBlanks [] following := by
      change holdBlanks [] (QuoteStyle.sql.pieces terminator { includeToken := true } _) = _
      rw [pieces, reports _ _ (Text.isBlankText_eq_false quote visible)]
    have statement : isVacant (waiting ++ (last ++ (quoteValue value ++ next))) = false :=
      isVacant_eq_false (List.mem_append_right waiting quote) visible (by decide)
    rw [statements, segmentsEq, List.filter_append, List.filter_cons_of_pos (by simp [statement])]
    simp

/-- A value that closes its literal and ends the statement in vain stays in the second statement,
which reaches from the semicolon before the place of the value to the one behind it. -/
theorem statements_quoteValue_hostile :
    (∀ span ∈ QuoteStyle.sql.spans "GO;\nINSERT \x60a;b\x60".toList, span.kind ≠ .unterminated) ∧
      "GO;\nINSERT \x60a;b\x60".toList.getLast? ≠ some '\'' ∧
      ", 'x;y'; END".toList.head? ≠ some '\'' ∧
      statements ("GO;\nINSERT \x60a;b\x60".toList ++ quoteValue "'; DROP".toList ++
          ", 'x;y'; END".toList) =
        ["GO;".toList, "\nINSERT \x60a;b\x60'''\\; DROP', 'x;y';".toList, " END".toList] ∧
      ∃ before after front back, front <:+ "GO;\nINSERT \x60a;b\x60".toList ∧
        back <+: ", 'x;y'; END".toList ∧
        ∀ value, statements ("GO;\nINSERT \x60a;b\x60".toList ++ quoteValue value ++
            ", 'x;y'; END".toList) =
          before ++ [front ++ quoteValue value ++ back] ++ after := by
  have closed : ∀ span ∈ QuoteStyle.sql.spans "GO;\nINSERT \x60a;b\x60".toList,
      span.kind ≠ .unterminated := by
    decide +kernel
  have apartBefore : "GO;\nINSERT \x60a;b\x60".toList.getLast? ≠ some '\'' := by decide
  have apartBehind : ", 'x;y'; END".toList.head? ≠ some '\'' := by decide
  exact ⟨closed, apartBefore, apartBehind, by decide +kernel,
    statements_quoteValue _ _ closed apartBefore apartBehind⟩

end Sql

end QuotedText
