import QuotedText.Proofs.Quote.Prefix

/-!
# Pieces that are split again

With the token kept, a piece that another follows ends with a match, so it is cut off whatever is
put behind it (`QuoteStyle.complete_of_pieces_eq_cons`): no region is open at its end, and no match
that starts in it needs more text than it has. Pieces of a text that are joined again are therefore
cut at the old places, also when some have been left out (`QuoteStyle.pieces_flatten_of_sublist`),
and any run of segments is split into itself (`QuoteStyle.split_flatten_of_infix`).
-/

namespace QuotedText.QuoteStyle

variable {style : QuoteStyle} {token : Pattern} {options : SplitOptions}

/-- A piece is complete when a split cuts it off, whatever follows. -/
def Complete (style : QuoteStyle) (token : Pattern) (options : SplitOptions) (piece : Text) :
    Prop :=
  ∀ rest, style.pieces token options (piece ++ rest) = piece :: style.pieces token options rest

/-- With the token kept, a piece that another follows is as long as the token at least. -/
theorem length_le_of_pieces_eq_cons {text piece : Text} {more : List Text}
    (kept : options.includeToken = true)
    (split : style.pieces token options text = piece :: more) (later : more ≠ []) :
    token.text.length ≤ piece.length := by
  obtain ⟨front, matched, rest, -, pieceEq, agrees, -, -⟩ := exists_of_pieces_eq_cons split later
  have sameLength : matched.length = token.text.length := agrees.length_eq
  rw [pieceEq, if_pos kept, List.length_append]
  omega

/-- With the token kept, a piece that another follows is complete. -/
theorem complete_of_pieces_eq_cons {text piece : Text} {more : List Text}
    (kept : options.includeToken = true)
    (split : style.pieces token options text = piece :: more) (later : more ≠ []) :
    style.Complete token options piece := by
  intro other
  fun_induction pieces style token options text generalizing piece with
  | case1 =>
    obtain ⟨-, rfl⟩ := List.cons.inj split
    contradiction
  | case2 c rest region found ih =>
    obtain ⟨head, tail, piecesEq⟩ := List.exists_cons_of_ne_nil
      (pieces_ne_nil style token options region.rest)
    have long := length_le_of_pieces_eq_cons kept piecesEq
    have whole := pieces_flatten style token kept region.rest
    rw [piecesEq] at ih split whole
    obtain ⟨rfl, rfl⟩ := List.cons.inj split
    -- The region ends where it did, as it looks no further than to the first character of `head`.
    have something : head ≠ [] := by
      rintro rfl
      exact token.nonempty (List.length_eq_zero_iff.mp (Nat.le_zero.mp (long later)))
    have sameHead : ∀ d ∈ (head ++ other).head?, d ∈ region.rest.head? := by
      intro d isHead
      rw [← whole, List.flatten_cons, List.head?_append_of_ne_nil head something]
      rwa [List.head?_append_of_ne_nil head something] at isHead
    have read := region?_of_head found sameHead
    rw [List.append_assoc, pieces_region read]
    simp only [ih rfl, List.modifyHead_cons]
  | case3 c rest none matched after found ih =>
    obtain ⟨rfl, rfl⟩ := List.cons.inj split
    obtain ⟨-, agrees⟩ := LetterCase.match?_eq_some_iff.mp found
    have plain := not_isQuote_head_of_match? none found
    rw [if_pos kept, pieces_match agrees plain, if_pos kept]
  | case4 c rest none unmatched ih =>
    obtain ⟨head, tail, piecesEq⟩ := List.exists_cons_of_ne_nil
      (pieces_ne_nil style token options rest)
    have long := length_le_of_pieces_eq_cons kept piecesEq
    have whole := pieces_flatten style token kept rest
    rw [piecesEq] at ih split whole
    obtain ⟨rfl, rfl⟩ := List.cons.inj split
    -- A match here would lie in this piece, and so it would have been found before.
    have unmatchedPiece : ¬options.tokenCase.MatchesHead token.text (c :: head) := by
      intro early
      refine Pattern.not_matchesHead_of_match? unmatched ?_
      rw [← whole, List.flatten_cons, ← List.cons_append]
      exact early.append tail.flatten
    have here : ¬options.tokenCase.MatchesHead token.text (c :: head ++ other) := by
      intro late
      have short : (c :: head).length < token.text.length := late.length_lt unmatchedPiece
      have enough : token.text.length ≤ head.length := long later
      rw [List.length_cons] at short
      omega
    rw [List.cons_append] at here ⊢
    rw [pieces_unmatched (not_isQuote_of_region? none) here, ih rfl, List.modifyHead_cons]

/-- With the token kept, the pieces behind the first are those of the text that they make up. -/
theorem pieces_flatten_of_pieces_eq_cons {text piece : Text} {more : List Text}
    (kept : options.includeToken = true)
    (split : style.pieces token options text = piece :: more) (later : more ≠ []) :
    style.pieces token options more.flatten = more := by
  have whole := pieces_flatten style token kept text
  have cut := complete_of_pieces_eq_cons kept split later more.flatten
  rw [split, List.flatten_cons] at whole
  rw [whole, split] at cut
  exact (List.cons.inj cut).2.symm

/-- With the token kept, every piece that another follows is complete. -/
theorem complete_of_mem_dropLast {text piece : Text} (kept : options.includeToken = true)
    (followed : piece ∈ (style.pieces token options text).dropLast) :
    style.Complete token options piece := by
  induction split : style.pieces token options text generalizing text with
  | nil => exact absurd split (pieces_ne_nil style token options text)
  | cons first more ih =>
    rw [split] at followed
    by_cases last : more = []
    · rw [last] at followed
      contradiction
    · rw [List.dropLast_cons_of_ne_nil last] at followed
      rcases List.mem_cons.mp followed with rfl | later
      · exact complete_of_pieces_eq_cons kept split last
      · have rest := pieces_flatten_of_pieces_eq_cons kept split last
        exact ih (rest.symm ▸ later) rest

/-- With the token kept, the beginning of a text that is one piece is one piece. -/
theorem pieces_eq_singleton_of_append {text more : Text} (kept : options.includeToken = true)
    (one : style.pieces token options (text ++ more) = [text ++ more]) :
    style.pieces token options text = [text] := by
  obtain ⟨piece, later, split⟩ := List.exists_cons_of_ne_nil
    (pieces_ne_nil style token options text)
  have whole := pieces_flatten style token kept text
  rw [split, List.flatten_cons] at whole
  by_cases last : later = []
  · rw [last, List.flatten_nil, List.append_nil] at whole
    rw [split, last, whole]
  · have complete := complete_of_pieces_eq_cons kept split last
    rw [← whole, List.append_assoc, complete] at one
    exact absurd (List.cons.inj one).2 (pieces_ne_nil _ _ _ _)

/-- With the token kept, some pieces of a text, joined in order, are cut into themselves; when the
last piece of the text is not among them, there is an empty one behind them. -/
theorem pieces_flatten_of_sublist {text : Text} {selection : List Text}
    (kept : options.includeToken = true)
    (selected : selection.Sublist (style.pieces token options text)) :
    style.pieces token options selection.flatten = selection ∨
      style.pieces token options selection.flatten = selection ++ [[]] := by
  induction split : style.pieces token options text generalizing text selection with
  | nil => exact absurd split (pieces_ne_nil style token options text)
  | cons piece more ih =>
    rw [split] at selected
    by_cases last : more = []
    · have whole := pieces_flatten style token kept text
      rw [split, last, List.flatten_singleton] at whole
      rw [last] at selected split
      rcases List.sublist_singleton.mp selected with rfl | rfl
      · exact .inr (by rw [List.flatten_nil, pieces, List.nil_append])
      · exact .inl (by rw [List.flatten_singleton, whole, split, whole])
    · have rest := pieces_flatten_of_pieces_eq_cons kept split last
      rcases List.sublist_cons_iff.mp selected with skipped | ⟨selection, rfl, selectedLater⟩
      · exact ih (rest.symm ▸ skipped) rest
      · have complete := complete_of_pieces_eq_cons kept split last
        rw [List.flatten_cons, complete]
        rcases ih (rest.symm ▸ selectedLater) rest with same | ended
        · exact .inl (by rw [same])
        · exact .inr (by rw [ended, List.cons_append])

/-- With the token kept and nothing trimmed, any run of the segments of a split is split into
itself. -/
theorem split_flatten_of_infix (style : QuoteStyle) (token text : Text) (options : SplitOptions)
    (nonempty : token ≠ []) (kept : options.includeToken = true)
    (untrimmed : options.trimmed = false) :
    ∃ segments, style.split token options text = .ok segments ∧
      ∀ run, run <:+: segments → style.split token options run.flatten = .ok run := by
  refine ⟨_, split_of_untrimmed style nonempty untrimmed text, ?_⟩
  intro run isRun
  have selected : run.Sublist (style.pieces ⟨token, nonempty⟩ options text) :=
    isRun.sublist.trans List.filter_sublist
  have visible : run.filter (· ≠ []) = run := by
    rw [List.filter_eq_self]
    intro segment member
    exact (List.mem_filter.mp (isRun.mem member)).2
  rw [split_of_untrimmed style nonempty untrimmed]
  rcases pieces_flatten_of_sublist kept selected with same | ended
  · rw [same, visible]
  · rw [ended, List.filter_append, visible]
    simp

/-- The token has a quote, so the cuts are out of step with the regions of the text; still the
segments between them are cut as before. -/
theorem split_flatten_of_infix_quote_token :
    [';', '\''] ≠ [] ∧ (⟨true, false, .sensitive⟩ : SplitOptions).includeToken = true ∧
      (⟨true, false, .sensitive⟩ : SplitOptions).trimmed = false ∧
      QuoteStyle.split {} [';', '\''] ⟨true, false, .sensitive⟩ "x;'a'';'y;'z'".toList =
        .ok ["x;'".toList, "a'';'".toList, "y;'".toList, "z'".toList] ∧
      ["a'';'".toList, "y;'".toList] <:+:
        ["x;'".toList, "a'';'".toList, "y;'".toList, "z'".toList] ∧
      QuoteStyle.split {} [';', '\''] ⟨true, false, .sensitive⟩
        ["a'';'".toList, "y;'".toList].flatten = .ok ["a'';'".toList, "y;'".toList] := by
  have nonempty : [';', '\''] ≠ [] := by simp
  have pieces : QuoteStyle.splitOn {} ⟨[';', '\''], by simp⟩ ⟨true, false, .sensitive⟩
      "x;'a'';'y;'z'".toList = ["x;'".toList, "a'';'".toList, "y;'".toList, "z'".toList] := by
    decide +kernel
  have found : QuoteStyle.split {} [';', '\''] ⟨true, false, .sensitive⟩ "x;'a'';'y;'z'".toList =
      .ok ["x;'".toList, "a'';'".toList, "y;'".toList, "z'".toList] :=
    congrArg Except.ok pieces
  obtain ⟨segments, report, runs⟩ := split_flatten_of_infix {} [';', '\''] "x;'a'';'y;'z'".toList
    ⟨true, false, .sensitive⟩ nonempty rfl rfl
  obtain rfl := Except.ok.inj (report.symm.trans found)
  have isRun : ["a'';'".toList, "y;'".toList] <:+:
      ["x;'".toList, "a'';'".toList, "y;'".toList, "z'".toList] :=
    ⟨["x;'".toList], ["z'".toList], rfl⟩
  exact ⟨nonempty, rfl, rfl, found, isRun, runs _ isRun⟩

end QuotedText.QuoteStyle
