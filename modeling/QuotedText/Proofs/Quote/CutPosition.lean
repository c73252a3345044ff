import QuotedText.Proofs.Quote.Partition
import QuotedText.Proofs.Quote.Split

/-!
# Where a split cuts

A cut lies behind a match that starts outside every region. The match itself is not looked at any
further, so a token with a quote in it may run into a region, and from there on the scan is out of
step with the spans. That is the only way in: with the token kept, a cut lies strictly inside a
region only if a piece before it ends with a match that holds a quote behind its first character
(`QuoteStyle.exists_overruns_of_insideRegion`). A token of which only the first character may match
a quote never cuts a region (`QuoteStyle.split_cuts_outside`).
-/

namespace QuotedText.QuoteStyle

variable {style : QuoteStyle} {token : Pattern} {options : SplitOptions}

/-! ## Positions inside regions -/

/-- A byte position lies behind the start and before the end of a region of a text. -/
def InsideRegion (style : QuoteStyle) (text : Text) (position : Nat) : Prop :=
  ∃ span ∈ style.locatedSpans text, span.span.kind ≠ .unquoted ∧
    span.start < position ∧ position < span.stop

/-- A position inside a region is told by the bytes before the region and in it. -/
theorem insideRegion_iff {text : Text} {position : Nat} :
    style.InsideRegion text position ↔
      ∃ before span after, style.spans text = before ++ span :: after ∧ span.kind ≠ .unquoted ∧
        (Span.texts before).byteLength < position ∧
        position < (Span.texts before).byteLength + span.text.byteLength := by
  constructor
  · rintro ⟨span, member, region, behind, ahead⟩
    obtain ⟨before, after, split, startEq, stopEq⟩ := Span.exists_of_mem_located member
    exact ⟨before, span.span, after, split, region, by omega, by omega⟩
  · rintro ⟨before, span, after, split, region, behind, ahead⟩
    have member := Span.mem_located 0 before after span
    rw [← split, Nat.zero_add] at member
    exact ⟨_, member, region, behind, ahead⟩

/-- The start of a text is inside no region. -/
theorem not_insideRegion_zero (text : Text) : ¬style.InsideRegion text 0 := by
  rintro ⟨span, _, _, behind, _⟩
  exact absurd behind (Nat.not_lt_zero span.start)

/-- A position behind the first span is inside a region of what follows this span. -/
theorem InsideRegion.of_first {text rest : Text} {first : Span} {position : Nat}
    (spansEq : style.spans text = first :: style.spans rest)
    (inside : style.InsideRegion text (first.text.byteLength + position)) :
    style.InsideRegion rest position := by
  obtain ⟨before, span, after, split, isRegion, behind, ahead⟩ := insideRegion_iff.mp inside
  rw [spansEq] at split
  cases before with
  | nil =>
    obtain ⟨rfl, -⟩ := List.cons.inj split
    have stop : first.text.byteLength + position < 0 + first.text.byteLength := ahead
    omega
  | cons other before =>
    obtain ⟨rfl, splitRest⟩ := List.cons.inj split
    have bytes : (Span.texts (first :: before)).byteLength =
        first.text.byteLength + (Span.texts before).byteLength := by
      rw [Span.texts_cons, Text.byteLength_append]
    exact insideRegion_iff.mpr ⟨before, span, after, splitRest, isRegion, by omega, by omega⟩

/-- A position behind the first region is inside a region of what follows it. -/
theorem InsideRegion.of_region {text : Text} {region : Region} {position : Nat}
    (found : style.region? text = some region)
    (inside : style.InsideRegion text (region.text.byteLength + position)) :
    style.InsideRegion region.rest position := by
  have spansEq : style.spans text = region.span :: style.spans region.rest := spans_region found
  exact InsideRegion.of_first spansEq inside

/-- A position behind a first character that is no quote is inside a region of what follows it. -/
theorem InsideRegion.of_unquoted {c : Char} {rest : Text} {position : Nat}
    (plain : style.isQuote c = false)
    (inside : style.InsideRegion (c :: rest) (c.utf8Size + position)) :
    style.InsideRegion rest position := by
  have spansEq : style.spans (c :: rest) = Span.consUnquoted c (style.spans rest) :=
    spans_unquoted plain
  rw [Span.consUnquoted.eq_def] at spansEq
  split at spansEq
  · -- The character joins the first span, which stays unquoted and gets longer.
    rename_i text more restEq
    obtain ⟨before, span, after, split, isRegion, behind, ahead⟩ := insideRegion_iff.mp inside
    rw [spansEq] at split
    cases before with
    | nil =>
      obtain ⟨rfl, -⟩ := List.cons.inj split
      contradiction
    | cons first before =>
      obtain ⟨rfl, splitRest⟩ := List.cons.inj split
      have bytes : (Span.texts (⟨.unquoted, c :: text⟩ :: before)).byteLength =
          c.utf8Size + (Span.texts (⟨.unquoted, text⟩ :: before)).byteLength := by
        simp
      have splitTail : style.spans rest = ⟨.unquoted, text⟩ :: before ++ span :: after := by
        rw [restEq, splitRest]
        rfl
      exact insideRegion_iff.mpr ⟨_, span, after, splitTail, isRegion, by omega, by omega⟩
  · have single : (⟨.unquoted, [c]⟩ : Span).text.byteLength = c.utf8Size := by simp
    rw [← single] at inside
    exact inside.of_first spansEq

/-- A position behind unquoted text is inside a region of what follows it. -/
theorem InsideRegion.of_append {text rest : Text} {position : Nat}
    (plain : ∀ c ∈ text, style.isQuote c = false)
    (inside : style.InsideRegion (text ++ rest) (text.byteLength + position)) :
    style.InsideRegion rest position := by
  induction text with
  | nil =>
    rw [Text.byteLength_nil, Nat.zero_add] at inside
    exact inside
  | cons c text ih =>
    rw [Text.byteLength_cons, Nat.add_assoc] at inside
    have insideTail := inside.of_unquoted (plain c List.mem_cons_self)
    exact ih (fun d member => plain d (List.mem_cons_of_mem c member)) insideTail

/-! ## Matches that run over a quote -/

/-- A piece ends with a match of a token that has a quote behind its first character. -/
def Overruns (style : QuoteStyle) (token : Pattern) (tokenCase : LetterCase) (piece : Text) :
    Prop :=
  ∃ before matched, piece = before ++ matched ∧ tokenCase.Agrees matched token.text ∧
    ∃ c ∈ matched.tail, style.isQuote c

/-- What stands before a piece does not change how it ends. -/
theorem Overruns.append {tokenCase : LetterCase} {piece : Text}
    (overruns : style.Overruns token tokenCase piece) (front : Text) :
    style.Overruns token tokenCase (front ++ piece) := by
  obtain ⟨before, matched, rfl, agrees, quote⟩ := overruns
  exact ⟨front ++ before, matched, (List.append_assoc front before matched).symm, agrees, quote⟩

/-- One of some pieces still ends so when the first of them has got text before it. -/
theorem Overruns.exists_append {tokenCase : LetterCase} {first : Text} {front : List Text}
    (text : Text) (found : ∃ piece ∈ first :: front, style.Overruns token tokenCase piece) :
    ∃ piece ∈ (text ++ first) :: front, style.Overruns token tokenCase piece := by
  obtain ⟨piece, member, overruns⟩ := found
  rcases List.mem_cons.mp member with rfl | later
  · exact ⟨text ++ piece, List.mem_cons_self, overruns.append text⟩
  · exact ⟨piece, List.mem_cons_of_mem _ later, overruns⟩

/-- A piece that ends with a match is not empty. -/
theorem Overruns.ne_nil {tokenCase : LetterCase} {piece : Text}
    (overruns : style.Overruns token tokenCase piece) : piece ≠ [] := by
  obtain ⟨before, matched, rfl, agrees, -⟩ := overruns
  exact List.append_ne_nil_of_right_ne_nil before (agrees.ne_nil token.nonempty)

/-- No match runs over a quote when only the first character of the token may match one. -/
theorem not_overruns {tokenCase : LetterCase} {piece : Text}
    (apart : ∀ p ∈ token.text.tail, ∀ c, tokenCase.same c p → style.isQuote c = false) :
    ¬style.Overruns token tokenCase piece := by
  rintro ⟨before, matched, -, agrees, c, member, quote⟩
  have agreesTail : tokenCase.Agrees matched.tail token.text.tail := by
    rw [← List.drop_one, ← List.drop_one]
    exact List.forall₂_drop 1 agrees
  rw [not_isQuote_of_agrees agreesTail apart c member] at quote
  contradiction

/-! ## Cuts -/

/-- A cut inside a region has a piece before it. -/
theorem ne_nil_of_insideRegion {text : Text} {front : List Text}
    (inside : style.InsideRegion text (Text.byteLength front.flatten)) : front ≠ [] := by
  rintro rfl
  exact not_insideRegion_zero text inside

/-- The first of some pieces that have got text before them is that text and the first piece. -/
theorem exists_of_modifyHead_eq (text : Text) {pieces front back : List Text} {piece : Text}
    (nonempty : pieces ≠ [])
    (split : pieces.modifyHead (text ++ ·) = piece :: front ++ back) :
    ∃ first, piece = text ++ first ∧ pieces = first :: front ++ back := by
  obtain ⟨first, more, rfl⟩ := List.exists_cons_of_ne_nil nonempty
  obtain ⟨rfl, rfl⟩ := List.cons.inj split
  exact ⟨first, rfl, rfl⟩

/-- With the token kept, a cut lies inside a region only behind a match that runs over a quote. -/
theorem exists_overruns_of_insideRegion {text : Text} {front back : List Text}
    (kept : options.includeToken = true)
    (split : style.pieces token options text = front ++ back)
    (inside : style.InsideRegion text (Text.byteLength front.flatten)) :
    ∃ piece ∈ front, style.Overruns token options.tokenCase piece := by
  obtain ⟨piece, front, rfl⟩ := List.exists_cons_of_ne_nil (ne_nil_of_insideRegion inside)
  fun_induction pieces style token options text generalizing piece front back with
  | case1 =>
    obtain ⟨span, member, -⟩ := inside
    simp [locatedSpans, Span.located] at member
  | case2 c rest region found ih =>
    obtain ⟨first, rfl, piecesEq⟩ := exists_of_modifyHead_eq _ (pieces_ne_nil _ _ _ _) split
    rw [List.flatten_cons, List.append_assoc, Text.byteLength_append] at inside
    exact Overruns.exists_append region.text (ih first front piecesEq (inside.of_region found))
  | case3 c rest none matched after found ih =>
    rw [if_pos kept] at split
    obtain ⟨rfl, piecesEq⟩ := List.cons.inj split
    obtain ⟨whole, agrees⟩ := LetterCase.match?_eq_some_iff.mp found
    by_cases quote : ∃ d ∈ matched.tail, style.isQuote d
    · exact ⟨matched, List.mem_cons_self, [], matched, rfl, agrees, quote⟩
    · obtain ⟨d, tail, rfl⟩ := List.exists_cons_of_ne_nil (agrees.ne_nil token.nonempty)
      have sameHead : c = d := (List.cons.inj whole).1
      have plain : ∀ e ∈ d :: tail, style.isQuote e = false := by
        rw [List.forall_mem_cons]
        refine ⟨sameHead ▸ not_isQuote_of_region? none, ?_⟩
        intro e member
        by_contra isQuote
        exact quote ⟨e, member, by simpa using isQuote⟩
      rw [whole, List.flatten_cons, Text.byteLength_append] at inside
      have insideAfter := inside.of_append plain
      obtain ⟨piece, front, rfl⟩ := List.exists_cons_of_ne_nil (ne_nil_of_insideRegion insideAfter)
      obtain ⟨found, member, overruns⟩ := ih piece front piecesEq insideAfter
      exact ⟨found, List.mem_cons_of_mem _ member, overruns⟩
  | case4 c rest none _ ih =>
    have plain := not_isQuote_of_region? none
    obtain ⟨first, rfl, piecesEq⟩ :=
      exists_of_modifyHead_eq [c] (pieces_ne_nil _ _ _ _) split
    rw [List.flatten_cons, List.append_assoc, List.singleton_append, Text.byteLength_cons] at inside
    exact Overruns.exists_append [c] (ih first front piecesEq (inside.of_unquoted plain))

/-- With the token kept and nothing trimmed, the segments of a split make up the text. A cut between
two of them lies inside a region only behind a match that runs over a quote, and so never when only
the first character of the token may match a quote. -/
theorem split_cuts_outside (style : QuoteStyle) (token text : Text) (options : SplitOptions)
    (nonempty : token ≠ []) (kept : options.includeToken = true)
    (untrimmed : options.trimmed = false) :
    ∃ segments, style.split token options text = .ok segments ∧ segments.flatten = text ∧
      (∀ front back, segments = front ++ back →
        style.InsideRegion text (Text.byteLength front.flatten) →
        ∃ segment ∈ front, style.Overruns ⟨token, nonempty⟩ options.tokenCase segment) ∧
      ((∀ p ∈ token.tail, ∀ c, options.tokenCase.same c p → style.isQuote c = false) →
        ∀ front back, segments = front ++ back →
          ¬style.InsideRegion text (Text.byteLength front.flatten)) := by
  have isPattern : Pattern.ofText? token = some ⟨token, nonempty⟩ := by
    rw [Pattern.ofText?, dif_pos nonempty]
  have report : style.split token options text =
      .ok ((style.pieces ⟨token, nonempty⟩ options text).filter (· ≠ [])) := by
    rw [split, isPattern]
    simp [splitOn, untrimmed]
  have overruns : ∀ front back,
      (style.pieces ⟨token, nonempty⟩ options text).filter (· ≠ []) = front ++ back →
      style.InsideRegion text (Text.byteLength front.flatten) →
      ∃ segment ∈ front, style.Overruns ⟨token, nonempty⟩ options.tokenCase segment := by
    intro front back split inside
    obtain ⟨pieces, more, piecesEq, rfl, rfl⟩ := List.filter_eq_append_iff.mp split
    rw [List.flatten_filter_ne_nil] at inside
    obtain ⟨piece, member, overruns⟩ := exists_overruns_of_insideRegion kept piecesEq inside
    exact ⟨piece, List.mem_filter.mpr ⟨member, by simpa using overruns.ne_nil⟩, overruns⟩
  refine ⟨_, report, ?_, overruns, ?_⟩
  · rw [List.flatten_filter_ne_nil, pieces_flatten style _ kept]
  · intro apart front back split inside
    obtain ⟨segment, -, overrun⟩ := overruns front back split inside
    exact not_overruns apart overrun

/-- The token in the region is no cut, and both cuts outside are behind whole matches. -/
theorem split_cuts_outside_twice :
    [';', ';'] ≠ [] ∧ (⟨true, false, .sensitive⟩ : SplitOptions).includeToken = true ∧
      (⟨true, false, .sensitive⟩ : SplitOptions).trimmed = false ∧
      QuoteStyle.split {} [';', ';'] ⟨true, false, .sensitive⟩ "x;;';;'y;;z".toList =
        .ok ["x;;".toList, "';;'y;;".toList, "z".toList] ∧
      ∀ front back, ["x;;".toList, "';;'y;;".toList, "z".toList] = front ++ back →
        ¬QuoteStyle.InsideRegion {} "x;;';;'y;;z".toList (Text.byteLength front.flatten) := by
  have nonempty : [';', ';'] ≠ [] := by simp
  have found : QuoteStyle.split {} [';', ';'] ⟨true, false, .sensitive⟩ "x;;';;'y;;z".toList =
      .ok ["x;;".toList, "';;'y;;".toList, "z".toList] := by
    have pieces : QuoteStyle.splitOn {} ⟨[';', ';'], by simp⟩ ⟨true, false, .sensitive⟩
        "x;;';;'y;;z".toList = ["x;;".toList, "';;'y;;".toList, "z".toList] := by
      decide +kernel
    exact congrArg Except.ok pieces
  obtain ⟨segments, report, -, -, outside⟩ :=
    split_cuts_outside {} [';', ';'] "x;;';;'y;;z".toList ⟨true, false, .sensitive⟩ nonempty rfl rfl
  obtain rfl := Except.ok.inj (report.symm.trans found)
  refine ⟨nonempty, rfl, rfl, found, outside ?_⟩
  intro p member c same
  obtain rfl : c = p := by simpa using same
  obtain rfl : c = ';' := by simpa using member
  decide

/-- A token that ends with a quote cuts the region that the quote opens. -/
theorem split_cuts_inside :
    ∃ front back, QuoteStyle.split {} [';', '\''] ⟨true, false, .sensitive⟩ "x;'a'".toList =
        .ok (front ++ back) ∧ front ≠ [] ∧ back ≠ [] ∧
      QuoteStyle.InsideRegion {} "x;'a'".toList (Text.byteLength front.flatten) := by
  have pieces : QuoteStyle.splitOn {} ⟨[';', '\''], by simp⟩ ⟨true, false, .sensitive⟩
      "x;'a'".toList = ["x;'".toList] ++ ["a'".toList] := by
    decide +kernel
  have located : ⟨2, 5, ⟨.quoted, "'a'".toList⟩⟩ ∈ QuoteStyle.locatedSpans {} "x;'a'".toList := by
    decide +kernel
  exact ⟨["x;'".toList], ["a'".toList], congrArg Except.ok pieces, by simp, by simp, _, located,
    by simp, by decide, by decide⟩

end QuotedText.QuoteStyle
