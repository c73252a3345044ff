import QuotedText.Proofs.Quote.Cut
import QuotedText.Proofs.Quote.Pattern
import QuotedText.Quote.Split

/-!
# Cutting span by span

A split scans a text from end to end. When its token matches no quote, the same pieces come from
the spans of the text (`QuoteStyle.split_eq_cutSpans`): each unquoted span is cut by itself at the
leftmost matches (`Pattern.firstMatch?_eq_some`), no region is cut, and what lies between two cuts
is one piece, whatever spans it runs through.
-/

namespace QuotedText

namespace Pattern

/-- The first place where a pattern matches in a text: what comes before the match, the match and
what follows it. -/
def firstMatch? (pattern : Pattern) (letterCase : LetterCase) : Text → Option (Text × Text × Text)
  | [] => none
  | c :: rest =>
    match pattern.match? letterCase (c :: rest) with
    | some (matched, after) => some ([], matched, after)
    | none =>
      (firstMatch? pattern letterCase rest).map fun (before, matched, after) =>
        (c :: before, matched, after)

variable {pattern : Pattern} {letterCase : LetterCase}

/-- A pattern is read at the head of a text or does not match there. -/
theorem not_matchesHead_of_match? {text : Text} (none : pattern.match? letterCase text = none) :
    ¬letterCase.MatchesHead pattern.text text := by
  rw [← LetterCase.isSome_match?_iff, ← Pattern.match?, none]
  simp

/-- The first match is a match, and there is none at an earlier character. -/
theorem firstMatch?_eq_some {text before matched after : Text}
    (found : pattern.firstMatch? letterCase text = some (before, matched, after)) :
    text = before ++ (matched ++ after) ∧ letterCase.Agrees matched pattern.text ∧
      ∀ front back, before = front ++ back → back ≠ [] →
        ¬letterCase.MatchesHead pattern.text (back ++ (matched ++ after)) := by
  induction text generalizing before with
  | nil => contradiction
  | cons c rest ih =>
    rw [firstMatch?] at found
    split at found
    · rename_i matched' after' here
      obtain ⟨rfl, rfl, rfl⟩ : [] = before ∧ matched' = matched ∧ after' = after := by
        simpa using found
      obtain ⟨whole, agrees⟩ := LetterCase.match?_eq_some_iff.mp here
      refine ⟨whole, agrees, ?_⟩
      intro front back split nonempty
      obtain ⟨rfl, rfl⟩ := List.nil_eq_append_iff.mp split
      contradiction
    · rename_i none
      obtain ⟨⟨before', matched', after'⟩, later, equal⟩ := Option.map_eq_some_iff.mp found
      obtain ⟨rfl, rfl, rfl⟩ : c :: before' = before ∧ matched' = matched ∧ after' = after := by
        simpa using equal
      obtain ⟨rfl, agrees, first⟩ := ih later
      refine ⟨rfl, agrees, ?_⟩
      intro front back split nonempty
      rcases List.cons_eq_append_iff.mp split with ⟨rfl, rfl⟩ | ⟨front', rfl, rfl⟩
      · exact not_matchesHead_of_match? none
      · exact first front' back rfl nonempty

/-- Without a first match there is no match. -/
theorem firstMatch?_eq_none {text : Text} (none : pattern.firstMatch? letterCase text = none) :
    ∀ front back, text = front ++ back → back ≠ [] →
      ¬letterCase.MatchesHead pattern.text back := by
  induction text with
  | nil =>
    intro front back split nonempty
    obtain ⟨rfl, rfl⟩ := List.nil_eq_append_iff.mp split
    contradiction
  | cons c rest ih =>
    rw [firstMatch?] at none
    split at none
    · contradiction
    · rename_i here
      intro front back split nonempty
      rcases List.cons_eq_append_iff.mp split with ⟨rfl, rfl⟩ | ⟨front', rfl, rfl⟩
      · exact not_matchesHead_of_match? here
      · exact ih (Option.map_eq_none_iff.mp none) front' back rfl nonempty

/-- What follows the first match is shorter than the text. -/
theorem firstMatch?_shorter {text before matched after : Text}
    (found : pattern.firstMatch? letterCase text = some (before, matched, after)) :
    after.length < text.length := by
  obtain ⟨rfl, agrees, -⟩ := firstMatch?_eq_some found
  have positive := List.length_pos_iff.mpr (agrees.ne_nil pattern.nonempty)
  simp only [List.length_append]
  omega

/-- The pieces of unquoted text between the leftmost matches of a token, each search behind the
match before; a piece keeps the match that ends it when the options say so. -/
def cutText (token : Pattern) (options : SplitOptions) (text : Text) : List Text :=
  match _found : token.firstMatch? options.tokenCase text with
  | none => [text]
  | some (before, matched, after) =>
    (before ++ if options.includeToken then matched else []) :: cutText token options after
termination_by text.length
decreasing_by exact firstMatch?_shorter _found

/-- Even no text is a piece. -/
theorem cutText_ne_nil (token : Pattern) (options : SplitOptions) (text : Text) :
    token.cutText options text ≠ [] := by
  rw [cutText]
  split <;> simp

end Pattern

namespace QuoteStyle

/-- Joins pieces to the pieces that follow them: the last of the former and the first of the latter
are one. -/
def glue : List Text → List Text → List Text
  | [], pieces => pieces
  | [last], pieces => pieces.modifyHead (last ++ ·)
  | piece :: next :: more, pieces => piece :: glue (next :: more) pieces

/-- The pieces of spans: unquoted text is cut and a region is not. -/
def cutSpans (token : Pattern) (options : SplitOptions) : List Span → List Text
  | [] => [[]]
  | ⟨.unquoted, text⟩ :: more => glue (token.cutText options text) (cutSpans token options more)
  | ⟨.quoted, text⟩ :: more | ⟨.unterminated, text⟩ :: more =>
    glue [text] (cutSpans token options more)

variable {style : QuoteStyle} {token : Pattern} {options : SplitOptions}

/-- A piece that other pieces follow is not joined to anything. -/
theorem glue_cons {piece : Text} {more pieces : List Text} (nonempty : more ≠ []) :
    glue (piece :: more) pieces = piece :: glue more pieces := by
  obtain ⟨next, more, rfl⟩ := List.exists_cons_of_ne_nil nonempty
  rfl

/-- Without trimming, a split on a token that is not empty reports the pieces that are not empty. -/
theorem split_of_untrimmed (style : QuoteStyle) {token : Text} (nonempty : token ≠ [])
    {options : SplitOptions} (untrimmed : options.trimmed = false) (text : Text) :
    style.split token options text =
      .ok ((style.pieces ⟨token, nonempty⟩ options text).filter (· ≠ [])) := by
  rw [split_of_ne_nil style nonempty, splitOn, if_neg (by simp [untrimmed])]

/-- A split passes over a region. -/
theorem pieces_region {text : Text} {region : Region} (found : style.region? text = some region) :
    style.pieces token options text =
      (style.pieces token options region.rest).modifyHead (region.text ++ ·) := by
  cases text with
  | nil => contradiction
  | cons c rest =>
    rw [pieces]
    split
    · rename_i region' found'
      obtain rfl : region = region' := by simpa [found] using found'
      rfl
    · rename_i none
      rw [none] at found
      contradiction

/-- A split cuts behind a match that does not start at a quote. -/
theorem pieces_match {matched after : Text}
    (agrees : options.tokenCase.Agrees matched token.text)
    (plain : ∀ c ∈ matched.head?, style.isQuote c = false) :
    style.pieces token options (matched ++ after) =
      (if options.includeToken then matched else []) :: style.pieces token options after := by
  obtain ⟨c, matched, rfl⟩ := List.exists_cons_of_ne_nil (agrees.ne_nil token.nonempty)
  have here : token.match? options.tokenCase (c :: (matched ++ after)) =
      some (c :: matched, after) :=
    LetterCase.match?_eq_some_iff.mpr ⟨rfl, agrees⟩
  rw [List.cons_append, pieces]
  split
  · rename_i region found
    rw [region?_unquoted (plain c rfl)] at found
    contradiction
  · split
    · rename_i matched' after' found
      obtain ⟨rfl, rfl⟩ : c :: matched = matched' ∧ after = after' := by
        simpa [here] using found
      rfl
    · rename_i none
      rw [here] at none
      contradiction

/-- What is matched where no region starts does not start with a quote. -/
theorem not_isQuote_head_of_match? {letterCase : LetterCase} {text matched after : Text}
    (none : style.region? text = none)
    (found : token.match? letterCase text = some (matched, after)) :
    ∀ c ∈ matched.head?, style.isQuote c = false := by
  intro c isHead
  obtain ⟨whole, -⟩ := LetterCase.match?_eq_some_iff.mp found
  obtain ⟨tail, rfl⟩ := List.head?_eq_some_iff.mp isHead
  rw [whole] at none
  exact not_isQuote_of_region? none

/-- A split cuts behind what is matched where no region starts. -/
theorem pieces_of_match? {text matched after : Text} (none : style.region? text = none)
    (found : token.match? options.tokenCase text = some (matched, after)) :
    style.pieces token options text =
      (if options.includeToken then matched else []) :: style.pieces token options after := by
  obtain ⟨whole, agrees⟩ := LetterCase.match?_eq_some_iff.mp found
  rw [whole, pieces_match agrees (not_isQuote_head_of_match? none found)]

/-- A character at which the token does not match stays in its piece. -/
theorem pieces_unmatched {c : Char} {rest : Text} (plain : style.isQuote c = false)
    (unmatched : ¬options.tokenCase.MatchesHead token.text (c :: rest)) :
    style.pieces token options (c :: rest) =
      (style.pieces token options rest).modifyHead (c :: ·) := by
  rw [pieces]
  split
  · rename_i region found
    rw [region?_unquoted plain] at found
    contradiction
  · split
    · rename_i matched after found
      refine absurd ?_ unmatched
      rw [← LetterCase.isSome_match?_iff, ← Pattern.match?, found]
      rfl
    · rfl

/-- Unquoted text in which no match starts stays in one piece. -/
theorem pieces_append_unmatched {text rest : Text} (plain : ∀ c ∈ text, style.isQuote c = false)
    (unmatched : ∀ front back, text = front ++ back → back ≠ [] →
      ¬options.tokenCase.MatchesHead token.text (back ++ rest)) :
    style.pieces token options (text ++ rest) =
      (style.pieces token options rest).modifyHead (text ++ ·) := by
  induction text with
  | nil =>
    rw [List.nil_append]
    cases style.pieces token options rest <;> rfl
  | cons c text ih =>
    have here := unmatched [] (c :: text) rfl (by simp)
    rw [List.cons_append] at here ⊢
    rw [pieces_unmatched (plain c List.mem_cons_self) here,
      ih (fun d member => plain d (List.mem_cons_of_mem c member)) fun front back split =>
        unmatched (c :: front) back (by rw [split, List.cons_append]), List.modifyHead_modifyHead]
    rfl

/-- When the token matches no quote, unquoted text up to a quote is cut by itself. -/
theorem pieces_append_unquoted {text rest : Text}
    (apart : ∀ p ∈ token.text, ∀ c, options.tokenCase.same c p → style.isQuote c = false)
    (plain : ∀ c ∈ text, style.isQuote c = false) (quote : ∀ c ∈ rest.head?, style.isQuote c) :
    style.pieces token options (text ++ rest) =
      glue (token.cutText options text) (style.pieces token options rest) := by
  fun_induction Pattern.cutText token options text with
  | case1 text none =>
    rw [pieces_append_unmatched plain]
    · rfl
    · intro front back split nonempty
      rw [matchesHead_append_iff apart quote]
      exact Pattern.firstMatch?_eq_none none front back split nonempty
  | case2 text before matched after found ih =>
    obtain ⟨rfl, agrees, first⟩ := Pattern.firstMatch?_eq_some found
    have plainBefore : ∀ c ∈ before, style.isQuote c = false :=
      fun c member => plain c (List.mem_append_left _ member)
    have plainAfter : ∀ c ∈ after, style.isQuote c = false :=
      fun c member => plain c (List.mem_append_right _ (List.mem_append_right _ member))
    have unmatched : ∀ front back, before = front ++ back → back ≠ [] →
        ¬options.tokenCase.MatchesHead token.text (back ++ (matched ++ (after ++ rest))) := by
      intro front back split nonempty
      rw [← List.append_assoc, ← List.append_assoc, List.append_assoc back,
        matchesHead_append_iff apart quote]
      exact first front back split nonempty
    rw [List.append_assoc, List.append_assoc, pieces_append_unmatched plainBefore unmatched,
      pieces_match agrees fun c isHead =>
        not_isQuote_of_agrees agrees apart c (List.mem_of_mem_head? isHead),
      ih plainAfter, glue_cons (token.cutText_ne_nil options after)]
    rfl

/-- When the token matches no quote, the pieces of a text are those of its spans. -/
theorem WellCut.pieces_texts {spans : List Span} (cut : style.WellCut spans) (token : Pattern)
    (options : SplitOptions)
    (apart : ∀ p ∈ token.text, ∀ c, options.tokenCase.same c p → style.isQuote c = false) :
    style.pieces token options (Span.texts spans) = cutSpans token options spans := by
  induction cut with
  | nil => simp [pieces, cutSpans]
  | @unquoted text more nonempty plain maximal cut ih =>
    have quote := (WellCut.unquoted nonempty plain maximal cut).isQuote_head
    rw [Span.texts_cons, pieces_append_unquoted apart plain quote, ih]
    rfl
  | quoted quote inside closes ends _ ih =>
    have found := region?_closed quote inside closes ends
    rw [Span.texts_cons_closed, pieces_region found, ih]
    rfl
  | unterminated quote inside =>
    rw [Span.texts_singleton, pieces_region (region?_open quote inside), pieces]
    rfl

/-- When the token matches no quote, an untrimmed split gives the pieces of the spans that are not
empty. -/
theorem split_eq_cutSpans (style : QuoteStyle) (token text : Text) (options : SplitOptions)
    (nonempty : token ≠ []) (untrimmed : options.trimmed = false)
    (apart : ∀ p ∈ token, ∀ c, options.tokenCase.same c p → style.isQuote c = false) :
    style.split token options text =
      .ok ((cutSpans ⟨token, nonempty⟩ options (style.spans text)).filter (· ≠ [])) := by
  have found : Pattern.ofText? token = some ⟨token, nonempty⟩ := by
    rw [Pattern.ofText?, dif_pos nonempty]
  have cut := (style.wellCut_spans text).pieces_texts ⟨token, nonempty⟩ options apart
  rw [spans_flatten] at cut
  rw [split, found, ← cut]
  simp [splitOn, untrimmed]

/-- A token that overlaps itself is cut off once, and the last piece runs through both regions. -/
theorem split_eq_cutSpans_overlapping :
    ∃ nonempty : ['a', 'a'] ≠ [],
      QuoteStyle.split {} ['a', 'a'] ⟨true, false, .sensitive⟩ "aaa'aa'a'a'ay".toList =
        .ok ((cutSpans ⟨['a', 'a'], nonempty⟩ ⟨true, false, .sensitive⟩
          (QuoteStyle.spans {} "aaa'aa'a'a'ay".toList)).filter (· ≠ [])) ∧
      QuoteStyle.split {} ['a', 'a'] ⟨true, false, .sensitive⟩ "aaa'aa'a'a'ay".toList =
        .ok ["aa".toList, "a'aa'a'a'ay".toList] := by
  have nonempty : ['a', 'a'] ≠ [] := by simp
  have pieces : QuoteStyle.splitOn {} ⟨['a', 'a'], by simp⟩ ⟨true, false, .sensitive⟩
      "aaa'aa'a'a'ay".toList = ["aa".toList, "a'aa'a'a'ay".toList] := by
    decide +kernel
  refine ⟨nonempty, split_eq_cutSpans {} ['a', 'a'] _ ⟨true, false, .sensitive⟩ nonempty rfl ?_,
    congrArg Except.ok pieces⟩
  intro p member c same
  obtain rfl : c = p := by simpa using same
  obtain rfl : c = 'a' := by simpa using member
  decide

end QuoteStyle

end QuotedText
