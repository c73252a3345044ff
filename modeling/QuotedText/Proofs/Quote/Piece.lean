import QuotedText.Proofs.Quote.Cut
import QuotedText.Proofs.Quote.Pattern
import QuotedText.Quote.Split

/-!
# Regions of pieces

A token that matches no quote leaves the regions of a text whole: with the token kept, every region
of a piece is a region of the text (`QuoteStyle.mem_spans_of_mem_pieces`). So a piece has an open
region only when the text has. Whatever the token, a piece that another follows ends behind a match
before which all regions are closed, and the text behind it is split by itself
(`QuoteStyle.exists_of_pieces_eq_cons`).
-/

namespace QuotedText.QuoteStyle

variable {style : QuoteStyle} {token : Pattern} {options : SplitOptions}

/-- Of what follows a region, only the first character, if there is one, has a say in where it
ends. -/
theorem region?_of_head {text rest : Text} {region : Region}
    (found : style.region? text = some region)
    (sameHead : ∀ c ∈ rest.head?, c ∈ region.rest.head?) :
    style.region? (region.text ++ rest) = some { region with rest } := by
  cases text with
  | nil => contradiction
  | cons opener tail =>
    have quote := isQuote_of_region? found
    rcases closing?_cases style opener tail with
      ⟨body, close, after, rfl, inside, closes, ends⟩ | inside
    · obtain rfl := Option.some.inj ((region?_closed quote inside closes ends).symm.trans found)
      have endsHere : style.EndsBefore opener rest :=
        fun doubled c isHead => ends doubled c (sameHead c isHead)
      have read := region?_closed quote inside closes endsHere
      simpa using read
    · obtain rfl := Option.some.inj ((region?_open quote inside).symm.trans found)
      have nothing : rest = [] := by
        cases rest with
        | nil => rfl
        | cons c rest => exact absurd (sameHead c rfl) (by simp)
      rw [nothing]
      simpa using region?_open quote inside

/-- A region before a text that goes on more shortly is the same region. -/
theorem region?_append_of_begins {text rest : Text} {region : Region}
    (found : style.region? text = some region) (begins : rest <+: region.rest) :
    style.region? (region.text ++ rest) = some { region with rest } := by
  refine region?_of_head found ?_
  intro c isHead
  obtain ⟨behind, rfl⟩ := List.head?_eq_some_iff.mp isHead
  obtain ⟨more, restEq⟩ := begins
  simp [← restEq]

/-- The regions of a text do not change when it gets a first character that is no quote. -/
theorem mem_spans_cons_iff {c : Char} {rest : Text} {span : Span}
    (plain : style.isQuote c = false) (region : span.kind ≠ .unquoted) :
    span ∈ style.spans (c :: rest) ↔ span ∈ style.spans rest := by
  have other (text : Text) : span ≠ ⟨.unquoted, text⟩ := by
    rintro rfl
    contradiction
  rw [spans_unquoted plain, Span.consUnquoted.eq_def]
  split <;> simp_all

/-- The regions of a text do not change when it gets unquoted text before it. -/
theorem mem_spans_append_iff {front rest : Text} {span : Span}
    (plain : ∀ c ∈ front, style.isQuote c = false) (region : span.kind ≠ .unquoted) :
    span ∈ style.spans (front ++ rest) ↔ span ∈ style.spans rest := by
  induction front with
  | nil => rfl
  | cons c front ih =>
    rw [List.cons_append, mem_spans_cons_iff (plain c List.mem_cons_self) region]
    exact ih fun d member => plain d (List.mem_cons_of_mem c member)

/-- Unquoted text has no region. -/
theorem not_mem_spans {text : Text} {span : Span} (plain : ∀ c ∈ text, style.isQuote c = false)
    (region : span.kind ≠ .unquoted) : span ∉ style.spans text := by
  have found : span ∈ style.spans (text ++ []) ↔ span ∈ style.spans [] :=
    mem_spans_append_iff plain region
  rw [List.append_nil, spans_nil] at found
  simp [found]

/-- When the token matches no quote and is kept, every region of a piece is one of the text. -/
theorem mem_spans_of_mem_pieces {text piece : Text} {span : Span}
    (kept : options.includeToken = true)
    (apart : ∀ p ∈ token.text, ∀ c, options.tokenCase.same c p → style.isQuote c = false)
    (member : piece ∈ style.pieces token options text) (isSpan : span ∈ style.spans piece)
    (region : span.kind ≠ .unquoted) : span ∈ style.spans text := by
  fun_induction pieces style token options text generalizing piece with
  | case1 =>
    obtain rfl := List.mem_singleton.mp member
    exact isSpan
  | case2 c rest first found ih =>
    obtain ⟨head, more, piecesEq⟩ := List.exists_cons_of_ne_nil
      (pieces_ne_nil style token options first.rest)
    have whole := pieces_flatten style token kept first.rest
    rw [piecesEq] at member ih whole
    rw [spans_region found]
    rcases List.mem_cons.mp member with rfl | later
    · have begins : head <+: first.rest := ⟨more.flatten, whole⟩
      rw [spans_region (region?_append_of_begins found begins)] at isSpan
      rcases List.mem_cons.mp isSpan with rfl | behind
      · exact List.mem_cons_self
      · exact List.mem_cons_of_mem _ (ih List.mem_cons_self behind)
    · exact List.mem_cons_of_mem _ (ih (List.mem_cons_of_mem head later) isSpan)
  | case3 c rest none matched after found ih =>
    obtain ⟨whole, agrees⟩ := LetterCase.match?_eq_some_iff.mp found
    have plain : ∀ d ∈ matched, style.isQuote d = false := not_isQuote_of_agrees agrees apart
    rw [if_pos kept] at member
    rw [whole, mem_spans_append_iff plain region]
    rcases List.mem_cons.mp member with rfl | later
    · exact absurd isSpan (not_mem_spans plain region)
    · exact ih later isSpan
  | case4 c rest none _ ih =>
    obtain ⟨head, more, piecesEq⟩ := List.exists_cons_of_ne_nil
      (pieces_ne_nil style token options rest)
    have plain := not_isQuote_of_region? none
    rw [piecesEq] at member ih
    rw [mem_spans_cons_iff plain region]
    rcases List.mem_cons.mp member with rfl | later
    · exact ih List.mem_cons_self ((mem_spans_cons_iff plain region).mp isSpan)
    · exact ih (List.mem_cons_of_mem head later) isSpan

/-- A region that something follows is closed. -/
theorem kind_span_of_followed {text : Text} {region : Region}
    (found : style.region? text = some region) (followed : region.rest ≠ []) :
    region.span.kind = .quoted := by
  cases text with
  | nil => contradiction
  | cons opener tail =>
    have quote := isQuote_of_region? found
    rcases closing?_cases style opener tail with
      ⟨body, close, after, rfl, inside, closes, ends⟩ | inside
    · obtain rfl := Option.some.inj ((region?_closed quote inside closes ends).symm.trans found)
      rfl
    · obtain rfl := Option.some.inj ((region?_open quote inside).symm.trans found)
      exact absurd rfl followed

/-- The first of several pieces reaches up to a match before which all regions are closed, and the
others are the pieces of the text behind the match. -/
theorem exists_of_pieces_eq_cons {text piece : Text} {more : List Text}
    (split : style.pieces token options text = piece :: more) (later : more ≠ []) :
    ∃ front matched rest, text = front ++ (matched ++ rest) ∧
      piece = front ++ (if options.includeToken then matched else []) ∧
      options.tokenCase.Agrees matched token.text ∧
      (∀ span ∈ style.spans front, span.kind ≠ .unterminated) ∧
      style.pieces token options rest = more := by
  fun_induction pieces style token options text generalizing piece with
  | case1 =>
    obtain ⟨-, rfl⟩ := List.cons.inj split
    contradiction
  | case2 c rest region found ih =>
    obtain ⟨head, tail, piecesEq⟩ := List.exists_cons_of_ne_nil
      (pieces_ne_nil style token options region.rest)
    rw [piecesEq] at ih split
    obtain ⟨rfl, rfl⟩ := List.cons.inj split
    obtain ⟨front, matched, after, restEq, rfl, agrees, closed, afterEq⟩ := ih rfl
    refine ⟨region.text ++ front, matched, after, ?_, ?_, agrees, ?_, afterEq⟩
    · rw [← region?_append found, restEq, List.append_assoc]
    · rw [List.append_assoc]
    · have begins : front <+: region.rest := ⟨matched ++ after, restEq.symm⟩
      have followed : region.rest ≠ [] := by
        rw [restEq]
        exact List.append_ne_nil_of_right_ne_nil front
          (List.append_ne_nil_of_left_ne_nil (agrees.ne_nil token.nonempty) after)
      have closedHere : region.span.kind ≠ .unterminated := by
        rw [kind_span_of_followed found followed]
        decide
      rw [spans_region (region?_append_of_begins found begins)]
      exact List.forall_mem_cons.mpr ⟨closedHere, closed⟩
  | case3 c rest none matched after found ih =>
    obtain ⟨rfl, rfl⟩ := List.cons.inj split
    obtain ⟨whole, agrees⟩ := LetterCase.match?_eq_some_iff.mp found
    exact ⟨[], matched, after, whole, rfl, agrees, by simp, rfl⟩
  | case4 c rest none _ ih =>
    obtain ⟨head, tail, piecesEq⟩ := List.exists_cons_of_ne_nil
      (pieces_ne_nil style token options rest)
    have plain := not_isQuote_of_region? none
    rw [piecesEq] at ih split
    obtain ⟨rfl, rfl⟩ := List.cons.inj split
    obtain ⟨front, matched, after, restEq, rfl, agrees, closed, afterEq⟩ := ih rfl
    refine ⟨c :: front, matched, after, by rw [restEq, List.cons_append], rfl, agrees, ?_, afterEq⟩
    intro span member unterminated
    have region : span.kind ≠ .unquoted := by simp [unterminated]
    exact closed span ((mem_spans_cons_iff plain region).mp member) unterminated

end QuotedText.QuoteStyle
