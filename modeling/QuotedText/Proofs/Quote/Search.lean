import QuotedText.Proofs.Quote.Partition
import QuotedText.Proofs.Quote.Pattern
import QuotedText.Quote.Search

/-!
# What a search finds

A search goes from one unquoted character to the next. `QuoteStyle.WellCut.occurs_iff` says where
that is in terms of the spans, and `QuoteStyle.contains_iff` in terms of their byte positions: a
pattern is found when it matches at a boundary inside an unquoted span. A match without a quote
cannot leave its span, so a pattern without quotes is found when a single unquoted span holds it.
-/

namespace QuotedText.QuoteStyle

variable {style : QuoteStyle}

/-- A search passes over a region. -/
theorem occurs_region {pattern : Pattern} {text : Text} {region : Region}
    (found : style.region? text = some region) :
    style.occurs pattern text = style.occurs pattern region.rest := by
  cases text with
  | nil => contradiction
  | cons c rest =>
    rw [occurs]
    split
    · rename_i region' found'
      obtain rfl : region = region' := by simpa [found] using found'
      rfl
    · rename_i none
      rw [none] at found
      contradiction

/-- A search tries every character that is no quote. -/
theorem occurs_unquoted {pattern : Pattern} {c : Char} {rest : Text}
    (plain : style.isQuote c = false) :
    style.occurs pattern (c :: rest) =
      ((pattern.match? style.letterCase (c :: rest)).isSome || style.occurs pattern rest) := by
  rw [occurs]
  split
  · rename_i region found
    rw [region?_unquoted plain] at found
    contradiction
  · rfl

/-- Before other text, a pattern is found in unquoted text where it matches at some character. -/
theorem occurs_append_unquoted_iff {text : Text} (pattern : Pattern) (rest : Text)
    (plain : ∀ c ∈ text, style.isQuote c = false) :
    style.occurs pattern (text ++ rest) ↔
      (∃ front back, text = front ++ back ∧ back ≠ [] ∧
        style.letterCase.MatchesHead pattern.text (back ++ rest)) ∨
      style.occurs pattern rest := by
  induction text with
  | nil => simp
  | cons c text ih =>
    rw [List.cons_append, occurs_unquoted (plain c List.mem_cons_self), Bool.or_eq_true,
      ih fun d member => plain d (List.mem_cons_of_mem c member), Pattern.match?,
      LetterCase.isSome_match?_iff]
    constructor
    · rintro (here | ⟨front, back, rfl, nonempty, later⟩ | behind)
      · exact .inl ⟨[], c :: text, rfl, by simp, here⟩
      · exact .inl ⟨c :: front, back, rfl, nonempty, later⟩
      · exact .inr behind
    · rintro (⟨front, back, split, nonempty, found⟩ | behind)
      · cases front with
        | nil =>
          rw [List.nil_append] at split
          rw [← split] at found
          exact .inl found
        | cons d front =>
          obtain ⟨rfl, rfl⟩ := List.cons.inj split
          exact .inr (.inl ⟨front, back, rfl, nonempty, found⟩)
      · exact .inr (.inr behind)

/-- A search passes over every span that is not unquoted. -/
theorem WellCut.occurs_cons_region {pattern : Pattern} {span : Span} {more : List Span}
    (cut : style.WellCut (span :: more)) (region : span.kind ≠ .unquoted) :
    style.occurs pattern (Span.texts (span :: more)) = style.occurs pattern (Span.texts more) := by
  cases cut with
  | unquoted => contradiction
  | quoted quote inside closes ends _ =>
    have found := region?_closed quote inside closes ends
    rw [Span.texts_cons_closed, occurs_region found]
  | unterminated quote inside =>
    rw [Span.texts_singleton, Span.texts_nil, occurs_region (region?_open quote inside)]

/-- A pattern is found where it matches at a character of an unquoted span. -/
theorem WellCut.occurs_iff {spans : List Span} (cut : style.WellCut spans) (pattern : Pattern) :
    style.occurs pattern (Span.texts spans) ↔
      ∃ before front back after, spans = before ++ ⟨.unquoted, front ++ back⟩ :: after ∧
        back ≠ [] ∧ style.letterCase.MatchesHead pattern.text (back ++ Span.texts after) := by
  induction spans with
  | nil => simp [occurs]
  | cons span more ih =>
    by_cases region : span.kind ≠ .unquoted
    · rw [cut.occurs_cons_region region, ih cut.tail]
      constructor
      · rintro ⟨before, front, back, after, rfl, nonempty, found⟩
        exact ⟨span :: before, front, back, after, rfl, nonempty, found⟩
      · rintro ⟨before, front, back, after, split, nonempty, found⟩
        cases before with
        | nil =>
          obtain ⟨rfl, -⟩ := List.cons.inj split
          contradiction
        | cons _ before =>
          obtain ⟨rfl, rfl⟩ := List.cons.inj split
          exact ⟨before, front, back, after, rfl, nonempty, found⟩
    · obtain ⟨kind, text⟩ := span
      obtain rfl : kind = .unquoted := by simpa using region
      cases cut with
      | unquoted _ plain _ cut =>
        rw [Span.texts_cons, occurs_append_unquoted_iff pattern _ plain, ih cut]
        constructor
        · rintro (⟨front, back, rfl, nonempty, found⟩ |
            ⟨before, front, back, after, rfl, nonempty, found⟩)
          · exact ⟨[], front, back, more, rfl, nonempty, found⟩
          · exact ⟨_ :: before, front, back, after, rfl, nonempty, found⟩
        · rintro ⟨before, front, back, after, split, nonempty, found⟩
          cases before with
          | nil =>
            obtain ⟨spanEq, rfl⟩ := List.cons.inj split
            obtain ⟨-, rfl⟩ := Span.mk.inj spanEq
            exact .inl ⟨front, back, rfl, nonempty, found⟩
          | cons _ before =>
            obtain ⟨rfl, rfl⟩ := List.cons.inj split
            exact .inr ⟨before, front, back, after, rfl, nonempty, found⟩

/-- A pattern without quotes is found when one unquoted span holds it. -/
theorem WellCut.occurs_iff_of_plain {spans : List Span} (cut : style.WellCut spans)
    (pattern : Pattern) (plain : ∀ p ∈ pattern.text, style.isQuote p = false) :
    style.occurs pattern (Span.texts spans) ↔
      ∃ span ∈ spans, span.kind = .unquoted ∧
        style.letterCase.MatchesIn pattern.text span.text := by
  have apart : ∀ p ∈ pattern.text, ∀ c, style.letterCase.same c p → style.isQuote c = false :=
    fun p member c same => (isQuote_congr same).trans (plain p member)
  rw [cut.occurs_iff]
  constructor
  · rintro ⟨before, front, back, after, rfl, nonempty, found⟩
    rw [matchesHead_append_iff apart cut.of_append.isQuote_head] at found
    exact ⟨⟨.unquoted, front ++ back⟩, by simp, rfl,
      (LetterCase.matchesIn_iff pattern.nonempty).mpr ⟨front, back, rfl, nonempty, found⟩⟩
  · rintro ⟨⟨kind, text⟩, member, rfl, found⟩
    obtain ⟨before, after, rfl⟩ := List.append_of_mem member
    obtain ⟨front, back, rfl, nonempty, found⟩ :=
      (LetterCase.matchesIn_iff pattern.nonempty).mp found
    refine ⟨before, front, back, after, rfl, nonempty, ?_⟩
    rwa [matchesHead_append_iff apart cut.of_append.isQuote_head]

/-- In a text without quotes a pattern is found wherever it matches. -/
theorem occurs_iff_of_no_quote {text : Text} (plain : ∀ c ∈ text, style.isQuote c = false)
    (pattern : Pattern) :
    style.occurs pattern text ↔ style.letterCase.MatchesIn pattern.text text := by
  have found := occurs_append_unquoted_iff pattern [] plain
  rw [LetterCase.matchesIn_iff pattern.nonempty]
  simpa [occurs] using found

/-- A pattern is found where it matches at a boundary of an unquoted span that is not its end. -/
theorem occurs_iff_exists_boundary (style : QuoteStyle) (pattern : Pattern) (text : Text) :
    style.occurs pattern text ↔
      ∃ span ∈ style.locatedSpans text, span.span.kind = .unquoted ∧
        ∃ front back : Text, text = front ++ back ∧ span.start ≤ front.byteLength ∧
          front.byteLength < span.stop ∧
          style.letterCase.MatchesHead pattern.text back := by
  have flat := style.spans_flatten text
  have occursIff := (style.wellCut_spans text).occurs_iff pattern
  rw [flat] at occursIff
  rw [occursIff, locatedSpans]
  constructor
  · rintro ⟨before, front, back, after, split, nonempty, found⟩
    have member := Span.mem_located 0 before after ⟨.unquoted, front ++ back⟩
    rw [← split] at member
    refine ⟨_, member, rfl, Span.texts before ++ front, back ++ Span.texts after, ?_, ?_, ?_, found⟩
    · rw [← flat, split]
      simp [Span.texts]
    · simp
    · have positive := Text.byteLength_pos nonempty
      simp only [Text.byteLength_append]
      omega
  · rintro ⟨⟨start, stop, kind, spanText⟩, member, rfl, front, back, whole, behind, ahead, found⟩
    obtain ⟨before, after, split, startEq, stopEq⟩ := Span.exists_of_mem_located member
    simp only at split startEq stopEq behind ahead
    have cuts : Span.texts before ++ (spanText ++ Span.texts after) = front ++ back := by
      rw [← whole, ← flat, split]
      simp [Span.texts]
    obtain ⟨inner, rfl, inside⟩ := Text.exists_between cuts (by omega)
    rw [Text.byteLength_append] at ahead
    obtain ⟨rest, rfl, rfl⟩ := Text.exists_between inside.symm (by omega)
    refine ⟨before, inner, rest, after, split, ?_, found⟩
    rintro rfl
    rw [List.append_nil] at stopEq
    omega

/-- A needle that is not empty is contained where it matches at a boundary inside an unquoted span;
without quotes, where a single unquoted span holds it; in a text without quotes, anywhere. -/
theorem contains_iff (style : QuoteStyle) (needle text : Text) (nonempty : needle ≠ []) :
    (style.contains needle text = .ok true ↔
      ∃ span ∈ style.locatedSpans text, span.span.kind = .unquoted ∧
        ∃ front back : Text, text = front ++ back ∧ span.start ≤ front.byteLength ∧
          front.byteLength < span.stop ∧ style.letterCase.MatchesHead needle back) ∧
    ((∀ c ∈ needle, style.isQuote c = false) →
      (style.contains needle text = .ok true ↔
        ∃ span ∈ style.spans text, span.kind = .unquoted ∧
          style.letterCase.MatchesIn needle span.text)) ∧
    ((∀ c ∈ text, style.isQuote c = false) →
      (style.contains needle text = .ok true ↔ style.letterCase.MatchesIn needle text)) := by
  have contains : style.contains needle text = .ok true ↔
      style.occurs ⟨needle, nonempty⟩ text := by
    simp [contains, Pattern.ofText?, nonempty]
  rw [contains]
  refine ⟨style.occurs_iff_exists_boundary ⟨needle, nonempty⟩ text, ?_, ?_⟩
  · intro plain
    have found := (style.wellCut_spans text).occurs_iff_of_plain ⟨needle, nonempty⟩ plain
    rwa [spans_flatten] at found
  · intro plain
    exact occurs_iff_of_no_quote plain ⟨needle, nonempty⟩

/-- A needle without quotes is found behind a region that holds it too, in another letter case. -/
theorem contains_iff_behind_region :
    ['b', 'c'] ≠ [] ∧ QuoteStyle.contains {} ['b', 'c'] "a'bc'bBC".toList = .ok true ∧
      (∃ span ∈ QuoteStyle.spans {} "a'bc'bBC".toList, span.kind = .unquoted ∧
        LetterCase.insensitive.MatchesIn ['b', 'c'] span.text) ∧
      ∃ span ∈ QuoteStyle.locatedSpans {} "a'bc'bBC".toList, span.span.kind = .unquoted ∧
        ∃ front back : Text, "a'bc'bBC".toList = front ++ back ∧ span.start ≤ front.byteLength ∧
          front.byteLength < span.stop ∧ LetterCase.insensitive.MatchesHead ['b', 'c'] back := by
  have nonempty : ['b', 'c'] ≠ [] := by simp
  have iffs := contains_iff {} ['b', 'c'] "a'bc'bBC".toList nonempty
  have occurs : QuoteStyle.occurs {} ⟨['b', 'c'], by simp⟩ "a'bc'bBC".toList = true := by
    decide +kernel
  have found : QuoteStyle.contains {} ['b', 'c'] "a'bc'bBC".toList = .ok true :=
    congrArg Except.ok occurs
  have plain : ∀ c ∈ ['b', 'c'], QuoteStyle.isQuote {} c = false := by
    rw [List.forall_mem_cons, List.forall_mem_singleton]
    exact ⟨by decide, by decide⟩
  exact ⟨nonempty, found, (iffs.2.1 plain).mp found, iffs.1.mp found⟩

end QuotedText.QuoteStyle
