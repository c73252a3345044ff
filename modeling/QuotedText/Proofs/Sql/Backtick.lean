import QuotedText.Proofs.Quote.Partition
import QuotedText.Proofs.Text.LetterCase
import QuotedText.Sql.Value

/-!
# Backticks for doubled quotes

`Sql.backtickEscapes` does not read regions: it pairs quotes from the left and keeps count of
whether a literal is open. The count is right at both ends of every region of the text, so outside
of literals nothing changes, and inside of them a doubled quote becomes a backtick. The doubled
quotes right behind an opening quote are the exception: they are paired with the opening quote as
if they were empty literals, and stay (`Sql.backtickEscapes_eq_iff`).
-/

namespace QuotedText

namespace QuoteStyle

variable {letterCase : LetterCase} {escape : Escape} {c : Char}

/-- The style of literals, in which `'` is the only quote. -/
def literals (letterCase : LetterCase) (escape : Escape) : QuoteStyle :=
  { quotes := ['\''], letterCase, escape }

/-- Whatever the letter case, a literal closes with `'` only. -/
theorem closes_literals : (literals letterCase escape).closes '\'' c ↔ c = '\'' :=
  LetterCase.same_iff_eq ⟨by decide, by decide⟩

/-- Whatever the letter case, a literal opens with `'` only. -/
theorem isQuote_literals : (literals letterCase escape).isQuote c ↔ c = '\'' := by
  have single : (literals letterCase escape).isQuote c = letterCase.same '\'' c := by
    change (letterCase.same '\'' c || false) = letterCase.same '\'' c
    exact Bool.or_false _
  rw [single]
  constructor
  · intro same
    have closes : (literals letterCase escape).closes '\'' c := LetterCase.same_symm same
    exact closes_literals.mp closes
  · rintro rfl
    exact LetterCase.same_refl letterCase _

/-- A character that leaves a literal open is no quote. -/
theorem ne_quote_of_not_closes (other : (literals letterCase escape).closes '\'' c = false) :
    c ≠ '\'' := by
  rintro rfl
  rw [closes_literals.mpr rfl] at other
  contradiction

end QuoteStyle

namespace Sql

open QuoteStyle

variable {letterCase : LetterCase} {body tail kept after : Text}

/-! ## The two ways to show an escape -/

/-- Writes a backtick for each doubled quote, from left to right. -/
def backtickPairs : Text → Text
  | [] => []
  | '\'' :: '\'' :: rest => '\x60' :: backtickPairs rest
  | c :: rest => c :: backtickPairs rest

/-- The text of a span, with a backtick for each doubled quote between the quotes of a region. -/
def spanWithBackticks (span : Span) : Text :=
  match span.kind with
  | .unquoted => span.text
  | .quoted =>
    span.text.take 1 ++ backtickPairs (span.text.drop 1).dropLast ++ span.text.getLast?.toList
  | .unterminated => span.text.take 1 ++ backtickPairs (span.text.drop 1)

/-- A text with a backtick for each doubled quote behind the quotes at its head. -/
def laterBacktickPairs (text : Text) : Text :=
  text.takeWhile (· == '\'') ++ backtickPairs (text.dropWhile (· == '\''))

/-- The text of a span, with a backtick for each doubled quote of a region that has a character of
the value before it. -/
def spanWithLaterBackticks (span : Span) : Text :=
  match span.kind with
  | .unquoted => span.text
  | .quoted | .unterminated => laterBacktickPairs span.text

/-- A region starts with an escape when it starts with three quotes. -/
def StartsWithEscape (span : Span) : Prop :=
  ['\'', '\'', '\''] <+: span.text

/-! ## Steps of the rewriting -/

/-- A pair of quotes does not change whether a literal is open. -/
theorem backtickEscapesFrom_pair (inLiteral : Bool) (rest : Text) :
    backtickEscapesFrom inLiteral ('\'' :: '\'' :: rest) =
      (if inLiteral then ['\x60'] else ['\'', '\'']) ++ backtickEscapesFrom inLiteral rest := by
  rw [backtickEscapesFrom]

/-- A character that is no quote stays. -/
theorem backtickEscapesFrom_plain (inLiteral : Bool) {c : Char} (other : c ≠ '\'') (rest : Text) :
    backtickEscapesFrom inLiteral (c :: rest) = c :: backtickEscapesFrom inLiteral rest := by
  rw [backtickEscapesFrom, if_neg (by simpa using other)]
  rintro _ rfl
  exact absurd rfl other

/-- A quote that is followed by no other opens a literal or closes it. -/
theorem backtickEscapesFrom_single (inLiteral : Bool) {rest : Text}
    (alone : ∀ c ∈ rest.head?, c ≠ '\'') :
    backtickEscapesFrom inLiteral ('\'' :: rest) =
      '\'' :: backtickEscapesFrom (!inLiteral) rest := by
  rw [backtickEscapesFrom]
  · rfl
  · rintro more - rfl
    exact absurd rfl (alone '\'' rfl)

/-- Text without quotes stays. -/
theorem backtickEscapesFrom_append_plain (inLiteral : Bool) {text : Text} (rest : Text)
    (plain : '\'' ∉ text) :
    backtickEscapesFrom inLiteral (text ++ rest) =
      text ++ backtickEscapesFrom inLiteral rest := by
  induction text with
  | nil => rfl
  | cons c text ih =>
    have other : c ≠ '\'' := fun quote => plain (by simp [quote])
    have others : '\'' ∉ text := fun member => plain (List.mem_cons_of_mem c member)
    rw [List.cons_append, backtickEscapesFrom_plain inLiteral other, ih others]
    rfl

/-- A character that is no quote is in no pair. -/
theorem backtickPairs_plain {c : Char} (other : c ≠ '\'') (rest : Text) :
    backtickPairs (c :: rest) = c :: backtickPairs rest := by
  rw [backtickPairs]
  rintro _ rfl
  exact absurd rfl other

/-- The pairs of what a literal holds are told apart from those behind it. -/
theorem backtickPairs_append (inside : (literals letterCase .doubled).Inside '\'' body)
    (rest : Text) : backtickPairs (body ++ rest) = backtickPairs body ++ backtickPairs rest := by
  induction inside with
  | nil => rfl
  | plain other _ ih =>
    have plain := ne_quote_of_not_closes other
    rw [List.cons_append, backtickPairs_plain plain, ih, backtickPairs_plain plain]
    rfl
  | pair _ first second _ ih =>
    obtain rfl := closes_literals.mp first
    obtain rfl := closes_literals.mp second
    rw [List.cons_append, List.cons_append, backtickPairs, backtickPairs, ih]
    rfl

/-- In an open literal every pair becomes a backtick, and the literal stays open. -/
theorem backtickEscapesFrom_open (inside : (literals letterCase .doubled).Inside '\'' body)
    (rest : Text) :
    backtickEscapesFrom true (body ++ rest) =
      backtickPairs body ++ backtickEscapesFrom true rest := by
  induction inside with
  | nil => rfl
  | plain other _ ih =>
    have plain := ne_quote_of_not_closes other
    rw [List.cons_append, backtickEscapesFrom_plain true plain, ih, backtickPairs_plain plain]
    rfl
  | pair _ first second _ ih =>
    obtain rfl := closes_literals.mp first
    obtain rfl := closes_literals.mp second
    rw [List.cons_append, List.cons_append, backtickEscapesFrom_pair, ih, backtickPairs]
    rfl

/-! ## Regions -/

/-- A pair of quotes at the head of a text stays. -/
theorem laterBacktickPairs_pair (rest : Text) :
    laterBacktickPairs ('\'' :: '\'' :: '\'' :: rest) =
      '\'' :: '\'' :: laterBacktickPairs ('\'' :: rest) :=
  rfl

/-- Behind a quote that no other follows, every pair becomes a backtick. -/
theorem laterBacktickPairs_single {c : Char} (other : c ≠ '\'') (rest : Text) :
    laterBacktickPairs ('\'' :: c :: rest) = '\'' :: backtickPairs (c :: rest) := by
  have stops : ¬(c == '\'') = true := by simpa using other
  have taken : List.takeWhile (· == '\'') ('\'' :: c :: rest) = ['\''] :=
    congrArg (List.cons '\'') (List.takeWhile_cons_of_neg (p := (· == '\'')) stops)
  have left : List.dropWhile (· == '\'') ('\'' :: c :: rest) = c :: rest :=
    List.dropWhile_cons_of_neg (p := (· == '\'')) stops
  rw [laterBacktickPairs, taken, left]
  rfl

/-- Over a region, pairs are kept up to the first character of the value and become backticks from
there on. What follows the body decides how the region ends. -/
theorem backtickEscapesFrom_region (inside : (literals letterCase .doubled).Inside '\'' body)
    (empty : backtickEscapesFrom false ('\'' :: tail) =
      laterBacktickPairs ('\'' :: kept) ++ after)
    (opened : backtickEscapesFrom true tail = backtickPairs kept ++ after) :
    backtickEscapesFrom false ('\'' :: (body ++ tail)) =
      laterBacktickPairs ('\'' :: (body ++ kept)) ++ after := by
  induction inside with
  | nil => exact empty
  | @plain c rest other inside _ =>
    have plain := ne_quote_of_not_closes other
    have whole := Inside.plain other inside
    have alone : ∀ d ∈ (c :: rest ++ tail).head?, d ≠ '\'' := by simpa using plain
    calc backtickEscapesFrom false ('\'' :: (c :: rest ++ tail))
      _ = '\'' :: backtickEscapesFrom true (c :: rest ++ tail) :=
        backtickEscapesFrom_single false alone
      _ = '\'' :: (backtickPairs (c :: rest) ++ (backtickPairs kept ++ after)) := by
        rw [backtickEscapesFrom_open whole, opened]
      _ = '\'' :: (backtickPairs (c :: rest ++ kept) ++ after) := by
        rw [backtickPairs_append whole, List.append_assoc]
      _ = laterBacktickPairs ('\'' :: (c :: rest ++ kept)) ++ after := by
        rw [List.cons_append, laterBacktickPairs_single plain]
        rfl
  | pair _ first second _ ih =>
    obtain rfl := closes_literals.mp first
    obtain rfl := closes_literals.mp second
    rw [List.cons_append, List.cons_append, List.cons_append, List.cons_append,
      backtickEscapesFrom_pair, ih, laterBacktickPairs_pair]
    rfl

/-- The rewriting goes from one span to the next. -/
theorem backtickEscapes_texts {spans : List Span}
    (cut : (literals letterCase .doubled).WellCut spans) :
    backtickEscapes (Span.texts spans) = spans.flatMap spanWithLaterBackticks := by
  rw [backtickEscapes]
  induction cut with
  | nil => rfl
  | @unquoted text more _ plain _ _ ih =>
    have noQuote : '\'' ∉ text := by
      intro member
      have quote : (literals letterCase .doubled).isQuote '\'' := isQuote_literals.mpr rfl
      rw [plain _ member] at quote
      contradiction
    rw [Span.texts_cons, backtickEscapesFrom_append_plain false _ noQuote, ih]
    rfl
  | @quoted opener close body more quote inside closes ends _ ih =>
    obtain rfl := isQuote_literals.mp quote
    obtain rfl := closes_literals.mp closes
    have alone : ∀ c ∈ (Span.texts more).head?, c ≠ '\'' :=
      fun c isHead => ne_quote_of_not_closes (ends rfl c isHead)
    have empty : backtickEscapesFrom false ('\'' :: '\'' :: Span.texts more) =
        laterBacktickPairs ['\'', '\''] ++ backtickEscapesFrom false (Span.texts more) :=
      backtickEscapesFrom_pair false _
    have closed : backtickEscapesFrom true ('\'' :: Span.texts more) =
        backtickPairs ['\''] ++ backtickEscapesFrom false (Span.texts more) :=
      backtickEscapesFrom_single true alone
    have region := backtickEscapesFrom_region inside empty closed
    rw [ih] at region
    rw [Span.texts_cons_closed, region]
    rfl
  | @unterminated opener body quote inside =>
    obtain rfl := isQuote_literals.mp quote
    have region : backtickEscapesFrom false ('\'' :: (body ++ [])) =
        laterBacktickPairs ('\'' :: (body ++ [])) ++ [] :=
      backtickEscapesFrom_region inside rfl rfl
    rw [List.append_nil] at region
    rw [Span.texts_singleton, region]
    rfl

/-! ## Escapes at the start of a literal -/

/-- When the value of a region begins behind the opening quote, every pair in it becomes a
backtick. -/
theorem laterBacktickPairs_plain {c : Char}
    (other : (literals letterCase .doubled).closes '\'' c = false)
    (inside : (literals letterCase .doubled).Inside '\'' body) (last : kept = [] ∨ kept = ['\'']) :
    laterBacktickPairs ('\'' :: (c :: body ++ kept)) =
      '\'' :: (backtickPairs (c :: body) ++ kept) := by
  have stays : backtickPairs kept = kept := by
    rcases last with rfl | rfl <;> rfl
  rw [List.cons_append, laterBacktickPairs_single (ne_quote_of_not_closes other),
    ← List.cons_append, backtickPairs_append (.plain other inside), stays]

/-- A region is shown in the same way by both, unless it starts with an escape: then they part
behind the opening quote. -/
theorem laterBacktickPairs_region (inside : (literals letterCase .doubled).Inside '\'' body)
    (last : kept = [] ∨ kept = ['\'']) :
    (¬['\'', '\'', '\''] <+: '\'' :: (body ++ kept) ∧
        laterBacktickPairs ('\'' :: (body ++ kept)) = '\'' :: (backtickPairs body ++ kept)) ∨
      (['\'', '\'', '\''] <+: '\'' :: (body ++ kept) ∧
        (∃ rest, laterBacktickPairs ('\'' :: (body ++ kept)) = '\'' :: '\'' :: rest) ∧
        ∃ rest, '\'' :: (backtickPairs body ++ kept) = '\'' :: '\x60' :: rest) := by
  cases inside with
  | nil =>
    rcases last with rfl | rfl
    · exact .inl ⟨by decide, rfl⟩
    · exact .inl ⟨by decide, rfl⟩
  | @plain c rest other inside =>
    refine .inl ⟨?_, laterBacktickPairs_plain other inside last⟩
    rintro ⟨behind, same⟩
    exact ne_quote_of_not_closes other (List.cons.inj (List.cons.inj same).2).1.symm
  | pair _ first second _ =>
    obtain rfl := closes_literals.mp first
    obtain rfl := closes_literals.mp second
    exact .inr ⟨⟨_, rfl⟩, ⟨_, rfl⟩, _, rfl⟩

/-- A span is shown in the same way by both, unless it starts with an escape. -/
theorem spanWithLaterBackticks_cases {span : Span} {more : List Span}
    (cut : (literals letterCase .doubled).WellCut (span :: more)) :
    (¬StartsWithEscape span ∧ spanWithLaterBackticks span = spanWithBackticks span) ∨
      (StartsWithEscape span ∧ (∃ rest, spanWithLaterBackticks span = '\'' :: '\'' :: rest) ∧
        ∃ rest, spanWithBackticks span = '\'' :: '\x60' :: rest) := by
  cases cut with
  | unquoted _ plain _ _ =>
    refine .inl ⟨?_, rfl⟩
    intro escaped
    have quote : (literals letterCase .doubled).isQuote '\'' := isQuote_literals.mpr rfl
    rw [plain '\'' (escaped.subset List.mem_cons_self)] at quote
    contradiction
  | @quoted opener close body _ quote inside closes _ _ =>
    obtain rfl := isQuote_literals.mp quote
    obtain rfl := closes_literals.mp closes
    have close : ('\'' :: (body ++ ['\''])).getLast? = some '\'' := by
      rw [← List.cons_append, List.getLast?_concat]
    have shown : spanWithBackticks ⟨.quoted, '\'' :: (body ++ ['\''])⟩ =
        '\'' :: (backtickPairs body ++ ['\'']) := by
      simp [spanWithBackticks, close]
    rw [shown]
    exact laterBacktickPairs_region inside (.inr rfl)
  | @unterminated opener body quote inside =>
    obtain rfl := isQuote_literals.mp quote
    have region := laterBacktickPairs_region inside (.inl rfl)
    rw [List.append_nil, List.append_nil] at region
    exact region

/-- Spans are shown in the same way by both when none of them starts with an escape. -/
theorem flatMap_spanWithLaterBackticks_eq_iff {spans : List Span}
    (cut : (literals letterCase .doubled).WellCut spans) :
    spans.flatMap spanWithLaterBackticks = spans.flatMap spanWithBackticks ↔
      ∀ span ∈ spans, ¬StartsWithEscape span := by
  induction spans with
  | nil => simp
  | cons span more ih =>
    rw [List.flatMap_cons, List.flatMap_cons, List.forall_mem_cons]
    rcases spanWithLaterBackticks_cases cut with ⟨plain, same⟩ | ⟨escaped, ⟨x, kept⟩, y, shown⟩
    · rw [same, List.append_right_inj, ih cut.tail, and_iff_right plain]
    · rw [kept, shown]
      refine iff_of_false ?_ fun none => none.1 escaped
      intro same
      have second := (List.cons.inj (List.cons.inj same).2).1
      exact absurd second (by decide)

/-- The rewriting shows each span with a backtick for the doubled quotes of its region, but for
those right behind the opening quote, which stay. So it shows every doubled quote between the
quotes of a region as a backtick when no region starts with one. -/
theorem backtickEscapes_eq_iff (letterCase : LetterCase) (text : Text) :
    backtickEscapes text =
        ((literals letterCase .doubled).spans text).flatMap spanWithLaterBackticks ∧
      (backtickEscapes text =
          ((literals letterCase .doubled).spans text).flatMap spanWithBackticks ↔
        ∀ span ∈ (literals letterCase .doubled).spans text, ¬StartsWithEscape span) := by
  have cut := (literals letterCase .doubled).wellCut_spans text
  have shown := backtickEscapes_texts cut
  rw [spans_flatten] at shown
  refine ⟨shown, ?_⟩
  rw [shown]
  exact flatMap_spanWithLaterBackticks_eq_iff cut

/-- The doubled quote at the start of a literal does not become a backtick, whether case is
significant or not. -/
theorem backtickEscapes_leading_escape :
    backtickEscapes "'''x'".toList = "'''x'".toList ∧
      ((literals .insensitive .doubled).spans "'''x'".toList).flatMap spanWithBackticks =
        "'\x60x'".toList ∧
      ((literals .sensitive .doubled).spans "'''x'".toList).flatMap spanWithBackticks =
        "'\x60x'".toList ∧
      "'''x'".toList ≠ "'\x60x'".toList := by
  decide +kernel

end Sql

end QuotedText
