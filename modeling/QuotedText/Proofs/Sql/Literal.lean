import Mathlib.Data.List.Infix
import QuotedText.Proofs.Sql.Backtick
import QuotedText.Proofs.Sql.Mark

/-!
# Literals and calls as spans

The literals and calls of a text can be read off its spans in the style of literals without an
escape. A region is one literal, and text between regions has one call for each place where `NOW()`
stands in it (`Sql.filter_isMark_eq_flatMap_spans`). What else the text between regions is cut into
has no say in it, as no call runs over a quote (`Sql.call_before_iff`).
-/

namespace QuotedText.Sql

open QuoteStyle

variable {letterCase : LetterCase}

/-! ## What a span shows -/

/-- The number of places in a text where `pattern` stands. -/
def occurrences (pattern text : Text) : Nat :=
  text.tails.countP (pattern.isPrefixOf ·)

/-- The literals and calls that a span shows: a region is a literal, and unquoted text has the calls
that stand in it. -/
def spanMarks (span : Span) : List Token :=
  match span.kind with
  | .quoted => [⟨.stringLiteral, span.text⟩]
  | .unquoted => List.replicate (occurrences nowCall span.text) ⟨.functionCall, nowCall⟩
  | .unterminated => []

/-- A pattern stands at the head of a text or in what follows the first character. -/
theorem occurrences_cons (pattern : Text) (c : Char) (rest : Text) :
    occurrences pattern (c :: rest) =
      (if pattern <+: c :: rest then 1 else 0) + occurrences pattern rest := by
  rw [occurrences, List.tails_cons, List.countP_cons, ← occurrences, Nat.add_comm]
  simp only [List.isPrefixOf_iff_prefix]

/-! ## Marks of the parts of a text -/

/-- Text without a quote shows the calls that stand in it, when it goes on to a quote or to the end
of the text. -/
theorem marks_append_unquoted {front rest : Text} (unquoted : ∀ c ∈ front, c ≠ '\'')
    (goesOn : ∀ c ∈ rest.head?, c = '\'') :
    marks (front ++ rest) = spanMarks ⟨.unquoted, front⟩ ++ marks rest := by
  induction front with
  | nil => rfl
  | cons c front ih =>
    obtain ⟨here, later⟩ := List.forall_mem_cons.mp unquoted
    have sameCall : nowCall <+: c :: (front ++ rest) ↔ nowCall <+: c :: front := by
      cases rest with
      | nil => rw [List.append_nil]
      | cons quote rest =>
        obtain rfl : quote = '\'' := goesOn quote rfl
        exact call_before_iff (c :: front) rest (by decide)
    rw [List.cons_append, marks_unquoted here, ih later, ← List.append_assoc]
    congr 1
    simp only [spanMarks, occurrences_cons, sameCall, List.replicate_add]
    split <;> rfl

/-- A literal that stays open is no mark. -/
theorem marks_unterminated {body : Text} (inside : '\'' ∉ body) : marks ('\'' :: body) = [] := by
  rw [marks, Lexeme.ofText_unterminated inside]
  rfl

/-- Without an escape, no quote stands inside a literal. -/
theorem not_mem_of_inside {body : Text} (inside : (literals letterCase .none).Inside '\'' body) :
    '\'' ∉ body := by
  induction inside with
  | nil => exact List.not_mem_nil
  | plain other _ ih =>
    exact List.not_mem_cons_of_ne_of_not_mem (ne_quote_of_not_closes other).symm ih
  | pair doubled => contradiction

/-- Unquoted text has no quote and goes on to a quote or to the end of the text. -/
theorem apart_of_unquoted {escape : Escape} {text : Text} {more : List Span}
    (cut : (literals letterCase escape).WellCut (⟨.unquoted, text⟩ :: more)) :
    '\'' ∉ text ∧ ∀ c ∈ (Span.texts more).head?, c = '\'' := by
  refine ⟨?_, fun c isHead => isQuote_literals.mp (cut.isQuote_head c isHead)⟩
  cases cut with
  | unquoted _ plain _ _ =>
    intro member
    have other := plain '\'' member
    rw [isQuote_literals.mpr rfl] at other
    contradiction

/-! ## Marks of a text -/

/-- The literals and calls of a text are what its spans show, in order. -/
theorem marks_texts {spans : List Span} (cut : (literals letterCase .none).WellCut spans) :
    marks (Span.texts spans) = spans.flatMap spanMarks := by
  induction cut with
  | nil => exact marks_nil
  | @unquoted text more nonempty plain maximal cut ih =>
    obtain ⟨noQuote, goesOn⟩ := apart_of_unquoted (.unquoted nonempty plain maximal cut)
    have unquoted : ∀ c ∈ text, c ≠ '\'' := fun c member => ne_of_mem_of_not_mem member noQuote
    rw [Span.texts_cons, marks_append_unquoted unquoted goesOn, ih, List.flatMap_cons]
  | @quoted opener close body more quote inside closes _ _ ih =>
    obtain rfl : opener = '\'' := isQuote_literals.mp quote
    obtain rfl : close = '\'' := closes_literals.mp closes
    rw [Span.texts_cons_closed, marks_literal (not_mem_of_inside inside), ih]
    rfl
  | @unterminated opener body quote inside =>
    obtain rfl : opener = '\'' := isQuote_literals.mp quote
    rw [Span.texts_singleton, marks_unterminated (not_mem_of_inside inside)]
    rfl

/-- The literals and calls among the tokens of a text are its regions and the places of `NOW()`
between them, in order. -/
theorem filter_isMark_eq_flatMap_spans {text : Text} {found : List Token}
    (lexed : tokens text = .ok found) :
    found.filter (·.isMark) = ((literals .sensitive .none).spans text).flatMap spanMarks := by
  have shown := marks_texts ((literals .sensitive .none).wellCut_spans text)
  rw [spans_flatten] at shown
  rw [filter_isMark_tokens lexed, shown]

/-- Calls are found behind a word, behind one another and behind a literal, and a literal cuts a
call. -/
theorem filter_isMark_eq_flatMap_spans_cut :
    tokens "xNOW()NOW()'NOW()''é'NO'W()'NOW(".toList =
        .ok [⟨.identifier, ['x']⟩, ⟨.functionCall, nowCall⟩, ⟨.functionCall, nowCall⟩,
          ⟨.stringLiteral, "'NOW()'".toList⟩, ⟨.stringLiteral, "'é'".toList⟩,
          ⟨.identifier, "NO".toList⟩, ⟨.stringLiteral, "'W()'".toList⟩,
          ⟨.identifier, "NOW".toList⟩] ∧
      [⟨.functionCall, nowCall⟩, ⟨.functionCall, nowCall⟩, ⟨.stringLiteral, "'NOW()'".toList⟩,
          ⟨.stringLiteral, "'é'".toList⟩, ⟨.stringLiteral, "'W()'".toList⟩] =
        ((literals .sensitive .none).spans "xNOW()NOW()'NOW()''é'NO'W()'NOW(".toList).flatMap
          spanMarks := by
  have lexed : tokens "xNOW()NOW()'NOW()''é'NO'W()'NOW(".toList =
      .ok [⟨.identifier, ['x']⟩, ⟨.functionCall, nowCall⟩, ⟨.functionCall, nowCall⟩,
        ⟨.stringLiteral, "'NOW()'".toList⟩, ⟨.stringLiteral, "'é'".toList⟩,
        ⟨.identifier, "NO".toList⟩, ⟨.stringLiteral, "'W()'".toList⟩,
        ⟨.identifier, "NOW".toList⟩] := by
    decide +kernel
  exact ⟨lexed, filter_isMark_eq_flatMap_spans lexed⟩

end QuotedText.Sql
