import QuotedText.Proofs.Quote.Join
import QuotedText.Sql.Statement
import QuotedText.Sql.Value

/-!
# Regions of SQL scripts

A script has two quotes, and a region of either goes up to the next quote of its own that is not
doubled. A cleaned value has its quotes doubled, so as a literal it is one region of a script
(`Sql.spans_quoteValue`), whatever the value is.
-/

namespace QuotedText.Sql

open QuoteStyle

/-! ## The quotes of scripts -/

/-- A script is quoted with `'` and with the backtick. -/
theorem isQuote_sql {c : Char} : QuoteStyle.sql.isQuote c ↔ c = '\'' ∨ c = '\x60' := by
  change (['\'', '\x60'].any fun quote => LetterCase.sensitive.same quote c) = true ↔ _
  rw [List.any_eq_true]
  constructor
  · rintro ⟨quote, member, same⟩
    obtain rfl : quote = c := LetterCase.same_sensitive.mp same
    simpa using member
  · intro either
    exact ⟨c, by simpa using either, LetterCase.same_refl _ c⟩

/-- A region of a script ends with its own quote only. -/
theorem closes_sql {opener c : Char} : QuoteStyle.sql.closes opener c ↔ c = opener :=
  LetterCase.same_sensitive

/-- A character other than the quote of a region leaves the region open. -/
theorem not_closes_sql {opener c : Char} (other : c ≠ opener) :
    QuoteStyle.sql.closes opener c = false :=
  Bool.eq_false_iff.mpr fun closes => other (closes_sql.mp closes)

/-- No blank is a quote. -/
theorem not_isQuote_of_isBlank {c : Char} (blank : isBlank c = true) :
    QuoteStyle.sql.isQuote c = false := by
  rw [Bool.eq_false_iff]
  intro quote
  rcases isQuote_sql.mp quote with rfl | rfl
  · exact absurd blank (by decide)
  · exact absurd blank (by decide)

/-- What ends a statement matches no quote. -/
theorem terminator_apart (letterCase : LetterCase) : ∀ p ∈ terminator.text, ∀ c,
    letterCase.same c p → QuoteStyle.sql.isQuote c = false := by
  intro p member c same
  obtain rfl : p = ';' := List.mem_singleton.mp member
  rw [Bool.eq_false_iff]
  intro quote
  have others : letterCase.same '\'' ';' = false ∧ letterCase.same '\x60' ';' = false := by
    cases letterCase <;> decide
  rcases isQuote_sql.mp quote with rfl | rfl
  · rw [others.1] at same
    contradiction
  · rw [others.2] at same
    contradiction

/-! ## Values -/

/-- However a character is written, it leaves its literal open. -/
theorem inside_escapeChar (c : Char) {rest : Text} (inside : QuoteStyle.sql.Inside '\'' rest) :
    QuoteStyle.sql.Inside '\'' (escapeChar c ++ rest) := by
  have quote : QuoteStyle.sql.closes '\'' '\'' := closes_sql.mpr rfl
  rw [escapeChar]
  split
  · exact .pair rfl quote quote inside
  · rename_i unquoted
    have other : c ≠ '\'' := by
      rintro rfl
      exact unquoted rfl
    split
    · exact .plain (not_closes_sql (by decide)) (.plain (not_closes_sql (by decide)) inside)
    · exact .plain (not_closes_sql other) inside

/-- A cleaned value leaves its literal open. -/
theorem inside_cleanValue (value : Text) : QuoteStyle.sql.Inside '\'' (cleanValue value) := by
  rw [cleanValue]
  induction unifyLineBreaks value with
  | nil => exact .nil
  | cons c rest ih => exact inside_escapeChar c ih

/-- A value as a literal is one region. -/
theorem spans_quoteValue (value : Text) :
    QuoteStyle.sql.spans (quoteValue value) = [⟨.quoted, quoteValue value⟩] := by
  have quote : QuoteStyle.sql.isQuote '\'' := isQuote_sql.mpr (.inl rfl)
  have cut : QuoteStyle.sql.WellCut [⟨.quoted, quoteValue value⟩] :=
    .quoted quote (inside_cleanValue value) (closes_sql.mpr rfl) (fun _ _ none => nomatch none) .nil
  simpa using cut.spans_texts

end QuotedText.Sql
