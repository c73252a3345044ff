import QuotedText.Proofs.Sql.Token
import QuotedText.Proofs.Text.Flatten

/-!
# Tokens as words

Without literals and calls, the lexemes of a text are words and gaps. When every blank of the text
ends a word, a gap holds what separates the words of any text and a word holds none of it, so the
tokens of the text are its words (`Sql.tokenTexts_eq_words`).
-/

namespace QuotedText.Sql

open Lexeme

/-! ## Text without literals and calls -/

/-- The text of some lexemes has no literal and no call. -/
structure Lexeme.Unmarked (lexemes : List Lexeme) : Prop where
  /-- No literal begins. -/
  noQuote : '\'' ∉ texts lexemes
  /-- No call stands anywhere. -/
  noCall : ¬nowCall <:+: texts lexemes

/-- Lexemes behind another have no literal and no call when all together have none. -/
theorem Lexeme.Unmarked.tail {lexeme : Lexeme} {more : List Lexeme}
    (unmarked : Unmarked (lexeme :: more)) : Unmarked more where
  noQuote := fun member => unmarked.noQuote (by simp [member])
  noCall := by
    intro call
    refine unmarked.noCall (call.trans ?_)
    rw [texts_cons]
    exact (List.suffix_append lexeme.text _).isInfix

/-- What follows a word begins with a separator. -/
theorem Lexeme.WellLexed.separator_head {lexemes : List Lexeme} (lexed : WellLexed lexemes)
    (unmarked : Unmarked lexemes) (apart : ∀ next ∈ lexemes.head?, next.kind ≠ .word) :
    ∀ c ∈ (texts lexemes).head?, isWordSeparator c = true := by
  intro c isHead
  cases lexed with
  | nil => contradiction
  | word => exact absurd rfl (apart _ rfl)
  | literal => exact absurd (by simp) unmarked.noQuote
  | call => exact absurd (by simp [(List.prefix_append _ _).isInfix]) unmarked.noCall
  | gap begins =>
    obtain rfl := Option.some.inj isHead
    exact isWordSeparator_of_isDelimiter begins
  | unterminated => exact absurd (by simp) unmarked.noQuote

/-- Where every blank ends a word, the tokens of words and gaps are the words of their text. -/
theorem Lexeme.WellLexed.map_text_tokens {lexemes : List Lexeme} (lexed : WellLexed lexemes)
    (unmarked : Unmarked lexemes)
    (plain : ∀ c ∈ texts lexemes, isBlank c = true → beginsBlankGap c = true) :
    (lexemes.filterMap (·.token?)).map (·.text) = Text.words (texts lexemes) := by
  induction lexed with
  | nil => rfl
  | @word text more nonempty inWord maximal lexed ih =>
    rw [texts_cons] at plain ⊢
    obtain ⟨plainText, plainMore⟩ := List.forall_mem_append.mp plain
    have visible : ∀ c ∈ text, isBlank c = false := fun c member =>
      isBlank_eq_false_of_plain (inWord c member).1 (plainText c member)
    have within : ∀ c ∈ text, isWordSeparator c = false := fun c member =>
      isWordSeparator_eq_false (inWord c member).1 (visible c member)
    obtain ⟨first, isFirst⟩ := List.exists_mem_of_ne_nil text nonempty
    have isToken := token?_eq_identifier_iff.mpr ⟨rfl, first, isFirst, visible first isFirst⟩
    have apart := lexed.separator_head unmarked.tail maximal
    rw [List.filterMap_cons_some isToken, List.map_cons, ih unmarked.tail plainMore,
      Text.words_word_append nonempty within apart]
  | literal => exact absurd (by simp) unmarked.noQuote
  | call => exact absurd (by simp [(List.prefix_append _ _).isInfix]) unmarked.noCall
  | @gap c blanks more begins blank lexed ih =>
    rw [texts_cons] at plain ⊢
    have separate : ∀ d ∈ c :: blanks, isWordSeparator d = true := List.forall_mem_cons.mpr
      ⟨isWordSeparator_of_isDelimiter begins,
        fun d member => isWordSeparator_of_isBlank (blank d member)⟩
    have noToken : token? ⟨.gap, c :: blanks⟩ = none := rfl
    rw [List.filterMap_cons_none noToken, Text.words_separators_append separate,
      ih unmarked.tail (List.forall_mem_append.mp plain).2]
  | unterminated => exact absurd (by simp) unmarked.noQuote

/-! ## Tokens of a text -/

/-- A text without a quote and without a call, in which every blank ends a word, has its words as
tokens. -/
theorem tokenTexts_eq_words {text : Text} (noQuote : '\'' ∉ text) (noCall : ¬nowCall <:+: text)
    (plain : ∀ c ∈ text, isBlank c = true → beginsBlankGap c = true) :
    tokenTexts text = .ok (Text.words text) := by
  have lexed := wellLexed_ofText text
  have flat := ofText_flatten text
  have unmarked : Unmarked (ofText text) := ⟨by rwa [flat], by rwa [flat]⟩
  have closed : ∀ lexeme ∈ ofText text, lexeme.kind ≠ .unterminated :=
    fun lexeme member => (ne_literal_of_noQuote noQuote lexeme member).2
  have tokens := tokens_eq_ok_iff.mpr ⟨closed, rfl⟩
  have words := lexed.map_text_tokens unmarked (by rwa [flat])
  rw [flat] at words
  rw [tokenTexts, tokens, ← words]
  rfl

/-- The beginning of a call is a word of its own, and a call with something in it is none. -/
theorem tokenTexts_eq_words_partial_call :
    '\'' ∉ "NOW( NOW) NO,\t\r\nnow()xNOW((NOW".toList ∧
      ¬nowCall <:+: "NOW( NOW) NO,\t\r\nnow()xNOW((NOW".toList ∧
      (∀ c ∈ "NOW( NOW) NO,\t\r\nnow()xNOW((NOW".toList,
        isBlank c = true → beginsBlankGap c = true) ∧
      tokenTexts "NOW( NOW) NO,\t\r\nnow()xNOW((NOW".toList =
        .ok (Text.words "NOW( NOW) NO,\t\r\nnow()xNOW((NOW".toList) ∧
      Text.words "NOW( NOW) NO,\t\r\nnow()xNOW((NOW".toList =
        ["NOW".toList, "NOW".toList, "NO".toList, "now".toList, "xNOW".toList, "NOW".toList] := by
  have noQuote : '\'' ∉ "NOW( NOW) NO,\t\r\nnow()xNOW((NOW".toList := by decide +kernel
  have noCall : ¬nowCall <:+: "NOW( NOW) NO,\t\r\nnow()xNOW((NOW".toList := by decide +kernel
  have plain : ∀ c ∈ "NOW( NOW) NO,\t\r\nnow()xNOW((NOW".toList,
      isBlank c = true → beginsBlankGap c = true := by
    have checked : "NOW( NOW) NO,\t\r\nnow()xNOW((NOW".toList.all isPlain = true := by
      decide +kernel
    exact fun c member => isPlain_iff.mp (List.all_eq_true.mp checked c member)
  exact ⟨noQuote, noCall, plain, tokenTexts_eq_words noQuote noCall plain, by decide +kernel⟩

end QuotedText.Sql
