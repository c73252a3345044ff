import Mathlib.Algebra.Ring.Parity
import Mathlib.Data.List.TakeWhile
import QuotedText.Sql.Token

/-!
# Well-lexed text

A list of lexemes is well lexed when each has the form of its kind, no word follows a word, and a
literal without its closing quote comes last. The lexemes of a text are well lexed
(`Sql.Lexeme.wellLexed_ofText`), so what is true of every well-lexed list is true of them: all
literals are closed when the quotes of the text are even in number
(`Sql.Lexeme.WellLexed.closed_iff`), and otherwise the last quote opens a literal that stays open
(`Sql.tokens_of_last_quote`). So a text has no tokens when its quotes are odd in number, and the
position of the last is the one that is reported (`Sql.tokens_error_iff_odd`).
-/

namespace QuotedText.Sql

/-- A space, tab or line break, a parenthesis and a comma end a word. -/
def isDelimiter (c : Char) : Bool :=
  beginsBlankGap c || isPunctuation c

/-- What ends no word begins no gap of either kind. -/
theorem isDelimiter_eq_false_iff {c : Char} :
    isDelimiter c = false ↔ beginsBlankGap c = false ∧ isPunctuation c = false :=
  Bool.or_eq_false_iff

/-- What begins a gap is a blank or punctuation, so it separates words of any text. -/
theorem isWordSeparator_of_isDelimiter {c : Char} (delimiter : isDelimiter c = true) :
    isWordSeparator c = true := by
  simp only [isDelimiter, beginsBlankGap, isPunctuation, Bool.or_eq_true, beq_iff_eq] at delimiter
  rcases delimiter with (((rfl | rfl) | rfl) | rfl) | (rfl | rfl) | rfl <;> decide

/-- Parentheses and commas are no blanks. -/
theorem isBlank_eq_false_of_isPunctuation {c : Char} (punctuation : isPunctuation c = true) :
    isBlank c = false := by
  simp only [isPunctuation, Bool.or_eq_true, beq_iff_eq] at punctuation
  rcases punctuation with (rfl | rfl) | rfl <;> decide

/-- A blank is no parenthesis or comma. -/
theorem isPunctuation_eq_false_of_isBlank {c : Char} (blank : isBlank c = true) :
    isPunctuation c = false := by
  by_contra punctuation
  rw [isBlank_eq_false_of_isPunctuation (by simpa using punctuation)] at blank
  contradiction

/-- A space, tab or line break is a blank. -/
theorem isBlank_of_beginsBlankGap {c : Char} (begins : beginsBlankGap c = true) :
    isBlank c = true := by
  simp only [beginsBlankGap, Bool.or_eq_true, beq_iff_eq] at begins
  rcases begins with ((rfl | rfl) | rfl) | rfl <;> decide

/-- A character of a word that is no blank separates nothing. -/
theorem isWordSeparator_eq_false {c : Char} (inWord : isDelimiter c = false)
    (visible : isBlank c = false) : isWordSeparator c = false := by
  have noPunctuation := (isDelimiter_eq_false_iff.mp inWord).2
  rw [isPunctuation] at noPunctuation
  rw [isWordSeparator, visible, Bool.false_or, noPunctuation]

/-- Where every blank ends a word, a character of a word is no blank. -/
theorem isBlank_eq_false_of_plain {c : Char} (inWord : isDelimiter c = false)
    (plain : isBlank c = true → beginsBlankGap c = true) : isBlank c = false := by
  by_contra blank
  have delimiter : isDelimiter c = true := by
    rw [isDelimiter, plain (by simpa using blank), Bool.true_or]
  rw [inWord] at delimiter
  contradiction

/-- Whether a character ends a word if it is a blank. -/
def isPlain (c : Char) : Bool :=
  !isBlank c || beginsBlankGap c

/-- A plain character that is a blank is a space, tab or line break. -/
theorem isPlain_iff {c : Char} :
    isPlain c = true ↔ (isBlank c = true → beginsBlankGap c = true) := by
  simp [isPlain, imp_iff_not_or]

/-- A call has no blanks. -/
theorem visible_nowCall : ∀ c ∈ nowCall, isBlank c = false := by
  simp only [nowCall, List.mem_cons, List.not_mem_nil, or_false, forall_eq_or_imp, forall_eq]
  decide

/-- A quote separates no words. -/
theorem ne_quote_of_isWordSeparator {c : Char} (separator : isWordSeparator c = true) :
    c ≠ '\'' := by
  rintro rfl
  exact absurd separator (by decide)

namespace Lexeme

/-- Every lexeme of the list has the form of its kind next to the lexemes that follow it. -/
inductive WellLexed : List Lexeme → Prop
  /-- There is no text. -/
  | nil : WellLexed []
  /-- A word has no delimiter and no quote, and is not followed by another. -/
  | word {text : Text} {more : List Lexeme} (nonempty : text ≠ [])
      (plain : ∀ c ∈ text, isDelimiter c = false ∧ c ≠ '\'')
      (maximal : ∀ next ∈ more.head?, next.kind ≠ .word) (lexed : WellLexed more) :
      WellLexed (⟨.word, text⟩ :: more)
  /-- A literal ends with the first quote. -/
  | literal {body : Text} {more : List Lexeme} (inside : '\'' ∉ body) (lexed : WellLexed more) :
      WellLexed (⟨.literal, '\'' :: (body ++ ['\''])⟩ :: more)
  /-- There is one call. -/
  | call {more : List Lexeme} (lexed : WellLexed more) : WellLexed (⟨.call, nowCall⟩ :: more)
  /-- A gap begins with a delimiter and goes on with blanks. -/
  | gap {c : Char} {blanks : Text} {more : List Lexeme} (begins : isDelimiter c = true)
      (blank : ∀ d ∈ blanks, isBlank d = true) (lexed : WellLexed more) :
      WellLexed (⟨.gap, c :: blanks⟩ :: more)
  /-- Nothing follows a literal without its closing quote. -/
  | unterminated {body : Text} (inside : '\'' ∉ body) :
      WellLexed [⟨.unterminated, '\'' :: body⟩]

/-- A character of a word keeps a list well lexed. -/
theorem WellLexed.consWord {c : Char} {lexemes : List Lexeme}
    (plain : isDelimiter c = false ∧ c ≠ '\'') (lexed : WellLexed lexemes) :
    WellLexed (Lexeme.consWord c lexemes) := by
  have alone : ∀ d ∈ [c], isDelimiter d = false ∧ d ≠ '\'' := by simpa using plain
  have nonempty : [c] ≠ [] := List.cons_ne_nil c []
  cases lexed with
  | nil => exact .word nonempty alone (by simp) .nil
  | word _ others maximal lexed =>
    exact .word (List.cons_ne_nil c _) (List.forall_mem_cons.mpr ⟨plain, others⟩) maximal lexed
  | literal inside lexed => exact .word nonempty alone (by simp) (.literal inside lexed)
  | call lexed => exact .word nonempty alone (by simp) (.call lexed)
  | gap begins blank lexed => exact .word nonempty alone (by simp) (.gap begins blank lexed)
  | unterminated inside => exact .word nonempty alone (by simp) (.unterminated inside)

/-- The first quote of a text and what stands before and behind it. -/
theorem eq_of_dropWhile_quote {text after : Text} {close : Char}
    (found : text.dropWhile (· != '\'') = close :: after) :
    close = '\'' ∧ text = text.takeWhile (· != '\'') ++ '\'' :: after ∧
      '\'' ∉ text.takeWhile (· != '\'') := by
  have stops := List.head?_dropWhile_not (· != '\'') text
  rw [found] at stops
  obtain rfl : close = '\'' := by simpa using stops
  refine ⟨rfl, ?_, ?_⟩
  · rw [← found, List.takeWhile_append_dropWhile]
  · intro member
    have others := List.mem_takeWhile_imp member
    exact absurd others (by decide)

/-- The lexemes of a text are well lexed. -/
theorem wellLexed_ofText (text : Text) : WellLexed (ofText text) := by
  fun_induction ofText text with
  | case1 => exact .nil
  | case2 c rest quote closed =>
    obtain rfl : c = '\'' := by simpa using quote
    refine .unterminated ?_
    intro member
    have others := List.dropWhile_eq_nil_iff.1 closed '\'' member
    exact absurd others (by decide)
  | case3 c rest quote body close after closed ih =>
    obtain rfl : c = '\'' := by simpa using quote
    obtain ⟨rfl, -, inside⟩ := eq_of_dropWhile_quote closed
    exact .literal inside ih
  | case4 c rest _ begins ih =>
    refine .gap ?_ ?_ ih
    · rw [isDelimiter, begins, Bool.true_or]
    · exact fun _ => List.mem_takeWhile_imp
  | case5 c rest _ _ punctuation ih =>
    refine .gap ?_ (by simp) ih
    rw [isDelimiter, punctuation, Bool.or_true]
  | case6 c rest _ _ _ _ ih => exact .call ih
  | case7 c rest quote begins punctuation _ ih =>
    have plain : isDelimiter c = false := by simp [isDelimiter, begins, punctuation]
    exact ih.consWord ⟨plain, by simpa using quote⟩

/-- A word has no quotes. -/
theorem even_quotes_word {text : Text} (plain : ∀ c ∈ text, isDelimiter c = false ∧ c ≠ '\'') :
    Even (text.count '\'') := by
  have none : text.count '\'' = 0 := List.count_eq_zero.mpr fun member => (plain _ member).2 rfl
  rw [none]
  exact Even.zero

/-- A closed literal has two quotes. -/
theorem even_quotes_literal {body : Text} (inside : '\'' ∉ body) :
    Even (('\'' :: (body ++ ['\''])).count '\'') := by
  have none : body.count '\'' = 0 := List.count_eq_zero.mpr inside
  have two : ('\'' :: (body ++ ['\''])).count '\'' = 2 := by simp [none]
  rw [two]
  decide

/-- A call has no quotes. -/
theorem even_quotes_call : Even (nowCall.count '\'') := by
  decide

/-- A gap has no quotes. -/
theorem even_quotes_gap {c : Char} {blanks : Text} (begins : isDelimiter c = true)
    (blank : ∀ d ∈ blanks, isBlank d = true) : Even ((c :: blanks).count '\'') := by
  have other : c ≠ '\'' := ne_quote_of_isWordSeparator (isWordSeparator_of_isDelimiter begins)
  have none : blanks.count '\'' = 0 := List.count_eq_zero.mpr fun member =>
    ne_quote_of_isWordSeparator (isWordSeparator_of_isBlank (blank _ member)) rfl
  rw [List.count_cons_of_ne other, none]
  exact Even.zero

/-- A closed lexeme with an even number of quotes changes nothing about the others. -/
theorem closed_cons_iff {lexeme : Lexeme} {more : List Lexeme}
    (closed : lexeme.kind ≠ .unterminated) (even : Even (lexeme.text.count '\''))
    (others : (∀ next ∈ more, next.kind ≠ .unterminated) ↔ Even ((texts more).count '\'')) :
    (∀ next ∈ lexeme :: more, next.kind ≠ .unterminated) ↔
      Even ((texts (lexeme :: more)).count '\'') := by
  rw [List.forall_mem_cons, texts_cons, List.count_append, Nat.even_add, others]
  simp [closed, even]

/-- All literals of well-lexed text are closed when its quotes are even in number. -/
theorem WellLexed.closed_iff {lexemes : List Lexeme} (lexed : WellLexed lexemes) :
    (∀ lexeme ∈ lexemes, lexeme.kind ≠ .unterminated) ↔ Even ((texts lexemes).count '\'') := by
  induction lexed with
  | nil => simp
  | word _ plain _ _ ih => exact closed_cons_iff (by simp) (even_quotes_word plain) ih
  | literal inside _ ih => exact closed_cons_iff (by simp) (even_quotes_literal inside) ih
  | call _ ih => exact closed_cons_iff (by simp) even_quotes_call ih
  | gap begins blank _ ih => exact closed_cons_iff (by simp) (even_quotes_gap begins blank) ih
  | @unterminated body inside =>
    have none : body.count '\'' = 0 := List.count_eq_zero.mpr inside
    simp [none]

/-- Without a quote there is no literal. -/
theorem WellLexed.ne_literal_of_noQuote {lexemes : List Lexeme} (lexed : WellLexed lexemes)
    (noQuote : '\'' ∉ texts lexemes) :
    ∀ lexeme ∈ lexemes, lexeme.kind ≠ .literal ∧ lexeme.kind ≠ .unterminated := by
  induction lexed with
  | nil => simp
  | word _ _ _ _ ih | call _ ih | gap _ _ _ ih =>
    rw [texts_cons] at noQuote
    exact List.forall_mem_cons.mpr
      ⟨by simp, ih fun member => noQuote (List.mem_append_right _ member)⟩
  | literal | unterminated => exact absurd (by simp) noQuote

/-- A text without a quote has no literal. -/
theorem ne_literal_of_noQuote {text : Text} (noQuote : '\'' ∉ text) :
    ∀ lexeme ∈ ofText text, lexeme.kind ≠ .literal ∧ lexeme.kind ≠ .unterminated :=
  (wellLexed_ofText text).ne_literal_of_noQuote (by rwa [ofText_flatten])

end Lexeme

/-! ## Tokens -/

/-- A closed lexeme puts its token, if it has one, before the others. -/
theorem tokensFrom_cons_eq_ok_iff {position : Nat} {lexeme : Lexeme} {more : List Lexeme}
    {found : List Token} (closed : lexeme.kind ≠ .unterminated) :
    tokensFrom position (lexeme :: more) = .ok found ↔
      ∃ rest, tokensFrom (position + lexeme.text.byteLength) more = .ok rest ∧
        found = lexeme.token?.toList ++ rest := by
  rw [tokensFrom, if_neg closed]
  cases tokensFrom (position + lexeme.text.byteLength) more with
  | error cause => simp [Except.map]
  | ok rest => simp [Except.map, eq_comm]

/-- Lexemes have tokens when all literals among them are closed. -/
theorem tokensFrom_eq_ok_iff {position : Nat} {lexemes : List Lexeme} {found : List Token} :
    tokensFrom position lexemes = .ok found ↔
      (∀ lexeme ∈ lexemes, lexeme.kind ≠ .unterminated) ∧
        found = lexemes.filterMap (·.token?) := by
  induction lexemes generalizing position found with
  | nil => simp [tokensFrom, eq_comm]
  | cons lexeme more ih =>
    by_cases unterminated : lexeme.kind = .unterminated
    · simp [tokensFrom, unterminated]
    · have parts : (lexeme :: more).filterMap (·.token?) =
          lexeme.token?.toList ++ more.filterMap (·.token?) := by
        cases token : lexeme.token? <;> simp [token]
      rw [tokensFrom_cons_eq_ok_iff unterminated, List.forall_mem_cons, parts]
      simp [ih, unterminated, and_assoc]

/-- A text has tokens when all its literals are closed, and these are what its lexemes stand for. -/
theorem tokens_eq_ok_iff {text : Text} {found : List Token} :
    tokens text = .ok found ↔
      (∀ lexeme ∈ Lexeme.ofText text, lexeme.kind ≠ .unterminated) ∧
        found = (Lexeme.ofText text).filterMap (·.token?) :=
  tokensFrom_eq_ok_iff

/-- A text has tokens when its quotes are even in number. -/
theorem exists_tokens_iff {text : Text} :
    (∃ found, tokens text = .ok found) ↔ Even (text.count '\'') := by
  have closed := (Lexeme.wellLexed_ofText text).closed_iff
  rw [Lexeme.ofText_flatten] at closed
  rw [← closed]
  constructor
  · rintro ⟨found, lexed⟩
    exact (tokens_eq_ok_iff.mp lexed).1
  · intro allClosed
    exact ⟨_, tokens_eq_ok_iff.mpr ⟨allClosed, rfl⟩⟩

/-! ## The literal that stays open -/

/-- An odd number of quotes is at least one. -/
theorem quote_mem_of_odd {text : Text} (odd : ¬Even (text.count '\'')) : '\'' ∈ text := by
  by_contra absent
  rw [List.count_eq_zero.mpr absent] at odd
  exact odd Even.zero

/-- One quote more makes an even number of quotes odd and an odd number even. -/
theorem even_count_quote_iff (front back : Text) :
    Even ((front ++ '\'' :: back).count '\'') ↔ ¬Even (front.count '\'' + back.count '\'') := by
  rw [List.count_append, List.count_cons_self, ← Nat.add_assoc, Nat.even_add_one]

namespace Lexeme

/-- The last of some lexemes is a literal without its closing quote, and the others are closed. -/
def EndsOpen (lexemes : List Lexeme) : Prop :=
  ∃ before body, lexemes = before ++ [⟨.unterminated, '\'' :: body⟩] ∧ '\'' ∉ body ∧
    ∀ lexeme ∈ before, lexeme.kind ≠ .unterminated

/-- A closed lexeme does not change how the lexemes behind it end. -/
theorem closed_or_endsOpen_cons {lexeme : Lexeme} {more : List Lexeme}
    (closed : lexeme.kind ≠ .unterminated)
    (either : (∀ next ∈ more, next.kind ≠ .unterminated) ∨ EndsOpen more) :
    (∀ next ∈ lexeme :: more, next.kind ≠ .unterminated) ∨ EndsOpen (lexeme :: more) := by
  rcases either with allClosed | ⟨before, body, rfl, inside, closedBefore⟩
  · exact .inl (List.forall_mem_cons.mpr ⟨closed, allClosed⟩)
  · refine .inr ⟨lexeme :: before, body, rfl, inside, ?_⟩
    exact List.forall_mem_cons.mpr ⟨closed, closedBefore⟩

/-- In well-lexed text only the last literal may stay open. -/
theorem WellLexed.closed_or_endsOpen {lexemes : List Lexeme} (lexed : WellLexed lexemes) :
    (∀ lexeme ∈ lexemes, lexeme.kind ≠ .unterminated) ∨ EndsOpen lexemes := by
  induction lexed with
  | nil => exact .inl (by simp)
  | word _ _ _ _ ih => exact closed_or_endsOpen_cons (by simp) ih
  | literal _ _ ih => exact closed_or_endsOpen_cons (by simp) ih
  | call _ ih => exact closed_or_endsOpen_cons (by simp) ih
  | gap _ _ _ ih => exact closed_or_endsOpen_cons (by simp) ih
  | @unterminated body inside => exact .inr ⟨[], body, rfl, inside, by simp⟩

end Lexeme

/-- Behind closed lexemes, a literal without its closing quote is reported where it starts. -/
theorem tokensFrom_unterminated {before : List Lexeme} (position : Nat) (text : Text)
    (closed : ∀ lexeme ∈ before, lexeme.kind ≠ .unterminated) :
    tokensFrom position (before ++ [⟨.unterminated, text⟩]) =
      .error (.unterminatedLiteral (position + (Lexeme.texts before).byteLength)) := by
  induction before generalizing position with
  | nil => rfl
  | cons lexeme before ih =>
    obtain ⟨here, later⟩ := List.forall_mem_cons.mp closed
    rw [List.cons_append, tokensFrom, if_neg here, ih _ later, Lexeme.texts_cons,
      Text.byteLength_append, ← Nat.add_assoc]
    rfl

/-- The last quote of a text is found in one place. -/
theorem eq_of_last_quote {front front' body body' : Text}
    (same : front ++ '\'' :: body = front' ++ '\'' :: body') (last : '\'' ∉ body)
    (last' : '\'' ∉ body') : front = front' := by
  rcases List.append_eq_append_iff.mp same with ⟨between, frontEq, rest⟩ | ⟨between, frontEq, rest⟩
  · rcases List.cons_eq_append_iff.mp rest with ⟨rfl, -⟩ | ⟨middle, rfl, bodyEq⟩
    · simp [frontEq]
    · exact absurd (by simp [bodyEq]) last
  · rcases List.cons_eq_append_iff.mp rest with ⟨rfl, -⟩ | ⟨middle, rfl, bodyEq⟩
    · simp [frontEq]
    · exact absurd (by simp [bodyEq]) last'

/-- When an even number of quotes comes before the last quote, that one opens a literal which stays
open. -/
theorem tokens_of_last_quote {front body : Text} (even : Even (front.count '\''))
    (last : '\'' ∉ body) :
    tokens (front ++ '\'' :: body) = .error (.unterminatedLiteral front.byteLength) := by
  have lexed := Lexeme.wellLexed_ofText (front ++ '\'' :: body)
  have flat := Lexeme.ofText_flatten (front ++ '\'' :: body)
  have unclosed : ¬∀ lexeme ∈ Lexeme.ofText (front ++ '\'' :: body),
      lexeme.kind ≠ .unterminated := by
    rw [lexed.closed_iff, flat, even_count_quote_iff, List.count_eq_zero.mpr last, Nat.add_zero,
      not_not]
    exact even
  obtain ⟨before, body', lexemesEq, last', closed⟩ := lexed.closed_or_endsOpen.resolve_left unclosed
  have beforeEq : Lexeme.texts before = front := by
    rw [lexemesEq, Lexeme.texts, List.flatMap_append] at flat
    refine eq_of_last_quote ?_ last' last
    simpa [Lexeme.texts] using flat
  rw [tokens, lexemesEq, tokensFrom_unterminated 0 _ closed, beforeEq, Nat.zero_add]

/-- In a text with an odd number of quotes, an even number comes before the last. -/
theorem exists_last_quote {text : Text} (odd : ¬Even (text.count '\'')) :
    ∃ front body, text = front ++ '\'' :: body ∧ Even (front.count '\'') ∧ '\'' ∉ body := by
  have reversed : '\'' ∈ text.reverse := List.mem_reverse.mpr (quote_mem_of_odd odd)
  obtain ⟨body, front, reverseEq, last⟩ := List.eq_append_cons_of_mem reversed
  have textEq : text = front.reverse ++ '\'' :: body.reverse := by
    rw [← List.reverse_reverse text, reverseEq]
    simp
  have lastReversed : '\'' ∉ body.reverse := by simpa using last
  refine ⟨front.reverse, body.reverse, textEq, ?_, lastReversed⟩
  rw [textEq, even_count_quote_iff, List.count_eq_zero.mpr lastReversed, Nat.add_zero,
    not_not] at odd
  exact odd

/-- A text has no tokens when its quotes are odd in number, and then the position that is reported
is that of the last quote. -/
theorem tokens_error_iff_odd (text : Text) :
    ((∃ cause, tokens text = .error cause) ↔ Odd (text.count '\'')) ∧
      ∀ cause, tokens text = .error cause →
        ∃ front body, text = front ++ '\'' :: body ∧ '\'' ∉ body ∧
          cause = .unterminatedLiteral front.byteLength := by
  have reported (odd : ¬Even (text.count '\'')) :
      ∃ front body, text = front ++ '\'' :: body ∧ '\'' ∉ body ∧
        tokens text = .error (.unterminatedLiteral front.byteLength) := by
    obtain ⟨front, body, split, even, last⟩ := exists_last_quote odd
    refine ⟨front, body, split, last, ?_⟩
    rw [split]
    exact tokens_of_last_quote even last
  have oddOfError {cause : LexError} (failed : tokens text = .error cause) :
      ¬Even (text.count '\'') := by
    intro even
    obtain ⟨found, lexed⟩ := exists_tokens_iff.mpr even
    rw [lexed] at failed
    contradiction
  rw [← Nat.not_even_iff_odd]
  constructor
  · constructor
    · rintro ⟨cause, failed⟩
      exact oddOfError failed
    · intro odd
      obtain ⟨front, body, -, -, failed⟩ := reported odd
      exact ⟨_, failed⟩
  · intro cause failed
    obtain ⟨front, body, split, last, expected⟩ := reported (oddOfError failed)
    refine ⟨front, body, split, last, ?_⟩
    exact Except.error.inj (failed.symm.trans expected)

/-- The position counts the bytes before the quote. -/
example : tokens "'é' = é'x".toList = .error (.unterminatedLiteral 9) := by decide +kernel

end QuotedText.Sql
