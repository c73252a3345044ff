import QuotedText.Proofs.Sql.Mark
import QuotedText.Proofs.Sql.Token
import QuotedText.Proofs.Text.Trim

/-!
# Separated texts

No lexeme runs over a comma or goes on into a literal, so when the literals of a text are closed,
its lexemes do not change before a comma or a quote (`Sql.Lexeme.ofText_append`), and the tokens of
the text before a comma and of the text behind it are found apart from each other
(`Sql.tokens_append_comma`). A token that stands before a separator is found there as it is
(`Sql.tokens_token_append`), so tokens that are written with a comma between them are found again,
and with a space between them too when none of them begins with a blank
(`Sql.tokens_intercalate_texts`).
-/

namespace QuotedText.Sql

open Lexeme

namespace Lexeme

/-! ## Words before other lexemes -/

/-- Before lexemes that begin with no word, a character is a word of its own. -/
theorem consWord_apart {c : Char} {lexemes : List Lexeme}
    (apart : ∀ next ∈ lexemes.head?, next.kind ≠ .word) :
    consWord c lexemes = ⟨.word, [c]⟩ :: lexemes := by
  unfold consWord
  split
  · exact absurd rfl (apart _ rfl)
  · rfl

/-- A character of a word joins the lexemes before others that begin with no word. -/
theorem consWord_append (c : Char) (front : List Lexeme) {back : List Lexeme}
    (apart : ∀ next ∈ back.head?, next.kind ≠ .word) :
    consWord c (front ++ back) = consWord c front ++ back := by
  cases front with
  | nil => exact consWord_apart apart
  | cons lexeme more =>
    obtain ⟨kind, text⟩ := lexeme
    cases kind <;> rfl

/-- A character of a word opens no literal. -/
theorem closed_consWord_iff {c : Char} {lexemes : List Lexeme} :
    (∀ lexeme ∈ consWord c lexemes, lexeme.kind ≠ .unterminated) ↔
      ∀ lexeme ∈ lexemes, lexeme.kind ≠ .unterminated := by
  unfold consWord
  split <;> simp

/-- Characters of a word in which no call begins are one word before lexemes that begin with no
word. -/
theorem ofText_word_append {word rest : Text} (nonempty : word ≠ [])
    (plain : ∀ c ∈ word, isDelimiter c = false ∧ c ≠ '\'')
    (noCall : NoCallBegins word rest)
    (apart : ∀ next ∈ (ofText rest).head?, next.kind ≠ .word) :
    ofText (word ++ rest) = ⟨.word, word⟩ :: ofText rest := by
  induction word with
  | nil => contradiction
  | cons c word ih =>
    obtain ⟨here, later⟩ := List.forall_mem_cons.mp plain
    have noCallHere : ¬nowCall <+: c :: (word ++ rest) :=
      noCall (c :: word) nonempty List.suffix_rfl
    rw [List.cons_append, ofText_word here.2 here.1 noCallHere]
    by_cases last : word = []
    · subst last
      rw [List.nil_append, consWord_apart apart]
    · have noCallLater : NoCallBegins word rest :=
        fun tail some isTail => noCall tail some (isTail.trans (List.suffix_cons c word))
      rw [ih last later noCallLater]
      rfl

/-- A text that begins with a word begins with a character of a word. -/
theorem exists_head_of_word {text : Text} {first : Lexeme} (isFirst : first ∈ (ofText text).head?)
    (isWord : first.kind = .word) : ∃ c ∈ text.head?, isDelimiter c = false ∧ c ≠ '\'' := by
  have lexed := wellLexed_ofText text
  have flat := ofText_flatten text
  generalize ofText text = lexemes at lexed flat isFirst
  subst flat
  cases lexed with
  | nil => contradiction
  | word nonempty plain =>
    obtain ⟨c, rest, rfl⟩ := List.exists_cons_of_ne_nil nonempty
    exact ⟨c, rfl, plain c List.mem_cons_self⟩
  | literal | call | gap | unterminated =>
    obtain rfl := Option.some.inj isFirst
    contradiction

/-! ## Lexemes before a comma or a quote -/

/-- What is left behind the blanks at the head of a text is not blank, also before a text that
begins with no blank. -/
theorem visible_head_dropWhile_append {rest : Text}
    (visible : ∀ d ∈ rest.head?, isBlank d = false) (text : Text) :
    ∀ d ∈ (text.dropWhile isBlank ++ rest).head?, isBlank d = false := by
  cases left : text.dropWhile isBlank with
  | nil => exact visible
  | cons e more =>
    have visibleLeft := Text.visible_head_dropWhile text
    rwa [left] at visibleLeft

/-- A text that begins with a comma or a quote begins with no word. -/
theorem ne_word_of_comma_or_quote {rest : Text} (apart : ∀ c ∈ rest.head?, c = ',' ∨ c = '\'') :
    ∀ next ∈ (ofText rest).head?, next.kind ≠ .word := by
  intro next isFirst isWord
  obtain ⟨c, isHead, plain, unquoted⟩ := exists_head_of_word isFirst isWord
  rcases apart c isHead with rfl | rfl
  · exact absurd plain (by decide)
  · exact unquoted rfl

/-- When the literals of a text are closed, its lexemes do not change before a comma or a quote. -/
theorem ofText_append {front rest : Text}
    (closed : ∀ lexeme ∈ ofText front, lexeme.kind ≠ .unterminated)
    (apart : ∀ c ∈ rest.head?, c = ',' ∨ c = '\'') :
    ofText (front ++ rest) = ofText front ++ ofText rest := by
  have sameCall (text : Text) : nowCall <+: text ++ rest ↔ nowCall <+: text := by
    cases rest with
    | nil => rw [List.append_nil]
    | cons c rest =>
      refine call_before_iff text rest ?_
      rcases apart c rfl with rfl | rfl <;> decide
  have visible : ∀ c ∈ rest.head?, isBlank c = false := by
    intro c isHead
    rcases apart c isHead with rfl | rfl <;> decide
  fun_induction ofText front with
  | case1 => rfl
  | case2 => exact absurd rfl (closed _ List.mem_cons_self)
  | case3 c text quote body close after found ih =>
    obtain rfl : c = '\'' := by simpa using quote
    obtain ⟨rfl, whole, inside⟩ := eq_of_dropWhile_quote found
    have again : '\'' :: text ++ rest = '\'' :: (body ++ '\'' :: (after ++ rest)) := by
      rw [List.cons_append, whole, List.append_assoc, List.cons_append]
    rw [again, ofText_literal inside, ih (List.forall_mem_cons.mp closed).2]
    rfl
  | case4 c text _ begins ih =>
    have blank : ∀ d ∈ text.takeWhile isBlank, isBlank d = true :=
      fun _ => List.mem_takeWhile_imp
    have again : c :: text ++ rest =
        c :: (text.takeWhile isBlank ++ (text.dropWhile isBlank ++ rest)) := by
      rw [← List.append_assoc, List.takeWhile_append_dropWhile, List.cons_append]
    rw [again, ofText_blanks begins blank (visible_head_dropWhile_append visible text),
      ih (List.forall_mem_cons.mp closed).2]
    rfl
  | case5 c text _ _ punctuation ih =>
    rw [List.cons_append, ofText_punctuation punctuation, ih (List.forall_mem_cons.mp closed).2]
    rfl
  | case6 c text _ _ _ here ih =>
    obtain ⟨after, whole⟩ := List.isPrefixOf_iff_prefix.mp here
    rw [← whole, List.drop_left] at ih closed ⊢
    rw [List.append_assoc, ofText_call, ih (List.forall_mem_cons.mp closed).2]
    rfl
  | case7 c text quote begins punctuation noCall ih =>
    have unquoted : c ≠ '\'' := by simpa using quote
    have plain : isDelimiter c = false := by simp [isDelimiter, begins, punctuation]
    have stillNoCall : ¬nowCall <+: c :: (text ++ rest) := by
      rw [← List.cons_append, sameCall]
      rwa [List.isPrefixOf_iff_prefix] at noCall
    rw [List.cons_append, ofText_word unquoted plain stillNoCall,
      ih (closed_consWord_iff.mp closed), consWord_append c _ (ne_word_of_comma_or_quote apart)]

/-- When the literals of a text are closed, its lexemes do not change before a comma. -/
theorem ofText_append_comma {front : Text}
    (closed : ∀ lexeme ∈ ofText front, lexeme.kind ≠ .unterminated) (back : Text) :
    ofText (front ++ ',' :: back) = ofText front ++ ⟨.gap, [',']⟩ :: ofText back := by
  have apart : ∀ c ∈ (',' :: back).head?, c = ',' ∨ c = '\'' := by simp
  rw [ofText_append closed apart, ofText_punctuation (by decide) back]

end Lexeme

/-! ## Tokens before a comma -/

/-- Tokens of two texts stand one after the other when a comma is between the texts. When no quote
closes a literal of the second text, its position counts the bytes of the first text and of the
comma. -/
theorem tokens_append_comma {front : Text} {found : List Token} (lexed : tokens front = .ok found)
    (back : Text) :
    (∀ more, tokens back = .ok more → tokens (front ++ ',' :: back) = .ok (found ++ more)) ∧
      ∀ position, tokens back = .error (.unterminatedLiteral position) →
        tokens (front ++ ',' :: back) =
          .error (.unterminatedLiteral (front.byteLength + 1 + position)) := by
  constructor
  · intro more lexedBack
    obtain ⟨closed, rfl⟩ := tokens_eq_ok_iff.mp lexed
    obtain ⟨closedBack, rfl⟩ := tokens_eq_ok_iff.mp lexedBack
    have noToken : Lexeme.token? ⟨.gap, [',']⟩ = none := rfl
    rw [tokens_eq_ok_iff, ofText_append_comma closed, List.filterMap_append,
      List.filterMap_cons_none noToken]
    refine ⟨?_, rfl⟩
    intro lexeme member
    rcases List.mem_append.mp member with inFront | inRest
    · exact closed lexeme inFront
    · rcases List.mem_cons.mp inRest with rfl | inBack
      · decide
      · exact closedBack lexeme inBack
  · intro position failed
    have even : Even (front.count '\'') := exists_tokens_iff.mp ⟨found, lexed⟩
    have odd : ¬Even (back.count '\'') := by
      rw [← exists_tokens_iff, failed]
      rintro ⟨more, lexedBack⟩
      contradiction
    obtain ⟨before, body, rfl, evenBefore, inside⟩ := exists_last_quote odd
    obtain rfl : before.byteLength = position := by
      rw [tokens_of_last_quote evenBefore inside] at failed
      simpa using failed
    have evenAll : Even ((front ++ ',' :: before).count '\'') := by
      rw [List.count_append, List.count_cons_of_ne (by decide)]
      exact even.add evenBefore
    have again : front ++ ',' :: (before ++ '\'' :: body) = front ++ ',' :: before ++ '\'' :: body := by
      rw [List.append_assoc, List.cons_append]
    have length : (front ++ ',' :: before).byteLength =
        front.byteLength + 1 + before.byteLength := by
      rw [Text.byteLength_append, Text.byteLength_cons, Nat.add_assoc]
      rfl
    rw [again, tokens_of_last_quote evenAll inside, length]

/-- The first text may end with blanks or with the beginning of a call, and the second may begin
with the rest of the call. -/
theorem tokens_append_comma_cut :
    tokens "é 'x' NOW(".toList =
        .ok [⟨.identifier, ['é']⟩, ⟨.stringLiteral, "'x'".toList⟩, ⟨.identifier, "NOW".toList⟩] ∧
      tokens ")\u00a0y".toList = .ok [⟨.identifier, "\u00a0y".toList⟩] ∧
      tokens "é 'x' NOW(,)\u00a0y".toList =
        .ok [⟨.identifier, ['é']⟩, ⟨.stringLiteral, "'x'".toList⟩, ⟨.identifier, "NOW".toList⟩,
          ⟨.identifier, "\u00a0y".toList⟩] ∧
      tokens "''é'".toList = .error (.unterminatedLiteral 4) ∧
      tokens "é 'x' NOW(,''é'".toList = .error (.unterminatedLiteral 16) := by
  have lexed : tokens "é 'x' NOW(".toList =
      .ok [⟨.identifier, ['é']⟩, ⟨.stringLiteral, "'x'".toList⟩, ⟨.identifier, "NOW".toList⟩] := by
    decide +kernel
  have lexedBack : tokens ")\u00a0y".toList = .ok [⟨.identifier, "\u00a0y".toList⟩] := by
    decide +kernel
  have failed : tokens "''é'".toList = .error (.unterminatedLiteral 4) := by decide +kernel
  exact ⟨lexed, lexedBack, (tokens_append_comma lexed _).1 _ lexedBack, failed,
    (tokens_append_comma lexed _).2 _ failed⟩

/-! ## Tokens that are written again -/

/-- A text goes on with a separator when it is empty or begins with one that no call has. -/
def GoesOnApart (rest : Text) : Prop :=
  ∀ c ∈ rest.head?, isDelimiter c = true ∧ c ∉ nowCall

/-- No word goes on with what begins with a separator. -/
theorem GoesOnApart.ne_word {rest : Text} (apart : GoesOnApart rest) :
    ∀ next ∈ (ofText rest).head?, next.kind ≠ .word := by
  intro next isFirst isWord
  obtain ⟨c, isHead, plain, -⟩ := exists_head_of_word isFirst isWord
  rw [(apart c isHead).1] at plain
  contradiction

/-- No call begins in a word that a separator follows. -/
theorem GoesOnApart.not_call {word rest : Text} (apart : GoesOnApart rest)
    (plain : ∀ c ∈ word, isDelimiter c = false) : ¬nowCall <+: word ++ rest := by
  have noCall : ¬nowCall <+: word := by
    intro call
    have delimiter : isDelimiter '(' = false := plain '(' (call.subset (by decide))
    contradiction
  cases rest with
  | nil => rwa [List.append_nil]
  | cons c rest => rwa [call_before_iff word rest (apart c rfl).2]

/-- A token before a separator is read as it is. -/
theorem exists_ofText_token_append {token : Token} {rest : Text} (formed : token.WellFormed)
    (apart : GoesOnApart rest) :
    ∃ lexeme, ofText (token.text ++ rest) = lexeme :: ofText rest ∧
      lexeme.kind ≠ .unterminated ∧ lexeme.token? = some token := by
  obtain ⟨kind, text⟩ := token
  cases kind with
  | identifier =>
    obtain ⟨⟨c, member, visible⟩, plain⟩ := formed
    have nonempty : text ≠ [] := List.ne_nil_of_mem member
    have noCall : NoCallBegins text rest :=
      fun tail _ isTail => apart.not_call fun d inTail => (plain d (isTail.subset inTail)).1
    refine ⟨⟨.word, text⟩, ofText_word_append nonempty plain noCall apart.ne_word, by simp, ?_⟩
    exact token?_eq_identifier_iff.mpr ⟨rfl, c, member, visible⟩
  | stringLiteral =>
    obtain ⟨body, rfl, inside⟩ := formed
    refine ⟨⟨.literal, '\'' :: (body ++ ['\''])⟩, ?_, by simp, rfl⟩
    rw [List.cons_append, List.append_assoc, List.singleton_append, ofText_literal inside]
  | functionCall =>
    obtain rfl : text = nowCall := formed
    exact ⟨⟨.call, nowCall⟩, ofText_call rest, by decide, rfl⟩

/-- A lexeme at the head of a text puts its token, if it has one, before the others. -/
theorem tokens_of_ofText_cons {text rest : Text} {lexeme : Lexeme} {found : List Token}
    (first : ofText text = lexeme :: ofText rest) (closed : lexeme.kind ≠ .unterminated)
    (lexed : tokens rest = .ok found) : tokens text = .ok (lexeme.token?.toList ++ found) := by
  obtain ⟨closedRest, rfl⟩ := tokens_eq_ok_iff.mp lexed
  rw [tokens_eq_ok_iff, first]
  refine ⟨List.forall_mem_cons.mpr ⟨closed, closedRest⟩, ?_⟩
  cases isToken : lexeme.token? with
  | none =>
    rw [List.filterMap_cons_none isToken]
    rfl
  | some token =>
    rw [List.filterMap_cons_some isToken]
    rfl

/-- No text has no tokens. -/
theorem tokens_nil : tokens [] = .ok [] := by
  rw [tokens, ofText]
  rfl

/-- A token before a separator comes before the tokens behind the separator. -/
theorem tokens_token_append {token : Token} {rest : Text} {found : List Token}
    (formed : token.WellFormed) (apart : GoesOnApart rest) (lexed : tokens rest = .ok found) :
    tokens (token.text ++ rest) = .ok (token :: found) := by
  obtain ⟨lexeme, first, closed, isToken⟩ := exists_ofText_token_append formed apart
  rw [tokens_of_ofText_cons first closed lexed, isToken]
  rfl

/-- A separator makes no token, when it takes no blank from the text behind it. -/
theorem tokens_separator_append {separator : Char} {rest : Text} {found : List Token}
    (delimiter : isDelimiter separator = true)
    (visible : beginsBlankGap separator = true → ∀ c ∈ rest.head?, isBlank c = false)
    (lexed : tokens rest = .ok found) : tokens (separator :: rest) = .ok found := by
  have first : ofText (separator :: rest) = ⟨.gap, [separator]⟩ :: ofText rest := by
    rw [isDelimiter, Bool.or_eq_true] at delimiter
    rcases delimiter with begins | punctuation
    · exact ofText_blanks begins (List.forall_mem_nil _) (visible begins)
    · exact ofText_punctuation punctuation rest
  exact tokens_of_ofText_cons first (by simp) lexed

/-- No token is empty. -/
theorem Token.WellFormed.text_ne_nil {token : Token} (formed : token.WellFormed) :
    token.text ≠ [] := by
  obtain ⟨kind, text⟩ := token
  cases kind with
  | identifier =>
    obtain ⟨⟨c, member, -⟩, -⟩ := formed
    exact List.ne_nil_of_mem member
  | stringLiteral =>
    obtain ⟨body, rfl, -⟩ := formed
    exact List.cons_ne_nil _ _
  | functionCall =>
    obtain rfl : text = nowCall := formed
    decide

/-- Only an identifier may begin with a blank. -/
theorem Token.WellFormed.visible_head {token : Token} (formed : token.WellFormed)
    (visible : token.kind = .identifier → ∀ c ∈ token.text.head?, isBlank c = false) :
    ∀ c ∈ token.text.head?, isBlank c = false := by
  obtain ⟨kind, text⟩ := token
  intro c isHead
  cases kind with
  | identifier => exact visible rfl c isHead
  | stringLiteral =>
    obtain ⟨body, rfl, -⟩ := formed
    obtain rfl := Option.some.inj isHead
    decide
  | functionCall =>
    obtain rfl : text = nowCall := formed
    obtain rfl := Option.some.inj isHead
    decide

/-- Joined texts begin with the first of them. -/
theorem exists_intercalate_cons (separator text : Text) (more : List Text) :
    ∃ rest, List.intercalate separator (text :: more) = text ++ rest := by
  cases more with
  | nil => exact ⟨[], by rw [List.intercalate_singleton, List.append_nil]⟩
  | cons next more => exact ⟨_, by rw [List.intercalate_cons_cons, List.append_assoc]⟩

/-- Tokens that are written with a separator between them are found again. -/
theorem tokens_intercalate {separator : Char} {found : List Token}
    (delimiter : isDelimiter separator = true) (foreign : separator ∉ nowCall)
    (formed : ∀ token ∈ found, token.WellFormed)
    (visible : beginsBlankGap separator = true →
      ∀ token ∈ found, ∀ c ∈ token.text.head?, isBlank c = false) :
    tokens (List.intercalate [separator] (found.map (·.text))) = .ok found := by
  induction found with
  | nil =>
    rw [List.map_nil, List.intercalate_nil]
    exact tokens_nil
  | cons token found ih =>
    obtain ⟨formedHere, formedLater⟩ := List.forall_mem_cons.mp formed
    have lexed := ih formedLater fun begins => (List.forall_mem_cons.mp (visible begins)).2
    cases found with
    | nil =>
      have atEnd : GoesOnApart [] := by simp [GoesOnApart]
      rw [List.map_singleton, List.intercalate_singleton]
      simpa using tokens_token_append formedHere atEnd lexed
    | cons next found =>
      have visibleRest : beginsBlankGap separator = true →
          ∀ c ∈ (List.intercalate [separator] ((next :: found).map (·.text))).head?,
            isBlank c = false := by
        intro begins
        have visibleNext := visible begins next (by simp)
        obtain ⟨rest, joined⟩ := exists_intercalate_cons [separator] next.text (found.map (·.text))
        have nonempty : next.text ≠ [] := (formedLater next List.mem_cons_self).text_ne_nil
        rwa [List.map_cons, joined, List.head?_append_of_ne_nil _ nonempty]
      have separated := tokens_separator_append delimiter visibleRest lexed
      have apart : GoesOnApart
          (separator :: List.intercalate [separator] ((next :: found).map (·.text))) := by
        intro c isHead
        obtain rfl := Option.some.inj isHead
        exact ⟨delimiter, foreign⟩
      have again := tokens_token_append formedHere apart separated
      rw [List.map_cons, List.map_cons, List.intercalate_cons_cons, List.append_assoc]
      exact again

/-- The tokens of a text are found again when they are written with a comma between them, and also
when they are written with a space between them and no identifier begins with a blank. -/
theorem tokens_intercalate_texts {text : Text} {found : List Token}
    (lexed : tokens text = .ok found) :
    tokens (List.intercalate [','] (found.map (·.text))) = .ok found ∧
      ((∀ token ∈ found, token.kind = .identifier → ∀ c ∈ token.text.head?, isBlank c = false) →
        tokens (List.intercalate [' '] (found.map (·.text))) = .ok found) := by
  have formed := wellFormed_of_mem_tokens lexed
  constructor
  · refine tokens_intercalate (by decide) (by decide) formed ?_
    intro begins
    exact absurd begins (by decide)
  · intro visible
    refine tokens_intercalate (by decide) (by decide) formed ?_
    exact fun _ token member => (formed token member).visible_head (visible token member)

/-- An identifier may begin with a blank where a comma is written before it, and with blanks at its
end it may be written before a space. -/
theorem tokens_intercalate_texts_blanks :
    tokens "(\u00a0x)NOW NOW()'a''\u2003'".toList =
        .ok [⟨.identifier, "\u00a0x".toList⟩, ⟨.identifier, "NOW".toList⟩,
          ⟨.functionCall, nowCall⟩, ⟨.stringLiteral, "'a'".toList⟩,
          ⟨.stringLiteral, "'\u2003'".toList⟩] ∧
      tokens "\u00a0x,NOW,NOW(),'a','\u2003'".toList =
        .ok [⟨.identifier, "\u00a0x".toList⟩, ⟨.identifier, "NOW".toList⟩,
          ⟨.functionCall, nowCall⟩, ⟨.stringLiteral, "'a'".toList⟩,
          ⟨.stringLiteral, "'\u2003'".toList⟩] ∧
      tokens "NO\u00a0,'\t'NOW()".toList =
        .ok [⟨.identifier, "NO\u00a0".toList⟩, ⟨.stringLiteral, "'\t'".toList⟩,
          ⟨.functionCall, nowCall⟩] ∧
      (∀ token ∈ ([⟨.identifier, "NO\u00a0".toList⟩, ⟨.stringLiteral, "'\t'".toList⟩,
          ⟨.functionCall, nowCall⟩] : List Token),
        token.kind = .identifier → ∀ c ∈ token.text.head?, isBlank c = false) ∧
      tokens "NO\u00a0 '\t' NOW()".toList =
        .ok [⟨.identifier, "NO\u00a0".toList⟩, ⟨.stringLiteral, "'\t'".toList⟩,
          ⟨.functionCall, nowCall⟩] := by
  have lexed : tokens "(\u00a0x)NOW NOW()'a''\u2003'".toList =
      .ok [⟨.identifier, "\u00a0x".toList⟩, ⟨.identifier, "NOW".toList⟩,
        ⟨.functionCall, nowCall⟩, ⟨.stringLiteral, "'a'".toList⟩,
        ⟨.stringLiteral, "'\u2003'".toList⟩] := by
    decide +kernel
  have lexedVisible : tokens "NO\u00a0,'\t'NOW()".toList =
      .ok [⟨.identifier, "NO\u00a0".toList⟩, ⟨.stringLiteral, "'\t'".toList⟩,
        ⟨.functionCall, nowCall⟩] := by
    decide +kernel
  have visible : ∀ token ∈ ([⟨.identifier, "NO\u00a0".toList⟩, ⟨.stringLiteral, "'\t'".toList⟩,
        ⟨.functionCall, nowCall⟩] : List Token),
      token.kind = .identifier → ∀ c ∈ token.text.head?, isBlank c = false := by
    simp only [String.reduceToList, List.mem_cons, List.not_mem_nil, or_false, Option.mem_def,
      forall_eq_or_imp, List.head?_cons, Option.some.injEq, forall_eq', forall_const,
      reduceCtorEq, false_imp_iff, forall_eq, and_true]
    decide
  exact ⟨lexed, (tokens_intercalate_texts lexed).1, lexedVisible, visible,
    (tokens_intercalate_texts lexedVisible).2 visible⟩

end QuotedText.Sql
