import QuotedText.Proofs.Quote.Escape
import QuotedText.Proofs.Quote.Rewrite
import QuotedText.Proofs.Sql.Literal
import QuotedText.Proofs.Sql.Separated
import QuotedText.Proofs.Text.Flatten

/-!
# Flattened text

Flattening makes one space of each run of blanks, so outside literals it shortens gaps and changes
no other lexeme, when only spaces, tabs and line breaks stand there
(`Sql.Lexeme.ofText_texts_flattened`). The lexemes of a text are those of its spans one after the
other, as no lexeme goes on into a literal. So flattening all that is unquoted changes no token
(`Sql.tokens_rewriteUnquoted_flatten`).
-/

namespace QuotedText.Sql

open Lexeme QuoteStyle

variable {letterCase : LetterCase}

/-! ## Lexemes of unquoted text -/

namespace Lexeme

/-- A lexeme with its blanks flattened when it is a gap. -/
def flattened (lexeme : Lexeme) : Lexeme :=
  match lexeme.kind with
  | .gap => ⟨.gap, Text.flatten lexeme.text⟩
  | .word | .literal | .call | .unterminated => lexeme

/-- A flattened lexeme keeps its kind. -/
@[simp] theorem flattened_kind (lexeme : Lexeme) : lexeme.flattened.kind = lexeme.kind := by
  obtain ⟨kind, text⟩ := lexeme
  cases kind <;> rfl

/-- A flattened lexeme stands for the same token. -/
@[simp] theorem flattened_token? (lexeme : Lexeme) : lexeme.flattened.token? = lexeme.token? := by
  obtain ⟨kind, text⟩ := lexeme
  cases kind <;> rfl

/-- A character of a word changes nothing about the gaps behind it. -/
theorem map_flattened_consWord (c : Char) (lexemes : List Lexeme) :
    (consWord c lexemes).map flattened = consWord c (lexemes.map flattened) := by
  cases lexemes with
  | nil => rfl
  | cons lexeme more =>
    obtain ⟨kind, text⟩ := lexeme
    cases kind <;> rfl

/-- A space, tab or line break with the blanks behind it is one space when flattened. -/
theorem flatten_blanks {c : Char} {blanks : Text} (begins : beginsBlankGap c = true)
    (blank : ∀ d ∈ blanks, isBlank d = true) : Text.flatten (c :: blanks) = [' '] := by
  rw [Text.flatten_blank (isBlank_of_beginsBlankGap begins), List.dropWhile_eq_nil_iff.mpr blank]
  rfl

/-- Without quotes and with no other blanks than spaces, tabs and line breaks, flattening a text
flattens its gaps. -/
theorem ofText_flattened {text : Text} (noQuote : '\'' ∉ text)
    (plain : ∀ c ∈ text, isBlank c = true → beginsBlankGap c = true) :
    ofText (Text.flatten text) = (ofText text).map flattened := by
  fun_induction ofText text with
  | case1 =>
    rw [Text.flatten, Text.flattenFrom, ofText]
    rfl
  | case2 c rest quote | case3 c rest quote =>
    obtain rfl : c = '\'' := by simpa using quote
    exact absurd List.mem_cons_self noQuote
  | case4 c rest _ begins ih =>
    have blank : ∀ d ∈ rest.takeWhile isBlank, isBlank d = true :=
      fun _ => List.mem_takeWhile_imp
    have inText : rest.dropWhile isBlank ⊆ c :: rest :=
      List.subset_cons_of_subset c (List.dropWhile_suffix isBlank).subset
    have visible := Text.visible_head_dropWhile rest
    have later := ih (fun member => noQuote (inText member)) fun d member => plain d (inText member)
    have space : ofText (' ' :: Text.flatten (rest.dropWhile isBlank)) =
        ⟨.gap, [' ']⟩ :: ofText (Text.flatten (rest.dropWhile isBlank)) :=
      ofText_blanks (by decide) (List.forall_mem_nil _) (Text.visible_head_flatten visible)
    rw [Text.flatten_blank (isBlank_of_beginsBlankGap begins), space, later, List.map_cons,
      flattened, flatten_blanks begins blank]
  | case5 c rest _ _ punctuation ih =>
    obtain ⟨-, plainRest⟩ := List.forall_mem_cons.mp plain
    have visible := isBlank_eq_false_of_isPunctuation punctuation
    have alone : Text.flatten [c] = [c] := Text.flatten_visible visible []
    rw [Text.flatten_visible visible, ofText_punctuation punctuation,
      ih (List.not_mem_of_not_mem_cons noQuote) plainRest, List.map_cons, flattened, alone]
  | case6 c rest _ _ _ here ih =>
    obtain ⟨after, whole⟩ := List.isPrefixOf_iff_prefix.mp here
    rw [← whole, List.drop_left] at ih
    rw [← whole] at noQuote plain ⊢
    have later := ih (fun member => noQuote (List.mem_append_right _ member))
      (List.forall_mem_append.mp plain).2
    rw [Text.flatten_visible_append visible_nowCall, ofText_call, later, List.drop_left]
    rfl
  | case7 c rest quote begins punctuation noCall ih =>
    obtain ⟨plainHere, plainRest⟩ := List.forall_mem_cons.mp plain
    have unquoted : c ≠ '\'' := by simpa using quote
    have inWord : isDelimiter c = false := by simp [isDelimiter, begins, punctuation]
    have visible := isBlank_eq_false_of_plain inWord plainHere
    have stillNoCall : ¬nowCall <+: c :: Text.flatten rest := by
      rw [← Text.flatten_visible visible, Text.prefix_flatten_iff visible_nowCall]
      rwa [List.isPrefixOf_iff_prefix] at noCall
    rw [Text.flatten_visible visible, ofText_word unquoted inWord stillNoCall,
      ih (List.not_mem_of_not_mem_cons noQuote) plainRest, map_flattened_consWord]

/-- Lexemes of text without quotes do not change before a literal. -/
theorem ofText_append_of_noQuote {front rest : Text} (noQuote : '\'' ∉ front)
    (goesOn : ∀ c ∈ rest.head?, c = '\'') : ofText (front ++ rest) = ofText front ++ ofText rest :=
  ofText_append (fun lexeme member => (ne_literal_of_noQuote noQuote lexeme member).2)
    fun c isHead => .inr (goesOn c isHead)

/-- Flattening unquoted text flattens its gaps, also before a literal. -/
theorem ofText_flattened_append {front rest : Text} (noQuote : '\'' ∉ front)
    (plain : ∀ c ∈ front, isBlank c = true → beginsBlankGap c = true)
    (goesOn : ∀ c ∈ rest.head?, c = '\'') :
    ofText (Text.flatten front ++ rest) = (ofText front).map flattened ++ ofText rest := by
  have here := ofText_flattened noQuote plain
  have closed : ∀ lexeme ∈ ofText (Text.flatten front), lexeme.kind ≠ .unterminated := by
    rw [here]
    simpa using fun lexeme member => (ne_literal_of_noQuote noQuote lexeme member).2
  rw [ofText_append closed fun c isHead => .inr (goesOn c isHead), here]

end Lexeme

/-! ## Spans -/

/-- Rewritten spans behind unquoted text begin as they did. -/
theorem head?_texts_rewrite {change : Text → Text} {spans : List Span}
    (cut : (literals letterCase .none).WellCut spans)
    (regions : ∀ first ∈ spans.head?, first.kind ≠ .unquoted) :
    (Span.texts (spans.map (·.rewrite change))).head? = (Span.texts spans).head? := by
  cases cut with
  | nil => rfl
  | unquoted => exact absurd rfl (regions _ rfl)
  | quoted => rfl
  | unterminated => rfl

/-- Every blank outside the literals of a text is a space, tab or line break. -/
def PlainOutsideLiterals (text : Text) : Prop :=
  ∀ lexeme ∈ ofText text, lexeme.kind ≠ .literal →
    ∀ c ∈ lexeme.text, isBlank c = true → beginsBlankGap c = true

instance : DecidablePred PlainOutsideLiterals := fun text =>
  decidable_of_iff
    ((ofText text).all fun lexeme => lexeme.kind = .literal || lexeme.text.all isPlain)
    (by simp [PlainOutsideLiterals, isPlain_iff, or_iff_not_imp_left])

/-- Without a quote, every blank of a text is outside literals. -/
theorem PlainOutsideLiterals.of_noQuote {text : Text} (plain : PlainOutsideLiterals text)
    (noQuote : '\'' ∉ text) : ∀ c ∈ text, isBlank c = true → beginsBlankGap c = true := by
  intro c member
  rw [← ofText_flatten text] at member
  obtain ⟨lexeme, isLexeme, inLexeme⟩ := List.mem_flatMap.mp member
  exact plain lexeme isLexeme (ne_literal_of_noQuote noQuote lexeme isLexeme).1 c inLexeme

/-- Flattening unquoted spans flattens the gaps of a text. -/
theorem ofText_texts_flattened {spans : List Span}
    (cut : (literals letterCase .none).WellCut spans)
    (plain : PlainOutsideLiterals (Span.texts spans)) :
    ofText (Span.texts (spans.map (·.rewrite Text.flatten))) =
      (ofText (Span.texts spans)).map flattened := by
  induction cut with
  | nil =>
    rw [List.map_nil, Span.texts_nil, ofText]
    rfl
  | @unquoted text more nonempty unquoted maximal cut ih =>
    obtain ⟨noQuote, goesOn⟩ := apart_of_unquoted (.unquoted nonempty unquoted maximal cut)
    have split := ofText_append_of_noQuote noQuote goesOn
    rw [Span.texts_cons, PlainOutsideLiterals, split] at plain
    obtain ⟨plainText, plainMore⟩ := List.forall_mem_append.mp plain
    have plainHere := PlainOutsideLiterals.of_noQuote plainText noQuote
    rw [← head?_texts_rewrite cut maximal] at goesOn
    rw [List.map_cons, Span.rewrite_unquoted, Span.texts_cons, Span.texts_cons, split,
      ofText_flattened_append noQuote plainHere goesOn, ih plainMore, List.map_append]
  | @quoted opener close body more quote inside closes _ _ ih =>
    obtain rfl : opener = '\'' := isQuote_literals.mp quote
    obtain rfl : close = '\'' := closes_literals.mp closes
    have literal := ofText_literal (not_mem_of_inside inside)
    rw [Span.texts_cons_closed, PlainOutsideLiterals, literal] at plain
    rw [List.map_cons, Span.rewrite_quoted, Span.texts_cons_closed, Span.texts_cons_closed, literal,
      literal, ih (List.forall_mem_cons.mp plain).2]
    rfl
  | @unterminated opener body quote inside =>
    obtain rfl : opener = '\'' := isQuote_literals.mp quote
    rw [List.map_singleton, Span.rewrite_unterminated, Span.texts_singleton,
      ofText_unterminated (not_mem_of_inside inside)]
    rfl

/-! ## Tokens -/

/-- Flattening the blanks outside literals changes no token, when these blanks are spaces, tabs and
line breaks. -/
theorem tokens_rewriteUnquoted_flatten {text : Text} {found : List Token}
    (lexed : tokens text = .ok found) (plain : PlainOutsideLiterals text) :
    tokens (QuoteStyle.rewriteUnquoted {} Text.flatten text) = .ok found := by
  have escapes : QuoteStyle.rewriteUnquoted {} Text.flatten text =
      (literals .insensitive .none).rewriteUnquoted Text.flatten text :=
    rewriteUnquoted_escape (literals .insensitive .none) Text.flatten text
  have cut := (literals .insensitive .none).wellCut_spans text
  have flat : Span.texts ((literals .insensitive .none).spans text) = text :=
    (literals .insensitive .none).spans_flatten text
  have gaps := ofText_texts_flattened cut (by rwa [flat])
  obtain ⟨closed, rfl⟩ := tokens_eq_ok_iff.mp lexed
  rw [tokens_eq_ok_iff, escapes, rewriteUnquoted_eq, ← Span.texts_map_rewrite, gaps, flat]
  constructor
  · simpa using closed
  · simp [List.filterMap_map]

/-- Blanks stay in a literal, those in a call make it none, and a run of line breaks and tabs becomes
one space. -/
theorem tokens_rewriteUnquoted_flatten_runs :
    tokens "\t NOW(\r\n)'a''\u00a0 \tb'\n\n,NOW()\t(NO W\t".toList =
        .ok [⟨.identifier, "NOW".toList⟩, ⟨.stringLiteral, "'a'".toList⟩,
          ⟨.stringLiteral, "'\u00a0 \tb'".toList⟩, ⟨.functionCall, nowCall⟩,
          ⟨.identifier, "NO".toList⟩, ⟨.identifier, ['W']⟩] ∧
      PlainOutsideLiterals "\t NOW(\r\n)'a''\u00a0 \tb'\n\n,NOW()\t(NO W\t".toList ∧
      QuoteStyle.rewriteUnquoted {} Text.flatten
          "\t NOW(\r\n)'a''\u00a0 \tb'\n\n,NOW()\t(NO W\t".toList =
        " NOW( )'a''\u00a0 \tb' ,NOW() (NO W ".toList ∧
      tokens " NOW( )'a''\u00a0 \tb' ,NOW() (NO W ".toList =
        .ok [⟨.identifier, "NOW".toList⟩, ⟨.stringLiteral, "'a'".toList⟩,
          ⟨.stringLiteral, "'\u00a0 \tb'".toList⟩, ⟨.functionCall, nowCall⟩,
          ⟨.identifier, "NO".toList⟩, ⟨.identifier, ['W']⟩] := by
  have lexed : tokens "\t NOW(\r\n)'a''\u00a0 \tb'\n\n,NOW()\t(NO W\t".toList =
      .ok [⟨.identifier, "NOW".toList⟩, ⟨.stringLiteral, "'a'".toList⟩,
        ⟨.stringLiteral, "'\u00a0 \tb'".toList⟩, ⟨.functionCall, nowCall⟩,
        ⟨.identifier, "NO".toList⟩, ⟨.identifier, ['W']⟩] := by
    decide +kernel
  have plain :
      PlainOutsideLiterals "\t NOW(\r\n)'a''\u00a0 \tb'\n\n,NOW()\t(NO W\t".toList := by
    decide +kernel
  have flat : QuoteStyle.rewriteUnquoted {} Text.flatten
        "\t NOW(\r\n)'a''\u00a0 \tb'\n\n,NOW()\t(NO W\t".toList =
      " NOW( )'a''\u00a0 \tb' ,NOW() (NO W ".toList := by
    decide +kernel
  have again := tokens_rewriteUnquoted_flatten lexed plain
  rw [flat] at again
  exact ⟨lexed, plain, flat, again⟩

end QuotedText.Sql
