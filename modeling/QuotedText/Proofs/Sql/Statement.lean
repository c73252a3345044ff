import QuotedText.Proofs.Quote.Hold
import QuotedText.Proofs.Quote.Piece
import QuotedText.Proofs.Sql.Lexeme
import QuotedText.Proofs.Sql.Region

/-!
# Tokens of statements

A script is cut into statements outside its literals and its quoted names, but a statement is cut
into tokens with `'` as its only quote. Both agree on literals, as every literal region has an even
number of quotes (`Sql.even_count_of_inside`). In a name a quote counts for tokens only, so in a
script whose regions are closed a statement has tokens when its names hold an even number of quotes
together (`Sql.tokens_statement_iff`).
-/

namespace QuotedText.Sql

open QuoteStyle

/-! ## Statements and regions -/

/-- A statement is a piece of its script behind blanks. -/
theorem exists_piece_of_mem_statements {script statement : Text}
    (member : statement ∈ statements script) :
    ∃ blanks, ∃ piece ∈ QuoteStyle.sql.pieces terminator { includeToken := true } script,
      statement = blanks ++ piece ∧ blanks.isBlankText = true := by
  have reported : statement ∈ holdBlanks []
      (QuoteStyle.sql.pieces terminator { includeToken := true } script) :=
    (List.mem_filter.mp member).1
  exact exists_of_mem_holdBlanks rfl reported

/-- Every region of a statement is a region of its script. -/
theorem mem_spans_of_mem_statements {script statement : Text} {span : Span}
    (member : statement ∈ statements script) (isSpan : span ∈ QuoteStyle.sql.spans statement)
    (region : span.kind ≠ .unquoted) : span ∈ QuoteStyle.sql.spans script := by
  obtain ⟨blanks, piece, isPiece, rfl, blank⟩ := exists_piece_of_mem_statements member
  have plain : ∀ c ∈ blanks, QuoteStyle.sql.isQuote c = false :=
    fun c inBlanks => not_isQuote_of_isBlank (List.all_eq_true.mp blank c inBlanks)
  have inPiece := (mem_spans_append_iff plain region).mp isSpan
  exact mem_spans_of_mem_pieces rfl (terminator_apart _) isPiece inPiece region

/-! ## Quotes in regions -/

/-- A region that the backtick opens is a quoted name. -/
def isQuotedName (span : Span) : Bool :=
  span.kind ≠ .unquoted && span.text.head? == some '\x60'

/-- The quoted names of a text in order, with their quotes. -/
def quotedNames (text : Text) : List Text :=
  ((QuoteStyle.sql.spans text).filter isQuotedName).map (·.text)

/-- What stands in a literal has all its quotes doubled. -/
theorem even_count_of_inside {body : Text} (inside : QuoteStyle.sql.Inside '\'' body) :
    Even (body.count '\'') := by
  induction inside with
  | nil => exact Even.zero
  | @plain c rest other _ ih =>
    have different : c ≠ '\'' := by
      rintro rfl
      rw [closes_sql.mpr rfl] at other
      contradiction
    rwa [List.count_cons_of_ne different]
  | @pair c d rest _ first second _ ih =>
    obtain rfl : c = '\'' := closes_sql.mp first
    obtain rfl : d = '\'' := closes_sql.mp second
    rw [List.count_cons_self, List.count_cons_self]
    exact ih.add (by decide : Even 2)

/-- A closed literal has an even number of quotes. -/
theorem even_count_literal {body : Text} (inside : QuoteStyle.sql.Inside '\'' body) :
    Even (('\'' :: (body ++ ['\''])).count '\'') := by
  rw [List.count_cons_self, List.count_append, List.count_singleton_self, Nat.add_assoc]
  exact (even_count_of_inside inside).add (by decide : Even 2)

/-- Where all regions are closed, the quotes of a text are even in number when those in its quoted
names are. -/
theorem even_count_iff_of_wellCut {spans : List Span} (cut : QuoteStyle.sql.WellCut spans)
    (closed : ∀ span ∈ spans, span.kind ≠ .unterminated) :
    Even ((Span.texts spans).count '\'') ↔
      Even (((spans.filter isQuotedName).map (·.text)).flatten.count '\'') := by
  induction cut with
  | nil => rfl
  | @unquoted text more _ plain _ _ ih =>
    have none : text.count '\'' = 0 := by
      refine List.count_eq_zero.mpr fun member => ?_
      have quote : QuoteStyle.sql.isQuote '\'' := isQuote_sql.mpr (.inl rfl)
      rw [plain _ member] at quote
      contradiction
    have noName : isQuotedName ⟨.unquoted, text⟩ = false := rfl
    rw [Span.texts_cons, List.count_append, none, Nat.zero_add,
      List.filter_cons_of_neg (by simp [noName])]
    exact ih (List.forall_mem_cons.mp closed).2
  | @quoted opener close body more quote inside closes _ _ ih =>
    have others := ih (List.forall_mem_cons.mp closed).2
    obtain rfl : close = opener := closes_sql.mp closes
    rw [Span.texts_cons, List.count_append, Nat.even_add]
    rcases isQuote_sql.mp quote with rfl | rfl
    · have noName : isQuotedName ⟨.quoted, '\'' :: (body ++ ['\''])⟩ = false := rfl
      rw [List.filter_cons_of_neg (by simp [noName]), others]
      simp only [even_count_literal inside, true_iff]
    · have isName : isQuotedName ⟨.quoted, '\x60' :: (body ++ ['\x60'])⟩ = true := rfl
      rw [List.filter_cons_of_pos isName, List.map_cons, List.flatten_cons, List.count_append,
        Nat.even_add, others]
  | unterminated => exact absurd rfl (closed _ List.mem_cons_self)

/-- Where all regions are closed, a text has tokens when the quotes in its quoted names are even in
number. -/
theorem exists_tokens_iff_quotedNames {text : Text}
    (closed : ∀ span ∈ QuoteStyle.sql.spans text, span.kind ≠ .unterminated) :
    (∃ found, tokens text = .ok found) ↔ Even ((quotedNames text).flatten.count '\'') := by
  have counted := even_count_iff_of_wellCut (QuoteStyle.sql.wellCut_spans text) closed
  rw [spans_flatten] at counted
  rw [exists_tokens_iff, counted]
  rfl

/-- Texts with an even number of quotes each have an even number together. -/
theorem even_count_flatten {texts : List Text} (even : ∀ text ∈ texts, Even (text.count '\'')) :
    Even (texts.flatten.count '\'') := by
  induction texts with
  | nil => exact Even.zero
  | cons text texts ih =>
    obtain ⟨first, others⟩ := List.forall_mem_cons.mp even
    rw [List.flatten_cons, List.count_append]
    exact first.add (ih others)

/-! ## Statements and tokens -/

/-- In a script whose regions are closed, a statement has tokens when its quoted names hold an even
number of quotes together. So every statement has tokens when each name in the script holds an even
number of them. -/
theorem tokens_statement_iff (script : Text)
    (closed : ∀ span ∈ QuoteStyle.sql.spans script, span.kind ≠ .unterminated) :
    (∀ statement ∈ statements script, (∃ found, tokens statement = .ok found) ↔
      Even ((quotedNames statement).flatten.count '\'')) ∧
    ((∀ name ∈ quotedNames script, Even (name.count '\'')) →
      ∀ statement ∈ statements script, ∃ found, tokens statement = .ok found) := by
  have tokensIff : ∀ statement ∈ statements script, (∃ found, tokens statement = .ok found) ↔
      Even ((quotedNames statement).flatten.count '\'') := by
    intro statement member
    apply exists_tokens_iff_quotedNames
    intro span isSpan unterminated
    have region : span.kind ≠ .unquoted := by simp [unterminated]
    exact closed span (mem_spans_of_mem_statements member isSpan region) unterminated
  refine ⟨tokensIff, ?_⟩
  intro even statement member
  apply (tokensIff statement member).mpr
  apply even_count_flatten
  intro name isName
  obtain ⟨span, filtered, rfl⟩ := List.mem_map.mp isName
  obtain ⟨isSpan, named⟩ := List.mem_filter.mp filtered
  have region : span.kind ≠ .unquoted := by
    intro unquoted
    simp [isQuotedName, unquoted] at named
  have inScript := mem_spans_of_mem_statements member isSpan region
  exact even span.text (List.mem_map_of_mem (List.mem_filter.mpr ⟨inScript, named⟩))

/-- The second statement has one quote too many in its name, and the others have tokens. -/
theorem tokens_statement_iff_mixed :
    (∀ span ∈ QuoteStyle.sql.spans "\x60a''\x60 'b;''c';\x60it's\x60; d".toList,
        span.kind ≠ .unterminated) ∧
      statements "\x60a''\x60 'b;''c';\x60it's\x60; d".toList =
        ["\x60a''\x60 'b;''c';".toList, "\x60it's\x60;".toList, " d".toList] ∧
      (∃ found, tokens "\x60a''\x60 'b;''c';".toList = .ok found) ∧
      (¬∃ found, tokens "\x60it's\x60;".toList = .ok found) ∧
      ∃ found, tokens " d".toList = .ok found := by
  have closed : ∀ span ∈ QuoteStyle.sql.spans "\x60a''\x60 'b;''c';\x60it's\x60; d".toList,
      span.kind ≠ .unterminated := by
    decide +kernel
  have found : statements "\x60a''\x60 'b;''c';\x60it's\x60; d".toList =
      ["\x60a''\x60 'b;''c';".toList, "\x60it's\x60;".toList, " d".toList] := by
    decide +kernel
  have tokensIff := (tokens_statement_iff _ closed).1
  rw [found] at tokensIff
  have first := tokensIff "\x60a''\x60 'b;''c';".toList (by simp)
  have second := tokensIff "\x60it's\x60;".toList (by simp)
  have third := tokensIff " d".toList (by simp)
  exact ⟨closed, found, first.mpr (by decide +kernel), fun lexed => absurd (second.mp lexed)
    (by decide +kernel), third.mpr (by decide +kernel)⟩

/-- A quote in a quoted name opens a literal when the statement is cut into tokens. -/
theorem tokens_statement_error :
    (∀ span ∈ QuoteStyle.sql.spans "SELECT \x60it's\x60;".toList, span.kind ≠ .unterminated) ∧
      "SELECT \x60it's\x60;".toList ∈ statements "SELECT \x60it's\x60;".toList ∧
      tokens "SELECT \x60it's\x60;".toList = .error (.unterminatedLiteral 10) := by
  refine ⟨?_, ?_, ?_⟩
  · decide +kernel
  · decide +kernel
  · decide +kernel

end QuotedText.Sql
