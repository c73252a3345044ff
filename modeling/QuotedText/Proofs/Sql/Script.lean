import Mathlib.Data.List.Forall2
import QuotedText.Proofs.Sql.Mark
import QuotedText.Proofs.Sql.Statement
import QuotedText.Proofs.Sql.Template
import QuotedText.Proofs.Text.LetterCase

/-!
# Tokens of scripts

Without quoted names, a script may be cut into tokens before or after it is split into statements.
A piece that another follows has its quotes paired and ends with a semicolon, so no literal and no
call runs over a cut (`Sql.exists_first_piece`), and what is not reported as a statement has neither
(`Sql.flatMap_marks_statements`). An open literal of the script is one of the last statement, at the
same place (`Sql.tokens_statements`).
-/

namespace QuotedText.Sql

open QuoteStyle

/-! ## Pieces -/

/-- A text without backticks has no quoted name. -/
theorem quotedNames_of_no_backtick {text : Text} (noName : '\x60' ∉ text) :
    quotedNames text = [] := by
  have noSpan : ∀ span ∈ QuoteStyle.sql.spans text, ¬isQuotedName span = true := by
    intro span member named
    obtain ⟨before, after, split⟩ := List.append_of_mem member
    have whole := QuoteStyle.sql.spans_flatten text
    have opens : span.text.head? = some '\x60' := by
      simp only [isQuotedName, Bool.and_eq_true, beq_iff_eq] at named
      exact named.2
    have inSpan : '\x60' ∈ span.text := List.mem_of_mem_head? opens
    rw [split, Span.texts_append, Span.texts_cons] at whole
    rw [← whole] at noName
    exact noName (List.mem_append_right _ (List.mem_append_left _ inSpan))
  rw [quotedNames, List.filter_eq_nil_iff.mpr noSpan]
  rfl

/-- Without quoted names, the quotes of a text whose regions are closed are even in number. -/
theorem even_count_of_closed {text : Text} (noName : '\x60' ∉ text)
    (closed : ∀ span ∈ QuoteStyle.sql.spans text, span.kind ≠ .unterminated) :
    Even (text.count '\'') := by
  rw [← exists_tokens_iff, exists_tokens_iff_quotedNames closed, quotedNames_of_no_backtick noName]
  exact Even.zero

/-- Whatever the letter case, only a semicolon ends a statement. -/
theorem eq_of_agrees_terminator {matched : Text} {letterCase : LetterCase}
    (agrees : letterCase.Agrees matched terminator.text) : matched = [';'] := by
  cases agrees with
  | cons same others =>
    cases others
    rw [LetterCase.same_iff_eq ⟨by decide, by decide⟩] at same
    rw [same]

/-- The pieces of a script, each with the semicolon that ends it. -/
abbrev scriptPieces (script : Text) : List Text :=
  QuoteStyle.sql.pieces terminator { includeToken := true } script

/-- The pieces of a script make it up. -/
theorem scriptPieces_flatten (script : Text) : (scriptPieces script).flatten = script :=
  pieces_flatten QuoteStyle.sql terminator rfl script

/-- Without quoted names, the first of several pieces has an even number of quotes and ends with a
character that is in no call. The others are the pieces of the rest. -/
theorem exists_first_piece {script piece : Text} {more : List Text} (noName : '\x60' ∉ script)
    (split : scriptPieces script = piece :: more) (later : more ≠ []) :
    ∃ rest, script = piece ++ rest ∧ scriptPieces rest = more ∧ Even (piece.count '\'') ∧
      ∀ c ∈ piece.getLast?, c ∉ nowCall := by
  obtain ⟨front, matched, rest, whole, pieceEq, agrees, closed, restEq⟩ :=
    exists_of_pieces_eq_cons split later
  rw [if_pos rfl] at pieceEq
  rw [eq_of_agrees_terminator agrees] at whole pieceEq
  have noNameFront : '\x60' ∉ front := by
    intro member
    exact noName (whole ▸ List.mem_append_left _ member)
  refine ⟨rest, by rw [whole, pieceEq, List.append_assoc], restEq, ?_, ?_⟩
  · have none : [';'].count '\'' = 0 := by decide
    rw [pieceEq, List.count_append, none, Nat.add_zero]
    exact even_count_of_closed noNameFront closed
  · rw [pieceEq, List.getLast?_concat]
    rintro d isLast
    obtain rfl : ';' = d := Option.some.inj isLast
    decide

/-- Without quoted names, every piece but the last has an even number of quotes, and the literals
and calls of a script are those of its pieces. -/
theorem even_and_marks_pieces {script : Text} (noName : '\x60' ∉ script) :
    (∀ piece ∈ (scriptPieces script).dropLast, Even (piece.count '\'')) ∧
      marks script = (scriptPieces script).flatMap marks := by
  induction split : scriptPieces script generalizing script with
  | nil => exact absurd split (pieces_ne_nil _ _ _ _)
  | cons piece more ih =>
    by_cases last : more = []
    · have whole := scriptPieces_flatten script
      rw [split, last] at whole
      rw [last]
      simpa using congrArg marks whole.symm
    · obtain ⟨rest, rfl, restEq, even, ends⟩ := exists_first_piece noName split last
      have noNameRest : '\x60' ∉ rest := fun member => noName (List.mem_append_right _ member)
      obtain ⟨evenMore, marksMore⟩ := ih noNameRest restEq
      constructor
      · rw [List.dropLast_cons_of_ne_nil last]
        exact List.forall_mem_cons.mpr ⟨even, evenMore⟩
      · rw [marks_append (paired_of_even piece even) ends, marksMore, List.flatMap_cons]

/-- Without quoted names, the pieces before the last have an even number of quotes each. -/
theorem exists_last_piece {script : Text} (noName : '\x60' ∉ script) :
    ∃ earlier last, scriptPieces script = earlier ++ [last] ∧ script = earlier.flatten ++ last ∧
      ∀ piece ∈ earlier, Even (piece.count '\'') := by
  obtain ⟨earlier, last, split⟩ := (List.eq_nil_or_concat' (scriptPieces script)).resolve_left
    (pieces_ne_nil _ _ _ _)
  have even := (even_and_marks_pieces noName).1
  have whole := scriptPieces_flatten script
  rw [split, List.dropLast_concat] at even
  rw [split, List.flatten_append, List.flatten_singleton] at whole
  exact ⟨earlier, last, split, whole.symm, even⟩

/-! ## Statements -/

/-- The statements are the reported pieces that say something. -/
theorem statements_eq (script : Text) :
    statements script = (holdBlanks [] (scriptPieces script)).filter (!isVacant ·) := rfl

/-- Blank text before a piece changes none of its literals and calls. -/
theorem marks_append_blank {blanks : Text} (blank : blanks.isBlankText = true) (piece : Text) :
    marks (blanks ++ piece) = marks piece :=
  marks_append_quiet (fun c member => ne_of_isBlank (List.all_eq_true.mp blank c member)) piece

/-- Blank text has no literals and calls. -/
theorem marks_of_blank {text : Text} (blank : text.isBlankText = true) : marks text = [] := by
  have alone := marks_append_blank blank []
  rwa [List.append_nil, marks_nil] at alone

/-- A piece that says nothing has no literals and calls. -/
theorem marks_of_isVacant {piece : Text} (vacant : isVacant piece = true) : marks piece = [] := by
  have quiet : ∀ c ∈ piece, c ≠ '\'' ∧ c ≠ 'N' := by
    intro c member
    by_cases semicolon : c = ';'
    · subst semicolon
      decide
    · by_cases blank : isBlank c = true
      · exact ne_of_isBlank blank
      · rw [isVacant_eq_false member (Bool.eq_false_iff.mpr blank) semicolon] at vacant
        contradiction
  have alone := marks_append_quiet quiet []
  rwa [List.append_nil, marks_nil] at alone

/-- Holding blanks back loses no literals and calls. -/
theorem flatMap_marks_holdBlanks {held : Text} (blank : held.isBlankText = true)
    (pieces : List Text) : (holdBlanks held pieces).flatMap marks = pieces.flatMap marks := by
  induction pieces generalizing held with
  | nil => rfl
  | cons piece pieces ih =>
    rw [List.flatMap_cons]
    cases blankPiece : (held ++ piece).isBlankText with
    | true =>
      have nothing : marks piece = [] := by
        rw [← marks_append_blank blank]
        exact marks_of_blank blankPiece
      rw [holdBlanks_hold _ blankPiece, ih blankPiece, nothing, List.nil_append]
    | false =>
      rw [holdBlanks_report _ blankPiece, List.flatMap_cons, marks_append_blank blank,
        ih Text.isBlankText_nil]

/-- Leaving out pieces that say nothing loses no literals and calls. -/
theorem flatMap_marks_filter (pieces : List Text) :
    (pieces.filter (!isVacant ·)).flatMap marks = pieces.flatMap marks := by
  induction pieces with
  | nil => rfl
  | cons piece pieces ih =>
    cases vacant : isVacant piece with
    | true =>
      rw [List.filter_cons_of_neg (by simp [vacant]), ih, List.flatMap_cons,
        marks_of_isVacant vacant, List.nil_append]
    | false =>
      rw [List.filter_cons_of_pos (by simp [vacant]), List.flatMap_cons, ih, List.flatMap_cons]

/-- Without quoted names, the literals and calls of the statements are those of the script. -/
theorem flatMap_marks_statements {script : Text} (noName : '\x60' ∉ script) :
    (statements script).flatMap marks = marks script := by
  rw [statements_eq, flatMap_marks_filter, flatMap_marks_holdBlanks Text.isBlankText_nil,
    (even_and_marks_pieces noName).2]

/-- Blank text has no quotes. -/
theorem count_quote_of_blank {text : Text} (blank : text.isBlankText = true) :
    text.count '\'' = 0 :=
  List.count_eq_zero.mpr fun member => (ne_of_isBlank (List.all_eq_true.mp blank _ member)).1 rfl

/-- A segment of pieces with an even number of quotes each has an even number of quotes. -/
theorem even_count_of_mem_holdBlanks {pieces : List Text} {segment : Text}
    (even : ∀ piece ∈ pieces, Even (piece.count '\''))
    (member : segment ∈ holdBlanks [] pieces) : Even (segment.count '\'') := by
  obtain ⟨blanks, piece, isPiece, rfl, blank⟩ := exists_of_mem_holdBlanks rfl member
  rw [List.count_append, count_quote_of_blank blank, Nat.zero_add]
  exact even piece isPiece

/-- Without quoted names, the statements of a script with an even number of quotes have an even
number of quotes each. -/
theorem even_count_statement {script statement : Text} (noName : '\x60' ∉ script)
    (even : Even (script.count '\'')) (member : statement ∈ statements script) :
    Even (statement.count '\'') := by
  obtain ⟨earlier, last, split, whole, evenEarlier⟩ := exists_last_piece noName
  have evenLast : Even (last.count '\'') := by
    rw [whole, List.count_append, Nat.even_add] at even
    exact even.mp (even_count_flatten evenEarlier)
  have evenAll : ∀ piece ∈ scriptPieces script, Even (piece.count '\'') := by
    rw [split]
    intro piece isPiece
    rcases List.mem_append.mp isPiece with isEarlier | isLast
    · exact evenEarlier piece isEarlier
    · rwa [List.mem_singleton.mp isLast]
  exact even_count_of_mem_holdBlanks evenAll (List.mem_filter.mp member).1

/-- Without quoted names, the last statement of a script with an odd number of quotes has an odd
number of quotes and goes on to the end of the script, and the other statements have an even
number. -/
theorem exists_odd_statement {script : Text} (noName : '\x60' ∉ script)
    (odd : ¬Even (script.count '\'')) :
    ∃ before earlier last, statements script = earlier ++ [last] ∧ script = before ++ last ∧
      Even (before.count '\'') ∧ ¬Even (last.count '\'') ∧
      ∀ statement ∈ earlier, Even (statement.count '\'') := by
  obtain ⟨earlier, last, split, whole, evenEarlier⟩ := exists_last_piece noName
  obtain ⟨waiting, blank, flat, goesOn⟩ := exists_holdBlanks_append Text.isBlankText_nil earlier
  rw [List.nil_append] at flat
  have evenReported : Even ((holdBlanks [] earlier).flatten.count '\'') := by
    have even := even_count_flatten evenEarlier
    rwa [← flat, List.count_append, count_quote_of_blank blank, Nat.add_zero] at even
  have scriptEq : script = (holdBlanks [] earlier).flatten ++ (waiting ++ last) := by
    rw [whole, ← flat, List.append_assoc]
  have oddLast : ¬Even ((waiting ++ last).count '\'') := by
    intro even
    rw [scriptEq, List.count_append] at odd
    exact odd (evenReported.add even)
  have quote : '\'' ∈ waiting ++ last := quote_mem_of_odd oddLast
  have visible : isBlank '\'' = false := by decide
  refine ⟨(holdBlanks [] earlier).flatten, (holdBlanks [] earlier).filter (!isVacant ·),
    waiting ++ last, ?_, scriptEq, evenReported, oddLast, ?_⟩
  · have statement : isVacant (waiting ++ last) = false :=
      isVacant_eq_false quote visible (by decide)
    rw [statements_eq, split, goesOn, holdBlanks_report _ (Text.isBlankText_eq_false quote visible),
      List.filter_append, List.filter_cons_of_pos (by simp [statement])]
    rfl
  · intro segment member
    exact even_count_of_mem_holdBlanks evenEarlier (List.mem_filter.mp member).1

/-- A script without quoted names that has tokens is made of statements that have tokens, and its
literals and calls are theirs in order. When a literal of the script stays open, it is one of the
last statement, which goes on to the end of the script, and the other statements have tokens. -/
theorem tokens_statements (script : Text) (noName : '\x60' ∉ script) :
    (∀ found, tokens script = .ok found →
      ∃ parts, List.Forall₂ (fun statement part => tokens statement = .ok part)
          (statements script) parts ∧
        found.filter (·.isMark) = parts.flatMap (·.filter (·.isMark))) ∧
    ∀ position, tokens script = .error (.unterminatedLiteral position) →
      ∃ before earlier last, statements script = earlier ++ [last] ∧ script = before ++ last ∧
        script.byteLength - last.byteLength ≤ position ∧
        tokens last =
          .error (.unterminatedLiteral (position - (script.byteLength - last.byteLength))) ∧
        ∀ statement ∈ earlier, ∃ part, tokens statement = .ok part := by
  constructor
  · intro found lexed
    have even : Even (script.count '\'') := exists_tokens_iff.mp ⟨found, lexed⟩
    have statementTokens : ∀ statement ∈ statements script,
        tokens statement = .ok ((Lexeme.ofText statement).filterMap (·.token?)) := by
      intro statement member
      obtain ⟨part, lexedPart⟩ := exists_tokens_iff.mpr (even_count_statement noName even member)
      rw [lexedPart, (tokens_eq_ok_iff.mp lexedPart).2]
    refine ⟨(statements script).map fun statement =>
      (Lexeme.ofText statement).filterMap (·.token?), ?_, ?_⟩
    · rw [List.forall₂_map_right_iff, List.forall₂_same]
      exact statementTokens
    · rw [filter_isMark_tokens lexed, ← flatMap_marks_statements noName, List.flatMap_map]
      rfl
  · intro position failed
    have odd : ¬Even (script.count '\'') := by
      rw [← exists_tokens_iff, failed]
      rintro ⟨found, lexed⟩
      contradiction
    obtain ⟨before, earlier, last, split, scriptEq, evenBefore, oddLast, evenEarlier⟩ :=
      exists_odd_statement noName odd
    obtain ⟨front, body, lastEq, evenFront, inside⟩ := exists_last_quote oddLast
    have evenWhole : Even ((before ++ front).count '\'') := by
      rw [List.count_append]
      exact evenBefore.add evenFront
    have wholeEq : script = (before ++ front) ++ '\'' :: body := by
      rw [scriptEq, lastEq, List.append_assoc]
    have positionEq : position = before.byteLength + front.byteLength := by
      rw [wholeEq, tokens_of_last_quote evenWhole inside, Text.byteLength_append] at failed
      simpa using failed.symm
    have length : script.byteLength = before.byteLength + last.byteLength := by
      rw [scriptEq, Text.byteLength_append]
    refine ⟨before, earlier, last, split, scriptEq, by omega, ?_, ?_⟩
    · have place : position - (script.byteLength - last.byteLength) = front.byteLength := by omega
      rw [place, lastEq]
      exact tokens_of_last_quote evenFront inside
    · intro statement member
      exact exists_tokens_iff.mpr (evenEarlier statement member)

/-- A script whose blank statement goes with its semicolon, and a script with a doubled quote in the
literal that stays open. -/
theorem tokens_statements_open :
    '\x60' ∉ "a('x''y;',NOW()); ;\né 'z'".toList ∧
      tokens "a('x''y;',NOW()); ;\né 'z'".toList =
        .ok [⟨.identifier, ['a']⟩, ⟨.stringLiteral, "'x'".toList⟩, ⟨.stringLiteral, "'y;'".toList⟩,
          ⟨.functionCall, nowCall⟩, ⟨.identifier, [';']⟩, ⟨.identifier, [';']⟩,
          ⟨.identifier, ['é']⟩, ⟨.stringLiteral, "'z'".toList⟩] ∧
      statements "a('x''y;',NOW()); ;\né 'z'".toList =
        ["a('x''y;',NOW());".toList, "\né 'z'".toList] ∧
      (∃ parts, List.Forall₂ (fun statement part => tokens statement = .ok part)
          ["a('x''y;',NOW());".toList, "\né 'z'".toList] parts ∧
        [⟨.stringLiteral, "'x'".toList⟩, ⟨.stringLiteral, "'y;'".toList⟩, ⟨.functionCall, nowCall⟩,
          ⟨.stringLiteral, "'z'".toList⟩] = parts.flatMap (·.filter (·.isMark))) ∧
      '\x60' ∉ "é ';';\u2003b 'x''y;".toList ∧
      tokens "é ';';\u2003b 'x''y;".toList = .error (.unterminatedLiteral 15) ∧
      ∃ before earlier, ∃ last : Text,
        statements "é ';';\u2003b 'x''y;".toList = earlier ++ [last] ∧
        "é ';';\u2003b 'x''y;".toList = before ++ last ∧ 18 - last.byteLength ≤ 15 ∧
        tokens last = .error (.unterminatedLiteral (15 - (18 - last.byteLength))) ∧
        ∀ statement ∈ earlier, ∃ part, tokens statement = .ok part := by
  have noName : '\x60' ∉ "a('x''y;',NOW()); ;\né 'z'".toList := by decide
  have lexed : tokens "a('x''y;',NOW()); ;\né 'z'".toList =
      .ok [⟨.identifier, ['a']⟩, ⟨.stringLiteral, "'x'".toList⟩, ⟨.stringLiteral, "'y;'".toList⟩,
        ⟨.functionCall, nowCall⟩, ⟨.identifier, [';']⟩, ⟨.identifier, [';']⟩,
        ⟨.identifier, ['é']⟩, ⟨.stringLiteral, "'z'".toList⟩] := by
    decide +kernel
  have split : statements "a('x''y;',NOW()); ;\né 'z'".toList =
      ["a('x''y;',NOW());".toList, "\né 'z'".toList] := by
    decide +kernel
  obtain ⟨parts, lexedParts, marked⟩ := (tokens_statements _ noName).1 _ lexed
  rw [split] at lexedParts
  have noNameOpen : '\x60' ∉ "é ';';\u2003b 'x''y;".toList := by decide
  have failed : tokens "é ';';\u2003b 'x''y;".toList = .error (.unterminatedLiteral 15) := by
    decide +kernel
  exact ⟨noName, lexed, split, ⟨parts, lexedParts, marked⟩, noNameOpen, failed,
    (tokens_statements _ noNameOpen).2 15 failed⟩

end QuotedText.Sql
