import QuotedText.Proofs.CommandLine.Source
import QuotedText.Proofs.Sql.Terminator
import QuotedText.Proofs.Text.Trim

/-!
# Printed scripts

The statements of a script are printed trimmed, each on lines of its own. Read again, they are the
statements of what has been printed: a statement that another follows is complete, so it is cut off
whatever comes before and behind it, and the line break before a statement is trimmed again
(`Sql.map_trim_statements_lines`). The last statement may have an open literal, which loses the
blanks at its end and is then at the end of the text (`Sql.statements_trim`). So a script that has
been printed is printed again as it is (`CommandLine.run_sqlSplit_twice`).
-/

namespace QuotedText

namespace Sql

open QuoteStyle CommandLine

/-! ## Blanks around pieces -/

/-- What stands before the first of some pieces can be taken away again. -/
theorem eq_cons_of_modifyHead_append {front piece : Text} {pieces more : List Text}
    (changed : pieces.modifyHead (front ++ ·) = (front ++ piece) :: more) :
    pieces = piece :: more := by
  cases pieces with
  | nil => contradiction
  | cons head tail =>
    obtain ⟨headEq, rfl⟩ := List.cons.inj changed
    rw [List.append_cancel_left headEq]

/-- Blanks before a script belong to its first piece. -/
theorem scriptPieces_blanks_append {blanks : Text} (blank : ∀ c ∈ blanks, isBlank c = true)
    (script : Text) :
    scriptPieces (blanks ++ script) = (scriptPieces script).modifyHead (blanks ++ ·) := by
  refine pieces_append_unmatched (fun c member => not_isQuote_of_isBlank (blank c member)) ?_
  rintro front back rfl nonempty ⟨matched, begins, agrees⟩
  obtain ⟨c, rest, rfl⟩ := List.exists_cons_of_ne_nil nonempty
  rw [eq_of_agrees_terminator agrees] at begins
  obtain rfl : ';' = c := (List.cons_prefix_cons.mp begins).1
  exact absurd (blank ';' (by simp)) (by decide)

/-- A piece of a script is complete when it is cut off, whatever follows. -/
abbrev CompletePiece (piece : Text) : Prop :=
  QuoteStyle.sql.Complete terminator { includeToken := true } piece

/-- Without the blanks before it, a complete piece is complete. -/
theorem complete_of_blanks_append {blanks piece : Text} (blank : ∀ c ∈ blanks, isBlank c = true)
    (complete : CompletePiece (blanks ++ piece)) : CompletePiece piece := by
  intro rest
  have cut := complete rest
  rw [List.append_assoc] at cut
  have moved : (scriptPieces (piece ++ rest)).modifyHead (blanks ++ ·) =
      (blanks ++ piece) :: scriptPieces rest := by
    rw [← scriptPieces_blanks_append blank]
    exact cut
  exact eq_cons_of_modifyHead_append moved

/-- A trimmed piece that is followed is complete. -/
theorem complete_trim {script piece : Text} (followed : piece ∈ (scriptPieces script).dropLast) :
    CompletePiece (Text.trim piece) := by
  have visible : ∀ c ∈ piece.getLast?, isBlank c = false := by
    intro c isEnd
    rw [getLast?_of_mem_dropLast followed] at isEnd
    obtain rfl := Option.some.inj isEnd
    decide
  have blank : ∀ c ∈ piece.takeWhile isBlank, isBlank c = true :=
    fun _ => List.mem_takeWhile_imp
  have complete : CompletePiece piece := complete_of_mem_dropLast rfl followed
  rw [← List.takeWhile_append_dropWhile (p := isBlank) (l := piece)] at complete
  rw [Text.trim_eq_trimStart visible]
  exact complete_of_blanks_append blank complete

/-! ## Trimmed statements -/

/-- Blanks are no content. -/
theorem hasContent_eq_false {blanks : Text} (blank : ∀ c ∈ blanks, isBlank c = true) :
    hasContent blanks = false := by
  rw [hasContent, List.any_eq_false]
  intro c member
  simp [blank c member]

/-- Trimming keeps the content of a piece. -/
theorem hasContent_trim (piece : Text) : hasContent (Text.trim piece) = hasContent piece := by
  obtain ⟨front, back, whole, blankFront, blankBack⟩ := Text.exists_trim piece
  have parts : hasContent piece =
      (hasContent front || (hasContent (Text.trim piece) || hasContent back)) := by
    conv_lhs => rw [whole, hasContent, List.any_append, List.any_append]
    rfl
  rw [parts, hasContent_eq_false blankFront, hasContent_eq_false blankBack, Bool.false_or,
    Bool.or_false]

/-- A complete piece with content is a statement before those of what follows it. -/
theorem statements_complete_append {piece : Text} (content : hasContent piece = true)
    (complete : CompletePiece piece) (rest : Text) :
    statements (piece ++ rest) = piece :: statements rest := by
  rw [statements_eq_filter, scriptPieces, complete, List.filter_cons_of_pos content,
    ← statements_eq_filter]

/-- There are no statements in no text. -/
theorem statements_nil : statements [] = [] := by
  rw [statements_eq_filter, scriptPieces, pieces]
  rfl

/-- A statement has content, also when it has been trimmed. -/
theorem hasContent_trim_statement {script statement : Text}
    (member : statement ∈ statements script) : hasContent (Text.trim statement) = true := by
  rw [statements_eq_filter] at member
  rw [hasContent_trim]
  exact (List.mem_filter.mp member).2

/-- A statement that has been trimmed is the only statement of its text. -/
theorem statements_trim {script statement : Text} (member : statement ∈ statements script) :
    statements (Text.trim statement) = [Text.trim statement] := by
  have content := hasContent_trim_statement member
  rw [statements_eq_filter] at member
  have isPiece := (List.mem_filter.mp member).1
  have pieces : scriptPieces [statement].flatten = [statement] ∨
      scriptPieces [statement].flatten = [statement] ++ [[]] :=
    pieces_flatten_of_sublist rfl (List.singleton_sublist.mpr isPiece)
  rw [List.flatten_singleton] at pieces
  rcases pieces with one | ended
  · -- Nothing ends in the statement, so nothing ends in it when it is shorter.
    obtain ⟨front, back, whole, blankFront, -⟩ := Text.exists_trim statement
    have moved : (scriptPieces (Text.trim statement ++ back)).modifyHead (front ++ ·) =
        [front ++ (Text.trim statement ++ back)] := by
      rw [← scriptPieces_blanks_append blankFront, ← whole]
      exact one
    have alone := pieces_eq_singleton_of_append rfl (eq_cons_of_modifyHead_append moved)
    rw [statements_eq_filter, scriptPieces, alone, List.filter_cons_of_pos content, List.filter_nil]
  · have followed : statement ∈ (scriptPieces statement).dropLast := by
      rw [ended, List.dropLast_concat]
      exact List.mem_cons_self
    have only := statements_complete_append content (complete_trim followed) []
    rwa [List.append_nil, statements_nil] at only

/-- A blank before a script is trimmed from its first statement. -/
theorem map_trim_statements_cons {c : Char} (blank : isBlank c = true) (script : Text) :
    (statements (c :: script)).map Text.trim = (statements script).map Text.trim := by
  have alone : ∀ d ∈ [c], isBlank d = true := by simpa using blank
  have cut : scriptPieces (c :: script) = (scriptPieces script).modifyHead ([c] ++ ·) :=
    scriptPieces_blanks_append alone script
  rw [statements_eq_filter, statements_eq_filter, cut]
  cases scriptPieces script with
  | nil => rfl
  | cons head tail =>
    have trimmed : Text.trim (c :: head) = Text.trim head := Text.trim_cons_blank blank head
    have sameContent : hasContent (c :: head) = hasContent head := by
      rw [← hasContent_trim, trimmed, hasContent_trim]
    rw [List.modifyHead_cons, List.singleton_append, List.filter_cons, List.filter_cons,
      sameContent]
    split <;> simp [trimmed]

/-- Complete pieces on lines of their own are statements before those of what follows them. -/
theorem map_trim_statements_lines {earlier : List Text}
    (complete : ∀ piece ∈ earlier, hasContent piece = true ∧ CompletePiece piece) (last : Text) :
    (statements (lines earlier ++ last)).map Text.trim =
      earlier.map Text.trim ++ (statements last).map Text.trim := by
  induction earlier with
  | nil => rfl
  | cons piece earlier ih =>
    obtain ⟨⟨content, here⟩, later⟩ := List.forall_mem_cons.mp complete
    have whole : lines (piece :: earlier) ++ last = piece ++ '\n' :: (lines earlier ++ last) := by
      simp [lines]
    rw [whole, statements_complete_append content here, List.map_cons,
      map_trim_statements_cons (by decide), ih later]
    rfl

end Sql

namespace CommandLine

open Sql

/-! ## Runs on printed scripts -/

/-- Printed lines are read without the line feed behind the last one, when that ends with no
blank. -/
theorem withoutFinalBreak_lines (earlier : List Text) {last : Text} (nonempty : last ≠ [])
    (visible : ∀ c ∈ last.getLast?, isBlank c = false) :
    withoutFinalBreak (lines (earlier ++ [last])) = lines earlier ++ last := by
  have printed : lines (earlier ++ [last]) = lines earlier ++ last ++ ['\n'] := by simp [lines]
  rw [printed, withoutFinalBreak_lineFeed]
  rw [List.getLast?_append_of_ne_nil _ nonempty]
  intro isEnd
  exact absurd (visible '\r' isEnd) (by decide)

/-- Statements that have been printed are read again as they are. -/
theorem map_trim_statements_printed (script : Text) :
    (statements (withoutFinalBreak (lines ((statements script).map Text.trim)))).map Text.trim =
      (statements script).map Text.trim := by
  rcases List.eq_nil_or_concat' (statements script) with none | ⟨earlier, last, split⟩
  · rw [none]
    exact congrArg (List.map Text.trim) statements_nil
  · have isLast : last ∈ statements script := by simp [split]
    have complete : ∀ piece ∈ earlier.map Text.trim,
        hasContent piece = true ∧ CompletePiece piece := by
      intro piece member
      obtain ⟨statement, isEarlier, rfl⟩ := List.mem_map.mp member
      have followed : statement ∈ (statements script).dropLast := by
        rwa [split, List.dropLast_concat]
      exact ⟨hasContent_trim_statement ((List.dropLast_prefix _).mem followed),
        complete_trim (mem_dropLast_of_mem_dropLast_statements followed)⟩
    have nonempty : Text.trim last ≠ [] := by
      intro empty
      have content := hasContent_trim_statement isLast
      rw [empty] at content
      contradiction
    have trimmedAgain : (earlier.map Text.trim).map Text.trim = earlier.map Text.trim := by
      simp [Text.trim_trim]
    rw [split, List.map_append, List.map_singleton,
      withoutFinalBreak_lines _ nonempty (Text.visible_last_trim last),
      map_trim_statements_lines complete, trimmedAgain, statements_trim isLast,
      List.map_singleton, Text.trim_trim]

/-- The statements of the text that is read are printed trimmed. -/
theorem run_sqlSplit {sources : Sources Text} {input : InputSource Text} {script : Text}
    (readable : sources.input input = .ok script) (config? : Option Text) :
    Invocation.run sources ⟨config?, .sqlSplit input .text⟩ =
      ⟨.success, lines ((statements script).map Text.trim), []⟩ := by
  have work : Invocation.perform .standard sources ⟨config?, .sqlSplit input .text⟩ =
      .ok (.success, lines ((statements script).map Text.trim)) := by
    simp only [Invocation.perform, readable]
    rfl
  simp only [Invocation.run, Invocation.runWith, Packages.standard, work]

/-- What is printed for a script is printed again when it is the standard input of a second run. -/
theorem run_sqlSplit_twice {sources : Sources Text} {input : InputSource Text} {script : Text}
    (readable : sources.input input = .ok script) (config? config'? : Option Text)
    (file? : Text → Option Text) :
    ∃ printed, Invocation.run sources ⟨config?, .sqlSplit input .text⟩ = ⟨.success, printed, []⟩ ∧
      Invocation.run ⟨some printed, file?⟩ ⟨config'?, .sqlSplit .standardInput .text⟩ =
        ⟨.success, printed, []⟩ := by
  refine ⟨_, run_sqlSplit readable config?, ?_⟩
  rw [run_sqlSplit rfl, map_trim_statements_printed]

/-- A statement has a line break inside, blank statements go, and the literal that stays open loses
the blanks at its end. -/
theorem run_sqlSplit_twice_open :
    Sources.input
        ⟨some " a;\r\n;; b\n'x;\n ';\n\t`;`c 'open; \u2003\r\n\n".toList, fun _ : Text => none⟩
        .standardInput = .ok " a;\r\n;; b\n'x;\n ';\n\t`;`c 'open; \u2003\r\n".toList ∧
      Invocation.run
          ⟨some " a;\r\n;; b\n'x;\n ';\n\t`;`c 'open; \u2003\r\n\n".toList, fun _ => none⟩
          ⟨none, .sqlSplit .standardInput .text⟩ =
        ⟨.success, "a;\nb\n'x;\n ';\n`;`c 'open;\n".toList, []⟩ ∧
      Invocation.run ⟨some "a;\nb\n'x;\n ';\n`;`c 'open;\n".toList, fun _ => none⟩
          ⟨none, .sqlSplit .standardInput .text⟩ =
        ⟨.success, "a;\nb\n'x;\n ';\n`;`c 'open;\n".toList, []⟩ := by
  have readable : Sources.input
        ⟨some " a;\r\n;; b\n'x;\n ';\n\t`;`c 'open; \u2003\r\n\n".toList, fun _ : Text => none⟩
        .standardInput = .ok " a;\r\n;; b\n'x;\n ';\n\t`;`c 'open; \u2003\r\n".toList := by
    decide +kernel
  obtain ⟨printed, first, second⟩ := run_sqlSplit_twice readable none none fun _ => none
  have shown : Invocation.run
        ⟨some " a;\r\n;; b\n'x;\n ';\n\t`;`c 'open; \u2003\r\n\n".toList, fun _ => none⟩
        ⟨none, .sqlSplit .standardInput .text⟩ =
      ⟨.success, "a;\nb\n'x;\n ';\n`;`c 'open;\n".toList, []⟩ := by
    decide +kernel
  obtain rfl : printed = "a;\nb\n'x;\n ';\n`;`c 'open;\n".toList :=
    congrArg Outcome.stdout (first.symm.trans shown)
  exact ⟨readable, shown, second⟩

end CommandLine

end QuotedText
