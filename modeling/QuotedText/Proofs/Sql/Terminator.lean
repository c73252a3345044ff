import QuotedText.Proofs.Quote.Resplit
import QuotedText.Proofs.Quote.Trim
import QuotedText.Proofs.Sql.Script

/-!
# Cuts behind semicolons

The statements of a script can be told from its spans alone: cut the script behind each semicolon
that is unquoted (`Sql.scriptPieces_eq`) and keep the pieces that have content
(`Sql.statements_eq_filter`). The split holds no blanks back, as every piece but the last ends with
a semicolon, and a piece without content has a semicolon nowhere else, so it is vacant
(`Sql.isVacant_eq_not_hasContent`). Statements that are joined again, all or some of them, are the
statements of the joined text (`Sql.statements_selection`).
-/

namespace QuotedText

/-! ## Cuts behind elements -/

section

variable {α β : Type}

/-- Cuts a list behind each element that `ends` holds of. What comes behind the last of them is a
part too, and may be empty. -/
def cutBehind (ends : α → Bool) : List α → List (List α)
  | [] => [[]]
  | a :: rest =>
    if ends a then [a] :: cutBehind ends rest else (cutBehind ends rest).modifyHead (a :: ·)

/-- Elements that end no part belong to the first part of what follows them. -/
theorem cutBehind_append {ends : α → Bool} {front : List α} (goesOn : ∀ a ∈ front, ends a = false)
    (rest : List α) :
    cutBehind ends (front ++ rest) = (cutBehind ends rest).modifyHead (front ++ ·) := by
  induction front with
  | nil =>
    rw [List.nil_append]
    cases cutBehind ends rest <;> rfl
  | cons a front ih =>
    obtain ⟨here, later⟩ := List.forall_mem_cons.mp goesOn
    rw [List.cons_append, cutBehind, if_neg (by simp [here]), ih later, List.modifyHead_modifyHead]
    rfl

/-- What stands before the first of some parts is mapped with it. -/
theorem map_modifyHead_append (f : α → β) (front : List α) (parts : List (List α)) :
    (parts.modifyHead (front ++ ·)).map (·.map f) =
      (parts.map (·.map f)).modifyHead (front.map f ++ ·) := by
  cases parts with
  | nil => rfl
  | cons part parts =>
    rw [List.modifyHead_cons, List.map_cons, List.map_append]
    rfl

/-- After a change of the first element, an element is the changed one or an old one. -/
theorem mem_modifyHead {change : α → α} {list : List α} {a : α}
    (member : a ∈ list.modifyHead change) : (∃ first ∈ list, a = change first) ∨ a ∈ list := by
  cases list with
  | nil => contradiction
  | cons first more =>
    rcases List.mem_cons.mp member with rfl | later
    · exact .inl ⟨first, List.mem_cons_self, rfl⟩
    · exact .inr (List.mem_cons_of_mem first later)

end

namespace Span

/-- The characters of a list of spans, each with whether its span is unquoted. -/
def tagged (spans : List Span) : List (Char × Bool) :=
  spans.flatMap fun span => span.text.map fun c => (c, decide (span.kind = .unquoted))

/-- A region has no unquoted characters. -/
theorem tagged_region (region : Region) (more : List Span) :
    tagged (region.span :: more) = region.text.map (fun c => (c, false)) ++ tagged more := by
  have quoted : decide (region.span.kind = .unquoted) = false := by
    rw [Region.span]
    split <;> rfl
  rw [tagged, List.flatMap_cons, quoted]
  rfl

/-- A character that joins the spans is unquoted. -/
theorem tagged_consUnquoted (c : Char) (spans : List Span) :
    tagged (consUnquoted c spans) = (c, true) :: tagged spans := by
  unfold consUnquoted
  split <;> simp [tagged]

end Span

namespace Sql

open QuoteStyle

/-! ## Pieces of scripts -/

/-- The pieces of a script, cut behind each semicolon that lies in an unquoted span. -/
def terminatedPieces (script : Text) : List Text :=
  (cutBehind (· == (';', true)) (Span.tagged (QuoteStyle.sql.spans script))).map (·.map Prod.fst)

/-- A region is in one piece with what follows it. -/
theorem terminatedPieces_region {script : Text} {region : Region}
    (found : QuoteStyle.sql.region? script = some region) :
    terminatedPieces script = (terminatedPieces region.rest).modifyHead (region.text ++ ·) := by
  have untagged : (region.text.map fun c => (c, false)).map Prod.fst = region.text := by
    rw [List.map_map]
    exact List.map_id region.text
  rw [terminatedPieces, spans_region found, Span.tagged_region, cutBehind_append (by simp),
    map_modifyHead_append, untagged]
  rfl

/-- An unquoted semicolon ends its piece. -/
theorem terminatedPieces_semicolon (rest : Text) :
    terminatedPieces (';' :: rest) = [';'] :: terminatedPieces rest := by
  have plain : QuoteStyle.sql.isQuote ';' = false := by decide
  rw [terminatedPieces, spans_unquoted plain, Span.tagged_consUnquoted]
  rfl

/-- Another unquoted character is in one piece with what follows it. -/
theorem terminatedPieces_other {c : Char} {rest : Text}
    (plain : QuoteStyle.sql.isQuote c = false) (other : c ≠ ';') :
    terminatedPieces (c :: rest) = (terminatedPieces rest).modifyHead (c :: ·) := by
  have goesOn : ∀ a ∈ [(c, true)], (a == (';', true)) = false := by simpa using other
  rw [terminatedPieces, spans_unquoted plain, Span.tagged_consUnquoted, ← List.singleton_append,
    cutBehind_append goesOn, map_modifyHead_append]
  rfl

/-- Where nothing that ends a statement is matched there is no semicolon. -/
theorem ne_semicolon_of_match? {letterCase : LetterCase} {c : Char} {rest : Text}
    (unmatched : terminator.match? letterCase (c :: rest) = none) : c ≠ ';' := by
  rintro rfl
  refine Pattern.not_matchesHead_of_match? unmatched ⟨[';'], ⟨rest, rfl⟩, ?_⟩
  exact .cons (LetterCase.same_refl letterCase ';') .nil

/-- A split of a script cuts behind the unquoted semicolons. -/
theorem scriptPieces_eq (script : Text) : scriptPieces script = terminatedPieces script := by
  unfold scriptPieces
  fun_induction pieces QuoteStyle.sql terminator { includeToken := true } script with
  | case1 =>
    rw [terminatedPieces, spans_nil]
    rfl
  | case2 c rest region found ih => rw [ih, terminatedPieces_region found]
  | case3 c rest none matched after found ih =>
    obtain ⟨whole, agrees⟩ := LetterCase.match?_eq_some_iff.mp found
    rw [eq_of_agrees_terminator agrees] at whole ⊢
    rw [whole, List.singleton_append, terminatedPieces_semicolon, ih]
    rfl
  | case4 c rest none unmatched ih =>
    have plain := not_isQuote_of_region? none
    rw [ih, terminatedPieces_other plain (ne_semicolon_of_match? unmatched)]

/-- Every piece that another follows ends with a semicolon. -/
theorem getLast?_of_mem_dropLast {script piece : Text}
    (followed : piece ∈ (scriptPieces script).dropLast) : piece.getLast? = some ';' := by
  induction split : scriptPieces script generalizing script with
  | nil => exact absurd split (pieces_ne_nil _ _ _ _)
  | cons first more ih =>
    rw [split] at followed
    by_cases last : more = []
    · rw [last] at followed
      contradiction
    · obtain ⟨front, matched, rest, -, firstEq, agrees, -, restEq⟩ :=
        exists_of_pieces_eq_cons split last
      have pieces : scriptPieces rest = more := restEq
      rw [List.dropLast_cons_of_ne_nil last] at followed
      rcases List.mem_cons.mp followed with rfl | later
      · rw [firstEq, if_pos rfl, eq_of_agrees_terminator agrees, List.getLast?_concat]
      · exact ih (by rwa [pieces]) pieces

/-! ## Content -/

/-- Whether a piece has a character other than blanks and semicolons. -/
def hasContent (piece : Text) : Bool :=
  piece.any fun c => !isBlank c && c != ';'

/-- A character other than blanks and semicolons is content. -/
theorem hasContent_of_mem {piece : Text} {c : Char} (member : c ∈ piece)
    (visible : isBlank c = false) (other : c ≠ ';') : hasContent piece = true :=
  List.any_eq_true.mpr ⟨c, member, by simp [visible, other]⟩

/-- A quote is content. -/
theorem visible_of_isQuote {c : Char} (quote : QuoteStyle.sql.isQuote c) :
    isBlank c = false ∧ c ≠ ';' := by
  rcases isQuote_sql.mp quote with rfl | rfl <;> decide

/-- A piece that does not start with a semicolon is vacant when its first character is a blank and
the others are a vacant piece. -/
theorem isVacant_cons {c : Char} (other : c ≠ ';') (rest : Text) :
    isVacant (c :: rest) = (isBlank c && isVacant rest) := by
  have kept : Text.dropEndWhile (· == ';') (c :: rest) =
      c :: Text.dropEndWhile (· == ';') rest :=
    Text.dropEndWhile_cons (by simpa using other) rest
  rw [isVacant, kept]
  rfl

/-- A piece of a script has content unless it is vacant. -/
theorem isVacant_eq_not_hasContent {script piece : Text} (member : piece ∈ scriptPieces script) :
    isVacant piece = !hasContent piece := by
  unfold scriptPieces at member
  fun_induction pieces QuoteStyle.sql terminator { includeToken := true } script
      generalizing piece with
  | case1 =>
    rw [List.mem_singleton.mp member]
    rfl
  | case2 c rest region found ih =>
    rcases mem_modifyHead member with ⟨head, isPiece, rfl⟩ | later
    · have opens : c ∈ region.text := by
        obtain ⟨opener, body, textEq⟩ := List.exists_cons_of_ne_nil (region?_text_ne_nil found)
        have whole := region?_append found
        rw [textEq] at whole ⊢
        rw [(List.cons.inj whole).1]
        exact List.mem_cons_self
      obtain ⟨visible, other⟩ := visible_of_isQuote (isQuote_of_region? found)
      have inPiece : c ∈ region.text ++ head := List.mem_append_left head opens
      rw [isVacant_eq_false inPiece visible other, hasContent_of_mem inPiece visible other]
      rfl
    · exact ih later
  | case3 c rest none matched after found ih =>
    obtain ⟨-, agrees⟩ := LetterCase.match?_eq_some_iff.mp found
    rcases List.mem_cons.mp member with rfl | later
    · rw [eq_of_agrees_terminator agrees]
      decide
    · exact ih later
  | case4 c rest none unmatched ih =>
    rcases mem_modifyHead member with ⟨head, isPiece, rfl⟩ | later
    · have other := ne_semicolon_of_match? unmatched
      rw [isVacant_cons other, ih isPiece, hasContent, hasContent, List.any_cons]
      cases isBlank c <;> simp [other]
    · exact ih later

/-! ## Statements -/

/-- The statements of a script are its pieces with content. -/
theorem statements_eq_filter (script : Text) :
    statements script = (scriptPieces script).filter hasContent := by
  have visible : ∀ piece ∈ (scriptPieces script).dropLast, piece.isBlankText = false := by
    intro piece followed
    have ends : ';' ∈ piece := List.mem_of_getLast? (getLast?_of_mem_dropLast followed)
    exact Text.isBlankText_eq_false ends (by decide)
  rw [statements_eq, holdBlanks_eq_filter visible, List.filter_filter]
  apply List.filter_congr
  intro piece member
  rw [isVacant_eq_not_hasContent member, Bool.not_not]
  cases content : hasContent piece with
  | false => rfl
  | true =>
    obtain ⟨c, inPiece, isContent⟩ := List.any_eq_true.mp content
    obtain ⟨notBlank, -⟩ : isBlank c = false ∧ c ≠ ';' := by simpa using isContent
    rw [Text.isBlankText_eq_false inPiece notBlank]
    rfl

/-- Every statement that another follows is a piece that another follows. -/
theorem mem_dropLast_of_mem_dropLast_statements {script statement : Text}
    (followed : statement ∈ (statements script).dropLast) :
    statement ∈ (scriptPieces script).dropLast := by
  obtain ⟨front, last, split⟩ := (List.eq_nil_or_concat' (scriptPieces script)).resolve_left
    (pieces_ne_nil _ _ _ _)
  have short : ([last].filter hasContent).length ≤ 1 := List.length_filter_le _ _
  rw [statements_eq_filter, split, List.filter_append] at followed
  have reported := (prefix_dropLast_append short).mem followed
  rw [split, List.dropLast_concat]
  exact (List.mem_filter.mp reported).1

/-- Every statement that another follows ends with a semicolon. -/
theorem getLast?_of_mem_dropLast_statements {script statement : Text}
    (followed : statement ∈ (statements script).dropLast) : statement.getLast? = some ';' :=
  getLast?_of_mem_dropLast (mem_dropLast_of_mem_dropLast_statements followed)

/-- Some statements of a script, joined in order, are the statements of the joined text. -/
theorem statements_selection {script : Text} {selection : List Text}
    (selected : selection.Sublist (statements script)) :
    statements selection.flatten = selection := by
  rw [statements_eq_filter] at selected
  have content : selection.filter hasContent = selection := by
    rw [List.filter_eq_self]
    intro statement member
    exact (List.mem_filter.mp (selected.mem member)).2
  have arePieces : selection.Sublist (scriptPieces script) := selected.trans List.filter_sublist
  have pieces : scriptPieces selection.flatten = selection ∨
      scriptPieces selection.flatten = selection ++ [[]] := pieces_flatten_of_sublist rfl arePieces
  rw [statements_eq_filter]
  rcases pieces with same | ended
  · rw [same, content]
  · rw [ended, List.filter_append, content]
    exact List.append_nil selection

/-- Cut behind each semicolon that lies in an unquoted span, a script has as its statements the
pieces with a character other than blanks and semicolons. Every statement but the last ends with a
semicolon, and some statements joined in order are the statements of the joined text. -/
theorem statements_eq_terminatedPieces (script : Text) :
    statements script = (terminatedPieces script).filter hasContent ∧
      (∀ statement ∈ (statements script).dropLast, statement.getLast? = some ';') ∧
      ∀ selection : List Text, selection.Sublist (statements script) →
        statements selection.flatten = selection := by
  refine ⟨?_, ?_, ?_⟩
  · rw [statements_eq_filter, scriptPieces_eq]
  · intro statement followed
    exact getLast?_of_mem_dropLast_statements followed
  · intro selection selected
    exact statements_selection selected

/-- Semicolons in a literal and in a name cut nothing, blank statements go, and a literal of nothing
but semicolons that stays open is a statement, also at the end of a selection. -/
theorem statements_eq_terminatedPieces_open :
    statements " ;a';';\u2003; ;`b;`;';;".toList =
        ["a';';".toList, "`b;`;".toList, "';;".toList] ∧
      "a';';".toList ∈ (statements " ;a';';\u2003; ;`b;`;';;".toList).dropLast ∧
      "a';';".toList.getLast? = some ';' ∧
      ["a';';".toList, "';;".toList].Sublist (statements " ;a';';\u2003; ;`b;`;';;".toList) ∧
      statements ["a';';".toList, "';;".toList].flatten = ["a';';".toList, "';;".toList] := by
  have split : statements " ;a';';\u2003; ;`b;`;';;".toList =
      ["a';';".toList, "`b;`;".toList, "';;".toList] := by
    decide +kernel
  obtain ⟨-, ends, selections⟩ := statements_eq_terminatedPieces " ;a';';\u2003; ;`b;`;';;".toList
  rw [split] at ends selections ⊢
  have followed : "a';';".toList ∈
      ["a';';".toList, "`b;`;".toList, "';;".toList].dropLast := List.mem_cons_self
  have selected : ["a';';".toList, "';;".toList].Sublist
      ["a';';".toList, "`b;`;".toList, "';;".toList] := by decide
  exact ⟨rfl, followed, ends _ followed, selected, selections _ selected⟩

end Sql

end QuotedText
