import QuotedText.Proofs.Sql.Mark
import QuotedText.Proofs.Sql.Region

/-!
# Cleaned values

A cleaned value shows what the value is but for the form of its line breaks and of its apostrophes
(`Sql.canonical`): `Sql.readValue` reads that back, so two values are written alike exactly when
they differ in nothing else (`Sql.cleanValue_eq_iff`). Tokens know no doubled quote: for them each
one ends a literal and begins the next. As a cleaned value has no other quotes, its literals stand
side by side from its first quote to its last, and whatever it holds is inside one of them
(`Sql.tokens_quoteValue`).
-/

namespace QuotedText.Sql

open QuoteStyle

/-! ## What is kept of a value -/

/-- Gives each carriage return with a line feed behind it the form of a line feed. -/
def joinLineBreaks : Text → Text
  | '\r' :: '\n' :: rest => '\n' :: joinLineBreaks rest
  | c :: rest => c :: joinLineBreaks rest
  | [] => []

/-- Replaces each `former` by `latter`. -/
def replaceChar (former latter : Char) (text : Text) : Text :=
  text.map fun c => if c = former then latter else c

/-- A value with one form of line breaks and one form of apostrophes. -/
def canonical (value : Text) : Text :=
  replaceChar apostrophe '\'' (replaceChar '\r' '\n' (joinLineBreaks value))

/-- Reads what a cleaned value shows. -/
def readValue : Text → Text
  | '\'' :: '\'' :: rest => '\'' :: readValue rest
  | '\\' :: ';' :: rest => ';' :: readValue rest
  | c :: rest => c :: readValue rest
  | [] => []

/-- Line breaks are given one form in one go or in two. -/
theorem unifyLineBreaks_eq (value : Text) :
    unifyLineBreaks value = replaceChar '\r' '\n' (joinLineBreaks value) := by
  fun_induction unifyLineBreaks value with
  | case1 => rfl
  | case2 rest ih =>
    rw [ih, joinLineBreaks]
    rfl
  | case3 c rest single ih =>
    have step : joinLineBreaks (c :: rest) = c :: joinLineBreaks rest := by
      rw [joinLineBreaks]
      exact single
    rw [ih, step, replaceChar, replaceChar, List.map_cons]
    simp

/-- Both apostrophes are written alike. -/
theorem escapeChar_straight (c : Char) :
    escapeChar (if c = apostrophe then '\'' else c) = escapeChar c := by
  split
  · rename_i curly
    rw [curly]
    rfl
  · rfl

/-- A value is written as what is kept of it is. -/
theorem cleanValue_eq (value : Text) : cleanValue value = (canonical value).flatMap escapeChar := by
  rw [cleanValue, unifyLineBreaks_eq, canonical]
  generalize replaceChar '\r' '\n' (joinLineBreaks value) = unified
  rw [replaceChar, List.flatMap_map]
  congr 1
  funext c
  exact (escapeChar_straight c).symm

/-- No typographic apostrophe is kept. -/
theorem apostrophe_not_mem_canonical (value : Text) : apostrophe ∉ canonical value := by
  rw [canonical, replaceChar, List.mem_map]
  rintro ⟨c, -, same⟩
  split at same
  · exact absurd same (by decide)
  · contradiction

/-- A character that is neither an apostrophe nor a semicolon is written as it is. -/
theorem escapeChar_other {c : Char} (unquoted : c ≠ '\'') (straight : c ≠ apostrophe)
    (other : c ≠ ';') : escapeChar c = [c] := by
  simp [escapeChar, unquoted, straight, other]

/-- Written text begins with no semicolon, as each has a backslash before it. -/
theorem head?_flatMap_escapeChar_ne (text : Text) :
    (text.flatMap escapeChar).head? ≠ some ';' := by
  cases text with
  | nil => nofun
  | cons c rest =>
    rw [List.flatMap_cons, escapeChar]
    split
    · simp
    · split
      · simp
      · rename_i other
        simpa using other

/-- A character is read as itself when no pair begins with it. -/
theorem readValue_other {c : Char} {rest : Text} (unquoted : c ≠ '\'')
    (noPair : rest.head? ≠ some ';') : readValue (c :: rest) = c :: readValue rest := by
  rw [readValue.eq_def]
  split
  · rename_i same
    exact absurd (List.cons.inj same).1 unquoted
  · rename_i same
    rw [(List.cons.inj same).2] at noPair
    exact absurd rfl noPair
  · rename_i same
    obtain ⟨rfl, rfl⟩ := List.cons.inj same
    rfl
  · contradiction

/-- Text without typographic apostrophes is read back from how it is written. -/
theorem readValue_flatMap_escapeChar {text : Text} (straight : apostrophe ∉ text) :
    readValue (text.flatMap escapeChar) = text := by
  induction text with
  | nil => rfl
  | cons c rest ih =>
    obtain ⟨here, later⟩ := List.ne_and_not_mem_of_not_mem_cons straight
    have read := ih later
    rw [List.flatMap_cons]
    by_cases quote : c = '\''
    · rw [quote]
      exact congrArg ('\'' :: ·) read
    · by_cases semicolon : c = ';'
      · rw [semicolon]
        exact congrArg (';' :: ·) read
      · -- The character may be a backslash, and then no semicolon that it could escape comes next.
        rw [escapeChar_other quote (Ne.symm here) semicolon, List.singleton_append,
          readValue_other quote (head?_flatMap_escapeChar_ne rest), read]

/-- What a cleaned value shows is the value but for the form of its line breaks and apostrophes. -/
theorem readValue_cleanValue (value : Text) : readValue (cleanValue value) = canonical value := by
  rw [cleanValue_eq, readValue_flatMap_escapeChar (apostrophe_not_mem_canonical value)]

/-- Two values are written alike exactly when they are the same but for the form of their line
breaks and apostrophes. -/
theorem cleanValue_eq_iff (value value' : Text) :
    cleanValue value = cleanValue value' ↔ canonical value = canonical value' := by
  constructor
  · intro same
    rw [← readValue_cleanValue, same, readValue_cleanValue]
  · intro same
    rw [cleanValue_eq, same, ← cleanValue_eq]

/-- A carriage return and a line feed are one line break, two line feeds are two. -/
example :
    cleanValue "a\r\n’\r;".toList = cleanValue "a\n'\n;".toList ∧
      cleanValue "\r\n".toList ≠ cleanValue "\n\n".toList ∧
      cleanValue "\\;".toList ≠ cleanValue ";".toList := by
  decide

/-! ## Tokens of a value -/

/-- Text that leaves a literal of a script open is a row of literals for tokens when its quotes are
put around it. The text `before` is what has been read of the first of them. -/
theorem literals_of_inside {body before : Text} (inside : QuoteStyle.sql.Inside '\'' body)
    (plain : '\'' ∉ before) :
    ∀ lexeme ∈ Lexeme.ofText ('\'' :: (before ++ (body ++ ['\'']))), lexeme.kind = .literal := by
  induction inside generalizing before with
  | nil =>
    rw [List.nil_append, Lexeme.ofText_literal plain, Lexeme.ofText]
    simp
  | @plain c body other _ ih =>
    have unquoted : c ≠ '\'' := by
      rintro rfl
      rw [closes_sql.mpr rfl] at other
      contradiction
    have plain' : '\'' ∉ before ++ [c] := by
      simpa [plain] using unquoted.symm
    have read := ih plain'
    rwa [List.append_assoc, List.singleton_append] at read
  | @pair c d body _ first second _ ih =>
    -- The first half of a doubled quote ends a literal and the second half begins the next one.
    obtain rfl := closes_sql.mp first
    obtain rfl := closes_sql.mp second
    rw [List.cons_append, Lexeme.ofText_literal plain, List.forall_mem_cons]
    exact ⟨rfl, ih List.not_mem_nil⟩

/-- Each literal is a token with the same text. -/
theorem filterMap_token?_of_literals {lexemes : List Lexeme}
    (literals : ∀ lexeme ∈ lexemes, lexeme.kind = .literal) :
    lexemes.filterMap (·.token?) =
      lexemes.map fun lexeme => ⟨.stringLiteral, lexeme.text⟩ := by
  rw [← List.filterMap_eq_map]
  refine List.filterMap_congr ?_
  intro lexeme member
  rw [Lexeme.token?, literals lexeme member]
  rfl

/-- The tokens of a value as a literal are literals side by side that make up its whole text. -/
theorem tokens_quoteValue (value : Text) :
    ∃ found, tokens (quoteValue value) = .ok found ∧
      (∀ token ∈ found, token.kind = .stringLiteral) ∧
      (found.map (·.text)).flatten = quoteValue value := by
  have literals : ∀ lexeme ∈ Lexeme.ofText (quoteValue value), lexeme.kind = .literal :=
    literals_of_inside (inside_cleanValue value) List.not_mem_nil
  have closed : ∀ lexeme ∈ Lexeme.ofText (quoteValue value), lexeme.kind ≠ .unterminated := by
    intro lexeme member
    rw [literals lexeme member]
    nofun
  refine ⟨_, tokens_eq_ok_iff.mpr ⟨closed, rfl⟩, ?_, ?_⟩
  · rw [filterMap_token?_of_literals literals, List.forall_mem_map]
    intro lexeme _
    rfl
  · rw [filterMap_token?_of_literals literals, List.map_map]
    exact Lexeme.ofText_flatten (quoteValue value)

/-- Quotes at both ends of a value leave empty literals, and what stands between is in one too. -/
example :
    tokens (quoteValue "'NOW(), ’".toList) =
      .ok [⟨.stringLiteral, "''".toList⟩, ⟨.stringLiteral, "'NOW(), '".toList⟩,
        ⟨.stringLiteral, "''".toList⟩] := by
  decide +kernel

end QuotedText.Sql
