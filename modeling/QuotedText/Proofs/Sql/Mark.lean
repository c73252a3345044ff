import QuotedText.Proofs.Sql.Lexeme

/-!
# Literals and calls

How the words of a text are cut depends on what stands around them, but its literals and calls do
not: a quote outside a literal opens one up to the next quote (`Sql.marks_literal`), and a call
begins wherever `NOW()` stands outside a literal (`Sql.marks_unquoted`). So when the quotes of a
text are paired and no call runs over its end, the literals and calls of a longer text are its own
and then those of the rest (`Sql.marks_append`).
-/

namespace QuotedText.Sql

/-- A literal or a call, which means the same whatever stands around it. -/
def Token.isMark (token : Token) : Bool :=
  match token.kind with
  | .identifier => false
  | .stringLiteral | .functionCall => true

namespace Lexeme

/-! ## Steps -/

/-- A literal goes up to the next quote. -/
theorem ofText_literal {body : Text} (inside : '\'' ∉ body) (rest : Text) :
    ofText ('\'' :: (body ++ '\'' :: rest)) =
      ⟨.literal, '\'' :: (body ++ ['\''])⟩ :: ofText rest := by
  have others : ∀ c ∈ body, (c != '\'') = true := by
    intro c member
    have other : c ≠ '\'' := ne_of_mem_of_not_mem member inside
    simpa using other
  have taken : (body ++ '\'' :: rest).takeWhile (· != '\'') = body := by
    rw [List.takeWhile_append_of_pos others, List.takeWhile_cons_of_neg (by decide),
      List.append_nil]
  have left : (body ++ '\'' :: rest).dropWhile (· != '\'') = '\'' :: rest := by
    rw [List.dropWhile_append_of_pos others, List.dropWhile_cons_of_neg (by decide)]
  rw [ofText, if_pos (by decide)]
  simp only [taken]
  split
  · rename_i nothing
    rw [left] at nothing
    contradiction
  · rename_i close after something
    rw [left] at something
    obtain ⟨rfl, rfl⟩ := List.cons.inj something
    rfl

/-- A literal that no quote closes goes up to the end of the text. -/
theorem ofText_unterminated {body : Text} (inside : '\'' ∉ body) :
    ofText ('\'' :: body) = [⟨.unterminated, '\'' :: body⟩] := by
  have nothing : body.dropWhile (· != '\'') = [] := by
    rw [List.dropWhile_eq_nil_iff]
    intro c member
    have other : c ≠ '\'' := ne_of_mem_of_not_mem member inside
    simpa using other
  rw [ofText, if_pos (by decide)]
  split
  · rfl
  · rename_i close after something
    rw [nothing] at something
    contradiction

/-- A space, tab or line break begins a gap with all the blanks behind it. -/
theorem ofText_gap {c : Char} (begins : beginsBlankGap c = true) (rest : Text) :
    ofText (c :: rest) =
      ⟨.gap, c :: rest.takeWhile isBlank⟩ :: ofText (rest.dropWhile isBlank) := by
  have unquoted : ¬(c == '\'') = true := by
    intro quote
    obtain rfl : c = '\'' := by simpa using quote
    exact absurd begins (by decide)
  rw [ofText, if_neg unquoted, if_pos begins]

/-- A space, tab or line break and the blanks behind it are a gap that ends before what is not
blank. -/
theorem ofText_blanks {c : Char} {blanks rest : Text} (begins : beginsBlankGap c = true)
    (blank : ∀ d ∈ blanks, isBlank d = true) (ends : ∀ d ∈ rest.head?, isBlank d = false) :
    ofText (c :: (blanks ++ rest)) = ⟨.gap, c :: blanks⟩ :: ofText rest := by
  have stops : rest.takeWhile isBlank = [] ∧ rest.dropWhile isBlank = rest := by
    cases rest with
    | nil => exact ⟨rfl, rfl⟩
    | cons d rest =>
      have visible : ¬isBlank d = true := by simp [ends d rfl]
      exact ⟨List.takeWhile_cons_of_neg visible, List.dropWhile_cons_of_neg visible⟩
  rw [ofText_gap begins, List.takeWhile_append_of_pos blank, List.dropWhile_append_of_pos blank,
    stops.1, stops.2, List.append_nil]

/-- A parenthesis or comma is a gap. -/
theorem ofText_punctuation {c : Char} (punctuation : isPunctuation c = true) (rest : Text) :
    ofText (c :: rest) = ⟨.gap, [c]⟩ :: ofText rest := by
  have delimiter : isDelimiter c = true := by rw [isDelimiter, punctuation, Bool.or_true]
  have unquoted : ¬(c == '\'') = true := by
    simpa using ne_quote_of_isWordSeparator (isWordSeparator_of_isDelimiter delimiter)
  have noBlank : ¬beginsBlankGap c = true := by
    simp only [isPunctuation, Bool.or_eq_true, beq_iff_eq] at punctuation
    rcases punctuation with (rfl | rfl) | rfl <;> decide
  rw [ofText, if_neg unquoted, if_neg noBlank, if_pos punctuation]

/-- A call is read where it stands. -/
theorem ofText_call (rest : Text) : ofText (nowCall ++ rest) = ⟨.call, nowCall⟩ :: ofText rest := by
  have here : nowCall.isPrefixOf ('N' :: (['O', 'W', '(', ')'] ++ rest)) = true :=
    List.isPrefixOf_iff_prefix.mpr (List.prefix_append nowCall rest)
  have whole : nowCall ++ rest = 'N' :: (['O', 'W', '(', ')'] ++ rest) := rfl
  rw [whole, ofText, if_neg (by decide), if_neg (by decide), if_neg (by decide), if_pos here]
  rfl

/-- No call begins in a text that goes on with `rest`. -/
def NoCallBegins (text rest : Text) : Prop :=
  ∀ tail, tail ≠ [] → tail <:+ text → ¬nowCall <+: tail ++ rest

/-- Any other character belongs to a word. -/
theorem ofText_word {c : Char} {rest : Text} (unquoted : c ≠ '\'')
    (plain : isDelimiter c = false) (noCall : ¬nowCall <+: c :: rest) :
    ofText (c :: rest) = consWord c (ofText rest) := by
  rw [isDelimiter, Bool.or_eq_false_iff] at plain
  rw [ofText, if_neg (by simpa using unquoted), if_neg (by simp [plain.1]),
    if_neg (by simp [plain.2]), if_neg (by rwa [List.isPrefixOf_iff_prefix])]

/-! ## Marks -/

/-- The literals and calls among the tokens of lexemes. -/
def marks (lexemes : List Lexeme) : List Token :=
  (lexemes.filterMap (·.token?)).filter (·.isMark)

/-- A gap is no mark. -/
@[simp] theorem marks_gap (text : Text) (more : List Lexeme) :
    marks (⟨.gap, text⟩ :: more) = marks more := rfl

/-- A literal is a mark. -/
@[simp] theorem marks_literal (text : Text) (more : List Lexeme) :
    marks (⟨.literal, text⟩ :: more) = ⟨.stringLiteral, text⟩ :: marks more := rfl

/-- A call is a mark. -/
@[simp] theorem marks_call (text : Text) (more : List Lexeme) :
    marks (⟨.call, text⟩ :: more) = ⟨.functionCall, text⟩ :: marks more := rfl

/-- A word is no mark. -/
@[simp] theorem marks_word (text : Text) (more : List Lexeme) :
    marks (⟨.word, text⟩ :: more) = marks more := by
  cases blank : text.isBlankText with
  | true =>
    have noToken : token? ⟨.word, text⟩ = none := by simp [token?, blank]
    rw [marks, List.filterMap_cons_none noToken]
    rfl
  | false =>
    have isToken : token? ⟨.word, text⟩ = some ⟨.identifier, text⟩ := by simp [token?, blank]
    rw [marks, List.filterMap_cons_some isToken]
    rfl

/-- A character of a word changes no mark. -/
@[simp] theorem marks_consWord (c : Char) (lexemes : List Lexeme) :
    marks (consWord c lexemes) = marks lexemes := by
  unfold consWord
  split
  · rw [marks_word, marks_word]
  · exact marks_word [c] lexemes

end Lexeme

open Lexeme

/-- The literals and calls of a text in order. -/
def marks (text : Text) : List Token :=
  Lexeme.marks (ofText text)

/-- The literals and calls among the tokens of a text are its marks. -/
theorem filter_isMark_tokens {text : Text} {found : List Token} (lexed : tokens text = .ok found) :
    found.filter (·.isMark) = marks text := by
  rw [(tokens_eq_ok_iff.mp lexed).2]
  rfl

/-- No text has no marks. -/
@[simp] theorem marks_nil : marks [] = [] := by
  rw [marks, ofText]
  rfl

/-- A literal is a mark before those of what follows it. -/
theorem marks_literal {body : Text} (inside : '\'' ∉ body) (rest : Text) :
    marks ('\'' :: (body ++ '\'' :: rest)) =
      ⟨.stringLiteral, '\'' :: (body ++ ['\''])⟩ :: marks rest := by
  rw [marks, ofText_literal inside, Lexeme.marks_literal]
  rfl

/-- A character other than a quote that begins no gap of blanks and no call changes no mark. -/
theorem marks_other {c : Char} {rest : Text} (unquoted : c ≠ '\'')
    (noGap : beginsBlankGap c = false) (noCall : ¬nowCall <+: c :: rest) :
    marks (c :: rest) = marks rest := by
  cases punctuation : isPunctuation c with
  | true =>
    rw [marks, ofText_punctuation punctuation, marks_gap]
    rfl
  | false =>
    have plain : isDelimiter c = false := by rw [isDelimiter, noGap, punctuation, Bool.or_false]
    rw [marks, ofText_word unquoted plain noCall, marks_consWord]
    rfl

/-- Only a text that begins with `N` begins with a call. -/
theorem not_call {c : Char} {rest : Text} (other : c ≠ 'N') : ¬nowCall <+: c :: rest := by
  intro call
  exact other (List.cons_prefix_cons.mp call).1.symm

/-- A blank is neither a quote nor the first character of a call. -/
theorem ne_of_isBlank {c : Char} (blank : isBlank c = true) : c ≠ '\'' ∧ c ≠ 'N' := by
  constructor
  · exact ne_quote_of_isWordSeparator (isWordSeparator_of_isBlank blank)
  · rintro rfl
    exact absurd blank (by decide)

/-- Blanks at the head of a text change no mark. -/
theorem marks_dropWhile_isBlank (text : Text) : marks (text.dropWhile isBlank) = marks text := by
  induction text with
  | nil => rfl
  | cons c rest ih =>
    by_cases blank : isBlank c = true
    · rw [List.dropWhile_cons_of_pos blank, ih]
      cases begins : beginsBlankGap c with
      | true =>
        rw [marks.eq_def (c :: rest), ofText_gap begins, marks_gap]
        exact ih.symm
      | false =>
        obtain ⟨unquoted, other⟩ := ne_of_isBlank blank
        exact (marks_other unquoted begins (not_call other)).symm
    · rw [List.dropWhile_cons_of_neg blank]

/-- Outside literals, a character begins a call or changes no mark. -/
theorem marks_unquoted {c : Char} (unquoted : c ≠ '\'') (rest : Text) :
    marks (c :: rest) =
      (if nowCall <+: c :: rest then [⟨.functionCall, nowCall⟩] else []) ++ marks rest := by
  by_cases call : nowCall <+: c :: rest
  · obtain ⟨after, whole⟩ := call
    obtain ⟨rfl, rfl⟩ : 'N' = c ∧ ['O', 'W', '(', ')'] ++ after = rest := List.cons.inj whole
    -- The other characters of a call are passed over one by one.
    have passed : marks (['O', 'W', '(', ')'] ++ after) = marks after := by
      simp only [List.cons_append, List.nil_append]
      rw [marks_other (by decide) (by decide) (not_call (by decide)),
        marks_other (by decide) (by decide) (not_call (by decide)),
        marks_other (by decide) (by decide) (not_call (by decide)),
        marks_other (by decide) (by decide) (not_call (by decide))]
    rw [if_pos ⟨after, whole⟩, passed, ← whole, marks, ofText_call, marks_call]
    rfl
  · rw [if_neg call, List.nil_append]
    cases begins : beginsBlankGap c with
    | true =>
      rw [marks, ofText_gap begins, marks_gap]
      exact marks_dropWhile_isBlank rest
    | false => exact marks_other unquoted begins call

/-- Text without a quote and without `N` changes no mark of what follows it. -/
theorem marks_append_quiet {quiet : Text} (unmarked : ∀ c ∈ quiet, c ≠ '\'' ∧ c ≠ 'N')
    (rest : Text) : marks (quiet ++ rest) = marks rest := by
  induction quiet with
  | nil => rfl
  | cons c quiet ih =>
    obtain ⟨here, later⟩ := List.forall_mem_cons.mp unmarked
    rw [List.cons_append, marks_unquoted here.1, if_neg (not_call here.2), List.nil_append,
      ih later]

/-! ## Joined texts -/

/-- The quotes of a text are paired: each literal that is opened is closed. -/
inductive Paired : Text → Prop
  /-- There is no quote. -/
  | nil : Paired []
  /-- Two quotes enclose a literal. -/
  | literal {body rest : Text} (inside : '\'' ∉ body) (more : Paired rest) :
      Paired ('\'' :: (body ++ '\'' :: rest))
  /-- Another character stands outside literals. -/
  | other {c : Char} {rest : Text} (unquoted : c ≠ '\'') (more : Paired rest) : Paired (c :: rest)

/-- Quotes that are even in number are paired. -/
theorem paired_of_even (text : Text) (even : Even (text.count '\'')) : Paired text := by
  -- A literal is passed at once, so the induction is on the length of what is left.
  induction length : text.length using Nat.strong_induction_on generalizing text with
  | _ bound ih =>
    cases text with
    | nil => exact .nil
    | cons c rest =>
      rw [List.length_cons] at length
      by_cases quote : c = '\''
      · subst quote
        rw [List.count_cons_self, Nat.even_add_one] at even
        obtain ⟨body, after, rfl, inside⟩ := List.eq_append_cons_of_mem (quote_mem_of_odd even)
        rw [even_count_quote_iff, List.count_eq_zero.mpr inside, Nat.zero_add, not_not] at even
        rw [List.length_append, List.length_cons] at length
        exact .literal inside (ih after.length (by omega) after even rfl)
      · rw [List.count_cons_of_ne quote] at even
        exact .other quote (ih rest.length (by omega) rest even rfl)

/-- A call that stands before a character that it has not ends before that character. -/
theorem call_before_iff {seam : Char} (front back : Text) (foreign : seam ∉ nowCall) :
    nowCall <+: front ++ seam :: back ↔ nowCall <+: front := by
  constructor
  · intro call
    rcases List.prefix_or_prefix_of_prefix call (List.prefix_append front _) with within | beyond
    · exact within
    · obtain ⟨tail, whole⟩ := beyond
      have rest : tail <+: seam :: back := by
        rwa [← whole, List.prefix_append_right_inj] at call
      cases tail with
      | nil =>
        rw [List.append_nil] at whole
        exact whole ▸ List.prefix_rfl
      | cons c tail =>
        obtain rfl : c = seam := (List.cons_prefix_cons.mp rest).1
        exact absurd (whole ▸ List.mem_append_right front List.mem_cons_self) foreign
  · intro call
    exact call.trans (List.prefix_append front _)

/-- A call does not run over a character that it has not. -/
theorem call_append_iff {front : Text} (back : Text) (nonempty : front ≠ [])
    (ends : ∀ c ∈ front.getLast?, c ∉ nowCall) : nowCall <+: front ++ back ↔ nowCall <+: front := by
  obtain ⟨init, seam, rfl⟩ : ∃ init seam, front = init ++ [seam] :=
    ⟨_, _, (List.dropLast_concat_getLast nonempty).symm⟩
  have foreign : seam ∉ nowCall := ends seam List.getLast?_concat
  rw [List.append_assoc, List.singleton_append, call_before_iff init back foreign,
    call_before_iff init [] foreign]

/-- Behind paired quotes and a character that is in no call, the literals and calls of a text are
those of the rest. -/
theorem marks_append {front : Text} (paired : Paired front)
    (ends : ∀ c ∈ front.getLast?, c ∉ nowCall) (back : Text) :
    marks (front ++ back) = marks front ++ marks back := by
  induction paired with
  | nil => rw [marks_nil, List.nil_append, List.nil_append]
  | @literal body rest inside _ ih =>
    have endsRest : ∀ c ∈ rest.getLast?, c ∉ nowCall := by
      intro c isLast
      refine ends c ?_
      obtain ⟨init, rfl⟩ := List.getLast?_eq_some_iff.mp isLast
      rw [← List.cons_append, List.getLast?_append, ← List.cons_append, List.getLast?_concat]
      rfl
    rw [List.cons_append, List.append_assoc, List.cons_append, marks_literal inside,
      marks_literal inside, ih endsRest, List.cons_append]
  | @other c rest unquoted _ ih =>
    have endsRest : ∀ d ∈ rest.getLast?, d ∉ nowCall := by
      intro d isLast
      refine ends d ?_
      rw [List.getLast?_cons, isLast]
      rfl
    have sameCall := call_append_iff back (List.cons_ne_nil c rest) ends
    rw [List.cons_append] at sameCall
    rw [List.cons_append, marks_unquoted unquoted, marks_unquoted unquoted, ih endsRest,
      List.append_assoc]
    simp only [sameCall]

end QuotedText.Sql
