import Mathlib.Data.List.Basic
import QuotedText.Proofs.Sql.Mark
import QuotedText.Proofs.Sql.Token
import QuotedText.Proofs.Text.Trim

/-!
# Blanks in identifiers

A space, tab or line break ends a word and takes the blanks behind it along. Blanks of other kinds
end no word, so a run that begins with one of them may become part of an identifier, up to the first
space, tab or line break in it: a loose run. An identifier holds a blank exactly when a loose run
stands outside literals next to a character of a word (`Sql.noBlank_identifier_iff`). Each lexeme
stops where it has to (`Sql.Lexeme.settled_ofText`), so a loose run lies within one word.
-/

namespace QuotedText.Sql

open Lexeme

/-! ## Loose runs -/

/-- A text begins with a character of a word. -/
def BeginsWord (text : Text) : Prop :=
  ∃ c ∈ text.head?, isDelimiter c = false ∧ c ≠ '\'' ∧ ¬nowCall <+: text

/-- The blanks of a run outside literals up to its first space, tab or line break, where some stand
before that and next to a character of a word. -/
structure IsLooseRun (before loose after : Text) : Prop where
  /-- There are such blanks. -/
  nonempty : loose ≠ []
  /-- They are blanks of other kinds. -/
  blank : ∀ c ∈ loose, isBlank c = true ∧ beginsBlankGap c = false
  /-- They stand outside literals. -/
  outside : Even (before.count '\'')
  /-- The run of blanks begins with them. -/
  begins : ∀ c ∈ before.getLast?, isBlank c = false
  /-- They go on to the first space, tab or line break or to the end of the run. -/
  ends : ∀ c ∈ after.head?, isBlank c = true → beginsBlankGap c = true
  /-- A character of a word stands before them or behind them. -/
  touches : (∃ c ∈ before.getLast?, isPunctuation c = false ∧ c ≠ '\'') ∨ BeginsWord after

/-- Some blanks of a text are a loose run. -/
def HasLooseRun (text : Text) : Prop :=
  ∃ before loose after, text = before ++ (loose ++ after) ∧ IsLooseRun before loose after

/-- A loose run begins with a blank of another kind than a space, tab or line break. -/
theorem IsLooseRun.exists_cons {before loose after : Text} (run : IsLooseRun before loose after) :
    ∃ c rest, loose = c :: rest ∧ isBlank c = true ∧ beginsBlankGap c = false := by
  obtain ⟨c, rest, rfl⟩ := List.exists_cons_of_ne_nil run.nonempty
  exact ⟨c, rest, rfl, run.blank c List.mem_cons_self⟩

/-! ## Where lexemes stop -/

namespace Lexeme

/-- A lexeme before `rest` stops where it has to: a word before a call, punctuation behind one
character and another gap behind its last blank. -/
def StopsBefore (lexeme : Lexeme) (rest : Text) : Prop :=
  match lexeme.kind with
  | .word => NoCallBegins lexeme.text rest
  | .gap =>
    (∃ c, isPunctuation c = true ∧ lexeme.text = [c]) ∨
      (∃ c ∈ lexeme.text.head?, beginsBlankGap c = true) ∧ ∀ c ∈ rest.head?, isBlank c = false
  | .literal | .call | .unterminated => True

/-- Every lexeme of a list stops where it has to. -/
def Settled : List Lexeme → Prop
  | [] => True
  | lexeme :: more => lexeme.StopsBefore (texts more) ∧ Settled more

/-- A character at which no call begins may stand before lexemes. -/
theorem Settled.consWord {c : Char} {lexemes : List Lexeme}
    (noCall : ¬nowCall <+: c :: texts lexemes) (settled : Settled lexemes) :
    Settled (Lexeme.consWord c lexemes) := by
  have alone : StopsBefore ⟨.word, [c]⟩ (texts lexemes) := by
    intro tail nonempty isTail
    obtain rfl : tail = [c] := (List.suffix_cons_iff.mp isTail).resolve_right fun empty =>
      nonempty (List.suffix_nil.mp empty)
    exact noCall
  unfold Lexeme.consWord
  split
  · rename_i text more
    obtain ⟨stops, others⟩ := settled
    refine ⟨?_, others⟩
    intro tail nonempty isTail
    rcases List.suffix_cons_iff.mp isTail with rfl | inText
    · exact noCall
    · exact stops tail nonempty inText
  · exact ⟨alone, settled⟩

/-- The lexemes of a text stop where they have to. -/
theorem settled_ofText (text : Text) : Settled (ofText text) := by
  fun_induction ofText text with
  | case1 => trivial
  | case2 => exact ⟨trivial, trivial⟩
  | case3 _ _ _ _ _ _ _ ih => exact ⟨trivial, ih⟩
  | case4 c rest _ begins ih =>
    refine ⟨.inr ⟨⟨c, rfl, begins⟩, ?_⟩, ih⟩
    rw [ofText_flatten]
    exact Text.visible_head_dropWhile rest
  | case5 c _ _ _ punctuation ih => exact ⟨.inl ⟨c, punctuation, rfl⟩, ih⟩
  | case6 _ _ _ _ _ _ ih => exact ⟨trivial, ih⟩
  | case7 c rest _ _ _ noCall ih =>
    refine ih.consWord ?_
    rwa [ofText_flatten, ← List.isPrefixOf_iff_prefix]

/-- What follows a word begins with a delimiter, a quote or a call. -/
theorem WellLexed.not_beginsWord {lexemes : List Lexeme} (lexed : WellLexed lexemes)
    (apart : ∀ next ∈ lexemes.head?, next.kind ≠ .word) : ¬BeginsWord (texts lexemes) := by
  rintro ⟨c, isHead, plain, unquoted, noCall⟩
  cases lexed with
  | nil => contradiction
  | word => exact absurd rfl (apart _ rfl)
  | literal => exact unquoted (Option.some.inj isHead).symm
  | call => exact noCall (List.prefix_append nowCall _)
  | gap begins =>
    obtain rfl := Option.some.inj isHead
    rw [begins] at plain
    contradiction
  | unterminated => exact unquoted (Option.some.inj isHead).symm

end Lexeme

/-! ## Loose runs behind a lexeme that is no word -/

variable {front rest : Text}

/-- No loose run begins in a text: the blanks in it are in a literal, behind other blanks, or a
space, tab or line break. -/
def NoLooseRunBegins (front : Text) : Prop :=
  ∀ before c after, front = before ++ c :: after → Even (before.count '\'') →
    isBlank c = true → beginsBlankGap c = false → ∃ d ∈ before.getLast?, isBlank d = true

/-- A loose run of a longer text begins in its first part or behind it. -/
theorem IsLooseRun.exists_append {before loose after : Text} (run : IsLooseRun before loose after)
    (noneBegins : NoLooseRunBegins front) (split : front ++ rest = before ++ (loose ++ after)) :
    ∃ later, before = front ++ later ∧ rest = later ++ (loose ++ after) := by
  rcases List.append_eq_append_iff.mp split with ⟨later, beforeEq, restEq⟩ | ⟨tail, frontEq, runEq⟩
  · exact ⟨later, beforeEq, restEq⟩
  · cases tail with
    | nil => exact ⟨[], by simp [frontEq], by simpa using runEq.symm⟩
    | cons c tail =>
      obtain ⟨d, looseRest, rfl, blank, other⟩ := run.exists_cons
      obtain rfl : d = c := (List.cons.inj runEq).1
      obtain ⟨e, isLast, blankBefore⟩ := noneBegins before d tail frontEq run.outside blank other
      rw [run.begins e isLast] at blankBefore
      contradiction

/-- A loose run stays one behind a text whose quotes are paired, unless a blank at the end of that
text begins its run of blanks. -/
theorem IsLooseRun.append {before loose after : Text} (run : IsLooseRun before loose after)
    (even : Even (front.count '\''))
    (seam : before = [] → ∀ c ∈ front.getLast?, isBlank c = false) :
    IsLooseRun (front ++ before) loose after where
  nonempty := run.nonempty
  blank := run.blank
  outside := by
    rw [List.count_append]
    exact even.add run.outside
  begins := by
    intro c isLast
    by_cases empty : before = []
    · rw [empty, List.append_nil] at isLast
      exact seam empty c isLast
    · rw [List.getLast?_append_of_ne_nil front empty] at isLast
      exact run.begins c isLast
  ends := run.ends
  touches := by
    rcases run.touches with ⟨c, isLast, inWord⟩ | behind
    · have nonempty : before ≠ [] := by
        rintro rfl
        contradiction
      refine .inl ⟨c, ?_, inWord⟩
      rwa [List.getLast?_append_of_ne_nil front nonempty]
    · exact .inr behind

/-- A loose run stays one without a text before it whose quotes are paired and that has no character
of a word next to it. -/
theorem IsLooseRun.of_append {before loose after : Text}
    (run : IsLooseRun (front ++ before) loose after) (even : Even (front.count '\''))
    (seam : before = [] → ∀ c ∈ front.getLast?, isPunctuation c = false → c ≠ '\'' →
      isBlank c = true) : IsLooseRun before loose after where
  nonempty := run.nonempty
  blank := run.blank
  outside := by
    have outside := run.outside
    rw [List.count_append, Nat.even_add] at outside
    exact outside.mp even
  begins := by
    intro c isLast
    have nonempty : before ≠ [] := by
      rintro rfl
      contradiction
    rw [← List.getLast?_append_of_ne_nil front nonempty] at isLast
    exact run.begins c isLast
  ends := run.ends
  touches := by
    rcases run.touches with ⟨c, isLast, punctuation, unquoted⟩ | behind
    · by_cases empty : before = []
      · have visible := run.begins c isLast
        rw [empty, List.append_nil] at isLast
        rw [seam empty c isLast punctuation unquoted] at visible
        contradiction
      · rw [List.getLast?_append_of_ne_nil front empty] at isLast
        exact .inl ⟨c, isLast, punctuation, unquoted⟩
    · exact .inr behind

/-- A text in which no loose run begins and that does not end with a character of a word has no say
in the loose runs behind it. -/
theorem hasLooseRun_append_iff (even : Even (front.count '\''))
    (noneBegins : NoLooseRunBegins front)
    (ends : ∀ c ∈ front.getLast?, isPunctuation c = false → c ≠ '\'' →
      isBlank c = true ∧ ∀ d ∈ rest.head?, isBlank d = false) :
    HasLooseRun (front ++ rest) ↔ HasLooseRun rest := by
  constructor
  · rintro ⟨before, loose, after, split, run⟩
    obtain ⟨later, rfl, restEq⟩ := run.exists_append noneBegins split
    refine ⟨later, loose, after, restEq, run.of_append even ?_⟩
    exact fun _ c isLast punctuation unquoted => (ends c isLast punctuation unquoted).1
  · rintro ⟨before, loose, after, rfl, run⟩
    refine ⟨front ++ before, loose, after, by rw [List.append_assoc], run.append even ?_⟩
    rintro rfl c isLast
    obtain ⟨d, looseRest, rfl, blank, other⟩ := run.exists_cons
    by_contra blankSeam
    have blankC : isBlank c = true := by simpa using blankSeam
    have punctuation : isPunctuation c = false := isPunctuation_eq_false_of_isBlank blankC
    have visible := (ends c isLast punctuation (ne_of_isBlank blankC).1).2 d rfl
    rw [blank] at visible
    contradiction

/-- In a literal blanks stand behind one quote. -/
theorem noLooseRunBegins_literal {body : Text} (inside : '\'' ∉ body) :
    NoLooseRunBegins ('\'' :: (body ++ ['\''])) := by
  intro before c after split even blank _
  cases before with
  | nil =>
    obtain rfl : '\'' = c := (List.cons.inj split).1
    contradiction
  | cons d before =>
    obtain ⟨rfl, whole⟩ : '\'' = d ∧ body ++ ['\''] = before ++ c :: after := List.cons.inj split
    rcases List.append_eq_append_iff.mp whole with ⟨later, beforeEq, restEq⟩ | ⟨tail, bodyEq, _⟩
    · cases later with
      | nil =>
        obtain rfl : '\'' = c := (List.cons.inj restEq).1
        contradiction
      | cons e later => simp at restEq
    · have none : before.count '\'' = 0 :=
        List.count_eq_zero.mpr fun member => inside (bodyEq ▸ List.mem_append_left _ member)
      rw [List.count_cons_self, none] at even
      exact absurd even (by decide)

/-- No loose run begins among characters that are no blanks. -/
theorem noLooseRunBegins_visible (visible : ∀ c ∈ front, isBlank c = false) :
    NoLooseRunBegins front := by
  rintro before c after rfl _ blank _
  rw [visible c (by simp)] at blank
  contradiction

/-- Behind a space, tab or line break, blanks stand behind other blanks. -/
theorem noLooseRunBegins_blanks {c : Char} {blanks : Text} (begins : beginsBlankGap c = true)
    (blank : ∀ d ∈ blanks, isBlank d = true) : NoLooseRunBegins (c :: blanks) := by
  have allBlank : ∀ d ∈ c :: blanks, isBlank d = true :=
    List.forall_mem_cons.mpr ⟨isBlank_of_beginsBlankGap begins, blank⟩
  intro before d after split _ _ other
  cases before with
  | nil =>
    obtain rfl : c = d := (List.cons.inj split).1
    rw [begins] at other
    contradiction
  | cons e before =>
    have nonempty : e :: before ≠ [] := List.cons_ne_nil e before
    have isLast : (e :: before).getLast nonempty ∈ (e :: before).getLast? :=
      List.getLast?_eq_some_getLast nonempty
    refine ⟨_, isLast, allBlank _ ?_⟩
    rw [split]
    exact List.mem_append_left _ (List.getLast_mem nonempty)

/-- A literal has no say in the loose runs behind it. -/
theorem hasLooseRun_literal_append_iff {body : Text} (inside : '\'' ∉ body) :
    HasLooseRun ('\'' :: (body ++ ['\'']) ++ rest) ↔ HasLooseRun rest := by
  refine hasLooseRun_append_iff (even_quotes_literal inside) (noLooseRunBegins_literal inside) ?_
  intro c isLast _ unquoted
  rw [← List.cons_append, List.getLast?_concat] at isLast
  exact absurd (Option.some.inj isLast).symm unquoted

/-- A call has no say in the loose runs behind it. -/
theorem hasLooseRun_call_append_iff : HasLooseRun (nowCall ++ rest) ↔ HasLooseRun rest := by
  refine hasLooseRun_append_iff even_quotes_call (noLooseRunBegins_visible visible_nowCall) ?_
  intro c isLast noPunctuation
  obtain rfl := Option.some.inj isLast
  exact absurd noPunctuation (by decide)

/-- A parenthesis or comma has no say in the loose runs behind it. -/
theorem hasLooseRun_punctuation_append_iff {c : Char} (punctuation : isPunctuation c = true) :
    HasLooseRun ([c] ++ rest) ↔ HasLooseRun rest := by
  have delimiter : isDelimiter c = true := by rw [isDelimiter, punctuation, Bool.or_true]
  have visible : ∀ d ∈ [c], isBlank d = false := by
    simpa using isBlank_eq_false_of_isPunctuation punctuation
  refine hasLooseRun_append_iff (even_quotes_gap delimiter (List.forall_mem_nil _))
    (noLooseRunBegins_visible visible) ?_
  intro d isLast noPunctuation
  obtain rfl : c = d := Option.some.inj isLast
  rw [punctuation] at noPunctuation
  contradiction

/-- A space, tab or line break and all the blanks behind it have no say in the loose runs that
follow. -/
theorem hasLooseRun_blanks_append_iff {c : Char} {blanks : Text}
    (begins : beginsBlankGap c = true) (blank : ∀ d ∈ blanks, isBlank d = true)
    (visible : ∀ d ∈ rest.head?, isBlank d = false) :
    HasLooseRun (c :: blanks ++ rest) ↔ HasLooseRun rest := by
  have delimiter : isDelimiter c = true := by rw [isDelimiter, begins, Bool.true_or]
  refine hasLooseRun_append_iff (even_quotes_gap delimiter blank)
    (noLooseRunBegins_blanks begins blank) ?_
  intro d isLast _ _
  rcases List.mem_cons.mp (List.mem_of_getLast? isLast) with rfl | inBlanks
  · exact ⟨isBlank_of_beginsBlankGap begins, visible⟩
  · exact ⟨blank d inBlanks, visible⟩

/-! ## Loose runs in a word -/

/-- The first blanks of a text, what stands before them and what stands behind them. -/
theorem exists_first_blanks {text : Text} (blank : ∃ c ∈ text, isBlank c = true) :
    ∃ before blanks after, text = before ++ (blanks ++ after) ∧ blanks ≠ [] ∧
      (∀ c ∈ before, isBlank c = false) ∧ (∀ c ∈ blanks, isBlank c = true) ∧
      ∀ c ∈ after.head?, isBlank c = false := by
  have whole := List.takeWhile_append_dropWhile (p := (!isBlank ·)) (l := text)
  have found := List.head?_dropWhile_not (!isBlank ·) text
  cases left : text.dropWhile (!isBlank ·) with
  | nil =>
    obtain ⟨c, member, blank⟩ := blank
    have visible := List.dropWhile_eq_nil_iff.mp left c member
    rw [blank] at visible
    contradiction
  | cons c rest =>
    rw [left] at whole found
    have first : isBlank c = true := by simpa using found
    refine ⟨text.takeWhile (!isBlank ·), c :: rest.takeWhile isBlank, rest.dropWhile isBlank,
      ?_, List.cons_ne_nil _ _, ?_, ?_, Text.visible_head_dropWhile rest⟩
    · rw [List.cons_append, List.takeWhile_append_dropWhile, whole]
    · intro d member
      simpa using List.mem_takeWhile_imp member
    · refine List.forall_mem_cons.mpr ⟨first, ?_⟩
      exact fun _ => List.mem_takeWhile_imp

/-- A text that begins with no word begins with no blank of another kind than a space, tab or line
break. -/
theorem beginsBlankGap_of_not_beginsWord (none : ¬BeginsWord rest) :
    ∀ c ∈ rest.head?, isBlank c = true → beginsBlankGap c = true := by
  intro c isHead blank
  by_contra other
  have plain : isDelimiter c = false :=
    isDelimiter_eq_false_iff.mpr ⟨by simpa using other, isPunctuation_eq_false_of_isBlank blank⟩
  obtain ⟨later, rfl⟩ := List.head?_eq_some_iff.mp isHead
  obtain ⟨unquoted, noCall⟩ := ne_of_isBlank blank
  exact none ⟨c, isHead, plain, unquoted, not_call noCall⟩

/-- No loose run stands where no word begins. -/
theorem IsLooseRun.beginsWord {before loose after : Text} (run : IsLooseRun before loose after) :
    BeginsWord (loose ++ after) := by
  by_contra none
  obtain ⟨c, looseRest, rfl, blank, other⟩ := run.exists_cons
  rw [beginsBlankGap_of_not_beginsWord none c rfl blank] at other
  contradiction

/-- Next to blanks of a word that has other characters stands one of those. -/
theorem touches_of_word {before loose after : Text}
    (plain : ∀ c ∈ before ++ (loose ++ after), isDelimiter c = false ∧ c ≠ '\'')
    (noCall : NoCallBegins (before ++ (loose ++ after)) rest)
    (blank : ∀ c ∈ loose, isBlank c = true)
    (visible : ∃ c ∈ before ++ (loose ++ after), isBlank c = false) :
    (∃ c ∈ before.getLast?, isPunctuation c = false ∧ c ≠ '\'') ∨ BeginsWord (after ++ rest) := by
  by_cases first : before = []
  · -- The word begins with the blanks, so another character of it stands behind them.
    subst first
    cases after with
    | nil =>
      obtain ⟨c, member, visible⟩ := visible
      rw [blank c (by simpa using member)] at visible
      contradiction
    | cons d after =>
      have isTail : d :: after <:+ [] ++ (loose ++ d :: after) := List.suffix_append loose _
      have stops := noCall (d :: after) (List.cons_ne_nil d after) isTail
      obtain ⟨other, unquoted⟩ := plain d (by simp)
      exact .inr ⟨d, rfl, other, unquoted, stops⟩
  · have isLast : before.getLast first ∈ before.getLast? := List.getLast?_eq_some_getLast first
    obtain ⟨other, unquoted⟩ := plain _ (List.mem_append_left _ (List.getLast_mem first))
    exact .inl ⟨_, isLast, (isDelimiter_eq_false_iff.mp other).2, unquoted⟩

/-- A word with blanks and other characters has a loose run. -/
theorem hasLooseRun_of_word {word : Text} (plain : ∀ c ∈ word, isDelimiter c = false ∧ c ≠ '\'')
    (noCall : NoCallBegins word rest)
    (none : ¬BeginsWord rest) (blank : ∃ c ∈ word, isBlank c = true)
    (visible : ∃ c ∈ word, isBlank c = false) : HasLooseRun (word ++ rest) := by
  obtain ⟨before, loose, after, rfl, nonempty, visibleBefore, allBlank, visibleAfter⟩ :=
    exists_first_blanks blank
  have plainBefore : ∀ c ∈ before, isDelimiter c = false ∧ c ≠ '\'' :=
    fun c member => plain c (List.mem_append_left _ member)
  have plainLoose : ∀ c ∈ loose, isDelimiter c = false :=
    fun c member => (plain c (by simp [member])).1
  refine ⟨before, loose, after ++ rest, by simp, nonempty, ?_, even_quotes_word plainBefore, ?_, ?_,
    touches_of_word plain noCall allBlank visible⟩
  · exact fun c member =>
      ⟨allBlank c member, (isDelimiter_eq_false_iff.mp (plainLoose c member)).1⟩
  · exact fun c isLast => visibleBefore c (List.mem_of_getLast? isLast)
  · intro c isHead
    cases after with
    | nil => exact beginsBlankGap_of_not_beginsWord none c isHead
    | cons d after =>
      obtain rfl := Option.some.inj isHead
      intro blankHead
      rw [visibleAfter d rfl] at blankHead
      contradiction

/-- When a character of a word stands behind a loose run that begins in a word, it is one of that
word. -/
theorem IsLooseRun.exists_visible {before loose after tail : Text}
    (run : IsLooseRun before loose after) (plain : ∀ c ∈ tail, isDelimiter c = false)
    (none : ¬BeginsWord rest) (split : tail ++ rest = loose ++ after)
    (behind : BeginsWord after) : ∃ c ∈ tail, isBlank c = false := by
  rcases List.append_eq_append_iff.mp split with
    ⟨later, looseEq, restEq⟩ | ⟨later, tailEq, afterEq⟩
  · -- The run would go on behind the word.
    cases later with
    | nil => exact absurd (restEq ▸ behind) none
    | cons c later =>
      have gap := beginsBlankGap_of_not_beginsWord none c (by simp [restEq])
      obtain ⟨blank, other⟩ := run.blank c (by simp [looseEq])
      rw [gap blank] at other
      contradiction
  · cases later with
    | nil =>
      rw [afterEq, List.nil_append] at behind
      exact absurd behind none
    | cons c later =>
      have member : c ∈ tail := by simp [tailEq]
      refine ⟨c, member, ?_⟩
      by_contra blank
      have gap := run.ends c (by simp [afterEq]) (by simpa using blank)
      rw [(isDelimiter_eq_false_iff.mp (plain c member)).1] at gap
      contradiction

/-- A loose run that begins in a word lies within it, next to another character of the word. -/
theorem IsLooseRun.mem_word {before loose after tail : Text} (run : IsLooseRun before loose after)
    (nonempty : tail ≠ []) (plain : ∀ c ∈ tail, isDelimiter c = false)
    (none : ¬BeginsWord rest) (split : tail ++ rest = loose ++ after) :
    (∃ c ∈ tail, isBlank c = true) ∧ ∃ c ∈ before ++ tail, isBlank c = false := by
  constructor
  · obtain ⟨c, looseRest, rfl, blank, -⟩ := run.exists_cons
    obtain ⟨d, tailRest, rfl⟩ := List.exists_cons_of_ne_nil nonempty
    obtain rfl : d = c := (List.cons.inj split).1
    exact ⟨d, List.mem_cons_self, blank⟩
  · rcases run.touches with ⟨c, isLast, -⟩ | behind
    · exact ⟨c, List.mem_append_left _ (List.mem_of_getLast? isLast), run.begins c isLast⟩
    · obtain ⟨c, member, visible⟩ := run.exists_visible plain none split behind
      exact ⟨c, List.mem_append_right _ member, visible⟩

/-- A word has a loose run when it has blanks and other characters; the other loose runs stand in
what follows it. -/
theorem hasLooseRun_word_append_iff {word : Text}
    (plain : ∀ c ∈ word, isDelimiter c = false ∧ c ≠ '\'')
    (noCall : NoCallBegins word rest)
    (none : ¬BeginsWord rest) :
    HasLooseRun (word ++ rest) ↔
      ((∃ c ∈ word, isBlank c = true) ∧ ∃ c ∈ word, isBlank c = false) ∨ HasLooseRun rest := by
  have even : Even (word.count '\'') := even_quotes_word plain
  constructor
  · rintro ⟨before, loose, after, split, run⟩
    rcases List.append_eq_append_iff.mp split with ⟨later, rfl, rfl⟩ | ⟨tail, rfl, runEq⟩
    · refine .inr ⟨later, loose, after, rfl, run.of_append even ?_⟩
      rintro rfl
      exact absurd run.beginsWord none
    · by_cases seam : tail = []
      · subst seam
        rw [List.nil_append] at runEq
        exact absurd run.beginsWord (runEq ▸ none)
      · have plainTail : ∀ c ∈ tail, isDelimiter c = false :=
          fun c member => (plain c (List.mem_append_right _ member)).1
        obtain ⟨⟨c, member, blank⟩, visible⟩ := run.mem_word seam plainTail none runEq.symm
        exact .inl ⟨⟨c, List.mem_append_right _ member, blank⟩, visible⟩
  · rintro (⟨blank, visible⟩ | ⟨before, loose, after, rfl, run⟩)
    · exact hasLooseRun_of_word plain noCall none blank visible
    · refine ⟨word ++ before, loose, after, by rw [List.append_assoc], run.append even ?_⟩
      rintro rfl
      exact absurd run.beginsWord none

/-! ## Loose runs of a text -/

/-- A word that makes an identifier with a blank in it. -/
def Lexeme.HoldsBlank (lexeme : Lexeme) : Prop :=
  lexeme.kind = .word ∧ (∃ c ∈ lexeme.text, isBlank c = true) ∧ ∃ c ∈ lexeme.text, isBlank c = false

/-- A lexeme that is no word adds no word with a blank. -/
theorem exists_holdsBlank_cons_iff {lexeme : Lexeme} {more : List Lexeme}
    (other : lexeme.kind ≠ .word) :
    (∃ next ∈ lexeme :: more, next.HoldsBlank) ↔ ∃ next ∈ more, next.HoldsBlank := by
  simp [Lexeme.HoldsBlank, other]

/-- Where literals are closed and every lexeme stops where it has to, a text has a loose run when a
word with a blank makes an identifier. -/
theorem Lexeme.WellLexed.hasLooseRun_iff {lexemes : List Lexeme} (lexed : WellLexed lexemes)
    (settled : Settled lexemes) (closed : ∀ lexeme ∈ lexemes, lexeme.kind ≠ .unterminated) :
    HasLooseRun (texts lexemes) ↔ ∃ lexeme ∈ lexemes, lexeme.HoldsBlank := by
  induction lexed with
  | nil =>
    have noRun : ¬HasLooseRun (texts []) := by
      rintro ⟨before, loose, after, split, run⟩
      obtain ⟨-, looseAfter⟩ := List.append_eq_nil_iff.mp split.symm
      exact run.nonempty (List.append_eq_nil_iff.mp looseAfter).1
    simpa using noRun
  | @word text more _ plain apart lexed ih =>
    obtain ⟨stops, settled⟩ := settled
    have others := ih settled (List.forall_mem_cons.mp closed).2
    rw [texts_cons, hasLooseRun_word_append_iff plain stops (lexed.not_beginsWord apart), others]
    simp [HoldsBlank]
  | literal inside _ ih =>
    have others := ih settled.2 (List.forall_mem_cons.mp closed).2
    rw [texts_cons, hasLooseRun_literal_append_iff inside, others,
      exists_holdsBlank_cons_iff (by simp)]
  | call _ ih =>
    have others := ih settled.2 (List.forall_mem_cons.mp closed).2
    rw [texts_cons, hasLooseRun_call_append_iff, others, exists_holdsBlank_cons_iff (by simp)]
  | @gap c blanks more _ blank _ ih =>
    obtain ⟨stops, settled⟩ := settled
    have others := ih settled (List.forall_mem_cons.mp closed).2
    rw [texts_cons, exists_holdsBlank_cons_iff (by simp), ← others]
    rcases stops with ⟨d, punctuation, single⟩ | ⟨⟨d, isHead, begins⟩, visible⟩
    · obtain ⟨rfl, rfl⟩ := List.cons.inj single
      exact hasLooseRun_punctuation_append_iff punctuation
    · obtain rfl := Option.some.inj isHead
      exact hasLooseRun_blanks_append_iff begins blank visible
  | unterminated => exact absurd rfl (closed _ List.mem_cons_self)

/-! ## Identifiers -/

/-- Some identifier holds a blank when some word does that is not blank. -/
theorem exists_holdsBlank_iff (lexemes : List Lexeme) :
    (∃ lexeme ∈ lexemes, lexeme.HoldsBlank) ↔
      ∃ token ∈ lexemes.filterMap (·.token?), token.kind = .identifier ∧
        ∃ c ∈ token.text, isBlank c = true := by
  constructor
  · rintro ⟨⟨kind, text⟩, member, isWord, blank, visible⟩
    obtain rfl : kind = .word := isWord
    have isToken := Lexeme.token?_eq_identifier_iff.mpr ⟨rfl, visible⟩
    exact ⟨⟨.identifier, text⟩, List.mem_filterMap.mpr ⟨_, member, isToken⟩, rfl, blank⟩
  · rintro ⟨⟨kind, text⟩, member, isIdentifier, blank⟩
    obtain rfl : kind = .identifier := isIdentifier
    obtain ⟨lexeme, isLexeme, isToken⟩ := List.mem_filterMap.mp member
    obtain ⟨rfl, visible⟩ := Lexeme.token?_eq_identifier_iff.mp isToken
    exact ⟨⟨.word, text⟩, isLexeme, rfl, blank, visible⟩

/-- No identifier holds a space, tab or line break, and none holds a blank of another kind exactly
when no loose run stands in the text. -/
theorem noBlank_identifier_iff {text : Text} {found : List Token}
    (lexed : tokens text = .ok found) :
    (∀ token ∈ found, token.kind = .identifier → ∀ c ∈ token.text, beginsBlankGap c = false) ∧
      ((∀ token ∈ found, token.kind = .identifier → ∀ c ∈ token.text, isBlank c = false) ↔
        ¬HasLooseRun text) := by
  constructor
  · rintro ⟨kind, part⟩ member isIdentifier c inText
    obtain rfl : kind = .identifier := isIdentifier
    obtain ⟨-, plain⟩ := wellFormed_of_mem_tokens lexed _ member
    exact (isDelimiter_eq_false_iff.mp (plain c inText).1).1
  · obtain ⟨closed, rfl⟩ := tokens_eq_ok_iff.mp lexed
    have runs := (wellLexed_ofText text).hasLooseRun_iff (settled_ofText text) closed
    rw [ofText_flatten, exists_holdsBlank_iff] at runs
    rw [runs]
    simp

/-- A blank behind a space goes with the space, and a blank between punctuation makes no word, but a
blank before a literal stays in the word before it. -/
theorem noBlank_identifier_iff_literal :
    tokens "a \u00a0b,\u2003('\u00a0c'".toList =
        .ok [⟨.identifier, ['a']⟩, ⟨.identifier, ['b']⟩,
          ⟨.stringLiteral, "'\u00a0c'".toList⟩] ∧
      ¬HasLooseRun "a \u00a0b,\u2003('\u00a0c'".toList ∧
      tokens "a NOW()\u00a0\t'b'c\u00a0''".toList =
        .ok [⟨.identifier, ['a']⟩, ⟨.functionCall, nowCall⟩, ⟨.stringLiteral, "'b'".toList⟩,
          ⟨.identifier, "c\u00a0".toList⟩, ⟨.stringLiteral, "''".toList⟩] ∧
      HasLooseRun "a NOW()\u00a0\t'b'c\u00a0''".toList := by
  have lexed : tokens "a \u00a0b,\u2003('\u00a0c'".toList =
      .ok [⟨.identifier, ['a']⟩, ⟨.identifier, ['b']⟩, ⟨.stringLiteral, "'\u00a0c'".toList⟩] := by
    decide +kernel
  have lexedLoose : tokens "a NOW()\u00a0\t'b'c\u00a0''".toList =
      .ok [⟨.identifier, ['a']⟩, ⟨.functionCall, nowCall⟩, ⟨.stringLiteral, "'b'".toList⟩,
        ⟨.identifier, "c\u00a0".toList⟩, ⟨.stringLiteral, "''".toList⟩] := by
    decide +kernel
  have visible : ∀ token ∈ ([⟨.identifier, ['a']⟩, ⟨.identifier, ['b']⟩,
        ⟨.stringLiteral, "'\u00a0c'".toList⟩] : List Token),
      token.kind = .identifier → ∀ c ∈ token.text, isBlank c = false := by
    simp only [List.mem_cons, List.not_mem_nil, or_false, forall_eq_or_imp, forall_eq,
      forall_const, reduceCtorEq, false_imp_iff, and_true]
    decide
  refine ⟨lexed, (noBlank_identifier_iff lexed).2.mp visible, lexedLoose, ?_⟩
  by_contra none
  have visibleLoose := (noBlank_identifier_iff lexedLoose).2.mpr none ⟨.identifier, "c\u00a0".toList⟩
    (by simp) rfl '\u00a0' (by decide)
  exact absurd visibleLoose (by decide)

/-- An identifier may hold a blank. -/
theorem blank_mem_identifier :
    ¬∀ text found, tokens text = .ok found →
      ∀ token ∈ found, token.kind = .identifier → ∀ c ∈ token.text, isBlank c = false := by
  have lexed : tokens "a\u00a0b".toList = .ok [⟨.identifier, "a\u00a0b".toList⟩] := by
    decide +kernel
  intro never
  have visible := never _ _ lexed _ List.mem_cons_self rfl '\u00a0' (by decide)
  exact absurd visible (by decide)

end QuotedText.Sql
