import Mathlib.Data.List.SplitBy
import QuotedText.Proofs.Text.Trim

/-!
# Flattened text

A text is made up of its maximal runs of blanks and its other characters, in one way
(`Text.runs`). Flattening writes a space for each run and leaves the other characters
(`Text.flatten_eq_map_symbols`), and the runs of a flattened text are those of the text
(`Text.symbols_flatten`). Words are maximal runs as well (`Text.words_eq_filter_runs`), and
flattening changes none of them (`Text.words_flatten`). So flattened texts are canonical
(`Text.flatten_canonical`).
-/

namespace QuotedText.Text

/-! ## Runs -/

/-- The maximal runs of characters of a class, and all other characters by themselves, in order. -/
def runs (inRun : Char → Bool) (text : Text) : List Text :=
  text.splitBy fun c d => inRun c && inRun d

/-- A text with each maximal run of blanks as one symbol, which is the same for all of them. -/
def symbols (text : Text) : List (Option Char) :=
  (text.runs isBlank).map (·.find? (!isBlank ·))

/-- A character outside the class stands by itself. -/
theorem runs_other {inRun : Char → Bool} {c : Char} (other : inRun c = false) (rest : Text) :
    runs inRun (c :: rest) = [c] :: runs inRun rest := by
  have apart : ∀ x ∈ [c].getLast?, ∀ y ∈ rest.head?, (inRun x && inRun y) = false := by
    intro x isLast y _
    obtain rfl : c = x := Option.some.inj isLast
    rw [other, Bool.false_and]
  have alone : List.splitBy (fun c d => inRun c && inRun d) [c] = [[c]] :=
    List.splitBy_of_isChain (List.cons_ne_nil c []) (List.isChain_singleton c)
  rw [runs, ← List.singleton_append, List.splitBy_append apart, alone]
  rfl

/-- Characters of the class are one run when none follows. -/
theorem runs_run_append {inRun : Char → Bool} {run rest : Text} (nonempty : run ≠ [])
    (within : ∀ c ∈ run, inRun c = true) (apart : ∀ c ∈ rest.head?, inRun c = false) :
    runs inRun (run ++ rest) = run :: runs inRun rest := by
  have seam : ∀ x ∈ run.getLast?, ∀ y ∈ rest.head?, (inRun x && inRun y) = false := by
    intro x _ y isHead
    rw [apart y isHead, Bool.and_false]
  have chain : run.IsChain fun c d => (inRun c && inRun d) = true := by
    refine List.Pairwise.isChain (List.pairwise_of_forall_mem_list fun c inC d inD => ?_)
    rw [within c inC, within d inD, Bool.true_and]
  rw [runs, List.splitBy_append seam, List.splitBy_of_isChain nonempty chain]
  rfl

/-! ## Steps of flattening -/

/-- Within a run, the blanks at the head of a text are lost. -/
theorem flattenFrom_true (text : Text) :
    flattenFrom true text = flatten (text.dropWhile isBlank) := by
  induction text with
  | nil => rfl
  | cons c rest ih =>
    cases blank : isBlank c with
    | true => simp [flattenFrom, blank, ih]
    | false => simp [flattenFrom, flatten, blank]

/-- A run of blanks becomes one space. -/
theorem flatten_blank {c : Char} (blank : isBlank c = true) (rest : Text) :
    flatten (c :: rest) = ' ' :: flatten (rest.dropWhile isBlank) := by
  rw [flatten, flattenFrom, if_pos blank, flattenFrom_true]
  rfl

/-- What is not blank stays. -/
theorem flatten_visible {c : Char} (visible : isBlank c = false) (rest : Text) :
    flatten (c :: rest) = c :: flatten rest := by
  rw [flatten, flattenFrom, if_neg (by simp [visible])]
  rfl

/-- Text that begins with no blank begins with none when it is flattened. -/
theorem visible_head_flatten {text : Text} (visible : ∀ c ∈ text.head?, isBlank c = false) :
    ∀ c ∈ (flatten text).head?, isBlank c = false := by
  cases text with
  | nil => exact visible
  | cons c rest => rwa [flatten_visible (visible c rfl)]

/-- Visible text at the head of a text stays. -/
theorem flatten_visible_append {front : Text} (visible : ∀ c ∈ front, isBlank c = false)
    (rest : Text) : flatten (front ++ rest) = front ++ flatten rest := by
  induction front with
  | nil => rfl
  | cons c front ih =>
    obtain ⟨here, later⟩ := List.forall_mem_cons.mp visible
    rw [List.cons_append, flatten_visible here, ih later, List.cons_append]

/-- Visible text stands at the head of a flattened text when it stands at the head of the text. -/
theorem prefix_flatten_iff {pattern : Text} (visible : ∀ c ∈ pattern, isBlank c = false)
    (text : Text) : pattern <+: flatten text ↔ pattern <+: text := by
  induction pattern generalizing text with
  | nil => simp
  | cons p pattern ih =>
    obtain ⟨here, later⟩ := List.forall_mem_cons.mp visible
    cases text with
    | nil => rfl
    | cons c rest =>
      cases blank : isBlank c with
      | true =>
        have other {d : Char} (blankHead : isBlank d = true) (tail : Text) :
            ¬p :: pattern <+: d :: tail := by
          intro stands
          rw [(List.cons_prefix_cons.mp stands).1, blankHead] at here
          contradiction
        rw [flatten_blank blank]
        exact iff_of_false (other (by decide) _) (other blank rest)
      | false => rw [flatten_visible blank, List.cons_prefix_cons, List.cons_prefix_cons, ih later]

/-! ## Words of joined texts -/

/-- A separator belongs to no word, and no word goes over it. -/
theorem words_append_separator {c : Char} (separates : isWordSeparator c = true)
    (front back : Text) : words (front ++ c :: back) = words front ++ words back := by
  rw [words, List.splitOnP_append_cons front back separates, List.filter_append]
  rfl

/-- Separators at the head of a text belong to no word. -/
theorem words_separators_append {separators : Text}
    (separate : ∀ c ∈ separators, isWordSeparator c = true) (rest : Text) :
    words (separators ++ rest) = words rest := by
  induction separators with
  | nil => rfl
  | cons c separators ih =>
    obtain ⟨here, later⟩ := List.forall_mem_cons.mp separate
    exact (words_append_separator here [] (separators ++ rest)).trans (ih later)

/-- Characters that separate nothing are one word, when a separator follows or nothing does. -/
theorem words_word_append {word rest : Text} (nonempty : word ≠ [])
    (within : ∀ c ∈ word, isWordSeparator c = false)
    (apart : ∀ c ∈ rest.head?, isWordSeparator c = true) :
    words (word ++ rest) = word :: words rest := by
  have alone : words word = [word] := by
    rw [words, List.splitOnP_eq_singleton within]
    simp [nonempty]
  cases rest with
  | nil =>
    rw [List.append_nil, alone]
    rfl
  | cons c rest =>
    have separates : isWordSeparator c = true := apart c rfl
    have behind : words (c :: rest) = words rest := words_append_separator separates [] rest
    rw [words_append_separator separates, alone, behind, List.singleton_append]

/-! ## Symbols of flattened text -/

/-- What holds of the empty text, behind a visible character and behind a run of blanks holds of
every text. -/
theorem blankRunInduction {motive : Text → Prop} (nil : motive [])
    (visible : ∀ c rest, isBlank c = false → motive rest → motive (c :: rest))
    (blank : ∀ c rest, isBlank c = true → motive (rest.dropWhile isBlank) → motive (c :: rest))
    (text : Text) : motive text := by
  match text with
  | [] => exact nil
  | c :: rest =>
    cases isBlankHead : isBlank c with
    | false => exact visible c rest isBlankHead (blankRunInduction nil visible blank rest)
    | true =>
      have short := (List.dropWhile_sublist isBlank (l := rest)).length_le
      exact blank c rest isBlankHead
        (blankRunInduction nil visible blank (rest.dropWhile isBlank))
termination_by text.length
decreasing_by
  all_goals
    simp only [List.length_cons]
    omega

/-- A visible character is a symbol of its own. -/
theorem symbols_visible {c : Char} (visible : isBlank c = false) (rest : Text) :
    symbols (c :: rest) = some c :: symbols rest := by
  rw [symbols, runs_other visible, List.map_cons]
  simp [symbols, visible]

/-- A run of blanks is one symbol. -/
theorem symbols_blank {c : Char} (blank : isBlank c = true) (rest : Text) :
    symbols (c :: rest) = none :: symbols (rest.dropWhile isBlank) := by
  have within : ∀ d ∈ c :: rest.takeWhile isBlank, isBlank d = true :=
    List.forall_mem_cons.mpr ⟨blank, fun _ => List.mem_takeWhile_imp⟩
  have noVisible : (c :: rest.takeWhile isBlank).find? (!isBlank ·) = none := by
    rw [List.find?_eq_none]
    exact fun d member => by simp [within d member]
  have split : c :: rest = c :: rest.takeWhile isBlank ++ rest.dropWhile isBlank := by
    rw [List.cons_append, List.takeWhile_append_dropWhile]
  rw [symbols, split, runs_run_append (List.cons_ne_nil _ _) within (visible_head_dropWhile rest),
    List.map_cons, noVisible]
  rfl

/-- Flattening writes a space for each run of blanks and leaves every other character. -/
theorem flatten_eq_map_symbols (text : Text) : flatten text = text.symbols.map (·.getD ' ') := by
  induction text using blankRunInduction with
  | nil => rfl
  | visible c rest visible ih =>
    rw [flatten_visible visible, symbols_visible visible, List.map_cons, ih]
    rfl
  | blank c rest blank ih =>
    rw [flatten_blank blank, symbols_blank blank, List.map_cons, ih]
    rfl

/-- Flattening changes no symbol. -/
theorem symbols_flatten (text : Text) : symbols (flatten text) = text.symbols := by
  induction text using blankRunInduction with
  | nil => rfl
  | visible c rest visible ih =>
    rw [flatten_visible visible, symbols_visible visible, symbols_visible visible, ih]
  | blank c rest blank ih =>
    have space : isBlank ' ' = true := by decide
    have visible := visible_head_flatten (visible_head_dropWhile rest)
    have stays : (flatten (rest.dropWhile isBlank)).dropWhile isBlank =
        flatten (rest.dropWhile isBlank) := by
      cases flat : flatten (rest.dropWhile isBlank) with
      | nil => rfl
      | cons d more =>
        rw [flat] at visible
        exact List.dropWhile_cons_of_neg (by simp [visible d rfl])
    rw [flatten_blank blank, symbols_blank blank, symbols_blank space, stays, ih]

/-! ## Words of flattened text -/

/-- What holds of the empty text, behind a separator and behind a word holds of every text. -/
theorem wordInduction {motive : Text → Prop} (nil : motive [])
    (separator : ∀ c rest, isWordSeparator c = true → motive rest → motive (c :: rest))
    (word : ∀ word rest, word ≠ [] → (∀ c ∈ word, isWordSeparator c = false) →
      (∀ c ∈ rest.head?, isWordSeparator c = true) → motive rest → motive (word ++ rest))
    (text : Text) : motive text := by
  match text with
  | [] => exact nil
  | c :: rest =>
    cases separates : isWordSeparator c with
    | true => exact separator c rest separates (wordInduction nil separator word rest)
    | false =>
      have within : ∀ d ∈ c :: rest.takeWhile (!isWordSeparator ·), isWordSeparator d = false := by
        refine List.forall_mem_cons.mpr ⟨separates, fun d member => ?_⟩
        simpa using List.mem_takeWhile_imp member
      have apart : ∀ d ∈ (rest.dropWhile (!isWordSeparator ·)).head?,
          isWordSeparator d = true := by
        intro d isHead
        have stops := List.head?_dropWhile_not (!isWordSeparator ·) rest
        rw [isHead] at stops
        simpa using stops
      have short := (List.dropWhile_sublist (!isWordSeparator ·) (l := rest)).length_le
      have found := word _ _ (List.cons_ne_nil _ _) within apart
        (wordInduction nil separator word (rest.dropWhile (!isWordSeparator ·)))
      rwa [List.cons_append, List.takeWhile_append_dropWhile] at found
termination_by text.length
decreasing_by
  all_goals
    simp only [List.length_cons]
    omega

/-- A separator at the head of a text belongs to no word. -/
theorem words_separator {c : Char} (separates : isWordSeparator c = true) (rest : Text) :
    words (c :: rest) = words rest :=
  words_append_separator separates [] rest

/-- Words are the maximal runs of characters that separate nothing. -/
theorem words_eq_filter_runs (text : Text) :
    words text = (text.runs (!isWordSeparator ·)).filter (·.all (!isWordSeparator ·)) := by
  induction text using wordInduction with
  | nil => rfl
  | separator c rest separates ih =>
    have other : (!isWordSeparator c) = false := by rw [separates, Bool.not_true]
    rw [words_separator separates, runs_other other, List.filter_cons_of_neg (by simp [separates]),
      ih]
  | word word rest nonempty within apart ih =>
    have inRun : ∀ c ∈ word, (!isWordSeparator c) = true := fun c member => by
      rw [within c member, Bool.not_false]
    have stops : ∀ c ∈ rest.head?, (!isWordSeparator c) = false := fun c isHead => by
      rw [apart c isHead, Bool.not_true]
    rw [words_word_append nonempty within apart, runs_run_append nonempty inRun stops,
      List.filter_cons_of_pos (by simpa using within), ih]

/-- The blanks at the head of a flattened text belong to no word. -/
theorem words_flatten_dropWhile (text : Text) :
    words (flatten (text.dropWhile isBlank)) = words (flatten text) := by
  cases text with
  | nil => rfl
  | cons c rest =>
    cases blank : isBlank c with
    | true =>
      have space : isWordSeparator ' ' = true := by decide
      rw [List.dropWhile_cons_of_pos blank, flatten_blank blank, words_separator space]
    | false => rw [List.dropWhile_cons_of_neg (by simp [blank])]

/-- A flattened text begins with a separator when the text does. -/
theorem separator_head_flatten {text : Text}
    (separates : ∀ c ∈ text.head?, isWordSeparator c = true) :
    ∀ c ∈ (flatten text).head?, isWordSeparator c = true := by
  cases text with
  | nil => exact separates
  | cons c rest =>
    intro d isHead
    cases blank : isBlank c with
    | true =>
      rw [flatten_blank blank] at isHead
      obtain rfl := Option.some.inj isHead
      decide
    | false =>
      rw [flatten_visible blank] at isHead
      exact separates d isHead

/-- Flattening changes no word. -/
theorem words_flatten (text : Text) : words (flatten text) = words text := by
  induction text using wordInduction with
  | nil => rfl
  | separator c rest separates ih =>
    rw [words_separator separates, ← ih]
    cases blank : isBlank c with
    | true =>
      have space : isWordSeparator ' ' = true := by decide
      rw [flatten_blank blank, words_separator space, words_flatten_dropWhile]
    | false => rw [flatten_visible blank, words_separator separates]
  | word word rest nonempty within apart ih =>
    have visible : ∀ c ∈ word, isBlank c = false := by
      intro c member
      cases blank : isBlank c with
      | true => exact absurd (isWordSeparator_of_isBlank blank) (by simp [within c member])
      | false => rfl
    rw [flatten_visible_append visible, words_word_append nonempty within apart,
      words_word_append nonempty within (separator_head_flatten apart), ih]

/-! ## The canonical form -/

/-- Flattened texts are canonical: two texts flatten alike exactly when they have the same symbols,
flattening twice is flattening once, and a flattened text has the words of the text, which are its
maximal runs of characters that separate nothing. -/
theorem flatten_canonical (a b : Text) :
    (flatten a = flatten b ↔ symbols a = symbols b) ∧
      flatten (flatten a) = flatten a ∧
      words (flatten a) = words a ∧
      words a = (runs (!isWordSeparator ·) a).filter (·.all (!isWordSeparator ·)) := by
  refine ⟨⟨fun same => ?_, fun same => ?_⟩, ?_, words_flatten a, words_eq_filter_runs a⟩
  · rw [← symbols_flatten a, same, symbols_flatten]
  · rw [flatten_eq_map_symbols, same, ← flatten_eq_map_symbols]
  · rw [flatten_eq_map_symbols (flatten a), symbols_flatten, ← flatten_eq_map_symbols]

end QuotedText.Text
