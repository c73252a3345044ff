import QuotedText.Proofs.Yaml.Scalar
import QuotedText.Yaml.Mapping

/-!
# Lines of a mapping

A line of a mapping in block form has a key, a colon and a value, which is a plain word or a
sequence between brackets. Whatever follows the line, its tokens are read as its entry
(`Yaml.readsAs_word`, `Yaml.readsAs_sequence`), so a document of such lines holds their entries
(`Yaml.entries?_lines`). A key that begins a line is an entry of any mapping that the document
still holds, whatever its value is and whatever comes later (`Yaml.eq_of_entries?_key`).
-/

namespace QuotedText.Yaml

/-! ## Places -/

namespace Place

/-- A place at the start of a line, outside all flow collections. -/
structure AtLineStart (place : Place) : Prop where
  /-- Nothing stands before it on its line. -/
  column_eq : place.column = 0
  /-- The line has no symbol yet. -/
  opensLine : place.opensLine = true
  /-- No flow collection is open. -/
  depth_eq : place.depth = 0

/-- A place behind a symbol of its line, within some flow collections. -/
structure Within (place : Place) (depth : Nat) : Prop where
  /-- The line has a symbol. -/
  opensLine : place.opensLine = false
  /-- So many flow collections are open. -/
  depth_eq : place.depth = depth

/-- A document begins at the start of a line. -/
theorem atLineStart_default : ({} : Place).AtLineStart :=
  ⟨rfl, rfl, rfl⟩

/-- A space leaves a reader within its line. -/
theorem Within.afterSpace {place : Place} {depth : Nat} (within : place.Within depth) :
    place.afterSpace.Within depth :=
  ⟨within.opensLine, within.depth_eq⟩

/-- Outside all flow collections a line break leads to the start of a line. -/
theorem Within.nextLine {place : Place} (within : place.Within 0) :
    place.nextLine.AtLineStart :=
  ⟨rfl, rfl, within.depth_eq⟩

end Place

/-! ## Symbols -/

/-- Only a dash begins the mark that opens a document. -/
theorem startsDocument_eq_false {c : Char} (other : c ≠ '-') (rest : Text) :
    startsDocument (c :: rest) = false := by
  simp [startsDocument, List.isPrefixOf, other.symm]

/-- Only a dot begins the mark that closes a document. -/
theorem endsDocument_eq_false {c : Char} (other : c ≠ '.') (rest : Text) :
    endsDocument (c :: rest) = false := by
  simp [endsDocument, List.isPrefixOf, other.symm]

/-- A word before a colon is no mark of a document. -/
theorem endsDocument_word_colon {word : Text} (within : ∀ c ∈ word, isGap c = false)
    (rest : Text) : endsDocument (word ++ ':' :: rest) = false := by
  match word with
  | [] => exact endsDocument_eq_false (by decide) rest
  | [_] => simp [endsDocument, List.isPrefixOf]
  | [_, _] => simp [endsDocument, List.isPrefixOf]
  | [_, _, _] => simp [endsDocument, startsGap, isGap, isSpace, isBreak]
  | _ :: _ :: _ :: c :: _ =>
    have noGap : isGap c = false := within c (by simp)
    simp [endsDocument, startsGap, noGap]

/-- What has been read is what stands before the rest. -/
theorem take_written (written after : Text) :
    (written ++ after).take ((written ++ after).length - after.length) = written := by
  rw [List.length_append, Nat.add_sub_cancel, List.take_left]

/-- A bracket or a comma is a symbol wherever it stands. -/
theorem symbol?_bracket {c : Char} {symbol : Symbol} (found : bracket? c = some symbol)
    (place : Place) (rest : Text) :
    symbol? place (c :: rest) = some (symbol, place.afterSymbol symbol [c], rest) := by
  have other {d : Char} (none : bracket? d = none) : c ≠ d := by
    rintro rfl
    rw [none] at found
    contradiction
  have noDash : c ≠ '-' := other rfl
  have noColon : c ≠ ':' := other rfl
  have written := take_written [c] rest
  rw [List.singleton_append] at written
  rw [symbol?]
  simp only [startsDocument_eq_false noDash, endsDocument_eq_false (other (d := '.') rfl),
    beq_eq_false_iff_ne.mpr noDash, beq_eq_false_iff_ne.mpr noColon, Bool.and_false,
    Bool.false_and, Bool.false_eq_true, ↓reduceIte, found, written]

/-- A colon before a gap is a symbol. -/
theorem symbol?_colon (place : Place) {rest : Text} (gap : startsGap rest = true) :
    symbol? place (':' :: rest) = some (.colon, place.afterSymbol .colon [':'], rest) := by
  rw [symbol?]
  simp [startsDocument_eq_false, endsDocument_eq_false, gap]

/-- Escapes between double quotes are a scalar on one line. -/
theorem symbol?_quoted (escapes : List CodeEscape) (place : Place) (rest : Text) :
    symbol? place (quoted escapes ++ rest) =
      some (.scalar (escapes.map (·.char)) true,
        place.afterSymbol (.scalar (escapes.map (·.char)) true) (quoted escapes), rest) := by
  have body : quotedBody .double (escapes.flatMap CodeEscape.written ++ ['"'] ++ rest) =
      some (escapes.map (·.char), rest) := by
    rw [List.append_assoc]
    exact quotedBody_escapes escapes rest
  have written := take_written (quoted escapes) rest
  have inside := take_written (escapes.flatMap CodeEscape.written ++ ['"']) rest
  have noBreak : (escapes.flatMap CodeEscape.written ++ ['"']).any isBreak = false := by
    rw [List.any_eq_false]
    intro c member
    have ink := isInk_quoted escapes c (List.mem_cons_of_mem _ member)
    rw [isBreak_eq_false_of_isGap ink.isGap_eq_false]
    exact Bool.false_ne_true
  rw [quoted, List.cons_append] at written ⊢
  rw [symbol?]
  simp only [startsDocument_eq_false (show '"' ≠ '-' by decide),
    endsDocument_eq_false (show '"' ≠ '.' by decide), show ('"' == '-') = false from rfl,
    show ('"' == ':') = false from rfl, Bool.and_false, Bool.false_and, Bool.false_eq_true,
    ↓reduceIte, show bracket? '"' = none from rfl, show quoteMark? '"' = some .double from rfl,
    body, inside, noBreak, written, Bool.not_false]

/-- A plain word outside all flow collections is a scalar on one line. -/
theorem symbol?_word {word after : Text} (plain : IsPlainWord word) (ends : EndsWord after)
    (noMark : endsDocument (word ++ after) = false) {place : Place} (block : place.depth = 0) :
    symbol? place (word ++ after) =
      some (.scalar word true,
        { place.afterSymbol (.scalar word true) word with tabs := .fromMargin }, after) := by
  obtain ⟨c, tail, rfl⟩ := List.exists_cons_of_ne_nil plain.nonempty
  obtain ⟨noIndicator, -⟩ := plain.begins c rfl
  obtain ⟨noGap, noColon, -⟩ := plain.within c List.mem_cons_self
  have other {d : Char} (indicator : isIndicator d = true) : c ≠ d := by
    rintro rfl
    rw [noIndicator] at indicator
    contradiction
  have noBracket : bracket? c = none := by
    unfold bracket?
    split
    case h_6 => rfl
    all_goals exact absurd rfl (other (by decide))
  have noQuote : quoteMark? c = none := by
    unfold quoteMark?
    split
    case h_3 => rfl
    all_goals exact absurd rfl (other (by decide))
  have noFlow : place.inFlow = false := by simp [Place.inFlow, block]
  have starts : startsPlain false (c :: (tail ++ after)) = true := by
    simp [startsPlain, noGap, noColon, noIndicator, other (d := '-') (by decide),
      other (d := '?') (by decide)]
  have written := take_written (c :: tail) after
  rw [List.cons_append] at noMark written ⊢
  rw [symbol?]
  simp only [startsDocument_eq_false (other (d := '-') (by decide)), noMark,
    beq_eq_false_iff_ne.mpr (other (d := '-') (by decide)), beq_eq_false_iff_ne.mpr noColon,
    Bool.and_false, Bool.false_and, Bool.false_eq_true, ↓reduceIte, noBracket, noQuote, noFlow,
    starts, plain?_word plain ends, written, Option.map_some]

/-! ## Reading -/

/-- A reader at `place` takes the tokens of a text and goes on at the place behind it with what
follows. -/
def Reads (place : Place) (text : Text) (tokens : List Token) (behind : Place) (rest : Text) :
    Prop :=
  tokensFrom place (text ++ rest) = (tokensFrom behind rest).map (tokens ++ ·)

/-- Two texts are read one after the other. -/
theorem Reads.append {place middle behind : Place} {front back rest : Text}
    {first second : List Token} (readsFront : Reads place front first middle (back ++ rest))
    (readsBack : Reads middle back second behind rest) :
    Reads place (front ++ back) (first ++ second) behind rest := by
  rw [Reads, List.append_assoc, readsFront, readsBack, Option.map_map]
  congr 1
  funext tokens
  exact (List.append_assoc first second tokens).symm

/-- A symbol is one token. -/
theorem reads_symbol {place behind : Place} {c : Char} {tail rest : Text} {symbol : Symbol}
    (noGap : isGap c = false) (noHash : c ≠ '#')
    (found : symbol? place (c :: tail ++ rest) = some (symbol, behind, rest)) :
    Reads place (c :: tail) [⟨symbol, place.column, place.opensLine⟩] behind rest := by
  obtain ⟨noSpace, noBreak⟩ := Bool.or_eq_false_iff.mp noGap
  obtain ⟨noBlank, noTab⟩ := Bool.or_eq_false_iff.mp noSpace
  rw [List.cons_append] at found
  rw [Reads, List.cons_append, tokensFrom]
  simp only [noBlank, noTab, noBreak, beq_eq_false_iff_ne.mpr noHash, Bool.false_and,
    Bool.or_self, Bool.false_eq_true, ↓reduceIte]
  split
  · rename_i symbol' behind' after found'
    obtain ⟨rfl, rfl, rfl⟩ : symbol = symbol' ∧ behind = behind' ∧ rest = after := by
      simpa [found] using found'
    rfl
  · rename_i none
    rw [none] at found
    contradiction

/-- A symbol of one character is one token. -/
theorem reads_mark {c : Char} {symbol : Symbol} {place behind : Place} {rest : Text}
    (noGap : isGap c = false) (noHash : c ≠ '#')
    (found : symbol? place (c :: rest) = some (symbol, behind, rest)) :
    Reads place [c] [⟨symbol, place.column, place.opensLine⟩] behind rest :=
  reads_symbol noGap noHash found

/-- A space is no token. -/
theorem reads_space (place : Place) (rest : Text) :
    Reads place [' '] [] place.afterSpace rest := by
  rw [Reads, List.singleton_append, tokensFrom, if_pos (by rfl)]
  exact (Option.map_id_apply).symm

/-- A line break is no token. -/
theorem reads_break (place : Place) (rest : Text) :
    Reads place ['\n'] [] place.nextLine rest := by
  rw [Reads, List.singleton_append, tokensFrom, if_neg (by simp), if_pos (by rfl)]
  exact (Option.map_id_apply).symm

/-! ## Keys and values -/

/-- A key as it may be written. -/
inductive Key where
  /-- As a word without quotes. -/
  | plain (word : Text) (isPlain : IsPlainWord word)
  /-- As escapes between double quotes, which can write every key. -/
  | quoted (escapes : List CodeEscape)

namespace Key

/-- The key itself. -/
def text : Key → Text
  | .plain word _ => word
  | .quoted escapes => escapes.map (·.char)

/-- How the key is written. -/
def written : Key → Text
  | .plain word _ => word
  | .quoted escapes => Yaml.quoted escapes

end Key

/-- A key at the start of a line is one token. -/
theorem reads_key (key : Key) {place : Place} (start : place.AtLineStart) {rest : Text}
    (gap : startsGap rest = true) :
    ∃ behind, behind.Within 0 ∧
      Reads place key.written [⟨.scalar key.text true, 0, true⟩] behind (':' :: rest) := by
  cases key with
  | plain word isPlain =>
    have noGap : ∀ c ∈ word, isGap c = false := fun c member => (isPlain.within c member).1
    have ends : EndsWord (':' :: rest) := Or.inr ⟨rfl, gap⟩
    have found := symbol?_word isPlain ends (endsDocument_word_colon noGap rest) start.depth_eq
    obtain ⟨c, tail, rfl⟩ := List.exists_cons_of_ne_nil isPlain.nonempty
    obtain ⟨noGapHead, -, noHash⟩ := isPlain.within c List.mem_cons_self
    have reads := reads_symbol noGapHead noHash found
    rw [start.column_eq, start.opensLine] at reads
    refine ⟨_, ?_, reads⟩
    exact ⟨rfl, start.depth_eq⟩
  | quoted escapes =>
    have reads := reads_symbol (by decide) (by decide)
      (symbol?_quoted escapes place (':' :: rest))
    rw [start.column_eq, start.opensLine] at reads
    refine ⟨_, ?_, reads⟩
    exact ⟨rfl, start.depth_eq⟩

/-- A key with the colon and the space behind it is two tokens. -/
theorem reads_key_colon (key : Key) {place : Place} (start : place.AtLineStart) (rest : Text) :
    ∃ column behind, behind.Within 0 ∧
      Reads place (key.written ++ [':', ' '])
        [⟨.scalar key.text true, 0, true⟩, ⟨.colon, column, false⟩] behind rest := by
  have gap : startsGap (' ' :: rest) = true := rfl
  obtain ⟨middle, within, readsKey⟩ := reads_key key start gap
  have readsColon := reads_mark (by decide) (by decide) (symbol?_colon middle gap)
  rw [within.opensLine] at readsColon
  have behindColon : (middle.afterSymbol .colon [':']).Within 0 := ⟨rfl, within.depth_eq⟩
  exact ⟨middle.column, _, behindColon.afterSpace,
    readsKey.append (readsColon.append (reads_space _ rest))⟩

/-- A plain word at the end of a line is one token. -/
theorem reads_word {word : Text} (plain : IsPlainWord word) (noDot : word.head? ≠ some '.')
    {place : Place} (within : place.Within 0) (rest : Text) :
    ∃ column behind, behind.Within 0 ∧
      Reads place word [⟨.scalar word true, column, false⟩] behind ('\n' :: rest) := by
  obtain ⟨c, tail, rfl⟩ := List.exists_cons_of_ne_nil plain.nonempty
  obtain ⟨noGap, -, noHash⟩ := plain.within c List.mem_cons_self
  have ends : EndsWord ('\n' :: rest) := Or.inl rfl
  have otherThanDot : c ≠ '.' := fun isDot => noDot (congrArg some isDot)
  have found := symbol?_word plain ends (endsDocument_eq_false otherThanDot _) within.depth_eq
  have reads := reads_symbol noGap noHash found
  rw [within.opensLine] at reads
  refine ⟨place.column, _, ?_, reads⟩
  exact ⟨rfl, within.depth_eq⟩

/-- The scalars of a sequence between brackets, behind the opening bracket. -/
def itemsWritten : List (List CodeEscape) → Text
  | [] => [']']
  | [escapes] => quoted escapes ++ [']']
  | escapes :: more => quoted escapes ++ ([',', ' '] ++ itemsWritten more)

/-- A scalar of a sequence is one token. -/
theorem reads_item (escapes : List CodeEscape) {place : Place} {depth : Nat}
    (within : place.Within depth) (rest : Text) :
    ∃ behind, behind.Within depth ∧
      Reads place (quoted escapes) [⟨.scalar (escapes.map (·.char)) true, place.column, false⟩]
        behind rest := by
  have reads := reads_symbol (by decide) (by decide) (symbol?_quoted escapes place rest)
  rw [within.opensLine] at reads
  refine ⟨_, ?_, reads⟩
  exact ⟨rfl, within.depth_eq⟩

/-- A closing bracket is one token and leaves its sequence. -/
theorem reads_close {place : Place} {depth : Nat} (within : place.Within (depth + 1))
    (rest : Text) :
    ∃ behind, behind.Within depth ∧
      Reads place [']'] [⟨.closeSequence, place.column, false⟩] behind rest := by
  have reads := reads_mark (c := ']') (by decide) (by decide) (symbol?_bracket rfl place rest)
  rw [within.opensLine] at reads
  refine ⟨_, ?_, reads⟩
  exact ⟨rfl, congrArg (· - 1) within.depth_eq⟩

/-- A comma with the space behind it is one token. -/
theorem reads_comma {place : Place} {depth : Nat} (within : place.Within depth) (rest : Text) :
    ∃ behind, behind.Within depth ∧
      Reads place [',', ' '] [⟨.comma, place.column, false⟩] behind rest := by
  have reads := reads_mark (c := ',') (by decide) (by decide)
    (symbol?_bracket rfl place (' ' :: rest))
  rw [within.opensLine] at reads
  have behindComma : (place.afterSymbol .comma [',']).Within depth := ⟨rfl, within.depth_eq⟩
  exact ⟨_, behindComma.afterSpace, reads.append (reads_space _ rest)⟩

/-- The scalars of a sequence are read as its items. -/
theorem reads_items (scalars : List (List CodeEscape)) {place : Place} {depth : Nat}
    (within : place.Within (depth + 1)) (rest : Text) :
    ∃ tokens behind, behind.Within depth ∧
      Reads place (itemsWritten scalars) tokens behind rest ∧
      ∀ more, flowItems (tokens ++ more) =
        some (scalars.map (·.map (·.char)), more) := by
  fun_induction itemsWritten scalars generalizing place with
  | case1 =>
    obtain ⟨behind, closed, reads⟩ := reads_close within rest
    exact ⟨_, behind, closed, reads, fun more => rfl⟩
  | case2 escapes =>
    obtain ⟨middle, withinMiddle, readsItem⟩ := reads_item escapes within (']' :: rest)
    obtain ⟨behind, closed, readsClose⟩ := reads_close withinMiddle rest
    refine ⟨_, behind, closed, readsItem.append readsClose, ?_⟩
    exact fun more => rfl
  | case3 escapes more _ ih =>
    obtain ⟨first, withinFirst, readsItem⟩ := reads_item escapes within _
    obtain ⟨second, withinSecond, readsComma⟩ := reads_comma withinFirst (itemsWritten more ++ rest)
    obtain ⟨tokens, behind, closed, readsMore, items⟩ := ih withinSecond
    refine ⟨_, behind, closed, readsItem.append (readsComma.append readsMore), fun others => ?_⟩
    change (flowItems (tokens ++ others)).map _ = _
    rw [items]
    rfl

/-! ## Lines and their entries -/

/-- The tokens of a line begin with its key, and its value is read from the others. -/
def Spells (tokens : List Token) (entry : Entry) : Prop :=
  ∃ column value, tokens = ⟨.scalar entry.key true, 0, true⟩ :: ⟨.colon, column, false⟩ :: value ∧
    ∀ more, blockValue? 0 (value ++ more) = some (entry.value, more)

/-- Wherever a line starts and whatever follows, a text is a line that spells an entry. -/
def ReadsAs (text : Text) (entry : Entry) : Prop :=
  ∀ (place : Place) (rest : Text), place.AtLineStart →
    ∃ tokens behind, behind.AtLineStart ∧ Spells tokens entry ∧
      Reads place text tokens behind rest

/-- A key with a plain word is a line. -/
theorem readsAs_word (key : Key) {word : Text} (plain : IsPlainWord word)
    (noDot : word.head? ≠ some '.') :
    ReadsAs (key.written ++ [':', ' '] ++ (word ++ ['\n'])) ⟨key.text, .scalar word⟩ := by
  intro place rest start
  obtain ⟨column, middle, within, readsKey⟩ := reads_key_colon key start _
  obtain ⟨_, last, withinLast, readsValue⟩ := reads_word plain noDot within rest
  refine ⟨_, _, withinLast.nextLine, ?_,
    readsKey.append (readsValue.append (reads_break last rest))⟩
  exact ⟨column, _, rfl, fun more => rfl⟩

/-- A key with a sequence between brackets is a line. -/
theorem readsAs_sequence (key : Key) (scalars : List (List CodeEscape)) :
    ReadsAs (key.written ++ [':', ' '] ++ (['['] ++ (itemsWritten scalars ++ ['\n'])))
      ⟨key.text, .sequence (scalars.map (·.map (·.char)))⟩ := by
  intro place rest start
  obtain ⟨column, middle, within, readsKey⟩ := reads_key_colon key start _
  have readsOpen := reads_mark (c := '[') (by decide) (by decide)
    (symbol?_bracket rfl middle (itemsWritten scalars ++ ['\n'] ++ rest))
  rw [within.opensLine] at readsOpen
  have opened : (middle.afterSymbol .openSequence ['[']).Within 1 :=
    ⟨rfl, congrArg (· + 1) within.depth_eq⟩
  obtain ⟨tokens, last, withinLast, readsItems, items⟩ := reads_items scalars opened ('\n' :: rest)
  refine ⟨_, _, withinLast.nextLine, ?_,
    readsKey.append (readsOpen.append (readsItems.append (reads_break last rest)))⟩
  refine ⟨column, _, rfl, fun more => ?_⟩
  change (flowItems (tokens ++ [] ++ more)).map _ = _
  rw [List.append_nil, items]
  rfl

/-- The tokens of a line add its entry to those of the tokens behind it. -/
theorem blockEntries_append {tokens : List Token} {entry : Entry} (spells : Spells tokens entry)
    (more : List Token) :
    blockEntries 0 (tokens ++ more) =
      (blockEntries 0 more).map fun (entries, rest) => (entry :: entries, rest) := by
  obtain ⟨column, value, rfl, reads⟩ := spells
  rw [List.cons_append, List.cons_append, blockEntries]
  simp only [beq_self_eq_true, Bool.and_self, Bool.not_false, ↓reduceIte]
  split
  · rename_i value' rest found
    obtain ⟨rfl, rfl⟩ : entry.value = value' ∧ more = rest := by simpa [reads] using found
    rfl
  · rename_i none
    rw [reads] at none
    contradiction

/-! ## Documents of lines -/

/-- A key with its colon at the start of a line is the first entry of what follows. -/
theorem exists_of_blockEntries_key {key : Text} {column : Nat} {more rest : List Token}
    {entries : List Entry}
    (found : blockEntries 0 (⟨.scalar key true, 0, true⟩ :: ⟨.colon, column, false⟩ :: more) =
      some (entries, rest)) :
    ∃ value later, entries = ⟨key, value⟩ :: later := by
  rw [blockEntries] at found
  simp only [beq_self_eq_true, Bool.and_self, Bool.not_false, ↓reduceIte] at found
  split at found
  · rename_i value behind _
    obtain ⟨⟨later, after⟩, -, equal⟩ := Option.map_eq_some_iff.mp found
    exact ⟨value, later, (Prod.mk.inj equal).1.symm⟩
  · contradiction

/-- The tokens of a mapping in block form begin with a key at the first column. -/
def BeginsBlock (tokens : List Token) : Prop :=
  ∃ key more, tokens = ⟨.scalar key true, 0, true⟩ :: more

/-- A document that begins with a key is a mapping in block form. -/
theorem document?_of_beginsBlock {tokens : List Token} (begins : BeginsBlock tokens) :
    document? tokens = blockEntries 0 tokens := by
  obtain ⟨key, more, rfl⟩ := begins
  rfl

/-- Without a byte order mark, the tokens of a document are those from its first character on. -/
theorem tokens_eq {text : Text} (noMark : ∀ c ∈ text.head?, c ≠ '\uFEFF') :
    tokens text = if text.all isPermitted then tokensFrom {} text else none := by
  unfold tokens
  split
  · split
    · exact absurd rfl (noMark '\uFEFF' rfl)
    · rfl
  · rfl

/-- What a document holds is the mapping that its tokens begin with. -/
theorem exists_of_entries? {text : Text} (noMark : ∀ c ∈ text.head?, c ≠ '\uFEFF')
    {found : List Entry} (holds : entries? text = some found) :
    ∃ tokens rest, tokensFrom {} text = some tokens ∧ document? tokens = some (found, rest) := by
  rw [entries?, tokens_eq noMark] at holds
  split at holds
  · rename_i entries rest isMapping
    obtain ⟨tokens, isTokens, isDocument⟩ := Option.bind_eq_some_iff.mp isMapping
    split at isTokens
    · split at holds
      · obtain rfl := Option.some.inj holds
        exact ⟨tokens, rest, isTokens, isDocument⟩
      · contradiction
    · contradiction
  · contradiction

section Lines

variable {α : Type} {written : α → Text} {entry : α → Entry} {lines : List α}

/-- Lines are read one after the other, and their entries come first in the mapping. -/
theorem reads_lines (readsAs : ∀ line ∈ lines, ReadsAs (written line) (entry line))
    {place : Place} (start : place.AtLineStart) (rest : Text) :
    ∃ tokens behind, behind.AtLineStart ∧ Reads place (lines.flatMap written) tokens behind rest ∧
      (∀ more, blockEntries 0 (tokens ++ more) =
        (blockEntries 0 more).map fun (entries, after) => (lines.map entry ++ entries, after)) ∧
      ∀ more, (lines = [] → BeginsBlock more) → BeginsBlock (tokens ++ more) := by
  induction lines generalizing place with
  | nil =>
    refine ⟨[], place, start, Option.map_id_apply.symm, fun more => ?_,
      fun more begins => begins rfl⟩
    exact Option.map_id_apply.symm
  | cons line lines ih =>
    obtain ⟨readsLine, readsLater⟩ := List.forall_mem_cons.mp readsAs
    obtain ⟨first, middle, startMiddle, spells, readsFirst⟩ :=
      readsLine place (lines.flatMap written ++ rest) start
    obtain ⟨later, behind, startBehind, reads, entries, -⟩ := ih readsLater startMiddle
    refine ⟨first ++ later, behind, startBehind, readsFirst.append reads, fun more => ?_,
      fun more _ => ?_⟩
    · rw [List.append_assoc, blockEntries_append spells, entries, Option.map_map]
      rfl
    · obtain ⟨column, value, rfl, -⟩ := spells
      exact ⟨_, _, rfl⟩

/-- A document of lines holds their entries. -/
theorem entries?_lines (readsAs : ∀ line ∈ lines, ReadsAs (written line) (entry line))
    (nonempty : lines ≠ []) (permitted : (lines.flatMap written).all isPermitted = true)
    (noMark : ∀ c ∈ (lines.flatMap written).head?, c ≠ '\uFEFF') :
    entries? (lines.flatMap written) = some (lines.map entry) := by
  obtain ⟨tokens, behind, -, reads, entries, begins⟩ :=
    reads_lines readsAs Place.atLineStart_default []
  have tokensEq : Yaml.tokens (lines.flatMap written) = some tokens := by
    rw [Reads, List.append_nil] at reads
    rw [tokens_eq noMark, if_pos permitted, reads, tokensFrom]
    exact congrArg some (List.append_nil tokens)
  have block := document?_of_beginsBlock (begins [] fun empty => absurd empty nonempty)
  have nothing : blockEntries 0 [] = some ([], []) := by
    rw [blockEntries]
    simp
  rw [entries, nothing, List.append_nil] at block
  rw [entries?, tokensEq, Option.bind_some, block]
  simp

/-- A key that begins a line behind other lines is an entry of any mapping that the document
holds. -/
theorem eq_of_entries?_key (readsAs : ∀ line ∈ lines, ReadsAs (written line) (entry line))
    (key : Key) {after : Text} {found : List Entry}
    (noMark : ∀ c ∈ (lines.flatMap written ++ (key.written ++ [':', ' '] ++ after)).head?,
      c ≠ '\uFEFF')
    (holds : entries? (lines.flatMap written ++ (key.written ++ [':', ' '] ++ after)) =
      some found) :
    ∃ value more, found = lines.map entry ++ ⟨key.text, value⟩ :: more := by
  obtain ⟨tokens, middle, startMiddle, reads, entries, begins⟩ :=
    reads_lines readsAs Place.atLineStart_default (key.written ++ [':', ' '] ++ after)
  obtain ⟨column, behind, -, readsKey⟩ := reads_key_colon key startMiddle after
  obtain ⟨all, rest, isTokens, isDocument⟩ := exists_of_entries? noMark holds
  rw [reads, readsKey] at isTokens
  obtain ⟨fromKey, isFromKey, rfl⟩ := Option.map_eq_some_iff.mp isTokens
  obtain ⟨more, -, rfl⟩ := Option.map_eq_some_iff.mp isFromKey
  have block : BeginsBlock
      (tokens ++ ([⟨.scalar key.text true, 0, true⟩, ⟨.colon, column, false⟩] ++ more)) :=
    begins _ fun _ => ⟨_, _, rfl⟩
  rw [document?_of_beginsBlock block, entries] at isDocument
  obtain ⟨⟨others, _⟩, keyEntries, equal⟩ := Option.map_eq_some_iff.mp isDocument
  obtain ⟨value, later, rfl⟩ := exists_of_blockEntries_key keyEntries
  exact ⟨value, later, (Prod.mk.inj equal).1.symm⟩

end Lines

end QuotedText.Yaml
