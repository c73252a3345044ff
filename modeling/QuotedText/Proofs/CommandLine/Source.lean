import QuotedText.CommandLine.Run
import QuotedText.Proofs.Text.Trim

/-!
# What a run reads

The text of a command is what its operand says, else what a file holds, else what the standard
input holds without the line break at its end (`CommandLine.Holds`). Its quote style is the one
that a document spells out (`CommandLine.SpellsStyle`), with the changes that switches make
(`CommandLine.ChangedStyle`). These are conditions on files, streams and switches, and on what a
decoder finds in the fields of a document (`CommandLine.DocumentHolds`). A run reads a text or has
a style exactly when they hold (`CommandLine.input_eq_ok_iff`, `CommandLine.style_eq_ok_iff`).
-/

namespace QuotedText.CommandLine

/-! ## Line breaks at the end -/

/-- A stream holds a text with at most one line break behind it that does not count. -/
inductive EndsLine (text : Text) : Text → Prop
  /-- A line feed follows that belongs to no carriage return. -/
  | lineFeed (noReturn : text.getLast? ≠ some '\r') : EndsLine text (text ++ ['\n'])
  /-- A carriage return and a line feed follow. -/
  | carriageReturn : EndsLine text (text ++ ['\r', '\n'])
  /-- Nothing follows, and the text ends with no line feed. -/
  | nothing (noFeed : text.getLast? ≠ some '\n') : EndsLine text text

/-- What remains of a stream does not depend on more than the two characters at its end. -/
theorem withoutFinalBreak_carriageReturn (text : Text) :
    withoutFinalBreak (text ++ ['\r', '\n']) = text := by
  have reversed : (text ++ ['\r', '\n']).reverse = '\n' :: '\r' :: text.reverse := by simp
  rw [withoutFinalBreak, reversed]
  exact List.reverse_reverse text

/-- A line feed at the end of a text does not count, and nothing else goes with it when it follows
no carriage return. -/
theorem withoutFinalBreak_lineFeed {text : Text} (noReturn : text.getLast? ≠ some '\r') :
    withoutFinalBreak (text ++ ['\n']) = text := by
  have reversed : (text ++ ['\n']).reverse = '\n' :: text.reverse := List.reverse_concat
  rw [withoutFinalBreak, reversed]
  split
  · rename_i rest backwards
    have isLast : text.getLast? = some '\r' := by
      rw [← List.head?_reverse, (List.cons.inj backwards).2]
      rfl
    exact absurd isLast noReturn
  · rename_i rest _ backwards
    rw [← (List.cons.inj backwards).2, List.reverse_reverse]
  · rename_i other
    exact absurd rfl (other text.reverse)

/-- A text that ends with no line feed is left as it is. -/
theorem withoutFinalBreak_nothing {text : Text} (noFeed : text.getLast? ≠ some '\n') :
    withoutFinalBreak text = text := by
  have first {rest : Text} (backwards : text.reverse = '\n' :: rest) : False := by
    rw [← List.head?_reverse, backwards] at noFeed
    exact noFeed rfl
  rw [withoutFinalBreak]
  split
  · rename_i backwards
    exact (first backwards).elim
  · rename_i backwards
    exact (first backwards).elim
  · rfl

/-- What remains of a stream is the text that it holds before a line break. -/
theorem withoutFinalBreak_eq_iff {held text : Text} :
    withoutFinalBreak held = text ↔ EndsLine text held := by
  constructor
  · rintro rfl
    by_cases feed : held.getLast? = some '\n'
    · obtain ⟨front, rfl⟩ := List.getLast?_eq_some_iff.mp feed
      by_cases carriage : front.getLast? = some '\r'
      · obtain ⟨text, rfl⟩ := List.getLast?_eq_some_iff.mp carriage
        rw [List.append_assoc]
        change EndsLine (withoutFinalBreak (text ++ ['\r', '\n'])) (text ++ ['\r', '\n'])
        rw [withoutFinalBreak_carriageReturn]
        exact .carriageReturn
      · rw [withoutFinalBreak_lineFeed carriage]
        exact .lineFeed carriage
    · rw [withoutFinalBreak_nothing feed]
      exact .nothing feed
  · intro ends
    cases ends with
    | lineFeed noReturn => exact withoutFinalBreak_lineFeed noReturn
    | carriageReturn => exact withoutFinalBreak_carriageReturn text
    | nothing noFeed => exact withoutFinalBreak_nothing noFeed

/-! ## Texts -/

variable {Path : Type} {sources : Sources Path} {source : InputSource Path} {text : Text}

/-- A source holds a text. An operand goes before a file, and a file before the standard input. -/
inductive Holds (sources : Sources Path) (source : InputSource Path) (text : Text) : Prop
  /-- The text is an operand. -/
  | operand (given : source.text? = some text)
  /-- There is no operand, and the text is what the file holds that is named. -/
  | file {path : Path} (noOperand : source.text? = none) (named : source.file? = some path)
      (found : sources.file? path = some text)
  /-- There is neither operand nor file, and the text is what the standard input holds. -/
  | standardInput {held : Text} (noOperand : source.text? = none) (noFile : source.file? = none)
      (read : sources.standardInput = some held) (ends : EndsLine text held)

/-- A run reads the text that the source holds. -/
theorem input_eq_ok_iff : sources.input source = .ok text ↔ Holds sources source text := by
  constructor
  · intro reads
    rw [Sources.input] at reads
    split at reads
    · rename_i given
      obtain rfl := Except.ok.inj reads
      exact .operand given
    · rename_i path noOperand named
      split at reads
      · rename_i found
        obtain rfl := Except.ok.inj reads
        exact .file noOperand named found
      · contradiction
    · rename_i noOperand noFile
      split at reads
      · rename_i read
        exact .standardInput noOperand noFile read
          (withoutFinalBreak_eq_iff.mp (Except.ok.inj reads))
      · contradiction
  · intro holds
    cases holds with
    | operand given => simp only [Sources.input, given]
    | file noOperand named found => simp only [Sources.input, noOperand, named, found]
    | standardInput noOperand noFile read ends =>
      simp only [Sources.input, noOperand, noFile, read, withoutFinalBreak_eq_iff.mpr ends]

/-! ## Styles -/

variable {decoder : Yaml.Decoder} {config? : Option Path} {changes : StyleChanges}
  {base style : QuoteStyle}

/-- A field of a document has a value: the one that is taken from its node, or the default when the
document leaves the field out. -/
inductive FieldHolds {α : Type} (default : α) (take : Yaml.Node → Option α) :
    Option Yaml.Node → α → Prop
  /-- The document gives the field. -/
  | given {node : Yaml.Node} {value : α} (taken : take node = some value) :
      FieldHolds default take (some node) value
  /-- It does not. -/
  | missing : FieldHolds default take none default

/-- A field has the values that are found for it. -/
theorem valueOr_eq_some_iff {α : Type} {default value : α} {take : Yaml.Node → Option α}
    {given : Option Yaml.Node} :
    StyleDocument.valueOr default take given = some value ↔
      FieldHolds default take given value := by
  constructor
  · intro found
    cases given with
    | none =>
      obtain rfl := Option.some.inj found
      exact .missing
    | some node => exact .given found
  · intro holds
    cases holds with
    | given taken => exact taken
    | missing => rfl

/-- A document holds a style: its root is a record that has no place for other keys, and the three
fields have the values of the style. -/
inductive DocumentHolds (decoder : Yaml.Decoder) (document : Text) (style : QuoteStyle) : Prop
  /-- The values are those of the three fields. -/
  | fields {root : Yaml.Node} {given : Text → Option Yaml.Node}
      (isRoot : decoder.node? document = some root)
      (isRecord : decoder.record?
        ⟨["quote_chars".toList, "case".toList, "escape".toList], true⟩ root = some given)
      (quotes : FieldHolds ['\''] (decoder.list? decoder.char?) (given "quote_chars".toList)
        style.quotes)
      (letterCase : FieldHolds .insensitive
        (decoder.choice? [("sensitive".toList, .sensitive), ("insensitive".toList, .insensitive)])
        (given "case".toList) style.letterCase)
      (escape : FieldHolds .doubled
        (decoder.choice? [("doubled_char".toList, .doubled), ("none".toList, .none)])
        (given "escape".toList) style.escape) :
      DocumentHolds decoder document style

/-- The style that is decoded from a document is the one that it holds. -/
theorem decode?_eq_some_iff {document : Text} :
    StyleDocument.decode? decoder document = some style ↔
      DocumentHolds decoder document style := by
  rw [StyleDocument.decode?, Option.bind_eq_some_iff]
  simp only [StyleDocument.style?, bind, Option.bind_eq_some_iff, pure, Option.some.injEq]
  constructor
  · rintro ⟨root, isRoot, given, isRecord, quotes, found, letterCase, named, escape, named', rfl⟩
    exact .fields isRoot isRecord (valueOr_eq_some_iff.mp found) (valueOr_eq_some_iff.mp named)
      (valueOr_eq_some_iff.mp named')
  · rintro ⟨isRoot, isRecord, quotes, letterCase, escape⟩
    exact ⟨_, isRoot, _, isRecord, _, valueOr_eq_some_iff.mpr quotes, _,
      valueOr_eq_some_iff.mpr letterCase, _, valueOr_eq_some_iff.mpr escape, rfl⟩

/-- Nothing is decoded from a document that holds no style. -/
theorem decode?_eq_none_iff {document : Text} :
    StyleDocument.decode? decoder document = none ↔
      ∀ style, ¬DocumentHolds decoder document style := by
  rw [Option.eq_none_iff_forall_ne_some]
  exact forall_congr' fun _ => not_congr decode?_eq_some_iff

/-- The document that is named spells out a style. Without a document, and in a document of blanks
only, everything has its default. -/
inductive SpellsStyle (decoder : Yaml.Decoder) (sources : Sources Path) :
    Option Path → QuoteStyle → Prop
  /-- No document is named. -/
  | unnamed : SpellsStyle decoder sources none ⟨['\''], .insensitive, .doubled⟩
  /-- The document is blank. -/
  | blank {path : Path} {document : Text} (found : sources.file? path = some document)
      (blank : ∀ c ∈ document, isBlank c = true) :
      SpellsStyle decoder sources (some path) ⟨['\''], .insensitive, .doubled⟩
  /-- The document holds the style. -/
  | document {path : Path} {document : Text} {style : QuoteStyle}
      (found : sources.file? path = some document) (visible : ∃ c ∈ document, isBlank c = false)
      (holds : DocumentHolds decoder document style) :
      SpellsStyle decoder sources (some path) style

/-- A style comes from another one by what switches change. -/
structure ChangedStyle (changes : StyleChanges) (base style : QuoteStyle) : Prop where
  /-- Quotes that are given take the place of all others. -/
  quotes : (changes.quotes ≠ [] → style.quotes = changes.quotes) ∧
    (changes.quotes = [] → style.quotes = base.quotes)
  /-- Case may be made significant. -/
  letterCase : (changes.caseSensitive = true → style.letterCase = .sensitive) ∧
    (changes.caseSensitive = false → style.letterCase = base.letterCase)
  /-- The escape may be turned off. -/
  escape : (changes.noEscape = true → style.escape = .none) ∧
    (changes.noEscape = false → style.escape = base.escape)

/-- A switch that is on gives a value of its own. -/
theorem switch_eq_iff {α : Type} {isOn : Bool} {new kept value : α} :
    (if isOn then new else kept) = value ↔
      (isOn = true → value = new) ∧ (isOn = false → value = kept) := by
  cases isOn <;> simp [eq_comm]

/-- A style after the changes differs by nothing else. -/
theorem apply_eq_iff : changes.apply base = style ↔ ChangedStyle changes base style := by
  obtain ⟨quotes, letterCase, escape⟩ := style
  rw [StyleChanges.apply, QuoteStyle.mk.injEq, ite_eq_iff', switch_eq_iff, switch_eq_iff]
  constructor
  · rintro ⟨⟨kept, new⟩, changedCase, changedEscape⟩
    have changedQuotes := And.intro (fun given => (new given).symm) fun none => (kept none).symm
    exact ⟨changedQuotes, changedCase, changedEscape⟩
  · rintro ⟨⟨new, kept⟩, changedCase, changedEscape⟩
    have changedQuotes := And.intro (fun none => (kept none).symm) fun given => (new given).symm
    exact ⟨changedQuotes, changedCase, changedEscape⟩

/-- A document that is an error is not blank and holds no style. -/
theorem of_decoded_eq_error {document : Text} {error : StyleDocumentError}
    (wrong : QuoteStyle.decoded decoder document = .error error) :
    (∃ c ∈ document, isBlank c = false) ∧ ∀ style, ¬DocumentHolds decoder document style := by
  cases blank : document.isBlankText with
  | true =>
    rw [QuoteStyle.decoded_of_blank decoder blank] at wrong
    contradiction
  | false =>
    refine ⟨Text.isBlankText_eq_false_iff.mp blank, fun style holds => ?_⟩
    rw [QuoteStyle.decoded_of_some blank (decode?_eq_some_iff.mpr holds)] at wrong
    contradiction

/-- A run has the style that its document spells out, with the changes that are asked for. -/
theorem style_eq_ok_iff :
    sources.style decoder config? changes = .ok style ↔
      ∃ base, SpellsStyle decoder sources config? base ∧ ChangedStyle changes base style := by
  constructor
  · intro styled
    rw [Sources.style.eq_def] at styled
    split at styled
    · exact ⟨_, .unnamed, apply_eq_iff.mp (Except.ok.inj styled)⟩
    · rename_i path
      split at styled
      · contradiction
      · rename_i document found
        split at styled
        · rename_i base decoded
          refine ⟨base, ?_, apply_eq_iff.mp (Except.ok.inj styled)⟩
          cases blank : document.isBlankText with
          | true =>
            rw [QuoteStyle.decoded_of_blank decoder blank] at decoded
            obtain rfl := Except.ok.inj decoded
            exact .blank found (List.all_eq_true.mp blank)
          | false =>
            cases decodes : StyleDocument.decode? decoder document with
            | none =>
              rw [QuoteStyle.decoded_of_none blank decodes] at decoded
              contradiction
            | some read =>
              rw [QuoteStyle.decoded_of_some blank decodes] at decoded
              obtain rfl := Except.ok.inj decoded
              exact .document found (Text.isBlankText_eq_false_iff.mp blank)
                (decode?_eq_some_iff.mp decodes)
        · contradiction
  · rintro ⟨base, spells, changed⟩
    obtain rfl := apply_eq_iff.mpr changed
    cases spells with
    | unnamed => rfl
    | blank found blank =>
      simp only [Sources.style, found,
        QuoteStyle.decoded_of_blank decoder (List.all_eq_true.mpr blank)]
    | document found visible holds =>
      have decodes := decode?_eq_some_iff.mpr holds
      simp only [Sources.style, found,
        QuoteStyle.decoded_of_some (Text.isBlankText_eq_false_iff.mpr visible) decodes]

end QuotedText.CommandLine
