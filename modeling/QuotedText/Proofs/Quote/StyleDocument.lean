import Mathlib.Data.Bool.AllAny
import QuotedText.Proofs.Yaml.Decoder
import QuotedText.Quote.StyleDocument

/-!
# Style documents written out

A document may give the fields of a quote style one per line. What it says to a decoder that keeps
the rules of YAML and of records is settled field by field: the value of a field is what the line
names (`StyleField.valueOr_lookup`), unless a scalar among the quotes has no character or several
(`StyleField.style?_eq_none`), and a key that is unknown or has been given spoils the document,
whatever stands behind it (`StyleField.decode?_keyLine`). So fields spell out a style exactly when
no key is repeated and every scalar has one character; it is then the style that the fields name,
with the defaults for what they leave out (`StyleField.decoded_document`).
-/

namespace QuotedText

/-! ## Lines -/

/-- A field of a style document, with the escapes that its scalars hold. -/
inductive StyleField where
  | quotes (scalars : List (List Yaml.CodeEscape))
  | letterCase (letterCase : LetterCase)
  | escape (escape : Escape)

namespace StyleField

/-- The key of a field. -/
def key : StyleField → Text
  | .quotes _ => StyleDocument.quotesKey
  | .letterCase _ => StyleDocument.letterCaseKey
  | .escape _ => StyleDocument.escapeKey

/-- How the value of a field is written. -/
def valueWritten : StyleField → Text
  | .quotes scalars => '[' :: Yaml.itemsWritten scalars
  | .letterCase named => StyleDocument.letterCaseName named
  | .escape named => StyleDocument.escapeName named

/-- The line of a field. -/
def written (field : StyleField) : Text :=
  field.key ++ [':', ' '] ++ (field.valueWritten ++ ['\n'])

/-- Every scalar among the quotes has one character. -/
def Single : StyleField → Prop
  | .quotes scalars => ∀ scalar ∈ scalars, scalar.length = 1
  | .letterCase _ | .escape _ => True

/-- The quotes, if the field lists them. -/
def quotes? : StyleField → Option (List Char)
  | .quotes scalars => some (scalars.flatten.map (·.char))
  | .letterCase _ | .escape _ => none

/-- The letter case, if the field names it. -/
def letterCase? : StyleField → Option LetterCase
  | .letterCase named => some named
  | .quotes _ | .escape _ => none

/-- The escape, if the field names it. -/
def escape? : StyleField → Option Escape
  | .escape named => some named
  | .quotes _ | .letterCase _ => none

/-- The style that fields name; what they leave out has its default. -/
def style (fields : List StyleField) : QuoteStyle where
  quotes := (fields.findSome? quotes?).getD ['\'']
  letterCase := (fields.findSome? letterCase?).getD .insensitive
  escape := (fields.findSome? escape?).getD .doubled

/-- The keys that a document may have. -/
def keys : List Text :=
  [StyleDocument.quotesKey, StyleDocument.letterCaseKey, StyleDocument.escapeKey]

/-- A document with some fields, one per line. -/
def document (fields : List StyleField) : Text :=
  fields.flatMap written

/-- A line with any key and any text behind it. -/
def keyLine (key : Yaml.Key) (value : Text) : Text :=
  key.written ++ [':', ' '] ++ (value ++ ['\n'])

/-- Fields that spell out a style. -/
structure SpellOut (fields : List StyleField) : Prop where
  /-- No key is repeated. -/
  onceEach : (fields.map (·.key)).Nodup
  /-- Every scalar has one character. -/
  single : ∀ field ∈ fields, field.Single

/-! ## Lines as they are read -/

/-- A field has one of the three keys. -/
theorem key_mem_keys (field : StyleField) : field.key ∈ keys := by
  cases field <;> simp [key, keys]

/-- The keys are plain words. -/
theorem isPlainWord_key (field : StyleField) : Yaml.IsPlainWord field.key := by
  have plain : ∀ key ∈ keys, Yaml.IsPlainWord key := by decide
  exact plain _ field.key_mem_keys

/-- The names of letter cases are plain words. -/
theorem isPlainWord_letterCaseName (named : LetterCase) :
    Yaml.IsPlainWord (StyleDocument.letterCaseName named) := by
  cases named <;> decide

/-- The names of escapes are plain words. -/
theorem isPlainWord_escapeName (named : Escape) :
    Yaml.IsPlainWord (StyleDocument.escapeName named) := by
  cases named <;> decide

/-- The value of a field as the value of a line. -/
def value : StyleField → Yaml.LineValue
  | .quotes scalars => .sequence scalars
  | .letterCase named =>
    .word (StyleDocument.letterCaseName named) (isPlainWord_letterCaseName named)
      (by cases named <;> decide)
  | .escape named =>
    .word (StyleDocument.escapeName named) (isPlainWord_escapeName named)
      (by cases named <;> decide)

/-- A field as a line of a mapping. -/
def line (field : StyleField) : Yaml.Line :=
  ⟨.plain field.key field.isPlainWord_key, field.value⟩

/-- The line of a field is written as the field. -/
theorem written_line (field : StyleField) : field.line.written = field.written := by
  cases field <;> rfl

/-- A document of fields is a document of their lines. -/
theorem document_eq (fields : List StyleField) :
    document fields = (fields.map line).flatMap Yaml.Line.written := by
  rw [document, List.flatMap_map]
  exact List.flatMap_congr fun field _ => field.written_line.symm

/-- Key and value of a field. -/
def entry (field : StyleField) : Text × Yaml.Node :=
  (field.key, field.value.node)

/-- A document may hold all characters of a sequence. -/
theorem isBasic_itemsWritten (scalars : List (List Yaml.CodeEscape)) :
    ∀ c ∈ Yaml.itemsWritten scalars, Yaml.IsBasic c := by
  have inQuotes (escapes : List Yaml.CodeEscape) : ∀ c ∈ Yaml.quoted escapes, Yaml.IsBasic c :=
    fun c member => .inr (.inr (Yaml.isInk_quoted escapes c member))
  have close : ∀ c ∈ [']'], Yaml.IsBasic c := List.forall_mem_singleton.mpr (by decide)
  have comma : ∀ c ∈ [',', ' '], Yaml.IsBasic c := List.all_iff_forall_prop.mp rfl
  fun_induction Yaml.itemsWritten scalars with
  | case1 => exact close
  | case2 escapes => exact List.forall_mem_append.mpr ⟨inQuotes escapes, close⟩
  | case3 escapes more _ ih =>
    exact List.forall_mem_append.mpr ⟨inQuotes escapes, List.forall_mem_append.mpr ⟨comma, ih⟩⟩

/-- A document may hold all characters of a field. -/
theorem isBasic_written (field : StyleField) : ∀ c ∈ field.written, Yaml.IsBasic c := by
  -- By the Boolean test, since a quantifier over characters may be decided by counting them up.
  have inKey : ∀ c ∈ field.key, Yaml.IsBasic c := by
    cases field <;> exact List.all_iff_forall_prop.mp rfl
  have colon : ∀ c ∈ [':', ' '], Yaml.IsBasic c := List.all_iff_forall_prop.mp rfl
  have inValue : ∀ c ∈ field.valueWritten, Yaml.IsBasic c := by
    cases field with
    | quotes scalars =>
      exact List.forall_mem_cons.mpr ⟨by decide, isBasic_itemsWritten scalars⟩
    | letterCase named => cases named <;> exact List.all_iff_forall_prop.mp rfl
    | escape named => cases named <;> exact List.all_iff_forall_prop.mp rfl
  have lineFeed : ∀ c ∈ ['\n'], Yaml.IsBasic c := List.forall_mem_singleton.mpr (by decide)
  refine List.forall_mem_append.mpr ⟨List.forall_mem_append.mpr ⟨inKey, colon⟩, ?_⟩
  exact List.forall_mem_append.mpr ⟨inValue, lineFeed⟩

/-- The keys are short enough for a line. -/
theorem length_key_le (field : StyleField) : field.line.key.written.length ≤ 1024 := by
  have short : ∀ key ∈ keys, key.length ≤ 1024 := by decide
  exact short _ field.key_mem_keys

/-! ## Values of fields -/

/-- Each of the three keys differs from the others. -/
theorem keys_ne :
    (StyleDocument.quotesKey ≠ StyleDocument.letterCaseKey ∧
      StyleDocument.quotesKey ≠ StyleDocument.escapeKey) ∧
    (StyleDocument.letterCaseKey ≠ StyleDocument.quotesKey ∧
      StyleDocument.letterCaseKey ≠ StyleDocument.escapeKey) ∧
    StyleDocument.escapeKey ≠ StyleDocument.quotesKey ∧
      StyleDocument.escapeKey ≠ StyleDocument.letterCaseKey := by
  decide

/-- When a value can be taken from each field with some key, what is found under the key is the
value of the first such field, else the default. -/
theorem valueOr_lookup {β : Type} {name : Text} {read : StyleField → Option β}
    {take : Yaml.Node → Option β} {fields : List StyleField}
    (agrees : ∀ field ∈ fields, if field.key = name then
      ∃ value, read field = some value ∧ take field.value.node = some value
      else read field = none) (default : β) :
    StyleDocument.valueOr default take ((fields.map entry).lookup name) =
      some ((fields.findSome? read).getD default) := by
  induction fields with
  | nil => rfl
  | cons field fields ih =>
    obtain ⟨agreesFirst, agreesLater⟩ := List.forall_mem_cons.mp agrees
    rw [List.map_cons, entry, List.lookup_cons]
    by_cases same : field.key = name
    · rw [if_pos same] at agreesFirst
      obtain ⟨value, isRead, isTaken⟩ := agreesFirst
      rw [beq_iff_eq.mpr same.symm, List.findSome?_cons, isRead]
      exact isTaken
    · rw [if_neg same] at agreesFirst
      rw [beq_eq_false_iff_ne.mpr (Ne.symm same), List.findSome?_cons, agreesFirst]
      exact ih agreesLater

section Decoder

variable {decoder : Yaml.Decoder}

/-- Scalars are quotes when each has one character. -/
theorem list?_char? (takes : decoder.TakesValues) {scalars : List (List Yaml.CodeEscape)}
    {quotes : List Char} :
    decoder.list? decoder.char? (Yaml.LineValue.sequence scalars).node = some quotes ↔
      (∀ scalar ∈ scalars, scalar.length = 1) ∧ quotes = scalars.flatten.map (·.char) := by
  rw [Yaml.LineValue.node, takes.list]
  induction scalars generalizing quotes with
  | nil => simp [eq_comm]
  | cons scalar scalars ih =>
    rw [List.map_cons, List.mapM_cons, List.forall_mem_cons]
    simp only [bind, Option.bind_eq_some_iff, pure, Option.some.injEq, takes.char, ih]
    constructor
    · rintro ⟨c, isChar, more, ⟨ones, rfl⟩, rfl⟩
      have one : scalar.length = 1 := by simpa using congrArg List.length isChar
      exact ⟨⟨one, ones⟩, by rw [List.flatten_cons, List.map_append, isChar]; rfl⟩
    · rintro ⟨⟨one, ones⟩, rfl⟩
      obtain ⟨escape, rfl⟩ := List.length_eq_one_iff.mp one
      exact ⟨escape.char, rfl, _, ⟨ones, rfl⟩, rfl⟩

/-- A letter case is taken from its name. -/
theorem choice?_letterCaseName (takes : decoder.TakesValues) (named : LetterCase) :
    decoder.choice? StyleDocument.letterCases (.scalar (StyleDocument.letterCaseName named)) =
      some named := by
  rw [takes.choice _ _ (by decide)]
  cases named <;> decide

/-- An escape is taken from its name. -/
theorem choice?_escapeName (takes : decoder.TakesValues) (named : Escape) :
    decoder.choice? StyleDocument.escapes (.scalar (StyleDocument.escapeName named)) =
      some named := by
  rw [takes.choice _ _ (by decide)]
  cases named <;> decide

/-- A mapping of fields gives the record these fields when no key is repeated. -/
theorem record?_fields (takes : decoder.TakesValues) {fields : List StyleField}
    (onceEach : (fields.map (·.key)).Nodup) :
    decoder.record? StyleDocument.record (.mapping ((fields.map line).map Yaml.Line.nodes)) =
      some fun name => (fields.map entry).lookup name := by
  have once : ((fields.map entry).map (·.1)).Nodup := by rwa [List.map_map]
  have known : ∀ given ∈ fields.map entry, given.1 ∈ StyleDocument.record.fields := by
    intro given member
    obtain ⟨field, -, rfl⟩ := List.mem_map.mp member
    exact field.key_mem_keys
  have gives := takes.record StyleDocument.record (fields.map entry) once known
  rw [List.map_map] at gives ⊢
  exact gives

/-- A mapping of fields that spell out a style gives this style. -/
theorem style?_fields (takes : decoder.TakesValues) {fields : List StyleField}
    (spellOut : SpellOut fields) :
    StyleDocument.style? decoder (.mapping ((fields.map line).map Yaml.Line.nodes)) =
      some (style fields) := by
  have quotes : StyleDocument.valueOr ['\''] (decoder.list? decoder.char?)
      ((fields.map entry).lookup StyleDocument.quotesKey) =
        some ((fields.findSome? quotes?).getD ['\'']) := by
    refine valueOr_lookup (fun field member => ?_) _
    cases field with
    | quotes scalars => exact ⟨_, rfl, (list?_char? takes).mpr ⟨spellOut.single _ member, rfl⟩⟩
    | letterCase | escape => simp [key, quotes?, keys_ne]
  have letterCase : StyleDocument.valueOr .insensitive (decoder.choice? StyleDocument.letterCases)
      ((fields.map entry).lookup StyleDocument.letterCaseKey) =
        some ((fields.findSome? letterCase?).getD .insensitive) := by
    refine valueOr_lookup (fun field _ => ?_) _
    cases field with
    | letterCase named => exact ⟨named, rfl, choice?_letterCaseName takes named⟩
    | quotes | escape => simp [key, letterCase?, keys_ne]
  have escape : StyleDocument.valueOr .doubled (decoder.choice? StyleDocument.escapes)
      ((fields.map entry).lookup StyleDocument.escapeKey) =
        some ((fields.findSome? escape?).getD .doubled) := by
    refine valueOr_lookup (fun field _ => ?_) _
    cases field with
    | escape named => exact ⟨named, rfl, choice?_escapeName takes named⟩
    | quotes | letterCase => simp [key, escape?, keys_ne]
  simp only [StyleDocument.style?, record?_fields takes spellOut.onceEach, bind,
    Option.bind_some, quotes, letterCase, escape]
  rfl

/-- A mapping of fields gives no style when a scalar has no character or several. -/
theorem style?_eq_none (takes : decoder.TakesValues) {fields : List StyleField}
    (onceEach : (fields.map (·.key)).Nodup) {field : StyleField} (member : field ∈ fields)
    (spoiled : ¬field.Single) :
    StyleDocument.style? decoder (.mapping ((fields.map line).map Yaml.Line.nodes)) = none := by
  cases field with
  | letterCase | escape => exact absurd trivial spoiled
  | quotes scalars =>
    have found : (fields.map entry).lookup StyleDocument.quotesKey =
        some (Yaml.LineValue.sequence scalars).node := by
      obtain ⟨front, back, rfl⟩ := List.append_of_mem member
      rw [List.lookup_eq_some_iff]
      refine ⟨front.map entry, back.map entry, by rw [List.map_append]; rfl, fun entry before => ?_⟩
      obtain ⟨other, inFront, rfl⟩ := List.mem_map.mp before
      rw [List.map_append, List.nodup_append] at onceEach
      rw [bne_iff_ne]
      exact Ne.symm (onceEach.2.2 _ (List.mem_map_of_mem inFront) _ List.mem_cons_self)
    have notQuotes : decoder.list? decoder.char? (Yaml.LineValue.sequence scalars).node = none := by
      rw [Option.eq_none_iff_forall_ne_some]
      intro quotes taken
      exact spoiled ((list?_char? takes).mp taken).1
    simp only [StyleDocument.style?, record?_fields takes onceEach, bind, Option.bind_some, found,
      StyleDocument.valueOr, notQuotes, Option.bind_none]

/-! ## Documents -/

/-- A document with a colon is not blank. -/
theorem isBlankText_of_colon {text : Text} (colon : ':' ∈ text) : text.isBlankText = false :=
  Text.isBlankText_eq_false colon (by decide)

/-- Fields without a repeated key are read as the mapping of their lines. -/
theorem node?_document (reads : decoder.ReadsLines) {fields : List StyleField}
    (nonempty : fields ≠ []) (onceEach : (fields.map (·.key)).Nodup) :
    decoder.node? (document fields) =
      some (.mapping ((fields.map line).map Yaml.Line.nodes)) := by
  rw [document_eq]
  apply reads.lines
  · exact fun empty => nonempty (List.map_eq_nil_iff.mp empty)
  · rwa [List.map_map]
  · intro line member
    obtain ⟨field, -, rfl⟩ := List.mem_map.mp member
    exact field.length_key_le
  · rw [← document_eq]
    intro c member
    obtain ⟨field, -, inField⟩ := List.mem_flatMap.mp member
    exact field.isBasic_written c inField

/-- Nothing is decoded from a document with a line whose key is unknown or repeats one before
it. -/
theorem decode?_keyLine (reads : decoder.ReadsLines) (takes : decoder.TakesValues)
    {fields : List StyleField} {key : Yaml.Key}
    (refused : key.text ∉ keys ∨ key.text ∈ fields.map (·.key)) (value rest : Text) :
    StyleDocument.decode? decoder (document fields ++ (keyLine key value ++ rest)) = none := by
  rw [StyleDocument.decode?, Option.bind_eq_none_iff]
  intro node isRoot
  rw [document_eq, keyLine, List.append_assoc] at isRoot
  obtain ⟨given, more, rfl⟩ := reads.key _ _ _ _ isRoot
  have nothing : decoder.record? StyleDocument.record
      (.mapping ((fields.map line).map Yaml.Line.nodes ++ (.scalar key.text, given) :: more)) =
        none := by
    have inKeys : Yaml.keys ((fields.map line).map Yaml.Line.nodes) = fields.map (·.key) := by
      rw [Yaml.keys, List.map_map, List.filterMap_map, ← List.filterMap_eq_map]
      rfl
    have split : Yaml.keys ((fields.map line).map Yaml.Line.nodes ++
        (.scalar key.text, given) :: more) =
          fields.map (·.key) ++ key.text :: Yaml.keys more := by
      rw [← inKeys]
      exact List.filterMap_append
    by_cases isKey : key.text ∈ keys
    · refine takes.once _ _ key.text isKey ?_
      have before := List.count_pos_iff.mpr (refused.resolve_left (not_not_intro isKey))
      rw [split, List.count_append, List.count_cons_self]
      omega
    · exact takes.unknown _ _ key.text rfl (by rw [split]; simp) isKey
  rw [StyleDocument.style?, nothing]
  rfl

/-- Where a key is repeated there is a first field that repeats one. -/
theorem exists_repeated {fields : List StyleField} (again : ¬(fields.map (·.key)).Nodup) :
    ∃ front field back, fields = front ++ field :: back ∧ field.key ∈ front.map (·.key) := by
  induction fields using List.reverseRecOn with
  | nil => exact absurd List.nodup_nil again
  | append_singleton front field ih =>
    by_cases once : (front.map (·.key)).Nodup
    · refine ⟨front, field, [], rfl, ?_⟩
      by_contra new
      rw [List.map_append, List.map_singleton, List.nodup_append] at again
      refine again ⟨once, by simp, ?_⟩
      rintro _ inFront _ last rfl
      exact new (List.mem_singleton.mp last ▸ inFront)
    · obtain ⟨before, repeating, between, rfl, isKey⟩ := ih once
      exact ⟨before, repeating, between ++ [field], by simp, isKey⟩

/-- Nothing is decoded from fields that spell out no style. -/
theorem decode?_document_eq_none (reads : decoder.ReadsLines) (takes : decoder.TakesValues)
    {fields : List StyleField} (spoiled : ¬SpellOut fields) :
    StyleDocument.decode? decoder (document fields) = none := by
  by_cases onceEach : (fields.map (·.key)).Nodup
  · obtain ⟨field, member, notSingle⟩ : ∃ field ∈ fields, ¬field.Single := by
      by_contra none
      push Not at none
      exact spoiled ⟨onceEach, none⟩
    have nonempty : fields ≠ [] := List.ne_nil_of_mem member
    rw [StyleDocument.decode?, node?_document reads nonempty onceEach, Option.bind_some]
    exact style?_eq_none takes onceEach member notSingle
  · obtain ⟨front, field, back, rfl, again⟩ := exists_repeated onceEach
    have given : (Yaml.Key.plain field.key field.isPlainWord_key).text ∈ front.map (·.key) := again
    have nothing := decode?_keyLine reads takes (.inr given) field.valueWritten (document back)
    rw [document, List.flatMap_append, List.flatMap_cons]
    exact nothing

/-- A document without a style, but with a colon, is an error. -/
theorem exists_error_of_decode? {text : Text} (colon : ':' ∈ text)
    (nothing : StyleDocument.decode? decoder text = none) :
    ∃ error, QuoteStyle.decoded decoder text = .error error :=
  ⟨_, QuoteStyle.decoded_of_none (isBlankText_of_colon colon) nothing⟩

/-- No fields spell out the style of defaults. -/
theorem spellOut_nil : SpellOut [] :=
  ⟨List.nodup_nil, List.forall_mem_nil _⟩

/-- There is a colon in a document with a field. -/
theorem colon_mem_document {fields : List StyleField} (nonempty : fields ≠ []) :
    ':' ∈ document fields := by
  obtain ⟨first, more, rfl⟩ := List.exists_cons_of_ne_nil nonempty
  simp [document, written]

/-- For every decoder that reads mappings line by line and takes values by what is declared about
them, fields that spell out a style are written as a document of the style that they name. The
document of other fields is an error, and so is any document in which a line with an unknown key,
or with a key of the fields again, stands behind fields. -/
theorem decoded_document (reads : decoder.ReadsLines) (takes : decoder.TakesValues)
    (fields : List StyleField) :
    (SpellOut fields → QuoteStyle.decoded decoder (document fields) = .ok (style fields)) ∧
    (¬SpellOut fields → ∃ error, QuoteStyle.decoded decoder (document fields) = .error error) ∧
    ∀ (key : Yaml.Key) (value rest : Text), key.text ∉ keys ∨ key.text ∈ fields.map (·.key) →
      ∃ error, QuoteStyle.decoded decoder (document fields ++ (keyLine key value ++ rest)) =
        .error error := by
  refine ⟨fun spellOut => ?_, fun spoiled => ?_, fun key value rest refused => ?_⟩
  · by_cases empty : fields = []
    · subst empty
      exact QuoteStyle.decoded_of_blank decoder rfl
    · apply QuoteStyle.decoded_of_some (isBlankText_of_colon (colon_mem_document empty))
      rw [StyleDocument.decode?, node?_document reads empty spellOut.onceEach, Option.bind_some,
        style?_fields takes spellOut]
  · have nonempty : fields ≠ [] := by
      rintro rfl
      exact spoiled spellOut_nil
    exact exists_error_of_decode? (colon_mem_document nonempty)
      (decode?_document_eq_none reads takes spoiled)
  · have nothing := decode?_keyLine reads takes refused value rest
    exact exists_error_of_decode? (by simp [keyLine]) nothing

end Decoder

/-- The standard decoder finds two fields out of their usual order to be a style, which keeps the
default of the third. A quote of two characters is an error, and so are a field that is given again
and an unknown key. -/
theorem decoded_document_accent :
    let accent : Yaml.CodeEscape := ⟨'é', fun _ => true⟩
    let fields : List StyleField := [.escape .none, .quotes [[accent], [accent]]]
    Yaml.Decoder.standard.ReadsLines ∧ Yaml.Decoder.standard.TakesValues ∧
    document fields =
      "escape: none\nquote_chars: [\"\\U000000E9\", \"\\U000000E9\"]\n".toList ∧
    QuoteStyle.ofDocument (document fields) = .ok ⟨['é', 'é'], .insensitive, .none⟩ ∧
    (∃ error, QuoteStyle.ofDocument (document [.quotes [[accent, accent]]]) = .error error) ∧
    (∃ error, QuoteStyle.ofDocument (document (fields ++ [.escape .none])) = .error error) ∧
    ∃ error, QuoteStyle.ofDocument (document fields ++ (keyLine (.quoted [accent]) [] ++ [])) =
      .error error := by
  have reads := Yaml.Decoder.readsLines_standard
  have takes := Yaml.Decoder.takesValues_standard
  refine ⟨reads, takes, by decide +kernel, ?_, ?_, ?_, ?_⟩
  · exact (decoded_document reads takes _).1 ⟨by decide, by simp [Single]⟩
  · exact (decoded_document reads takes _).2.1 fun spellOut =>
      absurd (spellOut.single _ List.mem_cons_self) (by simp [Single])
  · exact (decoded_document reads takes _).2.1 fun spellOut =>
      absurd spellOut.onceEach (by decide)
  · exact (decoded_document reads takes _).2.2 (.quoted [⟨'é', fun _ => true⟩]) [] []
      (.inl (by decide))

end StyleField

end QuotedText
