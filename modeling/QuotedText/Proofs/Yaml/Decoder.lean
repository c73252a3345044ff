import QuotedText.Proofs.Yaml.Line
import QuotedText.Yaml.Standard

/-!
# Rules that decoders keep

What is true of a settings document rests on two rules. A decoder reads a mapping in block form
line by line (`Yaml.Decoder.ReadsLines`), as YAML has it, and it takes values from nodes by what a
program declares about them (`Yaml.Decoder.TakesValues`). Both speak of all documents of lines and
of all records, and of no document in particular. The decoder that runs keeps them
(`Yaml.Decoder.readsLines_standard`, `Yaml.Decoder.takesValues_standard`).
-/

namespace QuotedText.Yaml

/-! ## Lines -/

/-- The value on a line of a mapping. -/
inductive LineValue where
  /-- A word without quotes that could not be the mark at the end of a document. -/
  | word (text : Text) (isPlain : IsPlainWord text) (noDot : text.head? ≠ some '.')
  /-- Scalars between brackets, each of them escapes between double quotes. -/
  | sequence (scalars : List (List CodeEscape))

namespace LineValue

/-- How the value is written. -/
def written : LineValue → Text
  | .word text _ _ => text
  | .sequence scalars => '[' :: itemsWritten scalars

/-- The node that the value stands for. -/
def node : LineValue → Node
  | .word text _ _ => .scalar text
  | .sequence scalars => .sequence (scalars.map fun scalar => .scalar (scalar.map (·.char)))

end LineValue

/-- A line of a mapping in block form. -/
structure Line where
  /-- The key. -/
  key : Key
  /-- What stands behind it. -/
  value : LineValue

namespace Line

/-- How the line is written. -/
def written (line : Line) : Text :=
  line.key.written ++ [':', ' '] ++ (line.value.written ++ ['\n'])

/-- The key and the value of the line. -/
def nodes (line : Line) : Node × Node :=
  (.scalar line.key.text, line.value.node)

end Line

/-- A visible character of ASCII, a space or a line feed. -/
def IsBasic (c : Char) : Prop :=
  c = '\n' ∨ c = ' ' ∨ IsInk c

instance (c : Char) : Decidable (IsBasic c) :=
  inferInstanceAs (Decidable (_ ∨ _))

/-- The keys of entries, as far as they are scalars. -/
def keys (entries : List (Node × Node)) : List Text :=
  entries.filterMap fun entry => entry.1.text?

/-! ## The rules -/

namespace Decoder

/-- The decoder reads mappings in block form. A key may take up 1024 characters. -/
structure ReadsLines (decoder : Decoder) : Prop where
  /-- Lines with different keys are a mapping with their entries. -/
  lines : ∀ lines : List Line, lines ≠ [] → (lines.map (·.key.text)).Nodup →
    (∀ line ∈ lines, line.key.written.length ≤ 1024) →
    (∀ c ∈ lines.flatMap Line.written, IsBasic c) →
    decoder.node? (lines.flatMap Line.written) = some (.mapping (lines.map Line.nodes))
  /-- Where a key begins a line behind other lines, a document that can be read is a mapping that
  goes on with this key, whatever comes behind it. -/
  key : ∀ (lines : List Line) (key : Key) (after : Text) (node : Node),
    decoder.node? (lines.flatMap Line.written ++ (key.written ++ [':', ' '] ++ after)) = some node →
    ∃ value more, node = .mapping (lines.map Line.nodes ++ (.scalar key.text, value) :: more)

/-- The decoder takes values from nodes by what a program declares about them. -/
structure TakesValues (decoder : Decoder) : Prop where
  /-- A scalar is a character when it holds one and nothing else. -/
  char : ∀ (text : Text) (c : Char), decoder.char? (.scalar text) = some c ↔ text = [c]
  /-- A sequence is a list when a value can be taken from every item. -/
  list : ∀ {α : Type} (take : Node → Option α) (items : List Node),
    decoder.list? take (.sequence items) = items.mapM take
  /-- A scalar is the value that it names. -/
  choice : ∀ {α : Type} (names : List (Text × α)) (text : Text), (names.map (·.1)).Nodup →
    decoder.choice? names (.scalar text) = names.lookup text
  /-- A mapping gives fields of a record when it has different keys that all name one. -/
  record : ∀ (record : Record) (entries : List (Text × Node)), (entries.map (·.1)).Nodup →
    (∀ entry ∈ entries, entry.1 ∈ record.fields) →
    decoder.record? record (.mapping (entries.map fun entry => (.scalar entry.1, entry.2))) =
      some fun name => entries.lookup name
  /-- A closed record has no place for other keys. -/
  unknown : ∀ (record : Record) (entries : List (Node × Node)) (key : Text),
    record.closed = true → key ∈ keys entries → key ∉ record.fields →
    decoder.record? record (.mapping entries) = none
  /-- A field is given once. -/
  once : ∀ (record : Record) (entries : List (Node × Node)) (key : Text),
    key ∈ record.fields → 1 < (keys entries).count key →
    decoder.record? record (.mapping entries) = none

end Decoder

/-! ## Lines that the standard decoder reads -/

/-- A document may hold a basic character. -/
theorem IsBasic.isPermitted {c : Char} (basic : IsBasic c) : isPermitted c = true := by
  rcases basic with rfl | rfl | ink
  · decide
  · decide
  · exact ink.isPermitted

/-- A key begins with no byte order mark. -/
theorem noMark_key (key : Key) (rest : Text) :
    ∀ c ∈ (key.written ++ rest).head?, c ≠ '\uFEFF' := by
  cases key with
  | plain word isPlain =>
    obtain ⟨first, tail, rfl⟩ := List.exists_cons_of_ne_nil isPlain.nonempty
    intro c isHead
    obtain rfl := Option.some.inj isHead
    exact (isPlain.begins first rfl).2
  | quoted escapes => exact fun c isHead => by cases isHead; decide

/-- A document of lines begins with no byte order mark when what follows them begins with none. -/
theorem noMark_lines (lines : List Line) (rest : Text)
    (noMark : ∀ c ∈ rest.head?, c ≠ '\uFEFF') :
    ∀ c ∈ (lines.flatMap Line.written ++ rest).head?, c ≠ '\uFEFF' := by
  cases lines with
  | nil => exact noMark
  | cons line lines =>
    rw [List.flatMap_cons, Line.written]
    simp only [List.append_assoc]
    exact noMark_key line.key _

/-- What the standard decoder reads a value as. -/
def LineValue.value : LineValue → Value
  | .word text _ _ => .scalar text
  | .sequence scalars => .sequence (scalars.map (·.map (·.char)))

/-- The entry that the standard decoder reads a line as. -/
def Line.entry (line : Line) : Entry :=
  ⟨line.key.text, line.value.value⟩

/-- The entry of a line stands for the nodes of the line. -/
theorem Line.nodes_entry (line : Line) : line.entry.nodes = line.nodes := by
  obtain ⟨key, value⟩ := line
  cases value with
  | word text isPlain noDot => rfl
  | sequence scalars =>
    simp [Line.entry, Line.nodes, LineValue.value, LineValue.node, Entry.nodes, Value.node]

/-- The entries of lines stand for the nodes of the lines. -/
theorem map_nodes_entry (lines : List Line) :
    (lines.map Line.entry).map Entry.nodes = lines.map Line.nodes := by
  rw [List.map_map]
  exact List.map_congr_left fun line _ => line.nodes_entry

/-- A line is read as its entry. -/
theorem Line.readsAs_entry (line : Line) : ReadsAs line.written line.entry := by
  obtain ⟨key, value⟩ := line
  cases value with
  | word text isPlain noDot => exact readsAs_word key isPlain noDot
  | sequence scalars => exact readsAs_sequence key scalars

namespace Decoder

/-- The standard decoder reads mappings in block form. -/
theorem readsLines_standard : ReadsLines standard where
  lines lines nonempty _ _ basic := by
    have permitted : (lines.flatMap Line.written).all isPermitted = true :=
      List.all_eq_true.mpr fun c member => (basic c member).isPermitted
    have noMark := noMark_lines lines [] (by simp)
    rw [List.append_nil] at noMark
    have holds := entries?_lines (fun line _ => line.readsAs_entry) nonempty permitted noMark
    simp only [standard, holds, Option.map_some, map_nodes_entry]
  key lines key after node isRoot := by
    obtain ⟨entries, holds, rfl⟩ := Option.map_eq_some_iff.mp isRoot
    have noMark := noMark_lines lines (key.written ++ [':', ' '] ++ after)
      (by rw [List.append_assoc]; exact noMark_key key _)
    obtain ⟨value, more, rfl⟩ :=
      eq_of_entries?_key (fun line _ => line.readsAs_entry) key noMark holds
    refine ⟨value.node, more.map Entry.nodes, ?_⟩
    rw [List.map_append, map_nodes_entry]
    rfl

end Decoder

/-! ## Values that the standard decoder takes -/

namespace Record

variable {record : Record} {entries : List (Node × Node)} {given : Text → Option Node}

/-- A scalar before other entries is the first key. -/
theorem keys_cons {entry : Node × Node} {name : Text} (named : entry.1.text? = some name) :
    keys (entry :: entries) = name :: keys entries :=
  List.filterMap_cons_some named

/-- Entries give the fields of a record when those behind the first give fields and the key of the
first is a new field, or is ignored by a record that is not closed. -/
theorem given?_cons {key value : Node} :
    record.given? ((key, value) :: entries) = some given ↔
      ∃ name later, key.text? = some name ∧ record.given? entries = some later ∧
        ((name ∈ record.fields ∧ later name = none ∧
            given = fun other => if other = name then some value else later other) ∨
          (name ∉ record.fields ∧ record.closed = false ∧ given = later)) := by
  rw [given?]
  cases named : key.text? with
  | none => simp
  | some name =>
    cases givenLater : record.given? entries with
    | none => simp
    | some later =>
      by_cases isField : name ∈ record.fields
      · cases known : later name with
        | none => simp [isField, known, @eq_comm _ given]
        | some _ => simp [isField, known]
      · cases closed : record.closed with
        | true => simp [isField]
        | false => simp [isField, @eq_comm _ given]

/-- A field whose key stands among the entries is given. -/
theorem given?_isSome (gives : record.given? entries = some given) {name : Text}
    (isField : name ∈ record.fields) (member : name ∈ keys entries) :
    (given name).isSome = true := by
  induction entries generalizing given with
  | nil => contradiction
  | cons entry entries ih =>
    obtain ⟨first, later, named, givesLater, way⟩ := given?_cons.mp gives
    rw [keys_cons named, List.mem_cons] at member
    rcases way with ⟨-, -, rfl⟩ | ⟨notField, -, rfl⟩
    · by_cases same : name = first
      · simp [same]
      · simpa [same] using ih givesLater (member.resolve_left same)
    · refine ih givesLater (member.resolve_left ?_)
      rintro rfl
      exact notField isField

/-- Entries with different keys that all name fields give these fields. -/
theorem given?_eq {entries : List (Text × Node)} (once : (entries.map (·.1)).Nodup)
    (known : ∀ entry ∈ entries, entry.1 ∈ record.fields) :
    record.given? (entries.map fun entry => (.scalar entry.1, entry.2)) =
      some fun name => entries.lookup name := by
  induction entries with
  | nil => rfl
  | cons entry entries ih =>
    obtain ⟨isField, knownLater⟩ := List.forall_mem_cons.mp known
    obtain ⟨new, onceLater⟩ := List.nodup_cons.mp once
    have unknown : entries.lookup entry.1 = none := by
      rw [List.lookup_eq_none_iff]
      intro other member
      rw [bne_iff_ne]
      intro same
      exact new (List.mem_map.mpr ⟨other, member, same.symm⟩)
    rw [List.map_cons, given?_cons]
    refine ⟨entry.1, _, rfl, ih onceLater knownLater, .inl ⟨isField, unknown, ?_⟩⟩
    funext name
    rw [List.lookup_cons]
    by_cases same : name = entry.1
    · simp [same]
    · rw [if_neg same, beq_eq_false_iff_ne.mpr same]

/-- Nothing is given by entries with a key that a closed record has no place for. -/
theorem given?_unknown {name : Text} (closed : record.closed = true)
    (member : name ∈ keys entries) (notField : name ∉ record.fields) :
    record.given? entries = none := by
  rw [Option.eq_none_iff_forall_ne_some]
  intro given gives
  induction entries generalizing given with
  | nil => contradiction
  | cons entry entries ih =>
    obtain ⟨first, later, named, givesLater, way⟩ := given?_cons.mp gives
    rw [keys_cons named, List.mem_cons] at member
    rcases member with rfl | behind
    · rcases way with ⟨isField, -, -⟩ | ⟨-, isOpen, -⟩
      · exact notField isField
      · rw [closed] at isOpen
        contradiction
    · exact ih behind later givesLater

/-- Nothing is given by entries with a key of a field twice. -/
theorem given?_repeated {name : Text} (isField : name ∈ record.fields)
    (again : 1 < (keys entries).count name) : record.given? entries = none := by
  rw [Option.eq_none_iff_forall_ne_some]
  intro given gives
  induction entries generalizing given with
  | nil => contradiction
  | cons entry entries ih =>
    obtain ⟨first, later, named, givesLater, way⟩ := given?_cons.mp gives
    rw [keys_cons named, List.count_cons] at again
    by_cases same : first = name
    · subst same
      have behind : first ∈ keys entries := by
        rw [← List.count_pos_iff]
        simp only [beq_self_eq_true, ↓reduceIte] at again
        omega
      have known := given?_isSome givesLater isField behind
      rcases way with ⟨-, new, -⟩ | ⟨notField, -, -⟩
      · rw [new] at known
        contradiction
      · exact notField isField
    · rw [beq_eq_false_iff_ne.mpr same] at again
      exact ih again later givesLater

end Record

namespace Decoder

/-- The standard decoder takes values by what is declared about them. -/
theorem takesValues_standard : TakesValues standard where
  char text c := by
    match text with
    | [] => simp [standard]
    | [_] => simp [standard]
    | _ :: _ :: _ => simp [standard]
  list _ _ := rfl
  choice _ _ _ := rfl
  record _ _ once known := Record.given?_eq once known
  unknown _ _ _ closed member notField := Record.given?_unknown closed member notField
  once _ _ _ isField again := Record.given?_repeated isField again

end Decoder

end QuotedText.Yaml
