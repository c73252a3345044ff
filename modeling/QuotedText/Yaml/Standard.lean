import QuotedText.Yaml.Decoder
import QuotedText.Yaml.Mapping

/-!
# The decoder that runs

The standard decoder reads one mapping, whose values are scalars and sequences of scalars. That is
all that a quote style needs. It leaves out what no style is written with (anchors, aliases, tags,
directives, explicit keys, block scalars and nested collections) and takes documents with these
for malformed, and it sets no bound to the length of a key. Nothing that is said about all decoders
depends on it.
-/

namespace QuotedText.Yaml

/-- The node of a value. -/
def Value.node : Value → Node
  | .empty => .empty
  | .scalar text => .scalar text
  | .sequence items => .sequence (items.map .scalar)

/-- The nodes of an entry. -/
def Entry.nodes (entry : Entry) : Node × Node :=
  (.scalar entry.key, entry.value.node)

namespace Record

/-- The nodes that entries give for the fields of a record, unless they give a field twice or have
a key that a closed record has no place for. -/
def given? (record : Record) : List (Node × Node) → Option (Text → Option Node)
  | [] => some fun _ => none
  | (key, node) :: more =>
    match key.text?, record.given? more with
    | some name, some given =>
      if name ∈ record.fields then
        if (given name).isSome then none
        else some fun other => if other = name then some node else given other
      else if record.closed then none
      else some given
    | _, _ => none

end Record

namespace Decoder

/-- The decoder that runs. -/
def standard : Decoder where
  node? text := (entries? text).map fun entries => .mapping (entries.map Entry.nodes)
  char?
    | .scalar [c] => some c
    | _ => none
  list? take
    | .sequence items => items.mapM take
    | .empty => some []
    | _ => none
  choice? names
    | .scalar text => names.lookup text
    | _ => none
  record? record
    | .mapping entries => record.given? entries
    | _ => none

end Decoder

end QuotedText.Yaml
