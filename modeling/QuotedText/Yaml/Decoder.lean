import QuotedText.Text.Basic

/-!
# Decoders of settings documents

Reading a settings document, and taking values of some type from its nodes, is the work of
packages. `Yaml.Decoder` lists what is asked of them. Nothing about them is fixed here: a program
that reads settings takes a decoder, and what is true of it for every decoder needs no knowledge of
the language. `Yaml.Decoder.standard` is the decoder that runs.
-/

namespace QuotedText.Yaml

/-- A node of a document. What an alias stands for is in its place. -/
inductive Node where
  /-- Nothing is written, neither a plain scalar nor quotes. -/
  | empty
  | scalar (text : Text)
  | sequence (items : List Node)
  | mapping (entries : List (Node × Node))
  /-- A node with a tag before it. -/
  | tagged (tag : Text) (node : Node)

/-- A scalar's text. -/
def Node.text? : Node → Option Text
  | .scalar text => some text
  | .empty | .sequence _ | .mapping _ | .tagged _ _ => none

/-- What a program declares about a record. -/
structure Record where
  /-- The names of its fields. -/
  fields : List Text
  /-- Whether it has no place for entries with other keys. -/
  closed : Bool

/-- What is asked of the packages that read settings documents. -/
structure Decoder where
  /-- The root of the one document in a text. -/
  node? : Text → Option Node
  /-- A character. -/
  char? : Node → Option Char
  /-- A list, each value of which is taken from an item. -/
  list? : {α : Type} → (Node → Option α) → Node → Option (List α)
  /-- The value with the name that a node gives. -/
  choice? : {α : Type} → List (Text × α) → Node → Option α
  /-- The nodes that are given for the fields of a record, by the names of the fields. -/
  record? : Record → Node → Option (Text → Option Node)

end QuotedText.Yaml
