import Stencil.Settings.Fields

/-!
# Trees of indented texts

A text is a tree of scalars, sequences and mappings.  A node may carry an
anchor, and an alias stands for the node that carried its name last.
-/

namespace Stencil.Yaml

/-- What a text holds. -/
inductive Tree where
  | scalar (content : String) (plain : Bool)
  | sequence (items : List Tree)
  | mapping (entries : List (Tree × Tree))
  | alias (name : String)
  | anchored (name : String) (node : Tree)

/-- The anchors of a text so far, the last one first. -/
abbrev Anchors := List (String × Written)

namespace Tree

/-- The empty plain scalar, which stands where nothing is written. -/
def empty : Tree := .scalar "" true

/-- The truth value of a plain scalar, in lower case, in upper case or capitalized. -/
def truth? (content : String) : Option Bool :=
  if ["true", "True", "TRUE"].contains content then some true
  else if ["false", "False", "FALSE"].contains content then some false
  else none

/-- What a scalar is as the value of a field: any is a text, and plain ones may be truth values. -/
def scalarWritten (content : String) (plain : Bool) : Written where
  text := some content
  truth := if plain then truth? content else none

/-- What a node is as the value of a field, when no aliases are followed. -/
def outline : Tree → Written
  | .scalar content plain => scalarWritten content plain
  | .anchored _ node => node.outline
  | _ => {}

mutual

/-- What a node is as the value of a field, with the anchors up to its end. -/
def resolve (anchors : Anchors) : Tree → Option (Written × Anchors)
  | .scalar content plain => some (scalarWritten content plain, anchors)
  | .alias name => (anchors.lookup name).map fun written => (written, anchors)
  | .anchored name node => node.resolve ((name, node.outline) :: anchors)
  | .sequence items => (resolveItems anchors items).map fun after => ({}, after)
  | .mapping entries => (resolveEntries anchors entries).map fun after => ({}, after.2)

/-- The anchors up to the end of the items of a sequence. -/
def resolveItems (anchors : Anchors) : List Tree → Option Anchors
  | [] => some anchors
  | item :: rest =>
    (item.resolve anchors).bind fun (_, after) => resolveItems after rest

/-- The keys and values of a mapping, with the anchors up to its end. -/
def resolveEntries (anchors : Anchors) :
    List (Tree × Tree) → Option (List (Written × Written) × Anchors)
  | [] => some ([], anchors)
  | (key, value) :: rest =>
    (key.resolve anchors).bind fun (name, afterKey) =>
      (value.resolve afterKey).bind fun (written, afterValue) =>
        (resolveEntries afterValue rest).map fun read =>
          ((name, written) :: read.1, read.2)

end

/-- The fields of a text: a mapping whose keys are scalars, or nothing at all. -/
def fields? (anchors : Anchors) : Tree → Option (List (String × Written))
  | .anchored name node => node.fields? ((name, node.outline) :: anchors)
  | .mapping entries =>
    (resolveEntries anchors entries).bind fun (read, _) =>
      read.mapM fun (key, written) => key.text.map fun name => (name, written)
  | .scalar "" true => some []
  | _ => none

end Tree

end Stencil.Yaml
