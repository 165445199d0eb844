import RestClient.Yaml.Node

/-!
# Tokens

The tokens of a stream. In block form the beginning and the end of a collection are not written:
they follow from the columns, and they are tokens of their own here, so that a grammar of tokens
need not know of columns.
-/

namespace RestClient.Yaml

/-- A line before a document that starts with a percent sign. -/
inductive Directive where
  | version (major minor : Nat)
  /-- What a handle stands for in tags. -/
  | handle (handle expansion : String)
  deriving DecidableEq, Repr

/-- The forms of collections. -/
inductive Collection where
  | blockSeq
  | blockMap
  | flowSeq
  | flowMap
  deriving DecidableEq, Repr

/-- Whether a form is written between brackets. -/
def Collection.isFlow : Collection → Bool
  | .flowSeq | .flowMap => true
  | _ => false

/-- **A token of a stream.** Where collections in block form begin and end is found from columns;
from here on, they are tokens like brackets. -/
inductive Token where
  | directive (d : Directive)
  | documentStart
  | documentEnd
  | opens (c : Collection)
  /-- The end of a collection in block form. -/
  | blockEnd
  /-- The closing bracket of a sequence or a mapping. -/
  | closes (c : Collection)
  /-- A dash. -/
  | item
  /-- A comma. -/
  | comma
  | key
  | value
  | alias (name : String)
  | anchor (name : String)
  | tag (handle suffix : String)
  | scalar (style : Style) (text : String)
  deriving DecidableEq, Repr

end RestClient.Yaml
