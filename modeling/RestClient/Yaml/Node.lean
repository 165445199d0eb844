import RestClient.Yaml.Plain

/-!
# Nodes

A document in YAML stands for a tree of nodes: scalars with their text and the way it was quoted,
sequences, and mappings whose keys are nodes too. A node may have a tag, and instead of a node there
may be an alias, which refers to a node with an anchor by the number of the anchor. How the tree is
spread over lines is no longer to be seen.
-/

namespace RestClient.Yaml

/-- How the text of a scalar is set off. The style matters for what a scalar stands for: only a
plain one can be a number, a truth value or the null. -/
inductive Style where
  | plain
  | singleQuoted
  | doubleQuoted
  /-- On lines of its own that are kept. -/
  | literal
  /-- On lines of its own that are filled. -/
  | folded
  deriving DecidableEq, Repr, Inhabited

/-- A node of a document. An alias is a node of its own, which refers to an anchor by its number, so
a document may say one thing in several places. -/
inductive Node where
  | scalar (tag : Option String) (style : Style) (text : String)
  | seq (tag : Option String) (items : List Node)
  | map (tag : Option String) (entries : List (Node × Node))
  | alias (anchor : Nat)
  deriving Repr, Inhabited

/-- The tag of a node. -/
def Node.tag : Node → Option String
  | .scalar tag _ _ => tag
  | .seq tag _ => tag
  | .map tag _ => tag
  | .alias _ => none

/-- The node that stands where nothing is written. -/
def Node.empty (tag : Option String) : Node := .scalar tag .plain ""

end RestClient.Yaml
