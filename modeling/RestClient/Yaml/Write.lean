import RestClient.Json.Write
import RestClient.Yaml.Error
import RestClient.Yaml.Layout

/-!
# Writing typed values as YAML

A value becomes a node: scalars plain, texts quoted where a plain scalar would stand for something
else, records and maps as mappings, and a variant with content as that content under a tag of the
variant's name. A variant with content cannot be the content of another one, for a node has at most
one tag.
-/

namespace RestClient.Yaml

/-- The style of a text: lines of its own if it has several lines, quotes if it would not stand for
itself, and else plain. Whether the style is possible at its place is decided later, when the text
is laid out. -/
def textStyle (s : String) : Style :=
  if s.toList.contains '\n' then .literal
  else
    match resolve s with
    | .text _ => if hasLeadingZero s.toList then .singleQuoted else .plain
    | _ => .singleQuoted

/-- A text as a node. -/
def textNode (tag : Option String) (s : String) : Node := .scalar tag (textStyle s) s

/-- Characters as a plain node. -/
def plainNode (tag : Option String) (cs : List Char) : Node := .scalar tag .plain (String.ofList cs)

/-- The node of a variant, which cannot have a second tag. A variant that is the content of another
one has therefore no form. -/
def tagged (tag : Option String) (node : Except Error Node) : Except Error Node :=
  match tag with
  | none => node
  | some _ => .error .nestedVariants

mutual

/-- **A value as a node** under a tag. The tag names a variant, and since a node has one tag at
most, a variant with content cannot be the content of another one. -/
def nodeOf (tag : Option String) : Datum → Except Error Node
  | .unit => .ok (plainNode tag "null".toList)
  | .bool b => .ok (plainNode tag (if b then "true" else "false").toList)
  | .int _ n => .ok (plainNode tag (Json.intText n))
  | .float x => .ok (plainNode tag (floatLayout.text x.numeric))
  | .float32 x => .ok (plainNode tag (singleLayout.text x.numeric))
  | .char c => .ok (.scalar tag .singleQuoted (String.ofList [c]))
  | .text s => .ok (textNode tag s)
  | .absent => .ok (plainNode tag "null".toList)
  | .present inner => nodeOf tag inner
  | .seq items => (itemNodes items).map (.seq tag)
  | .tuple items => (itemNodes items).map (.seq tag)
  | .map entries => (entryNodes entries).map (.map tag)
  | .unitRecord _ => .ok (plainNode tag "null".toList)
  | .wrapper _ inner => nodeOf tag inner
  | .record _ fields => (fieldNodes fields).map (.map tag)
  | .unitVariant _ variant => tagged tag (.ok (textNode none variant))
  | .wrapperVariant _ variant inner => tagged tag (nodeOf (some variant) inner)
  | .tupleVariant _ variant items => tagged tag ((itemNodes items).map (.seq (some variant)))
  | .recordVariant _ variant fields => tagged tag ((fieldNodes fields).map (.map (some variant)))
  | .refused reason => .error (.refused reason)

/-- The items of a list as nodes. -/
def itemNodes : List Datum → Except Error (List Node)
  | [] => .ok []
  | d :: rest => do
    let n ← nodeOf none d
    let ns ← itemNodes rest
    return n :: ns

/-- The entries of a map as nodes. -/
def entryNodes : List (Datum × Datum) → Except Error (List (Node × Node))
  | [] => .ok []
  | (k, d) :: rest => do
    let key ← nodeOf none k
    let n ← nodeOf none d
    let ns ← entryNodes rest
    return (key, n) :: ns

/-- The fields of a record as nodes. -/
def fieldNodes : List (String × Datum) → Except Error (List (Node × Node))
  | [] => .ok []
  | (name, d) :: rest => do
    let n ← nodeOf none d
    let ns ← fieldNodes rest
    return (textNode none name, n) :: ns

end

/-- **A value as a document**: its node, laid out as a block from the first column on. -/
def document (d : Datum) : Except Error (List Char) := (nodeOf none d).map Node.text

end RestClient.Yaml
