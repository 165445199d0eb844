import RestClient.Url.Parse

/-!
# Extending paths

`Url.join` puts segments behind the path of an address. A slash at the end of the path separates
nothing. A segment is encoded so that it stays one segment, tabs and line ends in it are dropped,
and a segment that is a dot segment is left out; one that only becomes a dot segment when a tab is
dropped is resolved.
-/

namespace RestClient.Url

/-- The path without an empty last segment, if other segments are in front of it. A path that is
only a slash is one empty segment, and stays. -/
def popIfEmpty (ss : List String) : List String :=
  match ss.getLast? with
  | some "" => if 1 < ss.length then ss.dropLast else ss
  | _ => ss

/-- A segment in the form in which it stands in a path. Slashes and percent signs are encoded, and
in addresses of the web backslashes too, so that what was one segment stays one; tabs and line ends
are dropped before that. -/
def encodeSegment (special : Bool) (s : String) : List Char :=
  percentEncode (if special then inSpecialSegment else inSegment)
    (s.toList.filter fun c => !isDropped c)

/-- The segments that a new one follows: of a path that is only a slash there are none. -/
def beforeNew (ss : List String) : List (List Char) :=
  if ss = [""] then [] else ss.map String.toList

/-- One more segment behind a path. A dot segment is left out. What the segment is encoded to goes
through the same machine as the path of a text, which resolves it if it became a dot segment only
when a tab was dropped. -/
def extendOne (scheme : String) (ss : List String) (segment : String) : List String :=
  if segment = "." || segment = ".." then ss
  else
    let file := scheme = "file"
    let pushed := push file true (beforeNew ss) (encodeSegment (isSpecial scheme) segment)
    (if file then dropLeadingEmpty pushed else pushed).map String.ofList

/-- Segments behind a path, in order. -/
def extend (scheme : String) (ss segments : List String) : List String :=
  segments.foldl (extendOne scheme) ss

/-- **An address with segments behind its path**, if its path can be extended. The query and the
fragment of the address stay as they are. -/
def join? (base : Url) (segments : List String) : Option Url :=
  match base.path with
  | .flat _ => none
  | .segments ss =>
    some { base with path := .segments (extend base.scheme (popIfEmpty ss) segments) }

end RestClient.Url
