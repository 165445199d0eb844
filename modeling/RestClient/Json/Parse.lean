import RestClient.Json.Scan

/-!
# Reading a dynamic value from a text

`Json.parse` reads one value that is the whole text. Lists and objects may stand inside each other
up to a depth; the count of levels that are left goes down at each opening bracket.
-/

namespace RestClient.Json

/-- The number of levels, one more than lists and objects may be nested. Text that opens as many is
refused, so that no text can exhaust the reader. -/
def levels : Nat := 128

/-- One level further down, unless none is left. A text of brackets alone can therefore not exhaust
the stack. -/
def descend (depth : Nat) : Except Fault Nat :=
  if depth ≤ 1 then .error .tooDeep else .ok (depth - 1)

/-- A member of an object from after the quote of its key, put in its place among those read. -/
def memberOf (value : List Char → Except Error (Json × List Char))
    (read : List (String × Json)) (cs : List Char) :
    Except Error (List (String × Json) × List Char) := do
  let (k, r) ← lift (readString cs)
  let r ← lift (colon r)
  let (j, r) ← value r
  return (insert k j read, r)

/-- **One value from the front of a text**, and what is left. The first argument bounds the work;
one more than the length of the text is enough. Members are put in order as they are read, and of
two with one key the later stays. -/
def value : Nat → Nat → List Char → Except Error (Json × List Char)
  | 0, _, _ => .error (.fault .endInValue)
  | n + 1, depth, cs =>
    match skipBlanks cs with
    | [] => .error (.fault .endInValue)
    | 'n' :: r => (lift (word ['u', 'l', 'l'] r)).map (.null, ·)
    | 't' :: r => (lift (word ['r', 'u', 'e'] r)).map (.bool true, ·)
    | 'f' :: r => (lift (word ['a', 'l', 's', 'e'] r)).map (.bool false, ·)
    | '-' :: r => (lift (numeral true r)).map fun p => (.number p.1, p.2)
    | '"' :: r => (lift (readString r)).map fun p => (.string p.1, p.2)
    | '[' :: r => do
      let depth ← lift (descend depth)
      let (xs, r) ← items (value n depth) n true r
      let r ← lift (closeList r)
      return (.array xs, r)
    | '{' :: r => do
      let depth ← lift (descend depth)
      let (ms, r) ← members (memberOf (value n depth)) n true [] r
      return (.object ms, r)
    | c :: r =>
      if isDigit c then (lift (numeral false (c :: r))).map fun p => (.number p.1, p.2)
      else .error (.fault .expectedValue)

/-- A result that is the whole text: only blanks may follow it. -/
def whole {α : Type} (r : α × List Char) : Except Error α :=
  match skipBlanks r.2 with
  | [] => .ok r.1
  | _ => .error (.fault .trailingCharacters)

/-- **The value of a text.** There is one value, with blanks around it at most, and a text that
holds more is refused. -/
def parse (s : String) : Except Error Json := do
  let cs := s.toList
  whole (← value (cs.length + 1) levels cs)

end RestClient.Json
