import RestClient.Json.Numeral

/-!
# The parts of a text in JSON

Blanks, words and strings, and the two loops over the items of a list and the members of an object.
Each reads from the front of a list of characters and returns what is left.
-/

namespace RestClient.Json

/-- The characters that may stand between the parts of a text. -/
def isBlank (c : Char) : Bool := c = ' ' || c = '\n' || c = '\t' || c = '\r'

/-- The text from its first character that is not blank. -/
def skipBlanks (cs : List Char) : List Char := cs.dropWhile isBlank

/-- The rest of a word whose first letter was read. -/
def word : List Char → List Char → Except Fault (List Char)
  | [], cs => .ok cs
  | _ :: _, [] => .error .endInValue
  | w :: ws, c :: cs => if c = w then word ws cs else .error .expectedWord

/-! ## Strings -/

/-- Where the reading of a string stands. Escaped units are the reason that there are states at all:
two halves of a surrogate pair make one character. -/
inductive StringState where
  /-- Between characters. -/
  | plain
  /-- After a backslash. -/
  | escape
  /-- Inside the digits of an escaped unit: how many were read, their value, and the first half of
  a pair if this is the second. -/
  | hex (read value : Nat) (high : Option Nat)
  /-- After the first half of a pair. -/
  | needBackslash (high : Nat)
  /-- After the first half of a pair and a backslash. -/
  | needU (high : Nat)

/-- The value of a digit to base sixteen. -/
def hexValue (c : Char) : Option Nat :=
  if '0' ≤ c && c ≤ '9' then some (c.toNat - '0'.toNat)
  else if 'a' ≤ c && c ≤ 'f' then some (c.toNat - 'a'.toNat + 10)
  else if 'A' ≤ c && c ≤ 'F' then some (c.toNat - 'A'.toNat + 10)
  else none

/-- The character of a letter after a backslash. -/
def simpleEscape (c : Char) : Option Char :=
  if c = '"' then some '"'
  else if c = '\\' then some '\\'
  else if c = '/' then some '/'
  else if c = 'b' then some (Char.ofNat 8)
  else if c = 'f' then some (Char.ofNat 12)
  else if c = 'n' then some '\n'
  else if c = 'r' then some '\r'
  else if c = 't' then some '\t'
  else none

/-- The number of bytes that characters take. -/
def byteCount (cs : List Char) : Nat := cs.foldl (fun n c => n + c.utf8Size) 0

/-- Puts a character in front of a string that was read. -/
def prepend (c : Char) (r : Except Fault (List Char × List Char)) :
    Except Fault (List Char × List Char) :=
  r.map fun p => (c :: p.1, p.2)

/-- **The content of a string up to its closing quote**, and what follows it. A `strict` reading
gives every escaped unit its character and refuses halves of surrogate pairs; a reading that is not
strict only finds the end, and leaves out the escaped units. -/
def stringFrom (strict : Bool) : StringState → List Char → Except Fault (List Char × List Char)
  | .plain, [] => .error .endInString
  | .plain, c :: cs =>
    if c = '"' then .ok ([], cs)
    else if c = '\\' then stringFrom strict .escape cs
    else if c.toNat < 0x20 then .error .controlCharacter
    else prepend c (stringFrom strict .plain cs)
  | .escape, [] => .error .endInString
  | .escape, c :: cs =>
    if c = 'u' then stringFrom strict (.hex 0 0 none) cs
    else match simpleEscape c with
      | some d => prepend d (stringFrom strict .plain cs)
      | none => .error .invalidEscape
  | .hex _ _ _, [] => .error .endInString
  | .hex read value high, c :: cs =>
    match hexValue c with
    | none =>
      if read + byteCount (c :: cs) < 4 then .error .endInString else .error .invalidEscape
    | some d =>
      let v := value * 16 + d
      if read < 3 then stringFrom strict (.hex (read + 1) v high) cs
      else if !strict then stringFrom strict .plain cs
      else match high with
        | none =>
          if 0xDC00 ≤ v && v ≤ 0xDFFF then .error .loneSurrogate
          else if 0xD800 ≤ v && v ≤ 0xDBFF then stringFrom strict (.needBackslash v) cs
          else prepend (Char.ofNat v) (stringFrom strict .plain cs)
        | some h =>
          if 0xDC00 ≤ v && v ≤ 0xDFFF then
            prepend (Char.ofNat (0x10000 + (h - 0xD800) * 0x400 + (v - 0xDC00)))
              (stringFrom strict .plain cs)
          else .error .loneSurrogate
  | .needBackslash _, [] => .error .endInString
  | .needBackslash h, c :: cs =>
    if c = '\\' then stringFrom strict (.needU h) cs else .error .halfSurrogatePair
  | .needU _, [] => .error .endInString
  | .needU h, c :: cs =>
    if c = 'u' then stringFrom strict (.hex 0 0 (some h)) cs else .error .halfSurrogatePair

/-- A string after its opening quote. -/
def readString (cs : List Char) : Except Fault (String × List Char) :=
  (stringFrom true .plain cs).map fun p => (String.ofList p.1, p.2)

/-- What follows a string, after its opening quote. -/
def skipString (cs : List Char) : Except Fault (List Char) :=
  (stringFrom false .plain cs).map (·.2)

/-! ## Lists and objects -/

/-- What follows the colon between a key and its value. -/
def colon (cs : List Char) : Except Fault (List Char) :=
  match skipBlanks cs with
  | ':' :: r => .ok r
  | [] => .error .endInObject
  | _ => .error .expectedColon

/-- The place of the next item of a list, or the end of the list with its closing bracket. In front
of every item but the first there is a comma, and there is none in front of the bracket. -/
def nextItem (first : Bool) (cs : List Char) : Except Fault (Bool × List Char) :=
  match skipBlanks cs with
  | [] => .error .endInList
  | ']' :: r => .ok (false, ']' :: r)
  | c :: r =>
    if first then .ok (true, c :: r)
    else if c = ',' then
      match skipBlanks r with
      | [] => .error .endInValue
      | ']' :: _ => .error .trailingComma
      | r => .ok (true, r)
    else .error .expectedItemEnd

/-- The end of a list after its last item that was wanted. A list with more items than were wanted
is refused here. -/
def closeList (cs : List Char) : Except Fault (List Char) :=
  match skipBlanks cs with
  | [] => .error .endInList
  | ']' :: r => .ok r
  | ',' :: r =>
    match skipBlanks r with
    | ']' :: _ => .error .trailingComma
    | _ => .error .trailingCharacters
  | _ => .error .trailingCharacters

/-- The place of the next key of an object, after its quote, or the end of the object. In front of
every key but the first there is a comma, and there is none in front of the brace. -/
def nextKey (first : Bool) (cs : List Char) : Except Fault (Bool × List Char) :=
  match skipBlanks cs with
  | [] => .error .endInObject
  | '}' :: r => .ok (false, r)
  | c :: r =>
    if first then
      if c = '"' then .ok (true, r) else .error .keyNotString
    else if c = ',' then
      match skipBlanks r with
      | [] => .error .endInValue
      | '"' :: r => .ok (true, r)
      | '}' :: _ => .error .trailingComma
      | _ => .error .keyNotString
    else .error .expectedMemberEnd

/-- A fault as an error. -/
def lift {α : Type} (r : Except Fault α) : Except Error α := r.mapError Error.fault

/-- **The items of a list**, each read by `item`, up to the closing bracket. The first argument
bounds the number of items; the length of the text is always enough. -/
def items {α : Type} (item : List Char → Except Error (α × List Char)) :
    Nat → Bool → List Char → Except Error (List α × List Char)
  | 0, _, _ => .error (.fault .endInList)
  | n + 1, first, cs => do
    let (more, r) ← lift (nextItem first cs)
    if more then
      let (x, r) ← item r
      let (xs, r) ← items item n false r
      return (x :: xs, r)
    else return ([], r)

/-- **The members of an object**, up to its end. `member` reads one member from after the quote of
its key and may change what was collected so far, so maps, records and dynamic objects all use
it. -/
def members {σ : Type} (member : σ → List Char → Except Error (σ × List Char)) :
    Nat → Bool → σ → List Char → Except Error (σ × List Char)
  | 0, _, _, _ => .error (.fault .endInObject)
  | n + 1, first, s, cs => do
    let (more, r) ← lift (nextKey first cs)
    if more then
      let (s, r) ← member s r
      members member n false s r
    else return (s, r)

/-! ## Values that are passed over -/

/-- The place of the next item that is passed over, or what follows the list. -/
def skipNextItem (first : Bool) (cs : List Char) : Except Fault (Bool × List Char) :=
  match skipBlanks cs with
  | [] => .error .endInList
  | ']' :: r => .ok (false, r)
  | c :: r =>
    if first then .ok (true, c :: r)
    else if c = ',' then .ok (true, r)
    else .error .expectedItemEnd

/-- The place of the next key that is passed over, or what follows the object. -/
def skipNextKey (first : Bool) (cs : List Char) : Except Fault (Bool × List Char) :=
  match skipBlanks cs with
  | [] => .error .endInObject
  | '}' :: r => .ok (false, r)
  | c :: r =>
    let key (cs : List Char) : Except Fault (Bool × List Char) :=
      match skipBlanks cs with
      | [] => .error .endInObject
      | '"' :: r => .ok (true, r)
      | _ => .error .keyNotString
    if first then key (c :: r)
    else if c = ',' then key r
    else .error .expectedMemberEnd

mutual

/-- **What follows a value that is not wanted.** Only the form is looked at: numerals may be out of
range, strings may hold halves of surrogate pairs, and there is no limit to the nesting. -/
def skipValue : Nat → List Char → Except Fault (List Char)
  | 0, _ => .error .endInValue
  | n + 1, cs =>
    match skipBlanks cs with
    | [] => .error .endInValue
    | 'n' :: r => word ['u', 'l', 'l'] r
    | 't' :: r => word ['r', 'u', 'e'] r
    | 'f' :: r => word ['a', 'l', 's', 'e'] r
    | '-' :: r => skipNumeral r
    | '"' :: r => skipString r
    | '[' :: r => skipItems n true r
    | '{' :: r => skipMembers n true r
    | c :: r => if isDigit c then skipNumeral (c :: r) else .error .expectedValue

/-- Passes over the items of a list and its end. -/
def skipItems : Nat → Bool → List Char → Except Fault (List Char)
  | 0, _, _ => .error .endInList
  | n + 1, first, cs => do
    let (more, r) ← skipNextItem first cs
    if more then skipItems n false (← skipValue n r) else return r

/-- Passes over the members of an object and its end. -/
def skipMembers : Nat → Bool → List Char → Except Fault (List Char)
  | 0, _, _ => .error .endInObject
  | n + 1, first, cs => do
    let (more, r) ← skipNextKey first cs
    if more then
      let r ← skipString r
      let r ← colon r
      skipMembers n false (← skipValue n r)
    else return r

end

end RestClient.Json
