import RestClient.Text.Composition
import RestClient.Text.Direction
import RestClient.Url.DomainTable
import RestClient.Url.Host
import RestClient.Url.Punycode

/-!
# Domain names

A domain name is kept in its form in ASCII: letters in lower case, and a label that is not ASCII
behind the mark `xn--` in the encoding of `Punycode`. `Domain.toAscii?` makes that form. It first
replaces the characters of the name by those that a name may hold and composes them; then it refuses
names with characters that would end or change an address, and labels that could be taken for
another one: those that begin with a mark, that have joiners where they cannot be seen, or that mix
letters of both directions. A label that is in ASCII already is held to the same rules.
-/

namespace RestClient.Url.Domain

/-! ## Characters -/

/-- Whether a code point is the first of a pair of a capital and its small form. -/
def isCapital (n : Nat) : Bool :=
  capitals.any fun r => r.1 ≤ n && n ≤ r.2 && (n - r.1) % 2 = 0

/-- The one character that a code point is replaced by. -/
def replacement? (n : Nat) : Option Char :=
  replacements.findSome? fun r => if r.1 ≤ n then r.2.toList[n - r.1]? else none

/-- The several characters that a code point is replaced by. -/
def expansion? (n : Nat) : Option (List Char) :=
  expansions.findSome? fun r => if r.1 ≤ n then (Text.split '|' r.2.toList)[n - r.1]? else none

/-- **What a character of a name is replaced by**; nothing if it must not stand in a name. ASCII is
decided without the tables. -/
def mapped? (c : Char) : Option (List Char) :=
  let n := c.toNat
  if n < 0x80 then some [c.toLower]
  else if Text.within disallowed n then none
  else if Text.within ignored n then some []
  else if isCapital n then some [Char.ofNat (n + 1)]
  else
    match replacement? n with
    | some d => some [d]
    | none => some ((expansion? n).getD [c])

/-- A name with its characters replaced and composed. -/
def normal? (cs : List Char) : Option (List Char) :=
  (cs.mapM mapped?).map fun ds => Text.composed ds.flatten

/-- The ASCII characters that no domain name holds. -/
def isForbidden (c : Char) : Bool :=
  c.toNat ≤ 0x20 || c.toNat = 0x7F || "%#/:<>?@[\\]^|".toList.contains c

/-- Whether a text is ASCII. -/
def isAscii (cs : List Char) : Bool := cs.all fun c => c.toNat < 128

/-! ## Labels -/

/-- The mark of an encoded label. -/
def mark : List Char := ['x', 'n', '-', '-']

/-- A label without the mark, if it has it. -/
def unmarked? (label : List Char) : Option (List Char) :=
  match label with
  | 'x' :: 'n' :: '-' :: '-' :: rest => some rest
  | _ => none

/-- **The label that one stands for.** A marked label has to stand for a normal one that is not
ASCII, so that no name has two spellings. -/
def shown? (label : List Char) : Option (List Char) :=
  match unmarked? label with
  | none => some label
  | some rest =>
    match Punycode.decode? rest with
    | some decoded =>
      if !isAscii decoded && normal? decoded = some decoded then some decoded else none
    | none => none

/-- The two joiners, of which the first one keeps letters apart. -/
def joiners : Char × Char := (Char.ofNat 0x200C, Char.ofNat 0x200D)

/-- Whether the character before a place kills the vowel of its syllable. -/
def followsVirama (before : List Char) : Bool := before.head?.any (Text.markClass · = 9)

/-- Whether the letters before and after a place would be joined. -/
def betweenJoined (before rest : List Char) : Bool :=
  let letter? (cs : List Char) : Option Nat :=
    ((cs.map Char.toNat).dropWhile (Text.within Text.transparent)).head?
  (letter? before).any (Text.within Text.joiningNext) &&
    (letter? rest).any (Text.within Text.joiningPrevious)

/-- Whether each joiner stands where it shows; `before` is what was passed, the last first. -/
def joinersShow (before : List Char) : List Char → Bool
  | [] => true
  | c :: rest =>
    (c ≠ joiners.1 || followsVirama before || betweenJoined before rest) &&
      (c ≠ joiners.2 || followsVirama before) && joinersShow (c :: before) rest

/-- The last of some directions, those of marks not counted. -/
def lastDirection (ds : List Text.Direction) : Option Text.Direction :=
  (ds.reverse.dropWhile (· = .attached)).head?

/-- **Whether a label is written in one direction**, that of its first letter. It is asked only of
names that have something written from right to left. -/
def isOneWay (label : List Char) : Bool :=
  let ds := label.map Text.direction
  match ds.head? with
  | none => true
  | some .right =>
    !ds.contains .left && !(ds.contains .number && ds.contains .arabicNumber) &&
      (lastDirection ds).any fun d => d = .right || d = .number || d = .arabicNumber
  | some .left =>
    !ds.contains .right && !ds.contains .arabicNumber &&
      (lastDirection ds).any fun d => d = .left || d = .number
  | some _ => false

/-- Whether a label has something that is written from right to left. -/
def hasRight (label : List Char) : Bool :=
  label.any fun c => Text.direction c = .right || Text.direction c = .arabicNumber

/-- Whether a label, as it shows, could not be taken for another one. -/
def isClear (label : List Char) : Bool :=
  !label.head?.any Text.isMark && joinersShow [] label

/-! ## Names -/

/-- A label in ASCII. -/
def labelToAscii (label : List Char) : List Char :=
  if isAscii label then label else mark ++ Punycode.encode label

/-- **A domain name in ASCII**: replaced and composed, each label looked at as it shows, and encoded
where it is not ASCII. -/
def toAscii? (name : String) : Option (List Char) := do
  let cs ← normal? name.toList
  if cs.any isForbidden then none
  else
    let labels := Text.split '.' cs
    let shown ← labels.mapM shown?
    if shown.all isClear && (!shown.any hasRight || shown.all isOneWay) then
      return Text.join '.' (labels.map labelToAscii)
    else none

end RestClient.Url.Domain
