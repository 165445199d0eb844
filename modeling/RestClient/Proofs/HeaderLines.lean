import RestClient.Http.Header
import RestClient.Proofs.DotSegment
import RestClient.Proofs.Percent

/-!
# Headers as lines

A request carries its headers as lines of bytes, with a name and a value in each. Whoever receives
them sees the bytes alone, and may take every carriage return and every line feed for the end of a
line. So no byte of a name or of a value may be one. A value that is plain (`HeaderValue.IsPlain`)
has more than that: no character of it is a control character of ASCII, apart from the tab. What
holds of the characters holds of the bytes, for a character outside of ASCII has no byte in common
with one of ASCII (`Url.mem_utf8EncodeChar`).

The lines of a map with plain values are read back as the names with their values
(`HeaderMap.map_readField?_lines`). So no value adds a header to those that the map has.
-/

namespace RestClient

/-! ## Bytes -/

namespace Url

/-- A byte that is not in ASCII is none with more bits set either. -/
theorem le_toNat_or (x : UInt8) {y : UInt8} (h : 0x80 ≤ y.toNat) : 0x80 ≤ (x ||| y).toNat := by
  rw [UInt8.toNat_or]
  exact Nat.le_trans h Nat.right_le_or

/-- **The byte of a character** is its number in ASCII, and all bytes are outside of ASCII if the
character is. So no character past ASCII has a byte that ends a line. -/
theorem mem_utf8EncodeChar {c : Char} {b : UInt8} (h : b ∈ String.utf8EncodeChar c) :
    b.toNat = c.toNat ∨ 0x80 ≤ b.toNat := by
  rcases c.utf8Size_eq with hsize | hsize | hsize | hsize
  · rw [String.utf8EncodeChar_eq_singleton hsize, List.mem_singleton] at h
    have hc : c.toNat ≤ 127 := UInt32.le_iff_toNat_le.mp (Char.utf8Size_eq_one_iff.mp hsize)
    have hmod : b.toNat = c.toNat % 256 := by
      rw [h]
      exact UInt32.toNat_toUInt8 c.val
    omega
  -- every byte of a longer character has the highest bit set
  · rw [String.utf8EncodeChar_eq_cons_cons hsize] at h
    simp only [List.mem_cons, List.not_mem_nil, or_false] at h
    right
    rcases h with rfl | rfl <;> exact le_toNat_or _ (by decide)
  · rw [String.utf8EncodeChar_eq_cons_cons_cons hsize] at h
    simp only [List.mem_cons, List.not_mem_nil, or_false] at h
    right
    rcases h with rfl | rfl | rfl <;> exact le_toNat_or _ (by decide)
  · rw [String.utf8EncodeChar_eq_cons_cons_cons_cons hsize] at h
    simp only [List.mem_cons, List.not_mem_nil, or_false] at h
    right
    rcases h with rfl | rfl | rfl | rfl <;> exact le_toNat_or _ (by decide)

theorem bytesOf_append (cs ds : List Char) : bytesOf (cs ++ ds) = bytesOf cs ++ bytesOf ds :=
  List.flatMap_append

/-- A byte of ASCII in a text is a character of the text. -/
theorem mem_bytesOf {cs : List Char} {b : UInt8} (h : b ∈ bytesOf cs) :
    (∃ c ∈ cs, b.toNat = c.toNat) ∨ 0x80 ≤ b.toNat := by
  obtain ⟨c, hc, hb⟩ := List.mem_flatMap.mp h
  exact (mem_utf8EncodeChar hb).imp_left fun heq => ⟨c, hc, heq⟩

end Url

open Url (bytesOf)

/-! ## Values and names -/

/-- **A value without control characters** of ASCII, apart from the tab. Control characters behind
ASCII are allowed. -/
def HeaderValue.IsPlain (v : String) : Prop :=
  ∀ c ∈ v.toList, c = '\t' ∨ (0x20 ≤ c.toNat ∧ c.toNat ≠ 0x7F)

instance : DecidablePred HeaderValue.IsPlain := fun _ => List.decidableBAll _ _

/-- A text is taken for a value as it is, if it is plain. -/
theorem HeaderMap.value?_eq_some_iff {s v : String} :
    value? s = some v ↔ HeaderValue.IsPlain s ∧ s = v := by
  unfold value? HeaderValue.IsPlain
  simp [isValueChar]

theorem HeaderMap.value?_eq_none_iff {s : String} :
    value? s = none ↔ ¬HeaderValue.IsPlain s := by
  unfold value? HeaderValue.IsPlain
  simp [isValueChar]

namespace HeaderName

/-- A character of a token: a letter, a digit or one of some marks. -/
def IsTokenLetter (c : Char) : Prop := c.isAlphanum = true ∨ c ∈ "!#$%&'*+-.^_`|~".toList

instance : DecidablePred IsTokenLetter := fun c => by
  unfold IsTokenLetter
  infer_instance

/-- **A name as HTTP has them**: a token that is not empty, in letters of either case. -/
def IsToken (s : String) : Prop := s ≠ "" ∧ ∀ c ∈ s.toList, IsTokenLetter c

/-- Tokens are visible text, and the colon is not among their characters, so the first colon of a
line ends the name. -/
theorem IsTokenLetter.visible {c : Char} (h : IsTokenLetter c) :
    0x20 < c.toNat ∧ c.toNat < 0x7F ∧ c ≠ ':' := by
  rcases h with h | h
  · unfold Char.isAlphanum Char.isAlpha Char.isUpper Char.isLower Char.isDigit at h
    simp only [Bool.or_eq_true, Bool.and_eq_true, decide_eq_true_eq, ge_iff_le,
      UInt32.le_iff_toNat_le] at h
    have hletters : 'A'.val.toNat = 65 ∧ 'Z'.val.toNat = 90 ∧ 'a'.val.toNat = 97 ∧
      'z'.val.toNat = 122 ∧ '0'.val.toNat = 48 ∧ '9'.val.toNat = 57 := by decide
    have hc : c.toNat = c.val.toNat := rfl
    refine ⟨by omega, by omega, ?_⟩
    rintro rfl
    revert h
    decide
  · have hall : "!#$%&'*+-.^_`|~".toList.all
        (fun c => 0x20 < c.toNat && c.toNat < 0x7F && c ≠ ':') = true := by decide
    have hc := List.all_eq_true.mp hall c h
    rw [Bool.and_eq_true, Bool.and_eq_true, decide_eq_true_eq, decide_eq_true_eq,
      decide_eq_true_eq] at hc
    exact ⟨hc.1.1, hc.1.2, hc.2⟩

theorem isTokenLetter_of_isTokenChar {c : Char} (h : isTokenChar c = true) :
    IsTokenLetter c := by
  unfold isTokenChar at h
  rw [Bool.or_eq_true, Bool.and_eq_true, List.contains_iff_mem] at h
  exact h.imp_left fun h => h.1

/-- What holds of all numbers in ASCII holds of its characters. -/
theorem of_ascii {P : Char → Prop} (h : ∀ n < 128, P (Char.ofNat n)) {c : Char}
    (hc : c.toNat < 128) : P c := by
  rw [← Char.ofNat_toNat c]
  exact h c.toNat hc

/-- **Names are read in lower case**, and a character is one of names if it is one of tokens. Of
characters past ASCII none becomes one of a token in lower case. -/
theorem isTokenChar_toLower_iff {c : Char} : isTokenChar c.toLower = true ↔ IsTokenLetter c := by
  by_cases hc : c.toNat < 128
  · refine of_ascii (P := fun c => isTokenChar c.toLower = true ↔ IsTokenLetter c) ?_ hc
    decide
  · -- outside of ASCII there are no other cases and no characters of tokens
    have hlower : c.toLower = c := by
      rcases Url.toLower_cases c with h | ⟨-, -, h⟩
      · exact h
      · omega
    rw [hlower]
    constructor
    · exact isTokenLetter_of_isTokenChar
    · intro h
      have hvisible := h.visible
      omega

theorem toLower_of_isTokenChar {c : Char} (h : isTokenChar c = true) : c.toLower = c := by
  have hvisible := (isTokenLetter_of_isTokenChar h).visible
  refine of_ascii (P := fun c => isTokenChar c = true → c.toLower = c) ?_ (by omega) h
  decide

/-- Names are tokens in lower case. -/
theorem isToken (n : HeaderName) : IsToken n.text ∧ lowered n.text = n.text.toList := by
  have hnormal := n.normal
  unfold isNormal at hnormal
  rw [Bool.and_eq_true, Bool.and_eq_true, List.all_eq_true] at hnormal
  obtain ⟨⟨hne, hall⟩, -⟩ := hnormal
  refine ⟨⟨?_, fun c hc => isTokenLetter_of_isTokenChar (hall c hc)⟩, ?_⟩
  · intro h
    rw [h] at hne
    cases hne
  · refine (List.map_congr_left fun c hc => toLower_of_isTokenChar (hall c hc)).trans ?_
    exact List.map_id' _

/-- **A text is taken for a name** in whatever case, if it is a token that is not too long; and no
other text is. -/
theorem isNormal_lowered_iff {s : String} :
    isNormal (lowered s) = true ↔ IsToken s ∧ s.length ≤ maxLength := by
  have hall : (∀ c ∈ lowered s, isTokenChar c = true) ↔ ∀ c ∈ s.toList, IsTokenLetter c := by
    unfold lowered
    simp only [List.forall_mem_map, isTokenChar_toLower_iff]
  have hempty : (lowered s).isEmpty = false ↔ s ≠ "" := by
    unfold lowered
    rw [List.isEmpty_map, List.isEmpty_eq_false_iff, Ne, String.toList_eq_nil_iff]
  unfold isNormal IsToken
  rw [Bool.and_eq_true, Bool.and_eq_true, Bool.not_eq_true', hempty, List.all_eq_true, hall,
    decide_eq_true_eq]
  unfold lowered
  rw [List.length_map, String.length_toList]

end HeaderName

/-! ## Lines -/

namespace HeaderMap

/-- The headers of a map, each name with each of its values. -/
def fields (h : HeaderMap) : List (HeaderName × String) :=
  h.entries.flatMap fun e => e.2.map fun v => (e.1, v)

/-- The line of a header. -/
def line (f : HeaderName × String) : List UInt8 :=
  bytesOf (f.1.text.toList ++ ':' :: ' ' :: f.2.toList)

/-- **The headers as they are sent**: lines with a carriage return and a line feed behind each,
names and values with a colon and a space between them. -/
def wire (fs : List (HeaderName × String)) : List UInt8 := fs.flatMap fun f => line f ++ [13, 10]

/-- The bytes that may end a line. -/
def isLineEnd (b : UInt8) : Bool := b = 13 || b = 10

/-- **The lines that a receiver sees**, whichever bytes it takes for the end of a line; those
without content say nothing. A carriage return alone and a line feed alone end a line here, as some
receivers have it. -/
def lines (bs : List UInt8) : List (List UInt8) :=
  (bs.splitOnP isLineEnd).filter fun l => !l.isEmpty

/-- The name and the value of a line, from before the first colon and after the space behind it. -/
def readField? (l : List UInt8) : Option (String × String) := do
  let name ← Url.decodeUtf8? (l.takeWhile (· ≠ 58))
  let value ← Url.decodeUtf8? ((l.dropWhile (· ≠ 58)).drop 2)
  return (name, value)

/-- A line that is ended is the first one. -/
theorem lines_append {l : List UInt8} (hl : ∀ b ∈ l, isLineEnd b = false) (hne : l ≠ [])
    (rest : List UInt8) : lines (l ++ 13 :: 10 :: rest) = l :: lines rest := by
  have hfeed : (10 :: rest).splitOnP isLineEnd = [] :: rest.splitOnP isLineEnd := by
    rw [List.splitOnP_cons_eq_if_modifyHead]
    exact if_pos (by decide)
  have hsplit : (l ++ 13 :: 10 :: rest).splitOnP isLineEnd
      = l :: [] :: rest.splitOnP isLineEnd := by
    rw [List.splitOnP_append_cons_of_forall_mem hl 13 (by decide), hfeed]
  unfold lines
  rw [hsplit, List.filter_cons_of_pos (by simpa using hne), List.filter_cons_of_neg (by simp)]

/-- No byte of a header with a plain value ends a line. -/
theorem isLineEnd_of_mem_line {f : HeaderName × String} (h : HeaderValue.IsPlain f.2) {b : UInt8}
    (hb : b ∈ line f) : isLineEnd b = false := by
  have hrange : b.toNat ≠ 13 ∧ b.toNat ≠ 10 := by
    rcases Url.mem_bytesOf hb with ⟨c, hc, heq⟩ | hhigh
    · rw [List.mem_append, List.mem_cons, List.mem_cons] at hc
      rcases hc with hc | rfl | rfl | hc
      · have hvisible := (f.1.isToken.1.2 c hc).visible
        omega
      · rw [heq]
        decide
      · rw [heq]
        decide
      · rcases h c hc with rfl | hplain
        · rw [heq]
          decide
        · omega
    · omega
  unfold isLineEnd
  simp only [Bool.or_eq_false_iff, decide_eq_false_iff_not]
  constructor
  · rintro rfl
    exact hrange.1 rfl
  · rintro rfl
    exact hrange.2 rfl

theorem line_eq (f : HeaderName × String) :
    line f = bytesOf f.1.text.toList ++ 58 :: 32 :: bytesOf f.2.toList := by
  unfold line
  rw [Url.bytesOf_append]
  rfl

/-- **The lines that are seen are those that were sent**, since no byte of a header ends a line. -/
theorem lines_wire {fs : List (HeaderName × String)} (h : ∀ f ∈ fs, HeaderValue.IsPlain f.2) :
    lines (wire fs) = fs.map line := by
  induction fs with
  | nil => rfl
  | cons f rest ih =>
    obtain ⟨hf, hrest⟩ := List.forall_mem_cons.mp h
    have hne : line f ≠ [] := by
      rw [line_eq]
      exact List.append_ne_nil_of_right_ne_nil _ (List.cons_ne_nil _ _)
    have hcons : wire (f :: rest) = line f ++ 13 :: 10 :: wire rest := by
      unfold wire
      rw [List.flatMap_cons, List.append_assoc, List.cons_append, List.singleton_append]
    rw [hcons, lines_append (fun b hb => isLineEnd_of_mem_line hf hb) hne, ih hrest,
      List.map_cons]

/-- A line is read as its header: there is no colon in a name. -/
theorem readField?_line (f : HeaderName × String) : readField? (line f) = some (f.1.text, f.2) := by
  have hname : ∀ b ∈ bytesOf f.1.text.toList, decide (b ≠ 58) = true := by
    intro b hb
    rw [decide_eq_true_eq]
    rintro rfl
    rcases Url.mem_bytesOf hb with ⟨c, hc, heq⟩ | hhigh
    · exact (f.1.isToken.1.2 c hc).visible.2.2 (Char.toNat_inj.mp heq.symm)
    · revert hhigh
      decide
  have hfront : (line f).takeWhile (· ≠ 58) = bytesOf f.1.text.toList := by
    rw [line_eq, List.takeWhile_append_of_pos hname, List.takeWhile_cons_of_neg (by decide),
      List.append_nil]
  have hback : (line f).dropWhile (· ≠ 58) = 58 :: 32 :: bytesOf f.2.toList := by
    rw [line_eq, List.dropWhile_append_of_pos hname, List.dropWhile_cons_of_neg (by decide)]
  unfold readField?
  rw [hfront, hback, List.drop_succ_cons, List.drop_succ_cons, List.drop_zero,
    Url.decodeUtf8?_bytesOf, Url.decodeUtf8?_bytesOf, String.ofList_toList, String.ofList_toList]
  rfl

/-- **Headers with plain values are read as they were sent**, and no others: a value cannot smuggle
a header in. -/
theorem map_readField?_lines {fs : List (HeaderName × String)}
    (h : ∀ f ∈ fs, HeaderValue.IsPlain f.2) :
    (lines (wire fs)).map readField? = fs.map fun f => some (f.1.text, f.2) := by
  rw [lines_wire h, List.map_map]
  exact List.map_congr_left fun f _ => readField?_line f

end HeaderMap
end RestClient
