import RestClient.Proofs.Percent
import RestClient.Url.Parse

/-!
# Dot segments of encoded text

An address resolves a segment of one or two dots, and a dot may be written as `%2e` there, in either
case. Encoding a segment produces percent signs, so it has to be shown that it never produces one of
these spellings: whatever is read as dots decodes to the bytes of dots
(`percentDecode_of_isSingleDot`, `percentDecode_of_isDoubleDot`), and an encoded segment decodes to
its own bytes. So a segment is a dot segment after encoding only if it was one before
(`isSingleDot_percentEncode`, `isDoubleDot_percentEncode`).
-/

namespace RestClient.Url


theorem toLower_cases (c : Char) :
    c.toLower = c ∨ (c.toLower.toNat = c.toNat + 32 ∧ 65 ≤ c.toNat ∧ c.toNat ≤ 90) := by
  unfold Char.toLower
  split
  · next h =>
    right
    obtain ⟨hlo, hhi⟩ := h
    have hlo' : 65 ≤ c.val.toNat := hlo
    have hhi' : c.val.toNat ≤ 90 := hhi
    refine ⟨?_, hlo', hhi'⟩
    show (c.val + 32).toNat = c.val.toNat + 32
    rw [UInt32.toNat_add]
    have : (32 : UInt32).toNat = 32 := rfl
    omega
  · exact .inl rfl

/-- Only letters have other characters above them. -/
theorem eq_of_toLower_eq {c d : Char} (h : c.toLower = d) (hd : d.toNat < 97) : c = d := by
  rcases toLower_cases c with hc | ⟨hc, hlo, -⟩
  · rw [← hc, h]
  · rw [h] at hc
    omega

theorem eq_of_toLower_eq_e {c : Char} (h : c.toLower = 'e') : c = 'e' ∨ c = 'E' := by
  rcases toLower_cases c with hc | ⟨hc, -, -⟩
  · exact .inl (by rw [← hc, h])
  · right
    rw [h] at hc
    have he : c.toNat = 'E'.toNat := by
      have : 'e'.toNat = 101 := rfl
      have : 'E'.toNat = 69 := rfl
      omega
    exact Char.toNat_inj.mp he

/-- The two ways to write a dot in an address. -/
def IsDot (cs : List Char) : Prop := cs = ['.'] ∨ cs = ['%', '2', 'e']

/-- However a dot is written, and in whichever case, it stands for the byte of a dot. -/
theorem percentDecode_dot {cs d rest : List Char} (hd : IsDot d)
    (h : cs.map Char.toLower = d ++ rest) :
    ∃ r, r.map Char.toLower = rest ∧ percentDecode cs = 0x2E :: percentDecode r := by
  obtain ⟨front, r, rfl, hfront, hr⟩ := List.map_eq_append_iff.mp h
  refine ⟨r, hr, ?_⟩
  rcases hd with rfl | rfl
  · obtain ⟨a, rfl, ha⟩ := List.map_eq_singleton_iff.mp hfront
    obtain rfl := eq_of_toLower_eq ha (by decide)
    exact percentDecode_cons_of_ne (by decide) r
  · obtain ⟨a, _, rfl, ha, hfront⟩ := List.map_eq_cons_iff.mp hfront
    obtain ⟨b, _, rfl, hb, hfront⟩ := List.map_eq_cons_iff.mp hfront
    obtain ⟨c, rfl, hc⟩ := List.map_eq_singleton_iff.mp hfront
    obtain rfl := eq_of_toLower_eq ha (by decide)
    obtain rfl := eq_of_toLower_eq hb (by decide)
    rcases eq_of_toLower_eq_e hc with rfl | rfl <;> rfl

theorem percentDecode_of_isSingleDot {cs : List Char} (h : isSingleDot cs = true) :
    percentDecode cs = bytesOf ['.'] := by
  have hd : ∃ d, IsDot d ∧ cs.map Char.toLower = d ++ [] := by
    unfold isSingleDot at h
    simp only [List.contains_iff_mem, List.mem_cons, List.not_mem_nil, or_false] at h
    rcases h with h | h <;> replace h := congrArg String.toList h <;>
      rw [String.toList_ofList] at h
    · exact ⟨['.'], .inl rfl, h⟩
    · exact ⟨['%', '2', 'e'], .inr rfl, h⟩
  obtain ⟨d, hd, h⟩ := hd
  obtain ⟨r, hr, hdec⟩ := percentDecode_dot hd h
  obtain rfl := List.map_eq_nil_iff.mp hr
  exact hdec

theorem percentDecode_of_isDoubleDot {cs : List Char} (h : isDoubleDot cs = true) :
    percentDecode cs = bytesOf ['.', '.'] := by
  have hd : ∃ d₁ d₂, IsDot d₁ ∧ IsDot d₂ ∧ cs.map Char.toLower = d₁ ++ (d₂ ++ []) := by
    unfold isDoubleDot at h
    simp only [List.contains_iff_mem, List.mem_cons, List.not_mem_nil, or_false] at h
    rcases h with h | h | h | h <;> replace h := congrArg String.toList h <;>
      rw [String.toList_ofList] at h
    · exact ⟨['.'], ['.'], .inl rfl, .inl rfl, h⟩
    · exact ⟨['.'], ['%', '2', 'e'], .inl rfl, .inr rfl, h⟩
    · exact ⟨['%', '2', 'e'], ['.'], .inr rfl, .inl rfl, h⟩
    · exact ⟨['%', '2', 'e'], ['%', '2', 'e'], .inr rfl, .inr rfl, h⟩
  obtain ⟨d₁, d₂, hd₁, hd₂, h⟩ := hd
  obtain ⟨r, hr, hdec⟩ := percentDecode_dot hd₁ h
  obtain ⟨q, hq, hdec'⟩ := percentDecode_dot hd₂ hr
  obtain rfl := List.map_eq_nil_iff.mp hq
  rw [hdec, hdec']
  rfl

/-- **Encoding makes no single dot out of anything else**: a segment that is taken for the one it is
in after encoding was written so before, since the percent sign of an encoded dot is encoded
itself. -/
theorem isSingleDot_percentEncode {cs : List Char} :
    isSingleDot (percentEncode inSpecialSegment cs) = true ↔ cs = ['.'] := by
  constructor
  · intro h
    have hdec := percentDecode_of_isSingleDot h
    rw [percentDecode_percentEncode (by decide)] at hdec
    exact bytesOf_inj hdec
  · rintro rfl
    have hplain : inSpecialSegment '.' = false := by decide
    rw [percentEncode_eq_self (by simp [hplain])]
    decide

/-- **Encoding makes no two dots out of anything else**, not even out of dots of which one or both
are encoded already. -/
theorem isDoubleDot_percentEncode {cs : List Char} :
    isDoubleDot (percentEncode inSpecialSegment cs) = true ↔ cs = ['.', '.'] := by
  constructor
  · intro h
    have hdec := percentDecode_of_isDoubleDot h
    rw [percentDecode_percentEncode (by decide)] at hdec
    exact bytesOf_inj hdec
  · rintro rfl
    have hplain : inSpecialSegment '.' = false := by decide
    rw [percentEncode_eq_self (by simp [hplain])]
    decide

end RestClient.Url
