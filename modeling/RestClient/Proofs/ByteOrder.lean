import RestClient.Proofs.Percent

/-!
# The order of texts is that of their bytes

Texts are compared by their characters, and a format that orders them by their bytes comes to the
same (`bytesOf_lt_iff`). A character of more bytes has a greater first byte, and among characters of
as many bytes the digits to base sixty-four decide, which the bytes carry from the most significant
one down. So two texts differ in their bytes at the first character at which they differ, and there
in the same direction (`utf8EncodeChar_append_lt`).
-/

namespace RestClient.Url

/-- Of two numbers to base sixty-four the last digit decides where the others are the same. -/
theorem digits_lt {m n : Nat} (h : m < n) :
    m / 64 < n / 64 ∨ m / 64 = n / 64 ∧ m % 64 < n % 64 := by
  omega

/-- Bytes compare by the first of them that differs. -/
theorem ofNat_cons_lt {m n : Nat} {xs ys : List UInt8} (hn : n < 256)
    (h : m < n ∨ m = n ∧ xs < ys) : UInt8.ofNat m :: xs < UInt8.ofNat n :: ys := by
  rw [List.cons_lt_cons_iff, UInt8.lt_iff_toNat_lt, UInt8.toNat_ofNat', UInt8.toNat_ofNat']
  rcases h with h | ⟨rfl, h⟩
  · left
    omega
  · exact .inr ⟨rfl, h⟩

/-- **The bytes of a character say where it stands among others**, whatever follows. The first byte
tells how many there are, and a longer encoding begins with a greater one. -/
theorem utf8EncodeChar_append_lt {c d : Char} (h : c < d) (xs ys : List UInt8) :
    String.utf8EncodeChar c ++ xs < String.utf8EncodeChar d ++ ys := by
  have hlt : c.val.toNat < d.val.toNat := h
  have hmax : d.val.toNat < 0x110000 := by
    rcases d.valid with hd | ⟨-, hd⟩
    · omega
    · exact hd
  unfold String.utf8EncodeChar
  dsimp only
  generalize c.val.toNat = m at *
  generalize d.val.toNat = n at *
  have hsecond (h : m / 64 < n / 64) :
      m / 4096 < n / 4096 ∨ m / 4096 = n / 4096 ∧ m / 64 % 64 < n / 64 % 64 := by
    simpa [Nat.div_div_eq_div_mul] using digits_lt h
  have hthird (h : m / 4096 < n / 4096) :
      m / 262144 < n / 262144 ∨ m / 262144 = n / 262144 ∧ m / 4096 % 64 < n / 4096 % 64 := by
    simpa [Nat.div_div_eq_div_mul] using digits_lt h
  repeat' split
  -- a character of more bytes has a greater first byte, and one of fewer bytes is not greater
  all_goals
    first
    | exact ofNat_cons_lt (by omega) (.inl (by omega))
    | omega
    | skip
  -- two, three or four bytes on both sides
  · refine ofNat_cons_lt (by omega) ?_
    rcases digits_lt hlt with h1 | ⟨h1, h0⟩
    · exact .inl (by omega)
    · exact .inr ⟨by omega, ofNat_cons_lt (by omega) (.inl (by omega))⟩
  · refine ofNat_cons_lt (by omega) ?_
    rcases digits_lt hlt with h1 | ⟨h1, h0⟩
    · rcases hsecond h1 with h2 | ⟨h2, h1⟩
      · exact .inl (by omega)
      · exact .inr ⟨by omega, ofNat_cons_lt (by omega) (.inl (by omega))⟩
    · refine .inr ⟨by omega, ofNat_cons_lt (by omega) (.inr ⟨by omega, ?_⟩)⟩
      exact ofNat_cons_lt (by omega) (.inl (by omega))
  · refine ofNat_cons_lt (by omega) ?_
    rcases digits_lt hlt with h1 | ⟨h1, h0⟩
    · rcases hsecond h1 with h2 | ⟨h2, h1⟩
      · rcases hthird h2 with h3 | ⟨h3, h2⟩
        · exact .inl (by omega)
        · exact .inr ⟨by omega, ofNat_cons_lt (by omega) (.inl (by omega))⟩
      · refine .inr ⟨by omega, ofNat_cons_lt (by omega) (.inr ⟨by omega, ?_⟩)⟩
        exact ofNat_cons_lt (by omega) (.inl (by omega))
    · refine .inr ⟨by omega, ofNat_cons_lt (by omega) (.inr ⟨by omega, ?_⟩)⟩
      refine ofNat_cons_lt (by omega) (.inr ⟨by omega, ?_⟩)
      exact ofNat_cons_lt (by omega) (.inl (by omega))

theorem bytesOf_lt {s t : List Char} (h : s < t) : bytesOf s < bytesOf t := by
  induction t generalizing s with
  | nil => cases h
  | cons d t ih =>
    cases s with
    | nil =>
      rw [bytesOf_nil, bytesOf_cons]
      cases hd : String.utf8EncodeChar d with
      | nil => exact absurd hd String.utf8EncodeChar_ne_nil
      | cons b bs => exact List.nil_lt_cons _ _
    | cons c s =>
      rw [bytesOf_cons, bytesOf_cons]
      rcases List.cons_lt_cons_iff.mp h with hc | ⟨rfl, hrest⟩
      · exact utf8EncodeChar_append_lt hc _ _
      · exact List.append_left_lt (ih hrest)

/-- **Texts are in the order of their bytes.** The code points of their characters are in the same
order as the bytes that encode them. -/
theorem bytesOf_lt_iff {s t : String} : bytesOf s.toList < bytesOf t.toList ↔ s < t := by
  refine ⟨fun h => ?_, fun h => bytesOf_lt (String.lt_iff.mp h)⟩
  -- the other two cases of the characters would be cases of the bytes as well
  rcases Std.lt_trichotomy s t with hst | rfl | hts
  · exact hst
  · exact absurd h (List.lt_irrefl _)
  · exact absurd h (List.lt_asymm (bytesOf_lt (String.lt_iff.mp hts)))

end RestClient.Url
