import RestClient.Url.Percent

/-!
# Percent-encoding loses nothing

A text that was encoded is read back as its bytes (`percentDecode_percentEncode`), as long as the
percent sign is among the characters that are encoded: otherwise a percent sign that was there
before could be taken for one that encodes. And the bytes of a text are read back as the text
(`decodeUtf8?_bytesOf`), so different texts have different bytes.

What an encoded text holds is said once, by `mem_percentEncode`: the characters that are not
reserved, percent signs and digits. That no encoded text holds a separator follows from it in one
line for each separator.
-/

namespace RestClient.Url

/-! ## Bytes of texts -/

@[simp] theorem bytesOf_nil : bytesOf [] = [] := rfl

@[simp] theorem bytesOf_cons (c : Char) (cs : List Char) :
    bytesOf (c :: cs) = String.utf8EncodeChar c ++ bytesOf cs := rfl

/-- **The bytes of a text are read as the text**, so the bytes of an address determine the texts in
it. -/
theorem decodeUtf8?_bytesOf (cs : List Char) :
    decodeUtf8? (bytesOf cs) = some (String.ofList cs) := by
  have hbytes : (⟨(bytesOf cs).toArray⟩ : ByteArray) = (String.ofList cs).toByteArray := by
    rw [String.toByteArray_ofList]
    ext1
    simp [List.utf8Encode, bytesOf]
  have hvalid := (String.ofList cs).isValidUTF8
  unfold decodeUtf8? String.fromUTF8?
  rw [hbytes, dif_pos hvalid]
  rfl

/-- Different texts have different bytes. -/
theorem bytesOf_inj {cs ds : List Char} (h : bytesOf cs = bytesOf ds) : cs = ds := by
  have hs := congrArg decodeUtf8? h
  rw [decodeUtf8?_bytesOf, decodeUtf8?_bytesOf, Option.some.injEq] at hs
  simpa using congrArg String.toList hs

/-! ## Reading back -/

/-- The value of a digit, for each of the sixteen. -/
theorem hexDigitValue_upperHexDigit {n : Nat} (h : n < 16) :
    hexDigitValue (upperHexDigit n) = some n := by
  have hall : ∀ n : Fin 16, hexDigitValue (upperHexDigit n) = some n.val := by decide
  exact hall ⟨n, h⟩

/-- The two digits of a byte. -/
theorem hexByte?_upperHexDigit (b : UInt8) :
    hexByte? (upperHexDigit (b.toNat / 16)) (upperHexDigit (b.toNat % 16)) = some b := by
  have hb : b.toNat < 256 := b.toNat_lt
  unfold hexByte?
  rw [hexDigitValue_upperHexDigit (by omega), hexDigitValue_upperHexDigit (by omega)]
  have hn : b.toNat / 16 * 16 + b.toNat % 16 = b.toNat := by omega
  show some (UInt8.ofNat (b.toNat / 16 * 16 + b.toNat % 16)) = some b
  rw [hn, UInt8.ofNat_toNat]

theorem percentDecode_percentByte (b : UInt8) (rest : List Char) :
    percentDecode (percentByte b ++ rest) = b :: percentDecode rest := by
  unfold percentByte
  rw [List.cons_append, List.cons_append, List.cons_append, List.nil_append]
  conv => lhs; unfold percentDecode
  simp only [hexByte?_upperHexDigit]

/-- A character other than the percent sign stands for itself. -/
theorem percentDecode_cons_of_ne {c : Char} (h : c ≠ '%') (rest : List Char) :
    percentDecode (c :: rest) = String.utf8EncodeChar c ++ percentDecode rest := by
  match rest with
  | [] => simp [percentDecode]
  | [d] => simp [percentDecode]
  | a :: b :: rest =>
    rw [percentDecode]
    exact fun _ hc _ => absurd hc h

theorem percentDecode_percentChar (c : Char) (rest : List Char) :
    percentDecode (percentChar c ++ rest) = String.utf8EncodeChar c ++ percentDecode rest := by
  unfold percentChar
  induction String.utf8EncodeChar c with
  | nil => rfl
  | cons b bs ih =>
    rw [List.flatMap_cons, List.append_assoc, percentDecode_percentByte, ih, List.cons_append]

theorem percentEncode_cons (reserved : Char → Bool) (c : Char) (cs : List Char) :
    percentEncode reserved (c :: cs)
      = (if reserved c then percentChar c else [c]) ++ percentEncode reserved cs := rfl

/-- **An encoded text is read back as its bytes**, whatever else is reserved, as long as the percent
sign is. Otherwise a percent sign in the text could be taken for the beginning of an encoded
byte. -/
theorem percentDecode_percentEncode {reserved : Char → Bool} (h : reserved '%' = true)
    (cs : List Char) : percentDecode (percentEncode reserved cs) = bytesOf cs := by
  induction cs with
  | nil => rfl
  | cons c cs ih =>
    rw [percentEncode_cons]
    split
    · rw [percentDecode_percentChar, ih, bytesOf_cons]
    · next hc =>
      have hne : c ≠ '%' := by
        rintro rfl
        exact hc h
      rw [List.singleton_append, percentDecode_cons_of_ne hne, ih, bytesOf_cons]

/-! ## What an encoded text holds -/

/-- A text without reserved characters stands for itself. -/
theorem percentEncode_eq_self {reserved : Char → Bool} {cs : List Char}
    (h : ∀ c ∈ cs, reserved c = false) : percentEncode reserved cs = cs := by
  induction cs with
  | nil => rfl
  | cons c cs ih =>
    rw [List.forall_mem_cons] at h
    rw [percentEncode_cons, if_neg (by simp [h.1]), ih h.2, List.singleton_append]

/-- Nothing but the empty text is encoded as nothing. -/
theorem percentEncode_eq_nil_iff (reserved : Char → Bool) {cs : List Char} :
    percentEncode reserved cs = [] ↔ cs = [] := by
  cases cs with
  | nil => exact ⟨fun _ => rfl, fun _ => rfl⟩
  | cons c cs =>
    have hc : percentChar c ≠ [] := by
      obtain ⟨b, bs, hb⟩ := List.exists_cons_of_ne_nil (String.utf8EncodeChar_ne_nil (c := c))
      simp [percentChar, hb, percentByte]
    rw [percentEncode_cons]
    split <;> simp [hc]

/-- A character that stands in an encoded byte. -/
def isPercentOrDigit (c : Char) : Bool := c = '%' || c.isDigit || c.isUpper

theorem isPercentOrDigit_upperHexDigit {n : Nat} (h : n < 16) :
    isPercentOrDigit (upperHexDigit n) = true := by
  have hall : ∀ n : Fin 16, isPercentOrDigit (upperHexDigit n) = true := by decide
  exact hall ⟨n, h⟩

theorem isPercentOrDigit_of_mem_percentChar {c d : Char} (h : d ∈ percentChar c) :
    isPercentOrDigit d = true := by
  unfold percentChar at h
  obtain ⟨b, -, hd⟩ := List.mem_flatMap.mp h
  have hb : b.toNat < 256 := b.toNat_lt
  simp only [percentByte, List.mem_cons, List.not_mem_nil, or_false] at hd
  rcases hd with rfl | rfl | rfl
  · decide
  · exact isPercentOrDigit_upperHexDigit (by omega)
  · exact isPercentOrDigit_upperHexDigit (by omega)

/-- An encoded text holds characters of the text that are not reserved, percent signs and digits. -/
theorem mem_percentEncode {reserved : Char → Bool} {cs : List Char} {d : Char}
    (h : d ∈ percentEncode reserved cs) :
    (d ∈ cs ∧ reserved d = false) ∨ isPercentOrDigit d = true := by
  obtain ⟨c, hc, hd⟩ := List.mem_flatMap.mp h
  split at hd
  · exact .inr (isPercentOrDigit_of_mem_percentChar hd)
  · next hreserved =>
    rw [List.mem_singleton] at hd
    subst hd
    exact .inl ⟨hc, by simpa using hreserved⟩

/-- Encoding adds nothing but percent signs and digits. -/
theorem not_mem_percentEncode_of_not_mem {sign : Char} {cs : List Char} (hcs : sign ∉ cs)
    (hdigit : isPercentOrDigit sign = false) (reserved : Char → Bool) :
    sign ∉ percentEncode reserved cs := by
  intro h
  rcases mem_percentEncode h with ⟨h, -⟩ | h
  · exact hcs h
  · rw [hdigit] at h
    cases h

/-- A reserved sign does not stand in an encoded text. -/
theorem not_mem_percentEncode {reserved : Char → Bool} {sign : Char}
    (hreserved : reserved sign = true) (hdigit : isPercentOrDigit sign = false)
    (cs : List Char) : sign ∉ percentEncode reserved cs := by
  intro h
  rcases mem_percentEncode h with ⟨-, h⟩ | h
  · rw [hreserved] at h
    cases h
  · rw [hdigit] at h
    cases h

end RestClient.Url
