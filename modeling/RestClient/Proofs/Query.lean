import RestClient.Proofs.Percent
import RestClient.Url.Form

/-!
# Pairs in a query are read back

Pairs that are put behind a query are decoded again as they were, after the pairs that the query
held before (`Form.decode_append`). The two separators make this work: an encoded name or value
holds neither an ampersand nor an equals sign (`Form.mem_encode`), so a pair ends where it was
ended, and the query in front is split the same way with anything behind its last ampersand
(`Form.decode_ampersand`).

Decoding gives bytes. Those of an encoded text are the bytes of the text, and the text can be read
from them (`decodeUtf8?_bytesOf`).
-/

namespace RestClient.Url

namespace Form

/-! ## One name or value -/

/-- What stands in an encoded name or value. -/
theorem mem_encode {s : String} {d : Char} (h : d ∈ encode s) :
    isPlain d = true ∨ d = '+' ∨ isPercentOrDigit d = true := by
  obtain ⟨c, -, hd⟩ := List.mem_flatMap.mp h
  unfold encodeChar at hd
  split at hd
  · exact .inr (.inl (List.mem_singleton.mp hd))
  · split at hd
    · next hplain =>
      rw [List.mem_singleton] at hd
      subst hd
      exact .inl hplain
    · exact .inr (.inr (isPercentOrDigit_of_mem_percentChar hd))

theorem not_mem_encode {sep : Char} (hplain : isPlain sep = false) (hplus : sep ≠ '+')
    (hdigit : isPercentOrDigit sep = false) (s : String) : sep ∉ encode s := by
  intro h
  rcases mem_encode h with h | h | h
  · rw [hplain] at h
    cases h
  · exact hplus h
  · rw [hdigit] at h
    cases h

theorem equals_not_mem_encode (s : String) : '=' ∉ encode s :=
  not_mem_encode (by decide) (by decide) (by decide) s

/-- An encoded byte holds no plus sign that could be taken for a space. -/
theorem map_plus_percentChar (c : Char) :
    (percentChar c).map (fun d => if d = '+' then ' ' else d) = percentChar c := by
  refine (List.map_congr_left fun d hd => if_neg ?_).trans (List.map_id _)
  rintro rfl
  have h := isPercentOrDigit_of_mem_percentChar hd
  revert h
  decide

/-- A character is read back as its bytes, whatever follows. -/
theorem decodeBytes_encodeChar (c : Char) (rest : List Char) :
    decodeBytes (encodeChar c ++ rest) = String.utf8EncodeChar c ++ decodeBytes rest := by
  unfold decodeBytes encodeChar
  rw [List.map_append]
  split
  · next h =>
    subst h
    exact percentDecode_cons_of_ne (by decide) _
  · split
    · next hplain =>
      have hplus : c ≠ '+' := by
        rintro rfl
        revert hplain
        decide
      have hpercent : c ≠ '%' := by
        rintro rfl
        revert hplain
        decide
      rw [List.map_singleton, if_neg hplus, List.singleton_append,
        percentDecode_cons_of_ne hpercent]
    · rw [map_plus_percentChar, percentDecode_percentChar]

/-- **An encoded name or value is read back as its bytes**, spaces among them, which stand as plus
signs. -/
theorem decodeBytes_encode (s : String) : decodeBytes (encode s) = bytesOf s.toList := by
  unfold encode
  induction s.toList with
  | nil => rfl
  | cons c cs ih => rw [List.flatMap_cons, decodeBytes_encodeChar, ih, bytesOf_cons]

/-! ## One pair -/

/-- A pair as bytes. -/
def pairBytes (p : String × String) : List UInt8 × List UInt8 :=
  (bytesOf p.1.toList, bytesOf p.2.toList)

/-- A sign that is always encoded stands in no pair, unless it separates name and value. -/
theorem not_mem_pairText {sep : Char} (hplain : isPlain sep = false) (hplus : sep ≠ '+')
    (hdigit : isPercentOrDigit sep = false) (hequals : sep ≠ '=') (p : String × String) :
    sep ∉ pairText p := by
  unfold pairText
  rw [List.mem_append, List.mem_cons]
  rintro (h | h | h)
  · exact not_mem_encode hplain hplus hdigit _ h
  · exact hequals h
  · exact not_mem_encode hplain hplus hdigit _ h

theorem ampersand_not_mem_pairText (p : String × String) : '&' ∉ pairText p :=
  not_mem_pairText (by decide) (by decide) (by decide) (by decide) p

theorem hash_not_mem_pairText (p : String × String) : '#' ∉ pairText p :=
  not_mem_pairText (by decide) (by decide) (by decide) (by decide) p

/-- **A pair is read back as its bytes**: the sign between name and value is encoded wherever else
it stands. -/
theorem decodePair_pairText (p : String × String) : decodePair (pairText p) = pairBytes p := by
  have hname : ∀ c ∈ encode p.1, decide (c ≠ '=') = true := by
    intro c hc
    rw [decide_eq_true_eq]
    rintro rfl
    exact equals_not_mem_encode _ hc
  -- The name holds no equals sign, so the pair is cut at the one behind it.
  unfold decodePair pairText pairBytes
  rw [List.takeWhile_append_of_pos hname, List.dropWhile_append_of_pos hname]
  simp [decodeBytes_encode]

/-- A pair of bytes as texts, if they are those of texts. -/
def readPair (p : List UInt8 × List UInt8) : Option (String × String) := do
  let name ← decodeUtf8? p.1
  let value ← decodeUtf8? p.2
  return (name, value)

/-- The texts of a pair are read from its bytes. -/
theorem readPair_pairBytes (p : String × String) : readPair (pairBytes p) = some p := by
  unfold readPair pairBytes
  rw [decodeUtf8?_bytesOf, decodeUtf8?_bytesOf, String.ofList_toList, String.ofList_toList]
  rfl

/-! ## Queries -/

theorem decode_nil : decode [] = [] := rfl

theorem append_cons (text : List Char) (p : String × String) (ps : List (String × String)) :
    append text (p :: ps)
      = append (if text.isEmpty then pairText p else text ++ '&' :: pairText p) ps := rfl

/-- A query goes on behind an ampersand. -/
theorem decode_ampersand (cs ds : List Char) :
    decode (cs ++ '&' :: ds) = decode cs ++ decode ds := by
  unfold decode
  rw [Text.split_append, List.filter_append, List.map_append]

theorem decode_pairText (p : String × String) : decode (pairText p) = [pairBytes p] := by
  have hne : (pairText p).isEmpty = false := by simp [pairText]
  unfold decode
  rw [Text.split_of_not_mem (ampersand_not_mem_pairText p)]
  simp [hne, decodePair_pairText]

/-- **Pairs behind a query are read back after the pairs of the query**, in order, and the query is
read as it was before. -/
theorem decode_append (text : List Char) (pairs : List (String × String)) :
    decode (append text pairs) = decode text ++ pairs.map pairBytes := by
  induction pairs generalizing text with
  | nil => simp [append]
  | cons p ps ih =>
    rw [append_cons, ih, List.map_cons]
    -- A pair is the first one, or it goes behind an ampersand.
    split
    · next h =>
      rw [List.isEmpty_iff.mp h, decode_pairText, decode_nil]
      rfl
    · rw [decode_ampersand, decode_pairText, List.append_assoc]
      rfl

/-- No pair ends the query early: a hash in it was there before. -/
theorem hash_not_mem_append {text : List Char} (h : '#' ∉ text)
    (pairs : List (String × String)) : '#' ∉ append text pairs := by
  induction pairs generalizing text with
  | nil => exact h
  | cons p ps ih =>
    rw [append_cons]
    refine ih ?_
    split
    · exact hash_not_mem_pairText p
    · rw [List.mem_append, List.mem_cons]
      rintro (ht | ht | ht)
      · exact h ht
      · revert ht
        decide
      · exact hash_not_mem_pairText p ht

end Form

/-! ## Addresses -/

/-- Only the query changes. -/
theorem appendPairs_eq (u : Url) (pairs : List (String × String)) :
    u.appendPairs pairs = { u with query? := (u.appendPairs pairs).query? } := by
  unfold appendPairs
  split <;> rfl

theorem query?_appendPairs (u : Url) {pairs : List (String × String)} (h : pairs ≠ []) :
    (u.appendPairs pairs).query?
      = some (String.ofList (Form.append (u.query?.getD "").toList pairs)) := by
  have hne : ¬ pairs.isEmpty = true := mt List.isEmpty_iff.mp h
  unfold appendPairs
  rw [if_neg hne]

end RestClient.Url
