import Mathlib.Data.List.Induction
import Mathlib.Data.List.TakeWhile
import RestClient.Json.Tree
import RestClient.Proofs.Except
import RestClient.Proofs.Lockstep
import RestClient.Proofs.Rereading
import RestClient.Proofs.TextBodies

/-!
# Keys of maps

The keys of a map are the keys of an object, read as values of a type. Straight from a text an
integer key is a numeral between quotes, and a truth value a word; of a dynamic value the key is a
string already, in which the same is looked for. Both find the same (`readKey_together`), and a key
is found in one string only (`keyOf_eq_ok`): an integer in its own digits, since a numeral has no
zeros in front and any other form of it is no integer (`signedNumeral_eq_int`).
-/

namespace RestClient.Json

open Except (Together)

/-! ## Integers -/

theorem isDigit_bounds {c : Char} (h : isDigit c = true) : 48 ≤ c.toNat ∧ c.toNat ≤ 57 := by
  simp only [isDigit, Bool.and_eq_true, decide_eq_true_eq] at h
  exact h

theorem digitChar_of_isDigit {c : Char} (h : isDigit c = true) :
    Nat.digitChar (c.toNat - '0'.toNat) = c := by
  have hchar : ∀ n < 10, Nat.digitChar n = Char.ofNat (n + 48) := by decide
  have hzero : '0'.toNat = 48 := rfl
  obtain ⟨hlow, hhigh⟩ := isDigit_bounds h
  rw [hzero, hchar _ (by omega), Nat.sub_add_cancel hlow, Char.ofNat_toNat]

/-- A number whose digits do not begin with a zero is not zero. -/
theorem ofDigitChars_pos {c : Char} {r : List Char} (hdigit : isDigit c = true) (hc : c ≠ '0') :
    0 < Nat.ofDigitChars 10 (c :: r) 0 := by
  have hle := le_ofDigitChars (10 * 0 + (c.toNat - '0'.toNat)) r
  have hzero : '0'.toNat = 48 := rfl
  have hne : c.toNat ≠ 48 := fun heq => hc (Char.toNat_inj.mp heq)
  obtain ⟨hlow, -⟩ := isDigit_bounds hdigit
  rw [Nat.ofDigitChars_cons]
  omega

/-- **The digits of a whole number are the only ones it has**: with no zero in front there is no
other way to write it. -/
theorem toDigits_ofDigitChars {ds : List Char} (h : IsWholeText ds) :
    Nat.toDigits 10 (Nat.ofDigitChars 10 ds 0) = ds := by
  induction ds using List.reverseRecOn with
  | nil => exact absurd rfl h.ne_nil
  | append_singleton init c ih =>
    obtain ⟨hdigits, hfront⟩ := h
    obtain ⟨hinit, hc⟩ := List.forall_mem_append.mp hdigits
    have hdigit := hc c List.mem_cons_self
    have hlast : c.toNat - '0'.toNat < 10 := by
      have hzero : '0'.toNat = 48 := rfl
      obtain ⟨-, hhigh⟩ := isDigit_bounds hdigit
      omega
    rw [Nat.ofDigitChars_append, Nat.ofDigitChars_cons, Nat.ofDigitChars_nil]
    cases init with
    | nil =>
      rw [Nat.ofDigitChars_nil, Nat.mul_zero, Nat.zero_add, Nat.toDigits_eq_if (by decide),
        if_pos hlast, digitChar_of_isDigit hdigit]
      rfl
    | cons d init =>
      obtain ⟨_, _, heq, hzero⟩ := hfront
      obtain ⟨rfl, rfl⟩ := List.cons.inj heq
      have hd : d ≠ '0' := fun hd => absurd (hzero hd) (by simp)
      have hpos := ofDigitChars_pos (r := init) (hinit d List.mem_cons_self) hd
      have hwhole : IsWholeText (d :: init) := ⟨hinit, d, init, rfl, fun heq => absurd heq hd⟩
      generalize Nat.ofDigitChars 10 (d :: init) 0 = n at hpos ih
      rw [Nat.toDigits_eq_if (by decide), if_neg (by omega),
        Nat.mul_add_div (by decide), Nat.div_eq_of_lt hlast, Nat.add_zero, ih hwhole,
        Nat.mul_add_mod, Nat.mod_eq_of_lt hlast, digitChar_of_isDigit hdigit]

theorem takeDigits_of_whole {limit acc : Nat} {cs : List Char}
    (h : (takeDigits limit acc cs).2.2 = []) (hacc : acc ≤ limit) :
    (takeDigits limit acc cs).1 = Nat.ofDigitChars 10 cs acc ∧
    Nat.ofDigitChars 10 cs acc ≤ limit := by
  induction cs generalizing acc with
  | nil => exact ⟨rfl, hacc⟩
  | cons c cs ih =>
    have hnext : acc * 10 + digitValue c = 10 * acc + (c.toNat - '0'.toNat) := by
      rw [Nat.mul_comm]
      rfl
    rw [takeDigits] at h ⊢
    rw [hnext] at h ⊢
    dsimp only at h ⊢
    split at h
    · next hle =>
      rw [if_pos hle, Nat.ofDigitChars_cons]
      exact ih h hle
    · cases h

theorem scaled_ne_int {negative : Bool} {significand : Nat} {exponent m : Int} :
    scaled negative significand exponent ≠ .ok (.int m) := by
  unfold scaled
  intro h
  dsimp only at h
  split at h
  · split at h
    · split at h <;> cases h
    · split at h <;> cases h
  · cases h

theorem exponentPart_ne_int {negative : Bool} {significand : Nat} {shift m : Int}
    {cs r : List Char} : exponentPart negative significand shift cs ≠ .ok (.int m, r) := by
  unfold exponentPart
  intro h
  split at h
  dsimp only at h
  split at h
  · cases h
  · split at h
    · obtain ⟨n, hn, heq⟩ := Except.map_eq_ok.mp h
      cases heq
      exact scaled_ne_int hn
    · split at h <;> cases h

theorem fractionPart_ne_int {negative : Bool} {significand : Nat} {shift m : Int}
    {cs r : List Char} : fractionPart negative significand shift cs ≠ .ok (.int m, r) := by
  unfold fractionPart
  intro h
  dsimp only at h
  split at h
  · cases h
  · split at h
    · exact exponentPart_ne_int h
    · exact exponentPart_ne_int h
    · obtain ⟨n, hn, heq⟩ := Except.map_eq_ok.mp h
      cases heq
      exact scaled_ne_int hn

/-- Only digits that were all taken are an integer, and only if nothing else of a numeral
follows. -/
theorem afterInteger_eq_int {negative : Bool} {significand : Nat} {shift m : Int}
    {cs r : List Char} (h : afterInteger negative significand shift cs = .ok (.int m, r)) :
    shift = 0 ∧ wholeNumber negative significand = .int m ∧ cs = r := by
  unfold afterInteger at h
  split at h
  · exact absurd h fractionPart_ne_int
  · exact absurd h exponentPart_ne_int
  · exact absurd h exponentPart_ne_int
  · split at h
    · next hshift =>
      obtain ⟨hwhole, hrest⟩ := Prod.mk.inj (Except.ok.inj h)
      exact ⟨hshift, hwhole, hrest⟩
    · obtain ⟨n, hn, heq⟩ := Except.map_eq_ok.mp h
      cases heq
      exact absurd hn scaled_ne_int

/-- **An integer that is read is read from its own digits**: a fraction, an exponent and zeros in
front all lead to something else. -/
theorem numeral_eq_int {negative : Bool} {m : Int} {cs r : List Char}
    (h : numeral negative cs = .ok (.int m, r)) :
    ∃ n ≤ maxSignificand, wholeNumber negative n = .int m ∧ cs = Nat.toDigits 10 n ++ r := by
  unfold numeral at h
  split at h
  · cases h
  · next rest =>
    have hzero : afterInteger negative 0 0 rest = .ok (.int m, r) := by
      split at h
      · split at h
        · cases h
        · exact h
      · exact h
    obtain ⟨-, hwhole, rfl⟩ := afterInteger_eq_int hzero
    exact ⟨0, Nat.zero_le _, hwhole, rfl⟩
  · next c rest hc =>
    split at h
    · next hdigit =>
      dsimp only at h
      obtain ⟨hshift, hwhole, rfl⟩ := afterInteger_eq_int h
      have hall := List.eq_nil_of_length_eq_zero (Int.ofNat_eq_zero.mp hshift)
      obtain ⟨hvalue, hle⟩ := takeDigits_of_whole hall (Nat.zero_le _)
      have hdigits : IsWholeText (c :: rest.takeWhile isDigit) :=
        ⟨List.forall_mem_cons.mpr ⟨hdigit, fun d hd => List.mem_takeWhile_imp hd⟩,
          c, _, rfl, fun heq => absurd heq hc⟩
      refine ⟨_, hle, hvalue ▸ hwhole, ?_⟩
      rw [toDigits_ofDigitChars hdigits, List.cons_append, List.takeWhile_append_dropWhile]
    · cases h

theorem wholeNumber_eq_int {n : Nat} {m : Int} (h : wholeNumber true n = .int m) :
    n ≠ 0 ∧ n ≤ Nat.pow 2 63 ∧ m = -(n : Int) := by
  unfold wholeNumber at h
  rw [if_pos rfl] at h
  split at h
  · cases h
  · next hfits =>
    simp only [Bool.or_eq_true, decide_eq_true_eq, not_or, Nat.not_lt] at hfits
    exact ⟨hfits.1, hfits.2, (Number.int.inj h).symm⟩

/-- **An integer that is read, with its sign, is read from its own text**, and sixty-four bits hold
it. -/
theorem signedNumeral_eq_int {m : Int} {cs r : List Char}
    (h : signedNumeral cs = .ok (.int m, r)) :
    (Number.int m).IsWhole ∧ cs = intText m ++ r := by
  have hmin : Int.pow 2 63 = 9223372036854775808 := rfl
  have hmax : Int.pow 2 64 = 18446744073709551616 := rfl
  have hlow : Nat.pow 2 63 = 9223372036854775808 := rfl
  have hlimit : maxSignificand = 18446744073709551615 := rfl
  unfold signedNumeral at h
  split at h
  · obtain ⟨n, -, hwhole, rfl⟩ := numeral_eq_int h
    obtain ⟨hne, hn, rfl⟩ := wholeNumber_eq_int hwhole
    obtain ⟨k, rfl⟩ := Nat.exists_eq_succ_of_ne_zero hne
    refine ⟨⟨?_, ?_⟩, rfl⟩
    · omega
    · omega
  · obtain ⟨n, hn, hwhole, rfl⟩ := numeral_eq_int h
    cases hwhole
    refine ⟨⟨?_, ?_⟩, rfl⟩
    · omega
    · omega

/-! ## The string of a key -/

/-- A string of characters that stand for themselves is read as it is. -/
theorem readString_of_plain {cs : List Char} (h : ∀ c ∈ cs, escapedChar c = [c]) (r : List Char) :
    readString (cs ++ '"' :: r) = .ok (String.ofList cs, r) := by
  have hescaped : (String.ofList cs).toList.flatMap escapedChar = cs := by
    rw [String.toList_ofList]
    induction cs with
    | nil => rfl
    | cons c cs ih =>
      obtain ⟨hc, hcs⟩ := List.forall_mem_cons.mp h
      rw [List.flatMap_cons, hc, ih hcs]
      rfl
  have hread := readString_stringText (String.ofList cs) r
  rwa [hescaped] at hread

theorem escapedChar_of_mem_intText {m : Int} {c : Char} (h : c ∈ intText m) :
    escapedChar c = [c] := by
  rcases mem_intText h with rfl | hdigit
  · rfl
  · obtain ⟨hlow, hhigh⟩ := isDigit_bounds hdigit
    have hquote : c ≠ '"' := by
      rintro rfl
      cases hdigit
    have hslash : c ≠ '\\' := by
      rintro rfl
      cases hdigit
    rw [escapedChar, if_neg hquote, if_neg hslash, if_pos (by omega)]

/-- The string that a key is found in. -/
def keyText : Datum → String
  | .text s => s
  | .int _ m => String.ofList (intText m)
  | .bool b => if b then "true" else "false"
  | _ => ""

theorem int_of_ofScalar {kind : WordKind} {n : Number} {d : Datum}
    (h : unfit ((Shape.int kind).ofScalar n.toScalar) = .ok d) :
    ∃ m, n = .int m ∧ d = .int kind m ∧ kind.contains m = true := by
  have hscalar := Except.mapError_eq_ok.mp h
  cases n with
  | float x => cases hscalar
  | int m =>
    change (if kind.contains m then _ else _) = _ at hscalar
    split at hscalar
    · next hfits => exact ⟨m, rfl, (Except.ok.inj hscalar).symm, hfits⟩
    · cases hscalar

/-- **A key is found in its own string only**, and it is of its type. So different keys have
different names, and a key that is read from a name is written as this name again. -/
theorem keyOf_eq_ok {k : KeyShape} {s : String} {d : Datum} (h : keyOf k s = .ok d) :
    k.Holds d ∧ s = keyText d := by
  cases k with
  | text =>
    cases h
    exact ⟨.text s, rfl⟩
  | bool =>
    unfold keyOf at h
    dsimp only at h
    split at h
    · next hs =>
      cases h
      exact ⟨.bool true, hs⟩
    · split at h
      · next hs =>
        cases h
        exact ⟨.bool false, hs⟩
      · cases h
  | int kind =>
    unfold keyOf at h
    dsimp only at h
    split at h
    · obtain ⟨⟨n, r⟩, hread, h⟩ := Except.bind_eq_ok.mp h
      obtain ⟨d', hscalar, h⟩ := Except.bind_eq_ok.mp h
      obtain ⟨m, rfl, rfl, hfits⟩ := int_of_ofScalar hscalar
      obtain ⟨-, hs⟩ := signedNumeral_eq_int (Except.mapError_eq_ok.mp hread)
      split at h
      · next hr =>
        cases h
        obtain rfl : r = [] := List.isEmpty_iff.mp hr
        rw [List.append_nil] at hs
        exact ⟨.int hfits, by rw [keyText, ← hs, String.ofList_toList]⟩
      · cases h
    · cases h

theorem word_eq_ok {ws cs r : List Char} (h : word ws cs = .ok r) : cs = ws ++ r := by
  induction ws generalizing cs with
  | nil => exact Except.ok.inj h
  | cons w ws ih =>
    cases cs with
    | nil => cases h
    | cons c cs =>
      rw [word] at h
      split at h
      · next hc => rw [hc, ih h, List.cons_append]
      · cases h

/-- An integer is found as a key in its own text. -/
theorem keyOf_intText {kind : WordKind} {m : Int} (hwhole : (Number.int m).IsWhole)
    (hfits : kind.contains m = true) :
    keyOf (.int kind) (String.ofList (intText m)) = .ok (.int kind m) := by
  have hread := signedNumeral_intText hwhole endsNumeral_nil
  have hstarts : (intText m).head?.any (fun c => isDigit c || c = '-') = true := by
    obtain ⟨c, r, h, hc⟩ := startsNumeral_intText m
    rw [h]
    simpa [or_comm] using hc
  rw [List.append_nil] at hread
  unfold keyOf
  dsimp only
  rw [String.toList_ofList, if_pos hstarts, hread]
  show (unfit ((Shape.int kind).ofScalar (.int m)) >>= _) = _
  rw [Shape.ofScalar, if_pos hfits]
  rfl

/-- A word between quotes is a key if its string is one. -/
theorem wordKey_together (letters : List Char) {ws : List Char} {b : Bool}
    (hplain : (letters.all fun c => escapedChar c = [c]) = true)
    (hkey : keyOf .bool (String.ofList letters) = .ok (.bool b)) {c : Char}
    (hws : c :: ws = letters ++ ['"']) (cs : List Char) :
    Together (SameRest fun d s => keyOf .bool s = .ok d)
      ((lift (word ws cs)).map (Datum.bool b, ·)) (readString (c :: cs)) := by
  rintro _ ⟨s, r⟩ hword hstring
  obtain ⟨rest, hrest, rfl⟩ := Except.map_eq_ok.mp hword
  obtain rfl := word_eq_ok (Except.mapError_eq_ok.mp hrest)
  have hread := readString_of_plain
    (fun c hc => of_decide_eq_true (List.all_eq_true.mp hplain c hc)) rest
  rw [← List.cons_append, hws, List.append_assoc, List.singleton_append, hread] at hstring
  cases hstring
  exact ⟨rfl, hkey⟩

theorem readBoolKey_together (cs : List Char) :
    Together (SameRest fun d s => keyOf .bool s = .ok d) (readBoolKey cs) (readString cs) := by
  unfold readBoolKey
  split
  · exact .error_left _ _
  · exact wordKey_together ['t', 'r', 'u', 'e'] rfl rfl rfl _
  · exact wordKey_together ['f', 'a', 'l', 's', 'e'] rfl rfl rfl _
  · exact .bind_left fun _ _ => .error_left _ _

theorem readIntKey_together (kind : WordKind) (cs : List Char) :
    Together (SameRest fun d s => keyOf (.int kind) s = .ok d) (readIntKey kind cs)
      (readString cs) := by
  unfold readIntKey
  split
  · refine .bind_left fun p hread => .bind_left fun d hscalar => ?_
    obtain ⟨m, hm, rfl, hfits⟩ := int_of_ofScalar hscalar
    obtain ⟨n, rest⟩ := p
    obtain rfl : n = .int m := hm
    obtain ⟨hwhole, rfl⟩ := signedNumeral_eq_int (Except.mapError_eq_ok.mp hread)
    dsimp only
    split
    · rw [readString_of_plain fun c hc => escapedChar_of_mem_intText hc]
      exact .ok ⟨rfl, keyOf_intText hwhole hfits⟩
    · exact .error_left _ _
  · exact .error_left _ _

/-- **A key is the same, read straight from a text or from its string**, though in the text a
numeral is read between the quotes and no string is made of it. -/
theorem readKey_together (k : KeyShape) (cs : List Char) :
    Together (SameRest fun d s => keyOf k s = .ok d) (readKey k cs) (readString cs) := by
  cases k with
  | text =>
    refine ((Together.refl (readString cs)).mapError_left Error.fault).map_left ?_
    rintro p _ rfl
    exact ⟨rfl, rfl⟩
  | bool => exact readBoolKey_together cs
  | int kind => exact readIntKey_together kind cs

end RestClient.Json
