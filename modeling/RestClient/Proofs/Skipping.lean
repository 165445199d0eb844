import RestClient.Proofs.Lockstep

/-!
# Values that are passed over

The value of a member that a record does not know is passed over by its form alone
(`Json.skipValue`): numerals may be out of range, strings may hold halves of pairs, and there is no
limit to the nesting. So more is passed over than can be read. But what can be read is passed over
up to the place where reading stops (`skipValue_together`).

For numerals and strings that is shown of the readers themselves, since passing over goes the same
way with less to remember: the digits are not added up, and of an escaped pair the two halves are
two units (`StringState.loose`). Lists and objects go through loops of their own on either side.
-/

namespace RestClient.Json

open Except (Together)

/-! ## Numerals -/

/-- What follows the sign of an exponent. -/
def afterSign (cs : List Char) : List Char :=
  match cs with
  | '+' :: r => r
  | '-' :: r => r
  | _ => cs

/-- The rest behind digits, of which there has to be one. -/
def afterDigits (cs : List Char) : Except Fault (List Char) :=
  match cs.takeWhile isDigit with
  | [] => .error .invalidNumber
  | _ => .ok (cs.dropWhile isDigit)

theorem skipExponent_eq (cs : List Char) : skipExponent cs = afterDigits (afterSign cs) := rfl

theorem afterDigits_eq_ok {cs : List Char} (h : cs.takeWhile isDigit = [] → False) :
    afterDigits cs = .ok (cs.dropWhile isDigit) := by
  unfold afterDigits
  split
  · next heq => exact (h heq).elim
  · rfl

/-- An exponent that is read is passed over up to the same place. -/
theorem skipExponent_of_exponentPart {negative : Bool} {significand : Nat} {shift : Int}
    {cs r : List Char} {n : Number} (h : exponentPart negative significand shift cs = .ok (n, r)) :
    skipExponent cs = .ok r := by
  unfold exponentPart at h
  split at h
  next down rest hsign =>
  obtain rfl : afterSign cs = rest := by
    split at hsign
    · exact (Prod.mk.inj hsign).2
    · exact (Prod.mk.inj hsign).2
    · next hplus hminus =>
      rw [afterSign.eq_3 cs hplus hminus]
      exact (Prod.mk.inj hsign).2
  rw [skipExponent_eq]
  simp only at h
  split at h
  · cases h
  · next hdigits =>
    rw [afterDigits_eq_ok hdigits]
    split at h
    · obtain ⟨_, -, h⟩ := Except.map_eq_ok.mp h
      rw [(Prod.mk.inj h).2]
    · split at h
      · cases h
      · rw [(Prod.mk.inj (Except.ok.inj h)).2]

/-- A fraction that is read is passed over up to the same place. -/
theorem skipFraction_of_fractionPart {negative : Bool} {significand : Nat} {shift : Int}
    {cs r : List Char} {n : Number} (h : fractionPart negative significand shift cs = .ok (n, r)) :
    skipFraction ('.' :: cs) = .ok r := by
  unfold fractionPart at h
  unfold skipFraction
  simp only at h ⊢
  split at h
  · cases h
  · split at h
    · exact skipExponent_of_exponentPart h
    · exact skipExponent_of_exponentPart h
    · obtain ⟨_, -, h⟩ := Except.map_eq_ok.mp h
      rw [(Prod.mk.inj h).2]

/-- What follows the digits before the point is passed over up to the same place. -/
theorem skipFraction_of_afterInteger {negative : Bool} {significand : Nat} {shift : Int}
    {cs r : List Char} {n : Number} (h : afterInteger negative significand shift cs = .ok (n, r)) :
    skipFraction cs = .ok r := by
  unfold afterInteger at h
  split at h
  · exact skipFraction_of_fractionPart h
  · exact skipExponent_of_exponentPart h
  · exact skipExponent_of_exponentPart h
  · next hpoint hlower hupper =>
    rw [skipFraction.eq_4 cs hpoint hlower hupper]
    split at h
    · rw [(Prod.mk.inj (Except.ok.inj h)).2]
    · obtain ⟨_, -, h⟩ := Except.map_eq_ok.mp h
      rw [(Prod.mk.inj h).2]

/-- **A numeral that is read is passed over up to the same place**, though nothing is computed of it
on the way. -/
theorem skipNumeral_of_numeral {negative : Bool} {cs r : List Char} {n : Number}
    (h : numeral negative cs = .ok (n, r)) : skipNumeral cs = .ok r := by
  unfold numeral at h
  split at h
  · cases h
  · split at h
    · split at h
      · cases h
      · next hdigit =>
        rw [skipNumeral, if_neg hdigit]
        exact skipFraction_of_afterInteger h
    · exact skipFraction_of_afterInteger h
  · next hzero =>
    split at h
    · next hdigit =>
      rw [skipNumeral.eq_3 _ _ hzero, if_pos hdigit]
      exact skipFraction_of_afterInteger h
    · cases h

/-! ## Strings -/

theorem prepend_eq_ok {c : Char} {x : Except Fault (List Char × List Char)} {s r : List Char} :
    prepend c x = .ok (s, r) ↔ ∃ t, x = .ok (t, r) ∧ s = c :: t := by
  unfold prepend
  rw [Except.map_eq_ok]
  constructor
  · rintro ⟨⟨t, _⟩, h, heq⟩
    cases heq
    exact ⟨t, h, rfl⟩
  · rintro ⟨t, h, rfl⟩
    exact ⟨_, h, rfl⟩

/-- Where a reading that only looks for the end stands, when a strict one stands here: it does not
wait for the second half of a pair. -/
def StringState.loose : StringState → StringState
  | .plain => .plain
  | .escape => .escape
  | .hex read value _ => .hex read value none
  | .needBackslash _ => .plain
  | .needU _ => .escape

/-- **What is read strictly from here on**, in whatever state, ends where it ends for a reading
that only looks for the end. -/
def EndsAlike (cs r : List Char) : Prop :=
  ∀ ⦃state s⦄, stringFrom true state cs = .ok (s, r) →
    ∃ t, stringFrom false state.loose cs = .ok (t, r)

namespace EndsAlike

variable {c : Char} {cs s r : List Char}

/-- A character of the string changes nothing about its end. -/
theorem prepend (h : EndsAlike cs r) {state : StringState}
    (hs : Json.prepend c (stringFrom true state cs) = .ok (s, r)) :
    ∃ t, Json.prepend c (stringFrom false state.loose cs) = .ok (t, r) := by
  obtain ⟨t, ht, -⟩ := prepend_eq_ok.mp hs
  obtain ⟨u, hu⟩ := h ht
  exact ⟨c :: u, prepend_eq_ok.mpr ⟨u, hu, rfl⟩⟩

theorem plain_cons (h : EndsAlike cs r) (hs : stringFrom true .plain (c :: cs) = .ok (s, r)) :
    ∃ t, stringFrom false .plain (c :: cs) = .ok (t, r) := by
  rw [stringFrom] at hs ⊢
  by_cases hquote : c = '"'
  · rw [if_pos hquote] at hs ⊢
    rw [(Prod.mk.inj (Except.ok.inj hs)).2]
    exact ⟨[], rfl⟩
  rw [if_neg hquote] at hs ⊢
  by_cases hslash : c = '\\'
  · rw [if_pos hslash] at hs ⊢
    exact h hs
  rw [if_neg hslash] at hs ⊢
  by_cases hcontrol : c.toNat < 0x20
  · rw [if_pos hcontrol] at hs
    cases hs
  rw [if_neg hcontrol] at hs ⊢
  exact h.prepend hs

theorem escape_cons (h : EndsAlike cs r) (hs : stringFrom true .escape (c :: cs) = .ok (s, r)) :
    ∃ t, stringFrom false .escape (c :: cs) = .ok (t, r) := by
  rw [stringFrom] at hs ⊢
  by_cases hu : c = 'u'
  · rw [if_pos hu] at hs ⊢
    exact h hs
  rw [if_neg hu] at hs ⊢
  cases hescape : simpleEscape c with
  | none =>
    rw [hescape] at hs
    cases hs
  | some d =>
    rw [hescape] at hs
    exact h.prepend hs

theorem hex_cons (h : EndsAlike cs r) {read value : Nat} {high : Option Nat}
    (hs : stringFrom true (.hex read value high) (c :: cs) = .ok (s, r)) :
    ∃ t, stringFrom false (.hex read value none) (c :: cs) = .ok (t, r) := by
  rw [stringFrom] at hs ⊢
  cases hdigit : hexValue c with
  | none =>
    simp only [hdigit] at hs
    split at hs <;> cases hs
  | some d =>
    simp only [hdigit] at hs ⊢
    by_cases hread : read < 3
    · rw [if_pos hread] at hs ⊢
      exact h hs
    rw [if_neg hread] at hs ⊢
    -- behind the last digit only the strict reading looks at what the digits stand for
    rw [if_pos (show (!false) = true from rfl)]
    rw [if_neg (show ¬(!true) = true by decide)] at hs
    cases high with
    | none =>
      simp only at hs
      split at hs
      · cases hs
      · split at hs
        · exact h hs
        · obtain ⟨t, ht, -⟩ := prepend_eq_ok.mp hs
          exact h ht
    | some high =>
      simp only at hs
      split at hs
      · obtain ⟨t, ht, -⟩ := prepend_eq_ok.mp hs
        exact h ht
      · cases hs

theorem needBackslash_cons (h : EndsAlike cs r) {high : Nat}
    (hs : stringFrom true (.needBackslash high) (c :: cs) = .ok (s, r)) :
    ∃ t, stringFrom false .plain (c :: cs) = .ok (t, r) := by
  rw [stringFrom] at hs
  split at hs
  · next hslash =>
    rw [hslash, stringFrom, if_neg (by decide), if_pos rfl]
    exact h hs
  · cases hs

theorem needU_cons (h : EndsAlike cs r) {high : Nat}
    (hs : stringFrom true (.needU high) (c :: cs) = .ok (s, r)) :
    ∃ t, stringFrom false .escape (c :: cs) = .ok (t, r) := by
  rw [stringFrom] at hs
  split at hs
  · next hu =>
    rw [hu, stringFrom, if_pos rfl]
    exact h hs
  · cases hs

end EndsAlike

/-- A string that is read ends where it ends when it is passed over. -/
theorem endsAlike (cs r : List Char) : EndsAlike cs r := by
  induction cs with
  | nil =>
    intro state s h
    cases state <;> cases h
  | cons c cs ih =>
    intro state s h
    cases state with
    | plain => exact ih.plain_cons h
    | escape => exact ih.escape_cons h
    | hex read value high => exact ih.hex_cons h
    | needBackslash high => exact ih.needBackslash_cons h
    | needU high => exact ih.needU_cons h

/-- A rest that is passed over, and the rest of what is read. -/
def Passes {α : Type} (r : List Char) (p : α × List Char) : Prop := r = p.2

/-- **A string that is read is passed over up to the same place**, although surrogate pairs are not
put together on the way. -/
theorem skipString_of_readString {cs r : List Char} {s : String}
    (h : readString cs = .ok (s, r)) : skipString cs = .ok r := by
  obtain ⟨⟨t, _⟩, ht, heq⟩ := Except.map_eq_ok.mp h
  cases heq
  obtain ⟨u, hu⟩ := endsAlike _ _ ht
  exact Except.map_eq_ok.mpr ⟨_, hu, rfl⟩

theorem skipString_together (cs : List Char) : Together Passes (skipString cs) (readString cs) :=
  fun _ _ hskip hread => Except.ok.inj (hskip.symm.trans (skipString_of_readString hread))

/-! ## Values -/

/-- Blanks before a value that is passed over do not matter. -/
theorem skipValue_skipBlanks (n : Nat) (cs : List Char) :
    skipValue n (skipBlanks cs) = skipValue n cs := by
  cases n with
  | zero => rw [skipValue, skipValue]
  | succ n => rw [skipValue, skipValue, skipBlanks_skipBlanks]

variable {α : Type}

theorem skipNextItem_together (first : Bool) (cs : List Char) :
    Together (fun p q => p.1 = q.1 ∧ (p.1 = true → skipBlanks p.2 = skipBlanks q.2) ∧
      (p.1 = false → q.2 = ']' :: p.2)) (skipNextItem first cs) (nextItem first cs) := by
  unfold skipNextItem nextItem
  split
  · exact .error_left _ _
  · exact .ok ⟨rfl, nofun, fun _ => rfl⟩
  · split
    · exact .ok ⟨rfl, fun _ => rfl, nofun⟩
    · split
      · split
        · exact .error_right _ _
        · exact .error_right _ _
        · exact .ok ⟨rfl, fun _ => (skipBlanks_skipBlanks _).symm, nofun⟩
      · exact .error_left _ _

theorem skipNextKey_together (first : Bool) (cs : List Char) :
    Together Eq (skipNextKey first cs) (nextKey first cs) := by
  unfold skipNextKey nextKey
  split
  · exact .error_left _ _
  · exact .ok rfl
  · next c r _ hcs =>
    have hfront : skipBlanks (c :: r) = c :: r := by rw [← hcs, skipBlanks_skipBlanks]
    simp only [hfront]
    split
    · split
      · exact .error_left _ _
      · next heq =>
        cases heq
        exact .ok rfl
      · exact .error_left _ _
    · split
      · split
        · exact .error_left _ _
        · next heq =>
          rw [heq]
          exact .ok rfl
        · exact .error_left _ _
      · exact .error_left _ _

/-- **A list is passed over up to its end**, if its items are, each with the comma behind it. -/
theorem skipItems_together {item : List Char → Except Error (α × List Char)}
    (h : ∀ n cs cs', skipBlanks cs = skipBlanks cs' → Together Passes (skipValue n cs) (item cs'))
    (n m : Nat) (first : Bool) (cs : List Char) :
    Together Passes (skipItems n first cs) (listOf item m first cs) := by
  induction n generalizing m first cs with
  | zero =>
    rw [skipItems]
    exact .error_left _ _
  | succ n ih =>
    cases m with
    | zero => exact .error_right _ _
    | succ m =>
      rw [skipItems, listOf_succ]
      refine ((skipNextItem_together first cs).mapError_right _).bind ?_
      rintro ⟨more, r⟩ ⟨_, r'⟩ ⟨rfl, hmore, hend⟩
      cases more with
      | false =>
        obtain rfl := hend rfl
        exact .ok rfl
      | true =>
        refine (h n r r' (hmore rfl)).bind ?_
        rintro r ⟨a, _⟩ rfl
        exact (ih m false r).map_right fun _ _ hr => hr

/-- **An object is passed over up to its end**, if the values of its members are. -/
theorem skipMembers_together {value : List Char → Except Error (Json × List Char)}
    (h : ∀ n cs, Together Passes (skipValue n cs) (value cs)) (n m : Nat) (first : Bool)
    (ms : List (String × Json)) (cs : List Char) :
    Together Passes (skipMembers n first cs) (members (memberOf value) m first ms cs) := by
  induction n generalizing m first ms cs with
  | zero =>
    rw [skipMembers]
    exact .error_left _ _
  | succ n ih =>
    cases m with
    | zero => exact .error_right _ _
    | succ m =>
      rw [skipMembers, members]
      refine ((skipNextKey_together first cs).mapError_right _).bind ?_
      rintro ⟨more, r⟩ _ rfl
      cases more with
      | false => exact .ok rfl
      | true =>
        show Together Passes (skipString r >>= _) (memberOf value ms r >>= _)
        rw [memberOf, bind_assoc]
        refine ((skipString_together r).mapError_right _).bind ?_
        rintro r ⟨k, _⟩ rfl
        dsimp only
        rw [bind_assoc]
        refine ((Together.refl (colon r)).mapError_right _).bind ?_
        rintro r _ rfl
        rw [bind_assoc]
        refine (h n r).bind ?_
        rintro r ⟨j, _⟩ rfl
        exact ih m false _ r

/-- What is passed over of a value whose front was read. -/
def skipFrom (n : Nat) : Front → Except Fault (List Char)
  | .scalar _ r => .ok r
  | .list r => skipItems n true r
  | .object r => skipMembers n true r

/-- **A scalar that is read is passed over up to the same place**, and of anything else the front
is. -/
theorem skipValue_of_front {cs : List Char} {f : Front} (h : front cs = .ok f) (n : Nat) :
    skipValue (n + 1) cs = skipFrom n f := by
  have hword : ∀ {x : Except Fault (List Char)} {s : Scalar},
      (lift x).map (Front.scalar s) = .ok f → x = skipFrom n f := by
    intro x s h
    obtain ⟨r, hx, rfl⟩ := Except.map_eq_ok.mp h
    exact Except.mapError_eq_ok.mp hx
  have hnumeral : ∀ {negative : Bool} {cs : List Char},
      (lift (numeral negative cs)).map (fun p => Front.scalar p.1.toScalar p.2) = .ok f →
      skipNumeral cs = skipFrom n f := by
    intro negative cs h
    obtain ⟨p, hp, rfl⟩ := Except.map_eq_ok.mp h
    exact skipNumeral_of_numeral (Except.mapError_eq_ok.mp hp)
  revert h
  fun_cases front cs
  all_goals
    intro h
    simp only [skipValue, *, if_true, Bool.false_eq_true, if_false]
  · cases h
  · exact hword h
  · exact hword h
  · exact hword h
  · exact hnumeral h
  · obtain ⟨p, hp, rfl⟩ := Except.map_eq_ok.mp h
    exact skipString_of_readString (Except.mapError_eq_ok.mp hp)
  · cases h
    rfl
  · cases h
    rfl
  · exact hnumeral h
  · cases h

/-- **A value that is read is passed over up to the same place.** What is not wanted may be read
with all its rules or only be passed over, and what follows is the same. -/
theorem skipValue_together (n m depth : Nat) (cs : List Char) :
    Together Passes (skipValue n cs) (value m depth cs) := by
  induction m generalizing n depth cs with
  | zero => exact .error_right _ _
  | succ m ih =>
    cases n with
    | zero =>
      rw [skipValue]
      exact .error_left _ _
    | succ n =>
      rw [value_succ]
      refine .bind_right fun f hf => ?_
      rw [skipValue_of_front hf]
      cases f with
      | scalar s r => exact .ok rfl
      | list r =>
        refine .bind_right fun depth _ => ?_
        refine (skipItems_together (fun k cs cs' hblanks => ?_) n m true r).map_right fun _ _ h => h
        rw [← skipValue_skipBlanks, hblanks, skipValue_skipBlanks]
        exact ih k depth cs'
      | object r =>
        refine .bind_right fun depth _ => ?_
        exact (skipMembers_together (fun k cs => ih k depth cs) n m true [] r).map_right
          fun _ _ h => h

end RestClient.Json
