import Mathlib.Data.List.Forall2
import RestClient.Proofs.Literal
import RestClient.Proofs.Settling

/-!
# The text of a value reads back

The text that `Json.text` makes of a value is read by `Json.value` as that value, settled: the
reader puts the members of each object in order of their keys, the later of two of one key stays,
and a number becomes what its numeral is read as (`parse_render`). Two things are asked of the
value. Its numbers have texts that are numerals, which integers of sixty-four bits have; and arrays
and objects do not stand inside one another more often than the reader follows them (`nesting`).

More is true, for the reader does not see how a number was written. A text spells a value
(`SpelledBy`) if it is the text of the value but for its numbers, each of which may stand as any
numeral that is read as the number's own. Every text that spells a value is read as the value,
settled (`SpelledBy.takes`).

The reader goes through arrays and objects by two loops, and there is a comma in front of each part
but the first. So each loop is followed twice: from behind a part, by induction on the parts that
are left (`items_laterTexts`), and from there at the opening bracket (`items_listedTexts`). The
statement about values is an induction on the value with any rest behind its text, since the text of
an item is followed by those of others.
-/

namespace RestClient.Json

theorem text_array (items : List Json) : text (.array items) = '[' :: itemsText items := rfl

theorem text_object (members : List (String × Json)) :
    text (.object members) = Char.ofNat 0x7B :: membersText members := rfl

/-! ## Where a value starts -/

/-- The number that the text of a number is read as. For integers of sixty-four bits it is the
number itself; of a floating-point number it may be a neighbour, as the reader rounds more than
once. -/
def Number.reread (n : Number) : Number :=
  match signedNumeral n.text with
  | .ok (m, _) => m
  | .error _ => n

/-- **A text is read as a number**, wherever its numeral ends: behind it may stand whatever does not
go on with a numeral. -/
structure ReadsAs (cs : List Char) (n : Number) : Prop where
  starts : StartsNumeral cs
  reads : ∀ rest, EndsNumeral rest → signedNumeral (cs ++ rest) = .ok (n, rest)

/-- **A number that can be read** from its text, as itself or as another one. Finite numbers can,
and so can integers of sixty-four bits. -/
def Number.IsReadable (n : Number) : Prop := ReadsAs n.text n.reread

theorem endsNumeral_nil : EndsNumeral [] := nofun

/-- What a text is read as is what is read of it where nothing follows. -/
theorem ReadsAs.signedNumeral_eq {cs : List Char} {n : Number} (h : ReadsAs cs n) :
    signedNumeral cs = .ok (n, []) := by
  simpa using h.reads [] endsNumeral_nil

theorem ReadsAs.reread_eq {n m : Number} (h : ReadsAs n.text m) : n.reread = m := by
  unfold Number.reread
  rw [h.signedNumeral_eq]

theorem ReadsAs.isReadable {n m : Number} (h : ReadsAs n.text m) : n.IsReadable := by
  rw [Number.IsReadable, h.reread_eq]
  exact h

theorem Number.IsWhole.readsAs {n : Number} (h : n.IsWhole) : ReadsAs n.text n := by
  cases n with
  | int k => exact ⟨startsNumeral_intText k, fun rest => signedNumeral_intText h⟩
  | float x => exact h.elim

/-- Integers of sixty-four bits are read as themselves. -/
theorem Number.IsWhole.reread_eq {n : Number} (h : n.IsWhole) : n.reread = n := h.readsAs.reread_eq

theorem Number.IsWhole.isReadable {n : Number} (h : n.IsWhole) : n.IsReadable :=
  h.readsAs.isReadable

/-- A text that starts neither with a blank nor with the end of a list. -/
def StartsValue (cs : List Char) : Prop := ∃ c r, cs = c :: r ∧ isBlank c = false ∧ c ≠ ']'

theorem isBlank_of_isDigit {c : Char} (h : isDigit c = true) : isBlank c = false := by
  cases hc : isBlank c with
  | false => rfl
  | true =>
    simp only [isBlank, Bool.or_eq_true, decide_eq_true_eq] at hc
    rcases hc with ((rfl | rfl) | rfl) | rfl <;> cases h

theorem StartsNumeral.startsValue {cs : List Char} (h : StartsNumeral cs) : StartsValue cs := by
  obtain ⟨c, r, rfl, hc⟩ := h
  refine ⟨c, r, rfl, ?_, ?_⟩
  · rcases hc with rfl | hc
    · rfl
    · exact isBlank_of_isDigit hc
  · rintro rfl
    rcases hc with hc | hc <;> cases hc

theorem skipBlanks_of_starts {cs : List Char} (h : StartsValue cs) (rest : List Char) :
    skipBlanks (cs ++ rest) = cs ++ rest := by
  obtain ⟨c, r, rfl, hc, -⟩ := h
  unfold skipBlanks
  rw [List.cons_append, List.dropWhile_cons_of_neg (by simp [hc])]

/-! ## Values without parts -/

theorem value_numeral (n depth : Nat) {cs : List Char} (h : StartsNumeral cs) :
    value (n + 1) depth cs = (lift (signedNumeral cs)).map fun p => (.number p.1, p.2) := by
  have hskip : skipBlanks cs = cs := by simpa using skipBlanks_of_starts h.startsValue []
  obtain ⟨c, r, rfl, hc⟩ := h
  rw [value, hskip]
  rcases hc with rfl | hc
  · rfl
  · rw [signedNumeral_of_isDigit hc]
    split
    case h_1 heq => cases heq
    case h_9 heq =>
      cases heq
      rw [if_pos hc]
    -- no other front is a digit
    all_goals
      next heq =>
        cases heq
        cases hc

theorem value_stringText (n depth : Nat) (s : String) (rest : List Char) :
    value (n + 1) depth (stringText s ++ rest) = .ok (.string s, rest) := by
  show (lift (readString ((s.toList.flatMap escapedChar ++ ['"']) ++ rest))).map _ = _
  rw [List.append_assoc, List.singleton_append, readString_stringText]
  rfl

theorem value_list {depth : Nat} (h : 1 < depth) (n : Nat) (cs : List Char) :
    value (n + 1) depth ('[' :: cs) = (do
      let (xs, r) ← items (value n (depth - 1)) n true cs
      let r ← lift (closeList r)
      return (.array xs, r)) := by
  show (lift (descend depth) >>= _) = _
  rw [descend, if_neg (Nat.not_le.mpr h)]
  rfl

theorem value_object {depth : Nat} (h : 1 < depth) (n : Nat) (cs : List Char) :
    value (n + 1) depth (Char.ofNat 0x7B :: cs) = (do
      let (ms, r) ← members (memberOf (value n (depth - 1))) n true [] cs
      return (.object ms, r)) := by
  show (lift (descend depth) >>= _) = _
  rw [descend, if_neg (Nat.not_le.mpr h)]
  rfl

/-! ## Lists of texts -/

/-- Texts that follow another one, each behind a comma, and what closes the list. -/
def laterTexts (close : Char) : List (List Char) → List Char
  | [] => [close]
  | t :: ts => ',' :: (t ++ laterTexts close ts)

/-- Texts with commas between them, and what closes the list. -/
def listedTexts (close : Char) : List (List Char) → List Char
  | [] => [close]
  | t :: ts => t ++ laterTexts close ts

theorem laterTexts_eq (close : Char) (ts : List (List Char)) :
    laterTexts close ts = (ts.flatMap fun t => ',' :: t) ++ [close] := by
  induction ts with
  | nil => rfl
  | cons t ts ih => simp [laterTexts, ih]

theorem length_laterTexts (close : Char) (ts : List (List Char)) :
    ts.length < (laterTexts close ts).length ∧
    ∀ t ∈ ts, t.length ≤ (laterTexts close ts).length := by
  induction ts with
  | nil => exact ⟨Nat.zero_lt_one, nofun⟩
  | cons t ts ih =>
    rw [laterTexts, List.length_cons, List.length_cons, List.length_append, List.forall_mem_cons]
    refine ⟨by omega, by omega, fun u hu => ?_⟩
    have hlater := ih.2 u hu
    omega

/-- A list has no more parts than characters, and is not shorter than any of them. -/
theorem length_listedTexts (close : Char) (ts : List (List Char)) :
    ts.length ≤ (listedTexts close ts).length ∧
    ∀ t ∈ ts, t.length ≤ (listedTexts close ts).length := by
  cases ts with
  | nil => exact ⟨Nat.zero_le _, nofun⟩
  | cons t ts =>
    obtain ⟨hcount, hlater⟩ := length_laterTexts close ts
    rw [listedTexts, List.length_cons, List.length_append, List.forall_mem_cons]
    refine ⟨by omega, by omega, fun u hu => ?_⟩
    have hu := hlater u hu
    omega

/-- A member as it stands in an object. -/
def memberText (m : String × Json) : List Char := stringText m.1 ++ ':' :: text m.2

/-- **Where the text of an array goes on** behind its bracket: a list of the texts of its items. -/
theorem itemsText_eq (items : List Json) : itemsText items = listedTexts ']' (items.map text) := by
  cases items with
  | nil => rfl
  | cons j rest =>
    rw [List.map_cons, listedTexts]
    induction rest generalizing j with
    | nil => rfl
    | cons k rest ih =>
      rw [itemsText, ih, List.map_cons, laterTexts]
      exact nofun

/-- **Where the text of an object goes on** behind its brace: a list of the texts of its members. -/
theorem membersText_eq (members : List (String × Json)) :
    membersText members = listedTexts (Char.ofNat 0x7D) (members.map memberText) := by
  cases members with
  | nil => rfl
  | cons m rest =>
    rw [List.map_cons, listedTexts]
    induction rest generalizing m with
    | nil => simp [membersText, memberText, laterTexts]
    | cons m' rest ih =>
      rw [membersText, ih, List.map_cons, laterTexts]
      · simp [memberText]
      · exact nofun

/-! ## Arrays -/

theorem nextItem_first {cs : List Char} (h : StartsValue cs) (rest : List Char) :
    nextItem true (cs ++ rest) = .ok (true, cs ++ rest) := by
  have hskip := skipBlanks_of_starts h rest
  obtain ⟨c, r, rfl, -, hc⟩ := h
  unfold nextItem
  rw [hskip, List.cons_append]
  split
  · next heq => cases heq
  · next heq =>
    rw [List.cons.injEq] at heq
    exact absurd heq.1 hc
  · next heq =>
    rw [heq]
    rfl

theorem nextItem_comma {cs : List Char} (h : StartsValue cs) (rest : List Char) :
    nextItem false (',' :: (cs ++ rest)) = .ok (true, cs ++ rest) := by
  have hskip := skipBlanks_of_starts h rest
  obtain ⟨c, r, rfl, -, hc⟩ := h
  have hcomma : skipBlanks (',' :: (c :: r ++ rest)) = ',' :: (c :: r ++ rest) := rfl
  unfold nextItem
  rw [hcomma]
  split
  · next heq => cases heq
  · next heq => cases heq
  · next heq =>
    obtain ⟨rfl, rfl⟩ := List.cons.inj heq
    rw [if_neg nofun, if_pos rfl, hskip, List.cons_append]
    split
    · next heq => cases heq
    · next heq =>
      rw [List.cons.injEq] at heq
      exact absurd heq.1 hc
    · rfl

variable {α β σ : Type}

theorem items_of_bracket (item : List Char → Except Error (α × List Char)) (n : Nat) (first : Bool)
    (r : List Char) : items item (n + 1) first (']' :: r) = .ok ([], ']' :: r) := rfl

theorem items_of_more {item : List Char → Except Error (α × List Char)} {first : Bool}
    {cs r r' : List Char} {x : α} (hnext : nextItem first cs = .ok (true, r))
    (hitem : item r = .ok (x, r')) (n : Nat) :
    items item (n + 1) first cs = (items item n false r').map fun p => (x :: p.1, p.2) := by
  rw [items, hnext]
  show (item r >>= _) = _
  rw [hitem]
  show (items item n false r' >>= _) = _
  cases items item n false r' <;> rfl

/-- **A reader takes a text for a value**, whatever follows that does not go on with a numeral, and
leaves what follows. -/
def Takes (read : List Char → Except Error (α × List Char)) (cs : List Char) (x : α) : Prop :=
  ∀ rest, EndsNumeral rest → read (cs ++ rest) = .ok (x, rest)

theorem endsNumeral_of_head {c : Char} (h : isDigit c = false ∧ c ≠ '.' ∧ c ≠ 'e' ∧ c ≠ 'E')
    (r : List Char) : EndsNumeral (c :: r) := by
  rintro d s heq
  rw [List.cons.injEq] at heq
  rw [← heq.1]
  exact h

theorem endsNumeral_laterTexts {close : Char}
    (h : isDigit close = false ∧ close ≠ '.' ∧ close ≠ 'e' ∧ close ≠ 'E') (ts : List (List Char))
    (rest : List Char) : EndsNumeral (laterTexts close ts ++ rest) := by
  cases ts with
  | nil => exact endsNumeral_of_head h rest
  | cons t ts => exact endsNumeral_of_head (by decide) _

variable {item : List Char → Except Error (α × List Char)} {f : β → α} {xs : List β}
  {ts : List (List Char)}

theorem items_laterTexts (h : List.Forall₂ (fun x t => StartsValue t ∧ Takes item t (f x)) xs ts)
    {n : Nat} (hn : ts.length < n) (rest : List Char) :
    items item n false (laterTexts ']' ts ++ rest) = .ok (xs.map f, ']' :: rest) := by
  induction h generalizing n with
  | nil =>
    obtain ⟨n, rfl⟩ := Nat.exists_eq_add_of_lt hn
    exact items_of_bracket item _ false rest
  | @cons x t xs ts ht _ ih =>
    obtain ⟨n, rfl⟩ : ∃ m, n = m + 1 := ⟨n - 1, by omega⟩
    have hread := ht.2 (laterTexts ']' ts ++ rest) (endsNumeral_laterTexts (by decide) ts rest)
    show items item (n + 1) false (',' :: (t ++ laterTexts ']' ts ++ rest)) = _
    rw [List.append_assoc, items_of_more (nextItem_comma ht.1 _) hread,
      ih (Nat.lt_of_succ_lt_succ hn)]
    rfl

/-- **The items of an array are read**, up to the closing bracket, if each text is read as its item,
whatever follows. -/
theorem items_listedTexts (h : List.Forall₂ (fun x t => StartsValue t ∧ Takes item t (f x)) xs ts)
    {n : Nat} (hn : ts.length < n) (rest : List Char) :
    items item n true (listedTexts ']' ts ++ rest) = .ok (xs.map f, ']' :: rest) := by
  obtain ⟨n, rfl⟩ : ∃ m, n = m + 1 := ⟨n - 1, by omega⟩
  cases h with
  | nil => exact items_of_bracket item n true rest
  | @cons x t xs ts ht hts =>
    have hread := ht.2 (laterTexts ']' ts ++ rest) (endsNumeral_laterTexts (by decide) ts rest)
    rw [listedTexts, List.append_assoc, items_of_more (nextItem_first ht.1 _) hread,
      items_laterTexts hts (Nat.lt_of_succ_lt_succ hn)]
    rfl

/-! ## Objects -/

/-- **A text is a member**: its key, a colon, and a text that is a value of the key. -/
def IsMember (p : List Char → Prop) (key : String) (t : List Char) : Prop :=
  ∃ u, t = stringText key ++ ':' :: u ∧ p u

theorem length_le_of_isMember {p : List Char → Prop} {key : String} {t : List Char}
    (h : IsMember p key t) : IsMember (fun u => p u ∧ u.length ≤ t.length) key t := by
  obtain ⟨u, rfl, hu⟩ := h
  refine ⟨u, rfl, hu, ?_⟩
  rw [List.length_append, List.length_cons]
  omega

/-- What stands of a member behind the quote of its key. -/
def memberTail (key : String) (u : List Char) : List Char :=
  key.toList.flatMap escapedChar ++ '"' :: ':' :: u

theorem stringText_append (key : String) (u : List Char) :
    stringText key ++ ':' :: u = '"' :: memberTail key u := by
  simp [memberTail, stringText]

theorem memberOf_memberTail {value : List Char → Except Error (Json × List Char)}
    {u rest : List Char} {j : Json} (hvalue : value (u ++ rest) = .ok (j, rest)) (key : String)
    (read : List (String × Json)) :
    memberOf value read (memberTail key u ++ rest) = .ok (insert key j read, rest) := by
  unfold memberOf memberTail
  rw [List.append_assoc, List.cons_append, List.cons_append, readString_stringText]
  show (value (u ++ rest) >>= _) = _
  rw [hvalue]
  rfl

theorem members_of_more {member : σ → List Char → Except Error (σ × List Char)} {first : Bool}
    {s s' : σ} {cs r r' : List Char} (hnext : nextKey first cs = .ok (true, r))
    (hmember : member s r = .ok (s', r')) (n : Nat) :
    members member (n + 1) first s cs = members member n false s' r' := by
  rw [members, hnext]
  show (member s r >>= _) = _
  rw [hmember]
  rfl

theorem members_of_brace (member : σ → List Char → Except Error (σ × List Char)) (n : Nat)
    (first : Bool) (s : σ) (r : List Char) :
    members member (n + 1) first s (Char.ofNat 0x7D :: r) = .ok (s, r) := rfl

variable {valueOf : List Char → Except Error (Json × List Char)} {g : Json → Json}
  {ms : List (String × Json)}

theorem members_laterTexts
    (h : List.Forall₂ (fun m t => IsMember (fun u => Takes valueOf u (g m.2)) m.1 t) ms ts)
    (read : List (String × Json)) {n : Nat} (hn : ts.length < n) (rest : List Char) :
    members (memberOf valueOf) n false read (laterTexts (Char.ofNat 0x7D) ts ++ rest)
      = .ok (insertAll read (withValues g ms), rest) := by
  induction h generalizing read n with
  | nil =>
    obtain ⟨n, rfl⟩ := Nat.exists_eq_add_of_lt hn
    exact members_of_brace _ _ false read rest
  | @cons m t ms ts ht _ ih =>
    obtain ⟨n, rfl⟩ : ∃ m, n = m + 1 := ⟨n - 1, by omega⟩
    obtain ⟨u, rfl, hu⟩ := ht
    have hnext : nextKey false
        (laterTexts (Char.ofNat 0x7D) ((stringText m.1 ++ ':' :: u) :: ts) ++ rest)
        = .ok (true, memberTail m.1 u ++ (laterTexts (Char.ofNat 0x7D) ts ++ rest)) := by
      rw [laterTexts, stringText_append, ← List.append_assoc]
      rfl
    have hread := memberOf_memberTail
      (hu (laterTexts (Char.ofNat 0x7D) ts ++ rest) (endsNumeral_laterTexts (by decide) ts rest))
      m.1 read
    rw [members_of_more hnext hread, ih _ (Nat.lt_of_succ_lt_succ hn)]
    rfl

/-- **The members of an object are read**, up to its end, and put in order, so of two with one key
the later stays. -/
theorem members_listedTexts
    (h : List.Forall₂ (fun m t => IsMember (fun u => Takes valueOf u (g m.2)) m.1 t) ms ts)
    {n : Nat} (hn : ts.length < n) (rest : List Char) :
    members (memberOf valueOf) n true [] (listedTexts (Char.ofNat 0x7D) ts ++ rest)
      = .ok (insertAll [] (withValues g ms), rest) := by
  obtain ⟨n, rfl⟩ : ∃ m, n = m + 1 := ⟨n - 1, by omega⟩
  cases h with
  | nil => exact members_of_brace _ n true [] rest
  | @cons m t ms ts ht hts =>
    obtain ⟨u, rfl, hu⟩ := ht
    have hnext : nextKey true
        (listedTexts (Char.ofNat 0x7D) ((stringText m.1 ++ ':' :: u) :: ts) ++ rest)
        = .ok (true, memberTail m.1 u ++ (laterTexts (Char.ofNat 0x7D) ts ++ rest)) := by
      rw [listedTexts, stringText_append, List.append_assoc]
      rfl
    have hread := memberOf_memberTail
      (hu (laterTexts (Char.ofNat 0x7D) ts ++ rest) (endsNumeral_laterTexts (by decide) ts rest))
      m.1 []
    rw [members_of_more hnext hread, members_laterTexts hts _ (Nat.lt_of_succ_lt_succ hn)]
    rfl

/-! ## Texts that spell a value -/

mutual

/-- **A text spells a value.** It is the text of the value, but that every number of it may stand as
any numeral that is read as the number's own numeral is. Members stand in the order in which the
value has them. -/
def SpelledBy : Json → List Char → Prop
  | .number n, cs => ReadsAs cs n.reread
  | .array items, cs => ∃ ts, cs = '[' :: listedTexts ']' ts ∧ ItemsSpelledBy items ts
  | .object members, cs =>
    ∃ ts, cs = Char.ofNat 0x7B :: listedTexts (Char.ofNat 0x7D) ts ∧ MembersSpelledBy members ts
  | .null, cs => cs = "null".toList
  | .bool b, cs => cs = (if b then "true" else "false").toList
  | .string s, cs => cs = stringText s

/-- Texts spell the items of an array, one each. -/
def ItemsSpelledBy : List Json → List (List Char) → Prop
  | [], [] => True
  | j :: items, t :: ts => SpelledBy j t ∧ ItemsSpelledBy items ts
  | _, _ => False

/-- Texts spell the members of an object, one each. -/
def MembersSpelledBy : List (String × Json) → List (List Char) → Prop
  | [], [] => True
  | (key, j) :: members, t :: ts => IsMember (SpelledBy j) key t ∧ MembersSpelledBy members ts
  | _, _ => False

end

theorem itemsSpelledBy_iff {items : List Json} {ts : List (List Char)} :
    ItemsSpelledBy items ts ↔ List.Forall₂ SpelledBy items ts := by
  induction items generalizing ts with
  | nil => cases ts <;> simp [ItemsSpelledBy]
  | cons j items ih => cases ts <;> simp [ItemsSpelledBy, ih]

theorem membersSpelledBy_iff {members : List (String × Json)} {ts : List (List Char)} :
    MembersSpelledBy members ts ↔
      List.Forall₂ (fun m t => IsMember (SpelledBy m.2) m.1 t) members ts := by
  induction members generalizing ts with
  | nil => cases ts <;> simp [MembersSpelledBy]
  | cons m members ih => cases ts <;> simp [MembersSpelledBy, ih]

/-- **A value is spelled by its own text**, if its numbers can be read, by induction on the
value. -/
theorem spelledBy_text {j : Json} (numbers : Numbers Number.IsReadable j) :
    SpelledBy j (text j) := by
  induction j using induction with
  | null | string s => rfl
  | bool b => cases b <;> rfl
  | number n => exact numbers
  | array items ih =>
    refine ⟨items.map text, by rw [text_array, itemsText_eq], itemsSpelledBy_iff.mpr ?_⟩
    rw [List.forall₂_map_right_iff, List.forall₂_same]
    exact fun k hk => ih k hk (numbersOfItems_iff.mp numbers k hk)
  | object members ih =>
    refine ⟨members.map memberText, by rw [text_object, membersText_eq],
      membersSpelledBy_iff.mpr ?_⟩
    rw [List.forall₂_map_right_iff, List.forall₂_same]
    exact fun m hm => ⟨text m.2, rfl, ih m hm (numbersOfMembers_iff.mp numbers m hm)⟩

/-- A text that spells a value starts with the value. -/
theorem SpelledBy.startsValue {j : Json} {cs : List Char} (h : SpelledBy j cs) :
    StartsValue cs := by
  cases j with
  | number n =>
    have hreads : ReadsAs cs n.reread := h
    exact hreads.starts.startsValue
  | null =>
    obtain rfl : cs = "null".toList := h
    exact ⟨'n', _, rfl, by decide, by decide⟩
  | bool b =>
    obtain rfl : cs = (if b then "true" else "false").toList := h
    cases b <;> exact ⟨_, _, rfl, by decide, by decide⟩
  | string s =>
    obtain rfl : cs = stringText s := h
    exact ⟨'"', _, rfl, by decide, by decide⟩
  | array items =>
    obtain ⟨ts, rfl, -⟩ := h
    exact ⟨'[', _, rfl, by decide, by decide⟩
  | object members =>
    obtain ⟨ts, rfl, -⟩ := h
    exact ⟨Char.ofNat 0x7B, _, rfl, by decide, by decide⟩

/-- What relates the parts of two lists may use that they are parts of them. -/
theorem forall₂_of_mem {γ δ : Type} {R S : γ → δ → Prop} {xs : List γ} {ys : List δ}
    (h : List.Forall₂ R xs ys) (hS : ∀ x ∈ xs, ∀ y ∈ ys, R x y → S x y) :
    List.Forall₂ S xs ys := by
  induction h with
  | nil => exact .nil
  | cons hxy _ ih =>
    rw [List.forall_mem_cons] at hS
    exact .cons (hS.1 _ List.mem_cons_self hxy)
      (ih fun x hx y hy => hS.2 x hx y (List.mem_cons_of_mem _ hy))

/-! ## Values -/

/-- **A text that spells a value is read as it**, settled, whatever follows that does not go on with
a numeral, if the levels of nesting are enough. -/
theorem SpelledBy.takes {j : Json} {cs : List Char} (h : SpelledBy j cs) {n depth : Nat}
    (hn : cs.length ≤ n) (hdepth : nesting j < depth) :
    Takes (value (n + 1) depth) cs (j.settle Number.reread) := by
  induction j using induction generalizing cs n depth with
  | null =>
    obtain rfl : cs = "null".toList := h
    exact fun rest _ => rfl
  | bool b =>
    obtain rfl : cs = (if b then "true" else "false").toList := h
    cases b <;> exact fun rest _ => rfl
  | number k =>
    obtain ⟨starts, reads⟩ : ReadsAs cs k.reread := h
    intro rest hrest
    rw [value_numeral n depth (starts.append rest), reads rest hrest]
    rfl
  | string s =>
    obtain rfl : cs = stringText s := h
    exact fun rest _ => value_stringText n depth s rest
  | array js ih =>
    obtain ⟨ts, rfl, hts⟩ := h
    rw [List.length_cons] at hn
    rw [nesting] at hdepth
    obtain ⟨n, rfl⟩ : ∃ m, n = m + 1 := ⟨n - 1, by omega⟩
    obtain ⟨hcount, hlength⟩ := length_listedTexts ']' ts
    have heach := forall₂_of_mem (itemsSpelledBy_iff.mp hts) fun k hk t ht hkt =>
      have hkLength := hlength t ht
      have hkNesting := nesting_le_of_mem hk
      have htakes : Takes (value (n + 1) (depth - 1)) t (k.settle Number.reread) :=
        ih k hk hkt (by omega) (by omega)
      And.intro hkt.startsValue htakes
    intro rest _
    rw [List.cons_append, value_list (by omega), items_listedTexts heach (by omega), settle_array]
    rfl
  | object ms ih =>
    obtain ⟨ts, rfl, hts⟩ := h
    rw [List.length_cons] at hn
    rw [nesting] at hdepth
    obtain ⟨n, rfl⟩ : ∃ m, n = m + 1 := ⟨n - 1, by omega⟩
    obtain ⟨hcount, hlength⟩ := length_listedTexts (Char.ofNat 0x7D) ts
    have heach : List.Forall₂ (fun m t => IsMember (fun u =>
        Takes (value (n + 1) (depth - 1)) u (m.2.settle Number.reread)) m.1 t) ms ts := by
      refine forall₂_of_mem (membersSpelledBy_iff.mp hts) fun m hm t ht hmt => ?_
      obtain ⟨u, htext, hu, huLength⟩ := length_le_of_isMember hmt
      have hmLength := hlength t ht
      have hmNesting := nesting_le_of_mem_members hm
      exact ⟨u, htext, ih m hm hu (by omega) (by omega)⟩
    intro rest _
    rw [List.cons_append, value_object (by omega), members_listedTexts heach (by omega),
      settle_object]
    rfl

/-- **A text that spells a value is that value**, settled, if it is not nested too deeply: which of
the texts that spell it does not matter. -/
theorem SpelledBy.parse_eq {j : Json} {cs : List Char} (h : SpelledBy j cs)
    (hdepth : nesting j < levels) :
    parse (String.ofList cs) = .ok (j.settle Number.reread) := by
  have hread := h.takes (Nat.le_refl _) hdepth [] endsNumeral_nil
  rw [List.append_nil] at hread
  unfold parse
  rw [String.toList_ofList]
  show (value cs.length.succ levels cs >>= whole) = _
  rw [hread]
  rfl

/-- **The text of a value is that value**, settled: members in order, the later of two of one key,
and each number as its own text is read. -/
theorem parse_render {j : Json} (numbers : Numbers Number.IsReadable j)
    (hdepth : nesting j < levels) : parse (render j) = .ok (j.settle Number.reread) :=
  (spelledBy_text numbers).parse_eq hdepth

end RestClient.Json
