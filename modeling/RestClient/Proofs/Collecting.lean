import RestClient.Proofs.MapKeys
import RestClient.Proofs.NamedFields

/-!
# What is collected from the members of an object

A typed reader collects the members of an object as it meets them, a dynamic value has them in the
order of their keys and of two of one key only the later one. What is collected is the same in the
end.

Of a map that is because entries of different keys may be put in their places in any order
(`insertEntry_comm`), and one of the same key replaces the other (`insertEntry_insertEntry`). So a
member that takes its place among those in order adds its entry to theirs, wherever it comes in the
text (`Entered.insert`).

Of a record only what is found under the name of each field counts (`Field.assemble_congr`), and
under each name the same is found: a field that is met twice is refused (`Given.insert_known`), and
what is not a field is not looked at (`Given.insert_unknown`).
-/

namespace RestClient

open Json (keyOf keyText)

/-! ## The order of keys -/

theorem Datum.not_keyLt_self (a : Datum) : a.keyLt a = false := by
  unfold Datum.keyLt
  split
  · simp
  · simp
  · simp
  · rfl

namespace KeyShape.Holds

variable {k : KeyShape} {a b c : Datum}

theorem trichotomy (ha : k.Holds a) (hb : k.Holds b) :
    a.keyLt b = true ∨ a = b ∨ b.keyLt a = true := by
  cases ha with
  | text s =>
    cases hb with
    | text t => simpa [Datum.keyLt] using Std.lt_trichotomy s t
  | @int _ m _ =>
    cases hb with
    | @int _ n _ => simpa [Datum.keyLt] using Int.lt_trichotomy m n
  | bool x =>
    cases hb with
    | bool y => cases x <;> cases y <;> simp [Datum.keyLt]

theorem keyLt_trans (ha : k.Holds a) (hb : k.Holds b) (hc : k.Holds c) (hab : a.keyLt b = true)
    (hbc : b.keyLt c = true) : a.keyLt c = true := by
  cases ha with
  | text s =>
    cases hb with
    | text t =>
      cases hc with
      | text u =>
        simp only [Datum.keyLt, decide_eq_true_eq] at hab hbc ⊢
        exact String.lt_trans hab hbc
  | int _ =>
    cases hb with
    | int _ =>
      cases hc with
      | int _ =>
        simp only [Datum.keyLt, decide_eq_true_eq] at hab hbc ⊢
        exact Int.lt_trans hab hbc
  | bool x =>
    cases hb with
    | bool y =>
      cases hc with
      | bool z =>
        cases x <;> cases y <;> cases hab
        cases hbc

theorem keyLt_asymm (ha : k.Holds a) (hb : k.Holds b) (h : a.keyLt b = true) :
    b.keyLt a = false := by
  cases hba : b.keyLt a with
  | false => rfl
  | true =>
    have haa := ha.keyLt_trans hb ha h hba
    rw [Datum.not_keyLt_self] at haa
    cases haa

end KeyShape.Holds

namespace Datum

variable {k : KeyShape} {a b : Datum} {entries : List (Datum × Datum)}

/-- **An entry replaces one of the same key**, and nothing is left of it. -/
theorem insertEntry_insertEntry (a x y : Datum) (entries : List (Datum × Datum)) :
    insertEntry a x (insertEntry a y entries) = insertEntry a x entries := by
  induction entries with
  | nil =>
    unfold insertEntry
    simp [not_keyLt_self, insertEntry]
  | cons e rest ih =>
    obtain ⟨c, z⟩ := e
    by_cases hac : a.keyLt c = true
    · simp [insertEntry, hac, not_keyLt_self]
    · by_cases hca : c.keyLt a = true
      · simp [insertEntry, hac, hca, ih]
      · simp [insertEntry, hac, hca, not_keyLt_self]

/-- **Entries of different keys may be put in their places in any order**, as the keys of one type
are in a linear order. -/
theorem insertEntry_comm (ha : k.Holds a) (hb : k.Holds b) (hne : a ≠ b)
    (hentries : ∀ e ∈ entries, k.Holds e.1) (x y : Datum) :
    insertEntry a x (insertEntry b y entries) = insertEntry b y (insertEntry a x entries) := by
  -- it is enough to look at the smaller of the two
  wlog hab : a.keyLt b = true generalizing a b x y
  · have hba : b.keyLt a = true := by
      rcases ha.trichotomy hb with h | h | h
      · exact absurd h hab
      · exact absurd h hne
      · exact h
    exact (this hb ha hne.symm y x hba).symm
  have hba := ha.keyLt_asymm hb hab
  induction entries with
  | nil => simp [insertEntry, hab, hba]
  | cons e rest ih =>
    obtain ⟨c, z⟩ := e
    obtain ⟨hc, hrest⟩ := List.forall_mem_cons.mp hentries
    by_cases hac : a.keyLt c = true
    · by_cases hbc : b.keyLt c = true
      · simp [insertEntry, hab, hba, hac, hbc]
      · by_cases hcb : c.keyLt b = true
        · simp [insertEntry, hab, hba, hac, hbc, hcb]
        · simp [insertEntry, hab, hba, hac, hbc, hcb]
    · by_cases hca : c.keyLt a = true
      · have hcb := hc.keyLt_trans ha hb hca hab
        have hbc := hc.keyLt_asymm hb hcb
        simp [insertEntry, hac, hca, hbc, hcb, ih hrest]
      · obtain rfl : a = c := by
          rcases ha.trichotomy hc with h | h | h
          · exact absurd h hac
          · exact h
          · exact absurd h hca
        simp [insertEntry, hab, hba, hac]

theorem mem_insertEntry {e : Datum × Datum} {x : Datum} (h : e ∈ insertEntry a x entries) :
    e = (a, x) ∨ e ∈ entries := by
  induction entries with
  | nil => exact .inl (List.mem_singleton.mp h)
  | cons f rest ih =>
    unfold insertEntry at h
    split at h
    · exact List.mem_cons.mp h
    · split at h
      · rcases List.mem_cons.mp h with rfl | h
        · exact .inr List.mem_cons_self
        · exact (ih h).imp_right (List.mem_cons_of_mem f)
      · exact (List.mem_cons.mp h).imp_right (List.mem_cons_of_mem f)

/-- Entries put in their places, one after the other. -/
def insertEntries (entries added : List (Datum × Datum)) : List (Datum × Datum) :=
  added.foldl (fun acc e => insertEntry e.1 e.2 acc) entries

/-- **An entry may be put in its place before entries of other keys or after them.** Readers that
meet the entries in different orders come to the same map by this. -/
theorem insertEntries_insertEntry {added : List (Datum × Datum)} (ha : k.Holds a)
    (hentries : ∀ e ∈ entries, k.Holds e.1) (hadded : ∀ e ∈ added, k.Holds e.1 ∧ e.1 ≠ a)
    (x : Datum) :
    insertEntries (insertEntry a x entries) added =
      insertEntry a x (insertEntries entries added) := by
  induction added generalizing entries with
  | nil => rfl
  | cons e added ih =>
    obtain ⟨⟨he, hne⟩, hrest⟩ := List.forall_mem_cons.mp hadded
    show insertEntries (insertEntry e.1 e.2 (insertEntry a x entries)) added = _
    rw [insertEntry_comm he ha hne hentries]
    refine ih (fun f hf => ?_) hrest
    rcases mem_insertEntry hf with rfl | hf
    · exact he
    · exact hentries f hf

/-- An entry that comes later replaces one of the same key, whatever lies between them. -/
theorem insertEntries_replace {added : List (Datum × Datum)} (ha : k.Holds a)
    (hentries : ∀ e ∈ entries, k.Holds e.1) (hadded : ∀ e ∈ added, k.Holds e.1 ∧ e.1 ≠ a)
    (x y : Datum) :
    insertEntry a x (insertEntries (insertEntry a y entries) added) =
      insertEntries (insertEntry a x entries) added := by
  calc insertEntry a x (insertEntries (insertEntry a y entries) added)
    _ = insertEntry a x (insertEntry a y (insertEntries entries added)) := by
      rw [insertEntries_insertEntry ha hentries hadded]
    _ = insertEntry a x (insertEntries entries added) := insertEntry_insertEntry ..
    _ = insertEntries (insertEntry a x entries) added :=
      (insertEntries_insertEntry ha hentries hadded x).symm

end Datum

/-! ## Maps -/

section Maps

variable {key : KeyShape} {item : Shape}

/-- **A member of an object and the entry of a map that it becomes**: the name is read as the key,
and the member's value as the value. -/
structure IsEntry (key : KeyShape) (item : Shape) (m : String × Json) (e : Datum × Datum) :
    Prop where
  key : keyOf key m.1 = .ok e.1
  value : item.Reads e.2 m.2

/-- **The entries of the members of an object**, each in its place. The members are in order of
their names, and the entries in order of their keys, which for numbers is another one. -/
def Entered (key : KeyShape) (item : Shape) (entries : List (Datum × Datum))
    (ms : List (String × Json)) : Prop :=
  (ms.map Prod.fst).Pairwise (· < ·) ∧
  ∃ added, List.Forall₂ (IsEntry key item) ms added ∧ entries = Datum.insertEntries [] added

theorem IsEntry.holds {m : String × Json} {e : Datum × Datum} (h : IsEntry key item m e) :
    key.Holds e.1 := (Json.keyOf_eq_ok h.key).1

theorem IsEntry.name_eq {m : String × Json} {e : Datum × Datum} (h : IsEntry key item m e) :
    m.1 = keyText e.1 := (Json.keyOf_eq_ok h.key).2

/-- The entries of members with other keys have other keys. -/
theorem forall_holds_and_ne {ms : List (String × Json)} {added : List (Datum × Datum)}
    (h : List.Forall₂ (IsEntry key item) ms added) {s : String} {k : Datum}
    (hk : keyOf key s = .ok k) (hne : ∀ m ∈ ms, m.1 ≠ s) :
    ∀ e ∈ added, key.Holds e.1 ∧ e.1 ≠ k := by
  induction h with
  | nil => exact nofun
  | @cons m e ms added hm _ ih =>
    obtain ⟨hms, hrest⟩ := List.forall_mem_cons.mp hne
    refine List.forall_mem_cons.mpr ⟨⟨hm.holds, fun heq => hms ?_⟩, ih hrest⟩
    rw [hm.name_eq, heq, (Json.keyOf_eq_ok hk).2]

/-- A member put among those in order adds its entry to theirs. -/
theorem exists_forall₂_insert {ms : List (String × Json)} {added : List (Datum × Datum)}
    (h : List.Forall₂ (IsEntry key item) ms added) (hms : (ms.map Prod.fst).Pairwise (· < ·))
    {s : String} {j : Json} {k d : Datum} (hk : keyOf key s = .ok k)
    (hd : item.Reads d j) {entries : List (Datum × Datum)}
    (hentries : ∀ e ∈ entries, key.Holds e.1) :
    ∃ added', List.Forall₂ (IsEntry key item) (Json.insert s j ms) added' ∧
      Datum.insertEntries entries added' =
        Datum.insertEntry k d (Datum.insertEntries entries added) := by
  have hnew : IsEntry key item (s, j) (k, d) := ⟨hk, hd⟩
  induction h generalizing entries with
  | nil => exact ⟨[(k, d)], .cons hnew .nil, rfl⟩
  | @cons m e ms added hm hrest ih =>
    rw [List.map_cons, List.pairwise_cons] at hms
    obtain ⟨hlt, hms⟩ := hms
    have hbehind : ∀ {t : String}, ¬m.1 < t → ∀ m' ∈ ms, m'.1 ≠ t := by
      rintro t ht m' hm' rfl
      exact ht (hlt _ (List.mem_map_of_mem hm'))
    unfold Json.insert
    split
    · next hs =>
      have hne : ∀ m' ∈ m :: ms, m'.1 ≠ s :=
        List.forall_mem_cons.mpr ⟨(String.ne_of_lt hs).symm, hbehind (String.lt_asymm hs)⟩
      refine ⟨(k, d) :: e :: added, .cons hnew (.cons hm hrest), ?_⟩
      exact Datum.insertEntries_insertEntry hnew.holds hentries
        (forall_holds_and_ne (.cons hm hrest) hk hne) d
    · split
      · next heq =>
        obtain rfl : e.1 = k := Except.ok.inj (hm.key.symm.trans (heq ▸ hk))
        have hadded := forall_holds_and_ne hrest hm.key (hbehind (String.lt_irrefl m.1))
        refine ⟨(e.1, d) :: added, .cons hnew hrest, ?_⟩
        exact (Datum.insertEntries_replace hm.holds hentries hadded d e.2).symm
      · have hentries' : ∀ f ∈ Datum.insertEntry e.1 e.2 entries, key.Holds f.1 := by
          intro f hf
          rcases Datum.mem_insertEntry hf with rfl | hf
          · exact hm.holds
          · exact hentries f hf
        obtain ⟨added', h', heq⟩ := ih hms hentries'
        exact ⟨e :: added', .cons hm h', heq⟩

theorem Entered.nil : Entered key item [] [] := ⟨.nil, [], .nil, rfl⟩

/-- **A member that is read adds its entry**, wherever it comes in the text, and replaces that of a
member with the same key if there was one. -/
theorem Entered.insert {entries : List (Datum × Datum)} {ms : List (String × Json)}
    (h : Entered key item entries ms) {s : String} {j : Json} {k d : Datum}
    (hk : keyOf key s = .ok k) (hd : item.Reads d j) :
    Entered key item (Datum.insertEntry k d entries) (Json.insert s j ms) := by
  obtain ⟨hms, added, hadded, rfl⟩ := h
  obtain ⟨added', hadded', heq⟩ :=
    exists_forall₂_insert hadded hms hk hd (List.forall_mem_nil _)
  exact ⟨Json.pairwise_insert s j hms, added', hadded', heq.symm⟩

theorem entriesOf_yields {ms : List (String × Json)} {added : List (Datum × Datum)}
    (h : List.Forall₂ (IsEntry key item) ms added) (entries : List (Datum × Datum)) :
    (Json.entriesOf key item.ofJson entries ms).Yields (Datum.insertEntries entries added)
      (∀ m ∈ ms, item.namesFields m.2 = true) := by
  induction h generalizing entries with
  | nil => exact .of_ok rfl nofun
  | @cons m e ms added hm _ ih =>
    obtain ⟨s, j⟩ := m
    rw [Json.entriesOf, hm.key]
    refine (hm.value.bind (ih _)).congr (Iff.symm ?_)
    exact List.forall_mem_cons (p := fun m : String × Json => item.namesFields m.2 = true)

/-- **The entries of an object are read from its members in order**, and they are read if the fields
of variants are named in all of their values. -/
theorem Entered.yields {entries : List (Datum × Datum)} {ms : List (String × Json)}
    (h : Entered key item entries ms) :
    (Json.entriesOf key item.ofJson [] ms).Yields entries
      (∀ m ∈ ms, item.namesFields m.2 = true) := by
  obtain ⟨-, added, hadded, rfl⟩ := h
  exact entriesOf_yields hadded []

end Maps

/-! ## Records -/

/-- **What is found under one name**: nothing, the value of a field on one side and what it is read
from on the other, or a member that no field has the name of, which a strict record does not
allow. -/
inductive Slot (strict : Bool) : Option (Field Shape) → Option Datum → Option Json → Prop where
  | empty (f? : Option (Field Shape)) : Slot strict f? none none
  | known {f : Field Shape} {d : Datum} {j : Json} (h : f.shape.Reads d j) :
    Slot strict (some f) (some d) (some j)
  | unknown (h : strict = false) (j : Json) : Slot strict none none (some j)

theorem Slot.eq_none {strict : Bool} {f? : Option (Field Shape)} {d? : Option Datum}
    (h : Slot strict f? d? none) : d? = none := by
  cases h
  rfl

variable {strict : Bool} {fields : List (Field Shape)} {given : List (String × Datum)}
  {ms : List (String × Json)}

/-- **The fields that were given and the members in order**: the same is found under each name,
though the members came in any order and the fields are kept in the order in which they came. -/
structure Given (strict : Bool) (fields : List (Field Shape)) (given : List (String × Datum))
    (ms : List (String × Json)) : Prop where
  ordered : (ms.map Prod.fst).Pairwise (· < ·)
  found : ∀ name, Slot strict (Field.named fields name) (given.lookup name) (ms.lookup name)

namespace Given

theorem nil (strict : Bool) (fields : List (Field Shape)) : Given strict fields [] [] :=
  ⟨.nil, fun _ => .empty _⟩

/-- **A field that is read keeps the two alike**, wherever its member comes in the text: under its
name both sides have it now, and under all others nothing has changed. -/
theorem insert_known (h : Given strict fields given ms) {name : String} {f : Field Shape}
    (hf : Field.named fields name = some f) {d : Datum} {j : Json} (hd : f.shape.Reads d j) :
    Given strict fields ((name, d) :: given) (Json.insert name j ms) := by
  refine ⟨Json.pairwise_insert name j h.ordered, fun n => ?_⟩
  rw [Json.lookup_cons_eq_ite, Json.lookup_insert]
  by_cases hn : n = name
  · rw [if_pos hn, if_pos hn, hn, hf]
    exact .known hd
  · rw [if_neg hn, if_neg hn]
    exact h.found n

/-- A member that is passed over keeps the two alike. -/
theorem insert_unknown (h : Given false fields given ms) {name : String}
    (hf : Field.named fields name = none) (j : Json) :
    Given false fields given (Json.insert name j ms) := by
  refine ⟨Json.pairwise_insert name j h.ordered, fun n => ?_⟩
  rw [Json.lookup_insert]
  by_cases hn : n = name
  · have hslot := h.found n
    rw [hn, hf] at hslot
    rw [if_pos hn, hn, hf]
    generalize given.lookup name = d?, ms.lookup name = j? at hslot ⊢
    cases hslot with
    | empty => exact .unknown rfl j
    | unknown hstrict _ => exact .unknown hstrict j
  · rw [if_neg hn]
    exact h.found n

end Given

/-- Of members in order each is found under its key. -/
theorem lookup_of_mem {m : String × Json} (hms : (ms.map Prod.fst).Pairwise (· < ·))
    (hm : m ∈ ms) : ms.lookup m.1 = some m.2 := by
  induction ms with
  | nil => cases hm
  | cons n ms ih =>
    rw [List.map_cons, List.pairwise_cons] at hms
    obtain ⟨hlt, hms⟩ := hms
    rw [Json.lookup_cons_eq_ite]
    rcases List.mem_cons.mp hm with rfl | hm
    · rw [if_pos rfl]
    · rw [if_neg (String.ne_of_lt (hlt m.1 (List.mem_map_of_mem hm))).symm, ih hms hm]

theorem givenOf_known (names : List String) {acc : List (String × Datum)} {s : String}
    {f : Field Shape} (hf : Field.named fields s = some f) (hacc : acc.lookup s = none) (j : Json) :
    Json.givenOf strict names (Shape.fieldOf fields) acc ((s, j) :: ms) =
      f.shape.ofJson j >>= fun d =>
        Json.givenOf strict names (Shape.fieldOf fields) ((s, d) :: acc) ms := by
  rw [Json.givenOf, Shape.fieldOf_eq, hf]
  show (if (acc.lookup s).isSome then _ else _) = _
  rw [hacc]
  rfl

theorem givenOf_unknown (names : List String) {s : String} (hf : Field.named fields s = none)
    (acc : List (String × Datum)) (j : Json) :
    Json.givenOf false names (Shape.fieldOf fields) acc ((s, j) :: ms) =
      Json.givenOf false names (Shape.fieldOf fields) acc ms := by
  rw [Json.givenOf, Shape.fieldOf_eq, hf]
  rfl

/-- What one member adds to what is found, it adds under its own name. -/
theorem found_cons {found : String → Option Datum} {keys : List String} {s : String}
    {acc acc' : List (String × Datum)} (hs : s ∉ keys) (hhere : acc'.lookup s = found s)
    (hthere : ∀ name, name ≠ s → acc'.lookup name = acc.lookup name) (name : String) :
    (if name ∈ keys then found name else acc'.lookup name) =
      if name ∈ s :: keys then found name else acc.lookup name := by
  by_cases hname : name = s
  · rw [hname, if_neg hs, if_pos List.mem_cons_self, hhere]
  · rw [hthere name hname]
    exact if_congr (List.mem_cons.trans (or_iff_right hname)).symm rfl rfl

/-- **What is given by members in order**: under each of their names what they were read as. -/
theorem givenOf_yields (names : List String) (found : String → Option Datum)
    (hms : (ms.map Prod.fst).Pairwise (· < ·))
    (h : ∀ m ∈ ms, Slot strict (Field.named fields m.1) (found m.1) (some m.2))
    {acc : List (String × Datum)} (hacc : ∀ m ∈ ms, acc.lookup m.1 = none) :
    ∃ given, (Json.givenOf strict names (Shape.fieldOf fields) acc ms).Yields given
        (∀ m ∈ ms, Shape.namesMember fields m.1 m.2 = true) ∧
      ∀ name, given.lookup name =
        if name ∈ ms.map Prod.fst then found name else acc.lookup name := by
  induction ms generalizing acc with
  | nil => exact ⟨acc, .of_ok rfl nofun, fun _ => rfl⟩
  | cons m ms ih =>
    obtain ⟨s, j⟩ := m
    rw [List.map_cons, List.pairwise_cons] at hms
    obtain ⟨hlt, hms⟩ := hms
    obtain ⟨hslot, hslots⟩ := List.forall_mem_cons.mp h
    obtain ⟨hs, hacc⟩ := List.forall_mem_cons.mp hacc
    have hnot : s ∉ ms.map Prod.fst := fun hmem => String.lt_irrefl s (hlt s hmem)
    dsimp only at hslot hs
    generalize hf : Field.named fields s = f? at hslot
    generalize hd : found s = d? at hslot
    cases hslot with
    | @known f d _ hread =>
      have hother : ∀ name, name ≠ s → ((s, d) :: acc).lookup name = acc.lookup name := by
        intro name hname
        rw [Json.lookup_cons_eq_ite, if_neg hname]
      have hacc' : ∀ m ∈ ms, ((s, d) :: acc).lookup m.1 = none := by
        intro m hm
        rw [hother m.1 fun heq => hnot (heq ▸ List.mem_map_of_mem hm), hacc m hm]
      obtain ⟨given, hyields, hlookup⟩ := ih hms hslots hacc'
      refine ⟨given, ?_, fun name => ?_⟩
      · rw [givenOf_known names hf hs]
        refine (hread.bind hyields).congr ?_
        rw [List.forall_mem_cons, Shape.namesMember_eq, hf]
        rfl
      · rw [hlookup, found_cons hnot (List.lookup_cons_self.trans hd.symm) hother]
        rfl
    | unknown hstrict _ =>
      subst hstrict
      obtain ⟨given, hyields, hlookup⟩ := ih hms hslots hacc
      refine ⟨given, ?_, fun name => ?_⟩
      · rw [givenOf_unknown names hf]
        refine hyields.congr ?_
        rw [List.forall_mem_cons, Shape.namesMember_eq, hf]
        exact (and_iff_right rfl).symm
      · rw [hlookup, found_cons hnot (hs.trans hd.symm) fun _ _ => rfl]
        rfl

/-- **The same is given by the members in order**, name by name, if the fields of variants are named
in them. -/
theorem Given.yields (h : Given strict fields given ms) (names : List String) :
    ∃ given', (Json.givenOf strict names (Shape.fieldOf fields) [] ms).Yields given'
        (∀ m ∈ ms, Shape.namesMember fields m.1 m.2 = true) ∧
      ∀ name, given'.lookup name = given.lookup name := by
  have hslots : ∀ m ∈ ms, Slot strict (Field.named fields m.1) (given.lookup m.1) (some m.2) := by
    intro m hm
    rw [← lookup_of_mem h.ordered hm]
    exact h.found m.1
  have hnil : ∀ m ∈ ms, ([] : List (String × Datum)).lookup m.1 = none := fun _ _ => rfl
  obtain ⟨given', hyields, hlookup⟩ :=
    givenOf_yields names (given.lookup ·) h.ordered hslots hnil
  refine ⟨given', hyields, fun name => ?_⟩
  rw [hlookup]
  split
  · rfl
  · next hname =>
    have hnone : ms.lookup name = none := by
      rw [List.lookup_eq_none_iff]
      intro m hm
      rw [bne_iff_ne]
      rintro rfl
      exact hname (List.mem_map_of_mem hm)
    have hslot := h.found name
    rw [hnone] at hslot
    exact hslot.eq_none.symm

/-- **Only what is found under the names of the fields counts**, so the order in which fields were
given does not. -/
theorem Field.assemble_congr {given given' : List (String × Datum)}
    (h : ∀ name, given'.lookup name = given.lookup name) (fields : List (Field Shape)) :
    Field.assemble fields given' = Field.assemble fields given := by
  induction fields with
  | nil => rfl
  | cons f rest ih => rw [Field.assemble, Field.assemble, h, ih]

end RestClient
