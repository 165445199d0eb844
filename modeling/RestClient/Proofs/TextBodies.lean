import RestClient.ContentType
import RestClient.Proofs.AsGiven
import RestClient.Sample.Schema

/-!
# Bodies under a content type that translates nothing

Under a content type without a translation of its own a text is sent as it is and anything else in
JSON, while a response is only ever taken as a text. So what comes back as it was sent are the
values that are texts, whatever their type: texts, single characters, names of variants, dynamic
values that are texts (`ContentType.read_write_text`). For all other values something else comes
back, or nothing at all.

That a value is of a type is `Shape.Holds`, with one rule for each form of types. Two forms of types
hold texts that are not taken from a text: an optional value, and a record around one value. The
statement is about types in which neither hides a text (`Shape.IsPlain`), as are all the types of
the sample schema that are not optional themselves.
-/

namespace RestClient

/-! ## Values of a type -/

/-- A key of a map of a type. -/
inductive KeyShape.Holds : KeyShape → Datum → Prop where
  | text (s : String) : Holds .text (.text s)
  | int {k : WordKind} {n : Int} (fits : k.contains n = true) : Holds (.int k) (.int k n)
  | bool (b : Bool) : Holds .bool (.bool b)

/-- The fields of a record, without those that are left out. -/
def Field.placeAll (fields : List (Field Shape)) (values : List Datum) : List (String × Datum) :=
  (fields.zip values).foldr (fun p rest => p.1.place p.2 rest) []

/-- **A value of a type**: what a reader of the type can give, and what a program that has the type
can hold. Maps are in the order of their keys, and fields that are left out when they are absent are
left out. -/
inductive Shape.Holds : Shape → Datum → Prop where
  | any (j : Json) : Holds .any j.toDatum
  | unit : Holds .unit .unit
  | bool (b : Bool) : Holds .bool (.bool b)
  | int {k : WordKind} {n : Int} (fits : k.contains n = true) : Holds (.int k) (.int k n)
  | float (x : Binary64) : Holds .float (.float x)
  | char (c : Char) : Holds .char (.char c)
  | text (s : String) : Holds .text (.text s)
  | absent (inner : Shape) : Holds (.option inner) .absent
  | present {inner : Shape} {d : Datum} (value : Holds inner d) : Holds (.option inner) (.present d)
  | seq {item : Shape} {ds : List Datum} (items : ∀ d ∈ ds, Holds item d) :
    Holds (.seq item) (.seq ds)
  | tuple {shapes : List Shape} {ds : List Datum} (items : List.Forall₂ Holds shapes ds) :
    Holds (.tuple shapes) (.tuple ds)
  | map {key : KeyShape} {value : Shape} {entries : List (Datum × Datum)}
    (keys : ∀ e ∈ entries, key.Holds e.1) (values : ∀ e ∈ entries, Holds value e.2)
    (ordered : entries.Pairwise fun e e' => e.1.keyLt e'.1 = true) :
    Holds (.map key value) (.map entries)
  | unitRecord (name : String) : Holds (.unitRecord name) (.unitRecord name)
  | wrapper {name : String} {inner : Shape} {d : Datum} (value : Holds inner d) :
    Holds (.wrapper name inner) (.wrapper name d)
  | record {name : String} {strict : Bool} {fields : List (Field Shape)} {ds : List Datum}
    (values : List.Forall₂ (fun f d => Holds f.shape d) fields ds) :
    Holds (.record name strict fields) (.record name (Field.placeAll fields ds))
  | unitVariant {name variant : String} {variants : List (String × VariantBody Shape)}
    (declared : (variant, .unit) ∈ variants) :
    Holds (.choice name variants) (.unitVariant name variant)
  | wrapperVariant {name variant : String} {variants : List (String × VariantBody Shape)}
    {inner : Shape} {d : Datum} (declared : (variant, .wrapper inner) ∈ variants)
    (value : Holds inner d) :
    Holds (.choice name variants) (.wrapperVariant name variant d)
  | tupleVariant {name variant : String} {variants : List (String × VariantBody Shape)}
    {shapes : List Shape} {ds : List Datum} (declared : (variant, .tuple shapes) ∈ variants)
    (items : List.Forall₂ Holds shapes ds) :
    Holds (.choice name variants) (.tupleVariant name variant ds)
  | recordVariant {name variant : String} {variants : List (String × VariantBody Shape)}
    {fields : List (Field Shape)} {ds : List Datum}
    (declared : (variant, .record fields) ∈ variants)
    (values : List.Forall₂ (fun f d => Holds f.shape d) fields ds) :
    Holds (.choice name variants) (.recordVariant name variant (Field.placeAll fields ds))

namespace Shape

/-- Whether a text may be a value of the type when it is read from a text alone. -/
def takesText : Shape → Bool
  | .any | .char | .text | .choice _ _ => true
  | _ => false

/-- Whether a value of the type may be a text in JSON. -/
def mayBeText : Shape → Bool
  | .any | .char | .text | .choice _ _ => true
  | .option inner | .wrapper _ inner => inner.mayBeText
  | _ => false

/-- **A type that hides no text**: it is not optional and no record around a text, and its variants
have names of their own. -/
def IsPlain : Shape → Prop
  | .option _ => False
  | .wrapper _ inner => inner.mayBeText = false
  | .choice _ variants => (variants.map Prod.fst).Nodup
  | .any | .unit | .bool | .int _ | .float | .char | .text | .seq _ | .tuple _ | .map _ _
  | .unitRecord _ | .record _ _ _ => True

instance : DecidablePred IsPlain
  | .option _ => .isFalse id
  | .wrapper _ inner => inferInstanceAs (Decidable (inner.mayBeText = false))
  | .choice _ variants => inferInstanceAs (Decidable (variants.map Prod.fst).Nodup)
  | .any | .unit | .bool | .int _ | .float | .char | .text | .seq _ | .tuple _ | .map _ _
  | .unitRecord _ | .record _ _ _ => .isTrue trivial

end Shape

/-! ## What is written -/

/-- The text that a value is in JSON, if it is one. -/
def Datum.text? : Datum → Option String
  | .text s => some s
  | .char c => some (String.ofList [c])
  | .unitVariant _ variant => some variant
  | .present inner | .wrapper _ inner => inner.text?
  | _ => none

/-- **Which values are texts in JSON**: texts, characters, bare variants, and what is optional or
wrapped around one of these. -/
theorem Datum.toJson_eq_string_iff {d : Datum} {t : String} :
    d.toJson = .ok (.string t) ↔ d.text? = some t := by
  induction d using Datum.induction with
  | text s | char c | unitVariant choice variant => simp [toJson, text?]
  | present d ih | wrapper name d ih => exact ih
  | unit | bool b | absent | unitRecord name | refused reason => simp [toJson, text?]
  | int k n =>
    refine iff_of_false (fun h => ?_) (by simp [text?])
    rw [toJson, intToJson] at h
    split at h <;> cases h
  | float x | float32 x =>
    exact iff_of_false (fun h => Json.ite_ne_string (Except.ok.inj h)) (by simp [text?])
  | seq items | tuple items | map entries | record name fields | wrapperVariant choice variant d
  | tupleVariant choice variant items | recordVariant choice variant fields =>
    refine iff_of_false (fun h => ?_) (by simp [text?])
    obtain ⟨_, -, h⟩ := Except.map_eq_ok.mp h
    cases h

theorem Json.eq_string_of_text? {j : Json} {t : String} (h : j.toDatum.text? = some t) :
    j = .string t := by
  cases j with
  | string s =>
    cases h
    rfl
  | number n =>
    cases n with
    | int k =>
      change (if k < 0 then Datum.int .i64 k else .int .u64 k).text? = _ at h
      split at h <;> cases h
    | float x => cases h
  | null | bool b | array items | object members => cases h

namespace Shape

/-- No value of the other types is a text. -/
theorem Holds.text?_eq_none {shape : Shape} {d : Datum} (h : shape.Holds d)
    (hshape : shape.mayBeText = false) : d.text? = none := by
  induction shape using Shape.mayBeText.induct generalizing d with
  | case1 | case2 | case3 | case4 => cases hshape
  | case5 inner ih =>
    cases h with
    | absent => rfl
    | present value =>
      have hinner := ih value hshape
      exact hinner
  | case6 name inner ih =>
    cases h with
    | wrapper value =>
      have hinner := ih value hshape
      exact hinner
  | case7 shape hany hchar htext hchoice hoption hwrapper =>
    cases h with
    | any j => exact absurd rfl hany
    | char c => exact absurd rfl hchar
    | text s => exact absurd rfl htext
    | absent | present value => exact absurd rfl (hoption _)
    | wrapper value => exact absurd rfl (hwrapper _ _)
    | unit | bool b | int fits | float x | seq items | tuple items | map keys values ordered
    | unitRecord name | record values => rfl
    | unitVariant declared | wrapperVariant declared value | tupleVariant declared items
    | recordVariant declared values => exact absurd rfl (hchoice _ _)

/-! ## What is read -/

theorem ofText_of_not_takesText {shape : Shape} (h : shape.takesText = false) (t : String) :
    shape.ofText t = .error (.wrongType (.text t) shape.expecting) := by
  cases shape with
  | any | char | text | choice name variants => cases h
  | unit | bool | int k | float | option inner | seq item | tuple items | map key value
  | unitRecord name | wrapper name inner | record name strict fields => rfl

theorem bareOfText_eq_ok {name : String} {known : List String} {t : String}
    {variants : List (String × VariantBody Shape)} {d : Datum}
    (h : bareOfText name known t variants = .ok d) : d = .unitVariant name t := by
  induction variants with
  | nil => cases h
  | cons v rest ih =>
    unfold bareOfText at h
    split at h
    · next heq =>
      split at h
      · cases h
        rw [heq]
      all_goals cases h
    · exact ih h

/-- The name of a variant without content is read as the variant. -/
theorem bareOfText_of_mem {name : String} {known : List String} {t : String}
    {variants : List (String × VariantBody Shape)} (hnames : (variants.map Prod.fst).Nodup)
    (h : (t, .unit) ∈ variants) : bareOfText name known t variants = .ok (.unitVariant name t) := by
  induction variants with
  | nil => cases h
  | cons v rest ih =>
    rw [List.map_cons, List.nodup_cons] at hnames
    rcases List.mem_cons.mp h with rfl | hrest
    · exact if_pos rfl
    · have hne : v.1 ≠ t := by
        rintro rfl
        exact hnames.1 (List.mem_map.mpr ⟨_, hrest, rfl⟩)
      unfold bareOfText
      rw [if_neg hne]
      exact ih hnames.2 hrest

theorem ofText_char_eq_ok {t : String} {d : Datum} (h : Shape.char.ofText t = .ok d) :
    ∃ c, d = .char c ∧ t = String.ofList [c] := by
  change Shape.char.ofScalar (.text t) = _ at h
  rw [ofScalar] at h
  split at h
  · next c hc =>
    cases h
    exact ⟨c, rfl, by rw [← hc, String.ofList_toList]⟩
  · cases h

/-- **What is read from a text alone is that text**, whatever the type, so no value is ever made of
a text that is not its own. -/
theorem text?_of_ofText {shape : Shape} {t : String} {d : Datum} (h : shape.ofText t = .ok d) :
    d.text? = some t := by
  cases shape with
  | any | text =>
    cases h
    rfl
  | char =>
    obtain ⟨c, rfl, rfl⟩ := ofText_char_eq_ok h
    rfl
  | choice name variants =>
    obtain rfl := bareOfText_eq_ok h
    rfl
  | unit | bool | int k | float | option inner | seq item | tuple items | map key value
  | unitRecord name | wrapper name inner | record name strict fields => cases h

/-- **A value that is a text is read from this text**, if its type hides none: nothing stands
between the type and the text that a text alone could not say. -/
theorem Holds.ofText {shape : Shape} {d : Datum} (h : shape.Holds d) (hshape : shape.IsPlain)
    {t : String} (ht : d.text? = some t) : shape.ofText t = .ok d := by
  cases h with
  | any j =>
    obtain rfl := Json.eq_string_of_text? ht
    rfl
  | text s =>
    cases ht
    rfl
  | char c =>
    cases ht
    show Shape.char.ofScalar (.text (String.ofList [c])) = _
    simp [ofScalar]
  | unitVariant declared =>
    cases ht
    exact bareOfText_of_mem hshape declared
  | wrapper value =>
    have hnone := value.text?_eq_none hshape
    exact absurd (hnone.symm.trans ht) nofun
  | absent | present value => exact hshape.elim
  | unit | bool b | int fits | float x | seq items | tuple items | map keys values ordered
  | unitRecord name | record values | wrapperVariant declared value | tupleVariant declared items
  | recordVariant declared values => cases ht

end Shape

/-- The types of the sample schema that can be read. -/
def Sample.readableTypes : List Shape := [
  .any, .text, .bool, .int u8, .int i32, .int .u64, .int .i64, .float, .char, .unit, .option .text,
  .seq .text, .seq (.int .i64), pair, .map .text (.int .i64), .map (.int .i64) .any,
  .map .bool .any, pet, .seq pet, order, strict, owner, address, tag, mixed, level, figure, search,
  petIdParams, marker, wrap]

theorem Sample.isPlain_of_mem {shape : Shape} (h : shape ∈ readableTypes)
    (hoption : shape.isOption = false) : shape.IsPlain := by
  have hall : ∀ shape ∈ readableTypes, shape.isOption = false → shape.IsPlain := by decide
  exact hall shape h hoption

/-! ## There and back -/

theorem Body.writeText_of_text {d : Datum} {t s : String} (ht : d.toJson = .ok (.string t))
    (hs : Body.writeText d = .ok s) : s = t := by
  rw [Body.writeText, ht, Except.ok.injEq] at hs
  exact hs.symm

/-- **The values that come back as they were sent are those that are texts**, under a content type
that translates nothing. A text is taken as it is by the types of texts and of dynamic values, and
it is never taken by a number, a truth value, the unit, a list, a tuple, a map or a record, even if
it is the very text that a value of the type was written as. -/
theorem ContentType.read_write_text (ct : ContentType) (hrule : ct.rule = .text) :
    (∀ shape : Shape, shape.IsPlain → ∀ v, shape.Holds v → ∀ s, ct.write v = .ok s →
      ∀ status, ct.read shape s status = .ok v ↔ ∃ t, v.toJson = .ok (.string t)) ∧
    (∀ shape ∈ Sample.readableTypes, shape.isOption = false → shape.IsPlain) ∧
    ∀ (t : String) (status : Nat),
      ct.read .text t status = .ok (.text t) ∧
      ct.read .any t status = .ok (Json.string t).toDatum ∧
      ∀ shape : Shape, shape.takesText = false →
        ct.read shape t status = .error (.textMismatch (.wrongType (.text t) shape.expecting)) := by
  have hwrite : ct.write = Body.writeText := by
    unfold write
    rw [hrule]
  have hread : ct.read = Body.readText := by
    unfold read
    rw [hrule]
  rw [hwrite, hread]
  refine ⟨fun shape hshape v hv s hs status => ?_, fun shape => Sample.isPlain_of_mem,
    fun t status => ⟨rfl, rfl, fun shape hshape => ?_⟩⟩
  · constructor
    · intro h
      exact ⟨s, Datum.toJson_eq_string_iff.mpr (Shape.text?_of_ofText (Except.mapError_eq_ok.mp h))⟩
    · rintro ⟨t, ht⟩
      obtain rfl := Body.writeText_of_text ht hs
      exact Except.mapError_eq_ok.mpr (hv.ofText hshape (Datum.toJson_eq_string_iff.mp ht))
  · unfold Body.readText
    rw [Shape.ofText_of_not_takesText hshape]
    rfl

/-- A name of a figure comes back, a figure with content does not, and no text is a pet. -/
theorem ContentType.read_write_text_figure :
    (∀ ct ∈ [xml, yaml, plainText, html, formUrlEncoded, octetStream, Sample.csv],
      ct.rule = .text) ∧
    Sample.figure.IsPlain ∧
    Sample.figure.Holds (.unitVariant "Shape" "Unit") ∧
    ContentType.xml.read Sample.figure "Unit" 200 = .ok (.unitVariant "Shape" "Unit") ∧
    Sample.figure.Holds (.wrapperVariant "Shape" "Newtype" (.int .i64 1)) ∧
    ContentType.xml.read Sample.figure "\x7b\"Newtype\":1\x7d" 200
      ≠ .ok (.wrapperVariant "Shape" "Newtype" (.int .i64 1)) ∧
    ContentType.xml.read Sample.pet "<pet/>" 200
      = .error (.textMismatch (.wrongType (.text "<pet/>") "struct Pet")) := by
  obtain ⟨hback, hplain, htexts⟩ := read_write_text .xml rfl
  have hfigure : Sample.figure.IsPlain := hplain _ (by simp [Sample.readableTypes]) rfl
  have hunit : Sample.figure.Holds (.unitVariant "Shape" "Unit") := .unitVariant (.head _)
  have hwrapper : Sample.figure.Holds (.wrapperVariant "Shape" "Newtype" (.int .i64 1)) :=
    .wrapperVariant (.tail _ (.head _)) (.int rfl)
  refine ⟨by decide, hfigure, hunit, ?_, hwrapper, fun h => ?_, (htexts "<pet/>" 200).2.2 _ rfl⟩
  · exact (hback _ hfigure _ hunit "Unit" rfl 200).mpr ⟨"Unit", rfl⟩
  · obtain ⟨t, ht⟩ := (hback _ hfigure _ hwrapper "\x7b\"Newtype\":1\x7d" rfl 200).mp h
    cases ht

end RestClient
