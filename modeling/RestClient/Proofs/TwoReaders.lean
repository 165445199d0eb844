import RestClient.Body
import RestClient.Proofs.Collecting
import RestClient.Proofs.InStep
import RestClient.Proofs.Skipping
import RestClient.Sample.Types

/-!
# Two readers of JSON

The body of a response in JSON may be read straight from its text (`Body.readJson`), or from the
dynamic value that the text stands for (`Body.readThrough`). The two never give different values,
and where both the type and the dynamic value can be read from the text, only one thing may keep the
second from giving any: a variant whose fields are not named
(`Body.readThrough_parsed_of_readJson`).

Behind that is that all types are read in step (`Shape.inStep`), an induction on types. What is left
of its cases are the objects. Their members are collected one by one, those of a map as entries in
their places (`readEntry_together`), those of a record as fields that were given
(`readMember_together`), and members that are not known are passed over. The object around a variant
has one member (`members_of_single`), and its content is the one place where the two readers differ
in what they accept (`readContent_together`).
-/

namespace RestClient

open Except (Together)
open Json

namespace Shape

/-! ## Members -/

/-- **The entries of a map are in step**, if its values are. Keys are read by their own rules on
both sides and come to the same. -/
theorem readEntry_together {key : KeyShape} {item : Shape} (h : item.InStep) (n depth depth' : Nat)
    {entries : List (Datum × Datum)} {ms : List (String × Json)}
    (hentered : Entered key item entries ms) (cs : List Char) :
    Together (SameRest (Entered key item))
      (readEntry key (item.read depth) entries cs) (memberOf (value n depth') ms cs) := by
  unfold readEntry memberOf
  refine .bind (R := SameRest fun k s => keyOf key s = .ok k)
    ((readKey_together key cs).mapError_right Error.fault) ?_
  rintro ⟨k, r⟩ ⟨s, _⟩ ⟨rfl, hk⟩
  refine (Together.refl _).bind ?_
  rintro r _ rfl
  refine (h n depth depth' r).bind ?_
  rintro ⟨d, r⟩ ⟨j, _⟩ ⟨rfl, hd⟩
  exact .ok ⟨rfl, hentered.insert hk hd⟩

theorem reads_map {key : KeyShape} {item : Shape} {entries : List (Datum × Datum)}
    {ms : List (String × Json)}
    (h : Entered key item entries ms) :
    (Shape.map key item).Reads (.map entries) (.object ms) :=
  (h.yields.map Datum.map).congr List.all_eq_true.symm

theorem inStep_map {key : KeyShape} {item : Shape} (h : item.InStep) : InStep (.map key item) := by
  intro n depth depth' cs
  refine openObject_together _ (fun n depth' r => .bind_left fun depth _ => ?_) n depth' cs
  have hmembers := members_together (I := Entered key item)
    (fun entries ms cs hentered => readEntry_together h n depth depth' hentered cs)
    (r.length + 1) n true r .nil
  refine hmembers.then_left ?_
  rintro ⟨entries, r⟩ ⟨ms, _⟩ _ ⟨rfl, hentered⟩ ⟨⟩
  exact ⟨rfl, reads_map hentered⟩

/-- **The members of a record are in step**, if the fields of each type are: one that is known is
read on both sides, and one that is not is passed over on one of them. -/
theorem readMember_together {fields : List (Field Shape)} (h : ∀ f ∈ fields, f.shape.InStep)
    (strict : Bool) (names : List String) (n depth depth' : Nat) {given : List (String × Datum)}
    {ms : List (String × Json)} (hgiven : Given strict fields given ms) (cs : List Char) :
    Together (SameRest (Given strict fields))
      (Field.readMember strict names (readField fields depth) given cs)
      (memberOf (value n depth') ms cs) := by
  unfold Field.readMember memberOf
  refine (Together.refl _).bind ?_
  rintro ⟨name, r⟩ _ rfl
  dsimp only
  rw [readField_eq]
  cases hfield : Field.named fields name with
  | some f =>
    dsimp only [Option.map]
    split
    · exact .error_left _ _
    · rw [bind_assoc]
      refine (Together.refl _).bind ?_
      rintro r _ rfl
      refine (h f (List.mem_of_find?_eq_some hfield) n depth depth' r).bind ?_
      rintro ⟨d, r⟩ ⟨j, _⟩ ⟨rfl, hd⟩
      exact .ok ⟨rfl, hgiven.insert_known hfield hd⟩
  | none =>
    dsimp only [Option.map]
    cases strict with
    | true => exact .error_left _ _
    | false =>
      show Together _ (skipMemberValue r >>= fun r => pure (given, r)) _
      unfold skipMemberValue
      rw [bind_assoc]
      refine (Together.refl _).bind ?_
      rintro r _ rfl
      refine .bind ((skipValue_together _ n depth' r).mapError_left Error.fault) ?_
      rintro r ⟨j, _⟩ rfl
      exact .ok ⟨rfl, hgiven.insert_unknown hfield j⟩

/-- **A record that is written as an object is in step**, whatever its fields are put in. -/
theorem readFields_together {fields : List (Field Shape)} (h : ∀ f ∈ fields, f.shape.InStep)
    (strict : Bool) (names : List String) (u : List (String × Datum) → Datum)
    (k n depth depth' : Nat) (cs : List Char) :
    Together
      (SameRest fun d ms =>
        (givenOf strict names (fieldOf fields) [] ms >>= fun given =>
          unfit (Field.assemble fields given) >>= fun ds => pure (u ds)).Yields d
          ((ms.all fun m => namesMember fields m.1 m.2) = true))
      (members (Field.readMember strict names (readField fields depth)) k true [] cs >>= fun p =>
        unfit (Field.assemble fields p.1) >>= fun ds => pure (u ds, p.2))
      (members (memberOf (value n depth')) n true [] cs) := by
  have hmembers := members_together (I := Given strict fields)
    (fun given ms cs hgiven => readMember_together h strict names n depth depth' hgiven cs)
    k n true cs (.nil strict fields)
  refine hmembers.then_left ?_
  rintro ⟨given, r⟩ ⟨ms, _⟩ p ⟨rfl, hgiven⟩ hp
  obtain ⟨ds, hds, heq⟩ := Except.bind_eq_ok.mp hp
  cases heq
  obtain ⟨given', hyields, hlookup⟩ := hgiven.yields names
  refine ⟨rfl, (hyields.bind_ok ?_).congr List.all_eq_true.symm⟩
  rw [Field.assemble_congr hlookup, hds]
  rfl

theorem inStep_record {name : String} {strict : Bool} {fields : List (Field Shape)}
    (h : ∀ f ∈ fields, f.shape.InStep) : InStep (.record name strict fields) := by
  intro n depth depth' cs
  rw [read]
  refine front_together (fun _ _ => .error_left _ _) (fun n depth' r => ?_) (fun n depth' r => ?_)
    n depth' cs
  · refine .bind_left fun depth _ => ?_
    exact closeList_together (readPositions_together h _ 0 n n depth depth' r)
      fun _ _ hds => hds.bind_ok rfl
  · refine .bind_left fun depth _ => ?_
    exact readFields_together h strict _ (Datum.record name) _ n depth depth' r

/-! ## Variants -/

theorem contentOf_tuple_yields {choice name : String} {shapes : List Shape} {ds : List Datum}
    {js : List Json}
    (h : (itemsOf shapes ("tuple variant " ++ choice ++ "::" ++ name ++ " with " ++
      elements shapes.length) 0 js).Yields (ds, []) (namesItems shapes js = true)) :
    (contentOf choice name (.tuple shapes) (.array js)).Yields (.tupleVariant choice name ds)
      (namesContent (.tuple shapes) (.array js) = true) := by
  cases js with
  | nil => exact .error _ _ nofun
  | cons j js => exact h.bind_ok rfl

/-- **The content of a variant is in step**, if that of its types is. Of fields that are not named
the dynamic value is refused. -/
theorem readContent_together (choice name : String) {body : VariantBody Shape}
    (h : body.Each InStep) (n depth depth' : Nat) (cs : List Char) :
    Together
      (SameRest fun d j =>
        (contentOf choice name body j).Yields d (namesContent body j = true))
      (readContent choice name body depth cs) (value n depth' cs) := by
  cases body with
  | unit =>
    refine (readScalar_together .unit n depth' cs).map_left fun _ _ ⟨hrest, hd⟩ => ⟨hrest, ?_⟩
    exact .of_ok (Except.map_eq_ok.mpr ⟨_, hd, rfl⟩) rfl
  | wrapper inner =>
    refine (h n depth depth' cs).map_left fun _ _ hp => hp.map_left fun hd => ?_
    exact hd.map (Datum.wrapperVariant choice name)
  | tuple shapes =>
    refine openList_together _ (fun n depth' r => .bind_left fun depth _ => ?_) n depth' cs
    exact closeList_together (readItems_together h _ 0 n n depth depth' r)
      fun _ _ hds => contentOf_tuple_yields hds
  | record fields =>
    refine front_together (fun _ _ => .error_left _ _) (fun n depth' r => ?_) (fun n depth' r => ?_)
      n depth' cs
    · refine .bind_left fun depth _ => ?_
      exact closeList_together (readPositions_together h _ 0 n n depth depth' r)
        fun _ _ _ => .error _ _ nofun
    · refine .bind_left fun depth _ => ?_
      exact readFields_together h false _ (Datum.recordVariant choice name) _ n depth depth' r

/-- **A variant is in step**, from after its name, if the content of each is: the name finds the
same variant on both sides. -/
theorem readVariant_together (choice : String) {variants : List (String × VariantBody Shape)}
    (h : ∀ v ∈ variants, v.2.Each InStep) (known : List String) (v : String)
    (n depth depth' : Nat) (cs : List Char) :
    Together
      (SameRest fun d j =>
        (variantOf choice variants known v j).Yields d (namesVariant variants v j = true))
      (readVariant choice variants known v depth cs)
      (lift (colon cs) >>= value n depth') := by
  induction variants with
  | nil => exact .error_left _ _
  | cons variant rest ih =>
    obtain ⟨name, body⟩ := variant
    obtain ⟨hbody, hrest⟩ := List.forall_mem_cons.mp h
    rw [readVariant_cons]
    simp only [variantOf_cons, namesVariant]
    split
    · refine (Together.refl _).bind ?_
      rintro r _ rfl
      exact readContent_together choice name hbody n depth depth' r
    · exact ih hrest

/-! ### The object around a variant -/

theorem nextKey_of_readVariantName {cs r : List Char} {v : String}
    (h : readVariantName cs = .ok (v, r)) :
    ∃ k, nextKey true cs = .ok (true, k) ∧ readString k = .ok (v, r) := by
  have hfront : front cs = .ok (.scalar (.text v) r) := by
    unfold readVariantName at h
    split at h
    · cases h
    · obtain ⟨f, hf, h⟩ := Except.bind_eq_ok.mp h
      split at h <;> cases h
      exact hf
  rcases front_eq_scalar hfront with ⟨h, -⟩ | ⟨_, k, h, hcs, hk⟩ | ⟨_, h⟩ | ⟨m, h⟩
  · cases h
  · cases h
    refine ⟨k, ?_, hk⟩
    rw [nextKey, hcs]
    rfl
  · cases h
  · cases m <;> cases h

theorem nextKey_of_closeVariant {cs r : List Char} (h : closeVariant cs = .ok r) :
    nextKey false cs = .ok (false, r) := by
  unfold closeVariant at h
  split at h
  · next r' hcs =>
    cases h
    rw [nextKey, hcs]
    rfl
  · cases h
  · cases h

/-- An object that begins with a key and ends behind its value has the one member. -/
theorem members_of_single {item : List Char → Except Error (Json × List Char)} {n : Nat}
    {cs k r : List Char} {v : String} {p : List (String × Json) × List Char}
    (h : members (memberOf item) n true [] cs = .ok p) (hkey : nextKey true cs = .ok (true, k))
    (hv : readString k = .ok (v, r)) :
    ∃ j r', (lift (colon r) >>= item) = .ok (j, r') ∧
      ∀ r'', nextKey false r' = .ok (false, r'') → p = ([(v, j)], r'') := by
  cases n with
  | zero => cases h
  | succ n =>
    rw [members, hkey] at h
    change (memberOf item [] k >>= _) = _ at h
    obtain ⟨⟨ms, r'⟩, hmember, h⟩ := Except.bind_eq_ok.mp h
    rw [memberOf, hv] at hmember
    change (lift (colon r) >>= _) = _ at hmember
    obtain ⟨r₁, hcolon, hmember⟩ := Except.bind_eq_ok.mp hmember
    obtain ⟨⟨j, _⟩, hj, heq⟩ := Except.bind_eq_ok.mp hmember
    cases heq
    refine ⟨j, r', Except.bind_eq_ok.mpr ⟨r₁, hcolon, hj⟩, fun r'' hend => ?_⟩
    cases n with
    | zero => cases h
    | succ n =>
      change members (memberOf item) (n + 1) false [(v, j)] r' = _ at h
      rw [members, hend] at h
      cases h
      rfl

theorem inStep_choice {name : String} {variants : List (String × VariantBody Shape)}
    (h : ∀ v ∈ variants, v.2.Each InStep) : InStep (.choice name variants) := by
  intro n depth depth' cs
  rw [read]
  refine front_together (fun s r => ?_) (fun _ _ _ => .error_left _ _) (fun n depth' r => ?_)
    n depth' cs
  · cases s with
    | text v =>
      refine .bind_left fun d hd => .ok ⟨rfl, ?_⟩
      exact .of_ok hd rfl
    | _ => exact .error_left _ _
  · refine .bind_left fun depth _ => .bind_left fun p hname => ?_
    obtain ⟨v, r⟩ := p
    refine .bind_left fun q hvariant => ?_
    obtain ⟨d, r'⟩ := q
    refine .bind_left fun r'' hclose => ?_
    intro p q hp hq
    cases hp
    obtain ⟨k, hkey, hv⟩ := nextKey_of_readVariantName hname
    obtain ⟨j, s, hj, hq⟩ := members_of_single hq hkey hv
    obtain ⟨rfl, hd⟩ := readVariant_together name h _ v n depth depth' r hvariant hj
    obtain rfl := hq _ (nextKey_of_closeVariant hclose)
    exact ⟨rfl, hd⟩

/-- **All types are read in step**, by induction on the type: at each place the two readers ask the
text for the same, and what a type passes over the dynamic value keeps without harm. -/
theorem inStep (shape : Shape) : shape.InStep := by
  induction shape using Shape.induction with
  | any => exact inStep_any
  | scalar shape h => exact inStep_of_isScalar h
  | option inner h => exact inStep_option h
  | wrapper name inner h => exact inStep_wrapper h
  | seq item h => exact inStep_seq h
  | tuple shapes h => exact inStep_tuple h
  | map key item h => exact inStep_map h
  | record name strict fields h => exact inStep_record h
  | choice name variants h => exact inStep_choice h

theorem whole_together {α β : Type} {R : α → β → Prop} {p : α × List Char} {q : β × List Char}
    (h : SameRest R p q) : Together R (whole p) (whole q) := by
  obtain ⟨a, r⟩ := p
  obtain ⟨b, _⟩ := q
  obtain ⟨rfl, hab⟩ := h
  dsimp only [whole]
  cases skipBlanks r with
  | nil => exact .ok hab
  | cons c r => exact .error_left _ _

/-- **What is read from a text is what is read from its dynamic value**, where both can be read and
as far as the fields of variants are named. -/
theorem parse_together (shape : Shape) (s : String) :
    Together shape.Reads (shape.parse s) (Json.parse s) :=
  (shape.inStep _ _ _ _).bind fun _ _ => whole_together

end Shape

/-! ## Bodies -/

namespace Body

/-- The function that takes the text of a response for a dynamic value. -/
def parsed (text : String) (_ : Nat) : Except ValidationError Json :=
  (Json.parse text).mapError .jsonParse

/-- **The two ways to read a body in JSON.** Where both the typed value and the dynamic one can be
read from the text, reading through the dynamic value gives the typed value and no other; and it
gives it if and only if the fields of variants are named, whatever keys are repeated and in whatever
order they stand. So the two ways differ for no type without variants, and never in the value. -/
theorem readThrough_parsed_of_readJson (shape : Shape) (text : String) (status : Nat) :
    (∀ d d', readJson shape text status = .ok d → readThrough parsed shape text status = .ok d' →
      d' = d) ∧
    ∀ d j, readJson shape text status = .ok d → parsed text status = .ok j →
      ((∃ d', readThrough parsed shape text status = .ok d') ↔ shape.namesFields j = true) := by
  have hreads : ∀ {d j d'}, readJson shape text status = .ok d → parsed text status = .ok j →
      ((shape.ofJson j).mapError ValidationError.jsonParse = .ok d' ↔
        d' = d ∧ shape.namesFields j = true) := by
    intro d j d' hd hj
    rw [Except.mapError_eq_ok]
    exact shape.parse_together text (Except.mapError_eq_ok.mp hd) (Except.mapError_eq_ok.mp hj) d'
  constructor
  · intro d d' hd hd'
    obtain ⟨j, hj, hd'⟩ := Except.bind_eq_ok.mp hd'
    exact ((hreads hd hj).mp hd').1
  · intro d j hd hj
    show (∃ d', parsed text status >>= _ = .ok d') ↔ _
    rw [hj]
    constructor
    · rintro ⟨d', hd'⟩
      exact ((hreads hd hj).mp hd').2
    · exact fun hnames => ⟨d, (hreads hd hj).mpr ⟨rfl, hnames⟩⟩

/-- Figures by their numbers. -/
def figures : Shape := .map (.int .i64) Sample.figure

/-- Figures that are not in the order of their numbers, one of them given twice. -/
def figuresText : String :=
  "\x7b\"10\":\x7b\"Newtype\":7\x7d,\"-2\":\"Unit\",\"10\":\x7b\"Tuple\":[1,\"x\"]\x7d\x7d"

theorem readThrough_parsed_of_readJson_figures :
    ∃ d j, readJson figures figuresText 200 = .ok d ∧ parsed figuresText 200 = .ok j ∧
      figures.namesFields j = true ∧ readThrough parsed figures figuresText 200 = .ok d := by
  obtain ⟨hsame, hreads⟩ := readThrough_parsed_of_readJson figures figuresText 200
  have hdatum : readJson figures figuresText 200 = .ok (.map [
      (.int .i64 (-2), .unitVariant "Shape" "Unit"),
      (.int .i64 10, .tupleVariant "Shape" "Tuple" [.int .i64 1, .text "x"])]) := by rfl
  have hjson : parsed figuresText 200 = .ok (.object [
      ("-2", .string "Unit"),
      ("10", .object [("Tuple", .array [.number (.int 1), .string "x"])])]) := by rfl
  obtain ⟨d, hd⟩ := (hreads _ _ hdatum hjson).mpr rfl
  obtain rfl := hsame _ _ hdatum hd
  exact ⟨_, _, hdatum, hjson, rfl, hd⟩

/-- A figure whose sides are not named. -/
def sidesText : String := "\x7b\"Struct\":[1,2]\x7d"

/-- **Fields that are not named** are read straight from the text and not from the dynamic value,
although the text is that of a value without repeated keys. The type accepts a list in the place of
the fields only while it still has the text. -/
theorem not_readThrough_parsed_sides :
    ∃ d j, j.Ordered ∧ j.render = sidesText ∧ readJson Sample.figure sidesText 200 = .ok d ∧
      parsed sidesText 200 = .ok j ∧
      ¬∃ d', readThrough parsed Sample.figure sidesText 200 = .ok d' := by
  refine ⟨.recordVariant "Shape" "Struct"
    [("w", .float (Binary64.ofInt 1)), ("h", .float (Binary64.ofInt 2))],
    .object [("Struct", .array [.number (.int 1), .number (.int 2)])], ?_, ?_, ?_, ?_, ?_⟩
  · simp [Json.Ordered, Json.OrderedItems, Json.OrderedMembers]
  · rfl
  · rfl
  · rfl
  · rintro ⟨_, h⟩
    cases h

end Body

end RestClient
