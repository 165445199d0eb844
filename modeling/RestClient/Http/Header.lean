/-!
# Headers

A header map gives each name a list of values. A `HeaderName` is a token in lower case, which is
what makes names compare without regard to case: `HeaderName.ofText?` lowers a text first and only
then looks whether it is a name. In a `HeaderMap` a name stands once, in the place where it first
came, and has at least one value; both are fields of the type, so every operation keeps them.

A map is read through `HeaderMap.values`, and each operation comes with the equation that says what
it does to the values of every name.

Values are texts here, which is what every step that is modelled makes them of. A value of octets
that are not the UTF-8 of any text cannot be expressed. Neither can the failure of a map that has as
many names as it may have; there is no greatest number of names here.
-/

namespace RestClient

/-- What is wrong with a header: its name, or its value. The name is looked at first, so a header
with both faults has the first one. -/
inductive HeaderFault where
  | name
  | value
  deriving DecidableEq, Repr

/-- The message of a fault. -/
def HeaderFault.message : HeaderFault → String
  | .name => "invalid HTTP header name"
  | .value => "failed to parse header value"

/-! ## Names -/

namespace HeaderName

/-- The characters of a header name: digits, small letters, as names are kept in lower case, and the
marks of a token. -/
def isTokenChar (c : Char) : Bool :=
  (c.isAlphanum && !c.isUpper) || "!#$%&'*+-.^_`|~".toList.contains c

/-- The greatest length of a header name. -/
def maxLength : Nat := 65535

/-- A text that is a header name as it stands. -/
def isNormal (cs : List Char) : Bool :=
  !cs.isEmpty && cs.all isTokenChar && cs.length ≤ maxLength

end HeaderName

/-- A header name: a token in lower case that is not empty and not too long. Two texts that differ
in case only are one name, so the structure keeps the one form that all of them share. -/
structure HeaderName where
  text : String
  normal : HeaderName.isNormal text.toList = true
  deriving DecidableEq, Repr

namespace HeaderName

instance : Coe HeaderName String := ⟨text⟩

/-- A text in lower case. -/
def lowered (s : String) : List Char := s.toList.map Char.toLower

/-- **A text as a header name**, if it is one in lower case. The text itself may have letters of
either case; nothing else about it is changed. -/
def ofText? (s : String) : Option HeaderName :=
  if h : isNormal (lowered s) then some ⟨String.ofList (lowered s), by rwa [String.toList_ofList]⟩
  else none

/-- The header that announces the type of the body. -/
def contentType : HeaderName := ⟨"content-type", by decide⟩

/-- **Names compare without regard to case**: texts with the same letters in lower case are the same
name, or neither of them is one. -/
theorem ofText?_congr {s t : String} (h : lowered s = lowered t) : ofText? s = ofText? t := by
  unfold ofText?
  simp only [h]

/-- The texts of a name are those that are its text in lower case. -/
theorem ofText?_eq_some_iff {s : String} {n : HeaderName} :
    ofText? s = some n ↔ lowered s = n.text.toList := by
  unfold ofText?
  constructor
  · intro h
    split at h
    · rw [Option.some.injEq] at h
      rw [← h, String.toList_ofList]
    · cases h
  · intro h
    have hn : isNormal (lowered s) = true := by rw [h]; exact n.normal
    rw [dif_pos hn, Option.some.injEq]
    cases n with
    | mk text normal =>
      congr 1
      rw [h, String.ofList_toList]

end HeaderName

/-! ## Maps -/

namespace HeaderMap

/-- Changes the values at a name's place; a name that is not there gets the last place. Both adding
and replacing values are a change of this kind. -/
def change (n : HeaderName) (f : List String → List String) :
    List (HeaderName × List String) → List (HeaderName × List String)
  | [] => [(n, f [])]
  | (m, vs) :: rest => if m = n then (m, f vs) :: rest else (m, vs) :: change n f rest

/-- The values of a name, none if the name is not there. -/
def valuesIn (es : List (HeaderName × List String)) (n : HeaderName) : List String :=
  (es.lookup n).getD []

theorem mem_names_change {n m : HeaderName} {f : List String → List String}
    {es : List (HeaderName × List String)} :
    m ∈ (change n f es).map Prod.fst ↔ m = n ∨ m ∈ es.map Prod.fst := by
  induction es with
  | nil => simp [change]
  | cons e rest ih =>
    unfold change
    split
    · next h => simp [h]
    · simp only [List.map_cons, List.mem_cons, ih, or_left_comm]

theorem nodup_change {n : HeaderName} {f : List String → List String}
    {es : List (HeaderName × List String)} (h : (es.map Prod.fst).Nodup) :
    ((change n f es).map Prod.fst).Nodup := by
  induction es with
  | nil => simp [change]
  | cons e rest ih =>
    rw [List.map_cons, List.nodup_cons] at h
    unfold change
    split
    · simpa using h
    · next hne =>
      rw [List.map_cons, List.nodup_cons, mem_names_change]
      refine ⟨?_, ih h.2⟩
      rintro (rfl | hmem)
      · exact hne rfl
      · exact h.1 hmem

theorem ne_nil_of_mem_change {n : HeaderName} {f : List String → List String}
    (hf : ∀ vs, f vs ≠ []) {es : List (HeaderName × List String)} (h : ∀ e ∈ es, e.2 ≠ []) :
    ∀ e ∈ change n f es, e.2 ≠ [] := by
  induction es with
  | nil => simpa [change] using hf []
  | cons e rest ih =>
    rw [List.forall_mem_cons] at h
    unfold change
    split
    · exact List.forall_mem_cons.mpr ⟨hf _, h.2⟩
    · exact List.forall_mem_cons.mpr ⟨h.1, ih h.2⟩

@[simp] theorem valuesIn_nil (n : HeaderName) : valuesIn [] n = [] := rfl

theorem valuesIn_cons (e : HeaderName × List String) (rest : List (HeaderName × List String))
    (n : HeaderName) : valuesIn (e :: rest) n = if n = e.1 then e.2 else valuesIn rest n := by
  obtain ⟨m, vs⟩ := e
  unfold valuesIn
  by_cases h : n = m
  · rw [if_pos h, h, List.lookup_cons_self]
    rfl
  · have hb : (n == m) = false := by simpa using h
    rw [if_neg h, List.lookup_cons, hb]

theorem valuesIn_change (n m : HeaderName) (f : List String → List String)
    (es : List (HeaderName × List String)) :
    valuesIn (change n f es) m = if m = n then f (valuesIn es n) else valuesIn es m := by
  induction es with
  | nil => simp [change, valuesIn_cons]
  | cons e rest ih =>
    unfold change
    split
    · next he =>
      rw [valuesIn_cons, valuesIn_cons, valuesIn_cons, he]
      by_cases h : m = n <;> simp [h]
    · next he =>
      rw [valuesIn_cons, ih, valuesIn_cons, valuesIn_cons, if_neg (Ne.symm he)]
      by_cases h : m = n
      · simp [h, Ne.symm he]
      · simp [h]

theorem valuesIn_filter_ne (n m : HeaderName) (es : List (HeaderName × List String)) :
    valuesIn (es.filter fun e => e.1 ≠ n) m = if m = n then [] else valuesIn es m := by
  induction es with
  | nil => simp
  | cons e rest ih =>
    by_cases he : e.1 = n
    · rw [List.filter_cons_of_neg (by simp [he]), ih, valuesIn_cons, he]
      by_cases h : m = n <;> simp [h]
    · rw [List.filter_cons_of_pos (by simp [he]), valuesIn_cons, ih, valuesIn_cons]
      by_cases h : m = n
      · simp [h, Ne.symm he]
      · simp [h]

end HeaderMap

/-- Headers: names, each with its values in order. That a name stands once and has at least one
value is part of the structure, so a name is in the map just when it has values. -/
structure HeaderMap where
  entries : List (HeaderName × List String)
  /-- A name stands once. -/
  distinct : (entries.map Prod.fst).Nodup
  /-- A name has a value. -/
  valued : ∀ e ∈ entries, e.2 ≠ []
  deriving DecidableEq, Repr

namespace HeaderMap

/-- The map without names. -/
def empty : HeaderMap := ⟨[], .nil, nofun⟩

instance : EmptyCollection HeaderMap := ⟨empty⟩

instance : Inhabited HeaderMap := ⟨empty⟩

/-- The names of a map. -/
def names (h : HeaderMap) : List HeaderName := h.entries.map Prod.fst

/-- **The values of a name**, in the order in which they were added, none if the map does not have
it. -/
def values (h : HeaderMap) (n : HeaderName) : List String := valuesIn h.entries n

/-- The values of a name that is given as a text, in any case. A text that is no name has no
values. -/
def valuesOf (h : HeaderMap) (name : String) : List String :=
  match HeaderName.ofText? name with
  | some n => h.values n
  | none => []

/-- Whether a map has a name that is given as a text. -/
def has (h : HeaderMap) (name : String) : Bool :=
  h.names.any fun n => HeaderName.lowered name = n.text.toList

/-- The map without a name and its values; the other names keep their places. -/
def erase (h : HeaderMap) (n : HeaderName) : HeaderMap where
  entries := h.entries.filter fun e => e.1 ≠ n
  distinct := h.distinct.sublist (List.filter_sublist.map Prod.fst)
  valued e he := h.valued e (List.mem_filter.mp he).1

/-- One more value of a name, behind those that it has. A name that was not there comes last. -/
def append (h : HeaderMap) (n : HeaderName) (value : String) : HeaderMap where
  entries := change n (· ++ [value]) h.entries
  distinct := nodup_change h.distinct
  valued := ne_nil_of_mem_change (by simp) h.valued

/-- The only value of a name, at the place that the name had. All values that it had before are
gone. -/
def insert (h : HeaderMap) (n : HeaderName) (value : String) : HeaderMap where
  entries := change n (fun _ => [value]) h.entries
  distinct := nodup_change h.distinct
  valued := ne_nil_of_mem_change (by simp) h.valued

/-- More values of a name, in order. -/
def appendAll (h : HeaderMap) (n : HeaderName) (vs : List String) : HeaderMap :=
  vs.foldl (fun h v => h.append n v) h

/-- **A layer over a map**: every name of the layer loses the values it had and gets those of the
layer, in the layer's order. The names are gone through one after the other, each removed first and
then added again value by value. -/
def merge (target layer : HeaderMap) : HeaderMap :=
  layer.entries.foldl (fun h e => (h.erase e.1).appendAll e.1 e.2) target

/-! ## What the operations do to values -/

@[simp] theorem values_empty (n : HeaderName) : empty.values n = [] := rfl

theorem values_append (h : HeaderMap) (n m : HeaderName) (v : String) :
    (h.append n v).values m = if m = n then h.values n ++ [v] else h.values m :=
  valuesIn_change n m _ h.entries

theorem values_insert (h : HeaderMap) (n m : HeaderName) (v : String) :
    (h.insert n v).values m = if m = n then [v] else h.values m :=
  valuesIn_change n m _ h.entries

theorem values_erase (h : HeaderMap) (n m : HeaderName) :
    (h.erase n).values m = if m = n then [] else h.values m :=
  valuesIn_filter_ne n m h.entries

theorem values_appendAll (h : HeaderMap) (n m : HeaderName) (vs : List String) :
    (h.appendAll n vs).values m = if m = n then h.values n ++ vs else h.values m := by
  unfold appendAll
  induction vs generalizing h with
  | nil => by_cases hm : m = n <;> simp [hm]
  | cons v vs ih =>
    rw [List.foldl_cons, ih, values_append, values_append]
    by_cases hm : m = n <;> simp [hm]

/-- A map has values of the names in it. -/
theorem values_ne_nil_iff {h : HeaderMap} {n : HeaderName} : h.values n ≠ [] ↔ n ∈ h.names := by
  obtain ⟨es, distinct, valued⟩ := h
  show valuesIn es n ≠ [] ↔ n ∈ es.map Prod.fst
  clear distinct
  induction es with
  | nil => simp
  | cons e rest ih =>
    rw [List.forall_mem_cons] at valued
    rw [valuesIn_cons, List.map_cons, List.mem_cons, ← ih valued.2]
    by_cases hn : n = e.1 <;> simp [hn, valued.1]

/-- **A layer decides about the names in it**, and no others. It decides about all the values of a
name at once: a value of the lower map does not stay beside those of the layer. -/
theorem values_merge (target layer : HeaderMap) (n : HeaderName) :
    (target.merge layer).values n
      = if n ∈ layer.names then layer.values n else target.values n := by
  obtain ⟨es, distinct, valued⟩ := layer
  show (es.foldl (fun h e => (h.erase e.1).appendAll e.1 e.2) target).values n
    = if n ∈ es.map Prod.fst then valuesIn es n else target.values n
  clear valued
  induction es generalizing target with
  | nil => simp
  | cons e rest ih =>
    rw [List.map_cons, List.nodup_cons] at distinct
    have hstep : ((target.erase e.1).appendAll e.1 e.2).values n
        = if n = e.1 then e.2 else target.values n := by
      rw [values_appendAll, values_erase, values_erase]
      by_cases hn : n = e.1 <;> simp [hn]
    rw [List.foldl_cons, ih _ distinct.2, hstep, List.map_cons, valuesIn_cons]
    by_cases hn : n = e.1
    · -- no later entry has this name, so its values stay
      simp [hn, distinct.1]
    · rw [if_neg hn, if_neg hn]
      exact ite_congr (by rw [List.mem_cons, or_iff_right hn]) (fun _ => rfl) fun _ => rfl

/-! ## Names that are given as texts -/

theorem has_eq_true_iff {h : HeaderMap} {name : String} :
    h.has name = true ↔ ∃ n, HeaderName.ofText? name = some n ∧ n ∈ h.names := by
  unfold has
  simp only [List.any_eq_true, decide_eq_true_eq, HeaderName.ofText?_eq_some_iff, and_comm]

@[simp] theorem valuesOf_empty (name : String) : empty.valuesOf name = [] := by
  unfold valuesOf
  cases HeaderName.ofText? name <;> rfl

theorem valuesOf_merge (target layer : HeaderMap) (name : String) :
    (target.merge layer).valuesOf name
      = if layer.has name then layer.valuesOf name else target.valuesOf name := by
  simp only [has_eq_true_iff]
  unfold valuesOf
  cases HeaderName.ofText? name with
  | none => simp
  | some n => simp [values_merge]

theorem valuesOf_insert (h : HeaderMap) (n : HeaderName) (v name : String) :
    (h.insert n v).valuesOf name
      = if HeaderName.lowered name = n.text.toList then [v] else h.valuesOf name := by
  simp only [← HeaderName.ofText?_eq_some_iff]
  unfold valuesOf
  cases HeaderName.ofText? name with
  | none => simp
  | some m => simp [values_insert]

/-- A map has values of a text just when the text is one of its names. -/
theorem valuesOf_ne_nil_iff {h : HeaderMap} {name : String} :
    h.valuesOf name ≠ [] ↔ h.has name = true := by
  rw [has_eq_true_iff]
  unfold valuesOf
  cases HeaderName.ofText? name with
  | none => simp
  | some n => simp [← values_ne_nil_iff]

/-! ## Names and values of texts -/

/-- The characters of a header value: no control characters but the tab. Only the ASCII control
characters are meant; characters past ASCII are allowed, those among them that are controls as
well. -/
def isValueChar (c : Char) : Bool := c = '\t' || (0x20 ≤ c.toNat && c.toNat ≠ 0x7F)

/-- A text as a header value. It is kept as it stands, blanks at its ends included. -/
def value? (s : String) : Option String := if s.toList.all isValueChar then some s else none

/-- A header from its texts; the name is looked at first, and a value is not looked at under a text
that is no name. -/
def parseHeader (name value : String) : Except HeaderFault (HeaderName × String) :=
  match HeaderName.ofText? name with
  | none => .error .name
  | some n =>
    match value? value with
    | none => .error .value
    | some v => .ok (n, v)

end HeaderMap
end RestClient
