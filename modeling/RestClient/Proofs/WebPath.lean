import RestClient.Proofs.Except
import RestClient.Proofs.Percent
import RestClient.Url.Parse

/-!
# The path of a web address

The path of an `http` or `https` address is never empty, and none of its segments holds a slash:
`Url.IsWeb`. All such addresses that can be read are of this kind (`isWeb_of_parse`), because what
is read is cut at the slashes and because pushing a segment always leaves one behind.

So the text of the path says what its segments are. Cut at the slashes again, it gives an empty
part in front of the first slash and then the segments (`pathParts_eq`), and two addresses that
differ in their paths alone have different texts (`pathParts_eq_of_text_eq`).
-/

namespace RestClient.Url

/-! ## The text of a path -/

/-- The parts of the path's text between slashes. -/
def pathParts (u : Url) : List (List Char) :=
  Text.split '/' (u.path.text u.authority?.isSome)

theorem segmentsText_cons (s : String) (ss : List String) :
    segmentsText (s :: ss) = '/' :: (s.toList ++ segmentsText ss) := rfl

/-- An empty last segment is a slash at the end. -/
theorem segmentsText_concat (ss : List String) :
    segmentsText (ss ++ [""]) = segmentsText ss ++ ['/'] :=
  List.flatMap_append

/-- Text behind which segments stand. -/
theorem split_append_segmentsText {cs : List Char} {ss : List String} (hcs : '/' ∉ cs)
    (hss : ∀ s ∈ ss, '/' ∉ s.toList) :
    Text.split '/' (cs ++ segmentsText ss) = cs :: ss.map String.toList := by
  induction ss generalizing cs with
  | nil =>
    rw [show segmentsText [] = [] from rfl, List.append_nil, Text.split_of_not_mem hcs]
    rfl
  | cons s ss ih =>
    rw [List.forall_mem_cons] at hss
    rw [segmentsText_cons, Text.split_append, Text.split_of_not_mem hcs, ih hss.1 hss.2]
    rfl

/-- **A web address**: it has a host, and a path with a segment at least. No segment holds a slash,
so the path is cut into its segments again where its text has slashes. -/
structure IsWeb (u : Url) (ss : List String) : Prop where
  scheme : u.scheme = "http" ∨ u.scheme = "https"
  authority : u.authority?.isSome = true
  path : u.path = .segments ss
  ne_nil : ss ≠ []
  noSlash : ∀ s ∈ ss, '/' ∉ s.toList

variable {u : Url} {ss : List String}

/-- Behind a host, the text of a path is the one of its segments. -/
theorem text_segments (ss : List String) : (Path.segments ss).text true = segmentsText ss := by
  unfold Path.text
  dsimp only
  split <;> rfl

/-- **The text of the path is cut into the segments**, behind nothing in front of the first
slash. -/
theorem IsWeb.pathParts_eq (h : u.IsWeb ss) : u.pathParts = [] :: ss.map String.toList := by
  unfold pathParts
  rw [h.path, h.authority, text_segments]
  exact split_append_segmentsText List.not_mem_nil h.noSlash

/-- **Addresses that differ in their paths alone differ in the texts of their paths.** All that
stands in front of the path and behind it is the same in both. -/
theorem pathParts_eq_of_text_eq {p q : Path}
    (h : ({ u with path := p } : Url).text = ({ u with path := q } : Url).text) :
    ({ u with path := p } : Url).pathParts = ({ u with path := q } : Url).pathParts := by
  have hchars := congrArg String.toList h
  unfold text at hchars
  rw [String.toList_ofList, String.toList_ofList] at hchars
  unfold chars at hchars
  unfold pathParts
  dsimp only at hchars ⊢
  simp only [List.append_assoc, List.append_cancel_left_eq, List.cons.injEq, true_and] at hchars
  rw [List.append_cancel_right hchars]

/-! ## Paths that were read -/

/-- What holds of the empty segment and of all that are pushed holds of all segments. -/
theorem forall_mem_push {P : List Char → Prop} {segments : List (List Char)}
    {segment : List Char} (hnil : P []) (hsegments : ∀ t ∈ segments, P t) (hsegment : P segment)
    (last : Bool) : ∀ t ∈ push false last segments segment, P t := by
  have hshorten : ∀ t ∈ shorten false segments, P t := by
    unfold shorten
    split
    · exact fun t ht => hsegments t ((List.dropLast_sublist segments).mem ht)
    · exact hsegments
  have hbehind : ∀ {front : List (List Char)} {t : List Char}, (∀ r ∈ front, P r) → P t →
      ∀ r ∈ front ++ [t], P r := fun hfront ht =>
    List.forall_mem_append.mpr ⟨hfront, List.forall_mem_singleton.mpr ht⟩
  unfold push
  split
  · dsimp only
    split
    · exact hbehind hshorten hnil
    · exact hshorten
  · split
    · split
      · exact hbehind hsegments hnil
      · exact hsegments
    · rw [if_neg (by simp)]
      exact hbehind hsegments hsegment

theorem forall_mem_pushAll {P : List Char → Prop} (hnil : P []) {segments more : List (List Char)}
    (hsegments : ∀ t ∈ segments, P t) (hmore : ∀ t ∈ more, P t) :
    ∀ t ∈ pushAll false segments more, P t := by
  induction more generalizing segments with
  | nil => exact hsegments
  | cons s more ih =>
    rw [List.forall_mem_cons] at hmore
    have hpush := fun last => forall_mem_push hnil hsegments hmore.1 last
    cases more with
    | nil => exact hpush true
    | cons t more => exact ih (hpush false) hmore.2

/-- The last segment leaves one behind. -/
theorem pushAll_ne_nil (segments : List (List Char)) {more : List (List Char)} (h : more ≠ []) :
    pushAll false segments more ≠ [] := by
  induction more generalizing segments with
  | nil => exact absurd rfl h
  | cons s more ih =>
    cases more with
    | nil =>
      show push false true segments s ≠ []
      unfold push
      dsimp only
      split
      · simp
      · split
        · simp
        · split <;> simp
    | cons t more => exact ih _ (by simp)

theorem segmentsOf_spec {scheme : String} (h : scheme ≠ "file") (cs : List Char) :
    segmentsOf scheme cs ≠ [] ∧ ∀ s ∈ segmentsOf scheme cs, '/' ∉ s.toList := by
  unfold segmentsOf
  dsimp only
  rw [if_neg (by simpa using h), decide_eq_false h]
  constructor
  · rw [Ne, List.map_eq_nil_iff]
    exact pushAll_ne_nil _ (by simp [Text.split_ne_nil])
  · intro s hs
    obtain ⟨t, ht, rfl⟩ := List.mem_map.mp hs
    rw [String.toList_ofList]
    refine forall_mem_pushAll (P := ('/' ∉ ·)) List.not_mem_nil (List.forall_mem_nil _) ?_ t ht
    intro r hr
    obtain ⟨part, hpart, rfl⟩ := List.mem_map.mp hr
    exact not_mem_percentEncode_of_not_mem (Text.not_mem_of_mem_split hpart) (by decide) inPath

theorem hierarchy_spec {scheme : String} (h : scheme = "http" ∨ scheme = "https")
    {cs : List Char} {a? : Option Authority} {p : Path}
    (hread : hierarchy scheme cs = .ok (a?, p)) :
    a?.isSome = true ∧ ∃ ss, p = .segments ss ∧ ss ≠ [] ∧ ∀ s ∈ ss, '/' ∉ s.toList := by
  have hfile : scheme ≠ "file" := by rcases h with rfl | rfl <;> decide
  have hspecial : isSpecial scheme = true := by rcases h with rfl | rfl <;> decide
  unfold hierarchy at hread
  rw [if_neg hfile, if_pos hspecial] at hread
  obtain ⟨a, -, hread⟩ := Except.bind_eq_ok.mp hread
  cases hread
  refine ⟨rfl, ?_⟩
  unfold pathAfterAuthority
  rw [hspecial, if_neg (by simp)]
  exact ⟨_, rfl, segmentsOf_spec hfile _⟩

/-- **Every `http` or `https` address that can be read is a web address.** Its path has a segment
even if none is written, and slashes are where segments end. -/
theorem isWeb_of_parse {text : String} (h : parse text = .ok u)
    (hscheme : u.scheme = "http" ∨ u.scheme = "https") : ∃ ss, u.IsWeb ss := by
  unfold parse at h
  split at h
  · cases h
  · next scheme rest _ =>
    obtain ⟨⟨a?, p⟩, hread, h⟩ := Except.bind_eq_ok.mp h
    cases h
    obtain ⟨hauthority, ss, hpath, hne, hslash⟩ := hierarchy_spec hscheme hread
    exact ⟨ss, hscheme, hauthority, hpath, hne, hslash⟩

end RestClient.Url
