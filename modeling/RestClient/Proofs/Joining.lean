import RestClient.Proofs.Route
import RestClient.Proofs.WebPath

/-!
# Joining can be undone

Segments that are `Clean` are put behind the path of a web address one by one, each encoded. From
the text of the new path they can be had again: cut at the slashes, the path gives the segments of
the base and one part for each new segment, which is decoded to it (`Extends`). A text that looks
encoded is not taken for what it seems to say, since its percent signs are encoded as well. So
different segments lead to different addresses (`join_invertible`).

A path is never empty. That is the one exception: a path that is only a slash has no segments in
front of new ones, but it keeps its slash if there are no new ones either
(`not_extends_of_root`).
-/

namespace RestClient.Url

/-! ## Clean segments -/

/-- **A segment that a path can take as it is**, but for its encoding: it is neither empty nor a dot
segment, and has no character that an address drops. -/
structure Clean (s : String) : Prop where
  ne_empty : s ≠ ""
  noDots : s ≠ "." ∧ s ≠ ".."
  noBreaks : '\t' ∉ s.toList ∧ '\r' ∉ s.toList ∧ '\n' ∉ s.toList

/-- Whether a segment is clean can be decided. -/
instance (s : String) : Decidable (Clean s) :=
  decidable_of_iff
    (s ≠ "" ∧ (s ≠ "." ∧ s ≠ "..") ∧ '\t' ∉ s.toList ∧ '\r' ∉ s.toList ∧ '\n' ∉ s.toList)
    ⟨fun ⟨ne_empty, noDots, noBreaks⟩ => ⟨ne_empty, noDots, noBreaks⟩,
      fun h => ⟨h.ne_empty, h.noDots, h.noBreaks⟩⟩

namespace Clean

variable {s t : String}

/-- Nothing of a clean segment is dropped. -/
theorem kept_eq (h : Clean s) : kept s = s.toList := by
  obtain ⟨htab, hreturn, hfeed⟩ := h.noBreaks
  unfold kept
  rw [List.filter_eq_self]
  intro c hc
  have hne : c ≠ '\t' ∧ c ≠ '\n' ∧ c ≠ '\r' :=
    ⟨fun he => htab (he ▸ hc), fun he => hfeed (he ▸ hc), fun he => hreturn (he ▸ hc)⟩
  simp [isDropped, hne]

theorem isDotSegment_eq (h : Clean s) : Template.isDotSegment s.toList = false := by
  have hlist : ∀ cs, s ≠ String.ofList cs → s.toList ≠ cs := fun cs hne he =>
    hne (by rw [← he, String.ofList_toList])
  unfold Template.isDotSegment
  rw [decide_eq_false (hlist ['.'] h.noDots.1), decide_eq_false (hlist ['.', '.'] h.noDots.2)]
  rfl

theorem landing_eq (h : Clean s) :
    landing s = String.ofList (percentEncode inSpecialSegment s.toList) := by
  unfold landing
  rw [h.kept_eq, h.isDotSegment_eq, if_neg Bool.false_ne_true]

/-- **What a clean segment becomes is read back as the segment**, whatever characters are in it:
separators, percent signs and characters past ASCII stand encoded. -/
theorem decode_landing (h : Clean s) :
    decodeUtf8? (percentDecode (landing s).toList) = some s := by
  rw [h.landing_eq, String.toList_ofList, percentDecode_percentEncode (by decide),
    decodeUtf8?_bytesOf, String.ofList_toList]

theorem landing_ne_empty (h : Clean s) : landing s ≠ "" := by
  rw [Ne, landing_eq_empty_iff]
  unfold isHollow
  rw [h.kept_eq, h.isDotSegment_eq, Bool.or_false, List.isEmpty_iff, String.toList_eq_nil_iff]
  exact h.ne_empty

/-- Clean segments take their places wherever they are put. -/
theorem harmless {front segments : List String} (h : ∀ s ∈ segments, Clean s) :
    Harmless front segments := by
  refine .inr ⟨fun s hs hdots => ?_, fun _ s hs => ?_⟩
  · have hclean := (h s hs).isDotSegment_eq
    rw [← (h s hs).kept_eq, hdots] at hclean
    cases hclean
  · rw [← Bool.not_eq_true, ← landing_eq_empty_iff]
    exact (h s (List.mem_of_mem_head? hs)).landing_ne_empty

/-- Different segments become different ones. -/
theorem eq_of_map_landing_eq {segments others : List String} (h : ∀ s ∈ segments, Clean s)
    (hothers : ∀ s ∈ others, Clean s) (heq : segments.map landing = others.map landing) :
    segments = others := by
  have hread : ∀ list : List String, (∀ s ∈ list, Clean s) →
      (list.map landing).map (fun t => decodeUtf8? (percentDecode t.toList)) = list.map some := by
    intro list hlist
    rw [List.map_map]
    refine List.map_congr_left fun s hs => ?_
    rw [Function.comp_apply]
    exact (hlist s hs).decode_landing
  have hsome := hread segments h
  rw [heq, hread others hothers] at hsome
  exact (List.map_injective_iff.mpr (fun _ _ => Option.some.inj) hsome).symm

end Clean

/-! ## The path behind the base -/

/-- The path of some segments, which is only a slash if there are none. -/
def orSlash (ss : List String) : List String := if ss = [] then [""] else ss

theorem orSlash_ne_nil (ss : List String) : orSlash ss ≠ [] := by
  unfold orSlash
  split
  · exact List.cons_ne_nil _ _
  · assumption

theorem front_orSlash {ss : List String} (h : "" ∉ ss) : front (orSlash ss) = ss := by
  unfold orSlash
  split
  · next hnil =>
    rw [hnil]
    rfl
  · unfold front
    rw [if_neg]
    rintro rfl
    exact h List.mem_cons_self

/-- Only the path that is a slash has no segments. -/
theorem eq_of_trunk_eq_nil {ss : List String} (hne : ss ≠ []) (h : trunk ss = []) : ss = [""] := by
  unfold trunk at h
  split at h
  · next hlast => rw [← List.dropLast_append_getLast? "" hlast, h, List.nil_append]
  · exact absurd h hne

theorem popIfEmpty_eq {ss : List String} (hne : ss ≠ []) (h : "" ∉ trunk ss) :
    popIfEmpty ss = orSlash (trunk ss) := by
  have hpop : popIfEmpty ss ≠ [] := by
    unfold popIfEmpty
    split
    · split
      · next hlen => exact List.ne_nil_of_length_pos (by rw [List.length_dropLast]; omega)
      · exact hne
    · exact hne
  rw [← front_popIfEmpty h]
  unfold front orSlash
  split
  · assumption
  · rfl

theorem extend_of_clean {scheme : String} (hweb : scheme = "http" ∨ scheme = "https")
    {ss segments : List String} (hne : ss ≠ []) (htrunk : "" ∉ trunk ss)
    (hclean : ∀ s ∈ segments, Clean s) :
    extend scheme (popIfEmpty ss) segments = orSlash (trunk ss ++ segments.map landing) := by
  cases segments with
  | nil =>
    rw [List.map_nil, List.append_nil, ← popIfEmpty_eq hne htrunk]
    rfl
  | cons s rest =>
    have hdots := fun t ht => (hclean t ht).isDotSegment_eq
    rw [extend_of_harmless hweb (List.cons_ne_nil s rest) hdots (Clean.harmless hclean),
      front_popIfEmpty htrunk]
    unfold orSlash
    rw [if_neg (by simp)]

section

variable {base : Url} {ss segments : List String}

/-- **The address that clean segments lead to**: the segments of the base, an empty last one not
counted, and behind them one for each of the new ones, encoded. -/
theorem join?_of_clean (hbase : base.IsWeb ss) (htrunk : "" ∉ trunk ss)
    (hclean : ∀ s ∈ segments, Clean s) :
    base.join? segments
      = some { base with path := .segments (orSlash (trunk ss ++ segments.map landing)) } := by
  unfold join?
  rw [hbase.path]
  dsimp only
  rw [extend_of_clean hbase.scheme hbase.ne_nil htrunk hclean]

theorem mem_of_mem_trunk {s : String} (h : s ∈ trunk ss) : s ∈ ss := by
  unfold trunk at h
  split at h
  · exact (List.dropLast_sublist ss).mem h
  · exact h

/-- It is a web address again. -/
theorem IsWeb.joined (hbase : base.IsWeb ss) (segments : List String) :
    IsWeb { base with path := .segments (orSlash (trunk ss ++ segments.map landing)) }
      (orSlash (trunk ss ++ segments.map landing)) where
  scheme := hbase.scheme
  authority := hbase.authority
  path := rfl
  ne_nil := orSlash_ne_nil _
  noSlash := by
    intro s hs
    unfold orSlash at hs
    split at hs
    · rw [List.mem_singleton.mp hs]
      exact List.not_mem_nil
    · rcases List.mem_append.mp hs with hs | hs
      · exact hbase.noSlash s (mem_of_mem_trunk hs)
      · obtain ⟨t, -, rfl⟩ := List.mem_map.mp hs
        exact fun hslash => isOneSegment_landing t '/' hslash (by simp)

theorem empty_not_mem_joined (htrunk : "" ∉ trunk ss) (hclean : ∀ s ∈ segments, Clean s) :
    "" ∉ trunk ss ++ segments.map landing := by
  rw [List.mem_append, not_or]
  refine ⟨htrunk, fun h => ?_⟩
  obtain ⟨s, hs, he⟩ := List.mem_map.mp h
  exact (hclean s hs).landing_ne_empty he

/-- **The path is the one of the base with a part for each new segment**: no separator stands in it,
and it is read back as the segment. It is the text of the path that is cut, as a server would cut
it. -/
def Extends (ss segments : List String) (u : Url) : Prop :=
  ∃ encoded, u.pathParts = [] :: (trunk ss ++ encoded).map String.toList ∧
    List.Forall₂ (fun s t => decodeUtf8? (percentDecode t.toList) = some s ∧ IsOneSegment t)
      segments encoded

theorem extends_joined (hbase : base.IsWeb ss) (hclean : ∀ s ∈ segments, Clean s)
    (h : ¬(trunk ss = [] ∧ segments = [])) :
    Extends ss segments
      { base with path := .segments (orSlash (trunk ss ++ segments.map landing)) } := by
  refine ⟨segments.map landing, ?_, ?_⟩
  · rw [(hbase.joined segments).pathParts_eq]
    unfold orSlash
    rw [if_neg (by simpa using h)]
  · rw [List.forall₂_map_right_iff, List.forall₂_same]
    exact fun s hs => ⟨(hclean s hs).decode_landing, isOneSegment_landing s⟩

/-- **Different segments lead to different addresses**, even as texts: what is in them can be told
from the address alone. -/
theorem eq_of_text_join? {others : List String} {u v : Url} (hbase : base.IsWeb ss)
    (htrunk : "" ∉ trunk ss) (hclean : ∀ s ∈ segments, Clean s) (hothers : ∀ s ∈ others, Clean s)
    (hu : base.join? segments = some u) (hv : base.join? others = some v)
    (htext : u.text = v.text) : segments = others := by
  rw [join?_of_clean hbase htrunk hclean, Option.some.injEq] at hu
  rw [join?_of_clean hbase htrunk hothers, Option.some.injEq] at hv
  subst hu hv
  have hparts := pathParts_eq_of_text_eq htext
  rw [(hbase.joined segments).pathParts_eq, (hbase.joined others).pathParts_eq, List.cons.injEq]
    at hparts
  have hpaths := List.map_injective_iff.mpr (fun _ _ => String.toList_inj.mp) hparts.2
  have hfronts := congrArg front hpaths
  rw [front_orSlash (empty_not_mem_joined htrunk hclean),
    front_orSlash (empty_not_mem_joined htrunk hothers), List.append_cancel_left_eq] at hfronts
  exact Clean.eq_of_map_landing_eq hclean hothers hfronts

/-- **A slash at the end of the base does not count**: with it or without it segments come to the
same address. -/
theorem join?_slashed (hbase : base.IsWeb ss) (hempty : "" ∉ ss) (segments : List String) :
    ({ base with path := .segments (ss ++ [""]) } : Url).join? segments = base.join? segments := by
  have hpop : popIfEmpty ss = ss := by
    unfold popIfEmpty
    split
    · next hlast => exact absurd (List.mem_of_getLast? hlast) hempty
    · rfl
  have hslashed : popIfEmpty (ss ++ [""]) = ss := by
    have hlen : 1 < (ss ++ [""]).length := by
      have hpos := List.length_pos_iff.mpr hbase.ne_nil
      rw [List.length_append, List.length_singleton]
      omega
    unfold popIfEmpty
    rw [List.getLast?_concat, if_pos hlen, List.dropLast_concat]
    rfl
  unfold join?
  rw [hbase.path]
  dsimp only
  rw [hpop, hslashed]

end

/-- The slash of an empty path is not missed. -/
theorem pathAfterAuthority_nil {scheme : String} (h : isSpecial scheme = true) :
    pathAfterAuthority scheme [] = pathAfterAuthority scheme ['/'] := by
  unfold pathAfterAuthority
  rw [h, if_neg (by simp), if_neg (by simp)]
  rfl

/-- **Joining can be undone.** The path of a web address that can be read is cut into its segments.
Clean segments can always be joined to it, the path that comes of it is cut into the segments of the
base and one part for each of the new ones, which is decoded to it, and different segments lead to
different addresses. If the base has no segments and there are no new ones, the base stays as it is,
with the slash that is its path. A slash at the end of the base, or as its whole path, makes no
difference. -/
theorem join_invertible :
    (∀ text base, parse text = .ok base → base.scheme = "http" ∨ base.scheme = "https" →
      ∃ ss, base.IsWeb ss ∧ base.pathParts = [] :: ss.map String.toList) ∧
    (∀ (base : Url) ss segments, base.IsWeb ss → "" ∉ trunk ss → (∀ s ∈ segments, Clean s) →
      ∃ u, base.join? segments = some u ∧
        (¬(trunk ss = [] ∧ segments = []) → Extends ss segments u) ∧
        (trunk ss = [] ∧ segments = [] → u = base)) ∧
    (∀ (base : Url) ss segments others u v, base.IsWeb ss → "" ∉ trunk ss →
      (∀ s ∈ segments, Clean s) → (∀ s ∈ others, Clean s) → base.join? segments = some u →
      base.join? others = some v → u.text = v.text → segments = others) ∧
    (∀ (base : Url) ss segments, base.IsWeb ss → "" ∉ ss →
      (Path.segments (ss ++ [""])).text true = base.path.text true ++ ['/'] ∧
      ({ base with path := .segments (ss ++ [""]) } : Url).join? segments
        = base.join? segments) ∧
    ∀ scheme, isSpecial scheme = true →
      pathAfterAuthority scheme [] = pathAfterAuthority scheme ['/'] := by
  refine ⟨fun text base hread hscheme => ?_, fun base ss segments hbase htrunk hclean => ?_,
    fun _ _ _ _ _ _ => eq_of_text_join?, fun base ss segments hbase hempty =>
      ⟨?_, join?_slashed hbase hempty segments⟩, fun _ => pathAfterAuthority_nil⟩
  · obtain ⟨ss, hweb⟩ := isWeb_of_parse hread hscheme
    exact ⟨ss, hweb, hweb.pathParts_eq⟩
  · refine ⟨_, join?_of_clean hbase htrunk hclean, extends_joined hbase hclean, ?_⟩
    rintro ⟨hnil, rfl⟩
    have hpath := hbase.path
    rw [eq_of_trunk_eq_nil hbase.ne_nil hnil] at hpath
    rw [hnil, List.map_nil, List.append_nil, show orSlash [] = [""] from rfl, ← hpath]
  · rw [hbase.path, text_segments, text_segments, segmentsText_concat]

/-- An address whose host is a number. -/
def loopback (path : List String) : Url where
  scheme := "http"
  authority? := some { host := .ipv6 [0, 0, 0, 0, 0, 0, 0, 1] }
  path := .segments path

/-- Segments that hold separators, or look like dots in an encoded text. -/
def misleading : List String := ["a/b\\", "?#", "%2e%2e", "é"]

/-- The path that they make. -/
def escaped : List String := ["v1", "a%2Fb%5C", "%3F%23", "%252e%252e", "%C3%A9"]

/-- Misleading segments stay what they are, whether the base ends in a slash or not, and no others
lead to the same address. A base that is only a slash stays as it is without new segments. -/
theorem join_invertible_loopback :
    (∃ ss, (loopback ["v1", ""]).IsWeb ss ∧
      (loopback ["v1", ""]).pathParts = [] :: ss.map String.toList) ∧
    (loopback ["v1", ""]).join? misleading = some (loopback escaped) ∧
    (loopback ["v1"]).join? misleading = some (loopback escaped) ∧
    Extends ["v1", ""] misleading (loopback escaped) ∧
    (∀ others u, (∀ s ∈ others, Clean s) → (loopback ["v1", ""]).join? others = some u →
      u.text = (loopback escaped).text → others = misleading) ∧
    (loopback [""]).join? [] = some (loopback [""]) ∧
    pathAfterAuthority "http" [] = pathAfterAuthority "http" ['/'] := by
  obtain ⟨hread, hjoin, hsame, hslashed, hslash⟩ := join_invertible
  have hparse : parse "http://[::1]/v1/" = .ok (loopback ["v1", ""]) := rfl
  have hclean : ∀ s ∈ misleading, Clean s := by decide
  have hfile : (loopback ["v1", ""]).IsWeb ["v1", ""] := ⟨.inl rfl, rfl, rfl, by decide, by decide⟩
  have hbare : (loopback ["v1"]).IsWeb ["v1"] := ⟨.inl rfl, rfl, rfl, by decide, by decide⟩
  have hroot : (loopback [""]).IsWeb [""] := ⟨.inl rfl, rfl, rfl, by decide, by decide⟩
  have hescaped : (loopback ["v1", ""]).join? misleading = some (loopback escaped) := by decide
  obtain ⟨u, hu, hextends, -⟩ := hjoin _ _ _ hfile (by decide) hclean
  obtain ⟨v, hv, -, hstays⟩ := hjoin _ _ [] hroot (by decide) (List.forall_mem_nil _)
  obtain rfl := Option.some.inj (hu.symm.trans hescaped)
  refine ⟨hread _ _ hparse (.inl rfl), hescaped,
    (hslashed _ _ misleading hbare (by decide)).2.symm.trans hescaped, hextends (by decide),
    fun others v hothers hv => hsame _ _ _ _ _ _ hfile (by decide) hothers hclean hv hescaped,
    ?_, hslash "http" (by decide)⟩
  rw [hv, hstays ⟨rfl, rfl⟩]

/-- **A slash is left where nothing stands**: the base has no segments and there are no new ones,
but the path is cut into one part too many. -/
theorem not_extends_of_root :
    (webAddress [""]).IsWeb [""] ∧ "" ∉ trunk [""] ∧ (∀ s ∈ ([] : List String), Clean s) ∧
      ∃ u, (webAddress [""]).join? [] = some u ∧ u.text = "https://api.example/" ∧
        u.pathParts = [[], []] ∧ ¬Extends [""] [] u := by
  have hparts : (webAddress [""]).pathParts = [[], []] := by decide
  refine ⟨⟨.inr rfl, rfl, rfl, by decide, by decide⟩, by decide, List.forall_mem_nil _,
    webAddress [""], by decide, by decide, hparts, ?_⟩
  rintro ⟨encoded, hsplit, hencoded⟩
  rw [List.forall₂_nil_left_iff] at hencoded
  rw [hparts, hencoded] at hsplit
  cases hsplit

end RestClient.Url
