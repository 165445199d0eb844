import RestClient.Proofs.Path
import RestClient.Proofs.Rendering

/-!
# Values do not move a request to another route

A request goes to the path of the base address with one segment for each segment of the template
behind it. Values are put into segments, so whatever they hold, the segments of literal text should
stay in their places: `KeepsRoute`.

That is so for exactly those rendered segments that are `Harmless` (`keepsRoute_iff`). Rendering
refuses a segment that is one or two dots as it stands, but a segment that only becomes two dots
when its tabs and line ends are dropped is resolved and takes the segment in front of it away. And
behind a path that is only a slash an empty first segment gives its place to the one after it
(`not_keepsRoute_of_tab_or_empty`).
-/

namespace RestClient

open Template (isDotSegment segments pieces IsLiteral)

/-! ## Routes -/

/-- The literal text among pieces. -/
def Template.literalText : List Template.Piece → List Char
  | [] => []
  | .literal t :: rest => t ++ literalText rest
  | .placeholder _ :: rest => literalText rest

/-- **A template that names a route**: no segment is a dot segment, and no literal text holds a tab
or a line end. Such segments and characters would be resolved or dropped whatever the values are. -/
structure Template.IsRoute (template : String) : Prop where
  noDots : ∀ s ∈ segments template, isDotSegment s = false
  noBreaks : ∀ s ∈ segments template, ∀ ps ∈ (pieces s).toOption,
    ∀ c ∈ literalText ps, Url.isDropped c = false

/-- Whether a template names a route can be decided. -/
instance (template : String) : Decidable (Template.IsRoute template) :=
  decidable_of_iff
    ((segments template).all fun s => !isDotSegment s &&
      (pieces s).toOption.all fun ps => (Template.literalText ps).all fun c => !Url.isDropped c)
    (by
      simp only [List.all_eq_true, Bool.and_eq_true, Bool.not_eq_true', Option.all_eq_true]
      exact ⟨fun h => ⟨fun s hs => (h s hs).1, fun s hs => (h s hs).2⟩,
        fun ⟨noDots, noBreaks⟩ s hs => ⟨noDots s hs, noBreaks s hs⟩⟩)

namespace Url

/-- A text that is one segment in an address: nothing in it ends a segment or the path. -/
def IsOneSegment (t : String) : Prop := ∀ c ∈ t.toList, c ∉ ['/', '\\', '?', '#']

/-- **The path keeps the route**: the segments of the base come first, then one segment for each of
the template's, and a segment of literal text stands encoded in its own place. So no value takes a
segment away, adds one, or moves a literal one. -/
def KeepsRoute (base : List String) (template : String) (u : Url) : Prop :=
  ∃ tail, u.path = .segments (trunk base ++ tail) ∧ (∀ t ∈ tail, IsOneSegment t) ∧
    List.Forall₂
      (fun s t => IsLiteral s → t = String.ofList (percentEncode inSpecialSegment s))
      (segments template) tail

/-! ## What a segment becomes -/

theorem isOneSegment_landing (s : String) : IsOneSegment (landing s) := by
  intro c hc hsign
  unfold landing at hc
  split at hc
  · cases hc
  · rw [String.toList_ofList] at hc
    -- All four signs are reserved in a segment, so in the encoded one they are escapes.
    simp only [List.mem_cons, List.not_mem_nil, or_false] at hsign
    rcases hsign with rfl | rfl | rfl | rfl <;>
      exact not_mem_percentEncode (by decide) (by decide) _ hc

end Url

namespace Template

theorem literalText_of_names_nil {ps : List Piece} (h : names ps = []) :
    literalText ps = written ps := by
  induction ps with
  | nil => rfl
  | cons p ps ih =>
    cases p with
    | literal t =>
      rw [literalText, ih h]
      rfl
    | placeholder n => cases h

/-- Literal text of a route lands encoded. -/
theorem landing_of_literal {s : List Char} (hlit : IsLiteral s) (hdots : isDotSegment s = false)
    (hbreaks : ∀ ps ∈ (pieces s).toOption, ∀ c ∈ literalText ps, Url.isDropped c = false) :
    Url.landing (String.ofList s)
      = String.ofList (Url.percentEncode Url.inSpecialSegment s) := by
  obtain ⟨ps, hps, hnames⟩ := hlit
  have hkept : Url.kept (String.ofList s) = s := by
    unfold Url.kept
    rw [String.toList_ofList, List.filter_eq_self]
    intro c hc
    rw [← written_pieces hps, ← literalText_of_names_nil hnames] at hc
    rw [hbreaks ps (by rw [hps]; rfl) c hc]
    rfl
  unfold Url.landing
  rw [hkept, if_neg (by simp [hdots])]

/-- What rendering a route gives: no dot segments, and literal text that lands encoded. -/
theorem forall₂_of_render {template : String} {values : List (String × String)}
    {rendered : List String} (hroute : IsRoute template)
    (h : render template values = .ok rendered) :
    List.Forall₂ (fun s t => isDotSegment t.toList = false ∧
        (IsLiteral s → Url.landing t
          = String.ofList (Url.percentEncode Url.inSpecialSegment s)))
      (segments template) rendered := by
  have hall : ∀ s ∈ segments template, isDotSegment s = false ∧
      ∀ ps ∈ (pieces s).toOption, ∀ c ∈ literalText ps, Url.isDropped c = false :=
    fun s hs => ⟨hroute.noDots s hs, hroute.noBreaks s hs⟩
  refine ((List.forall₂_and_left _ _).mpr ⟨hall, render_eq_ok_iff.mp h⟩).imp ?_
  rintro s t ⟨⟨hdots, hbreaks⟩, ht⟩
  by_cases hlit : IsLiteral s
  · rw [renderSegment_of_literal values hlit, Except.ok.injEq] at ht
    subst ht
    exact ⟨by rwa [String.toList_ofList], fun _ => landing_of_literal hlit hdots hbreaks⟩
  · exact ⟨not_isDotSegment_of_renderSegment hlit ht, fun h => absurd h hlit⟩

end Template

namespace Url

/-! ## When the route is kept -/

/-- **The route is kept exactly when the rendered segments are harmless**, and then each of them
stands in its place as it lands: encoded, without tabs and line ends, or empty if nothing or only
dots are left of it. There is an address in any case, so where the segments are not harmless it is
that of another route. The base is any web address whose path has no empty segments, but for a slash
at its end, and the template any that names a route. -/
theorem keepsRoute_iff {base : Url} {ss rendered : List String} {template : String}
    {values : List (String × String)} (hweb : base.scheme = "http" ∨ base.scheme = "https")
    (hpath : base.path = .segments ss) (htrunk : "" ∉ trunk ss)
    (hroute : Template.IsRoute template)
    (hrender : Template.render template values = .ok rendered) :
    ∃ u, base.join? rendered = some u ∧
      (KeepsRoute ss template u ↔ Harmless (trunk ss) rendered) ∧
      (Harmless (trunk ss) rendered →
        u.path = .segments (trunk ss ++ rendered.map landing)) := by
  have hforall := Template.forall₂_of_render hroute hrender
  have hlen := hforall.length_eq
  have hdots : ∀ t ∈ rendered, isDotSegment t.toList = false := by
    have hflip := hforall.flip
    exact ((List.forall₂_and_left _ _).mp hflip).1
  have hne : rendered ≠ [] := by
    intro hnil
    rw [hnil, List.length_nil, List.length_eq_zero_iff] at hlen
    exact Template.segments_ne_nil template hlen
  have hfront := front_popIfEmpty htrunk
  have hextend : Harmless (trunk ss) rendered →
      extend base.scheme (popIfEmpty ss) rendered = trunk ss ++ rendered.map landing := by
    intro hharm
    rw [← hfront] at hharm ⊢
    exact extend_of_harmless hweb hne hdots hharm
  refine ⟨{ base with path := .segments (extend base.scheme (popIfEmpty ss) rendered) },
    by rw [join?, hpath], ⟨?_, ?_⟩, fun hharm => congrArg Path.segments (hextend hharm)⟩
  · rintro ⟨tail, htail, -, hplaces⟩
    rw [Path.segments.injEq] at htail
    rw [← hfront]
    refine (length_extend_iff hweb hne hdots).mp ?_
    rw [hfront, htail, List.length_append, ← hplaces.length_eq, hlen]
  · intro hharm
    refine ⟨rendered.map landing, congrArg Path.segments (hextend hharm), ?_, ?_⟩
    · rintro _ ht
      obtain ⟨s, -, rfl⟩ := List.mem_map.mp ht
      exact isOneSegment_landing s
    · rw [List.forall₂_map_right_iff]
      exact hforall.imp fun s t h => h.2

/-- An address of the web with a path. -/
def webAddress (path : List String) : Url where
  scheme := "https"
  authority? := some { host := .domain "api.example" }
  path := .segments path

/-- Slashes, question marks, escapes and dots in values stay in their segments. -/
theorem keepsRoute_files :
    Template.IsRoute "/files/\x7bdir\x7d/\x7bname\x7d.\x7bext\x7d" ∧
      ∃ u, (webAddress ["v1", ""]).join? ["files", "a/b\t?#%2e", "..."] = some u ∧
        KeepsRoute ["v1", ""] "/files/\x7bdir\x7d/\x7bname\x7d.\x7bext\x7d" u ∧
        u.path = .segments ["v1", "files", "a%2Fb%3F%23%252e", "..."] := by
  have hroute : Template.IsRoute "/files/\x7bdir\x7d/\x7bname\x7d.\x7bext\x7d" := by decide
  have hharm : Harmless (trunk ["v1", ""]) ["files", "a/b\t?#%2e", "..."] :=
    .inr ⟨by decide, nofun⟩
  have hrender : Template.render "/files/\x7bdir\x7d/\x7bname\x7d.\x7bext\x7d"
      [("dir", "a/b\t?#%2e"), ("name", ""), ("ext", "..")]
      = .ok ["files", "a/b\t?#%2e", "..."] := rfl
  have hweb : (webAddress ["v1", ""]).scheme = "http" ∨ (webAddress ["v1", ""]).scheme = "https" :=
    .inr rfl
  obtain ⟨u, hu, hkeeps, hpath⟩ := keepsRoute_iff hweb rfl (by decide) hroute hrender
  exact ⟨hroute, u, hu, hkeeps.mpr hharm, (hpath hharm).trans (by decide)⟩

/-- A path with fewer segments than the base and the template have together keeps no route. -/
theorem not_keepsRoute_of_length {base path : List String} {template : String} {u : Url}
    (hu : u.path = .segments path)
    (hlen : path.length < (trunk base).length + (segments template).length) :
    ¬KeepsRoute base template u := by
  rintro ⟨tail, htail, -, hplaces⟩
  rw [hu, Path.segments.injEq] at htail
  rw [htail, List.length_append, hplaces.length_eq] at hlen
  exact Nat.lt_irrefl _ hlen

/-- **A value can move a request.** Two dots with a tab between them take the segment `users` away,
and an empty value in front lets `settings` move up. Neither of the two is a dot segment as it is
given, so rendering lets it through. -/
theorem not_keepsRoute_of_tab_or_empty :
    (Template.IsRoute "/users/\x7bid\x7d/orders" ∧
      Template.render "/users/\x7bid\x7d/orders" [("id", ".\t.")]
        = .ok ["users", ".\t.", "orders"] ∧
      ∃ u, (webAddress ["v1"]).join? ["users", ".\t.", "orders"] = some u ∧
        u.path = .segments ["v1", "", "orders"] ∧
        ¬KeepsRoute ["v1"] "/users/\x7bid\x7d/orders" u) ∧
    (Template.IsRoute "/\x7buser\x7d/settings" ∧
      Template.render "/\x7buser\x7d/settings" [("user", "")] = .ok ["", "settings"] ∧
      ∃ u, (webAddress [""]).join? ["", "settings"] = some u ∧
        u.path = .segments ["settings"] ∧
        ¬KeepsRoute [""] "/\x7buser\x7d/settings" u) := by
  have htab : extend "https" ["v1"] ["users", ".\t.", "orders"] = ["v1", "", "orders"] := by
    decide
  have hempty : extend "https" [""] ["", "settings"] = ["settings"] := by decide
  refine ⟨⟨by decide, rfl, _, rfl, congrArg Path.segments htab, ?_⟩,
    ⟨by decide, rfl, _, rfl, congrArg Path.segments hempty, ?_⟩⟩
  · exact not_keepsRoute_of_length (congrArg Path.segments htab) (by decide)
  · exact not_keepsRoute_of_length (congrArg Path.segments hempty) (by decide)

end Url
end RestClient
