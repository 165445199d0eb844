import Mathlib.Tactic.ByContra
import Mathlib.Tactic.Push
import RestClient.Proofs.DotSegment
import RestClient.Template
import RestClient.Url.Join

/-!
# Segments behind the path of a web address

What `Url.extend` does to the path of an `http` or `https` address, one segment after the other.
What a new segment does is decided by what is left of it without tabs and line ends, `kept`. It
lands behind the path as `landing`, except that two dots take the segment in front away first
(`extendOne_web`).

A path that is only a slash has no segments for this purpose (`front`). That is why an empty
segment at the front of such a path is lost when another one follows.

The main result is `length_extend_iff`: the new segments take one place each behind the path exactly
when they are `Harmless`, and then they stand there as they land (`extend_of_harmless`). A step
never adds more than one segment (`length_extend_le`), so a step that adds none is not made up for.
-/

namespace RestClient.Url

open Template (isDotSegment)

/-! ## One segment -/

/-- What is left of a segment without tabs and line ends. -/
def kept (s : String) : List Char := s.toList.filter fun c => !isDropped c

/-- A segment of which nothing but dots is left, or nothing at all, when tabs and line ends are
dropped. It takes an empty place. -/
def isHollow (s : String) : Bool := (kept s).isEmpty || isDotSegment (kept s)

/-- A segment as it stands in a path. -/
def landing (s : String) : String :=
  if isDotSegment (kept s) then "" else String.ofList (percentEncode inSpecialSegment (kept s))

/-- The segments that a new one follows: of a path that is only a slash there are none. -/
def front (ss : List String) : List String := if ss = [""] then [] else ss

/-- The path after one more segment. -/
def next (front : List String) (s : String) : List String :=
  (if kept s = ['.', '.'] then front.dropLast else front) ++ [landing s]

theorem landing_eq_empty_iff {s : String} : landing s = "" ↔ isHollow s = true := by
  unfold landing isHollow
  split
  · next h => simp [h]
  · next h =>
    rw [Bool.or_eq_true, List.isEmpty_iff,
      ← percentEncode_eq_nil_iff inSpecialSegment, ← String.toList_eq_nil_iff, String.toList_ofList]
    simp [h]

theorem shorten_eq_dropLast (ss : List (List Char)) : shorten false ss = ss.dropLast := by
  unfold shorten
  split
  · simp
  · next h =>
    rw [List.getLast?_eq_none_iff] at h
    rw [h]
    rfl

theorem map_ofList_beforeNew (ss : List String) :
    (beforeNew ss).map String.ofList = front ss := by
  unfold beforeNew front
  split
  · rfl
  · simp [List.map_map, Function.comp_def]

/-- Pushing an encoded segment, by what is left of it. -/
theorem map_ofList_push (ss : List (List Char)) (s : String) :
    (push false true ss (encodeSegment true s)).map String.ofList
      = next (ss.map String.ofList) s := by
  have henc : encodeSegment true s = percentEncode inSpecialSegment (kept s) := rfl
  unfold push next landing
  by_cases h2 : kept s = ['.', '.']
  · rw [henc, if_pos (isDoubleDot_percentEncode.mpr h2), if_pos rfl, if_pos h2, h2,
      shorten_eq_dropLast]
    simp [isDotSegment, List.map_dropLast]
  · rw [henc, if_neg (mt isDoubleDot_percentEncode.mp h2), if_neg h2]
    by_cases h1 : kept s = ['.']
    · rw [if_pos (isSingleDot_percentEncode.mpr h1), if_pos rfl, h1]
      simp [isDotSegment]
    · rw [if_neg (mt isSingleDot_percentEncode.mp h1)]
      simp [isDotSegment, h1, h2]

/-- **One more segment behind the path of a web address**, by what is left of the segment. Two dots
take a place away and leave an empty one; anything else stands behind what was there. -/
theorem extendOne_web {scheme : String} (hweb : scheme = "http" ∨ scheme = "https")
    (ss : List String) {s : String} (hs : isDotSegment s.toList = false) :
    extendOne scheme ss s = next (front ss) s := by
  have hfile : ¬scheme = "file" := by rcases hweb with rfl | rfl <;> decide
  have hspecial : isSpecial scheme = true := by rcases hweb with rfl | rfl <;> decide
  have hdots : ¬(s = "." || s = "..") = true := by
    intro h
    rw [Bool.or_eq_true, decide_eq_true_eq, decide_eq_true_eq] at h
    rcases h with rfl | rfl <;> cases hs
  unfold extendOne
  rw [if_neg hdots]
  dsimp only
  rw [if_neg hfile, decide_eq_false hfile, hspecial, map_ofList_push, map_ofList_beforeNew]

/-! ## Several segments -/

variable {scheme : String}

/-- The last segments of a path, without an empty one at its end. -/
def trunk (ss : List String) : List String := if ss.getLast? = some "" then ss.dropLast else ss

/-- **Segments that take one place each** behind a path with these segments in front. Two dots take
a place away, so none may come to them. On a path that is only a slash a hollow segment takes no
place unless it stands alone, as the next one takes its place. -/
def Harmless (front segments : List String) : Prop :=
  (front = [] ∧ segments.length = 1) ∨
    ((∀ s ∈ segments, kept s ≠ ['.', '.']) ∧
      (front = [] → ∀ s ∈ segments.head?, isHollow s = false))

theorem extend_cons (ss : List String) (s : String) (rest : List String) :
    extend scheme ss (s :: rest) = extend scheme (extendOne scheme ss s) rest := rfl

theorem length_front_le (ss : List String) : (front ss).length ≤ ss.length := by
  unfold front
  split <;> simp

theorem front_of_length {ss : List String} (h : 1 < ss.length) : front ss = ss := by
  unfold front
  rw [if_neg]
  rintro rfl
  simp at h

theorem length_next_le (front : List String) (s : String) :
    (next front s).length ≤ front.length + 1 := by
  unfold next
  split <;> simp

/-- Two dots add nothing to a path that has segments. -/
theorem length_next_of_twoDots {front : List String} {s : String} (h : kept s = ['.', '.'])
    (hf : front ≠ []) : (next front s).length = front.length := by
  have hpos := List.length_pos_iff.mpr hf
  unfold next
  rw [if_pos h, List.length_append, List.length_dropLast, List.length_singleton]
  omega

theorem next_of_ne_twoDots {front : List String} {s : String} (h : kept s ≠ ['.', '.']) :
    next front s = front ++ [landing s] := by
  unfold next
  rw [if_neg h]

/-- On a path without segments two dots take nothing away. -/
theorem next_nil (s : String) : next [] s = [landing s] := by
  unfold next
  split <;> rfl

/-- A first segment that is not hollow stays. -/
theorem front_landing {s : String} (h : isHollow s = false) : front [landing s] = [landing s] := by
  unfold front
  rw [if_neg]
  intro he
  rw [List.cons.injEq, landing_eq_empty_iff, h] at he
  cases he.1

theorem isHollow_of_twoDots {s : String} (h : kept s = ['.', '.']) : isHollow s = true := by
  simp [isHollow, h, isDotSegment]

section

variable (hweb : scheme = "http" ∨ scheme = "https")
include hweb

/-- **A segment adds at most one segment.** Encoding leaves no separator in it, so the only question
is whether it adds one at all. -/
theorem length_extend_le (ss : List String) {s : String} {rest : List String}
    (hdots : ∀ t ∈ s :: rest, isDotSegment t.toList = false) :
    (extend scheme ss (s :: rest)).length ≤ (front ss).length + (s :: rest).length := by
  induction rest generalizing ss s with
  | nil =>
    rw [extend_cons, extendOne_web hweb ss (hdots s (by simp))]
    exact length_next_le _ _
  | cons t rest ih =>
    rw [List.forall_mem_cons] at hdots
    rw [extend_cons, extendOne_web hweb ss hdots.1]
    have hle := ih (next (front ss) s) hdots.2
    have hfront := length_front_le (next (front ss) s)
    have hnext := length_next_le (front ss) s
    rw [List.length_cons (a := s)]
    omega

/-- Two dots behind a path with segments cost a place. -/
theorem length_extend_lt {ss : List String} {s : String} {rest : List String}
    (hdots : ∀ t ∈ s :: rest, isDotSegment t.toList = false) (hf : front ss ≠ [])
    (htwo : ∃ t ∈ s :: rest, kept t = ['.', '.']) :
    (extend scheme ss (s :: rest)).length < (front ss).length + (s :: rest).length := by
  induction rest generalizing ss s with
  | nil =>
    obtain ⟨t, ht, htwo⟩ := htwo
    rw [List.mem_singleton] at ht
    subst ht
    rw [extend_cons, extendOne_web hweb ss (hdots t (by simp))]
    show (next (front ss) t).length < (front ss).length + 1
    rw [length_next_of_twoDots htwo hf]
    exact Nat.lt_succ_self _
  | cons u rest ih =>
    rw [List.forall_mem_cons] at hdots
    rw [extend_cons, extendOne_web hweb ss hdots.1]
    by_cases hs : kept s = ['.', '.']
    · -- this segment adds nothing, and the others at most one each
      have hle := length_extend_le hweb (next (front ss) s) hdots.2
      have hfront := length_front_le (next (front ss) s)
      have hnext := length_next_of_twoDots hs hf
      rw [List.length_cons (a := s)]
      omega
    · -- this segment stays, so the path keeps segments for the two dots that follow
      have hnext : next (front ss) s = front ss ++ [landing s] := next_of_ne_twoDots hs
      have hpos := List.length_pos_iff.mpr hf
      have hfix : front (next (front ss) s) = next (front ss) s :=
        front_of_length (by rw [hnext, List.length_append, List.length_singleton]; omega)
      have hkeeps : front (next (front ss) s) ≠ [] := by
        rw [hfix, hnext]
        simp
      have hlater : ∃ t ∈ u :: rest, kept t = ['.', '.'] := by
        obtain ⟨t, ht, htwo⟩ := htwo
        rcases List.mem_cons.mp ht with rfl | ht
        · exact absurd htwo hs
        · exact ⟨t, ht, htwo⟩
      have hlt := ih hdots.2 hkeeps hlater
      rw [hfix, hnext, List.length_append, List.length_singleton, ← hnext] at hlt
      rw [List.length_cons (a := s)]
      omega

/-- Without two dots, segments behind a path with segments stand there as they land. -/
theorem extend_of_ne_twoDots {ss : List String} {s : String} {rest : List String}
    (hdots : ∀ t ∈ s :: rest, isDotSegment t.toList = false) (hf : front ss ≠ [])
    (hno : ∀ t ∈ s :: rest, kept t ≠ ['.', '.']) :
    extend scheme ss (s :: rest) = front ss ++ (s :: rest).map landing := by
  induction rest generalizing ss s with
  | nil =>
    rw [extend_cons, extendOne_web hweb ss (hdots s (by simp)),
      next_of_ne_twoDots (hno s (by simp))]
    rfl
  | cons t rest ih =>
    rw [List.forall_mem_cons] at hdots hno
    have hpos := List.length_pos_iff.mpr hf
    have hfix : front (front ss ++ [landing s]) = front ss ++ [landing s] :=
      front_of_length (by rw [List.length_append, List.length_singleton]; omega)
    rw [extend_cons, extendOne_web hweb ss hdots.1, next_of_ne_twoDots hno.1,
      ih hdots.2 (by rw [hfix]; simp) hno.2, hfix, List.append_assoc]
    rfl

/-- **Harmless segments stand behind the path as they land**, all of them, in order. -/
theorem extend_of_harmless {ss segments : List String} (hne : segments ≠ [])
    (hdots : ∀ t ∈ segments, isDotSegment t.toList = false)
    (h : Harmless (front ss) segments) :
    extend scheme ss segments = front ss ++ segments.map landing := by
  obtain ⟨s, rest, rfl⟩ := List.exists_cons_of_ne_nil hne
  by_cases hf : front ss = []
  · rw [extend_cons, extendOne_web hweb ss (hdots s (by simp)), hf, next_nil]
    cases rest with
    | nil => rfl
    | cons t rest =>
      obtain ⟨-, hlen⟩ | ⟨hno, hhead⟩ := h
      · cases hlen
      · have hfix := front_landing (hhead hf s rfl)
        rw [List.forall_mem_cons] at hdots hno
        rw [extend_of_ne_twoDots hweb hdots.2 (by rw [hfix]; simp) hno.2, hfix]
        rfl
  · obtain ⟨hnil, -⟩ | ⟨hno, -⟩ := h
    · exact absurd hnil hf
    · exact extend_of_ne_twoDots hweb hdots hf hno

/-- On a path that is only a slash, a hollow first segment gives its place away. -/
theorem length_extend_lt_of_hollow {ss : List String} {s t : String} {rest : List String}
    (hdots : ∀ u ∈ s :: t :: rest, isDotSegment u.toList = false) (hf : front ss = [])
    (hs : isHollow s = true) :
    (extend scheme ss (s :: t :: rest)).length < (s :: t :: rest).length := by
  rw [List.forall_mem_cons] at hdots
  rw [extend_cons, extendOne_web hweb ss hdots.1, hf, next_nil, landing_eq_empty_iff.mpr hs]
  have hle := length_extend_le hweb [""] hdots.2
  have hnil : (front [""]).length = 0 := rfl
  rw [List.length_cons (a := s)]
  omega

/-- Segments that are not harmless take fewer places than there are segments. -/
theorem length_extend_lt_of_not_harmless {ss segments : List String} (hne : segments ≠ [])
    (hdots : ∀ t ∈ segments, isDotSegment t.toList = false)
    (h : ¬Harmless (front ss) segments) :
    (extend scheme ss segments).length < (front ss).length + segments.length := by
  unfold Harmless at h
  push Not at h
  obtain ⟨hlong, h⟩ := h
  obtain ⟨s, rest, rfl⟩ := List.exists_cons_of_ne_nil hne
  by_cases hf : front ss = []
  · obtain ⟨t, rest, rfl⟩ : ∃ t r, rest = t :: r :=
      List.exists_cons_of_ne_nil fun hnil => hlong hf (by rw [hnil]; rfl)
    by_cases hs : isHollow s = true
    · have hlt := length_extend_lt_of_hollow hweb hdots hf hs
      rw [hf, List.length_nil]
      omega
    · -- the first segment stays, so there are two dots among the others
      rw [Bool.not_eq_true] at hs
      have hfix := front_landing hs
      have htwo : ∃ u ∈ t :: rest, kept u = ['.', '.'] := by
        by_contra hno
        push Not at hno
        have hks : kept s ≠ ['.', '.'] := fun hk => by
          rw [isHollow_of_twoDots hk] at hs
          cases hs
        obtain ⟨-, u, hu, hhollow⟩ := h (List.forall_mem_cons.mpr ⟨hks, hno⟩)
        cases hu
        exact hhollow hs
      rw [List.forall_mem_cons] at hdots
      have hlt := length_extend_lt hweb hdots.2 (by rw [hfix]; simp) htwo
      rw [hfix, List.length_singleton] at hlt
      rw [extend_cons, extendOne_web hweb ss hdots.1, hf, next_nil, List.length_nil,
        List.length_cons (a := s)]
      omega
  · have htwo : ∃ u ∈ s :: rest, kept u = ['.', '.'] := by
      by_contra hno
      push Not at hno
      exact hf (h hno).1
    exact length_extend_lt hweb hdots hf htwo

/-- **The new segments take one place each exactly when they are harmless.** Otherwise the path has
fewer segments than it should, and never more. -/
theorem length_extend_iff {ss segments : List String} (hne : segments ≠ [])
    (hdots : ∀ t ∈ segments, isDotSegment t.toList = false) :
    (extend scheme ss segments).length = (front ss).length + segments.length
      ↔ Harmless (front ss) segments := by
  constructor
  · intro hlen
    by_contra h
    have hlt := length_extend_lt_of_not_harmless hweb hne hdots h
    omega
  · intro h
    rw [extend_of_harmless hweb hne hdots h, List.length_append, List.length_map]

end

/-! ## The path of the base -/

/-- Where new segments go: behind the segments of the path, an empty last one not counted. -/
theorem front_popIfEmpty {ss : List String} (h : "" ∉ trunk ss) :
    front (popIfEmpty ss) = trunk ss := by
  have hfix : ∀ ts : List String, "" ∉ ts → front ts = ts := fun ts hts => by
    unfold front
    rw [if_neg]
    rintro rfl
    simp at hts
  unfold trunk at h ⊢
  unfold popIfEmpty
  split
  · next hlast =>
    rw [if_pos hlast] at h ⊢
    split
    · exact hfix _ h
    · next hlen =>
      obtain ⟨t, rfl⟩ : ∃ t, ss = [t] := by
        rw [← List.length_eq_one_iff]
        have := List.length_pos_of_mem (List.mem_of_getLast? hlast)
        omega
      rw [List.getLast?_singleton, Option.some.injEq] at hlast
      subst hlast
      rfl
  · next hlast =>
    rw [if_neg hlast] at h ⊢
    exact hfix _ h

end RestClient.Url
