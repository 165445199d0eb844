/-!
# Splitting and joining at a character

`split c` cuts a text at every `c`; joining the parts with `c` gives the text back (`join_split`),
and no part holds a `c` (`not_mem_of_mem_split`). Splitting goes through a separator part by part
(`split_append`).
-/

namespace RestClient.Text

/-- Puts a character in front of the first part. -/
def consFirst (c : Char) : List (List Char) → List (List Char)
  | [] => [[c]]
  | p :: ps => (c :: p) :: ps

/-- The parts of a text between the occurrences of a separator. There is one part more than there
are separators, so of the empty text there is one empty part. -/
def split (sep : Char) : List Char → List (List Char)
  | [] => [[]]
  | c :: cs => if c = sep then [] :: split sep cs else consFirst c (split sep cs)

/-- Parts with a separator between them. -/
def join (sep : Char) : List (List Char) → List Char
  | [] => []
  | [p] => p
  | p :: ps => p ++ sep :: join sep ps

theorem split_ne_nil (sep : Char) (cs : List Char) : split sep cs ≠ [] := by
  cases cs with
  | nil => simp [split]
  | cons c cs =>
    unfold split
    split
    · simp
    · cases split sep cs <;> simp [consFirst]

theorem join_consFirst (sep c : Char) {ps : List (List Char)} (h : ps ≠ []) :
    join sep (consFirst c ps) = c :: join sep ps := by
  match ps, h with
  | [p], _ => rfl
  | p :: q :: ps, _ => rfl

/-- **Nothing is lost in splitting**: the parts with the separator between them are the text. -/
theorem join_split (sep : Char) (cs : List Char) : join sep (split sep cs) = cs := by
  induction cs with
  | nil => rfl
  | cons c cs ih =>
    unfold split
    split
    · next h =>
      subst h
      match hs : split c cs, split_ne_nil c cs with
      | p :: ps, _ => rw [hs] at ih; simp [join, ih]
    · rw [join_consFirst sep c (split_ne_nil sep cs), ih]

/-- A part holds no separator. -/
theorem not_mem_of_mem_split {sep : Char} {cs p : List Char} (h : p ∈ split sep cs) :
    sep ∉ p := by
  induction cs generalizing p with
  | nil => simp [split] at h; simp [h]
  | cons c cs ih =>
    unfold split at h
    split at h
    · simp only [List.mem_cons] at h
      rcases h with rfl | h
      · simp
      · exact ih h
    · next hc =>
      match hs : split sep cs, split_ne_nil sep cs with
      | q :: qs, _ =>
        rw [hs] at h ih
        simp only [consFirst, List.mem_cons] at h
        rcases h with rfl | h
        · have := ih (p := q) (by simp)
          simp [this, Ne.symm hc]
        · exact ih (by simp [h])

/-- A text without the separator is one part. -/
theorem split_of_not_mem {sep : Char} {cs : List Char} (h : sep ∉ cs) : split sep cs = [cs] := by
  induction cs with
  | nil => rfl
  | cons c cs ih =>
    rw [List.mem_cons, not_or] at h
    rw [split, if_neg (Ne.symm h.1), ih h.2, consFirst]

/-- **Texts with a separator between them are split apart**, each into its own parts. -/
theorem split_append (sep : Char) (cs ds : List Char) :
    split sep (cs ++ sep :: ds) = split sep cs ++ split sep ds := by
  induction cs with
  | nil => simp [split]
  | cons c cs ih =>
    simp only [List.cons_append, split, ih]
    split
    · rfl
    · match split sep cs, split_ne_nil sep cs with
      | p :: ps, _ => rfl

end RestClient.Text
