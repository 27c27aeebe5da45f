/-!
# Splitting at a separator

`pieces sep s` cuts `s` at every `sep`; there is always one piece more than there are separators.
-/

namespace EventRouting.Text

/-- Cuts a text at every separator. -/
def pieces (sep : Char) : List Char → List (List Char)
  | [] => [[]]
  | c :: rest =>
      if c = sep then [] :: pieces sep rest
      else
        match pieces sep rest with
        | [] => [[c]]
        | piece :: more => (c :: piece) :: more

theorem pieces_ne_nil (sep : Char) (s : List Char) : pieces sep s ≠ [] := by
  cases s with
  | nil => simp [pieces]
  | cons c rest =>
      unfold pieces
      split
      · simp
      · split <;> simp

/-- A separator between two texts cuts there and nowhere else. -/
theorem pieces_append_cons (sep : Char) (s t : List Char) :
    pieces sep (s ++ sep :: t) = pieces sep s ++ pieces sep t := by
  induction s with
  | nil => simp [pieces]
  | cons c rest ih =>
      by_cases h : c = sep
      · simp [pieces, h, ih]
      · cases hp : pieces sep rest with
        | nil => exact absurd hp (pieces_ne_nil sep rest)
        | cons piece more => simp [pieces, h, ih, hp]

/-- No piece holds the separator. -/
theorem not_mem_of_mem_pieces {sep : Char} {s piece : List Char} (h : piece ∈ pieces sep s) :
    sep ∉ piece := by
  induction s generalizing piece with
  | nil => simp_all [pieces]
  | cons c rest ih =>
      by_cases hc : c = sep
      · simp only [pieces, hc, if_true, List.mem_cons] at h
        rcases h with rfl | h
        · simp
        · exact ih h
      · cases hp : pieces sep rest with
        | nil => exact absurd hp (pieces_ne_nil sep rest)
        | cons first more =>
            simp only [pieces, hc, if_false, hp, List.mem_cons] at h
            rcases h with rfl | h
            · simp only [List.mem_cons, not_or]
              exact ⟨fun e => hc e.symm, ih (by simp [hp])⟩
            · exact ih (by simp [hp, h])

/-- The text after the last separator, or the whole text if there is none. -/
def lastPiece (sep : Char) (s : List Char) : List Char :=
  (pieces sep s).getLast (pieces_ne_nil sep s)

end EventRouting.Text
