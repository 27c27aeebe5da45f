/-!
# Path templates

A path is a row of literal characters and parameters in braces. A parameter starts at the first
brace that has a name behind it, the name runs up to the next closing brace, and what is no
parameter is literal. Writing the segments one behind the other gives the path back.
-/

namespace EventRouting.PathTemplate

/-- A part of a path. -/
inductive Segment
  | literal (c : Char)
  | parameter (name : List Char)
deriving DecidableEq, Repr

/-- The marker of a parameter in a wildcard path. -/
def wildcard : Char := '*'

/-- Splits a name and its closing brace off a text. -/
def name? (s : List Char) : Option (List Char × List Char) :=
  let name := s.takeWhile (· != '\x7d')
  match s.dropWhile (· != '\x7d') with
  | _ :: after => if name.isEmpty then none else some (name, after)
  | [] => none

/-- A name that is split off is not empty and has no closing brace, and it stood in front of one. -/
theorem name?_eq_some {s name after : List Char} (h : name? s = some (name, after)) :
    s = name ++ '\x7d' :: after ∧ name ≠ [] ∧ '\x7d' ∉ name := by
  cases hd : s.dropWhile (· != '\x7d') with
  | nil => simp [name?, hd] at h
  | cons c rest =>
      simp only [name?, hd, Option.ite_none_left_eq_some, Option.some.injEq, Prod.mk.injEq] at h
      obtain ⟨hne, rfl, rfl⟩ := h
      have hc : c = '\x7d' := by
        have := List.head?_dropWhile_not (· != '\x7d') s
        rw [hd] at this
        simpa using this
      refine ⟨?_, by simpa using hne, fun hmem => ?_⟩
      · have split := @List.takeWhile_append_dropWhile _ (· != '\x7d') s
        rw [hd, hc] at split
        exact split.symm
      · have all := @List.all_takeWhile _ (· != '\x7d') s
        have := List.all_eq_true.mp all _ hmem
        simp at this

/-- The segments of a path. -/
def segments (s : List Char) : List Segment :=
  match s with
  | [] => []
  | c :: rest =>
      if c = '\x7b' then
        match _h : name? rest with
        | some (name, after) => .parameter name :: segments after
        | none => .literal c :: segments rest
      else .literal c :: segments rest
termination_by s.length
decreasing_by
  · have := (name?_eq_some _h).1
    subst this
    simp
    omega
  · simp
  · simp

/-- A segment as it is written in a path. -/
def Segment.text : Segment → List Char
  | .literal c => [c]
  | .parameter name => '\x7b' :: name ++ ['\x7d']

/-- A segment of a wildcard path. -/
def Segment.generic : Segment → Char
  | .literal c => c
  | .parameter _ => wildcard

/-- The name of a parameter. -/
def Segment.name? : Segment → Option (List Char)
  | .literal _ => none
  | .parameter name => some name

/-- Nothing of a path is lost in its segments. -/
theorem flatMap_text_segments (s : List Char) : (segments s).flatMap Segment.text = s := by
  fun_induction segments s with
  | case1 => rfl
  | case2 rest name after h ih =>
      obtain ⟨rfl, -⟩ := name?_eq_some h
      simp [Segment.text, ih]
  | case3 rest h ih => simp [Segment.text, ih]
  | case4 c rest hc ih => simp [Segment.text, ih]

/-- The path with a wildcard in place of every parameter. -/
def toWildcards (path : String) : String :=
  String.ofList ((segments path.toList).map Segment.generic)

/-- The names of the parameters, from left to right. -/
def parameters (path : String) : List String :=
  (segments path.toList).filterMap fun s => s.name?.map String.ofList

end EventRouting.PathTemplate
