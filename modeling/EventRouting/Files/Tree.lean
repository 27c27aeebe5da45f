import EventRouting.Entries

/-!
# File trees

Files with their contents and directories with their entries. A location is the list of names that
lead to a file or a directory.
-/

namespace EventRouting

/-- A file or a directory. -/
inductive FileTree
  | file (content : ByteArray)
  | directory (entries : List (String × FileTree))

namespace FileTree

/-- A directory without entries. -/
def emptyDirectory : FileTree :=
  .directory []

instance : Inhabited FileTree := ⟨emptyDirectory⟩

/-- What stands at a location. -/
def get? : List String → FileTree → Option FileTree
  | [], t => some t
  | name :: rest, .directory entries => (Entries.get? name entries).bind (get? rest)
  | _ :: _, .file _ => none

/-- Puts `new` at a location. Nothing changes if there is no directory for it. -/
def set (new : FileTree) : List String → FileTree → FileTree
  | [], _ => new
  | name :: rest, .directory entries =>
      match Entries.get? name entries, rest with
      | some t, rest => .directory (Entries.insert name (set new rest t) entries)
      | none, [] => .directory (Entries.insert name new entries)
      | none, _ :: _ => .directory entries
  | _ :: _, .file content => .file content

/-- Whether it is a directory. -/
def isDirectory : FileTree → Bool
  | .directory _ => true
  | .file _ => false

/-- The content of a file. -/
def content? : FileTree → Option ByteArray
  | .file content => some content
  | .directory _ => none

mutual

/-- Everything within, with its location; directories come before their entries. -/
def descendants : FileTree → List (List String × FileTree)
  | .file _ => []
  | .directory entries => entryDescendants entries

/-- The entries and everything within them. -/
def entryDescendants : List (String × FileTree) → List (List String × FileTree)
  | [] => []
  | (name, t) :: rest =>
      ([name], t) :: (t.descendants.map fun e => (name :: e.1, e.2)) ++ entryDescendants rest

end

@[simp] theorem get?_nil (t : FileTree) : t.get? [] = some t := by
  cases t <;> rfl

theorem get?_append (t : FileTree) (l l' : List String) :
    t.get? (l ++ l') = (t.get? l).bind (get? l') := by
  induction l generalizing t with
  | nil => simp
  | cons name rest ih =>
      cases t with
      | file content => simp [get?]
      | directory entries =>
          cases h : Entries.get? name entries with
          | none => simp [get?, h]
          | some t => simpa [get?, h] using ih t

/-- What was put into a directory is found there. -/
theorem get?_set_self {t : FileTree} {around : List String} {entries : List (String × FileTree)}
    (h : t.get? around = some (.directory entries)) (name : String) (new : FileTree) :
    (set new (around ++ [name]) t).get? (around ++ [name]) = some new := by
  induction around generalizing t with
  | nil =>
      obtain rfl : t = .directory entries := by simpa using h
      cases hn : Entries.get? name entries <;> simp [set, get?, hn]
  | cons first rest ih =>
      cases t with
      | file content => simp [get?] at h
      | directory es =>
          cases hf : Entries.get? first es with
          | none => simp [get?, hf] at h
          | some u =>
              have hu : u.get? rest = some (.directory entries) := by simpa [get?, hf] using h
              simpa [set, get?, hf] using ih hu

end FileTree

end EventRouting
