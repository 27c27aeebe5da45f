import EventRouting.Files.Disk
import EventRouting.Proofs.Outcome
import Mathlib.Tactic.SplitIfs

/-!
# What writing leaves alone

What stands on a disk after a file was written or directories were created. Nothing stands elsewhere
than before, and names that led somewhere still lead there.
-/

namespace EventRouting

/-- What stands at a location: nothing, a directory, or a file with its content. -/
inductive Standing
  | nothing
  | directory
  | file (content : ByteArray)

/-- The content of a file. There is none in anything else. -/
def Standing.content : Standing → ByteArray
  | .file content => content
  | _ => .empty

namespace FileTree

/-- What a tree is at its root. -/
def kind : FileTree → Standing
  | .directory _ => .directory
  | .file content => .file content

/-- What stands at a location. -/
def standing (t : FileTree) (location : List String) : Standing :=
  match t.get? location with
  | some u => u.kind
  | none => .nothing

/-- Nothing stands within. -/
def IsLeaf (t : FileTree) : Prop :=
  ∀ name rest, t.get? (name :: rest) = none

theorem isLeaf_file (content : ByteArray) : (FileTree.file content).IsLeaf :=
  fun _ _ => rfl

theorem isLeaf_emptyDirectory : emptyDirectory.IsLeaf :=
  fun _ _ => rfl

variable {t new : FileTree} {around : List String} {entries : List (String × FileTree)}
  {name : String}

theorem standing_nil (t : FileTree) : t.standing [] = t.kind := by
  rw [standing, get?_nil]

theorem standing_cons (name : String) (rest : List String) :
    (FileTree.directory entries).standing (name :: rest) =
      match Entries.get? name entries with
      | some t => t.standing rest
      | none => .nothing := by
  rw [standing, get?]
  cases Entries.get? name entries with
  | none => rfl
  | some t => rfl

theorem IsLeaf.standing_cons (h : t.IsLeaf) (name : String) (rest : List String) :
    t.standing (name :: rest) = .nothing := by
  rw [standing, h]

theorem set_name (entries : List (String × FileTree)) (name : String) (new : FileTree) :
    set new [name] (.directory entries) = .directory (Entries.insert name new entries) := by
  cases h : Entries.get? name entries with
  | none => simp [set, h]
  | some t => simp [set, h]

theorem set_within {rest : List String} {u : FileTree} (h : Entries.get? name entries = some u) :
    set new (name :: rest) (.directory entries) =
      .directory (Entries.insert name (set new rest u) entries) := by
  simp [set, h]

/-- Putting a leaf into a directory in which nothing stands within the name changes what stands
there and nothing else. -/
theorem standing_set (h : t.get? around = some (.directory entries)) (hnew : new.IsLeaf)
    (hold : ∀ u, Entries.get? name entries = some u → u.IsLeaf) (location : List String) :
    (set new (around ++ [name]) t).standing location =
      if location = around ++ [name] then new.kind else t.standing location := by
  induction around generalizing t location with
  | nil =>
      obtain rfl : t = .directory entries := by simpa using h
      rw [List.nil_append, set_name]
      cases location with
      | nil => rw [standing_nil, standing_nil, if_neg (by simp), kind, kind]
      | cons first rest =>
          rw [standing_cons, standing_cons, Entries.get?_insert]
          by_cases hn : name = first
          · subst hn
            rw [if_pos (beq_self_eq_true _)]
            dsimp only
            cases rest with
            | nil => rw [if_pos rfl, standing_nil]
            | cons next rest =>
                rw [if_neg (by simp), hnew.standing_cons]
                cases ho : Entries.get? name entries with
                | none => rfl
                | some u => exact ((hold u ho).standing_cons next rest).symm
          · rw [if_neg (by simpa using hn), if_neg (by simp [Ne.symm hn])]
  | cons outer inner ih =>
      cases t with
      | file content => simp [get?] at h
      | directory es =>
          cases ho : Entries.get? outer es with
          | none => simp [get?, ho] at h
          | some u =>
              have hu : u.get? inner = some (.directory entries) := by simpa [get?, ho] using h
              rw [List.cons_append, set_within ho]
              cases location with
              | nil => rw [standing_nil, standing_nil, if_neg (by simp), kind, kind]
              | cons first rest =>
                  rw [standing_cons, standing_cons, Entries.get?_insert]
                  by_cases hn : outer = first
                  · subst hn
                    rw [if_pos (beq_self_eq_true _), ho]
                    simp [ih hu]
                  · rw [if_neg (by simpa using hn), if_neg (by simp [Ne.symm hn])]

end FileTree

namespace Disk

/-- What stands at a location. -/
def standing (d : Disk) (location : List String) : Standing :=
  d.root.standing location

variable {d d' d'' : Disk} {location around : List String} {entries : List (String × FileTree)}
  {part name : String}

theorem standing_eq_directory_iff :
    d.standing location = .directory ↔
      ∃ entries, d.root.get? location = some (.directory entries) := by
  rw [standing, FileTree.standing]
  rcases d.root.get? location with _ | _ | _ <;> simp [FileTree.kind]

theorem standing_within (h : d.root.get? around = some (.directory entries)) (part : String) :
    d.standing (around ++ [part]) = (FileTree.directory entries).standing [part] := by
  rw [standing, FileTree.standing, FileTree.get?_append, h]
  rfl

theorem standing_within_eq_nothing_iff (h : d.root.get? around = some (.directory entries)) :
    d.standing (around ++ [part]) = .nothing ↔ Entries.contains part entries = false := by
  rw [standing_within h, FileTree.standing_cons, Entries.contains]
  rcases Entries.get? part entries with _ | _ | _ <;> simp [FileTree.standing_nil, FileTree.kind]

/-- Where a part of a name leads from a directory. -/
inductive Leads (d : Disk) (location : List String) : String → List String → Prop
  | here : Leads d location "." location
  | back : Leads d location ".." location.dropLast
  | into {part : String} (named : part ≠ "." ∧ part ≠ "..")
      (short : part.utf8ByteSize ≤ longestPart)
      (there : d.standing (location ++ [part]) ≠ .nothing) :
      Leads d location part (location ++ [part])

theorem step_eq_ok_iff {target : List String} : d.step location part = .ok target ↔
    d.standing location = .directory ∧ d.Leads location part target := by
  rw [standing_eq_directory_iff, step]
  cases h : d.root.get? location with
  | none => simp
  | some t =>
      cases t with
      | file content => simp
      | directory entries =>
          have hthere : d.standing (location ++ [part]) = .nothing ↔ _ :=
            standing_within_eq_nothing_iff h
          simp only [Option.some.injEq, FileTree.directory.injEq, exists_eq', true_and]
          constructor
          · intro hok
            split_ifs at hok with hdot hdots hlong hcontains
            · cases hok
              exact hdot ▸ .here
            · cases hok
              exact hdots ▸ .back
            · cases hok
              exact .into ⟨hdot, hdots⟩ (by omega) (by simp [hthere, hcontains])
          · rintro (_ | _ | ⟨⟨hdot, hdots⟩, hshort, hin⟩)
            · rw [if_pos rfl]
            · rw [if_neg (by decide), if_pos rfl]
            · rw [if_neg hdot, if_neg hdots, if_neg (by omega)]
              exact if_pos (by simpa [hthere] using hin)

/-- The second disk has the directories of the first one, and something stands wherever something
stood on it. -/
structure Keeps (d d' : Disk) : Prop where
  sameStart : d'.directory = d.directory
  directories : ∀ {location}, d.standing location = .directory → d'.standing location = .directory
  there : ∀ {location}, d.standing location ≠ .nothing → d'.standing location ≠ .nothing

namespace Keeps

theorem refl (d : Disk) : d.Keeps d :=
  ⟨rfl, id, id⟩

theorem trans (h : d.Keeps d') (h' : d'.Keeps d'') : d.Keeps d'' :=
  ⟨h'.sameStart.trans h.sameStart, fun hl => h'.directories (h.directories hl),
    fun hl => h'.there (h.there hl)⟩

theorem leads {target : List String} (h : d.Keeps d') (hl : d.Leads location part target) :
    d'.Leads location part target := by
  cases hl with
  | here => exact .here
  | back => exact .back
  | into named short there => exact .into named short (h.there there)

theorem step {target : List String} (h : d.Keeps d') (hs : d.step location part = .ok target) :
    d'.step location part = .ok target := by
  rw [step_eq_ok_iff] at hs ⊢
  exact ⟨h.directories hs.1, h.leads hs.2⟩

/-- Parts of a name lead where they led. -/
theorem follow {absolute : Bool} {parts : List String} (h : d.Keeps d')
    (hf : d.follow absolute parts = .ok location) : d'.follow absolute parts = .ok location := by
  have hstart : d'.start absolute = d.start absolute := by
    rw [start, start, h.sameStart]
  rw [Disk.follow, hstart]
  rw [Disk.follow] at hf
  generalize d.start absolute = first at hf ⊢
  induction parts generalizing first with
  | nil => exact hf
  | cons part rest ih =>
      rw [List.foldlM_cons, bind_eq_ok] at hf ⊢
      obtain ⟨next, hs, hf⟩ := hf
      exact ⟨next, h.step hs, ih next hf⟩

theorem locate (h : d.Keeps d') (hl : d.locate name = .ok location) :
    d'.locate name = .ok location := by
  rw [Disk.locate, bind_eq_ok] at hl ⊢
  obtain ⟨_, hn, hf⟩ := hl
  exact ⟨_, hn, h.follow hf⟩

end Keeps

/-- A place in a directory where no directory stands. -/
structure Vacant (d : Disk) (around : List String) (name : String) : Prop where
  within : d.standing around = .directory
  free : d.standing (around ++ [name]) ≠ .directory

namespace Vacant

variable {new : FileTree}

/-- A leaf put into a vacant place is the only thing that changes. -/
theorem standing_set (h : d.Vacant around name) (hnew : new.IsLeaf) (location : List String) :
    (d.set (around ++ [name]) new).standing location =
      if location = around ++ [name] then new.kind else d.standing location := by
  obtain ⟨entries, hentries⟩ := standing_eq_directory_iff.mp h.within
  refine FileTree.standing_set hentries hnew (fun u hu => ?_) location
  cases u with
  | file content => exact FileTree.isLeaf_file content
  | directory inner =>
      refine absurd ?_ h.free
      rw [standing_within hentries, FileTree.standing_cons, hu]
      exact FileTree.standing_nil _

theorem keeps_set (h : d.Vacant around name) (hnew : new.IsLeaf) :
    d.Keeps (d.set (around ++ [name]) new) where
  sameStart := rfl
  directories {location} hl := by
    rw [h.standing_set hnew]
    split
    · next he => exact absurd (he ▸ hl) h.free
    · exact hl
  there {location} hl := by
    rw [h.standing_set hnew]
    split
    · cases new <;> simp [FileTree.kind]
    · exact hl

end Vacant

theorem entriesAt_eq_ok (h : d.entriesAt location = .ok entries) :
    d.root.get? location = some (.directory entries) := by
  rw [entriesAt] at h
  split at h
  · next heq => exact Except.ok.inj h ▸ heq
  · cases h
  · cases h

/-- Parts lead to what stands under the last of them in the directory to which the others led. -/
theorem follow_last {absolute : Bool} {parts : List String} (hlast : parts.getLast? = some name)
    (hf : d.follow absolute parts.dropLast = .ok around) (hd : d.standing around = .directory)
    (named : name ≠ "." ∧ name ≠ "..") (short : name.utf8ByteSize ≤ longestPart)
    (hk : d.Keeps d') (there : d'.standing (around ++ [name]) ≠ .nothing) :
    d'.follow absolute parts = .ok (around ++ [name]) := by
  have hs : d'.step around name = .ok (around ++ [name]) :=
    step_eq_ok_iff.mpr ⟨hk.directories hd, .into named short there⟩
  have hf := hk.follow hf
  obtain ⟨before, rfl⟩ := List.getLast?_eq_some_iff.mp hlast
  rw [List.dropLast_concat] at hf
  rw [follow, List.foldlM_append, bind_eq_ok]
  exact ⟨around, hf, by simpa using hs⟩

/-- The location of a file that is to be written is vacant, and its name leads there if something
stands there. -/
theorem locateFile_eq_ok (h : d.locateFile name = .ok location) :
    ∃ around last, location = around ++ [last] ∧ d.Vacant around last ∧
      ∀ {d'}, d.Keeps d' → d'.standing location ≠ .nothing → d'.locate name = .ok location := by
  rw [locateFile, bind_eq_ok] at h
  obtain ⟨_, hname, h⟩ := h
  cases hlast : (FileName.allParts name).getLast? with
  | none =>
      simp only [hlast] at h
      cases h
  | some last =>
      simp only [hlast, bind_eq_ok] at h
      obtain ⟨around, hf, entries, hentries, h⟩ := h
      have hentries := entriesAt_eq_ok hentries
      have hd := standing_eq_directory_iff.mpr ⟨entries, hentries⟩
      split_ifs at h with hnamed hlong
      rw [not_or, not_or] at hnamed
      have hchild := standing_within hentries last
      rw [FileTree.standing_cons] at hchild
      split at h
      · cases h
      · next hfree =>
        obtain rfl := Except.ok.inj h
        refine ⟨around, last, rfl, ⟨hd, ?_⟩, fun hk there => ?_⟩
        · rw [hchild]
          rcases hu : Entries.get? last entries with _ | _ | inner
          · simp
          · simp [FileTree.standing_nil, FileTree.kind]
          · exact absurd hu (hfree inner)
        · have hlead := follow_last hlast hf hd ⟨hnamed.1, hnamed.2.1⟩ (by omega) hk there
          rw [locate, bind_eq_ok]
          refine ⟨_, hname, ?_⟩
          simpa [hnamed.2.2] using hlead

/-- The location of a directory that is to be created is empty, and its parts lead there if
something stands there. -/
theorem locateNew_eq_ok {absolute : Bool} {parts : List String}
    (h : d.locateNew absolute parts = .ok location) :
    ∃ around last, location = around ++ [last] ∧ d.Vacant around last ∧
      d.standing location = .nothing ∧
      ∀ {d'}, d.Keeps d' → d'.standing location ≠ .nothing →
        d'.follow absolute parts = .ok location := by
  rw [locateNew] at h
  cases hlast : parts.getLast? with
  | none =>
      rw [hlast] at h
      cases h
  | some last =>
      simp only [hlast, bind_eq_ok] at h
      obtain ⟨around, hf, entries, hentries, h⟩ := h
      have hentries := entriesAt_eq_ok hentries
      have hd := standing_eq_directory_iff.mpr ⟨entries, hentries⟩
      split_ifs at h with hnamed hlong hcontains
      rw [not_or] at hnamed
      obtain rfl := Except.ok.inj h
      have hnothing : d.standing (around ++ [last]) = .nothing :=
        (standing_within_eq_nothing_iff hentries).mpr (by simpa using hcontains)
      exact ⟨around, last, rfl, ⟨hd, by simp [hnothing]⟩, hnothing,
        fun hk there => follow_last hlast hf hd hnamed (by omega) hk there⟩

/-- The second disk has further directories, to which the first of the parts lead, and nothing else
stands anywhere than before. -/
structure Gains (d : Disk) (absolute : Bool) (parts : List String) (d' : Disk) : Prop where
  sameStart : d'.directory = d.directory
  standing : ∀ location, d'.standing location = d.standing location ∨
    d.standing location = .nothing ∧ d'.standing location = .directory ∧
      ∃ first, first <+: parts ∧ d'.follow absolute first = .ok location

namespace Gains

variable {absolute : Bool} {parts inner : List String}

theorem refl (d : Disk) (absolute : Bool) (parts : List String) : d.Gains absolute parts d :=
  ⟨rfl, fun _ => .inl rfl⟩

theorem keeps (h : d.Gains absolute parts d') : d.Keeps d' where
  sameStart := h.sameStart
  directories {location} hl := by
    obtain he | ⟨-, hd, -⟩ := h.standing location
    · rw [he, hl]
    · exact hd
  there {location} hl := by
    obtain he | ⟨-, hd, -⟩ := h.standing location
    · rwa [he]
    · simp [hd]

theorem mono (h : d.Gains absolute inner d') (hp : inner <+: parts) :
    d.Gains absolute parts d' := by
  refine ⟨h.sameStart, fun location => ?_⟩
  obtain he | ⟨hn, hd, first, hfirst, hf⟩ := h.standing location
  · exact .inl he
  · exact .inr ⟨hn, hd, first, hfirst.trans hp, hf⟩

theorem trans (h : d.Gains absolute parts d') (h' : d'.Gains absolute parts d'') :
    d.Gains absolute parts d'' := by
  refine ⟨h'.sameStart.trans h.sameStart, fun location => ?_⟩
  obtain he | ⟨hn, hd, first, hfirst, hf⟩ := h.standing location
  · rw [← he]
    exact h'.standing location
  · exact .inr ⟨hn, h'.keeps.directories hd, first, hfirst, h'.keeps.follow hf⟩

end Gains

section Creation

variable (absolute : Bool) (parts : List String)

theorem createDirectory_gains (d : Disk) :
    d.Gains absolute parts (d.createDirectory absolute parts).2 := by
  rw [createDirectory]
  cases h : d.locateNew absolute parts with
  | error e => exact .refl d absolute parts
  | ok location =>
      obtain ⟨around, last, rfl, hvacant, hnothing, hleads⟩ := locateNew_eq_ok h
      have hset := hvacant.standing_set FileTree.isLeaf_emptyDirectory
      have hkeeps := hvacant.keeps_set FileTree.isLeaf_emptyDirectory
      have hcreated := (hset (around ++ [last])).trans (if_pos rfl)
      have hthere : (d.set (around ++ [last]) FileTree.emptyDirectory).standing
          (around ++ [last]) ≠ .nothing := by
        rw [hcreated]
        nofun
      refine ⟨rfl, fun location => ?_⟩
      by_cases hl : location = around ++ [last]
      · subst hl
        exact .inr ⟨hnothing, hcreated, parts, List.prefix_refl parts, hleads hkeeps hthere⟩
      · exact .inl ((hset location).trans (if_neg hl))

theorem acceptDirectory_snd (result : Except FileError Unit × Disk) :
    (acceptDirectory absolute parts result).2 = result.2 := by
  obtain ⟨e | ⟨⟩, d⟩ := result
  · rfl
  · rfl

theorem createAll_gains (reversed : List String) (d : Disk) :
    d.Gains absolute reversed.reverse (createAll absolute reversed d).2 := by
  induction reversed generalizing d with
  | nil => exact .refl d absolute []
  | cons last around ih =>
      have hfirst := createDirectory_gains absolute (last :: around).reverse d
      rw [createAll]
      split
      · next d' h =>
        rw [h] at hfirst
        have haround :
            d'.Gains absolute (last :: around).reverse (createAll absolute around d').2 :=
          (ih d').mono (by simp)
        split
        · next d'' h' =>
          rw [h'] at haround
          rw [acceptDirectory_snd]
          exact (hfirst.trans haround).trans (createDirectory_gains absolute _ d'')
        · next e d'' h' =>
          rw [h'] at haround
          exact hfirst.trans haround
      · rw [acceptDirectory_snd]
        exact hfirst

end Creation

/-- Creating a directory and those around it leaves everything else alone. -/
theorem createDirectories_gains (d : Disk) (name : String) :
    d.Gains (FileName.isAbsolute name) (FileName.partNames name) (d.createDirectories name).2 := by
  rw [createDirectories]
  split_ifs
  · exact .refl d _ _
  · exact .refl d _ _
  · have h := createAll_gains (FileName.isAbsolute name) (FileName.partNames name).reverse d
    rwa [List.reverse_reverse] at h

theorem contentAt_eq (d : Disk) (location : List String) :
    d.contentAt location = (d.standing location).content := by
  rw [contentAt, standing, FileTree.standing]
  rcases d.root.get? location with _ | _ | _
  · rfl
  · rfl
  · rfl

/-- The second disk has a file with a content at a location to which its name leads, and nothing
else stands anywhere than before. -/
structure Writes (d : Disk) (name : String) (location : List String) (content : ByteArray)
    (d' : Disk) : Prop where
  keeps : d.Keeps d'
  written : d'.standing location = .file content
  others : ∀ {l}, l ≠ location → d'.standing l = d.standing l
  leads : d'.locate name = .ok location

/-- Writing a file leaves everything else alone. -/
theorem writes_set (h : d.locateFile name = .ok location) (content : ByteArray) :
    d.Writes name location content (d.set location (.file content)) := by
  obtain ⟨around, last, rfl, hvacant, hleads⟩ := locateFile_eq_ok h
  have hset := hvacant.standing_set (FileTree.isLeaf_file content)
  have hkeeps := hvacant.keeps_set (FileTree.isLeaf_file content)
  have hwritten := (hset (around ++ [last])).trans (if_pos rfl)
  exact ⟨hkeeps, hwritten, fun hl => (hset _).trans (if_neg hl),
    hleads hkeeps (by simp [hwritten, FileTree.kind])⟩

end Disk

end EventRouting
