import EventRouting.Proofs.RunFrame

/-!
# Values that cannot be written

A value has no JSON text exactly if some mapping in it, at any depth, has a key for which JSON has
none. Storing a value that cannot be written touches no file. It creates the directories for the
file all the same, so the disk stays as it was exactly if they are there already.
-/

namespace EventRouting

namespace Value

/-- JSON has no text for the value as a key. -/
inductive Unnameable : Value → Prop
  | null : Unnameable .null
  | number {x : Binary64} (h : x.isFinite = false) : Unnameable (.number (.float x))
  | sequence (items : List Value) : Unnameable (.sequence items)
  | mapping (entries : Mapping) : Unnameable (.mapping entries)
  | tagged (tag : String) (v : Value) : Unnameable (.tagged tag v)

/-- Some mapping in the value has a key for which JSON has no text. -/
inductive HoldsUnnameable : Value → Prop
  | key {entries : Mapping} {k v : Value} (mem : (k, v) ∈ entries) (h : k.Unnameable) :
      HoldsUnnameable (.mapping entries)
  | entry {entries : Mapping} {k v : Value} (mem : (k, v) ∈ entries) (h : v.HoldsUnnameable) :
      HoldsUnnameable (.mapping entries)
  | item {items : List Value} {v : Value} (mem : v ∈ items) (h : v.HoldsUnnameable) :
      HoldsUnnameable (.sequence items)
  | tagged {v : Value} (tag : String) (h : v.HoldsUnnameable) : HoldsUnnameable (.tagged tag v)

theorem holdsUnnameable_sequence_iff {items : List Value} :
    (Value.sequence items).HoldsUnnameable ↔ ∃ v ∈ items, v.HoldsUnnameable := by
  constructor
  · rintro (_ | _ | ⟨mem, h⟩)
    exact ⟨_, mem, h⟩
  · rintro ⟨v, mem, h⟩
    exact .item mem h

theorem holdsUnnameable_mapping_iff {entries : Mapping} :
    (Value.mapping entries).HoldsUnnameable ↔
      ∃ e ∈ entries, e.1.Unnameable ∨ e.2.HoldsUnnameable := by
  constructor
  · rintro (⟨mem, h⟩ | ⟨mem, h⟩)
    · exact ⟨_, mem, .inl h⟩
    · exact ⟨_, mem, .inr h⟩
  · rintro ⟨e, mem, h | h⟩
    · exact .key mem h
    · exact .entry mem h

theorem holdsUnnameable_tagged_iff {tag : String} {v : Value} :
    (Value.tagged tag v).HoldsUnnameable ↔ v.HoldsUnnameable := by
  constructor
  · rintro (_ | _ | _ | ⟨_, h⟩)
    exact h
  · exact .tagged tag

end Value

namespace Json.Printer

open Value

theorem number?_eq_none_iff {n : Number} :
    number? n = none ↔ ∃ x : Binary64, n = .float x ∧ x.isFinite = false := by
  rcases n with n | (_ | _ | _) <;> simp [number?, Binary64.isFinite]

/-- Of the scalars, null has no text as a key, and neither has a number without value. -/
theorem key?_eq_none_iff {k : Value} : key? k = none ↔ k.Unnameable := by
  constructor
  · intro h
    cases k with
    | null => exact .null
    | bool b => cases h
    | number n =>
        obtain ⟨x, rfl, hx⟩ := number?_eq_none_iff.mp h
        exact .number hx
    | string s => cases h
    | sequence items => exact .sequence items
    | mapping entries => exact .mapping entries
    | tagged tag v => exact .tagged tag v
  · rintro (_ | hx | _ | _ | _)
    · rfl
    · exact number?_eq_none_iff.mpr ⟨_, rfl, hx⟩
    · rfl
    · rfl
    · rfl

mutual

theorem value?_eq_none_iff (depth : Nat) (v : Value) :
    value? depth v = none ↔ v.HoldsUnnameable := by
  match v with
  | .null => simp [value?]; nofun
  | .bool b => simp [value?]; nofun
  | .number n => simp [value?]; nofun
  | .string s => simp [value?]; nofun
  | .sequence items =>
      rw [holdsUnnameable_sequence_iff, ← items?_eq_none_iff (depth + 1) items]
      cases h : items? (depth + 1) items <;> simp [value?, h]
  | .mapping entries =>
      rw [holdsUnnameable_mapping_iff, ← entries?_eq_none_iff (depth + 1) entries]
      cases h : entries? (depth + 1) entries <;> simp [value?, h]
  | .tagged tag v =>
      rw [holdsUnnameable_tagged_iff, ← value?_eq_none_iff (depth + 1) v]
      cases h : value? (depth + 1) v <;> simp [value?, h]
termination_by structural v

theorem items?_eq_none_iff (depth : Nat) (items : List Value) :
    items? depth items = none ↔ ∃ v ∈ items, v.HoldsUnnameable := by
  match items with
  | [] => simp [items?]
  | v :: vs =>
      rw [List.exists_mem_cons_iff, ← value?_eq_none_iff depth v, ← items?_eq_none_iff depth vs]
      cases hv : value? depth v <;> cases hvs : items? depth vs <;> simp [items?, hv, hvs]
termination_by structural items

theorem entries?_eq_none_iff (depth : Nat) (entries : Mapping) :
    entries? depth entries = none ↔ ∃ e ∈ entries, e.1.Unnameable ∨ e.2.HoldsUnnameable := by
  match entries with
  | [] => simp [entries?]
  | (k, v) :: es =>
      rw [List.exists_mem_cons_iff, ← key?_eq_none_iff, ← value?_eq_none_iff depth v,
        ← entries?_eq_none_iff depth es]
      cases hk : key? k <;> cases hv : value? depth v <;> cases hes : entries? depth es <;>
        simp [entries?, hk, hv, hes]
termination_by structural entries

end

end Json.Printer

/-- A value cannot be written as JSON exactly if it holds a key, at any depth, that has no text. -/
theorem Value.render_json_eq_error_iff {v : Value} :
    v.render .json = .error .json ↔ v.HoldsUnnameable := by
  rw [← Json.Printer.value?_eq_none_iff 0, render, toJson?]
  cases Json.Printer.value? 0 v <;> simp

namespace Disk

variable {d d' : Disk} {absolute : Bool} {parts : List String}

theorem isDirectory_iff : d.isDirectory absolute parts = true ↔
    ∃ location, d.follow absolute parts = .ok location ∧ d.standing location = .directory := by
  rw [isDirectory]
  cases d.follow absolute parts with
  | error e => simp
  | ok location =>
      simp only [Except.ok.injEq, exists_eq_left', standing, FileTree.standing]
      rcases d.root.get? location with _ | _ | _ <;> simp [FileTree.isDirectory, FileTree.kind]

/-- A directory that is there is not created again. -/
theorem locateNew_of_isDirectory (h : d.isDirectory absolute parts = true) (given : parts ≠ []) :
    d.locateNew absolute parts = .error .alreadyExists := by
  obtain ⟨before, last, rfl⟩ := (List.eq_nil_or_concat' parts).resolve_left given
  obtain ⟨location, hf, -⟩ := isDirectory_iff.mp h
  rw [follow, List.foldlM_append, bind_eq_ok] at hf
  obtain ⟨around, hf, hlast⟩ := hf
  rw [List.foldlM_cons, bind_eq_ok] at hlast
  obtain ⟨there, hs, -⟩ := hlast
  obtain ⟨hd, hleads⟩ := step_eq_ok_iff.mp hs
  obtain ⟨entries, hentries⟩ := standing_eq_directory_iff.mp hd
  have hbefore : d.follow absolute before = .ok around := hf
  have hat : d.entriesAt around = .ok entries := by rw [entriesAt, hentries]
  rw [locateNew, List.getLast?_concat, List.dropLast_concat]
  refine bind_eq_error.mpr (.inr ⟨around, hbefore, bind_eq_error.mpr (.inr ⟨entries, hat, ?_⟩)⟩)
  -- the last part leads on, and each way to do so is one in which nothing can be created
  cases hleads with
  | here => rw [if_pos (.inl rfl)]
  | back => rw [if_pos (.inr rfl)]
  | into named short there =>
      have hcontains : Entries.contains last entries = true := by
        simpa [standing_within_eq_nothing_iff hentries] using there
      rw [if_neg (not_or.mpr named), if_neg (by omega), if_pos hcontains]

/-- Where a directory is created, or accepted as it is, there is one afterwards. -/
theorem isDirectory_of_acceptDirectory
    (h : acceptDirectory absolute parts (d.createDirectory absolute parts) = (.ok (), d')) :
    d'.isDirectory absolute parts = true := by
  rw [createDirectory] at h
  cases hnew : d.locateNew absolute parts with
  | error e =>
      rw [hnew] at h
      obtain ⟨hok, rfl⟩ := Prod.mk.inj h
      by_contra hno
      rw [if_neg hno] at hok
      cases hok
  | ok location =>
      rw [hnew] at h
      obtain ⟨-, rfl⟩ := Prod.mk.inj h
      obtain ⟨around, last, rfl, hvacant, -, hleads⟩ := locateNew_eq_ok hnew
      have hset := hvacant.standing_set FileTree.isLeaf_emptyDirectory (around ++ [last])
      have hd : (d.set (around ++ [last]) .emptyDirectory).standing (around ++ [last]) =
          .directory := hset.trans (if_pos rfl)
      have hkeeps := hvacant.keeps_set FileTree.isLeaf_emptyDirectory
      exact isDirectory_iff.mpr ⟨_, hleads hkeeps (by simp [hd]), hd⟩

theorem createAll_of_isDirectory {reversed : List String}
    (h : reversed ≠ [] → d.isDirectory absolute reversed.reverse = true) :
    createAll absolute reversed d = (.ok (), d) := by
  cases reversed with
  | nil => rfl
  | cons last around =>
      have hthere := h (List.cons_ne_nil last around)
      rw [createAll, createDirectory, locateNew_of_isDirectory hthere (by simp)]
      show (if _ then _ else _, d) = _
      rw [if_pos hthere]

theorem isDirectory_of_createAll {reversed : List String}
    (h : createAll absolute reversed d = (.ok (), d')) (given : reversed ≠ []) :
    d'.isDirectory absolute reversed.reverse = true := by
  cases reversed with
  | nil => exact absurd rfl given
  | cons last around =>
      rw [createAll] at h
      split at h
      · split at h
        · exact isDirectory_of_acceptDirectory h
        · cases h
      · exact isDirectory_of_acceptDirectory h

/-- The directory that is to hold the file is there. A name with a single part needs none. -/
def HasParent (d : Disk) (name : String) : Prop :=
  ∀ around, FileName.parent? name = some around → FileName.partNames around ≠ [] →
    d.isDirectory (FileName.isAbsolute around) (FileName.partNames around) = true

variable {name : String}

theorem Prepared.createAll_eq {around : String} (h : d.Prepared name d')
    (ha : FileName.parent? name = some around) (given : around ≠ "") :
    createAll (FileName.isAbsolute around) (FileName.partNames around).reverse d =
      (.ok (), d') := by
  have hfilter : (FileName.parent? name).filter (· != "") = some around :=
    Option.filter_eq_some_iff.mpr ⟨ha, by simpa using given⟩
  rw [Prepared, createParents, hfilter] at h
  have hcreate : d.createDirectories around = (.ok (), d') := h
  rw [createDirectories] at hcreate
  split_ifs at hcreate
  · cases hcreate
  · cases hcreate
  · exact hcreate

/-- After the directories for a file were created, the one that is to hold it is there. -/
theorem Prepared.hasParent (h : d.Prepared name d') : d'.HasParent name := by
  intro around ha given
  have hgiven : around ≠ "" := by
    rintro rfl
    exact given (by decide +kernel)
  have hthere := isDirectory_of_createAll (h.createAll_eq ha hgiven) (by simpa using given)
  rwa [List.reverse_reverse] at hthere

/-- Creating the directories for a file changes nothing exactly if the one that is to hold it is
there. -/
theorem Prepared.eq_self_iff (h : d.Prepared name d') : d' = d ↔ d.HasParent name := by
  constructor
  · rintro rfl
    exact h.hasParent
  · intro hthere
    cases hfilter : (FileName.parent? name).filter (· != "") with
    | none =>
        rw [Prepared, createParents, hfilter] at h
        exact (Prod.mk.inj h).2.symm
    | some around =>
        obtain ⟨ha, hgiven⟩ := Option.filter_eq_some_iff.mp hfilter
        have hcreate := h.createAll_eq ha (by simpa using hgiven)
        rw [createAll_of_isDirectory fun given => ?_] at hcreate
        · exact (Prod.mk.inj hcreate).2.symm
        · rw [List.reverse_reverse]
          exact hthere around ha (by simpa using given)

/-- Storing fails for the value exactly if the value cannot be written and the directories for the
file could be created. They are what it leaves behind. -/
theorem store_unwritable_iff {v : Value} {e : RenderError} :
    (Value.store name v : StateM Disk _).run d = (.error (.unwritable e), d') ↔
      d.Prepared name d' ∧ v.render (Format.ofFileName name) = .error e := by
  constructor
  · intro h
    cases hp : (createParents name : StateM Disk _).run d with
    | mk created around =>
        cases created with
        | error f =>
            rw [store_unprepared hp] at h
            cases h
        | ok =>
            cases hr : v.render (Format.ofFileName name) with
            | error f =>
                rw [store_unwritable hp hr] at h
                cases h
                exact ⟨hp, rfl⟩
            | ok text =>
                rw [store_update hp hr rfl] at h
                obtain ⟨f, -, hf⟩ := mapError_eq_error.mp (Prod.mk.inj h).1
                cases hf
  · rintro ⟨hp, hr⟩
    exact store_unwritable hp hr

/-- A value that cannot be written leaves every file as it was, and of the directories only missing
ones around the file are new. So the disk is the same exactly if there was a directory for the file.
As JSON a value cannot be written exactly if it holds, at any depth, a key that has no text. -/
theorem unwritable_touches_no_file {v : Value} {e : RenderError}
    (h : (Value.store name v : StateM Disk _).run d = (.error (.unwritable e), d')) :
    v.render (Format.ofFileName name) = .error e ∧
      (v.render .json = .error .json ↔ v.HoldsUnnameable) ∧
      (d' = d ↔ d.HasParent name) ∧ d'.HasParent name ∧ d'.directory = d.directory ∧
      ∀ location, d.KeptOrAround name d' location := by
  obtain ⟨hprepared, hr⟩ := store_unwritable_iff.mp h
  obtain ⟨hkeeps, hkept⟩ := hprepared.keeps
  exact ⟨hr, Value.render_json_eq_error_iff, hprepared.eq_self_iff, hprepared.hasParent,
    hkeeps.sameStart, hkept⟩

section NullKey

/-- The value of a document whose only key is null. -/
def nullKey : Value :=
  .mapping [(.null, .nat 1)]

theorem nullKey_holdsUnnameable : nullKey.HoldsUnnameable :=
  .key List.mem_cons_self .null

/-- A disk with an empty directory and nothing else. -/
def outDisk : Disk where
  root := .directory [("out", .emptyDirectory)]

theorem store_inOut {v : Value} (h : createAll false ["out"] d = (.ok (), d'))
    (hv : v.HoldsUnnameable) :
    (Value.store "out/template.json" v : StateM Disk _).run d =
      (.error (.unwritable .json), d') := by
  have hparent : FileName.parent? "out/template.json" = some "out" := by decide +kernel
  have hparts : FileName.partNames "out" = ["out"] := by decide +kernel
  have hformat : Format.ofFileName "out/template.json" = .json := by decide +kernel
  refine store_unwritable_iff.mpr ⟨?_, hformat ▸ Value.render_json_eq_error_iff.mpr hv⟩
  rw [Prepared, createParents, hparent]
  show d.createDirectories "out" = _
  rw [createDirectories, if_neg (by simp), if_neg (by decide +kernel), hparts]
  exact h

/-- The key lies within a sequence, and the directory is there. -/
theorem unwritable_touches_no_file_outDisk :
    let v := Value.record [("Resources", .sequence [nullKey])]
    (Value.store "out/template.json" v : StateM Disk _).run outDisk =
        (.error (.unwritable .json), outDisk) ∧
      v.HoldsUnnameable ∧ outDisk.HasParent "out/template.json" := by
  intro v
  have hv : v.HoldsUnnameable :=
    .entry List.mem_cons_self (.item List.mem_cons_self nullKey_holdsUnnameable)
  have hthere : createAll false ["out"] outDisk = (.ok (), outDisk) :=
    createAll_of_isDirectory fun _ => rfl
  have h := store_inOut hthere hv
  obtain ⟨-, -, hsame, -⟩ := unwritable_touches_no_file h
  exact ⟨h, hv, hsame.mp rfl⟩

/-- On an empty disk the directory is left behind. -/
theorem not_untouched_nullKey :
    (Value.store "out/template.json" nullKey : StateM Disk _).run {} =
        (.error (.unwritable .json), outDisk) ∧
      ({} : Disk).standing ["out"] = .nothing ∧ outDisk.standing ["out"] = .directory := by
  have hnew : createAll false ["out"] {} = (.ok (), outDisk) := rfl
  exact ⟨store_inOut hnew nullKey_holdsUnnameable, rfl, rfl⟩

end NullKey

end Disk

end EventRouting
