import EventRouting.Proofs.DiskFrame
import EventRouting.Proofs.ExitCode

/-!
# What a run changes

To validate changes nothing, and neither does to generate while there is no template. A generated
template is the content of the output, and besides there are new directories around it and a new
line in the file that makes the template known.
-/

namespace EventRouting

/-- The extension decides the format, in letters of either case. -/
theorem Format.ofFileName_eq_json_iff {name : String} : ofFileName name = .json ↔
    ∃ e, FileName.extension? name = some e ∧ sameIgnoringAsciiCase e "json" = true := by
  rw [ofFileName]
  cases FileName.extension? name with
  | none => simp
  | some e => simp [sameIgnoringAsciiCase, asciiLower]

namespace Disk

variable {d d' : Disk} {output : String}

/-- What is created for a file are the directories around it. -/
theorem Prepared.gains (h : d.Prepared output d') : d' = d ∨
    ∃ around, FileName.parent? output = some around ∧
      d.Gains (FileName.isAbsolute around) (FileName.partNames around) d' := by
  rw [Prepared, createParents] at h
  split at h
  · next around ha =>
    obtain ⟨ha, -⟩ := Option.filter_eq_some_iff.mp ha
    have hgains := d.createDirectories_gains around
    rw [show d.createDirectories around = (.ok (), d') from h] at hgains
    exact .inr ⟨around, ha, hgains⟩
  · exact .inl (Prod.mk.inj h).2.symm

/-- The location is that of a directory around the file. -/
def LeadsAround (d : Disk) (output : String) (location : List String) : Prop :=
  ∃ around first, FileName.parent? output = some around ∧ first <+: FileName.partNames around ∧
    d.follow (FileName.isAbsolute around) first = .ok location

/-- Something stands where it stood, or a directory around the file where nothing stood. -/
def KeptOrAround (d : Disk) (output : String) (d' : Disk) (location : List String) : Prop :=
  d'.standing location = d.standing location ∨
    d.standing location = .nothing ∧ d'.standing location = .directory ∧
      d'.LeadsAround output location

/-- The second disk holds the text under the name of the output, and a line behind the old content
of the other file, if one is named. Nothing else changed but directories around the output that were
missing. -/
structure Generates (d : Disk) (output : String) (file : Option String) (text : String)
    (out : List String) (d' : Disk) : Prop where
  sameStart : d'.directory = d.directory
  located : d'.locate output = .ok out
  unpublished : file = none → d'.standing out = .file text.toUTF8
  published : ∀ name, file = some name → ∃ pub, d'.locate name = .ok pub ∧ (pub ≠ out →
    d'.standing out = .file text.toUTF8 ∧
      d'.standing pub = .file (d.contentAt pub ++ (Command.publicationLine output).toUTF8))
  others : ∀ location, location ≠ out →
    (∀ name, file = some name → d'.locate name ≠ .ok location) →
      d.KeptOrAround output d' location

theorem KeptOrAround.keep {location : List String} (h : d.KeptOrAround output d' location)
    {d'' : Disk} (hk : d'.Keeps d'') (hl : d''.standing location = d'.standing location) :
    d.KeptOrAround output d'' location := by
  obtain he | ⟨hn, hd, around, first, ha, hfirst, hf⟩ := h
  · exact .inl (hl.trans he)
  · exact .inr ⟨hn, hk.directories hd, around, first, ha, hfirst, hk.follow hf⟩

theorem KeptOrAround.contentAt {location : List String} (h : d.KeptOrAround output d' location) :
    d'.contentAt location = d.contentAt location := by
  rw [contentAt_eq, contentAt_eq]
  obtain he | ⟨hn, hd, -⟩ := h
  · rw [he]
  · rw [hn, hd]
    rfl

theorem Prepared.keeps (h : d.Prepared output d') :
    d.Keeps d' ∧ ∀ location, d.KeptOrAround output d' location := by
  obtain rfl | ⟨around, ha, hgains⟩ := h.gains
  · exact ⟨.refl _, fun _ => .inl rfl⟩
  · refine ⟨hgains.keeps, fun location => ?_⟩
    obtain he | ⟨hn, hd, first, hfirst, hf⟩ := hgains.standing location
    · exact .inl he
    · exact .inr ⟨hn, hd, around, first, ha, hfirst, hf⟩

/-- A file that is named and written is found under its name. -/
theorem generates_of_stored {v : Value} {file : Option String} {stored final : Disk}
    (hs : d.Stored v output stored) (hp : stored.Published output file final) :
    ∃ text out, v.render (Format.ofFileName output) = .ok text ∧
      d.Generates output file text out final := by
  obtain ⟨around, text, out, hprepared, hr, hl, rfl⟩ := hs
  obtain ⟨hkeeps, hkept⟩ := hprepared.keeps
  have hout := writes_set hl text.toUTF8
  refine ⟨text, out, hr, ?_⟩
  cases hp with
  | nowhere =>
      exact {
        sameStart := (hkeeps.trans hout.keeps).sameStart
        located := hout.leads
        unpublished := fun _ => hout.written
        published := nofun
        others := fun location hne _ => (hkept location).keep hout.keeps (hout.others hne) }
  | @file name pub hpub =>
      have hline := writes_set hpub
        ((around.set out (.file text.toUTF8)).contentAt pub ++
          (Command.publicationLine output).toUTF8)
      exact {
        sameStart := (hkeeps.trans (hout.keeps.trans hline.keeps)).sameStart
        located := hline.keeps.locate hout.leads
        unpublished := nofun
        published := by
          rintro _ ⟨⟩
          refine ⟨pub, hline.leads, fun hne => ⟨?_, ?_⟩⟩
          · rw [hline.others hne.symm, hout.written]
          · have hcontent := ((hkept pub).keep hout.keeps (hout.others hne)).contentAt
            rw [hline.written, hcontent]
        others := fun location hne hno => by
          have hpub : location ≠ pub := by
            rintro rfl
            exact hno name rfl hline.leads
          exact ((hkept location).keep hout.keeps (hout.others hne)).keep hline.keeps
            (hline.others hpub) }

end Disk

namespace Command

theorem Failure.documentCode_ne_zero (e : DocumentError) : documentCode e ≠ 0 := by
  cases e <;> nofun

theorem Failure.exitCode_ne_zero (f : Failure) : f.exitCode ≠ 0 := by
  cases f with
  | specification _ e => exact documentCode_ne_zero e
  | policy _ e => cases e <;> nofun
  | blueprint _ e => exact documentCode_ne_zero e
  | compilation => nofun
  | problems => nofun
  | template _ e => exact documentCode_ne_zero e
  | publication => nofun

theorem resultCode_eq_zero {r : Except Failure Unit} (h : resultCode r = 0) : r = .ok () := by
  cases r with
  | ok => rfl
  | error f => exact absurd h f.exitCode_ne_zero

/-- Generating changes nothing while there is no template, and with success it leaves one. -/
theorem generate_frame (source : Source) (blueprint : Option String) (output : String)
    (file : Option String) (d : Disk) :
    ∃ r d', (generate source blueprint output file).Ends d r d' ∧
      ((¬ ∃ c, d.Compiles source blueprint c) → d' = d) ∧
      (r = .ok () → ∃ c text out, d.Compiles source blueprint c ∧
        c.template.render (Format.ofFileName output) = .ok text ∧
        d.Generates output file text out d') := by
  obtain ⟨f, hends, -, -⟩ | ⟨c, hc, -, hends⟩ := generate_ends source blueprint output file d
  · exact ⟨.error f, d, hends, fun _ => rfl, nofun⟩
  · obtain ⟨r, d', hdeliver, -, hdone⟩ := deliver_ends output file hc
    refine ⟨r, d', hends hdeliver, fun hno => absurd ⟨c, hc⟩ hno, fun hr => ?_⟩
    obtain ⟨stored, hstored, hpublished⟩ := hdone hr
    obtain ⟨text, out, hrender, hgenerates⟩ := Disk.generates_of_stored hstored hpublished
    exact ⟨c, text, out, hc, hrender, hgenerates⟩

/-- A run that validates, or generates while there is no template, leaves the disk as it was. One
that generates a template with success leaves the template, the line that makes it known, and
directories around the template. -/
theorem run_changes_only_output (arguments : List String) (environment : String → Option String)
    (d : Disk) :
    let o := ((execute arguments environment : StateM Disk Outcome).run d).1
    let d' := ((execute arguments environment : StateM Disk Outcome).run d).2
    ((∀ i, Request.of arguments environment ≠ .run i) → d' = d) ∧
      (∀ source switches,
        Request.of arguments environment = .run ⟨.validate source, switches⟩ → d' = d) ∧
      ∀ source blueprint output switches,
        Request.of arguments environment = .run ⟨.generate source blueprint output, switches⟩ →
          ((¬ ∃ c, d.Compiles source blueprint c) → d' = d) ∧
          (o.exitCode = 0 → ∃ c text out, d.Compiles source blueprint c ∧
            c.template.render (Format.ofFileName output) = .ok text ∧
            d.Generates output (environment publicationVariable) text out d') ∧
          (Format.ofFileName output = .json ↔
            ∃ e, FileName.extension? output = some e ∧ sameIgnoringAsciiCase e "json" = true) := by
  refine ⟨fun hno => ?_, fun source switches asked => ?_,
    fun source blueprint output switches asked => ?_⟩
  · rw [execute]
    cases h : Request.of arguments environment with
    | run i => exact absurd h (hno i)
    | version => rfl
    | help => rfl
    | refused => rfl
  · obtain ⟨r, hends, -⟩ := validate_ends source (environment publicationVariable) d
    obtain ⟨o, ho, -⟩ := execute_run asked hends
    rw [ho]
  · obtain ⟨r, final, hends, hkept, hdone⟩ :=
      generate_frame source blueprint output (environment publicationVariable) d
    obtain ⟨o, ho, hcode⟩ := execute_run asked hends
    rw [ho]
    refine ⟨hkept, fun hzero => hdone ?_, Format.ofFileName_eq_json_iff⟩
    exact resultCode_eq_zero (hcode.symm.trans hzero)

section Server

/-- A description of one server. -/
def serverText : String := "servers: [\x7burl: u\x7d]"

/-- A disk with the description and nothing else. -/
def serverDisk : Disk where
  root := .directory [("api.yaml", .file serverText.toUTF8)]

/-- The disk with a directory for the output. -/
def preparedDisk : Disk :=
  (Disk.createAll false ["out"] serverDisk).2

theorem compiles_server :
    ∃ c text, serverDisk.Compiles ⟨"api.yaml", "", none, MethodSet.defaultText, none⟩ none c ∧
      c.template.render .json = .ok text := by
  let source : Source := ⟨"api.yaml", "", none, MethodSet.defaultText, none⟩
  have hrun : ((Specification.parse? serverText).map fun s =>
      (s.compile (source.options {} none)).toOption.any fun c =>
        (c.template.render .json).isOk) = some true := by
    decide +kernel
  have hname : Disk.checkName "api.yaml" = .ok () :=
    Disk.checkName_eq_ok (by simp) (by decide) (by decide +kernel)
  have hlocate : serverDisk.locate "api.yaml" = .ok ["api.yaml"] := by
    rw [Disk.locate, hname]
    decide +kernel
  have htext : String.fromUTF8? serverText.toUTF8 = some serverText :=
    dif_pos serverText.isValidUTF8
  obtain ⟨s, hs, hok⟩ := Option.map_eq_some_iff.mp hrun
  cases hc : s.compile (source.options {} none) with
  | error e =>
      rw [hc] at hok
      cases hok
  | ok c =>
      rw [hc] at hok
      obtain ⟨text, hr⟩ := exists_ok_of_isOk hok
      have hloads : serverDisk.Loads Specification.parse? "api.yaml" s :=
        ⟨serverText, ⟨["api.yaml"], _, hlocate, rfl, htext⟩, hs⟩
      exact ⟨c, text, ⟨s, _, ⟨{}, none, hloads, .standard, .absent, rfl⟩, hc⟩, hr⟩

theorem prepared_server : serverDisk.Prepared "out/t.json" preparedDisk := by
  have hparent : FileName.parent? "out/t.json" = some "out" := by decide +kernel
  have hparts : FileName.partNames "out" = ["out"] := by decide +kernel
  rw [Disk.Prepared, createParents, hparent]
  show serverDisk.createDirectories "out" = _
  rw [Disk.createDirectories, if_neg (by simp), if_neg (by decide +kernel), hparts]
  exact Prod.ext (by decide +kernel) rfl

theorem stored_server {v : Value} {text : String} (hr : v.render .json = .ok text) :
    ∃ stored published, serverDisk.Stored v "out/t.json" stored ∧
      stored.Published "out/t.json" (some "log.txt") published := by
  have hformat : Format.ofFileName "out/t.json" = .json := by decide +kernel
  have houtput : Disk.checkName "out/t.json" = .ok () :=
    Disk.checkName_eq_ok (by simp) (by decide) (by decide +kernel)
  have hlog : Disk.checkName "log.txt" = .ok () :=
    Disk.checkName_eq_ok (by simp) (by decide) (by decide +kernel)
  have hlocate : preparedDisk.locateFile "out/t.json" = .ok ["out", "t.json"] := by
    rw [Disk.locateFile, houtput]
    decide +kernel
  have hparts : FileName.allParts "log.txt" = ["log.txt"] := by decide +kernel
  have hlocated : (preparedDisk.set ["out", "t.json"] (.file text.toUTF8)).locateFile "log.txt" =
      .ok ["log.txt"] := by
    rw [Disk.locateFile, hlog, hparts]
    rfl
  exact ⟨_, _, ⟨preparedDisk, text, _, prepared_server, hformat ▸ hr, hlocate, rfl⟩, .file hlocated⟩

/-- A template is generated in a new directory and made known in a new file. -/
theorem run_changes_only_output_server :
    let arguments := ["generate", "--spec", "api.yaml", "--output", "out/t.json"]
    let environment := fun name => if name = publicationVariable then some "log.txt" else none
    let r := (execute arguments environment : StateM Disk Outcome).run serverDisk
    r.1.exitCode = 0 ∧ ∃ c text out,
      serverDisk.Compiles ⟨"api.yaml", "", none, MethodSet.defaultText, none⟩ none c ∧
      c.template.render (Format.ofFileName "out/t.json") = .ok text ∧
      serverDisk.Generates "out/t.json" (some "log.txt") text out r.2 := by
  intro arguments environment
  have asked : Request.of arguments environment = .run ⟨.generate
      ⟨"api.yaml", "", none, MethodSet.defaultText, none⟩ none "out/t.json", []⟩ := by
    decide +kernel
  have hzero : ((execute arguments environment : StateM Disk Outcome).run serverDisk).1.exitCode =
      0 := by
    obtain ⟨c, text, hc, hr⟩ := compiles_server
    obtain ⟨stored, published, hs, hp⟩ := stored_server hr
    have hverdict := (execute_verdict asked serverDisk).first_failure
      (Task.lawful_checkpoints serverDisk _ _)
    rw [hverdict.1]
    obtain ⟨s, _, ⟨p, b, hload, hpolicy, hblueprint, -⟩, -⟩ := id hc
    have hformat : Format.ofFileName "out/t.json" = .json := by decide +kernel
    simp only [Task.checkpoints, List.forall_mem_cons]
    exact ⟨⟨s, hload⟩, ⟨p, hpolicy⟩, ⟨b, hblueprint⟩, ⟨c, hc⟩, ⟨_, prepared_server⟩,
      ⟨c, hc, text, hformat ▸ hr⟩, ⟨c, hc, stored, hs⟩, ⟨c, hc, stored, published, hs, hp⟩,
      List.forall_mem_nil _⟩
  obtain ⟨-, -, hgenerate⟩ := run_changes_only_output arguments environment serverDisk
  exact ⟨hzero, (hgenerate _ _ _ _ asked).2.1 hzero⟩

end Server

end Command

end EventRouting
