import EventRouting.Proofs.RunStages

/-!
# Exit codes

The stages that a task goes through on a disk, each with what it needs to pass and the exit codes of
failing in it. A run ends with zero exactly if all of its stages pass, and otherwise with the code
of the first one that fails.
-/

namespace EventRouting.Command

/-- A stage of a run: what it needs to pass, and the exit codes of failing in it. -/
structure Checkpoint where
  passes : Prop
  fails : Nat → Prop

/-- The exit code of a run through stages: that of the first one that fails, or zero. -/
inductive Verdict : List Checkpoint → Nat → Prop
  | done : Verdict [] 0
  | fails {c : Checkpoint} {rest : List Checkpoint} {code : Nat} (h : c.fails code) :
      Verdict (c :: rest) code
  | passes {c : Checkpoint} {rest : List Checkpoint} {code : Nat} (h : c.passes)
      (next : Verdict rest code) : Verdict (c :: rest) code

namespace Checkpoint

/-- A stage that passes does not fail, and it fails with one exit code that is not zero. -/
structure Lawful (c : Checkpoint) : Prop where
  exclusive : ∀ {code}, c.fails code → ¬ c.passes
  unique : ∀ {code code'}, c.fails code → c.fails code' → code = code'
  nonzero : ∀ {code}, c.fails code → code ≠ 0

/-- The stage that fails with a code unless it passes. -/
def otherwise (p : Prop) (code : Nat) : Checkpoint :=
  ⟨p, fun n => n = code ∧ ¬ p⟩

theorem Lawful.otherwise {p : Prop} {code : Nat} (h : code ≠ 0) :
    (Checkpoint.otherwise p code).Lawful where
  exclusive hf := hf.2
  unique hf hf' := hf.1.trans hf'.1.symm
  nonzero hf := hf.1 ▸ h

/-- The description is loaded. -/
def specification (d : Disk) (source : Source) : Checkpoint where
  passes := ∃ s, d.Loads Specification.parse? source.specification s
  fails := d.DocumentFault Specification.parse? source.specification

/-- The policy is loaded. -/
def policy (d : Disk) (source : Source) : Checkpoint where
  passes := ∃ p, d.LoadsPolicy source.policy p
  fails := d.PolicyFault source.policy

/-- The blueprint is loaded. -/
def blueprint (d : Disk) (name : Option String) : Checkpoint where
  passes := ∃ v, d.LoadsBlueprint name v
  fails := d.BlueprintFault name

/-- All that was loaded is compiled. -/
def compilation (d : Disk) (source : Source) (blueprint : Option String) : Checkpoint :=
  otherwise (∃ c, d.Compiles source blueprint c) 3

/-- No names collide. -/
def collisions (d : Disk) (source : Source) : Checkpoint :=
  otherwise (∃ c, d.Compiles source none c ∧ c.collisions = []) 3

/-- The directories for the output are created. -/
def directories (d : Disk) (output : String) : Checkpoint :=
  otherwise (∃ d', d.Prepared output d') 1

/-- The template is written in the format of the output. -/
def rendering (d : Disk) (source : Source) (blueprint : Option String) (output : String) :
    Checkpoint :=
  otherwise (∃ c, d.Compiles source blueprint c ∧
    ∃ text, c.template.render (Format.ofFileName output) = .ok text) 3

/-- The output is stored. -/
def storage (d : Disk) (source : Source) (blueprint : Option String) (output : String) :
    Checkpoint :=
  otherwise (∃ c, d.Compiles source blueprint c ∧ ∃ d', d.Stored c.template output d') 1

/-- The output is made known. -/
def publication (d : Disk) (source : Source) (blueprint : Option String) (output : String)
    (file : Option String) : Checkpoint :=
  otherwise (∃ c, d.Compiles source blueprint c ∧
    ∃ d' d'', d.Stored c.template output d' ∧ d'.Published output file d'') 1

theorem Lawful.specification (d : Disk) (source : Source) :
    (Checkpoint.specification d source).Lawful where
  exclusive := fun h ⟨_, hs⟩ => h.not_loads hs
  unique := Disk.DocumentFault.unique
  nonzero := Disk.DocumentFault.ne_zero

theorem Lawful.policy (d : Disk) (source : Source) : (Checkpoint.policy d source).Lawful where
  exclusive := fun h ⟨_, hp⟩ => h.not_loads hp
  unique := Disk.PolicyFault.unique
  nonzero := Disk.PolicyFault.ne_zero

theorem Lawful.blueprint (d : Disk) (name : Option String) :
    (Checkpoint.blueprint d name).Lawful where
  exclusive := fun h ⟨_, hv⟩ => h.not_loads hv
  unique := Disk.BlueprintFault.unique
  nonzero := Disk.BlueprintFault.ne_zero

end Checkpoint

namespace Verdict

variable {checks : List Checkpoint} {code code' : Nat}

theorem unique (lawful : ∀ c ∈ checks, c.Lawful) (h : Verdict checks code)
    (h' : Verdict checks code') : code = code' := by
  induction h with
  | done =>
      cases h'
      rfl
  | fails h =>
      rw [List.forall_mem_cons] at lawful
      cases h' with
      | fails h' => exact lawful.1.unique h h'
      | passes h' _ => exact absurd h' (lawful.1.exclusive h)
  | passes h _ ih =>
      rw [List.forall_mem_cons] at lawful
      cases h' with
      | fails h' => exact absurd h (lawful.1.exclusive h')
      | passes _ next => exact ih lawful.2 next

/-- Stages that pass leave the verdict to the stages behind them. -/
theorem append {before : List Checkpoint} (hb : ∀ b ∈ before, b.passes) (h : Verdict checks code) :
    Verdict (before ++ checks) code := by
  induction before with
  | nil => exact h
  | cons b before ih =>
      rw [List.forall_mem_cons] at hb
      exact .passes hb.1 (ih hb.2)

/-- All stages pass, or one of them is the first that fails. -/
theorem cases_first (h : Verdict checks code) :
    (code = 0 ∧ ∀ c ∈ checks, c.passes) ∨ ∃ before c after, checks = before ++ c :: after ∧
      (∀ b ∈ before, b.passes) ∧ c.fails code := by
  induction h with
  | done => exact .inl ⟨rfl, nofun⟩
  | fails h => exact .inr ⟨[], _, _, rfl, nofun, h⟩
  | passes h _ ih =>
      obtain ⟨hcode, hall⟩ | ⟨before, c, after, hs, hb, hf⟩ := ih
      · exact .inl ⟨hcode, List.forall_mem_cons.mpr ⟨h, hall⟩⟩
      · exact .inr ⟨_ :: before, c, after, congrArg _ hs, List.forall_mem_cons.mpr ⟨h, hb⟩, hf⟩

/-- Of lawful stages all pass exactly if the verdict is zero, and any other one is the exit code of
the first stage that fails. -/
theorem first_failure (lawful : ∀ c ∈ checks, c.Lawful) (h : Verdict checks code) :
    (code = 0 ↔ ∀ c ∈ checks, c.passes) ∧
      ∀ n, n ≠ 0 → (code = n ↔ ∃ before c after, checks = before ++ c :: after ∧
        (∀ b ∈ before, b.passes) ∧ c.fails n) := by
  have hpassed (hall : ∀ c ∈ checks, c.passes) : code = 0 := by
    have hzero := append hall .done
    rw [List.append_nil] at hzero
    exact h.unique lawful hzero
  have hfailed {before after : List Checkpoint} {c : Checkpoint} {n : Nat}
      (hs : checks = before ++ c :: after) (hb : ∀ b ∈ before, b.passes) (hf : c.fails n) :
      code = n := by
    subst hs
    exact h.unique lawful (append hb (.fails hf))
  obtain ⟨rfl, hall⟩ | ⟨before, c, after, hs, hb, hf⟩ := h.cases_first
  · refine ⟨by simpa using hall, fun n hn => ⟨fun hz => absurd hz.symm hn, ?_⟩⟩
    rintro ⟨before, c, after, hs, hb, hf⟩
    exact hfailed hs hb hf
  · have hne : code ≠ 0 := (lawful c (by simp [hs])).nonzero hf
    refine ⟨⟨fun hz => absurd hz hne, hpassed⟩, fun n hn => ⟨?_, ?_⟩⟩
    · rintro rfl
      exact ⟨before, c, after, hs, hb, hf⟩
    · rintro ⟨before, c, after, hs, hb, hf⟩
      exact hfailed hs hb hf

end Verdict

/-- The stages of a task, which makes its output known in a file if one is named. -/
def Task.checkpoints (d : Disk) (file : Option String) : Task → List Checkpoint
  | .validate source =>
      [.specification d source, .policy d source, .compilation d source none, .collisions d source]
  | .generate source blueprint output =>
      [.specification d source, .policy d source, .blueprint d blueprint,
        .compilation d source blueprint, .directories d output,
        .rendering d source blueprint output, .storage d source blueprint output,
        .publication d source blueprint output file]

theorem Task.lawful_checkpoints (d : Disk) (file : Option String) (t : Task) :
    ∀ c ∈ t.checkpoints d file, c.Lawful := by
  have fixed {p : Prop} {code : Nat} (h : code ≠ 0) := Checkpoint.Lawful.otherwise (p := p) h
  cases t with
  | validate source =>
      simp only [checkpoints, List.forall_mem_cons]
      exact ⟨.specification d source, .policy d source, fixed (by decide),
        fixed (by decide), nofun⟩
  | generate source name output =>
      simp only [checkpoints, List.forall_mem_cons]
      exact ⟨.specification d source, .policy d source, .blueprint d name,
        fixed (by decide), fixed (by decide), fixed (by decide), fixed (by decide),
        fixed (by decide), nofun⟩

/-- The exit code of a result. -/
def resultCode : Except Failure Unit → Nat
  | .ok () => 0
  | .error f => f.exitCode

variable {d : Disk}

/-- Validating changes nothing on the disk. -/
theorem validate_ends (source : Source) (file : Option String) (d : Disk) :
    ∃ r, (validate source).Ends d r d ∧
      Verdict (Task.checkpoints d file (.validate source)) (resultCode r) := by
  obtain ⟨f, hs, hfault⟩ | ⟨s, hs, hload⟩ := source.loadSpecification_reads d
  · exact ⟨_, .bind (.log _) (.bind_error hs), .fails hfault⟩
  obtain ⟨f, hp, hfault⟩ | ⟨p, hp, hpolicy⟩ := source.loadPolicy_reads d
  · exact ⟨_, .bind (.log _) (.bind hs (.bind_error hp)), .passes ⟨s, hload⟩ (.fails hfault)⟩
  obtain ⟨f, hc, hfault⟩ | ⟨c, hc, hcompiles⟩ := compile_reads .validate
    (show d.Gives source none s _ from ⟨p, none, hload, hpolicy, .absent, rfl⟩)
  · exact ⟨_, .bind (.log _) (.bind hs (.bind hp (.bind (.print _) (.bind_error hc)))),
      .passes ⟨s, hload⟩ (.passes ⟨p, hpolicy⟩ (.fails hfault))⟩
  have hends {r : Except Failure Unit} (h : Stage.Ends (if c.collisions.isEmpty then pure ()
      else throw (.problems c.collisions.length)) d r d) : (validate source).Ends d r d :=
    .bind (.log _) (.bind hs (.bind hp (.bind (.print _) (.bind hc (.bind (.print _) h)))))
  have hverdict {code : Nat} (h : Verdict [.collisions d source] code) :
      Verdict (Task.checkpoints d file (.validate source)) code :=
    .passes ⟨s, hload⟩ (.passes ⟨p, hpolicy⟩ (.passes ⟨c, hcompiles⟩ h))
  by_cases hcollisions : c.collisions = []
  · refine ⟨.ok (), hends ?_, hverdict (.passes ⟨c, hcompiles, hcollisions⟩ .done)⟩
    rw [hcollisions]
    exact .pure ()
  · refine ⟨.error (.problems c.collisions.length), hends ?_, hverdict (.fails ⟨rfl, ?_⟩)⟩
    · rw [if_neg (by simpa using hcollisions)]
      exact .throw _
    · rwa [hcompiles.exists_iff]

/-- What a generation does when the template is compiled. -/
def deliver (c : Compilation) (output : String) (file : Option String) :
    Stage (StateM Disk) Unit := do
  Stage.log (c.collisions.map overwriteRecord)
  storeTemplate output c.template
  Stage.log [⟨.info, .generate, "Successfully transformed API spec into " ++ output⟩]
  publish output file

/-- A generation changes nothing on the disk if it gets no compilation, and else it delivers that
one. -/
theorem generate_ends (source : Source) (blueprint : Option String) (output : String)
    (file : Option String) (d : Disk) :
    (∃ f, (generate source blueprint output file).Ends d (.error f) d ∧
      (¬ ∃ c, d.Compiles source blueprint c) ∧
      Verdict (Task.checkpoints d file (.generate source blueprint output)) f.exitCode) ∨
    ∃ c, d.Compiles source blueprint c ∧
      (∀ {code}, Verdict [.directories d output, .rendering d source blueprint output,
          .storage d source blueprint output, .publication d source blueprint output file] code →
        Verdict (Task.checkpoints d file (.generate source blueprint output)) code) ∧
      ∀ {r d'}, (deliver c output file).Ends d r d' →
        (generate source blueprint output file).Ends d r d' := by
  obtain ⟨f, hs, hfault⟩ | ⟨s, hs, hload⟩ := source.loadSpecification_reads d
  · refine .inl ⟨f, .bind (.log _) (.bind_error hs), ?_, .fails hfault⟩
    rintro ⟨_, _, _, ⟨_, _, hload, -⟩, -⟩
    exact hfault.not_loads hload
  obtain ⟨f, hp, hfault⟩ | ⟨p, hp, hpolicy⟩ := source.loadPolicy_reads d
  · refine .inl ⟨f, .bind (.log _) (.bind hs (.bind_error hp)), ?_,
      .passes ⟨s, hload⟩ (.fails hfault)⟩
    rintro ⟨_, _, _, ⟨_, _, -, hpolicy, -⟩, -⟩
    exact hfault.not_loads hpolicy
  obtain ⟨f, hb, hfault⟩ | ⟨b, hb, hblueprint⟩ := loadBlueprint_reads blueprint d
  · refine .inl ⟨f, .bind (.log _) (.bind hs (.bind hp (.bind_error hb))), ?_,
      .passes ⟨s, hload⟩ (.passes ⟨p, hpolicy⟩ (.fails hfault))⟩
    rintro ⟨_, _, _, ⟨_, _, -, -, hblueprint, -⟩, -⟩
    exact hfault.not_loads hblueprint
  obtain ⟨f, hc, hfault⟩ | ⟨c, hc, hcompiles⟩ := compile_reads .generate
    (show d.Gives source blueprint s _ from ⟨p, b, hload, hpolicy, hblueprint, rfl⟩)
  · exact .inl ⟨f, .bind (.log _) (.bind hs (.bind hp (.bind hb (.bind_error hc)))), hfault.2,
      .passes ⟨s, hload⟩ (.passes ⟨p, hpolicy⟩ (.passes ⟨b, hblueprint⟩ (.fails hfault)))⟩
  · exact .inr ⟨c, hcompiles, fun h => .passes ⟨s, hload⟩ (.passes ⟨p, hpolicy⟩
        (.passes ⟨b, hblueprint⟩ (.passes ⟨c, hcompiles⟩ h))),
      fun h => .bind (.log _) (.bind hs (.bind hp (.bind hb (.bind hc h))))⟩

/-- The stages in which a value is stored. -/
def storing (d : Disk) (v : Value) (output : String) : List Checkpoint :=
  [.directories d output, .otherwise (∃ text, v.render (Format.ofFileName output) = .ok text) 3,
    .otherwise (∃ d', d.Stored v output d') 1]

/-- Storing a template fails in the first stage that does not pass, or it stores the template. -/
theorem storeTemplate_ends (output : String) (v : Value) (d : Disk) :
    (∃ f d', (storeTemplate output v).Ends d (.error f) d' ∧
      ∀ rest, Verdict (storing d v output ++ rest) f.exitCode) ∨
    ∃ d', (storeTemplate output v).Ends d (.ok ()) d' ∧ d.Stored v output d' := by
  have hends {r : Except DocumentError Unit} {d' : Disk}
      (h : (Value.store output v : StateM Disk _).run d = (r, d')) :
      (storeTemplate output v).Ends d (r.mapError (.template output)) d' :=
    .bind (.log _) (.bind (.access h) (.require _ _))
  rcases hcreated : (createParents output : StateM Disk _).run d with ⟨e | ⟨⟩, around⟩
  · refine .inl ⟨_, _, hends (Disk.store_unprepared hcreated), fun _ => .fails ⟨rfl, ?_⟩⟩
    rintro ⟨d', hprepared⟩
    cases hcreated.symm.trans hprepared
  have hprepared : d.Prepared output around := hcreated
  cases hr : v.render (Format.ofFileName output) with
  | error e =>
      refine .inl ⟨_, _, hends (Disk.store_unwritable hprepared hr),
        fun _ => .passes ⟨around, hprepared⟩ (.fails ⟨rfl, ?_⟩)⟩
      simp [hr]
  | ok text =>
      cases hl : around.locateFile output with
      | error e =>
          refine .inl ⟨_, _, hends (Disk.store_update hprepared hr (Disk.update_of_error hl)),
            fun _ => .passes ⟨around, hprepared⟩ (.passes ⟨text, hr⟩ (.fails ⟨rfl, ?_⟩))⟩
          rintro ⟨_, around', _, _, hprepared', -, hl', -⟩
          obtain rfl := hprepared.unique hprepared'
          cases hl.symm.trans hl'
      | ok location =>
          exact .inr ⟨_, hends (Disk.store_update hprepared hr (Disk.update_of_ok hl)),
            around, text, location, hprepared, hr, hl, rfl⟩

/-- A template cannot be made known, or it is. -/
theorem publish_ends (output : String) (file : Option String) (d : Disk) :
    (∃ f, (publish output file).Ends d (.error f) d ∧ f.exitCode = 1 ∧
      ¬ ∃ d', d.Published output file d') ∨
    ∃ d', (publish output file).Ends d (.ok ()) d' ∧ d.Published output file d' := by
  cases file with
  | none => exact .inr ⟨d, .pure (), .nowhere⟩
  | some file =>
      have hends {r : Except FileError Unit} {d' : Disk}
          (h : d.update file (· ++ (publicationLine output).toUTF8) = (r, d')) :
          (publish output (some file)).Ends d (r.mapError .publication) d' :=
        .bind (.access h) (.require _ _)
      cases hl : d.locateFile file with
      | error e =>
          refine .inl ⟨_, hends (Disk.update_of_error hl), rfl, ?_⟩
          rintro ⟨_, _ | hf⟩
          rw [hl] at hf
          cases hf
      | ok location => exact .inr ⟨_, hends (Disk.update_of_ok hl), .file hl⟩

/-- A delivery fails in one of its stages, or it leaves the output stored and made known. -/
theorem deliver_ends {source : Source} {blueprint : Option String} {c : Compilation}
    (output : String) (file : Option String) (hc : d.Compiles source blueprint c) :
    ∃ r d', (deliver c output file).Ends d r d' ∧
      Verdict [.directories d output, .rendering d source blueprint output,
        .storage d source blueprint output, .publication d source blueprint output file]
        (resultCode r) ∧
      (r = .ok () → ∃ stored, d.Stored c.template output stored ∧
        stored.Published output file d') := by
  rw [Checkpoint.rendering, Checkpoint.storage, Checkpoint.publication, hc.exists_iff,
    hc.exists_iff, hc.exists_iff]
  obtain ⟨f, d', hs, hverdict⟩ | ⟨stored, hs, hstored⟩ := storeTemplate_ends output c.template d
  · exact ⟨_, d', .bind (.log _) (.bind_error hs), hverdict _, nofun⟩
  have hpassed : ∀ check ∈ storing d c.template output, check.passes := by
    have ⟨around, text, location, hp, ht, _⟩ := hstored
    simp only [storing, List.forall_mem_cons]
    exact ⟨⟨around, hp⟩, ⟨text, ht⟩, ⟨stored, hstored⟩, nofun⟩
  obtain ⟨f, hp, hcode, hno⟩ | ⟨d', hp, hpublished⟩ := publish_ends output file stored
  · refine ⟨_, stored, .bind (.log _) (.bind hs (.bind (.log _) hp)),
      .append hpassed (.fails ⟨hcode, ?_⟩), nofun⟩
    rintro ⟨stored', d'', hstored', hpublished⟩
    obtain rfl := hstored.unique hstored'
    exact hno ⟨d'', hpublished⟩
  · exact ⟨.ok (), d', .bind (.log _) (.bind hs (.bind (.log _) hp)),
      .append hpassed (.passes ⟨stored, d', hstored, hpublished⟩ .done),
      fun _ => ⟨stored, hstored, hpublished⟩⟩

/-- A run ends with the result of its stages. -/
theorem execute_run {arguments : List String} {environment : String → Option String}
    {i : Invocation} {r : Except Failure Unit} {d d' : Disk}
    (h : Request.of arguments environment = .run i) (hends : (i.stages environment).Ends d r d') :
    ∃ o, (execute arguments environment : StateM Disk Outcome).run d = (o, d') ∧
      o.exitCode = resultCode r := by
  obtain ⟨session, hrun⟩ := hends {}
  rw [execute, h]
  dsimp only
  rw [Invocation.run, Disk.run_bind hrun]
  refine ⟨_, rfl, ?_⟩
  cases r with
  | ok => rfl
  | error f => rfl

/-- The exit code of a run is the verdict on the stages of its task. -/
theorem execute_verdict {arguments : List String} {environment : String → Option String}
    {i : Invocation} (asked : Request.of arguments environment = .run i) (d : Disk) :
    Verdict (i.task.checkpoints d (environment publicationVariable))
      ((execute arguments environment : StateM Disk Outcome).run d).1.exitCode := by
  obtain ⟨task, switches⟩ := i
  cases task with
  | validate source =>
      obtain ⟨r, hends, hverdict⟩ := validate_ends source (environment publicationVariable) d
      obtain ⟨o, ho, hcode⟩ := execute_run asked hends
      rw [ho, hcode]
      exact hverdict
  | generate source blueprint output =>
      obtain ⟨f, hends, -, hverdict⟩ | ⟨c, hc, hverdict, hends⟩ :=
        generate_ends source blueprint output (environment publicationVariable) d
      · obtain ⟨o, ho, hcode⟩ := execute_run asked hends
        rw [ho, hcode]
        exact hverdict
      · obtain ⟨r, d', hdeliver, hrest, -⟩ :=
          deliver_ends output (environment publicationVariable) hc
        obtain ⟨o, ho, hcode⟩ := execute_run asked (hends hdeliver)
        rw [ho, hcode]
        exact hverdict hrest

/-- A run on a disk ends with zero exactly if all stages of its task pass, and otherwise with the
code of the first one that fails. -/
theorem exit_code_of_first_failure (arguments : List String) (environment : String → Option String)
    (i : Invocation) (asked : Request.of arguments environment = .run i) (d : Disk) :
    let code := ((execute arguments environment : StateM Disk Outcome).run d).1.exitCode
    let stages := i.task.checkpoints d (environment publicationVariable)
    (code = 0 ↔ ∀ c ∈ stages, c.passes) ∧
      ∀ n, n ≠ 0 → (code = n ↔ ∃ before c after, stages = before ++ c :: after ∧
        (∀ b ∈ before, b.passes) ∧ c.fails n) :=
  (execute_verdict asked d).first_failure (Task.lawful_checkpoints d _ i.task)

/-- A directory in place of the description counts, and not the policy that is missing. -/
theorem exit_code_of_first_failure_unreadable :
    let arguments := ["validate", "--spec", "api.yaml", "--policy", "policy.toml"]
    let i : Invocation := ⟨.validate
      ⟨"api.yaml", "", none, MethodSet.defaultText, some "policy.toml"⟩, []⟩
    let d : Disk := { root := .directory [("api.yaml", .emptyDirectory)] }
    let code := ((execute arguments fun _ => none : StateM Disk Outcome).run d).1.exitCode
    let stages := i.task.checkpoints d none
    Request.of arguments (fun _ => none) = .run i ∧ code = 1 ∧
      (code = 0 ↔ ∀ c ∈ stages, c.passes) ∧
      ∀ n, n ≠ 0 → (code = n ↔ ∃ before c after, stages = before ++ c :: after ∧
        (∀ b ∈ before, b.passes) ∧ c.fails n) := by
  intro arguments i d
  have asked : Request.of arguments (fun _ => none) = .run i := by decide +kernel
  have named : Disk.checkName "api.yaml" = .ok () :=
    Disk.checkName_eq_ok (by simp) (by decide) (by decide +kernel)
  have located : d.locate "api.yaml" = .ok ["api.yaml"] := by
    rw [Disk.locate, named]
    decide +kernel
  obtain ⟨hzero, hcode⟩ := exit_code_of_first_failure arguments (fun _ => none) i asked d
  refine ⟨asked, ?_, hzero, hcode⟩
  refine (hcode 1 (by decide)).mpr ⟨[], .specification d _, _, rfl, nofun, ?_⟩
  refine .unreadable located ?_
  rintro text ⟨location, content, hl, hc, -⟩
  obtain rfl := Except.ok.inj (located.symm.trans hl)
  cases hc

end EventRouting.Command
