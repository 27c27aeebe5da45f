import EventRouting.Command.Run
import EventRouting.Files.Disk
import EventRouting.Proofs.Outcome

/-!
# Stages on a disk

How the stages of a run end on a disk. What is loaded is described by what stands on the disk, and
loading changes nothing on it.
-/

namespace EventRouting

open Command

namespace Disk

variable {α β : Type} {d d' : Disk}

/-- What follows a result on a disk goes on with it on the disk that is left. -/
theorem run_bind {x : StateM Disk α} {f : α → StateM Disk β} {a : α} (h : x.run d = (a, d')) :
    (x >>= f).run d = (f a).run d' := by
  rw [StateT.run_bind, h]
  rfl

theorem checkName_eq_ok {name : String} (noZero : name.contains '\x00' = false) (given : name ≠ "")
    (short : name.utf8ByteSize < nameLimit) : checkName name = .ok () := by
  rw [checkName, if_neg (by simp [noZero]), if_neg given, if_neg (by omega)]

/-- A name stands for a file with a text. -/
def Holds (d : Disk) (name text : String) : Prop :=
  ∃ location content, d.locate name = .ok location ∧
    d.root.get? location = some (.file content) ∧ String.fromUTF8? content = some text

theorem read_eq_ok_iff {d : Disk} {name : String} {content : ByteArray} :
    d.read name = .ok content ↔
      ∃ location, d.locate name = .ok location ∧ d.root.get? location = some (.file content) := by
  rw [read, bind_eq_ok]
  apply exists_congr
  intro location
  apply and_congr_right
  intro _
  split <;> simp_all

theorem holds_iff {name text : String} : d.Holds name text ↔
    ∃ content, d.read name = .ok content ∧ String.fromUTF8? content = some text := by
  simp only [read_eq_ok_iff, Holds]
  constructor
  · rintro ⟨location, content, hl, hc, ht⟩
    exact ⟨content, ⟨location, hl, hc⟩, ht⟩
  · rintro ⟨content, ⟨location, hl, hc⟩, ht⟩
    exact ⟨location, content, hl, hc, ht⟩

theorem Holds.unique {name text text' : String} (h : d.Holds name text) (h' : d.Holds name text') :
    text = text' := by
  obtain ⟨content, hc, ht⟩ := holds_iff.mp h
  obtain ⟨content', hc', ht'⟩ := holds_iff.mp h'
  obtain rfl := Except.ok.inj (hc.symm.trans hc')
  exact Option.some.inj (ht.symm.trans ht')

/-- Reading a text changes nothing and gives the text that the file holds, if it holds one. -/
theorem readText_run (d : Disk) (name : String) :
    ∃ r, (readText name : StateM Disk _).run d = (r, d) ∧
      ∀ text, r = .ok text ↔ d.Holds name text := by
  rw [readText, run_bind (show (FileAccess.read name : StateM Disk _).run d = _ from rfl)]
  simp only [holds_iff]
  cases h : d.read name with
  | error e => exact ⟨.error e, rfl, by simp⟩
  | ok content =>
      dsimp only
      cases ht : String.fromUTF8? content with
      | none => exact ⟨.error .notText, rfl, by simp [ht]⟩
      | some text => exact ⟨.ok text, rfl, by simp [ht]⟩

/-- What `parse` makes of the text that a file holds. -/
def Loads (d : Disk) (parse : String → Option α) (name : String) (a : α) : Prop :=
  ∃ text, d.Holds name text ∧ parse text = some a

/-- The exit code for a document that cannot be loaded: it is missing, it holds no text, or its text
cannot be parsed. -/
inductive DocumentFault (d : Disk) (parse : String → Option α) (name : String) : Nat → Prop
  | missing (h : ∀ location, d.locate name ≠ .ok location) : DocumentFault d parse name 2
  | unreadable {location : List String} (there : d.locate name = .ok location)
      (h : ∀ text, ¬ d.Holds name text) : DocumentFault d parse name 1
  | malformed {text : String} (holds : d.Holds name text) (h : parse text = none) :
      DocumentFault d parse name 3

variable {parse : String → Option α} {name : String}

theorem Loads.unique {a a' : α} (h : d.Loads parse name a) (h' : d.Loads parse name a') :
    a = a' := by
  obtain ⟨text, ht, ha⟩ := h
  obtain ⟨text', ht', ha'⟩ := h'
  obtain rfl := ht.unique ht'
  exact Option.some.inj (ha.symm.trans ha')

theorem Holds.there {text : String} (h : d.Holds name text) :
    ∃ location, d.locate name = .ok location := by
  obtain ⟨location, -, h, -⟩ := h
  exact ⟨location, h⟩

namespace DocumentFault

theorem not_loads {code : Nat} {a : α} (h : d.DocumentFault parse name code) :
    ¬ d.Loads parse name a := by
  rintro ⟨text, ht, ha⟩
  cases h with
  | missing h =>
      obtain ⟨location, hl⟩ := ht.there
      exact h location hl
  | unreadable _ h => exact h text ht
  | malformed holds h =>
      obtain rfl := ht.unique holds
      rw [h] at ha
      cases ha

theorem unique {code code' : Nat} (h : d.DocumentFault parse name code)
    (h' : d.DocumentFault parse name code') : code = code' := by
  cases h with
  | missing h =>
      cases h' with
      | missing => rfl
      | unreadable there _ => exact absurd there (h _)
      | malformed holds _ =>
          obtain ⟨location, hl⟩ := holds.there
          exact absurd hl (h location)
  | unreadable there h =>
      cases h' with
      | missing h' => exact absurd there (h' _)
      | unreadable => rfl
      | malformed holds _ => exact absurd holds (h _)
  | malformed holds h =>
      cases h' with
      | missing h' =>
          obtain ⟨location, hl⟩ := holds.there
          exact absurd hl (h' location)
      | unreadable _ h' => exact absurd holds (h' _)
      | malformed => rfl

theorem ne_zero {code : Nat} (h : d.DocumentFault parse name code) : code ≠ 0 := by
  cases h with
  | missing => decide
  | unreadable => decide
  | malformed => decide

end DocumentFault

/-- Loading a document changes nothing. -/
theorem loadDocument_run (d : Disk) (parse : String → Option α) (name : String) :
    ∃ r, (loadDocument parse name : StateM Disk _).run d = (r, d) ∧
      (∀ a, r = .ok a → d.Loads parse name a) ∧
      ∀ e, r = .error e → d.DocumentFault parse name (Failure.documentCode e) := by
  rw [loadDocument, run_bind (show (FileAccess.isThere name : StateM Disk _).run d = _ from rfl)]
  cases hl : d.locate name with
  | error e =>
      rw [isThere, hl]
      refine ⟨.error (.notFound name), rfl, nofun, ?_⟩
      rintro _ ⟨⟩
      exact .missing fun location h => by simp [hl] at h
  | ok location =>
      obtain ⟨r, hr, htext⟩ := d.readText_run name
      rw [isThere, hl]
      dsimp only
      rw [if_neg (by simp), run_bind hr]
      cases r with
      | error e =>
          refine ⟨.error (.file e), rfl, nofun, ?_⟩
          rintro _ ⟨⟩
          exact .unreadable hl fun text h => by simpa using (htext text).mpr h
      | ok text =>
          have hholds : d.Holds name text := (htext text).mp rfl
          dsimp only
          cases hp : parse text with
          | none =>
              refine ⟨.error (.malformed name), rfl, nofun, ?_⟩
              rintro _ ⟨⟩
              exact .malformed hholds hp
          | some a =>
              refine ⟨.ok a, rfl, ?_, nofun⟩
              rintro _ ⟨⟩
              exact ⟨text, hholds, hp⟩

/-- The policy that counts: the valid one in the file that is named, or the standard one. -/
inductive LoadsPolicy (d : Disk) : Option String → Policy → Prop
  | standard : LoadsPolicy d none {}
  | file {name text : String} {p : Policy} (holds : d.Holds name text)
      (parsed : Policy.parse? text = some p) (valid : p.validate = .ok ()) :
      LoadsPolicy d (some name) p

/-- The exit code for a policy that cannot be loaded: the file holds no text, its text cannot be
parsed, or the policy is not valid. -/
inductive PolicyFault (d : Disk) : Option String → Nat → Prop
  | unreadable {name : String} (h : ∀ text, ¬ d.Holds name text) : PolicyFault d (some name) 5
  | malformed {name text : String} (holds : d.Holds name text) (h : Policy.parse? text = none) :
      PolicyFault d (some name) 5
  | invalid {name text : String} {p : Policy} {e : PolicyError} (holds : d.Holds name text)
      (parsed : Policy.parse? text = some p) (h : p.validate = .error e) :
      PolicyFault d (some name) 3

theorem LoadsPolicy.unique {name : Option String} {p p' : Policy} (h : d.LoadsPolicy name p)
    (h' : d.LoadsPolicy name p') : p = p' := by
  cases h with
  | standard =>
      cases h'
      rfl
  | file holds parsed _ =>
      cases h' with
      | file holds' parsed' _ =>
          obtain rfl := holds.unique holds'
          exact Option.some.inj (parsed.symm.trans parsed')

namespace PolicyFault

theorem not_loads {name : Option String} {code : Nat} {p : Policy} (h : d.PolicyFault name code) :
    ¬ d.LoadsPolicy name p := by
  rintro (_ | ⟨holds, parsed, valid⟩)
  · cases h
  · cases h with
    | unreadable h => exact h _ holds
    | malformed holds' h =>
        obtain rfl := holds.unique holds'
        rw [h] at parsed
        cases parsed
    | invalid holds' parsed' h =>
        obtain rfl := holds.unique holds'
        obtain rfl := Option.some.inj (parsed.symm.trans parsed')
        rw [h] at valid
        cases valid

theorem unique {name : Option String} {code code' : Nat} (h : d.PolicyFault name code)
    (h' : d.PolicyFault name code') : code = code' := by
  cases h with
  | unreadable h =>
      cases h' with
      | unreadable => rfl
      | malformed => rfl
      | invalid holds _ _ => exact absurd holds (h _)
  | malformed holds h =>
      cases h' with
      | unreadable => rfl
      | malformed => rfl
      | invalid holds' parsed _ =>
          obtain rfl := holds.unique holds'
          rw [h] at parsed
          cases parsed
  | invalid holds parsed _ =>
      cases h' with
      | unreadable h => exact absurd holds (h _)
      | malformed holds' h =>
          obtain rfl := holds.unique holds'
          rw [h] at parsed
          cases parsed
      | invalid => rfl

theorem ne_zero {name : Option String} {code : Nat} (h : d.PolicyFault name code) : code ≠ 0 := by
  cases h with
  | unreadable => decide
  | malformed => decide
  | invalid => decide

end PolicyFault

/-- Loading a policy changes nothing. -/
theorem loadPolicy_run (d : Disk) (name : String) :
    ∃ r, (Policy.load name : StateM Disk _).run d = (r, d) ∧
      (∀ p, r = .ok p → d.LoadsPolicy (some name) p) ∧
      ∀ e, r = .error e → d.PolicyFault (some name) (Failure.policy name e).exitCode := by
  obtain ⟨r, hr, htext⟩ := d.readText_run name
  rw [Policy.load, run_bind hr]
  cases r with
  | error e =>
      refine ⟨.error (.file e), rfl, nofun, ?_⟩
      rintro _ ⟨⟩
      exact .unreadable fun text h => by simpa using (htext text).mpr h
  | ok text =>
      have hholds : d.Holds name text := (htext text).mp rfl
      refine ⟨Policy.ofText text, rfl, fun p h => ?_, fun e h => ?_⟩
      · rw [Policy.ofText] at h
        split at h
        · cases h
        · next q hq =>
          obtain ⟨⟨⟩, hv, rfl⟩ := map_eq_ok.mp (mapError_eq_ok.mp h)
          exact .file hholds hq hv
      · rw [Policy.ofText] at h
        split at h
        · next hq =>
          cases h
          exact .malformed hholds hq
        · next q hq =>
          cases hv : q.validate with
          | ok =>
              rw [hv] at h
              cases h
          | error fault =>
              rw [hv] at h
              cases h
              exact .invalid hholds hq hv

/-- The blueprint that counts: the value in the file that is named, if one is. -/
inductive LoadsBlueprint (d : Disk) : Option String → Option Value → Prop
  | absent : LoadsBlueprint d none none
  | file {name : String} {v : Value} (h : d.Loads Value.parse? name v) :
      LoadsBlueprint d (some name) (some v)

/-- The exit code for a blueprint that cannot be loaded. -/
inductive BlueprintFault (d : Disk) : Option String → Nat → Prop
  | file {name : String} {code : Nat} (h : d.DocumentFault Value.parse? name code) :
      BlueprintFault d (some name) code

theorem LoadsBlueprint.unique {name : Option String} {v v' : Option Value}
    (h : d.LoadsBlueprint name v) (h' : d.LoadsBlueprint name v') : v = v' := by
  cases h with
  | absent =>
      cases h'
      rfl
  | file h =>
      cases h' with
      | file h' => rw [h.unique h']

namespace BlueprintFault

theorem not_loads {name : Option String} {code : Nat} {v : Option Value}
    (h : d.BlueprintFault name code) : ¬ d.LoadsBlueprint name v := by
  rintro (_ | hv)
  · cases h
  · cases h with
    | file h => exact h.not_loads hv

theorem unique {name : Option String} {code code' : Nat} (h : d.BlueprintFault name code)
    (h' : d.BlueprintFault name code') : code = code' := by
  cases h with
  | file h =>
      cases h' with
      | file h' => exact h.unique h'

theorem ne_zero {name : Option String} {code : Nat} (h : d.BlueprintFault name code) :
    code ≠ 0 := by
  cases h with
  | file h => exact h.ne_zero

end BlueprintFault

/-- The description and the options that a disk gives for a compilation. -/
def Gives (d : Disk) (source : Source) (blueprint : Option String) (s : Specification)
    (o : Options) : Prop :=
  ∃ p b, d.Loads Specification.parse? source.specification s ∧ d.LoadsPolicy source.policy p ∧
    d.LoadsBlueprint blueprint b ∧ o = source.options p b

/-- The compilation of what a disk gives. -/
def Compiles (d : Disk) (source : Source) (blueprint : Option String) (c : Compilation) : Prop :=
  ∃ s o, d.Gives source blueprint s o ∧ s.compile o = .ok c

theorem Gives.compiles_iff {source : Source} {blueprint : Option String} {s : Specification}
    {o : Options} {c : Compilation} (h : d.Gives source blueprint s o) :
    d.Compiles source blueprint c ↔ s.compile o = .ok c := by
  constructor
  · rintro ⟨s', o', ⟨p', b', hs', hp', hb', rfl⟩, hc⟩
    obtain ⟨p, b, hs, hp, hb, rfl⟩ := h
    obtain rfl := hs.unique hs'
    obtain rfl := hp.unique hp'
    obtain rfl := hb.unique hb'
    exact hc
  · exact fun hc => ⟨s, o, h, hc⟩

theorem Compiles.unique {source : Source} {blueprint : Option String} {c c' : Compilation}
    (h : d.Compiles source blueprint c) (h' : d.Compiles source blueprint c') : c = c' := by
  obtain ⟨s, o, hg, hc⟩ := h
  rw [hg.compiles_iff] at h'
  exact Except.ok.inj (hc.symm.trans h')

/-- What holds of a compilation of what the disk gives holds of the only one. -/
theorem Compiles.exists_iff {source : Source} {blueprint : Option String} {c : Compilation}
    {P : Compilation → Prop} (h : d.Compiles source blueprint c) :
    (∃ c', d.Compiles source blueprint c' ∧ P c') ↔ P c := by
  constructor
  · rintro ⟨c', h', hP⟩
    exact h.unique h' ▸ hP
  · exact fun hP => ⟨c, h, hP⟩

/-- The directories for a file were created. -/
def Prepared (d : Disk) (output : String) (d' : Disk) : Prop :=
  (createParents output : StateM Disk _).run d = (.ok (), d')

/-- The directories for a file were created, and a value was written to it. -/
def Stored (d : Disk) (v : Value) (output : String) (d' : Disk) : Prop :=
  ∃ around text location, d.Prepared output around ∧
    v.render (Format.ofFileName output) = .ok text ∧ around.locateFile output = .ok location ∧
    d' = around.set location (.file text.toUTF8)

/-- A template was made known in a file, if one is named. -/
inductive Published (d : Disk) (output : String) : Option String → Disk → Prop
  | nowhere : Published d output none d
  | file {file : String} {location : List String} (h : d.locateFile file = .ok location) :
      Published d output (some file)
        (d.set location (.file (d.contentAt location ++ (publicationLine output).toUTF8)))

theorem Prepared.unique {output : String} {around around' : Disk} (h : d.Prepared output around)
    (h' : d.Prepared output around') : around = around' :=
  (Prod.mk.inj (h.symm.trans h')).2

theorem Stored.unique {v : Value} {output : String} (h : d.Stored v output d')
    {d'' : Disk} (h' : d.Stored v output d'') : d' = d'' := by
  obtain ⟨around, text, location, hp, ht, hl, rfl⟩ := h
  obtain ⟨around', text', location', hp', ht', hl', rfl⟩ := h'
  obtain rfl := hp.unique hp'
  obtain rfl := Except.ok.inj (ht.symm.trans ht')
  obtain rfl := Except.ok.inj (hl.symm.trans hl')
  rfl

theorem update_of_error {name : String} {change : ByteArray → ByteArray} {e : FileError}
    (h : d.locateFile name = .error e) : d.update name change = (.error e, d) := by
  rw [update, h]

theorem update_of_ok {name : String} {change : ByteArray → ByteArray} {location : List String}
    (h : d.locateFile name = .ok location) :
    d.update name change = (.ok (), d.set location (.file (change (d.contentAt location)))) := by
  rw [update, h]

section Store

variable {v : Value} {output text : String} {around : Disk}

theorem store_unprepared {e : FileError}
    (h : (createParents output : StateM Disk _).run d = (.error e, d')) :
    (Value.store output v : StateM Disk _).run d = (.error (.file e), d') := by
  rw [Value.store, run_bind h]
  rfl

theorem store_unwritable {e : RenderError} (h : d.Prepared output around)
    (hr : v.render (Format.ofFileName output) = .error e) :
    (Value.store output v : StateM Disk _).run d = (.error (.unwritable e), around) := by
  rw [Value.store, run_bind h, hr]
  rfl

theorem store_update {r : Except FileError Unit} (h : d.Prepared output around)
    (hr : v.render (Format.ofFileName output) = .ok text)
    (hu : around.update output (fun _ => text.toUTF8) = (r, d')) :
    (Value.store output v : StateM Disk _).run d = (r.mapError .file, d') := by
  rw [Value.store, run_bind h, hr]
  dsimp only
  rw [run_bind (show (FileAccess.write output text.toUTF8 : StateM Disk _).run around = _ from hu)]
  rfl

end Store

end Disk

namespace Command.Stage

/-- On a disk the stage ends with a result and leaves a disk behind, whatever was written to the
session before. -/
def Ends {α : Type} (x : Stage (StateM Disk) α) (d : Disk) (r : Except Failure α) (d' : Disk) :
    Prop :=
  ∀ session, ∃ session', (x.run.run session).run d = ((r, session'), d')

namespace Ends

variable {α β : Type} {x : Stage (StateM Disk) α} {f : α → Stage (StateM Disk) β}
  {d d' d'' : Disk} {r : Except Failure β}

theorem pure (a : α) : Ends (pure a) d (.ok a) d :=
  fun session => ⟨session, rfl⟩

theorem throw (e : Failure) : Ends (throw e : Stage (StateM Disk) α) d (.error e) d :=
  fun session => ⟨session, rfl⟩

theorem bind {a : α} (hx : Ends x d (.ok a) d') (hf : Ends (f a) d' r d'') :
    Ends (x >>= f) d r d'' := by
  intro session
  obtain ⟨session', hx⟩ := hx session
  obtain ⟨session'', hf⟩ := hf session'
  refine ⟨session'', ?_⟩
  rw [ExceptT.run_bind, StateT.run_bind, StateT.run_bind, hx]
  exact hf

theorem bind_error {e : Failure} (hx : Ends x d (.error e) d') :
    Ends (x >>= f) d (.error e) d' := by
  intro session
  obtain ⟨session', hx⟩ := hx session
  refine ⟨session', ?_⟩
  rw [ExceptT.run_bind, StateT.run_bind, StateT.run_bind, hx]
  rfl

theorem log (records : List Record) : Ends (Stage.log records) d (.ok ()) d :=
  fun _ => ⟨_, rfl⟩

theorem print (lines : List String) : Ends (Stage.print lines) d (.ok ()) d :=
  fun _ => ⟨_, rfl⟩

theorem access {action : StateM Disk α} {a : α} (h : action.run d = (a, d')) :
    Ends (Stage.access action) d (.ok a) d' := by
  intro session
  exact ⟨session, congrArg (fun p : α × Disk => ((Except.ok p.1, session), p.2)) h⟩

theorem require {ε : Type} (failure : ε → Failure) (result : Except ε α) :
    Ends (Stage.require failure result) d (result.mapError failure) d := by
  cases result with
  | ok a => exact .pure a
  | error e => exact .throw (failure e)

end Ends

/-- The stage changes nothing on the disk. It fails with a bad exit code or goes on with something
good. -/
def Reads {α : Type} (x : Stage (StateM Disk) α) (d : Disk) (good : α → Prop) (bad : Nat → Prop) :
    Prop :=
  (∃ f, x.Ends d (.error f) d ∧ bad f.exitCode) ∨ ∃ a, x.Ends d (.ok a) d ∧ good a

end Stage

variable {d : Disk}

theorem Source.loadSpecification_reads (s : Source) (d : Disk) :
    s.loadSpecification.Reads d (d.Loads Specification.parse? s.specification)
      (d.DocumentFault Specification.parse? s.specification) := by
  obtain ⟨r, hr, hok, herror⟩ := d.loadDocument_run Specification.parse? s.specification
  have hends : s.loadSpecification.Ends d (r.mapError (.specification s.specification)) d :=
    .bind (.access hr) (.bind (.log _) (.require _ _))
  cases r with
  | ok a => exact .inr ⟨a, hends, hok a rfl⟩
  | error e => exact .inl ⟨_, hends, herror e rfl⟩

theorem Source.loadPolicy_reads (s : Source) (d : Disk) :
    s.loadPolicy.Reads d (d.LoadsPolicy s.policy) (d.PolicyFault s.policy) := by
  rw [loadPolicy]
  cases s.policy with
  | none => exact .inr ⟨_, .pure _, .standard⟩
  | some name =>
      obtain ⟨r, hr, hok, herror⟩ := d.loadPolicy_run name
      cases r with
      | ok p =>
          exact .inr ⟨p, .bind (.log _) (.bind (.access hr) (.require _ (.ok p))), hok p rfl⟩
      | error e =>
          exact .inl ⟨_, .bind (.log _) (.bind (.access hr) (.require (.policy name) (.error e))),
            herror e rfl⟩

theorem loadBlueprint_reads (name : Option String) (d : Disk) :
    (loadBlueprint name).Reads d (d.LoadsBlueprint name) (d.BlueprintFault name) := by
  cases name with
  | none => exact .inr ⟨_, .pure _, .absent⟩
  | some name =>
      obtain ⟨r, hr, hok, herror⟩ := d.loadDocument_run Value.parse? name
      rw [loadBlueprint]
      cases r with
      | ok v =>
          exact .inr ⟨some v, .bind (.log _) (.bind (.access hr) (.bind (.log _)
            (.bind (.require _ (.ok v)) (.pure _)))), .file (hok v rfl)⟩
      | error e =>
          exact .inl ⟨_, .bind (.log _) (.bind (.access hr) (.bind (.log _)
            (.bind_error (.require (.blueprint name) (.error e))))), .file (herror e rfl)⟩

theorem compile_reads {source : Source} {blueprint : Option String} {s : Specification}
    {o : Options} (verb : Verb) (h : d.Gives source blueprint s o) :
    (compile verb s o).Reads d (d.Compiles source blueprint)
      (fun code => code = 3 ∧ ¬ ∃ c, d.Compiles source blueprint c) := by
  have hends : (compile verb s o).Ends d ((s.compile o).mapError (.compilation verb)) d :=
    .bind (.log _) (.require _ _)
  simp only [Stage.Reads, h.compiles_iff]
  cases hr : s.compile o with
  | ok c =>
      rw [hr] at hends
      exact .inr ⟨c, hends, rfl⟩
  | error e =>
      rw [hr] at hends
      exact .inl ⟨_, hends, rfl, by simp⟩

end Command

end EventRouting
