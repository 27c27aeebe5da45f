import EventRouting.Proofs.Agreement

/-!
# Entries that are passed over

A document without aliases is read alike if extensions are added to its paths, and entries that are
neither parameters nor methods to the items of its paths. What is read has one item for each other
entry of the paths, in order, with one operation for each of its methods and the parameters that
come last.
-/

namespace EventRouting

open Yaml Yaml.Reading

variable {d d' : Document} {n n' : Node} {depth : Nat}

theorem agree_optionalText (h : n.Expanded) : Agree Eq (optionalText d n) (optionalText d' n) :=
  agree_optional h (agree_text h)

theorem Info.agree_read (h : n.Expanded) : Agree Eq (read d depth n) (read d' depth n) := by
  apply (agree_record_unchanged h).bind
  rintro ⟨fields, depth⟩ ⟨fields', _⟩ ⟨hf, rfl⟩
  exact .bind_eq (agree_unchangedField hf agree_optionalText) fun title =>
    .bind_eq (agree_unchangedField hf agree_optionalText) fun version => .pure rfl

theorem Server.agree_read (h : n.Expanded) : Agree Eq (read d depth n) (read d' depth n) := by
  apply (agree_record_unchanged h).bind
  rintro ⟨fields, depth⟩ ⟨fields', _⟩ ⟨hf, rfl⟩
  exact .bind_eq (agree_unchangedField hf agree_optionalText) fun url =>
    .bind_eq (agree_unchangedField hf agree_optionalText) fun description => .pure rfl

theorem ParameterDefinition.agree_read (h : n.Expanded) :
    Agree Eq (read d depth n) (read d' depth n) := by
  apply (agree_record_unchanged h).bind
  rintro ⟨fields, depth⟩ ⟨fields', _⟩ ⟨hf, rfl⟩
  exact .bind_eq (agree_unchangedField hf agree_optionalText) fun location =>
    .bind_eq (agree_unchangedField hf agree_text) fun name => .pure rfl

theorem Parameter.FieldKey.agree_read (h : n.Expanded) : Agree Eq (read d n) (read d' n) := by
  rw [read, read, resolve_of_expanded h, pure_bind, resolve_of_expanded h, pure_bind]
  cases h with
  | scalar tag plain text =>
      dsimp only
      split
      · exact .failure
      · apply (Agree.lift (meaning? tag plain text)).bind_eq
        intro m
        split
        · exact .pure rfl
        · exact .pure rfl
        · exact .failure
  | sequence parts => exact .failure
  | mapping keys values => exact .failure

theorem Parameter.agree_read (h : n.Expanded) : Agree Eq (read d depth n) (read d' depth n) := by
  rw [read, read, resolve_of_expanded h, pure_bind, resolve_of_expanded h, pure_bind]
  cases h with
  | scalar tag plain text => exact .failure
  | sequence parts =>
      dsimp only
      split
      · exact .failure
      · refine .bind_eq (agree_deeper depth) fun depth => .bind_eq (.mapM fun item hm => ?_)
          fun items => .lift _
        exact agree_value (parts item hm)
  | mapping keys values =>
      dsimp only
      split
      · exact .failure
      · refine .bind_eq (agree_deeper depth) fun depth => .bind_eq (.mapM fun e hm => ?_)
          fun fields => .lift _
        exact .bind_eq (FieldKey.agree_read (keys e hm)) fun key =>
          .bind_eq (agree_value (values e hm)) fun v => .pure rfl

theorem Parameter.agree_readList (h : n.Expanded) :
    Agree Eq (list d (read d) depth n) (list d' (read d') depth n) :=
  agree_list h fun _ _ => agree_read

theorem Operation.agree_read (h : n.Expanded) : Agree Eq (read d depth n) (read d' depth n) := by
  apply (agree_record_unchanged h).bind
  rintro ⟨fields, depth⟩ ⟨fields', _⟩ ⟨hf, rfl⟩
  exact .bind_eq (agree_unchangedField hf agree_optionalText) fun id =>
    .bind_eq (agree_unchangedField hf Parameter.agree_readList) fun parameters =>
      .bind_eq (agree_unchangedField hf fun hn => agree_optional hn (agree_value hn)) fun body =>
        .pure rfl

/-- The second entries are the first ones, with values that are related, and between them others
with ignored keys. -/
inductive Yaml.Node.Padded (ignored : String → Prop) (inside : Node → Node → Prop) :
    List (Node × Node) → List (Node × Node) → Prop
  | nil : Padded ignored inside [] []
  | kept {key n n' : Node} {rest rest' : List (Node × Node)} (related : inside n n')
      (tail : Padded ignored inside rest rest') :
      Padded ignored inside ((key, n) :: rest) ((key, n') :: rest')
  | inserted {tag : Option String} {plain : Bool} {text : String} {n : Node}
      {rest rest' : List (Node × Node)} (name : ignored text)
      (tail : Padded ignored inside rest rest') :
      Padded ignored inside rest ((.scalar tag plain text, n) :: rest')

theorem Yaml.Node.Padded.refl {ignored : String → Prop} {inside : Node → Node → Prop}
    (h : ∀ n, inside n n) (entries : List (Node × Node)) :
    Padded ignored inside entries entries := by
  induction entries with
  | nil => exact .nil
  | cons e rest ih => exact .kept (h e.2) ih

namespace PathItem

/-- The names that a path item passes over. -/
def Ignores (name : String) : Prop :=
  name ≠ "parameters" ∧ isHttpMethod name = false
deriving Decidable

/-- The second node is the first one, perhaps with more entries that a path item passes over. -/
def Padded : Node → Node → Prop :=
  Node.Differ (Node.Padded Ignores Eq)

theorem agree_readEntries {entries entries' : List (Node × Node)}
    (h : Node.Padded Ignores Eq entries entries')
    (he : ∀ e ∈ entries, e.1.Expanded ∧ e.2.Expanded) (item : PathItem) :
    Agree Eq (readEntries d depth entries item) (readEntries d' depth entries' item) := by
  induction h generalizing item with
  | nil => exact .pure rfl
  | @kept key n _ rest rest' related _ ih =>
      subst related
      rw [List.forall_mem_cons] at he
      obtain ⟨⟨hk, hn⟩, he⟩ := he
      rw [readEntries, readEntries]
      apply (agree_text hk).bind_eq
      intro name
      split
      · exact (Parameter.agree_readList hn).bind_eq fun parameters => ih he _
      · split
        · exact (Operation.agree_read hn).bind_eq fun operation => ih he _
        · exact ih he item
  | inserted name _ ih =>
      obtain ⟨hp, hm⟩ := name
      rw [readEntries, text_scalar, pure_bind, if_neg (by simpa using hp), if_neg (by simp [hm])]
      exact ih he item

theorem agree_read (h : n.Expanded) (hn : Padded n n') :
    Agree Eq (read d depth n) (read d' depth n') := by
  apply (agree_entries (Node.Padded.refl fun _ => rfl) h hn).bind
  rintro ⟨entries, depth⟩ ⟨entries', _⟩ ⟨⟨hp, he⟩, rfl⟩
  exact agree_readEntries hp he {}

end PathItem

namespace Specification

/-- The second node is the first one, perhaps with more extensions among its entries and more
entries in path items that these pass over. -/
def PathsPadded : Node → Node → Prop :=
  Node.Differ (Node.Padded (fun name => isExtension name = true) PathItem.Padded)

/-- The second node is the first one, perhaps with additions to its paths. -/
def Padded : Node → Node → Prop :=
  Node.Differ (List.Forall₂ fun e e' =>
    e.1 = e'.1 ∧ (e.2 = e'.2 ∨ e.1.text? = some "paths" ∧ PathsPadded e.2 e'.2))

theorem agree_readPaths {entries entries' : List (Node × Node)}
    (h : Node.Padded (fun name => isExtension name = true) PathItem.Padded entries entries')
    (he : ∀ e ∈ entries, e.1.Expanded ∧ e.2.Expanded) :
    Agree Eq (readPaths d depth entries) (readPaths d' depth entries') := by
  induction h with
  | nil => exact .pure rfl
  | @kept key n _ rest rest' related _ ih =>
      rw [List.forall_mem_cons] at he
      obtain ⟨⟨hk, hn⟩, he⟩ := he
      rw [readPaths, readPaths]
      apply (agree_text hk).bind_eq
      intro path
      split
      · exact ih he
      · exact (PathItem.agree_read hn related).bind_eq fun item =>
          (ih he).bind_eq fun paths => .pure rfl
  | inserted name _ ih =>
      rw [readPaths, text_scalar, pure_bind, if_pos name]
      exact ih he

theorem agree_readParameters (h : n.Expanded) :
    Agree Eq (readParameters d depth n) (readParameters d' depth n) := by
  apply (agree_entries (E := Eq) (fun _ => rfl) h (.same n)).bind
  rintro ⟨entries, depth⟩ ⟨_, _⟩ ⟨⟨rfl, he⟩, rfl⟩
  refine .mapM fun e hm => ?_
  exact .bind_eq (agree_text (he e hm).1) fun name =>
    .bind_eq (ParameterDefinition.agree_read (he e hm).2) fun definition => .pure rfl

theorem agree_readComponents (h : n.Expanded) :
    Agree Eq (readComponents d depth n) (readComponents d' depth n) := by
  apply (agree_record_unchanged h).bind
  rintro ⟨fields, depth⟩ ⟨fields', _⟩ ⟨hf, rfl⟩
  exact agree_unchangedField hf agree_readParameters

/-- The same value, or one with additions if it holds the paths. -/
def Additions (name : String) (n n' : Node) : Prop :=
  (n = n' ∨ name = "paths" ∧ PathsPadded n n') ∧ n.Expanded

theorem agree_field {α : Type} {fields fields' : List (String × Node)} {name : String}
    {default : α} {read read' : Node → Reading α}
    (h : List.Forall₂ (SameName Additions) fields fields') (hname : name ≠ "paths")
    (hr : ∀ {n : Node}, n.Expanded → Agree Eq (read n) (read' n)) :
    Agree Eq (field fields name default read) (field fields' name default read') := by
  apply Reading.agree_field h
  rintro n n' ⟨rfl | ⟨rfl, -⟩, hn⟩
  · exact hr hn
  · exact absurd rfl hname

/-- Paths are read alike with and without additions. -/
theorem agree_paths (h : n.Expanded) (hn : PathsPadded n n') :
    Agree Eq (entries d depth n >>= fun x => readPaths d x.2 x.1)
      (entries d' depth n' >>= fun x => readPaths d' x.2 x.1) := by
  apply (agree_entries (Node.Padded.refl fun n => .same n) h hn).bind
  rintro ⟨entries, depth⟩ ⟨entries', _⟩ ⟨⟨hp, he⟩, rfl⟩
  exact agree_readPaths hp he

theorem agree_sections (h : n.Expanded) (hn : Padded n n') :
    Agree (fun x y => List.Forall₂ (SameName Additions) x.1 y.1 ∧ x.2 = y.2)
      (record d ["info", "servers", "paths", "components"] depth n)
      (record d' ["info", "servers", "paths", "components"] depth n') := by
  have hrefl : ∀ entries : List (Node × Node), List.Forall₂ (fun e e' =>
      e.1 = e'.1 ∧ (e.2 = e'.2 ∨ e.1.text? = some "paths" ∧ PathsPadded e.2 e'.2))
        entries entries :=
    fun entries => List.forall₂_same.mpr fun e _ => ⟨rfl, .inl rfl⟩
  apply agree_record
  apply (agree_entries hrefl h hn).mono
  rintro ⟨entries, depth⟩ ⟨entries', _⟩ ⟨⟨hp, he⟩, rfl⟩
  refine ⟨?_, rfl⟩
  dsimp only at hp he ⊢
  induction hp with
  | nil => exact .nil
  | @cons e e' rest rest' hd _ ih =>
      rw [List.forall_mem_cons] at he
      refine .cons ⟨hd.1, he.1.1, fun name hname => ⟨?_, he.1.2⟩⟩ (ih he.2)
      rcases hd.2 with hv | ⟨ht, hv⟩
      · exact .inl hv
      · exact .inr ⟨Option.some.inj (hname.symm.trans ht), hv⟩

/-- Reads the section of the paths. -/
def pathsField (d : Document) (depth : Nat) (sections : List (String × Node)) :
    Reading (List (String × PathItem)) :=
  field sections "paths" [] fun n => entries d depth n >>= fun x => readPaths d x.2 x.1

theorem agree_pathsField {sections sections' : List (String × Node)}
    (h : List.Forall₂ (SameName Additions) sections sections') :
    Agree Eq (pathsField d depth sections) (pathsField d' depth sections') := by
  apply Reading.agree_field h
  rintro n n' ⟨rfl | ⟨-, hp⟩, hn⟩
  · exact agree_paths hn (.same n)
  · exact agree_paths hn hp

/-- Assembles a description from its sections. -/
def assemble (d : Document) (depth : Nat) (sections : List (String × Node)) :
    Reading Specification := do
  let info ← field sections "info" none (optional d (Info.read d depth))
  let servers ← field sections "servers" [] (list d (Server.read d) depth)
  let paths ← pathsField d depth sections
  let parameters ← field sections "components" [] (readComponents d depth)
  return { info := info, servers := servers, paths := paths, parameters := parameters }

theorem read_eq (d : Document) (depth : Nat) (n : Node) :
    read d depth n = record d ["info", "servers", "paths", "components"] depth n >>= fun x =>
      assemble d x.2 x.1 :=
  rfl

theorem agree_assemble {sections sections' : List (String × Node)}
    (h : List.Forall₂ (SameName Additions) sections sections') :
    Agree Eq (assemble d depth sections) (assemble d' depth sections') :=
  .bind_eq (agree_field h (by decide) fun hn => agree_optional hn (Info.agree_read hn))
    fun info => .bind_eq (agree_field h (by decide) fun hn => agree_list hn fun _ _ =>
      Server.agree_read) fun servers => .bind_eq (agree_pathsField h) fun paths =>
        .bind_eq (agree_field h (by decide) agree_readComponents) fun parameters => .pure rfl

theorem agree_read (h : n.Expanded) (hn : Padded n n') :
    Agree Eq (read d depth n) (read d' depth n') := by
  rw [read_eq, read_eq]
  apply (agree_sections h hn).bind
  rintro ⟨sections, depth⟩ ⟨sections', _⟩ ⟨hs, rfl⟩
  exact agree_assemble hs

end Specification

namespace PathItem

/-- What a path item is by its entries: one operation for each method, in order, and the parameters
that come last. -/
structure ReadFrom (d : Document) (depth : Nat) (entries : List (Node × Node)) (item : PathItem) :
    Prop where
  operations : List.Forall₂
    (fun e o => e.1.text? = some o.1 ∧ (Operation.read d depth e.2).plain = some o.2)
    (entries.filter fun e => e.1.text?.any isHttpMethod) item.operations
  noParameters : (∀ e ∈ entries, e.1.text? ≠ some "parameters") → item.parameters = []
  lastParameters : ∀ before e after, entries = before ++ e :: after →
    e.1.text? = some "parameters" → (∀ x ∈ after, x.1.text? ≠ some "parameters") →
      (list d (Parameter.read d) depth e.2).plain = some item.parameters

/-- What entries add to a path item. -/
structure Extends (d : Document) (depth : Nat) (entries : List (Node × Node))
    (item item' : PathItem) : Prop where
  operations : ∃ added, item'.operations = item.operations ++ added ∧ List.Forall₂
    (fun e o => e.1.text? = some o.1 ∧ (Operation.read d depth e.2).plain = some o.2)
    (entries.filter fun e => e.1.text?.any isHttpMethod) added
  noParameters : (∀ e ∈ entries, e.1.text? ≠ some "parameters") →
    item'.parameters = item.parameters
  lastParameters : ∀ before e after, entries = before ++ e :: after →
    e.1.text? = some "parameters" → (∀ x ∈ after, x.1.text? ≠ some "parameters") →
      (list d (Parameter.read d) depth e.2).plain = some item'.parameters

namespace Extends

variable {entries : List (Node × Node)} {item item' : PathItem} {key : Node}

theorem nil : Extends d depth [] item item :=
  ⟨⟨[], by simp, .nil⟩, fun _ => rfl, fun before e after h => by simp at h⟩

theorem parameters {parameters : List Parameter} (hk : key.text? = some "parameters")
    (hp : (list d (Parameter.read d) depth n).plain = some parameters)
    (h : Extends d depth entries { item with parameters := parameters } item') :
    Extends d depth ((key, n) :: entries) item item' := by
  refine ⟨?_, fun hno => absurd hk (hno (key, n) List.mem_cons_self), ?_⟩
  · rw [List.filter_cons_of_neg (by simp [hk, show isHttpMethod "parameters" = false by decide])]
    exact h.operations
  · intro before e after hs he hlast
    rcases List.cons_eq_append_iff.mp hs with ⟨-, hs⟩ | ⟨before, -, hs⟩
    · obtain ⟨rfl, rfl⟩ := List.cons.inj hs
      rw [h.noParameters hlast]
      exact hp
    · exact h.lastParameters before e after hs he hlast

/-- An entry other than the parameters leaves which ones come last. -/
theorem lastParameters_cons (hk : key.text? ≠ some "parameters")
    (h : Extends d depth entries item item') (before : List (Node × Node)) (e : Node × Node)
    (after : List (Node × Node)) (hs : (key, n) :: entries = before ++ e :: after)
    (he : e.1.text? = some "parameters") (hlast : ∀ x ∈ after, x.1.text? ≠ some "parameters") :
    (list d (Parameter.read d) depth e.2).plain = some item'.parameters := by
  rcases List.cons_eq_append_iff.mp hs with ⟨-, hs⟩ | ⟨before, -, hs⟩
  · obtain ⟨rfl, rfl⟩ := List.cons.inj hs
    exact absurd he hk
  · exact h.lastParameters before e after hs he hlast

theorem method {name : String} {operation : Operation} (hk : key.text? = some name)
    (hp : name ≠ "parameters") (hm : isHttpMethod name = true)
    (ho : (Operation.read d depth n).plain = some operation)
    (h : Extends d depth entries
      { item with operations := item.operations ++ [(name, operation)] } item') :
    Extends d depth ((key, n) :: entries) item item' := by
  refine ⟨?_, fun hno => h.noParameters fun e he => hno e (List.mem_cons_of_mem _ he),
    h.lastParameters_cons (by simpa [hk] using hp)⟩
  obtain ⟨added, hadded, hall⟩ := h.operations
  rw [List.filter_cons_of_pos (by simpa [hk] using hm)]
  exact ⟨(name, operation) :: added, by simpa using hadded, .cons ⟨hk, ho⟩ hall⟩

theorem other {name : String} (hk : key.text? = some name) (hp : name ≠ "parameters")
    (hm : isHttpMethod name = false) (h : Extends d depth entries item item') :
    Extends d depth ((key, n) :: entries) item item' := by
  refine ⟨?_, fun hno => h.noParameters fun e he => hno e (List.mem_cons_of_mem _ he),
    h.lastParameters_cons (by simpa [hk] using hp)⟩
  rw [List.filter_cons_of_neg (by simp [hk, hm])]
  exact h.operations

end Extends

theorem extends_of_readEntries {entries : List (Node × Node)} {item item' : PathItem}
    (he : ∀ e ∈ entries, e.1.Expanded ∧ e.2.Expanded)
    (h : (readEntries d depth entries item).plain = some item') :
    Extends d depth entries item item' := by
  induction entries generalizing item with
  | nil =>
      obtain rfl := Option.some.inj h
      exact .nil
  | cons e rest ih =>
      obtain ⟨key, n⟩ := e
      rw [List.forall_mem_cons] at he
      obtain ⟨⟨hk, hn⟩, he⟩ := he
      have hrest (item : PathItem) :
          Agree Eq (readEntries d depth rest item) (readEntries d depth rest item) :=
        agree_readEntries (Node.Padded.refl (fun _ => rfl) rest) he item
      rw [readEntries] at h
      obtain ⟨name, ht, h⟩ := of_plain_text_bind hk h
      split at h
      · next hp =>
        obtain ⟨parameters, hps, h⟩ :=
          of_plain_bind (Parameter.agree_readList hn) (fun _ => hrest _) h
        exact .parameters (by rw [ht, beq_iff_eq.mp hp]) hps (ih he h)
      · next hp =>
        split at h
        · next hm =>
          obtain ⟨operation, ho, h⟩ := of_plain_bind (Operation.agree_read hn) (fun _ => hrest _) h
          exact .method ht (by simpa using hp) hm ho (ih he h)
        · next hm => exact .other ht (by simpa using hp) (by simpa using hm) (ih he h)

theorem readFrom_of_read {item : PathItem} (hn : n.Expanded)
    (h : (PathItem.read d depth n).plain = some item) :
    ∃ entries, n.entries? = some entries ∧ ReadFrom d (depth - 1) entries item := by
  obtain ⟨⟨entries, inner⟩, he, hentries, h⟩ := of_plain_bind_where (agree_entries_self hn)
    (fun x hx => agree_readEntries (Node.Padded.refl (fun _ => rfl) x.1) hx {}) h
  obtain ⟨hn, hinner⟩ := of_plain_entries hn hentries
  refine ⟨entries, hn, ?_⟩
  have hext := extends_of_readEntries he h
  rcases hinner with rfl | rfl
  · obtain rfl := Option.some.inj h
    exact ⟨.nil, fun _ => rfl, fun before e after hs => by simp at hs⟩
  · obtain ⟨added, hadded, hall⟩ := hext.operations
    rw [List.nil_append] at hadded
    exact ⟨hadded ▸ hall, hext.noParameters, hext.lastParameters⟩

end PathItem

namespace Specification

/-- Paths by the entries of their mapping: one item for each entry that is no extension, in
order. -/
def PathsReadFrom (d : Document) (depth : Nat) (entries : List (Node × Node))
    (paths : List (String × PathItem)) : Prop :=
  List.Forall₂ (fun e p => e.1.text? = some p.1 ∧
      ∃ inner, e.2.entries? = some inner ∧ p.2.ReadFrom d (depth - 1) inner)
    (entries.filter fun e => !e.1.text?.any isExtension) paths

theorem pathsReadFrom_of_readPaths {entries : List (Node × Node)} {paths : List (String × PathItem)}
    (he : ∀ e ∈ entries, e.1.Expanded ∧ e.2.Expanded)
    (h : (readPaths d depth entries).plain = some paths) : PathsReadFrom d depth entries paths := by
  induction entries generalizing paths with
  | nil =>
      cases h
      exact .nil
  | cons e rest ih =>
      obtain ⟨key, n⟩ := e
      rw [List.forall_mem_cons] at he
      obtain ⟨⟨hk, hn⟩, he⟩ := he
      have hrest : Agree Eq (readPaths d depth rest) (readPaths d depth rest) :=
        agree_readPaths (Node.Padded.refl (fun n => .same n) rest) he
      rw [readPaths] at h
      obtain ⟨path, ht, h⟩ := of_plain_text_bind hk h
      split at h
      · next hx =>
        rw [PathsReadFrom, List.filter_cons_of_neg (by simpa [ht] using hx)]
        exact ih he h
      · next hx =>
        obtain ⟨item, hitem, h⟩ := of_plain_bind (PathItem.agree_read hn (.same n))
          (fun item => hrest.bind_eq fun paths => .pure rfl) h
        obtain ⟨others, hothers, h⟩ := of_plain_bind hrest (fun paths => .pure rfl) h
        cases h
        rw [PathsReadFrom, List.filter_cons_of_pos (by simpa [ht] using hx)]
        exact .cons ⟨ht, PathItem.readFrom_of_read hn hitem⟩ (ih he hothers)

theorem pathsReadFrom_of_entries {paths : List (String × PathItem)} (hn : n.Expanded)
    (h : (entries d depth n >>= fun x => readPaths d x.2 x.1).plain = some paths) :
    ∃ inner, n.entries? = some inner ∧ PathsReadFrom d (depth - 1) inner paths := by
  obtain ⟨⟨inner, below⟩, he, hentries, h⟩ := of_plain_bind_where (agree_entries_self hn)
    (fun x hx => agree_readPaths (Node.Padded.refl (fun n => .same n) x.1) hx) h
  obtain ⟨hn, hbelow⟩ := of_plain_entries hn hentries
  refine ⟨inner, hn, ?_⟩
  rcases hbelow with rfl | rfl
  · obtain rfl := Option.some.inj h
    exact .nil
  · exact pathsReadFrom_of_readPaths he h

/-- What the paths of a description are by the entries of a document: those of its paths, or
none. -/
structure ReadFrom (d : Document) (entries : List (Node × Node)) (s : Specification) : Prop where
  noPaths : (∀ e ∈ entries, e.1.text? ≠ some "paths") → s.paths = []
  paths : ∀ e ∈ entries, e.1.text? = some "paths" →
    ∃ inner, e.2.entries? = some inner ∧ PathsReadFrom d (greatestDepth - 2) inner s.paths

theorem paths_of_assemble {sections : List (String × Node)} {s : Specification}
    (hs : ∀ f ∈ sections, f.2.Expanded) (h : (assemble d depth sections).plain = some s) :
    (pathsField d depth sections).plain = some s.paths := by
  have hself : List.Forall₂ (SameName Additions) sections sections :=
    List.forall₂_same.mpr fun f hf => ⟨rfl, .inl rfl, hs f hf⟩
  rw [Reading.plain, StateT.run'_eq, Option.map_eq_map, Option.map_eq_some_iff] at h
  obtain ⟨⟨_, left⟩, h, rfl⟩ := h
  simp only [assemble, StateT.run_bind, Option.bind_eq_bind, Option.bind_eq_some_iff] at h
  obtain ⟨⟨info, _⟩, -, ⟨servers, budget⟩, -, ⟨paths, _⟩, hread, ⟨parameters, _⟩, -, h⟩ := h
  cases h
  rw [Reading.plain, (agree_pathsField hself).run'_eq 0 budget, StateT.run'_eq, hread]
  rfl

theorem readFrom_of_read {s : Specification} (hn : n.Expanded)
    (h : (read d greatestDepth n).plain = some s) :
    ∃ entries, n.entries? = some entries ∧ ReadFrom d entries s := by
  rw [read_eq] at h
  obtain ⟨⟨sections, inner⟩, hs, hsections, h⟩ := of_plain_bind_where (agree_record_self hn)
    (fun x hx => agree_assemble (List.forall₂_same.mpr fun f hf => ⟨rfl, .inl rfl, hx f hf⟩)) h
  obtain ⟨entries, hentries, he, hfields, hinner⟩ := of_plain_record hn hsections
  have hpaths := paths_of_assemble hs h
  have hknown : "paths" ∈ ["info", "servers", "paths", "components"] := by simp
  obtain ⟨hmissing, hfound⟩ := get?_of_plain_fields (fun e hm => (he e hm).1) hknown hfields
  refine ⟨entries, hentries, fun hno => ?_, fun e hm ht => ?_⟩
  · rw [pathsField, field, hmissing hno] at hpaths
    exact (Option.some.inj hpaths).symm
  · rw [pathsField, field, hfound e hm ht] at hpaths
    obtain rfl := hinner.resolve_left (List.ne_nil_of_mem hm)
    exact pathsReadFrom_of_entries (he e hm).2 hpaths

/-- Additions to the paths change neither whether a document without aliases can be read nor what is
read, which has the items of the paths in order with their methods and last parameters. -/
theorem padding_passed_over (d d' : Document) (expanded : d.root.Expanded)
    (padded : Padded d.root d'.root) :
    Specification.ofDocument? d' = Specification.ofDocument? d ∧
      ∀ s, Specification.ofDocument? d = some s →
        ∃ entries, d.root.entries? = some entries ∧ ReadFrom d entries s := by
  refine ⟨(Reading.ofDocument?_eq (agree_read expanded padded)).symm, fun s h => ?_⟩
  rw [Specification.ofDocument?, ofDocument?_eq_plain (agree_read expanded (.same _))] at h
  exact readFrom_of_read expanded h

/-- A description of one path, with further entries of its item and of the paths. -/
def petsDocument (itemEntries pathsEntries : List (Node × Node)) : Document where
  root := .mapping none [(name "paths", .mapping none (
    (name "/pets", .mapping none (itemEntries ++
      [(name "GET", .mapping none [(name "operationId", name "list")])])) :: pathsEntries))]
where
  name (text : String) : Node := .scalar none true text

/-- Neither a summary, not even one that no anchor stands for, nor an extension counts. -/
theorem padding_passed_over_pets :
    let d := petsDocument [] []
    let d' := petsDocument [(.scalar none true "summary", .alias 7)]
      [(.scalar none false "x-owner", .sequence none [])]
    d.root.Expanded ∧ Padded d.root d'.root ∧
      (∃ s, Specification.ofDocument? d = some s ∧ s.operationCount = 1) ∧
      Specification.ofDocument? d' = Specification.ofDocument? d ∧
      ∀ s, Specification.ofDocument? d = some s →
        ∃ entries, d.root.entries? = some entries ∧ ReadFrom d entries s := by
  intro d d'
  have expanded : d.root.Expanded :=
    .of_entries (List.forall_mem_singleton.mpr ⟨.scalar .., .of_entries
      (List.forall_mem_singleton.mpr ⟨.scalar .., .of_entries
        (List.forall_mem_singleton.mpr ⟨.scalar .., .of_entries
          (List.forall_mem_singleton.mpr ⟨.scalar .., .scalar ..⟩)⟩)⟩)⟩)
  have summary : PathItem.Ignores "summary" := by decide
  have extension : isExtension "x-owner" = true := by decide
  have padded : Padded d.root d'.root :=
    .mapping (.cons ⟨rfl, .inr ⟨rfl, .mapping (.kept
      (.mapping (.inserted summary (.refl (fun _ => rfl) _))) (.inserted extension .nil))⟩⟩ .nil)
  exact ⟨expanded, padded, ⟨_, rfl, rfl⟩, padding_passed_over d d' expanded padded⟩

end Specification

end EventRouting
