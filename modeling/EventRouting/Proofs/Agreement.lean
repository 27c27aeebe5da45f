import EventRouting.Api.Reader
import Mathlib.Data.List.Forall2

/-!
# Readings that agree

Two readings agree if both fail or both succeed with related results, however many aliases either of
them may follow. Agreement goes along with the steps of a reading. A node without aliases is read
alike in every document.
-/

namespace EventRouting.Yaml

/-- A node without aliases. -/
inductive Node.Expanded : Node → Prop
  | scalar (tag : Option String) (plain : Bool) (text : String) : Expanded (.scalar tag plain text)
  | sequence {tag : Option String} {items : List Node} (parts : ∀ n ∈ items, Expanded n) :
      Expanded (.sequence tag items)
  | mapping {tag : Option String} {entries : List (Node × Node)}
      (keys : ∀ e ∈ entries, Expanded e.1) (values : ∀ e ∈ entries, Expanded e.2) :
      Expanded (.mapping tag entries)

theorem Node.Expanded.of_entries {tag : Option String} {entries : List (Node × Node)}
    (h : ∀ e ∈ entries, e.1.Expanded ∧ e.2.Expanded) : Expanded (.mapping tag entries) :=
  .mapping (fun e he => (h e he).1) fun e he => (h e he).2

namespace Node

/-- The text of a scalar. -/
def text? : Node → Option String
  | .scalar _ _ text => some text
  | _ => none

/-- The entries of a mapping. An empty plain scalar has none. -/
def entries? : Node → Option (List (Node × Node))
  | .mapping _ entries => some entries
  | .scalar _ true "" => some []
  | _ => none

/-- Nodes that are the same but for the entries of a mapping, which are related. -/
inductive Differ (E : List (Node × Node) → List (Node × Node) → Prop) : Node → Node → Prop
  | same (n : Node) : Differ E n n
  | mapping {tag : Option String} {entries entries' : List (Node × Node)}
      (related : E entries entries') : Differ E (.mapping tag entries) (.mapping tag entries')

end Node

namespace Reading

variable {α α' β β' : Type} {R : α → α' → Prop} {S : β → β' → Prop}

/-- Both readings fail, or both succeed with related results. -/
def Agree (R : α → α' → Prop) (r : Reading α) (r' : Reading α') : Prop :=
  ∀ budget budget', (r.run budget = none ∧ r'.run budget' = none) ∨
    ∃ a left a' left', r.run budget = some (a, left) ∧ r'.run budget' = some (a', left') ∧ R a a'

namespace Agree

theorem pure {a : α} {a' : α'} (h : R a a') : Agree R (pure a) (pure a') :=
  fun _ _ => .inr ⟨_, _, _, _, rfl, rfl, h⟩

theorem failure : Agree R failure failure :=
  fun _ _ => .inl ⟨rfl, rfl⟩

theorem lift (o : Option α) : Agree Eq (liftM o : Reading α) (liftM o : Reading α) := by
  cases o with
  | none => exact failure
  | some a => exact pure rfl

/-- Related results of the first step may be used for the second one. -/
theorem bind {r : Reading α} {r' : Reading α'} {f : α → Reading β} {f' : α' → Reading β'}
    (hr : Agree R r r') (hf : ∀ a a', R a a' → Agree S (f a) (f' a')) :
    Agree S (r >>= f) (r' >>= f') := by
  intro budget budget'
  rw [StateT.run_bind, StateT.run_bind]
  obtain ⟨hx, hy⟩ | ⟨a, left, a', left', hx, hy, h⟩ := hr budget budget'
  · rw [hx, hy]
    exact .inl ⟨rfl, rfl⟩
  · rw [hx, hy]
    exact hf a a' h left left'

theorem mono {r : Reading α} {r' : Reading α'} {R' : α → α' → Prop} (h : Agree R r r')
    (himp : ∀ a a', R a a' → R' a a') : Agree R' r r' := by
  intro budget budget'
  obtain hn | ⟨a, left, a', left', hx, hy, ha⟩ := h budget budget'
  · exact .inl hn
  · exact .inr ⟨a, left, a', left', hx, hy, himp a a' ha⟩

/-- However many aliases may be followed, equal results are read. -/
theorem run'_eq {r r' : Reading α} (h : Agree Eq r r') (budget budget' : Nat) :
    r.run' budget = r'.run' budget' := by
  rw [StateT.run', StateT.run']
  obtain ⟨hx, hy⟩ | ⟨a, left, _, left', hx, hy, rfl⟩ := h budget budget'
  · rw [show r budget = none from hx, show r' budget' = none from hy]
  · rw [show r budget = some (a, left) from hx, show r' budget' = some (a, left') from hy]
    rfl

/-- Equal results of the first step make the second one the same. -/
theorem bind_eq {r r' : Reading α} {f : α → Reading β} {f' : α → Reading β'} (hr : Agree Eq r r')
    (hf : ∀ a, Agree S (f a) (f' a)) : Agree S (r >>= f) (r' >>= f') := by
  apply hr.bind
  rintro a _ rfl
  exact hf a

theorem map {r : Reading α} {r' : Reading α'} {f : α → β} {f' : α' → β'} (hr : Agree R r r')
    (hf : ∀ a a', R a a' → S (f a) (f' a')) : Agree S (f <$> r) (f' <$> r') := by
  rw [map_eq_pure_bind, map_eq_pure_bind]
  exact hr.bind fun a a' h => .pure (hf a a' h)

theorem mapM {f f' : α → Reading β} {items : List α}
    (h : ∀ x ∈ items, Agree Eq (f x) (f' x)) : Agree Eq (items.mapM f) (items.mapM f') := by
  induction items with
  | nil => exact .pure rfl
  | cons x rest ih =>
      rw [List.forall_mem_cons] at h
      rw [List.mapM_cons, List.mapM_cons]
      exact h.1.bind_eq fun b => (ih h.2).bind_eq fun bs => .pure rfl

theorem foldlM {f f' : β → α → Reading β} {items : List α}
    (h : ∀ b, ∀ x ∈ items, Agree Eq (f b x) (f' b x)) (b : β) :
    Agree Eq (items.foldlM f b) (items.foldlM f' b) := by
  induction items generalizing b with
  | nil => exact .pure rfl
  | cons x rest ih =>
      rw [List.foldlM_cons, List.foldlM_cons]
      exact (h b x List.mem_cons_self).bind_eq
        (ih fun b x hx => h b x (List.mem_cons_of_mem _ hx))

end Agree

variable {d d' : Document} {n : Node}

theorem resolve_of_expanded (h : n.Expanded) (d : Document) : resolve d n = pure n := by
  cases h <;> rfl

theorem text_of_expanded (h : n.Expanded) (d : Document) : text d n = liftM n.text? := by
  rw [text, resolve_of_expanded h, pure_bind]
  cases h <;> rfl

theorem text_scalar (d : Document) (tag : Option String) (plain : Bool) (name : String) :
    text d (.scalar tag plain name) = pure name :=
  rfl

theorem agree_text (h : n.Expanded) : Agree Eq (text d n) (text d' n) := by
  rw [text_of_expanded h, text_of_expanded h]
  exact .lift _

/-- What becomes of a value under its tag is the same in every document. -/
theorem agree_tagged (tag : Option String) (kind : TreeKind) (v : Value) :
    let r : Reading Value := match tag, kind with
      | none, _ => pure v
      | some name, .document => pure (.tagged name v)
      | some _, .entry => failure
    Agree Eq r r := by
  cases tag with
  | none => exact .pure rfl
  | some name =>
      cases kind with
      | document => exact .pure rfl
      | entry => exact .failure

theorem agree_addEntry (kind : TreeKind) (entries : List (Value × Value)) (e : Value × Value) :
    Agree Eq (addEntry kind entries e) (addEntry kind entries e) := by
  cases kind with
  | document =>
      rw [addEntry]
      split
      · exact .failure
      · exact .pure rfl
  | entry => exact .pure rfl

theorem agree_value {kind : TreeKind} {depth : Nat} (h : n.Expanded) :
    Agree Eq (value d kind depth n) (value d' kind depth n) := by
  -- The parts of a collection are read inside of one collection less.
  induction depth using Nat.strongRecOn generalizing n with
  | ind depth ih =>
  rw [value, value, resolve_of_expanded h, pure_bind, resolve_of_expanded h, pure_bind]
  cases h with
  | scalar tag plain text =>
      exact .bind_eq (.lift _) fun m => .bind_eq (.lift _) fun v => agree_tagged _ _ _
  | sequence parts =>
      cases depth with
      | zero => exact .bind_eq .failure fun v => agree_tagged _ _ _
      | succ depth =>
          refine .bind_eq (.map (.mapM fun x hx => ?_) fun _ _ => congrArg _) fun v =>
            agree_tagged _ _ _
          exact ih depth depth.lt_succ_self (parts x hx)
  | mapping keys values =>
      cases depth with
      | zero => exact .bind_eq .failure fun v => agree_tagged _ _ _
      | succ depth =>
          refine .bind_eq (.map (.foldlM (fun acc e he => ?_) _) fun _ _ => congrArg _) fun v =>
            agree_tagged _ _ _
          exact .bind_eq (ih depth depth.lt_succ_self (keys e he)) fun key =>
            .bind_eq (ih depth depth.lt_succ_self (values e he)) fun item => agree_addEntry _ _ _

theorem agree_isNothing (n : Node) : Agree Eq (isNothing n) (isNothing n) := by
  unfold isNothing
  split
  · split
    · exact .pure rfl
    · split
      · exact .pure rfl
      · exact .failure
    · exact .pure rfl
  · exact .pure rfl

theorem agree_optional {read read' : Node → Reading α} (h : n.Expanded)
    (hr : Agree Eq (read n) (read' n)) :
    Agree Eq (optional d read n) (optional d' read' n) := by
  rw [optional, optional, resolve_of_expanded h, pure_bind, resolve_of_expanded h, pure_bind]
  apply (agree_isNothing n).bind_eq
  intro nothing
  cases nothing with
  | true => exact .pure rfl
  | false => exact .map hr fun _ _ => congrArg _

theorem agree_deeper (depth : Nat) : Agree Eq (deeper depth) (deeper depth) := by
  cases depth with
  | zero => exact .failure
  | succ depth => exact .pure rfl

/-- The items of a list without aliases have none. -/
theorem agree_items {depth : Nat} (h : n.Expanded) :
    Agree (fun x y => x = y ∧ ∀ item ∈ x.1, item.Expanded) (items d depth n)
      (items d' depth n) := by
  rw [items, items, resolve_of_expanded h, pure_bind, resolve_of_expanded h, pure_bind]
  cases h with
  | scalar tag plain text =>
      split
      · cases ‹Node.scalar _ _ _ = Node.sequence _ _›
      · exact .pure ⟨rfl, by simp⟩
      · exact .failure
  | sequence parts => exact .bind_eq (agree_deeper depth) fun depth => .pure ⟨rfl, parts⟩
  | mapping keys values => exact .failure

theorem agree_list {read read' : Nat → Node → Reading α} {depth : Nat} (h : n.Expanded)
    (hr : ∀ depth item, item.Expanded → Agree Eq (read depth item) (read' depth item)) :
    Agree Eq (list d read depth n) (list d' read' depth n) := by
  apply (agree_items h).bind
  rintro ⟨items, depth⟩ _ ⟨rfl, hi⟩
  exact .mapM fun item hm => hr depth item (hi item hm)

/-- Entries with the same key without aliases, whose values are related under the key's name. -/
def SameKey (V : String → Node → Node → Prop) (e e' : Node × Node) : Prop :=
  e.1 = e'.1 ∧ e.1.Expanded ∧ ∀ name, e.1.text? = some name → V name e.2 e'.2

/-- Fields of the same name whose values are related. -/
def SameName (V : String → Node → Node → Prop) (f f' : String × Node) : Prop :=
  f.1 = f'.1 ∧ V f.1 f.2 f'.2

/-- The same value without aliases, under any name. -/
def Unchanged (_ : String) (n n' : Node) : Prop :=
  n = n' ∧ n.Expanded

variable {V : String → Node → Node → Prop}

/-- Under a name both have no field, or both have related ones. -/
theorem get?_cases {fields fields' : List (String × Node)}
    (h : List.Forall₂ (SameName V) fields fields') (name : String) :
    (Entries.get? name fields = none ∧ Entries.get? name fields' = none) ∨
      ∃ n n', Entries.get? name fields = some n ∧ Entries.get? name fields' = some n' ∧
        V name n n' := by
  induction h with
  | nil => exact .inl ⟨rfl, rfl⟩
  | @cons f f' rest rest' hf _ ih =>
      obtain ⟨hn, hv⟩ := hf
      rw [Entries.get?, Entries.get?, ← hn]
      by_cases he : f.1 == name
      · rw [if_pos he, if_pos he]
        exact .inr ⟨_, _, rfl, rfl, beq_iff_eq.mp he ▸ hv⟩
      · rw [if_neg he, if_neg he]
        exact ih

theorem contains_eq {fields fields' : List (String × Node)}
    (h : List.Forall₂ (SameName V) fields fields') (name : String) :
    Entries.contains name fields = Entries.contains name fields' := by
  obtain ⟨hx, hy⟩ | ⟨n, n', hx, hy, -⟩ := get?_cases h name
  · rw [Entries.contains, Entries.contains, hx, hy]
  · rw [Entries.contains, Entries.contains, hx, hy]
    rfl

/-- Known fields are related if the entries are. -/
theorem agree_fields {known : List String} {entries entries' : List (Node × Node)}
    (h : List.Forall₂ (SameKey V) entries entries') :
    Agree (List.Forall₂ (SameName V)) (fields d known entries) (fields d' known entries') := by
  induction h with
  | nil => exact .pure .nil
  | @cons e e' rest rest' he _ ih =>
      obtain ⟨key, n⟩ := e
      obtain ⟨_, n'⟩ := e'
      obtain ⟨rfl, hk, hv⟩ := he
      rw [fields, fields, text_of_expanded hk, text_of_expanded hk]
      cases ht : key.text? with
      | none => exact fun _ _ => .inl ⟨rfl, rfl⟩
      | some name =>
          rw [show (liftM (some name) : Reading String) = pure name from rfl, pure_bind, pure_bind]
          apply ih.bind
          intro others others' ho
          rw [contains_eq ho]
          split
          · exact .pure ho
          · split
            · exact .failure
            · exact .pure (.cons ⟨rfl, hv name ht⟩ ho)

theorem agree_fields_self {known : List String} {es : List (Node × Node)}
    (hk : ∀ e ∈ es, e.1.Expanded) : Agree Eq (fields d known es) (fields d known es) := by
  apply (agree_fields (V := fun _ => Eq)
    (List.forall₂_same.mpr fun e he => ⟨rfl, hk e he, fun _ _ => rfl⟩)).mono
  intro fs fs' h
  rw [← List.forall₂_eq_eq_eq]
  exact h.imp fun _ _ hf => Prod.ext hf.1 hf.2

/-- A field agrees if the readings of its related values do. -/
theorem agree_field {fields fields' : List (String × Node)} {name : String} {default : α}
    {read read' : Node → Reading α} (h : List.Forall₂ (SameName V) fields fields')
    (hr : ∀ n n', V name n n' → Agree Eq (read n) (read' n')) :
    Agree Eq (field fields name default read) (field fields' name default read') := by
  obtain ⟨hx, hy⟩ | ⟨n, n', hx, hy, hv⟩ := get?_cases h name
  · rw [field, field, hx, hy]
    exact .pure rfl
  · rw [field, field, hx, hy]
    exact hr n n' hv

/-- A field that is the same in both agrees. -/
theorem agree_unchangedField {fields fields' : List (String × Node)} {name : String} {default : α}
    {read read' : Node → Reading α} (h : List.Forall₂ (SameName Unchanged) fields fields')
    (hr : ∀ {n : Node}, n.Expanded → Agree Eq (read n) (read' n)) :
    Agree Eq (field fields name default read) (field fields' name default read') := by
  apply agree_field h
  rintro n _ ⟨rfl, hn⟩
  exact hr hn

/-- Nodes that differ in their entries have related ones, of which the first have no aliases. -/
theorem agree_entries {E : List (Node × Node) → List (Node × Node) → Prop} {depth : Nat}
    {n' : Node} (refl : ∀ entries, E entries entries) (h : n.Expanded) (hn : n.Differ E n') :
    Agree (fun x y => (E x.1 y.1 ∧ ∀ e ∈ x.1, e.1.Expanded ∧ e.2.Expanded) ∧ x.2 = y.2)
      (entries d depth n) (entries d' depth n') := by
  cases hn with
  | same =>
      rw [entries, entries, resolve_of_expanded h, pure_bind, resolve_of_expanded h, pure_bind]
      cases h with
      | scalar tag plain text =>
          split
          · cases ‹Node.scalar _ _ _ = Node.mapping _ _›
          · exact .pure ⟨⟨refl _, by simp⟩, rfl⟩
          · exact .failure
      | sequence parts => exact .failure
      | mapping keys values =>
          refine .bind_eq (agree_deeper depth) fun depth => .pure ⟨⟨refl _, ?_⟩, rfl⟩
          exact fun e he => ⟨keys e he, values e he⟩
  | @mapping tag es es' related =>
      have hr : resolve d' (.mapping tag es') = pure (.mapping tag es') := rfl
      rw [entries, entries, resolve_of_expanded h, pure_bind, hr, pure_bind]
      cases h with
      | mapping keys values =>
          refine .bind_eq (agree_deeper depth) fun depth => .pure ⟨⟨related, ?_⟩, rfl⟩
          exact fun e he => ⟨keys e he, values e he⟩

theorem agree_entries_self {depth : Nat} (h : n.Expanded) :
    Agree (fun x _ => ∀ e ∈ x.1, e.1.Expanded ∧ e.2.Expanded) (entries d depth n)
      (entries d depth n) :=
  (agree_entries (E := Eq) (fun _ => rfl) h (.same n)).mono fun _ _ hx => hx.1.2

theorem agree_record {known : List String} {depth : Nat} {n' : Node}
    (h : Agree (fun x y => List.Forall₂ (SameKey V) x.1 y.1 ∧ x.2 = y.2)
      (entries d depth n) (entries d' depth n')) :
    Agree (fun x y => List.Forall₂ (SameName V) x.1 y.1 ∧ x.2 = y.2)
      (record d known depth n) (record d' known depth n') := by
  apply h.bind
  rintro ⟨entries, depth⟩ ⟨entries', _⟩ ⟨he, rfl⟩
  exact (agree_fields he).bind fun fields fields' hf => .pure ⟨hf, rfl⟩

/-- A record without aliases has the same fields in every document. -/
theorem agree_record_unchanged {known : List String} {depth : Nat} (h : n.Expanded) :
    Agree (fun x y => List.Forall₂ (SameName Unchanged) x.1 y.1 ∧ x.2 = y.2)
      (record d known depth n) (record d' known depth n) := by
  apply agree_record
  apply (agree_entries (E := Eq) (fun _ => rfl) h (.same n)).mono
  rintro ⟨entries, depth⟩ ⟨_, _⟩ ⟨⟨rfl, he⟩, rfl⟩
  exact ⟨List.forall₂_same.mpr fun e hm => ⟨rfl, (he e hm).1, fun _ _ => ⟨rfl, (he e hm).2⟩⟩, rfl⟩

theorem agree_record_self {known : List String} {depth : Nat} (h : n.Expanded) :
    Agree (fun x _ => ∀ f ∈ x.1, f.2.Expanded) (record d known depth n)
      (record d known depth n) := by
  apply (agree_record_unchanged h).mono
  rintro x y ⟨hf, -⟩
  have hparts : List.Forall₂ (fun f f' => f.2.Expanded ∧ SameName Unchanged f f') x.1 y.1 :=
    hf.imp fun f f' h => ⟨h.2.2, h⟩
  exact ((List.forall₂_and_left _ _).mp hparts).1

/-- What is read without following an alias. -/
def plain (r : Reading α) : Option α :=
  r.run' 0

/-- A document is read like its root. -/
theorem ofDocument?_eq {read read' : Nat → Node → Reading α}
    (h : Agree Eq (read greatestDepth d.root) (read' greatestDepth d'.root)) :
    ofDocument? d read = ofDocument? d' read' :=
  h.run'_eq _ _

/-- A document without aliases is read without following one. -/
theorem ofDocument?_eq_plain {read : Nat → Node → Reading α}
    (h : Agree Eq (read greatestDepth d.root) (read greatestDepth d.root)) :
    ofDocument? d read = (read greatestDepth d.root).plain :=
  h.run'_eq _ _

/-- A second step that does not depend on how many aliases may be followed reads what it would after
the first one without following an alias. -/
theorem of_plain_bind_where {P : α → Prop} {r : Reading α} {f : α → Reading β} {b : β}
    (hr : Agree (fun a _ => P a) r r) (hf : ∀ a, P a → Agree Eq (f a) (f a))
    (h : (r >>= f).plain = some b) : ∃ a, P a ∧ r.plain = some a ∧ (f a).plain = some b := by
  rw [plain, StateT.run'_eq, StateT.run_bind] at h
  obtain ⟨hx, -⟩ | ⟨a, left, _, _, hx, -, ha⟩ := hr 0 0
  · rw [hx] at h
    cases h
  · rw [hx] at h
    refine ⟨a, ha, ?_, ?_⟩
    · rw [plain, StateT.run'_eq, hx]
      rfl
    · exact ((hf a ha).run'_eq 0 left).trans h

theorem of_plain_bind {r : Reading α} {f : α → Reading β} {b : β} (hr : Agree Eq r r)
    (hf : ∀ a, Agree Eq (f a) (f a)) (h : (r >>= f).plain = some b) :
    ∃ a, r.plain = some a ∧ (f a).plain = some b := by
  obtain ⟨a, -, ha, h⟩ := of_plain_bind_where (P := fun _ => True)
    (hr.mono fun _ _ _ => trivial) (fun a _ => hf a) h
  exact ⟨a, ha, h⟩

theorem of_plain_text_bind {f : String → Reading β} {b : β} (hn : n.Expanded)
    (h : (text d n >>= f).plain = some b) :
    ∃ name, n.text? = some name ∧ (f name).plain = some b := by
  rw [text_of_expanded hn] at h
  cases ht : n.text? with
  | none =>
      rw [ht] at h
      cases h
  | some name =>
      rw [ht] at h
      exact ⟨name, rfl, h⟩

/-- The entries of a node without aliases are one collection deeper, if there are any. -/
theorem of_plain_entries {depth inner : Nat} {es : List (Node × Node)} (hn : n.Expanded)
    (h : (entries d depth n).plain = some (es, inner)) :
    n.entries? = some es ∧ (es = [] ∨ inner = depth - 1) := by
  rw [entries, resolve_of_expanded hn, pure_bind] at h
  cases hn with
  | scalar tag plain text =>
      split at h
      · cases ‹Node.scalar _ _ _ = Node.mapping _ _›
      · next ht =>
        cases ht
        cases h
        exact ⟨rfl, .inl rfl⟩
      · cases h
  | sequence parts => cases h
  | mapping keys values =>
      cases depth with
      | zero => cases h
      | succ depth =>
          cases h
          exact ⟨rfl, .inr rfl⟩

/-- The first entry is passed over, or it is the only field of its name. -/
theorem of_plain_fields_cons {known : List String} {key : Node} {rest : List (Node × Node)}
    {fs : List (String × Node)} (hkey : key.Expanded) (hk : ∀ e ∈ rest, e.1.Expanded)
    (h : (fields d known ((key, n) :: rest)).plain = some fs) :
    ∃ first others, key.text? = some first ∧ (fields d known rest).plain = some others ∧
      ((first ∉ known ∧ fs = others) ∨
        (Entries.get? first others = none ∧ fs = (first, n) :: others)) := by
  obtain ⟨first, ht, h⟩ := of_plain_text_bind hkey h
  obtain ⟨others, hothers, h⟩ := of_plain_bind (agree_fields_self hk) (fun others => by
    split
    · exact .pure rfl
    · split
      · exact .failure
      · exact .pure rfl) h
  refine ⟨first, others, ht, hothers, ?_⟩
  split at h
  · next hnew =>
    cases h
    exact .inl ⟨by simpa using hnew, rfl⟩
  · split at h
    · cases h
    · next hnew =>
      cases h
      exact .inr ⟨by simpa [Entries.contains] using hnew, rfl⟩

/-- A known field is the entry of that name, which stands once. -/
theorem get?_of_plain_fields {known : List String} {name : String} {es : List (Node × Node)}
    {fs : List (String × Node)} (hk : ∀ e ∈ es, e.1.Expanded) (hname : name ∈ known)
    (h : (fields d known es).plain = some fs) :
    ((∀ e ∈ es, e.1.text? ≠ some name) → Entries.get? name fs = none) ∧
      ∀ e ∈ es, e.1.text? = some name → Entries.get? name fs = some e.2 := by
  induction es generalizing fs with
  | nil =>
      cases h
      exact ⟨fun _ => rfl, by simp⟩
  | cons e rest ih =>
      obtain ⟨key, n⟩ := e
      rw [List.forall_mem_cons] at hk
      obtain ⟨first, others, ht, hothers, hcase⟩ := of_plain_fields_cons hk.1 hk.2 h
      obtain ⟨hmissing, hfound⟩ := ih hk.2 hothers
      rw [List.forall_mem_cons, List.forall_mem_cons, ht]
      obtain ⟨hunknown, rfl⟩ | ⟨honce, rfl⟩ := hcase
      · refine ⟨fun hno => hmissing hno.2, fun he => ?_, hfound⟩
        exact absurd (Option.some.inj he ▸ hname) hunknown
      · rw [Entries.get?]
        by_cases he : first = name
        · subst he
          rw [if_pos (beq_self_eq_true _)]
          refine ⟨fun hno => absurd rfl hno.1, fun _ => rfl, fun e hm hte => ?_⟩
          -- A second entry of the name would have been refused.
          rw [hfound e hm hte] at honce
          cases honce
        · rw [if_neg (by simpa using he)]
          exact ⟨fun hno => hmissing hno.2, fun hte => absurd (Option.some.inj hte) he, hfound⟩

/-- The known fields of a record are those of its entries. -/
theorem of_plain_record {known : List String} {depth inner : Nat} {fs : List (String × Node)}
    (hn : n.Expanded) (h : (record d known depth n).plain = some (fs, inner)) :
    ∃ es, n.entries? = some es ∧ (∀ e ∈ es, e.1.Expanded ∧ e.2.Expanded) ∧
      (fields d known es).plain = some fs ∧ (es = [] ∨ inner = depth - 1) := by
  obtain ⟨⟨es, depth⟩, he, hentries, h⟩ := of_plain_bind_where (agree_entries_self hn)
    (fun x hx => (agree_fields_self fun e hm => (hx e hm).1).bind_eq fun fs => .pure rfl) h
  obtain ⟨fs, hfields, h⟩ := of_plain_bind (agree_fields_self fun e hm => (he e hm).1)
    (fun fs => .pure rfl) h
  cases h
  obtain ⟨hn, hdepth⟩ := of_plain_entries hn hentries
  exact ⟨es, hn, he, hfields, hdepth⟩

end Reading

end EventRouting.Yaml
