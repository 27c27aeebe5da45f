import EventRouting.Proofs.InvokePermission
import EventRouting.Proofs.Wildcard

/-!
# The layout of a path

The layout of a path is its literal text and the names of its parameters in turns. No parameter
begins in the literal text, so that the parameters are the leftmost ones, and every path has exactly
one layout. The wildcard path has a wildcard where the layout has a name. So the two line up: unless
there are wildcards in the literal text, a rule has one value for each wildcard of its endpoint, in
their order.
-/

namespace EventRouting

namespace PathTemplate

/-- A name can stand in braces: it is not empty and closes no brace. -/
def IsName (name : List Char) : Prop :=
  name ≠ [] ∧ '\x7d' ∉ name

/-- A name and its closing brace come next. -/
def NameAhead (s : List Char) : Prop :=
  ∃ name after, IsName name ∧ s = name ++ '\x7d' :: after

/-- Somewhere in a text there is a parameter. -/
def HoldsParameter (s : List Char) : Prop :=
  ∃ before after, s = before ++ '\x7b' :: after ∧ NameAhead after

/-- No parameter begins in a text that has `rest` behind it. -/
def PlainBefore (text rest : List Char) : Prop :=
  ∀ before after, text = before ++ '\x7b' :: after → ¬ NameAhead (after ++ rest)

/-- Only one name can be split off. -/
theorem name?_eq_some_iff {s name after : List Char} :
    name? s = some (name, after) ↔ IsName name ∧ s = name ++ '\x7d' :: after := by
  constructor
  · intro h
    obtain ⟨hs, hname⟩ := name?_eq_some h
    exact ⟨hname, hs⟩
  · rintro ⟨⟨hne, hclosed⟩, rfl⟩
    have hall : ∀ c ∈ name, (c != '\x7d') = true := by
      intro c hc
      exact bne_iff_ne.mpr fun he => hclosed (he ▸ hc)
    simp [name?, List.takeWhile_append_of_pos hall, List.dropWhile_append_of_pos hall, hne]

theorem name?_eq_none_iff_not_nameAhead {s : List Char} : name? s = none ↔ ¬ NameAhead s := by
  constructor
  · rintro h ⟨name, after, hs⟩
    rw [name?_eq_some_iff.mpr hs] at h
    cases h
  · intro h
    apply Option.eq_none_iff_forall_ne_some.mpr
    rintro ⟨name, after⟩ hs
    exact h ⟨name, after, name?_eq_some_iff.mp hs⟩

/-- No name comes next exactly if a brace closes at once or none closes at all. -/
theorem not_nameAhead_iff {s : List Char} :
    ¬ NameAhead s ↔ s.head? = some '\x7d' ∨ '\x7d' ∉ s := by
  rw [← name?_eq_none_iff_not_nameAhead, name?_eq_none_iff]

section PlainBefore

variable {c : Char} {text rest : List Char}

theorem plainBefore_nil (rest : List Char) : PlainBefore [] rest := by
  intro before after he
  simp at he

theorem plainBefore_cons :
    PlainBefore (c :: text) rest ↔
      (c ≠ '\x7b' ∨ name? (text ++ rest) = none) ∧ PlainBefore text rest := by
  rw [name?_eq_none_iff_not_nameAhead]
  constructor
  · intro h
    constructor
    · by_cases hc : c = '\x7b'
      · exact .inr (h [] text (by rw [hc, List.nil_append]))
      · exact .inl hc
    · intro before after he
      exact h (c :: before) after (by rw [he, List.cons_append])
  · rintro ⟨hc, h⟩ before after he
    cases before with
    | nil =>
        obtain ⟨rfl, rfl⟩ := List.cons.inj he
        exact hc.resolve_left fun hne => hne rfl
    | cons b before => exact h before after (List.cons.inj he).2

theorem PlainBefore.not_holdsParameter (h : PlainBefore text rest) : ¬ HoldsParameter text := by
  rintro ⟨before, after, he, name, behind, hname, rfl⟩
  refine h before _ he ⟨name, behind ++ rest, hname, ?_⟩
  rw [List.append_assoc, List.cons_append]

/-- In front of a parameter, an opening brace in literal text is closed at once. So it matters
neither what the parameter is called nor what follows it. -/
theorem plainBefore_parameter_iff {name behind : List Char} :
    PlainBefore text ('\x7b' :: name ++ '\x7d' :: behind) ↔
      ∀ before after, text = before ++ '\x7b' :: after → after.head? = some '\x7d' := by
  apply forall₃_congr
  rintro before after -
  -- A brace does close behind the text, namely that of the parameter.
  rw [not_nameAhead_iff]
  cases after with
  | nil => simp
  | cons c after => simp

/-- Literal text in front of a path is literal in the whole path. -/
theorem segments_append (h : PlainBefore text rest) :
    segments (text ++ rest) = text.map .literal ++ segments rest := by
  induction text with
  | nil => rfl
  | cons c text ih =>
      obtain ⟨hc, htext⟩ := plainBefore_cons.mp h
      rw [List.cons_append, segments_cons hc, ih htext, List.map_cons, List.cons_append]

end PlainBefore

/-- Literal text and the names of parameters in turns. -/
inductive Layout
  | text (literal : List Char)
  | parameter (literal name : List Char) (rest : Layout)

namespace Layout

/-- The path with the names in braces. -/
def declared : Layout → List Char
  | .text literal => literal
  | .parameter literal name rest => literal ++ ('\x7b' :: name ++ '\x7d' :: rest.declared)

/-- The names of the parameters, from left to right. -/
def names : Layout → List (List Char)
  | .text _ => []
  | .parameter _ name rest => name :: rest.names

/-- The literal text, from left to right; there is one more of it than there are names. -/
def literals : Layout → List (List Char)
  | .text literal => [literal]
  | .parameter literal _ rest => literal :: rest.literals

/-- The path with wildcards in place of the names. -/
def wildcards (l : Layout) : List Char :=
  [wildcard].intercalate l.literals

/-- The parameters are the leftmost ones: none begins in literal text. -/
def Leftmost : Layout → Prop
  | .text literal => PlainBefore literal []
  | .parameter literal name rest =>
      PlainBefore literal ('\x7b' :: name ++ '\x7d' :: rest.declared) ∧ IsName name ∧ rest.Leftmost

/-- The layout is that of the path. -/
structure Describes (l : Layout) (path : String) : Prop where
  declared_eq : l.declared = path.toList
  leftmost : l.Leftmost

theorem literals_ne_nil (l : Layout) : l.literals ≠ [] := by
  cases l <;> simp [literals]

theorem wildcards_parameter (literal name : List Char) (rest : Layout) :
    (parameter literal name rest).wildcards = literal ++ wildcard :: rest.wildcards := by
  rw [wildcards, literals, List.intercalate_cons_of_ne_nil rest.literals_ne_nil, List.append_assoc]
  rfl

theorem count_wildcards (l : Layout) :
    l.wildcards.count wildcard = l.names.length + l.literals.flatten.count wildcard := by
  induction l with
  | text literal => simp [wildcards, names, literals]
  | parameter literal name rest ih =>
      rw [wildcards_parameter, List.count_append, List.count_cons_self, ih, names, literals,
        List.flatten_cons, List.count_append, List.length_cons]
      omega

section Leftmost

variable {l l' : Layout}

theorem Leftmost.isName (h : l.Leftmost) : ∀ name ∈ l.names, IsName name := by
  induction l with
  | text literal => simp [names]
  | parameter literal name rest ih =>
      obtain ⟨-, hname, hrest⟩ := h
      rw [names, List.forall_mem_cons]
      exact ⟨hname, ih hrest⟩

theorem Leftmost.not_holdsParameter (h : l.Leftmost) :
    ∀ literal ∈ l.literals, ¬ HoldsParameter literal := by
  induction l with
  | text literal =>
      rw [literals, List.forall_mem_singleton]
      exact PlainBefore.not_holdsParameter h
  | parameter literal name rest ih =>
      obtain ⟨hplain, -, hrest⟩ := h
      rw [literals, List.forall_mem_cons]
      exact ⟨hplain.not_holdsParameter, ih hrest⟩

/-- Other names leave the parameters the leftmost ones. -/
theorem Leftmost.of_literals_eq (h : l.Leftmost) (he : l'.literals = l.literals)
    (hn : ∀ name ∈ l'.names, IsName name) : l'.Leftmost := by
  induction l generalizing l' with
  | text literal =>
      cases l' with
      | text literal' =>
          obtain rfl := List.singleton_inj.mp he
          exact h
      | parameter literal' name' rest' =>
          exact absurd (List.cons.inj he).2 rest'.literals_ne_nil
  | parameter literal name rest ih =>
      cases l' with
      | text literal' => exact absurd (List.cons.inj he).2.symm rest.literals_ne_nil
      | parameter literal' name' rest' =>
          obtain ⟨rfl, hliterals⟩ := List.cons.inj he
          obtain ⟨hplain, -, hrest⟩ := h
          rw [names, List.forall_mem_cons] at hn
          refine ⟨?_, hn.1, ih hrest hliterals hn.2⟩
          -- Both conditions say the same of the literal text.
          exact plainBefore_parameter_iff.mpr (plainBefore_parameter_iff.mp hplain)

end Leftmost

section Segments

/-- The layout behind some literal text. -/
def prepend (s : List Char) : Layout → Layout
  | .text literal => .text (s ++ literal)
  | .parameter literal name rest => .parameter (s ++ literal) name rest

/-- The segments of the path. -/
def segments : Layout → List Segment
  | .text literal => literal.map .literal
  | .parameter literal name rest => literal.map .literal ++ .parameter name :: rest.segments

/-- The layout of a row of segments. -/
def ofSegments : List Segment → Layout
  | [] => .text []
  | .literal c :: rest => (ofSegments rest).prepend [c]
  | .parameter name :: rest => .parameter [] name (ofSegments rest)

variable {l : Layout} {path : String}

theorem declared_prepend (s : List Char) (l : Layout) :
    (l.prepend s).declared = s ++ l.declared := by
  cases l <;> simp [prepend, declared]

theorem prepend_nil (l : Layout) : l.prepend [] = l := by
  cases l <;> rfl

theorem prepend_prepend (s t : List Char) (l : Layout) :
    (l.prepend t).prepend s = l.prepend (s ++ t) := by
  cases l <;> simp [prepend]

theorem ofSegments_literals_append (s : List Char) (rest : List Segment) :
    ofSegments (s.map .literal ++ rest) = (ofSegments rest).prepend s := by
  induction s with
  | nil => exact (prepend_nil _).symm
  | cons c s ih =>
      rw [List.map_cons, List.cons_append, ofSegments, ih, prepend_prepend, List.singleton_append]

theorem ofSegments_segments (l : Layout) : ofSegments l.segments = l := by
  induction l with
  | text literal =>
      simpa [segments, ofSegments, prepend] using ofSegments_literals_append literal []
  | parameter literal name rest ih =>
      rw [segments, ofSegments_literals_append, ofSegments, ih, prepend, List.append_nil]

theorem map_generic_segments (l : Layout) : l.segments.map Segment.generic = l.wildcards := by
  induction l with
  | text literal => simp [segments, wildcards, literals, Segment.generic, Function.comp_def]
  | parameter literal name rest ih =>
      rw [segments, List.map_append, List.map_cons, ih, wildcards_parameter, List.map_map]
      exact congrArg (· ++ _) (List.map_id literal)

theorem filterMap_name?_segments (l : Layout) : l.segments.filterMap Segment.name? = l.names := by
  have hliteral : ∀ literal : List Char,
      (literal.map Segment.literal).filterMap Segment.name? = [] := by
    intro literal
    rw [List.filterMap_map]
    exact List.filterMap_eq_nil_iff.mpr fun _ _ => rfl
  induction l with
  | text literal => exact hliteral literal
  | parameter literal name rest ih =>
      rw [segments, List.filterMap_append, hliteral, List.nil_append, List.filterMap_cons, ih]
      rfl

theorem Leftmost.segments_declared (h : l.Leftmost) :
    PathTemplate.segments l.declared = l.segments := by
  induction l with
  | text literal => simpa [declared, segments, PathTemplate.segments] using segments_append h
  | parameter literal name rest ih =>
      obtain ⟨hplain, hname, hrest⟩ := h
      rw [declared, segments_append hplain, List.cons_append,
        segments_parameter (name?_eq_some_iff.mpr ⟨hname, rfl⟩), ih hrest, segments]

theorem Leftmost.prepend (h : l.Leftmost) {c : Char}
    (hc : c ≠ '\x7b' ∨ name? l.declared = none) : (l.prepend [c]).Leftmost := by
  cases l with
  | text literal => exact plainBefore_cons.mpr ⟨by simpa [declared] using hc, h⟩
  | parameter literal name rest => exact ⟨plainBefore_cons.mpr ⟨hc, h.1⟩, h.2⟩

/-- In the layout of the segments of a text the parameters are the leftmost ones. -/
theorem ofSegments_spec (s : List Char) :
    (ofSegments (PathTemplate.segments s)).declared = s ∧
      (ofSegments (PathTemplate.segments s)).Leftmost := by
  fun_induction PathTemplate.segments s with
  | case1 => exact ⟨rfl, plainBefore_nil []⟩
  | case2 rest name after hn ih =>
      obtain ⟨hname, rfl⟩ := name?_eq_some_iff.mp hn
      refine ⟨?_, plainBefore_nil _, hname, ih.2⟩
      rw [ofSegments, declared, ih.1, List.nil_append, List.cons_append]
  | case3 rest hn ih =>
      rw [ofSegments, declared_prepend, ih.1]
      exact ⟨rfl, ih.2.prepend (.inr (ih.1.symm ▸ hn))⟩
  | case4 c rest hc ih =>
      rw [ofSegments, declared_prepend, ih.1]
      exact ⟨rfl, ih.2.prepend (.inl hc)⟩

/-- The layout of a path. -/
def ofPath (path : String) : Layout :=
  ofSegments (PathTemplate.segments path.toList)

/-- Every path has exactly one layout. -/
theorem describes_iff : l.Describes path ↔ l = ofPath path := by
  constructor
  · rintro ⟨hdeclared, hleftmost⟩
    rw [ofPath, ← hdeclared, hleftmost.segments_declared, ofSegments_segments]
  · rintro rfl
    obtain ⟨hdeclared, hleftmost⟩ := ofSegments_spec path.toList
    exact ⟨hdeclared, hleftmost⟩

theorem describes_ofPath (path : String) : (ofPath path).Describes path :=
  describes_iff.mpr rfl

theorem Describes.wildcards_eq (h : l.Describes path) :
    (toWildcards path).toList = l.wildcards := by
  rw [toList_toWildcards, generic, ← h.declared_eq, h.leftmost.segments_declared,
    map_generic_segments]

theorem Describes.parameters_eq (h : l.Describes path) :
    parameters path = l.names.map String.ofList := by
  rw [parameters, ← h.declared_eq, h.leftmost.segments_declared, ← List.map_filterMap,
    filterMap_name?_segments]

end Segments

end Layout

/-- The path with names in braces written over its wildcards, one after the other. -/
def restore : List (List Char) → List Char → List Char
  | [], s => s
  | _ :: _, [] => []
  | name :: names, c :: rest =>
      if c = wildcard then '\x7b' :: name ++ '\x7d' :: restore names rest
      else c :: restore (name :: names) rest

theorem restore_nil (s : List Char) : restore [] s = s := by
  cases s <;> rfl

theorem restore_append {text : List Char} (h : wildcard ∉ text) (names : List (List Char))
    (rest : List Char) : restore names (text ++ rest) = text ++ restore names rest := by
  cases names with
  | nil => rw [restore_nil, restore_nil]
  | cons name names =>
      induction text with
      | nil => rfl
      | cons c text ih =>
          rw [List.mem_cons, not_or] at h
          rw [List.cons_append, restore, if_neg (Ne.symm h.1), ih h.2, List.cons_append]

/-- If all wildcards stand for names, the names in their order give the path back. -/
theorem Layout.restore_wildcards {l : Layout} (h : wildcard ∉ l.literals.flatten) :
    restore l.names l.wildcards = l.declared := by
  induction l with
  | text literal => exact (restore_nil _).trans List.intercalate_singleton
  | parameter literal name rest ih =>
      rw [literals, List.flatten_cons, List.mem_append, not_or] at h
      rw [wildcards_parameter, names, restore_append h.1, restore, if_pos rfl, ih h.2, declared]

end PathTemplate

/-- The values that a target, as a rule holds it, has for the wildcards of its endpoint. -/
def Value.wildcardValues? (target : Value) : Option Value := do
  (← target.field? "HttpParameters").field? "PathParameterValues"

namespace Target

theorem field?_httpParameters (t : Target) :
    t.document.field? "HttpParameters" =
      if t.parameterFields.isEmpty then none else some (.record t.parameterFields) := by
  rw [document, Value.field?_record]
  cases t.forwardsBody <;> cases t.parameterFields.isEmpty <;> simp [Entries.get?]

/-- A target has a value for each wildcard, or no values at all. -/
theorem wildcardValues?_document (t : Target) :
    t.document.wildcardValues? =
      if t.pathValues = [] then none else some (.strings t.pathValues) := by
  rw [Value.wildcardValues?, field?_httpParameters]
  by_cases h : t.pathValues = []
  · cases hq : t.query.isEmpty <;> simp [parameterFields, h, hq, Value.field?_record, Entries.get?]
  · simp [parameterFields, h, Value.field?_record, Entries.get?]

end Target

namespace PathTemplate

/-- Wildcards and parameters line up. A path is literal text and names in braces in turns, where no
literal text holds a parameter; its parameters are these names, and its wildcard path has a wildcard
in place of each. All other wildcards come from literal text. If there are none, the names, written
over the wildcards in their order, give the path back, and the values of the rule of an endpoint
extract these names in this order. -/
theorem wildcards_line_up (path : String) :
    ∃ l : Layout, l.Describes path ∧
      (∀ name ∈ l.names, IsName name) ∧
      (∀ literal ∈ l.literals, ¬ HoldsParameter literal) ∧
      parameters path = l.names.map String.ofList ∧
      (toWildcards path).toList = [wildcard].intercalate l.literals ∧
      (toWildcards path).toList.count wildcard =
        l.names.length + l.literals.flatten.count wildcard ∧
      (l.literals.flatten.count wildcard = 0 →
        restore l.names (toWildcards path).toList = path.toList) ∧
      ∀ (e : Endpoint) (p : Policy), e.path = path → e.wildcardPath = toWildcards path →
        (e.destination p).endpoint = e.baseUrl ++ toWildcards path ∧
        (e.rule p).target.document.wildcardValues? =
          if l.names = [] then none
          else some (.strings (l.names.map fun name => detailExpression (String.ofList name))) := by
  have h := Layout.describes_ofPath path
  refine ⟨_, h, h.leftmost.isName, h.leftmost.not_holdsParameter, h.parameters_eq, h.wildcards_eq,
    ?_, ?_, ?_⟩
  · rw [h.wildcards_eq, Layout.count_wildcards]
  · intro hnone
    rw [h.wildcards_eq, Layout.restore_wildcards (List.count_eq_zero.mp hnone), h.declared_eq]
  · intro e p hpath hwildcards
    constructor
    · rw [Endpoint.destination, hwildcards]
    · rw [Target.wildcardValues?_document, Endpoint.rule, Endpoint.target, hpath,
        h.parameters_eq, List.map_map]
      simp only [List.map_eq_nil_iff]
      rfl

/-- Braces that close at once, a parameter across a slash with a brace in its name, and braces that
open or close nothing. -/
def bracesPath : String :=
  "/\x7b\x7d/\x7ba/\x7bb\x7d/x\x7bc\x7d\x7d\x7b"

/-- How an operation of `bracesPath` is reached. -/
def bracesEndpoint : Endpoint :=
  AcceptedOperation.endpoint [] {} "https://api.example.com"
    { path := bracesPath, item := {}, method := "get", operation := { id := some "call" } }

/-- The path has two parameters and two wildcards, and no wildcard in its literal text. -/
theorem wildcards_line_up_bracesPath :
    ∃ l : Layout, l.Describes bracesPath ∧
      l.names.map String.ofList = ["a/\x7bb", "c"] ∧
      l.literals.map String.ofList = ["/\x7b\x7d/", "/x", "\x7d\x7b"] ∧
      restore l.names (toWildcards bracesPath).toList = bracesPath.toList ∧
      (bracesEndpoint.destination {}).endpoint =
        "https://api.example.com/\x7b\x7d/*/x*\x7d\x7b" ∧
      (bracesEndpoint.rule {}).target.document.wildcardValues? =
        some (.strings ["$.detail.a/\x7bb", "$.detail.c"]) := by
  obtain ⟨l, h, -, -, -, -, -, hrestore, hrule⟩ := wildcards_line_up bracesPath
  obtain ⟨hendpoint, hvalues⟩ := hrule bracesEndpoint {} rfl rfl
  obtain rfl := Layout.describes_iff.mp h
  have hnames : (Layout.ofPath bracesPath).names = ["a/\x7bb".toList, "c".toList] := by
    decide +kernel
  refine ⟨_, h, by rw [hnames]; rfl, by decide +kernel, hrestore (by decide +kernel), ?_, ?_⟩
  · rw [hendpoint]
    decide +kernel
  · rw [hvalues, hnames]
    rfl

end PathTemplate

end EventRouting
