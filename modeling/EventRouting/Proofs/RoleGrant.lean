import EventRouting.Proofs.InvokePermission

/-!
# Grants

A grant replaces the destinations of one statement, the first of the first policy, and a role that
does not have it stays as it is. Whatever was granted before is forgotten. In an inventory a grant
reaches one resource, if that is a role, and nothing else of the inventory changes. So after a row
of grants, each role has the last one that was meant for it.
-/

namespace EventRouting

namespace Entries

variable {κ β : Type} [BEq κ]

/-- Where no key repeats, a change reaches the one entry of its key. -/
theorem modify_eq_map {k : κ} [Exact k] (f : β → β) {entries : List (κ × β)}
    (h : (keys entries).Nodup) :
    modify k f entries = entries.map fun e => if e.1 == k then (e.1, f e.2) else e := by
  induction entries with
  | nil => rfl
  | cons e rest ih =>
      obtain ⟨k', v⟩ := e
      rw [keys_cons, List.nodup_cons] at h
      by_cases hk : k' == k
      · obtain rfl := (Exact.same_iff k').mp hk
        have hrest : ∀ e ∈ rest, (if e.1 == k' then (e.1, f e.2) else e) = e := by
          intro e he
          rw [if_neg]
          intro hke
          exact h.1 (List.mem_map.mpr ⟨e, he, (Exact.same_iff e.1).mp hke⟩)
        simp [modify, hk, List.map_congr_left hrest]
      · simp [modify, hk, ih h.2]

end Entries

namespace ExecutionRole

/-- The statement at a place: the number of its policy, and its number among the statements of this
policy. -/
def statement? (r : ExecutionRole) (i j : Nat) : Option Statement :=
  r.policies[i]?.bind fun p => p.statements[j]?

/-- All statements, one policy behind the other. -/
def statements (r : ExecutionRole) : List Statement :=
  r.policies.flatMap (·.statements)

/-- The shape of a role that can be granted something. -/
theorem statement?_first_eq_some_iff {r : ExecutionRole} {s : Statement} :
    r.statement? 0 0 = some s ↔ ∃ trust path name version later others,
      r = ⟨trust, path, ⟨name, version, s :: later⟩ :: others⟩ := by
  constructor
  · intro h
    obtain ⟨trust, path, policies⟩ := r
    match policies with
    | [] => simp [statement?] at h
    | ⟨_, _, []⟩ :: _ => simp [statement?] at h
    | ⟨name, version, first :: later⟩ :: others =>
        obtain rfl : first = s := by simpa [statement?] using h
        exact ⟨trust, path, name, version, later, others, rfl⟩
  · rintro ⟨trust, path, name, version, later, others, rfl⟩
    rfl

theorem grant_of_none {r : ExecutionRole} (h : r.statement? 0 0 = none) (ds : List String) :
    r.grant ds = r := by
  obtain ⟨trust, path, policies⟩ := r
  match policies with
  | [] => rfl
  | ⟨_, _, []⟩ :: _ => rfl
  | ⟨_, _, _ :: _⟩ :: _ => simp [statement?] at h

/-- The role without any statements. -/
def frame (r : ExecutionRole) : ExecutionRole :=
  { r with policies := r.policies.map fun p => { p with statements := [] } }

/-- What is not a statement stays as it is. -/
theorem frame_grant (r : ExecutionRole) (ds : List String) : (r.grant ds).frame = r.frame := by
  cases h : r.statement? 0 0 with
  | none => rw [grant_of_none h]
  | some s =>
      obtain ⟨trust, path, name, version, later, others, rfl⟩ :=
        statement?_first_eq_some_iff.mp h
      rfl

/-- A grant is seen at the first place and at no other. -/
theorem statement?_grant (r : ExecutionRole) (ds : List String) (i j : Nat) :
    (r.grant ds).statement? i j = (r.statement? i j).map fun s =>
      if i = 0 ∧ j = 0 then { s with resources := ds.map .address } else s := by
  cases h : r.statement? 0 0 with
  | none =>
      rw [grant_of_none h]
      by_cases hplace : i = 0 ∧ j = 0
      · obtain ⟨rfl, rfl⟩ := hplace
        rw [h, Option.map_none]
      · simp [hplace]
  | some s =>
      obtain ⟨trust, path, name, version, later, others, rfl⟩ :=
        statement?_first_eq_some_iff.mp h
      match i, j with
      | 0, 0 => rfl
      | 0, j + 1 => simp [grant, InlinePolicy.grant, statement?]
      | i + 1, j => simp [grant, InlinePolicy.grant, statement?]

/-- What was granted comes first, and the other statements still permit what they did. -/
theorem invocable_grant_of_some {r : ExecutionRole} {s : Statement}
    (h : r.statement? 0 0 = some s) (ds : List String) :
    (r.grant ds).invocable = ds ++ r.statements.tail.flatMap (·.resources.map (·.resource)) := by
  obtain ⟨trust, path, name, version, later, others, rfl⟩ := statement?_first_eq_some_iff.mp h
  simp [invocable, grant, InlinePolicy.grant, Statement.grant, statements, List.map_flatMap]

/-- What was granted is what stands in the document, address by address. -/
theorem invocable?_document_grant {r : ExecutionRole} {s : Statement}
    (h : r.statement? 0 0 = some s) (ds : List String) :
    (Resource.role (r.grant ds)).document.invocable? = some (.sequence (ds.map Value.address)) := by
  obtain ⟨trust, path, name, version, later, others, rfl⟩ := statement?_first_eq_some_iff.mp h
  simp [Resource.document, Resource.properties?, document, grant, InlinePolicy.grant,
    InlinePolicy.document, Statement.grant, Statement.document, Value.policyDocument,
    Value.invocable?, Value.field?_record_cons, Value.first?]

/-- The last of a row of grants is all that remains. -/
theorem grant_foldl (earlier : List (List String)) (r : ExecutionRole) (ds : List String) :
    (earlier.foldl (fun r es => r.grant es) r).grant ds = r.grant ds := by
  induction earlier generalizing r with
  | nil => rfl
  | cons es rest ih => rw [List.foldl_cons, ih, grant_grant]

end ExecutionRole

namespace Inventory

variable (m : Inventory) (name : String) (ds : List String)

theorem entries_grant_of_role {r : ExecutionRole} (h : m.get? name = some (.role r)) :
    (m.grant name ds).entries =
      m.entries.map fun e => if e.1 = name then (e.1, .role (r.grant ds)) else e := by
  have hmap : (m.grant name ds).entries = _ := Entries.modify_eq_map (grantResource ds) m.nodup
  rw [hmap]
  apply List.map_congr_left
  intro e he
  by_cases hname : e.1 = name
  · have hget : m.get? name = some e.2 :=
      OrderedMap.get?_eq_some_iff_mem.mpr (hname ▸ he)
    rw [if_pos (beq_iff_eq.mpr hname), if_pos hname, Option.some.inj (hget.symm.trans h)]
    rfl
  · rw [if_neg (by simpa using hname), if_neg hname]

/-- The inventory after a row of grants, each for the role of a name. -/
def grantAll (m : Inventory) (grants : List (String × List String)) : Inventory :=
  grants.foldl (fun m g => (m.grantInvoke g.1 g.2).1) m

theorem grantAll_cons (g : String × List String) (grants : List (String × List String)) :
    m.grantAll (g :: grants) = (m.grant g.1 g.2).grantAll grants := by
  rw [grantAll, List.foldl_cons, grantInvoke_eq]
  rfl

theorem grantResource_grantResource (es : List String) (r : Resource) :
    grantResource es (grantResource ds r) = grantResource es r := by
  cases r with
  | role r => exact congrArg Resource.role (r.grant_grant ds es)
  | _ => rfl

theorem names_grantAll (grants : List (String × List String)) :
    (m.grantAll grants).names = m.names := by
  induction grants generalizing m with
  | nil => rfl
  | cons g rest ih => rw [grantAll_cons, ih, names_grant]

/-- A resource keeps what it had, up to the last grant that was meant for it. -/
theorem get?_grantAll (grants : List (String × List String)) :
    (m.grantAll grants).get? name = (m.get? name).map fun r =>
      match Entries.get? name grants.reverse with
      | some ds => grantResource ds r
      | none => r := by
  induction grants generalizing m with
  | nil => simp [grantAll]
  | cons g rest ih =>
      rw [grantAll_cons, ih, get?_grant, Option.map_map, List.reverse_cons, Entries.get?_append]
      congr 1
      funext r
      cases hlater : Entries.get? name rest.reverse with
      | some es =>
          by_cases hname : name = g.1
          · simp [hname, grantResource_grantResource]
          · simp [hname]
      | none =>
          by_cases hname : name = g.1
          · simp [hname, Entries.get?]
          · simp [hname, Entries.get?, Ne.symm hname]

theorem get?_grantAll_of_not_mem {grants : List (String × List String)}
    (h : name ∉ Entries.keys grants) : (m.grantAll grants).get? name = m.get? name := by
  have hnone : Entries.get? name grants.reverse = none := by
    rw [Entries.get?_eq_none_iff_not_mem, Entries.keys_reverse, List.mem_reverse]
    exact h
  simp [get?_grantAll, hnone]

theorem get?_grantAll_of_last {before after : List (String × List String)}
    (h : name ∉ Entries.keys after) :
    (m.grantAll (before ++ (name, ds) :: after)).get? name =
      (m.get? name).map (grantResource ds) := by
  have hlast : Entries.get? name (before ++ (name, ds) :: after).reverse = some ds :=
    Entries.get?_reverse_eq_some_iff.mpr ⟨before, after, rfl, h⟩
  rw [get?_grantAll, hlast]

end Inventory

/-- A grant replaces the resources of the first statement of the first policy, in the role and in
its document, and leaves everything else of the role as it is. Without such a statement the role
stays as it is, and of several grants the last one counts. In an inventory a grant tells whether
there is a role of the name. It changes this one entry then, and else nothing, so that a row of
grants gives each role the last one that was meant for it. -/
theorem grants_replace :
    (∀ (r : ExecutionRole) (ds : List String),
      (r.grant ds).frame = r.frame ∧
      (∀ i j, (r.grant ds).statement? i j = (r.statement? i j).map fun s =>
        if i = 0 ∧ j = 0 then { s with resources := ds.map .address } else s) ∧
      (∀ s, r.statement? 0 0 = some s →
        (r.grant ds).invocable =
          ds ++ r.statements.tail.flatMap (·.resources.map (·.resource)) ∧
        (Resource.role (r.grant ds)).document.invocable? =
          some (.sequence (ds.map Value.address))) ∧
      (r.statement? 0 0 = none → r.grant ds = r) ∧
      ∀ earlier : List (List String),
        (earlier.foldl (fun r es => r.grant es) r).grant ds = r.grant ds) ∧
    ∀ (m : Inventory) (name : String),
      (∀ ds, ((m.grantInvoke name ds).2 = true ↔ ∃ r, m.get? name = some (.role r)) ∧
        (∀ r, m.get? name = some (.role r) → (m.grantInvoke name ds).1.entries =
          m.entries.map fun e => if e.1 = name then (e.1, .role (r.grant ds)) else e) ∧
        ((∀ r, m.get? name ≠ some (.role r)) → (m.grantInvoke name ds).1 = m)) ∧
      (∀ grants, (m.grantAll grants).names = m.names ∧
        (name ∉ Entries.keys grants → (m.grantAll grants).get? name = m.get? name)) ∧
      ∀ before ds after, name ∉ Entries.keys after →
        (m.grantAll (before ++ (name, ds) :: after)).get? name =
          (m.get? name).map (Inventory.grantResource ds) := by
  constructor
  · intro r ds
    refine ⟨r.frame_grant ds, r.statement?_grant ds, fun s hs => ?_, fun hs => ?_,
      fun earlier => ExecutionRole.grant_foldl earlier r ds⟩
    · exact ⟨ExecutionRole.invocable_grant_of_some hs ds,
        ExecutionRole.invocable?_document_grant hs ds⟩
    · exact ExecutionRole.grant_of_none hs ds
  · intro m name
    refine ⟨fun ds => ?_, fun grants => ⟨m.names_grantAll grants, m.get?_grantAll_of_not_mem name⟩,
      fun _ ds _ hlast => m.get?_grantAll_of_last name ds hlast⟩
    rw [m.grantInvoke_eq name ds]
    refine ⟨?_, fun r hr => m.entries_grant_of_role name ds hr, fun hr => ?_⟩
    · rw [Option.isSome_iff_exists]
      exact exists_congr fun r => m.role?_eq_some_iff name
    · apply m.grant_of_role?_eq_none name ds
      rw [Option.eq_none_iff_forall_ne_some]
      intro r hrole
      exact hr r ((m.role?_eq_some_iff name).mp hrole)

/-- A policy with one statement, which denies something. -/
def denyingPolicy : InlinePolicy :=
  ⟨"quiet", policyVersion, [⟨"Deny", ["logs:PutLogEvents"], [⟨"Log", "Name"⟩]⟩]⟩

/-- A role with three statements in two policies. -/
def tripleRole : ExecutionRole where
  trust := ⟨policyVersion, []⟩
  path := "/"
  policies := [⟨"invoke", policyVersion,
    [⟨"Allow", ["events:InvokeApiDestination"], [.address "Old"]⟩,
      ⟨"Allow", ["sqs:SendMessage"], [.address "Queue"]⟩]⟩, denyingPolicy]

/-- A role whose first policy has no statements, but whose second one has. -/
def lateRole : ExecutionRole where
  trust := ⟨policyVersion, []⟩
  path := "/"
  policies := [⟨"invoke", policyVersion, []⟩, denyingPolicy]

/-- Two roles and a queue. -/
def tripleInventory : Inventory :=
  .ofList [("Triple", .role tripleRole), ("Queue", .queue), ("Late", .role lateRole)]

/-- Of three statements the first is replaced, and of two grants to one role the second counts. A
queue is granted nothing. -/
theorem grants_replace_tripleInventory :
    (tripleRole.grant ["New", "New"]).invocable = ["New", "New", "Queue", "Log"] ∧
      lateRole.grant ["New"] = lateRole ∧
      (tripleInventory.grantInvoke "Late" ["New"]).2 = true ∧
      (tripleInventory.grantInvoke "Queue" ["New"]).1 = tripleInventory ∧
      (tripleInventory.grantAll [("Triple", ["Old"]), ("Triple", ["New"]), ("Late", [])]).get?
        "Triple" = some (.role (tripleRole.grant ["New"])) := by
  obtain ⟨hroles, hinventories⟩ := grants_replace
  obtain ⟨-, -, hgranted, -, -⟩ := hroles tripleRole ["New", "New"]
  obtain ⟨-, -, -, hnone, -⟩ := hroles lateRole ["New"]
  obtain ⟨hlate, -, -⟩ := hinventories tripleInventory "Late"
  obtain ⟨hqueue, -, -⟩ := hinventories tripleInventory "Queue"
  obtain ⟨-, -, hlast⟩ := hinventories tripleInventory "Triple"
  have hno : ∀ r, tripleInventory.get? "Queue" ≠ some (.role r) := by
    have hget : tripleInventory.get? "Queue" = some .queue := by decide +kernel
    simp [hget]
  have hafter : "Triple" ∉ Entries.keys [("Late", ([] : List String))] := by decide
  refine ⟨(hgranted _ rfl).1, hnone rfl, (hlate _).1.mpr ⟨lateRole, by decide +kernel⟩,
    (hqueue _).2.2 hno, ?_⟩
  exact (hlast [("Triple", ["Old"])] ["New"] _ hafter).trans (by decide +kernel)

end EventRouting
