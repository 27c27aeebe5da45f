import EventRouting.Proofs.QueryInheritance

/-!
# Histories of queries

A query comes about by giving expressions to names and by merging other queries into it. However it
came about, it is the map of all that was given, one after the other: a name stands where it was
first given an expression, and has the one that it was given last. To merge is to give what the
other query was given, so that it does not matter which of several merges comes first.
-/

namespace EventRouting

namespace OrderedMap

variable {β : Type}

theorem distinct (m : OrderedMap β) : Entries.Distinct m.entries :=
  ⟨fun _ _ => inferInstance, m.nodup⟩

theorem ofList_concat (entries : List (String × β)) (name : String) (value : β) :
    ofList (entries ++ [(name, value)]) = (ofList entries).insert name value :=
  List.foldl_append

@[simp] theorem empty_merge (m : OrderedMap β) : empty.merge m = m :=
  ofList_entries m

@[simp] theorem merge_empty (m : OrderedMap β) : m.merge empty = m := rfl

theorem merge_assoc (a b c : OrderedMap β) : (a.merge b).merge c = a.merge (b.merge c) := by
  apply OrderedMap.ext
  simp only [entries_merge]
  exact Entries.overlay_overlay b.distinct c.distinct.exact a.entries

@[simp] theorem merge_self (m : OrderedMap β) : m.merge m = m := by
  apply OrderedMap.ext
  rw [entries_merge]
  exact Entries.overlay_eq_self fun _ he => get?_eq_some_iff_mem.mpr he

/-- The names of the lower map keep their places, and the new ones follow in their order. -/
theorem names_merge (a b : OrderedMap β) :
    (a.merge b).names = a.names ++ b.names.filter (· ∉ a.names) := by
  have hnew : ∀ name ∈ b.names,
      (!Entries.contains name a.entries) = decide (name ∉ a.names) := by
    intro name _
    by_cases h : name ∈ a.names
    · simpa [h] using Entries.mem_keys_iff.mp h
    · simpa [h] using mt Entries.mem_keys_iff.mpr h
  rw [names, entries_merge, Entries.keys_overlay b.distinct.exact b.nodup]
  exact congrArg (a.names ++ ·) (List.filter_congr hnew)

end OrderedMap

/-- How a query came about. -/
inductive QueryHistory
  | new
  | insert (earlier : QueryHistory) (name expression : String)
  | insertDetail (earlier : QueryHistory) (name : String)
  | merge (earlier other : QueryHistory)

namespace QueryHistory

/-- The query with this history. -/
def query : QueryHistory → QueryParameters
  | new => .empty
  | insert earlier name expression => earlier.query.insert name expression
  | insertDetail earlier name => earlier.query.insertDetail name
  | merge earlier other => earlier.query.merge other.query

/-- The expressions that were given to names, one after the other. What is merged in was given after
what was there. -/
def given : QueryHistory → List (String × String)
  | new => []
  | insert earlier name expression => earlier.given ++ [(name, expression)]
  | insertDetail earlier name => earlier.given ++ [(name, "$.detail." ++ name)]
  | merge earlier other => earlier.given ++ other.given

/-- A query is made of what was given, whatever of it was merged in. -/
theorem query_eq (h : QueryHistory) : h.query = .ofList h.given := by
  induction h with
  | new => rfl
  | insert earlier name expression ih => rw [query, given, ih, OrderedMap.ofList_concat]
  | insertDetail earlier name ih =>
      rw [query, given, ih, OrderedMap.ofList_concat]
      rfl
  | merge earlier other ih ih' => rw [query, given, ih, ih', OrderedMap.ofList_append]

theorem exists_given (row : List (String × String)) : ∃ h : QueryHistory, h.given = row := by
  induction row using List.reverseRecOn with
  | nil => exact ⟨new, rfl⟩
  | append_singleton row e ih =>
      obtain ⟨h, rfl⟩ := ih
      exact ⟨h.insert e.1 e.2, rfl⟩

/-- No query is without a history. -/
theorem exists_query (q : QueryParameters) : ∃ h : QueryHistory, h.query = q := by
  obtain ⟨h, hgiven⟩ := exists_given q.entries
  exact ⟨h, by rw [query_eq, hgiven, OrderedMap.ofList_entries]⟩

end QueryHistory

/-- A query is an ordered map, and merging is associative with the empty query as its unit. However
a query came about, its names are those that were given expressions, each once and in the order in
which they came first, and a name has the expression that it was given last. In a merged query the
upper one counts first, and its new names follow those of the lower one. A query merged with itself
is the same query. -/
theorem query_of_history :
    (∀ h : QueryHistory,
      h.query.names.Nodup ∧ h.query.names = (Entries.keys h.given).eraseDups ∧
        ∀ name expression, h.query.get? name = some expression ↔
          ∃ before after, h.given = before ++ (name, expression) :: after ∧
            name ∉ Entries.keys after) ∧
      (∀ q : QueryParameters, ∃ h : QueryHistory, h.query = q) ∧
      (∀ a b : QueryParameters,
        (∀ name, (a.merge b).get? name = (b.get? name).or (a.get? name)) ∧
          (a.merge b).names = a.names ++ b.names.filter (· ∉ a.names)) ∧
      (∀ a b c : QueryParameters, (a.merge b).merge c = a.merge (b.merge c)) ∧
      ∀ a : QueryParameters,
        OrderedMap.empty.merge a = a ∧ a.merge OrderedMap.empty = a ∧ a.merge a = a := by
  refine ⟨fun h => ⟨h.query.nodup, ?_, fun name expression => ?_⟩, QueryHistory.exists_query,
    fun a b => ⟨a.get?_merge b, a.names_merge b⟩, OrderedMap.merge_assoc,
    fun a => ⟨a.empty_merge, a.merge_empty, a.merge_self⟩⟩
  · rw [h.query_eq, OrderedMap.names_ofList]
  · rw [h.query_eq, OrderedMap.get?_ofList, Entries.get?_reverse_eq_some_iff]

/-- A name that is given again keeps its place, whether it is given or merged in. -/
example :
    (QueryHistory.new.insertDetail "page" |>.insert "q" "old" |>.merge
      (QueryHistory.new.insert "size" "s" |>.insert "q" "new")).query.entries =
      [("page", "$.detail.page"), ("q", "new"), ("size", "s")] := by
  decide +kernel

end EventRouting
