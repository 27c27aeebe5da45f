import EventRouting.OrderedMap
import Mathlib.Data.List.Nodup

/-!
# Rows of writes

Entries are written into a map one after the other. A key then holds its last write, a key that was
not written keeps its entries, and every write either adds an entry or repeats a key.
-/

namespace EventRouting

namespace Entries

variable {κ β : Type}

theorem keys_append (xs ys : List (κ × β)) : keys (xs ++ ys) = keys xs ++ keys ys :=
  List.map_append

theorem keys_reverse (entries : List (κ × β)) : keys entries.reverse = (keys entries).reverse :=
  List.map_reverse

theorem mem_keys_of_mem {k : κ} {v : β} {entries : List (κ × β)} (h : (k, v) ∈ entries) :
    k ∈ keys entries :=
  List.mem_map.mpr ⟨(k, v), h, rfl⟩

variable [BEq κ]

theorem get?_append (k : κ) (xs ys : List (κ × β)) :
    get? k (xs ++ ys) = (get? k xs).or (get? k ys) := by
  induction xs with
  | nil => simp
  | cons e rest ih =>
      obtain ⟨k', v⟩ := e
      by_cases h : k' == k <;> simp [get?, h, ih]

/-- The entry that counts stands behind entries of other keys only. -/
theorem get?_eq_some_iff {k : κ} [Exact k] {v : β} {entries : List (κ × β)} :
    get? k entries = some v ↔
      ∃ before after, entries = before ++ (k, v) :: after ∧ k ∉ keys before := by
  induction entries with
  | nil => simp
  | cons e rest ih =>
      obtain ⟨k', v'⟩ := e
      by_cases h : k' == k
      · obtain rfl := (Exact.same_iff k').mp h
        simp only [get?, h, ↓reduceIte, Option.some.injEq]
        constructor
        · rintro rfl
          exact ⟨[], rest, rfl, by simp⟩
        · rintro ⟨before, after, he, hk⟩
          cases before with
          | nil => simpa using (List.cons.inj he).1
          | cons b before => exact absurd (by simp [← (List.cons.inj he).1]) hk
      · have hne : k' ≠ k := fun he => h ((Exact.same_iff k').mpr he)
        simp only [get?, h, Bool.false_eq_true, ↓reduceIte, ih]
        constructor
        · rintro ⟨before, after, rfl, hk⟩
          exact ⟨(k', v') :: before, after, rfl, by simpa [hne.symm] using hk⟩
        · rintro ⟨before, after, he, hk⟩
          cases before with
          | nil => exact absurd (congrArg Prod.fst (List.cons.inj he).1) hne
          | cons b before =>
              exact ⟨before, after, (List.cons.inj he).2, fun hb => hk (List.mem_cons_of_mem _ hb)⟩

/-- Read from behind, the entry that counts is the last one of its key. -/
theorem get?_reverse_eq_some_iff {k : κ} [Exact k] {v : β} {entries : List (κ × β)} :
    get? k entries.reverse = some v ↔
      ∃ before after, entries = before ++ (k, v) :: after ∧ k ∉ keys after := by
  rw [get?_eq_some_iff]
  constructor
  · rintro ⟨before, after, he, hk⟩
    refine ⟨after.reverse, before.reverse, ?_, by simpa [keys_reverse] using hk⟩
    simpa using congrArg List.reverse he
  · rintro ⟨before, after, rfl, hk⟩
    exact ⟨after.reverse, before.reverse, by simp, by simpa [keys_reverse] using hk⟩

theorem get?_eq_none_iff_not_mem {k : κ} [Exact k] {entries : List (κ × β)} :
    get? k entries = none ↔ k ∉ keys entries := by
  rw [mem_keys_iff, contains]
  simp

/-- A key that stands anywhere stands somewhere for the first time. -/
theorem exists_first_of_mem_keys {k : κ} [Exact k] {entries : List (κ × β)}
    (h : k ∈ keys entries) :
    ∃ before v after, entries = before ++ (k, v) :: after ∧ k ∉ keys before := by
  rw [mem_keys_iff, contains, Option.isSome_iff_exists] at h
  obtain ⟨v, hv⟩ := h
  obtain ⟨before, after, he, hb⟩ := get?_eq_some_iff.mp hv
  exact ⟨before, v, after, he, hb⟩

/-- A key that stands anywhere stands somewhere for the last time. -/
theorem exists_last_of_mem_keys {k : κ} [Exact k] {entries : List (κ × β)}
    (h : k ∈ keys entries) :
    ∃ before v after, entries = before ++ (k, v) :: after ∧ k ∉ keys after := by
  rw [← List.mem_reverse, ← keys_reverse, mem_keys_iff, contains, Option.isSome_iff_exists] at h
  obtain ⟨v, hv⟩ := h
  obtain ⟨before, after, he, ha⟩ := get?_reverse_eq_some_iff.mp hv
  exact ⟨before, v, after, he, ha⟩

/-- Where no key repeats, every entry counts. -/
theorem get?_eq_some_iff_mem {k : κ} [Exact k] {v : β} {entries : List (κ × β)}
    (h : (keys entries).Nodup) : get? k entries = some v ↔ (k, v) ∈ entries := by
  rw [get?_eq_some_iff]
  constructor
  · rintro ⟨before, after, rfl, -⟩
    simp
  · intro hm
    obtain ⟨before, after, rfl⟩ := List.append_of_mem hm
    refine ⟨before, after, rfl, fun hk => ?_⟩
    rw [keys_append, keys_cons, List.nodup_append] at h
    exact h.2.2 k hk k (by simp) rfl

/-- Where no key repeats, the direction of reading does not matter. -/
theorem get?_reverse_of_nodup {entries : List (κ × β)} (h : (keys entries).Nodup) (k : κ)
    [Exact k] : get? k entries.reverse = get? k entries := by
  have hr : (keys entries.reverse).Nodup := by
    rw [keys_reverse]
    exact List.nodup_reverse.mpr h
  apply Option.ext
  intro v
  rw [get?_eq_some_iff_mem h, get?_eq_some_iff_mem hr, List.mem_reverse]

/-- After a row of writes a key holds its last write, or else what it held before. -/
theorem get?_overlay {top : List (κ × β)} (h : ∀ e ∈ top, Exact e.1) (k : κ)
    (base : List (κ × β)) :
    get? k (overlay base top) = (get? k top.reverse).or (get? k base) := by
  induction top generalizing base with
  | nil => simp
  | cons e rest ih =>
      have : Exact e.1 := h e (by simp)
      rw [overlay_cons, ih (fun x hx => h x (by simp [hx])), get?_insert, List.reverse_cons,
        get?_append, Option.or_assoc]
      congr 1
      by_cases hk : e.1 == k <;> simp [get?, hk]

theorem mem_insert_of_ne {k j : κ} [Exact k] (h : j ≠ k) {v w : β} {entries : List (κ × β)} :
    (j, w) ∈ insert k v entries ↔ (j, w) ∈ entries := by
  induction entries with
  | nil => simp [insert, h]
  | cons e rest ih =>
      obtain ⟨k', v'⟩ := e
      by_cases hk : k' == k
      · obtain rfl := (Exact.same_iff k').mp hk
        simp [insert, hk, h]
      · simp [insert, hk, ih]

/-- A row of writes leaves the entries of all other keys alone. -/
theorem mem_overlay_of_not_mem {top : List (κ × β)} (h : ∀ e ∈ top, Exact e.1) {k : κ}
    (hk : k ∉ keys top) {v : β} {base : List (κ × β)} :
    (k, v) ∈ overlay base top ↔ (k, v) ∈ base := by
  induction top generalizing base with
  | nil => rfl
  | cons e rest ih =>
      have : Exact e.1 := h e (by simp)
      rw [keys_cons, List.mem_cons, not_or] at hk
      rw [overlay_cons, ih (fun x hx => h x (by simp [hx])) hk.2, mem_insert_of_ne hk.1]

theorem contains_insert (k : κ) [Exact k] (v : β) (entries : List (κ × β)) (j : κ) :
    contains j (insert k v entries) = (k == j || contains j entries) := by
  rw [contains, get?_insert]
  by_cases h : k == j <;> simp [contains, h]

/-- A write of a new key adds an entry, any other write adds none. -/
theorem length_insert (k : κ) (v : β) (entries : List (κ × β)) :
    (insert k v entries).length = entries.length + if contains k entries then 0 else 1 := by
  have h := congrArg List.length (keys_insert k v entries)
  rw [keys, List.length_map] at h
  rw [h]
  split <;> simp [keys]

theorem insert_of_not_contains {k : κ} {entries : List (κ × β)}
    (h : contains k entries = false) (v : β) : insert k v entries = entries ++ [(k, v)] := by
  induction entries with
  | nil => rfl
  | cons e rest ih =>
      obtain ⟨k', v'⟩ := e
      by_cases hk : k' == k
      · simp [contains, get?, hk] at h
      · simp only [contains, get?, hk, Bool.false_eq_true, ↓reduceIte] at h
        simp [insert, hk, ih h]

/-- New keys are appended in their order, as long as none of them repeats. -/
theorem overlay_eq_append {base top : List (κ × β)} (h : ∀ e ∈ top, Exact e.1)
    (hn : (keys top).Nodup) (hb : ∀ k ∈ keys top, contains k base = false) :
    overlay base top = base ++ top := by
  induction top generalizing base with
  | nil => simp
  | cons e rest ih =>
      have : Exact e.1 := h e (by simp)
      rw [keys_cons, List.nodup_cons] at hn
      rw [overlay_cons, insert_of_not_contains (hb e.1 (by simp)),
        ih (fun x hx => h x (by simp [hx])) hn.2, List.append_assoc, List.singleton_append]
      intro k hk
      rw [← insert_of_not_contains (hb e.1 (by simp)), contains_insert,
        hb k (List.mem_cons_of_mem _ hk), Bool.or_false]
      exact Bool.eq_false_iff.mpr fun he => hn.1 (((Exact.iff_same k).mp he) ▸ hk)

/-- The old keys keep their places, and the new ones follow in their order. -/
theorem keys_overlay {base top : List (κ × β)} (h : ∀ e ∈ top, Exact e.1)
    (hn : (keys top).Nodup) :
    keys (overlay base top) = keys base ++ (keys top).filter fun k => !contains k base := by
  induction top generalizing base with
  | nil => simp
  | cons e rest ih =>
      have : Exact e.1 := h e (by simp)
      rw [keys_cons, List.nodup_cons] at hn
      have hrest : ((keys rest).filter fun k => !contains k (insert e.1 e.2 base)) =
          (keys rest).filter fun k => !contains k base := by
        apply List.filter_congr
        intro k hk
        have hne : (e.1 == k) = false :=
          Bool.eq_false_iff.mpr fun he => hn.1 ((Exact.iff_same k).mp he ▸ hk)
        rw [contains_insert, hne, Bool.false_or]
      rw [overlay_cons, ih (fun x hx => h x (by simp [hx])) hn.2, hrest, keys_insert, keys_cons]
      by_cases hc : contains e.1 base <;> simp [hc]

/-- Each of a row of writes to different keys adds an entry, unless its key was there before. -/
theorem length_overlay {base top : List (κ × β)} (h : ∀ e ∈ top, Exact e.1)
    (hn : (keys top).Nodup) :
    (overlay base top).length + (top.filter fun e => contains e.1 base).length =
      base.length + top.length := by
  have hkeys : (overlay base top).length =
      base.length + (top.filter fun e => !contains e.1 base).length := by
    simpa [keys, List.filter_map, Function.comp_def] using congrArg List.length (keys_overlay h hn)
  have hsplit := List.length_eq_length_filter_add (l := top) fun e => contains e.1 base
  omega

end Entries

namespace OrderedMap

variable {β : Type}

theorem entries_foldl_insert (m : OrderedMap β) (entries : List (String × β)) :
    (entries.foldl (fun acc e => acc.insert e.1 e.2) m).entries =
      Entries.overlay m.entries entries := by
  induction entries generalizing m with
  | nil => rfl
  | cons e rest ih => exact ih (m.insert e.1 e.2)

theorem entries_ofList (entries : List (String × β)) :
    (ofList entries).entries = Entries.overlay [] entries :=
  entries_foldl_insert empty entries

/-- Written into an empty map, the entries of a map make the same map again. -/
theorem ofList_entries (m : OrderedMap β) : ofList m.entries = m := by
  apply OrderedMap.ext
  have hnew : ∀ k ∈ Entries.keys m.entries, Entries.contains k ([] : List (String × β)) = false :=
    fun _ _ => rfl
  rw [entries_ofList, Entries.overlay_eq_append (fun _ _ => inferInstance) m.nodup hnew,
    List.nil_append]

/-- A map made of a row of writes gives every name its last write. -/
theorem get?_ofList (entries : List (String × β)) (name : String) :
    (ofList entries).get? name = Entries.get? name entries.reverse := by
  rw [get?, entries_ofList, Entries.get?_overlay fun _ _ => inferInstance]
  simp

theorem get?_eq_some_iff_mem {m : OrderedMap β} {name : String} {value : β} :
    m.get? name = some value ↔ (name, value) ∈ m.entries :=
  Entries.get?_eq_some_iff_mem m.nodup

theorem mem_names_ofList {entries : List (String × β)} {name : String} :
    name ∈ (ofList entries).names ↔ name ∈ Entries.keys entries := by
  rw [mem_names_iff, contains, get?_ofList, ← Entries.contains, ← Entries.mem_keys_iff,
    Entries.keys_reverse, List.mem_reverse]

/-- The order of a row of writes decides at most the order of the names. -/
theorem names_ofList_perm {xs ys : List (String × β)} (h : xs.Perm ys) :
    (ofList xs).names.Perm (ofList ys).names := by
  have hx : (ofList xs).names.Nodup := (ofList xs).nodup
  have hy : (ofList ys).names.Nodup := (ofList ys).nodup
  apply (List.perm_ext_iff_of_nodup hx hy).mpr
  intro name
  rw [mem_names_ofList, mem_names_ofList]
  exact (h.map Prod.fst).mem_iff

end OrderedMap

end EventRouting
