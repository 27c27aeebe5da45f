import EventRouting.Proofs.Writes
import Mathlib.Data.List.Induction

/-!
# Overlays of overlays

Two rows of entries that are written one after the other are one row: the first, overlaid with the
second. A row that is written again changes nothing. Both laws hold of the entries in their order,
and not only of what a key reads back.
-/

namespace EventRouting.Entries

variable {κ β : Type} [BEq κ]

/-- Entries of which each one counts: no two keys are the same. -/
structure Distinct (entries : List (κ × β)) : Prop where
  exact : ∀ e ∈ entries, Exact e.1
  nodup : (keys entries).Nodup

theorem Distinct.tail {e : κ × β} {rest : List (κ × β)} (h : Distinct (e :: rest)) :
    Distinct rest :=
  ⟨fun x hx => h.exact x (List.mem_cons_of_mem _ hx), (List.nodup_cons.mp h.nodup).2⟩

theorem Distinct.insert {entries : List (κ × β)} (h : Distinct entries) (k : κ) [Exact k] (v : β) :
    Distinct (insert k v entries) where
  exact := by
    intro e he
    have hk : e.1 ∈ keys entries ++ [k] := by
      have hmem := mem_keys_of_mem he
      rw [keys_insert] at hmem
      split at hmem
      · exact List.mem_append_left _ hmem
      · exact hmem
    rcases List.mem_append.mp hk with hold | hnew
    · obtain ⟨x, hx, hxe⟩ := List.mem_map.mp hold
      exact hxe ▸ h.exact x hx
    · rw [List.mem_singleton.mp hnew]
      infer_instance
  nodup := nodup_keys_insert h.nodup k v

theorem Distinct.overlay {base top : List (κ × β)} (h : Distinct base)
    (ht : ∀ e ∈ top, Exact e.1) : Distinct (overlay base top) := by
  induction top generalizing base with
  | nil => exact h
  | cons e rest ih =>
      have : Exact e.1 := ht e (by simp)
      exact ih (h.insert e.1 e.2) fun x hx => ht x (by simp [hx])

/-- Of two writes to one key the second remains. -/
theorem insert_insert_self (k : κ) [Exact k] (v w : β) (entries : List (κ × β)) :
    insert k v (insert k w entries) = insert k v entries := by
  have hk : (k == k) = true := (Exact.same_iff k).mpr rfl
  induction entries with
  | nil => simp [insert, hk]
  | cons e rest ih =>
      obtain ⟨k', v'⟩ := e
      by_cases h : k' == k <;> simp [insert, h, ih]

/-- Writing what is there already changes nothing. -/
theorem insert_of_get?_eq_some {k : κ} {v : β} {entries : List (κ × β)}
    (h : get? k entries = some v) : insert k v entries = entries := by
  induction entries with
  | nil => cases h
  | cons e rest ih =>
      obtain ⟨k', v'⟩ := e
      by_cases hk : k' == k
      · simp only [get?, hk, ↓reduceIte, Option.some.injEq] at h
        simp [insert, hk, h]
      · simp only [get?, hk, Bool.false_eq_true, ↓reduceIte] at h
        simp [insert, hk, ih h]

/-- A key that is there keeps its place, so another key may be written before or after it. -/
theorem insert_comm_of_contains {k j : κ} [Exact k] [Exact j] (hne : k ≠ j)
    {entries : List (κ × β)} (hc : contains k entries = true) (v w : β) :
    insert j w (insert k v entries) = insert k v (insert j w entries) := by
  induction entries with
  | nil => cases hc
  | cons e rest ih =>
      obtain ⟨k', v'⟩ := e
      by_cases hk : k' == k
      · have hj : (k' == j) = false := by
          rw [(Exact.same_iff k').mp hk]
          exact Bool.eq_false_iff.mpr fun h => hne ((Exact.iff_same j).mp h)
        simp [insert, hk, hj]
      · by_cases hj : k' == j
        · simp [insert, hk, hj]
        · simp only [contains, get?, hk, Bool.false_eq_true, ↓reduceIte] at hc
          simp [insert, hk, hj, ih hc]

/-- A key that is there, and that a row of writes leaves out, may be written before or after the
row. -/
theorem overlay_insert_of_contains {k : κ} [Exact k] {top : List (κ × β)}
    (h : ∀ e ∈ top, Exact e.1) (hk : k ∉ keys top) {base : List (κ × β)}
    (hc : contains k base = true) (v : β) :
    overlay (insert k v base) top = insert k v (overlay base top) := by
  induction top generalizing base with
  | nil => rfl
  | cons e rest ih =>
      have : Exact e.1 := h e (by simp)
      rw [keys_cons, List.mem_cons, not_or] at hk
      have hc' : contains k (insert e.1 e.2 base) = true := by
        rw [contains_insert, hc, Bool.or_true]
      rw [overlay_cons, overlay_cons, insert_comm_of_contains hk.1 hc,
        ih (fun x hx => h x (by simp [hx])) hk.2 hc']

/-- A write to the upper entries is a write to the whole. -/
theorem overlay_insert {k : κ} [Exact k] {top : List (κ × β)} (h : Distinct top) (v : β)
    (base : List (κ × β)) : overlay base (insert k v top) = insert k v (overlay base top) := by
  induction top generalizing base with
  | nil => rfl
  | cons e rest ih =>
      obtain ⟨k', v'⟩ := e
      by_cases hk : k' == k
      · obtain rfl := (Exact.same_iff k').mp hk
        have hrest : k' ∉ keys rest := (List.nodup_cons.mp h.nodup).1
        have hc : contains k' (insert k' v' base) = true := by simp [contains]
        simp only [insert, hk, ↓reduceIte, overlay_cons]
        rw [← overlay_insert_of_contains h.tail.exact hrest hc, insert_insert_self]
      · simp only [insert, hk, Bool.false_eq_true, ↓reduceIte, overlay_cons]
        exact ih h.tail _

/-- Overlaying twice is overlaying once, with an overlay. -/
theorem overlay_overlay {mid top : List (κ × β)} (hm : Distinct mid)
    (ht : ∀ e ∈ top, Exact e.1) (base : List (κ × β)) :
    overlay (overlay base mid) top = overlay base (overlay mid top) := by
  induction top generalizing mid with
  | nil => rfl
  | cons e rest ih =>
      have : Exact e.1 := ht e (by simp)
      rw [overlay_cons, overlay_cons, ← overlay_insert hm]
      exact ih (hm.insert e.1 e.2) fun x hx => ht x (by simp [hx])

/-- Writing a row of entries that are there already changes nothing. -/
theorem overlay_eq_self {base top : List (κ × β)} (h : ∀ e ∈ top, get? e.1 base = some e.2) :
    overlay base top = base := by
  induction top with
  | nil => rfl
  | cons e rest ih =>
      rw [overlay_cons, insert_of_get?_eq_some (h e (by simp))]
      exact ih fun x hx => h x (by simp [hx])

theorem get?_overlay_of_mem {top : List (κ × β)} (h : Distinct top) {e : κ × β} (he : e ∈ top)
    (base : List (κ × β)) : get? e.1 (overlay base top) = some e.2 := by
  have : Exact e.1 := h.exact e he
  rw [get?_overlay h.exact, get?_reverse_of_nodup h.nodup,
    (get?_eq_some_iff_mem h.nodup).mpr he, Option.some_or]

/-- Written into an empty map, the keys stand in the order in which they first came. -/
theorem keys_overlay_nil [LawfulBEq κ] (entries : List (κ × β)) :
    keys (overlay [] entries) = (keys entries).eraseDups := by
  induction entries using List.reverseRecOn with
  | nil => rfl
  | append_singleton xs e ih =>
      have hstep : overlay [] (xs ++ [e]) = insert e.1 e.2 (overlay [] xs) := by
        simp [overlay, List.foldl_append]
      have hmem : contains e.1 (overlay [] xs) = true ↔ e.1 ∈ keys xs := by
        rw [← mem_keys_iff, ih, List.mem_eraseDups]
      rw [hstep, keys_insert, ih, keys_append, List.eraseDups_append]
      by_cases hc : e.1 ∈ keys xs
      · simp [hmem, hc, List.removeAll]
      · simp [hmem, hc, List.removeAll, List.eraseDups_cons]

end EventRouting.Entries
