/-!
# Insertion-ordered entries

A list of key and value pairs read as a finite map: the first entry of a key is the one that
counts, a new key goes to the end, and writing an old key replaces its value where it stands.
-/

namespace EventRouting.Entries

variable {κ β : Type} [BEq κ]

/-- The value of the first entry whose key equals `k`. -/
def get? (k : κ) : List (κ × β) → Option β
  | [] => none
  | (k', v) :: rest => if k' == k then some v else get? k rest

/-- Whether some entry has the key `k`. -/
def contains (k : κ) (entries : List (κ × β)) : Bool :=
  (get? k entries).isSome

/-- The keys in order. -/
def keys (entries : List (κ × β)) : List κ :=
  entries.map Prod.fst

/-- Replaces the value of an old key where it stands; appends a new one. -/
def insert (k : κ) (v : β) : List (κ × β) → List (κ × β)
  | [] => [(k, v)]
  | (k', v') :: rest => if k' == k then (k', v) :: rest else (k', v') :: insert k v rest

/-- Writes like `insert`, and hands out the value that had to make way. -/
def exchange (k : κ) (v : β) : List (κ × β) → List (κ × β) × Option β
  | [] => ([(k, v)], none)
  | (k', v') :: rest =>
      if k' == k then ((k', v) :: rest, some v')
      else
        let (written, old) := exchange k v rest
        ((k', v') :: written, old)

/-- Changes the value of the first entry of `k`, if there is one. -/
def modify (k : κ) (f : β → β) : List (κ × β) → List (κ × β)
  | [] => []
  | (k', v) :: rest => if k' == k then (k', f v) :: rest else (k', v) :: modify k f rest

/-- Writes the entries of `top` into `base`, one after the other. -/
def overlay (base top : List (κ × β)) : List (κ × β) :=
  top.foldl (fun acc e => insert e.1 e.2 acc) base

@[simp] theorem get?_nil (k : κ) : get? k ([] : List (κ × β)) = none := rfl

omit [BEq κ] in
@[simp] theorem keys_nil : keys ([] : List (κ × β)) = [] := rfl

omit [BEq κ] in
@[simp] theorem keys_cons (e : κ × β) (entries : List (κ × β)) :
    keys (e :: entries) = e.1 :: keys entries := rfl

theorem get?_eq_none_iff {k : κ} {entries : List (κ × β)} :
    get? k entries = none ↔ ∀ k' ∈ keys entries, (k' == k) = false := by
  induction entries with
  | nil => simp
  | cons e rest ih =>
      obtain ⟨k', v⟩ := e
      by_cases h : k' == k <;> simp [get?, h, ih]

/-- Writing keeps the keys and their order; only a new key is added, at the end. -/
theorem keys_insert (k : κ) (v : β) (entries : List (κ × β)) :
    keys (insert k v entries) =
      if contains k entries then keys entries else keys entries ++ [k] := by
  induction entries with
  | nil => simp [insert, contains]
  | cons e rest ih =>
      obtain ⟨k', v'⟩ := e
      by_cases h : k' == k
      · simp [insert, contains, get?, h]
      · simp only [insert, h, contains, get?, keys_cons]
        simp only [contains] at ih
        simp only [Bool.false_eq_true, ↓reduceIte, keys_cons, ih]
        split <;> simp_all

theorem keys_modify (k : κ) (f : β → β) (entries : List (κ × β)) :
    keys (modify k f entries) = keys entries := by
  induction entries with
  | nil => rfl
  | cons e rest ih =>
      obtain ⟨k', v⟩ := e
      by_cases h : k' == k <;> simp [modify, h, ih]

/-- Changing a value that is there. -/
theorem get?_modify_self (k : κ) (f : β → β) (entries : List (κ × β)) :
    get? k (modify k f entries) = (get? k entries).map f := by
  induction entries with
  | nil => rfl
  | cons e rest ih =>
      obtain ⟨k', v⟩ := e
      by_cases h : k' == k <;> simp [modify, get?, h, ih]

/-- A value that a change leaves as it is may be left alone. -/
theorem modify_eq_self {k : κ} {f : β → β} {entries : List (κ × β)}
    (h : ∀ v, get? k entries = some v → f v = v) : modify k f entries = entries := by
  induction entries with
  | nil => rfl
  | cons e rest ih =>
      obtain ⟨k', v⟩ := e
      by_cases hk : k' == k
      · have hv : f v = v := h v (by simp [get?, hk])
        simp [modify, hk, hv]
      · have hrest : modify k f rest = rest := ih fun w hw => h w (by simpa [get?, hk] using hw)
        simp [modify, hk, hrest]

/-- What had to make way is what was read before. -/
theorem exchange_eq (k : κ) (v : β) (entries : List (κ × β)) :
    exchange k v entries = (insert k v entries, get? k entries) := by
  induction entries with
  | nil => rfl
  | cons e rest ih =>
      obtain ⟨k', v'⟩ := e
      by_cases h : k' == k <;> simp [exchange, insert, get?, h, ih]

@[simp] theorem overlay_nil (base : List (κ × β)) : overlay base [] = base := rfl

@[simp] theorem overlay_cons (base : List (κ × β)) (e : κ × β) (top : List (κ × β)) :
    overlay base (e :: top) = overlay (insert e.1 e.2 base) top := rfl

/-- A key that is the same as no key but itself. -/
class Exact (k : κ) : Prop where
  same_iff : ∀ j, (j == k) = true ↔ j = k
  iff_same : ∀ j, (k == j) = true ↔ k = j

instance [LawfulBEq κ] (k : κ) : Exact k :=
  ⟨fun _ => beq_iff_eq, fun _ => beq_iff_eq⟩

/-- A write is seen under its own key and nowhere else. -/
theorem get?_insert (k : κ) [Exact k] (v : β) (entries : List (κ × β)) (j : κ) :
    get? j (insert k v entries) = if k == j then some v else get? j entries := by
  induction entries with
  | nil => simp [insert, get?]
  | cons e rest ih =>
      obtain ⟨k', v'⟩ := e
      by_cases h : k' == k
      · obtain rfl := (Exact.same_iff k').mp h
        simp only [insert, h, ↓reduceIte, get?]
        split <;> rfl
      · simp only [insert, h, Bool.false_eq_true, ↓reduceIte, get?, ih]
        by_cases hj : k == j
        · obtain rfl := (Exact.iff_same j).mp hj
          simp [h, hj]
        · simp [hj]

/-- A key reads back what was last written to it. -/
@[simp] theorem get?_insert_self (k : κ) [Exact k] (v : β) (entries : List (κ × β)) :
    get? k (insert k v entries) = some v := by
  rw [get?_insert, if_pos ((Exact.same_iff k).mpr rfl)]

/-- Writing one key leaves every other key alone. -/
theorem get?_insert_of_ne {k j : κ} [Exact k] (h : j ≠ k) (v : β) (entries : List (κ × β)) :
    get? j (insert k v entries) = get? j entries := by
  rw [get?_insert, if_neg fun hk => h ((Exact.iff_same j).mp hk).symm]

/-- Changing the value of one key leaves every other key alone. -/
theorem get?_modify_of_ne {k j : κ} [Exact k] (h : j ≠ k) (f : β → β)
    (entries : List (κ × β)) : get? j (modify k f entries) = get? j entries := by
  induction entries with
  | nil => rfl
  | cons e rest ih =>
      obtain ⟨k', v⟩ := e
      by_cases hk : k' == k
      · obtain rfl := (Exact.same_iff k').mp hk
        have hj : (k' == j) = false :=
          Bool.eq_false_iff.mpr fun hj => h ((Exact.iff_same j).mp hj).symm
        simp [modify, get?, hk, hj]
      · simp [modify, get?, hk, ih]

theorem mem_keys_iff {k : κ} [Exact k] {entries : List (κ × β)} :
    k ∈ keys entries ↔ contains k entries = true := by
  rw [contains, ← Option.ne_none_iff_isSome, ne_eq, get?_eq_none_iff]
  simp [Bool.eq_false_iff, Exact.same_iff]

/-- Writing keeps the keys distinct. -/
theorem nodup_keys_insert {entries : List (κ × β)} (h : (keys entries).Nodup) (k : κ) [Exact k]
    (v : β) : (keys (insert k v entries)).Nodup := by
  rw [keys_insert]
  split
  · exact h
  · next hk =>
    rw [← mem_keys_iff] at hk
    rw [List.nodup_append]
    refine ⟨h, by simp, ?_⟩
    intro a ha b hb
    simp only [List.mem_singleton] at hb
    rintro rfl
    exact hk (hb ▸ ha)

end EventRouting.Entries
