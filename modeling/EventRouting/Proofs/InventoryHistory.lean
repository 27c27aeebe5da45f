import EventRouting.Proofs.QueryHistory
import EventRouting.Proofs.RoleGrant
import Mathlib.Data.Finset.Card
import Mathlib.Logic.Function.Basic

/-!
# Histories of inventories

An inventory comes about by inserting resources and by granting. Seen from outside it is a row of
names and what each of them holds: an insertion writes one name, which stands at the end if it is
new, and a grant writes one name that is there. What is seen of an inventory is what the same calls
make of such a row, however they follow each other. The document is written name by name in the same
order, and no entry of it makes way for another.
-/

namespace EventRouting

/-- What is seen of an inventory: its names in order, and the resource that each name holds. -/
@[ext] structure InventoryView where
  names : List String
  held : String → Option Resource

namespace InventoryView

/-- The view of nothing. -/
def nothing : InventoryView :=
  ⟨[], fun _ => none⟩

/-- Lets a name hold a resource. A new name stands behind all others. -/
def write (v : InventoryView) (name : String) (r : Resource) : InventoryView where
  names := if name ∈ v.names then v.names else v.names ++ [name]
  held := Function.update v.held name (some r)

/-- Writes a row of resources, one after the other. -/
def writeAll (v : InventoryView) (row : List (String × Resource)) : InventoryView :=
  row.foldl (fun v e => v.write e.1 e.2) v

/-- Grants destinations to what a name holds. -/
def grant (v : InventoryView) (name : String) (destinations : List String) : InventoryView where
  names := v.names
  held := Function.update v.held name
    ((v.held name).map (Inventory.grantResource destinations))

variable {v : InventoryView} {given : List (String × Resource)}

theorem names_write (h : v.names = (Entries.keys given).eraseDups) (name : String)
    (r : Resource) :
    (v.write name r).names = (Entries.keys (given ++ [(name, r)])).eraseDups := by
  have hmem : name ∈ v.names ↔ name ∈ Entries.keys given := by rw [h, List.mem_eraseDups]
  rw [Entries.keys_append, List.eraseDups_append, ← h, write]
  by_cases hname : name ∈ v.names
  · have hremoved : [name].removeAll (Entries.keys given) = [] := by
      simp [List.removeAll, hmem.mp hname]
    rw [if_pos hname, Entries.keys, List.map_singleton, hremoved, List.eraseDups_nil,
      List.append_nil]
  · have hremoved : [name].removeAll (Entries.keys given) = [name] := by
      simp [List.removeAll, mt hmem.mpr hname]
    rw [if_neg hname, Entries.keys, List.map_singleton, hremoved, List.eraseDups_cons]
    rfl

/-- Names stand in the order in which they were first given. -/
theorem names_writeAll (h : v.names = (Entries.keys given).eraseDups)
    (row : List (String × Resource)) :
    (v.writeAll row).names = (Entries.keys (given ++ row)).eraseDups := by
  induction row generalizing v given with
  | nil => simpa [writeAll] using h
  | cons e rest ih =>
      have hrow : given ++ e :: rest = (given ++ [(e.1, e.2)]) ++ rest := by simp
      rw [hrow]
      exact ih (names_write h e.1 e.2)

end InventoryView

namespace Inventory

/-- What is seen of the inventory. -/
def view (m : Inventory) : InventoryView :=
  ⟨m.names, m.get?⟩

/-- The inventory after a row of insertions. -/
def insertAll (m : Inventory) (row : List (String × Resource)) : Inventory :=
  row.foldl (fun m e => (m.exchange e.1 e.2).1) m

theorem get?_exchange (m : Inventory) (name : String) (r : Resource) (other : String) :
    (m.exchange name r).1.get? other = if other = name then some r else m.get? other := by
  rw [OrderedMap.exchange_eq]
  by_cases h : other = name
  · rw [if_pos h, h, OrderedMap.get?_insert_self]
  · rw [if_neg h, OrderedMap.get?_insert_of_ne m h]

theorem names_exchange (m : Inventory) (name : String) (r : Resource) :
    (m.exchange name r).1.names = m.names ++ if name ∈ m.names then [] else [name] := by
  rw [OrderedMap.exchange_eq, OrderedMap.names_insert]
  by_cases h : name ∈ m.names
  · rw [if_pos (OrderedMap.mem_names_iff.mp h), if_pos h, List.append_nil]
  · rw [if_neg (mt OrderedMap.mem_names_iff.mpr h), if_neg h]

theorem view_exchange (m : Inventory) (name : String) (r : Resource) :
    view (m.exchange name r).1 = m.view.write name r := by
  apply InventoryView.ext
  · rw [view, names_exchange, InventoryView.write, view]
    by_cases h : name ∈ m.names
    · rw [if_pos h, if_pos h, List.append_nil]
    · rw [if_neg h, if_neg h]
  · funext other
    change (m.exchange name r).1.get? other = Function.update m.get? name (some r) other
    rw [get?_exchange, Function.update_apply]

theorem view_insertAll (m : Inventory) (row : List (String × Resource)) :
    (m.insertAll row).view = m.view.writeAll row := by
  induction row generalizing m with
  | nil => rfl
  | cons e rest ih =>
      have hstep := ih (m.exchange e.1 e.2).1
      rw [view_exchange] at hstep
      exact hstep

theorem view_grantInvoke (m : Inventory) (name : String) (destinations : List String) :
    (m.grantInvoke name destinations).1.view = m.view.grant name destinations := by
  rw [grantInvoke_eq]
  apply InventoryView.ext
  · exact m.names_grant name destinations
  · funext other
    change (m.grant name destinations).get? other =
      Function.update m.get? name ((m.get? name).map (grantResource destinations)) other
    rw [get?_grant, Function.update_apply]
    by_cases h : other = name
    · simp [h]
    · simp [h]

/-- An inventory made of a row holds what is inserted into an empty one. -/
theorem ofList_eq_insertAll (row : List (String × Resource)) :
    OrderedMap.ofList row = insertAll .empty row := by
  simp only [OrderedMap.ofList, insertAll, OrderedMap.exchange_eq]

theorem view_shared (p : Policy) :
    (shared p).view = InventoryView.nothing.writeAll p.sharedResources := by
  have hshared : shared p = insertAll .empty p.sharedResources :=
    ofList_eq_insertAll p.sharedResources
  rw [hshared, view_insertAll]
  rfl

/-- Written one after the other, the entries of the document stay apart. -/
theorem overlay_document (m : Inventory) : Mapping.overlay [] m.document = m.document := by
  have hnew : ∀ k ∈ Entries.keys m.document, Entries.contains k ([] : Mapping) = false :=
    fun _ _ => rfl
  rw [Mapping.overlay, Entries.overlay_eq_append (fun _ he => exact_of_mem_document he)
    m.nodup_keys_document hnew, List.nil_append]

end Inventory

/-- How an inventory came about. -/
inductive InventoryHistory
  | new
  | shared (p : Policy)
  | insert (earlier : InventoryHistory) (name : String) (r : Resource)
  | synthesize (earlier : InventoryHistory) (e : Endpoint) (p : Policy)
  | grant (earlier : InventoryHistory) (name : String) (destinations : List String)

namespace InventoryHistory

/-- The inventory with this history. -/
def inventory : InventoryHistory → Inventory
  | new => .empty
  | shared p => .shared p
  | insert earlier name r => (earlier.inventory.exchange name r).1
  | synthesize earlier e p => earlier.inventory.insertAll (e.resources p)
  | grant earlier name destinations => (earlier.inventory.grantInvoke name destinations).1

/-- What the calls of the history make of a row of names. -/
def view : InventoryHistory → InventoryView
  | new => .nothing
  | shared p => InventoryView.nothing.writeAll p.sharedResources
  | insert earlier name r => earlier.view.write name r
  | synthesize earlier e p => earlier.view.writeAll (e.resources p)
  | grant earlier name destinations => earlier.view.grant name destinations

/-- All resources that were inserted, one after the other. -/
def inserted : InventoryHistory → List (String × Resource)
  | new => []
  | shared p => p.sharedResources
  | insert earlier name r => earlier.inserted ++ [(name, r)]
  | synthesize earlier e p => earlier.inserted ++ e.resources p
  | grant earlier _ _ => earlier.inserted

/-- Each call does to an inventory what it does to the view of it. -/
theorem view_inventory (h : InventoryHistory) : h.inventory.view = h.view := by
  induction h with
  | new => rfl
  | shared p => exact Inventory.view_shared p
  | insert earlier name r ih => rw [inventory, view, Inventory.view_exchange, ih]
  | synthesize earlier e p ih => rw [inventory, view, Inventory.view_insertAll, ih]
  | grant earlier name destinations ih =>
      rw [inventory, view, Inventory.view_grantInvoke, ih]

theorem names_view (h : InventoryHistory) :
    h.view.names = (Entries.keys h.inserted).eraseDups := by
  induction h with
  | new => rfl
  | shared p => exact @InventoryView.names_writeAll .nothing [] rfl p.sharedResources
  | insert earlier name r ih => exact InventoryView.names_write ih name r
  | synthesize earlier e p ih => exact InventoryView.names_writeAll ih (e.resources p)
  | grant earlier name destinations ih => exact ih

/-- Names stand in the order of their first insertion. -/
theorem names_inventory (h : InventoryHistory) :
    h.inventory.names = (Entries.keys h.inserted).eraseDups :=
  (congrArg InventoryView.names h.view_inventory).trans h.names_view

theorem size_inventory (h : InventoryHistory) :
    h.inventory.size = (Entries.keys h.inserted).toFinset.card := by
  have hset : h.inventory.names.toFinset = (Entries.keys h.inserted).toFinset := by
    ext name
    rw [List.mem_toFinset, names_inventory, List.mem_eraseDups, List.mem_toFinset]
  calc h.inventory.size
      = h.inventory.names.length := (List.length_map _).symm
    _ = h.inventory.names.toFinset.card := (List.toFinset_card_of_nodup h.inventory.nodup).symm
    _ = (Entries.keys h.inserted).toFinset.card := by rw [hset]

/-- No inventory is without a history. -/
theorem exists_inventory (m : Inventory) : ∃ h : InventoryHistory, h.inventory = m := by
  suffices hrow : ∀ row, ∃ h : InventoryHistory, h.inventory = OrderedMap.ofList row by
    obtain ⟨h, hm⟩ := hrow m.entries
    exact ⟨h, hm.trans m.ofList_entries⟩
  intro row
  induction row using List.reverseRecOn with
  | nil => exact ⟨new, rfl⟩
  | append_singleton row e ih =>
      obtain ⟨h, hm⟩ := ih
      refine ⟨h.insert e.1 e.2, ?_⟩
      rw [inventory, hm, OrderedMap.exchange_eq]
      exact (OrderedMap.ofList_concat row e.1 e.2).symm

end InventoryHistory

/-- However an inventory came about, what is seen of it is what the calls make of a row of names:
its names are those that were inserted, each once and in the order in which they came first. An
insertion hands out what the name held before, writes this name and no other, and moves no name. The
document has the names in their order, each with the document of what it holds, and it is the same
if its entries are written one after the other. -/
theorem inventory_of_history :
    (∀ h : InventoryHistory, h.inventory.view = h.view ∧ h.inventory.names.Nodup ∧
      h.inventory.names = (Entries.keys h.inserted).eraseDups ∧
      h.inventory.size = (Entries.keys h.inserted).toFinset.card) ∧
    (∀ m : Inventory, ∃ h : InventoryHistory, h.inventory = m) ∧
    ∀ m : Inventory,
      (∀ name r, (m.exchange name r).2 = m.get? name ∧
        (∀ other, (m.exchange name r).1.get? other =
          if other = name then some r else m.get? other) ∧
        (m.exchange name r).1.names = m.names ++ if name ∈ m.names then [] else [name]) ∧
      (∀ name, m.contains name = true ↔ name ∈ m.names) ∧
      Mapping.overlay [] m.document = m.document ∧
      Entries.keys m.document = m.names.map .string ∧
      ∀ name, Entries.get? (.string name) m.document = (m.get? name).map Resource.document := by
  refine ⟨fun h => ⟨h.view_inventory, h.inventory.nodup, h.names_inventory, h.size_inventory⟩,
    InventoryHistory.exists_inventory, fun m => ⟨fun name r => ⟨?_, ?_, ?_⟩, fun name => ?_, ?_⟩⟩
  · rw [OrderedMap.exchange_eq]
  · exact m.get?_exchange name r
  · exact m.names_exchange name r
  · exact OrderedMap.mem_names_iff.symm
  · exact ⟨m.overlay_document, m.keys_document, m.get?_document⟩

/-- A policy that has one name for two shared resources leaves two of three, and the connection
takes the place of the role. -/
example :
    (InventoryHistory.shared { roleName := "Both", connectionName := "Both" }
      |>.insert "Late" .queue |>.grant "Both" ["Late"]).inventory.names =
      ["Both", "FailedDeliveryDLQ", "Late"] := by
  decide +kernel

end EventRouting
