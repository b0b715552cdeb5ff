import Mathlib.Data.List.AList

/-! Finite maps whose iteration order carries no meaning, over Mathlib's
association lists. The entry list is one possible iteration order; `Reorders`
relates two maps with the same bindings in different orders. -/

set_option autoImplicit false

namespace CppMMO.Lib

/-- A finite map that is iterated in an unspecified order. -/
def UnorderedMap (κ α : Type) : Type := AList fun _ : κ => α

namespace UnorderedMap

variable {κ α : Type}

instance [DecidableEq κ] [DecidableEq α] : DecidableEq (UnorderedMap κ α) :=
  inferInstanceAs (DecidableEq (AList fun _ : κ => α))

def empty : UnorderedMap κ α := (∅ : AList fun _ : κ => α)

def keys (map : UnorderedMap κ α) : List κ := AList.keys map

theorem keys_nodup (map : UnorderedMap κ α) : map.keys.Nodup := AList.keys_nodup map

def toList (map : UnorderedMap κ α) : List (κ × α) :=
  (AList.entries map).map fun entry => (entry.1, entry.2)

theorem map_fst_toList (map : UnorderedMap κ α) : map.toList.map Prod.fst = map.keys := by
  simp only [toList, List.map_map]
  rfl

variable [DecidableEq κ]

def find? (map : UnorderedMap κ α) (key : κ) : Option α := AList.lookup key map

def assign (map : UnorderedMap κ α) (key : κ) (value : α) : UnorderedMap κ α :=
  AList.insert key value map

def erase (map : UnorderedMap κ α) (key : κ) : UnorderedMap κ α := AList.erase key map

/-- Update a binding through a reference; an absent key is left absent. -/
def modify (map : UnorderedMap κ α) (key : κ) (update : α → α) : UnorderedMap κ α :=
  match map.find? key with
  | none => map
  | some value => map.assign key (update value)

/-- Read a key the way an inserting subscript does: an absent key is first bound
to the default value. -/
def subscript (map : UnorderedMap κ α) (key : κ) (default : α) : UnorderedMap κ α × α :=
  match map.find? key with
  | none => (map.assign key default, default)
  | some value => (map, value)

/-- The same bindings in another iteration order. -/
def Reorders (map other : UnorderedMap κ α) : Prop :=
  (AList.entries map).Perm (AList.entries other)

instance [DecidableEq α] (map other : UnorderedMap κ α) : Decidable (map.Reorders other) :=
  inferInstanceAs (Decidable (List.Perm _ _))

@[simp] theorem find?_empty (key : κ) : (empty : UnorderedMap κ α).find? key = none :=
  AList.lookup_empty key

@[simp] theorem find?_assign_self (map : UnorderedMap κ α) (key : κ) (value : α) :
    (map.assign key value).find? key = some value :=
  AList.lookup_insert (β := fun _ => α) map

theorem find?_assign_of_ne (map : UnorderedMap κ α) {key other : κ} (value : α)
    (different : other ≠ key) : (map.assign key value).find? other = map.find? other :=
  AList.lookup_insert_ne (β := fun _ => α) different

theorem find?_assign (map : UnorderedMap κ α) (key other : κ) (value : α) :
    (map.assign key value).find? other = if other = key then some value else map.find? other := by
  split
  · next same => subst same; exact find?_assign_self map other value
  · next different => exact find?_assign_of_ne map value different

@[simp] theorem find?_erase_self (map : UnorderedMap κ α) (key : κ) :
    (map.erase key).find? key = none :=
  AList.lookup_erase (β := fun _ => α) key map

theorem find?_erase_of_ne (map : UnorderedMap κ α) {key other : κ} (different : other ≠ key) :
    (map.erase key).find? other = map.find? other :=
  AList.lookup_erase_ne (β := fun _ => α) different

theorem find?_erase (map : UnorderedMap κ α) (key other : κ) :
    (map.erase key).find? other = if other = key then none else map.find? other := by
  split
  · next same => subst same; exact find?_erase_self map other
  · next different => exact find?_erase_of_ne map different

theorem find?_modify (map : UnorderedMap κ α) (key other : κ) (update : α → α) :
    (map.modify key update).find? other =
      if other = key then (map.find? key).map update else map.find? other := by
  cases found : map.find? key with
  | none =>
      simp only [modify, found, Option.map_none]
      split
      · next same => rw [same, found]
      · rfl
  | some value => simp only [modify, found, find?_assign, Option.map_some]

theorem modify_of_find?_eq_none {map : UnorderedMap κ α} {key : κ} (update : α → α)
    (absent : map.find? key = none) : map.modify key update = map := by
  simp only [modify, absent]

theorem subscript_of_find?_eq_some {map : UnorderedMap κ α} {key : κ} {value : α}
    (default : α) (found : map.find? key = some value) :
    map.subscript key default = (map, value) := by
  simp only [subscript, found]

theorem mem_keys_iff_isSome (map : UnorderedMap κ α) (key : κ) :
    key ∈ map.keys ↔ (map.find? key).isSome :=
  AList.lookup_isSome.symm

theorem find?_eq_none_of_not_mem_keys {map : UnorderedMap κ α} {key : κ}
    (absent : key ∉ map.keys) : map.find? key = none := by
  rw [mem_keys_iff_isSome] at absent
  simpa using absent

theorem mem_keys_of_find? {map : UnorderedMap κ α} {key : κ} {value : α}
    (found : map.find? key = some value) : key ∈ map.keys := by
  rw [mem_keys_iff_isSome, found]
  rfl

theorem mem_toList_iff (map : UnorderedMap κ α) (key : κ) (value : α) :
    (key, value) ∈ map.toList ↔ map.find? key = some value := by
  have listed : (⟨key, value⟩ : Sigma fun _ : κ => α) ∈ AList.entries map ↔
      map.find? key = some value := AList.mem_lookup_iff.symm
  rw [← listed]
  simp only [toList, List.mem_map, Prod.mk.injEq]
  constructor
  · rintro ⟨entry, member, rfl, rfl⟩
    exact member
  · exact fun member => ⟨_, member, rfl, rfl⟩

theorem countP_toList_modify (map : UnorderedMap κ α) (key : κ) (update : α → α)
    (property : κ × α → Bool) (ignored : ∀ value, property (key, value) = false) :
    (map.modify key update).toList.countP property = map.toList.countP property := by
  cases found : map.find? key with
  | none => rw [modify_of_find?_eq_none update found]
  | some value =>
      obtain ⟨old, front, back, -, entries, erased⟩ :=
        List.exists_of_kerase (mem_keys_of_find? found)
      have assigned : (map.modify key update).toList =
          (key, update value) :: (front ++ back).map fun entry => (entry.1, entry.2) := by
        simp only [modify, found, ← erased]
        rfl
      rw [assigned, toList, entries]
      simp [ignored]

theorem Reorders.find?_eq {map other : UnorderedMap κ α} (reordered : map.Reorders other)
    (key : κ) : other.find? key = map.find? key :=
  (AList.perm_lookup reordered).symm

end UnorderedMap

end CppMMO.Lib
