/-
  TfScale.Lib.HashMap

  Finite maps with the operations of `std::collections::HashMap`.

  A map is Mathlib's `AList`, a list of entries with distinct keys; nothing here
  depends on the order of the entries.  `ofPairs` is `Iterator::collect` (a
  later pair overrides an earlier one), `modify` is `get_mut` followed by a
  write, `upsert` is `entry(..).or_default()` followed by a write, and
  `mapValues` is a loop over `values_mut`.
-/

import Mathlib.Data.List.AList
import Mathlib.Data.List.Induction

namespace TfScale

/-- A finite map from `κ` to `α`. -/
abbrev HashMap (κ α : Type) := AList fun _ : κ => α

namespace HashMap

variable {κ α β : Type} [DecidableEq κ]

/-- Apply `g` to every entry, keeping the keys. -/
def mapEntries (m : HashMap κ α) (g : κ → α → α) : HashMap κ α :=
  ⟨m.entries.map fun e => ⟨e.1, g e.1 e.2⟩, by
    have hkeys : (m.entries.map fun e => (⟨e.1, g e.1 e.2⟩ : Sigma fun _ : κ => α)).keys
        = m.entries.keys := by simp [List.keys]
    rw [List.NodupKeys, hkeys]
    exact m.keys_nodup⟩

/-- Apply `f` to every value (`values_mut`). -/
def mapValues (m : HashMap κ α) (f : α → α) : HashMap κ α := m.mapEntries fun _ => f

/-- Apply `f` to the value stored under `k`, if any (`get_mut`). -/
def modify (m : HashMap κ α) (k : κ) (f : α → α) : HashMap κ α :=
  m.mapEntries fun k' v => if k' = k then f v else v

/-- Apply `f` to the value stored under `k`, inserting `d` first if there is
    none (`entry(..).or_insert(d)`). -/
def upsert (m : HashMap κ α) (k : κ) (d : α) (f : α → α) : HashMap κ α :=
  m.insert k (f ((m.lookup k).getD d))

/-- The map that a list of pairs collects into. -/
def ofPairs (l : List (κ × α)) : HashMap κ α :=
  l.foldl (fun m p => m.insert p.1 p.2) ∅

/-- The stored values, in no particular order (`values`). -/
def values (m : HashMap κ α) : List α := m.entries.map fun e => e.2

/-- The number of entries (`len`). -/
def size (m : HashMap κ α) : Nat := m.entries.length

theorem lookup_insert_eq (m : HashMap κ α) (k k' : κ) (v : α) :
    (m.insert k v).lookup k' = if k' = k then some v else m.lookup k' := by
  split
  · rename_i h
    subst h
    exact AList.lookup_insert m
  · rename_i h
    exact AList.lookup_insert_ne h

theorem lookup_erase_eq (m : HashMap κ α) (k k' : κ) :
    (m.erase k).lookup k' = if k' = k then none else m.lookup k' := by
  split
  · rename_i h
    subst h
    exact AList.lookup_erase k' m
  · rename_i h
    exact AList.lookup_erase_ne h

theorem lookup_mapEntries (m : HashMap κ α) (g : κ → α → α) (k : κ) :
    (m.mapEntries g).lookup k = (m.lookup k).map (g k) := by
  obtain ⟨l, hl⟩ := m
  simp only [mapEntries, AList.lookup]
  clear hl
  induction l with
  | nil => rfl
  | cons e l ih =>
      obtain ⟨k', v⟩ := e
      by_cases h : k = k'
      · subst h
        simp
      · rw [List.map_cons, List.dlookup_cons_ne _ _ (by simpa using h),
          List.dlookup_cons_ne _ _ (by simpa using h), ih]

theorem lookup_modify (m : HashMap κ α) (k k' : κ) (f : α → α) :
    (m.modify k f).lookup k' = if k' = k then (m.lookup k).map f else m.lookup k' := by
  rw [modify, lookup_mapEntries]
  split
  · rename_i h
    rw [h]
  · cases m.lookup k' with
    | none => rfl
    | some v => rfl

theorem lookup_upsert (m : HashMap κ α) (k k' : κ) (d : α) (f : α → α) :
    (m.upsert k d f).lookup k' = if k' = k then some (f ((m.lookup k).getD d)) else m.lookup k' :=
  lookup_insert_eq m k k' _

/-- The keys of a collected map are those of the pairs. -/
theorem mem_ofPairs {l : List (κ × α)} {k : κ} : k ∈ ofPairs l ↔ k ∈ l.map Prod.fst := by
  induction l using List.reverseRecOn with
  | nil => simp [ofPairs]
  | append_singleton l p ih =>
      rw [ofPairs, List.foldl_append]
      show k ∈ (ofPairs l).insert p.1 p.2 ↔ _
      rw [AList.mem_insert, ih, List.map_append, List.mem_append, or_comm]
      simp

/-- What a collected map holds is one of the pairs. -/
theorem mem_of_lookup_ofPairs {l : List (κ × α)} {k : κ} {v : α}
    (h : (ofPairs l).lookup k = some v) : (k, v) ∈ l := by
  induction l using List.reverseRecOn with
  | nil => cases h
  | append_singleton l p ih =>
      rw [ofPairs, List.foldl_append] at h
      change ((ofPairs l).insert p.1 p.2).lookup k = some v at h
      rw [lookup_insert_eq] at h
      split at h
      · rename_i hk
        obtain rfl := Option.some.inj h
        rw [hk]
        exact List.mem_append_right _ (List.mem_singleton.mpr rfl)
      · exact List.mem_append_left _ (ih h)

/-- Pairs with distinct keys are all in the map they collect into. -/
theorem lookup_ofPairs_of_mem {l : List (κ × α)} {k : κ} {v : α} (hkeys : (l.map Prod.fst).Nodup)
    (h : (k, v) ∈ l) : (ofPairs l).lookup k = some v := by
  induction l using List.reverseRecOn with
  | nil => cases h
  | append_singleton l p ih =>
      rw [List.map_append, List.nodup_append] at hkeys
      rw [ofPairs, List.foldl_append]
      show ((ofPairs l).insert p.1 p.2).lookup k = some v
      rw [lookup_insert_eq]
      rcases List.mem_append.mp h with hmem | hlast
      · have hne : k ≠ p.1 := hkeys.2.2 k (List.mem_map.mpr ⟨(k, v), hmem, rfl⟩) p.1 (List.mem_singleton.mpr rfl)
        rw [if_neg hne]
        exact ih hkeys.1 hmem
      · obtain rfl := List.mem_singleton.mp hlast
        rw [if_pos rfl]

/-- A write that changes nothing. -/
theorem modify_eq_self {m : HashMap κ α} {k : κ} {f : α → α} (h : ∀ v, m.lookup k = some v → f v = v) :
    m.modify k f = m := by
  apply AList.ext
  show m.entries.map _ = m.entries
  conv_rhs => rw [← List.map_id m.entries]
  refine List.map_congr_left fun e he => ?_
  obtain ⟨k', v⟩ := e
  by_cases hk : k' = k
  · subst hk
    have hv : m.lookup k' = some v := List.mem_dlookup m.nodupKeys he
    simp [h v hv]
  · simp [hk]

end HashMap

end TfScale
