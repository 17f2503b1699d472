/-
  TfScale.Lib.Table

  Tables of a relational database with uniqueness constraints.

  A table is a list of rows in the order of their insertion, no two of which
  `clash`: a schema says which pairs of rows its PRIMARY KEY, UNIQUE and unique
  index declarations exclude.  The statements are

    * `insert`     — `INSERT`, refused when a stored row clashes with the new one,
    * `update`     — `UPDATE` of columns that no constraint is about,
    * `tryUpdate`  — `UPDATE` of any columns, refused when two rows would clash,
    * `upsert`     — `INSERT … ON CONFLICT (target) DO UPDATE`,
    * `delete`     — `DELETE`.

  `select` is `SELECT … WHERE … ORDER BY …`; what it returns depends only on the
  columns it names (`select_congr`).  `total w` sums a weight over the rows, and the `total_…` lemmas say how each
  statement moves such a sum.
-/

import Mathlib.Algebra.Order.BigOperators.Group.List
import Mathlib.Algebra.Order.Ring.Nat
import Mathlib.Data.List.Pairwise
import Mathlib.Data.List.Sort

namespace TfScale

/-- The uniqueness constraints of a table: `clash r s` when `r` and `s` cannot
    both be stored. -/
class Schema (ρ : Type*) where
  clash : ρ → ρ → Bool
  clash_comm : ∀ r s, clash r s = clash s r

/-- The stored rows, oldest first. -/
structure Table (ρ : Type*) [Schema ρ] where
  rows : List ρ
  unique : rows.Pairwise fun r s => Schema.clash r s = false

namespace Table

/-- The rows after `UPDATE … SET f WHERE p`. -/
def updated {ρ : Type*} (rows : List ρ) (p : ρ → Bool) (f : ρ → ρ) : List ρ :=
  rows.map fun r => if p r then f r else r

theorem forall_updated {ρ : Type*} {rows : List ρ} {p : ρ → Bool} {f : ρ → ρ} {P : ρ → Prop}
    (hf : ∀ r ∈ rows, p r = true → P (f r))
    (hall : ∀ r ∈ rows, P r) : ∀ r ∈ updated rows p f, P r := by
  intro r hr
  obtain ⟨s, hs, rfl⟩ := List.mem_map.mp hr
  split
  · rename_i hp
    exact hf s hs hp
  · exact hall s hs

variable {ρ : Type*} [Schema ρ] {t t' : Table ρ} {p target : ρ → Bool} {f : ρ → ρ} {row : ρ}

def empty : Table ρ := ⟨[], .nil⟩

@[ext] theorem ext (h : t.rows = t'.rows) : t = t' := by
  cases t
  cases t'
  subst h
  rfl

-- ============================================================================
-- Statements
-- ============================================================================

/-- The write does not touch what the constraints are about. -/
def KeepsKeys (f : ρ → ρ) : Prop := ∀ r s, Schema.clash (f r) s = Schema.clash r s

theorem KeepsKeys.right (hf : KeepsKeys f) (r s : ρ) : Schema.clash r (f s) = Schema.clash r s := by
  rw [Schema.clash_comm r, hf, Schema.clash_comm s]

/-- `INSERT` -/
def insert (t : Table ρ) (row : ρ) : Option (Table ρ) :=
  if h : ∀ r ∈ t.rows, Schema.clash r row = false then
    some ⟨t.rows ++ [row], List.pairwise_append.mpr ⟨t.unique, List.pairwise_singleton _ _,
      fun r hr s hs => by rw [List.mem_singleton.mp hs]; exact h r hr⟩⟩
  else none

/-- `UPDATE`, of columns without constraints -/
def update (t : Table ρ) (p : ρ → Bool) (f : ρ → ρ) (hf : KeepsKeys f) : Table ρ :=
  ⟨updated t.rows p f, by
    refine List.pairwise_map.mpr (t.unique.imp fun {r s} h => ?_)
    split <;> split <;> simp only [hf r, hf.right, h]⟩

/-- `UPDATE` -/
def tryUpdate (t : Table ρ) (p : ρ → Bool) (f : ρ → ρ) : Option (Table ρ) :=
  if h : (updated t.rows p f).Pairwise fun r s => Schema.clash r s = false then
    some ⟨updated t.rows p f, h⟩
  else none

/-- `INSERT … ON CONFLICT (target) DO UPDATE SET f` -/
def upsert (t : Table ρ) (target : ρ → Bool) (row : ρ) (f : ρ → ρ) : Option (Table ρ) :=
  if t.rows.any target then t.tryUpdate target f else t.insert row

/-- `DELETE … WHERE p` -/
def delete (t : Table ρ) (p : ρ → Bool) : Table ρ :=
  ⟨t.rows.filter fun r => !p r, t.unique.filter _⟩

-- ============================================================================
-- The rows after a statement
-- ============================================================================

theorem insert_eq_some :
    t.insert row = some t' ↔
      (∀ r ∈ t.rows, Schema.clash r row = false) ∧ t'.rows = t.rows ++ [row] := by
  unfold insert
  split
  · rename_i h
    refine ⟨fun heq => ?_, fun hrows => congrArg some (ext hrows.2.symm)⟩
    rw [← Option.some.inj heq]
    exact ⟨h, rfl⟩
  · rename_i h
    refine ⟨fun heq => ?_, fun hall => absurd hall.1 h⟩
    cases heq

theorem tryUpdate_rows (h : t.tryUpdate p f = some t') : t'.rows = updated t.rows p f := by
  unfold tryUpdate at h
  split at h
  · rw [← Option.some.inj h]
  · cases h

/-- An upsert either rewrites the rows of its target or adds a row. -/
theorem upsert_cases (h : t.upsert target row f = some t') :
    (t.rows.any target = true ∧ t'.rows = updated t.rows target f) ∨
      (t.rows.any target = false ∧ (∀ r ∈ t.rows, Schema.clash r row = false) ∧
        t'.rows = t.rows ++ [row]) := by
  unfold upsert at h
  split at h
  · rename_i hany
    exact Or.inl ⟨hany, tryUpdate_rows h⟩
  · rename_i hany
    obtain ⟨hfree, hrows⟩ := insert_eq_some.mp h
    exact Or.inr ⟨Bool.eq_false_iff.mpr hany, hfree, hrows⟩

/-- The rows after an upsert: the old ones, those of the target rewritten, and the new
    one when there was no target. -/
theorem mem_upsert (h : t.upsert target row f = some t') {r : ρ} :
    r ∈ t'.rows ↔ (∃ s ∈ t.rows, (if target s then f s else s) = r) ∨
      t.rows.any target = false ∧ r = row := by
  rcases upsert_cases h with ⟨hany, hrows⟩ | ⟨hany, -, hrows⟩
  · rw [hrows, updated, List.mem_map, hany]
    exact ⟨Or.inl, fun hmem => hmem.resolve_right fun hnew => Bool.false_ne_true hnew.1.symm⟩
  · have hkept : ∀ s ∈ t.rows, (if target s then f s else s) = s :=
      fun s hs => if_neg (List.any_eq_false.mp hany s hs)
    rw [hrows, List.mem_append, List.mem_singleton]
    refine or_congr ⟨fun hr => ⟨r, hr, hkept r hr⟩, ?_⟩ ⟨fun heq => ⟨hany, heq⟩, And.right⟩
    rintro ⟨s, hs, rfl⟩
    rw [hkept s hs]
    exact hs

theorem mem_upsert_of_mem (h : t.upsert target row f = some t') {r : ρ} (hr : r ∈ t.rows) :
    (if target r then f r else r) ∈ t'.rows :=
  (mem_upsert h).mpr (Or.inl ⟨r, hr, rfl⟩)

/-- What holds of every row, and of every row that is written, holds after an upsert. -/
theorem forall_upsert {P : ρ → Prop} (h : t.upsert target row f = some t') (hrow : P row)
    (hf : ∀ r ∈ t.rows, target r = true → P (f r)) (hall : ∀ r ∈ t.rows, P r) :
    ∀ r ∈ t'.rows, P r := by
  intro r hr
  rcases (mem_upsert h).mp hr with hold | ⟨-, rfl⟩
  · exact forall_updated hf hall r (List.mem_map.mpr hold)
  · exact hrow

/-- An upsert writes some row. -/
theorem exists_mem_upsert {P : ρ → Prop} (h : t.upsert target row f = some t') (hrow : P row)
    (hf : ∀ r ∈ t.rows, target r = true → P (f r)) : ∃ r ∈ t'.rows, P r := by
  cases hany : t.rows.any target with
  | true =>
      obtain ⟨r, hr, htarget⟩ := List.any_eq_true.mp hany
      have hmem := mem_upsert_of_mem h hr
      rw [if_pos htarget] at hmem
      exact ⟨f r, hmem, hf r hr htarget⟩
  | false => exact ⟨row, (mem_upsert h).mpr (Or.inr ⟨hany, rfl⟩), hrow⟩

/-- An upsert with a target is an update. -/
theorem upsert_of_target (h : t.upsert target row f = some t') {r : ρ} (hr : r ∈ t.rows)
    (htarget : target r = true) : t'.rows = updated t.rows target f := by
  rcases upsert_cases h with ⟨-, hrows⟩ | ⟨hany, -, -⟩
  · exact hrows
  · exact absurd htarget (List.any_eq_false.mp hany r hr)

/-- An upsert whose target are the rows that clash with the new one, and that
    keeps the keys, goes through. -/
theorem exists_upsert (t : Table ρ) (row : ρ) (hf : KeepsKeys f)
    (htarget : ∀ r, Schema.clash r row = true → target r = true) :
    ∃ t', t.upsert target row f = some t' := by
  unfold upsert
  split
  · exact ⟨_, dif_pos (t.update target f hf).unique⟩
  · rename_i hany
    have hfree : ∀ r ∈ t.rows, Schema.clash r row = false := fun r hr =>
      Bool.eq_false_iff.mpr fun hclash =>
        hany (List.any_eq_true.mpr ⟨r, hr, htarget r hclash⟩)
    exact ⟨_, dif_pos hfree⟩

/-- Two stored rows that clash are one row. -/
theorem eq_of_clash {r s : ρ} (hr : r ∈ t.rows) (hs : s ∈ t.rows) (h : Schema.clash r s = true) :
    r = s := by
  by_contra hne
  have : Std.Symm fun r s : ρ => Schema.clash r s = false :=
    ⟨fun a b hab => (Schema.clash_comm b a).trans hab⟩
  have hfree := t.unique.forall hr hs hne
  rw [h] at hfree
  cases hfree

end Table

namespace Table

variable {ρ : Type*} {rows : List ρ} {p : ρ → Bool} {f : ρ → ρ} {w : ρ → Nat}

/-- What an update leaves alone in every row it leaves alone in the table. -/
theorem map_updated {α : Type*} (g : ρ → α) (hg : ∀ r ∈ rows, p r = true → g (f r) = g r) :
    (updated rows p f).map g = rows.map g := by
  rw [updated, List.map_map]
  refine List.map_congr_left fun r hr => ?_
  show g (if p r then f r else r) = g r
  split
  · rename_i hp
    exact hg r hr hp
  · rfl

/-- An update of rows outside a selection, which it does not bring into the
    selection either, leaves the selection as it is. -/
theorem filter_updated {q : ρ → Bool} (h : ∀ r ∈ rows, p r = true → q r = false)
    (hf : ∀ r ∈ rows, p r = true → q (f r) = false) :
    (updated rows p f).filter q = rows.filter q := by
  unfold updated
  induction rows with
  | nil => rfl
  | cons r rows ih =>
      have htail := ih (fun s hs => h s (List.mem_cons_of_mem _ hs))
        fun s hs => hf s (List.mem_cons_of_mem _ hs)
      rw [List.map_cons, List.filter_cons, List.filter_cons, htail]
      by_cases hp : p r = true
      · rw [if_pos hp, hf r List.mem_cons_self hp, h r List.mem_cons_self hp,
          if_neg Bool.false_ne_true, if_neg Bool.false_ne_true]
      · rw [if_neg hp]

theorem filter_upsert [Schema ρ] {t t' : Table ρ} {row : ρ} {q : ρ → Bool}
    (hupsert : t.upsert p row f = some t') (hrow : q row = false)
    (h : ∀ r ∈ t.rows, p r = true → q r = false)
    (hf : ∀ r ∈ t.rows, p r = true → q (f r) = false) :
    t'.rows.filter q = t.rows.filter q := by
  rcases upsert_cases hupsert with ⟨-, hrows⟩ | ⟨-, -, hrows⟩
  · rw [hrows, filter_updated h hf]
  · have hnew : [row].filter q = [] := by rw [List.filter_singleton, hrow, cond_false]
    rw [hrows, List.filter_append, hnew, List.append_nil]

/-- A deletion outside a selection leaves the selection as it is. -/
theorem filter_delete [Schema ρ] (t : Table ρ) {q : ρ → Bool}
    (h : ∀ r ∈ t.rows, p r = true → q r = false) :
    (t.delete p).rows.filter q = t.rows.filter q := by
  show (t.rows.filter fun r => !p r).filter q = t.rows.filter q
  rw [List.filter_filter]
  refine List.filter_congr fun r hr => ?_
  by_cases hp : p r = true
  · rw [h r hr hp, Bool.false_and]
  · rw [Bool.eq_false_iff.mpr hp, Bool.not_false, Bool.and_true]

-- ============================================================================
-- Queries
-- ============================================================================

/-- `SELECT g WHERE p ORDER BY le`, where rows that the order leaves tied come in
    the order of their insertion -/
def select {α : Type*} (rows : List ρ) (p : ρ → Bool) (le : ρ → ρ → Bool) (g : ρ → α) : List α :=
  ((rows.filter p).insertionSort fun a b => le a b = true).map g

theorem mem_select {α : Type*} {le : ρ → ρ → Bool} {g : ρ → α} {a : α} :
    a ∈ select rows p le g ↔ ∃ r ∈ rows, p r = true ∧ g r = a := by
  have hmem : ∀ r, r ∈ (rows.filter p).insertionSort (fun a b => le a b = true) ↔
      r ∈ rows ∧ p r = true :=
    fun r => (List.perm_insertionSort _ _).mem_iff.trans List.mem_filter
  rw [select, List.mem_map]
  refine exists_congr fun r => ?_
  rw [hmem, and_assoc]

/-- Only what is selected matters. -/
theorem select_eq_of_forall {α : Type*} {le : ρ → ρ → Bool} {g g' : ρ → α}
    (h : ∀ r ∈ rows, p r = true → g r = g' r) : select rows p le g = select rows p le g' := by
  refine List.map_congr_left fun r hr => ?_
  obtain ⟨hr, hp⟩ := List.mem_filter.mp ((List.perm_insertionSort _ _).mem_iff.mp hr)
  exact h r hr hp

/-- A query that names the columns `key` only. -/
theorem select_map {κ α : Type*} (key : ρ → κ) (q : κ → Bool) (le : κ → κ → Bool) (g : κ → α)
    (rows : List ρ) :
    select (rows.map key) q le g =
      select rows (fun r => q (key r)) (fun a b => le (key a) (key b)) fun r => g (key r) := by
  have hsort := List.map_insertionSort (fun a b => le (key a) (key b) = true)
    (fun a b => le a b = true) key (rows.filter fun r => q (key r)) fun _ _ _ _ => Iff.rfl
  rw [select, select, List.filter_map, show (q ∘ key) = fun r => q (key r) from rfl, ← hsort,
    List.map_map]
  rfl

/-- Tables that agree in the columns of a query give the same answer. -/
theorem select_congr {κ α : Type*} {rows' : List ρ} (key : ρ → κ) (h : rows'.map key = rows.map key)
    (q : κ → Bool) (le : κ → κ → Bool) (g : κ → α) :
    select rows' (fun r => q (key r)) (fun a b => le (key a) (key b)) (fun r => g (key r)) =
      select rows (fun r => q (key r)) (fun a b => le (key a) (key b)) fun r => g (key r) := by
  rw [← select_map key q le g rows', h, select_map]

-- ============================================================================
-- Sums over a table
-- ============================================================================

/-- The sum of a weight over the rows. -/
def total (w : ρ → Nat) (rows : List ρ) : Nat := (rows.map w).sum

theorem total_concat (row : ρ) : total w (rows ++ [row]) = total w rows + w row := by
  simp [total]

theorem total_updated : total w (updated rows p f) =
    total (fun r => if p r then w (f r) else w r) rows := by
  rw [total, updated, List.map_map, total]
  congr 2
  funext r
  exact apply_ite w (p r = true) (f r) r

/-- An update that lowers no weight lowers no sum. -/
theorem total_le_updated (h : ∀ r ∈ rows, p r = true → w r ≤ w (f r)) :
    total w rows ≤ total w (updated rows p f) := by
  rw [total_updated]
  refine List.sum_le_sum fun r hr => ?_
  split
  · rename_i hp
    exact h r hr hp
  · exact le_rfl

theorem total_lt_updated (h : ∀ r ∈ rows, p r = true → w r ≤ w (f r))
    (hlt : ∃ r ∈ rows, p r = true ∧ w r < w (f r)) :
    total w rows < total w (updated rows p f) := by
  obtain ⟨r, hr, hp, hw⟩ := hlt
  rw [total_updated]
  refine List.sum_lt_sum _ _ (fun s hs => ?_) ⟨r, hr, ?_⟩
  · split
    · rename_i hps
      exact h s hs hps
    · exact le_rfl
  · rw [if_pos hp]
    exact hw

/-- So does an upsert; the new row only adds to the sum. -/
theorem total_le_upsert [Schema ρ] {t t' : Table ρ} {row : ρ} (hupsert : t.upsert p row f = some t')
    (h : ∀ r ∈ t.rows, p r = true → w r ≤ w (f r)) : total w t.rows ≤ total w t'.rows := by
  rcases upsert_cases hupsert with ⟨-, hrows⟩ | ⟨-, -, hrows⟩
  · rw [hrows]
    exact total_le_updated h
  · rw [hrows, total_concat]
    exact Nat.le_add_right _ _

theorem total_lt_upsert [Schema ρ] {t t' : Table ρ} {row : ρ} (hupsert : t.upsert p row f = some t')
    (h : ∀ r ∈ t.rows, p r = true → w r < w (f r)) (hrow : 0 < w row) :
    total w t.rows < total w t'.rows := by
  rcases upsert_cases hupsert with ⟨hany, hrows⟩ | ⟨-, -, hrows⟩
  · obtain ⟨r, hr, hp⟩ := List.any_eq_true.mp hany
    rw [hrows]
    exact total_lt_updated (fun s hs hps => (h s hs hps).le) ⟨r, hr, hp, h r hr hp⟩
  · rw [hrows, total_concat]
    exact Nat.lt_add_of_pos_right hrow

/-- When no weight is lowered, the sum stays exactly when every weight does. -/
theorem total_updated_eq_iff (h : ∀ r ∈ rows, p r = true → w r ≤ w (f r)) :
    total w (updated rows p f) = total w rows ↔ ∀ r ∈ rows, p r = true → w (f r) = w r := by
  refine ⟨fun heq r hr hp => ?_, fun hsame => ?_⟩
  · by_contra hne
    have hlt := total_lt_updated h ⟨r, hr, hp, lt_of_le_of_ne (h r hr hp) (Ne.symm hne)⟩
    omega
  · rw [total, map_updated w hsame, total]

end Table

end TfScale
