/-
  TfScale.Lib.Fallible

  Fallible computations: when a chain of `?` steps, or a fallible map over a list,
  goes through.
-/

import Mathlib.Tactic.Common

namespace TfScale.Fallible

variable {ε α β : Type}

/-- A `?` chain succeeds when both of its parts do. -/
theorem bind_eq_ok {x : Except ε α} {f : α → Except ε β} {b : β} :
    x >>= f = .ok b ↔ ∃ a, x = .ok a ∧ f a = .ok b := by
  cases x with
  | error e => simp [bind, Except.bind]
  | ok a => simp [bind, Except.bind]

theorem not_exists_error (e : ε) : ¬ ∃ a : α, Except.error e = .ok a := by
  rintro ⟨a, h⟩
  cases h

theorem toOption_eq_some {x : Except ε α} {a : α} : x.toOption = some a ↔ x = .ok a := by
  cases x with
  | error e => simp [Except.toOption]
  | ok b => simp [Except.toOption]

theorem isOk_iff {x : Except ε α} : x.isOk = true ↔ ∃ a, x = .ok a := by
  cases x with
  | error e => simp [Except.isOk, Except.toBool]
  | ok a => simp [Except.isOk, Except.toBool]

theorem isOk_bind {x : Except ε α} {f : α → Except ε β} :
    (x >>= f).isOk = true ↔ ∃ a, x = .ok a ∧ (f a).isOk = true := by
  cases x with
  | error e => simp [bind, Except.bind, Except.isOk, Except.toBool]
  | ok a => simp [bind, Except.bind]

/-- A list goes through when all of its entries do. -/
theorem isOk_mapM {f : α → Except ε β} {l : List α} :
    (l.mapM f).isOk = true ↔ ∀ a ∈ l, (f a).isOk = true := by
  induction l with
  | nil => simp [pure, Except.pure, Except.isOk, Except.toBool]
  | cons a l ih =>
      rw [List.mapM_cons, isOk_bind, List.forall_mem_cons, ← ih, isOk_iff]
      refine ⟨fun ⟨b, hb, hrest⟩ => ⟨⟨b, hb⟩, ?_⟩, fun ⟨⟨b, hb⟩, hrest⟩ => ⟨b, hb, ?_⟩⟩
      · obtain ⟨bs, hbs, -⟩ := isOk_bind.mp hrest
        exact isOk_iff.mpr ⟨bs, hbs⟩
      · obtain ⟨bs, hbs⟩ := isOk_iff.mp hrest
        exact isOk_bind.mpr ⟨bs, hbs, rfl⟩

/-- The results of a list come from its entries, in their order. -/
theorem forall₂_of_mapM {f : α → Except ε β} {l : List α} {bs : List β} (h : l.mapM f = .ok bs) :
    List.Forall₂ (fun a b => f a = .ok b) l bs := by
  induction l generalizing bs with
  | nil =>
      obtain rfl := Except.ok.inj h
      exact .nil
  | cons a l ih =>
      rw [List.mapM_cons] at h
      obtain ⟨b, hb, h⟩ := bind_eq_ok.mp h
      obtain ⟨rest, hrest, h⟩ := bind_eq_ok.mp h
      obtain rfl := Except.ok.inj h
      exact .cons hb (ih hrest)

/-- The result of every entry is among the results, and there is no other. -/
theorem mem_of_mapM {f : α → Except ε β} {l : List α} {bs : List β} (h : l.mapM f = .ok bs) {b : β} :
    b ∈ bs ↔ ∃ a ∈ l, f a = .ok b := by
  induction l generalizing bs with
  | nil =>
      obtain rfl := Except.ok.inj h
      refine ⟨fun hb => ?_, fun ⟨_, ha, _⟩ => ?_⟩
      · cases hb
      · cases ha
  | cons a l ih =>
      rw [List.mapM_cons] at h
      obtain ⟨b₀, hb₀, h⟩ := bind_eq_ok.mp h
      obtain ⟨rest, hrest, h⟩ := bind_eq_ok.mp h
      obtain rfl := Except.ok.inj h
      rw [List.mem_cons, ih hrest]
      constructor
      · rintro (rfl | ⟨a', ha', hb⟩)
        · exact ⟨a, List.mem_cons_self, hb₀⟩
        · exact ⟨a', List.mem_cons_of_mem _ ha', hb⟩
      · rintro ⟨a', ha', hb⟩
        rcases List.mem_cons.mp ha' with rfl | ha'
        · exact Or.inl (Except.ok.inj (hb.symm.trans hb₀))
        · exact Or.inr ⟨a', ha', hb⟩

/-- What a fallible map keeps of every entry, it keeps of the list. -/
theorem map_of_mapM {γ : Type} {f : α → Except ε β} {g : β → γ} {k : α → γ} {l : List α} {bs : List β}
    (hkeep : ∀ a ∈ l, ∀ b, f a = .ok b → g b = k a) (h : l.mapM f = .ok bs) : bs.map g = l.map k := by
  have hall := forall₂_of_mapM h
  clear h
  induction hall with
  | nil => rfl
  | cons hab _ ih =>
      rw [List.map_cons, List.map_cons, hkeep _ List.mem_cons_self _ hab,
        ih fun a ha => hkeep a (List.mem_cons_of_mem _ ha)]

end TfScale.Fallible
