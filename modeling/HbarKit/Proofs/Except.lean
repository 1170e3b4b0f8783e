import Mathlib.Tactic

/-!
# Results that may fail

What a sequence of steps gave when none of them failed.
-/
namespace HbarKit

variable {ε α β : Type}

theorem bind_eq_ok {x : Except ε α} {f : α → Except ε β} {b : β} :
    (x >>= f) = .ok b ↔ ∃ a, x = .ok a ∧ f a = .ok b := by
  cases x <;> simp [bind, Except.bind]

theorem bind_eq_error {x : Except ε α} {f : α → Except ε β} {e : ε} :
    (x >>= f) = .error e ↔ x = .error e ∨ ∃ a, x = .ok a ∧ f a = .error e := by
  cases x <;> simp [bind, Except.bind]

/-- Results of a list of steps stand in the order of the steps. -/
theorem forall₂_of_mapM_eq_ok {f : α → Except ε β} {as : List α} {bs : List β}
    (h : as.mapM f = .ok bs) : List.Forall₂ (fun a b => f a = .ok b) as bs := by
  induction as generalizing bs with
  | nil =>
    cases h
    exact .nil
  | cons a as ih =>
    rw [List.mapM_cons] at h
    obtain ⟨b, hb, h⟩ := bind_eq_ok.mp h
    obtain ⟨rest, hrest, h⟩ := bind_eq_ok.mp h
    cases h
    exact .cons hb (ih hrest)

theorem mapM_eq_ok_of_forall₂ {f : α → Except ε β} {as : List α} {bs : List β}
    (h : List.Forall₂ (fun a b => f a = .ok b) as bs) : as.mapM f = .ok bs := by
  induction h with
  | nil => rfl
  | cons hb _ ih => rw [List.mapM_cons, hb, ih]; rfl

theorem mapM_eq_some_iff {f : α → Option β} {as : List α} {bs : List β} :
    as.mapM f = some bs ↔ List.Forall₂ (fun a b => f a = some b) as bs := by
  induction as generalizing bs with
  | nil => simp [eq_comm]
  | cons a as ih =>
    simp only [List.mapM_cons, Option.bind_eq_bind, Option.bind_eq_some_iff, Option.pure_def,
      Option.some.injEq, List.forall₂_cons_left_iff, ← ih]
    constructor
    · rintro ⟨b, hb, rest, hrest, rfl⟩
      exact ⟨b, rest, hb, hrest, rfl⟩
    · rintro ⟨b, rest, hb, hrest, rfl⟩
      exact ⟨b, hb, rest, hrest, rfl⟩

theorem forM_eq_ok {f : α → Except ε PUnit} {as : List α} :
    as.forM f = .ok () ↔ ∀ a ∈ as, f a = .ok () := by
  induction as with
  | nil => simp [List.forM, pure, Except.pure]
  | cons a as ih =>
    rw [List.forM, bind_eq_ok, List.forall_mem_cons, ← ih]
    constructor
    · rintro ⟨_, ha, has⟩
      exact ⟨ha, has⟩
    · rintro ⟨ha, has⟩
      exact ⟨_, ha, has⟩

/-- The error of a result that is one. -/
def cause? : Except ε α → Option ε
  | .ok _ => none
  | .error e => some e

@[simp] theorem cause?_ok (a : α) : cause? (.ok a : Except ε α) = none := rfl

@[simp] theorem cause?_error (e : ε) : cause? (.error e : Except ε α) = some e := rfl

/-- A sequence fails where its first part does, or where the rest of it does. -/
theorem cause?_bind (x : Except ε α) (f : α → Except ε β) :
    cause? (x >>= f) = match x with
      | .ok a => cause? (f a)
      | .error e => some e := by
  cases x <;> rfl

theorem cause?_then (x : Except ε α) (y : Except ε β) :
    cause? (x >>= fun _ => y) = (cause? x).or (cause? y) := by
  cases x <;> rfl

/-- Steps for a list fail with the first of them that does. -/
theorem cause?_mapM (f : α → Except ε β) (as : List α) :
    cause? (as.mapM f) = as.findSome? fun a => cause? (f a) := by
  induction as with
  | nil => rfl
  | cons a as ih =>
    rw [List.mapM_cons, List.findSome?_cons, ← ih, cause?_bind]
    cases f a with
    | error e => rfl
    | ok b => cases as.mapM f <;> rfl

theorem cause?_forM (f : α → Except ε PUnit) (as : List α) :
    cause? (as.forM f) = as.findSome? fun a => cause? (f a) := by
  induction as with
  | nil => rfl
  | cons a as ih =>
    rw [List.forM, List.findSome?_cons, ← ih, cause?_bind]
    cases f a <;> rfl

theorem exists_of_forall₂_of_mem {R : α → β → Prop} {as : List α} {bs : List β} {b : β}
    (h : List.Forall₂ R as bs) (hb : b ∈ bs) : ∃ a ∈ as, R a b := by
  induction h with
  | nil => cases hb
  | cons hR _ ih =>
    cases hb with
    | head => exact ⟨_, List.mem_cons_self, hR⟩
    | tail _ hb =>
      obtain ⟨a, ha, hR⟩ := ih hb
      exact ⟨a, List.mem_cons_of_mem _ ha, hR⟩

theorem map_eq_of_forall₂ {R : α → β → Prop} {g : β → α} {as : List α} {bs : List β}
    (hg : ∀ a b, R a b → g b = a) (h : List.Forall₂ R as bs) : bs.map g = as := by
  induction h with
  | nil => rfl
  | cons hR _ ih => rw [List.map_cons, ih, hg _ _ hR]

end HbarKit
