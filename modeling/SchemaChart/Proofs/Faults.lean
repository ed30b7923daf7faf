/-
Results that may be errors. Where several results are needed the first error counts, so a traversal gives the
first error of its elements (`fault?_mapM`), and where there is none it gives what each of them gives
(`mapM_eq_ok_iff`).
-/
import Mathlib.Data.List.Forall2

namespace SchemaChart

variable {ε ε' α β γ : Type}

/-- The error that a result is. -/
def fault? : Except ε α → Option ε
  | .ok _ => none
  | .error e => some e

theorem fault?_eq_none_iff {r : Except ε α} : fault? r = none ↔ ∃ a, r = .ok a := by
  cases r <;> simp [fault?]

theorem fault?_eq_some_iff {r : Except ε α} {e : ε} : fault? r = some e ↔ r = .error e := by
  cases r <;> simp [fault?]

@[simp] theorem fault?_map (f : α → β) (r : Except ε α) : fault? (r.map f) = fault? r := by
  cases r <;> rfl

@[simp] theorem fault?_mapError (f : ε → ε') (r : Except ε α) : fault? (r.mapError f) = (fault? r).map f := by
  cases r <;> rfl

/-- Errors in two phases: those of the second count only where there are none of the first. -/
theorem fault?_bind {r : Except ε α} {f : α → Except ε β} {as bs : List ε} (hr : fault? r = as.head?)
    (hf : ∀ a, r = .ok a → fault? (f a) = bs.head?) : fault? (r >>= f) = (as ++ bs).head? := by
  rw [List.head?_append, ← hr]
  rcases r with e | a
  · rfl
  · exact hf a rfl

/-- Of two results that are both needed, the first error counts. -/
theorem fault?_both (a : Except ε α) (b : Except ε β) (f : α → β → γ) :
    fault? (do let x ← a; let y ← b; pure (f x y)) = (fault? a).or (fault? b) := by
  cases a with
  | error e => rfl
  | ok x => cases b <;> rfl

theorem map_eq_ok_iff {f : α → β} {r : Except ε α} {b : β} : r.map f = .ok b ↔ ∃ a, r = .ok a ∧ f a = b := by
  cases r <;> simp [Except.map]

theorem mapError_eq_ok_iff {f : ε → ε'} {r : Except ε α} {a : α} : r.mapError f = .ok a ↔ r = .ok a := by
  cases r <;> simp [Except.mapError]

/-- Two results that are both needed are both there. -/
theorem both_eq_ok_iff {a : Except ε α} {b : Except ε β} {f : α → β → γ} {c : γ} :
    (do let x ← a; let y ← b; pure (f x y)) = .ok c ↔ ∃ x y, a = .ok x ∧ b = .ok y ∧ f x y = c := by
  constructor
  · intro h
    rcases a with e | x
    · cases h
    · rcases b with e | y
      · cases h
      · exact ⟨x, y, rfl, rfl, Except.ok.inj h⟩
  · rintro ⟨x, y, rfl, rfl, rfl⟩
    rfl

/-- A traversal stops at the first element that gives an error. -/
theorem fault?_mapM (f : α → Except ε β) (xs : List α) : fault? (xs.mapM f) = xs.findSome? fun x => fault? (f x) := by
  induction xs with
  | nil => rfl
  | cons x xs ih =>
    rw [List.mapM_cons, fault?_both, ih, List.findSome?_cons]
    cases fault? (f x) <;> rfl

/-- Errors that are listed element by element: the first of them is the error of the traversal. -/
theorem fault?_mapM_eq_head? {f : α → Except ε β} {g : α → List ε} {xs : List α}
    (h : ∀ x ∈ xs, fault? (f x) = (g x).head?) : fault? (xs.mapM f) = (xs.flatMap g).head? := by
  rw [fault?_mapM]
  induction xs with
  | nil => rfl
  | cons x xs ih =>
    obtain ⟨hx, hxs⟩ := List.forall_mem_cons.1 h
    rw [List.findSome?_cons, List.flatMap_cons, List.head?_append, hx, ih hxs]
    cases (g x).head? <;> rfl

/-- A traversal gives what each element gives. -/
theorem mapM_eq_ok_iff {f : α → Except ε β} {xs : List α} {ys : List β} :
    xs.mapM f = .ok ys ↔ List.Forall₂ (fun x y => f x = .ok y) xs ys := by
  induction xs generalizing ys with
  | nil =>
    constructor
    · intro h; cases h
      exact .nil
    · intro h; cases h
      rfl
  | cons x xs ih =>
    rw [List.mapM_cons, both_eq_ok_iff]
    constructor
    · rintro ⟨y, rest, hy, hrest, rfl⟩
      exact .cons hy (ih.1 hrest)
    · intro h
      cases h with
      | cons hy hrest => exact ⟨_, _, hy, ih.2 hrest, rfl⟩

/-- A traversal gives what is there of its elements one by one. -/
theorem filterMap_toOption_of_mapM {f : α → Except ε β} {xs : List α} {ys : List β} (h : xs.mapM f = .ok ys) :
    xs.filterMap (fun x => (f x).toOption) = ys := by
  have hall := mapM_eq_ok_iff.1 h
  clear h
  induction hall with
  | nil => rfl
  | cons hx _ ih => rw [List.filterMap_cons, hx, ih]; rfl

end SchemaChart
