import Mathlib.Data.List.Forall2
import SearchClient.Failure

/-!
# Outcomes in order

A list of operations, each of which may fail, gives all results in order, or no result if one of
the operations has none. `Outcome.mapM_eq_ok_iff` tells the results, `Outcome.exists_mapM_iff`
when there are any.
-/

namespace SearchClient
namespace Outcome

variable {α β : Type} {f : α → Except Failure β} {xs xs' : List α} {ys ys' : List β}

theorem bind_eq_ok_iff {x : Except Failure α} {g : α → Except Failure β} {b : β} :
    x >>= g = .ok b ↔ ∃ a, x = .ok a ∧ g a = .ok b := by
  cases x with
  | error failure => exact ⟨nofun, nofun⟩
  | ok a =>
    constructor
    · intro h
      exact ⟨a, rfl, h⟩
    · rintro ⟨a', ha, h⟩
      cases ha
      exact h

/-- What is known of a result that there may be is known of a result that there is. -/
theorem exists_of_toOption_map {x : Except Failure α} {g : α → β} {b : β}
    (h : x.toOption.map g = some b) : ∃ a, x = .ok a ∧ g a = b := by
  cases x with
  | error failure => cases h
  | ok a => exact ⟨a, rfl, Option.some.inj h⟩

theorem mapM_eq_ok_iff : xs.mapM f = .ok ys ↔ List.Forall₂ (fun x y => f x = .ok y) xs ys := by
  induction xs generalizing ys with
  | nil =>
    rw [List.mapM_nil, List.forall₂_nil_left_iff]
    constructor
    · intro h
      cases h
      rfl
    · rintro rfl
      rfl
  | cons x xs ih =>
    simp only [List.mapM_cons, bind_eq_ok_iff, List.forall₂_cons_left_iff]
    constructor
    · rintro ⟨y, hy, zs, hzs, heq⟩
      cases heq
      exact ⟨y, zs, hy, ih.1 hzs, rfl⟩
    · rintro ⟨y, zs, hy, hzs, rfl⟩
      exact ⟨y, hy, zs, ih.2 hzs, rfl⟩

/-- There are results exactly if every operation has one. -/
theorem exists_mapM_iff : (∃ ys, xs.mapM f = .ok ys) ↔ ∀ x ∈ xs, ∃ y, f x = .ok y := by
  simp only [mapM_eq_ok_iff]
  induction xs with
  | nil => simp
  | cons x xs ih =>
    simp only [List.forall₂_cons_left_iff, List.forall_mem_cons, ← ih]
    constructor
    · rintro ⟨_, y, zs, hy, hzs, rfl⟩
      exact ⟨⟨y, hy⟩, zs, hzs⟩
    · rintro ⟨⟨y, hy⟩, zs, hzs⟩
      exact ⟨y :: zs, y, zs, hy, hzs, rfl⟩

/-- The results of two lists in a row are the results of each in a row. -/
theorem mapM_append (h : xs.mapM f = .ok ys) (h' : xs'.mapM f = .ok ys') :
    (xs ++ xs').mapM f = .ok (ys ++ ys') := by
  rw [List.mapM_append, h]
  show (xs'.mapM f >>= fun zs => pure (ys ++ zs)) = _
  rw [h']
  rfl

/-- Each result is that of the element at its place. -/
theorem exists_getElem?_of_mapM (h : xs.mapM f = .ok ys) {i : Nat} {y : β} (hy : ys[i]? = some y) :
    ∃ x, xs[i]? = some x ∧ f x = .ok y := by
  rw [mapM_eq_ok_iff] at h
  induction h generalizing i with
  | nil => cases hy
  | cons hxy _ ih =>
    cases i with
    | zero =>
      cases hy
      exact ⟨_, rfl, hxy⟩
    | succ i => exact ih hy

/-- Among the results is one of a kind exactly if some operation of the list gives one. -/
theorem exists_mem_iff_of_mapM {p : β → Prop} (h : xs.mapM f = .ok ys) :
    (∃ y ∈ ys, p y) ↔ ∃ x ∈ xs, ∃ y, f x = .ok y ∧ p y := by
  rw [mapM_eq_ok_iff] at h
  induction h with
  | nil => simp
  | @cons x y xs ys hxy _ ih =>
    have hhead : p y ↔ ∃ z, f x = .ok z ∧ p z := by
      constructor
      · intro hy
        exact ⟨y, hxy, hy⟩
      · rintro ⟨z, hz, hp⟩
        rw [hxy] at hz
        cases hz
        exact hp
    simp only [List.exists_mem_cons_iff, ih, hhead]

end Outcome
end SearchClient
