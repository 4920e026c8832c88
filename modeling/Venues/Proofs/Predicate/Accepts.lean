import Venues.Predicate.Accepts
import Venues.Proofs.Outcome

/-! # Joined predicates on a row

A conjunction accepts what all of its parts accept, a disjunction what some part accepts, and a predicate
on a relation the rows of which some related row is accepted. Where each part has an answer, so has the whole.
-/

namespace Venues

/-! ## Searches -/

section Search

variable {α : Type} {test : α → Outcome Bool} {items : List α}

/-- A test that has an answer for each item has one for the list. -/
theorem exists_someItem (each : ∀ a ∈ items, ∃ b, test a = .ok b) : ∃ b, someItem test items = .ok b := by
  induction items with
  | nil => exact ⟨false, rfl⟩
  | cons a items ih =>
    obtain ⟨⟨b, first⟩, others⟩ := List.forall_mem_cons.mp each
    obtain ⟨c, rest⟩ := ih others
    rw [someItem, first, ok_bind]
    cases b with
    | true => exact ⟨true, rfl⟩
    | false => exact ⟨c, rest⟩

/-- Some item satisfies a test that has an answer for every item. -/
theorem someItem_eq_true_iff (each : ∀ a ∈ items, ∃ b, test a = .ok b) :
    someItem test items = .ok true ↔ ∃ a ∈ items, test a = .ok true := by
  induction items with
  | nil => simp [someItem]
  | cons a items ih =>
    obtain ⟨⟨b, first⟩, others⟩ := List.forall_mem_cons.mp each
    simp only [someItem, first, ok_bind, List.mem_cons, exists_eq_or_imp, ← ih others]
    cases b <;> simp

theorem someItem_singleton {a : α} : someItem test [a] = test a := by
  simp only [someItem]
  rcases test a with _ | _ | _ <;> rfl

end Search

/-- The records to which a relation of a record leads: none, one, or several in a list. -/
def Value.relatedTo (row : Value) (relation : String) : List Value :=
  match row.fields.get relation with
  | .null => []
  | .list items => items
  | item => [item]

namespace Predicate

variable {row : Value}

/-! ## Conjunctions -/

theorem accepts_all (ps : List Predicate) :
    (Predicate.all ps).accepts row = .ok true ↔ ∀ p ∈ ps, p.accepts row = .ok true := by
  rw [accepts]
  induction ps with
  | nil => simp [allAccept]
  | cons p ps ih =>
    rw [List.forall_mem_cons, ← ih, allAccept]
    rcases p.accepts row with _ | _ | _ <;> simp [bind, Except.bind]

theorem exists_accepts_all {ps : List Predicate} (each : ∀ p ∈ ps, ∃ b, p.accepts row = .ok b) :
    ∃ b, (Predicate.all ps).accepts row = .ok b := by
  simp only [accepts]
  induction ps with
  | nil => exact ⟨true, rfl⟩
  | cons p ps ih =>
    obtain ⟨⟨b, first⟩, others⟩ := List.forall_mem_cons.mp each
    rw [allAccept, first, ok_bind]
    cases b with
    | true => exact ih others
    | false => exact ⟨false, rfl⟩

/-! ## Disjunctions and relations -/

theorem accepts_any (ps : List Predicate) : (Predicate.any ps).accepts row = someItem (fun p => p.accepts row) ps := by
  rw [accepts]
  induction ps with
  | nil => rfl
  | cons p ps ih => rw [anyAccept, someItem, ih]

theorem accepts_related (relation : String) (inner : Predicate) :
    (Predicate.related relation inner).accepts row = someItem inner.accepts (row.relatedTo relation) := by
  rw [accepts, Value.relatedTo]
  cases row.fields.get relation with
  | null => rfl
  | list items => rfl
  | _ => exact someItem_singleton.symm

end Predicate
end Venues
