import Venues.Proofs.Outcome
import Venues.Store.Reading

/-! # Tables that are lost

A lost table does not change what the store answers: either the operation comes out as it does where no table is
lost, or it is reported as an outage.
-/

namespace Venues

/-! ## Operations that may be stopped -/

namespace Outcome

variable {α β : Type} {stops : Fault → Prop} {x y : Outcome α} {f g : α → Outcome β}

/-- Whether an operation comes out as another one does, unless it is stopped by some fault. -/
def Follows (stops : Fault → Prop) (x y : Outcome α) : Prop := x = y ∨ ∃ fault, stops fault ∧ x = .error fault

theorem Follows.refl (x : Outcome α) : Follows stops x x := .inl rfl

theorem Follows.bind (first : Follows stops x y) (next : ∀ a, Follows stops (f a) (g a)) :
    Follows stops (x >>= f) (y >>= g) := by
  rcases first with rfl | ⟨fault, stopped, rfl⟩
  · cases x with
    | error fault => exact .inl rfl
    | ok a => exact next a
  · exact .inr ⟨fault, stopped, rfl⟩

/-- Operations whose first steps are the same differ only in what comes next. -/
theorem Follows.onward (next : ∀ a, Follows stops (f a) (g a)) : Follows stops (x >>= f) (x >>= g) :=
  (Follows.refl x).bind next

theorem Follows.forM {α : Type} {f g : α → Outcome Unit} (each : ∀ a, Follows stops (f a) (g a)) (as : List α) :
    Follows stops (as.forM f) (as.forM g) := by
  induction as with
  | nil => exact .refl _
  | cons a as ih => exact (each a).bind fun _ => ih

end Outcome

/-- Whether a fault tells of a lost table. -/
def Fault.IsLost (fault : Fault) : Prop := ∃ name, fault = .noTable name

/-- Whether a fault tells that the store is not available. -/
def Fault.IsOutage (fault : Fault) : Prop := ∃ reason, fault = .backend (.storeFailed reason)

/-! ## Readings -/

namespace Store.Tables

open Outcome (Follows)

variable {α : Type} {t : Tables} {m : Model}

/-- The tables as they are when none is lost. -/
def restored (t : Tables) : Tables := { t with lost := [] }

theorem restored_eq (present : t.lost = []) : t.restored = t := by
  cases t
  cases present
  rfl

@[simp] theorem rows_restored : t.restored.rows m = t.rows m := by cases m <;> rfl

@[simp] theorem view_restored : t.restored.view = t.view := rfl

@[simp] theorem selected_restored (f : Formula) : t.restored.selected m f = t.selected m f := by
  rw [selected, rows_restored, view_restored, selected]

theorem need_follows : Follows Fault.IsLost (t.need m) (t.restored.need m) := by
  unfold need
  split
  · exact .inr ⟨_, ⟨_, rfl⟩, rfl⟩
  · exact .refl _

theorem check_follows (f : Formula) (limits : List Int) :
    Follows Fault.IsLost (t.check m f limits) (t.restored.check m f limits) := by
  unfold check
  split
  · exact .refl _
  · exact (Follows.forM (fun _ => need_follows) _).bind fun _ => .refl _

theorem readRelations_follows (relations : List String) (rows : List Row) :
    Follows Fault.IsLost (t.readRelations relations rows) (t.restored.readRelations relations rows) := by
  unfold readRelations
  split
  · exact .refl _
  · exact Follows.forM (fun _ => need_follows) _

theorem named_follows (id : Value) : Follows Fault.IsLost (t.named m id) (t.restored.named m id) := by
  unfold named
  split
  · exact .refl _
  · rw [find?, find?, rows_restored]
    exact need_follows.bind fun _ => .refl _

theorem fetch_follows (q : Reading) (parts : List Formula) :
    Follows Fault.IsLost (t.fetch m q parts) (t.restored.fetch m q parts) := by
  unfold fetch
  simp only [selected_restored]
  -- with sort keys and without them, the tables are not looked at before the check
  split
  all_goals
    refine .onward fun behind => .onward fun _ => .onward fun _ => ?_
    exact (check_follows behind _).bind fun _ => (readRelations_follows _ _).bind fun _ => .refl _

/-- An operation on the tables reports a lost table as an outage. -/
theorem guarded_follows {x y : Outcome α} (follows : Follows Fault.IsLost x y) :
    Follows Fault.IsOutage (guarded x) (guarded y) := by
  rcases follows with rfl | ⟨_, ⟨name, rfl⟩, rfl⟩
  · exact .refl _
  · exact .inr ⟨_, ⟨_, rfl⟩, rfl⟩

theorem findMany_follows (q : Reading) : Follows Fault.IsOutage (t.findMany m q) (t.restored.findMany m q) := by
  refine guarded_follows (.onward fun f => ?_)
  split
  · exact fetch_follows q [f]
  · refine (named_follows _).bind fun row? => ?_
    split
    · exact .refl _
    · exact .onward fun keys => .onward fun g => fetch_follows q [f, g]

theorem count_follows (filter : Option Predicate) :
    Follows Fault.IsOutage (t.count m filter) (t.restored.count m filter) := by
  refine guarded_follows (.onward fun f => ?_)
  rw [selected_restored]
  exact (check_follows f []).bind fun _ => .refl _

end Store.Tables
end Venues
