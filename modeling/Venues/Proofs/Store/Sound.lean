import Venues.Proofs.Outcome
import Venues.Proofs.Store.Order
import Venues.Store.Change

/-! # Sound tables

In sound tables every column holds values of its kind or null, and no two rows of a model have the same
identity. A value of such a column is handed to the store as the very cell that holds it, so stored
values are equal to themselves when they come back in a comparison.
-/

namespace Venues

open Store (Form Cell)

/-! ## Values of a kind -/

/-- Whether a column of a kind can hold a value. Whole numbers have at most 64 bits, and what is not a
number is held as null. -/
def FieldKind.holds : FieldKind → Value → Bool
  | _, .null => true
  | .whole, .int n => isShort n
  | .real, .float x => !x.isNaN
  | .whole, _ | .real, _ => false
  | kind, v => kind.admits v

/-- Whether a whole number has at most 64 bits; all other values have room anyway. -/
def Value.isBounded : Value → Bool
  | .int n => isShort n
  | _ => true

namespace FieldKind

variable {kind : FieldKind} {v : Value}

theorem isNull_of_admits (admitted : kind.admits v = true) : v.isNull = false := by
  cases kind <;> cases v <;> simp_all [admits, Value.isNull]

theorem admits_of_holds (held : kind.holds v = true) (present : v.isNull = false) :
    kind.admits v = true ∧ v.isBounded = true := by
  cases kind <;> cases v <;> simp_all [holds, admits, Value.isBounded, Value.isNull]

theorem isOf_of_admits (admitted : kind.admits v = true) : (Cell.ofValue v).isOf kind = true := by
  have number (x : Float) : (Cell.ofFloat x).isOf .real = true := by
    unfold Cell.ofFloat
    split <;> simp_all [Cell.isOf]
  cases kind <;> cases v <;> simp_all [admits, Cell.ofValue, Cell.isOf]

theorem isOf_of_holds (held : kind.holds v = true) : (Cell.ofValue v).isOf kind = true := by
  cases absent : v.isNull with
  | false => exact isOf_of_admits (admits_of_holds held absent).1
  | true => cases kind <;> cases v <;> simp_all [Value.isNull, Cell.ofValue, Cell.isOf]

theorem isNull_ofValue (held : kind.holds v = true) : (Cell.ofValue v).isNull = v.isNull := by
  cases kind <;> cases v <;>
    simp_all [holds, admits, Cell.ofValue, Cell.isNull, Value.isNull, Cell.ofFloat]

end FieldKind

/-! ## Handing values over -/

theorem Value.truth?_bool (b : Bool) : (Value.bool b).truth? = some b := by
  cases b <;> simp [truth?, same, magnitude?, Magnitude.same_ofInt]

theorem Store.Cell.adapted_of_isOf {kind : FieldKind} {cell : Cell} (fits : cell.isOf kind = true) :
    cell.adapted kind = cell := by
  cases kind <;> cases cell <;> first | rfl | cases fits

theorem Store.bindTo_of_admits {kind : FieldKind} {v : Value} (admitted : kind.admits v = true)
    (bounded : v.isBounded = true) : bindTo kind v = .ok (Cell.ofValue v) := by
  have form : (Form.of kind v).bind v = .ok (Cell.ofValue v) := by
    cases kind <;> cases v <;> simp_all [FieldKind.admits, Form.of, Form.bind, Cell.ofValue,
      Value.isBounded, Value.truth?_bool, Value.real?]
  rw [bindTo, form, map_ok, Cell.adapted_of_isOf (FieldKind.isOf_of_admits admitted)]

theorem Store.bindTo_eq_overflow {kind : FieldKind} {v : Value} (admitted : kind.admits v = true)
    (long : v.isBounded = false) : bindTo kind v = .error .overflow := by
  have form : (Form.of kind v).bind v = .error .overflow := by
    cases kind <;> cases v <;> simp_all [FieldKind.admits, Form.of, Form.bind, Value.isBounded]
  rw [bindTo, form]
  rfl

namespace Store

/-! ## Rows -/

/-- Whether every column of a row holds a value of its kind or null. -/
def Row.IsTyped (r : Row) : Prop := ∀ c ∈ r.model.columns, c.2.holds (r.values.get c.1) = true

instance (r : Row) : Decidable r.IsTyped :=
  inferInstanceAs (Decidable (∀ c ∈ r.model.columns, c.2.holds (r.values.get c.1) = true))

theorem Model.mem_columns {m : Model} {column : String} {kind : FieldKind}
    (known : m.column? column = some kind) : (column, kind) ∈ m.columns :=
  mem_of_lookup known

namespace Row

variable {r : Row} {column : String} {kind : FieldKind}

theorem IsTyped.holds (typed : r.IsTyped) (known : r.model.column? column = some kind) :
    kind.holds (r.values.get column) = true :=
  typed _ (Model.mem_columns known)

theorem IsTyped.fits (typed : r.IsTyped) : r.model.Fits r.cell := fun _ _ known =>
  FieldKind.isOf_of_holds (typed.holds known)

/-- A row has a value for each of its columns. -/
theorem get?_values (known : r.model.column? column = some kind) :
    r.values.get? column = some (r.values.get column) := by
  have named : column ∈ r.values.map (·.1) := by
    have names : r.values.map (·.1) = r.model.columns.map (·.1) := by cases r <;> rfl
    rw [names]
    exact List.mem_map_of_mem (Model.mem_columns known)
  obtain ⟨v, found⟩ : ∃ v, r.values.get? column = some v := by
    rw [← Option.isSome_iff_exists, Fields.get?, List.lookup_isSome_iff]
    obtain ⟨f, member, same⟩ := List.mem_map.mp named
    exact ⟨f, member, by simp [same]⟩
  rw [found, Fields.get, found]
  rfl

end Row

/-! ## Tables -/

/-- Whether the rows of a model can be put into one order: no two rows share their identity, and the
cells of each fit the columns. -/
structure Tables.IsKeyed (t : Tables) (m : Model) : Prop where
  distinct : ((t.rows m).map Row.id).Nodup
  fits : ∀ r ∈ t.rows m, m.Fits r.cell

/-- Whether the rows of a model can be put into one order, and no table is lost. -/
structure Tables.IsOrderly (t : Tables) (m : Model) : Prop extends t.IsKeyed m where
  present : t.lost = []

/-- Whether tables are such as a store holds: none is lost, no two rows of a model share their identity,
every column holds values of its kind, and the rows of a model can be counted with 64 bits. -/
structure Tables.IsSound (t : Tables) : Prop where
  present : t.lost = []
  distinct : ∀ m, ((t.rows m).map Row.id).Nodup
  typed : ∀ m, ∀ r ∈ t.rows m, r.IsTyped
  bounded : ∀ m, isShort (t.rows m).length = true

instance : (v : Value) →
    Decidable (∀ time, v = .time time → time.offset = none ∧ Timestamp.inRange time.wall = true)
  | .time t => decidable_of_iff (t.offset = none ∧ Timestamp.inRange t.wall = true)
      ⟨fun kept _ same => Value.time.inj same ▸ kept, fun all => all t rfl⟩
  | .null | .bool _ | .int _ | .float _ | .uuid _ | .text _ | .list _ | .object _ => isTrue nofun

/-- Whether rows are such as the columns keep them: those that must not be null are not, and timestamps
are readings without an offset, in the years 1 to 9999. -/
structure Tables.IsKept (t : Tables) : Prop where
  needed : ∀ m, ∀ r ∈ t.rows m, ∀ column ∈ m.needed, (r.values.get column).isNull = false
  moments : ∀ m, ∀ r ∈ t.rows m, ∀ c ∈ m.columns, ∀ time, r.values.get c.1 = .time time →
    time.offset = none ∧ Timestamp.inRange time.wall = true

namespace Tables

variable {t : Tables} {m : Model} {r : Row}

theorem model_of_mem_rows (member : r ∈ t.rows m) : r.model = m := by
  cases m <;> obtain ⟨_, _, rfl⟩ := List.mem_map.mp member <;> rfl

theorem IsSound.orderly (sound : t.IsSound) (m : Model) : t.IsOrderly m where
  present := sound.present
  distinct := sound.distinct m
  fits := fun r member => by
    have fits := (sound.typed m r member).fits
    rwa [model_of_mem_rows member] at fits

/-- Among rows with distinct identities each one is found by its own. -/
theorem find?_id {rows : List Row} (distinct : (rows.map Row.id).Nodup) (member : r ∈ rows) :
    (rows.find? fun a => a.id == r.id) = some r := by
  induction rows with
  | nil => cases member
  | cons a rows ih =>
    rw [List.map_cons, List.nodup_cons] at distinct
    rcases List.mem_cons.mp member with rfl | member
    · exact List.find?_cons_of_pos (beq_self_eq_true _)
    · have other : (a.id == r.id) = false := by
        rw [beq_eq_false_iff_ne]
        exact fun same => distinct.1 (same ▸ List.mem_map_of_mem member)
      rw [List.find?_cons_of_neg (by simp [other])]
      exact ih distinct.2 member

theorem IsOrderly.find?_eq (orderly : t.IsOrderly m) (member : r ∈ t.rows m) : t.find? m r.id = some r :=
  find?_id orderly.distinct member

end Tables
end Store
end Venues
