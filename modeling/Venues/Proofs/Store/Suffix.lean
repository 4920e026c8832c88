import Venues.Proofs.Store.Keyset

/-! # Keysets as suffixes of an order

The rows that the keyset of some sort keys selects are those that a sort puts behind the keys, whichever
keys are null and whichever columns of a row are. Only a sort key that is a truth value has no keyset,
though rows can be sorted by truth values.
-/

namespace Venues.Store

/-! ## Ties -/

/-- Whether two cells have the same place in every order: both are null, or neither comes first. -/
def Cell.Ties (a b : Cell) : Prop :=
  a.isNull = b.isNull ∧ (a.isNull = false → a.order b = .eq)

namespace Cell

variable {kind : FieldKind} {a b : Cell} {descending : Bool}

/-- Cells tie if neither comes after the other, in whichever direction. -/
theorem ties_iff (ha : a.isOf kind = true) (hb : b.isOf kind = true) :
    a.Ties b ↔ a.isAfter descending b = false ∧ b.isAfter descending a = false := by
  have null : Cell.null.isNull = true := rfl
  cases na : a.isNull with
  | true =>
    rw [eq_null_of_isNull na, null_isAfter, isAfter_null, Ties, null]
    cases b.isNull <;> simp
  | false =>
    cases nb : b.isNull with
    | true =>
      rw [eq_null_of_isNull nb, null_isAfter, isAfter_null, Ties, null, na]
      simp
    | false =>
      have below := (ranking kind).lt_iff a b ha hb na nb
      have above := (ranking kind).gt_iff a b ha hb na nb
      rw [Bool.eq_false_iff, Bool.eq_false_iff, Ne, Ne, isAfter_iff ha hb na nb, isAfter_iff hb ha nb na]
      cases outcome : a.order b <;> cases descending <;> simp_all [Ties]

end Cell

/-- Neither of two rows comes after the other if they tie in every column of the order. -/
theorem comesAfter_eq_false_iff_ties {order : RowOrder} {a b : String → Cell}
    (kinds : ∀ o ∈ order, ∃ kind, (a o.1).isOf kind = true ∧ (b o.1).isOf kind = true) :
    (comesAfter order a b = false ∧ comesAfter order b a = false) ↔ ∀ o ∈ order, (a o.1).Ties (b o.1) := by
  induction order with
  | nil => simp [comesAfter]
  | cons o rest ih =>
    obtain ⟨⟨kind, ha, hb⟩, kinds⟩ := List.forall_mem_cons.mp kinds
    rw [List.forall_mem_cons, ← ih kinds, @Cell.ties_iff kind _ _ (o.2 == .desc) ha hb]
    simp only [comesAfter, Bool.or_eq_false_iff, Bool.and_eq_false_iff, Bool.not_eq_false']
    -- the first column decides, or else the others do
    cases (a o.1).isAfter (o.2 == .desc) (b o.1) <;> cases (b o.1).isAfter (o.2 == .desc) (a o.1) <;> simp

/-! ## Keysets -/

section Keyset

variable {m : Model} {keys : Fields} {order : RowOrder}

/-- The keyset of values that the columns of an order can hold. Unless one of them is a truth value it
selects the rows that come strictly after them in the order, and if it is inclusive those that tie with
them in every column, too. Nothing can be asked for that comes after a truth value. -/
theorem keyset_selects_behind
    (assigned : ∀ o ∈ order, ∃ kind key, m.column? o.1 = some kind ∧ keys.get? o.1 = some key ∧
      kind.holds key = true) (inclusive : Bool) :
    ((∀ o ∈ order, m.column? o.1 = some .truth → (keys.get o.1).isNull = true) →
      ∃ f, keyset m keys order inclusive = .ok f ∧ f.faults = [] ∧
        ∀ {ρ : Type} (view : View ρ) (row : ρ), m.Fits (view.cell row) →
          (f.eval view row = some true ↔
            comesAfter order (view.cell row) (keyCells keys) = true ∨
            inclusive = true ∧ ∀ o ∈ order, (view.cell row o.1).Ties (keyCells keys o.1))) ∧
    ((∃ o ∈ order, m.column? o.1 = some .truth ∧ (keys.get o.1).isNull = false) →
      keyset m keys order inclusive = .error .misusedColumn) := by
  constructor
  · intro absent
    have known : m.Keys keys order := by
      intro o member
      obtain ⟨kind, key, column, key?, held⟩ := assigned o member
      refine ⟨kind, key, column, key?, held, fun truth => ?_⟩
      have nothing := absent o member (truth ▸ column)
      rwa [Fields.get, key?] at nothing
    obtain ⟨f, made, clean, _⟩ := @keyset_spec Row ⟨Row.cell, fun _ _ => []⟩ m keys order known inclusive
    refine ⟨f, made, clean, fun {ρ} view row fits => ?_⟩
    obtain ⟨g, made', _, selects⟩ := @keyset_spec ρ view m keys order known inclusive
    cases made.symm.trans made'
    -- values of one kind that neither come after the other tie
    have kinds : ∀ o ∈ order, ∃ kind, (view.cell row o.1).isOf kind = true ∧
        (keyCells keys o.1).isOf kind = true := by
      intro o member
      obtain ⟨kind, key, column, key?, held⟩ := assigned o member
      refine ⟨kind, fits _ _ column, ?_⟩
      rw [keyCells, Fields.get, key?]
      exact FieldKind.isOf_of_holds held
    rw [← Formula.selects_iff, selects row fits, ← comesAfter_eq_false_iff_ties kinds]
  · intro truth
    rw [keyset, keysetBranches_of_truth assigned truth]
    rfl

/-- The cells of a row that holds nothing but an identity and, maybe, whether it is published. -/
def bare (id : Fin (2 ^ 128)) (published : Cell) (column : String) : Cell :=
  if column = "id" then .uuid ⟨id⟩ else if column = "is_published" then published else .null

theorem bare_fits {id : Fin (2 ^ 128)} : Model.facility.Fits (bare id .null) := by
  intro column kind known
  unfold bare
  split
  · subst column
    cases known
    rfl
  · split <;> cases kind <;> rfl

/-- Rows that are given by their cells, and have no related rows. -/
def bareView : View (String → Cell) := ⟨fun cells => cells, fun _ _ => []⟩

/-- Behind a row without a rating there are the rows without a rating that have higher identities. -/
theorem keyset_selects_behind_unrated :
    ∃ f, keyset .facility [("rating", .null), ("id", .uuid ⟨1⟩)] [("rating", .desc), ("id", .asc)] false = .ok f ∧
      f.eval bareView (bare 2 .null) = some true ∧ f.eval bareView (bare 1 .null) ≠ some true := by
  have assigned : ∀ o ∈ ([("rating", .desc), ("id", .asc)] : RowOrder), ∃ kind key,
      Model.facility.column? o.1 = some kind ∧
        Fields.get? [("rating", .null), ("id", .uuid ⟨1⟩)] o.1 = some key ∧ kind.holds key = true := by
    rw [List.forall_mem_cons, List.forall_mem_singleton]
    exact ⟨⟨.real, _, rfl, rfl, rfl⟩, ⟨.uuid, _, rfl, rfl, rfl⟩⟩
  obtain ⟨f, made, _, selects⟩ := (keyset_selects_behind assigned false).1 (by decide)
  refine ⟨f, made, (selects bareView (bare 2 .null) bare_fits).mpr (.inl (by decide)), fun selected => ?_⟩
  rcases (selects bareView (bare 1 .null) bare_fits).mp selected with after | ⟨inclusive, _⟩
  · exact absurd after (by decide)
  · cases inclusive

/-- Rows that are published come after one that is not, but nothing can be asked for that does. -/
theorem keyset_of_truth :
    comesAfter [("is_published", .asc), ("id", .asc)] (bareView.cell (bare 1 (.whole 1)))
      (keyCells [("is_published", .bool false), ("id", .uuid ⟨2⟩)]) = true ∧
    keyset .facility [("is_published", .bool false), ("id", .uuid ⟨2⟩)]
      [("is_published", .asc), ("id", .asc)] false = .error .misusedColumn :=
  ⟨by decide, rfl⟩

end Keyset
end Venues.Store
