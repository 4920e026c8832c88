import Mathlib.Data.List.Sort
import Mathlib.Data.String.Basic
import Venues.Proofs.Magnitude
import Venues.Proofs.Outcome
import Venues.Store.Order

/-! # The order of rows

The cells that columns of one kind hold are ordered without contradiction, and so are the rows of a
model: sorting by an order that ends with the identity puts rows with distinct identities into exactly
one sequence, whatever sequence they come in and whichever index the table is walked along.
-/

namespace Venues.Store

/-! ## Cells of a kind -/

namespace Cell

/-- Whether a cell is one that a column of a kind can hold. -/
def isOf : FieldKind → Cell → Bool
  | _, .null => true
  | .text, .text _ | .uuid, .uuid _ | .truth, .whole _ | .time, .moment _ | .whole, .whole _ => true
  | .real, .real x => !x.isNaN
  | _, _ => false

/-- The place of a cell in a linear order. -/
structure Ranking (kind : FieldKind) where
  Rank : Type
  order : LinearOrder Rank
  rank : Cell → Rank
  lt_iff : ∀ a b : Cell, a.isOf kind → b.isOf kind → a.isNull = false → b.isNull = false →
    (a.order b = .lt ↔ rank a < rank b)
  gt_iff : ∀ a b : Cell, a.isOf kind → b.isOf kind → a.isNull = false → b.isNull = false →
    (a.order b = .gt ↔ rank b < rank a)

theorem exists_real {c : Cell} (fits : c.isOf .real = true) (present : c.isNull = false) :
    ∃ x, c = .real x ∧ x.isNaN = false := by
  cases c with
  | real x => exact ⟨x, rfl, (Bool.not_eq_true' _).mp fits⟩
  | null => cases present
  | _ => cases fits

/-- Comparing doubles comes down to comparing their magnitudes. -/
theorem order_real_eq {x y : Float} (hx : Magnitude.ofFloat x ≠ .undefined) (hy : Magnitude.ofFloat y ≠ .undefined) :
    (Cell.real x).order (.real y) = compare (Magnitude.ofFloat x).rank (Magnitude.ofFloat y).rank := by
  obtain ⟨_, below, above⟩ := Magnitude.compare_rank hx hy
  show (if (Magnitude.ofFloat x).lt (.ofFloat y) then Ordering.lt
    else if (Magnitude.ofFloat y).lt (.ofFloat x) then .gt else .eq) = _
  rw [below, above]
  cases compare (Magnitude.ofFloat x).rank (Magnitude.ofFloat y).rank <;> rfl

theorem order_real {x y : Float} (hx : x.isNaN = false) (hy : y.isNaN = false) :
    ((Cell.real x).order (.real y) = .lt ↔ (Magnitude.ofFloat x).rank < (Magnitude.ofFloat y).rank) ∧
    ((Cell.real x).order (.real y) = .gt ↔ (Magnitude.ofFloat y).rank < (Magnitude.ofFloat x).rank) := by
  have defined {z : Float} (hz : z.isNaN = false) : Magnitude.ofFloat z ≠ .undefined := by
    rw [Ne, Magnitude.ofFloat_eq_undefined_iff, hz]
    exact Bool.false_ne_true
  rw [order_real_eq (defined hx) (defined hy)]
  exact ⟨compare_lt_iff_lt, compare_gt_iff_gt⟩

theorem order_text (s u : String) :
    ((Cell.text s).order (.text u) = .lt ↔ s < u) ∧ ((Cell.text s).order (.text u) = .gt ↔ u < s) := by
  simp only [order, compareOfLessAndEq_eq_lt, true_and]
  exact compareOfLessAndEq_eq_gt String.le_antisymm String.le_total String.not_le s u

theorem order_uuid (u v : Uuid) :
    ((Cell.uuid u).order (.uuid v) = .lt ↔ u.bits.val < v.bits.val) ∧
    ((Cell.uuid u).order (.uuid v) = .gt ↔ v.bits.val < u.bits.val) :=
  ⟨Nat.compare_eq_lt, Nat.compare_eq_gt⟩

theorem order_whole (m n : Int) :
    ((Cell.whole m).order (.whole n) = .lt ↔ m < n) ∧ ((Cell.whole m).order (.whole n) = .gt ↔ n < m) :=
  ⟨compare_lt_iff_lt, compare_gt_iff_gt⟩

theorem order_moment (m n : Int) :
    ((Cell.moment m).order (.moment n) = .lt ↔ m < n) ∧ ((Cell.moment m).order (.moment n) = .gt ↔ n < m) :=
  ⟨compare_lt_iff_lt, compare_gt_iff_gt⟩

/-- The ranking of whole numbers, which are what truth values are kept as, too. -/
def rankingOfWhole (kind : FieldKind) (h : kind = .truth ∨ kind = .whole) : Ranking kind where
  Rank := Int
  order := inferInstance
  rank := fun | .whole n => n | _ => 0
  lt_iff := by
    rcases h with rfl | rfl <;> rintro (_ | a | _) (_ | b | _) <;> simp [isOf, isNull, order_whole]
  gt_iff := by
    rcases h with rfl | rfl <;> rintro (_ | a | _) (_ | b | _) <;> simp [isOf, isNull, order_whole]

/-- The cells of every kind are ranked. -/
def ranking : (kind : FieldKind) → Ranking kind
  | .text => {
      Rank := String
      order := inferInstance
      rank := fun | .text s => s | _ => ""
      lt_iff := by rintro (_ | _ | _ | a | _) (_ | _ | _ | b | _) <;> simp [isOf, isNull, order_text]
      gt_iff := by rintro (_ | _ | _ | a | _) (_ | _ | _ | b | _) <;> simp [isOf, isNull, order_text] }
  | .uuid => {
      Rank := Nat
      order := inferInstance
      rank := fun | .uuid u => u.bits | _ => 0
      lt_iff := by
        rintro (_ | _ | _ | _ | a | _) (_ | _ | _ | _ | b | _) <;> simp [isOf, isNull, order_uuid]
      gt_iff := by
        rintro (_ | _ | _ | _ | a | _) (_ | _ | _ | _ | b | _) <;> simp [isOf, isNull, order_uuid] }
  | .truth => rankingOfWhole .truth (.inl rfl)
  | .whole => rankingOfWhole .whole (.inr rfl)
  | .time => {
      Rank := Int
      order := inferInstance
      rank := fun | .moment wall => wall | _ => 0
      lt_iff := by
        rintro (_ | _ | _ | _ | _ | a) (_ | _ | _ | _ | _ | b) <;> simp [isOf, isNull, order_moment]
      gt_iff := by
        rintro (_ | _ | _ | _ | _ | a) (_ | _ | _ | _ | _ | b) <;> simp [isOf, isNull, order_moment] }
  | .real => {
      Rank := WithBot (WithTop Int)
      order := inferInstance
      rank := fun | .real x => (Magnitude.ofFloat x).rank | _ => ⊥
      lt_iff := by
        intro a b ha hb na nb
        obtain ⟨x, rfl, hx⟩ := exists_real ha na
        obtain ⟨y, rfl, hy⟩ := exists_real hb nb
        exact (order_real hx hy).1
      gt_iff := by
        intro a b ha hb na nb
        obtain ⟨x, rfl, hx⟩ := exists_real ha na
        obtain ⟨y, rfl, hy⟩ := exists_real hb nb
        exact (order_real hx hy).2 }

instance {kind : FieldKind} (r : Ranking kind) : LinearOrder r.Rank := r.order

/-! ## One column -/

section Column

variable {kind : FieldKind} {a b c : Cell} {descending : Bool}

theorem eq_null_of_isNull (h : a.isNull = true) : a = .null := by
  cases a <;> first | rfl | cases h

@[simp] theorem isAfter_null : a.isAfter descending .null = false := by
  cases a <;> rfl

@[simp] theorem null_isAfter : Cell.null.isAfter descending b = !b.isNull := by
  cases b <;> rfl

theorem isAfter_eq (na : a.isNull = false) (nb : b.isNull = false) :
    a.isAfter descending b = (a.order b == if descending then .lt else .gt) := by
  cases a <;> cases b <;> simp_all [isAfter, isNull]

/-- Between cells that are not null the ranks decide. -/
theorem isAfter_iff (ha : a.isOf kind) (hb : b.isOf kind) (na : a.isNull = false) (nb : b.isNull = false) :
    a.isAfter descending b = true ↔
      if descending then (ranking kind).rank a < (ranking kind).rank b
      else (ranking kind).rank b < (ranking kind).rank a := by
  rw [isAfter_eq na nb, beq_iff_eq]
  cases descending
  · exact (ranking kind).gt_iff a b ha hb na nb
  · exact (ranking kind).lt_iff a b ha hb na nb

/-- Of two cells at most one comes after the other. -/
theorem isAfter_asymm (ha : a.isOf kind) (hb : b.isOf kind) (h : a.isAfter descending b = true) :
    b.isAfter descending a = false := by
  cases na : a.isNull with
  | true => rw [eq_null_of_isNull na]; exact isAfter_null
  | false =>
    cases nb : b.isNull with
    | true => rw [eq_null_of_isNull nb, isAfter_null] at h; cases h
    | false =>
      rw [isAfter_iff ha hb na nb] at h
      rw [Bool.eq_false_iff, Ne, isAfter_iff hb ha nb na]
      cases descending
      · exact lt_asymm h
      · exact lt_asymm h

/-- A cell that comes after another comes after any third cell, or that one after the other. -/
theorem isAfter_cotrans (ha : a.isOf kind) (hb : b.isOf kind) (hc : c.isOf kind)
    (h : a.isAfter descending c = true) :
    a.isAfter descending b = true ∨ b.isAfter descending c = true := by
  have nc : c.isNull = false := by
    cases nc : c.isNull with
    | true => rw [eq_null_of_isNull nc, isAfter_null] at h; cases h
    | false => rfl
  cases nb : b.isNull with
  | true => right; rw [eq_null_of_isNull nb, null_isAfter, nc]; rfl
  | false =>
    cases na : a.isNull with
    | true => left; rw [eq_null_of_isNull na, null_isAfter, nb]; rfl
    | false =>
      rw [isAfter_iff ha hc na nc] at h
      rw [isAfter_iff ha hb na nb, isAfter_iff hb hc nb nc]
      -- whatever stands between two ranks is above the lower one or below the higher one
      have cut {x y z : (ranking kind).Rank} (h : x < z) : x < y ∨ y < z :=
        (lt_or_ge x y).imp_right fun reached => reached.trans_lt h
      cases descending
      · exact (cut h).symm
      · exact cut h

end Column
end Cell

/-! ## Several columns -/

/-- Whether cells are such as the columns of a model can hold. -/
def Model.Fits (m : Model) (cells : String → Cell) : Prop :=
  ∀ column kind, m.column? column = some kind → (cells column).isOf kind

/-- Whether a model can be sorted by an order: it has its columns. -/
def Model.Sorts (m : Model) (order : RowOrder) : Prop := ∀ o ∈ order, ∃ kind, m.column? o.1 = some kind

section Lexicographic

variable {m : Model} {order : RowOrder} {a b c : String → Cell}

/-- Of two rows at most one comes after the other. -/
theorem comesAfter_asymm (sorts : m.Sorts order) (ha : m.Fits a) (hb : m.Fits b)
    (h : comesAfter order a b = true) : comesAfter order b a = false := by
  induction order with
  | nil => cases h
  | cons o rest ih =>
    obtain ⟨⟨kind, known⟩, sorts⟩ := List.forall_mem_cons.mp sorts
    simp only [comesAfter, Bool.or_eq_true, Bool.and_eq_true, Bool.not_eq_true'] at h
    simp only [comesAfter, Bool.or_eq_false_iff, Bool.and_eq_false_iff, Bool.not_eq_false']
    rcases h with h | ⟨level, h⟩
    · exact ⟨Cell.isAfter_asymm (ha _ _ known) (hb _ _ known) h, .inl h⟩
    · exact ⟨level, .inr (ih sorts h)⟩

/-- A row that comes after another comes after any third row, or that one after the other. -/
theorem comesAfter_cotrans (sorts : m.Sorts order) (ha : m.Fits a) (hb : m.Fits b) (hc : m.Fits c)
    (h : comesAfter order a c = true) :
    comesAfter order a b = true ∨ comesAfter order b c = true := by
  induction order with
  | nil => cases h
  | cons o rest ih =>
    obtain ⟨⟨kind, known⟩, sorts⟩ := List.forall_mem_cons.mp sorts
    have ha' := ha _ _ known
    have hb' := hb _ _ known
    have hc' := hc _ _ known
    simp only [comesAfter, Bool.or_eq_true, Bool.and_eq_true, Bool.not_eq_true'] at h ⊢
    rcases h with h | ⟨level, h⟩
    · rcases Cell.isAfter_cotrans ha' hb' hc' h with h | h
      · exact .inl (.inl h)
      · exact .inr (.inl h)
    · -- `a` and `c` tie in this column; a row between them either ties as well or decides
      by_cases above : (a o.1).isAfter (o.2 == .desc) (b o.1) = true
      · exact .inl (.inl above)
      · by_cases below : (b o.1).isAfter (o.2 == .desc) (c o.1) = true
        · exact .inr (.inl below)
        · have upper : (b o.1).isAfter (o.2 == .desc) (a o.1) = false := by
            by_contra after
            rcases Cell.isAfter_cotrans hb' hc' ha' (by simpa using after) with h | h
            · exact below h
            · rw [level] at h; cases h
          have lower : (c o.1).isAfter (o.2 == .desc) (b o.1) = false := by
            by_contra after
            rcases Cell.isAfter_cotrans hc' ha' hb' (by simpa using after) with h | h
            · rw [level] at h; cases h
            · exact above h
          rcases ih sorts h with h | h
          · exact .inl (.inr ⟨upper, h⟩)
          · exact .inr (.inr ⟨lower, h⟩)

theorem comesAfter_trans (sorts : m.Sorts order) (ha : m.Fits a) (hb : m.Fits b) (hc : m.Fits c)
    (hab : comesAfter order a b = true) (hbc : comesAfter order b c = true) :
    comesAfter order a c = true := by
  rcases comesAfter_cotrans sorts ha hc hb hab with h | h
  · exact h
  · rw [comesAfter_asymm sorts hb hc hbc] at h; cases h

/-- Rows that tie agree in every column. -/
theorem isAfter_eq_false_of_tie (hab : comesAfter order a b = false) (hba : comesAfter order b a = false) :
    ∀ o ∈ order, (a o.1).isAfter (o.2 == .desc) (b o.1) = false ∧
      (b o.1).isAfter (o.2 == .desc) (a o.1) = false := by
  induction order with
  | nil => intro o member; cases member
  | cons o rest ih =>
    simp only [comesAfter, Bool.or_eq_false_iff, Bool.and_eq_false_iff, Bool.not_eq_false'] at hab hba
    have tail : ∀ x y : String → Cell, (x o.1).isAfter (o.2 == .desc) (y o.1) = false →
        ((x o.1).isAfter (o.2 == .desc) (y o.1) = true ∨ comesAfter rest y x = false) →
        comesAfter rest y x = false := by
      rintro x y level (h | h)
      · rw [level] at h; cases h
      · exact h
    intro p member
    rcases List.mem_cons.mp member with rfl | member
    · exact ⟨hab.1, hba.1⟩
    · exact ih (tail b a hba.1 hab.2) (tail a b hab.1 hba.2) p member

theorem comesAfter_append (more : RowOrder) :
    comesAfter (order ++ more) a b =
      (comesAfter order a b || (!comesAfter order b a && comesAfter more a b)) := by
  induction order with
  | nil => simp [comesAfter]
  | cons o rest ih =>
    simp only [List.cons_append, comesAfter, ih]
    cases (a o.1).isAfter (o.2 == .desc) (b o.1) <;> cases (b o.1).isAfter (o.2 == .desc) (a o.1) <;> simp

end Lexicographic

/-! ## Sorted rows -/

/-- Whether a row stands before another in an order. -/
def Precedes (order : RowOrder) (a b : Row) : Prop := comesAfter order b.cell a.cell = true

instance (order : RowOrder) (a b : Row) : Decidable (Precedes order a b) :=
  inferInstanceAs (Decidable (comesAfter order b.cell a.cell = true))

@[simp] theorem Row.cell_id (r : Row) : r.cell "id" = .uuid r.id := by
  cases r <;> rfl

/-- Rows that tie in an order with the identity are the same row. -/
theorem id_eq_of_tie {order : RowOrder} {direction : Direction} (named : ("id", direction) ∈ order)
    {a b : Row} (hab : comesAfter order a.cell b.cell = false)
    (hba : comesAfter order b.cell a.cell = false) : a.id = b.id := by
  obtain ⟨above, below⟩ := isAfter_eq_false_of_tie hab hba _ named
  -- identities are never null, so a tie in their column is equality
  have ranks (u v : Uuid) : (Cell.uuid u).isAfter (direction == .desc) (.uuid v) = true ↔ _ :=
    @Cell.isAfter_iff .uuid (.uuid u) (.uuid v) _ rfl rfl rfl rfl
  rw [Row.cell_id, Row.cell_id, Bool.eq_false_iff, Ne, ranks] at above below
  have level : a.id.bits.val = b.id.bits.val := by
    cases direction
    · exact le_antisymm (not_lt.mp above) (not_lt.mp below)
    · exact le_antisymm (not_lt.mp below) (not_lt.mp above)
  exact congrArg Uuid.mk (Fin.ext level)

/-- Merge sort sorts a list whose items satisfy a condition under which the order makes sense. -/
theorem pairwise_mergeSort_of_forall {α : Type} {p : α → Prop} {le : α → α → Bool}
    (trans : ∀ a b c, p a → p b → p c → le a b = true → le b c = true → le a c = true)
    (total : ∀ a b, p a → p b → (le a b || le b a) = true) {items : List α} (all : ∀ a ∈ items, p a) :
    (items.mergeSort le).Pairwise fun a b => le a b = true := by
  let inner : List { a // p a } := items.pmap Subtype.mk all
  let leInner (a b : { a // p a }) : Bool := le a.1 b.1
  have mapped : inner.map Subtype.val = items := by simp [inner, List.map_pmap]
  have sorted : (inner.mergeSort leInner).Pairwise fun a b => leInner a b = true :=
    List.pairwise_mergeSort (fun (a b c : { a // p a }) => trans a b c a.2 b.2 c.2)
      (fun (a b : { a // p a }) => total a b a.2 b.2) inner
  have moved := List.map_mergeSort (r := leInner) (s := le) (f := Subtype.val) (l := inner)
    fun _ _ _ _ => rfl
  rw [mapped] at moved
  rw [← moved, List.pairwise_map]
  exact sorted

section Sorting

variable {m : Model} {order : RowOrder} {rows : List Row}

/-- Sorting leaves no row behind one that it comes after. -/
theorem sortRows_pairwise (sorts : m.Sorts order) (fit : ∀ r ∈ rows, m.Fits r.cell) :
    (sortRows order rows).Pairwise fun a b => comesAfter order a.cell b.cell = false := by
  let le (a b : Row) : Bool := !comesAfter order a.cell b.cell
  have trans (a b c : Row) (ha : m.Fits a.cell) (hb : m.Fits b.cell) (hc : m.Fits c.cell)
      (hab : le a b = true) (hbc : le b c = true) : le a c = true := by
    simp only [le, Bool.not_eq_true'] at hab hbc ⊢
    by_contra after
    rcases comesAfter_cotrans sorts ha hb hc (by simpa using after) with h | h
    · rw [hab] at h; cases h
    · rw [hbc] at h; cases h
  have total (a b : Row) (ha : m.Fits a.cell) (hb : m.Fits b.cell) : (le a b || le b a) = true := by
    cases h : comesAfter order a.cell b.cell with
    | false => simp [le, h]
    | true => simp [le, comesAfter_asymm sorts ha hb h]
  simpa [sortRows, le] using pairwise_mergeSort_of_forall trans total fit

theorem sorts_indexes {column : String} {behind : List String} (direction : Direction)
    (indexed : m.indexes.lookup column = some behind) :
    m.Sorts (behind.map fun c => (c, direction)) := by
  have known : ∀ i ∈ m.indexes, ∀ c ∈ i.2, ∃ kind, m.column? c = some kind := by
    cases m <;> simp [Model.indexes, Model.column?, Model.columns, List.lookup_cons]
  simpa [Model.Sorts] using known (column, behind) (mem_of_lookup indexed)

/-- Walking a table by an order with the identity puts its rows into that order. -/
theorem walk_perm : (walk m order rows).Perm rows := by
  unfold walk
  split
  · exact .refl _
  · split
    · exact List.mergeSort_perm _ _
    · refine (List.mergeSort_perm _ _).trans ?_
      split
      · exact List.reverse_perm rows
      · exact .refl _

/-- A table that is walked by an order with the identity comes in that order, if all identities are
distinct. -/
theorem walk_pairwise {direction : Direction} (sorts : m.Sorts order) (named : ("id", direction) ∈ order)
    (fit : ∀ r ∈ rows, m.Fits r.cell) (distinct : (rows.map Row.id).Nodup) :
    (walk m order rows).Pairwise (Precedes order) := by
  have apart : (walk m order rows).Pairwise fun a b => a.id ≠ b.id := by
    rw [← List.pairwise_map]
    exact (walk_perm.map Row.id).nodup_iff.mpr distinct
  have level : (walk m order rows).Pairwise fun a b => comesAfter order a.cell b.cell = false := by
    cases order with
    | nil => cases named
    | cons o rest =>
      unfold walk
      dsimp only
      split
      · exact sortRows_pairwise sorts fit
      · rename_i behind indexed
        -- walking an index sorts by more columns than the order has, and rows that are apart in it stay so
        have sorts' := List.forall_mem_append.mpr ⟨sorts, sorts_indexes o.2 indexed⟩
        refine (sortRows_pairwise sorts' ?_).imp ?_
        · intro r member
          apply fit
          split at member
          · exact List.mem_reverse.mp member
          · exact member
        · intro a b h
          rw [comesAfter_append, Bool.or_eq_false_iff] at h
          exact h.1
  refine (level.and apart).imp ?_
  rintro a b ⟨h, different⟩
  by_contra unordered
  exact different (id_eq_of_tie named h (by simpa [Precedes] using unordered))

/-- The rows that come out of a walk through a part of a table are those of a walk through the whole
of it that belong to the part. -/
theorem walk_filter {direction : Direction} (sorts : m.Sorts order) (named : ("id", direction) ∈ order)
    (fit : ∀ r ∈ rows, m.Fits r.cell) (distinct : (rows.map Row.id).Nodup) (p : Row → Bool) :
    walk m order (rows.filter p) = (walk m order rows).filter p := by
  have part := walk_pairwise sorts named (fun r member => fit r (List.mem_of_mem_filter member))
    (distinct.sublist ((List.filter_sublist (p := p)).map Row.id))
  have whole := (walk_pairwise sorts named fit distinct).filter p
  refine List.Perm.eq_of_pairwise ?_ part whole (walk_perm.trans (walk_perm.filter p).symm)
  intro a b ha hb hab hba
  have fits {r : Row} (member : r ∈ rows) := fit r member
  have ha := fits (List.mem_of_mem_filter (walk_perm.mem_iff.mp ha))
  have hb := fits (walk_perm.mem_iff.mp (List.mem_of_mem_filter hb))
  rw [Precedes, comesAfter_asymm sorts ha hb hba] at hab
  cases hab

end Sorting

section CourtsOf

variable {t : Tables} {f : Facility}

theorem Tables.courtsOf_perm : (t.courtsOf f).Perm (t.courts.filter (Tables.owns f)) :=
  List.mergeSort_perm _ _

theorem Tables.mem_courts_of_owned {c : Court} (owned : c ∈ t.courtsOf f) : c ∈ t.courts :=
  List.mem_of_mem_filter (courtsOf_perm.mem_iff.mp owned)

end CourtsOf
end Venues.Store
