import Venues.Fault
import Venues.Store.Cell
import Venues.Store.Like

/-! # Formulas

A formula is a test on the columns of a row that the store can carry out. Its answer is one of three:
a comparison with null is neither true nor false but unknown, and only true selects a row. Related
rows are looked up in their table: some row is there that the inner formula selects, or there is none.
-/

namespace Venues.Store

/-- How a column is compared with a cell. -/
inductive Comparison where
  | equal
  | below
  | above
  | atMost
  | atLeast
  deriving DecidableEq

/-- Whether a comparison holds of two contents that compare in a given way. -/
def Comparison.holds : Comparison → Ordering → Bool
  | .equal, o => o == .eq
  | .below, o => o == .lt
  | .above, o => o == .gt
  | .atMost, o => o != .gt
  | .atLeast, o => o != .lt

/-- A test on the columns of a row. -/
inductive Formula where
  | isNull (column : String)
  | isPresent (column : String)
  | compare (column : String) (how : Comparison) (bound : Cell)
  | isIn (column : String) (cells : List Cell)
  | like (column : String) (pattern : List Char)
  /-- Some related row is selected. -/
  | related (relation : String) (inner : Formula)
  | all (parts : List Formula)
  | any (parts : List Formula)
  /-- A test with a value that cannot be handed to the store. -/
  | broken (fault : Fault)

/-! ## Joining formulas -/

namespace Formula

/-- Whether a formula is the one that is true of every row. -/
def isTrue : Formula → Bool
  | .all [] => true
  | _ => false

/-- Whether a formula is the one that is true of no row. -/
def isFalse : Formula → Bool
  | .any [] => true
  | _ => false

/-- The conjunction of some formulas. A part that is true of every row is left out, and one that is
true of no row makes all others superfluous: they are not tried. What comes out of that is a test like
any other, and is tried as a part of a larger formula. -/
def conjunction (parts : List Formula) : Formula :=
  if parts.any isFalse then .all [.any []]
  else if parts.all isTrue then .all parts
  else .all (parts.filter fun f => !f.isTrue)

/-- The disjunction of some formulas. A part that is true of no row is left out, and one that is true
of every row makes all others superfluous: they are not tried. -/
def disjunction (parts : List Formula) : Formula :=
  if parts.any isTrue then .any [.all []]
  else if parts.all isFalse then .any parts
  else .any (parts.filter fun f => !f.isFalse)

end Formula

/-! ## Three-valued answers -/

abbrev Answer := Option Bool

namespace Answer

/-- Both of two answers: false if one is, and else unknown if one is. -/
def both : Answer → Answer → Answer
  | some false, _ | _, some false => some false
  | some true, some true => some true
  | _, _ => none

/-- One of two answers: true if one is, and else unknown if one is. -/
def either : Answer → Answer → Answer
  | some true, _ | _, some true => some true
  | some false, some false => some false
  | _, _ => none

@[simp] theorem true_both (a : Answer) : both (some true) a = a := by
  rcases a with _ | _ | _ <;> rfl

@[simp] theorem both_false (a : Answer) : both a (some false) = some false := by
  rcases a with _ | _ | _ <;> rfl

@[simp] theorem false_both (a : Answer) : both (some false) a = some false := by
  rcases a with _ | _ | _ <;> rfl

@[simp] theorem false_either (a : Answer) : either (some false) a = a := by
  rcases a with _ | _ | _ <;> rfl

@[simp] theorem either_true (a : Answer) : either a (some true) = some true := by
  rcases a with _ | _ | _ <;> rfl

@[simp] theorem true_either (a : Answer) : either (some true) a = some true := by
  rcases a with _ | _ | _ <;> rfl

end Answer

/-! ## Comparing cells -/

def Comparison.answer (how : Comparison) (a b : Cell) : Answer :=
  if a.isNull || b.isNull then none else some (how.holds (a.order b))

def Cell.isOneOf (a : Cell) : List Cell → Answer
  | [] => some false
  | b :: bs => (Comparison.equal.answer a b).either (a.isOneOf bs)

/-- Whether the text of a cell fits a pattern, whatever its case. -/
def Cell.isLike (a : Cell) (pattern : List Char) : Answer :=
  if a.isNull then none else some (Like.acceptsAnyCase pattern a.chars)

/-! ## Evaluation -/

/-- How formulas see rows: the content of a column, and the rows of a relation. -/
structure View (ρ : Type) where
  cell : ρ → String → Cell
  related : ρ → String → List ρ

namespace Formula

variable {ρ : Type}

mutual

/-- The answer of a formula for a row. -/
def eval (view : View ρ) : Formula → ρ → Answer
  | .isNull column, row => some (view.cell row column).isNull
  | .isPresent column, row => some !(view.cell row column).isNull
  | .compare column how bound, row => how.answer (view.cell row column) bound
  | .isIn column cells, row => (view.cell row column).isOneOf cells
  | .like column pattern, row => (view.cell row column).isLike pattern
  | .related relation inner, row =>
    some ((view.related row relation).any fun r => eval view inner r == some true)
  | .all parts, row => evalAll view parts row
  | .any parts, row => evalAny view parts row
  | .broken _, _ => none

def evalAll (view : View ρ) : List Formula → ρ → Answer
  | [], _ => some true
  | f :: fs, row => (eval view f row).both (evalAll view fs row)

def evalAny (view : View ρ) : List Formula → ρ → Answer
  | [], _ => some false
  | f :: fs, row => (eval view f row).either (evalAny view fs row)

end

/-- Only the conjunction of nothing counts as true of every row. -/
theorem eq_of_isTrue {f : Formula} (h : f.isTrue) : f = .all [] := by
  unfold isTrue at h; split at h <;> simp_all

/-- Only the disjunction of nothing counts as true of no row. -/
theorem eq_of_isFalse {f : Formula} (h : f.isFalse) : f = .any [] := by
  unfold isFalse at h; split at h <;> simp_all

/-- Parts that are true of every row do not matter to a conjunction. -/
theorem evalAll_tried (view : View ρ) (parts : List Formula) (row : ρ) :
    evalAll view (parts.filter fun f => !f.isTrue) row = evalAll view parts row := by
  induction parts with
  | nil => rfl
  | cons f fs ih =>
    by_cases h : f.isTrue
    · rw [List.filter_cons_of_neg (by simpa using h), ih, eq_of_isTrue h]
      simp [evalAll, eval]
    · simp [h, evalAll, ih]

/-- A part that is true of no row decides a conjunction. -/
theorem evalAll_of_isFalse (view : View ρ) (parts : List Formula) (row : ρ) (h : parts.any isFalse) :
    evalAll view parts row = some false := by
  induction parts with
  | nil => simp at h
  | cons f fs ih =>
    by_cases hf : f.isFalse
    · have := eq_of_isFalse hf
      subst this
      simp [evalAll, eval, evalAny]
    · have : fs.any isFalse := by simpa [hf] using h
      simp [evalAll, ih this]

/-- What is left out of a conjunction does not change its answer. -/
theorem eval_conjunction (view : View ρ) (parts : List Formula) (row : ρ) :
    (conjunction parts).eval view row = evalAll view parts row := by
  unfold conjunction
  split
  · next h => rw [evalAll_of_isFalse view parts row h]; rfl
  · split
    · rfl
    · exact evalAll_tried view parts row

/-- Parts that are true of no row do not matter to a disjunction. -/
theorem evalAny_tried (view : View ρ) (parts : List Formula) (row : ρ) :
    evalAny view (parts.filter fun f => !f.isFalse) row = evalAny view parts row := by
  induction parts with
  | nil => rfl
  | cons f fs ih =>
    by_cases h : f.isFalse
    · rw [List.filter_cons_of_neg (by simpa using h), ih, eq_of_isFalse h]
      simp [evalAny, eval]
    · simp [h, evalAny, ih]

/-- A part that is true of every row decides a disjunction. -/
theorem evalAny_of_isTrue (view : View ρ) (parts : List Formula) (row : ρ) (h : parts.any isTrue) :
    evalAny view parts row = some true := by
  induction parts with
  | nil => simp at h
  | cons f fs ih =>
    by_cases hf : f.isTrue
    · have := eq_of_isTrue hf
      subst this
      simp [evalAny, eval, evalAll]
    · have : fs.any isTrue := by simpa [hf] using h
      simp [evalAny, ih this]

/-- What is left out of a disjunction does not change its answer. -/
theorem eval_disjunction (view : View ρ) (parts : List Formula) (row : ρ) :
    (disjunction parts).eval view row = evalAny view parts row := by
  unfold disjunction
  split
  · next h => rw [evalAny_of_isTrue view parts row h]; rfl
  · split
    · rfl
    · exact evalAny_tried view parts row

def selects (view : View ρ) (f : Formula) (row : ρ) : Bool := f.eval view row == some true

/-! ## Faults -/

mutual

/-- The faults of the values that cannot be handed to the store, in order. -/
def faults : Formula → List Fault
  | .broken fault => [fault]
  | .related _ inner => inner.faults
  | .all parts | .any parts => partFaults parts
  | _ => []

def partFaults : List Formula → List Fault
  | [] => []
  | f :: fs => f.faults ++ partFaults fs

end

mutual

def relations : Formula → List String
  | .related relation inner => relation :: inner.relations
  | .all parts | .any parts => partRelations parts
  | _ => []

def partRelations : List Formula → List String
  | [] => []
  | f :: fs => f.relations ++ partRelations fs

end

end Formula
end Venues.Store
