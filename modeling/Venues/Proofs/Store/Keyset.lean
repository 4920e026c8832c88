import Venues.Proofs.Store.Formula
import Venues.Proofs.Store.Sound

/-! # Keysets

A keyset is a formula that is made of sort keys: a branch for each column of an order, with the tests
for agreement in the columns before it. Where null is tested apart from all other values it selects
exactly the rows that come after the keys in the order, and with its last branch those that tie with
them, too.
-/

namespace Venues.Store

/-! ## One column -/

section Column

variable {kind : FieldKind} {key : Value} {cell : Cell}

theorem Comparison.answer_eq {how : Comparison} {bound : Cell} (present : cell.isNull = false)
    (bounded : bound.isNull = false) : how.answer cell bound = some (how.holds (cell.order bound)) := by
  simp [answer, present, bounded]

/-- Comparing a column with a key in the direction of an order asks for the cells that come after it,
null aside. -/
theorem answer_beyond {direction : Direction} (fits : cell.isOf kind = true)
    (held : kind.holds key = true) (present : key.isNull = false) :
    (if direction = .desc then Comparison.below else .above).answer cell (Cell.ofValue key) = some true ∨
        cell.isNull = true ↔
      cell.isAfter (direction == .desc) (Cell.ofValue key) = true := by
  have bounded : (Cell.ofValue key).isNull = false := by rw [FieldKind.isNull_ofValue held, present]
  cases null : cell.isNull with
  | true => simp [Cell.eq_null_of_isNull null, bounded]
  | false =>
    rw [Comparison.answer_eq null bounded, Cell.isAfter_iff fits (FieldKind.isOf_of_holds held) null bounded,
      or_iff_left (by simp), Option.some_inj]
    have below := (Cell.ranking kind).lt_iff _ _ fits (FieldKind.isOf_of_holds held) null bounded
    have above := (Cell.ranking kind).gt_iff _ _ fits (FieldKind.isOf_of_holds held) null bounded
    cases direction
    · simpa [Comparison.holds] using above
    · simpa [Comparison.holds] using below

/-- Comparing a column with a key for equality asks for the cells that tie with it. -/
theorem answer_equal {descending : Bool} (fits : cell.isOf kind = true) (held : kind.holds key = true)
    (present : key.isNull = false) :
    Comparison.equal.answer cell (Cell.ofValue key) = some true ↔
      cell.isAfter descending (Cell.ofValue key) = false ∧
        (Cell.ofValue key).isAfter descending cell = false := by
  have bounded : (Cell.ofValue key).isNull = false := by rw [FieldKind.isNull_ofValue held, present]
  have keyFits := FieldKind.isOf_of_holds held
  cases null : cell.isNull with
  | true =>
    rw [Cell.eq_null_of_isNull null, Cell.null_isAfter, bounded]
    simp [Comparison.answer, Cell.isNull]
  | false =>
    have below := (Cell.ranking kind).lt_iff _ _ fits keyFits null bounded
    have above := (Cell.ranking kind).gt_iff _ _ fits keyFits null bounded
    rw [Comparison.answer_eq null bounded, Option.some_inj, Bool.eq_false_iff, Bool.eq_false_iff, Ne, Ne,
      Cell.isAfter_iff fits keyFits null bounded, Cell.isAfter_iff keyFits fits bounded null]
    cases outcome : cell.order (Cell.ofValue key) <;> cases descending <;> simp_all [Comparison.holds]

variable {ρ : Type} {view : View ρ} {column : String}

/-- A column is compared with a value of its kind without a fault. Truth values have no order. -/
theorem compareFormula_of_admits {how : Comparison} {v : Value} (admitted : kind.admits v = true)
    (bounded : v.isBounded = true) (ordered : kind = .truth → how = .equal) :
    compareFormula column kind how v = .ok (.compare column how (Cell.ofValue v)) := by
  have bound := bindTo_of_admits admitted bounded
  cases v with
  | null => cases kind <;> cases admitted
  | bool b =>
    have truth : kind = .truth := by cases kind <;> first | rfl | cases admitted
    rw [ordered truth]
    simp only [compareFormula, bound, Formula.with]
  | _ => simp only [compareFormula, bound, Formula.with]

/-- The formula for the rows that come after a key in one column. -/
theorem afterFormula_spec (direction : Direction) (held : kind.holds key = true)
    (ordered : kind = .truth → key.isNull = true) :
    ∃ f, afterFormula column kind direction key = .ok f ∧ f.faults = [] ∧
      ∀ row : ρ, (view.cell row column).isOf kind = true → (f.selects view row = true ↔
        (view.cell row column).isAfter (direction == .desc) (Cell.ofValue key) = true) := by
  cases absent : key.isNull with
  | true =>
    have nothing : Cell.ofValue key = .null := by cases key <;> first | rfl | cases absent
    refine ⟨.any [], by simp [afterFormula, absent], rfl, fun row fits => ?_⟩
    simp [Formula.selects_any, nothing]
  | false =>
    obtain ⟨admitted, bounded⟩ := FieldKind.admits_of_holds held absent
    have compared := fun how => @compareFormula_of_admits kind column how key admitted bounded
      fun truth => by rw [ordered truth] at absent; cases absent
    refine ⟨.any [.compare column _ (Cell.ofValue key), .isNull column],
      by simp only [afterFormula, absent, compared]; rfl, rfl, fun row fits => ?_⟩
    rw [← answer_beyond fits held absent, Formula.selects_any]
    simp [Formula.selects_iff, Formula.eval]

/-- Truth values have no order, so nothing can be asked for that comes after one. -/
theorem afterFormula_truth (direction : Direction) (held : FieldKind.truth.holds key = true)
    (present : key.isNull = false) : afterFormula column .truth direction key = .error .misusedColumn := by
  obtain ⟨b, rfl⟩ : ∃ b, key = .bool b := by
    have admitted := (FieldKind.admits_of_holds held present).1
    cases key <;> first | exact ⟨_, rfl⟩ | cases admitted
  cases direction <;> rfl

/-- The formula for the rows that agree with a key in one column. -/
theorem sameFormula_spec (descending : Bool) (held : kind.holds key = true) :
    ∃ f, compareFormula column kind .equal key = .ok f ∧ f.faults = [] ∧
      ∀ row : ρ, (view.cell row column).isOf kind = true → (f.selects view row = true ↔
        (view.cell row column).isAfter descending (Cell.ofValue key) = false ∧
        (Cell.ofValue key).isAfter descending (view.cell row column) = false) := by
  cases absent : key.isNull with
  | true =>
    have null : key = .null := by cases key <;> first | rfl | cases absent
    subst null
    refine ⟨.isNull column, rfl, rfl, fun row fits => ?_⟩
    simp [Formula.selects_iff, Formula.eval, Cell.ofValue]
  | false =>
    obtain ⟨admitted, bounded⟩ := FieldKind.admits_of_holds held absent
    refine ⟨_, compareFormula_of_admits admitted bounded fun _ => rfl, rfl, fun row fits => ?_⟩
    rw [← answer_equal fits held absent, Formula.selects_iff, Formula.eval]

end Column

/-! ## Several columns -/

/-- Whether sort keys are such as a row of a model has: one for each column of the order, of the kind of
the column or null. A key that is a truth value has no keyset. -/
def Model.Keys (m : Model) (keys : Fields) (order : RowOrder) : Prop :=
  ∀ o ∈ order, ∃ kind key, m.column? o.1 = some kind ∧ keys.get? o.1 = some key ∧
    kind.holds key = true ∧ (kind = .truth → key.isNull = true)

section Order

variable {ρ : Type} {view : View ρ} {m : Model} {keys : Fields} {order : RowOrder}

/-- The cells of sort keys. -/
def keyCells (keys : Fields) (column : String) : Cell := Cell.ofValue (keys.get column)

/-- A branch of a keyset is a test behind tests for agreement in other columns. -/
theorem branch_spec {equal : List Formula} {after : Formula} (clean : ∀ f ∈ equal, f.faults = [])
    (afterClean : after.faults = []) :
    (if equal.isEmpty then after else .conjunction (equal ++ [after])).faults = [] ∧
      ∀ row : ρ, (if equal.isEmpty then after else .conjunction (equal ++ [after])).selects view row = true ↔
        (∀ f ∈ equal, f.selects view row = true) ∧ after.selects view row = true := by
  constructor
  · split
    · exact afterClean
    · exact Formula.faults_conjunction (List.forall_mem_append.mpr ⟨clean, by simpa using afterClean⟩)
  · intro row
    cases equal with
    | nil => simp
    | cons f fs => simp [Formula.selects_conjunction, or_imp, forall_and, and_assoc]

/-- What the branches of a keyset select, behind tests for agreement in other columns. -/
theorem keysetBranches_spec (known : m.Keys keys order) (equal : List Formula)
    (clean : ∀ f ∈ equal, f.faults = []) :
    ∃ same branches, keysetBranches m keys equal order = .ok (equal ++ same, branches) ∧
      (∀ f ∈ same, f.faults = []) ∧ (∀ f ∈ branches, f.faults = []) ∧
      ∀ row : ρ, m.Fits (view.cell row) →
        ((∀ f ∈ same, f.selects view row = true) ↔
          comesAfter order (view.cell row) (keyCells keys) = false ∧
          comesAfter order (keyCells keys) (view.cell row) = false) ∧
        ((∃ f ∈ branches, f.selects view row = true) ↔
          (∀ f ∈ equal, f.selects view row = true) ∧
          comesAfter order (view.cell row) (keyCells keys) = true) := by
  induction order generalizing equal with
  | nil =>
    refine ⟨[], [], by simp [keysetBranches], by simp, by simp, fun row fits => ?_⟩
    simp [comesAfter]
  | cons o rest ih =>
    obtain ⟨column, direction⟩ := o
    obtain ⟨⟨kind, key, column?, key?, held, ordered⟩, known⟩ := List.forall_mem_cons.mp known
    have cell : keyCells keys column = Cell.ofValue key := by rw [keyCells, Fields.get, key?]; rfl
    obtain ⟨after, afterOk, afterClean, selectsAfter⟩ :=
      @afterFormula_spec kind key ρ view column direction held ordered
    obtain ⟨tie, tieOk, tieClean, selectsTie⟩ :=
      @sameFormula_spec kind key ρ view column (direction == .desc) held
    have clean' : ∀ f ∈ equal ++ [tie], f.faults = [] :=
      List.forall_mem_append.mpr ⟨clean, by simpa using tieClean⟩
    obtain ⟨same, branches, rec, sameClean, branchesClean, selects⟩ := ih known (equal ++ [tie]) clean'
    obtain ⟨branchClean, selectsBranch⟩ := @branch_spec ρ view equal after clean afterClean
    refine ⟨tie :: same, _ :: branches, ?_, List.forall_mem_cons.mpr ⟨tieClean, sameClean⟩,
      List.forall_mem_cons.mpr ⟨branchClean, branchesClean⟩, fun row fits => ?_⟩
    · simp only [keysetBranches, Model.kindOf, column?, key?, afterOk, tieOk, rec, ok_bind,
        List.append_assoc, List.singleton_append]
    · obtain ⟨sameIff, branchesIff⟩ := selects row fits
      have tieIff := selectsTie row (fits column kind column?)
      have afterIff := selectsAfter row (fits column kind column?)
      rw [List.forall_mem_cons, List.exists_mem_cons_iff, selectsBranch, sameIff, branchesIff,
        List.forall_mem_append, List.forall_mem_singleton, tieIff, afterIff]
      simp only [comesAfter, cell, Bool.or_eq_true, Bool.or_eq_false_iff, Bool.and_eq_true,
        Bool.and_eq_false_iff, Bool.not_eq_true', Bool.not_eq_false']
      -- the first column decides, or else the others do
      cases (view.cell row column).isAfter (direction == .desc) (Cell.ofValue key) <;>
        cases (Cell.ofValue key).isAfter (direction == .desc) (view.cell row column) <;> simp

/-- A keyset selects the rows that come after its keys in the order, and if it is inclusive those that
tie with them, too. -/
theorem keyset_spec (known : m.Keys keys order) (inclusive : Bool) :
    ∃ f, keyset m keys order inclusive = .ok f ∧ f.faults = [] ∧
      ∀ row : ρ, m.Fits (view.cell row) → (f.selects view row = true ↔
        comesAfter order (view.cell row) (keyCells keys) = true ∨
        inclusive = true ∧ comesAfter order (view.cell row) (keyCells keys) = false ∧
          comesAfter order (keyCells keys) (view.cell row) = false) := by
  obtain ⟨same, branches, made, sameClean, branchesClean, selects⟩ :=
    @keysetBranches_spec ρ view m keys order known [] (by simp)
  refine ⟨_, by rw [keyset, made]; rfl, ?_, fun row fits => ?_⟩
  · apply Formula.faults_disjunction
    split
    · exact List.forall_mem_append.mpr ⟨branchesClean, by simpa using Formula.faults_conjunction sameClean⟩
    · exact branchesClean
  · obtain ⟨sameIff, branchesIff⟩ := selects row fits
    rw [Formula.selects_disjunction]
    cases inclusive
    · simpa using branchesIff
    · simp only [if_true, List.mem_append, List.mem_singleton, or_and_right, exists_or, exists_eq_left,
        Formula.selects_conjunction, List.nil_append, true_and]
      exact or_congr (by simpa using branchesIff) sameIff

/-- A key that is a truth value, wherever it stands among the others, leaves no keyset. -/
theorem keysetBranches_of_truth
    (known : ∀ o ∈ order, ∃ kind key, m.column? o.1 = some kind ∧ keys.get? o.1 = some key ∧
      kind.holds key = true)
    (truth : ∃ o ∈ order, m.column? o.1 = some .truth ∧ (keys.get o.1).isNull = false) (equal : List Formula) :
    keysetBranches m keys equal order = .error .misusedColumn := by
  induction order generalizing equal with
  | nil =>
    obtain ⟨_, member, _⟩ := truth
    cases member
  | cons o rest ih =>
    obtain ⟨column, direction⟩ := o
    obtain ⟨⟨kind, key, column?, key?, held⟩, known⟩ := List.forall_mem_cons.mp known
    by_cases first : kind = .truth → key.isNull = true
    · obtain ⟨after, afterOk, _⟩ :=
        @afterFormula_spec kind key Row ⟨Row.cell, fun _ _ => []⟩ column direction held first
      obtain ⟨tie, tieOk, _⟩ := @sameFormula_spec kind key Row ⟨Row.cell, fun _ _ => []⟩ column true held
      have later : ∃ o ∈ rest, m.column? o.1 = some .truth ∧ (keys.get o.1).isNull = false := by
        obtain ⟨o, member, isTruth, present⟩ := truth
        rcases List.mem_cons.mp member with rfl | member
        · rw [column?, Option.some_inj] at isTruth
          rw [Fields.get, key?, Option.getD_some, first isTruth] at present
          cases present
        · exact ⟨o, member, isTruth, present⟩
      rw [keysetBranches]
      simp only [Model.kindOf, column?, key?, ok_bind, afterOk, tieOk, ih known later]
      rfl
    · obtain ⟨rfl, present⟩ := Classical.not_imp.mp first
      have after := @afterFormula_truth key column direction held (Bool.eq_false_iff.mpr present)
      rw [keysetBranches]
      simp only [Model.kindOf, column?, key?, ok_bind, after]
      rfl

/-! ## Keys of rows -/

/-- The columns of an order, none of which holds truth values. -/
def Model.Orders (m : Model) (order : RowOrder) : Prop :=
  ∀ o ∈ order, ∃ kind, m.column? o.1 = some kind ∧ kind ≠ .truth

theorem Model.Sorts.orders (sorts : m.Sorts order) (untrue : ∀ o ∈ order, m.column? o.1 ≠ some .truth) :
    m.Orders order := fun o member =>
  (sorts o member).imp fun _ known => ⟨known, fun truth => untrue o member (truth ▸ known)⟩

theorem Model.Orders.sorts (orders : m.Orders order) : m.Sorts order := fun o member =>
  (orders o member).imp fun _ known => known.1

variable {r : Row}

/-- The values of a row in the columns of an order are found under their names. -/
theorem get?_keys {column : String} (member : column ∈ order.map (·.1)) :
    Fields.get? (order.map fun o => (o.1, r.values.get o.1)) column = some (r.values.get column) := by
  induction order with
  | nil => cases member
  | cons o rest ih =>
    rw [List.map_cons, Fields.get?, List.lookup_cons]
    by_cases same : column = o.1
    · simp [same]
    · rw [List.map_cons, List.mem_cons, or_iff_right same] at member
      simpa [Fields.get?, beq_false_of_ne same] using ih member

theorem keysOf_eq (sorts : r.model.Sorts order) :
    Tables.keysOf order r = .ok (order.map fun o => (o.1, r.values.get o.1)) := by
  refine mapM_eq_ok fun o member => ?_
  obtain ⟨kind, known⟩ := sorts o member
  simp only [Row.get?_values known]

theorem Row.IsTyped.hasKeys (typed : r.IsTyped) (orders : r.model.Orders order) :
    r.model.Keys (order.map fun o => (o.1, r.values.get o.1)) order := by
  intro o member
  obtain ⟨kind, known, ordered⟩ := orders o member
  exact ⟨kind, _, known, get?_keys (List.mem_map_of_mem member), typed.holds known,
    fun truth => absurd truth ordered⟩

/-- A row of sound tables has sort keys in every order without columns of truth values. -/
theorem Tables.IsSound.hasKeys {t : Tables} (sound : t.IsSound) (member : r ∈ t.rows m) (orders : m.Orders order) :
    m.Keys (order.map fun o => (o.1, r.values.get o.1)) order := by
  have keyed := (sound.typed m r member).hasKeys ((model_of_mem_rows member).symm ▸ orders)
  rwa [model_of_mem_rows member] at keyed

theorem keyCells_keys {column : String} (member : column ∈ order.map (·.1)) :
    keyCells (order.map fun o => (o.1, r.values.get o.1)) column = r.cell column := by
  rw [keyCells, Fields.get, get?_keys member]
  rfl

theorem comesAfter_congr {a a' b b' : String → Cell} (first : ∀ o ∈ order, a o.1 = a' o.1)
    (second : ∀ o ∈ order, b o.1 = b' o.1) : comesAfter order a b = comesAfter order a' b' := by
  induction order with
  | nil => rfl
  | cons o rest ih =>
    obtain ⟨first, firsts⟩ := List.forall_mem_cons.mp first
    obtain ⟨second, seconds⟩ := List.forall_mem_cons.mp second
    simp only [comesAfter, first, second, ih firsts seconds]

/-- The keyset of a row selects the rows that come after it in the order, and if it is inclusive
those that tie with it, too. -/
theorem keyset_row_spec (known : m.Keys (order.map fun o => (o.1, r.values.get o.1)) order)
    (inclusive : Bool) :
    ∃ f, keyset m (order.map fun o => (o.1, r.values.get o.1)) order inclusive = .ok f ∧
      f.faults = [] ∧ ∀ row : ρ, m.Fits (view.cell row) → (f.selects view row = true ↔
        comesAfter order (view.cell row) r.cell = true ∨
        inclusive = true ∧ comesAfter order (view.cell row) r.cell = false ∧
          comesAfter order r.cell (view.cell row) = false) := by
  obtain ⟨f, made, clean, selects⟩ := @keyset_spec ρ view m _ order known inclusive
  refine ⟨f, made, clean, fun row fits => ?_⟩
  have cells : ∀ o ∈ order,
      keyCells (order.map fun o => (o.1, r.values.get o.1)) o.1 = r.cell o.1 :=
    fun o member => keyCells_keys (List.mem_map_of_mem member)
  rw [selects row fits, comesAfter_congr (fun _ _ => rfl) cells, comesAfter_congr cells fun _ _ => rfl]

end Order
end Venues.Store
