import Venues.Proofs.Store.Cell
import Venues.Proofs.Store.Compile
import Venues.Proofs.Store.Like
import Venues.Store.Record

/-! # Two ways to evaluate a predicate

A predicate can be evaluated on the records of rows, and it can be compiled to a formula that the store
carries out. Both select the same rows: what the store says of a column is what is said of the value itself,
and where its answer is unknown the predicate is false.
-/

namespace Venues

open Store (Model Row Tables Cell Comparison Formula View)
open Store (compile compileParts boundFormulas conditionFormula compile_ofCondition faults_conditionFormula)

/-! ## Conditions that are answered alike -/

/-- Whether a text can be looked for: it is made of ASCII characters, and has no NUL among them. -/
def Text.IsSought (needle : String) : Prop := ∀ c ∈ needle.toList, isAscii c = true ∧ c ≠ Char.ofNat 0

instance (needle : String) : Decidable (Text.IsSought needle) :=
  List.decidableBAll (fun c => Text.isAscii c = true ∧ c ≠ Char.ofNat 0) needle.toList

/-- Whether a text can be looked into: it has no NUL, and no character beyond the ASCII characters becomes
one of them in lower case. -/
def Text.IsSearched (text : String) : Prop := FoldsPlainly text.toList ∧ Char.ofNat 0 ∉ text.toList

instance (text : String) : Decidable (Text.IsSearched text) :=
  inferInstanceAs (Decidable (Text.FoldsPlainly text.toList ∧ Char.ofNat 0 ∉ text.toList))

/-- Whether a condition is one on numbers, or looks for a text that can be looked for. -/
def Condition.IsPlain : Condition → Prop
  | .equals v => v.isDefined = true
  | .range least most => least.isDefined = true ∧ most.isDefined = true
  | .oneOf vs => ∀ v ∈ vs, v.isDefined = true
  | .contains needle => Text.IsSought needle

instance : (c : Condition) → Decidable c.IsPlain
  | .equals v => inferInstanceAs (Decidable (v.isDefined = true))
  | .range least most => inferInstanceAs (Decidable (least.isDefined = true ∧ most.isDefined = true))
  | .oneOf vs => inferInstanceAs (Decidable (∀ v ∈ vs, v.isDefined = true))
  | .contains needle => inferInstanceAs (Decidable (Text.IsSought needle))

/-- Whether the texts in which a condition looks for a text can be looked into. -/
def Condition.Searches (texts : String → Prop) : Condition → Prop
  | .contains _ => ∀ text, texts text → Text.IsSearched text
  | _ => True

namespace Store

variable {ρ : Type} {view : View ρ} {row : ρ} {kind : FieldKind} {column : String} {v w : Value} {c : Condition}

/-- A comparison selects a value if it is there and compares that way. -/
theorem answer_ofValue (how : Comparison) (held : kind.holds v = true) (held' : kind.holds w = true)
    (given : w.isNull = false) : (how.answer (Cell.ofValue v) (Cell.ofValue w) == some true) =
      (!v.isNull && how.holds ((Cell.ofValue v).order (Cell.ofValue w))) := by
  rw [Comparison.answer, FieldKind.isNull_ofValue held, FieldKind.isNull_ofValue held', given]
  cases v.isNull <;> cases how.holds ((Cell.ofValue v).order (Cell.ofValue w)) <;> rfl

theorem same_eq_answer (timeless : kind ≠ .time) (held : kind.holds v = true) (held' : kind.holds w = true)
    (given : w.isNull = false) :
    v.same w = (Comparison.equal.answer (Cell.ofValue v) (Cell.ofValue w) == some true) := by
  rw [answer_ofValue .equal held held' given]
  cases absent : v.isNull with
  | true => rw [Value.isNull_eq_true absent, Value.null_same given]; rfl
  | false => exact (Value.compares_of_holds timeless held absent held' given).same

/-- What is there lies beyond a bound if the store does not find it on the right side. -/
theorem isBelow_eq_answer (timeless : kind ≠ .time) (held : kind.holds v = true) (present : v.isNull = false)
    (held' : kind.holds w = true) (given : w.isNull = false) :
    v.isBelow w = .ok !(Comparison.atLeast.answer (Cell.ofValue v) (Cell.ofValue w) == some true) ∧
      w.isBelow v = .ok !(Comparison.atMost.answer (Cell.ofValue v) (Cell.ofValue w) == some true) := by
  have compares := Value.compares_of_holds timeless held present held' given
  rw [answer_ofValue .atLeast held held' given, answer_ofValue .atMost held held' given, present]
  simp only [Value.isBelow, compares.below, compares.above, Comparison.holds, Bool.not_false, Bool.true_and, bne,
    Bool.not_not, and_self]

theorem between_eq_answers {least most : Value} (timeless : kind ≠ .time) (held : kind.holds v = true)
    (low : least.isNull = true ∨ kind.holds least = true) (high : most.isNull = true ∨ kind.holds most = true) :
    v.between least most = .ok (!v.isNull &&
      ((least.isNull || Comparison.atLeast.answer (Cell.ofValue v) (Cell.ofValue least) == some true) &&
        (most.isNull || Comparison.atMost.answer (Cell.ofValue v) (Cell.ofValue most) == some true))) := by
  unfold Value.between
  cases absent : v.isNull with
  | true => rfl
  | false =>
    -- an open bound is no test at all
    have tooLow (given : least.isNull = false) :=
      (isBelow_eq_answer timeless held absent (low.resolve_left (by simp [given])) given).1
    have tooHigh (given : most.isNull = false) :=
      (isBelow_eq_answer timeless held absent (high.resolve_left (by simp [given])) given).2
    generalize (Comparison.atLeast.answer (Cell.ofValue v) (Cell.ofValue least) == some true) = reached at tooLow ⊢
    generalize (Comparison.atMost.answer (Cell.ofValue v) (Cell.ofValue most) == some true) = kept at tooHigh ⊢
    cases openLow : least.isNull <;> cases openHigh : most.isNull
    · rw [tooLow openLow, tooHigh openHigh]
      cases reached <;> cases kept <;> rfl
    · rw [tooLow openLow]
      cases reached <;> rfl
    · rw [tooHigh openHigh]
      cases kept <;> rfl
    · rfl

theorem all_boundFormulas (how : Comparison) (bound : Value) : (boundFormulas column how bound).all
    (fun f => f.selects view row) = (bound.isNull || how.answer (view.cell row column) (Cell.ofValue bound) == some true) := by
  unfold boundFormulas
  cases bound.isNull with
  | true => rfl
  | false => simp [Formula.selects, Formula.eval]

theorem selects_all {parts : List Formula} :
    (Formula.all parts).selects view row = parts.all fun f => f.selects view row := by
  rw [Bool.eq_iff_iff, Formula.selects_iff, Formula.eval, Formula.evalAll_eq_true_iff, List.all_eq_true]

theorem selects_conditionFormula_range {least most : Value} :
    (conditionFormula column (.range least most)).selects view row = (!(view.cell row column).isNull &&
      ((least.isNull || Comparison.atLeast.answer (view.cell row column) (Cell.ofValue least) == some true) &&
        (most.isNull || Comparison.atMost.answer (view.cell row column) (Cell.ofValue most) == some true))) := by
  rw [← all_boundFormulas, ← all_boundFormulas, ← List.all_append, conditionFormula]
  split
  · rename_i open'
    rw [List.isEmpty_iff.mp open', List.all_nil, Bool.and_true, Formula.selects, Formula.eval]
    cases (view.cell row column).isNull <;> rfl
  · rename_i some'
    rw [selects_all]
    -- with a bound at hand, a comparison finds out by itself that nothing is there
    cases absent : (view.cell row column).isNull with
    | false => rfl
    | true =>
      rw [Bool.not_true, Bool.false_and, List.all_eq_false]
      obtain ⟨f, member⟩ := List.exists_mem_of_ne_nil _ (mt List.isEmpty_iff.mpr some')
      refine ⟨f, member, ?_⟩
      have compares : ∃ how bound, f = .compare column how bound := by
        rcases List.mem_append.mp member with member | member <;> unfold boundFormulas at member <;>
          split at member <;> simp_all
      obtain ⟨how, bound, rfl⟩ := compares
      simp [Formula.selects, Formula.eval, Comparison.answer, absent]

theorem isOneOf_eq_any {a : Cell} {cells : List Cell} :
    (a.isOneOf cells == some true) = cells.any fun b => Comparison.equal.answer a b == some true := by
  induction cells with
  | nil => rfl
  | cons b cells ih =>
    rw [Cell.isOneOf, List.any_cons, ← ih, Bool.eq_iff_iff, Bool.or_eq_true, beq_iff_eq, beq_iff_eq, beq_iff_eq]
    exact Answer.either_eq_true_iff

/-- A text that can be looked for is found in a value exactly if it is found in its cell. -/
theorem contains_eq_isLike {needle : String} (held : FieldKind.text.holds v = true) (sought : Text.IsSought needle)
    (searched : ∀ text, v = .text text → Text.IsSearched text) :
    v.contains (.text needle) = .ok ((Cell.ofValue v).isLike (Like.holding needle.toList) == some true) := by
  obtain null | ⟨text, rfl⟩ : v.isNull = true ∨ ∃ text, v = .text text := by
    cases v <;> first | exact .inl rfl | exact .inr ⟨_, rfl⟩ | cases held
  · rw [Value.isNull_eq_true null]
    rfl
  obtain ⟨folds, noNul⟩ := searched text rfl
  have held : (Value.text text).holds needle = Like.acceptsAnyCase (Like.holding needle.toList) text.toList := by
    rw [Like.acceptsAnyCase_holding (fun member => (sought _ member).2 rfl) noNul]
    exact Text.isPartOf_lower (fun c member => (sought c member).1) folds
  show Except.ok ((Value.text text).holds needle) = _
  rw [held]
  show _ = Except.ok (some (Like.acceptsAnyCase (Like.holding needle.toList) text.toList) == some true)
  cases Like.acceptsAnyCase (Like.holding needle.toList) text.toList <;> rfl

/-- A condition on a column accepts the record of a row exactly if its formula selects the row. -/
theorem accepts_ofCondition {record : Value} (stored : view.cell row column = Cell.ofValue (record.fields.get column))
    (held : kind.holds (record.fields.get column) = true) (timeless : kind ≠ .time) (typed : c.IsOf kind)
    (testable : c.IsTestable kind) (plain : c.IsPlain)
    (searches : c.Searches fun text => record.fields.get column = .text text) :
    (Predicate.ofCondition column c).accepts record = .ok ((conditionFormula column c).selects view row) := by
  have given {w : Value} (admitted : kind.admits w = true) : w.isNull = false := FieldKind.isNull_of_admits admitted
  -- for each form of condition: its values are handed to the store as the cells that hold them
  cases c with
  | equals w =>
    have same := same_eq_answer timeless held (FieldKind.holds_of_admits typed testable plain) (given typed)
    rw [Predicate.ofCondition, Predicate.accepts, same, ← stored]
    rfl
  | range least most =>
    obtain ⟨low, high⟩ := typed
    obtain ⟨_, lowBounded, highBounded⟩ := testable
    have between := between_eq_answers timeless held
      (low.imp_right fun admitted => FieldKind.holds_of_admits admitted lowBounded plain.1)
      (high.imp_right fun admitted => FieldKind.holds_of_admits admitted highBounded plain.2)
    rw [Predicate.ofCondition, Predicate.accepts, between, selects_conditionFormula_range, stored,
      FieldKind.isNull_ofValue held]
  | oneOf ws =>
    have same (w : Value) (member : w ∈ ws) := same_eq_answer timeless held
      (FieldKind.holds_of_admits (typed w member) (testable w member) (plain w member)) (given (typed w member))
    rw [Predicate.ofCondition, Predicate.accepts, conditionFormula, Formula.selects, Formula.eval, isOneOf_eq_any,
      List.any_map, stored]
    refine congrArg Except.ok ?_
    rw [Bool.eq_iff_iff, List.any_eq_true, List.any_eq_true]
    exact exists_congr fun w => and_congr_right fun member => by rw [same w member, Function.comp_apply]
  | contains needle =>
    cases typed
    rw [Predicate.ofCondition, Predicate.accepts, contains_eq_isLike held plain searches, ← stored]
    rfl

/-! ## Records -/

variable {t : Tables} {m target : Model} {r : Row} {relation : String} {n : Nat} {p : Predicate}

/-- A record has the columns of its row, whatever its depth. -/
theorem get_record (known : r.model.column? column = some kind) :
    (t.record n r).fields.get column = r.values.get column := by
  have there := Row.get?_values known
  have front (more : Fields) : Fields.get (r.values ++ more) column = r.values.get column := by
    rw [Fields.get, Fields.get?, List.lookup_append, show r.values.lookup column = _ from there]
    rfl
  cases n with
  | zero => rfl
  | succ n =>
    cases r with
    | facility f => exact front _
    | court c => exact front _

theorem get_courts (f : Facility) : (t.record (n + 1) (.facility f)).fields.get "courts" =
    .list ((t.courtsOf f).map fun c => t.record n (.court c)) := rfl

theorem get_facility (c : Court) : (t.record (n + 1) (.court c)).fields.get "facility" =
    .ofOption ((t.facilityOf? c).map fun f => t.record n (.facility f)) := rfl

theorem someItem_eq_any {α β : Type} {items : List α} {test : β → Outcome Bool} {write : α → β} {holds : α → Bool}
    (each : ∀ a ∈ items, test (write a) = .ok (holds a)) :
    someItem test (items.map write) = .ok (items.any holds) := by
  induction items with
  | nil => rfl
  | cons a items ih =>
    obtain ⟨first, others⟩ := List.forall_mem_cons.mp each
    rw [List.map_cons, someItem, first, List.any_cons]
    cases holds a with
    | true => rfl
    | false => exact ih others

/-- The facility of a court is the only one that owns it. -/
theorem any_owners (distinct : ((t.rows .facility).map Row.id).Nodup) (c : Court) (holds : Facility → Bool) :
    (t.facilities.filter fun f => Tables.owns f c).any holds = (t.facilityOf? c).any holds := by
  unfold Tables.facilityOf?
  have ids : (t.facilities.map Facility.id).Nodup := by
    simpa [Tables.rows, Function.comp_def, Row.id] using distinct
  generalize t.facilities = fs at ids ⊢
  -- behind the first owner no other facility has its identity
  induction fs with
  | nil => rfl
  | cons f fs ih =>
    rw [List.map_cons, List.nodup_cons] at ids
    cases owned : Tables.owns f c with
    | false => simpa [List.filter_cons, List.find?_cons, owned] using ih ids.2
    | true =>
      have others : (fs.filter fun g => Tables.owns g c) = [] := by
        rw [List.filter_eq_nil_iff]
        intro g member owns
        simp only [Tables.owns, beq_iff_eq] at owned owns
        refine ids.1 (List.mem_map.mpr ⟨g, member, ?_⟩)
        exact Option.some.inj (owns.symm.trans owned)
      simp [owned, others]

/-! ## Predicates -/

/-- Whether a predicate compiles to a formula that selects the rows whose records it accepts. -/
def Agrees (t : Tables) (m : Model) (p : Predicate) : Prop :=
  ∃ f, compile m p = .ok f ∧ f.faults = [] ∧
    ∀ r ∈ t.rows m, ∀ n, p.depth ≤ n → p.accepts (t.record n r) = .ok (f.selects t.view r)

theorem agrees_parts {ps : List Predicate} (each : ∀ p ∈ ps, Agrees t m p) :
    ∃ fs, compileParts m ps = .ok fs ∧ (∀ f ∈ fs, f.faults = []) ∧
      ∀ r ∈ t.rows m, ∀ n, Predicate.depthOfParts ps ≤ n →
        Predicate.allAccept ps (t.record n r) = .ok (fs.all fun f => f.selects t.view r) ∧
        Predicate.anyAccept ps (t.record n r) = .ok (fs.any fun f => f.selects t.view r) := by
  induction ps with
  | nil => exact ⟨[], rfl, by simp, fun r member n deep => ⟨rfl, rfl⟩⟩
  | cons p ps ih =>
    obtain ⟨⟨f, made, clean, agrees⟩, each⟩ := List.forall_mem_cons.mp each
    obtain ⟨fs, rest, others, agree⟩ := ih each
    refine ⟨f :: fs, ?_, List.forall_mem_cons.mpr ⟨clean, others⟩, ?_⟩
    · simp only [compileParts, made, rest, ok_bind]
    intro r member n deep
    rw [Predicate.depthOfParts] at deep
    have first := agrees r member n (le_of_max_le_left deep)
    obtain ⟨all, any⟩ := agree r member n (le_of_max_le_right deep)
    rw [Predicate.allAccept, Predicate.anyAccept, first, List.all_cons, List.any_cons]
    -- evaluation stops as soon as the answer is known
    cases f.selects t.view r with
    | true => exact ⟨all, rfl⟩
    | false => exact ⟨rfl, any⟩

theorem agrees_all {ps : List Predicate} (each : ∀ p ∈ ps, Agrees t m p) : Agrees t m (.all ps) := by
  obtain ⟨fs, made, clean, agree⟩ := agrees_parts each
  refine ⟨.conjunction fs, by simp only [compile, made, ok_bind], Formula.faults_conjunction clean, ?_⟩
  intro r member n deep
  have joined : (Formula.conjunction fs).selects t.view r = fs.all fun f => f.selects t.view r := by
    rw [Bool.eq_iff_iff, Formula.selects_conjunction, List.all_eq_true]
  rw [Predicate.accepts, joined]
  exact (agree r member n deep).1

theorem agrees_any {ps : List Predicate} (each : ∀ p ∈ ps, Agrees t m p) : Agrees t m (.any ps) := by
  obtain ⟨fs, made, clean, agree⟩ := agrees_parts each
  refine ⟨.disjunction fs, by simp only [compile, made, ok_bind], Formula.faults_disjunction clean, ?_⟩
  intro r member n deep
  have joined : (Formula.disjunction fs).selects t.view r = fs.any fun f => f.selects t.view r := by
    rw [Bool.eq_iff_iff, Formula.selects_disjunction, List.any_eq_true]
  rw [Predicate.accepts, joined]
  exact (agree r member n deep).2

/-- A predicate on related rows is evaluated on the same rows both ways. -/
theorem agrees_related (distinct : ((t.rows .facility).map Row.id).Nodup)
    (leads : m.relation? relation = some target) (inner : Agrees t target p) :
    Agrees t m (.related relation p) := by
  obtain ⟨f, made, clean, agrees⟩ := inner
  refine ⟨.related relation f, by simp only [compile, leads, made, ok_bind], clean, ?_⟩
  intro r member n deep
  obtain ⟨n, rfl⟩ : ∃ k, n = k + 1 := ⟨n - 1, by rw [Predicate.depth] at deep; omega⟩
  replace deep : p.depth ≤ n := Nat.le_of_succ_le_succ deep
  have selects : (Formula.related relation f).selects t.view r =
      (t.related r relation).any fun a => f.selects t.view a := by
    show (some _ == some true) = _
    rw [Bool.eq_iff_iff, beq_iff_eq, Option.some_inj]
    rfl
  rw [selects, Predicate.accepts]
  unfold Model.relation? at leads
  split at leads
  · cases leads
    obtain ⟨g, _, rfl⟩ := List.mem_map.mp member
    have courts : ∀ c ∈ t.courtsOf g, p.accepts (t.record n (.court c)) = .ok (f.selects t.view (.court c)) := by
      intro c owned
      exact agrees _ (List.mem_map_of_mem (Tables.mem_courts_of_owned owned)) n deep
    rw [get_courts]
    refine (someItem_eq_any courts).trans (congrArg Except.ok ?_)
    -- a record lists the courts by age, and the store finds them in the order of their table
    rw [Tables.courtsOf_perm.any_eq]
    show _ = ((t.courts.filter (Tables.owns g)).map Row.court).any _
    rw [List.any_map]
    rfl
  · cases leads
    obtain ⟨c, _, rfl⟩ := List.mem_map.mp member
    have owners : ((t.related (.court c) "facility").any fun a => f.selects t.view a) =
        (t.facilityOf? c).any fun g => f.selects t.view (.facility g) := by
      rw [← any_owners distinct]
      exact List.any_map
    rw [get_facility, owners]
    cases found : t.facilityOf? c with
    | none => rfl
    | some g =>
      have there : g ∈ t.facilities := List.mem_of_find?_eq_some found
      have inner := agrees _ (List.mem_map_of_mem (f := Row.facility) there) n deep
      cases n with
      | zero => exact inner
      | succ n => exact inner
  · cases leads

/-- The predicates that are evaluated alike on sound tables are closed. -/
theorem isClosed_agrees (sound : t.IsSound) : Predicate.IsClosed (Agrees t) :=
  ⟨agrees_all, agrees_any, agrees_related (sound.distinct .facility)⟩

/-! ## Conditions on columns -/

/-- Whether all texts in a column of a model can be looked into. -/
def Tables.IsSearched (t : Tables) (m : Model) (column : String) : Prop :=
  ∀ r ∈ t.rows m, ∀ text, r.values.get column = .text text → Text.IsSearched text

instance : (v : Value) → Decidable (∀ text, v = .text text → Text.IsSearched text)
  | .text s => decidable_of_iff (Text.IsSearched s) ⟨fun searched _ same => Value.text.inj same ▸ searched, fun all => all s rfl⟩
  | .null | .bool _ | .int _ | .float _ | .uuid _ | .time _ | .list _ | .object _ => isTrue nofun

instance (t : Tables) (m : Model) (column : String) : Decidable (t.IsSearched m column) :=
  inferInstanceAs (Decidable (∀ r ∈ t.rows m, ∀ text, r.values.get column = .text text → Text.IsSearched text))

theorem agrees_ofCondition (sound : t.IsSound) (known : m.column? column = some kind) (timeless : kind ≠ .time)
    (typed : c.IsOf kind) (testable : c.IsTestable kind) (plain : c.IsPlain)
    (searched : ∀ needle, c = .contains needle → t.IsSearched m column) : Agrees t m (.ofCondition column c) := by
  refine ⟨conditionFormula column c, compile_ofCondition known typed testable, faults_conditionFormula column c, ?_⟩
  intro r member n _
  have column' : r.model.column? column = some kind := by rw [Tables.model_of_mem_rows member, known]
  have same := get_record (t := t) (n := n) column'
  apply accepts_ofCondition _ _ timeless typed testable plain
  · rw [same]
    cases c with
    | contains needle => exact searched needle rfl r member
    | _ => trivial
  · rw [same]
    rfl
  · rw [same]
    exact (sound.typed m r member).holds column'

/-- That nothing is there is told alike of all columns. -/
theorem agrees_isNull (sound : t.IsSound) (known : m.column? column = some kind) :
    Agrees t m (.equals column .null) := by
  refine ⟨.isNull column, by simp only [compile, Model.kindOf, known, compareFormula, ok_bind], rfl, ?_⟩
  intro r member n _
  have column' : r.model.column? column = some kind := by rw [Tables.model_of_mem_rows member, known]
  have null := FieldKind.isNull_ofValue ((sound.typed m r member).holds column')
  show Except.ok _ = Except.ok (some (Cell.ofValue (r.values.get column)).isNull == some true)
  rw [get_record column', null]
  cases r.values.get column <;> rfl

/-- The rows that a predicate accepts are those that its formula selects. -/
theorem Agrees.accepted_eq (sound : t.IsSound) (agrees : Agrees t m p) :
    ∃ f, compile m p = .ok f ∧ f.faults = [] ∧ t.accepted m p = .ok (t.selected m f) := by
  obtain ⟨f, made, clean, agrees⟩ := agrees
  refine ⟨f, made, clean, ?_⟩
  have there (m : Model) : t.need m = .ok () := Tables.need_eq_ok sound.present
  have each : [Model.facility, Model.court].forM t.need = .ok () := forM_eq_ok fun m _ => there m
  have rows := filterM_eq_ok fun r member => agrees r member (p.depth + 1) (Nat.le_succ _)
  unfold Tables.accepted
  simp only [there, each, rows, ok_bind, Tables.selected]
  split <;> rfl

end Store
end Venues
