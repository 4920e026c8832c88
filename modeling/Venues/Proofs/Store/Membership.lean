import Venues.Proofs.Predicate.Raw
import Venues.Proofs.Store.Agreement

/-! # Lists with null among their items

Evaluated on a record, a list of values accepts what equals one of its items, and null equals null. The store finds
null on no list. So the two ways differ on rows that hold null in a column whose list has null, and on no others,
as far as times on a list are written as columns keep them, without an offset.
-/

namespace Venues

/-- A value as a column keeps it: a time without its offset. -/
def Value.naive : Value → Value
  | .time t => .time t.naive
  | v => v

namespace Store

variable {t : Tables} {m : Model} {kind : FieldKind} {v w : Value} {column : String}

/-! ## Items of a list -/

/-- Whether a value can stand on a list for a column of a kind: it is null, or of the kind and such that the store
can be handed it. -/
def Listable (kind : FieldKind) (w : Value) : Prop := w.isNull = true ∨ kind.admits w = true ∧ w.isBounded = true

theorem bindTo_of_listable (listable : Listable kind w) : bindTo kind w = .ok (Cell.ofValue w) := by
  rcases listable with null | ⟨admitted, bounded⟩
  · rw [Value.isNull_eq_true null]
    cases kind <;> rfl
  · exact bindTo_of_admits admitted bounded

theorem bindAll_of_listable {ws : List Value} (listable : ∀ w ∈ ws, Listable kind w) :
    bindAll kind ws = .ok (ws.map Cell.ofValue) := by
  cases null : ws.any Value.isNull with
  | false =>
    have typed : ∀ w ∈ ws, kind.admits w = true ∧ w.isBounded = true := fun w member =>
      (listable w member).resolve_left (List.any_eq_false.mp null w member)
    exact bindAll_of_admits (fun w member => (typed w member).1) fun w member => (typed w member).2
  | true =>
    -- with a null among them, each value is handed over as if it stood alone
    have handed : (ws.map fun w => ((Form.of kind w).bind w).map (Cell.adapted kind)) =
        ws.map fun w => .ok (Cell.ofValue w) := List.map_congr_left fun w member => bindTo_of_listable (listable w member)
    unfold bindAll
    simp only [null, if_true, handed]
    rw [if_neg (by simp [isRefused]), List.mapM_map]
    exact mapM_eq_ok fun w _ => rfl

/-- A list on a column becomes the test whether the cell is one of those on the list. -/
theorem compile_oneOf {ws : List Value} (known : m.column? column = some kind) (listable : ∀ w ∈ ws, Listable kind w) :
    compile m (.oneOf column ws) = .ok (.isIn column (ws.map Cell.ofValue)) := by
  have flat : ws.any Value.isNested = false := by
    rw [List.any_eq_false]
    intro w member
    rcases listable w member with null | ⟨admitted, _⟩
    · rw [Value.isNull_eq_true null]
      decide
    · have single := Value.isSingle_of_admits admitted
      simp_all [Value.isSingle]
  simp only [compile, Model.kindOf, known, ok_bind, flat, Bool.and_false, Bool.false_eq_true, if_false,
    bindAll_of_listable listable, Formula.with]

theorem same_null (present : v.isNull = false) : v.same .null = false := by
  cases v <;> first | rfl | cases present

/-- Nothing of a kind equals what is of the kind but not a number. -/
theorem same_of_undefined (held : kind.holds v = true) (admitted : kind.admits w = true)
    (undefined : w.isDefined = false) : v.same w = false := by
  cases w with
  | float x =>
    have notNumber : Magnitude.ofFloat x = .undefined :=
      Magnitude.ofFloat_eq_undefined_iff.mpr (by simpa [Value.isDefined] using undefined)
    cases kind <;> cases admitted
    cases v with
    | float y =>
      rw [(Value.lt?_of_magnitude rfl rfl).2, notNumber]
      simp [Magnitude.same]
    | null => rfl
    | _ => cases held
  | _ => cases undefined

/-- A time of a column is compared with the time of an item alone, not with its offset. -/
theorem answer_time {own time : Timestamp} (naive : own.offset = none) :
    (Comparison.equal.answer (Cell.ofValue (.time own)) (Cell.ofValue (.time time)) == some true) =
      (Value.time own).same (Value.time time).naive := by
  simp [Comparison.answer, Cell.ofValue, Cell.isNull, Comparison.holds, Cell.order, Value.naive, Value.same,
    Timestamp.same, Timestamp.comparable, Timestamp.naive, Timestamp.instant, naive]

/-- The store finds a value equal to an item if both are there, and equal but for the offset of the item. -/
theorem answer_item (held : kind.holds v = true) (kept : ∀ time, v = .time time → time.offset = none)
    (listable : Listable kind w) : (Comparison.equal.answer (Cell.ofValue v) (Cell.ofValue w) == some true) =
      (!v.isNull && v.same w.naive) := by
  have unknown (null : (Cell.ofValue w).isNull = true) :
      (Comparison.equal.answer (Cell.ofValue v) (Cell.ofValue w) == some true) = false := by
    simp [Comparison.answer, null]
  cases absent : v.isNull with
  | true => simp [Comparison.answer, FieldKind.isNull_ofValue held, absent]
  | false =>
    rw [Bool.not_false, Bool.true_and]
    rcases listable with null | ⟨admitted, bounded⟩
    · obtain rfl := Value.isNull_eq_true null
      rw [unknown rfl]
      exact (same_null absent).symm
    -- of the kinds only times are kept otherwise than they are given: without their offset
    by_cases timed : kind = .time
    · subst timed
      obtain ⟨time, rfl⟩ : ∃ time, w = .time time := by cases w <;> first | exact ⟨_, rfl⟩ | cases admitted
      have admitted' := (FieldKind.admits_of_holds held absent).1
      obtain ⟨own, rfl⟩ : ∃ own, v = .time own := by cases v <;> first | exact ⟨_, rfl⟩ | cases admitted'
      exact answer_time (kept own rfl)
    · have same : w.naive = w := by
        cases kind <;> cases w <;> first | rfl | cases admitted
        exact absurd rfl timed
      rw [same]
      cases defined : w.isDefined with
      | true =>
        exact (same_eq_answer timed held (FieldKind.holds_of_admits admitted bounded defined)
          (FieldKind.isNull_of_admits admitted)).symm
      | false =>
        rw [same_of_undefined held admitted defined]
        refine unknown ?_
        cases w <;> first | cases defined | skip
        simp_all [Cell.ofValue, Cell.ofFloat, Value.isDefined, Cell.isNull]

/-- Where null does not meet null, what equals an item is there. -/
theorem same_item_iff {ws : List Value} (naive : ∀ w ∈ ws, w.naive = w)
    (filled : (∃ w ∈ ws, w.isNull = true) → v.isNull = false) :
    (∃ w ∈ ws, v.same w = true) ↔ v.isNull = false ∧ ∃ w ∈ ws, v.same w.naive = true := by
  constructor
  · rintro ⟨w, item, same⟩
    refine ⟨?_, w, item, by rwa [naive w item]⟩
    cases given : w.isNull with
    | true => exact filled ⟨w, item, given⟩
    | false =>
      -- null equals nothing that is there
      cases null : v.isNull with
      | false => rfl
      | true =>
        rw [Value.isNull_eq_true null, Value.null_same given] at same
        cases same
  · rintro ⟨_, w, item, same⟩
    exact ⟨w, item, by rwa [naive w item] at same⟩

/-! ## Lists on columns -/

/-- Whether lists are those of an object, each under the name of a column and with items for this column. -/
structure AreListed (m : Model) (lists : List (String × List Value)) : Prop where
  distinct : (lists.map Prod.fst).Nodup
  typed : ∀ l ∈ lists, ∃ kind, m.column? l.1 = some kind ∧ ∀ w ∈ l.2, Listable kind w

/-- The raw filters that ask for items of some lists. -/
def rawLists (lists : List (String × List Value)) : Fields := lists.map fun l => (l.1, .list l.2)

variable {lists : List (String × List Value)} {r : Row} {n : Nat}

theorem bound?_of_column (known : m.column? column = some kind) : Filter.bound? column = none := by
  have plain : ∀ m : Model, ∀ c ∈ m.columns, Filter.bound? c.1 = none := by
    intro m
    cases m <;> decide +kernel
  exact plain m (column, kind) (Model.mem_columns known)

/-- Raw filters of lists ask for an item of each list. -/
theorem ofRaw_rawLists (listed : AreListed m lists) :
    Predicate.ofRaw (rawLists lists) = .all (lists.map fun l => .oneOf l.1 l.2) := by
  have leaves : ∀ f ∈ rawLists lists, Predicate.isObject f.2 = false := by
    intro f member
    obtain ⟨l, _, rfl⟩ := List.mem_map.mp member
    rfl
  have distinct : ((rawLists lists).map Prod.fst).Nodup := by
    simpa [rawLists, Function.comp_def] using listed.distinct
  have plain : ∀ e ∈ rawLists lists, Filter.bound? e.1 = none ∧ e.2.isNull = false := by
    intro e member
    obtain ⟨l, there, rfl⟩ := List.mem_map.mp member
    obtain ⟨kind, known, _⟩ := listed.typed l there
    exact ⟨bound?_of_column known, rfl⟩
  rw [Predicate.ofRaw, Predicate.ofObjects_of_leaves leaves, Predicate.ofLeaves_of_leaves leaves,
    Filter.classify_eq_map distinct plain]
  simp [rawLists, Filter.conditionOf, Predicate.ofCondition, Function.comp_def]

/-- The formula of lists: the cell of each column is one of those on its list. -/
def listFormula (lists : List (String × List Value)) : Formula :=
  .conjunction (lists.map fun l => .isIn l.1 (l.2.map Cell.ofValue))

theorem compile_lists (typed : ∀ l ∈ lists, ∃ kind, m.column? l.1 = some kind ∧ ∀ w ∈ l.2, Listable kind w) :
    compile m (.all (lists.map fun l => .oneOf l.1 l.2)) = .ok (listFormula lists) := by
  have parts : compileParts m (lists.map fun l => .oneOf l.1 l.2) =
      .ok (lists.map fun l => .isIn l.1 (l.2.map Cell.ofValue)) := by
    induction lists with
    | nil => rfl
    | cons l lists ih =>
      obtain ⟨⟨kind, known, listable⟩, others⟩ := List.forall_mem_cons.mp typed
      simp only [List.map_cons, compileParts, compile_oneOf known listable, ih others, ok_bind]
  simp only [compile, parts, ok_bind, listFormula]

theorem faults_listFormula : (listFormula lists).faults = [] := by
  refine Formula.faults_conjunction fun f member => ?_
  obtain ⟨l, _, rfl⟩ := List.mem_map.mp member
  rfl

/-- The store selects a row if each column holds a value, and one that equals an item of its list. -/
theorem selects_listFormula (sound : t.IsSound) (kept : t.IsKept) (member : r ∈ t.rows m)
    (typed : ∀ l ∈ lists, ∃ kind, m.column? l.1 = some kind ∧ ∀ w ∈ l.2, Listable kind w) :
    (listFormula lists).selects t.view r = true ↔ ∀ l ∈ lists,
      (r.values.get l.1).isNull = false ∧ ∃ w ∈ l.2, (r.values.get l.1).same w.naive = true := by
  rw [listFormula, Formula.selects_conjunction, List.forall_mem_map]
  refine forall₂_congr fun l there => ?_
  obtain ⟨kind, known, listable⟩ := typed l there
  have column : r.model.column? l.1 = some kind := by rw [Tables.model_of_mem_rows member, known]
  have held := (sound.typed m r member).holds column
  have moment (time : Timestamp) (is : r.values.get l.1 = .time time) : time.offset = none :=
    (kept.moments m r member _ (Model.mem_columns known) time is).1
  show ((r.cell l.1).isOneOf (l.2.map Cell.ofValue) == some true) = true ↔ _
  rw [isOneOf_eq_any, List.any_map, List.any_eq_true]
  -- a row keeps its times without an offset, which is what the items lose
  have each {w : Value} (there : w ∈ l.2) := answer_item held moment (listable w there)
  constructor
  · rintro ⟨w, there, found⟩
    obtain ⟨present, same⟩ := (Bool.and_eq_true ..).mp ((each there).symm.trans found)
    exact ⟨by simpa using present, w, there, same⟩
  · rintro ⟨present, w, there, same⟩
    exact ⟨w, there, (each there).trans (by simp [present, same])⟩

/-- A record satisfies lists if each column holds what equals an item of its list. -/
theorem accepts_lists (member : r ∈ t.rows m)
    (typed : ∀ l ∈ lists, ∃ kind, m.column? l.1 = some kind ∧ ∀ w ∈ l.2, Listable kind w) :
    (∃ b, (Predicate.all (lists.map fun l => .oneOf l.1 l.2)).accepts (t.record n r) = .ok b) ∧
    ((Predicate.all (lists.map fun l => .oneOf l.1 l.2)).accepts (t.record n r) = .ok true ↔
      ∀ l ∈ lists, ∃ w ∈ l.2, (r.values.get l.1).same w = true) := by
  constructor
  · refine Predicate.exists_accepts_all (List.forall_mem_map.mpr fun l _ => ?_)
    exact ⟨_, by rw [Predicate.accepts]⟩
  · rw [Predicate.accepts_all, List.forall_mem_map]
    refine forall₂_congr fun l there => ?_
    obtain ⟨kind, known, _⟩ := typed l there
    have column : r.model.column? l.1 = some kind := by rw [Tables.model_of_mem_rows member, known]
    rw [Predicate.accepts, get_record column, Except.ok.injEq, List.any_eq_true]

/-- Lists compile, and have an answer for every record. A record satisfies them if each column holds what equals an
item, and the store selects a row if each column holds a value besides. So both find the same rows, if no row holds
null where null is on the list, and no item has an offset. -/
theorem exists_membership (sound : t.IsSound) (kept : t.IsKept) (listed : AreListed m lists) :
    ∃ f, compile m (.ofRaw (rawLists lists)) = .ok f ∧ f.faults = [] ∧
      (∀ r ∈ t.rows m, ∀ n, (∃ b, (Predicate.ofRaw (rawLists lists)).accepts (t.record n r) = .ok b) ∧
        ((Predicate.ofRaw (rawLists lists)).accepts (t.record n r) = .ok true ↔
          ∀ l ∈ lists, ∃ w ∈ l.2, (r.values.get l.1).same w = true) ∧
        (f.selects t.view r = true ↔ ∀ l ∈ lists,
          (r.values.get l.1).isNull = false ∧ ∃ w ∈ l.2, (r.values.get l.1).same w.naive = true)) ∧
      ((∀ l ∈ lists, ∀ w ∈ l.2, w.naive = w) →
        (∀ l ∈ lists, (∃ w ∈ l.2, w.isNull = true) → ∀ r ∈ t.rows m, (r.values.get l.1).isNull = false) →
          t.accepted m (.ofRaw (rawLists lists)) = .ok (t.selected m f)) := by
  rw [ofRaw_rawLists listed]
  have made := compile_lists listed.typed
  have selects {r : Row} (member : r ∈ t.rows m) := selects_listFormula sound kept member listed.typed
  refine ⟨_, made, faults_listFormula, fun r member n => ?_, fun naive filled => ?_⟩
  · obtain ⟨answered, accepts⟩ := accepts_lists member listed.typed
    exact ⟨answered, accepts, selects member⟩
  -- without null among the values, and offsets among the items, both ask for the same
  · have agrees : Agrees t m (.all (lists.map fun l => .oneOf l.1 l.2)) := by
      refine ⟨_, made, faults_listFormula, fun r member n _ => ?_⟩
      obtain ⟨⟨b, answer⟩, accepts⟩ := accepts_lists (n := n) member listed.typed
      have same : b = true ↔ (listFormula lists).selects t.view r = true := by
        rw [selects member, ← @Except.ok.injEq Fault Bool b true, ← answer, accepts]
        exact forall₂_congr fun l there =>
          same_item_iff (naive l there) fun null => filled l there null r member
      rw [answer, Bool.eq_iff_iff.mpr same]
    obtain ⟨f, made', _, same⟩ := agrees.accepted_eq sound
    cases made.symm.trans made'
    exact same

/-- Two facilities, one of them without a ward. -/
def quarters : Tables where
  facilities := [1, 2].map fun id => { (default : Facility) with
    id := ⟨id⟩, ownerId := some ⟨9⟩, name := some "", slug := some "", address := some "", isPublished := some true,
    ward := if id = 1 then some "East" else none, createdAt := some ⟨0, none⟩, updatedAt := some ⟨0, none⟩ }

theorem quarters_isSound : quarters.IsSound where
  present := rfl
  distinct m := by cases m <;> decide
  typed m := by cases m <;> decide
  bounded m := by cases m <;> decide

theorem quarters_isKept : quarters.IsKept where
  needed m := by cases m <;> decide
  moments m := by cases m <;> decide

/-- Lists of wards and of times, the latter with null among them. -/
def wardsAndTimes : List (String × List Value) :=
  [("ward", [.text "West", .text "East"]), ("created_at", [.null, .time ⟨0, none⟩])]

theorem areListed_wardsAndTimes : AreListed .facility wardsAndTimes where
  distinct := by decide
  typed := by
    intro l member
    simp only [wardsAndTimes, List.mem_cons, List.not_mem_nil, or_false] at member
    rcases member with rfl | rfl
    · exact ⟨.text, rfl, by simp [Listable, FieldKind.admits, Value.isBounded]⟩
    · exact ⟨.time, rfl, by simp [Listable, FieldKind.admits, Value.isBounded, Value.isNull]⟩

/-- Both ways find the facility that has a ward. -/
theorem exists_membership_quarters : quarters.IsSound ∧ quarters.IsKept ∧ AreListed .facility wardsAndTimes ∧
    ∃ f, compile .facility (.ofRaw (rawLists wardsAndTimes)) = .ok f ∧
      quarters.accepted .facility (.ofRaw (rawLists wardsAndTimes)) = .ok (quarters.selected .facility f) := by
  obtain ⟨f, made, _, _, same⟩ := exists_membership quarters_isSound quarters_isKept areListed_wardsAndTimes
  have naive : ∀ l ∈ wardsAndTimes, ∀ w ∈ l.2, w.naive = w := by simp [wardsAndTimes, Value.naive, Timestamp.naive]
  exact ⟨quarters_isSound, quarters_isKept, areListed_wardsAndTimes, f, made, same naive (by decide +kernel)⟩

/-- A facility without a ward is accepted where null is on the list of wards, but the store does not select it. -/
theorem accepted_null : ∃ f, compile .facility (.ofRaw [("ward", .list [.null])]) = .ok f ∧
    (quarters.accepted .facility (.ofRaw [("ward", .list [.null])])).map (List.map Row.id) = .ok [⟨2⟩] ∧
    quarters.selected .facility f = [] := by
  refine ⟨_, rfl, ?_, ?_⟩
  · with_unfolding_all rfl
  · with_unfolding_all rfl

end Store
end Venues
