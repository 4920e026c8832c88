import Venues.Proofs.Store.Reading
import Venues.Store.Change

/-! # Readings that start at a row

A reading that starts at a row reads this row once more, if its predicate selects the row, and passes over
the first row that it reads. So it goes on behind the row only as long as the row is still selected: from a
row that is selected no more, the row that follows it is passed over in its place.
-/

namespace Venues.Store

/-- The reading of a number of rows that starts at a row, and passes over the first row that it reads. -/
def Reading.behind (p : Predicate) (order : RowOrder) (id : Value) (n : Int) : Reading where
  filter := some p
  order := order
  skip := 1
  take := some n
  anchor := some id

namespace Tables

/-! ## Rows that tie -/

variable {t : Tables} {m : Model} {order : RowOrder} {direction : Direction} {rows : List Row} {r : Row}

theorem IsKeyed.eq_of_id (keyed : t.IsKeyed m) {a b : Row} (ha : a ∈ t.rows m) (hb : b ∈ t.rows m)
    (same : a.id = b.id) : a = b :=
  List.inj_on_of_nodup_map keyed.distinct ha hb same

/-- Sorted rows that do not come before a row: the row itself, if it is one of them, and the rows behind it. -/
theorem filter_not_before (keyed : t.IsKeyed m) (sorts : m.Sorts order) (named : ("id", direction) ∈ order)
    (there : ∀ a ∈ rows, a ∈ t.rows m) (sorted : rows.Pairwise (Precedes order)) (member : r ∈ t.rows m) :
    (r ∈ rows → rows.filter (fun a => !comesAfter order r.cell a.cell) =
      r :: rows.filter fun a => comesAfter order a.cell r.cell) ∧
    (r ∉ rows → rows.filter (fun a => !comesAfter order r.cell a.cell) =
      rows.filter fun a => comesAfter order a.cell r.cell) := by
  have fits : ∀ a ∈ rows, m.Fits a.cell := fun a listed => keyed.fits a (there a listed)
  constructor
  · intro listed
    obtain ⟨front, back, rfl⟩ := List.append_of_mem listed
    rw [filter_not_comesAfter sorts fits sorted, filter_comesAfter sorts fits sorted]
  · intro absent
    refine List.filter_congr fun a listed => ?_
    cases after : comesAfter order a.cell r.cell with
    | true => rw [comesAfter_asymm sorts (fits a listed) (keyed.fits r member) after, Bool.not_false]
    | false =>
      -- a row that does not come after `r` either comes before it or is `r` itself
      rw [Bool.not_eq_false']
      by_contra before
      have tie := id_eq_of_tie named after (by simpa using before)
      exact absent (keyed.eq_of_id (there a listed) member tie ▸ listed)

/-! ## Whole listings -/

theorem faults_conjunction_singleton (f : Formula) : (Formula.conjunction [f]).faults = f.faults := by
  unfold Formula.conjunction
  split
  · rename_i nothing
    have never : f.isFalse = true := by simpa using nothing
    rw [Formula.eq_of_isFalse never]
    rfl
  · split
    · simp [Formula.faults, Formula.partFaults]
    · rename_i tried
      have tried : f.isTrue = false := by simpa using tried
      simp [tried, Formula.faults, Formula.partFaults]

/-- All rows that a predicate selects can be listed only if the predicate compiles without a fault, and the
order is one of columns. -/
theorem of_findMany {p : Predicate} (listed : t.findMany m { filter := some p, order := order } = .ok rows) :
    ∃ f, compile m p = .ok f ∧ f.faults = [] ∧ m.Sorts order ∧ rows = t.answers m order f := by
  unfold findMany at listed
  obtain ⟨f, compiled, listed⟩ := bind_eq_ok.mp (guarded_eq_ok listed)
  unfold fetch at listed
  obtain ⟨_, same, listed⟩ := bind_eq_ok.mp listed
  cases same
  obtain ⟨_, _, listed⟩ := bind_eq_ok.mp listed
  obtain ⟨_, columns, listed⟩ := bind_eq_ok.mp listed
  obtain ⟨_, checked, listed⟩ := bind_eq_ok.mp listed
  obtain ⟨_, _, listed⟩ := bind_eq_ok.mp listed
  cases listed
  -- what was checked before anything was read: the formula has no faults, and the order is one of columns
  refine ⟨f, compiled, faults_conjunction_singleton f ▸ faults_of_check checked, fun o member => ?_, ?_⟩
  · obtain ⟨_, known, _⟩ := map_eq_ok.mp (of_forM_eq_ok columns o member)
    unfold Model.kindOf at known
    split at known
    · exact ⟨_, ‹_›⟩
    · cases known
  · have same : t.selected m (.conjunction [f]) = t.selected m f := by
      refine List.filter_congr fun r _ => ?_
      rw [Bool.eq_iff_iff, Formula.selects_conjunction, List.forall_mem_singleton]
    show walk m order _ = _
    rw [same, answers]

/-! ## Readings behind a row -/

section Behind

variable {p : Predicate} {f : Formula} {id : Value} {n : Int}

variable (sound : t.IsSound) (compiled : compile m p = .ok f) (clean : f.faults = []) (sorts : m.Sorts order)
  (member : r ∈ t.rows m) (names : identity? id = some r.id)
include sound compiled sorts member names

/-- There is no reading behind a row in an order by truth values. -/
theorem findMany_behind_of_truth (kept : t.IsKept) (truth : ∃ o ∈ order, m.column? o.1 = some .truth) :
    t.findMany m (.behind p order id n) = .error .misusedColumn := by
  have model := model_of_mem_rows member
  have found := (sound.orderly m).named_eq member names
  have known : ∀ o ∈ order, ∃ kind key, m.column? o.1 = some kind ∧
      Fields.get? (order.map fun o => (o.1, r.values.get o.1)) o.1 = some key ∧ kind.holds key = true := by
    intro o listed
    obtain ⟨kind, column⟩ := sorts o listed
    exact ⟨kind, _, column, get?_keys (List.mem_map_of_mem listed),
      (sound.typed m r member).holds (model ▸ column)⟩
  have keyed : ∃ o ∈ order, m.column? o.1 = some .truth ∧
      (Fields.get (order.map fun o => (o.1, r.values.get o.1)) o.1).isNull = false := by
    obtain ⟨o, listed, column⟩ := truth
    -- no column of truth values may be null
    have all : ∀ c ∈ m.columns, c.2 = .truth → c.1 ∈ m.needed := by cases m <;> decide
    have present := kept.needed m r member o.1 (all _ (Model.mem_columns column) rfl)
    refine ⟨o, listed, column, ?_⟩
    rwa [Fields.get, get?_keys (List.mem_map_of_mem listed), Option.getD_some]
  have keyless : keyset m (order.map fun o => (o.1, r.values.get o.1)) order true = .error .misusedColumn := by
    rw [keyset, keysetBranches_of_truth known keyed]
    rfl
  unfold findMany
  simp only [Reading.behind, compileOptional, compiled, ok_bind, found, keysOf_eq (model ▸ sorts), keyless]
  rfl

include clean

/-- No more rows can be asked for than can be counted with 64 bits. -/
theorem findMany_behind_of_long (ordered : ∀ o ∈ order, m.column? o.1 ≠ some .truth) (long : isShort n = false) :
    t.findMany m (.behind p order id n) = .error .overflow := by
  have model := model_of_mem_rows member
  have orders := sorts.orders ordered
  have known := sound.hasKeys member orders
  have found := (sound.orderly m).named_eq member names
  obtain ⟨g, made, cleanKeys, _⟩ := @keyset_row_spec Row t.view m order r known true
  have fetched : t.fetch m (.behind p order id n) [f, g] = .error .overflow :=
    @fetch_eq_overflow t m (.behind p order id n) [f, g] [] (by simp [Reading.behind]) sorts rfl sound.present
      (by simp [clean, cleanKeys]) n List.mem_cons_self long
  unfold findMany
  simp only [Reading.behind, compileOptional, compiled, ok_bind, found, keysOf_eq (model ▸ sorts), made] at fetched ⊢
  rw [fetched]
  rfl

/-- A reading of a number of rows behind a row has these of the selected rows that come after it, if the row is
selected itself. If it is not, the first of them is passed over. -/
theorem findMany_behind_eq (ordered : ∀ o ∈ order, m.column? o.1 ≠ some .truth) (named : ("id", direction) ∈ order)
    {size : Nat} (short : isShort size = true) :
    (r ∈ t.answers m order f → t.findMany m (.behind p order id size) =
      .ok (((t.answers m order f).filter fun a => comesAfter order a.cell r.cell).take size)) ∧
    (r ∉ t.answers m order f → t.findMany m (.behind p order id size) =
      .ok ((((t.answers m order f).filter fun a => comesAfter order a.cell r.cell).drop 1).take size)) := by
  have model := model_of_mem_rows member
  have orders := sorts.orders ordered
  have known := sound.hasKeys member orders
  have orderly := sound.orderly m
  have readable : Readable m (.behind p order id size) := by
    refine ⟨by simp [Reading.behind], orders, ⟨direction, named⟩, fun n asked => ?_⟩
    simp only [Reading.behind, Option.toList_some, List.mem_append, List.mem_singleton] at asked
    rcases asked with rfl | rfl
    · exact short
    · rfl
  have found := findMany_anchor orderly readable compiled clean rfl member known rfl names rfl
  obtain ⟨among, missing⟩ := filter_not_before orderly.toIsKeyed sorts named
    (fun a answer => mem_rows_of_mem_answers (m := m) (f := f) answer)
    (answers_pairwise orderly.toIsKeyed orders named) member
  constructor <;> intro selected <;> rw [found] <;> simp only [Reading.behind]
  · rw [among selected]
    exact congrArg Except.ok (portion_eq 1 size _)
  · rw [missing selected]
    exact congrArg Except.ok (portion_eq 1 size _)

end Behind

/-- A reading of a number of rows behind a row, next to the listing of all rows that the predicate selects.
As long as the listing holds the row, the reading has the rows of the listing that come after it, up to the
number. Once it does not, the first of these rows is passed over too. Numbers of more than 64 bits, and
orders by truth values, have no reading behind a row. -/
theorem findMany_behind_listed (sound : t.IsSound) (kept : t.IsKept) {p : Predicate}
    (listed : t.findMany m { filter := some p, order := order } = .ok rows) (named : ("id", direction) ∈ order)
    (member : r ∈ t.rows m) {id : Value} (names : identity? id = some r.id) (size : Nat) :
    (∃ f, compile m p = .ok f ∧ ∀ a, a ∈ rows ↔ a ∈ t.rows m ∧ f.selects t.view a = true) ∧
    rows.Pairwise (Precedes order) ∧
    ((∃ o ∈ order, m.column? o.1 = some .truth) →
      t.findMany m (.behind p order id size) = .error .misusedColumn) ∧
    ((∀ o ∈ order, m.column? o.1 ≠ some .truth) →
      (isShort size = false → t.findMany m (.behind p order id size) = .error .overflow) ∧
      (isShort size = true →
        (r ∈ rows → t.findMany m (.behind p order id size) =
          .ok ((rows.filter fun a => comesAfter order a.cell r.cell).take size)) ∧
        (r ∉ rows → t.findMany m (.behind p order id size) =
          .ok (((rows.filter fun a => comesAfter order a.cell r.cell).drop 1).take size)))) := by
  obtain ⟨f, compiled, clean, sorts, rfl⟩ := of_findMany listed
  have keyed := (sound.orderly m).toIsKeyed
  refine ⟨⟨f, compiled, fun a => walk_perm.mem_iff.trans List.mem_filter⟩,
    walk_pairwise sorts named (fun a selected => keyed.fits a (mem_of_mem_selected selected))
      (keyed.distinct.sublist (List.filter_sublist.map Row.id)), ?_, fun ordered => ⟨?_, ?_⟩⟩
  · exact findMany_behind_of_truth sound compiled sorts member names kept
  · exact findMany_behind_of_long sound compiled clean sorts member names ordered
  · exact findMany_behind_eq sound compiled clean sorts member names ordered named

/-- A facility with a moment at which it was deleted. -/
def inn (id : Fin (2 ^ 128)) (deletedAt : Option Timestamp) : Facility :=
  { (default : Facility) with
    id := ⟨id⟩, ownerId := some ⟨0⟩, name := some "inn", slug := some "inn", address := some ""
    isPublished := some true, createdAt := some ⟨0, none⟩, updatedAt := some ⟨0, none⟩, deletedAt := deletedAt }

/-- Three such facilities, of which the first one is deleted. -/
def inns : Tables where
  facilities := [inn 1 (some ⟨0, none⟩), inn 2 none, inn 3 none]

theorem inns_isSound : inns.IsSound where
  present := rfl
  distinct := by
    intro m
    cases m <;> decide
  typed := by
    intro m
    cases m <;> decide
  bounded := by
    intro m
    cases m <;> decide

theorem inns_isKept : inns.IsKept where
  needed m := by cases m <;> decide
  moments m := by cases m <;> decide

theorem exists_answers_inns : ∃ f, compile .facility (.equals "deleted_at" .null) = .ok f ∧ f.faults = [] ∧
    inns.answers .facility [("id", .asc)] f = [.facility (inn 2 none), .facility (inn 3 none)] := by
  refine ⟨_, rfl, rfl, ?_⟩
  -- the table holds the two facilities in the order of their identities
  exact List.mergeSort_of_pairwise (by with_unfolding_all decide)

/-- The facilities that are not deleted, in the order of their identities. -/
theorem findMany_inns : inns.findMany .facility { filter := some (.equals "deleted_at" .null), order := [("id", .asc)] } =
    .ok [.facility (inn 2 none), .facility (inn 3 none)] := by
  obtain ⟨f, compiled, clean, found⟩ := exists_answers_inns
  rw [findMany_eq (inns_isSound.orderly .facility) readable_by_id compiled clean rfl rfl rfl, found]
  rfl

/-- Behind the second facility, which is listed, there is the third one. -/
theorem findMany_behind_listed_inns :
    inns.findMany .facility (.behind (.equals "deleted_at" .null) [("id", .asc)] (.uuid ⟨2⟩) 1) =
      .ok [.facility (inn 3 none)] :=
  have member : Row.facility (inn 2 none) ∈ inns.rows .facility := List.mem_map_of_mem (by simp [inns])
  have reads := findMany_behind_listed inns_isSound inns_isKept findMany_inns (List.mem_singleton.mpr rfl) member
    (rfl : identity? (.uuid ⟨2⟩) = some ⟨2⟩) 1
  ((reads.2.2.2 (by decide)).2 rfl).1 (by simp)

/-- Behind the first facility, which is not listed any more, the second one is passed over. -/
theorem findMany_behind_passesOver :
    inns.IsSound ∧ inns.IsKept ∧ Row.facility (inn 1 (some ⟨0, none⟩)) ∈ inns.rows .facility ∧
    inns.findMany .facility { filter := some (.equals "deleted_at" .null), order := [("id", .asc)] } =
      .ok [.facility (inn 2 none), .facility (inn 3 none)] ∧
    (([.facility (inn 2 none), .facility (inn 3 none)] : List Row).filter fun a =>
      comesAfter [("id", .asc)] a.cell (Row.facility (inn 1 (some ⟨0, none⟩))).cell).take 1 =
        [.facility (inn 2 none)] ∧
    inns.findMany .facility (.behind (.equals "deleted_at" .null) [("id", .asc)] (.uuid ⟨1⟩) 1) =
      .ok [.facility (inn 3 none)] := by
  have member : Row.facility (inn 1 (some ⟨0, none⟩)) ∈ inns.rows .facility := List.mem_map_of_mem (by simp [inns])
  obtain ⟨f, compiled, clean, found⟩ := exists_answers_inns
  have reads := findMany_behind_eq inns_isSound compiled clean orders_by_id.sorts member
    (rfl : identity? (.uuid ⟨1⟩) = some ⟨1⟩) (by decide) List.mem_cons_self (rfl : isShort (1 : Nat) = true)
  rw [found] at reads
  refine ⟨inns_isSound, inns_isKept, member, findMany_inns, by with_unfolding_all rfl, ?_⟩
  exact reads.2 (by simp [inn])

end Tables
end Venues.Store
