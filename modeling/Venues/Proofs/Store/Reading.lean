import Venues.Proofs.Store.Compile
import Venues.Proofs.Uuid

/-! # What a reading answers

On orderly tables a reading of a predicate that compiles has an answer: its portion of the rows that the
predicate selects, in order. A reading that starts at a row, or behind the sort keys of one, answers with
a portion of those that do not come before the row, or come after it.
-/

namespace Venues.Store

/-! ## Parts of sorted rows -/

section Sorted

variable {m : Model} {order : RowOrder} {front back : List Row} {r : Row}

theorem not_comesAfter_self (sorts : m.Sorts order) {cells : String → Cell} (fits : m.Fits cells) :
    comesAfter order cells cells = false := by
  by_contra after
  have after : comesAfter order cells cells = true := by simpa using after
  rw [comesAfter_asymm sorts fits fits after] at after
  cases after

/-- In sorted rows, those that come after one of them stand behind it. -/
theorem filter_comesAfter (sorts : m.Sorts order) (fit : ∀ a ∈ front ++ r :: back, m.Fits a.cell)
    (sorted : (front ++ r :: back).Pairwise (Precedes order)) :
    (front ++ r :: back).filter (fun a => comesAfter order a.cell r.cell) = back := by
  have fitsRow := fit r (by simp)
  obtain ⟨_, tail, across⟩ := List.pairwise_append.mp sorted
  have before : ∀ a ∈ front, comesAfter order a.cell r.cell = false := fun a member =>
    comesAfter_asymm sorts fitsRow (fit a (by simp [member])) (across a member r List.mem_cons_self)
  have behind : ∀ a ∈ back, comesAfter order a.cell r.cell = true := (List.pairwise_cons.mp tail).1
  rw [List.filter_append, List.filter_eq_nil_iff.mpr (by simpa using before), List.nil_append,
    List.filter_cons_of_neg (by simp [not_comesAfter_self sorts fitsRow]), List.filter_eq_self.mpr behind]

/-- In sorted rows, those that do not come before one of them are this row and those behind it. -/
theorem filter_not_comesAfter (sorts : m.Sorts order) (fit : ∀ a ∈ front ++ r :: back, m.Fits a.cell)
    (sorted : (front ++ r :: back).Pairwise (Precedes order)) :
    (front ++ r :: back).filter (fun a => !comesAfter order r.cell a.cell) = r :: back := by
  have fitsRow := fit r (by simp)
  obtain ⟨_, tail, across⟩ := List.pairwise_append.mp sorted
  have before : ∀ a ∈ front, comesAfter order r.cell a.cell = true := fun a member =>
    across a member r List.mem_cons_self
  have behind : ∀ a ∈ r :: back, (!comesAfter order r.cell a.cell) = true := by
    refine List.forall_mem_cons.mpr ⟨by simp [not_comesAfter_self sorts fitsRow], fun a member => ?_⟩
    rw [Bool.not_eq_true']
    exact comesAfter_asymm sorts (fit a (by simp [member])) fitsRow ((List.pairwise_cons.mp tail).1 a member)
  rw [List.filter_append, List.filter_eq_nil_iff.mpr (by simpa using before), List.nil_append,
    List.filter_eq_self.mpr behind]

/-- What passes a test that holds of all behind what it holds of is the end of a sorted list. -/
theorem filter_suffix_of_pairwise {α : Type} {R : α → α → Prop} {p : α → Bool} {as : List α} (sorted : as.Pairwise R)
    (onward : ∀ a ∈ as, ∀ b ∈ as, R a b → p a = true → p b = true) : as.filter p <:+ as := by
  induction as with
  | nil => exact List.suffix_refl _
  | cons a as ih =>
    obtain ⟨first, sorted⟩ := List.pairwise_cons.mp sorted
    cases holds : p a with
    | true =>
      have all : ∀ b ∈ a :: as, p b = true := List.forall_mem_cons.mpr ⟨holds, fun b member =>
        onward a List.mem_cons_self b (List.mem_cons_of_mem a member) (first b member) holds⟩
      exact ⟨[], List.filter_eq_self.mpr all⟩
    | false =>
      rw [List.filter_cons_of_neg (by simp [holds])]
      exact (ih sorted fun b member c member' => onward b (List.mem_cons_of_mem a member) c
        (List.mem_cons_of_mem a member')).trans (List.suffix_cons a as)

/-- In sorted rows, those that do not come before a row, be it one of them or not, stand at the end. -/
theorem exists_filter_eq_drop (sorts : m.Sorts order) {rows : List Row} (fit : ∀ a ∈ rows, m.Fits a.cell)
    (fits : m.Fits r.cell) (sorted : rows.Pairwise (Precedes order)) :
    ∃ k, rows.filter (fun a => !comesAfter order r.cell a.cell) = rows.drop k := by
  refine ⟨_, List.suffix_iff_eq_drop.mp (filter_suffix_of_pairwise sorted fun a shown b shown' before onward => ?_)⟩
  rw [Bool.not_eq_true'] at onward ⊢
  by_contra after
  have after := comesAfter_trans sorts fits (fit b shown') (fit a shown) (by simpa using after) before
  rw [onward] at after
  cases after

end Sorted

namespace Tables

variable {t : Tables} {m : Model} {q : Reading} {p : Predicate} {f : Formula}

/-! ## Rows by their names -/

theorem named_eq {id : Value} {u : Uuid} (present : t.lost = []) (names : identity? id = some u) :
    t.named m id = .ok (t.find? m u) := by
  simp only [named, names, need_eq_ok present, ok_bind]

theorem named_eq_none {id : Value} (unread : identity? id = none) : t.named m id = .ok none := by
  rw [named, unread]

theorem IsOrderly.named_eq {id : Value} {r : Row} (orderly : t.IsOrderly m) (member : r ∈ t.rows m)
    (names : identity? id = some r.id) : t.named m id = .ok (some r) := by
  rw [Tables.named_eq orderly.present names, orderly.find?_eq member]

/-! ## Readings -/

theorem portion_eq {α : Type} (skip take : Nat) (items : List α) :
    portion skip (some (take : Int)) items = (items.drop skip).take take := by
  simp [portion]

/-- The rows of a model that a formula selects, in an order. -/
def answers (t : Tables) (m : Model) (order : RowOrder) (f : Formula) : List Row :=
  walk m order (t.selected m f)

/-- What a reading asks for beside rows: relations of the model, an order of the model with the
identity in it, and numbers of at most 64 bits. -/
structure Readable (m : Model) (q : Reading) : Prop where
  related : ∀ r ∈ q.relations, (m.relation? r).isSome = true
  orders : m.Orders q.order
  named : ∃ direction, ("id", direction) ∈ q.order
  short : ∀ n ∈ q.take.toList ++ [q.skip], isShort n = true

section Fetching

variable {parts more : List Formula} (related : ∀ r ∈ q.relations, (m.relation? r).isSome = true)
  (sorts : m.Sorts q.order)
  (behind : match q.after with
    | some keys => ∃ f, keyset m keys q.order false = .ok f ∧ more = [f]
    | none => more = [])
include related sorts behind

/-- A reading with columns and relations of the model goes on to the check. -/
theorem fetch_eq_check : t.fetch m q parts = (do
    t.check m (.conjunction (parts ++ more)) (q.take.toList ++ [q.skip])
    let rows := portion q.skip q.take (t.answers m q.order (.conjunction (parts ++ more)))
    t.readRelations q.relations rows
    .ok rows) := by
  have relations : q.relations.forM (checkRelation m) = .ok () := forM_eq_ok fun r member => by
    rw [checkRelation, if_pos (related r member)]
  have columns : (q.order.forM fun o => (m.kindOf o.1).map fun _ => ()) = .ok () :=
    forM_eq_ok fun o member => by
      obtain ⟨kind, known⟩ := sorts o member
      rw [Model.kindOf, known]
      rfl
  unfold fetch
  cases after : q.after with
  | none =>
    rw [after] at behind
    cases behind
    simp only [ok_bind, relations, columns, List.append_nil]
    rfl
  | some keys =>
    rw [after] at behind
    obtain ⟨f, made, rfl⟩ := behind
    simp only [made, map_ok, ok_bind, relations, columns]
    rfl

theorem fetch_eq_overflow (present : t.lost = []) (clean : ∀ f ∈ parts ++ more, f.faults = []) {long : Int}
    (given : long ∈ q.take.toList ++ [q.skip]) (overflows : isShort long = false) :
    t.fetch m q parts = .error .overflow := by
  rw [fetch_eq_check related sorts behind, check_eq_overflow present (Formula.faults_conjunction clean) given overflows]
  rfl

end Fetching

/-- A fault-free reading has its portion of the rows that all of its formulas select. -/
theorem fetch_eq (orderly : t.IsOrderly m) (readable : Readable m q) {parts more : List Formula}
    (clean : ∀ f ∈ parts ++ more, f.faults = [])
    (behind : match q.after with
      | some keys => ∃ f, keyset m keys q.order false = .ok f ∧ more = [f]
      | none => more = []) :
    t.fetch m q parts =
      .ok (portion q.skip q.take (t.answers m q.order (.conjunction (parts ++ more)))) := by
  have read (rows : List Row) : t.readRelations q.relations rows = .ok () := by
    unfold readRelations
    split
    · rfl
    · exact forM_eq_ok fun _ _ => need_eq_ok orderly.present
  rw [fetch_eq_check readable.related readable.orders.sorts behind,
    check_eq_ok orderly.present (Formula.faults_conjunction clean) readable.short]
  simp only [ok_bind, read]

/-- The answers that satisfy another test are those of the formula with the test in it. -/
theorem answers_conjunction (keyed : t.IsKeyed m) {order : RowOrder} (orders : m.Orders order)
    {direction : Direction} (named : ("id", direction) ∈ order) {parts : List Formula} (test : Row → Bool)
    (tests : ∀ r ∈ t.rows m, (∀ g ∈ parts, g.selects t.view r = true) ↔
      f.selects t.view r = true ∧ test r = true) :
    t.answers m order (.conjunction parts) = (t.answers m order f).filter test := by
  have part : t.selected m (.conjunction parts) = (t.selected m f).filter test := by
    rw [selected, selected, List.filter_filter]
    refine List.filter_congr fun r member => ?_
    rw [Bool.eq_iff_iff, Formula.selects_conjunction, tests r member, Bool.and_eq_true, and_comm]
  rw [answers, answers, part]
  exact walk_filter orders.sorts named (fun r member => keyed.fits r (mem_of_mem_selected member))
    (keyed.distinct.sublist (List.filter_sublist.map Row.id)) test

/-- The answers that a keyset selects too are those that come after its row, be the row there or not. -/
theorem exists_answers_after (keyed : t.IsKeyed m) {order : RowOrder} (orders : m.Orders order)
    {direction : Direction} (named : ("id", direction) ∈ order) {r : Row}
    (known : m.Keys (order.map fun o => (o.1, r.values.get o.1)) order) :
    ∃ g, keyset m (order.map fun o => (o.1, r.values.get o.1)) order false = .ok g ∧ g.faults = [] ∧
      t.answers m order (.conjunction ([f] ++ [g])) =
        (t.answers m order f).filter fun a => comesAfter order a.cell r.cell := by
  obtain ⟨g, made, clean, selects⟩ := @keyset_row_spec Row t.view m order r known false
  refine ⟨g, made, clean, answers_conjunction keyed orders named _ fun a other => ?_⟩
  rw [List.singleton_append, List.forall_mem_cons, List.forall_mem_singleton, selects a (keyed.fits a other)]
  -- a keyset that is not inclusive leaves out the rows that tie with its keys
  show _ ∧ (comesAfter order a.cell r.cell = true ∨ false = true ∧ _) ↔ _
  simp

theorem mem_rows_of_mem_answers {order : RowOrder} {r : Row} (member : r ∈ t.answers m order f) :
    r ∈ t.rows m :=
  mem_of_mem_selected (walk_perm.mem_iff.mp member)

theorem answers_nodup (keyed : t.IsKeyed m) {order : RowOrder} : ((t.answers m order f).map Row.id).Nodup :=
  (walk_perm.map Row.id).nodup_iff.mpr (keyed.distinct.sublist (List.filter_sublist.map Row.id))

theorem answers_pairwise (keyed : t.IsKeyed m) {order : RowOrder} (orders : m.Orders order)
    {direction : Direction} (named : ("id", direction) ∈ order) :
    (t.answers m order f).Pairwise (Precedes order) :=
  walk_pairwise orders.sorts named (fun r member => keyed.fits r (mem_of_mem_selected member))
    (keyed.distinct.sublist (List.filter_sublist.map Row.id))

/-! ## Readings that have an answer -/

theorem guarded_eq_ok {α : Type} {x : Outcome α} {a : α} (done : guarded x = .ok a) : x = .ok a := by
  cases x with
  | ok b => exact done
  | error fault => cases done

/-- Whatever a reading has is its portion of the rows that all of its formulas select, which are without faults. -/
theorem fetch_cases {parts : List Formula} {rows : List Row} (found : t.fetch m q parts = .ok rows) :
    ∃ more, (match q.after with
      | some keys => ∃ f, keyset m keys q.order false = .ok f ∧ more = [f]
      | none => more = []) ∧ (Formula.conjunction (parts ++ more)).faults = [] ∧
      rows = portion q.skip q.take (t.answers m q.order (.conjunction (parts ++ more))) := by
  have portioned {behind : Formula} (found : (do
      q.relations.forM (checkRelation m)
      q.order.forM fun o => (m.kindOf o.1).map fun _ => ()
      t.check m behind (q.take.toList ++ [q.skip])
      let rows := portion q.skip q.take (walk m q.order (t.selected m behind))
      t.readRelations q.relations rows
      .ok rows : Outcome (List Row)) = .ok rows) :
      behind.faults = [] ∧ rows = portion q.skip q.take (t.answers m q.order behind) := by
    obtain ⟨_, _, found⟩ := bind_eq_ok.mp found
    obtain ⟨_, _, found⟩ := bind_eq_ok.mp found
    obtain ⟨_, passed, found⟩ := bind_eq_ok.mp found
    obtain ⟨_, _, found⟩ := bind_eq_ok.mp found
    cases found
    exact ⟨faults_of_check passed, rfl⟩
  unfold fetch at found
  cases after : q.after with
  | none =>
    rw [after] at found
    exact ⟨[], rfl, by rw [List.append_nil]; exact portioned found⟩
  | some keys =>
    rw [after] at found
    obtain ⟨behind, made, found⟩ := bind_eq_ok.mp found
    obtain ⟨f, keyed, rfl⟩ := map_eq_ok.mp made
    exact ⟨[f], ⟨f, keyed, rfl⟩, portioned found⟩

theorem mem_of_mem_portion {α : Type} {skip : Int} {take : Option Int} {items : List α} {a : α}
    (member : a ∈ portion skip take items) : a ∈ items := by
  unfold portion at member
  dsimp only at member
  split at member
  · split at member
    · exact List.mem_of_mem_drop member
    · exact List.mem_of_mem_drop (List.mem_of_mem_take member)
  · exact List.mem_of_mem_drop member

/-- Whatever a reading has are rows that its predicate selects. -/
theorem mem_selected_of_findMany {rows : List Row} (found : t.findMany m q = .ok rows) :
    ∃ f, compileOptional m q.filter = .ok f ∧ ∀ r ∈ rows, r ∈ t.selected m f := by
  have fetched {f : Formula} {parts : List Formula} (part : f ∈ parts) (found : t.fetch m q parts = .ok rows) :
      ∀ r ∈ rows, r ∈ t.selected m f := by
    obtain ⟨more, _, _, rfl⟩ := fetch_cases found
    intro r member
    obtain ⟨there, selects⟩ := List.mem_filter.mp (walk_perm.mem_iff.mp (mem_of_mem_portion member))
    exact List.mem_filter.mpr ⟨there, Formula.selects_conjunction.mp selects f (List.mem_append_left more part)⟩
  obtain ⟨f, compiled, found⟩ := bind_eq_ok.mp (guarded_eq_ok found)
  refine ⟨f, compiled, ?_⟩
  split at found
  · exact fetched List.mem_cons_self found
  · obtain ⟨row?, _, found⟩ := bind_eq_ok.mp found
    cases row? with
    | none =>
      cases found
      exact fun r member => absurd member List.not_mem_nil
    | some row =>
      obtain ⟨keys, _, found⟩ := bind_eq_ok.mp found
      obtain ⟨g, _, found⟩ := bind_eq_ok.mp found
      exact fetched List.mem_cons_self found

/-- Whatever a reading has that starts behind the sort keys of a row, or with the first row, is its
portion of the answers that come after that row, even if the row is not there. -/
theorem findMany_cases (keyed : t.IsKeyed m) (orders : m.Orders q.order) {direction : Direction}
    (named : ("id", direction) ∈ q.order) (asked : q.filter = some p) (start : q.anchor = none)
    {last? : Option Row} (first : q.after = last?.map fun r => q.order.map fun o => (o.1, r.values.get o.1))
    (known : ∀ r ∈ last?, m.Keys (q.order.map fun o => (o.1, r.values.get o.1)) q.order)
    {rows : List Row} (found : t.findMany m q = .ok rows) :
    ∃ f, compile m p = .ok f ∧ rows = portion q.skip q.take
      ((t.answers m q.order f).filter fun a => last?.all fun r => comesAfter q.order a.cell r.cell) := by
  unfold findMany at found
  simp only [asked, start, compileOptional] at found
  obtain ⟨f, compiled, found⟩ := bind_eq_ok.mp (guarded_eq_ok found)
  obtain ⟨more, behind, _, rfl⟩ := fetch_cases found
  refine ⟨f, compiled, ?_⟩
  rw [first] at behind
  cases last? with
  | none =>
    cases behind
    rw [@answers_conjunction t m f keyed _ orders _ named _ (fun _ => true) (by simp)]
    rfl
  | some r =>
    obtain ⟨g, made, rfl⟩ := behind
    obtain ⟨g', made', _, after⟩ := @exists_answers_after t m f keyed _ orders _ named r (known r rfl)
    cases made.symm.trans made'
    rw [after]
    rfl

section Findings

variable (orderly : t.IsOrderly m) (readable : Readable m q) (compiled : compile m p = .ok f)
  (clean : f.faults = []) (asked : q.filter = some p)
include orderly readable compiled clean asked

theorem findMany_eq (start : q.anchor = none) (first : q.after = none) :
    t.findMany m q = .ok (portion q.skip q.take (t.answers m q.order f)) := by
  obtain ⟨direction, named⟩ := readable.named
  have fetched := @fetch_eq t m q orderly readable [f] [] (by simpa using clean) (by rw [first])
  rw [List.append_nil, @answers_conjunction t m f orderly.toIsKeyed _ readable.orders _ named [f] (fun _ => true)
    (by simp), List.filter_true] at fetched
  simp only [findMany, asked, compileOptional, compiled, start, ok_bind, fetched]
  rfl

/-- A reading that starts at a row, whichever way the row is named. -/
theorem findMany_anchor {r : Row} (member : r ∈ t.rows m)
    (known : m.Keys (q.order.map fun o => (o.1, r.values.get o.1)) q.order) {id : Value}
    (start : q.anchor = some id) (names : identity? id = some r.id) (first : q.after = none) :
    t.findMany m q = .ok (portion q.skip q.take
      ((t.answers m q.order f).filter fun a => !comesAfter q.order r.cell a.cell)) := by
  obtain ⟨direction, named⟩ := readable.named
  have model := model_of_mem_rows member
  obtain ⟨g, made, cleanKeys, selects⟩ := @keyset_row_spec Row t.view m q.order r known true
  have fetched := @fetch_eq t m q orderly readable [f, g] [] (by simp [clean, cleanKeys]) (by rw [first])
  -- of the rows that tie with `r`, too, so of all that do not come before it
  have tests : ∀ a ∈ t.rows m, (∀ h ∈ [f, g], h.selects t.view a = true) ↔
      f.selects t.view a = true ∧ (!comesAfter q.order r.cell a.cell) = true := by
    intro a other
    have asymm := @comesAfter_asymm m q.order a.cell r.cell readable.orders.sorts (orderly.fits a other)
      (orderly.fits r member)
    have selects := selects a (orderly.fits a other)
    rw [List.forall_mem_cons, List.forall_mem_singleton, selects]
    show _ ∧ (comesAfter q.order a.cell r.cell = true ∨ true = true ∧
      comesAfter q.order a.cell r.cell = false ∧ comesAfter q.order r.cell a.cell = false) ↔ _
    cases after : comesAfter q.order a.cell r.cell with
    | true => simp [asymm after]
    | false => simp
  rw [List.append_nil, answers_conjunction orderly.toIsKeyed readable.orders named _ tests] at fetched
  simp only [findMany, asked, compileOptional, compiled, start, ok_bind,
    orderly.named_eq member names, keysOf_eq (model ▸ readable.orders.sorts), made, fetched]
  rfl

/-- A reading behind the sort keys of a row, which need not be there. -/
theorem findMany_after {r : Row}
    (known : m.Keys (q.order.map fun o => (o.1, r.values.get o.1)) q.order) (start : q.anchor = none)
    (first : q.after = some (q.order.map fun o => (o.1, r.values.get o.1))) :
    t.findMany m q = .ok (portion q.skip q.take
      ((t.answers m q.order f).filter fun a => comesAfter q.order a.cell r.cell)) := by
  obtain ⟨direction, named⟩ := readable.named
  obtain ⟨g, made, cleanKeys, after⟩ :=
    @exists_answers_after t m f orderly.toIsKeyed q.order readable.orders direction named r known
  have fetched := @fetch_eq t m q orderly readable [f] [g] (by simp [clean, cleanKeys])
    (by rw [first]; exact ⟨g, made, rfl⟩)
  rw [after] at fetched
  simp only [findMany, asked, compileOptional, compiled, start, ok_bind, fetched]
  rfl

omit asked readable in
theorem count_eq : t.count m (some p) = .ok (t.selected m f).length := by
  have checked : t.check m f [] = .ok () := check_eq_ok orderly.present clean (by simp)
  simp only [count, compileOptional, compiled, ok_bind, checked]
  rfl

end Findings

/-! ## Readings that are stopped -/

theorem count_eq_misused (refused : compile m p = .error .misusedColumn) :
    t.count m (some p) = .error .misusedColumn := by
  rw [count, compileOptional, refused]
  rfl

section Stopped

variable (present : t.lost = []) (compiled : compile m p = .ok f)
include present compiled

theorem count_eq_overflow (overflows : ∀ fault ∈ f.faults, fault = .overflow) (some' : f.faults ≠ []) :
    t.count m (some p) = .error .overflow := by
  rw [count, compileOptional, compiled, ok_bind, check_eq_overflow_of_faults present overflows some']
  rfl

/-- A reading from a position on that cannot be counted with 64 bits. -/
theorem findMany_eq_overflow (clean : f.faults = []) (asked : q.filter = some p) (start : q.anchor = none)
    (first : q.after = none) (related : ∀ r ∈ q.relations, (m.relation? r).isSome = true) (sorts : m.Sorts q.order)
    {long : Int} (given : long ∈ q.take.toList ++ [q.skip]) (overflows : isShort long = false) :
    t.findMany m q = .error .overflow := by
  have fetched := @fetch_eq_overflow t m q [f] [] related sorts (by rw [first]) present (by simpa using clean) long
    given overflows
  simp only [findMany, asked, compileOptional, compiled, start, ok_bind, fetched]
  rfl

end Stopped

theorem orders_by_id : m.Orders [("id", .asc)] := by
  intro o member
  rw [List.mem_singleton.mp member]
  cases m <;> exact ⟨.uuid, rfl, by decide⟩

theorem readable_by_id : Readable m { filter := some p, order := [("id", .asc)] } := by
  refine ⟨by simp, orders_by_id, ⟨.asc, by simp⟩, fun n member => ?_⟩
  rw [List.mem_singleton.mp member]
  rfl

/-- The rows that a formula selects can be read in the order of their identities, and counted. -/
theorem IsSound.exists_found (sound : t.IsSound) (compiled : compile m p = .ok f) (clean : f.faults = []) :
    ∃ found, t.findMany m { filter := some p, order := [("id", .asc)] } = .ok found ∧ found.Perm (t.selected m f) ∧
      t.count m (some p) = .ok found.length := by
  have perm : (t.answers m [("id", .asc)] f).Perm (t.selected m f) := walk_perm
  refine ⟨t.answers m [("id", .asc)] f, findMany_eq (sound.orderly m) readable_by_id compiled clean rfl rfl rfl, perm, ?_⟩
  rw [count_eq (sound.orderly m) compiled clean, perm.length_eq]

end Tables
end Venues.Store
