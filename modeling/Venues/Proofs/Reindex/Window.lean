import Venues.Proofs.Reindex.Batch

/-! # The window of a reindex

A reindex of a store that nobody changes loads the candidates from one position on, up to a number, in the
order of their creation. How they are cut into batches does not matter: each of them is in the index, or
one error tells why it is not.
-/

namespace Venues

open Store (Row Tables Formula Model Precedes compile)
open Index (Loaded Server)

/-! ## Candidates -/

/-- Whether some condition asks for a range of truth values. -/
def Surface.RangesTruth (s : Surface) (conditions : Conditions) : Prop :=
  ∃ c ∈ conditions, ∃ d least most, s.field? c.1 = some d ∧ d.kind = .truth ∧ c.2 = .range least most

/-- The store can test all accepted conditions on facilities, except ranges of truth values. -/
theorem Surface.testable_facility {conditions : Conditions}
    (accepted : Surface.facilityListing.Accepted conditions)
    (untrue : ¬ Surface.facilityListing.RangesTruth conditions) :
    Surface.facilityListing.Testable conditions := by
  intro c member d known
  obtain ⟨d', known', typed⟩ := accepted c member
  cases known.symm.trans known'
  have other : d.kind ≠ .whole := by
    have all : ∀ f ∈ Surface.facilityListing.fields, f.2.kind ≠ .whole := by decide
    exact all (c.1, d) (mem_of_lookup known)
  apply Condition.isTestable_of_isOf other typed
  intro truth least most range
  exact untrue ⟨c, member, d, least, most, known, truth, range⟩

/-- The candidates of a reindex can be asked for. -/
theorem Reindex.compiles_candidates {filters : Value} {conditions : Conditions} (unpublished : Bool)
    (read : Surface.facilityListing.readFilters filters = .ok conditions)
    (untrue : ¬ Surface.facilityListing.RangesTruth conditions) :
    ∃ p, candidates filters unpublished = .ok p ∧ Store.Compiles .facility p := by
  have accepted := Surface.accepted_of_readFilters read
  have testable := Surface.testable_facility accepted untrue
  obtain ⟨ps, made, compiles⟩ := Predicate.ofConditions_spec Surface.describes_facility accepted testable
  obtain ⟨bs, base, compilesBase⟩ := Predicate.compiles_base Surface.describes_facility
  refine ⟨_, by rw [candidates]; simp only [read, made, ok_bind]; rfl, ?_⟩
  refine Predicate.compiles_merge fun p member => ?_
  simp only [List.mem_cons, Option.some_inj, List.not_mem_nil, or_false] at member
  rcases member with rfl | rfl | published
  · rwa [base]
  · exact compiles
  · split at published
    · cases published
    · cases published
      exact List.forall_mem_singleton.mpr (@Store.compiles_ofCondition .facility .truth "is_published"
        (.equals (.bool true)) rfl rfl rfl)

namespace Reindex

/-! ## Where a run stands -/

variable {t : Tables} {f : Formula} {fs : List Facility} {plan : Plan} {p : Progress} {k : Nat}

/-- Whether a run has passed the first of some facilities, either to leave them out or by reading them. -/
def Progress.StandsAt (p : Progress) (fs : List Facility) (k : Nat) : Prop :=
  (p.after = none ∧ p.skip = k) ∨
    (p.skip = 0 ∧ ∃ front last, fs.take k = front ++ [last] ∧ p.after = some (streamKeys (.facility last)))

theorem mem_of_listed (listed : t.answers .facility streamOrder f = fs.map .facility) {g : Facility}
    (member : g ∈ fs) : g ∈ t.facilities := by
  have answered : Row.facility g ∈ t.answers .facility streamOrder f := by
    rw [listed]
    exact List.mem_map_of_mem member
  obtain ⟨g', there, same⟩ := List.mem_map.mp (Tables.mem_rows_of_mem_answers answered)
  cases same
  exact there

theorem nodup_of_listed (keyed : t.IsKeyed .facility)
    (listed : t.answers .facility streamOrder f = fs.map .facility) : (fs.map Facility.id).Nodup := by
  have distinct := @Tables.answers_nodup t .facility f keyed streamOrder
  rw [listed, List.map_map] at distinct
  exact distinct

/-- A run that stands among the candidates reads those that follow. -/
theorem findMany_of_standsAt (orderly : t.IsOrderly .facility) (compiled : compile .facility plan.filter = .ok f)
    (clean : f.faults = []) (listed : t.answers .facility streamOrder f = fs.map .facility)
    (stands : p.StandsAt fs k) (skips : p.skip < 2 ^ 63) {size : Nat} (takes : plan.take p = (size : Int))
    (short : (size : Int) < 2 ^ 63) :
    t.findMany .facility (plan.reading p) = .ok (((fs.drop k).take size).map .facility) := by
  have positive : 0 ≤ p.skip := by
    rcases stands with ⟨_, at'⟩ | ⟨at', _⟩ <;> omega
  have readable : Tables.Readable .facility (plan.reading p) :=
    { related := by simp [Plan.reading, Model.relation?]
      orders := orders_stream
      named := ⟨.asc, id_mem_stream⟩
      short := by
        simp only [Plan.reading, takes, Option.toList_some, List.singleton_append, List.forall_mem_cons,
          isShort, Bool.and_eq_true, decide_eq_true_eq]
        refine ⟨⟨by omega, short⟩, ⟨by omega, skips⟩, by simp⟩ }
  -- the first reading counts off a position, all later ones start behind the last row that was read
  rcases stands with ⟨start, skip⟩ | ⟨skip, front, last, passed, start⟩
  · rw [Tables.findMany_eq orderly readable compiled clean rfl rfl start]
    simp only [Plan.reading, skip, takes, listed]
    rw [Tables.portion_eq, List.map_take, List.map_drop]
  · have whole : fs.map Row.facility =
        front.map .facility ++ .facility last :: (fs.drop k).map .facility := by
      rw [List.append_cons, ← List.map_singleton, ← List.map_append, ← List.map_append, ← passed,
        List.take_append_drop]
    have sorted := Tables.answers_pairwise (f := f) orderly.toIsKeyed orders_stream id_mem_stream
    have fits : ∀ r ∈ fs.map Row.facility, Model.facility.Fits r.cell := fun r member => by
      obtain ⟨_, _, rfl⟩ := List.mem_map.mp member
      exact fits_facility rfl
    have left : (fs.map Row.facility).filter (fun r => Store.comesAfter streamOrder r.cell
        (Row.facility last).cell) = (fs.drop k).map .facility := by
      rw [listed, whole] at sorted
      rw [whole] at fits ⊢
      exact Store.filter_comesAfter orders_stream.sorts fits sorted
    rw [@Tables.findMany_after t .facility (plan.reading p) plan.filter f orderly readable compiled clean rfl
      (.facility last) (keys_stream rfl) rfl start]
    simp only [Plan.reading, skip, takes, listed, left]
    rw [show (0 : Int) = ((0 : Nat) : Int) from rfl, Tables.portion_eq, List.drop_zero, List.map_take]

/-! ## Limits -/

/-- The items that a limit lets through. -/
def within {α : Type} (limit : Option Int) (items : List α) : List α :=
  match limit with
  | some n => items.take n.toNat
  | none => items

theorem within_sublist {α : Type} (limit : Option Int) (items : List α) : (within limit items).Sublist items := by
  cases limit with
  | none => exact .refl _
  | some n => exact List.take_sublist _ _

/-- The rows that a run reads next are the first that its limit lets through. -/
theorem within_eq_append {α : Type} (items : List α) {size : Nat} (takes : plan.take p = (size : Int)) :
    within p.remaining items = items.take size ++
      within (p.remaining.map (· - ((items.take size).length : Int))) (items.drop (items.take size).length) := by
  have behind : items.drop (items.take size).length = items.drop size := by
    rcases Nat.le_total size items.length with enough | few
    · rw [List.length_take_of_le enough]
    · rw [List.take_of_length_le few, List.drop_length, List.drop_eq_nil_of_le few]
  rw [behind]
  cases limit : p.remaining with
  | none => exact (List.take_append_drop size items).symm
  | some n =>
    simp only [Plan.take, limit] at takes
    obtain ⟨left, rest⟩ : ∃ left : Nat, n.toNat = size + left := ⟨n.toNat - size, by omega⟩
    show items.take n.toNat = _ ++ (items.drop size).take (n - ((items.take size).length : Int)).toNat
    rw [rest, List.take_add]
    rcases Nat.le_total size items.length with enough | few
    · rw [List.length_take_of_le enough, show (n - (size : Int)).toNat = left by omega]
    · rw [List.drop_eq_nil_of_le few, List.take_nil, List.take_nil]

theorem one_le_take (opened : p.isOpen = true) (positive : 1 ≤ plan.batchSize) : 1 ≤ plan.take p := by
  cases limit : p.remaining with
  | none => simpa only [Plan.take, limit] using positive
  | some n =>
    simp only [Progress.isOpen, limit, Option.all_some, decide_eq_true_eq] at opened
    simp only [Plan.take, limit]
    omega

theorem exists_size (opened : p.isOpen = true) (positive : 1 ≤ plan.batchSize) :
    ∃ size : Nat, plan.take p = size ∧ 0 < size := by
  have asks := one_le_take opened positive
  obtain ⟨size, takes⟩ := Int.eq_ofNat_of_zero_le (by omega : 0 ≤ plan.take p)
  exact ⟨size, takes, by omega⟩

theorem within_eq_nil {α : Type} {items : List α} (closed : ¬ p.isOpen = true) : within p.remaining items = [] := by
  cases limit : p.remaining with
  | none => simp [Progress.isOpen, limit] at closed
  | some n =>
    simp only [Progress.isOpen, limit, Option.all_some, decide_eq_true_eq] at closed
    exact List.take_eq_nil_iff.mpr (.inl (by omega))

theorem take_advance_le (rows : List Row) (report : Report) : plan.take (p.advance rows report) ≤ plan.take p := by
  cases limit : p.remaining with
  | none => simp [Plan.take, Progress.advance, limit]
  | some n =>
    simp only [Plan.take, Progress.advance, limit, Option.map_some]
    omega

/-- Rows that are fewer than asked for are all that the limit lets through. -/
theorem within_eq_take {α : Type} {items : List α} {size : Nat} (takes : plan.take p = (size : Int))
    (few : (items.take size).length < size) : within p.remaining items = items.take size := by
  have short : items.length < size := by
    rw [List.length_take] at few
    omega
  rw [List.take_of_length_le (by omega)]
  cases limit : p.remaining with
  | none => rfl
  | some n =>
    simp only [Plan.take, limit] at takes
    exact List.take_of_length_le (by omega)

/-- Behind a batch a run has passed the rows of the batch, too. -/
theorem standsAt_advance {rows : List Facility} (nonempty : rows ≠ []) {size : Nat}
    (taken : rows = (fs.drop k).take size) (report : Report) :
    (p.advance (rows.map .facility) report).StandsAt fs (k + rows.length) := by
  obtain ⟨front, last, cut⟩ := (List.eq_nil_or_concat rows).resolve_left nonempty
  rw [List.concat_eq_append] at cut
  refine .inr ⟨rfl, fs.take k ++ front, last, ?_, ?_⟩
  · have part : (fs.drop k).take rows.length = rows := by
      rw [taken, List.length_take, ← List.take_take, List.take_length]
    rw [List.take_add, part, cut, List.append_assoc]
  · show ((rows.map Row.facility).getLast?.map streamKeys) = _
    rw [cut, List.map_append, List.map_singleton, List.getLast?_concat]
    rfl

/-- Whether a run that has read some rows stands behind them, and has the candidates that follow left to read. -/
structure MovesBy (plan : Plan) (fs : List Facility) (k : Nat) (rows : List Facility) (p p' : Progress) : Prop where
  nonempty : rows ≠ []
  stands : p'.StandsAt fs (k + rows.length)
  skips : p'.skip < 2 ^ 63
  takes : plan.take p' ≤ plan.take p
  split : within p.remaining (fs.drop k) = rows ++ within p'.remaining (fs.drop (k + rows.length))

theorem movesBy_advance {size : Nat} (nonempty : (fs.drop k).take size ≠ []) (takes : plan.take p = (size : Int))
    (report : Report) : MovesBy plan fs k ((fs.drop k).take size) p
      (p.advance (((fs.drop k).take size).map .facility) report) where
  nonempty := nonempty
  stands := standsAt_advance nonempty rfl report
  skips := show (0 : Int) < 2 ^ 63 by decide
  takes := take_advance_le _ _
  split := by rw [within_eq_append (fs.drop k) takes, List.drop_drop, Progress.advance, List.length_map]

theorem MovesBy.closer {rows : List Facility} {p' : Progress} (moves : MovesBy plan fs k rows p p') :
    fs.length - (k + rows.length) < fs.length - k := by
  have positive := List.length_pos_of_ne_nil moves.nonempty
  have few := (within_sublist p.remaining (fs.drop k)).length_le
  rw [moves.split, List.length_append, List.length_drop] at few
  omega

/-! ## Accounts -/

/-- Whether a report tells, beside what it told before, of the documents that a server takes and refuses
and of some lines more. -/
structure Accounts (before after : Report) (s : Server) (documents : List Document) (lines : List String) :
    Prop where
  indexed : after.indexed = before.indexed + s.countTaken documents
  errors : after.errors.Perm (before.errors ++ (lines ++ s.refusals documents))

variable {before middle after : Report} {s : Server} {documents more : List Document} {lines others : List String}

theorem Accounts.refl : Accounts before before s [] [] :=
  ⟨by simp [Server.countTaken], by simp [Server.refusals]⟩

/-- Batches add up. -/
theorem Accounts.append {name : String} (first : Accounts before middle s documents lines)
    (second : Accounts middle after (documents.foldl (Server.take name) s) more others) :
    Accounts before after s (documents ++ more) (lines ++ others) where
  indexed := by
    have second := second.indexed
    simp only [Server.countTaken, Server.refused_foldl_take] at second
    rw [second, first.indexed]
    simp only [Server.countTaken, List.countP_append]
    omega
  errors := by
    have second := second.errors
    simp only [Server.refusals, Server.refused_foldl_take] at second
    refine second.trans ((first.errors.append_right _).trans ?_)
    simp only [Server.refusals, List.filterMap_append]
    -- the refusals of the first batch move behind the lines of the second one
    rw [List.append_assoc, List.append_assoc, List.append_assoc]
    exact ((List.perm_append_comm_assoc _ _ _).append_left lines).append_left before.errors

end Reindex

/-! ## Runs -/

namespace Deployment

open Reindex

variable {d : Deployment} {plan : Plan} {f : Formula} {fs : List Facility}

/-- The facilities of a deployment with their courts. -/
def loaded (d : Deployment) (fs : List Facility) : List Loaded := fs.map (.ofFacility d.tables)

/-- A run of a deployment, in the session that it began with. -/
def underway (d : Deployment) (isOpen : Bool) (server : Server) (sizes : List Nat) : Running :=
  d.running { d.session with isOpen := isOpen } server sizes

theorem documentsOf_loaded_append (validate : Bool) (fs gs : List Facility) :
    documentsOf validate (d.loaded (fs ++ gs)) =
      documentsOf validate (d.loaded fs) ++ documentsOf validate (d.loaded gs) := by
  rw [loaded, List.map_append]
  exact List.filterMap_append

theorem linesOf_loaded_append (validate : Bool) (fs gs : List Facility) :
    linesOf validate (d.loaded (fs ++ gs)) = linesOf validate (d.loaded fs) ++ linesOf validate (d.loaded gs) := by
  rw [loaded, List.map_append]
  exact List.filterMap_append

section Batches

variable (calm : d.IsCalm) (sound : d.tables.IsSound) (kept : d.tables.IsKept)
  (compiled : compile .facility plan.filter = .ok f) (clean : f.faults = [])
  (listed : d.tables.answers .facility streamOrder f = fs.map .facility) (positive : 1 ≤ plan.batchSize)
  {p : Progress} {k : Nat} (stands : p.StandsAt fs k) (skips : p.skip < 2 ^ 63)
  (short : plan.take p < 2 ^ 63) (isOpen : Bool) (server : Server) (sizes : List Nat)
include calm sound kept compiled clean listed positive stands skips short

/-- A batch among the candidates accounts for its facilities. If no other batch may follow, nothing is left
that the limit lets through, and else the run stands behind the batch. -/
theorem exists_batch_underway (opened : p.isOpen = true) :
    ∃ (rows : List Facility) (more : Bool) (p' : Progress) (isOpen' : Bool) (sizes' : List Nat),
      look Running.backends plan p (d.underway isOpen server sizes) = .ok (d.tables, rows.map .facility) ∧
      batch Running.backends plan p (d.underway isOpen server sizes) = (.ok (more, p'), d.underway isOpen'
        ((documentsOf plan.validate (d.loaded rows)).foldl (Server.take plan.gateway.index) server) sizes') ∧
      Accounts p.report p'.report server (documentsOf plan.validate (d.loaded rows))
        (linesOf plan.validate (d.loaded rows)) ∧
      (more = false → within p.remaining (fs.drop k) = rows) ∧
      (more = true → MovesBy plan fs k rows p p') := by
  obtain ⟨size, takes, asks⟩ := exists_size opened positive
  let rows := (fs.drop k).take size
  have part : rows.Sublist fs := (List.take_sublist _ _).trans (List.drop_sublist _ _)
  have found := findMany_of_standsAt (sound.orderly .facility) compiled clean listed stands skips takes
    (takes ▸ short)
  obtain ⟨seen, done⟩ := @batch_running d { d.session with isOpen := isOpen } server sizes plan p rows rfl found
  have all (few : rows.length < size) : within p.remaining (fs.drop k) = rows := within_eq_take takes few
  by_cases none : rows = []
  · -- without rows the run ends, and has nothing to account for
    rw [if_pos none] at done
    refine ⟨rows, false, p, isOpen, sizes, seen, ?_, ?_, fun _ => all ?_, fun goes => by cases goes⟩
    · rw [none]
      exact done
    · rw [none]
      exact .refl
    · rwa [none]
  · obtain ⟨sizes', worked⟩ := @work_running d { d.session with isOpen := isOpen } server sizes plan p calm sound
      kept ⟨rfl, rfl⟩ rows (fun g member => mem_of_listed listed (part.mem member))
      ((nodup_of_listed (sound.orderly .facility).toIsKeyed listed).sublist (part.map _))
    rw [if_neg none, worked] at done
    refine ⟨rows, decide (plan.take p ≤ rows.length), _, true, sizes', seen, done, ⟨rfl, ?_⟩, fun ends => all ?_,
      fun _ => movesBy_advance none takes _⟩
    · exact .of_eq (List.append_assoc _ _ _)
    · have := of_decide_eq_false ends
      omega

/-- A run among the candidates reads all of them that are left and that the limit lets through, and
accounts for each. -/
theorem exists_streams_underway :
    ∃ (reads : List (Tables × List Row)) (p' : Progress) (isOpen' : Bool) (sizes' : List Nat),
      Streams Running.backends plan p (d.underway isOpen server sizes) (reads.map .ok) (.ok p',
        d.underway isOpen' ((documentsOf plan.validate (d.loaded (within p.remaining (fs.drop k)))).foldl
          (Server.take plan.gateway.index) server) sizes') ∧
      reads.flatMap (·.2) = (within p.remaining (fs.drop k)).map .facility ∧
      Accounts p.report p'.report server
        (documentsOf plan.validate (d.loaded (within p.remaining (fs.drop k))))
        (linesOf plan.validate (d.loaded (within p.remaining (fs.drop k)))) := by
  -- the induction is on the number of candidates that the run has not passed
  induction size : fs.length - k using Nat.strong_induction_on generalizing p k isOpen server sizes with
  | _ left ih =>
  by_cases opened : p.isOpen = true
  · obtain ⟨rows, more, p', isOpen', sizes', seen, done, accounts, ends, goes⟩ := exists_batch_underway calm
      sound kept compiled clean listed positive stands skips short isOpen server sizes opened
    cases more with
    | false =>
      have streams := Streams.ended opened done
      rw [seen] at streams
      rw [ends rfl]
      exact ⟨[(d.tables, rows.map .facility)], p', isOpen', sizes', streams, by simp, accounts⟩
    | true =>
      have moves := goes rfl
      obtain ⟨reads, last, isOpen'', sizes'', streams, read, rest⟩ := ih _ (size ▸ moves.closer)
        moves.stands moves.skips (moves.takes.trans_lt short) isOpen' ((documentsOf plan.validate
          (d.loaded rows)).foldl (Server.take plan.gateway.index) server) sizes' rfl
      have onward := Streams.goes opened done streams
      rw [seen] at onward
      refine ⟨(d.tables, rows.map .facility) :: reads, last, isOpen'', sizes'', ?_, ?_, ?_⟩
      · rw [moves.split, documentsOf_loaded_append, List.foldl_append]
        exact onward
      · rw [moves.split, List.flatMap_cons, read, List.map_append]
      · rw [moves.split, documentsOf_loaded_append, linesOf_loaded_append]
        exact accounts.append rest
  · rw [within_eq_nil opened]
    exact ⟨[], p, isOpen, sizes, .closed (by simpa using opened), rfl, .refl⟩

end Batches

end Deployment
end Venues
