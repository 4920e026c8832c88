import Venues.Proofs.Index.Projection
import Venues.Proofs.Index.Search
import Venues.Proofs.Index.Sorted
import Venues.Proofs.Timestamp
import Venues.Proofs.Uuid

/-! # The order of documents and that of their facilities

A document is sorted by what it shows of its facility: the name as it is, the rating as a number, the moment of
creation as a text in universal time, and the identity as a text. All of these stand as the columns do in the store, so
the hits of a search stand in an order of rows: by the column of the sort, and where facilities tie in it, by creation
and identity.
-/

namespace Venues

open Store (Row Cell Tables Model Precedes comesAfter)

namespace Index

/-! ## Cells and what is written for them -/

/-- How a document writes what a column of a kind holds. -/
inductive Writes : FieldKind → Cell → Value → Prop
  | missing {kind : FieldKind} : Writes kind .null .null
  | text (s : String) : Writes .text (.text s) (.text s)
  | uuid (u : Uuid) : Writes .uuid (.uuid u) (.text u.text)
  | real {x : Float} : Magnitude.ofFloat x ≠ .undefined → Writes .real (.real x) (.float x)
  | time {wall : Int} : Timestamp.inRange wall = true →
      Writes .time (.moment wall) (.text (Timestamp.mk wall (some 0)).isoText)

namespace Writes

variable {kind : FieldKind} {a b : Cell} {v w : Value} {direction : Direction}

/-- What is written for cells of a kind stands as the cells do. -/
theorem compare_place (first : Writes kind a v) (second : Writes kind b w) (present : a.isNull = false)
    (present' : b.isNull = false) : ∃ x y, place? v = some x ∧ place? w = some y ∧ compare x y = a.order b := by
  cases first with
  | missing => cases present
  | text s =>
    cases second with
    | missing => cases present'
    | text s' => exact ⟨_, _, rfl, rfl, compare_inr s s'⟩
  | uuid u =>
    cases second with
    | missing => cases present'
    | uuid u' =>
      refine ⟨_, _, rfl, rfl, (compare_inr u.text u'.text).trans ?_⟩
      exact compare_eq_of_lt_iff Uuid.text_lt_text Uuid.text_lt_text
  | real number =>
    cases second with
    | missing => cases present'
    | real number' =>
      exact ⟨_, _, rfl, rfl, (compare_inl _ _).trans (Cell.order_real_eq number number').symm⟩
  | time inRange =>
    cases second with
    | missing => cases present'
    | time inRange' =>
      refine ⟨_, _, rfl, rfl, (compare_inr _ _).trans ?_⟩
      exact compare_eq_of_lt_iff (Timestamp.isoText_lt_isoText inRange inRange')
        (Timestamp.isoText_lt_isoText inRange' inRange)

theorem suits (writes : Writes kind a v) : kind.Suits v := by
  cases writes with
  | missing => exact .inl rfl
  | text | uuid | real | time => exact .inr rfl

theorem number (writes : Writes kind a v) : v.magnitude? ≠ some .undefined := by
  cases writes with
  | missing | text | uuid | time => exact nofun
  | real number => exact fun undefined => number (Option.some.inj undefined)

theorem eq_text {u : Uuid} (writes : Writes .uuid (.uuid u) v) : v = .text u.text := by
  cases writes
  rfl

theorem eq_null (writes : Writes kind a v) (missing : a.isNull = true) : v = .null := by
  cases writes <;> first | rfl | cases missing

/-- Values that are written for cells go behind each other as the cells do, what is missing last. -/
theorem orderPlaces_eq_gt_iff (first : Writes kind a v) (second : Writes kind b w) :
    orderPlaces direction (place? v) (place? w) = .gt ↔ a.isAfter (direction == .desc) b = true := by
  cases there : a.isNull with
  | true =>
    -- what is missing is the last in both directions, here and in the store
    rw [Cell.eq_null_of_isNull there, Cell.null_isAfter, first.eq_null there]
    cases there' : b.isNull with
    | true =>
      rw [second.eq_null there']
      exact iff_of_false nofun nofun
    | false =>
      obtain ⟨_, y, _, at', _⟩ := second.compare_place second there' there'
      rw [at']
      exact iff_of_true rfl rfl
  | false =>
    cases there' : b.isNull with
    | true =>
      obtain ⟨x, _, at', _⟩ := first.compare_place first there there
      rw [Cell.eq_null_of_isNull there', Cell.isAfter_null, second.eq_null there', at']
      exact iff_of_false nofun nofun
    | false =>
      obtain ⟨x, y, at', at'', same⟩ := first.compare_place second there there'
      have turned : compare y x = (compare x y).swap := Std.OrientedOrd.eq_swap
      rw [at', at'', Cell.isAfter_eq there there', beq_iff_eq, ← same]
      cases direction with
      | asc => exact Iff.rfl
      | desc =>
        show compare y x = .gt ↔ compare x y = .lt
        rw [turned, Ordering.swap_eq_gt]

end Writes

/-! ## Orders of documents and rows -/

/-- Whether sort values are written for the cells of a row, one for each column of an order. -/
def Keyed (order : RowOrder) (r : Row) (keys : List Value) : Prop :=
  List.Forall₂ (fun o v => ∃ kind, Model.facility.column? o.1 = some kind ∧ Writes kind (r.cell o.1) v) order keys

/-- Sort values stand in the order of the rows for which they are written. -/
theorem isLE_orderKeys_iff {order : RowOrder} {sort : List SortClause} {r s : Row} {as bs : List Value}
    (directions : sort.map SortClause.direction = order.map Prod.snd) (first : Keyed order r as)
    (second : Keyed order s bs) :
    (orderKeys sort as bs).isLE = true ↔ comesAfter order r.cell s.cell = false := by
  -- column by column: the first one decides unless neither cell goes behind the other
  induction first generalizing sort bs with
  | nil =>
    cases List.map_eq_nil_iff.mp directions
    exact iff_of_true rfl rfl
  | @cons o a order as written _ ih =>
    obtain ⟨column, direction⟩ := o
    obtain ⟨c, sort, rfl, same, directions⟩ := List.map_eq_cons_iff.mp directions
    cases second with
    | @cons _ b _ bs written' others =>
      obtain ⟨kind, known, writes⟩ := written
      obtain ⟨kind', known', writes'⟩ := written'
      cases known.symm.trans known'
      have after : (r.cell column).isAfter (direction == .desc) (s.cell column) = false ↔
          orderPlaces direction (place? a) (place? b) ≠ .gt :=
        Bool.eq_false_iff.trans (not_congr (writes.orderPlaces_eq_gt_iff writes').symm)
      have before : (s.cell column).isAfter (direction == .desc) (r.cell column) = true ↔
          orderPlaces direction (place? a) (place? b) = .lt := by
        rw [(transCmp_orderPlaces direction).eq_swap, Ordering.swap_eq_lt]
        exact (writes'.orderPlaces_eq_gt_iff writes).symm
      have step : orderKeys (c :: sort) (a :: as) (b :: bs) =
          (orderPlaces c.direction (place? a) (place? b)).then (orderKeys sort as bs) := rfl
      rw [step, show c.direction = direction from same, Ordering.isLE_then_iff_or, ih directions others]
      simp only [comesAfter, Bool.or_eq_false_iff, Bool.and_eq_false_iff, Bool.not_eq_false', before, after]
      cases orderPlaces direction (place? a) (place? b) <;> simp

/-! ## Documents of facilities -/

/-- Whether the fields by which a document is sorted are written for the columns of a facility. -/
structure PortrayedIn (f : Facility) (d : Document) : Prop where
  id : Writes .uuid ((Row.facility f).cell "id") (fieldValue d.source "id")
  createdAt : Writes .time ((Row.facility f).cell "created_at") (fieldValue d.source "createdAt")
  name : Writes .text ((Row.facility f).cell "name") (fieldValue d.source "name.keyword")
  rating : Writes .real ((Row.facility f).cell "rating") (fieldValue d.source "rating")

variable {t : Tables} {f : Facility} {d : Document}

theorem PortrayedIn.id_eq (portrays : PortrayedIn f d) : d.id = f.id.text := by
  have written : Writes .uuid (.uuid f.id) (.text d.id) := portrays.id
  exact Value.text.inj written.eq_text

theorem portrayedIn_of_project (sound : t.IsSound) (kept : t.IsKept) (there : f ∈ t.facilities)
    (made : project f (t.courtsOf f) = .ok d) : PortrayedIn f d := by
  have isOf := isOf_of_project made
  have row : Row.facility f ∈ t.rows .facility := List.mem_map_of_mem there
  refine ⟨?_, ?_, ?_, ?_⟩
  · show Writes .uuid (.uuid f.id) (.text d.id)
    rw [isOf.id]
    exact .uuid f.id
  · obtain ⟨moment, created, text⟩ := isOf.created
    have value : (Row.facility f).values.get "created_at" = .time moment := by
      show Value.ofOption (f.createdAt.map .time) = _
      rw [created]
      rfl
    -- the column keeps moments without an offset, which are written as universal time
    have reading := kept.moments .facility _ row ("created_at", .time) (by decide) moment value
    rw [momentText_eq reading] at text
    show Writes .time (Cell.ofValue ((Row.facility f).values.get "created_at")) (.text d.createdAt)
    rw [value, ← Except.ok.inj text]
    exact .time reading.2
  · show Writes .text (Cell.ofValue (.ofText? f.name)) (.text d.name)
    rw [isOf.name]
    exact .text d.name
  · show Writes .real (Cell.ofValue (.ofOption (f.rating.map .float))) (.ofOption (d.rating.map .float))
    rw [isOf.rating]
    cases rated : f.rating with
    | none => exact .missing
    | some x =>
      have held := sound.typed .facility _ row ("rating", .real) (by simp [Row.model, Model.columns])
      change FieldKind.real.holds (.ofOption (f.rating.map .float)) = true at held
      rw [rated] at held
      have number : x.isNaN = false := (Bool.not_eq_true' _).mp held
      show Writes .real (if x.isNaN then .null else .real x) (.float x)
      rw [number]
      exact .real fun undefined => by rw [Magnitude.ofFloat_eq_undefined_iff, number] at undefined; cases undefined

/-- The columns by which facilities that tie are matched apart in the index: by creation, the latest first, and then by
identity. -/
def tieOrder (column : String) : RowOrder :=
  if column = "created_at" then [("id", .asc)] else [("created_at", .desc), ("id", .asc)]

theorem sorts_tieOrder {column : String} : Model.facility.Sorts (tieOrder column) := by
  have id : ∃ kind, Model.facility.column? "id" = some kind := ⟨_, rfl⟩
  have created : ∃ kind, Model.facility.column? "created_at" = some kind := ⟨_, rfl⟩
  unfold tieOrder
  split
  · exact List.forall_mem_singleton.mpr id
  · exact List.forall_mem_cons.mpr ⟨created, List.forall_mem_singleton.mpr id⟩

/-- Whether a clause sorts documents by the field that is written for a column of a facility, in its direction. -/
def Aligned (f : Facility) (d : Document) (c : SortClause) (o : String × Direction) : Prop :=
  ∃ name marksMissing kind, c = .field name o.2 marksMissing ∧ Model.facility.column? o.1 = some kind ∧
    Writes kind ((Row.facility f).cell o.1) (fieldValue d.source name)

/-- What was found of a document has the sort values that are written for its facility, and can be sorted by them. -/
theorem keyed_of_aligned {order : RowOrder} {sort : List SortClause} {g : Found}
    (aligned : List.Forall₂ (Aligned f d) sort order) (of : g.Of sort d) :
    Keyed order (.facility f) g.keys ∧ List.Forall₂ SortClause.Fits sort g.keys := by
  obtain ⟨_, _, each⟩ := of
  generalize g.keys = keys at each
  induction aligned generalizing keys with
  | nil =>
    cases each
    exact ⟨.nil, .nil⟩
  | cons matched _ ih =>
    cases each with
    | cons first others =>
      obtain ⟨name, _, kind, rfl, known, writes⟩ := matched
      obtain ⟨value, suits⟩ := first
      rw [valueOf_field writes.suits] at value
      cases value
      obtain ⟨keyed, fits⟩ := ih _ others
      exact ⟨.cons ⟨kind, known, writes⟩ keyed, .cons ⟨suits, writes.number⟩ fits⟩

theorem directions_of_aligned {order : RowOrder} {sort : List SortClause}
    (aligned : List.Forall₂ (Aligned f d) sort order) :
    sort.map SortClause.direction = order.map Prod.snd := by
  induction aligned with
  | nil => rfl
  | cons matched _ ih =>
    obtain ⟨_, _, _, rfl, _, _⟩ := matched
    exact congrArg₂ List.cons rfl ih

/-- A search sorts documents of facilities by a column of theirs, and then by those that tell ties apart. -/
theorem forall₂_aligned {q : Query} {sort : List SortClause} {column : String}
    (sorted : sortClauses Surface.facilitySearch q = .ok sort)
    (offered : Surface.facilityListing.sortColumn? q.sorting.key = some column) (portrays : PortrayedIn f d) :
    List.Forall₂ (Aligned f d) sort ((column, q.sorting.direction) :: tieOrder column) := by
  have id : Aligned f d (.field "id" .asc false) ("id", .asc) := ⟨_, _, _, rfl, rfl, portrays.id⟩
  have created (direction : Direction) : Aligned f d (.field "createdAt" direction false) ("created_at", direction) :=
    ⟨_, _, _, rfl, rfl, portrays.createdAt⟩
  obtain ⟨_, _, _, ⟨key, direction⟩, _, _⟩ := q
  cases key with
  | relevance | distance | price => cases offered
  | createdAt =>
    cases offered
    cases sorted
    exact .cons (created direction) (.cons id .nil)
  | name =>
    cases offered
    cases sorted
    exact .cons ⟨_, _, _, rfl, rfl, portrays.name⟩ (.cons (created .desc) (.cons id .nil))
  | rating =>
    cases offered
    cases sorted
    exact .cons ⟨_, _, _, rfl, rfl, portrays.rating⟩ (.cons (created .desc) (.cons id .nil))

/-! ## Results -/

section Results

variable {q : Query} {documents : List Document} {column : String} {direction : Direction}

/-- Of two rows in the order of a search one goes first that does not come after the other. -/
theorem precedes_of_not_after {r s : Row} (different : r.id ≠ s.id)
    (level : comesAfter ((column, direction) :: tieOrder column) r.cell s.cell = false) :
    Precedes ((column, direction) :: tieOrder column) r s := by
  have named : ("id", Direction.asc) ∈ (column, direction) :: tieOrder column := by
    unfold tieOrder
    split <;> simp
  -- neither could go before the other only if they agreed in the last column, which is the identity
  by_contra unordered
  exact different (Store.id_eq_of_tie named level (Bool.eq_false_iff.mpr unordered))

/-- The hits of a search that is sorted by a column stand in the order of the facilities whose documents they are. -/
theorem exists_result_pairwise (searchable : IsSearchable q documents) (distinct : (documents.map Document.id).Nodup)
    (portrayed : ∀ d ∈ documents, ∃ f, PortrayedIn f d)
    (offered : Surface.facilityListing.sortColumn? q.sorting.key = some column) (name : String) :
    ∃ (whole : List Hit) (clauses : List Clause) (test : Document → Bool), IsResult name q documents whole ∧
      (∀ h ∈ whole, h.document ∈ documents) ∧ filterClauses Surface.facilitySearch q = .ok clauses ∧
      (∀ d ∈ documents, allHold d.source (scoreClause Surface.facilitySearch q :: clauses) = .ok (test d)) ∧
      (whole.map fun h => h.document.id).Perm ((documents.filter test).map Document.id) ∧
      whole.Pairwise fun h i => ∀ f g, PortrayedIn f h.document → PortrayedIn g i.document →
        Precedes ((column, q.sorting.direction) :: tieOrder column) (.facility f) (.facility g) := by
  obtain ⟨whole, body, found, made, searched, sorted, read, clauses, test, selected, tested, ids⟩ :=
    exists_result_found searchable name
  have each := read.imp fun _ _ => And.left
  refine ⟨whole, clauses, test, ⟨body, found, made, searched, each⟩, fun h member => ?_, selected, tested,
    map_id_of_read each ▸ ids, ?_⟩
  · obtain ⟨_, _, _, there, _⟩ := exists_of_forall₂ read h member
    exact there
  · -- the search sorts what it found by sort values, and these are written for columns of the facilities
    obtain ⟨find, _, sortedFound⟩ := exists_find_of_search searched
    have fits : ∀ x ∈ documents.filterMap find, List.Forall₂ SortClause.Fits body.sort x.keys := by
      intro x member
      obtain ⟨h, _, _, there, of⟩ := exists_of_forall₂ read.flip x ((perm_sortFound sortedFound).mem_iff.mpr member)
      obtain ⟨f, portrays⟩ := portrayed h.document there
      exact (keyed_of_aligned (forall₂_aligned sorted offered portrays) of).2
    have apart : (found.map Found.id).Nodup :=
      ids.nodup_iff.mpr (distinct.sublist (List.filter_sublist.map _))
    have ordered := (pairwise_sortFound fits sortedFound).and (List.pairwise_map.mp apart)
    refine pairwise_of_forall₂ read ordered fun x y h i first second placed f g portrays portrays' => ?_
    obtain ⟨_, _, of⟩ := first
    obtain ⟨_, _, of'⟩ := second
    have aligned := forall₂_aligned sorted offered portrays
    have aligned' := forall₂_aligned sorted offered portrays'
    refine precedes_of_not_after ?_ ((isLE_orderKeys_iff (directions_of_aligned aligned)
      (keyed_of_aligned aligned of).1 (keyed_of_aligned aligned' of').1).mp placed.1)
    rintro (same : f.id = g.id)
    exact placed.2 (by rw [of.id, of'.id, portrays.id_eq, portrays'.id_eq, same])

end Results

end Index
end Venues
