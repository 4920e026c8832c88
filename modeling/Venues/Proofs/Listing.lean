import Venues.Proofs.Store.Reading
import Venues.Proofs.Surface.Paging
import Venues.Proofs.Walk

/-! # Walks through a listing

A listing can be walked by cursors and by numbers. Both walks come to an end, and both show all rows
that the request selects, each once and in order. A cursor is the identity of the last row that was
shown: the next reading starts at that row, passes over it, and reads one row more than the page holds.
-/

namespace Venues

open Store (Model Row Tables Reading Formula Precedes comesAfter compile)
open Store.Tables (Readable portion portion_eq)

/-! ## Written rows -/

/-- A court whose price is a whole number, or missing, has a written form. -/
theorem Court.exists_listing {c : Court} (typed : (Row.court c).IsTyped) : ∃ v, c.listing = .ok v := by
  have known : (Row.court c).model.column? "price_per_hour" = some .whole := rfl
  have price : FieldKind.whole.holds c.price = true := typed.holds known
  unfold Court.listing
  cases h : c.price with
  | null => exact ⟨_, rfl⟩
  | int n => exact ⟨_, rfl⟩
  | _ =>
    rw [h] at price
    cases price

/-- A facility has a written form if its courts have one. -/
theorem Facility.exists_listing (f : Facility) {courts? : Option (List Court)}
    (each : ∀ courts ∈ courts?, ∀ c ∈ courts, ∃ v, c.listing = .ok v) :
    ∃ v, f.listing courts? = .ok v := by
  unfold Facility.listing
  cases courts? with
  | none => exact ⟨_, rfl⟩
  | some courts =>
    obtain ⟨written, each⟩ := exists_results (each courts rfl)
    have all : (courts.filter Court.isLive).mapM Court.listing =
        .ok ((courts.filter Court.isLive).map written) :=
      mapM_eq_ok fun c member => each c (List.mem_of_mem_filter member)
    simp only [all, map_ok, ok_bind]
    exact ⟨_, rfl⟩

/-- The rows of sound tables have written forms. -/
theorem Store.Row.exists_listing {t : Tables} (sound : t.IsSound) {m : Model} (withRelations : Bool) :
    ∀ r ∈ t.rows m, ∃ v, r.listing t withRelations = .ok v := by
  intro r member
  cases r with
  | court c => exact Court.exists_listing (sound.typed m _ member)
  | facility f =>
    refine Facility.exists_listing f fun courts shown c owned => ?_
    split at shown
    · cases shown
      exact Court.exists_listing (sound.typed .court _ (List.mem_map_of_mem (Tables.mem_courts_of_owned owned)))
    · cases shown

/-- A court is written under its identity. -/
theorem Court.id_of_listing {c : Court} {v : Value} (made : c.listing = .ok v) : v.fields.get "id" = .text c.id.text := by
  unfold Court.listing at made
  dsimp only at made
  split at made <;> cases made
  rfl

/-- A facility is written under its identity. -/
theorem Facility.id_of_listing {f : Facility} {courts? : Option (List Court)} {v : Value}
    (made : f.listing courts? = .ok v) : v.fields.get "id" = .text f.id.text := by
  unfold Facility.listing at made
  cases courts? with
  | none =>
    cases made
    rfl
  | some courts =>
    obtain ⟨shown, _, made⟩ := bind_eq_ok.mp made
    cases made
    rfl

/-- Written rows name the rows that they are written of. -/
theorem Store.Row.ids_of_listing {t : Tables} {withRelations : Bool} {rows : List Row} {written : List Value}
    (made : rows.mapM (Row.listing t withRelations) = .ok written) :
    (written.map fun v => v.fields.get "id") = rows.map fun r => .text r.id.text := by
  rw [← List.forall₂_eq_eq_eq, List.forall₂_map_left_iff, List.forall₂_map_right_iff]
  refine (forall₂_of_mapM made).flip.imp fun v r made => ?_
  cases r with
  | facility f => exact Facility.id_of_listing made
  | court c => exact Court.id_of_listing made

/-! ## Selections -/

section Selections

variable {s : Surface} {m : Model} {q : Query}

/-- What is asked of the store for a query that a surface accepts: its predicate compiles, the order is
that of the sort column and then of the identity, and only the portion depends on the page. -/
structure Surface.Selects (s : Surface) (m : Model) (q : Query) (x : Selection) (f : Formula) : Prop where
  identified : s.idField = "id"
  select : ∀ page, s.select { q with page := page } = .ok { x with portion := page.portion "id" }
  compiled : compile m x.filter = .ok f
  clean : f.faults = []
  order : ∃ column, s.sortColumn? q.sorting.key = some column ∧
    x.order = [(column, q.sorting.direction), ("id", q.sorting.direction)]
  orders : m.Orders x.order
  related : ∀ r ∈ x.relations, (m.relation? r).isSome = true

theorem Store.Model.column?_id (m : Model) : m.column? "id" = some .uuid := by cases m <;> rfl

/-- What a surface asks of the store for a query whose predicate compiles. -/
theorem Surface.exists_selects_of_compiled (describes : s.Describes m)
    (sorted : (s.sortColumn? q.sorting.key).isSome = true) {filter : Predicate}
    (made : Predicate.ofQuery s q = .ok filter) (compiled : compile m filter = .ok f) (clean : f.faults = []) :
    ∃ x, s.select q = .ok x ∧ s.Selects m q x f := by
  obtain ⟨column, found⟩ := Option.isSome_iff_exists.mp sorted
  obtain ⟨ordered, apart⟩ := describes.sorted _ (mem_of_lookup found)
  have apart : column ≠ "id" := describes.identified ▸ apart
  have order : s.ordering q.sorting =
      .ok [(column, q.sorting.direction), ("id", q.sorting.direction)] := by
    rw [Surface.ordering, found]
    simp only [describes.identified, if_neg apart]
  -- the page has no part in the predicate or the order, so any page of the query is selected alike
  have select (page : Page) : s.select { q with page := page } = .ok
      { filter := filter, order := [(column, q.sorting.direction), ("id", q.sorting.direction)],
        portion := page.portion "id", relations := if q.withRelations then s.relations else [] } := by
    have made : Predicate.ofQuery s { q with page := page } = .ok filter := made
    simp only [Surface.select, made, order, ok_bind, describes.identified]
  refine ⟨_, select q.page, describes.identified, select, compiled, clean, ⟨column, found, rfl⟩, ?_, ?_⟩
  · obtain ⟨kind, known, ordered⟩ := (Option.any_eq_true _ _).mp ordered
    intro o member
    simp only [List.mem_cons, List.not_mem_nil, or_false] at member
    rcases member with rfl | rfl
    · exact ⟨kind, known, by simpa using ordered⟩
    · exact ⟨.uuid, m.column?_id, by decide⟩
  · intro r member
    split at member
    · exact describes.related r member
    · cases member

/-- A surface asks something of the store for every query that it accepts. -/
theorem Surface.exists_selects (describes : s.Describes m) (accepted : s.Accepted q.conditions)
    (testable : s.Testable q.conditions) (sorted : (s.sortColumn? q.sorting.key).isSome = true) :
    ∃ x f, s.select q = .ok x ∧ s.Selects m q x f := by
  obtain ⟨filter, made, f, compiled, clean⟩ :=
    Predicate.compiles_ofQuery describes accepted testable
  obtain ⟨x, selected, selects⟩ := Surface.exists_selects_of_compiled describes sorted made compiled clean
  exact ⟨x, f, selected, selects⟩

end Selections

/-! ## Pages -/

section Pages

variable {l : Listing} {t : Tables} {q : Query} {x : Selection} {f : Formula}

/-- The reading of a selected page is one that sound tables answer. -/
theorem Surface.Selects.readable (selects : l.surface.Selects l.model q x f) {p : Portion} {isCursor : Bool}
    (skip : isShort p.skip = true) (take : 0 ≤ p.take ∧ p.take ≤ 100) :
    Readable l.model ({ x with portion := p }.reading isCursor) where
  related := selects.related
  orders := selects.orders
  named := by
    obtain ⟨_, _, order⟩ := selects.order
    exact ⟨q.sorting.direction, by simp [Selection.reading, order]⟩
  short := by
    intro n member
    simp only [Selection.reading, Option.toList_some, List.mem_append, List.mem_singleton] at member
    rcases member with rfl | rfl
    · simp only [isShort, Bool.and_eq_true, decide_eq_true_eq]
      split <;> omega
    · exact skip

theorem mul_le_of_reached {i size length : Nat} (reached : i = 0 ∨ i * size < length) :
    i * size ≤ length := by
  rcases reached with rfl | reached
  · rw [Nat.zero_mul]
    exact Nat.zero_le _
  · exact Nat.le_of_lt reached

/-- The cursor behind some rows is the identity of the last one. -/
def cursorBehind (rows : List Row) : Option String := rows.getLast?.map fun r => r.id.text

theorem strip_cursorBehind {rows : List Row} : ∀ c ∈ cursorBehind rows, Text.strip c = c ∧ c ≠ "" := by
  intro c member
  obtain ⟨r, _, rfl⟩ := Option.map_eq_some_iff.mp member
  exact ⟨Uuid.strip_text r.id, Uuid.text_ne_empty r.id⟩

theorem cursorBehind_append {front back : List Row} (nonempty : back ≠ []) :
    cursorBehind (front ++ back) = cursorBehind back := by
  obtain ⟨init, r, rfl⟩ := (List.eq_nil_or_concat _).resolve_left nonempty
  rw [cursorBehind, cursorBehind, List.concat_eq_append, ← List.append_assoc, List.getLast?_concat,
    List.getLast?_concat]

theorem map_cursorBehind {rows : List Row} (nonempty : rows ≠ []) :
    (cursorBehind rows).map some = some (cursorBehind rows) := by
  obtain ⟨init, r, rfl⟩ := (List.eq_nil_or_concat _).resolve_left nonempty
  simp [cursorBehind]

/-- The note on a page of rows behind a cursor. -/
theorem atKey_rows (c? : Option String) (limit : Int) {shown : List Row} {more : Bool}
    (nonempty : more = true → shown ≠ []) :
    ∃ d, PageMeta.atKey c? limit (shown.map fun r => .object r.values) more "id" = .ok d ∧
      d.hasMore = more ∧ d.nextCursor = if more then cursorBehind shown else none := by
  cases more with
  | false => exact ⟨_, rfl, rfl, rfl⟩
  | true =>
    obtain ⟨front, r, rfl⟩ := (List.eq_nil_or_concat _).resolve_left (nonempty rfl)
    have identity : r.values.get "id" = .uuid r.id := by cases r <;> rfl
    have cursor : Cursor.ofItem (.object r.values) "id" = .ok r.id.text := by
      simp [Cursor.ofItem, Value.fields, identity, Value.isNull, Value.display]
    refine ⟨{ limit := limit, cursor := c?, hasMore := true, nextCursor := some r.id.text }, ?_, rfl, ?_⟩
    · simp [PageMeta.atKey, cursor]
    · simp [cursorBehind]

variable {size : Nat} (sound : t.IsSound) (selects : l.surface.Selects l.model q x f)
  (limit : q.limit = (size : Int)) (positive : 0 < size) (bounded : size ≤ 100)
include sound selects limit positive bounded

/-- The page with a number holds its part of the rows, and tells whether rows are left. -/
theorem pageOf_number {i : Nat} (reached : i = 0 ∨ i * size < (t.answers l.model x.order f).length) :
    ∃ p, l.pageOf t { q with page := .offset ((i : Int) + 1) q.limit none } = .ok p ∧
      p.rows = ((t.answers l.model x.order f).drop (i * size)).take size ∧
      p.details.hasMore = decide ((i + 1) * size < (t.answers l.model x.order f).length) := by
  have orderly := sound.orderly l.model
  have counted : (t.answers l.model x.order f).length = (t.selected l.model f).length :=
    Store.walk_perm.length_eq
  have few : (t.answers l.model x.order f).length ≤ (t.rows l.model).length := by
    rw [counted]
    exact List.length_filter_le _ _
  have skip : Page.startOf ((i : Int) + 1) size none = ((i * size : Nat) : Int) := by
    simp [Page.startOf]
  have short : isShort ((i * size : Nat) : Int) = true := by
    have bounded := sound.bounded l.model
    simp only [isShort, Bool.and_eq_true, decide_eq_true_eq] at bounded ⊢
    rcases reached with rfl | reached <;> omega
  have total := @Tables.count_eq t l.model x.filter f orderly selects.compiled selects.clean
  have take : (0 : Int) ≤ size ∧ (size : Int) ≤ 100 := by omega
  have readable := @Surface.Selects.readable l q x f selects ⟨(i * size : Nat), size, none⟩ false short take
  have rows := Tables.findMany_eq orderly readable selects.compiled selects.clean rfl rfl rfl
  unfold Listing.pageOf
  rw [selects.select]
  simp only [ok_bind, Page.portion, skip, limit, Page.isCursor, total, rows, Bool.false_eq_true, if_false]
  refine ⟨_, rfl, portion_eq _ _ _, ?_⟩
  have within := mul_le_of_reached reached
  simp only [Selection.reading, Bool.false_eq_true, if_false, portion_eq, PageMeta.atOffset]
  rw [← counted, Bool.and_true, decide_eq_decide, List.length_take, List.length_drop, Nat.succ_mul]
  omega

omit limit positive in
/-- A reading that is anchored at a row has the rows that follow it: the row itself is read again, and passed
over. -/
theorem findMany_behind {front rest : List Row} {r : Row} (whole : t.answers l.model x.order f = front ++ r :: rest) :
    t.findMany l.model ({ x with portion := ⟨1, size, some ("id", r.id.text)⟩ }.reading true) =
      .ok (rest.take (size + 1)) := by
  have orderly := sound.orderly l.model
  obtain ⟨_, _, order⟩ := selects.order
  have member : r ∈ t.rows l.model := by
    refine @Tables.mem_rows_of_mem_answers t l.model f x.order r ?_
    rw [whole]
    simp
  have known := sound.hasKeys member selects.orders
  -- what does not come before the row in sorted rows is the row and what follows it
  have sorted := @Tables.answers_pairwise t l.model f orderly.toIsKeyed x.order selects.orders
    q.sorting.direction (by simp [order])
  have fit : ∀ a ∈ t.answers l.model x.order f, l.model.Fits a.cell := fun a shown =>
    orderly.fits a (Tables.mem_rows_of_mem_answers shown)
  rw [whole] at sorted fit
  have cutOff := Store.filter_not_comesAfter selects.orders.sorts fit sorted
  rw [← whole] at cutOff
  have take : (0 : Int) ≤ size ∧ (size : Int) ≤ 100 := by omega
  have readable := @Surface.Selects.readable l q x f selects ⟨1, size, some ("id", r.id.text)⟩ true
    (by decide : isShort 1 = true) take
  have rows := Tables.findMany_anchor orderly readable selects.compiled selects.clean rfl member known rfl
    (Uuid.ofText?_text r.id) rfl
  rw [rows]
  simp only [Selection.reading] at cutOff ⊢
  rw [cutOff]
  exact congrArg Except.ok (portion_eq 1 (size + 1) _)

/-- A reading at the cursor behind some of the rows has the rows that follow them. -/
theorem findMany_cursorBehind {i : Nat}
    (reached : i = 0 ∨ i * size < (t.answers l.model x.order f).length) :
    ∃ p : Portion, (Page.cursor (cursorBehind ((t.answers l.model x.order f).take (i * size)))
        q.limit).portion "id" = p ∧ p.take = size ∧
      t.findMany l.model ({ x with portion := p }.reading true) =
        .ok (((t.answers l.model x.order f).drop (i * size)).take (size + 1)) := by
  rcases Nat.eq_zero_or_pos i with rfl | later
  · have take : (0 : Int) ≤ size ∧ (size : Int) ≤ 100 := by omega
    have readable := @Surface.Selects.readable l q x f selects ⟨0, size, none⟩ true (by decide : isShort 0 = true) take
    have rows := Tables.findMany_eq (sound.orderly l.model) readable selects.compiled selects.clean rfl rfl rfl
    refine ⟨⟨0, size, none⟩, by simp [cursorBehind, Page.portion, limit], rfl, ?_⟩
    rw [rows, Nat.zero_mul]
    exact congrArg Except.ok (portion_eq 0 (size + 1) _)
  · -- the cursor names the last of the rows before
    have nonempty : (t.answers l.model x.order f).take (i * size) ≠ [] := by
      have shown : 0 < i * size := Nat.mul_pos later positive
      rw [Ne, ← List.length_eq_zero_iff, List.length_take]
      omega
    obtain ⟨front, r, cut⟩ := (List.eq_nil_or_concat _).resolve_left nonempty
    rw [List.concat_eq_append] at cut
    have whole : t.answers l.model x.order f =
        front ++ r :: (t.answers l.model x.order f).drop (i * size) := by
      rw [List.append_cons, ← cut, List.take_append_drop]
    refine ⟨⟨1, size, some ("id", r.id.text)⟩, ?_, rfl, findMany_behind sound selects bounded whole⟩
    rw [cut]
    simp [cursorBehind, Page.portion, limit, Cursor.toAnchor, Uuid.strip_text]

omit bounded in
/-- The page at a cursor holds the rows that are read there, but for the one that tells whether rows are left. It
names the cursor behind itself if so. -/
theorem pageOf_of_reading {k : Nat} {c? : Option String}
    (rows : t.findMany l.model ({ x with portion := (Page.cursor c? q.limit).portion "id" }.reading true) =
      .ok (((t.answers l.model x.order f).drop k).take (size + 1))) :
    ∃ p, l.pageOf t { q with page := .cursor c? q.limit } = .ok p ∧
      p.rows = ((t.answers l.model x.order f).drop k).take size ∧
      p.total = (t.selected l.model f).length ∧
      p.details.hasMore = decide (k + size < (t.answers l.model x.order f).length) ∧
      p.details.nextCursor = if k + size < (t.answers l.model x.order f).length then cursorBehind p.rows else none := by
  have total := @Tables.count_eq t l.model x.filter f (sound.orderly l.model) selects.compiled selects.clean
  have taken : ((Page.cursor c? q.limit).portion "id").take = size := by
    cases c? <;> exact limit
  unfold Listing.pageOf
  rw [selects.select]
  have fits : (((t.answers l.model x.order f).drop k).take (size + 1)).take size =
      ((t.answers l.model x.order f).drop k).take size := by
    rw [List.take_take, Nat.min_eq_left (Nat.le_succ size)]
  have left (goes : k + size < (t.answers l.model x.order f).length) :
      ((t.answers l.model x.order f).drop k).take size ≠ [] := by
    rw [Ne, ← List.length_eq_zero_iff, List.length_take, List.length_drop]
    omega
  -- one row more than asked for is read, and it is there exactly if rows are left
  have more : decide ((size : Int) < (((t.answers l.model x.order f).drop k).take (size + 1)).length) =
      decide (k + size < (t.answers l.model x.order f).length) := by
    rw [decide_eq_decide, List.length_take, List.length_drop]
    omega
  obtain ⟨d, noted, hasMore, nextCursor⟩ := @atKey_rows c? q.limit
    (((t.answers l.model x.order f).drop k).take size) (decide (k + size < (t.answers l.model x.order f).length))
    fun goes => left (of_decide_eq_true goes)
  simp only [ok_bind, total, Page.isCursor, if_true, rows, taken, Int.toNat_natCast, fits, more,
    selects.identified]
  refine ⟨⟨_, _, d⟩, bind_eq_ok.mpr ⟨d, noted, rfl⟩, rfl, rfl, hasMore, ?_⟩
  rw [nextCursor]
  simp only [decide_eq_true_eq]

/-- The page at the cursor behind some of the rows holds the rows that follow them, tells whether rows are
left, and names the cursor behind itself if so. -/
theorem pageOf_cursor {i : Nat} (reached : i = 0 ∨ i * size < (t.answers l.model x.order f).length)
    {c? : Option String} (behind : c? = cursorBehind ((t.answers l.model x.order f).take (i * size))) :
    ∃ p, l.pageOf t { q with page := .cursor c? q.limit } = .ok p ∧
      p.rows = ((t.answers l.model x.order f).drop (i * size)).take size ∧
      p.details.hasMore = decide ((i + 1) * size < (t.answers l.model x.order f).length) ∧
      p.details.nextCursor.map some =
        if (i + 1) * size < (t.answers l.model x.order f).length then
          some (cursorBehind ((t.answers l.model x.order f).take ((i + 1) * size)))
        else none := by
  subst behind
  obtain ⟨_, rfl, _, rows⟩ := findMany_cursorBehind sound selects limit positive bounded reached
  obtain ⟨p, found, shown, _, hasMore, nextCursor⟩ := pageOf_of_reading sound selects limit positive rows
  rw [Nat.succ_mul]
  refine ⟨p, found, shown, hasMore, ?_⟩
  rw [nextCursor]
  by_cases goes : i * size + size < (t.answers l.model x.order f).length
  · have left : ((t.answers l.model x.order f).drop (i * size)).take size ≠ [] := by
      rw [Ne, ← List.length_eq_zero_iff, List.length_take, List.length_drop]
      omega
    rw [if_pos goes, if_pos goes, List.take_add, cursorBehind_append left, shown]
    exact map_cursorBehind left
  · rw [if_neg goes, if_neg goes]
    rfl

end Pages

/-! ## Walks -/

theorem Listing.describes {l : Listing} (known : l = .facilities ∨ l = .courts) :
    l.surface.Describes l.model := by
  rcases known with rfl | rfl
  · exact Surface.describes_facility
  · exact Surface.describes_court

theorem Listing.page_eq {l : Listing} {t : Tables} {request : Value} {q : Query} {p : RowPage}
    {written : Row → Value} (normalized : l.surface.normalize request = .ok q)
    (found : l.pageOf t q = .ok p)
    (each : ∀ r ∈ p.rows, r.listing t q.withRelations = .ok (written r)) :
    l.page t request = .ok { rows := p.rows.map written, total := p.total, details := p.details } := by
  simp only [Listing.page, normalized, found, mapM_eq_ok each, ok_bind]

/-- Whatever a listing answers comes from a page of rows. -/
theorem Listing.of_page {l : Listing} {t : Tables} {request : Value} {p : ResultPage}
    (answered : l.page t request = .ok p) :
    ∃ q rp, l.surface.normalize request = .ok q ∧ l.pageOf t q = .ok rp ∧
      rp.rows.mapM (Row.listing t q.withRelations) = .ok p.rows ∧ p.total = rp.total ∧ p.details = rp.details := by
  obtain ⟨q, accepted, answered⟩ := bind_eq_ok.mp answered
  obtain ⟨rp, found, answered⟩ := bind_eq_ok.mp answered
  obtain ⟨rows, written, answered⟩ := bind_eq_ok.mp answered
  cases answered
  exact ⟨q, rp, accepted, found, written, rfl, rfl⟩

/-- The rows of a page are some of those that the predicate of its query selects, and it tells how many there are. -/
theorem Listing.of_pageOf {l : Listing} {t : Tables} {q : Query} {rp : RowPage} (found : l.pageOf t q = .ok rp) :
    ∃ p f, Predicate.ofQuery l.surface q = .ok p ∧ compile l.model p = .ok f ∧ f.faults = [] ∧
      rp.total = ((t.selected l.model f).length : Int) ∧ ∀ r ∈ rp.rows, r ∈ t.selected l.model f := by
  obtain ⟨x, selected, found⟩ := bind_eq_ok.mp found
  obtain ⟨total, counted, found⟩ := bind_eq_ok.mp found
  obtain ⟨rows, read, found⟩ := bind_eq_ok.mp found
  obtain ⟨p, made, selected⟩ := bind_eq_ok.mp selected
  obtain ⟨order, _, selected⟩ := bind_eq_ok.mp selected
  cases selected
  obtain ⟨f, compiled, counted⟩ := bind_eq_ok.mp (Tables.guarded_eq_ok counted)
  obtain ⟨_, checked, counted⟩ := bind_eq_ok.mp counted
  cases counted
  obtain ⟨f', compiled', members⟩ := Tables.mem_selected_of_findMany read
  cases compiled.symm.trans compiled'
  refine ⟨p, f, made, compiled, Tables.faults_of_check checked, ?_⟩
  -- a page at a cursor was read with one row more than it shows
  split at found
  · obtain ⟨d, _, found⟩ := bind_eq_ok.mp found
    cases found
    exact ⟨rfl, fun r shown => members r (List.mem_of_mem_take shown)⟩
  · cases found
    exact ⟨rfl, members⟩

/-- A page of rows of sound tables is answered in written form. -/
theorem Listing.page_of_pageOf {l : Listing} {t : Tables} (sound : t.IsSound) {request : Value} {q : Query} {rp : RowPage}
    (normalized : l.surface.normalize request = .ok q) (found : l.pageOf t q = .ok rp) :
    ∃ p, l.page t request = .ok p ∧ p.rows.length = rp.rows.length ∧ p.total = rp.total ∧ p.details = rp.details := by
  obtain ⟨_, f, _, _, _, _, shown⟩ := Listing.of_pageOf found
  obtain ⟨written, each⟩ := exists_results (@Store.Row.exists_listing t sound l.model q.withRelations)
  have listed : ∀ r ∈ rp.rows, r.listing t q.withRelations = .ok (written r) := fun r member =>
    each r (Tables.mem_of_mem_selected (shown r member))
  exact ⟨_, Listing.page_eq normalized found listed, List.length_map _, rfl, rfl⟩

/-- The pages of a walk by cursors: the first page, and the page at each cursor that is handed out. -/
def Listing.CursorWalk (l : Listing) (t : Tables) (request : Value) (pages : List ResultPage) : Prop :=
  Walks (fun c? => l.page t (atCursor request c?)) (fun _ p => p.details.nextCursor.map some) none pages

/-- The pages of a walk by numbers: page 1, and the next page as long as one tells that more follows. -/
def Listing.NumberWalk (l : Listing) (t : Tables) (request : Value) (pages : List ResultPage) : Prop :=
  Walks (fun number => l.page t (atNumber request number))
    (fun number p => if p.details.hasMore then some (number + 1) else none) 1 pages

/-- Whether pages hold some written rows, and all but the last one tell that more follow. -/
abbrev Listing.Shows (pages : List ResultPage) (written : List Value) : Prop :=
  Covers ResultPage.rows (fun p => p.details.hasMore) pages written

section Walked

variable {l : Listing} {t : Tables} {request : Value} {q : Query} {x : Selection} {f : Formula} {size : Nat}
  {written : Row → Value} (sound : t.IsSound) (selects : l.surface.Selects l.model q x f)
  (accepted : l.surface.normalize (atCursor request none) = .ok q)
  (listed : ∀ r ∈ t.answers l.model x.order f, r.listing t q.withRelations = .ok (written r))
  (limit : q.limit = (size : Int)) (positive : 0 < size) (bounded : size ≤ 100)
include sound selects accepted listed limit positive bounded

/-- The rows that answer a request are walked by cursors. -/
theorem Listing.exists_cursorWalk :
    ∃ pages, l.CursorWalk t request pages ∧ Listing.Shows pages ((t.answers l.model x.order f).map written) := by
  have walked := @exists_walk _ _ _ (fun c? => l.page t (atCursor request c?))
    (fun _ p => p.details.nextCursor.map some) ResultPage.rows (fun p => p.details.hasMore)
    ((t.answers l.model x.order f).map written) size positive
    (fun i => cursorBehind ((t.answers l.model x.order f).take (i * size))) ?_
  · rwa [Nat.zero_mul, List.take_zero] at walked
  · intro i reached
    rw [List.length_map] at reached ⊢
    obtain ⟨p, found, rows, hasMore, next⟩ := pageOf_cursor sound selects limit positive bounded reached rfl
    have normalized := Surface.normalize_atCursor accepted
      (@strip_cursorBehind ((t.answers l.model x.order f).take (i * size)))
    rw [atCursor_atCursor] at normalized
    have page := Listing.page_eq normalized found fun r member =>
      listed r (List.mem_of_mem_drop (List.mem_of_mem_take (rows ▸ member)))
    refine ⟨_, page, ?_, hasMore, next⟩
    rw [rows, List.map_take, List.map_drop]

/-- The rows that answer a request are walked by numbers, on a surface that is no index. -/
theorem Listing.exists_numberWalk (stored : l.surface.backend ≠ .index) :
    ∃ pages, l.NumberWalk t request pages ∧ Listing.Shows pages ((t.answers l.model x.order f).map written) := by
  refine @exists_walk _ _ _ (fun number => l.page t (atNumber request number))
    (fun number p => if p.details.hasMore then some (number + 1) else none) ResultPage.rows
    (fun p => p.details.hasMore) ((t.answers l.model x.order f).map written) size positive (fun i => (i : Int) + 1) ?_
  intro i reached
  rw [List.length_map] at reached ⊢
  obtain ⟨p, found, rows, hasMore⟩ := pageOf_number sound selects limit positive bounded reached
  have normalized := Surface.normalize_atNumber accepted (by omega : (1 : Int) ≤ (i : Int) + 1)
    fun index => absurd index stored
  rw [atNumber_atCursor] at normalized
  have page := Listing.page_eq normalized found fun r member =>
    listed r (List.mem_of_mem_drop (List.mem_of_mem_take (rows ▸ member)))
  refine ⟨_, page, ?_, hasMore, ?_⟩
  · rw [rows, List.map_take, List.map_drop]
  · simp only [hasMore, decide_eq_true_eq]
    rfl

end Walked

/-- The rows that answer a request that a listing accepts can be walked by cursors and by numbers. -/
theorem Listing.exists_answers {l : Listing} (known : l = .facilities ∨ l = .courts) {t : Tables}
    (sound : t.IsSound) {request : Value} {q : Query}
    (accepted : l.surface.normalize (atCursor request none) = .ok q)
    (testable : l.surface.Testable q.conditions) :
    ∃ (x : Selection) (f : Formula) (written : List Value),
      l.surface.select q = .ok x ∧ l.surface.Selects l.model q x f ∧
      (t.answers l.model x.order f).mapM (Row.listing t q.withRelations) = .ok written ∧
      (∃ pages, l.CursorWalk t request pages ∧ Listing.Shows pages written) ∧
      ∃ pages, l.NumberWalk t request pages ∧ Listing.Shows pages written := by
  have describes := Listing.describes known
  have normalizes := Surface.normalize_iff.mp accepted
  obtain ⟨_, least, most⟩ := normalizes.limit_spec
  obtain ⟨_, _, sorted, _⟩ := Surface.accept_iff.mp normalizes.accepted
  obtain ⟨x, f, selected, selects⟩ :=
    Surface.exists_selects describes normalizes.acceptedConditions testable sorted
  obtain ⟨written, each⟩ := exists_results (@Store.Row.exists_listing t sound l.model q.withRelations)
  have listed (r : Row) (member : r ∈ t.answers l.model x.order f) :
      r.listing t q.withRelations = .ok (written r) := each r (Tables.mem_rows_of_mem_answers member)
  obtain ⟨size, limit⟩ := Int.eq_ofNat_of_zero_le (by omega : 0 ≤ q.limit)
  have positive : 0 < size := by omega
  have bounded : size ≤ 100 := by omega
  -- in a listing no window limits the positions of pages
  have stored : l.surface.backend ≠ .index := fun index =>
    absurd (describes.relational.symm.trans index) (by decide)
  exact ⟨x, f, _, selected, selects, mapM_eq_ok listed,
    Listing.exists_cursorWalk sound selects accepted listed limit positive bounded,
    Listing.exists_numberWalk sound selects accepted listed limit positive bounded stored⟩

/-- Every request that a listing accepts can be walked by cursors and by numbers. Both walks come to an
end, and both show, each once, under its identity and in the order of the request, the rows that satisfy its
predicate; all pages but the last one tell that more rows follow. -/
theorem Listing.exists_walks {l : Listing} (known : l = .facilities ∨ l = .courts) {t : Tables}
    (sound : t.IsSound) {request : Value} {q : Query}
    (accepted : l.surface.normalize (atCursor request none) = .ok q)
    (testable : l.surface.Testable q.conditions) :
    ∃ (x : Selection) (f : Formula) (rows : List Row) (written : List Value),
      l.surface.select q = .ok x ∧ compile l.model x.filter = .ok f ∧
      (∃ column, l.surface.sortColumn? q.sorting.key = some column ∧
        x.order = [(column, q.sorting.direction), ("id", q.sorting.direction)]) ∧
      rows.Perm (t.selected l.model f) ∧ rows.Pairwise (Precedes x.order) ∧
      rows.mapM (Row.listing t q.withRelations) = .ok written ∧
      (written.map fun v => v.fields.get "id") = (rows.map fun r => .text r.id.text) ∧
      (∃ pages, l.CursorWalk t request pages ∧ Listing.Shows pages written) ∧
      ∃ pages, l.NumberWalk t request pages ∧ Listing.Shows pages written := by
  obtain ⟨x, f, written, selected, selects, listed, cursors, numbers⟩ :=
    Listing.exists_answers known sound accepted testable
  obtain ⟨_, _, order⟩ := selects.order
  have named : ("id", q.sorting.direction) ∈ x.order := by simp [order]
  exact ⟨x, f, t.answers l.model x.order f, written, selected, selects.compiled, selects.order, Store.walk_perm,
    Tables.answers_pairwise (sound.orderly l.model).toIsKeyed selects.orders named, listed,
    Store.Row.ids_of_listing listed, cursors, numbers⟩

/-- Two facilities that differ in nothing but their identity. -/
def twins : Tables where
  facilities := [{ (default : Facility) with id := ⟨1⟩ }, { (default : Facility) with id := ⟨2⟩ }]

/-- The tables with two such facilities are sound. -/
theorem twins_isSound : twins.IsSound where
  present := rfl
  distinct := by
    intro m
    cases m <;> decide
  typed := by
    intro m
    cases m <;> decide
  bounded := by
    intro m
    cases m <;> decide

/-- The two facilities are walked by cursors, one to a page. -/
theorem Listing.exists_walks_twins :
    ∃ written pages, Listing.facilities.CursorWalk twins (.object [("limit", .int 1)]) pages ∧
      Listing.Shows pages written := by
  obtain ⟨_, _, _, written, _, _, _, _, _, _, _, ⟨pages, walk⟩, _⟩ :=
    @Listing.exists_walks .facilities (.inl rfl) twins twins_isSound (.object [("limit", .int 1)]) _ rfl
      (by simp [Surface.Testable])
  exact ⟨written, pages, walk⟩

end Venues
