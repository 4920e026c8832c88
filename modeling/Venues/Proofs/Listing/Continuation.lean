import Venues.Proofs.Page.Cursor
import Venues.Proofs.Store.Anchor
import Venues.Proofs.Surface.Normal

/-! # Where a cursor leads

A page of a listing that tells of more rows names a cursor. In a walk by cursors this is the identity of the
last row that was shown, and the page at it starts with the row that follows. A page that was asked for by
its number names the position of the next row instead. No row has such an identity, so the page at this cursor
is empty, although rows are left.
-/

namespace Venues

open Store (Row Tables Formula Precedes comesAfter compile)

/-! ## Pages at any cursor -/

section Pages

variable {l : Listing} {t : Tables} {q : Query} {x : Selection} {f : Formula} {size : Nat}

/-- What a reading that starts at a row has is nothing if the row is not there. -/
theorem Surface.Selects.findMany_unnamed (selects : l.surface.Selects l.model q x f) {portion : Portion}
    {column id : String} (start : portion.anchor = some (column, id)) (unnamed : t.named l.model (.text id) = .ok none) :
    t.findMany l.model ({ x with portion := portion }.reading true) = .ok [] := by
  unfold Tables.findMany
  simp only [Selection.reading, start, Option.map_some, Store.Tables.compileOptional, selects.compiled, ok_bind, unnamed]
  rfl

variable (sound : t.IsSound) (selects : l.surface.Selects l.model q x f)
  (limit : q.limit = (size : Int)) (positive : 0 < size) (bounded : size ≤ 100)
include sound selects limit positive bounded

omit limit positive in
/-- The rows that are read at a row of the store, be it listed or not, follow each other in the listing. -/
theorem exists_findMany_at {id : String} {r : Row} (member : r ∈ t.rows l.model)
    (names : Store.Tables.identity? (.text id) = some r.id) :
    ∃ k, t.findMany l.model ({ x with portion := ⟨1, size, some ("id", id)⟩ }.reading true) =
      .ok (((t.answers l.model x.order f).drop k).take (size + 1)) := by
  have orderly := sound.orderly l.model
  obtain ⟨_, _, order⟩ := selects.order
  have known := sound.hasKeys member selects.orders
  have readable := @Surface.Selects.readable l q x f selects ⟨1, size, some ("id", id)⟩ true
    (by decide : isShort 1 = true) (by omega : (0 : Int) ≤ size ∧ (size : Int) ≤ 100)
  have rows := Tables.findMany_anchor orderly readable selects.compiled selects.clean rfl member known rfl names rfl
  have sorted := @Tables.answers_pairwise t l.model f orderly.toIsKeyed x.order selects.orders
    q.sorting.direction (by simp [order])
  -- the row need not be among the answers, so they are cut where the first stands that does not come before it
  obtain ⟨k, cut⟩ := Store.exists_filter_eq_drop selects.orders.sorts
    (fun a shown => orderly.fits a (Tables.mem_rows_of_mem_answers shown)) (orderly.fits r member) sorted
  refine ⟨k + 1, ?_⟩
  rw [rows]
  refine congrArg Except.ok ((Store.Tables.portion_eq 1 (size + 1) _).trans ?_)
  simp only [Selection.reading, cut, List.drop_drop]

omit positive in
/-- Whatever the cursor, the rows that are read at it follow each other in the listing. -/
theorem exists_findMany_cursor (c? : Option String) :
    ∃ k, t.findMany l.model ({ x with portion := (Page.cursor c? q.limit).portion "id" }.reading true) =
      .ok (((t.answers l.model x.order f).drop k).take (size + 1)) := by
  cases c? with
  | none =>
    have readable := @Surface.Selects.readable l q x f selects ⟨0, size, none⟩ true (by decide : isShort 0 = true)
      (by omega : (0 : Int) ≤ size ∧ (size : Int) ≤ 100)
    have rows := Tables.findMany_eq (sound.orderly l.model) readable selects.compiled selects.clean rfl rfl rfl
    refine ⟨0, ?_⟩
    rw [Page.portion, limit, rows]
    exact congrArg Except.ok (Store.Tables.portion_eq 0 (size + 1) _)
  | some c =>
    rw [Page.portion, limit, Cursor.toAnchor]
    -- a cursor that names no row has nothing behind it, as if it stood at the end
    have nowhere (unnamed : t.named l.model (.text (Text.strip c)) = .ok none) :
        ∃ k, t.findMany l.model ({ x with portion := ⟨1, size, some ("id", Text.strip c)⟩ }.reading true) =
          .ok (((t.answers l.model x.order f).drop k).take (size + 1)) := by
      refine ⟨(t.answers l.model x.order f).length, ?_⟩
      rw [selects.findMany_unnamed rfl unnamed, List.drop_length, List.take_nil]
    cases read : Store.Tables.identity? (.text (Text.strip c)) with
    | none => exact nowhere (Store.Tables.named_eq_none read)
    | some u =>
      have searched : t.named l.model (.text (Text.strip c)) = .ok (t.find? l.model u) :=
        Store.Tables.named_eq sound.present read
      cases there : t.find? l.model u with
      | none => exact nowhere (searched.trans (congrArg Except.ok there))
      | some r =>
        have same : r.id = u := by simpa using List.find?_some there
        exact exists_findMany_at sound selects bounded (List.mem_of_find?_eq_some there)
          (read.trans (congrArg some same.symm))

omit bounded in
/-- The page at a cursor that is no text of an identifier is empty. -/
theorem exists_pageOf_nowhere {c : String} (unread : Uuid.ofText? (Text.strip c) = none) :
    ∃ next, l.pageOf t { q with page := .cursor (some c) q.limit } = .ok next ∧ next.rows = [] ∧
      next.total = (t.selected l.model f).length ∧ next.details.hasMore = false ∧ next.details.nextCursor = none := by
  have unnamed : t.named l.model (.text (Text.strip c)) = .ok none := Store.Tables.named_eq_none unread
  have read : t.findMany l.model ({ x with portion := (Page.cursor (some c) q.limit).portion "id" }.reading true) =
      .ok (((t.answers l.model x.order f).drop (t.answers l.model x.order f).length).take (size + 1)) := by
    rw [List.drop_length, List.take_nil]
    exact selects.findMany_unnamed rfl unnamed
  obtain ⟨next, found, rows, total, hasMore, nextCursor⟩ := pageOf_of_reading sound selects limit positive read
  refine ⟨next, found, ?_, total, ?_, ?_⟩
  · rw [rows, List.drop_length, List.take_nil]
  · rw [hasMore]
    simp
  · rw [nextCursor]
    simp

/-- The page at the cursor behind a page starts with the row that follows. -/
theorem exists_pageOf_behind {k : Nat}
    (goes : k + size < (t.answers l.model x.order f).length) :
    ∃ next, l.pageOf t { q with
        page := .cursor (cursorBehind (((t.answers l.model x.order f).drop k).take size)) q.limit } = .ok next ∧
      next.rows = ((t.answers l.model x.order f).drop (k + size)).take size ∧
      next.total = (t.selected l.model f).length ∧
      next.details.hasMore = decide (k + size + size < (t.answers l.model x.order f).length) := by
  have nonempty : ((t.answers l.model x.order f).drop k).take size ≠ [] := by
    rw [Ne, ← List.length_eq_zero_iff, List.length_take, List.length_drop]
    omega
  obtain ⟨front, r, cut⟩ := (List.eq_nil_or_concat _).resolve_left nonempty
  rw [List.concat_eq_append] at cut
  have whole : t.answers l.model x.order f =
      ((t.answers l.model x.order f).take k ++ front) ++ r :: (t.answers l.model x.order f).drop (k + size) := by
    rw [List.append_cons, List.append_assoc _ front, ← cut, List.append_assoc, ← List.drop_drop, List.take_append_drop,
      List.take_append_drop]
  have read := findMany_behind sound selects bounded whole
  have cursor : cursorBehind (((t.answers l.model x.order f).drop k).take size) = some r.id.text := by
    rw [cut]
    simp [cursorBehind]
  have at' : (Page.cursor (some r.id.text) q.limit).portion "id" = ⟨1, size, some ("id", r.id.text)⟩ := by
    simp [Page.portion, limit, Cursor.toAnchor, Uuid.strip_text]
  rw [← at'] at read
  rw [cursor]
  obtain ⟨next, found, rows, total, hasMore, _⟩ := pageOf_of_reading sound selects limit positive read
  exact ⟨next, found, rows, total, hasMore⟩

/-! ## Pages with a cursor -/

section Found

variable {p : RowPage} (found : l.pageOf t q = .ok p) (more : p.details.hasMore = true)
include found more

/-- A page at a cursor that tells of more rows names the cursor behind its last row. -/
theorem exists_part_of_cursor (cursor : q.page.isCursor = true) :
    ∃ k, p.rows = ((t.answers l.model x.order f).drop k).take size ∧ k + size < (t.answers l.model x.order f).length ∧
      p.total = (t.selected l.model f).length ∧ p.details.nextCursor = cursorBehind p.rows := by
  obtain ⟨c?, paged⟩ : ∃ c?, q.page = .cursor c? q.limit := by
    unfold Query.limit
    cases page : q.page with
    | offset => rw [page] at cursor; cases cursor
    | cursor c? n => exact ⟨c?, rfl⟩
  obtain ⟨k, read⟩ := exists_findMany_cursor sound selects limit bounded c?
  obtain ⟨p', found', rows, total, hasMore, nextCursor⟩ := pageOf_of_reading sound selects limit positive read
  rw [← paged] at found'
  cases found.symm.trans found'
  rw [hasMore, decide_eq_true_eq] at more
  rw [if_pos more] at nextCursor
  exact ⟨k, rows, more, total, nextCursor⟩

omit bounded in
/-- A page that was asked for by its number and tells of more rows names the position behind its last row. -/
theorem exists_part_of_number (proper : q.page.IsProper) (numbered : q.page.isCursor = false) :
    ∃ k, p.rows = ((t.answers l.model x.order f).drop k).take size ∧ k + size < (t.answers l.model x.order f).length ∧
      p.total = (t.selected l.model f).length ∧
      p.details.nextCursor = some (Cursor.ofOffset ((k + size : Nat) : Int)) := by
  have orderly := sound.orderly l.model
  obtain ⟨_, _, order⟩ := selects.order
  obtain ⟨number, start?, paged⟩ : ∃ number start?, q.page = .offset number size start? := by
    rw [← limit]
    unfold Query.limit
    cases page : q.page with
    | offset number n start? => exact ⟨number, start?, rfl⟩
    | cursor => rw [page] at numbered; cases numbered
  rw [paged] at proper
  obtain ⟨k, start⟩ := Int.eq_ofNat_of_zero_le (proper.startOf_nonneg (by omega))
  have portion : q.page.portion "id" = ⟨k, size, none⟩ := by rw [paged, Page.portion, start]
  have selected := selects.select q.page
  rw [portion] at selected
  have counted : (t.answers l.model x.order f).length = (t.selected l.model f).length := Store.walk_perm.length_eq
  have total := @Tables.count_eq t l.model x.filter f orderly selects.compiled selects.clean
  unfold Listing.pageOf at found
  rw [selected] at found
  simp only [ok_bind, total, numbered, Bool.false_eq_true, if_false] at found
  obtain ⟨rows, read, found⟩ := bind_eq_ok.mp found
  cases found
  obtain ⟨f', compiled, shown⟩ := @Tables.findMany_cases t l.model _ x.filter orderly.toIsKeyed selects.orders
    q.sorting.direction (by simp [Selection.reading, order]) rfl rfl none rfl (by simp) rows read
  cases selects.compiled.symm.trans compiled
  simp only [Option.all_none, List.filter_true] at shown
  replace shown := shown.trans (Store.Tables.portion_eq k size _)
  simp only [Selection.reading] at shown
  simp only [PageMeta.atOffset, Bool.and_true, decide_eq_true_eq] at more ⊢
  -- since rows are left, the page is full, and the position behind it is that of the next row
  have short : rows.length = min size ((t.answers l.model x.order f).length - k) := by
    rw [shown, List.length_take, List.length_drop]
  have full : rows.length = size := by omega
  refine ⟨k, shown, by omega, trivial, ?_⟩
  rw [if_pos more, full]
  rfl

end Found

end Pages

/-! ## Requests -/

namespace Listing

variable {l : Listing} {t : Tables} {request : Value} {q : Query}

/-- Whether written rows are all that a query lists: the rows that satisfy its predicate, each once and in its
order. -/
def Lists (l : Listing) (t : Tables) (q : Query) (written : List Value) : Prop :=
  ∃ (x : Selection) (f : Formula) (rows : List Row), l.surface.select q = .ok x ∧ compile l.model x.filter = .ok f ∧
    rows.Perm (t.selected l.model f) ∧ rows.Pairwise (Precedes x.order) ∧
    rows.mapM (Row.listing t q.withRelations) = .ok written

/-- Whoever has a page of a query has asked the store for something. -/
theorem exists_selects_of_pageOf (known : l = .facilities ∨ l = .courts) (accepted : l.surface.normalize request = .ok q)
    {rp : RowPage} (found : l.pageOf t q = .ok rp) :
    ∃ x f, l.surface.select q = .ok x ∧ l.surface.Selects l.model q x f := by
  obtain ⟨filter, f, made, compiled, clean, _, _⟩ := of_pageOf found
  obtain ⟨_, _, sorted, _⟩ := Surface.accept_iff.mp (Surface.normalizes_of_normalize accepted).accepted
  obtain ⟨x, selected, selects⟩ :=
    Surface.exists_selects_of_compiled (describes known) sorted made compiled clean
  exact ⟨x, f, selected, selects⟩

section Listed

variable {x : Selection} {f : Formula} {written : Row → Value} (sound : t.IsSound)
  (selects : l.surface.Selects l.model q x f)
  (listed : ∀ r ∈ t.answers l.model x.order f, r.listing t q.withRelations = .ok (written r))
include listed

theorem mapM_part (k size : Nat) :
    (((t.answers l.model x.order f).drop k).take size).mapM (Row.listing t q.withRelations) =
      .ok ((((t.answers l.model x.order f).drop k).take size).map written) :=
  mapM_eq_ok fun r member => listed r (List.mem_of_mem_drop (List.mem_of_mem_take member))

include sound selects

/-- The rows before a part of the listing, those of the part, and those behind it are all that is listed. -/
theorem lists_of_part (selected : l.surface.select q = .ok x) (k size : Nat) :
    l.Lists t q (((t.answers l.model x.order f).take k).map written ++
      (((t.answers l.model x.order f).drop k).take size).map written ++
      ((t.answers l.model x.order f).drop (k + size)).map written) := by
  obtain ⟨_, _, order⟩ := selects.order
  refine ⟨x, f, t.answers l.model x.order f, selected, selects.compiled, Store.walk_perm,
    Tables.answers_pairwise (sound.orderly l.model).toIsKeyed selects.orders
      (show ("id", q.sorting.direction) ∈ x.order by simp [order]), ?_⟩
  rw [mapM_eq_ok listed, ← List.map_append, ← List.map_append, List.append_assoc, ← List.drop_drop,
    List.take_append_drop, List.take_append_drop]

variable {size : Nat} {rp : RowPage} (accepted : l.surface.normalize request = .ok q)
  (limit : q.limit = (size : Int)) (positive : 0 < size) (found : l.pageOf t q = .ok rp)
  (more : rp.details.hasMore = true)
include accepted limit positive found more

/-- The page at the cursor that a page at a cursor names starts with the row that follows. -/
theorem exists_next_of_cursor (bounded : size ≤ 100) (asked : q.page.isCursor = true) :
    ∃ k c next, rp.rows = ((t.answers l.model x.order f).drop k).take size ∧
      k + size < (t.answers l.model x.order f).length ∧ rp.details.nextCursor = some c ∧
      l.page t (atCursor request (some c)) = .ok next ∧ next.total = rp.total ∧
      next.rows = (((t.answers l.model x.order f).drop (k + size)).take size).map written ∧
      next.details.hasMore = decide (k + size + size < (t.answers l.model x.order f).length) := by
  obtain ⟨k, part, goes, counted, named⟩ := exists_part_of_cursor sound selects limit positive bounded found more asked
  obtain ⟨next, found', rows, total, hasMore⟩ := exists_pageOf_behind sound selects limit positive bounded goes
  have shown : ((t.answers l.model x.order f).drop k).take size ≠ [] := by
    rw [Ne, ← List.length_eq_zero_iff, List.length_take, List.length_drop]
    omega
  have stripped := @strip_cursorBehind (((t.answers l.model x.order f).drop k).take size)
  rw [part] at named
  obtain ⟨c, cursor, _⟩ := Option.map_eq_some_iff.mp (map_cursorBehind shown)
  rw [cursor] at found' named stripped
  have page := Listing.page_eq (Surface.normalize_atCursor accepted stripped) found' fun r member =>
    listed r (List.mem_of_mem_drop (List.mem_of_mem_take (rows ▸ member)))
  exact ⟨k, _, _, part, goes, named, page, total.trans counted.symm, by rw [rows], hasMore⟩

omit listed in
/-- The page at the cursor that a page with a number names is empty. -/
theorem exists_next_of_number (asked : q.page.isCursor = false) :
    ∃ k c next, rp.rows = ((t.answers l.model x.order f).drop k).take size ∧
      k + size < (t.answers l.model x.order f).length ∧ rp.details.nextCursor = some c ∧
      l.page t (atCursor request (some c)) = .ok next ∧ next.total = rp.total ∧ next.rows = [] ∧
      next.details.hasMore = false ∧ next.details.nextCursor = none := by
  have proper := (Schema.page_spec (Surface.normalizes_of_normalize accepted).page).2
  obtain ⟨k, part, goes, counted, named⟩ := exists_part_of_number sound selects limit positive found more proper asked
  -- a position is below the number of rows, and has too few digits for an identifier
  have few : isShort ((k + size : Nat) : Int) = true := by
    have bounded := sound.bounded l.model
    have answers : (t.answers l.model x.order f).length = (t.selected l.model f).length := Store.walk_perm.length_eq
    have fewer : (t.selected l.model f).length ≤ (t.rows l.model).length := List.length_filter_le _ _
    simp only [isShort, Bool.and_eq_true, decide_eq_true_eq] at bounded ⊢
    omega
  have unread : Uuid.ofText? (Text.strip (Cursor.ofOffset ((k + size : Nat) : Int))) = none := by
    rw [Cursor.strip_ofOffset, Cursor.ofText?_ofOffset few]
  obtain ⟨next, found', rows, total, hasMore, nextCursor⟩ := exists_pageOf_nowhere sound selects limit positive unread
  have stripped : ∀ c ∈ some (Cursor.ofOffset ((k + size : Nat) : Int)), Text.strip c = c ∧ c ≠ "" := by
    simpa using ⟨Cursor.strip_ofOffset (k + size), Cursor.ofOffset_ne_empty (k + size)⟩
  have each : ∀ r ∈ next.rows, r.listing t q.withRelations = .ok ((fun _ => .null) r) := by simp [rows]
  have page := Listing.page_eq (Surface.normalize_atCursor accepted stripped) found' each
  exact ⟨k, _, _, part, goes, named, page, total.trans counted.symm, by rw [rows]; rfl, hasMore, nextCursor⟩

end Listed

/-- Where a page of a listing tells of more rows, it names a cursor, and there is a page at this cursor. If the
page was asked for by a cursor itself, the page at the one that it names starts with the row that follows its
last row, and holds as many of the rows that are left as asked for. If it was asked for by a number, the page
at the cursor that it names is empty, and tells of no more rows, although some are left. -/
theorem exists_next (known : l = .facilities ∨ l = .courts) (sound : t.IsSound) {p : ResultPage}
    (answered : l.page t request = .ok p) (more : p.details.hasMore = true) :
    ∃ (q : Query) (front rest : List Value) (c : String) (next : ResultPage),
      l.surface.normalize request = .ok q ∧ l.Lists t q (front ++ p.rows ++ rest) ∧ rest ≠ [] ∧
      p.details.nextCursor = some c ∧ l.page t (atCursor request (some c)) = .ok next ∧ next.total = p.total ∧
      (request.fields.has "cursor" = true → next.rows = rest.take q.limit.toNat ∧
        next.details.hasMore = decide (q.limit < rest.length)) ∧
      (request.fields.has "cursor" = false → next.rows = [] ∧ next.details.hasMore = false ∧
        next.details.nextCursor = none) := by
  obtain ⟨q, rp, accepted, found, shown, total, details⟩ := of_page answered
  have normalizes := Surface.normalizes_of_normalize accepted
  have mode := Surface.isCursor_of_page normalizes.page
  obtain ⟨limited, least, most⟩ := normalizes.limit_spec
  obtain ⟨size, limit⟩ := Int.eq_ofNat_of_zero_le (by omega : 0 ≤ q.limit)
  have positive : 0 < size := by omega
  have bounded : size ≤ 100 := by omega
  obtain ⟨x, f, selected, selects⟩ := exists_selects_of_pageOf known accepted found
  obtain ⟨written, each⟩ := exists_results (@Store.Row.exists_listing t sound l.model q.withRelations)
  have listed : ∀ r ∈ t.answers l.model x.order f, r.listing t q.withRelations = .ok (written r) := fun r member =>
    each r (Tables.mem_rows_of_mem_answers member)
  have data {k : Nat} (part : rp.rows = ((t.answers l.model x.order f).drop k).take size) :
      p.rows = (((t.answers l.model x.order f).drop k).take size).map written :=
    Except.ok.inj (shown.symm.trans (part ▸ mapM_part listed k size))
  have left {k : Nat} (goes : k + size < (t.answers l.model x.order f).length) :
      ((t.answers l.model x.order f).drop (k + size)).map written ≠ [] := by
    rw [Ne, ← List.length_eq_zero_iff, List.length_map, List.length_drop]
    omega
  rw [details] at more ⊢
  rw [total]
  -- the cursor of a page at a cursor names a row, that of a page with a number a position
  cases asked : q.page.isCursor with
  | true =>
    obtain ⟨k, c, next, part, goes, named, page, same, rows, hasMore⟩ :=
      exists_next_of_cursor sound selects listed accepted limit positive found more bounded asked
    refine ⟨q, _, _, c, next, accepted, data part ▸ lists_of_part sound selects listed selected k size, left goes, named,
      page, same, fun _ => ⟨?_, ?_⟩, fun absent => ?_⟩
    · rw [limit, Int.toNat_natCast, rows, List.map_take]
    · rw [hasMore, limit, List.length_map, List.length_drop, decide_eq_decide]
      omega
    · rw [asked, absent] at mode
      cases mode
  | false =>
    obtain ⟨k, c, next, part, goes, named, page, same, rows, hasMore, nextCursor⟩ :=
      exists_next_of_number sound selects accepted limit positive found more asked
    refine ⟨q, _, _, c, next, accepted, data part ▸ lists_of_part sound selects listed selected k size, left goes, named,
      page, same, fun held => ?_, fun _ => ⟨rows, hasMore, nextCursor⟩⟩
    rw [asked, held] at mode
    cases mode

/-- What asks for all facilities, the last created ones first. -/
def allOn (page : Page) : Query := ⟨none, [], none, ⟨.createdAt, .desc⟩, page, false⟩

theorem exists_selects_twins (page : Page) : ∃ x f, facilities.surface.Selects .facility (allOn page) x f ∧
    (twins.selected facilities.model f).length = 2 ∧ (twins.answers facilities.model x.order f).length = 2 := by
  obtain ⟨f, compiled, clean, both⟩ : ∃ f, compile .facility (.all [.equals "deleted_at" .null]) = .ok f ∧ f.faults = [] ∧
      (twins.selected .facility f).length = 2 := ⟨_, rfl, rfl, by with_unfolding_all rfl⟩
  obtain ⟨x, _, selects⟩ := Surface.exists_selects_of_compiled (q := allOn page) Surface.describes_facility rfl rfl
    compiled clean
  exact ⟨x, f, selects, both, Store.walk_perm.length_eq.trans both⟩

/-- Behind the first of two facilities, one to a page, a walk by cursors goes on. -/
theorem exists_next_twins :
    ∃ p c next rest, Listing.facilities.page twins (.object [("cursor", .null), ("limit", .int 1)]) = .ok p ∧
      p.details.hasMore = true ∧ p.details.nextCursor = some c ∧
      Listing.facilities.page twins (.object [("cursor", .text c), ("limit", .int 1)]) = .ok next ∧
      rest ≠ [] ∧ next.rows = List.take 1 rest := by
  have asked : facilities.surface.normalize (.object [("cursor", .null), ("limit", .int 1)]) =
      .ok (allOn (.cursor none 1)) := rfl
  obtain ⟨x, f, selects, _, two⟩ := exists_selects_twins (.cursor none 1)
  obtain ⟨rp, found, _, hasMore, _⟩ := @pageOf_cursor facilities twins _ x f 1 twins_isSound selects rfl (by decide)
    (by decide) 0 (.inl rfl) none rfl
  obtain ⟨p, answered, _, _, details⟩ := Listing.page_of_pageOf twins_isSound asked found
  have more : p.details.hasMore = true := by
    rw [details, hasMore]
    exact decide_eq_true (two ▸ by decide)
  obtain ⟨q, _, rest, c, next, accepted, _, left, named, page, _, goesOn, _⟩ :=
    exists_next (.inl rfl) twins_isSound answered more
  cases asked.symm.trans accepted
  exact ⟨p, c, next, rest, answered, more, named, page, left, (goesOn rfl).1⟩

/-- Behind the first of two facilities, asked for by its number, there is another one, but at the cursor that the
page names nothing is found. -/
theorem next_isEmpty :
    ∃ p next, Listing.facilities.page twins (.object [("limit", .int 1)]) = .ok p ∧
      (p.rows.length, p.total, p.details.hasMore, p.details.nextCursor) = (1, 2, true, some "1") ∧
      Listing.facilities.page twins (atCursor (.object [("limit", .int 1)]) (some "1")) = .ok next ∧
      (next.rows.length, next.total, next.details.hasMore, next.details.nextCursor) = (0, 2, false, none) := by
  have asked : facilities.surface.normalize (.object [("limit", .int 1)]) = .ok (allOn (.offset 1 1 none)) := rfl
  have limit : (allOn (.offset 1 1 none)).limit = ((1 : Nat) : Int) := rfl
  obtain ⟨x, f, selects, both, two⟩ := exists_selects_twins (.offset 1 1 none)
  obtain ⟨rp, found, rows, hasMore⟩ := @pageOf_number facilities twins _ x f 1 twins_isSound selects limit (by decide)
    (by decide) 0 (.inl rfl)
  have more : rp.details.hasMore = true := hasMore.trans (decide_eq_true (two ▸ by decide))
  obtain ⟨p, answered, shown, total, details⟩ := Listing.page_of_pageOf twins_isSound asked found
  obtain ⟨k, _, goes, counted, position⟩ := exists_part_of_number twins_isSound selects limit (by decide) found more
    (Schema.page_spec (Surface.normalizes_of_normalize asked).page).2 rfl
  obtain ⟨_, c, next, _, _, named, page, same, none', noMore, last⟩ :=
    exists_next_of_number twins_isSound selects asked limit (by decide) found more rfl
  -- the position behind the only facility on the page is 1
  have start : k = 0 := by omega
  subst start
  cases named.symm.trans position
  refine ⟨p, next, answered, ?_, page, ?_⟩
  · rw [shown, total, details, more, position, counted, both, rows, List.drop_zero, List.length_take, two]
    rfl
  · rw [same, none', noMore, last, counted, both]
    rfl

end Listing
end Venues
