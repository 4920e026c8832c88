import Venues.Proofs.Listing.Continuation
import Venues.Proofs.Store.Faults
import Venues.Proofs.Store.Outage

/-! # Accepted requests that are stopped

A listing answers every request that its surface accepts, or reports that the store is not available, but for two
kinds of requests. Those that ask for an order of truth values have no formula. Those with a number of more than
64 bits, be it among the conditions or as the position of the page, are stopped by the store.
-/

namespace Venues

open Store (Model Row Tables Formula Compiles HasFormula IsPlain compile)
open Outcome (Follows)

/-! ## Requests that the store cannot answer -/

/-- Whether some conditions on fields of a surface ask for an order of truth values. -/
def Surface.OrdersTruth (s : Surface) (conditions : Conditions) : Prop :=
  ∃ c ∈ conditions, ∃ d, s.field? c.1 = some d ∧ c.2.OrdersTruth d.kind

/-- Whether the numbers that a query hands to the store have at most 64 bits: those of its conditions, and the
position of the first row of its page. -/
structure Query.IsBounded (q : Query) : Prop where
  conditions : ∀ c ∈ q.conditions, c.2.IsBounded
  start : ∀ number limit start?, q.page = .offset number limit start? →
    isShort (Page.startOf number limit start?) = true

namespace Listing

variable {l : Listing} {t : Tables} {q : Query} {x : Selection} {f : Formula} {request : Value}

/-! ## Lost tables -/

theorem listing_restored (withRelations : Bool) : Row.listing t.restored withRelations = Row.listing t withRelations := by
  funext r
  cases r <;> rfl

theorem pageOf_follows : Follows Fault.IsOutage (l.pageOf t q) (l.pageOf t.restored q) := by
  unfold pageOf
  exact .onward fun x => (Tables.count_follows _).bind fun total => (Tables.findMany_follows _).bind fun _ => .refl _

theorem page_follows : Follows Fault.IsOutage (l.page t request) (l.page t.restored request) := by
  unfold page
  refine .onward fun q => pageOf_follows.bind fun p => ?_
  rw [listing_restored]
  exact .refl _

/-! ## Steps that fail -/

theorem page_eq_error {fault : Fault} (accepted : l.surface.normalize request = .ok q)
    (failed : l.pageOf t q = .error fault) : l.page t request = .error fault := by
  rw [page, accepted, ok_bind, failed]
  rfl

section Failed

variable {fault : Fault} (selected : l.surface.select q = .ok x)
include selected

theorem pageOf_of_count (failed : t.count l.model (some x.filter) = .error fault) : l.pageOf t q = .error fault := by
  rw [pageOf, selected, ok_bind, failed]
  rfl

theorem pageOf_of_findMany {total : Int} (counted : t.count l.model (some x.filter) = .ok total)
    (failed : t.findMany l.model (x.reading q.page.isCursor) = .error fault) : l.pageOf t q = .error fault := by
  rw [pageOf, selected, ok_bind, counted, ok_bind, failed]
  rfl

end Failed

/-! ## Pages of sound tables -/

section Sound

variable {size : Nat} (sound : t.IsSound) (selects : l.surface.Selects l.model q x f) (limit : q.limit = (size : Int))
include sound selects limit

/-- A page whose position has at most 64 bits is there, whatever its mode. -/
theorem exists_pageOf (positive : 0 < size) (bounded : size ≤ 100)
    (short : ∀ number limit start?, q.page = .offset number limit start? →
      isShort (Page.startOf number limit start?) = true) : ∃ p, l.pageOf t q = .ok p := by
  have selected := selects.select q.page
  -- a page at a cursor is read by a row, a page with a number by its position, which has to be short
  cases paged : q.page with
  | cursor c? n =>
    have same : n = q.limit := by rw [Query.limit, paged]; rfl
    obtain ⟨k, read⟩ := exists_findMany_cursor sound selects limit bounded c?
    obtain ⟨p, found, _⟩ := pageOf_of_reading sound selects limit positive read
    rw [← same, ← paged] at found
    exact ⟨p, found⟩
  | offset number n start? =>
    have same : n = size := by rw [← limit, Query.limit, paged]; rfl
    rw [paged] at selected
    have orderly := sound.orderly l.model
    have readable := @Surface.Selects.readable l q x f selects ((Page.offset number n start?).portion "id") false
      (short number n start? paged) (by show 0 ≤ n ∧ n ≤ 100; omega)
    have total := @Tables.count_eq t l.model x.filter f orderly selects.compiled selects.clean
    have rows := Tables.findMany_eq orderly readable selects.compiled selects.clean rfl rfl rfl
    rw [← paged] at selected rows
    unfold pageOf
    rw [selected]
    simp only [ok_bind, total, paged, Page.isCursor] at rows ⊢
    exact ⟨_, by rw [rows]; rfl⟩

omit limit in
/-- A page whose position has more than 64 bits is not there, even if there are no rows at all. -/
theorem pageOf_eq_overflow {number n : Int} {start? : Option Int} (paged : q.page = .offset number n start?)
    (long : isShort (Page.startOf number n start?) = false) : l.pageOf t q = .error .overflow := by
  have selected : l.surface.select q = .ok { x with portion := q.page.portion "id" } := selects.select q.page
  have total := @Tables.count_eq t l.model x.filter f (sound.orderly l.model) selects.compiled selects.clean
  refine pageOf_of_findMany selected total ?_
  rw [paged]
  exact Tables.findMany_eq_overflow sound.present selects.compiled selects.clean rfl rfl rfl selects.related
    selects.orders.sorts (List.mem_append_right _ List.mem_cons_self) long

end Sound

/-! ## Requests -/

section Accepted

variable (known : l = .facilities ∨ l = .courts) (accepted : l.surface.normalize request = .ok q)
include known accepted

theorem exists_filter : ∃ x, l.surface.select q = .ok x ∧ Predicate.ofQuery l.surface q = .ok x.filter := by
  have normalizes := Surface.normalizes_of_normalize accepted
  obtain ⟨x, selected⟩ := Surface.exists_select (describes known) normalizes.acceptedConditions
    (Surface.accept_iff.mp normalizes.accepted).2.2.1
  refine ⟨x, selected, ?_⟩
  obtain ⟨filter, made, selected⟩ := bind_eq_ok.mp selected
  obtain ⟨_, _, selected⟩ := bind_eq_ok.mp selected
  cases selected
  exact made

/-- An order of truth values is refused before any table is needed. -/
theorem page_of_ordersTruth (orders : l.surface.OrdersTruth q.conditions) :
    l.page t request = .error .misusedColumn := by
  have conditions := (Surface.normalizes_of_normalize accepted).acceptedConditions
  obtain ⟨x, selected, made⟩ := exists_filter known accepted
  obtain ⟨c, member, d, column, ordered⟩ := orders
  have formless : ¬HasFormula l.model x.filter := fun formed =>
    (Predicate.hasFormula_ofQuery (describes known) conditions made).mp formed c member d column ordered
  have refused : compile l.model x.filter = .error .misusedColumn :=
    (Predicate.isPlain_ofQuery (describes known) conditions made).resolve_right
      fun ⟨f, formed, _⟩ => formless ⟨f, formed⟩
  exact page_eq_error accepted (pageOf_of_count selected (Tables.count_eq_misused refused))

/-- On sound tables an accepted request that asks for no order of truth values is answered, unless one of its
numbers has more than 64 bits. -/
theorem page_of_isSound (sound : t.IsSound) (unordered : ¬l.surface.OrdersTruth q.conditions) :
    (q.IsBounded ∧ ∃ p, l.page t request = .ok p) ∨ (¬q.IsBounded ∧ l.page t request = .error .overflow) := by
  have normalizes := Surface.normalizes_of_normalize accepted
  have conditions := normalizes.acceptedConditions
  have untrue (c : String × Condition) (member : c ∈ q.conditions) (d : FieldDef)
      (column : l.surface.field? c.1 = some d) : ¬c.2.OrdersTruth d.kind :=
    fun ordered => unordered ⟨c, member, d, column, ordered⟩
  obtain ⟨x, selected, made⟩ := exists_filter known accepted
  have tested := Predicate.compiles_ofQuery_iff (describes known) conditions made
  rcases Predicate.isPlain_ofQuery (describes known) conditions made with refused | ⟨f, compiled, _, overflows⟩
  · obtain ⟨f, formed⟩ := (Predicate.hasFormula_ofQuery (describes known) conditions made).mpr untrue
    cases refused.symm.trans formed
  · by_cases clean : f.faults = []
    · -- the conditions can be tested, so it is up to the position of the page
      have inside : ∀ c ∈ q.conditions, c.2.IsBounded := by
        intro c member
        obtain ⟨d, column, _⟩ := conditions c member
        exact (tested.mp ⟨f, compiled, clean⟩ c member d column).2
      obtain ⟨x, selected, selects⟩ := Surface.exists_selects_of_compiled (describes known)
        (Surface.accept_iff.mp normalizes.accepted).2.2.1 made compiled clean
      by_cases short : ∀ number limit start?, q.page = .offset number limit start? →
          isShort (Page.startOf number limit start?) = true
      · obtain ⟨_, least, most⟩ := normalizes.limit_spec
        obtain ⟨size, limit⟩ := Int.eq_ofNat_of_zero_le (by omega : 0 ≤ q.limit)
        obtain ⟨rp, found⟩ := exists_pageOf sound selects limit (by omega) (by omega) short
        obtain ⟨p, answered, _⟩ := page_of_pageOf sound accepted found
        exact .inl ⟨⟨inside, short⟩, p, answered⟩
      · refine .inr ⟨fun bounded => short bounded.start, ?_⟩
        push Not at short
        obtain ⟨number, limit, start?, paged, long⟩ := short
        exact page_eq_error accepted (pageOf_eq_overflow sound selects paged (by simpa using long))
    · refine .inr ⟨fun bounded => clean ?_, ?_⟩
      · obtain ⟨f', compiled', clean'⟩ := tested.mpr fun c member d column =>
          ⟨untrue c member d column, bounded.conditions c member⟩
        cases compiled.symm.trans compiled'
        exact clean'
      · exact page_eq_error accepted (pageOf_of_count selected
          (Tables.count_eq_overflow sound.present compiled overflows clean))

/-- Every request that a listing accepts is answered or meets an outage, but for two kinds of requests. One that
asks for an order of truth values cannot be put to the store, and one with a number of more than 64 bits is
stopped there. -/
theorem page_cases (sound : t.restored.IsSound) :
    (l.surface.OrdersTruth q.conditions ∧ l.page t request = .error .misusedColumn) ∨
    (¬l.surface.OrdersTruth q.conditions ∧
      ((q.IsBounded ∧ ∃ p, l.page t request = .ok p) ∨
        (¬q.IsBounded ∧ l.page t request = .error .overflow) ∨
        (t.lost ≠ [] ∧ ∃ reason, l.page t request = .error (.backend (.storeFailed reason))))) := by
  by_cases orders : l.surface.OrdersTruth q.conditions
  · exact .inl ⟨orders, page_of_ordersTruth known accepted orders⟩
  · refine .inr ⟨orders, ?_⟩
    have there := page_of_isSound known accepted sound orders
    -- without a lost table these are the tables themselves
    by_cases present : t.lost = []
    · rw [Tables.restored_eq present] at there
      exact there.imp_right .inl
    · rcases @page_follows l t request with same | ⟨_, ⟨reason, rfl⟩, failed⟩
      · rw [same]
        exact there.imp_right .inl
      · exact .inr (.inr ⟨present, reason, failed⟩)

end Accepted

/-- The facilities that differ in nothing but their identity are listed. -/
theorem page_cases_twins : ∃ p, facilities.page twins (.object [("limit", .int 1)]) = .ok p := by
  rcases @page_cases facilities twins _ (.object [("limit", .int 1)]) (.inl rfl) rfl twins_isSound with
    ⟨⟨_, member, _⟩, _⟩ | ⟨_, ⟨_, answered⟩ | ⟨unbounded, _⟩ | ⟨lost, _⟩⟩
  · cases member
  · exact answered
  · refine absurd ⟨by simp, fun number limit start? page => ?_⟩ unbounded
    cases page
    rfl
  · exact absurd rfl lost

/-- A range of truth values, a position and a price that have more than 64 bits: all three are accepted. -/
theorem page_stopped :
    ((courts.surface.normalize (.object [("filters", .object [("indoor_from", .bool true)])])).isOk = true ∧
      courts.page {} (.object [("filters", .object [("indoor_from", .bool true)])]) = .error .misusedColumn) ∧
    ((facilities.surface.normalize (.object [("offset", .int (2 ^ 63))])).isOk = true ∧
      facilities.page {} (.object [("offset", .int (2 ^ 63))]) = .error .overflow) ∧
    ((courts.surface.normalize (.object [("filters", .object [("price_from", .int (2 ^ 63))])])).isOk = true ∧
      courts.page {} (.object [("filters", .object [("price_from", .int (2 ^ 63))])]) = .error .overflow) := by
  exact ⟨⟨rfl, rfl⟩, ⟨rfl, rfl⟩, rfl, rfl⟩

end Listing
end Venues
