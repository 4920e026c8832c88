import Venues.Listing
import Venues.Proofs.Surface.Request

/-! # Requests page by page

From a request that is accepted come requests for all of its pages: for the page at a cursor, and for the
page with a number. They stand for the same query, but for the page.
-/

namespace Venues

/-- Whether a key of a request stays when the page is asked for by its number. -/
def staysAtNumber (key : String) : Bool := key != "cursor" && key != "offset"

/-- A request for the page with a number, whatever the request says of cursors and offsets. -/
def atNumber (request : Value) (number : Int) : Value :=
  .object (Fields.put (request.fields.filter fun f => staysAtNumber f.1) "page" (.int number))

@[simp] theorem atCursor_atCursor (request : Value) (c? c'? : Option String) :
    atCursor (atCursor request c?) c'? = atCursor request c'? :=
  congrArg Value.object Fields.put_put

@[simp] theorem atNumber_atCursor (request : Value) (c? : Option String) (number : Int) :
    atNumber (atCursor request c?) number = atNumber request number := by
  show Value.object (Fields.put ((Fields.put request.fields "cursor" _).filter _) "page" _) = _
  rw [@Fields.filter_put request.fields "cursor" (.ofText? c?) staysAtNumber (by decide)]
  rfl

namespace Surface

variable {s : Surface} {request : Value} {q : Query}

theorem sameBut_put {raw raw' : Fields} {key : String} {v : Value} (page : key ∈ pageKeys)
    (same : SameBut raw raw') : SameBut raw (Fields.put raw' key v) := fun other different => by
  have apart : other ≠ key := by
    rintro rfl
    exact different page
  rw [Fields.get?_put_of_ne apart, same other different]

/-- What is accepted are the fields of a request; whatever else is accepted is a request without fields. -/
theorem normalizes_of_normalize (accepted : s.normalize request = .ok q) : s.Normalizes request.fields q := by
  obtain ⟨raw, fields, _⟩ := bind_eq_ok.mp accepted
  -- what is not an object has no fields, as an empty one
  have same : raw = request.fields := by
    cases request with
    | object fs =>
      cases fields
      rfl
    | _ =>
      unfold requestFields at fields
      dsimp only at fields
      split at fields
      · cases fields
      · cases fields
        rfl
  have restated : s.normalize (.object request.fields) = s.normalize request := by
    show requestFields (.object request.fields) >>= _ = requestFields request >>= _
    rw [fields, same]
    rfl
  exact normalize_iff.mp (restated.trans accepted)

/-- A request that is accepted is accepted at every cursor. -/
theorem normalize_atCursor (accepted : s.normalize request = .ok q) {c? : Option String}
    (stripped : ∀ c ∈ c?, Text.strip c = c ∧ c ≠ "") :
    s.normalize (atCursor request c?) = .ok { q with page := .cursor c? q.limit } := by
  have normalizes := normalizes_of_normalize accepted
  obtain ⟨limit, _⟩ := normalizes.limit_spec
  have same : SameBut request.fields (Fields.put request.fields "cursor" (.ofText? c?)) :=
    sameBut_put (by decide) fun _ _ => rfl
  refine normalize_iff.mpr (normalizes.repaged same ?_ ?_ fun _ => rfl)
  · intro f member
    rcases Fields.mem_put member with rfl | member
    · show "cursor" ∈ requestKeys
      decide
    · exact normalizes.mem_requestKeys f member
  · rw [rawPage_cursor stripped Fields.get?_put_self, Schema.page_cursor]
    refine ⟨c?, q.limit, ?_, by rw [limitValue_of_sameBut same]; exact limit, rfl⟩
    cases c? <;> rfl

/-- A request that is accepted is accepted for every number, if the page is inside the window of an index. -/
theorem normalize_atNumber (accepted : s.normalize request = .ok q) {number : Int} (positive : 1 ≤ number)
    (window : s.backend = .index → checkWindow { q with page := .offset number q.limit none } = .ok ()) :
    s.normalize (atNumber request number) = .ok { q with page := .offset number q.limit none } := by
  have normalizes := normalizes_of_normalize accepted
  obtain ⟨limit, _⟩ := normalizes.limit_spec
  have kept : SameBut request.fields (request.fields.filter fun f => staysAtNumber f.1) := fun other different => by
    have stays : staysAtNumber other = true := by
      simp only [pageKeys, List.mem_cons, not_or] at different
      simp [staysAtNumber, different]
    rw [Fields.get?_filter stays]
  have same : SameBut request.fields
      (Fields.put (request.fields.filter fun f => staysAtNumber f.1) "page" (.int number)) :=
    sameBut_put (by decide) kept
  -- neither a cursor nor an offset is left beside the number
  have absent (key : String) (leaves : staysAtNumber key = false) (other : key ≠ "page") :
      Fields.get? (Fields.put (request.fields.filter fun f => staysAtNumber f.1) "page" (.int number)) key =
        none := by
    rw [Fields.get?_put_of_ne other, Fields.get?_filter_eq_none leaves]
  refine normalize_iff.mpr (normalizes.repaged same ?_ ?_ window)
  · intro f member
    rcases Fields.mem_put member with rfl | member
    · show "page" ∈ requestKeys
      decide
    · exact normalizes.mem_requestKeys f (List.mem_of_mem_filter member)
  · rw [rawPage_number (absent "cursor" (by decide) (by decide)) (absent "offset" (by decide) (by decide))
      Fields.get?_put_self]
    exact Schema.page_number positive (by rw [limitValue_of_sameBut same]; exact limit)

end Surface
end Venues
