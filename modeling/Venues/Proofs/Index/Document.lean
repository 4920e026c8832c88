import Venues.Index.Document
import Venues.Proofs.Surface.Request

/-! # Documents in the index

A document is read back from its written form as it was.
-/

namespace Venues

namespace Schema

open Checked

variable {α : Type} {fs : Fields} {name plain : String} {v : Value} {a : α} {read : Value → Checked α}

/-! ## Fields -/

theorem aliased_eq_ok {missing? : Option α} (held : fs.get? name = some v) (reads : read v = .ok a) :
    aliased fs name plain missing? read = .ok a := by
  simp only [aliased, held, reads]
  rfl

theorem optional_eq_ok {missing : α} (held : fs.get? name = some v) (reads : read v = .ok a) :
    Schema.optional fs name missing read = .ok a := by
  simp only [Schema.optional, held, reads]
  rfl

theorem required_eq_ok (held : fs.get? name = some v) (reads : read v = .ok a) :
    required fs name read = .ok a := by
  simp only [required, held, reads]
  rfl

theorem nullable_readText (s? : Option String) : nullable (Schema.plain readText) (.ofText? s?) = .ok s? := by
  cases s? <;> rfl

theorem items_map_eq_ok {write : α → Value} (same : ∀ a, read (write a) = .ok a) (as : List α) (i : Nat) :
    items read i (as.map write) = .ok as := by
  induction as generalizing i with
  | nil => rfl
  | cons a as ih =>
    rw [List.map_cons, items, same, ih]
    rfl

/-! ## Documents -/

theorem courtSummary_source (c : CourtSummary) : courtSummary c.source = .ok c := by
  unfold courtSummary CourtSummary.source
  refine bind_eq_ok.mpr ⟨(c.id, c.name, c.sport, c.surface, c.indoor, c.isActive), ?_, rfl⟩
  simp only [both_eq_ok]
  exact ⟨aliased_eq_ok rfl rfl, aliased_eq_ok rfl rfl, aliased_eq_ok rfl rfl,
    optional_eq_ok rfl (nullable_readText c.surface), optional_eq_ok rfl rfl, aliased_eq_ok rfl rfl⟩

/-- A document is read back. -/
theorem document_source (d : Document) : document d.source = .ok d := by
  have location : point d.location.source = .ok d.location := by
    refine bind_eq_ok.mpr ⟨(d.location.lat, d.location.lon), ?_, rfl⟩
    exact both_eq_ok.mpr ⟨required_eq_ok rfl rfl, required_eq_ok rfl rfl⟩
  have price : nullable (wholeBetween none none) (.ofOption (d.priceFrom.map .int)) = .ok d.priceFrom := by
    cases d.priceFrom <;> rfl
  have rating : nullable (Schema.plain readReal) (.ofOption (d.rating.map .float)) = .ok d.rating := by
    cases d.rating <;> rfl
  have courts : courtList (.list (d.courts.map CourtSummary.source)) = .ok d.courts :=
    items_map_eq_ok courtSummary_source d.courts 0
  -- each field is read back for itself, and the rest of the reading is putting them together
  unfold document Document.source
  refine bind_eq_ok.mpr ⟨(d.id, d.name, d.slug, d.address, d.ward, d.city, d.description, d.location,
    d.isPublished, d.ownerId, d.priceFrom, d.rating, d.courts, d.createdAt, d.updatedAt), ?_, rfl⟩
  simp only [both_eq_ok]
  exact ⟨aliased_eq_ok rfl rfl, aliased_eq_ok rfl rfl, aliased_eq_ok rfl rfl, optional_eq_ok rfl rfl,
    optional_eq_ok rfl (nullable_readText d.ward), optional_eq_ok rfl (nullable_readText d.city),
    optional_eq_ok rfl (nullable_readText d.description), required_eq_ok rfl location,
    aliased_eq_ok rfl rfl, aliased_eq_ok rfl rfl, aliased_eq_ok rfl price, optional_eq_ok rfl rating,
    optional_eq_ok rfl courts, aliased_eq_ok rfl rfl, aliased_eq_ok rfl rfl⟩

end Schema

/-- A document under its identity, as an index holds it. -/
def Index.entry (d : Document) : String × Value := (d.id, d.source)

end Venues
