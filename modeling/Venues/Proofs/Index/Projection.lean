import Venues.Index.Projection
import Venues.Proofs.Store.Sound
import Venues.Proofs.Surface.Request
import Venues.Store.Order

/-! # Projecting rows of the store

A facility in sound tables has a document, unless it has no name or no coordinates: nothing else that
its row or those of its courts hold stands in the way.
-/

namespace Venues

open Store (Tables Row)

/-! ## Prices -/

/-- Whether a price is a whole number or null. -/
def IsWholePrice (price : Value) : Prop := price = .null ∨ ∃ n, price = .int n

/-- The lowest of whole prices is one of their kind. -/
theorem exists_lowestPrice {prices : List Value} (whole : ∀ p ∈ prices, IsWholePrice p) :
    ∃ price, lowestPrice prices = .ok price ∧ IsWholePrice price := by
  have numbers : ∀ p ∈ prices.filter fun p => !p.isNull, ∃ n, p = .int n := by
    intro p member
    obtain ⟨member, present⟩ := List.mem_filter.mp member
    refine (whole p member).resolve_left ?_
    rintro rfl
    cases present
  -- once there is a whole price the lowest one stays whole
  have onward : ∀ (ps : List Value) (n : Int), (∀ p ∈ ps, ∃ n, p = .int n) →
      ∃ m : Int, ps.foldlM lowerPrice (.int n) = .ok (.int m) := by
    intro ps
    induction ps with
    | nil => exact fun n _ => ⟨n, rfl⟩
    | cons p ps ih =>
      intro n all
      obtain ⟨⟨k, rfl⟩, others⟩ := List.forall_mem_cons.mp all
      rw [List.foldlM_cons]
      have lower : lowerPrice (.int n) (.int k) = .ok (if k < n then .int k else .int n) := by
        simp [lowerPrice, Value.lt?]
      rw [lower, ok_bind]
      split
      · exact ih k others
      · exact ih n others
  unfold lowestPrice
  cases entries : prices.filter fun p => !p.isNull with
  | nil => exact ⟨.null, rfl, .inl rfl⟩
  | cons p ps =>
    rw [entries] at numbers
    obtain ⟨⟨n, rfl⟩, others⟩ := List.forall_mem_cons.mp numbers
    obtain ⟨m, lowest⟩ := onward ps n others
    exact ⟨.int m, lowest, .inr ⟨m, rfl⟩⟩

theorem exists_wholePrice {price : Value} (whole : IsWholePrice price) :
    ∃ price?, (wholePrice price).inField "price_from" = .ok price? := by
  rcases whole with rfl | ⟨n, rfl⟩
  · exact ⟨none, rfl⟩
  · exact ⟨some n, rfl⟩

/-! ## Documents -/

/-- A reading without an offset is taken to be in universal time. -/
theorem momentText_eq {t : Timestamp} (kept : t.offset = none ∧ Timestamp.inRange t.wall = true) :
    momentText t = .ok (Timestamp.mk t.wall (some 0)).isoText := by
  have instant : t.instant = t.wall := by simp [Timestamp.instant, kept.1]
  rw [momentText, Timestamp.toUtc?, instant, if_pos kept.2]

theorem exists_momentText {t : Timestamp} (kept : t.offset = none ∧ Timestamp.inRange t.wall = true) :
    ∃ s, momentText t = .ok s :=
  ⟨_, momentText_eq kept⟩

/-- What the document of a facility needs of the row and its courts. -/
structure Facility.IsProjectable (f : Facility) (courts : List Court) : Prop where
  slug : f.slug.isSome = true
  created : ∃ t, f.createdAt = some t ∧ t.offset = none ∧ Timestamp.inRange t.wall = true
  updated : ∀ t ∈ f.updatedAt, t.offset = none ∧ Timestamp.inRange t.wall = true
  named : ∀ c ∈ courts, c.name.isSome = true ∧ c.sport.isSome = true
  priced : ∀ c ∈ courts, IsWholePrice c.price

theorem mem_of_mem_activeCourts {courts : List Court} {c : Court} (member : c ∈ activeCourts courts) :
    c ∈ courts :=
  List.mem_of_mem_filter (List.mem_mergeSort.mp member)

theorem Court.summary_eq {c : Court} (named : c.name.isSome = true ∧ c.sport.isSome = true) :
    c.summary = .ok ⟨c.id.text, c.name.getD "", c.sport.getD "", c.surface, c.indoor.getD false,
      c.isActive.getD false⟩ := by
  obtain ⟨name, hn⟩ := Option.isSome_iff_exists.mp named.1
  obtain ⟨sport, hs⟩ := Option.isSome_iff_exists.mp named.2
  rw [summary, hn, hs]
  rfl

/-- What a document shows of the row of its facility. -/
structure Document.Shows (d : Document) (f : Facility) : Prop where
  id : d.id = f.id.text
  ward : d.ward = f.ward
  city : d.city = f.city
  isPublished : d.isPublished = f.isPublished.getD false
  ownerId : d.ownerId = (f.ownerId.map Uuid.text).getD "None"
  rating : d.rating = f.rating

/-- What a document is made of: it shows fields of the row, the moment of its creation, and the active courts. -/
structure Document.IsOf (d : Document) (f : Facility) (courts : List Court) : Prop extends d.Shows f where
  name : f.name = some d.name
  created : ∃ t, f.createdAt = some t ∧ momentText t = .ok d.createdAt
  summaries : (activeCourts courts).mapM Court.summary = .ok d.courts
  price : ∃ price, lowestPrice ((activeCourts courts).map Court.price) = .ok price ∧
    wholePrice price = .ok d.priceFrom

/-- A moment whose text is needed is there. -/
theorem exists_of_requiredText {t? : Option Timestamp} {text? : Option String} {name text : String}
    (written : momentText? t? = .ok text?) (needed : requiredText name text? = .ok text) :
    ∃ t, t? = some t ∧ momentText t = .ok text := by
  cases t? with
  | none =>
    cases written
    cases needed
  | some t =>
    obtain ⟨_, made, rfl⟩ := map_eq_ok.mp written
    cases needed
    exact ⟨t, rfl, made⟩

theorem isOf_of_project {f : Facility} {courts : List Court} {d : Document} (made : project f courts = .ok d) :
    d.IsOf f courts := by
  unfold project at made
  -- nothing is projected without a name and both coordinates
  cases name : f.name with
  | none =>
    rw [name] at made
    cases made
  | some name' =>
    rw [name] at made
    split at made
    · cases made
    · split at made
      · obtain ⟨price, lowest, made⟩ := bind_eq_ok.mp made
        obtain ⟨summaries, summed, made⟩ := bind_eq_ok.mp made
        obtain ⟨createdAt?, created, made⟩ := bind_eq_ok.mp made
        obtain ⟨updatedAt?, _, made⟩ := bind_eq_ok.mp made
        generalize read : Checked.both (requiredText "slug" f.slug) _ = parts at made
        cases parts with
        | error found => cases made
        | ok parts =>
          obtain ⟨slug, priceFrom, createdAt, updatedAt⟩ := parts
          rw [← Except.ok.inj made]
          obtain ⟨_, read⟩ := Checked.both_eq_ok.mp read
          obtain ⟨priced, read⟩ := Checked.both_eq_ok.mp read
          obtain ⟨dated, _⟩ := Checked.both_eq_ok.mp read
          exact ⟨⟨rfl, rfl, rfl, rfl, rfl, rfl⟩, name, exists_of_requiredText created dated, summed, price, lowest,
            Checked.inField_eq_ok.mp priced⟩
      · cases made

theorem shows_of_project {f : Facility} {courts : List Court} {d : Document} (made : project f courts = .ok d) :
    d.Shows f :=
  (isOf_of_project made).toShows

theorem id_of_project {f : Facility} {courts : List Court} {d : Document} (made : project f courts = .ok d) :
    d.id = f.id.text :=
  (shows_of_project made).id

/-- Whether a facility has what the index cannot do without: a name and coordinates. -/
def Facility.IsPlaced (f : Facility) : Prop :=
  hasName f.name = true ∧ f.latitude.isSome = true ∧ f.longitude.isSome = true

instance (f : Facility) : Decidable f.IsPlaced :=
  inferInstanceAs (Decidable (hasName f.name = true ∧ f.latitude.isSome = true ∧ f.longitude.isSome = true))

/-- A facility with a name and coordinates has a document. -/
theorem exists_project {f : Facility} {courts : List Court} (projectable : f.IsProjectable courts)
    (placed : f.IsPlaced) : ∃ d, project f courts = .ok d := by
  obtain ⟨named, hasLat, hasLon⟩ := placed
  obtain ⟨lat, isLat⟩ := Option.isSome_iff_exists.mp hasLat
  obtain ⟨lon, isLon⟩ := Option.isSome_iff_exists.mp hasLon
  obtain ⟨slug, hasSlug⟩ := Option.isSome_iff_exists.mp projectable.slug
  obtain ⟨created, isCreated, keptCreated⟩ := projectable.created
  obtain ⟨createdAt, createdText⟩ := exists_momentText keptCreated
  have isWhole : ∀ p ∈ (activeCourts courts).map Court.price, IsWholePrice p := by
    intro p member
    obtain ⟨c, active, rfl⟩ := List.mem_map.mp member
    exact projectable.priced c (mem_of_mem_activeCourts active)
  obtain ⟨price, lowest, whole⟩ := exists_lowestPrice isWhole
  obtain ⟨priceFrom, taken⟩ := exists_wholePrice whole
  have summed := mapM_eq_ok fun c (active : c ∈ activeCourts courts) =>
    Court.summary_eq (projectable.named c (mem_of_mem_activeCourts active))
  -- without a later change the moment of creation stands in
  obtain ⟨updatedAt, updatedText⟩ : ∃ s, momentText? (f.updatedAt <|> f.createdAt) = .ok (some s) := by
    cases isUpdated : f.updatedAt with
    | none => exact ⟨createdAt, by simp [isCreated, momentText?, createdText]⟩
    | some t =>
      obtain ⟨s, text⟩ := exists_momentText (projectable.updated t isUpdated)
      exact ⟨s, by simp [momentText?, text]⟩
  have createdText' : momentText? f.createdAt = .ok (some createdAt) := by
    simp [isCreated, momentText?, createdText]
  unfold project
  simp only [named, isLat, isLon, lowest, summed, createdText', updatedText, ok_bind, hasSlug, requiredText, taken]
  exact ⟨_, rfl⟩

/-- The document of a facility can be made, or is refused for a reason of its own. -/
theorem project_cases {f : Facility} {courts : List Court} (projectable : f.IsProjectable courts) :
    (∃ d, project f courts = .ok d ∧ d.id = f.id.text) ∨
      ∃ fault, project f courts = .error (.projection fault) := by
  by_cases placed : f.IsPlaced
  · obtain ⟨d, made⟩ := exists_project projectable placed
    exact .inl ⟨d, made, id_of_project made⟩
  · right
    unfold project
    split
    · exact ⟨_, rfl⟩
    · rename_i named
      split
      · rename_i isLat isLon
        exact absurd ⟨by simpa using named, by rw [isLat]; rfl, by rw [isLon]; rfl⟩ placed
      · exact ⟨_, rfl⟩

/-- The facilities of a store can be projected, with their courts. -/
theorem Store.Tables.IsSound.projectable {t : Tables} (sound : t.IsSound) (kept : t.IsKept) {f : Facility}
    (member : f ∈ t.facilities) : f.IsProjectable (t.courtsOf f) := by
  have row : Row.facility f ∈ t.rows .facility := List.mem_map_of_mem member
  have needed := kept.needed .facility _ row
  have moments := kept.moments .facility _ row
  have courtRow {c : Court} (owned : c ∈ t.courtsOf f) : Row.court c ∈ t.rows .court :=
    List.mem_map_of_mem (Tables.mem_courts_of_owned owned)
  have isSome {s? : Option String} (present : (Value.ofText? s?).isNull = false) : s?.isSome = true := by
    cases s? with
    | none => cases present
    | some s => rfl
  -- columns that must not be null say that there is a value, and their kinds what it is
  refine ⟨isSome (needed "slug" (by decide)), ?_, ?_, fun c owned => ?_, fun c owned => ?_⟩
  · cases created : f.createdAt with
    | none =>
      have present := needed "created_at" (by decide)
      rw [show (Row.facility f).values.get "created_at" = .ofOption (f.createdAt.map .time) from rfl,
        created] at present
      cases present
    | some time =>
      refine ⟨time, rfl, moments ("created_at", .time) (by decide) time ?_⟩
      show Value.ofOption (f.createdAt.map .time) = .time time
      rw [created]
      rfl
  · intro time updated
    refine moments ("updated_at", .time) (by decide) time ?_
    show Value.ofOption (f.updatedAt.map .time) = .time time
    rw [Option.mem_def.mp updated]
    rfl
  · have needed := kept.needed .court _ (courtRow owned)
    exact ⟨isSome (needed "name" (by decide)), isSome (needed "sport" (by decide))⟩
  · have typed := sound.typed .court _ (courtRow owned) ("price_per_hour", .whole)
      (by simp [Row.model, Store.Model.columns])
    change FieldKind.whole.holds c.price = true at typed
    cases price : c.price with
    | null => exact .inl rfl
    | int n => exact .inr ⟨n, rfl⟩
    | _ => rw [price] at typed; cases typed

/-- Whether every facility that is to be found in the index has a document, unless it has no name or no
coordinates. -/
def Store.Tables.IsProjectable (t : Tables) : Prop :=
  ∀ f ∈ t.facilities, f.isIndexable = true → ∀ fault, project f (t.courtsOf f) = .error fault →
    ∃ reason, fault = .projection reason

/-- The tables of a store that was filled by writes are such: what a facility lacks there is a name or coordinates. -/
theorem Store.Tables.IsSound.isProjectable {t : Tables} (sound : t.IsSound) (kept : t.IsKept) :
    t.IsProjectable := by
  intro f member _ fault failed
  rcases project_cases (sound.projectable kept member) with ⟨d, made, _⟩ | ⟨reason, refused⟩
  · rw [made] at failed
    cases failed
  · rw [refused] at failed
    cases failed
    exact ⟨reason, rfl⟩

end Venues
