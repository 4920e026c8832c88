import Mathlib.Data.List.Sort
import Venues.Proofs.Index.Projection
import Venues.Proofs.Uuid
import Venues.Proofs.Value.Comparable
import Venues.Proofs.Value.Read

/-! # The courts of a document

The document of a facility does not depend on the sequence in which its courts are given. It shows the active ones
by the moment of their creation and then by identity, and the lowest of their prices.
-/

namespace Venues

/-! ## The sequence of courts -/

namespace Court

variable {a b c : Court}

/-- Whether a court was created before another one, or at the same moment and has the lower identity. -/
def Before (a b : Court) : Prop := a.age < b.age ∨ a.age = b.age ∧ a.id.text < b.id.text

theorem le_iff : a.le b = true ↔ a.age < b.age ∨ a.age = b.age ∧ a.id.bits ≤ b.id.bits := by
  simp [le, Uuid.lt]

theorem le_trans (low : a.le b = true) (high : b.le c = true) : a.le c = true := by
  rw [le_iff] at *
  omega

theorem le_total (a b : Court) : (a.le b || b.le a) = true := by
  rw [Bool.or_eq_true, le_iff, le_iff]
  omega

theorem id_eq_of_le (low : a.le b = true) (high : b.le a = true) : a.id = b.id := by
  rw [le_iff] at low high
  have level : a.id.bits = b.id.bits := by omega
  exact congrArg Uuid.mk level

theorem before_of_le (ordered : a.le b = true) (different : a.id ≠ b.id) : a.Before b := by
  refine (le_iff.mp ordered).imp_right fun ⟨level, le⟩ => ⟨level, Uuid.text_lt_text.mpr (lt_of_le_of_ne le ?_)⟩
  exact fun same => different (congrArg Uuid.mk same)

end Court

section Courts

variable {courts courts' : List Court}

theorem pairwise_activeCourts : (activeCourts courts).Pairwise fun a b => a.le b = true :=
  @List.pairwise_mergeSort Court Court.le (fun _ _ _ => Court.le_trans) Court.le_total _

theorem activeCourts_perm : (activeCourts courts).Perm (courts.filter Court.isActiveNow) :=
  List.mergeSort_perm _ _

theorem activeCourts_eq_self (active : ∀ c ∈ courts, c.isActiveNow = true)
    (sorted : courts.Pairwise fun a b => a.le b = true) : activeCourts courts = courts := by
  rw [activeCourts, List.filter_eq_self.mpr active, List.mergeSort_of_pairwise sorted]

/-- Sorting courts with identities of their own leaves nothing to the sequence they come in. -/
theorem activeCourts_eq_of_perm (distinct : (courts.map Court.id).Nodup) (perm : courts'.Perm courts) :
    activeCourts courts' = activeCourts courts := by
  have same : (activeCourts courts').Perm (activeCourts courts) :=
    (activeCourts_perm.trans (perm.filter _)).trans activeCourts_perm.symm
  refine same.eq_of_pairwise (fun a b there here low high => ?_) pairwise_activeCourts pairwise_activeCourts
  exact List.inj_on_of_nodup_map distinct (mem_of_mem_activeCourts (same.mem_iff.mp there))
    (mem_of_mem_activeCourts here) (Court.id_eq_of_le low high)

theorem pairwise_before (distinct : (courts.map Court.id).Nodup) : (activeCourts courts).Pairwise Court.Before := by
  have apart : ((activeCourts courts).map Court.id).Nodup :=
    (activeCourts_perm.map Court.id).nodup_iff.mpr (distinct.sublist (List.filter_sublist.map Court.id))
  exact pairwise_activeCourts.imp₂ (fun _ _ => Court.before_of_le) (List.pairwise_map.mp apart)

end Courts

/-! ## The lowest price -/

section Prices

variable {p q low : Value} {ps prices : List Value} {n : Int} {price? : Option Int}

/-- What two prices come down to is one of them, and the other does not lie below it. -/
theorem lowerPrice_eq_ok (lower : lowerPrice p q = .ok low) :
    (low = p ∧ q.lt? p = some false) ∨ (low = q ∧ q.lt? p = some true) := by
  unfold lowerPrice at lower
  split at lower
  · rename_i isLower compared
    cases isLower <;> cases lower
    · exact .inl ⟨rfl, compared⟩
    · exact .inr ⟨rfl, compared⟩
  · cases lower

/-- The price that remains of many is one of them. -/
theorem mem_of_foldlM (lowest : ps.foldlM lowerPrice p = .ok low) : low ∈ p :: ps := by
  induction ps generalizing p with
  | nil =>
    cases lowest
    exact List.mem_singleton_self _
  | cons q ps ih =>
    rw [List.foldlM_cons] at lowest
    obtain ⟨r, lower, lowest⟩ := bind_eq_ok.mp lowest
    have member := ih lowest
    rcases lowerPrice_eq_ok lower with ⟨rfl, _⟩ | ⟨rfl, _⟩
    · exact (List.mem_cons.mp member).elim (· ▸ List.mem_cons_self) fun there => by simp [there]
    · exact List.mem_cons_of_mem _ member

/-- The price that remains of many is the first one or lies below it, and none of them lies below what remains. -/
theorem least_of_foldlM (single : low.isSingle = true) (lowest : ps.foldlM lowerPrice p = .ok low) :
    (low = p ∨ Value.Ordered low p true) ∧ ∀ q ∈ p :: ps, q.lt? low = some false := by
  induction ps generalizing p with
  | nil =>
    cases lowest
    exact ⟨.inl rfl, by simpa using (Value.ordered_self single).lt?⟩
  | cons q ps ih =>
    rw [List.foldlM_cons] at lowest
    obtain ⟨r, lower, lowest⟩ := bind_eq_ok.mp lowest
    obtain ⟨reached, least⟩ := ih lowest
    have isSingle : r.isSingle = true := reached.elim (· ▸ single) fun below => below.isSingle.2
    obtain ⟨first, others⟩ := List.forall_mem_cons.mp least
    rcases lowerPrice_eq_ok lower with ⟨rfl, compared⟩ | ⟨rfl, compared⟩
    · -- the first price remains against the second
      have ordered := Value.ordered_of_lt? (.inr isSingle) compared
      have second : Value.Ordered q low false := by
        rcases reached with rfl | below
        · exact ordered
        · exact ordered.notBelow below
      exact ⟨reached, List.forall_mem_cons.mpr ⟨first, List.forall_mem_cons.mpr ⟨second.lt?, others⟩⟩⟩
    · -- the second price takes the place of the first
      have ordered := Value.ordered_of_lt? (.inl isSingle) compared
      have below : Value.Ordered low p true := by
        rcases reached with rfl | below
        · exact ordered
        · exact below.trans ordered
      exact ⟨.inr below, List.forall_mem_cons.mpr ⟨below.asymm.lt?, least⟩⟩

/-- Whether a whole number is the lowest of some prices: it is read from one of them, and none of those that are
there lies below that one. -/
structure IsLowest (prices : List Value) (n : Int) : Prop where
  attained : ∃ low ∈ prices, readWhole low = .ok n ∧ ∀ p ∈ prices, p.isNull = false → p.lt? low = some false
  least : ∀ m, .int m ∈ prices → n ≤ m

/-- A price that is there and that a document takes is read as a whole number. -/
theorem wholePrice_eq_ok (present : low.isNull = false) (whole : wholePrice low = .ok price?) :
    ∃ n, price? = some n ∧ readWhole low = .ok n := by
  unfold wholePrice Schema.nullable at whole
  split at whole
  · cases present
  · obtain ⟨n, reads, rfl⟩ := map_eq_ok.mp whole
    refine ⟨n, rfl, ?_⟩
    unfold Schema.plain at reads
    split at reads
    · rename_i plainly
      cases reads
      exact plainly
    · cases reads

theorem isSingle_of_readWhole (reads : readWhole low = .ok n) : low.isSingle = true := by
  cases low <;> first | rfl | cases reads

theorem isLowest_of_lowestPrice (lowest : lowestPrice prices = .ok low) (whole : wholePrice low = .ok price?) :
    (price? = none ↔ ∀ p ∈ prices, p.isNull = true) ∧ ∀ n, price? = some n → IsLowest prices n := by
  unfold lowestPrice at lowest
  split at lowest
  · rename_i none
    cases lowest
    cases whole
    exact ⟨by simpa using none, nofun⟩
  · rename_i p ps present
    have member := mem_of_foldlM lowest
    rw [← present, List.mem_filter, Bool.not_eq_true'] at member
    obtain ⟨n, rfl, reads⟩ := wholePrice_eq_ok member.2 whole
    have least : ∀ q ∈ prices, q.isNull = false → q.lt? low = some false := by
      intro q there given
      refine (least_of_foldlM (isSingle_of_readWhole reads) lowest).2 q ?_
      rw [← present]
      exact List.mem_filter.mpr ⟨there, by rw [given]; rfl⟩
    refine ⟨iff_of_false nofun fun none => ?_, ?_⟩
    · rw [none low member.1] at member
      cases member.2
    · intro k given
      cases given
      refine ⟨⟨low, member.1, reads, least⟩, fun m there => ?_⟩
      -- prices compare as numbers, and those that were read are whole
      cases Value.ordered_of_lt? (.inl rfl) (least _ there rfl) with
      | number left right below =>
        cases left
        rw [← ofInt_of_readWhole right reads, Magnitude.lt_ofInt] at below
        exact not_lt.mp (of_decide_eq_false below)

end Prices

/-! ## Documents -/

section Documents

variable {f : Facility} {courts courts' : List Court} {d : Document}

/-- What a document takes from the courts: the summaries of the active ones, and the lowest of their prices. -/
theorem courts_of_project (made : project f courts = .ok d) :
    (activeCourts courts).mapM Court.summary = .ok d.courts ∧
      ∃ price, lowestPrice ((activeCourts courts).map Court.price) = .ok price ∧
        wholePrice price = .ok d.priceFrom := by
  have isOf := isOf_of_project made
  exact ⟨isOf.summaries, isOf.price⟩

/-- The document of a facility, or what stands in its way, depends on its courts only as a set. It shows the active
ones, each once and by creation, and the lowest of their prices, if there is one. -/
theorem project_courts (distinct : (courts.map Court.id).Nodup) :
    (∀ courts', courts'.Perm courts → project f courts' = project f courts) ∧
    ∀ d, project f courts = .ok d → ∃ active,
      active.Perm (courts.filter Court.isActiveNow) ∧ active.Pairwise Court.Before ∧
      List.Forall₂ (fun c s => c.summary = .ok s) active d.courts ∧
      (d.priceFrom = none ↔ ∀ c ∈ active, c.price.isNull = true) ∧
      ∀ n, d.priceFrom = some n → IsLowest (active.map Court.price) n := by
  refine ⟨fun courts' perm => ?_, fun d made => ?_⟩
  · unfold project
    rw [activeCourts_eq_of_perm distinct perm]
  · obtain ⟨summed, price, lowest, whole⟩ := courts_of_project made
    obtain ⟨missing, present⟩ := isLowest_of_lowestPrice lowest whole
    refine ⟨activeCourts courts, activeCourts_perm, pairwise_before distinct, forall₂_of_mapM summed, ?_, present⟩
    simpa using missing

end Documents

/-- A facility that has a document. -/
def arcade : Facility :=
  { (default : Facility) with
    id := ⟨1⟩, name := some "Arcade", slug := some "arcade", latitude := some 0, longitude := some 0,
    createdAt := some ⟨0, none⟩ }

/-- An active court. -/
def alley (id : Fin (2 ^ 128)) (createdAt : Option Timestamp) (price : Value) : Court :=
  { (default : Court) with
    id := ⟨id⟩, name := some "Alley", sport := some "BOWLS", isActive := some true, createdAt := createdAt,
    price := price }

/-- Courts with and without a price, two of the same moment, and one without a moment. -/
def alleys : List Court :=
  [alley 3 (some ⟨0, none⟩) .null, alley 4 (some ⟨3600000000, some 3600⟩) (.int 8), alley 5 none (.int 6),
    alley 2 (some ⟨5, none⟩) (.int 7)]

/-- Their sequence does not matter, and the lowest of their prices is shown. -/
theorem project_courts_alleys : (alleys.map Court.id).Nodup ∧ ∃ d active, project arcade alleys = .ok d ∧
    project arcade alleys.reverse = .ok d ∧ active.Perm (alleys.filter Court.isActiveNow) ∧
    active.Pairwise Court.Before ∧ List.Forall₂ (fun c s => c.summary = .ok s) active d.courts ∧
    IsLowest (active.map Court.price) 6 := by
  have distinct : (alleys.map Court.id).Nodup := by decide
  have inOrder : activeCourts alleys = alleys := activeCourts_eq_self (by decide) (by decide)
  have shown : (project arcade alleys).map Document.priceFrom = .ok (some 6) := by
    unfold project
    rw [inOrder]
    with_unfolding_all rfl
  obtain ⟨d, made, price⟩ := map_eq_ok.mp shown
  obtain ⟨same, whole⟩ := project_courts (f := arcade) distinct
  obtain ⟨active, perm, sequence, summaries, _, lowest⟩ := whole d made
  exact ⟨distinct, d, active, made, (same _ alleys.reverse_perm).trans made, perm, sequence, summaries, lowest 6 price⟩

/-- A court without a moment of creation stands behind one that was created before the first of all days began in
universal time. -/
theorem project_dateless : ((project arcade [alley 2 none .null, alley 3 (some ⟨0, some 18000⟩) .null]).map
    fun d => d.courts.map CourtSummary.id) = .ok [(⟨3⟩ : Uuid).text, (⟨2⟩ : Uuid).text] := by
  have inOrder : activeCourts [alley 2 none .null, alley 3 (some ⟨0, some 18000⟩) .null] =
      [alley 3 (some ⟨0, some 18000⟩) .null, alley 2 none .null] :=
    (activeCourts_eq_of_perm (by decide) (.swap ..)).trans (activeCourts_eq_self (by decide) (by decide))
  unfold project
  rw [inOrder]
  with_unfolding_all rfl

end Venues
