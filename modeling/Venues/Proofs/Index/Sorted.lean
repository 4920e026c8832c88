import Mathlib.Data.Sum.Order
import Venues.Proofs.Index.Evaluate
import Venues.Proofs.Store.Order
import Venues.Proofs.Value.Read

/-! # Results in their order

Sort values are compared place by place: numbers by their size, texts as they are, and a missing value goes last in
both directions. As long as no number is missing its size, this is an order, and a result stands in it.
-/

namespace Venues

namespace Index

/-! ## Places -/

/-- The places that values can take in an order, where all numbers go before all texts. -/
abbrev Place : Type := WithBot (WithTop Int) ⊕ₗ String

/-- The place of a value; null has none, nor has a value that is made of others. -/
def place? : Value → Option Place
  | .text s => some (Sum.inrₗ s)
  | v => v.magnitude?.map fun m => Sum.inlₗ m.rank

/-- How two values are ordered in a direction. What has no place goes last in both of them. -/
def orderPlaces (direction : Direction) : Option Place → Option Place → Ordering
  | none, none => .eq
  | none, some _ => .gt
  | some _, none => .lt
  | some x, some y =>
    match direction with
    | .asc => compare x y
    | .desc => compare y x

/-- How two lists of sort values are ordered: by the first pair that is not level. -/
def orderKeys : List SortClause → List Value → List Value → Ordering
  | [], _, _ => .eq
  | c :: cs, as, bs =>
    (orderPlaces c.direction (as.head?.bind place?) (bs.head?.bind place?)).then (orderKeys cs as.tail bs.tail)

theorem transCmp_orderPlaces (direction : Direction) : Std.TransCmp (orderPlaces direction) where
  eq_swap {x y} := by
    have turned (x y : Place) : compare x y = (compare y x).swap := Std.OrientedOrd.eq_swap
    rcases x with _ | x <;> rcases y with _ | y <;> try rfl
    cases direction with
    | asc => exact turned x y
    | desc => exact turned y x
  isLE_trans {x y z} low high := by
    have onward {x y z : Place} (low : (compare x y).isLE = true) (high : (compare y z).isLE = true) :
        (compare x z).isLE = true := Std.TransOrd.isLE_trans low high
    cases z with
    | none => cases x <;> rfl
    | some z =>
      -- what goes before a place has a place
      cases y with
      | none => cases high
      | some y =>
        cases x with
        | none => cases low
        | some x =>
          cases direction with
          | asc => exact onward low high
          | desc => exact onward high low

/-- Lists of sort values are ordered. -/
theorem transCmp_orderKeys (sort : List SortClause) : Std.TransCmp (orderKeys sort) := by
  induction sort with
  | nil => exact { eq_swap := rfl, isLE_trans := fun _ _ => rfl }
  | cons c sort ih =>
    have order := transCmp_orderPlaces c.direction
    have first : Std.TransCmp fun as bs : List Value =>
        orderPlaces c.direction (as.head?.bind place?) (bs.head?.bind place?) :=
      { eq_swap := order.eq_swap, isLE_trans := order.isLE_trans }
    have rest : Std.TransCmp fun as bs : List Value => orderKeys sort as.tail bs.tail :=
      { eq_swap := ih.eq_swap, isLE_trans := ih.isLE_trans }
    exact inferInstanceAs (Std.TransCmp (compareLex _ _))

/-! ## Sort values -/

/-- Whether a value can be sorted by a clause: it is null, or a text or a number as the clause says. -/
structure SortClause.Fits (c : SortClause) (v : Value) : Prop where
  suits : c.valueKind.Suits v
  number : v.magnitude? ≠ some .undefined

theorem SortClause.fits_text {c : SortClause} {s : String} (suits : c.valueKind.Suits (.text s)) : c.Fits (.text s) :=
  ⟨suits, nofun⟩

/-- What fits a clause is missing, or has a place among the numbers or the texts, as the clause says. -/
theorem SortClause.Fits.cases {c : SortClause} {v : Value} (fits : c.Fits v) : v = .null ∨
    (∃ m, v.magnitude? = some m ∧ m ≠ .undefined ∧ place? v = some (Sum.inlₗ m.rank) ∧ c.valueKind.isNumeric = true) ∨
    ∃ s, v = .text s ∧ c.valueKind.isNumeric = false := by
  obtain ⟨rfl | held, number⟩ := fits
  · exact .inl rfl
  · refine .inr ?_
    generalize c.valueKind = kind at held ⊢
    cases kind with
    | truth | whole | real =>
      obtain ⟨m, size⟩ := Option.isSome_iff_exists.mp held
      refine .inl ⟨m, size, fun undefined => number (undefined ▸ size), ?_, rfl⟩
      cases v <;> cases size <;> rfl
    | text | uuid | time =>
      cases v <;> first | exact .inr ⟨_, rfl, rfl⟩ | cases held

variable {c : SortClause} {cs sort : List SortClause} {a b : Value} {as bs : List Value}

theorem compare_inl (x y : WithBot (WithTop Int)) : compare (Sum.inlₗ x : Place) (Sum.inlₗ y) = compare x y := by
  rw [← cmp_eq_compare, ← cmp_eq_compare]
  exact Sum.Lex.inl_strictMono.cmp_map_eq x y

theorem compare_inr (s t : String) : compare (Sum.inrₗ s : Place) (Sum.inrₗ t) = compare s t := by
  rw [← cmp_eq_compare, ← cmp_eq_compare]
  exact Sum.Lex.inr_strictMono.cmp_map_eq s t

/-- Two values with places are compared as their places are, the other way round where the direction is. -/
theorem compareKeys_cons_of_places {x y : Place} (there : a.isNull = false) (there' : b.isNull = false)
    (same : a.same b = (compare x y == .eq)) (below : a.lt? b = some (compare x y == .lt)) :
    compareKeys (c :: cs) (a :: as) (b :: bs) =
      match orderPlaces c.direction (some x) (some y) with
      | .eq => compareKeys cs as bs
      | ordering => some ordering := by
  have turned : compare y x = (compare x y).swap := Std.OrientedOrd.eq_swap
  rw [compareKeys, there, there', same, below]
  cases direction : c.direction with
  | asc =>
    rw [orderPlaces]
    cases compare x y <;> rfl
  | desc =>
    rw [orderPlaces, turned]
    cases compare x y <;> rfl

/-- How values that fit a clause compare is how their places are ordered. -/
theorem compareKeys_cons (ha : c.Fits a) (hb : c.Fits b) : compareKeys (c :: cs) (a :: as) (b :: bs) =
    match orderPlaces c.direction (place? a) (place? b) with
    | .eq => compareKeys cs as bs
    | ordering => some ordering := by
  -- values that fit one clause are missing, or both numbers, or both texts
  rcases ha.cases with rfl | ⟨m, size, proper, at', numeric⟩ | ⟨s, rfl, textual⟩
  · rcases hb.cases with rfl | ⟨n, size', _, at'', _⟩ | ⟨s', rfl, _⟩
    · rfl
    · rw [at'', compareKeys]
      cases b <;> first | rfl | cases size'
    · rfl
  · rcases hb.cases with rfl | ⟨n, size', proper', at'', _⟩ | ⟨s', rfl, textual⟩
    · rw [at', compareKeys]
      cases a <;> first | rfl | cases size
    · obtain ⟨below, same⟩ := Value.lt?_of_magnitude size size'
      obtain ⟨level, less, _⟩ := Magnitude.compare_rank proper proper'
      rw [← compare_inl] at level less
      rw [at', at'']
      refine compareKeys_cons_of_places ?_ ?_ (same.trans level) (below.trans (congrArg some less))
      · cases a <;> first | rfl | cases size
      · cases b <;> first | rfl | cases size'
    · rw [numeric] at textual
      cases textual
  · rcases hb.cases with rfl | ⟨n, size', _, _, numeric⟩ | ⟨s', rfl, _⟩
    · rfl
    · rw [numeric] at textual
      cases textual
    · obtain ⟨level, less, _⟩ := Magnitude.compare_key s s'
      rw [← compare_inr] at level less
      exact compareKeys_cons_of_places rfl rfl level (congrArg some less)

/-- Values that fit the clauses are compared as they are ordered. -/
theorem compareKeys_eq (ha : List.Forall₂ SortClause.Fits sort as) (hb : List.Forall₂ SortClause.Fits sort bs) :
    compareKeys sort as bs = some (orderKeys sort as bs) := by
  induction ha generalizing bs with
  | nil =>
    cases hb
    rfl
  | @cons c a sort as fits _ ih =>
    cases hb with
    | @cons _ b _ bs fits' others =>
      rw [compareKeys_cons fits fits', ih others]
      show _ = some ((orderPlaces c.direction (place? a) (place? b)).then (orderKeys sort as bs))
      cases orderPlaces c.direction (place? a) (place? b) <;> rfl

/-! ## Results -/

section Results

variable {found sorted : List Found}

theorem perm_sortFound (made : sortFound sort found = .ok sorted) : sorted.Perm found := by
  unfold sortFound at made
  split at made
  · cases made
    exact List.mergeSort_perm ..
  · cases made

/-- A result stands in the order of the sort values. -/
theorem pairwise_sortFound (fits : ∀ f ∈ found, List.Forall₂ SortClause.Fits sort f.keys)
    (made : sortFound sort found = .ok sorted) :
    sorted.Pairwise fun f g => (orderKeys sort f.keys g.keys).isLE = true := by
  have order := transCmp_orderKeys sort
  have perm := perm_sortFound made
  -- for values that fit, the comparison that is run is one that is known to be an order
  have compared {f g : Found} (hf : List.Forall₂ SortClause.Fits sort f.keys)
      (hg : List.Forall₂ SortClause.Fits sort g.keys) :
      (compareKeys sort f.keys g.keys != some .gt) = (orderKeys sort f.keys g.keys).isLE := by
    rw [compareKeys_eq hf hg]
    cases orderKeys sort f.keys g.keys <;> rfl
  have trans (f g h : Found) (hf : List.Forall₂ SortClause.Fits sort f.keys)
      (hg : List.Forall₂ SortClause.Fits sort g.keys) (hh : List.Forall₂ SortClause.Fits sort h.keys)
      (low : (compareKeys sort f.keys g.keys != some .gt) = true)
      (high : (compareKeys sort g.keys h.keys != some .gt) = true) :
      (compareKeys sort f.keys h.keys != some .gt) = true := by
    rw [compared hf hg] at low
    rw [compared hg hh] at high
    rw [compared hf hh]
    exact order.isLE_trans low high
  have total (f g : Found) (hf : List.Forall₂ SortClause.Fits sort f.keys)
      (hg : List.Forall₂ SortClause.Fits sort g.keys) :
      (compareKeys sort f.keys g.keys != some .gt || compareKeys sort g.keys f.keys != some .gt) = true := by
    rw [compared hf hg, compared hg hf, order.eq_swap (a := g.keys)]
    cases orderKeys sort f.keys g.keys <;> rfl
  have pairwise := Store.pairwise_mergeSort_of_forall trans total fits
  unfold sortFound at made
  split at made
  · cases made
    refine pairwise.imp_of_mem fun {f g} hf hg le => ?_
    rwa [compared (fits f (perm.mem_iff.mp hf)) (fits g (perm.mem_iff.mp hg))] at le
  · cases made

variable {b : SearchBody} {documents : List Document} {d : Document} {f : Found}

/-- A search that is answered has looked at every document, and sorted what it found. -/
theorem exists_find_of_search (searched : b.search (documents.map entry) = .ok sorted) :
    ∃ find : Document → Option Found, (∀ d ∈ documents, b.find? d.id d.source = .ok (find d)) ∧
      sortFound b.sort (documents.filterMap find) = .ok sorted := by
  obtain ⟨results, looked, made⟩ := bind_eq_ok.mp searched
  rw [List.mapM_map] at looked
  obtain ⟨find, finds⟩ := exists_results fun d (member : d ∈ documents) =>
    (exists_mem_of_mapM looked d member).imp fun _ => And.right
  rw [mapM_eq_ok finds] at looked
  cases looked
  exact ⟨find, finds, by rwa [List.filterMap_map] at made⟩

theorem allHold_of_find? (found : b.find? d.id d.source = .ok (some f)) :
    allHold d.source (b.must :: b.filters) = .ok true := by
  obtain ⟨selects, held, found⟩ := bind_eq_ok.mp found
  cases selects with
  | false => cases found
  | true => exact held

/-- What is found of a document has the sort values of the document. -/
theorem of_find? (found : b.find? d.id d.source = .ok (some f)) (values : ∀ score, ∀ c ∈ b.sort,
    ∃ v, c.valueOf d.source score = .ok v ∧ c.valueKind.Suits v) : f.Of b.sort d := by
  rw [SearchBody.find?, allHold_of_find? found, ok_bind] at found
  obtain ⟨keys, valued, made⟩ := bind_eq_ok.mp found
  cases made
  have each := (List.forall₂_and_left _ _).mpr ⟨values (b.must.scoreOf d.source), forall₂_of_mapM valued⟩
  refine ⟨rfl, rfl, each.imp fun c v both => ⟨both.2, ?_⟩⟩
  obtain ⟨⟨w, again, suits⟩, value⟩ := both
  cases value.symm.trans again
  exact suits

end Results

end Index
end Venues
