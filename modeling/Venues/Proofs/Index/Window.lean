import Venues.Proofs.Index.Scroll

/-! # Searches inside the result window

Whatever page a query asks for, and by whatever cursor, the search for it stays inside the result window of
the index. What the page says of its place is computed from the position at which the search began.
-/

namespace Venues

open Index

namespace Cursor

variable {limit : Int}

theorem toOffset_nonneg (c : String) : 0 ≤ toOffset c limit := by
  rw [toOffset]
  split <;> omega

/-- Whatever a cursor says, it is read as a position from which a page ends in the result window, or as the
start of the results. -/
theorem toOffset?_eq_zero_or_inside (c? : Option String) (nonneg : 0 ≤ limit) :
    0 ≤ toOffset? c? limit ∧ (toOffset? c? limit = 0 ∨ toOffset? c? limit + limit ≤ resultWindow) := by
  cases c? with
  | none => exact ⟨Int.le_refl 0, .inl rfl⟩
  | some c =>
    refine ⟨toOffset_nonneg c, ?_⟩
    rw [toOffset?, toOffset]
    split
    · exact .inl rfl
    · exact .inr (by omega)

/-- The cursor of a position is read as this position, if there is one and a page there ends in the result
window, and as the start of the results otherwise. -/
theorem toOffset_ofOffset_eq_ite (n : Int) (nonneg : 0 ≤ limit) :
    toOffset (ofOffset n) limit = if 0 ≤ n ∧ n + limit ≤ resultWindow then n else 0 := by
  rcases Int.lt_or_le n 0 with negative | positive
  · -- positions before the first row are written as the first
    have first : ofOffset n = ofOffset (0 : Nat) := by rw [ofOffset, ofOffset, Int.max_eq_left (by omega)]; rfl
    rw [first, if_neg (by omega)]
    by_cases inside : max 0 limit ≤ resultWindow
    · exact toOffset_ofOffset (by omega)
    · exact toOffset_ofOffset_eq_zero (by omega)
  · obtain ⟨m, rfl⟩ := Int.eq_ofNat_of_zero_le positive
    by_cases inside : (m : Int) + limit ≤ resultWindow
    · rw [toOffset_ofOffset (by omega), if_pos ⟨positive, inside⟩]
    · rw [toOffset_ofOffset_eq_zero (by omega), if_neg fun both => inside both.2]

end Cursor

namespace Index

variable {surface : Surface} {q : Query} {body : SearchBody}

/-! ## Pages of queries -/

/-- The page of a query that was built is one that was read, be it part of a query that is written down in
full or of a request. -/
theorem exists_page_read (built : (∃ v, Schema.query v = .ok q) ∨
    ∃ (s : Surface) (request : Value), s.normalize request = .ok q) :
    ∃ fs, Schema.page (.object fs) = .ok q.page := by
  -- written down in full, the page is one of the fields that are read
  obtain ⟨v, whole⟩ | ⟨s, request, accepted⟩ := built
  · cases v with
    | object fs =>
      obtain ⟨⟨_, _, _, _, page, _, _⟩, parts, made⟩ := bind_eq_ok.mp whole
      simp only [Checked.both_eq_ok] at parts
      obtain ⟨_, _, _, _, read, _⟩ := parts
      cases made
      unfold Schema.required at read
      split at read
      · rename_i w held
        replace read := Checked.inField_eq_ok.mp read
        cases w with
        | object page => exact ⟨page, read⟩
        | _ => cases read
      · cases read
    | _ => cases whole
  · exact ⟨_, (Surface.normalizes_of_normalize accepted).page⟩

theorem limit_bounds {fs : Fields} {limit : Int} (read : Schema.limit fs = .ok limit) : 1 ≤ limit ∧ limit ≤ 100 := by
  unfold Schema.limit Schema.required at read
  split at read
  · obtain ⟨least, most⟩ := Schema.wholeBetween_bounds (Checked.inField_eq_ok.mp read)
    exact ⟨least _ rfl, most _ rfl⟩
  · cases read

/-! ## Responses -/

/-- What a page that is read from a response says of its place. -/
theorem details_readResponse {response : Value} {p : HitPage} (answered : readResponse q response = .ok p) :
    p.details = searchMeta q p.hits.length p.total := by
  unfold readResponse at answered
  obtain ⟨_, _, answered⟩ := bind_eq_ok.mp answered
  obtain ⟨_, _, answered⟩ := bind_eq_ok.mp answered
  obtain ⟨total, _, answered⟩ := bind_eq_ok.mp answered
  obtain ⟨_, _, answered⟩ := bind_eq_ok.mp answered
  obtain ⟨hits, _, answered⟩ := bind_eq_ok.mp answered
  -- the highest score is read with a term only, and the rest is read alike
  have page {score? : Outcome Float} (answered : (score? >>= fun score => readTotal total >>= fun total =>
      (.ok ⟨hits, total, score, searchMeta q hits.length total⟩ : Outcome HitPage)) = .ok p) :
      p.details = searchMeta q p.hits.length p.total := by
    obtain ⟨_, _, answered⟩ := bind_eq_ok.mp answered
    obtain ⟨_, _, answered⟩ := bind_eq_ok.mp answered
    cases answered
    rfl
  dsimp only at answered
  split at answered
  · exact page answered
  · exact page answered

/-! ## Together -/

/-- No search leaves the result window, and the page that is read from its response is placed where the search
began. A cursor that would lead out of the window, and any text that is none, is read as the start of the
results. -/
theorem ofQuery_inside_window (built : (∃ v, Schema.query v = .ok q) ∨
      ∃ (s : Surface) (request : Value), s.normalize request = .ok q)
    (made : SearchBody.ofQuery surface q = .ok body) :
    (0 ≤ body.start ∧ 1 ≤ body.size ∧ body.start + body.size ≤ resultWindow) ∧
    (∀ response p, readResponse q response = .ok p → p.details =
      if q.page.isCursor then
        PageMeta.atCursor q.page.cursor? body.start body.size p.hits.length p.total (some resultWindow)
      else PageMeta.atOffset body.start body.size p.hits.length p.total (some resultWindow)) ∧
    (∀ (c? : Option String) (limit : Int), 0 ≤ limit → 0 ≤ Cursor.toOffset? c? limit ∧
      (Cursor.toOffset? c? limit = 0 ∨ Cursor.toOffset? c? limit + limit ≤ resultWindow)) ∧
    ∀ n limit : Int, 0 ≤ limit → Cursor.toOffset (Cursor.ofOffset n) limit =
      if 0 ≤ n ∧ n + limit ≤ resultWindow then n else 0 := by
  obtain ⟨start, size⟩ := portion_ofQuery made
  obtain ⟨fs, read⟩ := exists_page_read built
  obtain ⟨limited, proper⟩ := Schema.page_spec read
  obtain ⟨least, most⟩ := limit_bounds limited
  obtain ⟨_, window, _⟩ := bind_eq_ok.mp made
  obtain ⟨first, last⟩ := startOfPage_bounds proper least most window
  rw [start, size]
  refine ⟨⟨first, least, last⟩, fun response p answered => ?_,
    fun c? limit nonneg => Cursor.toOffset?_eq_zero_or_inside c? nonneg,
    fun n limit nonneg => Cursor.toOffset_ofOffset_eq_ite n nonneg⟩
  exact details_readResponse answered

/-- The last page of ten results, at a cursor with blanks and with digits of another script. -/
def lastPage : Value := .object [("cursor", .text " ٩٩٩0\n"), ("limit", .int 10)]

theorem ofQuery_lastPage : ∃ q body, Surface.facilitySearch.normalize lastPage = .ok q ∧
    SearchBody.ofQuery Surface.facilitySearch q = .ok body ∧ body.start = 9990 ∧
    body.start + body.size ≤ resultWindow ∧ body.start + body.size = 10000 := by
  obtain ⟨q, accepted⟩ : ∃ q, Surface.facilitySearch.normalize lastPage = .ok q := ⟨_, rfl⟩
  obtain ⟨body, made⟩ : ∃ body, SearchBody.ofQuery Surface.facilitySearch q = .ok body := by
    cases accepted
    exact ⟨_, rfl⟩
  obtain ⟨⟨_, _, last⟩, _⟩ := ofQuery_inside_window (.inr ⟨_, _, accepted⟩) made
  refine ⟨q, body, accepted, made, ?_, last, ?_⟩
  · cases accepted
    cases made
    decide +kernel
  · cases accepted
    cases made
    decide +kernel

end Index
end Venues
