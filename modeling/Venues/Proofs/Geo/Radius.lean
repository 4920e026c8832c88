import Venues.Proofs.Float.Number
import Venues.Proofs.Geo

/-! # Radii

A text is taken as a radius exactly if it is a written distance above zero, whatever blanks stand in it, in whatever
script its digits are and in whatever case its unit. What is kept of it is its normal form, which is the same distance
and is taken and kept as it is.
-/

namespace Venues.Schema

open Distance (Parts)

variable {s r : String} {p : Parts} {d : Distance}

theorem radius_text_eq_ok_iff : radius (.text s) = .ok r ↔
    (∃ d, Distance.parse s = .ok d ∧ 0 < d.meters) ∧ Area.normalRadius s = r := by
  unfold radius Distance.parseMeters
  dsimp only
  cases parsed : Distance.parse s with
  | error misuse => exact iff_of_false nofun fun ⟨⟨_, found, _⟩, _⟩ => nomatch found
  | ok d =>
    -- a distance is a number, so if it is not at most zero it is above
    have positive := Unpacked.zero_lt_iff_not_le (Unpacked.isNumber_meters parsed)
    rw [map_ok]
    dsimp only
    split
    · rename_i atMost
      refine iff_of_false nofun fun ⟨⟨_, found, above⟩, _⟩ => ?_
      cases found
      exact positive.mp above atMost
    · rename_i above
      exact ⟨fun kept => ⟨⟨d, rfl, positive.mpr above⟩, Except.ok.inj kept⟩, fun kept => congrArg Except.ok kept.2⟩

/-- The parts of a distance above zero are taken as a radius, and kept in normal form. -/
theorem radius_of_writes (writes : p.Writes d) (above : 0 < d.meters) :
    radius (.text (String.ofList p.text)) = .ok (String.ofList p.normal.text) := by
  have spelled : p.text = (String.ofList p.text).toList := String.toList_ofList.symm
  refine radius_text_eq_ok_iff.mpr ⟨⟨d, writes.parse_eq spelled, above⟩, String.toList_inj.mp ?_⟩
  rw [writes.toList_normalRadius spelled, String.toList_ofList]

/-- A text that is taken as a radius is kept in normal form, which is taken again and kept as it is. The two have the
same numeral, character by character, and the same unit, so the radius measures what was found to be above zero. Taken
are all texts that have the parts of a distance above zero: blanks of any kind at the ends and in front of the unit,
digits of any script, and a unit in any case. -/
theorem radius_normal :
    (∀ s r, radius (.text s) = .ok r → radius (.text r) = .ok r ∧
      ∃ (p : Parts) (d : Distance), p.text = s.toList ∧ p.Writes d ∧ p.normal.text = r.toList ∧ p.normal.Writes d ∧
        Distance.parse s = .ok d ∧ Distance.parse r = .ok d ∧ 0 < d.meters ∧
        ∀ center, (Area.mk center r).radiusMeters = .ok d.meters) ∧
    (∀ (p : Parts) (d : Distance), p.Writes d → 0 < d.meters →
      radius (.text (String.ofList p.text)) = .ok (String.ofList p.normal.text)) := by
  refine ⟨fun s r taken => ?_, fun p d => radius_of_writes⟩
  obtain ⟨⟨d, parsed, above⟩, rfl⟩ := radius_text_eq_ok_iff.mp taken
  obtain ⟨p, spelled, writes⟩ := Distance.exists_writes parsed
  have again := Distance.parse_normalRadius parsed
  have kept := Distance.normalRadius_normalRadius parsed
  refine ⟨radius_text_eq_ok_iff.mpr ⟨⟨d, again, above⟩, kept⟩, p, d, spelled, writes,
    (writes.toList_normalRadius spelled).symm, writes.normal, parsed, again, above, fun center => ?_⟩
  rw [Area.radiusMeters, Distance.parseMeters, again, map_ok]

/-- Twelve and a half kilometers, in digits of two scripts and with blanks of four kinds. -/
def longHand : Parts where
  front := ['\u2003']
  digits := ['１', '２']
  fraction := ['.', '٥']
  gap := ['\u00a0', ' ']
  unit := ['K', 'M']
  back := ['\t']

theorem writes_longHand : longHand.Writes ⟨[1, 2], [5], 1000⟩ where
  front := List.all_eq_true.mp rfl
  nonempty := by decide
  digits := rfl
  fraction := .inr ⟨['٥'], rfl, by decide, rfl⟩
  gap := List.all_eq_true.mp rfl
  unit := rfl
  back := List.all_eq_true.mp rfl
  close := by decide

/-- In normal form the one blank is left that is no space. -/
theorem radius_normal_longHand : ∃ d : Distance, longHand.Writes d ∧ 0 < d.meters ∧
    radius (.text "\u2003１２.٥\u00a0 KM\t") = .ok "１２.٥\u00a0km" ∧
    radius (.text "１２.٥\u00a0km") = .ok "１２.٥\u00a0km" ∧
    Distance.parse "\u2003１２.٥\u00a0 KM\t" = .ok d ∧ Distance.parse "１２.٥\u00a0km" = .ok d := by
  have above : 0 < (⟨[1, 2], [5], 1000⟩ : Distance).meters := by decide +kernel
  obtain ⟨again, all⟩ := radius_normal
  have taken : radius (.text "\u2003１２.٥\u00a0 KM\t") = .ok "１２.٥\u00a0km" := all _ _ writes_longHand above
  obtain ⟨kept, p, d, spelled, writes, _, _, parsed, parsed', _⟩ := again _ _ taken
  have read := writes_longHand.parse_eq (s := "\u2003１２.٥\u00a0 KM\t") rfl
  cases read.symm.trans parsed
  exact ⟨_, writes_longHand, above, taken, kept, parsed, parsed'⟩

end Venues.Schema
