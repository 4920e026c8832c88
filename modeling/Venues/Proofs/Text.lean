import Mathlib.Data.List.DropRight
import Venues.Text.Blank

/-! # Texts

Taking characters off the ends of a text that has none of them there leaves the text as it is, and so does
taking them off once more.
-/

namespace Venues.Text

theorem dropEnds_eq_self {p : Char → Bool} {cs : List Char} (none : ∀ c ∈ cs, p c = false) :
    dropEnds p cs = cs := by
  have kept {ds : List Char} (none : ∀ c ∈ ds, p c = false) : ds.dropWhile p = ds := by
    cases ds with
    | nil => rfl
    | cons d ds => exact List.dropWhile_cons_of_neg (by simp [none d List.mem_cons_self])
  unfold dropEnds
  rw [kept none, kept fun c member => none c (List.mem_reverse.mp member), List.reverse_reverse]

theorem length_dropEnds_le {p : Char → Bool} {cs : List Char} : (dropEnds p cs).length ≤ cs.length := by
  rw [dropEnds, List.length_reverse]
  refine Nat.le_trans (List.dropWhile_suffix p).length_le ?_
  rw [List.length_reverse]
  exact (List.dropWhile_suffix p).length_le

theorem strip_eq_self {s : String} (none : ∀ c ∈ s.toList, isBlank c = false) : strip s = s := by
  rw [strip, dropEnds_eq_self none, String.ofList_toList]

theorem dropEnds_dropEnds {p : Char → Bool} {cs : List Char} : dropEnds p (dropEnds p cs) = dropEnds p cs := by
  have front : (dropEnds p cs).dropWhile p = dropEnds p cs := by
    rw [List.dropWhile_eq_self_iff]
    intro some'
    have start : dropEnds p cs <+: cs.dropWhile p := List.rdropWhile_prefix p _
    rw [start.getElem some']
    exact List.dropWhile_eq_self_iff.mp (List.dropWhile_idempotent p cs) _
  show ((dropEnds p cs).dropWhile p).rdropWhile p = _
  rw [front]
  exact List.rdropWhile_idempotent p _

theorem strip_strip (s : String) : strip (strip s) = strip s := by
  rw [strip, strip, String.toList_ofList, dropEnds_dropEnds]

theorem strip_of_isBlankText {s : String} (blank : isBlankText s = true) : strip s = "" := by
  rw [strip, dropEnds, List.dropWhile_eq_nil_iff.mpr (List.all_eq_true.mp blank)]
  rfl

end Venues.Text
