import Venues.Proofs.Digits
import Venues.Proofs.Text
import Venues.Uuid

/-! # Texts of identifiers

The text of an identifier holds hexadecimal digits and dashes only. It is read back as the identifier,
so different identifiers have different texts. Digits stand at the same places in all of them, so texts
compare as the identifiers do.
-/

namespace Venues.Uuid

/-! ## Digits -/

/-- What holds of the sixteen digits holds of all padded digits. -/
theorem forall_mem_paddedDigits {p : Char → Prop} (digit : ∀ d < 16, p (Nat.digitChar d)) (width n : Nat) :
    ∀ c ∈ paddedDigits 16 width n, p c := by
  induction width generalizing n with
  | zero => intro c member; cases member
  | succ width ih =>
    intro c member
    rcases List.mem_append.mp member with member | member
    · exact ih (n / 16) c member
    · rw [List.mem_singleton.mp member]
      exact digit _ (Nat.mod_lt n (by decide))

theorem ofHexDigits_append (ds : List Nat) (d : Nat) :
    ofHexDigits (ds ++ [d]) = 16 * ofHexDigits ds + d := by
  simp [ofHexDigits]

/-- Padded digits are read back as the number, as far as they reach. -/
theorem mapM_hexDigit?_paddedDigits (width n : Nat) :
    ∃ ds, (paddedDigits 16 width n).mapM hexDigit? = some ds ∧ ofHexDigits ds = n % 16 ^ width ∧
      ds.length = width := by
  have digit : ∀ d < 16, hexDigit? (Nat.digitChar d) = some d := by decide
  induction width generalizing n with
  | zero => exact ⟨[], rfl, (Nat.mod_one n).symm, rfl⟩
  | succ width ih =>
    obtain ⟨ds, read, value, length⟩ := ih (n / 16)
    refine ⟨ds ++ [n % 16], ?_, ?_, by simp [length]⟩
    · simp [paddedDigits, List.mapM_append, read, digit _ (Nat.mod_lt n (by decide : 16 > 0))]
    · rw [ofHexDigits_append, value, Nat.pow_succ', Nat.mod_mul]
      omega

/-- What holds of dashes and of the sixteen digits holds of the characters of a text. -/
theorem forall_mem_text {p : Char → Prop} (dash : p '-') (digit : ∀ d < 16, p (Nat.digitChar d)) (u : Uuid) :
    ∀ c ∈ u.text.toList, p c := by
  have digits := forall_mem_paddedDigits digit 32 u.bits
  intro c member
  simp only [text, String.toList_ofList, group, List.mem_append, List.mem_cons] at member
  rcases member with (((member | rfl | member) | rfl | member) | rfl | member) | rfl | member
  · exact digits c (List.mem_of_mem_take member)
  · exact dash
  · exact digits c (List.mem_of_mem_drop (List.mem_of_mem_take member))
  · exact dash
  · exact digits c (List.mem_of_mem_drop (List.mem_of_mem_take member))
  · exact dash
  · exact digits c (List.mem_of_mem_drop (List.mem_of_mem_take member))
  · exact dash
  · exact digits c (List.mem_of_mem_drop member)

/-- Without its dashes a text is the digits. -/
theorem filter_text (u : Uuid) : u.text.toList.filter (· != '-') = u.hex := by
  have kept {ds : List Char} (all : ∀ c ∈ ds, c ∈ u.hex) : ds.filter (· != '-') = ds := by
    refine List.filter_eq_self.mpr fun c member => ?_
    exact forall_mem_paddedDigits (p := fun c => (c != '-') = true) (by decide) 32 u.bits c (all c member)
  have part (i n : Nat) : ((u.hex.drop i).take n).filter (· != '-') = (u.hex.drop i).take n :=
    kept fun c member => List.mem_of_mem_drop (List.mem_of_mem_take member)
  have first : (u.hex.take 8).filter (· != '-') = u.hex.take 8 := part 0 8
  have last : (u.hex.drop 20).filter (· != '-') = u.hex.drop 20 :=
    kept fun c member => List.mem_of_mem_drop member
  simp only [text, String.toList_ofList, group, List.filter_append, List.filter_cons, part, first, last]
  simp only [bne_self_eq_false, Bool.false_eq_true, if_false]
  have step (i n : Nat) : (u.hex.drop i).take n ++ u.hex.drop (i + n) = u.hex.drop i := by
    rw [← List.drop_drop]
    exact List.take_append_drop n _
  rw [List.append_assoc, List.append_assoc, List.append_assoc, step 16 4, step 12 4, step 8 4]
  exact List.take_append_drop 8 u.hex

/-! ## Reading back -/

/-- Nothing is erased from a text without the first character of the word. -/
theorem erase_eq_self {word : String} {c : Char} {rest cs : List Char} (absent : c ∉ cs)
    (spelled : word.toList = c :: rest) : erase word cs = cs := by
  have tried (fuel : Nat) : eraseText (c :: rest) fuel cs = cs := by
    induction cs generalizing fuel with
    | nil => cases fuel <;> rfl
    | cons d cs ih =>
      obtain ⟨different, absent⟩ := not_or.mp (mt List.mem_cons.mpr absent)
      cases fuel with
      | zero => rfl
      | succ fuel => simp [eraseText, different, ih absent fuel]
  rw [erase, spelled, tried]

theorem joinHex?_eq_self {cs : List Char} (absent : '_' ∉ cs) : joinHex? cs = some cs := by
  fun_induction joinHex? cs with
  | case1 => rfl
  | case2 => simp at absent
  | case3 => simp at absent
  | case4 => simp at absent
  | case5 c cs _ _ ih => rw [ih (List.not_mem_of_not_mem_cons absent)]; rfl

theorem dropMark_eq_self {cs : List Char} (absent : 'x' ∉ cs ∧ 'X' ∉ cs) : dropMark cs = cs := by
  obtain ⟨lower, upper⟩ := absent
  unfold dropMark
  split
  · simp_all [eq_comm]
  · simp_all [eq_comm]
  · rfl

theorem splitSign_eq_self {cs : List Char} (absent : '-' ∉ cs ∧ '+' ∉ cs) : splitSign cs = (false, cs) := by
  unfold splitSign
  split <;> simp_all

/-- The digits of an identifier are read back as its number. -/
theorem readHexNumber?_hex (u : Uuid) : readHexNumber? u.hex = some (u.bits.val : Int) := by
  have all {p : Char → Prop} (digit : ∀ d < 16, p (Nat.digitChar d)) : ∀ c ∈ u.hex, p c :=
    forall_mem_paddedDigits digit 32 u.bits
  -- no sign, mark or line is one of the digits, so nothing but digits is read
  have absent (c : Char) (other : ∀ d < 16, Nat.digitChar d ≠ c) : c ∉ u.hex :=
    fun member => all (p := (· ≠ c)) other c member rfl
  have stripped : Text.dropEnds Text.isSpace u.hex = u.hex :=
    Text.dropEnds_eq_self (all (p := fun c => Text.isSpace c = false) (by decide))
  have plain : u.hex.map plainDigit = u.hex :=
    (List.map_congr_left (all (p := fun c => plainDigit c = c) (by decide))).trans (List.map_id _)
  obtain ⟨ds, read, value, length⟩ := mapM_hexDigit?_paddedDigits 32 u.bits
  rw [Nat.mod_eq_of_lt u.bits.isLt] at value
  have nonempty : ds ≠ [] := by rintro rfl; cases length
  simp only [readHexNumber?, stripped, plain,
    splitSign_eq_self ⟨absent '-' (by decide), absent '+' (by decide)⟩,
    dropMark_eq_self ⟨absent 'x' (by decide), absent 'X' (by decide)⟩,
    joinHex?_eq_self (absent '_' (by decide))]
  simp only [hex] at read ⊢
  simp [read, value, nonempty]

/-- The text of an identifier is read back as the identifier. -/
theorem ofText?_text (u : Uuid) : ofText? u.text = some u := by
  have absent (c : Char) (dash : c ≠ '-') (other : ∀ d < 16, Nat.digitChar d ≠ c) : c ∉ u.text.toList :=
    fun member => forall_mem_text (p := (· ≠ c)) dash.symm other u c member rfl
  have noName : 'u' ∉ u.text.toList := absent 'u' (by decide) (by decide)
  have noBraces : Text.dropEnds (fun c => c == '\x7b' || c == '\x7d') u.text.toList = u.text.toList :=
    Text.dropEnds_eq_self (forall_mem_text (by decide) (by decide) u)
  have length : u.hex.length = 32 := length_paddedDigits 16 32 u.bits
  have notNegative : ¬ ((u.bits.val : Int) < 0) := by omega
  have number : ofNat? u.bits.val = some u := dif_pos u.bits.isLt
  unfold ofText?
  rw [@erase_eq_self "urn:" 'u' _ _ noName rfl, @erase_eq_self "uuid:" 'u' _ _ noName rfl]
  simp only [noBraces, filter_text, length, readHexNumber?_hex]
  simpa [notNegative] using number

theorem text_injective : Function.Injective text := by
  intro u v same
  have read := ofText?_text u
  rw [same, ofText?_text v] at read
  exact (Option.some.inj read).symm

theorem length_text (u : Uuid) : u.text.toList.length = 36 := by
  have length : u.hex.length = 32 := length_paddedDigits 16 32 u.bits
  simp [text, group, length]

theorem strip_text (u : Uuid) : Text.strip u.text = u.text :=
  Text.strip_eq_self (forall_mem_text (by decide) (by decide) u)

theorem text_ne_empty (u : Uuid) : u.text ≠ "" := by
  intro empty
  have dropped := filter_text u
  have length : u.hex.length = 32 := length_paddedDigits 16 32 u.bits
  rw [empty] at dropped
  rw [← dropped] at length
  cases length

/-! ## Short texts -/

theorem length_erase_le (word : String) (cs : List Char) : (erase word cs).length ≤ cs.length := by
  have tried (fuel : Nat) : (eraseText word.toList fuel cs).length ≤ cs.length := by
    induction fuel generalizing cs with
    | zero => exact Nat.le_refl _
    | succ fuel ih =>
      cases cs with
      | nil => exact Nat.le_refl _
      | cons c cs =>
        rw [eraseText]
        split
        · exact Nat.le_trans (ih _) (by simp)
        · exact Nat.succ_le_succ (ih cs)
  exact tried cs.length

/-- No identifier is read from a text of fewer than 32 characters. -/
theorem ofText?_eq_none_of_short {s : String} (short : s.toList.length < 32) : ofText? s = none := by
  have fewer : ((Text.dropEnds (fun c => c == '\x7b' || c == '\x7d')
      (erase "uuid:" (erase "urn:" s.toList))).filter (· != '-')).length < 32 :=
    calc _ ≤ (Text.dropEnds _ (erase "uuid:" (erase "urn:" s.toList))).length := List.length_filter_le _ _
      _ ≤ (erase "uuid:" (erase "urn:" s.toList)).length := Text.length_dropEnds_le
      _ ≤ (erase "urn:" s.toList).length := length_erase_le _ _
      _ ≤ s.toList.length := length_erase_le _ _
      _ < 32 := short
  unfold ofText?
  exact if_pos (Nat.ne_of_lt fewer)

/-! ## Order -/

/-- Grouping digits does not change how they compare. -/
theorem group_lt_group {ds es : List Char} (length : ds.length = 32) (length' : es.length = 32) :
    group ds < group es ↔ ds < es := by
  have first : (ds.take 8).length = (es.take 8).length := by
    rw [List.length_take, List.length_take, length, length']
  have part (i : Nat) : ((ds.drop i).take 4).length = ((es.drop i).take 4).length := by
    rw [List.length_take, List.length_take, List.length_drop, List.length_drop, length, length']
  have dash (as bs : List Char) : '-' :: as < '-' :: bs ↔ as < bs := by simp
  have joined (cs : List Char) : cs = cs.take 8 ++ ((cs.drop 8).take 4 ++ ((cs.drop 12).take 4 ++
      ((cs.drop 16).take 4 ++ cs.drop 20))) := by
    have step (i n : Nat) : (cs.drop i).take n ++ cs.drop (i + n) = cs.drop i := by
      rw [← List.drop_drop]
      exact List.take_append_drop n _
    rw [step 16 4, step 12 4, step 8 4, List.take_append_drop]
  -- the dashes stand at the same places, so both sides compare part by part
  conv_rhs => rw [joined ds, joined es]
  simp only [group, List.append_assoc, List.cons_append, append_lt_append_iff first, append_lt_append_iff (part 8),
    append_lt_append_iff (part 12), append_lt_append_iff (part 16), dash]

theorem text_lt_text {u v : Uuid} : u.text < v.text ↔ u.bits < v.bits := by
  have digits : u.hex < v.hex ↔ u.bits.val < v.bits.val := 
    paddedDigits_lt_iff (by decide) (by decide) u.bits.isLt v.bits.isLt
  have length (u : Uuid) : u.hex.length = 32 := length_paddedDigits 16 32 u.bits
  rw [String.lt_iff_toList_lt, text, text, String.toList_ofList, String.toList_ofList,
    group_lt_group (length u) (length v), digits, Fin.lt_def]

end Venues.Uuid
