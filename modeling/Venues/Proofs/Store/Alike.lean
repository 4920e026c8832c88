import Venues.Proofs.Predicate.Alike
import Venues.Proofs.Store.Faults
import Venues.Proofs.Store.Reading
import Venues.Proofs.Value.Read

/-! # Readings that the store answers alike

A number keeps its size when it is handed to the store, whatever its kind, and cells are compared by their sizes. So
conditions that are alike select the same rows where the store can be asked for both. It cannot for all of them: a
truth value is no bound of a range, a number of more than 64 bits is handed over as a floating-point number only,
and the first value of a list decides for all of them.
-/

namespace Venues

open Store (Model Formula Cell Comparison Form View Tables)
open Store (compile compareFormula boundFormula bindAll bindTo)

/-- Whether the whole numbers of a list that begins with a floating-point number are floating-point numbers, too, so
that the list can be handed over as a list of those. -/
def Condition.IsExact : Condition → Prop
  | .oneOf (.float _ :: vs) => ∀ n, .int n ∈ vs → IsExactReal n
  | _ => True

section Values

variable {kind : FieldKind} {v w : Value}

theorem Magnitude.ofInt_ne_undefined (n : Int) : ofInt n ≠ .undefined := nofun

theorem Value.Alike.eq_of_admits (alike : v.Alike w) (admitted : kind.admits w = true) (plain : kind.isNumeric = false) :
    v = w := by
  obtain same | ⟨size, _, number⟩ := alike
  · exact same
  · cases kind <;> cases w <;> simp_all [FieldKind.admits, FieldKind.isNumeric, magnitude?]

theorem Value.eq_of_forall₂_alike {vs ws : List Value} (alike : List.Forall₂ Alike vs ws)
    (admitted : ∀ w ∈ ws, kind.admits w = true) (plain : kind.isNumeric = false) : vs = ws := by
  induction alike with
  | nil => rfl
  | cons first _ ih =>
    obtain ⟨head, others⟩ := List.forall_mem_cons.mp admitted
    rw [first.eq_of_admits head plain, ih others]

theorem Value.Alike.exists_size (alike : v.Alike w) (admitted : kind.admits w = true) (numeric : kind.isNumeric = true) :
    ∃ size, v.magnitude? = some size ∧ w.magnitude? = some size := by
  obtain rfl | sizes := alike
  · cases kind <;> cases v <;> simp_all [FieldKind.admits, FieldKind.isNumeric, magnitude?]
  · exact sizes

theorem Value.exists_sizes {vs ws : List Value} (alike : List.Forall₂ Alike vs ws)
    (admitted : ∀ w ∈ ws, kind.admits w = true) (numeric : kind.isNumeric = true) :
    List.Forall₂ (fun v w => ∃ size, v.magnitude? = some size ∧ w.magnitude? = some size) vs ws := by
  induction alike with
  | nil => exact .nil
  | cons first _ ih =>
    obtain ⟨head, others⟩ := List.forall_mem_cons.mp admitted
    exact .cons (first.exists_size head numeric) (ih others)

/-- The truth value that a number stands for has its size. -/
theorem Value.size_of_truth? {size : Magnitude} {b : Bool} (number : v.magnitude? = some size)
    (truth : v.truth? = some b) : size = .ofInt (if b then 1 else 0) := by
  have same (n : Int) : v.same (.int n) = size.same (.ofInt n) := (lt?_of_magnitude number rfl).2
  have equal {n : Int} (is : size.same (.ofInt n) = true) : size = .ofInt n := by
    simp only [Magnitude.same, Bool.and_eq_true, decide_eq_true_eq] at is
    exact is.2
  have choice : v.truth? = if v.same (.int 0) then some false else if v.same (.int 1) then some true else none := by
    cases v <;> cases number <;> rfl
  rw [choice, same, same] at truth
  split at truth
  · rename_i zero
    cases truth
    exact equal zero
  · split at truth <;> cases truth
    rename_i one
    exact equal one

end Values

namespace Store

/-! ## Cells -/

/-- Whether a cell holds a number of a size, or null for what is not a number. -/
def Cell.StandsFor (a : Cell) (size : Magnitude) : Prop :=
  a = .null ∧ size = .undefined ∨ a.magnitude? = some size ∧ size ≠ .undefined

section Cells

variable {a b c : Cell} {size size' : Magnitude} {v : Value} {kind : FieldKind}

theorem Cell.standsFor_ofInt (n : Int) : (Cell.whole n).StandsFor (.ofInt n) := .inr ⟨rfl, Magnitude.ofInt_ne_undefined n⟩

theorem Cell.standsFor_ofFloat (x : Float) : (Cell.ofFloat x).StandsFor (.ofFloat x) := by
  have undefined := @Magnitude.ofFloat_eq_undefined_iff x
  unfold ofFloat
  split
  · rename_i number
    exact .inl ⟨rfl, undefined.mpr number⟩
  · rename_i number
    exact .inr ⟨rfl, mt undefined.mp number⟩

/-- Cells that hold numbers compare as their sizes do. -/
theorem Cell.order_of_magnitude (left : c.magnitude? = some size') (right : a.magnitude? = some size) :
    c.order a = if size'.lt size then .lt else if size.lt size' then .gt else .eq := by
  cases c <;> cases left <;> cases a <;> cases right
  case whole.refl.whole.refl m n =>
    rw [Magnitude.lt_ofInt, Magnitude.lt_ofInt]
    obtain ⟨_, below, above⟩ := Magnitude.compare_key m n
    rw [below, above, order]
    cases compare m n <;> rfl
  all_goals rfl

theorem Cell.order_congr (left : a.magnitude? = some size) (right : b.magnitude? = some size) :
    c.order a = c.order b := by
  cases number : c.magnitude? with
  | some size' => rw [order_of_magnitude number left, order_of_magnitude number right]
  | none => cases c <;> cases number <;> cases a <;> cases left <;> cases b <;> first | cases right | rfl

/-- What is compared with a number is compared with its size. -/
theorem Cell.StandsFor.answer_eq (left : a.StandsFor size) (right : b.StandsFor size) (how : Comparison) (c : Cell) :
    how.answer c a = how.answer c b := by
  have present {d : Cell} (number : d.magnitude? = some size) : d.isNull = false := by
    cases d <;> first | rfl | cases number
  rcases left with ⟨rfl, undefined⟩ | ⟨number, defined⟩ <;> rcases right with ⟨rfl, undefined'⟩ | ⟨number', defined'⟩
  · rfl
  · exact absurd undefined defined'
  · exact absurd undefined' defined
  · simp only [Comparison.answer, present number, present number', order_congr number number']

theorem Cell.isOneOf_congr {as bs : List Cell}
    (alike : List.Forall₂ (fun a b => ∃ size, a.StandsFor size ∧ b.StandsFor size) as bs) :
    c.isOneOf as = c.isOneOf bs := by
  induction alike with
  | nil => rfl
  | cons first _ ih =>
    obtain ⟨size, left, right⟩ := first
    rw [isOneOf, isOneOf, left.answer_eq right, ih]

/-! ## Handing over -/

/-- A number that is handed over in some form keeps its size, but for whole numbers that are handed over as
floating-point numbers and are none. -/
theorem Cell.standsFor_of_bind {form : Form} (number : v.magnitude? = some size)
    (exact : form = .real → ∀ n, v = .int n → IsExactReal n)
    (handed : form.bind v = .ok a) : a.StandsFor size := by
  cases form with
  | identifier | moment => cases v <;> cases number <;> cases handed
  | plain =>
    cases v <;> cases number
    · cases handed
      exact standsFor_ofInt _
    · simp only [Form.bind] at handed
      split at handed <;> cases handed
      exact standsFor_ofInt _
    · cases handed
      exact standsFor_ofFloat _
  | truth =>
    -- only what equals 0 or 1 has this form
    have found : ∃ b : Bool, v.truth? = some b ∧ a = .whole (if b then 1 else 0) := by
      cases v <;> cases number <;> simp only [Form.bind] at handed <;> split at handed <;> cases handed <;>
        exact ⟨_, ‹_›, rfl⟩
    obtain ⟨b, truth, rfl⟩ := found
    rw [Value.size_of_truth? number truth]
    exact standsFor_ofInt _
  | real =>
    cases v <;> cases number
    · rename_i b
      cases handed
      cases b <;> exact .inr ⟨by decide +kernel, Magnitude.ofInt_ne_undefined _⟩
    · obtain ⟨x, read, whole⟩ := exact rfl _ rfl
      simp only [Form.bind, Value.real?, read] at handed
      cases handed
      exact whole ▸ standsFor_ofFloat x
    · cases handed
      exact standsFor_ofFloat _

theorem Cell.adapted_of_standsFor (numeric : kind.isNumeric = true) (stands : a.StandsFor size) : a.adapted kind = a := by
  rcases stands with ⟨rfl, _⟩ | ⟨number, _⟩
  · cases kind <;> rfl
  · cases kind <;> cases a <;> simp_all [FieldKind.isNumeric, magnitude?, adapted]

theorem Form.ne_real_of_int (n : Int) : Form.of kind (.int n) ≠ .real := nofun

theorem standsFor_of_bindTo (numeric : kind.isNumeric = true) (number : v.magnitude? = some size)
    (handed : bindTo kind v = .ok a) : a.StandsFor size := by
  obtain ⟨cell, bound, rfl⟩ := map_eq_ok.mp handed
  have stands := Cell.standsFor_of_bind number (fun real n is => absurd real (is ▸ Form.ne_real_of_int n)) bound
  rwa [Cell.adapted_of_standsFor numeric stands]

/-- Values without a null among them are handed over in the form of the first. -/
theorem forall₂_of_bindAll {vs : List Value} {cells : List Cell} (present : vs.any Value.isNull = false)
    (handed : bindAll kind vs = .ok cells) :
    List.Forall₂ (fun v a => ((Form.of kind (vs.headD .null)).bind v).map (Cell.adapted kind) = .ok a) vs cells := by
  unfold bindAll at handed
  simp only [present, Bool.false_eq_true, if_false] at handed
  split at handed
  · cases handed
  · rw [List.mapM_map] at handed
    exact forall₂_of_mapM handed

/-- The numbers of a list keep their sizes when they are handed over together. -/
theorem standsFor_of_bindAll {vs : List Value} {cells : List Cell} (numeric : kind.isNumeric = true)
    (exact : (Condition.oneOf vs).IsExact) (numbers : ∀ v ∈ vs, v.magnitude?.isSome = true)
    (handed : bindAll kind vs = .ok cells) :
    List.Forall₂ (fun v a => ∀ size, v.magnitude? = some size → a.StandsFor size) vs cells := by
  have present : vs.any Value.isNull = false := by
    refine List.any_eq_false.mpr fun v member null => ?_
    have number := numbers v member
    rw [Value.isNull_eq_true null] at number
    cases number
  have each := forall₂_of_bindAll present handed
  -- only a floating-point number in front gives a whole number another form
  have form : Form.of kind (vs.headD .null) = .real → ∀ n, .int n ∈ vs → IsExactReal n := by
    cases vs with
    | nil => simp
    | cons head rest =>
      have number := numbers head List.mem_cons_self
      intro real n member
      -- no other number has this form
      obtain ⟨x, rfl⟩ : ∃ x, head = .float x := by cases head <;> first | exact ⟨_, rfl⟩ | cases real | cases number
      rcases List.mem_cons.mp member with same | member
      · cases same
      · exact exact n member
  refine ((List.forall₂_and_left _ _).mpr ⟨fun v member => member, each⟩).imp fun v a ⟨member, handed⟩ size number => ?_
  obtain ⟨cell, bound, rfl⟩ := map_eq_ok.mp handed
  have stands := Cell.standsFor_of_bind number (fun real n is => form real n (is ▸ member)) bound
  rwa [Cell.adapted_of_standsFor numeric stands]

end Cells

/-! ## Formulas -/

/-- Whether two formulas have the same answers, as far as the store can carry out both. -/
def Formula.Alike {ρ : Type} (view : View ρ) (f f' : Formula) : Prop :=
  f.faults = [] → f'.faults = [] → ∀ row, f.eval view row = f'.eval view row

namespace Formula

variable {ρ α : Type} {view : View ρ} {row : ρ} {f f' : Formula} {fs fs' : List Formula}

theorem Alike.refl (f : Formula) : f.Alike view f := fun _ _ _ => rfl

theorem Alike.symm (alike : f.Alike view f') : f'.Alike view f := fun clean clean' row => (alike clean' clean row).symm

theorem alike_with {x y : Outcome α} {g : α → Formula}
    (same : ∀ a b, x = .ok a → y = .ok b → ∀ row, (g a).eval view row = (g b).eval view row) :
    (Formula.with x g).Alike view (.with y g) := by
  intro clean clean' row
  cases x with
  | error fault => cases clean
  | ok a =>
    cases y with
    | error fault => cases clean'
    | ok b => exact same a b rfl rfl row

theorem evalAll_congr (alike : List.Forall₂ (Alike view) fs fs') (clean : ∀ f ∈ fs, f.faults = [])
    (clean' : ∀ f ∈ fs', f.faults = []) : evalAll view fs row = evalAll view fs' row := by
  induction alike with
  | nil => rfl
  | cons first _ ih =>
    obtain ⟨head, clean⟩ := List.forall_mem_cons.mp clean
    obtain ⟨head', clean'⟩ := List.forall_mem_cons.mp clean'
    rw [evalAll, evalAll, first head head' row, ih clean clean']

/-- What is alike to a part that is true of no row is true of no row. -/
theorem evalAll_eq_false (alike : List.Forall₂ (Alike view) fs fs') (stops : fs.any isFalse = true)
    (clean' : ∀ f ∈ fs', f.faults = []) : evalAll view fs' row = some false := by
  induction alike with
  | nil => cases stops
  | @cons f f' _ _ first _ ih =>
    obtain ⟨head', clean'⟩ := List.forall_mem_cons.mp clean'
    rw [List.any_cons, Bool.or_eq_true] at stops
    rcases stops with stops | stops
    · obtain rfl := eq_of_isFalse stops
      rw [evalAll, ← first rfl head' row]
      exact Answer.false_both _
    · rw [evalAll, ih stops clean', Answer.both_false]

/-- Of a conjunction without faults all parts are tried, if none is true of no row. -/
theorem any_isFalse_or_clean (clean : (conjunction fs).faults = []) :
    fs.any isFalse = true ∨ ∀ f ∈ fs, f.faults = [] := by
  cases stops : fs.any isFalse with
  | true => exact .inl rfl
  | false =>
    have tried : ∀ f ∈ fs, f.isFalse = false := fun f part => by simpa using List.any_eq_false.mp stops f part
    exact .inr ((faults_conjunction_eq_nil_iff tried).mp clean)

theorem alike_conjunction (alike : List.Forall₂ (Alike view) fs fs') :
    (conjunction fs).Alike view (conjunction fs') := by
  intro clean clean' row
  rw [eval_conjunction, eval_conjunction]
  have turned : List.Forall₂ (Alike view) fs' fs := (alike.imp fun _ _ => Alike.symm).flip
  rcases any_isFalse_or_clean clean with stops | clean <;> rcases any_isFalse_or_clean clean' with stops' | clean'
  · rw [evalAll_of_isFalse view fs row stops, evalAll_of_isFalse view fs' row stops']
  · rw [evalAll_of_isFalse view fs row stops, evalAll_eq_false alike stops clean']
  · rw [evalAll_of_isFalse view fs' row stops', evalAll_eq_false turned stops' clean]
  · exact evalAll_congr alike clean clean'

theorem alike_all (alike : List.Forall₂ (Alike view) fs fs') : (all fs).Alike view (all fs') := fun clean clean' _ =>
  evalAll_congr alike (partFaults_eq_nil_iff.mp clean) (partFaults_eq_nil_iff.mp clean')

theorem alike_related (relation : String) (alike : f.Alike view f') :
    (related relation f).Alike view (related relation f') := by
  intro clean clean' row
  simp only [eval, alike clean clean']

end Formula

/-! ## Formulas of conditions -/

section Conditions

variable {ρ : Type} {view : View ρ} {m : Model} {kind : FieldKind} {column : String} {how : Comparison} {v w : Value}
  {f f' : Formula} {fs fs' : List Formula} {c c' : Condition}

theorem compareFormula_of_number {size : Magnitude} (number : v.magnitude? = some size)
    (made : compareFormula column kind how v = .ok f) : f = .with (bindTo kind v) (.compare column how) := by
  cases v <;> cases number <;> cases how <;> cases made <;> rfl

theorem alike_compareFormula (alike : v.Alike w) (admitted : kind.admits w = true)
    (made : compareFormula column kind how v = .ok f) (made' : compareFormula column kind how w = .ok f') :
    f.Alike view f' := by
  cases numeric : kind.isNumeric with
  | false =>
    obtain rfl := alike.eq_of_admits admitted numeric
    cases made.symm.trans made'
    exact .refl f
  | true =>
    obtain ⟨size, number, number'⟩ := alike.exists_size admitted numeric
    obtain rfl := compareFormula_of_number number made
    obtain rfl := compareFormula_of_number number' made'
    refine Formula.alike_with fun a b handed handed' row => ?_
    exact (standsFor_of_bindTo numeric number handed).answer_eq (standsFor_of_bindTo numeric number' handed') how _

theorem alike_boundFormula (alike : v.Alike w) (typed : w.isNull = true ∨ kind.admits w = true)
    (made : boundFormula column kind how v = .ok fs) (made' : boundFormula column kind how w = .ok fs') :
    List.Forall₂ (Formula.Alike view) fs fs' := by
  unfold boundFormula at made made'
  rw [alike.isNull] at made
  split at made
  · rename_i null
    rw [if_pos null] at made'
    cases made
    cases made'
    exact .nil
  · rename_i given
    rw [if_neg given] at made'
    obtain ⟨f, compared, rfl⟩ := map_eq_ok.mp made
    obtain ⟨f', compared', rfl⟩ := map_eq_ok.mp made'
    exact .cons (alike_compareFormula alike (typed.resolve_left given) compared compared') .nil

/-- A list of a kind can be handed over as a list of what its first value is. -/
theorem isExact_of_admits {ws : List Value} (admitted : ∀ w ∈ ws, kind.admits w = true) : (Condition.oneOf ws).IsExact := by
  cases ws with
  | nil => trivial
  | cons w ws =>
    obtain ⟨head, others⟩ := List.forall_mem_cons.mp admitted
    cases w with
    | float x =>
      intro n member
      have among := others _ member
      cases kind <;> cases head
      cases among
    | _ => trivial

theorem alike_isIn {vs ws : List Value} (alike : List.Forall₂ Value.Alike vs ws)
    (admitted : ∀ w ∈ ws, kind.admits w = true) (exact : (Condition.oneOf vs).IsExact) :
    (Formula.with (bindAll kind vs) (.isIn column)).Alike view (.with (bindAll kind ws) (.isIn column)) := by
  cases numeric : kind.isNumeric with
  | false =>
    obtain rfl := Value.eq_of_forall₂_alike alike admitted numeric
    exact .refl _
  | true =>
    -- numbers may be written differently on both sides, but they have the same sizes
    have sizes := Value.exists_sizes alike admitted numeric
    have numbers : ∀ v ∈ vs, v.magnitude?.isSome = true := by
      intro v member
      obtain ⟨w, _, size, number, _⟩ := exists_of_forall₂ sizes.flip v member
      exact Option.isSome_of_eq_some number
    have numbers' : ∀ w ∈ ws, w.magnitude?.isSome = true := by
      intro w member
      obtain ⟨v, _, size, _, number⟩ := exists_of_forall₂ sizes w member
      exact Option.isSome_of_eq_some number
    refine Formula.alike_with fun cells cells' handed handed' row => Cell.isOneOf_congr ?_
    exact forall₂_across sizes (standsFor_of_bindAll numeric exact numbers handed)
      (standsFor_of_bindAll numeric (isExact_of_admits admitted) numbers' handed')
      fun _ _ _ _ ⟨size, number, number'⟩ stands stands' => ⟨size, stands size number, stands' size number'⟩

/-- Whether two predicates compile to formulas that are alike, if they compile. -/
def CompileAlike (view : View ρ) (m : Model) (p p' : Predicate) : Prop :=
  ∀ f f', compile m p = .ok f → compile m p' = .ok f' → f.Alike view f'

theorem isCongruence_compileAlike : Predicate.IsCongruence (CompileAlike view) where
  refl m p f f' made made' := by
    cases made.symm.trans made'
    exact .refl f
  all {m ps ps'} alike f f' made made' := by
    rw [compile_all] at made made'
    obtain ⟨fs, parts, rfl⟩ := map_eq_ok.mp made
    obtain ⟨fs', parts', rfl⟩ := map_eq_ok.mp made'
    exact Formula.alike_conjunction (forall₂_across alike (forall₂_of_mapM parts) (forall₂_of_mapM parts')
      fun p p' f f' same made made' => same f f' made made')
  related {m target relation p p'} leads alike f f' made made' := by
    rw [compile_related leads] at made made'
    obtain ⟨inner, compiled, rfl⟩ := map_eq_ok.mp made
    obtain ⟨inner', compiled', rfl⟩ := map_eq_ok.mp made'
    exact Formula.alike_related relation (alike inner inner' compiled compiled')

/-- Conditions that are alike become tests that are alike, where the values of one are of the kind of the column. -/
theorem compileAlike_ofCondition (known : m.column? column = some kind) (alike : c.Alike id c') (typed : c'.IsOf kind)
    (exact : c.IsExact) : CompileAlike view m (.ofCondition column c) (.ofCondition column c') := by
  have kindOf : m.kindOf column = .ok kind := by rw [Model.kindOf, known]
  intro f f' made made'
  cases alike with
  | equals alike =>
    simp only [Predicate.ofCondition, compile, kindOf, ok_bind] at made made'
    exact alike_compareFormula alike typed made made'
  | range low high =>
    simp only [Predicate.ofCondition, compile, kindOf, ok_bind] at made made'
    obtain ⟨lows, least, made⟩ := bind_eq_ok.mp made
    obtain ⟨highs, most, made⟩ := bind_eq_ok.mp made
    obtain ⟨lows', least', made'⟩ := bind_eq_ok.mp made'
    obtain ⟨highs', most', made'⟩ := bind_eq_ok.mp made'
    cases made
    cases made'
    have bounds : List.Forall₂ (Formula.Alike view) (lows ++ highs) (lows' ++ highs') :=
      List.rel_append (alike_boundFormula low typed.1 least least') (alike_boundFormula high typed.2 most most')
    -- a range without ends and one with them differ in form, so the tests are taken apart as a list
    generalize lows ++ highs = fs at bounds
    generalize lows' ++ highs' = fs' at bounds
    cases bounds with
    | nil => exact .refl _
    | cons first others => exact Formula.alike_all (.cons first others)
  | oneOf alike =>
    simp only [Predicate.ofCondition, compile, kindOf, ok_bind] at made made'
    split at made
    · cases made
    · split at made'
      · cases made'
      · cases made
        cases made'
        exact alike_isIn alike typed exact
  | contains needle =>
    cases made.symm.trans made'
    exact .refl f

end Conditions

/-! ## Readings -/

namespace Tables

variable {t : Tables} {m : Model} {q : Reading} {p p' : Predicate} {found found' : List Row}

theorem answers_congr {order : RowOrder} {f f' : Formula} (alike : f.Alike t.view f') (clean : f.faults = [])
    (clean' : f'.faults = []) : t.answers m order f = t.answers m order f' := by
  have same : t.selected m f = t.selected m f' :=
    List.filter_congr fun row _ => by rw [Formula.selects, Formula.selects, alike clean clean' row]
  rw [answers, answers, same]

/-- Formulas that are alike, one by one, select the same rows, where the store fetches rows for both. -/
theorem fetch_congr {parts parts' : List Formula} (alike : List.Forall₂ (Formula.Alike t.view) parts parts')
    (fetched : t.fetch m q parts = .ok found) (fetched' : t.fetch m q parts' = .ok found') : found = found' := by
  obtain ⟨more, behind, clean, rfl⟩ := fetch_cases fetched
  obtain ⟨more', behind', clean', rfl⟩ := fetch_cases fetched'
  -- both start behind the same row, if behind any
  have same : more = more' := by
    cases after : q.after with
    | none =>
      rw [after] at behind behind'
      rw [behind, behind']
    | some keys =>
      rw [after] at behind behind'
      obtain ⟨f, made, rfl⟩ := behind
      obtain ⟨f', made', rfl⟩ := behind'
      cases made.symm.trans made'
      rfl
  subst same
  rw [answers_congr (Formula.alike_conjunction (List.rel_append alike (List.forall₂_same.mpr fun f _ => .refl f))) clean
    clean']

/-- Predicates that compile to formulas that are alike are answered with the same rows, where the store answers both. -/
theorem findMany_congr (alike : CompileAlike t.view m p p')
    (answered : t.findMany m { q with filter := some p } = .ok found)
    (answered' : t.findMany m { q with filter := some p' } = .ok found') : found = found' := by
  obtain ⟨f, compiled, answered⟩ := bind_eq_ok.mp (guarded_eq_ok answered)
  obtain ⟨f', compiled', answered'⟩ := bind_eq_ok.mp (guarded_eq_ok answered')
  have same := alike f f' compiled compiled'
  dsimp only at answered answered'
  -- both readings start at the same row, with the same keyset behind the formula of the predicate
  cases anchor : q.anchor with
  | none =>
    rw [anchor] at answered answered'
    exact fetch_congr (q := q) (.cons same .nil) answered answered'
  | some id =>
    rw [anchor] at answered answered'
    obtain ⟨row?, named, answered⟩ := bind_eq_ok.mp answered
    obtain ⟨row?', named', answered'⟩ := bind_eq_ok.mp answered'
    cases named.symm.trans named'
    cases row? with
    | none =>
      cases answered
      cases answered'
      rfl
    | some row =>
      obtain ⟨keys, keyed, answered⟩ := bind_eq_ok.mp answered
      obtain ⟨keys', keyed', answered'⟩ := bind_eq_ok.mp answered'
      cases keyed.symm.trans keyed'
      obtain ⟨g, made, answered⟩ := bind_eq_ok.mp answered
      obtain ⟨g', made', answered'⟩ := bind_eq_ok.mp answered'
      cases made.symm.trans made'
      exact fetch_congr (q := q) (.cons same (.cons (.refl g) .nil)) answered answered'

end Tables
end Store
end Venues
