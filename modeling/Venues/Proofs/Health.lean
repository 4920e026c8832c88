import Venues.Client.Connection
import Venues.Health
import Venues.Proofs.Backends

/-! # Health reports

A health report is drawn up from the replies to at most three calls. An error of the client in one of them is
told in the report; the report fails where something else goes wrong: with the connection, in place of a reply,
or as a reply has not got the form that is read.
-/

namespace Venues.Health

open Index (exists?)
open Index.Gateway (replyPath)

variable {σ : Type} {client : Client σ} {t : σ} {index : String} {replies : List (Call × Reply)}

/-! ## What is told by replies -/

/-- Where the number of documents stands in the reply on the size of an index. -/
def countPath : List String := ["_all", "primaries", "docs", "count"]

/-- The faults that a reply leads to when it is read. -/
inductive Raises : Call × Reply → Fault → Prop
  | reply {call : Call} {fault : Fault} : ¬fault.IsOfClient → Raises (call, .error fault) fault
  | health {index? : Option String} {v : Value} : (∀ fs, v ≠ .object fs) →
      Raises (.health index?, .ok v) .missingAttribute
  | stats {index : String} {v : Value} {fault : Fault} : replyPath v countPath = .error fault →
      Raises (.indexStats index, .ok v) fault

/-- The status in the first reply. -/
def statusOf : List (Call × Reply) → Value
  | (_, .ok (.object fs)) :: _ => Fields.get fs "status"
  | _ => .null

/-- The number of documents in the third reply. -/
def documentsOf : List (Call × Reply) → Value
  | [_, _, (_, .ok sizes)] => (replyPath sizes countPath).toOption.getD .null
  | _ => .null

/-- What replies tell of an index. If one of them is an error, the index is not reachable. -/
def findingsOf (replies : List (Call × Reply)) : Findings where
  reachable := isReachable (statusOf replies) && replies.all fun r => r.2.isOk
  status := statusOf replies
  documents := documentsOf replies

/-! ## Inspections -/

theorem isOfClient_iff {fault : Fault} : fault.isOfClient = true ↔ fault.IsOfClient := by
  constructor
  · intro known
    cases fault with
    | client e => exact ⟨e, rfl, known⟩
    | _ => cases known
  · rintro ⟨e, rfl, known⟩
    exact known

/-- What comes of an outcome where an error of the client means that some findings are all there are. -/
def recovered (f : Findings) : Outcome Findings → Outcome Findings
  | .ok found => .ok found
  | .error fault => if fault.isOfClient then .ok f else .error fault

/-- The ways in which documents are counted, by the replies. -/
inductive Count (index : String) : List (Call × Reply) → Outcome Value → Prop
  | unknown {fault : Fault} : Count index [(.indexExists index, .error fault)] (.error fault)
  | absent {v : Value} : v.truthy = false → Count index [(.indexExists index, .ok v)] (.ok .null)
  | unmeasured {v : Value} {fault : Fault} : v.truthy = true →
      Count index [(.indexExists index, .ok v), (.indexStats index, .error fault)] (.error fault)
  | measured {v sizes : Value} : v.truthy = true →
      Count index [(.indexExists index, .ok v), (.indexStats index, .ok sizes)] (replyPath sizes countPath)

/-- The ways in which an index is inspected, by the replies. -/
inductive Inspection (index : String) : List (Call × Reply) → Outcome Findings → Prop
  | unanswered {fault : Fault} : Inspection index [(.health none, .error fault)] (recovered {} (.error fault))
  | unreadable {v : Value} : (∀ fs, v ≠ .object fs) →
      Inspection index [(.health none, .ok v)] (.error .missingAttribute)
  | counted {fs : Fields} {counting : List (Call × Reply)} {documents : Outcome Value} :
      Count index counting documents →
      Inspection index ((.health none, .ok (.object fs)) :: counting)
        (recovered { status := Fields.get fs "status" } (documents.map fun n =>
          ⟨isReachable (Fields.get fs "status"), Fields.get fs "status", n⟩))

theorem recovered_recovered {f g : Findings} {outcome : Outcome Findings} :
    recovered f (recovered g outcome) = recovered g outcome := by
  cases outcome with
  | ok found => rfl
  | error fault =>
    rw [recovered]
    cases known : fault.isOfClient with
    | true => rfl
    | false => exact if_neg (by simp [known])

section Recovering

variable {x : Exchange Findings} {f : Findings}

theorem orElse_pure : orElse x (pure f) = x.andThen fun outcome => .done (recovered f outcome) := by
  refine congrArg (x.andThen ·) (funext fun outcome => ?_)
  cases outcome with
  | ok found => rfl
  | error fault =>
    show (if fault.isOfClient then pure f else Exchange.stop fault) =
      .done (if fault.isOfClient then .ok f else .error fault)
    cases fault.isOfClient <;> rfl

/-- Findings that are at hand take the place of an error of the client. -/
theorem run_orElse_pure : ((orElse x (pure f)).run client t).1 = recovered f (x.run client t).1 := by
  rw [orElse_pure, Exchange.run_andThen]
  rfl

theorem replies_orElse_pure : (orElse x (pure f)).replies client t = x.replies client t := by
  rw [orElse_pure, Exchange.replies_andThen_done]

end Recovering

/-- The size of an index, of which its number of documents is read. -/
def measure (index : String) : Exchange Value :=
  .ask (.indexStats index) fun reply => do
    let sizes ← Exchange.ofOutcome reply
    replyPath sizes countPath

theorem countDocuments_eq : countDocuments index = .ask (.indexExists index) fun reply => do
    let there ← (do return (← Exchange.ofOutcome reply).truthy)
    if there then measure index else return .null := rfl

theorem count_countDocuments : Count index ((countDocuments index).replies client t) ((countDocuments index).run client t).1 := by
  rw [countDocuments_eq]
  rcases exist : client.answer (.indexExists index) t with ⟨fault | v, t⟩
  · rw [Exchange.replies_ask exist, Exchange.run_ask exist]
    exact .unknown
  · rw [Exchange.replies_ask exist, Exchange.run_ask exist]
    show Count index (_ :: (if v.truthy then measure index else pure .null : Exchange Value).replies client t)
      ((if v.truthy then measure index else pure .null : Exchange Value).run client t).1
    cases there : v.truthy with
    | false => exact .absent there
    | true =>
      rcases sized : client.answer (.indexStats index) t with ⟨fault | sizes, t⟩
      · rw [if_pos rfl, measure, Exchange.replies_ask sized, Exchange.run_ask sized]
        exact .unmeasured there
      · rw [if_pos rfl, measure, Exchange.replies_ask sized, Exchange.run_ask sized]
        exact .measured there

/-- What is found of an index whose status is known, once its documents are counted. -/
def examine (index : String) (status : Value) : Exchange Findings := do
  let documents ← countDocuments index
  return { reachable := isReachable status, status := status, documents := documents }

theorem examine_eq {status : Value} : examine index status = (countDocuments index).andThen fun documents =>
    .done (documents.map (⟨isReachable status, status, ·⟩)) := by
  refine congrArg ((countDocuments index).andThen ·) (funext fun documents => ?_)
  cases documents <;> rfl

theorem inspect_eq : inspect index = .ask (.health none) fun reply => orElse
    (do
      let status := (← Index.replyFields (← Exchange.ofOutcome reply)).get "status"
      orElse (examine index status) (pure { status := status }))
    (pure {}) := rfl

theorem inspection_inspect :
    Inspection index ((inspect index).replies client t) ((inspect index).run client t).1 := by
  rw [inspect_eq]
  rcases answered : client.answer (.health none) t with ⟨fault | v, t⟩
  · rw [Exchange.replies_ask answered, Exchange.run_ask answered, replies_orElse_pure, run_orElse_pure]
    exact .unanswered
  · rw [Exchange.replies_ask answered, Exchange.run_ask answered, replies_orElse_pure, run_orElse_pure]
    cases v with
    | object fs =>
      let status := Fields.get fs "status"
      show Inspection index (_ :: (orElse (examine index status) (pure { status := status })).replies client t)
        (recovered {} ((orElse (examine index status) (pure { status := status })).run client t).1)
      rw [replies_orElse_pure, run_orElse_pure, recovered_recovered, examine_eq, Exchange.replies_andThen_done,
        Exchange.run_andThen]
      exact .counted count_countDocuments
    | _ => exact .unreadable (fun _ => nofun)

/-! ## Faults of replies -/

section Faults

variable {call : Call} {v : Value} {fault fault' : Fault}

theorem not_isOfClient_of_replyField {name : String} (failed : Index.replyField v name = .error fault) :
    ¬fault.IsOfClient := by
  rintro ⟨e, rfl, -⟩
  cases v with
  | object fs =>
    rw [Index.replyField] at failed
    cases field : Fields.get? fs name <;> rw [field] at failed <;> cases failed
  | _ => cases failed

/-- A form that a reply has not got is no error of the client. -/
theorem not_isOfClient_of_replyPath {path : List String} (failed : replyPath v path = .error fault) :
    ¬fault.IsOfClient := by
  induction path generalizing v with
  | nil => cases failed
  | cons name path ih =>
    rw [replyPath] at failed
    cases field : Index.replyField v name with
    | error _ =>
      rw [field] at failed
      cases failed
      exact not_isOfClient_of_replyField field
    | ok v =>
      rw [field] at failed
      exact ih failed

@[simp] theorem raises_error : Raises (call, .error fault') fault ↔ fault' = fault ∧ ¬fault.IsOfClient := by
  constructor
  · intro raised
    cases raised with
    | reply other => exact ⟨rfl, other⟩
  · rintro ⟨rfl, other⟩
    exact .reply other

@[simp] theorem not_raises_indexExists : ¬Raises (.indexExists index, .ok v) fault := nofun

@[simp] theorem not_raises_health_object {index? : Option String} {fs : Fields} :
    ¬Raises (.health index?, .ok (.object fs)) fault := by
  intro raised
  cases raised with
  | health noObject => exact noObject fs rfl

@[simp] theorem raises_indexStats :
    Raises (.indexStats index, .ok v) fault ↔ replyPath v countPath = .error fault ∧ ¬fault.IsOfClient := by
  constructor
  · intro raised
    cases raised with
    | stats failed => exact ⟨failed, not_isOfClient_of_replyPath failed⟩
  · rintro ⟨failed, -⟩
    exact .stats failed

theorem caught_eq_error {α : Type} {a : α} {caught : Bool} :
    (if caught then .ok a else .error fault' : Outcome α) = .error fault ↔ fault' = fault ∧ caught = false := by
  cases caught <;> simp

theorem isOfClient_eq_false_iff : fault.isOfClient = false ↔ ¬fault.IsOfClient := by
  rw [← isOfClient_iff, Bool.not_eq_true]

theorem recovered_eq_error {f : Findings} {outcome : Outcome Findings} :
    recovered f outcome = .error fault ↔ outcome = .error fault ∧ ¬fault.IsOfClient := by
  cases outcome with
  | ok found => simp [recovered]
  | error fault' =>
    rw [recovered, caught_eq_error, isOfClient_eq_false_iff, Except.error.injEq]
    exact and_congr_right fun same => by rw [same]

end Faults

/-! ## What an inspection comes to -/

section Inspected

variable {outcome : Outcome Findings} {documents : Outcome Value} {fault : Fault}

theorem Count.raises (counting : Count index replies documents) :
    documents = .error fault ∧ ¬fault.IsOfClient ↔ ∃ r ∈ replies, Raises r fault := by
  cases counting with
  | unknown | absent | unmeasured | measured => simp

/-- An inspection fails exactly in the faults that its replies lead to. -/
theorem Inspection.raises (inspected : Inspection index replies outcome) :
    outcome = .error fault ↔ ∃ r ∈ replies, Raises r fault := by
  cases inspected with
  | unanswered => simp [recovered_eq_error]
  | unreadable noObject =>
    constructor
    · rintro ⟨rfl⟩
      exact ⟨_, List.mem_singleton_self _, .health noObject⟩
    · rintro ⟨r, member, raised⟩
      obtain rfl := List.mem_singleton.mp member
      cases raised
      rfl
  | @counted fs counting documents counts =>
    -- the first reply could be read, so only counting the documents can lead to a fault
    have first : (∃ r ∈ (Call.health none, .ok (.object fs)) :: counting, Raises r fault) ↔
        ∃ r ∈ counting, Raises r fault := by simp
    rw [recovered_eq_error, first, ← counts.raises]
    cases documents with
    | ok n => simp [Except.map]
    | error fault => simp [Except.map]

theorem recovered_error_eq_ok {f found : Findings} (ended : recovered f (.error fault) = .ok found) : found = f := by
  rw [recovered] at ended
  split at ended
  · cases ended
    rfl
  · cases ended

/-- An inspection that does not fail finds what its replies tell. -/
theorem Inspection.eq_findingsOf {found : Findings} (inspected : Inspection index replies outcome)
    (ended : outcome = .ok found) : found = findingsOf replies := by
  cases inspected with
  | unanswered =>
    obtain rfl := recovered_error_eq_ok ended
    rfl
  | unreadable => cases ended
  | counted counts =>
    cases counts with
    | unknown | unmeasured =>
      -- an error among the replies leaves the status, which alone does not make the index reachable
      obtain rfl := recovered_error_eq_ok ended
      simp [findingsOf, statusOf, documentsOf, Except.isOk, Except.toBool]
    | absent =>
      cases ended
      simp [findingsOf, statusOf, documentsOf, Except.isOk, Except.toBool]
    | @measured _ sizes =>
      cases counted : replyPath sizes countPath with
      | error fault =>
        rw [counted] at ended
        exact nomatch (recovered_eq_error.mpr ⟨rfl, not_isOfClient_of_replyPath counted⟩).symm.trans ended
      | ok n =>
        rw [counted] at ended
        cases ended
        simp [findingsOf, statusOf, documentsOf, counted, Except.isOk, Except.toBool, Except.toOption]

theorem Inspection.calls (inspected : Inspection index replies outcome) :
    replies.map Prod.fst <+: [.health none, .indexExists index, .indexStats index] := by
  cases inspected with
  | unanswered | unreadable => exact ⟨_, rfl⟩
  | counted counting => cases counting <;> exact ⟨_, rfl⟩

end Inspected

/-! ## Connections -/

/-- The faults in which an attempt to connect ends: the options cannot be had, the client cannot be made for
another reason than its values, or the question whether the index answers fails otherwise than by an error of the
client. -/
inductive Breaks (s : Settings) (attempt : Attempt) : Fault → Prop
  | options {fault : Fault} : ConnectionOptions.ofSettings s = .error fault → Connection.isUseless fault = false →
      Breaks s attempt fault
  | construct {options : ConnectionOptions} {fault : Fault} : ConnectionOptions.ofSettings s = .ok options →
      attempt.construct = .error fault → Connection.isUseless fault = false → Breaks s attempt fault
  | ping {options : ConnectionOptions} {fault : Fault} : ConnectionOptions.ofSettings s = .ok options →
      attempt.construct = .ok () → attempt.ping = .error fault → ¬fault.IsOfClient → Breaks s attempt fault

section Connecting

variable {s : Settings} {attempt : Attempt} {fresh : σ} {c : Connection σ} {fault : Fault}

/-- A fresh client is a fault where the attempt to make it and to have it answered breaks off. -/
theorem connectFresh_eq_error : (c.connectFresh s attempt fresh).1 = .error fault ↔ Breaks s attempt fault := by
  rw [Connection.connectFresh, Connection.make]
  -- the three faults stand behind each other: each needs what comes before it to have gone well
  cases options : ConnectionOptions.ofSettings s with
  | error f =>
    refine caught_eq_error.trans ⟨?_, ?_⟩
    · rintro ⟨rfl, useful⟩
      exact .options options useful
    · intro breaks
      cases breaks with
      | options options' useful =>
        cases options.symm.trans options'
        exact ⟨rfl, useful⟩
      | construct options' | ping options' => cases options.symm.trans options'
  | ok o =>
    cases construct : attempt.construct with
    | error f =>
      refine caught_eq_error.trans ⟨?_, ?_⟩
      · rintro ⟨rfl, useful⟩
        exact .construct options construct useful
      · intro breaks
        cases breaks with
        | options options' => cases options.symm.trans options'
        | construct _ construct' useful =>
          cases construct.symm.trans construct'
          exact ⟨rfl, useful⟩
        | ping _ construct' => cases construct.symm.trans construct'
    | ok u =>
      have pings : Breaks s attempt fault ↔ attempt.ping = .error fault ∧ ¬fault.IsOfClient := by
        refine ⟨fun breaks => ?_, fun ⟨ping, other⟩ => .ping options construct ping other⟩
        cases breaks with
        | options options' => cases options.symm.trans options'
        | construct _ construct' => cases construct.symm.trans construct'
        | ping _ _ ping other => exact ⟨ping, other⟩
      rw [pings]
      cases attempt.ping with
      | ok answers => cases answers <;> simp
      | error f =>
        refine caught_eq_error.trans ?_
        rw [isOfClient_eq_false_iff, Except.error.injEq]
        exact and_congr_right fun same => by rw [same]

theorem acquire_eq_error : (c.acquire s attempt fresh).1 = .error fault ↔
    s.indexEnabled = true ∧ c.held = none ∧ Breaks s attempt fault := by
  rw [Connection.acquire]
  cases enabled : s.indexEnabled with
  | false => simp
  | true =>
    cases held : c.held with
    | some client => simp
    | none => simp [connectFresh_eq_error]

end Connecting

/-! ## Reports -/

section Reports

variable {s : Settings} {books : Option Bookkeeping} {enabled : Bool}

/-- What a report comes to, given the replies: it fails in the faults that they lead to, and else tells what they
tell. -/
structure Drawn (s : Settings) (enabled : Bool) (books : Option Bookkeeping) (replies : List (Call × Reply))
    (outcome : Outcome Value) : Prop where
  fails : ∀ fault, outcome = .error fault ↔ ∃ r ∈ replies, Raises r fault
  tells : ∀ v, outcome = .ok v → v = written s enabled books (findingsOf replies)
  calls : replies.map Prod.fst <+: [.health none, .indexExists (Index.nameOf s), .indexStats (Index.nameOf s)]

/-- Where the index is not asked, the report tells that it is not reachable. -/
theorem drawn_nil : Drawn s enabled books [] (.ok (written s enabled books {})) where
  fails _ := by simp
  tells v told := by
    cases told
    rfl
  calls := List.nil_prefix

/-- A report on an index that is inspected. -/
def inspected (s : Settings) (enabled : Bool) (books : Option Bookkeeping) : Exchange Value := do
  return written s enabled books (← inspect (Index.nameOf s))

theorem drawn_inspected : Drawn s enabled books ((inspected s enabled books).replies client t)
    ((inspected s enabled books).run client t).1 := by
  have told : inspected s enabled books =
      (inspect (Index.nameOf s)).andThen fun found => .done (found.map (written s enabled books)) := by
    refine congrArg ((inspect (Index.nameOf s)).andThen ·) (funext fun found => ?_)
    cases found <;> rfl
  have inspection : Inspection (Index.nameOf s) ((inspect (Index.nameOf s)).replies client t) _ := inspection_inspect
  rw [told, Exchange.replies_andThen_done, Exchange.run_andThen]
  -- writing the findings down does not fail
  refine ⟨fun fault => ?_, fun v ended => ?_, inspection.calls⟩
  · rw [← inspection.raises]
    cases ((inspect (Index.nameOf s)).run client t).1 with
    | ok found => exact iff_of_false nofun nofun
    | error fault' =>
      show (Except.error fault' : Outcome Value) = .error fault ↔ _
      rw [Except.error.injEq, Except.error.injEq]
  · cases found? : ((inspect (Index.nameOf s)).run client t).1 with
    | ok found =>
      rw [found?] at ended
      cases ended
      rw [inspection.eq_findingsOf found?]
    | error fault =>
      rw [found?] at ended
      cases ended

theorem reportWith_true : reportWith true s books = inspected s true books := by
  rw [reportWith, Bool.or_true]
  rfl

theorem reportWith_of_off (off : s.indexEnabled = false) :
    reportWith false s books = pure (written s false books {}) := by
  rw [reportWith, off]
  rfl

theorem reportWith_of_on (on : s.indexEnabled = true) : reportWith false s books =
    .connect fun
      | .ok true => inspected s true books
      | .ok false => pure (written s true books {})
      | .error fault => .stop fault := by
  rw [reportWith, on]
  refine congrArg Exchange.connect (funext fun connected => ?_)
  match connected with
  | .ok true | .ok false | .error fault => rfl

/-- Where the index is not asked or a reply is an error, the index is not reachable. -/
theorem not_reachable (unknown : replies = [] ∨ ∃ r ∈ replies, ∃ fault, r.2 = .error fault) :
    (findingsOf replies).reachable = false := by
  obtain rfl | ⟨r, member, fault, failed⟩ := unknown
  · rfl
  · rw [findingsOf, Bool.and_eq_false_iff, List.all_eq_false]
    refine .inr ⟨r, member, ?_⟩
    rw [failed]
    exact Bool.false_ne_true

section Shared

variable {attempt : Attempt} {fresh : σ} {inner : Client σ} {c : Connection σ}

/-- A report over the shared connection is drawn up unless the attempt to connect breaks off. -/
theorem drawn_or_breaks (on : s.indexEnabled = true) :
    ((∀ fault, ¬(c.held = none ∧ Breaks s attempt fault)) ∧
      Drawn s true books ((reportWith false s books).replies (Connection.client s attempt fresh inner) c)
        ((reportWith false s books).run (Connection.client s attempt fresh inner) c).1) ∨
    ∃ fault, (∀ fault', c.held = none ∧ Breaks s attempt fault' ↔ fault = fault') ∧
      (reportWith false s books).replies (Connection.client s attempt fresh inner) c = [] ∧
      ((reportWith false s books).run (Connection.client s attempt fresh inner) c).1 = .error fault := by
  have breaks (fault : Fault) :
      (c.acquire s attempt fresh).1 = .error fault ↔ c.held = none ∧ Breaks s attempt fault := by
    rw [acquire_eq_error, on, eq_self, true_and]
  have connects : (Connection.client s attempt fresh inner).connect c = c.acquire s attempt fresh := rfl
  rw [reportWith_of_on on, Exchange.replies_connect, Exchange.run_connect, connects]
  simp only [← breaks]
  cases (c.acquire s attempt fresh).1 with
  | ok connected =>
    refine .inl ⟨fun _ => nofun, ?_⟩
    cases connected with
    | true => exact drawn_inspected
    | false => exact drawn_nil
  | error fault => exact .inr ⟨fault, fun fault' => by rw [Except.error.injEq], rfl, rfl⟩

end Shared

end Reports

/-- A health report over the shared connection, or on the client that is handed over for it, fails exactly if the
attempt to connect breaks off or a reply cannot be read or is an error foreign to the client. Otherwise it tells
what the replies tell, and the index is not reachable where it is not asked or where one of the replies is an
error. Whatever the bookkeeping and the settings say, it asks for three things at most. -/
theorem reportWith_cases (handed : Bool) (s : Settings) (books : Option Bookkeeping) (attempt : Attempt)
    (fresh : σ) (inner : Client σ) (c : Connection σ) :
    let outcome := ((reportWith handed s books).run (Connection.client s attempt fresh inner) c).1
    let replies := (reportWith handed s books).replies (Connection.client s attempt fresh inner) c
    (∀ fault, outcome = .error fault ↔
      (handed = false ∧ s.indexEnabled = true ∧ c.held = none ∧ Breaks s attempt fault) ∨
        ∃ r ∈ replies, Raises r fault) ∧
    (∀ v, outcome = .ok v → v = written s (s.indexEnabled || handed) books (findingsOf replies)) ∧
    ((replies = [] ∨ ∃ r ∈ replies, ∃ fault, r.2 = .error fault) → (findingsOf replies).reachable = false) ∧
    replies.map Prod.fst <+: [.health none, .indexExists (Index.nameOf s), .indexStats (Index.nameOf s)] := by
  intro outcome replies
  cases handed with
  | true =>
    have drawn : Drawn s true books replies outcome := by
      simp only [replies, outcome, reportWith_true]
      exact drawn_inspected
    exact ⟨fun fault => by simpa using drawn.fails fault, by simpa using drawn.tells, not_reachable, drawn.calls⟩
  | false =>
    cases on : s.indexEnabled with
    | false =>
      have drawn : Drawn s false books replies outcome := by
        simp only [replies, outcome, reportWith_of_off on]
        exact drawn_nil
      exact ⟨fun fault => by simpa using drawn.fails fault, by simpa using drawn.tells, not_reachable, drawn.calls⟩
    | true =>
      -- over the shared connection a report may stop before anything is asked
      obtain ⟨connects, drawn⟩ | ⟨fault, breaks, asked, failed⟩ :=
        @drawn_or_breaks σ s books attempt fresh inner c on
      · refine ⟨fun fault => ?_, by simpa using drawn.tells, not_reachable, drawn.calls⟩
        simpa [connects] using drawn.fails fault
      · have asked : replies = [] := asked
        have failed : outcome = .error fault := failed
        refine ⟨fun fault' => ?_, fun v told => ?_, not_reachable, ?_⟩
        · simp [asked, failed, breaks]
        · cases failed.symm.trans told
        · rw [asked]
          exact List.nil_prefix

/-- A client whose calls are not answered in time leads to a report on an index that is not reachable. -/
theorem reportWith_cases_timeout :
    let inner : Client Unit := ⟨fun s => (.ok true, s), fun _ s => (.error (.client .timeout), s)⟩
    let client := Connection.client {} {} () inner
    let c : Connection Unit := { held := some (0, ()) }
    ((reportWith false {} none).run client c).1 = .ok (written {} true none {}) ∧
      (reportWith false {} none).replies client c = [(.health none, .error (.client .timeout))] ∧
      (findingsOf ((reportWith false {} none).replies client c)).reachable = false := by
  intro inner client c
  have asked : (reportWith false {} none).replies client c = [(.health none, .error (.client .timeout))] := rfl
  obtain ⟨-, -, unreachable, -⟩ := reportWith_cases false {} none {} () inner c
  exact ⟨rfl, asked, unreachable (.inr ⟨_, asked ▸ List.mem_singleton_self _, _, rfl⟩)⟩

/-- An error foreign to the client, in place of a reply, is not told in a report: it stops the report. -/
theorem report_stops :
    ¬∀ (s : Settings) (books : Option Bookkeeping) (attempt : Attempt) (inner : Client Unit) (c : Connection Unit),
      ∃ v, ((report s books).run (Connection.client s attempt () inner) c).1 = .ok v := by
  intro returns
  let inner : Client Unit := ⟨fun s => (.ok true, s), fun _ s => (.error (.client (.foreign "api_error")), s)⟩
  have stops : ((report {} none).run (Connection.client {} {} () inner) { held := some (0, ()) }).1 =
      .error (.client (.foreign "api_error")) := rfl
  obtain ⟨v, told⟩ := returns {} none {} inner { held := some (0, ()) }
  cases stops.symm.trans told

end Venues.Health
