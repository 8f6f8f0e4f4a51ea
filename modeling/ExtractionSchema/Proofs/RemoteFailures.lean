import ExtractionSchema.Proofs.Attempts
import ExtractionSchema.Proofs.Submissions

namespace ExtractionSchema

theorem Answer.admitsBody_failure {code : Int} (other : ¬ (200 ≤ code ∧ code < 300)) :
    admitsBody code = true ↔ 200 ≤ code ∧ code ≠ 304 := by
  simp only [admitsBody,Bool.and_eq_true,Bool.not_eq_true',Bool.or_eq_false_iff,
    decide_eq_true_eq,beq_eq_false_iff_ne]
  omega

namespace Outcome

def Wasted (usable : String → Prop) (outcome : Outcome) : Prop :=
  ∃ status body, outcome = .answer status body ∧ 200 ≤ status ∧ status < 300 ∧ ¬ usable body

-- An answer that nothing can be made of: a success whose body does not read as JSON, or another one
-- whose body the reader has no room for.
def Garbled (room : Json.Room) (outcome : Outcome) : Prop :=
  outcome.Wasted (fun body => ∃ value, Json.read room body = .ok value) ∨ outcome.Buried room

-- A failure with a reason that cannot be told, and a status with which it would have to be.
inductive Untold (room : Json.Room) : Outcome → Prop where
  | relayed {status body reason} (found : reasonIn room body = .ok reason)
      (bodied : status = 0 ∨ 300 ≤ status ∧ status ≠ 304) (half : reason.isWhole = false) :
      Untold room (.answer status body)
  | unreached {reason} (half : reason.isWhole = false) : Untold room (.unreachable reason)

-- Of a success it is the extraction that counts, and that it can be told.
def Unfit (room : Json.Room) (outcome : Outcome) : Prop :=
  outcome.Wasted (fun body => ∃ value extraction, Json.read room body = .ok value ∧
    Extraction.read .request value = .accepted extraction ∧ extraction.toJson.withNulls.Tellable) ∨
      outcome.Buried room

-- All that sending a document is said to come to: the body of a success as JSON, or a failure to
-- process the document.
inductive Announced (room : Json.Room) : Outcome → Except ClientFailure Json → Prop where
  | decoded {status value} {body : String} (least : 200 ≤ status) (below : status < 300)
      (read : Json.read room body = .ok value) : Announced room (.answer status body) (.ok value)
  | failed {outcome} (message : Text) (status : Option Int) :
      Announced room outcome (.error (.processing message status))

variable {room : Json.Room} {outcome : Outcome} {result : Except ClientFailure Json}

theorem wasted_success_iff {usable : String → Prop} {status : Int} {body : String} (least : 200 ≤ status)
    (below : status < 300) :
    (answer status body).Wasted usable ∨ (answer status body).Buried room ↔ ¬ usable body := by
  constructor
  · intro lost
    rcases lost with wasted | buried
    · obtain ⟨_,_,same,_,_,useless⟩ := wasted
      cases same
      exact useless
    · exact absurd ⟨least,below⟩ (buried_iff.mp buried).1
  · intro useless
    exact .inl ⟨status,body,rfl,least,below,useless⟩

-- Whether a failure is untold can be seen by its message and its status.
theorem Reported.untold_iff {message : Text} {status : Option Int}
    (reported : outcome.Reported room (.error (.processing message status))) :
    outcome.Untold room ↔
      Answer.admitsBody (if status.getD 0 = 0 then 502 else status.getD 0) = true ∧
        message.isWhole = false := by
  generalize decided : Except.error (ClientFailure.processing message status) = result at reported
  cases reported with
  | @decoded _ body least below =>
    -- A body that does not read as JSON is another failure.
    cases read : Json.read room body <;> simp [read,Except.mapError] at decided
  | buried other deep => cases decided
  | @unreachable reason =>
    cases decided
    rw [Text.isWhole_append]
    constructor
    · intro untold
      cases untold with
      | unreached half => exact ⟨rfl,half⟩
    · exact fun due => .unreached due.2
  | @failed code body reason other found =>
    cases decided
    have bodied : Answer.admitsBody (if code = 0 then 502 else code) = true ↔
        code = 0 ∨ 300 ≤ code ∧ code ≠ 304 := by
      by_cases blank : code = 0
      · simp [blank,Answer.admitsBody]
      · rw [if_neg blank,Answer.admitsBody_failure other]
        omega
    rw [Option.getD_some,bodied]
    constructor
    · intro untold
      cases untold with
      | relayed same due half =>
        cases found.symm.trans same
        exact ⟨due,half⟩
    · exact fun due => .relayed found due.1 due.2

-- A report is a failure to process the document, what the body of a success reads as, or the fault of
-- a body that is nested too deep. In the first case no answer was lost.
theorem Reported.split (reported : outcome.Reported room result) :
    (∃ message status, result = .error (.processing message status) ∧
      ¬ (200 ≤ status.getD 0 ∧ status.getD 0 < 300) ∧
      ∀ usable, ¬ (outcome.Wasted usable ∨ outcome.Buried room)) ∨
      (∃ status body, outcome = .answer status body ∧ 200 ≤ status ∧ status < 300 ∧
        result = (Json.read room body).mapError .unreadable) ∨
      (∃ error, result = .error (.unreadable error) ∧ outcome.Buried room) := by
  cases reported with
  | decoded least below => exact .inr (.inl ⟨_,_,rfl,least,below,rfl⟩)
  | failed other found =>
    refine .inl ⟨_,_,rfl,other,?_⟩
    intro usable lost
    rcases lost with wasted | buried
    · obtain ⟨_,_,same,least,below,_⟩ := wasted
      cases same
      exact other ⟨least,below⟩
    · have deep := reasonIn_isOk.mpr (buried_iff.mp buried).2
      rw [found] at deep
      cases deep
  | buried other deep =>
    refine .inr (.inr ⟨_,rfl,buried_iff.mpr ⟨other,?_⟩⟩)
    obtain ⟨read,container,fault⟩ := reasonIn_error_iff.mp deep
    exact ⟨_,container,read,fault⟩
  | unreachable =>
    refine .inl ⟨_,_,rfl,by decide,?_⟩
    intro usable lost
    rcases lost with wasted | buried
    · obtain ⟨_,_,same,_⟩ := wasted
      cases same
    · obtain ⟨_,_,same,_⟩ := buried
      cases same

theorem Reported.no_success {message : Text} {status : Option Int}
    (reported : outcome.Reported room (.error (.processing message status))) :
    ¬ (200 ≤ status.getD 0 ∧ status.getD 0 < 300) := by
  rcases reported.split with ⟨_,_,same,other,_⟩ | ⟨_,body,_,_,_,decoded⟩ | ⟨_,same,_⟩
  · cases same
    exact other
  · cases read : Json.read room body <;> simp [read,Except.mapError] at decoded
  · cases same

theorem Reported.announced_iff (reported : outcome.Reported room result) :
    outcome.Announced room result ↔ ¬ outcome.Garbled room := by
  rcases reported.split with ⟨message,status,failed,_,kept⟩ |
    ⟨status,body,rfl,least,below,decoded⟩ | ⟨error,failed,buried⟩
  · rw [failed]
    exact iff_of_true (.failed message status) (kept _)
  · rw [Garbled,wasted_success_iff least below,decoded]
    cases read : Json.read room body with
    | ok value => exact iff_of_true (.decoded least below read) (by simp)
    | error error =>
      refine iff_of_false ?_ (by simp)
      intro announced
      cases announced
  · refine iff_of_false ?_ (not_not_intro (.inr buried))
    intro announced
    rw [failed] at announced
    cases announced

end Outcome

namespace Processing

variable {room : Json.Room} {outcome : Outcome} {result : Except ClientFailure Json}

theorem extracted_sent_iff {value : Json} :
    (∃ given, (extracted value).bind Answer.sent = .ok given) ↔
      ∃ extraction, Extraction.read .request value = .accepted extraction ∧
        extraction.toJson.withNulls.Tellable := by
  unfold extracted
  cases Extraction.read .request value with
  | accepted extraction =>
    have own : (Verdict.accepted extraction).within (.key "response") = .accepted extraction := rfl
    simp only [own,Verdict.accepted.injEq,exists_eq_left']
    exact Answer.ok_sent_iff
  | rejected first rest =>
    refine iff_of_false ?_ (by simp)
    intro answered
    obtain ⟨given,same⟩ := answered
    cases same

theorem respond_sent_iff {message : Text} {status : Option Int} {given : Answer}
    (reported : outcome.Reported room (.error (.processing message status))) :
    (respond (.error (.processing message status))).bind Answer.sent = .ok given ↔
      given = .detail (if status.getD 0 = 0 then 502 else status.getD 0) message ∧ ¬ outcome.Untold room := by
  have other := reported.no_success
  have failure : (if status.getD 0 = 0 then 502 else status.getD 0) ≠ 200 := by
    split <;> omega
  rw [reported.untold_iff,not_and,Bool.not_eq_false]
  exact Answer.detail_sent_iff failure

theorem answered_iff (reported : outcome.Reported room result) :
    (∃ given, (respond result).bind Answer.sent = .ok given) ↔
      ¬ (outcome.Unfit room ∨ outcome.Untold room) := by
  rcases reported.split with ⟨message,status,failed,_,kept⟩ |
    ⟨status,body,rfl,least,below,decoded⟩ | ⟨error,failed,buried⟩
  · subst failed
    simp only [respond_sent_iff reported,exists_eq_left,Outcome.Unfit]
    rw [or_iff_right (kept _)]
  · have told : ¬ (Outcome.answer status body).Untold room := by
      intro untold
      cases untold with
      | relayed _ due _ => omega
    rw [or_iff_left told,Outcome.Unfit,Outcome.wasted_success_iff least below,not_not,decoded]
    cases read : Json.read room body with
    | ok value => simpa [respond,Except.mapError] using extracted_sent_iff
    | error error => simp [respond,Except.mapError,Except.bind]
  · refine iff_of_false ?_ (not_not_intro (.inl (.inr buried)))
    simp [failed,respond,Except.bind]

-- A failure is answered with its own message, and never with the status of a success.
theorem told_iff {failure : ClientFailure} (reported : outcome.Reported room result)
    (failed : result = .error failure) :
    (∃ status, ¬ (200 ≤ status ∧ status < 300) ∧
      (respond result).bind Answer.sent = .ok (.detail status failure.message)) ↔
        ¬ (outcome.Garbled room ∨ outcome.Untold room) := by
  rcases reported.split with ⟨message,status,same,other,kept⟩ |
    ⟨status,body,rfl,least,below,decoded⟩ | ⟨error,same,buried⟩
  · cases failed.symm.trans same
    subst failed
    simp only [respond_sent_iff reported,Outcome.Garbled]
    rw [or_iff_right (kept _)]
    constructor
    · intro told
      obtain ⟨_,_,_,kept⟩ := told
      exact kept
    · intro kept
      refine ⟨if status.getD 0 = 0 then 502 else status.getD 0,?_,rfl,kept⟩
      split
      · decide
      · exact other
  · have told : ¬ (Outcome.answer status body).Untold room := by
      intro untold
      cases untold with
      | relayed _ due _ => omega
    rw [or_iff_left told,Outcome.Garbled,Outcome.wasted_success_iff least below,not_not]
    cases read : Json.read room body with
    | ok value => simp [decoded,read,Except.mapError] at failed
    | error error => simp [decoded,read,respond,Except.mapError,Except.bind]
  · refine iff_of_false ?_ (not_not_intro (.inl (.inr buried)))
    simp [same,respond,Except.bind]

-- The request carries a document that is sent with a submission.
def Sends (client : Client) (body : Body) (document : Document) (submission : Submission) : Prop :=
  ∃ form schema, body.readForm client.charsets = .ok form ∧
    readParts form = .accepted (document,schema) ∧
    accept client.room document schema = .ok submission

theorem run_sends {client : Client} {body : Body} {document : Document} {submission : Submission}
    {outcomes : Nat → Outcome} (sends : Sends client body document submission) :
    run client body outcomes = send client document submission outcomes := by
  obtain ⟨form,schema,formed,parts,accepted⟩ := sends
  simp only [run,formed,parts,accepted]

end Processing

def pricedText : String := "\x7b\"total\": \"number\"\x7d"

def priced : Form := [.file "file" receipt,.text "schema" pricedText]

theorem priced_read :
    Json.read (some 900) pricedText = .ok (.obj [("total",.str "number")]) := by decide +kernel

theorem priced_given : Submission.read (some 900) pricedText = .ok ⟨[("total",.number)],none⟩ := by
  rw [Submission.read,priced_read]
  rfl

theorem priced_sends {client : Client} (room : client.room = some 900) :
    Processing.Sends client (.form priced) receipt ⟨[("total",.number)],none⟩ := by
  refine ⟨priced,pricedText,rfl,rfl,?_⟩
  rw [room]
  simp only [Processing.accept,priced_given]
  rfl

-- A service that is overloaded, and one that says something else than JSON when all is well.
def busy : Nat → Outcome := fun _ => .answer 503 "busy"

def chatty : Nat → Outcome := fun _ => .answer 200 "ok"

theorem busy_reason : reasonIn (some 900) "busy" = .ok "busy" := by decide +kernel

theorem busy_result : (Outcome.answer 503 "busy").result (some 900) =
    .error (.processing "busy" (some 503)) := by
  rw [Outcome.result,busy_reason]
  rfl

theorem busy_tellable : ¬ (Outcome.answer 503 "busy").Untold (some 900) := by
  intro untold
  cases untold with
  | relayed found _ half =>
    cases busy_reason.symm.trans found
    cases half

end ExtractionSchema
