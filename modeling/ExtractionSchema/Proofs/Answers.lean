import ExtractionSchema.Proofs.Records
import ExtractionSchema.Service

namespace ExtractionSchema

-- A result, or a failure that is announced.
inductive Anticipated {α : Type} : Except Failure α → Prop where
  | done (value : α) : Anticipated (.ok value)
  | refused (refusal : Refusal) : Anticipated (.error (.refused refusal))
  | tree (error : TreeError) : Anticipated (.error (.tree error))

variable {α β : Type}

theorem anticipated_error_iff {failure : Failure} :
    Anticipated (.error failure : Except Failure α) ↔
      (∃ refusal, failure = .refused refusal) ∨ ∃ error, failure = .tree error := by
  constructor
  · intro known
    cases known with
    | refused refusal => exact .inl ⟨refusal,rfl⟩
    | tree error => exact .inr ⟨error,rfl⟩
  · intro known
    rcases known with ⟨refusal,rfl⟩ | ⟨error,rfl⟩
    · exact .refused refusal
    · exact .tree error

theorem anticipated_map_iff {result : Except Failure α} {f : α → β} :
    Anticipated (result.map f) ↔ Anticipated result := by
  cases result with
  | ok value => exact iff_of_true (.done (f value)) (.done value)
  | error failure => exact anticipated_error_iff.trans anticipated_error_iff.symm

theorem liftTree_anticipated (result : Except TreeError α) : Anticipated (liftTree result) := by
  cases result with
  | ok value => exact .done value
  | error error => exact .tree error

def AnsweredWith (status : Int) (answer : Except Uncaught Answer) : Prop :=
  ∃ given, answer = .ok given ∧ given.status = status

theorem answeredWith_unique {first second : Int} {answer : Except Uncaught Answer}
    (one : AnsweredWith first answer) (other : AnsweredWith second answer) : first = second := by
  obtain ⟨given,same,rfl⟩ := one
  obtain ⟨again,equal,rfl⟩ := other
  rw [Except.ok.inj (same.symm.trans equal)]

theorem failure_not_ok (failure : Failure) : ¬ AnsweredWith 200 failure.answer := by
  intro answered
  obtain ⟨given,same,status⟩ := answered
  cases failure <;> cases same <;> simp [Answer.detail,Answer.invalid,Answer.ofJson] at status

theorem failure_answered_iff {failure : Failure} :
    AnsweredWith 400 failure.answer ↔ Anticipated (.error failure : Except Failure α) := by
  rw [anticipated_error_iff]
  cases failure with
  | tree error => exact iff_of_true ⟨_,rfl,rfl⟩ (.inr ⟨error,rfl⟩)
  | refused refusal => exact iff_of_true ⟨_,rfl,rfl⟩ (.inl ⟨refusal,rfl⟩)
  | template key =>
    have unknown : AnsweredWith 404 (Failure.template key).answer := ⟨_,rfl,rfl⟩
    refine iff_of_false (fun blamed => ?_) (by simp)
    exact absurd (answeredWith_unique blamed unknown) (by decide)
  | invalid first rest =>
    have unreadable : AnsweredWith 422 (Failure.invalid first rest).answer := ⟨_,rfl,rfl⟩
    refine iff_of_false (fun blamed => ?_) (by simp)
    exact absurd (answeredWith_unique blamed unreadable) (by decide)
  | misuse fault => simp [AnsweredWith,Failure.answer]

theorem answered_sent_iff {status : Int} {answer : Except Uncaught Answer} :
    AnsweredWith status (answer.bind Answer.sent) ↔
      ∃ given, answer = .ok given ∧ given.status = status ∧ ∃ told, given.sent = .ok told := by
  constructor
  · intro answered
    obtain ⟨told,same,rfl⟩ := answered
    cases answer with
    | error fault => cases same
    | ok given => exact ⟨given,rfl,(Answer.sent_status same).symm,told,same⟩
  · intro answered
    obtain ⟨given,rfl,rfl,told,sent⟩ := answered
    exact ⟨told,sent,Answer.sent_status sent⟩

theorem ok_answered_iff {body : Json} : AnsweredWith 200 (Answer.ok body).sent ↔ body.Tellable := by
  rw [← Answer.ok_sent_iff]
  constructor
  · intro answered
    obtain ⟨given,sent,_⟩ := answered
    exact ⟨given,sent⟩
  · intro told
    obtain ⟨given,sent⟩ := told
    exact ⟨given,sent,Answer.sent_status sent⟩

-- The texts of a failure that has an answer of its own.
inductive Failure.Tells : Failure → Text → Prop where
  | tree (error : TreeError) : Tells (.tree error) error.message
  | refused (refusal : Refusal) : Tells (.refused refusal) refusal.message

theorem detail_answered_iff {text : Text} :
    AnsweredWith 400 ((Except.ok (.detail 400 text)).bind Answer.sent) ↔ text.isWhole = true := by
  rw [answered_sent_iff]
  constructor
  · intro answered
    obtain ⟨given,same,_,told,sent⟩ := answered
    cases same
    exact ((Answer.detail_sent_iff (by decide)).mp sent).2 rfl
  · intro whole
    exact ⟨_,rfl,rfl,_,(Answer.detail_sent_iff (by decide)).mpr ⟨rfl,fun _ => whole⟩⟩

theorem failure_sent_iff {failure : Failure} :
    AnsweredWith 400 (failure.answer.bind Answer.sent) ↔
      Anticipated (.error failure : Except Failure α) ∧
        ∀ text, failure.Tells text → text.isWhole = true := by
  by_cases known : Anticipated (.error failure : Except Failure α)
  · simp only [known,true_and]
    cases known with
    | tree error =>
      refine detail_answered_iff.trans ⟨?_,fun whole => whole _ (.tree error)⟩
      intro whole text told
      cases told
      exact whole
    | refused refusal =>
      refine detail_answered_iff.trans ⟨?_,fun whole => whole _ (.refused refusal)⟩
      intro whole text told
      cases told
      exact whole
  · refine iff_of_false ?_ (fun both => known both.1)
    intro answered
    obtain ⟨given,same,status,_⟩ := answered_sent_iff.mp answered
    exact known (failure_answered_iff.mp ⟨given,same,status⟩)

theorem Builder.onBody_answered_iff {room : Json.Room} {body : Body} {read : Json → Verdict α}
    {respond : α → Except Uncaught Answer} :
    AnsweredWith 200 (onBody room body read respond) ↔ ∃ value request, body.readJson room = .ok value ∧
      read value = .accepted request ∧ AnsweredWith 200 (respond request) := by
  cases carried : body.readJson room with
  | error fault =>
    refine iff_of_false ?_ (by simp)
    intro answered
    obtain ⟨given,same,status⟩ := answered
    simp only [onBody,carried] at same
    cases fault <;> cases same <;>
      simp [Answer.invalid,Answer.unreadableBody,Answer.detail,Answer.ofJson] at status
  | ok value =>
    simp only [onBody,carried]
    cases verdict : read value with
    | accepted request => simp [answerRead,verdict]
    | rejected first rest =>
      refine iff_of_false ?_ (by simp [verdict])
      intro answered
      obtain ⟨given,same,status⟩ := answered
      simp only [answerRead] at same
      split at same
      · cases same
      split at same
      · cases same
        simp [Answer.invalid,Answer.ofJson] at status
      · cases same

theorem Service.handle_post {target : String} {route : Route} (found : Route.ofTarget? target = some route)
    (posts : route.method = "POST") (client : Client) (body : Body) (outcomes : Nat → Outcome) :
    handle client ⟨"POST",target,body⟩ outcomes = (respond client route body outcomes).sent := by
  have upper : Text.upper "POST" = "POST" := by decide +kernel
  simp only [handle,found,upper,posts,if_true]

end ExtractionSchema
