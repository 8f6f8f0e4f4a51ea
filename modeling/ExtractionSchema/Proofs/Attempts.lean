import ExtractionSchema.Proofs.Reasons

namespace ExtractionSchema

namespace Outcome

def IsRemote (outcome : Outcome) : Prop := ∀ kind reason, outcome ≠ .breakdown kind reason

-- An answer that is no success, and whose body the reader has no room for.
def Buried (room : Json.Room) (outcome : Outcome) : Prop :=
  ∃ status body, outcome = .answer status body ∧ ¬ (200 ≤ status ∧ status < 300) ∧
    Json.TooDeep room body

-- An answer after which nothing is tried again: a success, the blame for the request, or one whose
-- reason cannot be looked for.
inductive Settles (room : Json.Room) : Outcome → Prop where
  | success {status body} (least : 200 ≤ status) (below : status < 300) :
    Settles room (.answer status body)
  | blame {status body} (least : 400 ≤ status) (below : status < 500) :
    Settles room (.answer status body)
  | buried {outcome} (buried : outcome.Buried room) : Settles room outcome

-- What a document comes to by its last outcome.
inductive Reported (room : Json.Room) : Outcome → Except ClientFailure Json → Prop where
  | decoded {status body} (least : 200 ≤ status) (below : status < 300) :
    Reported room (.answer status body) ((Json.read room body).mapError .unreadable)
  | failed {status body reason} (other : ¬ (200 ≤ status ∧ status < 300))
      (found : reasonIn room body = .ok reason) :
    Reported room (.answer status body) (.error (.processing reason (some status)))
  | buried {status body error} (other : ¬ (200 ≤ status ∧ status < 300))
      (deep : reasonIn room body = .error error) :
    Reported room (.answer status body) (.error (.unreadable error))
  | unreachable {reason} :
    Reported room (.unreachable reason)
      (.error (.processing ("Processing service unreachable: " ++ reason) none))

-- A failure that is kept in mind for the case that no attempt is left.
def setback? (room : Json.Room) : Outcome → Option ClientFailure
  | .answer status body =>
    if 200 ≤ status ∧ status < 300 then none
    else
      match reasonIn room body with
      | .error _ => none
      | .ok reason =>
        if 400 ≤ status ∧ status < 500 then none else some (.processing reason (some status))
  | .unreachable reason =>
    some (.processing ("Processing service unreachable: " ++ reason) none)
  | .breakdown _ _ => none

theorem answer_isRemote (status : Int) (body : String) : (answer status body).IsRemote := by
  intro kind reason same
  cases same

variable {outcome : Outcome} {room : Json.Room}

theorem buried_iff {status : Int} {body : String} :
    (answer status body).Buried room ↔
      ¬ (200 ≤ status ∧ status < 300) ∧ Json.TooDeep room body := by
  constructor
  · intro buried
    obtain ⟨_,_,same,given⟩ := buried
    cases same
    exact given
  · intro given
    exact ⟨status,body,rfl,given⟩

theorem isFinal_iff (remote : outcome.IsRemote) :
    outcome.isFinal room = true ↔ outcome.Settles room := by
  cases outcome with
  | answer status body =>
    simp only [isFinal,Bool.or_eq_true,Bool.and_eq_true,decide_eq_true_eq,Bool.not_eq_true',
      reasonIn_isOk]
    constructor
    · intro final
      rcases final with (⟨least,below⟩ | ⟨least,below⟩) | deep
      · exact .success least below
      · exact .blame least below
      · by_cases success : 200 ≤ status ∧ status < 300
        · exact .success success.1 success.2
        · exact .buried (buried_iff.mpr ⟨success,deep⟩)
    · intro settles
      cases settles with
      | success least below => exact .inl (.inl ⟨least,below⟩)
      | blame least below => exact .inl (.inr ⟨least,below⟩)
      | buried buried => exact .inr (buried_iff.mp buried).2
  | unreachable reason =>
    constructor
    · intro final
      cases final
    · intro settles
      cases settles with
      | buried buried =>
        obtain ⟨_,_,same,_⟩ := buried
        cases same
  | breakdown kind reason => exact absurd rfl (remote kind reason)

theorem result_reported (remote : outcome.IsRemote) : outcome.Reported room (outcome.result room) := by
  cases outcome with
  | answer status body =>
    rw [result]
    split
    · next success => exact .decoded success.1 success.2
    · next other =>
      cases found : reasonIn room body with
      | ok reason => exact .failed other found
      | error error => exact .buried other found
  | unreachable reason => exact .unreachable
  | breakdown kind reason => exact absurd rfl (remote kind reason)

theorem Reported.filled {result : Except ClientFailure Json} {failure : ClientFailure}
    (reported : outcome.Reported room result) (failed : result = .error failure) :
    failure.message ≠ "" := by
  cases reported with
  | @decoded status body least below =>
    cases read : Json.read room body with
    | ok value =>
      rw [read] at failed
      cases failed
    | error error =>
      rw [read] at failed
      cases failed
      exact Text.ofString_filled error.message_filled
  | failed other found =>
    cases failed
    exact reasonIn_filled found
  | @buried status body error other deep =>
    cases failed
    exact Text.ofString_filled error.message_filled
  | @unreachable reason =>
    cases failed
    intro empty
    exact absurd (Text.append_eq_empty_iff.mp empty).1 (by decide)

-- What is final is not kept in mind, and what is kept in mind is what would be reported.
theorem setback_final (final : outcome.isFinal room = true) : outcome.setback? room = none := by
  cases outcome with
  | answer status body =>
    simp only [isFinal,Bool.or_eq_true,Bool.and_eq_true,decide_eq_true_eq,Bool.not_eq_true'] at final
    rw [setback?]
    rcases final with (success | blame) | deep
    · rw [if_pos success]
    · cases found : reasonIn room body with
      | ok reason => simp only [if_pos blame,ite_self]
      | error error => simp only [ite_self]
    · cases found : reasonIn room body with
      | ok reason => simp [found,Except.isOk,Except.toBool] at deep
      | error error => simp only [ite_self]
  | unreachable reason => cases final
  | breakdown kind reason => rfl

theorem setback_open (unsettled : outcome.isFinal room = false) :
    ∃ failure, outcome.setback? room = some failure ∧ outcome.result room = .error failure := by
  cases outcome with
  | answer status body =>
    simp only [isFinal,Bool.or_eq_false_iff,Bool.and_eq_false_iff,decide_eq_false_iff_not,
      Bool.not_eq_false'] at unsettled
    obtain ⟨⟨unsuccessful,blameless⟩,readable⟩ := unsettled
    have failed : ¬ (200 ≤ status ∧ status < 300) := by omega
    have blameless : ¬ (400 ≤ status ∧ status < 500) := by omega
    cases found : reasonIn room body with
    | error error => simp [found,Except.isOk,Except.toBool] at readable
    | ok reason =>
      refine ⟨.processing reason (some status),?_,?_⟩
      · simp only [setback?,if_neg failed,found,if_neg blameless]
      · simp only [result,if_neg failed,found]
  | unreachable reason => exact ⟨_,rfl,rfl⟩
  | breakdown kind reason => cases unsettled

end Outcome

namespace Client

variable {client : Client} {post : Post} {outcomes : Nat → Outcome}

theorem attempt_final {number : Nat} (final : (outcomes number).isFinal client.room = true) (left : Nat) :
    client.attempt post outcomes left number = ⟨(outcomes number).result client.room,[post],[]⟩ := by
  cases left with
  | zero => rfl
  | succ left => rw [attempt,if_pos final]

theorem attempt_open {number : Nat} (unsettled : (outcomes number).isFinal client.room = false) (left : Nat) :
    client.attempt post outcomes (left + 1) number =
      (client.attempt post outcomes left (number + 1)).after post client.delay := by
  rw [attempt,if_neg (by simp [unsettled])]

-- The run by the number of posts that more follow on the first one. What is posted does not matter
-- for it.
theorem attempt_exact (client : Client) (outcomes : Nat → Outcome) (left number : Nat) :
    ∃ more ≤ left, (∀ earlier < more, (outcomes (number + earlier)).isFinal client.room = false) ∧
      ((outcomes (number + more)).isFinal client.room = true ∨ more = left) ∧
        ∀ post, client.attempt post outcomes left number = ⟨(outcomes (number + more)).result client.room,
          List.replicate (more + 1) post,List.replicate more client.delay⟩ := by
  induction left generalizing number with
  | zero => exact ⟨0,Nat.le_refl 0,by simp,.inr rfl,fun post => rfl⟩
  | succ left ih =>
    cases final : (outcomes number).isFinal client.room with
    | true => exact ⟨0,Nat.zero_le _,by simp,.inl final,fun post => attempt_final final _⟩
    | false =>
      obtain ⟨more,within,before,last,run⟩ := ih (number + 1)
      have shift : ∀ earlier, number + (earlier + 1) = number + 1 + earlier := by omega
      refine ⟨more + 1,by omega,?_,?_,?_⟩
      · intro earlier below
        cases earlier with
        | zero => exact final
        | succ earlier =>
          rw [shift]
          exact before earlier (by omega)
      · rw [shift]
        rcases last with settled | spent
        · exact .inl settled
        · exact .inr (by omega)
      · intro post
        rw [attempt_open final,run,shift more]
        rfl

-- The posts as a loop that keeps the last failure in mind. Without one there is nothing to report
-- when the attempts are used up.
def carry (client : Client) (post : Post) (outcomes : Nat → Outcome) :
    Option ClientFailure → Nat → Nat → Option Dispatch
  | last,0,_ => last.map fun failure => ⟨.error failure,[],[]⟩
  | _,left + 1,number =>
    match (outcomes number).setback? client.room with
    | none => some ⟨(outcomes number).result client.room,[post],[]⟩
    | some failure =>
      let pauses := if left = 0 then [] else [client.delay]
      (carry client post outcomes (some failure) left (number + 1)).map fun rest =>
        { rest with posts := post :: rest.posts,pauses := pauses ++ rest.pauses }

theorem carry_attempt (last : Option ClientFailure) (left number : Nat) :
    client.carry post outcomes last (left + 1) number =
      some (client.attempt post outcomes left number) := by
  induction left generalizing last number with
  | zero =>
    cases final : (outcomes number).isFinal client.room with
    | true => simp [carry,Outcome.setback_final final,attempt]
    | false =>
      obtain ⟨failure,kept,result⟩ := Outcome.setback_open final
      simp [carry,kept,attempt,result]
  | succ left ih =>
    cases final : (outcomes number).isFinal client.room with
    | true => rw [carry,Outcome.setback_final final,attempt_final final]
    | false =>
      obtain ⟨failure,kept,_⟩ := Outcome.setback_open final
      rw [carry,kept,attempt_open final]
      simp [ih,Dispatch.after]

structure Decisive (client : Client) (outcomes : Nat → Outcome) (number : Nat) : Prop where
  allowed : (number : Int) < max 1 client.attempts
  unsettled : ∀ earlier < number, ¬ (outcomes earlier).Settles client.room
  last : (outcomes number).Settles client.room ∨ (number : Int) + 1 = max 1 client.attempts

theorem Decisive.not_below {first second : Nat} (one : client.Decisive outcomes first)
    (other : client.Decisive outcomes second) : ¬ first < second := by
  intro below
  have allowed := other.allowed
  rcases one.last with settles | spent
  · exact other.unsettled first below settles
  · omega

theorem Decisive.unique {first second : Nat} (one : client.Decisive outcomes first)
    (other : client.Decisive outcomes second) : second = first :=
  Nat.le_antisymm (Nat.not_lt.mp (one.not_below other)) (Nat.not_lt.mp (other.not_below one))

theorem attempt_decisive (client : Client) (remote : ∀ number, (outcomes number).IsRemote) :
    ∃ number, client.Decisive outcomes number ∧
      ∀ post, client.attempt post outcomes (client.limit - 1) 0 = ⟨(outcomes number).result client.room,
        List.replicate (number + 1) post,List.replicate number client.delay⟩ := by
  obtain ⟨number,within,before,last,run⟩ := attempt_exact client outcomes (client.limit - 1) 0
  simp only [Nat.zero_add] at before last run
  have bound : (client.limit : Int) = max 1 client.attempts := Int.toNat_of_nonneg (by omega)
  refine ⟨number,⟨by omega,?_,?_⟩,run⟩
  · intro earlier below settles
    have final := (Outcome.isFinal_iff (remote earlier)).mpr settles
    cases final.symm.trans (before earlier below)
  · rcases last with final | spent
    · exact .inl ((Outcome.isFinal_iff (remote number)).mp final)
    · exact .inr (by omega)

theorem send_exact {number : Nat} (remote : ∀ number, (outcomes number).IsRemote)
    (decisive : client.Decisive outcomes number) (document : Document) (types : Json)
    (schema : Option Json) :
    client.send document types schema outcomes = ⟨(outcomes number).result client.room,
      List.replicate (number + 1) (client.post document types schema),
      List.replicate number client.delay⟩ := by
  obtain ⟨found,other,run⟩ := attempt_decisive client remote
  rw [← decisive.unique other]
  exact run (client.post document types schema)

theorem send_decided (client : Client) (document : Document) (types : Json) (schema : Option Json)
    (outcomes : Nat → Outcome) (remote : ∀ number, (outcomes number).IsRemote) :
    ∃ number result, client.Decisive outcomes number ∧
      (∀ other, client.Decisive outcomes other → other = number) ∧
      (outcomes number).Reported client.room result ∧
      client.send document types schema outcomes = ⟨result,
        List.replicate (number + 1) (client.post document types schema),
        List.replicate number client.delay⟩ ∧
      client.carry (client.post document types schema) outcomes none client.limit 0 =
        some (client.send document types schema outcomes) ∧
      ∀ failure, result = .error failure → failure.message ≠ "" := by
  obtain ⟨number,decisive,run⟩ := attempt_decisive client remote
  have some : client.limit = client.limit - 1 + 1 := by
    have bound : (client.limit : Int) = max 1 client.attempts := Int.toNat_of_nonneg (by omega)
    omega
  have reported : (outcomes number).Reported client.room _ := Outcome.result_reported (remote number)
  refine ⟨number,_,decisive,fun other => decisive.unique,reported,run _,?_,?_⟩
  · rw [some]
    exact carry_attempt none (client.limit - 1) 0
  · intro failure failed
    exact reported.filled failed

end Client

-- A service that is out of reach, then busy, then elsewhere, and answers in the end.
def stormy : Nat → Outcome
  | 0 => .unreachable "timed out"
  | 1 => .answer 503 "busy"
  | 2 => .answer 302 ""
  | _ => .answer 200 "\x7b\x7d"

def patient : Client := ⟨"http://ocr.test/process/",.int 60,5,.int 1,some 900,.none⟩

theorem stormy_decided :
    (∀ number, (stormy number).IsRemote) ∧
      patient.Decisive stormy 3 ∧
      ∀ (document : Document) (types : Json) (schema : Option Json),
        patient.send document types schema stormy = ⟨.ok (.obj []),
          List.replicate 4 (patient.post document types schema),List.replicate 3 (.int 1)⟩ := by
  have remote : ∀ number, (stormy number).IsRemote := by
    intro number
    unfold stormy
    split
    · intro kind reason same
      cases same
    all_goals exact Outcome.answer_isRemote _ _
  have decisive : patient.Decisive stormy 3 := by
    refine ⟨by decide,?_,.inl (.success (by decide) (by decide))⟩
    intro earlier below settles
    have final := (Outcome.isFinal_iff (remote earlier)).mpr settles
    have unsettled : ∀ number < 3, (stormy number).isFinal patient.room = false := by decide +kernel
    cases final.symm.trans (unsettled earlier below)
  have read : Json.read patient.room "\x7b\x7d" = .ok (.obj []) := rfl
  refine ⟨remote,decisive,?_⟩
  intro document types schema
  obtain ⟨number,result,_,unique,reported,sent,_⟩ :=
    Client.send_decided patient document types schema stormy remote
  cases unique 3 decisive
  cases reported with
  | decoded least below =>
    rw [sent,read]
    rfl
  | failed other => exact absurd (by decide) other
  | buried other => exact absurd (by decide) other

-- A service that fails with a body that nobody can look into, and is well again the next time.
def bottomless : Nat → Outcome
  | 0 => .answer 500 (Json.unclosed 2000)
  | _ => .answer 200 "\x7b\x7d"

-- The document would be posted a second time if only the status of the first answer counted.
theorem bottomless_unretried :
    (∀ number, (bottomless number).IsRemote) ∧
      (∃ body, bottomless 0 = .answer 500 body) ∧ (∃ body, bottomless 1 = .answer 200 body) ∧
      (2 : Int) ≤ max 1 patient.attempts ∧
      ∀ (document : Document) (types : Json) (schema : Option Json), ∃ error,
        patient.send document types schema bottomless = ⟨.error (.unreadable error),
          [patient.post document types schema],[]⟩ ∧
        error.message =
          "maximum recursion depth exceeded while decoding a JSON array from a unicode string" := by
  have remote : ∀ number, (bottomless number).IsRemote := by
    intro number
    unfold bottomless
    split
    all_goals exact Outcome.answer_isRemote _ _
  refine ⟨remote,⟨_,rfl⟩,⟨_,rfl⟩,by decide,?_⟩
  intro document types schema
  obtain ⟨error,read,fault⟩ : ∃ error, Json.read patient.room (Json.unclosed 2000) = .error error ∧
      error.fault = .nestedTooDeep .array := Json.unclosed_read (by decide)
  have deep : reasonIn patient.room (Json.unclosed 2000) = .error error :=
    reasonIn_error_iff.mpr ⟨read,.array,fault⟩
  have result : (bottomless 0).result patient.room = .error (.unreadable error) := by
    simp [bottomless,Outcome.result,deep]
  have final : (bottomless 0).isFinal patient.room = true := by
    refine (Outcome.isFinal_iff (remote 0)).mpr (.buried (Outcome.buried_iff.mpr ⟨by decide,?_⟩))
    exact ⟨error,.array,read,fault⟩
  refine ⟨error,?_,?_⟩
  · rw [Client.send,Client.attempt_final final,result]
  · rw [Json.ReadError.message,fault]
    rfl

end ExtractionSchema
