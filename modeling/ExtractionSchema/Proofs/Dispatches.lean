import ExtractionSchema.Proofs.RemoteFailures
import ExtractionSchema.Proofs.SubmittedSchemas

namespace ExtractionSchema

-- The post has the document as it came in and all that its schema says.
structure Post.Carries (room : Json.Room) (post : Post) (document : Document) (text : String)
    (submission : Submission) : Prop where
  filename : post.filename = document.filename
  content : post.content = document.content
  mediaType : post.mediaType = (document.mediaType.filter (· ≠ "")).getD "application/octet-stream"
  types : Json.read none post.types = .ok (typeMapJson submission.types)
  listed : (∃ sent, post.schema = some sent) ↔ ∃ items, Json.read room text = .ok (.arr items)
  compiled : ∀ items sent, Json.read room text = .ok (.arr items) → post.schema = some sent →
    ∃ tree schema, FieldTree.parse (.arr items) = .ok tree ∧ tree.compile = .ok schema ∧
      Json.read none sent = .ok schema

namespace Client

theorem post_mediaType (client : Client) (document : Document) (types : Json) (schema : Option Json) :
    (client.post document types schema).mediaType
      = (document.mediaType.filter (· ≠ "")).getD "application/octet-stream" := by
  obtain ⟨content,filename,mediaType⟩ := document
  cases mediaType with
  | none => rfl
  | some name =>
    by_cases empty : name = ""
    · subst empty
      rfl
    · simp [post,Option.filter,empty]

theorem post_carries (client : Client) (document : Document) {room : Json.Room} {text : String}
    {submission : Submission} (given : Submission.read room text = .ok submission) :
    (client.post document (typeMapJson submission.types) submission.schema).Carries room document text
      submission where
  filename := rfl
  content := rfl
  mediaType := post_mediaType client document _ _
  types := Json.read_write Json.spacedAscii_readable (Submission.types_plain given)
    (Json.Room.endless_allows _)
  listed := by
    rw [← Submission.schema_listed_iff given]
    cases submission.schema <;> simp [post]
  compiled := by
    intro items sent found written
    obtain ⟨tree,schema,parsed,compiled,rfl⟩ := (Submission.read_list_iff found).mp given
    cases written
    refine ⟨tree,schema,parsed,compiled,?_⟩
    exact Json.read_write Json.compactAscii_readable (FieldTree.compile_plain compiled)
      (Json.Room.endless_allows _)

end Client

namespace Outcome

-- What is answered for a failure of the service behind. A status of zero is none.
inductive Relayed (room : Json.Room) : Outcome → Answer → Prop where
  | told {status body reason} (least : 200 ≤ status) (other : ¬ status < 300) (modified : status ≠ 304)
      (found : reasonIn room body = .ok reason) :
    Relayed room (.answer status body) ⟨status,some (.obj [("detail",.str reason)])⟩
  | bare {status body} (given : status ≠ 0) (bodiless : status < 200 ∨ status = 304) :
    Relayed room (.answer status body) ⟨status,none⟩
  | blank {body reason} (found : reasonIn room body = .ok reason) :
    Relayed room (.answer 0 body) ⟨502,some (.obj [("detail",.str reason)])⟩
  | unreached {reason} : Relayed room (.unreachable reason)
    ⟨502,some (.obj [("detail",.str ("Processing service unreachable: " ++ reason))])⟩

theorem Settles.isFinal {room : Json.Room} {outcome : Outcome} (settles : outcome.Settles room) :
    outcome.isFinal room = true := by
  have remote : outcome.IsRemote := by
    intro kind reason same
    subst same
    cases settles with
    | buried buried =>
      obtain ⟨_,_,other,_⟩ := buried
      cases other
  exact (isFinal_iff remote).mpr settles

variable {room : Json.Room} {outcome : Outcome} {message : Text} {status : Option Int}

theorem failed_isRemote (failed : outcome.result room = .error (.processing message status)) :
    outcome.IsRemote := by
  intro kind reason same
  subst same
  cases failed

theorem failed_relayed (failed : outcome.result room = .error (.processing message status)) :
    ∃ given, Processing.respond (.error (.processing message status)) = .ok given ∧
      outcome.Relayed room given := by
  have reported : outcome.Reported room _ := result_reported (failed_isRemote failed)
  rw [failed] at reported
  generalize decided : Except.error (ClientFailure.processing message status) = result at reported
  cases reported with
  | @decoded _ body least below =>
    -- A body that does not read as JSON is another failure.
    cases read : Json.read room body <;> simp [read,Except.mapError] at decided
  | buried other deep => cases decided
  | unreachable =>
    cases decided
    exact ⟨_,rfl,.unreached⟩
  | @failed code body reason other found =>
    cases decided
    by_cases blank : code = 0
    · subst blank
      exact ⟨_,rfl,.blank found⟩
    · refine ⟨.detail code message,by simp [Processing.respond,blank],?_⟩
      by_cases admits : Answer.admitsBody code = true
      · obtain ⟨least,modified⟩ := (Answer.admitsBody_failure other).mp admits
        rw [Answer.detail,Answer.ofJson,if_pos admits]
        exact .told least (by omega) modified found
      · rw [Answer.detail,Answer.ofJson,if_neg admits]
        rw [Answer.admitsBody_failure other] at admits
        exact .bare blank (by omega)

end Outcome

namespace Client

variable {client : Client} {outcomes : Nat → Outcome}

theorem send_failed {document : Document} {types : Json} {schema : Option Json} {message : Text}
    {status : Option Int}
    (failed : (client.send document types schema outcomes).result = .error (.processing message status)) :
    ∃ number, client.Decisive outcomes number ∧
      (outcomes number).result client.room = .error (.processing message status) ∧
      (client.send document types schema outcomes).posts.length = number + 1 := by
  obtain ⟨number,within,before,last,run⟩ := attempt_exact client outcomes (client.limit - 1) 0
  simp only [Nat.zero_add] at before last run
  have bound : (client.limit : Int) = max 1 client.attempts := Int.toNat_of_nonneg (by omega)
  rw [send,run] at failed ⊢
  have remote := Outcome.failed_isRemote failed
  refine ⟨number,⟨by omega,?_,?_⟩,failed,List.length_replicate⟩
  · intro earlier below settles
    cases settles.isFinal.symm.trans (before earlier below)
  · rcases last with final | spent
    · exact .inl ((Outcome.isFinal_iff remote).mp final)
    · exact .inr (by omega)

end Client

namespace Processing

variable {room : Json.Room}

theorem accept_ok_iff {document : Document} {schema : String} {submission : Submission} :
    accept room document schema = .ok submission ↔ document.filename ≠ "" ∧ document.content ≠ "" ∧
      Submission.read room schema = .ok submission ∧ submission.types ≠ [] := by
  unfold accept
  simp only [String.isEmpty_iff,List.isEmpty_iff]
  by_cases unnamed : document.filename = ""
  · simp [unnamed]
  by_cases hollow : document.content = ""
  · simp [unnamed,hollow]
  cases read : Submission.read room schema with
  | error failure => simp [unnamed,hollow]
  | ok given =>
    simp only [unnamed,hollow,if_false,ne_eq,not_false_eq_true,true_and,Except.ok.injEq]
    split
    · next bare =>
      refine iff_of_false (by simp) ?_
      intro sent
      obtain ⟨rfl,some⟩ := sent
      exact some bare
    · next some =>
      constructor
      · intro same
        cases same
        exact ⟨rfl,some⟩
      · intro sent
        rw [sent.1]

-- Behind the parts of the form there is nothing but the document and its schema to look at.
theorem sends_iff {client : Client} {body : Body} {form : Form} {document : Document} {schema : String}
    (formed : body.readForm client.charsets = .ok form)
    (parts : readParts form = .accepted (document,schema)) {submission : Submission} :
    Sends client body document submission ↔ accept client.room document schema = .ok submission := by
  constructor
  · intro sends
    obtain ⟨other,text,same,read,accepted⟩ := sends
    cases formed.symm.trans same
    cases parts.symm.trans read
    exact accepted
  · intro accepted
    exact ⟨form,schema,formed,parts,accepted⟩

variable {client : Client} {body : Body} {form : Form} {document : Document} {schema : String}
  {outcomes : Nat → Outcome}

theorem run_posts (formed : body.readForm client.charsets = .ok form)
    (parts : readParts form = .accepted (document,schema)) :
    (run client body outcomes).posts ≠ [] ↔ ∃ submission, accept client.room document schema = .ok submission := by
  cases accepted : accept client.room document schema with
  | error answer => simp [run,formed,parts,accepted,Reaction.only]
  | ok submission =>
    refine iff_of_true ?_ ⟨submission,rfl⟩
    rw [run_sends ((sends_iff formed parts).mpr accepted)]
    exact Client.attempt_posts.1

theorem run_post (formed : body.readForm client.charsets = .ok form)
    (parts : readParts form = .accepted (document,schema)) {post : Post}
    (member : post ∈ (run client body outcomes).posts) :
    ∃ submission, Submission.read client.room schema = .ok submission ∧ submission.types ≠ [] ∧
      post.Carries client.room document schema submission := by
  obtain ⟨submission,accepted⟩ := (run_posts formed parts).mp (List.ne_nil_of_mem member)
  obtain ⟨_,_,given,some⟩ := accept_ok_iff.mp accepted
  rw [run_sends ((sends_iff formed parts).mpr accepted)] at member
  rw [Client.attempt_posts.2 post member]
  exact ⟨submission,given,some,client.post_carries document given⟩

end Processing

theorem Service.document_sent_iff (client : Client) (outcomes : Nat → Outcome) (body : Body)
    (form : Form) (document : Document) (schema : String)
    (formed : body.readForm client.charsets = .ok form)
    (parts : Processing.readParts form = .accepted (document,schema)) :
    let reaction := Service.handle client ⟨"POST","/process",body⟩ outcomes
    (reaction.posts ≠ [] ↔ document.filename ≠ "" ∧ document.content ≠ "" ∧
        ∃ submission, Submission.read client.room schema = .ok submission ∧ submission.types ≠ []) ∧
      (∀ post ∈ reaction.posts, ∃ submission, Submission.read client.room schema = .ok submission ∧
        submission.types ≠ [] ∧ post.Carries client.room document schema submission) ∧
      ∀ submission message status, reaction.posts ≠ [] → Submission.read client.room schema = .ok submission →
        (client.send document (typeMapJson submission.types) submission.schema outcomes).result =
          .error (.processing message status) →
        ∃ number given, client.Decisive outcomes number ∧ reaction.posts.length = number + 1 ∧
          (outcomes number).Relayed client.room given ∧
          (¬ (outcomes number).Untold client.room → reaction.answer = .ok given) := by
  simp only [Service.handle_process,Reaction.sent]
  refine ⟨?_,fun post member => Processing.run_post formed parts member,?_⟩
  · rw [Processing.run_posts formed parts]
    simp only [Processing.accept_ok_iff,exists_and_left]
  · intro submission message status posted given failed
    obtain ⟨other,accepted⟩ := (Processing.run_posts formed parts).mp posted
    cases given.symm.trans (Processing.accept_ok_iff.mp accepted).2.2.1
    obtain ⟨number,decisive,own,count⟩ := Client.send_failed failed
    obtain ⟨answer,same,relayed⟩ := Outcome.failed_relayed own
    rw [Processing.run_sends ((Processing.sends_iff formed parts).mpr accepted)]
    refine ⟨number,answer,decisive,count,relayed,?_⟩
    intro told
    have reported : (outcomes number).Reported client.room _ :=
      Outcome.result_reported (Outcome.failed_isRemote own)
    rw [own] at reported
    simp only [Processing.send,failed]
    refine (Processing.respond_sent_iff reported).mpr ⟨?_,told⟩
    exact (Except.ok.inj same).symm

theorem Client.send_steady {outcomes : Nat → Outcome} {outcome : Outcome}
    (steady : ∀ number, outcomes number = outcome) (client : Client) (document : Document)
    (types : Json) (schema : Option Json) :
    (client.send document types schema outcomes).result = outcome.result client.room := by
  obtain ⟨more,_,_,_,run⟩ := attempt_exact client outcomes (client.limit - 1) 0
  rw [send,run,steady]

theorem busy_relayed :
    Processing.readParts priced = .accepted (receipt,pricedText) ∧
      ∀ client : Client, client.room = some 900 →
        (Body.form priced).readForm client.charsets = .ok priced ∧
        let reaction := Service.handle client ⟨"POST","/process",.form priced⟩ busy
        reaction.posts ≠ [] ∧
          (∀ post ∈ reaction.posts, post.filename = "receipt.pdf" ∧ post.content = "%PDF-1.4" ∧
            post.mediaType = "application/pdf" ∧
            Json.read none post.types = .ok (.obj [("total",.str "number")]) ∧ post.schema = none) ∧
          reaction.answer = .ok ⟨503,some (.obj [("detail",.str "busy")])⟩ := by
  refine ⟨rfl,?_⟩
  intro client roomy
  refine ⟨rfl,?_⟩
  obtain ⟨posted,carried,relayed⟩ :=
    Service.document_sent_iff client busy (.form priced) priced receipt pricedText rfl rfl
  rw [roomy] at posted carried relayed
  have sent := posted.mpr ⟨by decide,by decide,_,priced_given,by decide⟩
  refine ⟨sent,?_,?_⟩
  · intro post member
    obtain ⟨submission,same,_,carries⟩ := carried post member
    cases priced_given.symm.trans same
    refine ⟨carries.filename,carries.content,carries.mediaType,carries.types,?_⟩
    by_contra listed
    obtain ⟨items,other⟩ := carries.listed.mp (Option.ne_none_iff_exists'.mp listed)
    cases priced_read.symm.trans other
  · have failed : (client.send receipt (typeMapJson [("total",.number)]) none busy).result =
        .error (.processing "busy" (some 503)) := by
      have steady : ∀ number, busy number = .answer 503 "busy" := fun _ => rfl
      rw [Client.send_steady steady,roomy]
      exact busy_result
    obtain ⟨number,given,_,_,same,told⟩ := relayed _ _ _ sent priced_given failed
    rw [told busy_tellable]
    have constant : (Outcome.answer 503 "busy").Relayed (some 900) given := same
    cases constant with
    | told least other modified found =>
      cases busy_reason.symm.trans found
      rfl
    | bare _ bodiless => omega

-- A service that has nothing new to say of a document, and says so.
def unchangedText : String := "\x7b\"detail\":\"unchanged\"\x7d"

def unmodified : Nat → Outcome := fun _ => .answer 304 unchangedText

-- The reason is lost with the status.
theorem unmodified_bare :
    Processing.readParts priced = .accepted (receipt,pricedText) ∧
      ∀ client : Client, client.room = some 900 →
        (Body.form priced).readForm client.charsets = .ok priced ∧
        (client.send receipt (typeMapJson [("total",.number)]) none unmodified).result =
            .error (.processing "unchanged" (some 304)) ∧
          (Service.handle client ⟨"POST","/process",.form priced⟩ unmodified).answer = .ok ⟨304,none⟩ ∧
          (Service.handle client ⟨"POST","/process",.form priced⟩ unmodified).answer ≠
            .ok ⟨304,some (.obj [("detail",.str "unchanged")])⟩ := by
  refine ⟨rfl,?_⟩
  intro client roomy
  refine ⟨rfl,?_⟩
  have reason : reasonIn (some 900) unchangedText = .ok "unchanged" := by decide +kernel
  have failed : (client.send receipt (typeMapJson [("total",.number)]) none unmodified).result =
      .error (.processing "unchanged" (some 304)) := by
    have steady : ∀ number, unmodified number = .answer 304 unchangedText := fun _ => rfl
    rw [Client.send_steady steady,roomy,Outcome.result,reason]
    rfl
  have sends := priced_sends roomy
  have answer : (Service.handle client ⟨"POST","/process",.form priced⟩ unmodified).answer =
      .ok ⟨304,none⟩ := by
    rw [Service.handle_process,Processing.run_sends sends,Reaction.sent,Processing.send,failed]
    rfl
  exact ⟨failed,answer,by simp [answer]⟩

end ExtractionSchema
