import ExtractionSchema.Proofs.Answers
import ExtractionSchema.Proofs.FieldReading
import ExtractionSchema.Proofs.Reasons

namespace ExtractionSchema

namespace Submission

variable {α β : Type}

-- All that reading a schema is said to come to.
def Promised (outcome : Except Failure α) : Prop :=
  (∃ value, outcome = .ok value) ∨ ∃ error, outcome = .error (.tree error)

theorem Promised.anticipated {outcome : Except Failure α} (promised : Promised outcome) :
    Anticipated outcome := by
  rcases promised with ⟨value,rfl⟩ | ⟨error,rfl⟩
  · exact .done value
  · exact .tree error

theorem promised_map {outcome : Except Failure α} (promised : Promised outcome) (f : α → β) :
    Promised (outcome.map f) := by
  rcases promised with ⟨value,rfl⟩ | ⟨error,rfl⟩
  · exact .inl ⟨f value,rfl⟩
  · exact .inr ⟨error,rfl⟩

theorem liftTree_promised (result : Except TreeError α) : Promised (liftTree result) := by
  cases result with
  | ok value => exact .inl ⟨value,rfl⟩
  | error error => exact .inr ⟨error,rfl⟩

def Typed (entry : Text × Json) : Prop :=
  entry.1 ≠ "" ∧ ∃ type : FieldType, entry.2 = .str type.name

-- The first entry that does not name a type has a container in its place. Its own name is not empty.
def Stumbles (members : List (Text × Json)) : Prop :=
  ∃ (before : List (Text × Json)) (name : Text) (value : Json) (rest : List (Text × Json)),
    members = before ++ (name,value) :: rest ∧
    (∀ entry ∈ before, Typed entry) ∧ name ≠ "" ∧ value.isScalar = false

theorem readEntry_typed {name : Text} (named : name ≠ "") (type : FieldType) :
    readEntry name (.str type.name) = .ok (name,type) := by
  have empty := Text.isEmpty_eq_false_iff.mpr named
  have known := Accept.fieldType_accepted_iff.mpr (rfl : Json.str type.name = .str type.name)
  simp [readEntry,empty,Json.isScalar,known]

theorem readEntry_container {name : Text} {value : Json} (named : name ≠ "")
    (container : value.isScalar = false) :
    readEntry name value = .error (.misuse (.notAKey value.kind)) := by
  have empty := Text.isEmpty_eq_false_iff.mpr named
  simp [readEntry,empty,container]

theorem readEntry_split (name : Text) (value : Json) :
    Typed (name,value) ∨ (name ≠ "" ∧ value.isScalar = false) ∨
      ∃ error, readEntry name value = .error (.tree error) := by
  by_cases named : name = ""
  · subst named
    exact .inr (.inr ⟨_,rfl⟩)
  · have filled := Text.isEmpty_eq_false_iff.mpr named
    cases scalar : value.isScalar with
    | false => exact .inr (.inl ⟨named,rfl⟩)
    | true =>
      cases read : Accept.fieldType value with
      | accepted type => exact .inl ⟨named,type,Accept.fieldType_accepted_iff.mp read⟩
      | rejected first rest =>
        exact .inr (.inr ⟨⟨.unknownType value,some name⟩,by simp [readEntry,filled,scalar,read]⟩)

theorem stumbles_cons {entry : Text × Json} {rest : List (Text × Json)} (typed : Typed entry)
    (stumbles : Stumbles rest) : Stumbles (entry :: rest) := by
  obtain ⟨before,name,value,left,rfl,each,named,container⟩ := stumbles
  exact ⟨entry :: before,name,value,left,rfl,List.forall_mem_cons.mpr ⟨typed,each⟩,named,container⟩

theorem readMap_typed {entry : Text × Json} (typed : Typed entry) (rest : List (Text × Json)) :
    ∃ read, readMap (entry :: rest) = (readMap rest).map (read :: ·) := by
  obtain ⟨name,value⟩ := entry
  obtain ⟨named,type,same⟩ := typed
  cases same
  exact ⟨(name,type),by rw [readMap,readEntry_typed named type]⟩

theorem readMap_stumbles {members : List (Text × Json)} (stumbles : Stumbles members) :
    ∃ kind, readMap members = .error (.misuse (.notAKey kind)) := by
  obtain ⟨before,name,value,rest,rfl,each,named,container⟩ := stumbles
  induction before with
  | nil => exact ⟨value.kind,by rw [List.nil_append,readMap,readEntry_container named container]⟩
  | cons entry before later =>
    obtain ⟨typed,after⟩ := List.forall_mem_cons.mp each
    obtain ⟨kind,failed⟩ := later after
    obtain ⟨read,step⟩ := readMap_typed typed (before ++ (name,value) :: rest)
    exact ⟨kind,by rw [List.cons_append,step,failed]; rfl⟩

theorem readMap_promised {members : List (Text × Json)} (steady : ¬ Stumbles members) :
    Promised (readMap members) := by
  induction members with
  | nil => exact .inl ⟨[],rfl⟩
  | cons entry rest later =>
    obtain ⟨name,value⟩ := entry
    rcases readEntry_split name value with typed | ⟨named,container⟩ | ⟨error,failed⟩
    · obtain ⟨read,step⟩ := readMap_typed typed rest
      rw [step]
      exact promised_map (later fun stumbles => steady (stumbles_cons typed stumbles)) (read :: ·)
    · exact absurd ⟨[],name,value,rest,rfl,by simp,named,container⟩ steady
    · exact .inr ⟨error,by rw [readMap,failed]⟩

-- The text of a map that stumbles, or one that there is no room for.
def Trips (room : Json.Room) (text : List Code) : Prop :=
  (∃ members, Json.read room text = .ok (.obj members) ∧ Stumbles members) ∨ Json.TooDeep room text

variable {room : Json.Room} {text : List Code}

theorem read_trips (trips : Trips room text) : ∃ misuse, read room text = .error (.misuse misuse) := by
  rcases trips with ⟨members,found,stumbles⟩ | ⟨error,container,found,deep⟩
  · obtain ⟨kind,failed⟩ := readMap_stumbles stumbles
    exact ⟨.notAKey kind,by simp only [read,found,ofJson,failed]; rfl⟩
  · exact ⟨.nestedTooDeep container,by simp only [read,found,deep,Json.ReadFault.tooDeep?]⟩

theorem read_promised (steady : ¬ Trips room text) : Promised (read room text) := by
  unfold read
  cases found : Json.read room text with
  | error error =>
    have shallow : error.fault.tooDeep? = none := by
      rw [← Option.not_isSome_iff_eq_none,Json.ReadFault.tooDeep_iff]
      intro deep
      obtain ⟨container,deep⟩ := deep
      exact steady (.inr ⟨error,container,found,deep⟩)
    simp only [shallow]
    exact .inr ⟨_,rfl⟩
  | ok value =>
    cases value with
    | obj members =>
      have steadily : ¬ Stumbles members := fun stumbles => steady (.inl ⟨members,found,stumbles⟩)
      exact promised_map (readMap_promised steadily) _
    | arr items =>
      simp only [ofJson]
      cases FieldTree.parse (.arr items) with
      | error error => exact .inr ⟨error,rfl⟩
      | ok tree => exact liftTree_promised (ofTree tree)
    | _ => exact .inr ⟨_,rfl⟩

theorem read_promised_iff : Promised (read room text) ↔ ¬ Trips room text := by
  constructor
  · intro promised trips
    obtain ⟨misuse,failed⟩ := read_trips trips
    have announced := promised.anticipated
    rw [failed] at announced
    cases announced
  · exact read_promised

-- A schema that is turned down is answered unless it trips, as long as the reason can be told.
theorem failure_answered {failure : Failure} (failed : read room text = .error failure) :
    AnsweredWith 400 (failure.answer.bind Answer.sent) ↔
      ¬ Trips room text ∧ ∀ reason, failure.Tells reason → reason.isWhole = true := by
  have known : Anticipated (.error failure : Except Failure Submission) ↔ ¬ Trips room text := by
    constructor
    · intro announced trips
      obtain ⟨misuse,misused⟩ := read_trips trips
      rw [← failed,misused] at announced
      cases announced
    · intro steady
      exact failed ▸ (read_promised steady).anticipated
  exact failure_sent_iff.trans (and_congr_left' known)

end Submission

-- The document is looked at before its schema, and answered for first.
theorem Processing.rejection_answered_iff {client : Client} {body : Body} {form : Form}
    {document : Document} {schema : String} {failure : Failure} {outcomes : Nat → Outcome}
    (formed : body.readForm client.charsets = .ok form)
    (parts : readParts form = .accepted (document,schema))
    (failed : Submission.read client.room schema = .error failure) :
    AnsweredWith 400 ((run client body outcomes).answer.bind Answer.sent) ↔
      document.filename = "" ∨ document.content = "" ∨
        ¬ Submission.Trips client.room schema ∧ ∀ reason, failure.Tells reason → reason.isWhole = true := by
  simp only [run,formed,parts,accept,String.isEmpty_iff]
  by_cases unnamed : document.filename = ""
  · rw [if_pos unnamed]
    exact iff_of_true ⟨_,rfl,rfl⟩ (.inl unnamed)
  by_cases hollow : document.content = ""
  · rw [if_neg unnamed,if_pos hollow]
    exact iff_of_true ⟨_,rfl,rfl⟩ (.inr (.inl hollow))
  · simp only [unnamed,hollow,if_false,failed,false_or]
    exact Submission.failure_answered failed

theorem Service.handle_process (client : Client) (body : Body) (outcomes : Nat → Outcome) :
    handle client ⟨"POST","/process",body⟩ outcomes = (Processing.run client body outcomes).sent := by
  have found : Route.ofTarget? "/process" = some .process := by decide +kernel
  exact handle_post found rfl client body outcomes

def receipt : Document := ⟨"%PDF-1.4","receipt.pdf",some "application/pdf"⟩

def counted : Form := [.file "file" receipt,.text "schema" "1"]

def listedText : String := "\x7b\"total\": []\x7d"

def listedForm : Form := [.file "file" receipt,.text "schema" listedText]

end ExtractionSchema
