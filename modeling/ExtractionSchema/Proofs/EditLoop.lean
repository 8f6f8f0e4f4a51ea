import ExtractionSchema.Proofs.Compilation
import ExtractionSchema.Proofs.PlainPayloads
import ExtractionSchema.Proofs.Validation

namespace ExtractionSchema

theorem FieldEdit.read_direct {raw : Json} {edit : FieldEdit} (read : read .request raw = .accepted edit) :
    FieldEdit.read .direct raw = .accepted edit := by
  cases raw with
  | obj members => exact read
  | _ => cases read

namespace Builder

theorem readEditRequest_accepted_iff {members : List (Text × Json)} {request : EditRequest} :
    readEditRequest (.obj members) = .accepted request ↔
      readFields members = .accepted request.fields ∧
        Accept.requiredMember "edit" (FieldEdit.read .request) members = .accepted request.edit := by
  have own : readEditRequest (.obj members) =
      ((readFields members).both
        (Accept.requiredMember "edit" (FieldEdit.read .request) members)).map
          fun parts => ⟨parts.1,parts.2⟩ := rfl
  rw [own,Verdict.both_map_accepted_iff]
  constructor
  · intro read
    obtain ⟨fields,given,edit,asked,same⟩ := read
    cases same
    exact ⟨given,asked⟩
  · intro read
    exact ⟨request.fields,read.1,request.edit,read.2,rfl⟩

theorem readEditRequest_given {members : List (Text × Json)} {fields edit : Json}
    {request : EditRequest} (read : readEditRequest (.obj members) = .accepted request)
    (given : members.lookup ("fields" : Text) = some fields) (asked : members.lookup ("edit" : Text) = some edit) :
    FieldTree.parse fields = .ok request.fields ∧
      FieldEdit.read .request edit = .accepted request.edit := by
  obtain ⟨own,other⟩ := readEditRequest_accepted_iff.mp read
  constructor
  · rcases Accept.member_accepted_iff.mp own with ⟨absent,_⟩ | ⟨raw,present,listed⟩
    · cases given.symm.trans absent
    · cases given.symm.trans present
      exact Verdict.orTreeError_ok_iff.mpr listed
  · obtain ⟨raw,present,read⟩ := Accept.requiredMember_accepted_iff.mp other
    cases asked.symm.trans present
    exact read

-- An answer that shows a tree, and its schema once it is complete.
def Shows (answer : Json) (tree : FieldTree) : Prop :=
  ∃ schema, answer = .obj [("fields",tree.toResponse),("schema",schema)] ∧
    (tree.WellFormed → tree.compile = .ok schema) ∧ (¬ tree.WellFormed → schema = .null)

theorem edit_shows {request : EditRequest} {answer : Json}
    (told : (edit request).bind Answer.sent = .ok ⟨200,some answer⟩) :
    ∃ tree, request.fields.applyEdit request.edit = .ok tree ∧ Shows answer tree := by
  cases edited : request.fields.applyEdit request.edit with
  | error failure =>
    obtain ⟨given,same,status,_⟩ := answered_sent_iff.mp ⟨_,told,rfl⟩
    rw [edit,edited] at same
    exact absurd ⟨given,same,status⟩ (failure_not_ok failure)
  | ok tree =>
    obtain ⟨schema,made,beside⟩ := edit_shown edited
    rw [made] at told
    obtain ⟨same,_⟩ := (shown_sent_iff beside).mp told
    cases same
    refine ⟨tree,rfl,schema,rfl,?_,?_⟩
    · exact fun sound => beside.compiled (FieldTree.isWellFormed_iff.mpr sound)
    · intro unsound
      rw [← FieldTree.isWellFormed_iff,Bool.not_eq_true] at unsound
      exact beside.unset.mpr unsound

end Builder

namespace Service

def Answers (client : Client) (outcomes : Nat → Outcome) (fields edit answer : Json) : Prop :=
  ∃ body members, body.readJson client.room = .ok (.obj members) ∧ members.lookup ("fields" : Text) = some fields ∧
    members.lookup ("edit" : Text) = some edit ∧
    (handle client ⟨"POST","/schema/edit",body⟩ outcomes).answer = .ok ⟨200,some answer⟩

-- Edits and their answers, where every request but the first has the fields of the answer before it.
inductive Loop (client : Client) (outcomes : Nat → Outcome) : Json → List (Json × Json) → Prop where
  | done {fields} : Loop client outcomes fields []
  | step {fields edit answer next rest} (answered : Answers client outcomes fields edit answer)
      (returned : answer.members.lookup ("fields" : Text) = some next) (later : Loop client outcomes next rest) :
      Loop client outcomes fields ((edit,answer) :: rest)

variable {client : Client} {outcomes : Nat → Outcome} {fields edit answer : Json}

-- One request: what it brings along is a tree, and the answer shows the edited one.
theorem answers_shows (answered : Answers client outcomes fields edit answer) :
    ∃ start tree, FieldTree.parse fields = .ok start ∧ start.applyJson edit = .ok tree ∧
      Builder.Shows answer tree := by
  obtain ⟨body,members,carried,given,asked,told⟩ := answered
  rw [edit_routed] at told
  obtain ⟨own,made,status,_⟩ := answered_sent_iff.mp ⟨_,told,rfl⟩
  obtain ⟨value,request,same,read,_⟩ := Builder.onBody_answered_iff.mp ⟨own,made,status⟩
  cases carried.symm.trans same
  simp only [Builder.onBody,carried,answerRead,read] at told
  obtain ⟨tree,edited,shows⟩ := Builder.edit_shows told
  obtain ⟨parsed,change⟩ := Builder.readEditRequest_given read given asked
  refine ⟨request.fields,tree,parsed,?_,shows⟩
  rw [FieldTree.applyJson,FieldEdit.read_direct change]
  exact edited

end Service

def FieldTree.applyEach (edits : List Json) (tree : FieldTree) : Except Failure FieldTree :=
  edits.foldlM (fun tree edit => tree.applyJson edit) tree

theorem FieldTree.applyEach_cons {tree between : FieldTree} {edit : Json}
    (edited : tree.applyJson edit = .ok between) (edits : List Json) :
    tree.applyEach (edit :: edits) = between.applyEach edits := by
  rw [applyEach,List.foldlM_cons,edited]
  rfl

theorem Builder.Shows.fields {answer : Json} {tree : FieldTree} (shows : Shows answer tree) :
    answer.members.lookup ("fields" : Text) = some tree.toResponse := by
  obtain ⟨schema,rfl,_⟩ := shows
  rfl

-- The induction is over the requests: the tree that one of them brings along is the one shown by
-- the answer before it, since nothing else is read from it.
theorem Service.Loop.kept {client : Client} {outcomes : Nat → Outcome} {initial : Json}
    {exchanges : List (Json × Json)} (loop : Loop client outcomes initial exchanges)
    (begun : exchanges ≠ []) :
    ∃ start, FieldTree.parse initial = .ok start ∧
      ∀ before edit answer after, exchanges = before ++ (edit,answer) :: after →
        ∃ tree, start.applyEach (before.map (·.1) ++ [edit]) = .ok tree ∧
          Builder.Shows answer tree ∧ (after ≠ [] → FieldTree.parse tree.toResponse = .ok tree) := by
  induction loop with
  | done => exact absurd rfl begun
  | @step fields edit answer next rest answered returned later ih =>
    obtain ⟨start,tree,parsed,edited,shows⟩ := answers_shows answered
    cases returned.symm.trans shows.fields
    refine ⟨start,parsed,?_⟩
    intro before change told after split
    cases before with
    | nil =>
      obtain ⟨same,rfl⟩ := List.cons.inj split
      cases same
      refine ⟨tree,FieldTree.applyEach_cons edited [],shows,?_⟩
      intro more
      obtain ⟨again,read,_⟩ := ih more
      rw [read,FieldTree.parse_written_only read]
    | cons first before =>
      obtain ⟨same,rfl⟩ := List.cons.inj split
      cases same
      obtain ⟨again,read,each⟩ := ih (by simp)
      cases FieldTree.parse_written_only read
      obtain ⟨last,folded,shown,more⟩ := each before change told after rfl
      refine ⟨last,?_,shown,more⟩
      rw [List.map_cons,List.cons_append,FieldTree.applyEach_cons edited]
      exact folded

-- A field is added without a word, and then it gets its name.
def addingJson : Json := .obj [("op",.str "add_field")]

def namingJson : Json :=
  .obj [("op",.str "set_attributes"),("index",.int 0),("attributes",.obj [("name",.str "total")])]

def untitled : FieldTree := [.blank]

def addingBody : Body :=
  .raw "\x7b\"fields\":[],\"edit\":\x7b\"op\":\"add_field\"\x7d\x7d" "application/json"

def namingBody : Body :=
  .raw ("\x7b\"fields\":[\x7b\"name\":\"\",\"required\":true,\"description\":null,\"examples\":[],"
    ++ "\"type\":\"string\",\"format\":null\x7d],\"edit\":\x7b\"op\":\"set_attributes\",\"index\":0,"
    ++ "\"attributes\":\x7b\"name\":\"total\"\x7d\x7d\x7d") "application/json"

def addingAnswer : Json := .obj [("fields",untitled.toResponse),("schema",.null)]

def namingAnswer : Json :=
  .obj [("fields",total.toResponse),("schema",.obj [("type",.str "object"),
    ("properties",.obj [("total",.obj [("type",.str "string")])]),
    ("required",.arr [.str "total"]),("additionalProperties",.bool false)])]

theorem naming_looped {client : Client} (room : client.room = some 900) (outcomes : Nat → Outcome) :
    Service.Loop client outcomes (.arr []) [(addingJson,addingAnswer),(namingJson,namingAnswer)] := by
  have added : addingBody.readJson client.room =
      .ok (.obj [("fields",.arr []),("edit",addingJson)]) := by
    rw [room]
    decide +kernel
  have named : namingBody.readJson client.room =
      .ok (.obj [("fields",untitled.toResponse),("edit",namingJson)]) := by
    rw [room]
    decide +kernel
  refine .step ⟨addingBody,_,added,rfl,rfl,?_⟩ rfl (.step ⟨namingBody,_,named,rfl,rfl,?_⟩ rfl .done)
  · rw [Service.edit_routed,Builder.onBody,added]
    rfl
  · rw [Service.edit_routed,Builder.onBody,named]
    rfl

def nested : Nat → Field
  | 0 => .string .initial none
  | layers + 1 => .array .initial (some (nested layers))

theorem nested_depth (layers : Nat) : (nested layers).depth = layers := by
  induction layers with
  | zero => rfl
  | succ layers ih => rw [nested,Field.depth,ih]

theorem nested_said {layers : Nat} {text : Text} (said : (nested layers).Says text) : text = "" := by
  induction layers with
  | zero =>
    cases said with
    | name => rfl
    | description given => cases given
    | sample given => cases given
  | succ layers ih =>
    cases said with
    | name => rfl
    | description given => cases given
    | sample given => cases given
    | item inner => exact ih inner

def bareRows : FieldTree := [.array ⟨"rows",true,none,[]⟩ none]

def deepRows : FieldTree := [.array ⟨"rows",true,none,[]⟩ (some (nested 253))]

def settingItems (item : Json) : Json :=
  .obj [("op",.str "set_items"),("index",.str "0"),("item",item)]

def deepening : Json := settingItems ((nested 253).toJson .null)

def deepeningEdit : FieldEdit :=
  ⟨.setItems,some 0,none,none,none,[],none,none,none,none,some (nested 253)⟩

theorem deepening_read : FieldEdit.read .request deepening = .accepted deepeningEdit := by
  have fits : (nested 253).depth ≤ nestingLimit := by
    rw [nested_depth]
    decide
  have item : FieldEdit.optionalMember "item" Field.read
      [("op",.str "set_items"),("index",.str "0"),("item",(nested 253).toJson .null)] =
        .accepted (some (nested 253)) := by
    refine Accept.member_accepted_iff.mpr (.inr ⟨_,rfl,?_⟩)
    refine Accept.optional_accepted_iff.mpr (.inr ⟨Field.toJson_not_null .null _,_,?_,rfl⟩)
    exact Field.read_toJson .null fits
  simp only [FieldEdit.read,deepening,settingItems,Accept.record,FieldEdit.readMembers,item]
  rfl

theorem settingItems_nesting {fields item : Json} {layers : Nat} (shallow : fields.nesting ≤ layers)
    (deep : item.nesting ≤ layers) :
    (Json.obj [("fields",fields),("edit",settingItems item)]).nesting ≤ layers + 2 := by
  simp only [settingItems,Json.nesting,Json.nestingOf]
  omega

theorem deepening_carried : ∃ body : Body, body.readJson (some 900) =
    .ok (.obj [("fields",bareRows.toResponse),("edit",deepening)]) := by
  apply Body.carries_plain
  · have change : deepening.Plain := by
      refine .obj (by decide) ?_
      simp [Json.Plain.str,Field.toJson_plain]
    refine .obj (by decide) ?_
    simp only [List.forall_mem_cons]
    exact ⟨FieldTree.written_plain .null bareRows,change,by simp⟩
  · have item : ((nested 253).toJson .null).nesting ≤ 508 := by
      have layers := Field.toJson_nesting .null (nested 253)
      rwa [nested_depth] at layers
    have fields : bareRows.toResponse.nesting ≤ 508 := by decide
    rintro most ⟨⟩
    exact Nat.le_trans (settingItems_nesting fields item) (by decide)

def deepeningRequest : Builder.EditRequest := ⟨bareRows,deepeningEdit⟩

theorem deepening_accepted :
    Builder.readEditRequest (.obj [("fields",bareRows.toResponse),("edit",deepening)]) =
      .accepted deepeningRequest := by
  refine Builder.readEditRequest_accepted_iff.mpr ⟨rfl,?_⟩
  exact Accept.requiredMember_accepted_iff.mpr ⟨deepening,rfl,deepening_read⟩

theorem deepRows_whole : ∀ text, deepRows.Says text → text.isWhole = true := by
  intro text told
  obtain ⟨field,member,said⟩ := told
  cases List.mem_singleton.mp member
  cases said with
  | name => rfl
  | description given => cases given
  | sample given => cases given
  | item inner =>
    rw [nested_said inner]
    rfl

end ExtractionSchema
