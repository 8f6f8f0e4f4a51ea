import ExtractionSchema.Proofs.Compilation
import ExtractionSchema.Proofs.PlainPayloads
import ExtractionSchema.Proofs.SubmittedSchemas

namespace ExtractionSchema

namespace Builder

def asking (items : List Json) : Json := .obj [("fields",.arr items)]

theorem readTreeRequest_accepted_iff {items : List Json} {tree : FieldTree} :
    readTreeRequest (asking items) = .accepted tree ↔ FieldTree.parse (.arr items) = .ok tree := by
  have own : readTreeRequest (asking items) =
      (FieldTree.read (.arr items)).within (.key "fields") := rfl
  rw [own,Verdict.within_accepted_iff,FieldTree.parse,Verdict.orTreeError_ok_iff]

-- What is answered for a tree that compiles.
def compiled (schema : Json) (types : Entries FieldType) : Json :=
  .obj [("schema",schema),("type_map",typeMapJson types)]

theorem compile_given {tree : FieldTree} {schema : Json} (made : tree.compile = .ok schema) :
    compile tree = .ok (compiled schema tree.typeMap) := by
  rw [compile,made]
  rfl

-- The types are told, and they are words of ours. Names of members need not be whole.
theorem compiled_tellable_iff {schema : Json} {types : Entries FieldType} :
    (compiled schema types).Tellable ↔ schema.Tellable := by
  constructor
  · intro whole text told
    exact whole text (.under "schema" (by simp) told)
  · intro whole text told
    cases told with
    | value found inner =>
      rcases List.mem_pair.mp found with rfl | rfl
      · exact whole text inner
      · cases inner with
        | value listed inner =>
          obtain ⟨entry,_,rfl⟩ := List.mem_map.mp listed
          cases inner
          exact Text.isWhole_iff.mpr ⟨_,rfl⟩

theorem compile_answered_iff {tree : FieldTree} :
    AnsweredWith 200 (.ok (compile tree)) ↔ ∃ schema, tree.compile = .ok schema := by
  cases made : tree.compile with
  | ok schema => exact iff_of_true ⟨_,rfl,by rw [compile_given made]; rfl⟩ ⟨schema,rfl⟩
  | error error =>
    refine iff_of_false ?_ (by simp)
    rw [compile,made]
    exact failure_not_ok (.tree error)

end Builder

theorem Service.compile_routed (client : Client) (body : Body) (outcomes : Nat → Outcome) :
    (handle client ⟨"POST","/schema/compile",body⟩ outcomes).answer =
      (Builder.onBody client.room body Builder.readTreeRequest (.ok <| Builder.compile ·)).bind Answer.sent := by
  have found : Route.ofTarget? "/schema/compile" = some .compile := by decide +kernel
  rw [handle_post found rfl]
  rfl

namespace Submission

-- Whether the schema of a submission can be told in a record.
def Tellable (submission : Submission) : Prop := ∀ schema ∈ submission.schema, schema.Tellable

variable {room : Json.Room} {text : List Code} {items : List Json} {body : Body} {client : Client}

theorem read_answer (found : Json.read room text = .ok (.arr items))
    (carried : body.readJson client.room = .ok (Builder.asking items)) (outcomes : Nat → Outcome)
    {submission : Submission} (given : read room text = .ok submission) :
    ∃ schema, submission.schema = some schema ∧
      (Service.handle client ⟨"POST","/schema/compile",body⟩ outcomes).answer =
        (Answer.ok (Builder.compiled schema submission.types)).sent := by
  obtain ⟨tree,schema,parsed,made,rfl⟩ := (read_list_iff found).mp given
  refine ⟨schema,rfl,?_⟩
  have accepted := Builder.readTreeRequest_accepted_iff.mpr parsed
  rw [Service.compile_routed,Builder.onBody,carried]
  simp only [answerRead,accepted,Builder.compile_given made]
  rfl

theorem answered_read (found : Json.read room text = .ok (.arr items))
    (carried : body.readJson client.room = .ok (Builder.asking items)) {outcomes : Nat → Outcome}
    (answered : AnsweredWith 200
      (Service.handle client ⟨"POST","/schema/compile",body⟩ outcomes).answer) :
    ∃ submission, read room text = .ok submission := by
  rw [Service.compile_routed] at answered
  obtain ⟨given,made,status,_⟩ := answered_sent_iff.mp answered
  obtain ⟨value,tree,same,accepted,well⟩ := Builder.onBody_answered_iff.mp ⟨given,made,status⟩
  cases carried.symm.trans same
  obtain ⟨schema,compiled⟩ := Builder.compile_answered_iff.mp well
  have parsed := Builder.readTreeRequest_accepted_iff.mp accepted
  exact ⟨_,(read_list_iff found).mpr ⟨tree,schema,parsed,compiled,rfl⟩⟩

-- Both read the list with the one reader, and compile the tree that it gives.
theorem read_answered_iff (found : Json.read room text = .ok (.arr items))
    (carried : body.readJson client.room = .ok (Builder.asking items)) (outcomes : Nat → Outcome) :
    (∃ submission, read room text = .ok submission ∧ submission.Tellable) ↔
      AnsweredWith 200 (Service.handle client ⟨"POST","/schema/compile",body⟩ outcomes).answer := by
  constructor
  · intro given
    obtain ⟨submission,read,tellable⟩ := given
    obtain ⟨schema,own,answer⟩ := read_answer found carried outcomes read
    rw [answer,ok_answered_iff,Builder.compiled_tellable_iff]
    exact tellable schema own
  · intro answered
    obtain ⟨submission,read⟩ := answered_read found carried answered
    obtain ⟨schema,own,answer⟩ := read_answer found carried outcomes read
    rw [answer,ok_answered_iff,Builder.compiled_tellable_iff] at answered
    refine ⟨submission,read,?_⟩
    intro other same
    cases own.symm.trans same
    exact answered

theorem read_payload_iff {tree : FieldTree} {schema : Json} (compiled : tree.compile = .ok schema)
    (found : Json.read room text = .ok tree.toPayload) :
    read room text = .ok ⟨tree.typeMap,some schema⟩ ↔ Field.depthAmong tree ≤ nestingLimit := by
  rw [read_list_iff found,← FieldTree.parse_written]
  constructor
  · intro given
    obtain ⟨other,_,parsed,_⟩ := given
    cases FieldTree.parse_written_only parsed
    exact parsed
  · intro parsed
    exact ⟨tree,schema,parsed,compiled,rfl⟩

end Submission

def prices : FieldTree := [.array ⟨"prices",false,none,[]⟩ (some (.number ⟨"",true,none,[]⟩))]

def pricesText : String :=
  "[\x7b\"name\":\"prices\",\"required\":false,\"examples\":[],\"type\":\"array\",\"items\":"
    ++ "\x7b\"name\":\"\",\"required\":true,\"examples\":[],\"type\":\"number\"\x7d\x7d]"

def pricesBody : Body := .raw ("\x7b\"fields\":" ++ pricesText ++ "\x7d") "application/json"

-- The same for a field that is called by one half of a pair.
def halfText : String := "[\x7b\"name\":\"\\ud800\",\"type\":\"string\"\x7d]"

def halfFields : Json := .arr [.obj [("name",.str half),("type",.str "string")]]

def halfFieldsBody : Body := .raw ("\x7b\"fields\":" ++ halfText ++ "\x7d") "application/json"

end ExtractionSchema
