import ExtractionSchema.Proofs.Answers
import ExtractionSchema.Proofs.EditSteps
import ExtractionSchema.Proofs.ShownTrees

namespace ExtractionSchema

variable {α : Type}

namespace Position

theorem index_given_anticipated (what : Indexed) (size : Nat) (given : Option Int) :
    Anticipated ((ofOption given).index what size) := by
  rcases slot_given what size given with ⟨place,_,_,found⟩ | ⟨_,refused⟩
  · rw [index,found]
    exact .done place
  · rw [index,refused]
    exact .refused _

end Position

theorem replaceAt_given_anticipated (what : Indexed) (items : List α) (given : Option Int)
    (candidate : Except TreeError α) :
    Anticipated (replaceAt what items (.ofOption given) candidate) := by
  rcases Position.slot_given what items.length given with ⟨place,_,_,found⟩ | ⟨_,refused⟩
  · rw [replaceAt,found]
    cases candidate with
    | ok item => exact .done _
    | error error => exact .tree error
  · rw [replaceAt,refused]
    exact .refused _

namespace Field

theorem setFormat_anticipated (format : Option Format) (field : Field) :
    Anticipated (field.setFormat format) := by
  cases field with
  | string attributes before => exact .done _
  | _ => exact .refused _

theorem setAttributes_anticipated_iff {changes : List (Text × Json)} {field : Field} :
    Anticipated (field.setAttributes changes) ↔ ("field" : Text) ∉ changes.map (·.1) := by
  by_cases known : ∀ change ∈ changes, change.1 ∈ Attributes.keys
  · rw [setAttributes_known field known]
    refine iff_of_true ?_ (known_free known)
    split
    · exact .done _
    · exact .refused _
  · rw [setAttributes_stray field known]
    split
    · rename_i reserved
      exact iff_of_false (by intro announced; cases announced) (not_not_intro reserved)
    · rename_i free
      exact iff_of_true (.refused _) free

theorem removeExample_given_anticipated (given : Option Int) (field : Field) :
    Anticipated (field.removeExample (.ofOption given)) := by
  rw [removeExample_map,Position.cut_given,anticipated_map_iff]
  exact Position.index_given_anticipated .example field.examples.length given

theorem editProperties_anticipated {step : List Field → Except Failure (List Field)}
    (each : ∀ properties, Anticipated (step properties)) (operation : String) (field : Field) :
    Anticipated (field.editProperties operation step) := by
  cases field with
  | object attributes properties => exact anticipated_map_iff.mpr (each properties)
  | _ => exact .refused _

theorem setItems_anticipated (candidate : Except TreeError Field) (field : Field) :
    Anticipated (field.setItems candidate) := by
  cases field with
  | array attributes before => exact liftTree_anticipated _
  | _ => exact .refused _

end Field

namespace FieldEdit

theorem onField_anticipated {edit : FieldEdit} (other : edit.operation ≠ .setAttributes)
    (field : Field) : Anticipated (edit.onField field) := by
  cases operation : edit.operation with
  | setAttributes => exact absurd operation other
  | setType =>
    simp only [onField,operation]
    cases edit.type with
    | some type => exact .done _
    | none => exact .refused _
  | setFormat =>
    simp only [onField,operation]
    exact Field.setFormat_anticipated edit.format field
  | removeExample =>
    simp only [onField,operation]
    exact Field.removeExample_given_anticipated edit.exampleIndex field
  | addProperty =>
    simp only [onField,operation]
    exact Field.editProperties_anticipated (fun _ => .done _) "add_property" field
  | removeProperty =>
    simp only [onField,operation]
    refine Field.editProperties_anticipated (fun properties => ?_) "remove_property" field
    rw [anticipated_map_iff,Position.cut_given]
    exact Position.index_given_anticipated .property properties.length edit.propertyIndex
  | updateProperty =>
    simp only [onField,operation]
    refine Field.editProperties_anticipated (fun properties => ?_) "update_property" field
    exact replaceAt_given_anticipated .property properties edit.propertyIndex _
  | setItems =>
    simp only [onField,operation]
    exact Field.setItems_anticipated (candidate edit.item) field
  | addExample | addField | updateField | removeField =>
    simp only [onField,operation]
    exact .done _

-- The edit sets attributes, one of them by the name that the call has for the field itself.
def Reserves (edit : FieldEdit) : Prop :=
  edit.operation = .setAttributes ∧ ("field" : Text) ∈ edit.attributes.map (·.1)

theorem onField_anticipated_iff {edit : FieldEdit} {field : Field} :
    Anticipated (edit.onField field) ↔ ¬ edit.Reserves := by
  by_cases operation : edit.operation = .setAttributes
  · simp only [onField,Reserves,operation,true_and]
    exact Field.setAttributes_anticipated_iff
  · exact iff_of_true (onField_anticipated operation field) fun reserves => operation reserves.1

-- An edit that reserves a name and selects a field, so that its attributes are looked at.
def Collides (edit : FieldEdit) (tree : FieldTree) : Prop :=
  edit.Reserves ∧ ∃ field, tree.Selects edit.index field

end FieldEdit

namespace FieldTree

theorem editAt_given_anticipated_iff {given : Option Int} {step : Field → Except Failure Field}
    {tree : FieldTree} :
    Anticipated (tree.editAt (.ofOption given) step) ↔
      ∀ field, tree.Selects given field → Anticipated (step field) := by
  rcases Position.slot_given .field tree.length given with ⟨place,rfl,inside,found⟩ | ⟨absent,refused⟩
  · have present := List.getElem?_eq_getElem inside
    simp only [editAt,Position.index,found,present,anticipated_map_iff]
    constructor
    · rintro done field ⟨other,same,chosen⟩
      cases Int.natCast_inj.mp (Option.some.inj same)
      exact Option.some.inj (present.symm.trans chosen) ▸ done
    · exact fun each => each _ ⟨place,rfl,present⟩
  · simp only [editAt,Position.index,refused]
    refine iff_of_true (.refused _) ?_
    rintro field ⟨place,chosen,present⟩
    exact absurd ⟨place,chosen,(List.getElem?_eq_some_iff.mp present).1⟩ absent

theorem applyEdit_list_anticipated {edit : FieldEdit} (own : ¬ edit.selectsField) (tree : FieldTree) :
    Anticipated (tree.applyEdit edit) := by
  cases operation : edit.operation with
  | addField =>
    simp only [applyEdit,operation]
    exact liftTree_anticipated _
  | updateField =>
    simp only [applyEdit,operation]
    cases edit.field with
    | none => exact .refused _
    | some field => exact replaceAt_given_anticipated .field tree edit.index (.ok field)
  | removeField =>
    simp only [applyEdit,operation,removeField,anticipated_map_iff]
    exact Position.index_given_anticipated .field tree.length edit.index
  | _ => exact absurd (by simp [FieldEdit.selectsField,operation]) own

theorem applyEdit_anticipated_iff {edit : FieldEdit} {tree : FieldTree} :
    Anticipated (tree.applyEdit edit) ↔ ¬ edit.Collides tree := by
  by_cases own : edit.selectsField
  · rw [applyEdit_onField own,editAt_given_anticipated_iff]
    simp only [FieldEdit.onField_anticipated_iff,FieldEdit.Collides,not_and,not_exists]
    exact ⟨fun each reserves field chosen => each field chosen reserves,
      fun free field chosen reserves => free reserves field chosen⟩
  · refine iff_of_true (applyEdit_list_anticipated own tree) ?_
    rintro ⟨⟨operation,_⟩,_⟩
    simp [FieldEdit.selectsField,operation] at own

theorem applyJson_anticipated_iff {raw : Json} {tree : FieldTree} :
    Anticipated (tree.applyJson raw) ↔
      ¬ ∃ edit, FieldEdit.read .direct raw = .accepted edit ∧ edit.Collides tree := by
  unfold applyJson
  cases read : FieldEdit.read .direct raw with
  | accepted edit => simp [applyEdit_anticipated_iff]
  | rejected first rest => exact iff_of_true (.refused _) (by simp)

end FieldTree

namespace Builder

-- The texts that the answer to an edit has to tell: those of the tree, or why there is none.
def Tells : Except Failure FieldTree → Text → Prop
  | .ok tree,text => tree.Says text
  | .error failure,text => failure.Tells text

theorem edit_answered_iff {request : EditRequest} :
    AnsweredWith 200 ((edit request).bind Answer.sent) ∨
        AnsweredWith 400 ((edit request).bind Answer.sent) ↔
      Anticipated (request.fields.applyEdit request.edit) ∧
        ∀ text, Tells (request.fields.applyEdit request.edit) text → text.isWhole = true := by
  cases outcome : request.fields.applyEdit request.edit with
  | ok tree =>
    obtain ⟨schema,made,beside⟩ := edit_shown outcome
    simp only [made,answered_sent_iff,Except.ok.injEq,exists_eq_left',shown_sent_iff beside]
    constructor
    · intro answered
      rcases answered with ⟨_,_,_,whole⟩ | ⟨failed,_⟩
      · exact ⟨.done tree,whole⟩
      · cases failed
    · intro known
      exact .inl ⟨rfl,_,rfl,known.2⟩
  | error failure =>
    have poor : ¬ AnsweredWith 200 (failure.answer.bind Answer.sent) := by
      intro answered
      obtain ⟨given,same,status,_⟩ := answered_sent_iff.mp answered
      exact failure_not_ok failure ⟨given,same,status⟩
    simp only [edit,outcome,poor,false_or]
    exact failure_sent_iff

end Builder

theorem Service.edit_routed (client : Client) (body : Body) (outcomes : Nat → Outcome) :
    (handle client ⟨"POST","/schema/edit",body⟩ outcomes).answer =
      (Builder.onBody client.room body Builder.readEditRequest Builder.edit).bind Answer.sent := by
  have found : Route.ofTarget? "/schema/edit" = some .edit := by decide +kernel
  rw [handle_post found rfl]
  rfl

theorem Service.edit_answer {client : Client} {body : Body} {value : Json}
    {request : Builder.EditRequest} (carried : body.readJson client.room = .ok value)
    (read : Builder.readEditRequest value = .accepted request) (outcomes : Nat → Outcome) :
    (handle client ⟨"POST","/schema/edit",body⟩ outcomes).answer =
      (Builder.edit request).bind Answer.sent := by
  rw [edit_routed]
  simp only [Builder.onBody,carried,answerRead,read]

def appendingBody : Body := .raw "\x7b\"edit\":\x7b\"op\":\"add_field\"\x7d\x7d" "application/json"

def appendingJson : Json := .obj [("op",.str "add_field")]

def appending : FieldEdit := ⟨.addField,none,none,none,none,[],none,none,none,none,none⟩

-- A field, and a change to it that names the argument for the field itself.
def total : FieldTree := [.string ⟨"total",true,none,[]⟩ none]

def straying : FieldEdit :=
  ⟨.setAttributes,some 0,none,none,none,[("field",.str "x")],none,none,none,none,none⟩

def strayingJson : Json :=
  .obj [("op",.str "set_attributes"),("index",.int 0),("attributes",.obj [("field",.str "x")])]

def strayingBody : Body :=
  .raw ("\x7b\"fields\":[\x7b\"name\":\"total\",\"type\":\"string\"\x7d],\"edit\":"
    ++ "\x7b\"op\":\"set_attributes\",\"index\":0,\"attributes\":\x7b\"field\":\"x\"\x7d\x7d\x7d")
    "application/json"

def strayingRequest : Json :=
  .obj [("fields",.arr [.obj [("name",.str "total"),("type",.str "string")]]),("edit",strayingJson)]

theorem strayingBody_carries : strayingBody.readJson (some 900) = .ok strayingRequest := by decide +kernel

end ExtractionSchema
