import ExtractionSchema.Edit.Request
import ExtractionSchema.Field
import ExtractionSchema.Schema
import ExtractionSchema.Service.Answer
import ExtractionSchema.Service.Body
import ExtractionSchema.Template

namespace ExtractionSchema

namespace Builder

def readFields (members : List (Text × Json)) : Verdict FieldTree :=
  Accept.member "fields" FieldTree.read [] members

-- Without a list of fields the tree is empty.
def readTreeRequest : Json → Verdict FieldTree := Accept.record .request "FieldTreeRequest" readFields

structure ResolveRequest where
  fields : FieldTree
  template : Text
  merging : Bool
  deriving Repr

def readResolveRequest : Json → Verdict ResolveRequest :=
  Accept.record .request "ResolveRequest" fun members =>
    ((readFields members).both
      ((Accept.requiredMember "template" Accept.text members).both
        (Accept.member "merge" Accept.flag false members))).map
      fun (fields,template,merging) => ⟨fields,template,merging⟩

structure EditRequest where
  fields : FieldTree
  edit : FieldEdit
  deriving Repr

def readEditRequest : Json → Verdict EditRequest :=
  Accept.record .request "EditRequest" fun members =>
    ((readFields members).both
      (Accept.requiredMember "edit" (FieldEdit.read .request) members)).map
      fun (fields,edit) => ⟨fields,edit⟩

def health : Answer := .ok (.obj [("status",.str "ok")])

def templates : Answer :=
  .ok (.arr (Template.all.map fun template =>
    .obj [("key",.str template.key),("name",.str template.title)]))

def template (key : String) : Answer :=
  match Template.ofKey? key with
  | none => .detail 404 (templateMessage (.str key))
  | some template =>
    .ok (.obj [("key",.str template.key),("name",.str template.title),
      ("fields",template.fields.toResponse)])

def treeAnswer (tree : FieldTree) : Answer := .ok (.obj [("fields",tree.toResponse)])

def options : Answer :=
  .ok (.obj [("types",.arr (FieldType.all.map fun type => .str type.name)),
    ("formats",.arr (Format.all.map fun format =>
      .obj [("value",.str format.name),("label",.str format.label)]))])

def compile (tree : FieldTree) : Answer :=
  match tree.compile with
  | .ok schema => .ok (.obj [("schema",schema),("type_map",typeMapJson tree.typeMap)])
  | .error error => .detail 400 error.message

def resolve (request : ResolveRequest) : Except Uncaught Answer :=
  match request.fields.resolve (.str request.template) request.merging with
  | .ok tree => .ok (treeAnswer tree)
  | .error failure => failure.answer

-- The compiled schema of a tree, or null while the tree is not well-formed.
def schemaOrNull (tree : FieldTree) : Except Uncaught Json :=
  if tree.isWellFormed then tree.compile.mapError .tree else .ok .null

def edit (request : EditRequest) : Except Uncaught Answer :=
  match request.fields.applyEdit request.edit with
  | .error failure => failure.answer
  | .ok tree =>
    (schemaOrNull tree).map fun schema =>
      .ok (.obj [("fields",tree.toResponse),("schema",schema)])

-- A place that takes a JSON body: the body is read first, then what it says.
def onBody {α : Type} (room : Json.Room) (body : Body) (read : Json → Verdict α)
    (respond : α → Except Uncaught Answer) : Except Uncaught Answer :=
  match body.readJson room with
  | .error (.invalid issue) => .ok (.invalid [issue])
  | .error .unreadable => .ok .unreadableBody
  | .ok value => answerRead value (read value) respond

end Builder

end ExtractionSchema
