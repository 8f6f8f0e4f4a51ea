import ExtractionSchema.Edit.Request
import ExtractionSchema.Template

namespace ExtractionSchema

inductive FieldStep where
  | setType (type : Json)
  | setFormat (format : Json)
  | setAttributes (changes : List (Text × Json))
  | addExample (text : Json)
  | removeExample (position : Position)
  | addProperty
  | removeProperty (position : Position)
  | updateProperty (position : Position) (property : Json)
  | setItems (item : Json)
  deriving Repr

namespace FieldStep

def apply (step : FieldStep) (field : Field) : Except Failure Field :=
  match step with
  | .setType type => (Field.typeOf type).map field.setType
  | .setFormat format => field.setFormatBy (Field.formatOf format)
  | .setAttributes changes => field.setAttributes changes
  | .addExample text => (Field.exampleText text).map field.addExample
  | .removeExample position => field.removeExample position
  | .addProperty => field.addProperty
  | .removeProperty position => field.removeProperty position
  | .updateProperty position property => field.updateProperty position (Field.parse property)
  | .setItems item => field.setItems (Field.parse item)

-- Whether the step has nothing to do: the type is the field's own, or the example is blank.
def isIdle (step : FieldStep) (field : Field) : Bool :=
  match step with
  | .setType type => (Field.typeOf type).toOption == some field.type
  | .addExample text => (Field.exampleText text).toOption.any Text.isBlankText
  | _ => false

structure Report where
  field : Field
  idle : Bool
  deriving Repr

def run (field : Field) : List FieldStep → List (Except Failure Report)
  | [] => []
  | step :: rest =>
    match step.apply field with
    | .error failure => .error failure :: run field rest
    | .ok next => .ok ⟨next,step.isIdle field⟩ :: run next rest

end FieldStep

inductive TreeStep where
  | addField (field : Json)
  | updateField (position : Position) (field : Json)
  | removeField (position : Position)
  | edit (request : Json)
  | resolve (template : Json) (merging : Bool)
  | merge (incoming : Json)
  deriving Repr

def TreeStep.apply (step : TreeStep) (tree : FieldTree) : Except Failure FieldTree :=
  match step with
  | .addField field => tree.addField (Field.parse field)
  | .updateField position field => tree.updateField position (Field.parse field)
  | .removeField position => tree.removeField position
  | .edit request => tree.applyJson request
  | .resolve template merging => tree.resolve template merging
  | .merge incoming => liftTree ((FieldTree.parse incoming).map tree.merge)

structure TreeSession where
  current : FieldTree
  past : List FieldTree
  deriving Repr

namespace TreeSession

inductive Move where
  | step (step : TreeStep)
  | undo
  deriving Repr

def start (tree : FieldTree) : TreeSession := ⟨tree,[]⟩

def advance (session : TreeSession) (step : TreeStep) : Except Failure TreeSession :=
  (step.apply session.current).map fun next => ⟨next,session.current :: session.past⟩

-- Undoing on the first tree changes nothing.
def undo (session : TreeSession) : TreeSession :=
  match session.past with
  | [] => session
  | tree :: earlier => ⟨tree,earlier⟩

def move (session : TreeSession) : Move → Except Failure TreeSession
  | .step step => session.advance step
  | .undo => .ok session.undo

def run (session : TreeSession) : List Move → List (Except Failure FieldTree)
  | [] => []
  | next :: rest =>
    match session.move next with
    | .error failure => .error failure :: session.run rest
    | .ok moved => .ok moved.current :: moved.run rest

end TreeSession

end ExtractionSchema
