import ExtractionSchema.Failure
import ExtractionSchema.Field.Reader
import ExtractionSchema.Text

namespace ExtractionSchema

inductive Position where
  | unset
  | whole (index : Int)
  | flag (value : Bool)
  | real (value : Binary64)
  | other (kind : Json.Kind)
  deriving DecidableEq,Repr

inductive Slot where
  | at (index : Nat)
  | between
  deriving DecidableEq,Repr

namespace Position

def ofJson : Json → Position
  | .null => .unset
  | .int index => .whole index
  | .bool value => .flag value
  | .float value => .real value
  | value => .other value.kind

def ofOption : Option Int → Position
  | none => .unset
  | some index => .whole index

def text : Position → String
  | .unset => Json.null.display
  | .whole index => (Json.int index).display
  | .flag value => (Json.bool value).display
  | .real value => (Json.float value).display
  | .other kind => kind.name

def outside (what : Indexed) (size : Nat) (position : Position) : Failure :=
  .refused (.outOfRange what position.text size)

def slot (what : Indexed) (size : Nat) (position : Position) : Except Failure Slot :=
  match position with
  | .unset => .error (position.outside what size)
  | .whole index =>
    if 0 ≤ index ∧ index < size then .ok (.at index.toNat) else .error (position.outside what size)
  | .flag value =>
    if value.toNat < size then .ok (.at value.toNat) else .error (position.outside what size)
  | .real value =>
    if value.isNonNegative && value.isBelow size then .ok .between
    else .error (position.outside what size)
  | .other kind => .error (.misuse (.notOrdered kind))

def index (what : Indexed) (size : Nat) (position : Position) : Except Failure Nat :=
  match position.slot what size with
  | .error failure => .error failure
  | .ok (.at index) => .ok index
  | .ok .between => .error (.misuse .fractionalIndex)

def cut (what : Indexed) (size : Nat) (position : Position) : Except Failure Nat :=
  match position.slot what size with
  | .error failure => .error failure
  | .ok (.at index) => .ok index
  | .ok .between => .error (.misuse .fractionalBound)

end Position

-- Replaces one element by a candidate that may turn out not to be a field. The bounds come
-- first, then the candidate, and last whether the position points at an element.
def replaceAt {α : Type} (what : Indexed) (items : List α) (position : Position)
    (candidate : Except TreeError α) : Except Failure (List α) :=
  match position.slot what items.length with
  | .error failure => .error failure
  | .ok slot =>
    match candidate with
    | .error error => .error (.tree error)
    | .ok item =>
      match slot with
      | .at index => .ok (items.set index item)
      | .between => .error (.misuse .fractionalIndex)

namespace Field

def refuse {α : Type} (refusal : Refusal) : Except Failure α := .error (.refused refusal)

def typeOf (value : Json) : Except Failure FieldType :=
  match Accept.fieldType value with
  | .accepted type => .ok type
  | .rejected _ _ => refuse (.unknownType value)

def create (name type required : Json) : Except Failure Field :=
  match typeOf type with
  | .error failure => .error failure
  | .ok type =>
    match ((Accept.text name).within (.key "name")).both
        ((Accept.flag required).within (.key "required")) with
    | .accepted (name,required) => .ok (.ofType type ⟨name,required,none,[]⟩)
    | .rejected first rest => .error (.invalid first rest)

def setType (type : FieldType) (field : Field) : Field :=
  if field.type = type then field else .ofType type field.attributes

@[simp] theorem attributes_setType (type : FieldType) (field : Field) :
    (field.setType type).attributes = field.attributes := by
  unfold setType
  split
  · rfl
  · cases type <;> rfl

@[simp] theorem name_setType (type : FieldType) (field : Field) : (field.setType type).name = field.name :=
  congrArg Attributes.name (attributes_setType type field)

def setAttributes (changes : List (Text × Json)) (field : Field) : Except Failure Field :=
  let keys := changes.map (·.1)
  if keys.contains ("field" : Text) then .error (.misuse (.reservedAttribute "field"))
  else
    match keys.filter (!Attributes.keys.contains ·) with
    | [] =>
      match field.attributes.readOver changes with
      | .accepted attributes => .ok (field.withAttributes attributes)
      | .rejected first _ => refuse (.badValue field.name first.fault)
    | unknown => refuse (.fixedAttributes (unknown.mergeSort fun first second => !second.isBefore first))

-- Only text fields have a format; that is settled before the format is looked at.
def setFormatBy (format : Except Failure (Option Format)) (field : Field) : Except Failure Field :=
  match field with
  | .string attributes _ => format.map (.string attributes)
  | other => refuse (.notAString other.name other.type)

def setFormat (format : Option Format) (field : Field) : Except Failure Field :=
  field.setFormatBy (.ok format)

def formatOf (value : Json) : Except Failure (Option Format) :=
  match Accept.optional Accept.format value with
  | .accepted format => .ok format
  | .rejected _ _ => refuse (.unknownFormat value)

def withExamples (examples : List Text) (field : Field) : Field :=
  field.withAttributes { field.attributes with examples := examples }

@[simp] theorem withExamples_examples (field : Field) : field.withExamples field.examples = field :=
  field.withAttributes_self

@[simp] theorem examples_withExamples (examples : List Text) (field : Field) :
    (field.withExamples examples).examples = examples := by
  simp [withExamples,Field.examples]

@[simp] theorem withExamples_withExamples (before after : List Text) (field : Field) :
    (field.withExamples before).withExamples after = field.withExamples after := by
  simp [withExamples]

def addExample (text : Text) (field : Field) : Field :=
  if Text.isBlankText text then field else field.withExamples (field.examples ++ [Text.strip text])

@[simp] theorem name_addExample (text : Text) (field : Field) : (field.addExample text).name = field.name := by
  unfold addExample
  split
  · rfl
  · exact name_withAttributes _ field

-- The text of an example by any JSON value: what counts as a no is blank.
def exampleText (value : Json) : Except Failure Text :=
  match value with
  | .str text => .ok text
  | _ => if value.isTruthy then .error (.misuse (.notText value.kind)) else .ok ""

def removeExample (position : Position) (field : Field) : Except Failure Field :=
  match position.cut .example field.examples.length with
  | .error failure => .error failure
  | .ok index => .ok (field.withExamples (field.examples.eraseIdx index))

def editProperties (operation : String) (step : List Field → Except Failure (List Field))
    (field : Field) : Except Failure Field :=
  match field with
  | .object attributes properties => (step properties).map (.object attributes)
  | other => refuse (.notAnObject operation other.name other.type)

def addProperty (field : Field) : Except Failure Field :=
  field.editProperties "add_property" fun properties => .ok (properties ++ [blank])

def removeProperty (position : Position) (field : Field) : Except Failure Field :=
  field.editProperties "remove_property" fun properties =>
    (position.cut .property properties.length).map properties.eraseIdx

def updateProperty (position : Position) (candidate : Except TreeError Field) (field : Field) :
    Except Failure Field :=
  field.editProperties "update_property" fun properties =>
    replaceAt .property properties position candidate

def setItems (candidate : Except TreeError Field) (field : Field) : Except Failure Field :=
  match field with
  | .array attributes _ => liftTree (candidate.map fun item => .array attributes (some item))
  | other => refuse (.notAnArray "set_items" other.name other.type)

end Field

end ExtractionSchema
