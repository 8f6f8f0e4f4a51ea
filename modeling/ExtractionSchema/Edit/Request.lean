import ExtractionSchema.Edit.Field
import ExtractionSchema.Field

namespace ExtractionSchema

namespace FieldTree

def addField (candidate : Except TreeError Field) (tree : FieldTree) : Except Failure FieldTree :=
  liftTree (candidate.map fun field => tree ++ [field])

def updateField (position : Position) (candidate : Except TreeError Field) (tree : FieldTree) :
    Except Failure FieldTree :=
  replaceAt .field tree position candidate

def removeField (position : Position) (tree : FieldTree) : Except Failure FieldTree :=
  (position.index .field tree.length).map tree.eraseIdx

def editAt (position : Position) (step : Field → Except Failure Field) (tree : FieldTree) :
    Except Failure FieldTree :=
  match position.index .field tree.length with
  | .error failure => .error failure
  | .ok index =>
    match tree[index]? with
    | none => .ok tree
    | some field => (step field).map (tree.set index)

end FieldTree

inductive Operation where
  | addField | updateField | removeField
  | setType | setFormat | setAttributes
  | addExample | removeExample
  | addProperty | removeProperty | updateProperty
  | setItems
  deriving DecidableEq,Repr

namespace Operation

def name : Operation → String
  | .addField => "add_field"
  | .updateField => "update_field"
  | .removeField => "remove_field"
  | .setType => "set_type"
  | .setFormat => "set_format"
  | .setAttributes => "set_attributes"
  | .addExample => "add_example"
  | .removeExample => "remove_example"
  | .addProperty => "add_property"
  | .removeProperty => "remove_property"
  | .updateProperty => "update_property"
  | .setItems => "set_items"

def all : List Operation :=
  [.addField,.updateField,.removeField,.setType,.setFormat,.setAttributes,.addExample,
    .removeExample,.addProperty,.removeProperty,.updateProperty,.setItems]

def ofName? (name : Text) : Option Operation :=
  all.find? fun operation => (operation.name : Text) == name

end Operation

structure FieldEdit where
  operation : Operation
  index : Option Int
  field : Option Field
  type : Option FieldType
  format : Option Format
  attributes : List (Text × Json)
  example? : Option Text
  exampleIndex : Option Int
  propertyIndex : Option Int
  property : Option Field
  item : Option Field
  deriving Repr

namespace FieldEdit

def readOperation : Json → Verdict Operation :=
  Accept.oneOf Operation.ofName? (.notALiteral (Operation.all.map (·.name)))

def optionalMember {α : Type} (key : Text) (read : Json → Verdict α)
    (members : List (Text × Json)) : Verdict (Option α) :=
  Accept.member key (Accept.optional read) none members

-- The property goes by two keys; the first wins.
def readProperty (members : List (Text × Json)) : Verdict (Option Field) :=
  match members.lookup ("property" : Text) with
  | some _ => optionalMember "property" Field.read members
  | none => optionalMember "prop" Field.read members

def readMembers (members : List (Text × Json)) : Verdict FieldEdit :=
  ((Accept.requiredMember "op" readOperation members).both
    ((optionalMember "index" Accept.integer members).both
      ((optionalMember "field" Field.read members).both
        ((optionalMember "field_type" Accept.fieldType members).both
          ((optionalMember "format" Accept.format members).both
            ((Accept.member "attributes" Accept.dictionary [] members).both
              ((optionalMember "example" Accept.text members).both
                ((optionalMember "example_index" Accept.integer members).both
                  ((optionalMember "property_index" Accept.integer members).both
                    ((readProperty members).both
                      (optionalMember "item" Field.read members))))))))))).map
    fun (operation,index,field,type,format,attributes,sample,exampleIndex,propertyIndex,
        property,item) =>
      ⟨operation,index,field,type,format,attributes,sample,exampleIndex,propertyIndex,
        property,item⟩

def read (source : Accept.Source) (raw : Json) : Verdict FieldEdit :=
  Accept.record source "FieldEdit" readMembers raw

-- An argument that has to be a field. An unset one is reported as a null would be.
def candidate (field : Option Field) : Except TreeError Field :=
  match field with
  | some field => .ok field
  | none => Field.parse .null

-- What an edit does to the field it selects. The operations on the list of fields are not of
-- this kind.
def onField (edit : FieldEdit) (field : Field) : Except Failure Field :=
  match edit.operation with
  | .setType =>
    match edit.type with
    | some type => .ok (field.setType type)
    | none => Field.refuse (.unknownType .null)
  | .setFormat => field.setFormat edit.format
  | .setAttributes => field.setAttributes edit.attributes
  | .addExample => .ok (field.addExample (edit.example?.getD ""))
  | .removeExample => field.removeExample (.ofOption edit.exampleIndex)
  | .addProperty => field.addProperty
  | .removeProperty => field.removeProperty (.ofOption edit.propertyIndex)
  | .updateProperty => field.updateProperty (.ofOption edit.propertyIndex) (candidate edit.property)
  | .setItems => field.setItems (candidate edit.item)
  | .addField | .updateField | .removeField => .ok field

end FieldEdit

namespace FieldTree

def applyEdit (edit : FieldEdit) (tree : FieldTree) : Except Failure FieldTree :=
  match edit.operation with
  | .addField => tree.addField (.ok (edit.field.getD .blank))
  | .removeField => tree.removeField (.ofOption edit.index)
  | .updateField =>
    match edit.field with
    | some field => tree.updateField (.ofOption edit.index) (.ok field)
    | none => Field.refuse (.noField Operation.updateField.name)
  | _ => tree.editAt (.ofOption edit.index) edit.onField

def applyJson (raw : Json) (tree : FieldTree) : Except Failure FieldTree :=
  match FieldEdit.read .direct raw with
  | .accepted edit => tree.applyEdit edit
  | .rejected first _ => Field.refuse (.badEdit first.fault)

end FieldTree

end ExtractionSchema
