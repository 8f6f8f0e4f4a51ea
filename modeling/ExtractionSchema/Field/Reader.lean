import ExtractionSchema.Accept
import ExtractionSchema.Failure
import ExtractionSchema.Field

namespace ExtractionSchema

def nestingLimit : Nat := 253

namespace Attributes

def keys : List Text := ["name","required","description","examples"]

def readOver (base : Attributes) (members : List (Text × Json)) : Verdict Attributes :=
  ((Accept.member "name" Accept.text base.name members).both
    ((Accept.member "required" Accept.flag base.required members).both
      ((Accept.member "description" (Accept.optional Accept.text) base.description members).both
        (Accept.member "examples" (Accept.tuple Accept.text) base.examples members)))).map
    fun (name,required,description,examples) => ⟨name,required,description,examples⟩

end Attributes

def FieldType.ownKeys : FieldType → List Text
  | .string => ["format"]
  | .number | .boolean => []
  | .array => ["items"]
  | .object => ["properties"]

def FieldType.keys (type : FieldType) : List Text := Attributes.keys ++ ("type" : Text) :: type.ownKeys

def readTag (members : List (Text × Json)) : Verdict FieldType :=
  match members.lookup ("type" : Text) with
  | none => .reject .tagMissing
  | some tag =>
    match tag with
    | .str name =>
      match FieldType.ofName? name with
      | some type => .accepted type
      | none => .reject (.tagUnknown name.shown (FieldType.all.map (·.name)))
    | other => .reject (.tagUnknown other.display (FieldType.all.map (·.name)))

namespace Field

def readOwn (inner : Json → Verdict Field) (members : List (Text × Json)) :
    FieldType → Verdict (Attributes → Field)
  | .string =>
    (Accept.member "format" (Accept.optional Accept.format) none members).map
      fun format attributes => .string attributes format
  | .number => .accepted .number
  | .boolean => .accepted .boolean
  | .array =>
    (Accept.member "items" (Accept.optional inner) none members).map
      fun items attributes => .array attributes items
  | .object =>
    (Accept.member "properties" (Accept.tuple inner) [] members).map
      fun properties attributes => .object attributes properties

-- The attributes, then what belongs to the type, then the keys that do not belong there. Each is
-- checked whether or not the others are right, but a key with half a pair in it stands for all.
def readVariant (inner : Json → Verdict Field) (members : List (Text × Json)) (type : FieldType) :
    Verdict Field :=
  if members.all (·.1.isWhole) then
    (((Attributes.initial.readOver members).both (readOwn inner members type)).map
      fun (attributes,make) => make attributes).also (Accept.onlyKeys type.keys members)
  else .reject .brokenText

def readInnermost (members : List (Text × Json)) (type : FieldType) : Verdict Field :=
  if type.isContainer then .reject .nestedTooDeep
  else readVariant (fun _ => .reject .nestedTooDeep) members type

def readTagged (read : List (Text × Json) → FieldType → Verdict Field)
    (members : List (Text × Json)) : Verdict Field :=
  match readTag members with
  | .rejected first rest => .rejected first rest
  | .accepted type => (read members type).within (.tag type)

-- The first argument is the number of arrays and objects that may still be nested here.
def readWithin : Nat → Json → Verdict Field
  | 0,.obj members => readTagged readInnermost members
  | room + 1,.obj members => readTagged (readVariant (readWithin room)) members
  | _,_ => .reject .notAttributes

theorem readVariant_flat {first second : Json → Verdict Field} {members : List (Text × Json)}
    {type : FieldType} (flat : type.isContainer = false) :
    readVariant first members type = readVariant second members type := by
  cases type with
  | array | object => cases flat
  | _ => rfl

def read (raw : Json) : Verdict Field := readWithin nestingLimit raw

end Field

def FieldTree.read (raw : Json) : Verdict FieldTree := Accept.list Field.read raw

def Field.parse (raw : Json) : Except TreeError Field := (Field.read raw).orTreeError

namespace FieldTree

def parse (raw : Json) : Except TreeError FieldTree := (FieldTree.read raw).orTreeError

-- Anything that can be walked is taken as a list of what the walk visits. An empty walk is an
-- empty tree.
def ensure (raw : Json) : Except Failure FieldTree :=
  match raw.elements? with
  | none => .error (.misuse (.notIterable raw.kind))
  | some [] => .ok []
  | some values => liftTree (parse (.arr values))

end FieldTree

end ExtractionSchema
