import ExtractionSchema.Json
import ExtractionSchema.Text

namespace ExtractionSchema

inductive FieldType where
  | string | number | boolean | array | object
  deriving DecidableEq,Repr

namespace FieldType

def name : FieldType → String
  | .string => "string"
  | .number => "number"
  | .boolean => "boolean"
  | .array => "array"
  | .object => "object"

def all : List FieldType := [.string,.number,.boolean,.array,.object]

def ofName? (name : Text) : Option FieldType := all.find? fun type => (type.name : Text) == name

def isContainer : FieldType → Bool
  | .array | .object => true
  | _ => false

theorem ofName?_name (type : FieldType) : ofName? type.name = some type := by
  cases type <;> decide

end FieldType

inductive Format where
  | none | email | date | phone | currency | address
  deriving DecidableEq,Repr

namespace Format

def name : Format → String
  | .none => "none"
  | .email => "email"
  | .date => "date"
  | .phone => "phone"
  | .currency => "currency"
  | .address => "address"

def label : Format → String
  | .none => "None"
  | .email => "Email"
  | .date => "Date"
  | .phone => "Phone Number"
  | .currency => "Currency"
  | .address => "Address"

def all : List Format := [.none,.email,.date,.phone,.currency,.address]

def ofName? (name : Text) : Option Format := all.find? fun format => (format.name : Text) == name

theorem ofName?_name (format : Format) : ofName? format.name = some format := by
  cases format <;> decide

end Format

structure Attributes where
  name : Text
  required : Bool
  description : Option Text
  examples : List Text
  deriving DecidableEq,Repr

def Attributes.initial : Attributes := ⟨"",true,none,[]⟩

inductive Field where
  | string (attributes : Attributes) (format : Option Format)
  | number (attributes : Attributes)
  | boolean (attributes : Attributes)
  -- An array is without items only while a tree is being built.
  | array (attributes : Attributes) (items : Option Field)
  | object (attributes : Attributes) (properties : List Field)
  deriving Repr

abbrev FieldTree := List Field

namespace Field

def attributes : Field → Attributes
  | .string attributes _ | .number attributes | .boolean attributes | .array attributes _
  | .object attributes _ => attributes

def withAttributes (attributes : Attributes) : Field → Field
  | .string _ format => .string attributes format
  | .number _ => .number attributes
  | .boolean _ => .boolean attributes
  | .array _ items => .array attributes items
  | .object _ properties => .object attributes properties

def type : Field → FieldType
  | .string _ _ => .string
  | .number _ => .number
  | .boolean _ => .boolean
  | .array _ _ => .array
  | .object _ _ => .object

def name (field : Field) : Text := field.attributes.name

def required (field : Field) : Bool := field.attributes.required

def description (field : Field) : Option Text := field.attributes.description

def examples (field : Field) : List Text := field.attributes.examples

-- The items of a field that has just become an array.
def placeholderItem : Field := .object ⟨"item",true,none,[]⟩ []

-- A field of a type with nothing set that belongs to the type alone, but that an array starts
-- with the placeholder as its items.
def ofType (type : FieldType) (attributes : Attributes) : Field :=
  match type with
  | .string => .string attributes none
  | .number => .number attributes
  | .boolean => .boolean attributes
  | .array => .array attributes (some placeholderItem)
  | .object => .object attributes []

def blank : Field := .ofType .string .initial

@[simp] theorem attributes_withAttributes (attributes : Attributes) (field : Field) :
    (field.withAttributes attributes).attributes = attributes := by
  cases field <;> rfl

@[simp] theorem name_withAttributes (attributes : Attributes) (field : Field) :
    (field.withAttributes attributes).name = attributes.name := by
  rw [name,attributes_withAttributes]

@[simp] theorem type_withAttributes (attributes : Attributes) (field : Field) :
    (field.withAttributes attributes).type = field.type := by
  cases field <;> rfl

@[simp] theorem withAttributes_self (field : Field) :
    field.withAttributes field.attributes = field := by
  cases field <;> rfl

@[simp] theorem withAttributes_withAttributes (before after : Attributes) (field : Field) :
    (field.withAttributes before).withAttributes after = field.withAttributes after := by
  cases field <;> rfl

mutual
-- The number of arrays and objects on the longest chain of fields inside one another.
def depth : Field → Nat
  | .string _ _ | .number _ | .boolean _ => 0
  | .array _ none => 1
  | .array _ (some item) => item.depth + 1
  | .object _ properties => depthAmong properties + 1
termination_by structural field => field
def depthAmong : List Field → Nat
  | [] => 0
  | field :: rest => max field.depth (depthAmong rest)
termination_by structural fields => fields
end

mutual
def decEq : (a b : Field) → Decidable (a = b)
  | .string a f,.string b g =>
    if h : a = b ∧ f = g then isTrue (by rw [h.1,h.2]) else isFalse (by simpa using h)
  | .number a,.number b => if h : a = b then isTrue (by rw [h]) else isFalse (by simpa using h)
  | .boolean a,.boolean b => if h : a = b then isTrue (by rw [h]) else isFalse (by simpa using h)
  | .array a none,.array b none =>
    if h : a = b then isTrue (by rw [h]) else isFalse (by simpa using h)
  | .array a (some f),.array b (some g) =>
    if h : a = b then
      match f.decEq g with
      | isTrue h' => isTrue (by rw [h,h'])
      | isFalse h' => isFalse (by simp [h'])
    else isFalse (by simp [h])
  | .object a fs,.object b gs =>
    if h : a = b then
      match decEqAll fs gs with
      | isTrue h' => isTrue (by rw [h,h'])
      | isFalse h' => isFalse (by simp [h'])
    else isFalse (by simp [h])
  | .array _ none,.array _ (some _) | .array _ (some _),.array _ none => isFalse (by simp)
  | .string _ _,.number _ | .string _ _,.boolean _ | .string _ _,.array _ _
  | .string _ _,.object _ _ | .number _,.string _ _ | .number _,.boolean _
  | .number _,.array _ _ | .number _,.object _ _ | .boolean _,.string _ _
  | .boolean _,.number _ | .boolean _,.array _ _ | .boolean _,.object _ _
  | .array _ _,.string _ _ | .array _ _,.number _ | .array _ _,.boolean _
  | .array _ _,.object _ _ | .object _ _,.string _ _ | .object _ _,.number _
  | .object _ _,.boolean _ | .object _ _,.array _ _ => isFalse (by simp)
termination_by structural a => a
def decEqAll : (a b : List Field) → Decidable (a = b)
  | [],[] => isTrue rfl
  | [],_ :: _ | _ :: _,[] => isFalse (by simp)
  | f :: fs,g :: gs =>
    match f.decEq g with
    | isFalse h => isFalse (by simp [h])
    | isTrue h =>
      match decEqAll fs gs with
      | isTrue h' => isTrue (by rw [h,h'])
      | isFalse h' => isFalse (by simp [h'])
termination_by structural a => a
end

instance : DecidableEq Field := decEq

theorem induction {P : Field → Prop}
    (string : ∀ attributes format, P (.string attributes format))
    (number : ∀ attributes, P (.number attributes))
    (boolean : ∀ attributes, P (.boolean attributes))
    (bare : ∀ attributes, P (.array attributes none))
    (array : ∀ attributes item, P item → P (.array attributes (some item)))
    (object : ∀ attributes properties, (∀ field ∈ properties, P field) →
      P (.object attributes properties)) :
    ∀ field, P field := by
  intro field
  refine @Field.rec P (fun items => ∀ item, items = some item → P item)
    (fun fields => ∀ field ∈ fields, P field) string number boolean ?_ object ?_ ?_ ?_ ?_ field
  · intro attributes items inner
    cases items with
    | none => exact bare attributes
    | some item => exact array attributes item (inner item rfl)
  · intro item none
    cases none
  · intro item inner found same
    cases same
    exact inner
  · intro field member
    cases member
  · intro first rest head tail field member
    rcases List.mem_cons.mp member with rfl | later
    · exact head
    · exact tail field later

inductive UnsetForm where
  | omitted
  | null
  deriving DecidableEq,Repr

def settable (form : UnsetForm) (key : Text) : Option Json → List (Text × Json)
  | some value => [(key,value)]
  | none =>
    match form with
    | .omitted => []
    | .null => [(key,.null)]

def attributeMembers (form : UnsetForm) (attributes : Attributes) : List (Text × Json) :=
  ([("name",.str attributes.name),("required",.bool attributes.required)] : List (Text × Json))
    ++ settable form "description" (attributes.description.map .str)
    ++ [(("examples" : Text),.arr (attributes.examples.map .str))]

def tagMember (type : FieldType) : Text × Json := ("type",.str type.name)

mutual
def toJson (form : UnsetForm) : Field → Json
  | .string attributes format =>
    .obj (attributeMembers form attributes ++ tagMember .string
      :: settable form "format" (format.map fun format => .str format.name))
  | .number attributes =>
    .obj (attributeMembers form attributes ++ [tagMember .number])
  | .boolean attributes =>
    .obj (attributeMembers form attributes ++ [tagMember .boolean])
  | .array attributes none =>
    .obj (attributeMembers form attributes ++ tagMember .array
      :: settable form "items" none)
  | .array attributes (some item) =>
    .obj (attributeMembers form attributes
      ++ [tagMember .array,("items",item.toJson form)])
  | .object attributes properties =>
    .obj (attributeMembers form attributes
      ++ [tagMember .object,("properties",.arr (toJsonAll form properties))])
termination_by structural field => field
def toJsonAll (form : UnsetForm) : List Field → List Json
  | [] => []
  | field :: rest => field.toJson form :: toJsonAll form rest
termination_by structural fields => fields
end

def toPayload (field : Field) : Json := field.toJson .omitted

end Field

namespace FieldTree

def toPayload (tree : FieldTree) : Json := .arr (Field.toJsonAll .omitted tree)

def toResponse (tree : FieldTree) : Json := .arr (Field.toJsonAll .null tree)

end FieldTree

end ExtractionSchema
