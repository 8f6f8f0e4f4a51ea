import ExtractionSchema.Json.Reader
import ExtractionSchema.Verdict

namespace ExtractionSchema

inductive TreeFault where
  | unreadable (fault : Fault)
  | notAField (kind : Json.Kind)
  | blankName
  | missingItems
  | repeatedName (name : Text)
  | malformedSchema
  | unknownType (value : Json)
  | notASchema
  deriving DecidableEq,Repr

def TreeFault.text : TreeFault → String
  | .unreadable fault => fault.message
  | .notAField kind => "expected a field, got " ++ kind.name
  | .blankName => "field name must not be empty"
  | .missingItems => "array field has no items schema"
  | .repeatedName name => "duplicate field name " ++ (Json.str name).display
  | .malformedSchema => "schema is not valid JSON"
  | .unknownType value => "unknown field type " ++ value.display
  | .notASchema => "schema must be a list of fields or a name-to-type map"

structure TreeError where
  fault : TreeFault
  path : Option Text
  deriving DecidableEq,Repr

def TreeError.message (error : TreeError) : Text :=
  match error.path with
  | some path => if path.isEmpty then error.fault.text else path ++ ": " ++ error.fault.text
  | none => error.fault.text

-- The first issue stands for all.
def TreeError.ofIssue (issue : Issue) : TreeError :=
  ⟨.unreadable issue.fault,some issue.location.path⟩

inductive Indexed where
  | field | example | property
  deriving DecidableEq,Repr

def Indexed.name : Indexed → String
  | .field => "Field"
  | .example => "Example"
  | .property => "Property"

inductive Refusal where
  | unknownType (value : Json)
  | unknownFormat (value : Json)
  | badValue (field : Text) (fault : Fault)
  | fixedAttributes (names : List Text)
  | notAString (field : Text) (type : FieldType)
  | notAnObject (operation : String) (field : Text) (type : FieldType)
  | notAnArray (operation : String) (field : Text) (type : FieldType)
  | outOfRange (what : Indexed) (index : String) (size : Nat)
  | noField (operation : String)
  | badEdit (fault : Fault)
  deriving DecidableEq,Repr

def listed : List Text → Text
  | [] => ""
  | [name] => name
  | name :: rest => name ++ ", " ++ listed rest

def Refusal.message : Refusal → Text
  | .unknownType value => "Unknown field type: " ++ value.display
  | .unknownFormat value => "Unknown format: " ++ value.display
  | .badValue field fault => "Invalid value for '" ++ field ++ "': " ++ fault.message
  | .fixedAttributes names =>
    "Cannot set " ++ listed names ++ " with set_attributes"
  | .notAString field type =>
    "Formats only apply to string fields, '" ++ field ++ "' is " ++ type.name
  | .notAnObject operation field type =>
    operation ++ " needs an object field, '" ++ field ++ "' is " ++ type.name
  | .notAnArray operation field type =>
    operation ++ " needs an array field, '" ++ field ++ "' is " ++ type.name
  | .outOfRange what index size =>
    what.name ++ " index " ++ index ++ " out of range (size " ++ toString size ++ ")"
  | .noField operation => operation ++ " needs a field"
  | .badEdit fault => "Invalid edit: " ++ fault.message

inductive Misuse where
  | notIterable (kind : Json.Kind)
  | notAKey (kind : Json.Kind)
  | notOrdered (kind : Json.Kind)
  | fractionalIndex
  | fractionalBound
  | reservedAttribute (name : String)
  | notText (kind : Json.Kind)
  | notACount (kind : Json.Kind)
  | fractionalCount
  | nestedTooDeep (container : Json.Container)
  deriving DecidableEq,Repr

def Misuse.message : Misuse → String
  | .notIterable kind => "'" ++ kind.name ++ "' object is not iterable"
  | .notAKey kind => "unhashable type: '" ++ kind.name ++ "'"
  | .notOrdered kind =>
    "'<=' not supported between instances of 'int' and '" ++ kind.name ++ "'"
  | .fractionalIndex => "list indices must be integers or slices, not float"
  | .fractionalBound =>
    "slice indices must be integers or None or have an __index__ method"
  | .reservedAttribute name =>
    "set_attributes() got multiple values for argument '" ++ name ++ "'"
  | .notText kind => "'" ++ kind.name ++ "' object has no attribute 'strip'"
  | .notACount kind =>
    "'>' not supported between instances of '" ++ kind.name ++ "' and 'int'"
  | .fractionalCount => "'float' object cannot be interpreted as an integer"
  | .nestedTooDeep container => container.depthText

inductive Failure where
  | tree (error : TreeError)
  | template (key : Json)
  | refused (refusal : Refusal)
  | misuse (misuse : Misuse)
  | invalid (first : Issue) (rest : List Issue)
  deriving DecidableEq,Repr

def templateMessage (key : Json) : String := "Unknown template: " ++ key.display

namespace Verdict

def orTreeError {α : Type} : Verdict α → Except TreeError α
  | .accepted value => .ok value
  | .rejected first _ => .error (.ofIssue first)

end Verdict

def liftTree {α : Type} (result : Except TreeError α) : Except Failure α :=
  result.mapError .tree

end ExtractionSchema
