import ExtractionSchema.Location

namespace ExtractionSchema

inductive Fault where
  | notText
  | brokenText
  | notFlag
  | unreadableFlag
  | notInteger
  | fractionalInteger
  | unreadableInteger
  | oversizedInteger
  | infiniteInteger
  | notNumber
  | unreadableNumber
  | notList
  | notTuple
  | tooLong (most actual : Nat)
  | notDictionary
  | notRecord (model : String)
  | notAttributes
  | missing
  | unknownKey
  | notInEnumeration (choices : List String)
  | notALiteral (choices : List String)
  | tagMissing
  | tagUnknown (tag : String) (expected : List String)
  | nestedTooDeep
  | notAnUpload
  | malformedJson
  deriving DecidableEq,Repr

namespace Fault

def quotedName (name : String) : String := "'" ++ name ++ "'"

-- The names in quotes, with a comma between them and a word before the last.
def choiceText : List String → String
  | [] => ""
  | [last] => quotedName last
  | [before,last] => quotedName before ++ " or " ++ quotedName last
  | name :: rest => quotedName name ++ ", " ++ choiceText rest

def code : Fault → String
  | .notText => "string_type"
  | .brokenText => "string_unicode"
  | .notFlag => "bool_type"
  | .unreadableFlag => "bool_parsing"
  | .notInteger => "int_type"
  | .fractionalInteger => "int_from_float"
  | .unreadableInteger => "int_parsing"
  | .oversizedInteger => "int_parsing_size"
  | .infiniteInteger => "finite_number"
  | .notNumber => "float_type"
  | .unreadableNumber => "float_parsing"
  | .notList => "list_type"
  | .notTuple => "tuple_type"
  | .tooLong _ _ => "too_long"
  | .notDictionary => "dict_type"
  | .notRecord _ => "model_type"
  | .notAttributes => "model_attributes_type"
  | .missing => "missing"
  | .unknownKey => "extra_forbidden"
  | .notInEnumeration _ => "enum"
  | .notALiteral _ => "literal_error"
  | .tagMissing => "union_tag_not_found"
  | .tagUnknown _ _ => "union_tag_invalid"
  | .nestedTooDeep => "recursion_loop"
  | .notAnUpload => "value_error"
  | .malformedJson => "json_invalid"

def message : Fault → String
  | .notText => "Input should be a valid string"
  | .brokenText =>
    "Input should be a valid string, unable to parse raw data as a unicode string"
  | .notFlag => "Input should be a valid boolean"
  | .unreadableFlag => "Input should be a valid boolean, unable to interpret input"
  | .notInteger => "Input should be a valid integer"
  | .fractionalInteger => "Input should be a valid integer, got a number with a fractional part"
  | .unreadableInteger =>
    "Input should be a valid integer, unable to parse string as an integer"
  | .oversizedInteger => "Unable to parse input string as an integer, exceeded maximum size"
  | .infiniteInteger => "Input should be a finite number"
  | .notNumber => "Input should be a valid number"
  | .unreadableNumber => "Input should be a valid number, unable to parse string as a number"
  | .notList => "Input should be a valid list"
  | .notTuple => "Input should be a valid tuple"
  | .tooLong most actual =>
    "Tuple should have at most " ++ toString most ++ " items after validation, not "
      ++ toString actual
  | .notDictionary => "Input should be a valid dictionary"
  | .notRecord model => "Input should be a valid dictionary or instance of " ++ model
  | .notAttributes => "Input should be a valid dictionary or object to extract fields from"
  | .missing => "Field required"
  | .unknownKey => "Extra inputs are not permitted"
  | .notInEnumeration choices => "Input should be " ++ choiceText choices
  | .notALiteral choices => "Input should be " ++ choiceText choices
  | .tagMissing => "Unable to extract tag using discriminator 'type'"
  | .tagUnknown tag expected =>
    "Input tag " ++ quotedName tag
      ++ " found using 'type' does not match any of the expected tags: "
      ++ String.intercalate ", " (expected.map quotedName)
  | .nestedTooDeep => "Recursion error - cyclic reference detected"
  | .notAnUpload => "Value error, Expected UploadFile, received: <class 'str'>"
  | .malformedJson => "JSON decode error"

end Fault

structure Issue where
  location : Location
  fault : Fault
  deriving DecidableEq,Repr

namespace Issue

def within (segment : Segment) (issue : Issue) : Issue :=
  { issue with location := segment :: issue.location }

def toJson (issue : Issue) : Json :=
  .obj [("type",.str issue.fault.code),("loc",.arr (issue.location.map Segment.toJson)),
    ("msg",.str issue.fault.message)]

end Issue

inductive Verdict (α : Type) where
  | accepted (value : α)
  | rejected (first : Issue) (rest : List Issue)
  deriving Repr

namespace Verdict

variable {α β : Type}

def reject (fault : Fault) : Verdict α := .rejected ⟨[],fault⟩ []

def issues : Verdict α → List Issue
  | .accepted _ => []
  | .rejected first rest => first :: rest

def map (f : α → β) : Verdict α → Verdict β
  | .accepted value => .accepted (f value)
  | .rejected first rest => .rejected first rest

def both : Verdict α → Verdict β → Verdict (α × β)
  | .accepted a,.accepted b => .accepted (a,b)
  | .accepted _,.rejected first rest => .rejected first rest
  | .rejected first rest,.accepted _ => .rejected first rest
  | .rejected first rest,.rejected next more => .rejected first (rest ++ next :: more)

def within (segment : Segment) : Verdict α → Verdict α
  | .accepted value => .accepted value
  | .rejected first rest => .rejected (first.within segment) (rest.map (·.within segment))

def ofIssues : List Issue → Verdict Unit
  | [] => .accepted ()
  | first :: rest => .rejected first rest

-- A part that has to be right but means nothing further.
def also (verdict : Verdict α) (check : Verdict Unit) : Verdict α :=
  (verdict.both check).map (·.1)

def each (read : α → Verdict β) : Nat → List α → Verdict (List β)
  | _,[] => .accepted []
  | position,value :: rest =>
    (((read value).within (.index position)).both (each read (position + 1) rest)).map
      fun (first,others) => first :: others

theorem issues_both (a : Verdict α) (b : Verdict β) : (a.both b).issues = a.issues ++ b.issues := by
  cases a <;> cases b <;> simp [both,issues]

theorem both_accepted_iff {a : Verdict α} {b : Verdict β} {x : α} {y : β} :
    a.both b = .accepted (x,y) ↔ a = .accepted x ∧ b = .accepted y := by
  cases a <;> cases b <;> simp [both]

end Verdict

end ExtractionSchema
