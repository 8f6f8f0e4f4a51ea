import ExtractionSchema.Client
import ExtractionSchema.Failure
import ExtractionSchema.Json

namespace ExtractionSchema

mutual
-- The value as it is written for a record, or the first text of it that cannot be. Names of members
-- are written as they are shown.
def Json.recorded : Json → Except Text Json
  | .str text => if text.isWhole then .ok (.str text) else .error text
  | .arr items => (recordedItems items).map .arr
  | .obj members => (recordedMembers members).map .obj
  | .null => .ok .null
  | .bool value => .ok (.bool value)
  | .int value => .ok (.int value)
  | .float value => .ok (.float value)
termination_by structural value => value
def Json.recordedItems : List Json → Except Text (List Json)
  | [] => .ok []
  | value :: rest =>
    match value.recorded with
    | .error text => .error text
    | .ok first => (recordedItems rest).map (first :: ·)
termination_by structural items => items
def Json.recordedMembers : List (Text × Json) → Except Text (List (Text × Json))
  | [] => .ok []
  | (key,value) :: rest =>
    match value.recorded with
    | .error text => .error text
    | .ok first => (recordedMembers rest).map (((key.shown : Text),first) :: ·)
termination_by structural members => members
end

structure Answer where
  status : Int
  body : Option Json
  deriving DecidableEq,Repr

inductive Uncaught where
  | misuse (misuse : Misuse)
  | tree (error : TreeError)
  | client (failure : ClientFailure)
  | malformedExtraction (first : Issue) (rest : List Issue)
  | notWritable
  -- There is half a pair in the text of a body, in a value of the request that it would tell, or in
  -- one of the texts of a record.
  | brokenBody (text : List Code)
  | brokenEcho
  | brokenRecord (text : Text)
  deriving DecidableEq,Repr

namespace Uncaught

def notWritableMessage : String := "Out of range float values are not JSON compliant"

-- The first run of halves is reported with its place.
def brokenMessage (text : List Code) : String :=
  let start := (text.takeWhile (·.char?.isSome)).length
  let halves := (text.drop start).takeWhile (·.char?.isNone)
  let what :=
    match halves with
    | [half] => "character '" ++ String.ofList (Text.numericEscape half.toNat) ++ "' in position "
        ++ toString start
    | _ => "characters in position " ++ toString start ++ "-" ++ toString (start + halves.length - 1)
  "'utf-8' codec can't encode " ++ what ++ ": surrogates not allowed"

def brokenRecordMessage (text : Text) : String :=
  "Error serializing to JSON: UnicodeEncodeError: " ++ brokenMessage text.codes

end Uncaught

namespace Answer

def admitsBody (status : Int) : Bool :=
  200 ≤ status && !(status == 204 || status == 205 || status == 304)

def ofJson (status : Int) (body : Json) : Answer :=
  ⟨status,if admitsBody status then some body else none⟩

def ok (body : Json) : Answer := ofJson 200 body

def detail (status : Int) (text : Text) : Answer := ofJson status (.obj [("detail",.str text)])

def unreadableBody : Answer := detail 400 "There was an error parsing the body"

def invalid (issues : List Issue) : Answer :=
  ofJson 422 (.obj [("detail",.arr (issues.map fun issue => (issue.within (.key "body")).toJson))])

-- An answer as it is sent. Only an answer with status 200 is a record.
def sent (answer : Answer) : Except Uncaught Answer :=
  match answer.body with
  | none => .ok answer
  | some body =>
    if answer.status = 200 then
      match body.recorded with
      | .ok recorded => .ok ⟨answer.status,some recorded⟩
      | .error text => .error (.brokenRecord text)
    else if body.isWhole then .ok answer
    else .error (.brokenBody (body.write .compact))

end Answer

-- What fails because of an argument is answered; a misuse is not.
def Failure.answer : Failure → Except Uncaught Answer
  | .tree error => .ok (.detail 400 error.message)
  | .refused refusal => .ok (.detail 400 refusal.message)
  | .template unknown => .ok (.detail 404 (templateMessage unknown))
  | .invalid first rest => .ok (.invalid (first :: rest))
  | .misuse fault => .error (.misuse fault)

def answerRead {α : Type} (value : Json) (request : Verdict α) (respond : α → Except Uncaught Answer) :
    Except Uncaught Answer :=
  match request with
  | .accepted request => respond request
  | .rejected first rest =>
    -- Every issue is reported together with the value it is about.
    let told := (first :: rest).map fun issue => Location.valueIn value issue.location
    if !told.all (·.isFinite) then .error .notWritable
    else if told.all (·.isWhole) then .ok (.invalid (first :: rest))
    else .error .brokenEcho

end ExtractionSchema
