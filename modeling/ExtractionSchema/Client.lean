import ExtractionSchema.Failure
import ExtractionSchema.Json.Reader
import ExtractionSchema.Json.Writer

namespace ExtractionSchema

structure Document where
  content : String
  filename : String
  mediaType : Option String
  deriving DecidableEq,Repr

structure Post where
  url : String
  types : List Code
  schema : Option (List Code)
  filename : String
  content : String
  mediaType : String
  timeout : Json
  deriving DecidableEq,Repr

inductive Breakdown where
  | system
  | program
  deriving DecidableEq,Repr

inductive Outcome where
  | answer (status : Int) (body : String)
  | unreachable (reason : Text)
  | breakdown (kind : Breakdown) (reason : String)
  deriving DecidableEq,Repr

inductive ClientFailure where
  | processing (message : Text) (status : Option Int)
  | unreadable (error : Json.ReadError)
  | breakdown (kind : Breakdown) (reason : String)
  deriving DecidableEq,Repr

def ClientFailure.message : ClientFailure → Text
  | .processing message _ => message
  | .unreadable error => error.message
  | .breakdown _ reason => reason

def unexplained : String := "Error processing document"

def reasonOf : Json → Text
  | .obj members =>
    match members.lookup ("detail" : Text) with
    | some detail => if detail.isTruthy then detail.asText else unexplained
    | none => unexplained
  | _ => unexplained

-- The reason in the body of an answer that is no success. A body that is not JSON is the reason
-- itself, but in one that is nested too deep none can be looked for.
def reasonIn (room : Json.Room) (body : String) : Except Json.ReadError Text :=
  match Json.read room body with
  | .ok value => .ok (reasonOf value)
  | .error error =>
    if error.fault.tooDeep?.isSome then .error error
    else .ok (if body.isEmpty then unexplained else body)

namespace Outcome

-- Whether no further post follows this outcome whatever attempts are left. What cannot be looked at
-- is not kept in mind for later.
def isFinal (room : Json.Room) : Outcome → Bool
  | .answer status body =>
    (200 ≤ status && status < 300) || (400 ≤ status && status < 500) || !(reasonIn room body).isOk
  | .unreachable _ => false
  | .breakdown _ _ => true

def result (room : Json.Room) : Outcome → Except ClientFailure Json
  | .answer status body =>
    if 200 ≤ status ∧ status < 300 then (Json.read room body).mapError .unreadable
    else
      match reasonIn room body with
      | .ok reason => .error (.processing reason (some status))
      | .error error => .error (.unreadable error)
  | .unreachable reason => .error (.processing ("Processing service unreachable: " ++ reason) none)
  | .breakdown kind reason => .error (.breakdown kind reason)

end Outcome

structure Dispatch where
  result : Except ClientFailure Json
  posts : List Post
  pauses : List Json
  deriving Repr

namespace Dispatch

def after (post : Post) (pause : Json) (dispatch : Dispatch) : Dispatch :=
  { dispatch with posts := post :: dispatch.posts,pauses := pause :: dispatch.pauses }

end Dispatch

structure Client where
  url : String
  timeout : Json
  attempts : Int
  delay : Json
  room : Json.Room
  charsets : Text.Charsets

namespace Client

def defaultTimeout : Json := .int 60

def defaultAttempts : Int := 2

def defaultDelay : Json := .float (Binary64.ofInt 1)

def defaultMediaType : String := "application/octet-stream"

-- The number of attempts that is asked for. What counts as one attempt at most may be of any
-- numeric kind, and more attempts have to be a whole number.
def attemptsIn : Json → Except Misuse Int
  | .int count => .ok count
  | .bool _ => .ok 1
  | .float count => if count.isAbove 1 then .error .fractionalCount else .ok 1
  | value => .error (.notACount value.kind)

def limit (client : Client) : Nat := (max 1 client.attempts).toNat

def post (client : Client) (document : Document) (types : Json) (schema : Option Json) : Post :=
  { url := client.url
    types := types.write .spacedAscii
    schema := schema.map (Json.write .compactAscii)
    filename := document.filename
    content := document.content
    mediaType := match document.mediaType with
      | some mediaType => if mediaType.isEmpty then defaultMediaType else mediaType
      | none => defaultMediaType
    timeout := client.timeout }

def attempt (client : Client) (post : Post) (outcomes : Nat → Outcome) : Nat → Nat → Dispatch
  | 0,number => ⟨(outcomes number).result client.room,[post],[]⟩
  | left + 1,number =>
    if (outcomes number).isFinal client.room then
      ⟨(outcomes number).result client.room,[post],[]⟩
    else (attempt client post outcomes left (number + 1)).after post client.delay

-- Sends a document; the outcomes of the posts are numbered from zero.
def send (client : Client) (document : Document) (types : Json) (schema : Option Json)
    (outcomes : Nat → Outcome) : Dispatch :=
  client.attempt (client.post document types schema) outcomes (client.limit - 1) 0

end Client

end ExtractionSchema
