import ExtractionSchema.Accept
import ExtractionSchema.Json
import ExtractionSchema.Json.Reader
import ExtractionSchema.Json.Writer
import ExtractionSchema.Service.Multipart

namespace ExtractionSchema

inductive Body where
  | absent
  | raw (text mediaType : String)
  | form (parts : Form)
  deriving DecidableEq,Repr

inductive BodyFault where
  | invalid (issue : Issue)
  | unreadable
  deriving DecidableEq,Repr

namespace Body

def isJsonType (mediaType : String) : Bool :=
  let whole := Multipart.lowered (mediaType.toList.takeWhile (· != ';'))
  match whole.toList.splitOn '/' with
  | [main,kind] =>
    main == "application".toList &&
      (kind == "json".toList || "+json".toList.isSuffixOf kind)
  | _ => false

-- The body that carries a value, unless it has a number that is not finite or half a pair.
def carrying? (value : Json) : Option Body :=
  if value.isFinite then (Code.string? (value.write .compact)).map (.raw · "application/json") else none

def withoutMark : List Code → List Code
  | .char '\uFEFF' :: rest => rest
  | text => text

-- The value in a text. Only faults of the syntax can be reported with their places.
def valueIn (room : Json.Room) (text : List Code) : Except BodyFault Json :=
  match Json.read room (withoutMark text) with
  | .ok value => .ok value
  | .error error =>
    if error.fault.isSyntactic then .error (.invalid ⟨[.index error.position],.malformedJson⟩)
    else .error .unreadable

def readJson (room : Json.Room) (body : Body) : Except BodyFault Json :=
  match body with
  | .absent => .error (.invalid ⟨[],.missing⟩)
  | .form _ => .error (.invalid ⟨[],.notAttributes⟩)
  | .raw text mediaType =>
    if text.isEmpty then .error (.invalid ⟨[],.missing⟩)
    else if !isJsonType mediaType then .error (.invalid ⟨[],.notAttributes⟩)
    else
      match Text.reread? text with
      | none => .error .unreadable
      | some decoded => valueIn room decoded

-- The pieces of a text between ampersands, and behind the last of these between semicolons.
def fieldPieces (text : List Char) : List (List Char) :=
  match (text.splitOn '&').reverse with
  | [] => []
  | last :: before =>
    let joined := before.reverse.map fun piece => piece.dropWhile (· == ';')
    (joined ++ last.splitOn ';').filter (!·.isEmpty)

def formText (piece : List Char) : String :=
  String.ofList (Text.percentDecode (piece.map fun c => if c = '+' then ' ' else c))

def formField (piece : List Char) : Part :=
  let (name,rest) := piece.span (· != '=')
  .text (formText name) (formText (rest.drop 1))

def readForm (charsets : Text.Charsets) (body : Body) : Except FormFault Form :=
  match body with
  | .absent => .ok []
  | .form parts => .ok parts
  | .raw text mediaType =>
    match Multipart.options mediaType with
    | ("multipart/form-data",options) => Multipart.read charsets options text
    | ("application/x-www-form-urlencoded",_) => .ok ((fieldPieces text.toList).map formField)
    | _ => .ok []

end Body

end ExtractionSchema
