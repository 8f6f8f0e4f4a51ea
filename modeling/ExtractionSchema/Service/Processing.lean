import ExtractionSchema.Accept
import ExtractionSchema.Json.Reader
import ExtractionSchema.Schema
import ExtractionSchema.Service.Answer
import ExtractionSchema.Service.Body

namespace ExtractionSchema

structure Submission where
  types : Entries FieldType
  schema : Option Json
  deriving Repr

namespace Submission

def ofTree (tree : FieldTree) : Except TreeError Submission :=
  tree.compile.map fun schema => ⟨tree.typeMap,some schema⟩

-- The name is looked at before the type. A container is no name of a type and cannot be compared
-- with one.
def readEntry (name : Text) (value : Json) : Except Failure (Text × FieldType) :=
  if name.isEmpty then .error (.tree ⟨.blankName,none⟩)
  else if !value.isScalar then .error (.misuse (.notAKey value.kind))
  else
    match Accept.fieldType value with
    | .accepted type => .ok (name,type)
    | .rejected _ _ => .error (.tree ⟨.unknownType value,some name⟩)

-- The first entry that is wrong stands for all.
def readMap : List (Text × Json) → Except Failure (Entries FieldType)
  | [] => .ok []
  | (name,value) :: rest =>
    match readEntry name value with
    | .error failure => .error failure
    | .ok entry => (readMap rest).map (entry :: ·)

def ofJson (value : Json) : Except Failure Submission :=
  match value with
  | .arr _ =>
    match FieldTree.parse value with
    | .error error => .error (.tree error)
    | .ok tree => liftTree (ofTree tree)
  | .obj members => (readMap members).map fun types => ⟨types,none⟩
  | _ => .error (.tree ⟨.notASchema,none⟩)

-- A text that is nested too deep for the reader is not taken for a schema that is wrong.
def read (room : Json.Room) (text : List Code) : Except Failure Submission :=
  match Json.read room text with
  | .error error =>
    match error.fault.tooDeep? with
    | some container => .error (.misuse (.nestedTooDeep container))
    | none => .error (.tree ⟨.malformedSchema,none⟩)
  | .ok value => ofJson value

end Submission

structure TextLine where
  text : Text
  confidence : Binary64
  box : List Binary64
  outline : List (List Binary64)
  deriving DecidableEq,Repr

structure Recognition where
  lines : List TextLine
  fullText : Text
  deriving DecidableEq,Repr

structure Extraction where
  recognition : Recognition
  values : List (Text × Json)
  deriving DecidableEq,Repr

def numbersJson (numbers : List Binary64) : Json := .arr (numbers.map .float)

namespace TextLine

def readMembers (members : List (Text × Json)) : Verdict TextLine :=
  ((Accept.requiredMember "text" Accept.text members).both
    ((Accept.requiredMember "confidence" Accept.number members).both
      ((Accept.requiredMember "bbox" (Accept.fixedTuple Accept.number 4) members).both
        (Accept.member "polygon" (Accept.list (Accept.fixedTuple Accept.number 2)) [] members)))).map
    fun (text,confidence,box,outline) => ⟨text,confidence,box,outline⟩

def read (source : Accept.Source) : Json → Verdict TextLine :=
  Accept.record source "TextLine" readMembers

def toJson (line : TextLine) : Json :=
  .obj [("text",.str line.text),("confidence",.float line.confidence),
    ("bbox",numbersJson line.box),("polygon",.arr (line.outline.map numbersJson))]

end TextLine

namespace Recognition

def readMembers (source : Accept.Source) (members : List (Text × Json)) : Verdict Recognition :=
  ((Accept.member "text_lines" (Accept.list (TextLine.read source)) [] members).both
    (Accept.member "full_text" Accept.text "" members)).map
    fun (lines,fullText) => ⟨lines,fullText⟩

def read (source : Accept.Source) : Json → Verdict Recognition :=
  Accept.record source "OCRResults" (readMembers source)

def toJson (recognition : Recognition) : Json :=
  .obj [("text_lines",.arr (recognition.lines.map TextLine.toJson)),
    ("full_text",.str recognition.fullText)]

end Recognition

namespace Extraction

def readMembers (source : Accept.Source) (members : List (Text × Json)) : Verdict Extraction :=
  ((Accept.requiredMember "ocr_results" (Recognition.read source) members).both
    (Accept.member "extracted_data" Accept.dictionary [] members)).map
    fun (recognition,values) => ⟨recognition,values⟩

def read (source : Accept.Source) : Json → Verdict Extraction :=
  Accept.record source "ProcessResponse" (readMembers source)

def toJson (extraction : Extraction) : Json :=
  .obj [("ocr_results",extraction.recognition.toJson),("extracted_data",.obj extraction.values)]

end Extraction

structure Reaction where
  answer : Except Uncaught Answer
  posts : List Post
  pauses : List Json
  deriving Repr

namespace Reaction

def only (answer : Except Uncaught Answer) : Reaction := ⟨answer,[],[]⟩

def sent (reaction : Reaction) : Reaction := { reaction with answer := reaction.answer.bind Answer.sent }

end Reaction

namespace Processing

def readFile (form : Form) : Verdict Document :=
  match form.part? "file" with
  | none => .reject .missing
  | some (.text _ content) => .reject (if content.isEmpty then .missing else .notAnUpload)
  | some (.file _ document) => .accepted document

def readSchema (form : Form) : Verdict String :=
  match form.part? "schema" with
  | none => .reject .missing
  | some (.text _ content) => if content.isEmpty then .reject .missing else .accepted content
  | some (.file _ _) => .reject .notText

def readParts (form : Form) : Verdict (Document × String) :=
  ((readFile form).within (.key "file")).both ((readSchema form).within (.key "schema"))

-- The submission that a document can be sent with, or the answer that there is none.
def accept (room : Json.Room) (document : Document) (schema : String) :
    Except (Except Uncaught Answer) Submission :=
  if document.filename.isEmpty then .error (.ok (.detail 400 "Document file is required"))
  else if document.content.isEmpty then .error (.ok (.detail 400 "Uploaded document is empty"))
  else
    match Submission.read room schema with
    | .error failure => .error failure.answer
    | .ok submission =>
      if submission.types.isEmpty then
        .error (.ok (.detail 400 "Please add at least one field to the schema"))
      else .ok submission

-- What an extraction that came back is answered with, written with nulls for what JSON proper has
-- no number for.
def extracted (body : Json) : Except Uncaught Answer :=
  match (Extraction.read .request body).within (.key "response") with
  | .rejected first rest => .error (.malformedExtraction first rest)
  | .accepted extraction => .ok (.ok extraction.toJson.withNulls)

-- The status of the service behind is passed on; without one it is that of a bad gateway.
def respond : Except ClientFailure Json → Except Uncaught Answer
  | .ok body => extracted body
  | .error (.processing message status) =>
    let passed := status.getD 0
    .ok (.detail (if passed = 0 then 502 else passed) message)
  | .error failure => .error (.client failure)

def send (client : Client) (document : Document) (submission : Submission)
    (outcomes : Nat → Outcome) : Reaction :=
  let dispatch :=
    client.send document (typeMapJson submission.types) submission.schema outcomes
  ⟨respond dispatch.result,dispatch.posts,dispatch.pauses⟩

def formAnswer : FormFault → Answer
  | .malformed => .unreadableBody
  | .noBoundary => .detail 400 "Missing boundary in multipart."
  | .unnamedPart =>
    .detail 400 "The Content-Disposition header field \"name\" must be provided."

def run (client : Client) (body : Body) (outcomes : Nat → Outcome) : Reaction :=
  match body.readForm client.charsets with
  | .error fault => .only (.ok (formAnswer fault))
  | .ok form =>
    match readParts form with
    | .rejected first rest => .only (.ok (.invalid (first :: rest)))
    | .accepted (document,schema) =>
      match accept client.room document schema with
      | .error answer => .only answer
      | .ok submission => send client document submission outcomes

end Processing

end ExtractionSchema
