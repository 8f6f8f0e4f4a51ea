import ExtractionSchema.Field.Reader
import ExtractionSchema.Field.WellFormed
import ExtractionSchema.Json.Writer

namespace ExtractionSchema

namespace Schema

def described (description : Option Text) : List (Text × Json) :=
  match description with
  | some text => if text.isEmpty then [] else [("description",.str text)]
  | none => []

-- No format is written for the format `none`.
def formatted (format : Option Format) : List (Text × Json) :=
  match format with
  | some .none | none => []
  | some format => [("format",.str format.name)]

def exemplified (examples : List Text) : List (Text × Json) :=
  if examples.isEmpty then [] else [("examples",.arr (examples.map .str))]

def heading (type : FieldType) (attributes : Attributes) (format : Option Format) :
    List (Text × Json) :=
  (("type" : Text),.str type.name) :: described attributes.description ++ formatted format
    ++ exemplified attributes.examples

def requiredNames (fields : List Field) : List Text :=
  (fields.filter (·.required)).map (·.name)

def objectPart (fields : List Field) (fragments : List (Text × Json)) : List (Text × Json) :=
  let required := requiredNames fields
  (("properties" : Text),.obj (Entries.collapse fragments))
    :: (if required.isEmpty then [] else [("required",.arr (required.map .str))])
    ++ [(("additionalProperties" : Text),.bool false)]

mutual
def fragment : Field → Except TreeError Json
  | .string attributes format => .ok (.obj (heading .string attributes format))
  | .number attributes => .ok (.obj (heading .number attributes none))
  | .boolean attributes => .ok (.obj (heading .boolean attributes none))
  | .array attributes none => .error ⟨.missingItems,some attributes.name⟩
  | .array attributes (some item) =>
    match fragment item with
    | .error error => .error error
    | .ok items => .ok (.obj (heading .array attributes none ++ [(("items" : Text),items)]))
  | .object attributes properties =>
    match fragments properties with
    | .error error => .error error
    | .ok members =>
      .ok (.obj (heading .object attributes none ++ objectPart properties members))
termination_by structural field => field
def fragments : List Field → Except TreeError (List (Text × Json))
  | [] => .ok []
  | field :: rest =>
    match fragment field with
    | .error error => .error error
    | .ok compiled =>
      match fragments rest with
      | .error error => .error error
      | .ok others => .ok ((field.name,compiled) :: others)
termination_by structural fields => fields
end

def root (tree : FieldTree) : Except TreeError Json :=
  (fragments tree).map fun members =>
    .obj (("type",.str FieldType.object.name) :: objectPart tree members)

end Schema

namespace FieldTree

def compile (tree : FieldTree) : Except TreeError Json :=
  match tree.check "" with
  | .error error => .error error
  | .ok () => Schema.root tree

def compileText (tree : FieldTree) : Except TreeError (List Code) :=
  tree.compile.map (Json.write .compact)

def typeMap (tree : FieldTree) : Entries FieldType :=
  Entries.collapse (tree.map fun field => (field.name,field.type))

end FieldTree

def typeMapJson (types : Entries FieldType) : Json :=
  .obj (types.map fun (name,type) => (name,.str type.name))

end ExtractionSchema
