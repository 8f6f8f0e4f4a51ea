import ExtractionSchema.Field
import ExtractionSchema.Json.Writer

namespace ExtractionSchema

inductive Segment where
  | key (name : Text)
  | index (position : Int)
  -- The type of a field passed through, which leads nowhere.
  | tag (type : FieldType)
  -- A truth value counts as a position and keeps its own spelling.
  | flag (value : Bool)
  | mark (text : Text)
  deriving DecidableEq,Repr

abbrev Location := List Segment

namespace Segment

def isPosition : Segment → Bool
  | .index _ | .flag _ => true
  | _ => false

def isTypeName : Segment → Bool
  | .key name => (FieldType.ofName? name).isSome
  | .tag _ => true
  | _ => false

def text : Segment → Text
  | .key name => name
  | .index position => toString position
  | .tag type => type.name
  | .flag value => (Json.bool value).display
  | .mark text => text

def ofJson? : Json → Option Segment
  | .str name => some (.key name)
  | .int position => some (.index position)
  | .bool value => some (.flag value)
  | .arr _ | .obj _ => none
  | value => some (.mark value.asText)

def toJson : Segment → Json
  | .key name => .str name
  | .index position => .int position
  | .tag type => .str type.name
  | .flag value => .bool value
  | .mark text => .str text

end Segment

def joinPath (path name : Text) : Text := if path.isEmpty then name else path ++ "." ++ name

def indexPath (path index : Text) : Text := path ++ "[" ++ index ++ "]"

namespace Location

-- Whether a segment that follows another one (or none) is the type of a field passed through.
def isTag (previous : Option Segment) (segment : Segment) : Bool :=
  segment.isTypeName &&
    match previous with
    | none => true
    | some before => before.isPosition || before == .key "items"

def pathFrom (path : Text) (previous : Option Segment) : Location → Text
  | [] => path
  | segment :: rest =>
    let extended :=
      if segment.isPosition then indexPath path segment.text
      else if isTag previous segment then path
      else joinPath path segment.text
    pathFrom extended (some segment) rest

def path (location : Location) : Text := pathFrom "" none location

-- The value that a segment leads to. A segment that leads nowhere is passed over, such as a tag or
-- a key that is missing.
def step (value : Json) : Segment → Json
  | .key name =>
    match value with
    | .obj members => (members.lookup name).getD value
    | _ => value
  | .index position =>
    match value with
    | .arr items => (items[position.toNat]?).getD value
    | _ => value
  | _ => value

def valueIn (value : Json) (location : Location) : Json := location.foldl step value

end Location

end ExtractionSchema
