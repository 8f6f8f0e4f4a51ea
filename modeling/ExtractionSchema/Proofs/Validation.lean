import ExtractionSchema.Json

namespace ExtractionSchema

namespace Json

-- A value that is no object has no members, and one that is no array has no items.
def members : Json → List (Text × Json)
  | .obj members => members
  | _ => []

def items : Json → List Json
  | .arr items => items
  | _ => []

end Json

namespace Schema

-- A number without a fraction is an integer, however it is written.
def isOfKind (name : Text) : Json → Bool
  | .null => name == "null"
  | .bool _ => name == "boolean"
  | .int _ => name == "number" || name == "integer"
  | .float value => name == "number" || (name == "integer" && value.toInt?.isSome)
  | .str _ => name == "string"
  | .arr _ => name == "array"
  | .obj _ => name == "object"

-- One kind or a choice of kinds.
def typeHolds (value : Json) : Json → Bool
  | .str name => isOfKind name value
  | .arr names => names.any fun
    | .str name => isOfKind name value
    | _ => false
  | _ => false

def requiredHolds (value : Json) : Json → Bool
  | .arr names => names.all fun
    | .str name => value.kind != .obj || value.members.any (·.1 == name)
    | _ => false
  | _ => false

-- The names that have a schema of their own, so that none of them is additional.
def declared (keywords : List (Text × Json)) : List Text :=
  match keywords.lookup ("properties" : Text) with
  | some schemas => schemas.members.map (·.1)
  | none => []

mutual
-- A schema is a flag, or an object whose keywords all have to hold.
def accepts : Json → Json → Bool
  | .bool allowed,_ => allowed
  | .obj keywords,value => allHold (declared keywords) keywords value
  | _,_ => false
termination_by structural schema => schema
def allHold (names : List Text) : List (Text × Json) → Json → Bool
  | [],_ => true
  | (keyword,argument) :: rest,value =>
    (if keyword = "type" then typeHolds value argument
      else if keyword = "properties" then schemasHold argument value
      else if keyword = "required" then requiredHolds value argument
      else if keyword = "additionalProperties" then
        value.members.all fun member => names.contains member.1 || accepts argument member.2
      else if keyword = "items" then value.items.all fun item => accepts argument item
      else true)
      && allHold names rest value
termination_by structural keywords => keywords
def schemasHold : Json → Json → Bool
  | .obj schemas,value => propertiesHold schemas value
  | _,_ => false
termination_by structural argument => argument
def propertiesHold : List (Text × Json) → Json → Bool
  | [],_ => true
  | (name,schema) :: rest,value =>
    (value.members.all fun member => member.1 != name || accepts schema member.2)
      && propertiesHold rest value
termination_by structural schemas => schemas
end

end Schema

end ExtractionSchema
