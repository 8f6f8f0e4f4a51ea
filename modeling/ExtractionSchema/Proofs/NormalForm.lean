import ExtractionSchema.Proofs.Fragment

namespace ExtractionSchema

-- A description without a character says nothing.
def Attributes.normalise (attributes : Attributes) : Attributes :=
  { attributes with description := attributes.description.filter fun text => !text.isEmpty }

def Attributes.anonymous (attributes : Attributes) : Attributes :=
  { attributes with name := "",required := true }

theorem Attributes.anonymous_exact {first second : Attributes}
    (description : first.description = second.description)
    (examples : first.examples = second.examples) : first.anonymous = second.anonymous := by
  rw [anonymous,anonymous,description,examples]

def Format.normalise (format : Option Format) : Option Format :=
  format.filter fun format => format != .none

namespace Field

-- The elements of an array have no name, and none of them is required.
def anonymous (field : Field) : Field :=
  field.withAttributes field.attributes.anonymous

mutual
def normalise : Field → Field
  | .string attributes format => .string attributes.normalise (Format.normalise format)
  | .number attributes => .number attributes.normalise
  | .boolean attributes => .boolean attributes.normalise
  | .array attributes none => .array attributes.normalise none
  | .array attributes (some item) => .array attributes.normalise (some item.normalise.anonymous)
  | .object attributes properties => .object attributes.normalise (normaliseAll properties)
termination_by structural field => field
def normaliseAll : List Field → List Field
  | [] => []
  | field :: rest => field.normalise :: normaliseAll rest
termination_by structural fields => fields
end

theorem normaliseAll_map (fields : List Field) : normaliseAll fields = fields.map normalise := by
  induction fields with
  | nil => rfl
  | cons field rest ih => simp [normaliseAll,ih]

theorem normalise_attributes (field : Field) :
    field.normalise.attributes = field.attributes.normalise := by
  cases field with
  | array attributes items => cases items <;> rfl
  | _ => rfl

theorem normalise_name (field : Field) : field.normalise.name = field.name := by
  rw [name,normalise_attributes]
  rfl

theorem normalise_required (field : Field) : field.normalise.required = field.required := by
  rw [required,normalise_attributes]
  rfl

-- A name and a flag are all that a field loses by going without them.
theorem anonymous_exact {first second : Field} (same : first.anonymous = second.anonymous)
    (name : first.name = second.name) (required : first.required = second.required) :
    first = second := by
  have restored : ∀ field : Field, field.anonymous.withAttributes
      { field.anonymous.attributes with name := field.name,required := field.required } = field := by
    intro field
    cases field <;> rfl
  rw [← restored first,← restored second,same,name,required]

end Field

def FieldTree.normalise (tree : FieldTree) : FieldTree := Field.normaliseAll tree

namespace Schema

theorem described_normalise (description : Option Text) :
    described (description.filter fun text => !text.isEmpty) = described description := by
  cases description with
  | none => rfl
  | some text =>
    by_cases empty : text.isEmpty
    · simp only [described,Option.filter,empty,Bool.not_true,Bool.false_eq_true,if_false,if_true]
    · simp [described,Option.filter,empty]

theorem formatted_normalise (format : Option Format) :
    formatted (Format.normalise format) = formatted format := by
  rcases format with _ | format
  · rfl
  · cases format <;> rfl

theorem heading_normalise (type : FieldType) (attributes : Attributes) (format : Option Format) :
    heading type attributes.normalise (Format.normalise format) = heading type attributes format := by
  simp only [heading,Attributes.normalise,described_normalise,formatted_normalise]

theorem heading_unformatted (type : FieldType) (attributes : Attributes) :
    heading type attributes.normalise none = heading type attributes none :=
  heading_normalise type attributes none

theorem fragment_anonymous {field : Field} {schema : Json} :
    fragment field.anonymous = .ok schema ↔ fragment field = .ok schema := by
  cases field with
  | array attributes items =>
    cases items with
    | none => simp [Field.anonymous,Field.withAttributes,fragment]
    | some item => simp only [Field.anonymous,Field.withAttributes,fragment_array]; rfl
  | object attributes properties => exact Iff.rfl
  | _ => exact Iff.rfl

theorem requiredNames_normalise (fields : List Field) :
    requiredNames (Field.normaliseAll fields) = requiredNames fields := by
  have flags : (Field.required ∘ Field.normalise) = Field.required :=
    funext Field.normalise_required
  have names : (Field.name ∘ Field.normalise) = Field.name := funext Field.normalise_name
  simp [requiredNames,Field.normaliseAll_map,List.filter_map,flags,names]

theorem fragments_normalise {fields : List Field}
    (each : ∀ field ∈ fields, ∀ schema,
      fragment field.normalise = .ok schema ↔ fragment field = .ok schema)
    (properties : List (Text × Json)) :
    fragments (Field.normaliseAll fields) = .ok properties ↔ fragments fields = .ok properties := by
  rw [fragments_exact,fragments_exact]
  induction fields generalizing properties with
  | nil => exact Iff.rfl
  | cons field rest ih =>
    have own := each field List.mem_cons_self
    have later := ih fun other member => each other (List.mem_cons_of_mem _ member)
    simp only [Field.normaliseAll,List.forall₂_cons_left_iff,Becomes,Paired,Field.normalise_name,own,later]

theorem fragment_normalise (field : Field) (schema : Json) :
    fragment field.normalise = .ok schema ↔ fragment field = .ok schema := by
  induction field using Field.induction generalizing schema with
  | string attributes format => simp only [Field.normalise,fragment,heading_normalise]
  | number attributes => simp only [Field.normalise,fragment,heading_unformatted]
  | boolean attributes => simp only [Field.normalise,fragment,heading_unformatted]
  | bare attributes => simp [Field.normalise,fragment]
  | array attributes item inner =>
    simp only [Field.normalise,fragment_array,fragment_anonymous,inner,heading_unformatted]
  | object attributes fields inner =>
    have members := fragments_normalise inner
    simp only [Field.normalise,fragment_members,members,objectPart,requiredNames_normalise,
      heading_unformatted]

end Schema

end ExtractionSchema
