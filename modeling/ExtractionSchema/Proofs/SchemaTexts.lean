import ExtractionSchema.Proofs.Fragment
import ExtractionSchema.Proofs.PlainJson

namespace ExtractionSchema

variable {good : Text → Prop}

namespace Json

-- All that is said in the value is good, names included.
def All (good : Text → Prop) (value : Json) : Prop := ∀ text, value.Mentions text → good text

theorem all_str {text : Text} : All good (.str text) ↔ good text := by
  constructor
  · intro every
    exact every text .text
  · intro own other mentions
    cases mentions
    exact own

theorem all_bool {value : Bool} : All good (.bool value) := by
  intro text mentions
  cases mentions

theorem all_texts {texts : List Text} : All good (.arr (texts.map .str)) ↔ ∀ text ∈ texts, good text := by
  constructor
  · intro every text member
    exact every text (.item (List.mem_map_of_mem member) .text)
  · intro every text mentions
    cases mentions with
    | item member inner =>
      obtain ⟨own,found,rfl⟩ := List.mem_map.mp member
      exact all_str.mpr (every own found) text inner

theorem all_arr {items : List Json} : All good (.arr items) ↔ ∀ value ∈ items, All good value := by
  constructor
  · intro every value member text inner
    exact every text (.item member inner)
  · intro every text mentions
    cases mentions with
    | item member inner => exact every _ member text inner

theorem all_obj {members : List (Text × Json)} :
    All good (.obj members) ↔ ∀ member ∈ members, good member.1 ∧ All good member.2 := by
  constructor
  · intro every member found
    exact ⟨every member.1 (.name found),fun text inner => every text (.value found inner)⟩
  · intro every text mentions
    cases mentions with
    | name found => exact (every _ found).1
    | value found inner => exact (every _ found).2 text inner

end Json

-- The texts that a field gives to its schema. The name of an array's items is not among them.
inductive Field.Mentions : Field → Text → Prop where
  | description {field text} (given : field.description = some text) : Mentions field text
  | sample {field text} (given : text ∈ field.examples) : Mentions field text
  | item {attributes item text} (inner : Mentions item text) :
      Mentions (.array attributes (some item)) text
  | name {attributes properties property} (found : property ∈ properties) :
      Mentions (.object attributes properties) property.name
  | property {attributes properties property text} (found : property ∈ properties)
      (inner : Mentions property text) : Mentions (.object attributes properties) text

def Attributes.All (good : Text → Prop) (attributes : Attributes) : Prop :=
  (∀ text, attributes.description = some text → good text) ∧ ∀ text ∈ attributes.examples, good text

namespace Field

def All (good : Text → Prop) (field : Field) : Prop := ∀ text, field.Mentions text → good text

theorem all_own {field : Field} (every : field.All good) : field.attributes.All good :=
  ⟨fun text given => every text (.description given),fun text given => every text (.sample given)⟩

theorem all_scalar {field : Field} (scalar : field.type ≠ .array ∧ field.type ≠ .object) :
    field.All good ↔ field.attributes.All good := by
  refine ⟨all_own,?_⟩
  intro own text mentions
  cases mentions with
  | description given => exact own.1 text given
  | sample given => exact own.2 text given
  | item _ => exact (scalar.1 rfl).elim
  | name _ => exact (scalar.2 rfl).elim
  | property _ _ => exact (scalar.2 rfl).elim

theorem all_array {attributes : Attributes} {item : Field} :
    All good (.array attributes (some item)) ↔ attributes.All good ∧ item.All good := by
  constructor
  · intro every
    exact ⟨all_own every,fun text inner => every text (.item inner)⟩
  · rintro ⟨own,inner⟩ text mentions
    cases mentions with
    | description given => exact own.1 text given
    | sample given => exact own.2 text given
    | item deeper => exact inner text deeper

theorem all_object {attributes : Attributes} {properties : List Field} :
    All good (.object attributes properties) ↔ attributes.All good ∧
      ∀ property ∈ properties, good property.name ∧ property.All good := by
  constructor
  · intro every
    exact ⟨all_own every,fun property found =>
      ⟨every property.name (.name found),fun text inner => every text (.property found inner)⟩⟩
  · rintro ⟨own,inner⟩ text mentions
    cases mentions with
    | description given => exact own.1 text given
    | sample given => exact own.2 text given
    | name found => exact (inner _ found).1
    | property found deeper => exact (inner _ found).2 text deeper

end Field

namespace Schema

def MembersAll (good : Text → Prop) (members : List (Text × Json)) : Prop :=
  ∀ member ∈ members, good member.1 ∧ member.2.All good

theorem membersAll_append {first second : List (Text × Json)} :
    MembersAll good (first ++ second) ↔ MembersAll good first ∧ MembersAll good second :=
  List.forall_mem_append

section

-- The words that schemas are made of are good.
variable (words : ∀ text, Text.isBasic text = true → good text)
include words

theorem membersAll_one {key : Text} {value : Json} (basic : Text.isBasic key = true) :
    MembersAll good [(key,value)] ↔ value.All good := by
  simp [MembersAll,words key basic]

theorem described_all {description : Option Text} :
    MembersAll good (described description) ↔ ∀ text, description = some text → good text := by
  cases description with
  | none => simp [described,MembersAll]
  | some text =>
    by_cases empty : text.isEmpty
    · have none : text = "" := Text.isEmpty_iff.mp empty
      subst none
      simp [described,MembersAll,words "" rfl]
    · simp only [described,empty,Bool.false_eq_true,if_false,Option.some.injEq,forall_eq']
      exact (membersAll_one words (by decide)).trans Json.all_str

theorem formatted_all (format : Option Format) : MembersAll good (formatted format) := by
  cases format with
  | none => simp [formatted,MembersAll]
  | some format =>
    cases format
    · simp [formatted,MembersAll]
    all_goals exact (membersAll_one words (by decide)).mpr (Json.all_str.mpr (words _ (by decide)))

theorem exemplified_all {examples : List Text} :
    MembersAll good (exemplified examples) ↔ ∀ text ∈ examples, good text := by
  cases examples with
  | nil => simp [exemplified,MembersAll]
  | cons first rest => exact (membersAll_one words (by decide)).trans Json.all_texts

theorem heading_all {type : FieldType} {attributes : Attributes} {format : Option Format} :
    MembersAll good (heading type attributes format) ↔ attributes.All good := by
  have typed : MembersAll good [(("type" : Text),.str type.name)] := by
    refine (membersAll_one words (by decide)).mpr (Json.all_str.mpr (words _ ?_))
    cases type <;> decide
  have split : heading type attributes format = [(("type" : Text),.str type.name)]
      ++ described attributes.description ++ formatted format ++ exemplified attributes.examples :=
    rfl
  simp only [split,membersAll_append,typed,formatted_all words,described_all words,
    exemplified_all words,true_and,and_true]
  rfl

-- The required names are names of the properties and add nothing.
theorem closedPart_all {fields : List Field} {properties : List (Text × Json)}
    (keys : Entries.keys properties = fields.map (·.name)) :
    MembersAll good (closedPart fields properties) ↔ MembersAll good properties := by
  have closed : MembersAll good [(("additionalProperties" : Text),.bool false)] :=
    (membersAll_one words (by decide)).mpr Json.all_bool
  have required : MembersAll good properties →
      Json.All good (.arr ((requiredNames fields).map .str)) := by
    intro every
    refine Json.all_texts.mpr fun name found => ?_
    have key : name ∈ Entries.keys properties := keys ▸ (requiredNames_sublist fields).subset found
    obtain ⟨property,own,same⟩ := List.mem_map.mp key
    exact same ▸ (every property own).1
  have split : closedPart fields properties = [(("properties" : Text),.obj properties)]
      ++ (if (requiredNames fields).isEmpty then []
        else [(("required" : Text),.arr ((requiredNames fields).map .str))])
      ++ [(("additionalProperties" : Text),.bool false)] := rfl
  have inner : MembersAll good [(("properties" : Text),.obj properties)] ↔ MembersAll good properties :=
    (membersAll_one words (by decide)).trans Json.all_obj
  simp only [split,membersAll_append,closed,inner,and_true,and_iff_left_iff_imp]
  intro every
  split
  · simp [MembersAll]
  · exact (membersAll_one words (by decide)).mpr (required every)

end

theorem properties_all {fields : List Field} {properties : List (Text × Json)}
    (aligned : List.Forall₂ (Paired fun field schema => schema.All good ↔ field.All good)
      fields properties) :
    MembersAll good properties ↔ ∀ field ∈ fields, good field.name ∧ field.All good := by
  induction aligned with
  | nil => simp [MembersAll]
  | cons own _ ih =>
    simp only [MembersAll] at ih
    simp only [MembersAll,List.forall_mem_cons,ih,own.1,own.2]

theorem fragment_all (words : ∀ text, Text.isBasic text = true → good text) {field : Field}
    (sound : SoundInside field) {schema : Json} (compiled : fragment field = .ok schema) :
    schema.All good ↔ field.All good := by
  have scalar : ∀ {type attributes format}, Json.All good (.obj (heading type attributes format)) ↔
      attributes.All good := Json.all_obj.trans (heading_all words)
  refine fragment_induction (P := fun field schema => schema.All good ↔ field.All good)
    ?_ ?_ ?_ ?_ ?_ sound compiled
  · intro attributes format
    rw [Field.all_scalar (by simp [Field.type])]
    exact scalar
  · intro attributes
    rw [Field.all_scalar (by simp [Field.type])]
    exact scalar
  · intro attributes
    rw [Field.all_scalar (by simp [Field.type])]
    exact scalar
  · intro attributes item items inner
    have part : MembersAll good [(("items" : Text),items)] ↔ item.All good :=
      (membersAll_one words (by decide)).trans inner
    rw [Field.all_array,← part]
    exact Json.all_obj.trans (membersAll_append.trans (and_congr_left' (heading_all words)))
  · intro attributes fields properties distinct keys inner
    have part := (closedPart_all words keys).trans (properties_all inner)
    rw [Field.all_object,← part]
    exact Json.all_obj.trans (membersAll_append.trans (and_congr_left' (heading_all words)))

end Schema

end ExtractionSchema
