import ExtractionSchema.Proofs.NormalForm
import ExtractionSchema.Proofs.PlainSchemas
import ExtractionSchema.Proofs.ReadBack
import Mathlib.Data.List.Nodup

namespace ExtractionSchema

theorem Format.name_injective : Function.Injective Format.name := by
  intro first second same
  have found := congrArg (fun name : String => Format.ofName? name) same
  simp only [ofName?_name] at found
  exact Option.some.inj found

theorem FieldType.name_injective : Function.Injective FieldType.name := by
  intro first second same
  have found := congrArg (fun name : String => FieldType.ofName? name) same
  simp only [ofName?_name] at found
  exact Option.some.inj found

namespace Schema

theorem described_lookup (description : Option Text) (key : Text) :
    (described description).lookup key = if key = "description"
      then (description.filter fun text => !text.isEmpty).map .str else none := by
  rw [← described_normalise]
  cases said : description.filter fun text => !text.isEmpty with
  | none => simp [described]
  | some text =>
    have some : text.isEmpty = false := by simpa using (Option.filter_eq_some_iff.mp said).2
    by_cases own : key = "description" <;> simp [described,some,own]

theorem formatted_lookup (format : Option Format) (key : Text) :
    (formatted format).lookup key = if key = "format"
      then (Format.normalise format).map fun format => .str format.name else none := by
  rcases format with _ | format
  · simp [formatted,Format.normalise]
  · cases format <;> by_cases own : key = "format" <;>
      simp [formatted,Format.normalise,Option.filter,own]

theorem exemplified_lookup (examples : List Text) (key : Text) :
    (exemplified examples).lookup key = if key = "examples" ∧ examples ≠ []
      then some (.arr (examples.map .str)) else none := by
  cases examples with
  | nil => simp [exemplified]
  | cons first rest => by_cases own : key = "examples" <;> simp [exemplified,own]

theorem texts_exact {first second : List Text} :
    first.map Json.str = second.map Json.str ↔ first = second :=
  List.map_inj_right fun _ _ same => Json.str.inj same

-- What stands behind a heading has none of the keys of the annotations.
def Unannotated (rest : List (Text × Json)) : Prop :=
  ∀ key ∈ (["description","format","examples"] : List Text), rest.lookup key = none

theorem heading_append_lookup {key : Text} (other : key ≠ "type") (type : FieldType)
    (attributes : Attributes) (format : Option Format) (rest : List (Text × Json)) :
    (heading type attributes format ++ rest).lookup key
      = ((described attributes.description).lookup key).or (((formatted format).lookup key).or
          (((exemplified attributes.examples).lookup key).or (rest.lookup key))) := by
  have differs : (key == "type") = false := beq_false_of_ne other
  simp only [heading,List.cons_append,List.append_assoc,List.lookup_cons,differs,List.lookup_append]

section
variable {type : FieldType} {attributes : Attributes} {format : Option Format}
  {rest : List (Text × Json)}

theorem heading_description (bare : Unannotated rest) :
    (heading type attributes format ++ rest).lookup ("description" : Text)
      = attributes.normalise.description.map .str := by
  rw [heading_append_lookup (by decide),described_lookup,formatted_lookup,exemplified_lookup,
    bare "description" (by decide)]
  simp [Attributes.normalise]

theorem heading_format (bare : Unannotated rest) :
    (heading type attributes format ++ rest).lookup ("format" : Text)
      = (Format.normalise format).map fun format => .str format.name := by
  rw [heading_append_lookup (by decide),described_lookup,formatted_lookup,exemplified_lookup,
    bare "format" (by decide)]
  simp

theorem heading_examples (bare : Unannotated rest) :
    (heading type attributes format ++ rest).lookup ("examples" : Text)
      = (exemplified attributes.examples).lookup ("examples" : Text) := by
  rw [heading_append_lookup (by decide),described_lookup,formatted_lookup,
    bare "examples" (by decide)]
  simp

end

theorem exemplified_exact {first second : List Text}
    (same : (exemplified first).lookup ("examples" : Text) = (exemplified second).lookup ("examples" : Text)) :
    first = second := by
  rw [exemplified_lookup,exemplified_lookup] at same
  by_cases empty : first = []
  · by_cases bare : second = []
    · rw [empty,bare]
    · simp [empty,bare] at same
  · by_cases bare : second = []
    · simp [empty,bare] at same
    · simpa [empty,bare,texts_exact] using same

theorem heading_exact {first second : FieldType} {own other : Attributes}
    {format hint : Option Format} {rest more : List (Text × Json)} (bare : Unannotated rest)
    (plain : Unannotated more)
    (same : heading first own format ++ rest = heading second other hint ++ more) :
    own.normalise.description = other.normalise.description ∧
      Format.normalise format = Format.normalise hint ∧ own.examples = other.examples ∧
        rest = more := by
  have said := congrArg (List.lookup ("description" : Text)) same
  have shaped := congrArg (List.lookup ("format" : Text)) same
  have sampled := congrArg (List.lookup ("examples" : Text)) same
  rw [heading_description bare,heading_description plain] at said
  rw [heading_format bare,heading_format plain] at shaped
  rw [heading_examples bare,heading_examples plain] at sampled
  have description : own.normalise.description = other.normalise.description :=
    (Option.map_inj_right fun _ _ equal => Json.str.inj equal).mp said
  have hints : Format.normalise format = Format.normalise hint :=
    (Option.map_inj_right fun _ _ equal => Format.name_injective (Text.ofString_inj.mp (Json.str.inj equal))).mp shaped
  have examples := exemplified_exact sampled
  have type : first = second := by
    have front := (List.cons.inj same).1
    exact FieldType.name_injective (Text.ofString_inj.mp (Json.str.inj (Prod.mk.inj front).2))
  have fronts : heading first own format = heading second other hint := by
    rw [← heading_normalise first own,← heading_normalise second other,type,hints]
    simp only [heading,description]
    simp only [Attributes.normalise,examples]
  rw [fronts] at same
  exact ⟨description,hints,examples,List.append_cancel_left same⟩

theorem fragment_type {field : Field} {schema : Json} (compiled : fragment field = .ok schema) :
    ∃ rest, schema = .obj (("type",.str field.type.name) :: rest) := by
  cases field with
  | array attributes items =>
    cases items with
    | none => cases compiled
    | some item =>
      obtain ⟨items,_,rfl⟩ := fragment_array.mp compiled
      exact ⟨_,rfl⟩
  | object attributes fields =>
    obtain ⟨properties,_,rfl⟩ := fragment_members.mp compiled
    exact ⟨_,rfl⟩
  | _ =>
    cases compiled
    exact ⟨_,rfl⟩

theorem same_type {first second : Field} {schema : Json} (compiled : fragment first = .ok schema)
    (again : fragment second = .ok schema) : first.type = second.type := by
  obtain ⟨rest,own⟩ := fragment_type compiled
  obtain ⟨more,other⟩ := fragment_type again
  rw [own] at other
  exact FieldType.name_injective (by simpa using (List.cons.inj (Json.obj.inj other)).1)

theorem items_unannotated (items : Json) : Unannotated [("items",items)] := by
  simp [Unannotated]

theorem closedPart_unannotated (fields : List Field) (properties : List (Text × Json)) :
    Unannotated (closedPart fields properties) := by
  unfold closedPart
  split <;> simp [Unannotated,List.lookup_cons]

theorem closedPart_exact {fields others : List Field} {properties more : List (Text × Json)}
    (same : closedPart fields properties = closedPart others more) :
    requiredNames fields = requiredNames others ∧ properties = more := by
  obtain ⟨first,rest⟩ := List.cons.inj same
  have inside : properties = more := by simpa using first
  refine ⟨?_,inside⟩
  cases own : requiredNames fields with
  | nil =>
    cases other : requiredNames others with
    | nil => rfl
    | cons name names => simp [own,other] at rest
  | cons name names =>
    cases other : requiredNames others with
    | nil => simp [own,other] at rest
    | cons name names => simpa [own,other,texts_exact] using rest

-- A name stands for one field only, so its place among the required ones gives the flag.
theorem requiredNames_exact {fields : List Field} (distinct : (fields.map (·.name)).Nodup)
    {field : Field} (member : field ∈ fields) :
    field.name ∈ requiredNames fields ↔ field.required = true := by
  simp only [requiredNames,List.mem_map,List.mem_filter]
  constructor
  · rintro ⟨other,⟨found,flag⟩,same⟩
    rw [← List.inj_on_of_nodup_map distinct found member same]
    exact flag
  · intro flag
    exact ⟨field,⟨member,flag⟩,rfl⟩

theorem properties_exact {fields others : List Field} {properties : List (Text × Json)}
    (aligned : List.Forall₂ Becomes fields properties) (again : List.Forall₂ Becomes others properties)
    (flags : ∀ field ∈ fields, ∀ other ∈ others, field.name = other.name →
      field.required = other.required)
    (each : ∀ field ∈ fields, ∀ other ∈ others, ∀ schema, fragment field = .ok schema →
      fragment other = .ok schema → field.normalise.anonymous = other.normalise.anonymous) :
    Field.normaliseAll fields = Field.normaliseAll others := by
  induction aligned generalizing others with
  | nil => cases again; rfl
  | @cons field property fields properties becomes aligned ih =>
    cases again with
    | @cons other _ others _ equal again =>
      have name : field.name = other.name := becomes.1.symm.trans equal.1
      have required := flags field (by simp) other (by simp) name
      have inside := each field (by simp) other (by simp) _ becomes.2 equal.2
      have own : field.normalise = other.normalise := by
        apply Field.anonymous_exact inside
        · rw [Field.normalise_name,Field.normalise_name,name]
        · rw [Field.normalise_required,Field.normalise_required,required]
      have rest := ih again
        (fun field member other found => flags field (List.mem_cons_of_mem _ member) other
          (List.mem_cons_of_mem _ found))
        (fun field member other found => each field (List.mem_cons_of_mem _ member) other
          (List.mem_cons_of_mem _ found))
      rw [Field.normaliseAll,Field.normaliseAll,own,rest]

theorem leaf_exact {type : FieldType} {own other : Attributes} {format hint : Option Format}
    (same : heading type own format = heading type other hint) :
    own.normalise.anonymous = other.normalise.anonymous ∧
      Format.normalise format = Format.normalise hint := by
  rw [← List.append_nil (heading type own format),← List.append_nil (heading type other hint)] at same
  obtain ⟨description,hints,examples,_⟩ := heading_exact (by simp [Unannotated])
    (by simp [Unannotated]) same
  exact ⟨Attributes.anonymous_exact description examples,hints⟩

theorem flags_exact {fields others : List Field} (distinct : (fields.map (·.name)).Nodup)
    (apart : (others.map (·.name)).Nodup) (same : requiredNames fields = requiredNames others) :
    ∀ field ∈ fields, ∀ other ∈ others, field.name = other.name →
      field.required = other.required := by
  intro field member other found name
  have own := requiredNames_exact distinct member
  have equal := requiredNames_exact apart found
  rw [same,name] at own
  exact Bool.eq_iff_iff.mpr (own.symm.trans equal)

-- A fragment fixes the type first, then what the heading says, and last what is inside.
theorem fragment_normal {first second : Field} (sound : SoundInside first)
    (other : SoundInside second) {schema : Json} (compiled : fragment first = .ok schema)
    (again : fragment second = .ok schema) :
    first.normalise.anonymous = second.normalise.anonymous := by
  have type := same_type compiled again
  induction first using Field.induction generalizing second schema with
  | string attributes format =>
    cases second with
    | string own hint =>
      cases compiled
      obtain ⟨known,hints⟩ := leaf_exact (Json.obj.inj (Except.ok.inj again)).symm
      exact congrArg₂ Field.string known hints
    | _ => cases type
  | number attributes =>
    cases second with
    | number own =>
      cases compiled
      obtain ⟨known,_⟩ := leaf_exact (Json.obj.inj (Except.ok.inj again)).symm
      exact congrArg Field.number known
    | _ => cases type
  | boolean attributes =>
    cases second with
    | boolean own =>
      cases compiled
      obtain ⟨known,_⟩ := leaf_exact (Json.obj.inj (Except.ok.inj again)).symm
      exact congrArg Field.boolean known
    | _ => cases type
  | bare attributes => cases sound
  | array attributes item inner =>
    cases second with
    | array own element =>
      cases element with
      | none => cases other
      | some element =>
        have within : SoundInside element := other
        obtain ⟨items,whole,rfl⟩ := fragment_array.mp compiled
        obtain ⟨more,part,same⟩ := fragment_array.mp again
        obtain ⟨description,_,examples,rest⟩ := heading_exact (items_unannotated items)
          (items_unannotated more) (Json.obj.inj same)
        have equal : items = more := by simpa using rest
        subst equal
        have elements := inner sound within whole part (same_type whole part)
        exact congrArg₂ Field.array (Attributes.anonymous_exact description examples)
          (congrArg some elements)
    | _ => cases type
  | object attributes fields inner =>
    cases second with
    | object own others =>
      obtain ⟨among,distinct⟩ := sound
      obtain ⟨within,apart⟩ := other
      obtain ⟨properties,aligned,rfl⟩ := (fragment_object distinct).mp compiled
      obtain ⟨more,alike,same⟩ := (fragment_object apart).mp again
      obtain ⟨description,_,examples,rest⟩ := heading_exact (closedPart_unannotated fields properties)
        (closedPart_unannotated others more) (Json.obj.inj same)
      obtain ⟨required,rfl⟩ := closedPart_exact rest
      have members := properties_exact aligned alike (flags_exact distinct apart required)
        fun field member other found schema whole part =>
          inner field member (soundAmong_iff.mp among field member).2
            (soundAmong_iff.mp within other found).2 whole part (same_type whole part)
      exact congrArg₂ Field.object (Attributes.anonymous_exact description examples) members
    | _ => cases type

end Schema

theorem FieldTree.compile_same_iff {first second : FieldTree} (sound : first.WellFormed)
    (other : second.WellFormed) {schema : Json} (compiled : first.compile = .ok schema) :
    second.compile = .ok schema ↔ first.normalise = second.normalise := by
  rw [compile_wellFormed sound] at compiled
  rw [compile_wellFormed other]
  constructor
  · intro again
    have same := Schema.fragment_normal sound.inside other.inside compiled again
    exact (Field.object.inj same).2
  · intro same
    have whole : (Field.object .initial first).normalise = (Field.object .initial second).normalise :=
      congrArg (Field.object Attributes.initial) same
    rw [← Schema.fragment_normalise,← whole]
    exact (Schema.fragment_normalise _ _).mpr compiled

-- Both texts are read back, and so they are one only if the schemas are.
theorem FieldTree.compileText_same_iff (first second : FieldTree) (sound : first.WellFormed)
    (other : second.WellFormed) :
    (∃ text, first.compileText = .ok text ∧ second.compileText = .ok text) ↔
      first.normalise = second.normalise := by
  obtain ⟨schema,compiled,_,plain,written⟩ := compileText_exact sound
  obtain ⟨more,again,_,plain_,wrote⟩ := compileText_exact other
  rw [← compile_same_iff sound other compiled,written,wrote,again]
  constructor
  · rintro ⟨text,own,equal⟩
    cases own
    rw [Json.write_injective Json.compact_readable plain_ plain (Except.ok.inj equal)]
  · intro same
    cases same
    exact ⟨_,rfl,rfl⟩

-- An array of texts with all that goes unsaid in its schema, and the same without any of it.
def wordyTags : FieldTree :=
  [.array ⟨"tags",true,some "",["a"]⟩ (some (.string ⟨"tag",false,some "",[]⟩ (some .none)))]

def spareTags : FieldTree :=
  [.array ⟨"tags",true,none,["a"]⟩ (some (.string ⟨"",true,none,[]⟩ none))]

theorem tags_same :
    wordyTags.WellFormed ∧ spareTags.WellFormed ∧ wordyTags ≠ spareTags ∧
      ∃ text, wordyTags.compileText = .ok text ∧ spareTags.compileText = .ok text :=
  ⟨by decide,by decide,by decide,
    (FieldTree.compileText_same_iff wordyTags spareTags (by decide) (by decide)).mpr rfl⟩

end ExtractionSchema
