import ExtractionSchema.Proofs.Fragment
import ExtractionSchema.Proofs.Validation
import ExtractionSchema.Template

namespace ExtractionSchema

-- The values that a field is for. The members of an object are taken by name, in any order.
inductive Field.Fits : Field → Json → Prop where
  | text {attributes format value} : Fits (.string attributes format) (.str value)
  | integer {attributes value} : Fits (.number attributes) (.int value)
  | float {attributes value} : Fits (.number attributes) (.float value)
  | flag {attributes value} : Fits (.boolean attributes) (.bool value)
  | list {attributes item values} (each : ∀ value ∈ values, Fits item value) :
      Fits (.array attributes (some item)) (.arr values)
  | record {attributes properties members}
      (known : ∀ key value, (key,value) ∈ members → ∃ property ∈ properties, property.name = key)
      (present : ∀ property ∈ properties, property.required = true →
        ∃ value, (property.name,value) ∈ members)
      (each : ∀ property ∈ properties, ∀ value, (property.name,value) ∈ members →
        Fits property value) :
      Fits (.object attributes properties) (.obj members)

def FieldTree.Fits (tree : FieldTree) (value : Json) : Prop :=
  Field.Fits (.object .initial tree) value

namespace Schema

theorem allHold_append (names : List Text) (first second : List (Text × Json)) (value : Json) :
    allHold names (first ++ second) value
      = (allHold names first value && allHold names second value) := by
  induction first with
  | nil => simp [allHold]
  | cons pair rest ih =>
    obtain ⟨keyword,argument⟩ := pair
    simp only [List.cons_append,allHold,ih,Bool.and_assoc]

-- Of a heading only the type restricts anything.
theorem allHold_heading (names : List Text) (type : FieldType) (attributes : Attributes)
    (format : Option Format) (value : Json) :
    allHold names (heading type attributes format) value = isOfKind type.name value := by
  have description : allHold names (described attributes.description) value = true := by
    unfold described
    split
    · split <;> simp [allHold]
    · rfl
  have formats : allHold names (formatted format) value = true := by
    unfold formatted
    split <;> simp [allHold]
  have examples : allHold names (exemplified attributes.examples) value = true := by
    unfold exemplified
    split <;> simp [allHold]
  simp [heading,allHold_append,allHold,typeHolds,description,formats,examples]

theorem accepts_leaf (type : FieldType) (attributes : Attributes) (format : Option Format)
    (value : Json) :
    accepts (.obj (heading type attributes format)) value = isOfKind type.name value :=
  allHold_heading _ _ _ _ _

theorem accepts_list (attributes : Attributes) (items value : Json) :
    accepts (.obj (heading .array attributes none ++ [(("items" : Text),items)])) value
      = (isOfKind "array" value && value.items.all (accepts items)) := by
  simp [accepts,allHold_append,allHold_heading,allHold,FieldType.name]

theorem declared_record (attributes : Attributes) (fields : List Field)
    (properties : List (Text × Json)) :
    declared (heading .object attributes none ++ closedPart fields properties)
      = properties.map (·.1) := by
  have none := heading_lookup "properties" .object attributes none (by decide)
  simp [declared,List.lookup_append,none,closedPart,Json.members]

theorem accepts_record (attributes : Attributes) (fields : List Field)
    (properties : List (Text × Json)) (value : Json) :
    accepts (.obj (heading .object attributes none ++ closedPart fields properties)) value
      = (isOfKind "object" value && (propertiesHold properties value
        && ((requiredNames fields).all fun name =>
            value.kind != .obj || value.members.any (·.1 == name))
        && value.members.all fun member => (properties.map (·.1)).contains member.1)) := by
  rw [accepts,allHold_append,allHold_heading,declared_record]
  by_cases nothing : (requiredNames fields).isEmpty
  · have empty := List.isEmpty_iff.mp nothing
    simp [closedPart,allHold,accepts,schemasHold,FieldType.name,empty]
  · simp [closedPart,allHold,accepts,schemasHold,FieldType.name,requiredHolds,nothing,
      List.all_map,Function.comp_def,Bool.and_assoc]

theorem propertiesHold_iff {schemas : List (Text × Json)} {value : Json} :
    propertiesHold schemas value = true ↔
      ∀ property ∈ schemas, ∀ part, (property.1,part) ∈ value.members →
        accepts property.2 part = true := by
  induction schemas with
  | nil => simp [propertiesHold]
  | cons property rest ih =>
    obtain ⟨name,schema⟩ := property
    have head : (value.members.all fun member => member.1 != name || accepts schema member.2) = true ↔
        ∀ part, (name,part) ∈ value.members → accepts schema part = true := by
      simp only [List.all_eq_true,Bool.or_eq_true,bne_iff_ne,ne_eq,Prod.forall]
      constructor
      · intro every part found
        exact (every name part found).resolve_left (fun apart => apart rfl)
      · intro every key part found
        by_cases same : key = name
        · exact .inr (every part (same ▸ found))
        · exact .inl same
    simp only [propertiesHold,Bool.and_eq_true,head,ih,List.forall_mem_cons]

theorem propertiesHold_fits {fields : List Field} {properties : List (Text × Json)}
    (members : List (Text × Json))
    (aligned : List.Forall₂ (Paired fun field schema =>
      ∀ part, Field.Fits field part ↔ accepts schema part = true) fields properties) :
    (∀ field ∈ fields, ∀ part, (field.name,part) ∈ members → Field.Fits field part) ↔
      propertiesHold properties (.obj members) = true := by
  rw [propertiesHold_iff]
  induction aligned with
  | nil => simp
  | cons own _ ih => simp only [List.forall_mem_cons,ih,own.1,own.2,Json.members]

theorem fits_text {attributes : Attributes} {format : Option Format} {value : Json} :
    Field.Fits (.string attributes format) value ↔ isOfKind "string" value = true := by
  constructor
  · rintro ⟨⟩
    rfl
  · intro kind
    cases value with
    | str value => exact .text
    | _ => simp [isOfKind] at kind

theorem fits_number {attributes : Attributes} {value : Json} :
    Field.Fits (.number attributes) value ↔ isOfKind "number" value = true := by
  constructor
  · rintro ⟨⟩ <;> rfl
  · intro kind
    cases value with
    | int value => exact .integer
    | float value => exact .float
    | _ => simp [isOfKind] at kind

theorem fits_flag {attributes : Attributes} {value : Json} :
    Field.Fits (.boolean attributes) value ↔ isOfKind "boolean" value = true := by
  constructor
  · rintro ⟨⟩
    rfl
  · intro kind
    cases value with
    | bool value => exact .flag
    | _ => simp [isOfKind] at kind

theorem fits_list {attributes : Attributes} {item : Field} {value : Json} :
    Field.Fits (.array attributes (some item)) value ↔
      isOfKind "array" value = true ∧ ∀ part ∈ value.items, Field.Fits item part := by
  constructor
  · intro fits
    cases fits with
    | list each => exact ⟨rfl,each⟩
  · rintro ⟨kind,each⟩
    cases value with
    | arr values => exact .list each
    | _ => simp [isOfKind] at kind

theorem fits_record {attributes : Attributes} {fields : List Field} {value : Json} :
    Field.Fits (.object attributes fields) value ↔
      isOfKind "object" value = true ∧
        (∀ field ∈ fields, ∀ part, (field.name,part) ∈ value.members → Field.Fits field part) ∧
        (∀ name ∈ requiredNames fields, ∃ part, (name,part) ∈ value.members) ∧
        ∀ member ∈ value.members, member.1 ∈ fields.map (·.name) := by
  constructor
  · intro fits
    cases fits with
    | record known present each =>
      refine ⟨rfl,each,?_,?_⟩
      · intro name needed
        obtain ⟨field,found,rfl⟩ := List.mem_map.mp needed
        obtain ⟨member,required⟩ := List.mem_filter.mp found
        exact present field member required
      · intro member found
        obtain ⟨field,belongs,same⟩ := known member.1 member.2 found
        exact List.mem_map.mpr ⟨field,belongs,same⟩
  · rintro ⟨kind,each,present,known⟩
    cases value with
    | obj members =>
      refine .record ?_ ?_ each
      · intro key part found
        exact List.mem_map.mp (known (key,part) found)
      · intro field member required
        exact present field.name (List.mem_map_of_mem (List.mem_filter.mpr ⟨member,required⟩))
    | _ => simp [isOfKind] at kind

theorem requiredNames_hold {fields : List Field} {members : List (Text × Json)} :
    ((requiredNames fields).all fun name =>
        (Json.obj members).kind != .obj || members.any (·.1 == name)) = true ↔
      ∀ name ∈ requiredNames fields, ∃ part, (name,part) ∈ members := by
  simp [Json.kind]

theorem fragment_meaning {field : Field} (sound : SoundInside field) {schema : Json}
    (compiled : fragment field = .ok schema) (value : Json) :
    Field.Fits field value ↔ accepts schema value = true := by
  refine fragment_induction
    (P := fun field schema => ∀ value, Field.Fits field value ↔ accepts schema value = true)
    ?_ ?_ ?_ ?_ ?_ sound compiled value
  · intro attributes format value
    rw [accepts_leaf,fits_text,FieldType.name]
  · intro attributes value
    rw [accepts_leaf,fits_number,FieldType.name]
  · intro attributes value
    rw [accepts_leaf,fits_flag,FieldType.name]
  · intro attributes item items inner value
    rw [accepts_list,fits_list,Bool.and_eq_true,List.all_eq_true]
    simp only [inner]
  · intro attributes fields properties distinct keys inner value
    rw [accepts_record,fits_record]
    simp only [Bool.and_eq_true,and_assoc]
    refine and_congr_right fun kind => ?_
    cases value with
    | obj members =>
      refine and_congr (propertiesHold_fits members inner) (and_congr requiredNames_hold.symm ?_)
      simp only [List.all_eq_true,List.contains_iff_mem]
      rw [← keys]
      rfl
    | _ => simp [isOfKind] at kind

end Schema

theorem FieldTree.compile_meaning (tree : FieldTree) (sound : tree.WellFormed) :
    ∃ schema, tree.compile = .ok schema ∧
      ∀ value, tree.Fits value ↔ Schema.accepts schema value = true := by
  obtain ⟨schema,compiled⟩ := Schema.fragment_exists sound.inside
  refine ⟨schema,?_,fun value => Schema.fragment_meaning sound.inside compiled value⟩
  rw [FieldTree.compile_wellFormed sound]
  exact compiled

theorem invoice_meaning :
    FieldTree.WellFormed Template.invoiceFields ∧
      ∃ schema, FieldTree.compile Template.invoiceFields = .ok schema ∧
        ∀ value, FieldTree.Fits Template.invoiceFields value ↔ Schema.accepts schema value = true :=
  ⟨by decide,FieldTree.compile_meaning Template.invoiceFields (by decide)⟩

end ExtractionSchema
