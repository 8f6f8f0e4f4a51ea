import ExtractionSchema.Proofs.Checker
import ExtractionSchema.Proofs.Entries
import ExtractionSchema.Schema
import Mathlib.Data.List.Forall2

namespace ExtractionSchema.Schema

-- A property has the name of its field, and its schema stands in a relation to the field.
def Paired (P : Field → Json → Prop) (field : Field) (property : Text × Json) : Prop :=
  property.1 = field.name ∧ P field property.2

def Becomes (field : Field) (property : Text × Json) : Prop :=
  Paired (fun field schema => fragment field = .ok schema) field property

theorem fragments_exact {fields : List Field} {properties : List (Text × Json)} :
    fragments fields = .ok properties ↔ List.Forall₂ Becomes fields properties := by
  induction fields generalizing properties with
  | nil => simp [fragments,eq_comm]
  | cons field rest ih =>
    constructor
    · intro compiled
      cases own : fragment field with
      | error error => simp [fragments,own] at compiled
      | ok schema =>
        cases others : fragments rest with
        | error error => simp [fragments,own,others] at compiled
        | ok later =>
          simp only [fragments,own,others,Except.ok.injEq] at compiled
          subst compiled
          exact .cons ⟨rfl,own⟩ (ih.mp others)
    · intro aligned
      cases aligned with
      | @cons _ property _ later becomes aligned =>
        obtain ⟨key,schema⟩ := property
        obtain ⟨rfl,own⟩ := becomes
        simp [fragments,own,ih.mpr aligned]

theorem becomes_keys {fields : List Field} {properties : List (Text × Json)}
    (aligned : List.Forall₂ Becomes fields properties) :
    Entries.keys properties = fields.map (·.name) := by
  induction aligned with
  | nil => rfl
  | cons becomes _ ih =>
    simp only [Entries.keys] at ih
    simp [Entries.keys,becomes.1,ih]

theorem requiredNames_sublist (fields : List Field) :
    (requiredNames fields).Sublist (fields.map (·.name)) :=
  List.filter_sublist.map _

-- What an object fragment says after its heading when no two fields share a name.
def closedPart (fields : List Field) (properties : List (Text × Json)) : List (Text × Json) :=
  (("properties" : Text),.obj properties)
    :: (if (requiredNames fields).isEmpty then []
        else [("required",.arr ((requiredNames fields).map .str))])
    ++ [(("additionalProperties" : Text),.bool false)]

theorem fragment_members {attributes : Attributes} {fields : List Field} {schema : Json} :
    fragment (.object attributes fields) = .ok schema ↔
      ∃ properties, fragments fields = .ok properties ∧
        schema = .obj (heading .object attributes none ++ objectPart fields properties) := by
  cases inner : fragments fields with
  | error error => simp [fragment,inner]
  | ok properties =>
    simp only [fragment,inner,Except.ok.injEq,exists_eq_left']
    exact eq_comm

theorem fragment_object {attributes : Attributes} {fields : List Field} {schema : Json}
    (distinct : (fields.map (·.name)).Nodup) :
    fragment (.object attributes fields) = .ok schema ↔
      ∃ properties, List.Forall₂ Becomes fields properties ∧
        schema = .obj (heading .object attributes none ++ closedPart fields properties) := by
  rw [fragment_members]
  refine exists_congr fun properties => ?_
  rw [fragments_exact]
  refine and_congr_right fun aligned => ?_
  have whole : Entries.collapse properties = properties :=
    Entries.collapse_distinct (becomes_keys aligned ▸ distinct)
  rw [objectPart,whole]
  exact Iff.rfl

theorem fragment_array {attributes : Attributes} {item : Field} {schema : Json} :
    fragment (.array attributes (some item)) = .ok schema ↔
      ∃ items, fragment item = .ok items ∧
        schema = .obj (heading .array attributes none ++ [(("items" : Text),items)]) := by
  cases inner : fragment item with
  | error error => simp [fragment,inner]
  | ok items =>
    simp only [fragment,inner,Except.ok.injEq,exists_eq_left']
    exact eq_comm

theorem described_keys (description : Option Text) :
    (Entries.keys (described description)).Sublist ["description"] := by
  unfold described
  split
  · split <;> simp [Entries.keys]
  · simp [Entries.keys]

theorem formatted_keys (format : Option Format) :
    (Entries.keys (formatted format)).Sublist ["format"] := by
  unfold formatted
  split <;> simp [Entries.keys]

theorem exemplified_keys (examples : List Text) :
    (Entries.keys (exemplified examples)).Sublist ["examples"] := by
  unfold exemplified
  split <;> simp [Entries.keys]

theorem heading_keys (type : FieldType) (attributes : Attributes) (format : Option Format) :
    (Entries.keys (heading type attributes format)).Sublist
      ["type","description","format","examples"] := by
  have parts := ((described_keys attributes.description).append (formatted_keys format)).append
    (exemplified_keys attributes.examples)
  simpa [heading,Entries.keys] using parts

theorem heading_lookup (key : Text) (type : FieldType) (attributes : Attributes)
    (format : Option Format) (other : key ∉ (["type","description","format","examples"] : List Text)) :
    (heading type attributes format).lookup key = none := by
  rw [List.lookup_eq_none_iff]
  intro member found
  have own := (heading_keys type attributes format).subset (List.mem_map_of_mem found)
  simp only [bne_iff_ne,ne_eq]
  rintro rfl
  exact other own

theorem fragments_exist {fields : List Field}
    (each : ∀ field ∈ fields, ∃ schema, fragment field = .ok schema) :
    ∃ properties, List.Forall₂ Becomes fields properties := by
  induction fields with
  | nil => exact ⟨[],.nil⟩
  | cons field rest ih =>
    obtain ⟨schema,own⟩ := each field (by simp)
    obtain ⟨properties,aligned⟩ := ih (fun other member => each other (List.mem_cons_of_mem _ member))
    exact ⟨(field.name,schema) :: properties,.cons ⟨rfl,own⟩ aligned⟩

theorem fragment_exists {field : Field} (sound : SoundInside field) :
    ∃ schema, fragment field = .ok schema := by
  induction field using Field.induction with
  | string attributes format => exact ⟨_,rfl⟩
  | number attributes => exact ⟨_,rfl⟩
  | boolean attributes => exact ⟨_,rfl⟩
  | bare attributes => cases sound
  | array attributes item inner =>
    obtain ⟨items,compiled⟩ := inner sound
    exact ⟨_,fragment_array.mpr ⟨items,compiled,rfl⟩⟩
  | object attributes fields inner =>
    obtain ⟨among,distinct⟩ := sound
    have each := soundAmong_iff.mp among
    obtain ⟨properties,aligned⟩ :=
      fragments_exist (fun field member => inner field member (each field member).2)
    exact ⟨_,(fragment_object distinct).mpr ⟨properties,aligned,rfl⟩⟩

theorem becomes_each {P : Field → Json → Prop} {fields : List Field}
    {properties : List (Text × Json)} (aligned : List.Forall₂ Becomes fields properties)
    (each : ∀ field ∈ fields, ∀ schema, fragment field = .ok schema → P field schema) :
    List.Forall₂ (Paired P) fields properties := by
  induction aligned with
  | nil => exact .nil
  | @cons field property rest others becomes _ ih =>
    refine .cons ⟨becomes.1,each field List.mem_cons_self property.2 becomes.2⟩ ?_
    exact ih fun other member => each other (List.mem_cons_of_mem _ member)

theorem fragment_induction {P : Field → Json → Prop}
    (string : ∀ attributes format,
      P (.string attributes format) (.obj (heading .string attributes format)))
    (number : ∀ attributes, P (.number attributes) (.obj (heading .number attributes none)))
    (boolean : ∀ attributes, P (.boolean attributes) (.obj (heading .boolean attributes none)))
    (array : ∀ attributes item items, P item items →
      P (.array attributes (some item)) (.obj (heading .array attributes none ++ [(("items" : Text),items)])))
    (object : ∀ attributes fields properties, (fields.map (·.name)).Nodup →
      Entries.keys properties = fields.map (·.name) →
      List.Forall₂ (Paired P) fields properties →
      P (.object attributes fields)
        (.obj (heading .object attributes none ++ closedPart fields properties)))
    {field : Field} (sound : SoundInside field) {schema : Json}
    (compiled : fragment field = .ok schema) : P field schema := by
  induction field using Field.induction generalizing schema with
  | string attributes format =>
    cases compiled
    exact string attributes format
  | number attributes =>
    cases compiled
    exact number attributes
  | boolean attributes =>
    cases compiled
    exact boolean attributes
  | bare attributes => cases sound
  | array attributes item inner =>
    obtain ⟨items,own,rfl⟩ := fragment_array.mp compiled
    exact array attributes item items (inner sound own)
  | object attributes fields inner =>
    obtain ⟨among,distinct⟩ := sound
    obtain ⟨properties,aligned,rfl⟩ := (fragment_object distinct).mp compiled
    have each := soundAmong_iff.mp among
    exact object attributes fields properties distinct (becomes_keys aligned) (becomes_each aligned
      fun field member schema own => inner field member (each field member).2 own)

theorem root_fragment (tree : FieldTree) : root tree = fragment (.object .initial tree) := by
  cases inner : fragments tree <;>
    simp [root,fragment,inner,heading,described,formatted,exemplified,Attributes.initial,Except.map]

end Schema

theorem FieldTree.WellFormed.inside {tree : FieldTree} (sound : tree.WellFormed) :
    SoundInside (.object .initial tree) :=
  sound

theorem FieldTree.compile_wellFormed {tree : FieldTree} (sound : tree.WellFormed) :
    tree.compile = Schema.fragment (.object .initial tree) := by
  simp [FieldTree.compile,FieldTree.check_passes.mpr sound,Schema.root_fragment]

theorem FieldTree.compile_passes {tree : FieldTree} (sound : tree.WellFormed) :
    ∃ members, tree.compile = .ok (.obj members) := by
  obtain ⟨schema,compiled⟩ := Schema.fragment_exists sound.inside
  obtain ⟨properties,_,same⟩ := Schema.fragment_members.mp compiled
  rw [compile_wellFormed sound,compiled,same]
  exact ⟨_,rfl⟩

theorem FieldTree.typeMap_distinct {tree : FieldTree} (distinct : (tree.map (·.name)).Nodup) :
    tree.typeMap = tree.map fun field => (field.name,field.type) := by
  refine Entries.collapse_distinct ?_
  simpa [Entries.keys,Function.comp_def] using distinct

theorem FieldTree.wellFormed_of_compile {tree : FieldTree} {schema : Json}
    (compiled : tree.compile = .ok schema) : tree.WellFormed := by
  cases verdict : tree.check "" with
  | error error => simp [FieldTree.compile,verdict] at compiled
  | ok _ => exact FieldTree.check_passes.mp verdict

end ExtractionSchema
