import ExtractionSchema.Proofs.EditSteps
import ExtractionSchema.Proofs.Grammar

namespace ExtractionSchema

-- A position that is given and lies within a list of this size.
def Points (given : Option Int) (size : Nat) : Prop :=
  ∃ index : Int, given = some index ∧ 0 ≤ index ∧ index < size

theorem points_iff {given : Option Int} {size : Nat} :
    Points given size ↔ ∃ place : Nat, given = some (place : Int) ∧ place < size := by
  constructor
  · intro points
    obtain ⟨index,chosen,positive,inside⟩ := points
    obtain ⟨place,rfl⟩ := Int.eq_ofNat_of_zero_le positive
    exact ⟨place,chosen,Int.ofNat_lt.mp inside⟩
  · intro placed
    obtain ⟨place,chosen,inside⟩ := placed
    exact ⟨place,chosen,Int.natCast_nonneg place,Int.ofNat_lt.mpr inside⟩

namespace Attributes

-- What the attribute of a key can be set to. No other key has an attribute.
def Takes (key : Text) (value : Json) : Prop :=
  (key = "name" ∧ ∃ text, value = .str text) ∨
    (key = "required" ∧ ∃ flag, Flags value flag) ∨
      (key = "description" ∧ ∃ said : Option Text, value = orNull .str said) ∨
        key = "examples" ∧ ∃ texts : List Text, value = .arr (texts.map .str)

theorem Takes.known {key : Text} {value : Json} (takes : Takes key value) : key ∈ keys := by
  rcases takes with ⟨rfl,_⟩ | ⟨rfl,_⟩ | ⟨rfl,_⟩ | ⟨rfl,_⟩ <;> decide

theorem member_succeeds_iff {α : Type} {key : Text} {read : Json → Verdict α} {absent : α}
    {members : List (Text × Json)} :
    (∃ result, Accept.member key read absent members = .accepted result) ↔
      ∀ raw, members.lookup key = some raw → ∃ result, read raw = .accepted result := by
  simp only [Accept.member_accepted_iff]
  cases members.lookup key <;> simp

theorem readOver_succeeds_iff {base : Attributes} {changes : List (Text × Json)} :
    (∃ attributes, base.readOver changes = .accepted attributes) ↔
      ∀ key ∈ keys, ∀ value, changes.lookup key = some value → Takes key value := by
  have parts : (∃ attributes, base.readOver changes = .accepted attributes) ↔
      (∃ name, Accept.member "name" Accept.text base.name changes = .accepted name) ∧
        (∃ required, Accept.member "required" Accept.flag base.required changes
            = .accepted required) ∧
          (∃ description, Accept.member "description" (Accept.optional Accept.text) base.description
              changes = .accepted description) ∧
            ∃ samples, Accept.member "examples" (Accept.tuple Accept.text) base.examples changes
              = .accepted samples := by
    simp only [readOver_accepted_iff]
    constructor
    · intro read
      obtain ⟨attributes,name,required,description,samples⟩ := read
      exact ⟨⟨_,name⟩,⟨_,required⟩,⟨_,description⟩,_,samples⟩
    · intro each
      obtain ⟨⟨name,own⟩,⟨required,flag⟩,⟨description,said⟩,samples,listed⟩ := each
      exact ⟨⟨name,required,description,samples⟩,own,flag,said,listed⟩
  have optional : ∀ (raw : Json) (said : Option Text),
      Accept.optional Accept.text raw = .accepted said ↔ raw = orNull .str said := fun _ _ =>
    Accept.optional_orNull_iff (fun _ _ => Accept.text_accepted_iff) (fun _ => Json.noConfusion)
  rw [parts]
  simp only [member_succeeds_iff,Accept.text_accepted_iff,Accept.flag_accepted_iff,
    optional,Accept.texts_accepted_iff]
  simp [keys,Takes]

theorem changes_take_iff (base : Attributes) {changes : List (Text × Json)} :
    ((∀ change ∈ changes, change.1 ∈ keys) ∧
        ∃ attributes, base.readOver changes = .accepted attributes) ↔
      ∀ key value, changes.lookup key = some value → Takes key value := by
  have present : ∀ key, (∃ value, changes.lookup key = some value) ↔ ∃ change ∈ changes, change.1 = key := by
    intro key
    rw [← Option.isSome_iff_exists,List.lookup_isSome_iff]
    simp only [beq_iff_eq,@eq_comm _ key]
  rw [readOver_succeeds_iff]
  constructor
  · intro read key value given
    obtain ⟨known,takes⟩ := read
    obtain ⟨change,member,rfl⟩ := (present key).mp ⟨value,given⟩
    exact takes change.1 (known change member) value given
  · intro takes
    refine ⟨fun change member => ?_,fun key _ => takes key⟩
    obtain ⟨value,given⟩ := (present change.1).mpr ⟨change,member,rfl⟩
    exact (takes change.1 value given).known

end Attributes

-- The position is that of a property of an object.
def Field.HasPropertyAt (field : Field) (given : Option Int) : Prop :=
  ∃ attributes properties, field = .object attributes properties ∧ Points given properties.length

namespace FieldEdit

-- What the operation asks of the field that is selected and of the other arguments.
def Suits (edit : FieldEdit) (field : Field) : Prop :=
  match edit.operation with
  | .addField | .removeField | .addExample => True
  | .updateField => ∃ new, edit.field = some new
  | .setType => ∃ type, edit.type = some type
  | .setFormat => field.type = .string
  | .setAttributes => ∀ key value, edit.attributes.lookup key = some value → Attributes.Takes key value
  | .removeExample => Points edit.exampleIndex field.examples.length
  | .addProperty => field.type = .object
  | .removeProperty => field.HasPropertyAt edit.propertyIndex
  | .updateProperty =>
    field.HasPropertyAt edit.propertyIndex ∧ ∃ property, edit.property = some property
  | .setItems => field.type = .array ∧ ∃ item, edit.item = some item

theorem onField_succeeds_iff {edit : FieldEdit} (own : edit.selectsField) {field : Field} :
    (∃ next, edit.onField field = .ok next) ↔ edit.Suits field := by
  cases operation : edit.operation with
  | addField => exact absurd operation own.1
  | updateField => exact absurd operation own.2.1
  | removeField => exact absurd operation own.2.2
  | setType =>
    simp only [onField,Suits,operation]
    cases edit.type <;> simp [Field.refuse]
  | setFormat =>
    simp only [onField,Suits,operation,Field.setFormat_ok_iff]
    cases field <;> simp [Field.type]
  | setAttributes =>
    simp only [onField,Suits,operation,Field.setAttributes_ok_iff,
      ← Attributes.changes_take_iff field.attributes]
    simp
  | addExample => simp [onField,Suits,operation]
  | removeExample =>
    simp only [onField,Suits,operation,Field.removeExample_given_ok_iff,points_iff]
    simp
  | addProperty =>
    simp only [onField,Suits,operation,Field.addProperty,Field.editProperties_ok_iff]
    cases field <;> simp [Field.type]
  | removeProperty =>
    simp only [onField,Suits,operation,Field.removeProperty,Field.editProperties_ok_iff,mapped_ok_iff,
      Position.cut_given,Position.index_given_ok_iff,Field.HasPropertyAt,points_iff]
    cases field <;> simp
  | updateProperty =>
    simp only [onField,Suits,operation,Field.updateProperty,Field.editProperties_ok_iff,
      replaceAt_given_ok_iff,candidate_ok_iff,Field.HasPropertyAt,points_iff]
    cases field <;> simp
  | setItems =>
    simp only [onField,Suits,operation,Field.setItems_ok_iff,candidate_ok_iff]
    cases field <;> simp [Field.type]

-- The index points at a field that suits the operation, unless there is no field to select.
def Applies (edit : FieldEdit) (tree : FieldTree) : Prop :=
  edit.operation = .addField ∨
    ∃ index : Int, edit.index = some index ∧ 0 ≤ index ∧ index < tree.length ∧
      ∃ field, tree[index.toNat]? = some field ∧ edit.Suits field

theorem applies_iff {edit : FieldEdit} {tree : FieldTree} :
    edit.Applies tree ↔
      edit.operation = .addField ∨ ∃ field, tree.Selects edit.index field ∧ edit.Suits field := by
  refine or_congr_right ⟨?_,?_⟩
  · intro applies
    obtain ⟨index,chosen,positive,_,field,present,suits⟩ := applies
    obtain ⟨place,rfl⟩ := Int.eq_ofNat_of_zero_le positive
    exact ⟨field,⟨place,chosen,present⟩,suits⟩
  · intro selected
    obtain ⟨field,⟨place,chosen,present⟩,suits⟩ := selected
    have inside := (List.getElem?_eq_some_iff.mp present).1
    exact ⟨place,chosen,Int.natCast_nonneg place,Int.ofNat_lt.mpr inside,field,present,suits⟩

end FieldEdit

namespace FieldTree

variable {edit : FieldEdit} {tree next : FieldTree}

theorem Leads.applies (leads : Leads edit tree next) : edit.Applies tree := by
  rw [FieldEdit.applies_iff]
  cases leads with
  | addField operation => exact .inl operation
  | updateField operation chosen inside new =>
    refine .inr ⟨_,⟨_,chosen,List.getElem?_eq_getElem inside⟩,?_⟩
    simp only [FieldEdit.Suits,operation]
    exact ⟨_,new⟩
  | removeField operation chosen inside =>
    refine .inr ⟨_,⟨_,chosen,List.getElem?_eq_getElem inside⟩,?_⟩
    simp only [FieldEdit.Suits,operation]
  | onField chosen present changed =>
    have done := FieldEdit.onField_complete changed
    exact .inr ⟨_,⟨_,chosen,present⟩,(FieldEdit.onField_succeeds_iff changed.selects).mp ⟨_,done⟩⟩

theorem applies_leads (applies : edit.Applies tree) : ∃ next, Leads edit tree next := by
  rcases FieldEdit.applies_iff.mp applies with operation | ⟨field,⟨place,chosen,present⟩,suits⟩
  · exact ⟨_,.addField operation⟩
  · have inside := (List.getElem?_eq_some_iff.mp present).1
    by_cases own : edit.selectsField
    · obtain ⟨next,done⟩ := (FieldEdit.onField_succeeds_iff own).mpr suits
      exact ⟨_,.onField chosen present (FieldEdit.onField_sound own done)⟩
    · cases operation : edit.operation with
      | addField => exact ⟨_,.addField operation⟩
      | updateField =>
        simp only [FieldEdit.Suits,operation] at suits
        obtain ⟨new,given⟩ := suits
        exact ⟨_,.updateField operation chosen inside given⟩
      | removeField => exact ⟨_,.removeField operation chosen inside⟩
      | _ => exact absurd (by simp [FieldEdit.selectsField,operation]) own

theorem applyEdit_succeeds_iff (edit : FieldEdit) (tree : FieldTree) :
    (∃ next, tree.applyEdit edit = .ok next) ↔ edit.Applies tree := by
  simp only [applyEdit_exact]
  constructor
  · intro led
    obtain ⟨next,leads⟩ := led
    exact leads.applies
  · exact applies_leads

end FieldTree

end ExtractionSchema
