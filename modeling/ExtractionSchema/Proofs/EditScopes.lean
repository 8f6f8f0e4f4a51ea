import ExtractionSchema.Proofs.EditSteps
import ExtractionSchema.Proofs.Entries
import ExtractionSchema.Proofs.FieldReading

namespace ExtractionSchema

def Appends (before after : List Field) : Prop := ∃ field, after = before ++ [field]

def Drops (index : Option Int) (before after : List Field) : Prop :=
  ∃ place : Nat, index = some (place : Int) ∧ place < before.length ∧ after = before.eraseIdx place

def KeepsBeside (index : Option Int) (before after : List Field) : Prop :=
  after.length = before.length ∧
    ∀ place : Nat, index ≠ some (place : Int) → after[place]? = before[place]?

theorem keepsBeside_set {fields : List Field} {place : Nat} (field : Field) :
    KeepsBeside (some (place : Int)) fields (fields.set place field) := by
  refine ⟨List.length_set,?_⟩
  intro other apart
  apply List.getElem?_set_ne
  intro same
  exact apart (congrArg _ (congrArg _ same))

namespace Field

-- What belongs to one type alone, for the fields that have it.
def format? : Field → Option (Option Format)
  | .string _ format => some format
  | _ => none

def items? : Field → Option (Option Field)
  | .array _ items => some items
  | _ => none

def properties? : Field → Option (List Field)
  | .object _ properties => some properties
  | _ => none

section

variable (attributes : Attributes) (field : Field)

@[simp] theorem format?_withAttributes : (field.withAttributes attributes).format? = field.format? := by
  cases field <;> rfl

@[simp] theorem items?_withAttributes : (field.withAttributes attributes).items? = field.items? := by
  cases field <;> rfl

@[simp] theorem properties?_withAttributes :
    (field.withAttributes attributes).properties? = field.properties? := by
  cases field <;> rfl

end

end Field

namespace FieldEdit

-- The edit sets the attribute of this key.
def Sets (edit : FieldEdit) (key : Text) : Prop :=
  edit.operation = .setAttributes ∧ key ∈ edit.attributes.map (·.1)

-- The edit gives the field a type that it does not have.
def Retypes (edit : FieldEdit) (field : Field) : Prop :=
  edit.operation = .setType ∧ ∃ type, edit.type = some type ∧ type ≠ field.type

-- What an edit does to the properties of an object.
def Arranges (edit : FieldEdit) (before after : List Field) : Prop :=
  (edit.operation = .addProperty ∧ Appends before after) ∨
    (edit.operation = .removeProperty ∧ Drops edit.propertyIndex before after) ∨
      edit.operation = .updateProperty ∧ KeepsBeside edit.propertyIndex before after

-- Which edit it has to be for a field to differ afterwards.
structure Confined (edit : FieldEdit) (before after : Field) : Prop where
  type : after.type ≠ before.type → edit.operation = .setType
  name : after.name ≠ before.name → edit.Sets "name"
  required : after.required ≠ before.required → edit.Sets "required"
  description : after.description ≠ before.description → edit.Sets "description"
  examples : after.examples ≠ before.examples →
    edit.operation = .addExample ∨ edit.operation = .removeExample ∨ edit.Sets "examples"
  format : after.format? ≠ before.format? → edit.operation = .setFormat ∨ edit.Retypes before
  items : after.items? ≠ before.items? → edit.operation = .setItems ∨ edit.Retypes before
  properties : after.properties? ≠ before.properties? →
    edit.Retypes before ∨ ∃ old new, before.properties? = some old ∧ after.properties? = some new ∧
      edit.Arranges old new

section Confined

variable {edit : FieldEdit} {field before after : Field} {attributes : Attributes}

theorem confined_own (same : after.attributes = before.attributes)
    (type : after.type ≠ before.type → edit.operation = .setType)
    (format : after.format? ≠ before.format? → edit.operation = .setFormat ∨ edit.Retypes before)
    (items : after.items? ≠ before.items? → edit.operation = .setItems ∨ edit.Retypes before)
    (properties : after.properties? ≠ before.properties? →
      edit.Retypes before ∨ ∃ old new, before.properties? = some old ∧ after.properties? = some new ∧
        edit.Arranges old new) : edit.Confined before after where
  type := type
  name other := absurd (congrArg Attributes.name same) other
  required other := absurd (congrArg Attributes.required same) other
  description other := absurd (congrArg Attributes.description same) other
  examples other := absurd (congrArg Attributes.examples same) other
  format := format
  items := items
  properties := properties

theorem confined_common
    (name : attributes.name ≠ field.name → edit.Sets "name")
    (required : attributes.required ≠ field.required → edit.Sets "required")
    (description : attributes.description ≠ field.description → edit.Sets "description")
    (examples : attributes.examples ≠ field.examples →
      edit.operation = .addExample ∨ edit.operation = .removeExample ∨ edit.Sets "examples") :
    edit.Confined field (field.withAttributes attributes) where
  type other := absurd (Field.type_withAttributes attributes field) other
  name other := name (by simpa [Field.name] using other)
  required other := required (by simpa [Field.required] using other)
  description other := description (by simpa [Field.description] using other)
  examples other := examples (by simpa [Field.examples] using other)
  format other := absurd (Field.format?_withAttributes attributes field) other
  items other := absurd (Field.items?_withAttributes attributes field) other
  properties other := absurd (Field.properties?_withAttributes attributes field) other

theorem confined_examples (examples : List Text)
    (operation : edit.operation = .addExample ∨ edit.operation = .removeExample) :
    edit.Confined field (field.withExamples examples) :=
  confined_common (absurd rfl) (absurd rfl) (absurd rfl)
    fun _ => operation.imp_right .inl

theorem confined_properties {properties : List Field} {rearranged : List Field}
    (arranged : edit.Arranges properties rearranged) :
    edit.Confined (.object attributes properties) (.object attributes rearranged) :=
  confined_own rfl (absurd rfl) (absurd rfl) (absurd rfl)
    fun _ => .inr ⟨_,_,rfl,rfl,arranged⟩

-- A member that is left out of the changes takes what is there.
theorem sets_of_member {α : Type} {key : Text} {read : Json → Verdict α} {old new : α}
    (operation : edit.operation = .setAttributes)
    (read : Accept.member key read old edit.attributes = .accepted new) (other : new ≠ old) :
    edit.Sets key := by
  rcases Accept.member_accepted_iff.mp read with ⟨_,same⟩ | ⟨raw,given,_⟩
  · exact absurd same.symm other
  · refine ⟨operation,Classical.byContradiction fun absent => ?_⟩
    have missing : edit.attributes.lookup key = none := Entries.lookup_none_iff.mpr absent
    cases given.symm.trans missing

theorem Changes.confined (changed : edit.Changes before after) : edit.Confined before after := by
  cases changed with
  | @setType _ type operation given =>
    -- Whatever looks different afterwards, the type was another one.
    have retypes : ∀ {α : Type} (view : Field → α), view (before.setType type) ≠ view before →
        edit.Retypes before := by
      intro α view other
      refine ⟨operation,type,given,fun same => ?_⟩
      exact other (congrArg view (Field.setType_own same.symm))
    exact confined_own (before.attributes_setType type) (fun _ => operation)
      (fun other => .inr (retypes _ other)) (fun other => .inr (retypes _ other))
      fun other => .inl (retypes _ other)
  | setFormat operation =>
    exact confined_own rfl (absurd rfl) (fun _ => .inl operation) (absurd rfl) (absurd rfl)
  | setAttributes operation known read =>
    obtain ⟨name,required,description,samples⟩ := Attributes.readOver_accepted_iff.mp read
    refine confined_common (sets_of_member operation name) (sets_of_member operation required)
      (sets_of_member operation description) fun other => ?_
    exact .inr (.inr (sets_of_member operation samples other))
  | addExample operation =>
    unfold Field.addExample
    split
    · exact confined_own rfl (absurd rfl) (absurd rfl) (absurd rfl) (absurd rfl)
    · exact confined_examples _ (.inl operation)
  | removeExample operation given inside => exact confined_examples _ (.inr operation)
  | addProperty operation => exact confined_properties (.inl ⟨operation,_,rfl⟩)
  | removeProperty operation given inside =>
    exact confined_properties (.inr (.inl ⟨operation,_,given,inside,rfl⟩))
  | updateProperty operation given inside new =>
    refine confined_properties (.inr (.inr ⟨operation,?_⟩))
    rw [given]
    exact keepsBeside_set _
  | setItems operation new =>
    exact confined_own rfl (absurd rfl) (absurd rfl) (fun _ => .inl operation) (absurd rfl)

end Confined

end FieldEdit

namespace FieldTree

theorem applyEdit_confined {edit : FieldEdit} {tree next : FieldTree}
    (done : tree.applyEdit edit = .ok next) :
    (edit.operation = .addField → Appends tree next) ∧
      (edit.operation = .removeField → Drops edit.index tree next) ∧
      (edit.operation ≠ .addField → edit.operation ≠ .removeField →
        KeepsBeside edit.index tree next) ∧
      (edit.selectsField → ∃ (place : Nat) (before after : Field), edit.index = some (place : Int) ∧
        tree[place]? = some before ∧ next[place]? = some after ∧ edit.Confined before after) := by
  refine ⟨fun operation => ?_,fun operation => ?_,fun adds removes => ?_,fun own => ?_⟩
  · simp only [applyEdit,operation] at done
    cases done
    exact ⟨_,rfl⟩
  · obtain ⟨place,⟨chosen,inside⟩,rfl⟩ := (applyEdit_removal_iff operation).mp done
    exact ⟨place,chosen,inside,rfl⟩
  · obtain ⟨place,_,new,chosen,_,_,rfl⟩ := (applyEdit_inPlace_iff ⟨adds,removes⟩).mp done
    rw [chosen]
    exact keepsBeside_set new
  · have kept := FieldEdit.selectsField_inPlace own
    obtain ⟨place,field,new,chosen,present,puts,rfl⟩ := (applyEdit_inPlace_iff kept).mp done
    have inside := (List.getElem?_eq_some_iff.mp present).1
    cases puts with
    | given operation => exact absurd operation own.2.1
    | changed changed =>
      exact ⟨place,field,new,chosen,present,List.getElem?_set_self inside,changed.confined⟩

def contact : Field :=
  .object ⟨"seller",true,none,["Smith & Co"]⟩ [.number ⟨"id",true,none,[]⟩,
    .array ⟨"phones",false,none,[]⟩ (some (.string .initial (some .phone)))]

def silentContact : Field :=
  .object ⟨"seller",true,none,["Smith & Co"]⟩ [.number ⟨"id",true,none,[]⟩]

def orderForm : FieldTree := [.string ⟨"total",true,none,[]⟩ none,contact]

def silencing : FieldEdit :=
  ⟨.removeProperty,some 1,none,none,none,[],none,none,some 1,none,none⟩

theorem silencing_confined :
    orderForm.applyEdit silencing = .ok (orderForm.set 1 silentContact) ∧
      KeepsBeside (some 1) orderForm (orderForm.set 1 silentContact) ∧
      silencing.Confined contact silentContact := by
  have done : orderForm.applyEdit silencing = .ok (orderForm.set 1 silentContact) := rfl
  have own : silencing.selectsField := ⟨nofun,nofun,nofun⟩
  obtain ⟨_,_,beside,inner⟩ := applyEdit_confined done
  obtain ⟨place,before,after,chosen,present,later,confined⟩ := inner own
  cases chosen
  cases present
  cases later
  exact ⟨done,beside own.1 own.2.2,confined⟩

end FieldTree

end ExtractionSchema
