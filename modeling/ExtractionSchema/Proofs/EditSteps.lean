import ExtractionSchema.Edit.Request
import ExtractionSchema.Proofs.Verdicts

namespace ExtractionSchema

namespace Position

variable {what : Indexed} {size : Nat}

theorem slot_given (what : Indexed) (size : Nat) (given : Option Int) :
    (∃ place : Nat, given = some (place : Int) ∧ place < size ∧
        (ofOption given).slot what size = .ok (.at place)) ∨
      (¬ (∃ place : Nat, given = some (place : Int) ∧ place < size) ∧
        (ofOption given).slot what size = .error ((ofOption given).outside what size)) := by
  cases given with
  | none => exact .inr ⟨by rintro ⟨_,⟨⟩,_⟩,rfl⟩
  | some index =>
    by_cases within : 0 ≤ index ∧ index < size
    · obtain ⟨place,rfl⟩ := Int.eq_ofNat_of_zero_le within.1
      exact .inl ⟨place,rfl,by omega,by simp [ofOption,slot,within.2]⟩
    · refine .inr ⟨?_,by simp only [ofOption,slot,within,if_false]⟩
      rintro ⟨place,same,inside⟩
      cases same
      exact within ⟨Int.natCast_nonneg place,Int.ofNat_lt.mpr inside⟩

theorem index_given_ok_iff {given : Option Int} {place : Nat} :
    (ofOption given).index what size = .ok place ↔ given = some (place : Int) ∧ place < size := by
  rcases slot_given what size given with ⟨other,rfl,inside,found⟩ | ⟨absent,refused⟩
  · simp only [index,found,Except.ok.injEq,Option.some.injEq,Int.natCast_inj]
    constructor
    · rintro rfl
      exact ⟨rfl,inside⟩
    · exact fun chosen => chosen.1
  · simp only [index,refused,reduceCtorEq,false_iff]
    exact fun chosen => absent ⟨place,chosen⟩

-- The two ways to use a position differ only for one that points nowhere.
theorem cut_given (what : Indexed) (size : Nat) (given : Option Int) :
    (ofOption given).cut what size = (ofOption given).index what size := by
  rcases slot_given what size given with ⟨place,_,_,found⟩ | ⟨_,refused⟩
  · simp [cut,index,found]
  · simp [cut,index,refused]

end Position

theorem replaceAt_given_ok_iff {α : Type} {what : Indexed} {items result : List α}
    {given : Option Int} {candidate : Except TreeError α} :
    replaceAt what items (.ofOption given) candidate = .ok result ↔
      ∃ place : Nat, (given = some (place : Int) ∧ place < items.length) ∧
        ∃ item, candidate = .ok item ∧ items.set place item = result := by
  rcases Position.slot_given what items.length given with ⟨place,rfl,inside,found⟩ | ⟨absent,refused⟩
  · cases candidate with
    | error error => simp [replaceAt,found]
    | ok item =>
      simp only [replaceAt,found,Except.ok.injEq,Option.some.injEq,Int.natCast_inj,exists_eq_left']
      constructor
      · rintro rfl
        exact ⟨place,⟨rfl,inside⟩,rfl⟩
      · rintro ⟨other,⟨rfl,_⟩,same⟩
        exact same
  · simp only [replaceAt,refused,reduceCtorEq,false_iff]
    rintro ⟨place,chosen,_⟩
    exact absent ⟨place,chosen⟩

namespace Field

theorem setType_own {type : FieldType} {field : Field} (own : field.type = type) :
    field.setType type = field :=
  if_pos own

theorem setFormat_ok_iff {format : Option Format} {field next : Field} :
    field.setFormat format = .ok next ↔
      ∃ attributes before, field = .string attributes before ∧ .string attributes format = next := by
  cases field <;> simp [setFormat,setFormatBy,refuse,Except.map]

theorem strayKeys_nil_iff {changes : List (Text × Json)} :
    (changes.map (·.1)).filter (!Attributes.keys.contains ·) = [] ↔
      ∀ change ∈ changes, change.1 ∈ Attributes.keys := by
  simp [List.filter_eq_nil_iff]

-- The name of the call's own argument is none of an attribute.
theorem known_free {changes : List (Text × Json)}
    (known : ∀ change ∈ changes, change.1 ∈ Attributes.keys) : ("field" : Text) ∉ changes.map (·.1) := by
  intro reserved
  obtain ⟨change,member,key⟩ := List.mem_map.mp reserved
  exact absurd (key ▸ known change member) (by decide)

theorem setAttributes_known {changes : List (Text × Json)} (field : Field)
    (known : ∀ change ∈ changes, change.1 ∈ Attributes.keys) :
    field.setAttributes changes =
      match field.attributes.readOver changes with
      | .accepted attributes => .ok (field.withAttributes attributes)
      | .rejected first _ => refuse (.badValue field.name first.fault) := by
  have free := known_free known
  have none_stray := strayKeys_nil_iff.mpr known
  cases read : field.attributes.readOver changes <;>
    simp only [setAttributes,List.contains_iff_mem,free,if_false,none_stray,read]

theorem setAttributes_stray {changes : List (Text × Json)} (field : Field)
    (stray : ¬ ∀ change ∈ changes, change.1 ∈ Attributes.keys) :
    field.setAttributes changes =
      if ("field" : Text) ∈ changes.map (·.1) then .error (.misuse (.reservedAttribute "field"))
      else refuse (.fixedAttributes (((changes.map (·.1)).filter (!Attributes.keys.contains ·)).mergeSort
        fun first second => !second.isBefore first)) := by
  cases keys : (changes.map (·.1)).filter (!Attributes.keys.contains ·) with
  | nil => exact absurd (strayKeys_nil_iff.mp keys) stray
  | cons key rest => simp only [setAttributes,List.contains_iff_mem,keys]

theorem setAttributes_ok_iff {changes : List (Text × Json)} {field next : Field} :
    field.setAttributes changes = .ok next ↔
      (∀ change ∈ changes, change.1 ∈ Attributes.keys) ∧
        ∃ attributes, field.attributes.readOver changes = .accepted attributes ∧
          field.withAttributes attributes = next := by
  by_cases known : ∀ change ∈ changes, change.1 ∈ Attributes.keys
  · rw [setAttributes_known field known,iff_true_intro known,true_and]
    cases field.attributes.readOver changes <;> simp [refuse]
  · rw [setAttributes_stray field known]
    refine ⟨fun done => ?_,fun done => absurd done.1 known⟩
    split at done <;> cases done

theorem removeExample_map (position : Position) (field : Field) :
    field.removeExample position = (position.cut .example field.examples.length).map fun place =>
      field.withExamples (field.examples.eraseIdx place) := by
  unfold removeExample
  split
  · rename_i failure refused
    rw [refused]
    rfl
  · rename_i place found
    rw [found]
    rfl

theorem removeExample_given_ok_iff {given : Option Int} {field next : Field} :
    field.removeExample (.ofOption given) = .ok next ↔
      ∃ place : Nat, (given = some (place : Int) ∧ place < field.examples.length) ∧
        field.withExamples (field.examples.eraseIdx place) = next := by
  simp only [removeExample_map,Position.cut_given,mapped_ok_iff,Position.index_given_ok_iff]

theorem editProperties_ok_iff {operation : String} {step : List Field → Except Failure (List Field)}
    {field next : Field} :
    field.editProperties operation step = .ok next ↔
      ∃ attributes properties, field = .object attributes properties ∧
        ∃ after, step properties = .ok after ∧ .object attributes after = next := by
  cases field <;> simp [editProperties,refuse,mapped_ok_iff]

theorem setItems_ok_iff {candidate : Except TreeError Field} {field next : Field} :
    field.setItems candidate = .ok next ↔
      ∃ attributes items, field = .array attributes items ∧
        ∃ item, candidate = .ok item ∧ .array attributes (some item) = next := by
  cases field <;> simp [setItems,refuse,liftTree_ok_iff,mapped_ok_iff]

end Field

namespace FieldEdit

theorem candidate_ok_iff {given : Option Field} {field : Field} :
    candidate given = .ok field ↔ given = some field := by
  cases given with
  | none => exact ⟨by rintro ⟨⟩,by rintro ⟨⟩⟩
  | some own => simp [candidate]

-- What an edit makes of the field that it selects.
inductive Changes (edit : FieldEdit) : Field → Field → Prop where
  | setType {field : Field} {type : FieldType} (operation : edit.operation = .setType)
      (given : edit.type = some type) : Changes edit field (field.setType type)
  | setFormat {attributes : Attributes} {before : Option Format}
      (operation : edit.operation = .setFormat) :
      Changes edit (.string attributes before) (.string attributes edit.format)
  | setAttributes {field : Field} {attributes : Attributes}
      (operation : edit.operation = .setAttributes)
      (known : ∀ change ∈ edit.attributes, change.1 ∈ Attributes.keys)
      (read : field.attributes.readOver edit.attributes = .accepted attributes) :
      Changes edit field (field.withAttributes attributes)
  | addExample {field : Field} (operation : edit.operation = .addExample) :
      Changes edit field (field.addExample (edit.example?.getD ""))
  | removeExample {field : Field} {place : Nat} (operation : edit.operation = .removeExample)
      (given : edit.exampleIndex = some (place : Int)) (inside : place < field.examples.length) :
      Changes edit field (field.withExamples (field.examples.eraseIdx place))
  | addProperty {attributes : Attributes} {properties : List Field}
      (operation : edit.operation = .addProperty) :
      Changes edit (.object attributes properties) (.object attributes (properties ++ [.blank]))
  | removeProperty {attributes : Attributes} {properties : List Field} {place : Nat}
      (operation : edit.operation = .removeProperty)
      (given : edit.propertyIndex = some (place : Int)) (inside : place < properties.length) :
      Changes edit (.object attributes properties) (.object attributes (properties.eraseIdx place))
  | updateProperty {attributes : Attributes} {properties : List Field} {place : Nat}
      {property : Field} (operation : edit.operation = .updateProperty)
      (given : edit.propertyIndex = some (place : Int)) (inside : place < properties.length)
      (new : edit.property = some property) :
      Changes edit (.object attributes properties)
        (.object attributes (properties.set place property))
  | setItems {attributes : Attributes} {before : Option Field} {item : Field}
      (operation : edit.operation = .setItems) (new : edit.item = some item) :
      Changes edit (.array attributes before) (.array attributes (some item))

-- The operations on the list of fields leave the field that they select to itself.
def selectsField (edit : FieldEdit) : Prop :=
  edit.operation ≠ .addField ∧ edit.operation ≠ .updateField ∧ edit.operation ≠ .removeField

theorem onField_sound {edit : FieldEdit} (own : edit.selectsField) {field next : Field}
    (done : edit.onField field = .ok next) : edit.Changes field next := by
  cases operation : edit.operation with
  | addField => exact absurd operation own.1
  | updateField => exact absurd operation own.2.1
  | removeField => exact absurd operation own.2.2
  | setType =>
    simp only [onField,operation] at done
    cases given : edit.type with
    | none => simp [given,Field.refuse] at done
    | some type =>
      simp only [given,Except.ok.injEq] at done
      subst done
      exact .setType operation given
  | setFormat =>
    simp only [onField,operation] at done
    obtain ⟨attributes,before,rfl,rfl⟩ := Field.setFormat_ok_iff.mp done
    exact .setFormat operation
  | setAttributes =>
    simp only [onField,operation] at done
    obtain ⟨known,attributes,read,rfl⟩ := Field.setAttributes_ok_iff.mp done
    exact .setAttributes operation known read
  | addExample =>
    simp only [onField,operation,Except.ok.injEq] at done
    subst done
    exact .addExample operation
  | removeExample =>
    simp only [onField,operation] at done
    obtain ⟨place,⟨given,inside⟩,rfl⟩ := Field.removeExample_given_ok_iff.mp done
    exact .removeExample operation given inside
  | addProperty =>
    simp only [onField,operation] at done
    obtain ⟨attributes,properties,rfl,after,⟨⟩,rfl⟩ := Field.editProperties_ok_iff.mp done
    exact .addProperty operation
  | removeProperty =>
    simp only [onField,operation] at done
    obtain ⟨attributes,properties,rfl,after,step,rfl⟩ := Field.editProperties_ok_iff.mp done
    obtain ⟨place,cut,rfl⟩ := mapped_ok_iff.mp step
    rw [Position.cut_given] at cut
    obtain ⟨given,inside⟩ := Position.index_given_ok_iff.mp cut
    exact .removeProperty operation given inside
  | updateProperty =>
    simp only [onField,operation] at done
    obtain ⟨attributes,properties,rfl,after,step,rfl⟩ := Field.editProperties_ok_iff.mp done
    obtain ⟨place,⟨given,inside⟩,property,new,rfl⟩ := replaceAt_given_ok_iff.mp step
    exact .updateProperty operation given inside (candidate_ok_iff.mp new)
  | setItems =>
    simp only [onField,operation] at done
    obtain ⟨attributes,before,rfl,item,new,rfl⟩ := Field.setItems_ok_iff.mp done
    exact .setItems operation (candidate_ok_iff.mp new)

theorem Changes.selects {edit : FieldEdit} {field next : Field} (changed : edit.Changes field next) :
    edit.selectsField := by
  cases changed <;> simp_all [selectsField]

theorem onField_complete {edit : FieldEdit} {field next : Field} (changed : edit.Changes field next) :
    edit.onField field = .ok next := by
  cases changed with
  | setType operation given => simp [onField,operation,given]
  | setFormat operation =>
    simp only [onField,operation]
    exact Field.setFormat_ok_iff.mpr ⟨_,_,rfl,rfl⟩
  | setAttributes operation known read =>
    simp only [onField,operation]
    exact Field.setAttributes_ok_iff.mpr ⟨known,_,read,rfl⟩
  | addExample operation => simp only [onField,operation]
  | removeExample operation given inside =>
    simp only [onField,operation]
    exact Field.removeExample_given_ok_iff.mpr ⟨_,⟨given,inside⟩,rfl⟩
  | addProperty operation =>
    simp only [onField,operation]
    exact Field.editProperties_ok_iff.mpr ⟨_,_,rfl,_,rfl,rfl⟩
  | removeProperty operation given inside =>
    simp only [onField,operation]
    refine Field.editProperties_ok_iff.mpr ⟨_,_,rfl,_,?_,rfl⟩
    rw [Position.cut_given]
    exact mapped_ok_iff.mpr ⟨_,Position.index_given_ok_iff.mpr ⟨given,inside⟩,rfl⟩
  | updateProperty operation given inside new =>
    simp only [onField,operation]
    refine Field.editProperties_ok_iff.mpr ⟨_,_,rfl,_,?_,rfl⟩
    exact replaceAt_given_ok_iff.mpr ⟨_,⟨given,inside⟩,_,candidate_ok_iff.mpr new,rfl⟩
  | setItems operation new =>
    simp only [onField,operation]
    exact Field.setItems_ok_iff.mpr ⟨_,_,rfl,_,candidate_ok_iff.mpr new,rfl⟩

end FieldEdit

namespace FieldTree

-- The field that an index picks out. An index that is left out or out of bounds picks none.
def Selects (tree : FieldTree) (index : Option Int) (field : Field) : Prop :=
  ∃ place : Nat, index = some (place : Int) ∧ tree[place]? = some field

-- Where an edit leads from a tree.
inductive Leads (edit : FieldEdit) (tree : FieldTree) : FieldTree → Prop where
  | addField (operation : edit.operation = .addField) :
      Leads edit tree (tree ++ [edit.field.getD .blank])
  | updateField {place : Nat} {field : Field} (operation : edit.operation = .updateField)
      (chosen : edit.index = some (place : Int)) (inside : place < tree.length)
      (new : edit.field = some field) : Leads edit tree (tree.set place field)
  | removeField {place : Nat} (operation : edit.operation = .removeField)
      (chosen : edit.index = some (place : Int)) (inside : place < tree.length) :
      Leads edit tree (tree.eraseIdx place)
  | onField {place : Nat} {field next : Field} (chosen : edit.index = some (place : Int))
      (present : tree[place]? = some field) (changed : edit.Changes field next) :
      Leads edit tree (tree.set place next)

theorem editAt_given_ok_iff {given : Option Int} {step : Field → Except Failure Field}
    {tree next : FieldTree} :
    tree.editAt (.ofOption given) step = .ok next ↔
      ∃ place : Nat, given = some (place : Int) ∧ ∃ field, tree[place]? = some field ∧
        ∃ changed, step field = .ok changed ∧ tree.set place changed = next := by
  have chosen := @Position.index_given_ok_iff .field tree.length given
  cases found : (Position.ofOption given).index .field tree.length with
  | error failure =>
    simp only [editAt,found,reduceCtorEq,false_iff]
    rintro ⟨place,same,field,present,_⟩
    have inside := (List.getElem?_eq_some_iff.mp present).1
    exact absurd (found.symm.trans (chosen.mpr ⟨same,inside⟩)) (by simp)
  | ok place =>
    obtain ⟨rfl,inside⟩ := chosen.mp found
    simp only [editAt,found,List.getElem?_eq_getElem inside,mapped_ok_iff]
    constructor
    · rintro ⟨changed,done,rfl⟩
      exact ⟨place,rfl,_,List.getElem?_eq_getElem inside,changed,done,rfl⟩
    · rintro ⟨other,same,field,present,changed,done,rfl⟩
      cases Int.natCast_inj.mp (Option.some.inj same)
      rw [List.getElem?_eq_getElem inside,Option.some.injEq] at present
      exact ⟨changed,present ▸ done,rfl⟩

-- All other operations go to the field that is selected.
theorem applyEdit_onField {edit : FieldEdit} (own : edit.selectsField) (tree : FieldTree) :
    tree.applyEdit edit = tree.editAt (.ofOption edit.index) edit.onField := by
  cases operation : edit.operation with
  | addField => exact absurd operation own.1
  | updateField => exact absurd operation own.2.1
  | removeField => exact absurd operation own.2.2
  | _ => simp only [applyEdit,operation]

theorem applyEdit_sound {edit : FieldEdit} {tree next : FieldTree}
    (done : tree.applyEdit edit = .ok next) : Leads edit tree next := by
  by_cases own : edit.selectsField
  · rw [applyEdit_onField own] at done
    obtain ⟨place,chosen,field,present,changed,step,rfl⟩ := editAt_given_ok_iff.mp done
    exact .onField chosen present (FieldEdit.onField_sound own step)
  · cases operation : edit.operation with
    | addField =>
      simp only [applyEdit,operation] at done
      cases done
      exact .addField operation
    | updateField =>
      simp only [applyEdit,operation] at done
      cases new : edit.field with
      | none => simp [new,Field.refuse] at done
      | some field =>
        simp only [new] at done
        obtain ⟨place,⟨chosen,inside⟩,item,given,rfl⟩ := replaceAt_given_ok_iff.mp done
        cases given
        exact .updateField operation chosen inside new
    | removeField =>
      simp only [applyEdit,operation] at done
      obtain ⟨place,index,rfl⟩ := mapped_ok_iff.mp done
      obtain ⟨chosen,inside⟩ := Position.index_given_ok_iff.mp index
      exact .removeField operation chosen inside
    | _ => exact absurd (by simp [FieldEdit.selectsField,operation]) own

theorem applyEdit_complete {edit : FieldEdit} {tree next : FieldTree}
    (leads : Leads edit tree next) : tree.applyEdit edit = .ok next := by
  cases leads with
  | addField operation =>
    simp only [applyEdit,operation]
    rfl
  | updateField operation chosen inside new =>
    simp only [applyEdit,operation,new]
    exact replaceAt_given_ok_iff.mpr ⟨_,⟨chosen,inside⟩,_,rfl,rfl⟩
  | removeField operation chosen inside =>
    simp only [applyEdit,operation]
    exact mapped_ok_iff.mpr ⟨_,Position.index_given_ok_iff.mpr ⟨chosen,inside⟩,rfl⟩
  | onField chosen present changed =>
    rw [applyEdit_onField changed.selects]
    have step := FieldEdit.onField_complete changed
    exact editAt_given_ok_iff.mpr ⟨_,chosen,_,present,_,step,rfl⟩

theorem applyEdit_exact {edit : FieldEdit} {tree next : FieldTree} :
    tree.applyEdit edit = .ok next ↔ Leads edit tree next :=
  ⟨applyEdit_sound,applyEdit_complete⟩

end FieldTree

-- The edits that put a field in the place of the one that they select.
def FieldEdit.inPlace (edit : FieldEdit) : Prop :=
  edit.operation ≠ .addField ∧ edit.operation ≠ .removeField

inductive FieldEdit.Puts (edit : FieldEdit) (field : Field) : Field → Prop where
  | given {new : Field} (operation : edit.operation = .updateField) (given : edit.field = some new) :
      Puts edit field new
  | changed {next : Field} (changed : edit.Changes field next) : Puts edit field next

theorem FieldEdit.selectsField_inPlace {edit : FieldEdit} (own : edit.selectsField) : edit.inPlace :=
  ⟨own.1,own.2.2⟩

namespace FieldTree

variable {edit : FieldEdit} {tree next : FieldTree}

theorem applyEdit_inPlace_iff (kept : edit.inPlace) :
    tree.applyEdit edit = .ok next ↔ ∃ (place : Nat) (field new : Field),
      edit.index = some (place : Int) ∧ tree[place]? = some field ∧ edit.Puts field new ∧
        tree.set place new = next := by
  rw [applyEdit_exact]
  constructor
  · intro leads
    cases leads with
    | addField operation => exact absurd operation kept.1
    | removeField operation chosen inside => exact absurd operation kept.2
    | updateField operation chosen inside new =>
      exact ⟨_,_,_,chosen,List.getElem?_eq_getElem inside,.given operation new,rfl⟩
    | onField chosen present changed => exact ⟨_,_,_,chosen,present,.changed changed,rfl⟩
  · intro put
    obtain ⟨place,field,new,chosen,present,puts,rfl⟩ := put
    cases puts with
    | given operation given =>
      have inside := (List.getElem?_eq_some_iff.mp present).1
      exact .updateField operation chosen inside given
    | changed changed => exact .onField chosen present changed

theorem applyEdit_removal_iff (operation : edit.operation = .removeField) :
    tree.applyEdit edit = .ok next ↔ ∃ place : Nat,
      (edit.index = some (place : Int) ∧ place < tree.length) ∧ tree.eraseIdx place = next := by
  simp only [applyEdit,operation]
  exact mapped_ok_iff.trans (exists_congr fun place => and_congr_left' Position.index_given_ok_iff)

end FieldTree

end ExtractionSchema
