import ExtractionSchema.Proofs.EditSteps
import ExtractionSchema.Proofs.FieldReading
import ExtractionSchema.Proofs.Places

namespace ExtractionSchema

def Field.SoundNamed (field : Field) : Prop :=
  Text.isBlankText field.name = false ∧ SoundInside field

-- No field of a list has the name, but for the one at a position of its own.
def NewBeside (name : Text) (own : Option Int) (fields : List Field) : Prop :=
  ∀ (place : Nat) (field : Field), fields[place]? = some field → own ≠ some (place : Int) →
    field.name ≠ name

namespace FieldTree

variable {tree : FieldTree} {place : Nat} {field next : Field}

theorem wellFormed_iff_positions :
    tree.WellFormed ↔ (∀ (i : Nat) (field : Field), tree[i]? = some field → field.SoundNamed) ∧
      ∀ (i j : Nat) (first second : Field), tree[i]? = some first → tree[j]? = some second →
        first.name = second.name → i = j := by
  rw [WellFormed,soundAmong_iff,names_distinct_iff]
  refine and_congr_left' ⟨fun each i field present => ?_,fun each field member => ?_⟩
  · exact each field (List.mem_of_getElem? present)
  · obtain ⟨i,present⟩ := List.mem_iff_getElem?.mp member
    exact each i field present

theorem WellFormed.newBeside (sound : tree.WellFormed) (present : tree[place]? = some field) :
    NewBeside field.name (some (place : Int)) tree := by
  intro other beside found apart same
  exact apart (congrArg _ (congrArg _ ((wellFormed_iff_positions.mp sound).2 _ _ _ _ present found same.symm)))

-- A field put into a well-formed tree, over the one at a position of its own or behind all others.
theorem wellFormed_placed_iff (sound : tree.WellFormed) (place : Nat) {after : FieldTree}
    {own : Option Int}
    (apart : ∀ (i : Nat) (found : Field), own ≠ some (i : Int) → tree[i]? = some found → i ≠ place)
    (placed : ∀ (i : Nat) (found : Field), after[i]? = some found ↔
      (i = place ∧ next = found) ∨ (own ≠ some (i : Int) ∧ tree[i]? = some found)) :
    after.WellFormed ↔ next.SoundNamed ∧ NewBeside next.name own tree := by
  obtain ⟨each,distinct⟩ := wellFormed_iff_positions.mp sound
  have here : after[place]? = some next := (placed place next).mpr (.inl ⟨rfl,rfl⟩)
  rw [wellFormed_iff_positions]
  constructor
  · rintro ⟨eachAfter,distinctAfter⟩
    refine ⟨eachAfter place next here,fun i beside present other same => ?_⟩
    have there : after[i]? = some beside := (placed i beside).mpr (.inr ⟨other,present⟩)
    exact apart i beside other present (distinctAfter i place beside next there here same)
  · rintro ⟨new,free⟩
    refine ⟨fun i found present => ?_,fun i j first second at_i at_j same => ?_⟩
    · rcases (placed i found).mp present with ⟨_,rfl⟩ | ⟨_,before⟩
      · exact new
      · exact each i found before
    · rcases (placed i first).mp at_i with ⟨rfl,rfl⟩ | ⟨other,before⟩ <;>
        rcases (placed j second).mp at_j with ⟨rfl,rfl⟩ | ⟨other',before'⟩
      · rfl
      · exact absurd same.symm (free j second before' other')
      · exact absurd same (free i first before other)
      · exact distinct i j first second before before' same

theorem wellFormed_set_iff (sound : tree.WellFormed) (inside : place < tree.length) :
    FieldTree.WellFormed (tree.set place next) ↔
      next.SoundNamed ∧ NewBeside next.name (some (place : Int)) tree := by
  refine wellFormed_placed_iff sound place ?_ ?_
  · rintro i found other present rfl
    exact other rfl
  · intro i found
    by_cases same : i = place
    · subst same
      simp [inside]
    · have apart : some (place : Int) ≠ some (i : Int) :=
        fun equal => same (Int.ofNat.inj (Option.some.inj equal)).symm
      rw [List.getElem?_set_ne (Ne.symm same)]
      simp only [same,apart,false_and,false_or,ne_eq,not_false_eq_true,true_and]

theorem wellFormed_append_iff (sound : tree.WellFormed) :
    FieldTree.WellFormed (tree ++ [next]) ↔ next.SoundNamed ∧ NewBeside next.name none tree := by
  refine wellFormed_placed_iff sound tree.length ?_ ?_
  · intro i found _ present
    exact Nat.ne_of_lt (List.getElem?_eq_some_iff.mp present).1
  · intro i found
    rcases Nat.lt_trichotomy i tree.length with inside | rfl | outside
    · simp [List.getElem?_append_left inside,Nat.ne_of_lt inside]
    · simp
    · have beyond : (tree ++ [next])[i]? = none := by simpa using Nat.succ_le_of_lt outside
      simp [beyond,Nat.le_of_lt outside,Nat.ne_of_gt outside]

theorem wellFormed_set_same (sound : tree.WellFormed) (present : tree[place]? = some field)
    (same : next.name = field.name) :
    FieldTree.WellFormed (tree.set place next) ↔ SoundInside next := by
  have inside := (List.getElem?_eq_some_iff.mp present).1
  have visible := ((wellFormed_iff_positions.mp sound).1 place field present).1
  rw [wellFormed_set_iff sound inside,Field.SoundNamed,same]
  exact ⟨fun after => after.1.2,fun own => ⟨⟨visible,own⟩,sound.newBeside present⟩⟩

theorem wellFormed_eraseIdx (sound : tree.WellFormed) (place : Nat) :
    FieldTree.WellFormed (tree.eraseIdx place) :=
  sound.sublist (List.eraseIdx_sublist tree place)

end FieldTree

namespace Field

theorem soundInside_setType {type : FieldType} {field : Field} (sound : SoundInside field) :
    SoundInside (field.setType type) := by
  unfold setType
  split
  · exact sound
  · cases type <;> simp [ofType,placeholderItem,SoundInside,SoundAmong]

theorem soundInside_withAttributes {attributes : Attributes} {field : Field} :
    SoundInside (field.withAttributes attributes) ↔ SoundInside field := by
  cases field with
  | array before items => cases items <;> simp [withAttributes,SoundInside]
  | _ => simp [withAttributes,SoundInside]

theorem soundInside_addExample {text : Text} {field : Field} :
    SoundInside (field.addExample text) ↔ SoundInside field := by
  unfold addExample
  split
  · rfl
  · exact soundInside_withAttributes

theorem blank_not_soundNamed : ¬ blank.SoundNamed := by
  rintro ⟨visible,_⟩
  cases visible

end Field

namespace FieldEdit

-- What an edit of a well-formed tree has to bring along.
def Sustains (edit : FieldEdit) (tree : FieldTree) : Prop :=
  match edit.operation with
  | .removeField | .removeProperty | .setType | .setFormat | .addExample | .removeExample => True
  | .addProperty => False
  | .setAttributes =>
    ∀ value, edit.attributes.lookup ("name" : Text) = some value →
      ∃ name, value = .str name ∧ Text.isBlankText name = false ∧ NewBeside name edit.index tree
  | .addField =>
    (edit.field.getD .blank).SoundNamed ∧ NewBeside (edit.field.getD .blank).name none tree
  | .updateField =>
    ∃ field, edit.field = some field ∧ field.SoundNamed ∧ NewBeside field.name edit.index tree
  | .updateProperty =>
    ∃ property attributes properties, edit.property = some property ∧
      tree.Selects edit.index (.object attributes properties) ∧
        property.SoundNamed ∧ NewBeside property.name edit.propertyIndex properties
  | .setItems => ∃ item, edit.item = some item ∧ SoundInside item

end FieldEdit

namespace FieldTree

section Changed

variable {edit : FieldEdit} {tree : FieldTree} {place : Nat} {field next : Field}

-- Attributes that are set are no matter but for a name among them.
theorem wellFormed_withAttributes_iff (sound : tree.WellFormed) (present : tree[place]? = some field)
    {changes : List (Text × Json)} {attributes : Attributes}
    (read : field.attributes.readOver changes = .accepted attributes) :
    FieldTree.WellFormed (tree.set place (field.withAttributes attributes)) ↔
      ∀ value, changes.lookup ("name" : Text) = some value → ∃ name, value = .str name ∧
        Text.isBlankText name = false ∧ NewBeside name (some (place : Int)) tree := by
  have inside := (List.getElem?_eq_some_iff.mp present).1
  have within := ((wellFormed_iff_positions.mp sound).1 place field present).2
  have named := (Attributes.readOver_accepted_iff.mp read).1
  rcases Accept.member_accepted_iff.mp named with ⟨absent,same⟩ | ⟨raw,given,text⟩
  · -- A name that is left out stays.
    have whole := (wellFormed_set_same sound present
      ((Field.name_withAttributes attributes field).trans same.symm)).mpr
        (Field.soundInside_withAttributes.mpr within)
    simp [whole,absent]
  · cases Accept.text_accepted_iff.mp text
    rw [wellFormed_set_iff sound inside,Field.SoundNamed,Field.name_withAttributes,
      Field.soundInside_withAttributes]
    simp [given,within]

theorem wellFormed_property_iff {attributes : Attributes} {properties : List Field} {index : Nat}
    (sound : tree.WellFormed) (present : tree[place]? = some (.object attributes properties))
    (bound : index < properties.length) :
    FieldTree.WellFormed (tree.set place (.object attributes (properties.set index next))) ↔
      next.SoundNamed ∧ NewBeside next.name (some (index : Int)) properties := by
  have within := ((wellFormed_iff_positions.mp sound).1 place _ present).2
  have same : (Field.object attributes (properties.set index next)).name =
      (Field.object attributes properties).name := rfl
  exact (wellFormed_set_same sound present same).trans (wellFormed_set_iff within bound)

-- What a change of one field does to the tree, one case for each operation.
theorem wellFormed_changed_iff (sound : tree.WellFormed) (chosen : edit.index = some (place : Int))
    (present : tree[place]? = some field) (changed : edit.Changes field next) :
    FieldTree.WellFormed (tree.set place next) ↔ edit.Sustains tree := by
  have within := ((wellFormed_iff_positions.mp sound).1 place field present).2
  have kept := fun (same : next.name = field.name) => wellFormed_set_same sound present same
  cases changed with
  | @setType _ type operation given =>
    simp only [FieldEdit.Sustains,operation,iff_true]
    exact (kept (field.name_setType type)).mpr (Field.soundInside_setType within)
  | setFormat operation =>
    simp only [FieldEdit.Sustains,operation,iff_true]
    exact (kept rfl).mpr within
  | setAttributes operation known read =>
    simp only [FieldEdit.Sustains,operation,chosen]
    exact wellFormed_withAttributes_iff sound present read
  | addExample operation =>
    simp only [FieldEdit.Sustains,operation,iff_true]
    exact (kept (field.name_addExample _)).mpr (Field.soundInside_addExample.mpr within)
  | removeExample operation given bound =>
    simp only [FieldEdit.Sustains,operation,iff_true]
    exact (kept (Field.name_withAttributes _ _)).mpr (Field.soundInside_withAttributes.mpr within)
  | addProperty operation =>
    simp only [FieldEdit.Sustains,operation,iff_false]
    intro whole
    exact Field.blank_not_soundNamed ((wellFormed_append_iff within).mp ((kept rfl).mp whole)).1
  | removeProperty operation given bound =>
    simp only [FieldEdit.Sustains,operation,iff_true]
    exact (kept rfl).mpr (wellFormed_eraseIdx within _)
  | @updateProperty attributes properties inner property operation given bound new =>
    simp only [FieldEdit.Sustains,operation]
    refine (wellFormed_property_iff sound present bound).trans ?_
    rw [← given]
    constructor
    · intro own
      exact ⟨property,attributes,properties,new,⟨place,chosen,present⟩,own⟩
    · rintro ⟨other,_,_,given',⟨place',chosen',present'⟩,own⟩
      cases new.symm.trans given'
      cases Int.natCast_inj.mp (Option.some.inj (chosen.symm.trans chosen'))
      cases present.symm.trans present'
      exact own
  | setItems operation new =>
    simp only [FieldEdit.Sustains,operation,new,Option.some.injEq,exists_eq_left']
    exact kept rfl

end Changed

theorem applyEdit_wellFormed_iff {edit : FieldEdit} {tree next : FieldTree}
    (sound : tree.WellFormed) (done : tree.applyEdit edit = .ok next) :
    next.WellFormed ↔ edit.Sustains tree := by
  cases applyEdit_sound done with
  | addField operation =>
    simp only [FieldEdit.Sustains,operation]
    exact wellFormed_append_iff sound
  | updateField operation chosen inside new =>
    simp only [FieldEdit.Sustains,operation,new,chosen,Option.some.injEq,exists_eq_left']
    exact wellFormed_set_iff sound inside
  | removeField operation chosen inside =>
    simp only [FieldEdit.Sustains,operation,iff_true]
    exact wellFormed_eraseIdx sound _
  | onField chosen present changed => exact wellFormed_changed_iff sound chosen present changed

-- An object with two properties, one of which is replaced by another of the same name.
def seller : FieldTree :=
  [.object ⟨"seller",true,none,[]⟩ [.string ⟨"id",true,none,[]⟩ none,
    .array ⟨"phones",false,none,[]⟩ (some (.string .initial (some .phone)))]]

def numberedSeller : FieldTree :=
  [.object ⟨"seller",true,none,[]⟩ [.number ⟨"id",true,none,[]⟩,
    .array ⟨"phones",false,none,[]⟩ (some (.string .initial (some .phone)))]]

def numbering : FieldEdit :=
  ⟨.updateProperty,some 0,none,none,none,[],none,none,some 0,some (.number ⟨"id",true,none,[]⟩),none⟩

theorem seller_sustained :
    seller.WellFormed ∧ seller.applyEdit numbering = .ok numberedSeller ∧
      (numberedSeller.WellFormed ↔ numbering.Sustains seller) :=
  ⟨by decide,rfl,applyEdit_wellFormed_iff (by decide) rfl⟩

end FieldTree

end ExtractionSchema
