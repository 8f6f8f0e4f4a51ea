import ExtractionSchema.Field
import ExtractionSchema.Field.WellFormed

namespace ExtractionSchema

theorem soundAmong_iff {fields : List Field} :
    SoundAmong fields ↔
      ∀ field ∈ fields, Text.isBlankText field.name = false ∧ SoundInside field := by
  induction fields with
  | nil => simp [SoundAmong]
  | cons field rest ih => simp [SoundAmong,ih]

theorem checkName_passes {path name : Text} {named : Bool} :
    checkName path named name = .ok () ↔ (named = true → Text.isBlankText name = false) := by
  cases named <;> cases blank : Text.isBlankText name <;> simp [checkName,violation,blank]

theorem named_passes (path name : Text) (named : Bool) (inside : Except TreeError Unit) :
    (match checkName path named name with
      | .error error => Except.error error
      | .ok () => inside) = .ok () ↔
      (named = true → Text.isBlankText name = false) ∧ inside = .ok () := by
  rw [← checkName_passes]
  cases checkName path named name <;> simp

-- What the check asks of a field, at any path and whether or not the field needs a name.
def PassesExactly (field : Field) : Prop :=
  ∀ path named, checkField path named field = .ok () ↔
    (named = true → Text.isBlankText field.name = false) ∧ SoundInside field

-- The known names are those of the siblings in front.
theorem checkSiblings_passes {fields : List Field} (each : ∀ field ∈ fields, PassesExactly field)
    (path : Text) (position : Nat) (seen : List Text) :
    checkSiblings path position seen fields = .ok () ↔
      SoundAmong fields ∧ (fields.map (·.name)).Nodup ∧ ∀ field ∈ fields, field.name ∉ seen := by
  induction fields generalizing position seen with
  | nil => simp [checkSiblings,SoundAmong]
  | cons field rest ih =>
    have here := each field (by simp) (siblingPath path position field.name) true
    have later := ih (fun other member => each other (List.mem_cons_of_mem _ member))
      (position + 1) (field.name :: seen)
    cases inside : checkField (siblingPath path position field.name) true field with
    | error error =>
      have unsound : ¬ (Text.isBlankText field.name = false ∧ SoundInside field) := by
        rintro ⟨visible,sound⟩
        cases inside.symm.trans (here.mpr ⟨fun _ => visible,sound⟩)
      simp [checkSiblings,inside,SoundAmong,unsound]
    | ok _ =>
      obtain ⟨visible,sound⟩ := here.mp inside
      by_cases known : field.name ∈ seen
      · simp [checkSiblings,inside,known,violation]
      · have new : ∀ others : List Field, (∀ other ∈ others, other.name ∉ field.name :: seen) ↔
            field.name ∉ others.map (·.name) ∧ ∀ other ∈ others, other.name ∉ seen := by
          intro others
          simp only [List.mem_cons,not_or,List.mem_map,not_exists,not_and]
          exact ⟨fun apart => ⟨fun other member => (apart other member).1,
              fun other member => (apart other member).2⟩,
            fun apart other member => ⟨apart.1 other member,apart.2 other member⟩⟩
        simp only [checkSiblings,inside,List.contains_iff_mem,known,if_false,later,new]
        simp only [SoundAmong,visible rfl,sound,List.map_cons,List.nodup_cons,List.forall_mem_cons,
          known,not_false_eq_true,true_and,and_true]
        constructor
        · rintro ⟨inner,distinct,apart,fresh⟩
          exact ⟨inner,⟨apart,distinct⟩,fresh⟩
        · rintro ⟨inner,⟨apart,distinct⟩,fresh⟩
          exact ⟨inner,distinct,apart,fresh⟩

theorem checkField_passes (field : Field) : PassesExactly field := by
  induction field using Field.induction with
  | string attributes format =>
    intro path named
    simp [checkField,checkName_passes,SoundInside,Field.name,Field.attributes]
  | number attributes =>
    intro path named
    simp [checkField,checkName_passes,SoundInside,Field.name,Field.attributes]
  | boolean attributes =>
    intro path named
    simp [checkField,checkName_passes,SoundInside,Field.name,Field.attributes]
  | bare attributes =>
    intro path named
    have own := named_passes path attributes.name named (violation .missingItems path)
    exact own.trans (by simp [violation,SoundInside])
  | array attributes item inner =>
    intro path named
    have items := inner (itemsPath path) false
    have own := named_passes path attributes.name named (checkField (itemsPath path) false item)
    exact own.trans (by simp [items,SoundInside,Field.name,Field.attributes])
  | object attributes properties inner =>
    intro path named
    have members := checkSiblings_passes inner path 0 []
    have own := named_passes path attributes.name named (checkSiblings path 0 [] properties)
    exact own.trans (by simp [members,SoundInside,Field.name,Field.attributes])

theorem FieldTree.check_passes {tree : FieldTree} {path : Text} :
    tree.check path = .ok () ↔ tree.WellFormed := by
  have whole := checkSiblings_passes (fun field (_ : field ∈ tree) => checkField_passes field) path 0 []
  simpa [FieldTree.check,FieldTree.WellFormed] using whole

theorem FieldTree.isWellFormed_iff {tree : FieldTree} : tree.isWellFormed = true ↔ tree.WellFormed := by
  rw [← @check_passes tree ""]
  cases verdict : tree.check "" with
  | error error => simp [isWellFormed,verdict,Except.isOk,Except.toBool]
  | ok _ => simp [isWellFormed,verdict,Except.isOk,Except.toBool]

theorem FieldTree.WellFormed.sublist {tree fewer : FieldTree} (sound : tree.WellFormed)
    (kept : fewer.Sublist tree) : fewer.WellFormed := by
  refine ⟨soundAmong_iff.mpr ?_,sound.2.sublist (kept.map _)⟩
  intro field member
  exact soundAmong_iff.mp sound.1 field (kept.subset member)

instance (tree : FieldTree) : Decidable tree.WellFormed :=
  decidable_of_iff (tree.isWellFormed = true) FieldTree.isWellFormed_iff

end ExtractionSchema
