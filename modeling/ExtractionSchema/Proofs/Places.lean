import ExtractionSchema.Proofs.Checker
import Mathlib.Data.List.Nodup

namespace ExtractionSchema

theorem Text.isBlankText_eq_false_iff {text : Text} :
    isBlankText text = false ↔ ∃ c ∈ text.codes, c.isBlank = false := by
  simp [isBlankText]

theorem names_distinct_iff {fields : List Field} :
    (fields.map (·.name)).Nodup ↔ ∀ (i j : Nat) (first second : Field), fields[i]? = some first →
      fields[j]? = some second → first.name = second.name → i = j := by
  constructor
  · intro distinct i j first second at_i at_j same
    have inside : i < (fields.map (·.name)).length := by
      simpa using (List.getElem?_eq_some_iff.mp at_i).1
    refine (List.getElem?_inj inside distinct).mp ?_
    simp [at_i,at_j,same]
  · intro apart
    refine List.nodup_iff_getElem?_ne_getElem?.mpr fun i j before inside same => ?_
    have inside_j : j < fields.length := by simpa using inside
    have inside_i : i < fields.length := Nat.lt_trans before inside_j
    have equal : fields[i].name = fields[j].name := by simpa [inside_i,inside_j] using same
    have one := apart i j fields[i] fields[j] (by simp [inside_i]) (by simp [inside_j]) equal
    omega

-- How a field stands where it is.
inductive Standing where
  | named
  | asItems
  deriving DecidableEq,Repr

namespace FieldTree

variable {tree : FieldTree}

-- The fields of a tree at all its places.
inductive Holds (tree : FieldTree) : Standing → Field → Prop where
  | top {field} (member : field ∈ tree) : Holds tree .named field
  | items {standing attributes item} (outer : Holds tree standing (.array attributes (some item))) :
      Holds tree .asItems item
  | property {standing attributes properties property}
      (outer : Holds tree standing (.object attributes properties))
      (member : property ∈ properties) : Holds tree .named property

-- The lists in which fields stand beside one another.
inductive Siblings (tree : FieldTree) : List Field → Prop where
  | top : Siblings tree tree
  | properties {standing attributes properties}
      (outer : Holds tree standing (.object attributes properties)) : Siblings tree properties

structure SoundEverywhere (tree : FieldTree) : Prop where
  visible : ∀ field, tree.Holds .named field → ∃ c ∈ field.name.codes, c.isBlank = false
  furnished : ∀ standing attributes items, tree.Holds standing (.array attributes items) →
    ∃ item, items = some item
  distinct : ∀ siblings, tree.Siblings siblings → ∀ (i j : Nat) (first second : Field),
    siblings[i]? = some first → siblings[j]? = some second → first.name = second.name → i = j

theorem WellFormed.holds (sound : tree.WellFormed) {standing : Standing} {field : Field}
    (held : tree.Holds standing field) :
    SoundInside field ∧ (standing = .named → Text.isBlankText field.name = false) := by
  induction held with
  | top member =>
    obtain ⟨visible,inside⟩ := soundAmong_iff.mp sound.1 _ member
    exact ⟨inside,fun _ => visible⟩
  | items outer ih => exact ⟨ih.1,by rintro ⟨⟩⟩
  | property outer member ih =>
    obtain ⟨visible,inside⟩ := soundAmong_iff.mp ih.1.1 _ member
    exact ⟨inside,fun _ => visible⟩

theorem WellFormed.everywhere (sound : tree.WellFormed) : tree.SoundEverywhere where
  visible field held := Text.isBlankText_eq_false_iff.mp ((sound.holds held).2 rfl)
  furnished standing attributes items held := by
    have inside := (sound.holds held).1
    cases items with
    | none => cases inside
    | some item => exact ⟨item,rfl⟩
  distinct siblings beside := by
    refine names_distinct_iff.mp ?_
    cases beside with
    | top => exact sound.2
    | properties outer => exact (sound.holds outer).1.2

-- The induction is on the field: what is inside it is held by the tree as well.
theorem SoundEverywhere.inside (sound : tree.SoundEverywhere) {field : Field} {standing : Standing}
    (held : tree.Holds standing field) : SoundInside field := by
  induction field using Field.induction generalizing standing with
  | string attributes format => trivial
  | number attributes => trivial
  | boolean attributes => trivial
  | bare attributes =>
    obtain ⟨item,present⟩ := sound.furnished standing attributes none held
    cases present
  | array attributes item inner => exact inner (.items held)
  | object attributes properties inner =>
    refine ⟨soundAmong_iff.mpr fun property member => ?_,?_⟩
    · have beside := Holds.property held member
      exact ⟨Text.isBlankText_eq_false_iff.mpr (sound.visible property beside),
        inner property member beside⟩
    · exact names_distinct_iff.mpr (sound.distinct properties (.properties held))

theorem wellFormed_iff_everywhere : tree.WellFormed ↔ tree.SoundEverywhere := by
  refine ⟨WellFormed.everywhere,fun sound => ⟨soundAmong_iff.mpr fun field member => ?_,?_⟩⟩
  · have held := Holds.top member
    exact ⟨Text.isBlankText_eq_false_iff.mpr (sound.visible field held),sound.inside held⟩
  · exact names_distinct_iff.mpr (sound.distinct tree .top)

theorem check_everywhere (tree : FieldTree) :
    (∀ path, tree.check path = .ok () ↔ tree.SoundEverywhere) ∧
      (tree.isWellFormed = true ↔ tree.SoundEverywhere) :=
  ⟨fun _ => check_passes.trans wellFormed_iff_everywhere,
    isWellFormed_iff.trans wellFormed_iff_everywhere⟩

end FieldTree

end ExtractionSchema
