import ExtractionSchema.Edit.Session
import ExtractionSchema.Proofs.EditScopes

namespace ExtractionSchema.Field

section Runs

variable {α : Type} {apply : α → Field → Except Failure Field}

def applyEach (apply : α → Field → Except Failure Field) (edits : List α) (field : Field) :
    Except Failure Field :=
  edits.foldlM (fun field edit => apply edit field) field

theorem applyEach_nil (field : Field) : field.applyEach apply [] = .ok field := rfl

theorem applyEach_cons_ok_iff {edit : α} {edits : List α} {field next : Field} :
    field.applyEach apply (edit :: edits) = .ok next ↔
      ∃ between, apply edit field = .ok between ∧ between.applyEach apply edits = .ok next := by
  rw [applyEach,List.foldlM_cons]
  cases apply edit field with
  | error failure => simp [bind,Except.bind]
  | ok between => simp [bind,Except.bind,applyEach]

end Runs

-- A field that has just been given its type: beside the common attributes there is nothing in it but
-- the items that a new array starts with.
structure Fresh (type : FieldType) (attributes : Attributes) (field : Field) : Prop where
  type : field.type = type
  common : field.attributes = attributes
  format : ∀ format, field.format? = some format → format = none
  items : ∀ items, field.items? = some items → items = some (.object ⟨"item",true,none,[]⟩ [])
  properties : ∀ properties, field.properties? = some properties → properties = []

variable {type : FieldType} {attributes : Attributes} {field : Field}

theorem fresh_iff : field.Fresh type attributes ↔ field = ofType type attributes := by
  constructor
  · intro fresh
    obtain ⟨rfl,rfl,format,items,properties⟩ := fresh
    cases field with
    | string attributes before => exact congrArg _ (format before rfl)
    | number attributes => rfl
    | boolean attributes => rfl
    | array attributes before => exact congrArg _ (items before rfl)
    | object attributes before => exact congrArg _ (properties before rfl)
  · intro same
    subst same
    cases type <;> constructor <;> simp [ofType,Field.type,Field.attributes,format?,items?,properties?,
      placeholderItem]

theorem setType_other (other : field.type ≠ type) : field.setType type = ofType type field.attributes :=
  if_neg other

theorem setType_ofType (before after : FieldType) :
    (ofType before attributes).setType after = ofType after attributes := by
  obtain ⟨type,common,_⟩ := fresh_iff.mpr (Eq.refl (ofType before attributes))
  by_cases same : before = after
  · rw [← same,setType_own type]
  · rw [setType_other (by rwa [type]),common]

def retyping (types : List FieldType) : List FieldStep := types.map fun type => .setType (.str type.name)

theorem typeOf_named (type : FieldType) : typeOf (.str type.name) = .ok type := by
  rw [typeOf,Accept.fieldType_accepted_iff.mpr rfl]

theorem setType_named (type : FieldType) (field : Field) :
    (FieldStep.setType (.str type.name)).apply field = .ok (field.setType type) := by
  rw [FieldStep.apply,typeOf_named]
  rfl

theorem applyEach_retyping (types : List FieldType) (field : Field) :
    field.applyEach FieldStep.apply (retyping types) =
      .ok (types.foldl (fun field type => field.setType type) field) := by
  induction types generalizing field with
  | nil => rfl
  | cons type types ih => exact applyEach_cons_ok_iff.mpr ⟨_,setType_named type field,ih _⟩

theorem foldl_setType_own {types : List FieldType} (own : ∀ type ∈ types, type = field.type) :
    types.foldl (fun field type => field.setType type) field = field := by
  induction types with
  | nil => rfl
  | cons type types ih =>
    obtain ⟨same,others⟩ := List.forall_mem_cons.mp own
    rw [List.foldl_cons,setType_own same.symm,ih others]

theorem foldl_setType_ofType (before : FieldType) (types : List FieldType) :
    types.foldl (fun field type => field.setType type) (ofType before attributes) =
      ofType (types.getLastD before) attributes := by
  induction types generalizing before with
  | nil => rfl
  | cons type types ih => rw [List.foldl_cons,setType_ofType,ih,List.getLastD_cons]

-- The types before the first other one leave the field alone, and from there on it is a new one.
theorem foldl_setType_other {types : List FieldType} (before : FieldType)
    (other : ∃ type ∈ types, type ≠ field.type) :
    types.foldl (fun field type => field.setType type) field =
      ofType (types.getLastD before) field.attributes := by
  induction types generalizing before with
  | nil => simp at other
  | cons type types ih =>
    rw [List.foldl_cons,List.getLastD_cons]
    by_cases same : field.type = type
    · rw [setType_own same]
      refine ih type ?_
      simpa [same] using other
    · rw [setType_other same,foldl_setType_ofType]

theorem retyped_fresh (field : Field) (types : List FieldType) (begun : types ≠ []) :
    ∃ after, field.applyEach FieldStep.apply (retyping types) = .ok after ∧
      ((∀ type ∈ types, type = field.type) →
        after = field ∧ ∀ step ∈ retyping types, step.isIdle field = true) ∧
      ((∃ type ∈ types, type ≠ field.type) → after.Fresh (types.getLast begun) field.attributes) := by
  refine ⟨_,applyEach_retyping types field,?_,?_⟩
  · intro own
    refine ⟨foldl_setType_own own,?_⟩
    intro step member
    obtain ⟨type,given,rfl⟩ := List.mem_map.mp member
    rw [own type given,FieldStep.isIdle,typeOf_named]
    simp [Except.toOption]
  · intro other
    rw [fresh_iff,foldl_setType_other field.type other,List.getLastD_eq_getLast?,
      List.getLast?_eq_some_getLast begun]
    rfl

-- A text with a format, on a detour by way of types that have other things of their own.
def dueDate : Field := .string ⟨"due",false,some "",["2024-05-01"]⟩ (some .date)

def detour : List FieldType := [.string,.array,.array,.object,.string]

theorem dueDate_fresh :
    detour ≠ [] ∧ (∃ type ∈ detour, type ≠ dueDate.type) ∧
      ∃ after, dueDate.applyEach FieldStep.apply (retyping detour) = .ok after ∧
        after.Fresh .string dueDate.attributes := by
  have begun : detour ≠ [] := by decide
  have strays : ∃ type ∈ detour, type ≠ dueDate.type := by decide
  obtain ⟨after,done,_,fresh⟩ := retyped_fresh dueDate detour begun
  exact ⟨begun,strays,after,done,fresh strays⟩

end ExtractionSchema.Field
