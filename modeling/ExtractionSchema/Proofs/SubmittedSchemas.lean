import ExtractionSchema.Proofs.ReadObjects
import ExtractionSchema.Proofs.Submissions
import ExtractionSchema.Proofs.Transmission

namespace ExtractionSchema

namespace Submission

variable {room : Json.Room} {text : List Code} {submission : Submission}

theorem readEntry_ok_iff {name : Text} {value : Json} {entry : Text × FieldType} :
    readEntry name value = .ok entry ↔
      name ≠ "" ∧ ∃ type : FieldType, value = .str type.name ∧ (name,type) = entry := by
  constructor
  · intro read
    rcases readEntry_split name value with ⟨named,type,same⟩ | ⟨named,container⟩ | ⟨error,failed⟩
    · cases same
      exact ⟨named,type,rfl,Except.ok.inj ((readEntry_typed named type).symm.trans read)⟩
    · rw [readEntry_container named container] at read
      cases read
    · cases failed.symm.trans read
  · intro given
    obtain ⟨named,type,rfl,rfl⟩ := given
    exact readEntry_typed named type

theorem readMap_ok_iff {members : List (Text × Json)} {types : Entries FieldType} :
    readMap members = .ok types ↔
      typeMapJson types = .obj members ∧ ∀ name ∈ types.keys, name ≠ "" := by
  induction members generalizing types with
  | nil => cases types <;> simp [readMap,typeMapJson,Entries.keys]
  | cons member rest ih =>
    obtain ⟨name,value⟩ := member
    constructor
    · intro read
      cases first : readEntry name value with
      | error failure => simp [readMap,first] at read
      | ok entry =>
        cases others : readMap rest with
        | error failure => simp [readMap,first,others,Except.map] at read
        | ok later =>
          simp only [readMap,first,others,Except.map,Except.ok.injEq] at read
          subst read
          obtain ⟨named,type,rfl,rfl⟩ := readEntry_ok_iff.mp first
          obtain ⟨same,each⟩ := ih.mp others
          refine ⟨?_,List.forall_mem_cons.mpr ⟨named,each⟩⟩
          simpa [typeMapJson] using same
    · intro given
      obtain ⟨same,each⟩ := given
      cases types with
      | nil => simp [typeMapJson] at same
      | cons entry later =>
        obtain ⟨key,type⟩ := entry
        simp only [typeMapJson,List.map_cons,Json.obj.injEq,List.cons.injEq,Prod.mk.injEq] at same
        obtain ⟨⟨rfl,rfl⟩,rest_same⟩ := same
        obtain ⟨named,others⟩ := List.forall_mem_cons.mp each
        have read := ih.mpr ⟨congrArg Json.obj rest_same,others⟩
        simp [readMap,readEntry_typed named type,read,Except.map]

theorem read_list_iff {items : List Json} (found : Json.read room text = .ok (.arr items)) :
    read room text = .ok submission ↔ ∃ tree schema, FieldTree.parse (.arr items) = .ok tree ∧
      tree.compile = .ok schema ∧ submission = ⟨tree.typeMap,some schema⟩ := by
  simp only [read,found,ofJson]
  cases parsed : FieldTree.parse (.arr items) with
  | error error => simp
  | ok tree =>
    simp only [liftTree_ok_iff,ofTree,mapped_ok_iff,Except.ok.injEq,exists_and_left,exists_eq_left']
    exact exists_congr fun schema => and_congr_right fun _ => eq_comm

theorem read_map_iff {members : List (Text × Json)} (found : Json.read room text = .ok (.obj members)) :
    read room text = .ok submission ↔ ∃ types, typeMapJson types = .obj members ∧
      (∀ name ∈ types.keys, name ≠ "") ∧ submission = ⟨types,none⟩ := by
  simp only [read,found,ofJson,mapped_ok_iff,readMap_ok_iff,and_assoc]
  exact exists_congr fun types => and_congr_right fun _ => and_congr_right fun _ => eq_comm

theorem read_container (given : read room text = .ok submission) :
    (∃ items, Json.read room text = .ok (.arr items)) ∨
      ∃ members, Json.read room text = .ok (.obj members) := by
  unfold read at given
  cases found : Json.read room text with
  | error error =>
    cases deep : error.fault.tooDeep? <;> simp [found,deep] at given
  | ok value =>
    cases value with
    | arr items => exact .inl ⟨items,rfl⟩
    | obj members => exact .inr ⟨members,rfl⟩
    | _ => simp [found,ofJson] at given

theorem schema_listed_iff (given : read room text = .ok submission) :
    (∃ schema, submission.schema = some schema) ↔ ∃ items, Json.read room text = .ok (.arr items) := by
  rcases read_container given with ⟨items,found⟩ | ⟨members,found⟩
  · obtain ⟨tree,schema,_,_,rfl⟩ := (read_list_iff found).mp given
    exact iff_of_true ⟨schema,rfl⟩ ⟨items,found⟩
  · obtain ⟨types,_,_,rfl⟩ := (read_map_iff found).mp given
    refine iff_of_false (by simp) ?_
    intro listed
    obtain ⟨items,other⟩ := listed
    cases found.symm.trans other

-- The names are those of fields beside one another, or those of an object that was read.
theorem types_plain (given : read room text = .ok submission) : (typeMapJson submission.types).Plain := by
  rcases read_container given with ⟨items,found⟩ | ⟨members,found⟩
  · obtain ⟨tree,schema,_,compiled,rfl⟩ := (read_list_iff found).mp given
    exact FieldTree.typeMap_plain (FieldTree.wellFormed_of_compile compiled).2
  · obtain ⟨types,same,_,rfl⟩ := (read_map_iff found).mp given
    apply typeMapJson_plain
    have distinct := Json.read_distinct found
    cases same
    simpa [Entries.keys,Function.comp_def] using distinct

end Submission

end ExtractionSchema
