import ExtractionSchema.Proofs.ClosedSchemas

namespace ExtractionSchema

namespace Schema

theorem becomes_lookup {fields : List Field} {properties : List (Text × Json)}
    (distinct : (fields.map (·.name)).Nodup) (aligned : List.Forall₂ Becomes fields properties)
    {field : Field} (member : field ∈ fields) :
    ∃ schema, properties.lookup field.name = some schema ∧ fragment field = .ok schema := by
  obtain ⟨property,found,becomes⟩ := aligned_source aligned.flip field member
  obtain ⟨key,schema⟩ := property
  obtain ⟨rfl,compiled⟩ := becomes
  have apart : (Entries.keys properties).Nodup := becomes_keys aligned ▸ distinct
  exact ⟨schema,(Entries.lookup_exact apart).mpr found,compiled⟩

theorem closedPart_required (fields : List Field) (properties : List (Text × Json)) :
    (closedPart fields properties).lookup ("required" : Text) =
      if (requiredNames fields).isEmpty then none
      else some (.arr ((requiredNames fields).map .str)) := by
  unfold closedPart
  split <;> simp [List.lookup_cons]

end Schema

namespace FieldTree

def requires (tree : FieldTree) (name : Text) : Bool :=
  tree.any fun field => field.name == name && field.required

theorem requires_own {tree : FieldTree} (distinct : (tree.map (·.name)).Nodup) {field : Field}
    (member : field ∈ tree) : field.required = tree.requires field.name := by
  have alone : ∀ other ∈ tree, other.name = field.name → other = field := fun other found same =>
    List.inj_on_of_nodup_map distinct found member same
  rw [Bool.eq_iff_iff,requires,List.any_eq_true]
  constructor
  · intro required
    exact ⟨field,member,by simp [required]⟩
  · intro given
    obtain ⟨other,found,own⟩ := given
    obtain ⟨same,required⟩ := Bool.and_eq_true_iff.mp own
    exact alone other found (beq_iff_eq.mp same) ▸ required

theorem requiredNames_picked {tree : FieldTree} (distinct : (tree.map (·.name)).Nodup) :
    Schema.requiredNames tree = (tree.map (·.name)).filter tree.requires :=
  Schema.requiredNames_flagged fun _ member => requires_own distinct member

theorem typeMap_keys {tree : FieldTree} (distinct : (tree.map (·.name)).Nodup) :
    tree.typeMap.keys = tree.map (·.name) := by
  rw [typeMap_distinct distinct]
  simp [Entries.keys]

theorem compile_exact {tree : FieldTree} (sound : tree.WellFormed) {schema : Json} :
    tree.compile = .ok schema ↔ ∃ properties, List.Forall₂ Schema.Becomes tree properties ∧
      schema = .obj (("type",.str "object") :: Schema.closedPart tree properties) := by
  rw [compile_wellFormed sound]
  exact Schema.fragment_object sound.2

theorem typeMap_agrees :
    (∀ tree : FieldTree, tree.WellFormed → ∃ schema properties, tree.compile = .ok schema ∧
      schema.members.lookup ("properties" : Text) = some (.obj properties) ∧
      tree.typeMap.keys = tree.map (·.name) ∧ Entries.keys properties = tree.map (·.name) ∧
      tree.typeMap.length = tree.length ∧
      (∀ name type, (name,type) ∈ tree.typeMap → ∃ fragment, properties.lookup name = some fragment ∧
        fragment.members.lookup ("type" : Text) = some (.str type.name)) ∧
      let demanded := tree.typeMap.keys.filter tree.requires
      schema.members.lookup ("required" : Text) =
        if demanded.isEmpty then none else some (.arr (demanded.map .str))) ∧
    ∀ tree : FieldTree,
      Entries.Condenses (tree.map fun field => (field.name,field.type)) tree.typeMap := by
  refine ⟨?_,fun tree => Entries.collapse_condenses _⟩
  intro tree sound
  obtain ⟨members,compiled⟩ := compile_passes sound
  obtain ⟨properties,aligned,same⟩ := (compile_exact sound).mp compiled
  have names := typeMap_keys sound.2
  refine ⟨_,properties,compiled,?_,names,Schema.becomes_keys aligned,?_,?_,?_⟩
  · rw [same]
    rfl
  · simp [typeMap_distinct sound.2]
  · intro name type listed
    rw [typeMap_distinct sound.2] at listed
    obtain ⟨field,member,own⟩ := List.mem_map.mp listed
    cases own
    obtain ⟨fragment,found,produced⟩ := Schema.becomes_lookup sound.2 aligned member
    obtain ⟨rest,rfl⟩ := Schema.fragment_type produced
    exact ⟨_,found,rfl⟩
  · rw [names,← requiredNames_picked sound.2,same]
    exact Schema.closedPart_required tree properties

def ledger : FieldTree :=
  [.string ⟨"date",false,none,[]⟩ (some .date),.array ⟨"lines",true,none,[]⟩ (some .blank),
    .boolean ⟨"paid",true,none,[]⟩]

def retyped : FieldTree :=
  [.string ⟨"total",true,none,[]⟩ none,.number ⟨"tip",true,none,[]⟩,.boolean ⟨"total",true,none,[]⟩]

theorem ledger_agrees :
    ledger.WellFormed ∧ (("lines" : Text),FieldType.array) ∈ ledger.typeMap ∧
      (∃ schema properties, ledger.compile = .ok schema ∧
        schema.members.lookup ("properties" : Text) = some (.obj properties) ∧
        ledger.typeMap.keys = ["date","lines","paid"] ∧
        Entries.keys properties = ["date","lines","paid"] ∧ ledger.typeMap.length = 3 ∧
        (∃ fragment, properties.lookup ("lines" : Text) = some fragment ∧
          fragment.members.lookup ("type" : Text) = some (.str "array")) ∧
        schema.members.lookup ("required" : Text) = some (.arr [.str "lines",.str "paid"])) ∧
      retyped.typeMap.keys.Nodup ∧ (("total" : Text) ∈ retyped.typeMap.keys ∧ ("tip" : Text) ∈ retyped.typeMap.keys) ∧
      retyped.typeMap.lookup ("total" : Text) = some .boolean := by
  obtain ⟨agreement,condensed⟩ := typeMap_agrees
  have sound : ledger.WellFormed := by decide
  have listed : (("lines" : Text),FieldType.array) ∈ ledger.typeMap := by decide
  obtain ⟨schema,properties,compiled,declared,names,same,size,types,demanded⟩ := agreement ledger sound
  have once := condensed retyped
  refine ⟨sound,listed,?_,once.once,⟨(once.named "total").mpr ?_,(once.named "tip").mpr ?_⟩,?_⟩
  · exact ⟨schema,properties,compiled,declared,names,same,size,types "lines" .array listed,demanded⟩
  · decide
  · decide
  · exact once.latest [("total",.string),("tip",.number)] "total" .boolean [] rfl (by decide)

end FieldTree

end ExtractionSchema
