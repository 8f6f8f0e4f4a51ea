import ExtractionSchema.Proofs.Fragment
import ExtractionSchema.Proofs.PlainJson
import ExtractionSchema.Proofs.Verdicts

namespace ExtractionSchema

namespace Schema

theorem described_plain (description : Option Text) :
    ∀ member ∈ described description, member.2.Plain := by
  unfold described
  split
  · split <;> simp [Json.Plain.str]
  · simp

theorem formatted_plain (format : Option Format) : ∀ member ∈ formatted format, member.2.Plain := by
  unfold formatted
  split <;> simp [Json.Plain.str]

theorem texts_plain (texts : List Text) : (Json.arr (texts.map .str)).Plain := by
  refine .arr fun value member => ?_
  obtain ⟨text,_,rfl⟩ := List.mem_map.mp member
  exact .str text

theorem exemplified_plain (examples : List Text) :
    ∀ member ∈ exemplified examples, member.2.Plain := by
  unfold exemplified
  split <;> simp [texts_plain]

theorem heading_plain (type : FieldType) (attributes : Attributes) (format : Option Format) :
    ∀ member ∈ heading type attributes format, member.2.Plain := by
  simp only [heading,List.cons_append,List.forall_mem_cons,List.forall_mem_append]
  exact ⟨.str _,⟨described_plain _,formatted_plain _⟩,exemplified_plain _⟩

theorem fragment_plain_of {type : FieldType} {attributes : Attributes} {format : Option Format}
    {rest : List (Text × Json)} (keys : (Entries.keys rest).Sublist
      ["properties","required","additionalProperties","items"])
    (plain : ∀ member ∈ rest, member.2.Plain) :
    (Json.obj (heading type attributes format ++ rest)).Plain := by
  refine .obj ?_ ?_
  · have all := (heading_keys type attributes format).append keys
    rw [← Entries.keys_append] at all
    exact all.nodup (by decide)
  · exact List.forall_mem_append.mpr ⟨heading_plain _ _ _,plain⟩

theorem closedPart_keys (fields : List Field) (properties : List (Text × Json)) :
    (Entries.keys (closedPart fields properties)).Sublist
      ["properties","required","additionalProperties","items"] := by
  unfold closedPart
  split <;> simp [Entries.keys]

theorem closedPart_plain (fields : List Field) {properties : List (Text × Json)}
    (plain : (Json.obj properties).Plain) : ∀ member ∈ closedPart fields properties, member.2.Plain := by
  unfold closedPart
  split <;> simp [plain,texts_plain,Json.Plain.bool]

theorem properties_plain {fields : List Field} {properties : List (Text × Json)}
    (aligned : List.Forall₂ (Paired fun _ schema => schema.Plain) fields properties) :
    ∀ property ∈ properties, property.2.Plain := by
  intro property member
  obtain ⟨_,_,own⟩ := aligned_source aligned property member
  exact own.2

theorem leaf_plain (type : FieldType) (attributes : Attributes) (format : Option Format) :
    (Json.obj (heading type attributes format)).Plain :=
  .obj ((heading_keys type attributes format).nodup (by decide)) (heading_plain _ _ _)

theorem fragment_plain {field : Field} (sound : SoundInside field) {schema : Json}
    (compiled : fragment field = .ok schema) : schema.Plain := by
  refine fragment_induction (P := fun _ schema => schema.Plain) ?_ ?_ ?_ ?_ ?_ sound compiled
  · intro attributes format
    exact leaf_plain _ _ _
  · intro attributes
    exact leaf_plain _ _ _
  · intro attributes
    exact leaf_plain _ _ _
  · intro attributes item items plain
    exact fragment_plain_of (by simp [Entries.keys]) (by simp [plain])
  · intro attributes fields properties distinct keys inner
    have plain : (Json.obj properties).Plain := .obj (keys ▸ distinct) (properties_plain inner)
    exact fragment_plain_of (closedPart_keys fields properties) (closedPart_plain fields plain)

end Schema

theorem FieldTree.compile_plain {tree : FieldTree} {schema : Json} (compiled : tree.compile = .ok schema) :
    schema.Plain := by
  have sound := wellFormed_of_compile compiled
  rw [compile_wellFormed sound] at compiled
  exact Schema.fragment_plain sound.inside compiled

theorem FieldTree.compileText_exact {tree : FieldTree} (sound : tree.WellFormed) :
    ∃ schema, tree.compile = .ok schema ∧ Schema.fragment (.object .initial tree) = .ok schema ∧
      schema.Plain ∧ tree.compileText = .ok (schema.write .compact) := by
  obtain ⟨schema,own⟩ := Schema.fragment_exists sound.inside
  have compiled : tree.compile = .ok schema := (compile_wellFormed sound).trans own
  refine ⟨schema,compiled,own,Schema.fragment_plain sound.inside own,?_⟩
  rw [compileText,compiled]
  rfl

end ExtractionSchema
