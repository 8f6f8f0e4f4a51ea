import ExtractionSchema.Proofs.Payloads
import ExtractionSchema.Proofs.Records
import ExtractionSchema.Service.Builder

namespace ExtractionSchema

variable {good : Text → Prop}

namespace Field

inductive Says : Field → Text → Prop where
  | name {field} : Says field field.name
  | description {field text} (given : field.description = some text) : Says field text
  | sample {field text} (given : text ∈ field.examples) : Says field text
  | item {attributes item text} (inner : Says item text) : Says (.array attributes (some item)) text
  | property {attributes properties property text} (found : property ∈ properties)
      (inner : Says property text) : Says (.object attributes properties) text

theorem Mentions.said {field : Field} {text : Text} (mentions : field.Mentions text) : field.Says text := by
  induction mentions with
  | description given => exact .description given
  | sample given => exact .sample given
  | item _ ih => exact .item ih
  | name found => exact .property found .name
  | property found _ ih => exact .property found ih

theorem writtenMembers_tells {form : UnsetForm} {attributes : Attributes} {type : FieldType}
    {own : List (Text × Json)} {text : Text}
    (said : text = attributes.name ∨ attributes.description = some text ∨ text ∈ attributes.examples) :
    (Json.obj (writtenMembers form attributes type own)).Tells text := by
  have inside : ∀ member ∈ attributeMembers form attributes,
      member ∈ writtenMembers form attributes type own := fun _ found => List.mem_append_left _ found
  rcases said with rfl | described | sample
  · exact .under "name" (inside _ (by simp [attributeMembers])) .text
  · exact .under "description" (inside _ (by simp [attributeMembers,described,settable])) .text
  · exact .under "examples" (inside _ (by simp [attributeMembers])) (.item (List.mem_map_of_mem sample) .text)

theorem toJson_tells_own (form : UnsetForm) {field : Field} {text : Text}
    (said : text = field.name ∨ field.description = some text ∨ text ∈ field.examples) :
    (field.toJson form).Tells text := by
  cases field with
  | array attributes items => cases items <;> exact writtenMembers_tells said
  | _ => exact writtenMembers_tells said

theorem toJson_tells (form : UnsetForm) {field : Field} {text : Text} (said : field.Says text) :
    (field.toJson form).Tells text := by
  induction said with
  | name => exact toJson_tells_own form (.inl rfl)
  | description given => exact toJson_tells_own form (.inr (.inl given))
  | sample given => exact toJson_tells_own form (.inr (.inr given))
  | @item attributes item text inner ih =>
    exact .under "items" (by simp) ih
  | @property attributes properties property text found inner ih =>
    have listed : property.toJson form ∈ toJsonAll form properties :=
      toJsonAll_map form properties ▸ List.mem_map_of_mem found
    exact .under "properties" (by simp) (.item listed ih)

theorem says_own {field : Field} (every : ∀ text, field.Says text → good text) :
    good field.name ∧ field.attributes.All good :=
  ⟨every _ .name,fun text given => every text (.description given),
    fun text given => every text (.sample given)⟩

section

variable (words : ∀ text, Text.isBasic text = true → good text)
include words

theorem settable_all {form : UnsetForm} {key : Text} (basic : Text.isBasic key = true)
    {value : Option Json} (every : ∀ inner ∈ value, inner.All good) :
    Schema.MembersAll good (settable form key value) := by
  have null : Json.All good .null := fun text told => by cases told
  cases value with
  | none => cases form <;> simp [settable,Schema.MembersAll,words key basic,null]
  | some inner => simpa [settable,Schema.MembersAll,words key basic] using every

theorem writtenMembers_all {form : UnsetForm} {attributes : Attributes} {type : FieldType}
    {own : List (Text × Json)} (name : good attributes.name) (every : attributes.All good)
    (inside : Schema.MembersAll good own) :
    (Json.obj (writtenMembers form attributes type own)).All good := by
  have typed : good (tagMember type).1 ∧ (tagMember type).2.All good := by
    refine ⟨words "type" (by decide),Json.all_str.mpr (words _ ?_)⟩
    cases type <;> decide
  have said : Schema.MembersAll good (settable form "description" (attributes.description.map .str)) := by
    refine settable_all words (by decide) fun inner written => ?_
    obtain ⟨text,given,rfl⟩ := Option.map_eq_some_iff.mp written
    exact Json.all_str.mpr (every.1 text given)
  have texts : Schema.MembersAll good [(("examples" : Text),.arr (attributes.examples.map .str))] :=
    (Schema.membersAll_one words (by decide)).mpr (Json.all_texts.mpr every.2)
  have first : Schema.MembersAll good
      [("name",.str attributes.name),("required",.bool attributes.required)] := by
    simp [Schema.MembersAll,words "name" (by decide),words "required" (by decide),Json.all_str,
      Json.all_bool,name]
  refine Json.all_obj.mpr (Schema.membersAll_append.mpr ⟨?_,?_⟩)
  · exact Schema.membersAll_append.mpr ⟨Schema.membersAll_append.mpr ⟨first,said⟩,texts⟩
  · exact List.forall_mem_cons.mpr ⟨typed,inside⟩

theorem toJson_all (form : UnsetForm) {field : Field} (every : ∀ text, field.Says text → good text) :
    (field.toJson form).All good := by
  induction field using Field.induction with
  | string attributes format =>
    obtain ⟨name,own⟩ := says_own every
    refine writtenMembers_all words name own (settable_all words (by decide) fun inner written => ?_)
    obtain ⟨format,_,rfl⟩ := Option.map_eq_some_iff.mp written
    exact Json.all_str.mpr (words _ (by cases format <;> decide))
  | number attributes =>
    obtain ⟨name,own⟩ := says_own every
    exact writtenMembers_all words name own (by simp [Schema.MembersAll])
  | boolean attributes =>
    obtain ⟨name,own⟩ := says_own every
    exact writtenMembers_all words name own (by simp [Schema.MembersAll])
  | bare attributes =>
    obtain ⟨name,own⟩ := says_own every
    exact writtenMembers_all words name own (settable_all words (by decide) (by simp))
  | array attributes item ih =>
    obtain ⟨name,own⟩ := says_own every
    refine writtenMembers_all words name own ((Schema.membersAll_one words (by decide)).mpr ?_)
    exact ih fun text inner => every text (.item inner)
  | object attributes properties ih =>
    obtain ⟨name,own⟩ := says_own every
    refine writtenMembers_all words name own ((Schema.membersAll_one words (by decide)).mpr ?_)
    rw [toJsonAll_map,Json.all_arr,List.forall_mem_map]
    intro property found
    exact ih property found fun text inner => every text (.property found inner)

end

end Field

namespace FieldTree

def Says (tree : FieldTree) (text : Text) : Prop := ∃ field ∈ tree, field.Says text

variable {tree : FieldTree}

theorem toResponse_tells {text : Text} (said : tree.Says text) : tree.toResponse.Tells text := by
  obtain ⟨field,member,own⟩ := said
  have listed : field.toJson .null ∈ Field.toJsonAll .null tree :=
    Field.toJsonAll_map .null tree ▸ List.mem_map_of_mem member
  exact .item listed (Field.toJson_tells .null own)

section

variable (words : ∀ text, Text.isBasic text = true → good text) (every : ∀ text, tree.Says text → good text)
include words every

theorem toResponse_all : tree.toResponse.All good := by
  rw [toResponse,Field.toJsonAll_map,Json.all_arr,List.forall_mem_map]
  intro field member
  exact Field.toJson_all words .null fun text own => every text ⟨field,member,own⟩

theorem compiled_all (sound : tree.WellFormed) {schema : Json} (compiled : tree.compile = .ok schema) :
    schema.All good := by
  rw [compile_wellFormed sound] at compiled
  refine (Schema.fragment_all words sound.inside compiled).mpr fun text mentions => ?_
  -- The object around the tree says nothing itself.
  cases mentions with
  | description given => cases given
  | sample given => cases given
  | name found => exact every _ ⟨_,found,.name⟩
  | property found inner => exact every text ⟨_,found,inner.said⟩

end

end FieldTree

-- To see that all is whole it is enough to look at what is written.
theorem FieldTree.says_whole {tree : FieldTree} (whole : tree.toResponse.isWhole = true) :
    ∀ text, tree.Says text → text.isWhole = true := by
  intro text said
  exact Json.isWhole_iff.mp whole text (toResponse_tells said).mentions

namespace Builder

def shown (tree : FieldTree) (schema : Json) : Json := .obj [("fields",tree.toResponse),("schema",schema)]

-- The schema beside a tree is the compiled one, or null where there is none.
structure Beside (tree : FieldTree) (schema : Json) : Prop where
  unset : schema = .null ↔ tree.isWellFormed = false
  compiled : tree.isWellFormed = true → tree.compile = .ok schema

theorem schemaOrNull_beside (tree : FieldTree) :
    ∃ schema, schemaOrNull tree = .ok schema ∧ Beside tree schema := by
  cases sound : tree.isWellFormed with
  | true =>
    obtain ⟨members,compiled⟩ := FieldTree.compile_passes (FieldTree.isWellFormed_iff.mp sound)
    refine ⟨.obj members,?_,by simp [sound],fun _ => compiled⟩
    rw [schemaOrNull,if_pos sound,compiled]
    rfl
  | false => exact ⟨.null,by simp [schemaOrNull,sound],by simp [sound],by simp [sound]⟩

theorem edit_shown {request : EditRequest} {tree : FieldTree}
    (edited : request.fields.applyEdit request.edit = .ok tree) :
    ∃ schema, edit request = .ok (.ok (shown tree schema)) ∧ Beside tree schema := by
  obtain ⟨schema,given,beside⟩ := schemaOrNull_beside tree
  refine ⟨schema,?_,beside⟩
  rw [edit,edited]
  simp only [given]
  rfl

variable {tree : FieldTree} {schema : Json} (beside : Beside tree schema)
include beside

theorem shown_all (words : ∀ text, Text.isBasic text = true → good text)
    (every : ∀ text, tree.Says text → good text) : (shown tree schema).All good := by
  have own : schema.All good := by
    cases sound : tree.isWellFormed with
    | true =>
      exact FieldTree.compiled_all words every (FieldTree.isWellFormed_iff.mp sound) (beside.compiled sound)
    | false =>
      rw [beside.unset.mpr sound]
      intro text told
      cases told
  have fields := FieldTree.toResponse_all words every
  refine Json.all_obj.mpr ?_
  simp only [List.forall_mem_cons]
  exact ⟨⟨words _ (by decide),fields⟩,⟨words _ (by decide),own⟩,by simp⟩

theorem shown_whole (whole : ∀ text, tree.Says text → text.isWhole = true) :
    (Answer.ok (shown tree schema)).sent = .ok (.ok (shown tree schema)) := by
  have all := shown_all beside (fun text => Text.isWhole_basic) whole
  rw [Answer.ok_sent,Json.recorded_whole all]
  rfl

-- A tree is shown as it is, unless it says something that cannot be told.
theorem shown_sent_iff {given : Answer} :
    (Answer.ok (shown tree schema)).sent = .ok given ↔
      given = .ok (shown tree schema) ∧ ∀ text, tree.Says text → text.isWhole = true := by
  constructor
  · intro sent
    have tellable := Answer.ok_sent_iff.mp ⟨given,sent⟩
    have whole : ∀ text, tree.Says text → text.isWhole = true := by
      intro text said
      exact tellable text (.under "fields" (by simp) (FieldTree.toResponse_tells said))
    rw [shown_whole beside whole] at sent
    exact ⟨(Except.ok.inj sent).symm,whole⟩
  · intro told
    obtain ⟨rfl,whole⟩ := told
    exact shown_whole beside whole

theorem shown_broken (broken : ¬ ∀ text, tree.Says text → text.isWhole = true) :
    ∃ text, tree.Says text ∧ text.isWhole = false ∧
      (Answer.ok (shown tree schema)).sent = .error (.brokenRecord text) := by
  cases recorded : (shown tree schema).recorded with
  | ok told =>
    obtain ⟨given,sent⟩ := Answer.ok_sent_iff.mpr (Json.recorded_ok_iff.mp ⟨told,recorded⟩)
    exact absurd ((shown_sent_iff beside).mp sent).2 broken
  | error text =>
    obtain ⟨told,half⟩ := Json.recorded_error recorded
    refine ⟨text,?_,half,by rw [Answer.ok_sent,recorded]; rfl⟩
    -- Everything told is said by the tree, or else a word that is whole.
    have all : (shown tree schema).All fun text => tree.Says text ∨ Text.isBasic text = true :=
      shown_all beside (fun _ => .inr) fun _ => .inl
    refine (all text told.mentions).resolve_right fun basic => ?_
    cases half.symm.trans (Text.isWhole_basic basic)

end Builder

end ExtractionSchema
