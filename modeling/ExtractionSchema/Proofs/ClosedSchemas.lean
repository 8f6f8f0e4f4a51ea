import ExtractionSchema.Proofs.Places
import ExtractionSchema.Proofs.Recovery
import ExtractionSchema.Proofs.Validation

namespace ExtractionSchema

namespace Schema

-- A key that may be left out, and that goes with a value of one kind where it stands.
inductive Optional (key : Text) (fits : Json → Prop) : List (Text × Json) → Prop where
  | absent : Optional key fits []
  | present {value} (fit : fits value) : Optional key fits [(key,value)]

def Describes (value : Json) : Prop := ∃ text : Text, text ≠ "" ∧ value = .str text

def Hints (value : Json) : Prop :=
  ∃ format : Text, format ∈ (["email","date","phone","currency","address"] : List Text) ∧
    value = .str format

def Exemplifies (value : Json) : Prop :=
  ∃ texts : List Text, texts ≠ [] ∧ value = .arr (texts.map .str)

-- Some of the names, in their order.
def Demands (names : List Text) (value : Json) : Prop :=
  ∃ demanded : List Text, demanded ≠ [] ∧ demanded.Nodup ∧ demanded.Sublist names ∧
    value = .arr (demanded.map .str)

-- What a fragment begins with. A format is for texts only.
inductive Headed (type : FieldType) : List (Text × Json) → Prop where
  | keys {description format examples}
      (described : Optional "description" Describes description)
      (formatted : Optional "format" Hints format) (own : format ≠ [] → type = .string)
      (exemplified : Optional "examples" Exemplifies examples) :
      Headed type ((("type" : Text),.str type.name) :: description ++ format ++ examples)

inductive Fragment : Json → Prop where
  | scalar {type head} (scalar : type = .string ∨ type = .number ∨ type = .boolean)
      (headed : Headed type head) : Fragment (.obj head)
  | array {head items} (headed : Headed .array head) (inner : Fragment items) :
      Fragment (.obj (head ++ [(("items" : Text),items)]))
  | object {head properties required} (headed : Headed .object head)
      (distinct : (Entries.keys properties).Nodup)
      (visible : ∀ name ∈ Entries.keys properties, ∃ code ∈ name.codes, code.isBlank = false)
      (inner : ∀ property ∈ properties, Fragment property.2)
      (demanded : Optional "required" (Demands (Entries.keys properties)) required) :
      Fragment (.obj (head ++ ((("properties" : Text),.obj properties) :: required
        ++ [(("additionalProperties" : Text),.bool false)])))

structure Root (schema : Json) : Prop where
  fragment : Fragment schema
  object : schema.members.lookup ("type" : Text) = some (.str "object")
  undescribed : schema.members.lookup ("description" : Text) = none
  unexemplified : schema.members.lookup ("examples" : Text) = none

theorem optional_described {members : List (Text × Json)} :
    Optional "description" Describes members ↔ ∃ description, described description = members := by
  constructor
  · intro optional
    cases optional with
    | absent => exact ⟨none,rfl⟩
    | present fit =>
      obtain ⟨text,some,rfl⟩ := fit
      exact ⟨text,by simp [described,some]⟩
  · intro written
    obtain ⟨description,rfl⟩ := written
    unfold described
    split
    · split
      · exact .absent
      · next some => exact .present ⟨_,by simpa using some,rfl⟩
    · exact .absent

theorem optional_formatted {members : List (Text × Json)} :
    Optional "format" Hints members ↔ ∃ format, formatted format = members := by
  constructor
  · intro optional
    cases optional with
    | absent => exact ⟨none,rfl⟩
    | present fit =>
      obtain ⟨name,known,rfl⟩ := fit
      simp only [List.mem_cons,List.not_mem_nil,or_false] at known
      rcases known with rfl | rfl | rfl | rfl | rfl
      · exact ⟨some .email,rfl⟩
      · exact ⟨some .date,rfl⟩
      · exact ⟨some .phone,rfl⟩
      · exact ⟨some .currency,rfl⟩
      · exact ⟨some .address,rfl⟩
  · intro written
    obtain ⟨format,rfl⟩ := written
    rcases format with _ | format
    · exact .absent
    · cases format with
      | none => exact .absent
      | _ => exact .present ⟨_,by decide,rfl⟩

theorem optional_exemplified {members : List (Text × Json)} :
    Optional "examples" Exemplifies members ↔ ∃ examples, exemplified examples = members := by
  constructor
  · intro optional
    cases optional with
    | absent => exact ⟨[],rfl⟩
    | present fit =>
      obtain ⟨texts,some,rfl⟩ := fit
      exact ⟨texts,by simp [exemplified,some]⟩
  · intro written
    obtain ⟨examples,rfl⟩ := written
    unfold exemplified
    split
    · exact .absent
    · next some => exact .present ⟨examples,by simpa using some,rfl⟩

theorem headed_iff {type : FieldType} {head : List (Text × Json)} :
    Headed type head ↔ ∃ description examples format, (formatted format ≠ [] → type = .string) ∧
      ∀ name required, heading type ⟨name,required,description,examples⟩ format = head := by
  constructor
  · intro headed
    obtain ⟨said,hinted,own,sampled⟩ := headed
    obtain ⟨description,rfl⟩ := optional_described.mp said
    obtain ⟨format,rfl⟩ := optional_formatted.mp hinted
    obtain ⟨examples,rfl⟩ := optional_exemplified.mp sampled
    exact ⟨description,examples,format,own,fun name required => rfl⟩
  · intro common
    obtain ⟨description,examples,format,own,same⟩ := common
    rw [← same "" true]
    exact .keys (optional_described.mpr ⟨_,rfl⟩) (optional_formatted.mpr ⟨_,rfl⟩) own
      (optional_exemplified.mpr ⟨_,rfl⟩)

theorem headed_unhinted {type : FieldType} {head : List (Text × Json)} (headed : Headed type head)
    (other : type ≠ .string) : ∃ description examples,
      ∀ name required, heading type ⟨name,required,description,examples⟩ none = head := by
  obtain ⟨description,examples,format,own,same⟩ := headed_iff.mp headed
  have plain : formatted format = formatted none := by_contra fun hinted => other (own hinted)
  refine ⟨description,examples,fun name required => ?_⟩
  rw [← same name required,heading,heading,plain]

theorem heading_headed {type : FieldType} (attributes : Attributes) {format : Option Format}
    (own : formatted format ≠ [] → type = .string) : Headed type (heading type attributes format) :=
  headed_iff.mpr ⟨_,_,format,own,fun _ _ => rfl⟩

theorem optional_demanded {names : List Text} {members : List (Text × Json)} :
    Optional "required" (Demands names) members ↔
      ∃ demanded : List Text, demanded.Nodup ∧ demanded.Sublist names ∧
        (if demanded.isEmpty then [] else [(("required" : Text),.arr (demanded.map .str))]) = members := by
  constructor
  · intro optional
    cases optional with
    | absent => exact ⟨[],List.nodup_nil,List.nil_sublist names,rfl⟩
    | present fit =>
      obtain ⟨demanded,some,distinct,inside,rfl⟩ := fit
      exact ⟨demanded,distinct,inside,by simp [some]⟩
  · intro written
    obtain ⟨demanded,distinct,inside,rfl⟩ := written
    split
    · exact .absent
    · next some => exact .present ⟨demanded,by simpa using some,distinct,inside,rfl⟩

-- A fragment belongs to a field of any name, required or not.
def Attained (schema : Json) : Prop :=
  ∀ name required, ∃ field : Field, field.name = name ∧ field.required = required ∧
    SoundInside field ∧ fragment field = .ok schema

theorem fields_attained {properties : List (Text × Json)} (flag : Text → Bool)
    (each : ∀ property ∈ properties, Attained property.2) :
    ∃ fields, List.Forall₂ Becomes fields properties ∧
      ∀ field ∈ fields, SoundInside field ∧ field.required = flag field.name := by
  induction properties with
  | nil => exact ⟨[],.nil,by simp⟩
  | cons property rest ih =>
    obtain ⟨attained,others⟩ := List.forall_mem_cons.mp each
    obtain ⟨field,named,required,sound,compiled⟩ := attained property.1 (flag property.1)
    obtain ⟨fields,aligned,known⟩ := ih others
    refine ⟨field :: fields,.cons ⟨named.symm,compiled⟩ aligned,?_⟩
    exact List.forall_mem_cons.mpr ⟨⟨sound,named ▸ required⟩,known⟩

theorem requiredNames_flagged {fields : List Field} {flag : Text → Bool}
    (flagged : ∀ field ∈ fields, field.required = flag field.name) :
    requiredNames fields = (fields.map (·.name)).filter flag := by
  rw [requiredNames,List.filter_map]
  exact congrArg _ (List.filter_congr flagged)

theorem sublist_filter {picked names : List Text} (distinct : names.Nodup)
    (inside : picked.Sublist names) : names.filter (picked.contains ·) = picked := by
  induction inside with
  | slnil => rfl
  | @cons picked names name inside ih =>
    obtain ⟨apart,others⟩ := List.nodup_cons.mp distinct
    have absent : name ∉ picked := fun present => apart (inside.subset present)
    simpa [absent] using ih others
  | @cons_cons picked names name inside ih =>
    obtain ⟨apart,others⟩ := List.nodup_cons.mp distinct
    have same : names.filter ((name :: picked).contains ·) = names.filter (picked.contains ·) := by
      apply List.filter_congr
      intro other member
      have different : other ≠ name := fun equal => apart (equal ▸ member)
      simp [different]
    rw [List.filter_cons_of_pos (by simp),same,ih others]

-- The object whose fields are behind the properties, with the demanded ones required.
theorem object_attained (attributes : Attributes) {properties : List (Text × Json)}
    {demanded : List Text} (distinct : (Entries.keys properties).Nodup)
    (visible : ∀ name ∈ Entries.keys properties, ∃ code ∈ name.codes, code.isBlank = false)
    (each : ∀ property ∈ properties, Attained property.2)
    (inside : demanded.Sublist (Entries.keys properties)) :
    ∃ fields, SoundInside (.object attributes fields) ∧ requiredNames fields = demanded ∧
      fragment (.object attributes fields)
        = .ok (.obj (heading .object attributes none ++ closedPart fields properties)) := by
  obtain ⟨fields,aligned,known⟩ := fields_attained (demanded.contains ·) each
  have names := becomes_keys aligned
  rw [names] at distinct visible inside
  refine ⟨fields,⟨soundAmong_iff.mpr ?_,distinct⟩,?_,?_⟩
  · intro field member
    have seen := visible field.name (List.mem_map_of_mem member)
    exact ⟨Text.isBlankText_eq_false_iff.mpr seen,(known field member).1⟩
  · rw [requiredNames_flagged fun field member => (known field member).2]
    exact sublist_filter distinct inside
  · exact (fragment_object distinct).mpr ⟨properties,aligned,rfl⟩

theorem fragment_attained {schema : Json} (grammar : Fragment schema) : Attained schema := by
  induction grammar with
  | @scalar type head scalar headed =>
    intro name required
    rcases scalar with rfl | rfl | rfl
    · obtain ⟨description,examples,format,_,same⟩ := headed_iff.mp headed
      refine ⟨.string ⟨name,required,description,examples⟩ format,rfl,rfl,trivial,?_⟩
      rw [fragment,same]
    · obtain ⟨description,examples,same⟩ := headed_unhinted headed (by decide)
      refine ⟨.number ⟨name,required,description,examples⟩,rfl,rfl,trivial,?_⟩
      rw [fragment,same]
    · obtain ⟨description,examples,same⟩ := headed_unhinted headed (by decide)
      refine ⟨.boolean ⟨name,required,description,examples⟩,rfl,rfl,trivial,?_⟩
      rw [fragment,same]
  | @array head items headed inner ih =>
    intro name required
    obtain ⟨description,examples,same⟩ := headed_unhinted headed (by decide)
    obtain ⟨item,_,_,sound,compiled⟩ := ih "" true
    refine ⟨.array ⟨name,required,description,examples⟩ (some item),rfl,rfl,sound,?_⟩
    rw [fragment_array]
    exact ⟨items,compiled,by rw [same]⟩
  | @object head properties _ headed distinct visible inner demanded ih =>
    intro name required
    obtain ⟨description,examples,same⟩ := headed_unhinted headed (by decide)
    obtain ⟨names,_,inside,rfl⟩ := optional_demanded.mp demanded
    obtain ⟨fields,sound,flagged,compiled⟩ :=
      object_attained ⟨name,required,description,examples⟩ distinct visible ih inside
    refine ⟨_,rfl,rfl,sound,?_⟩
    rw [compiled,same,closedPart,flagged]

theorem fragment_sound {field : Field} (sound : SoundInside field) {schema : Json}
    (compiled : fragment field = .ok schema) : Fragment schema := by
  refine fragment_induction (P := fun field schema => SoundInside field → Fragment schema)
    ?_ ?_ ?_ ?_ ?_ sound compiled sound
  · intro attributes format _
    exact .scalar (.inl rfl) (heading_headed attributes fun _ => rfl)
  · intro attributes _
    exact .scalar (.inr (.inl rfl)) (heading_headed attributes fun own => absurd rfl own)
  · intro attributes _
    exact .scalar (.inr (.inr rfl)) (heading_headed attributes fun own => absurd rfl own)
  · intro attributes item items inner within
    exact .array (heading_headed attributes fun own => absurd rfl own) (inner within)
  · intro attributes fields properties distinct keys inner within
    have each := soundAmong_iff.mp within.1
    refine .object (heading_headed attributes fun own => absurd rfl own) (keys ▸ distinct) ?_ ?_ ?_
    · intro name member
      rw [keys] at member
      obtain ⟨field,found,rfl⟩ := List.mem_map.mp member
      exact Text.isBlankText_eq_false_iff.mp (each field found).1
    · intro property member
      obtain ⟨field,found,own⟩ := aligned_source inner property member
      exact own.2 (each field found).2
    · refine optional_demanded.mpr ⟨requiredNames fields,?_,?_,rfl⟩
      · exact distinct.sublist (requiredNames_sublist fields)
      · exact keys ▸ requiredNames_sublist fields

theorem heading_bare_iff {type : FieldType} {attributes : Attributes}
    {rest : List (Text × Json)} (separate : Unannotated rest) :
    (heading type attributes none ++ rest).lookup ("description" : Text) = none ∧
      (heading type attributes none ++ rest).lookup ("examples" : Text) = none ↔
        heading type attributes none = heading type .initial none := by
  rw [heading_description separate,heading_examples separate,Option.map_eq_none_iff]
  constructor
  · intro bare
    have unsampled : attributes.examples = [] := exemplified_exact bare.2
    rw [← heading_normalise type attributes none,heading,heading,bare.1]
    rw [Attributes.normalise,unsampled]
    rfl
  · intro same
    have whole := congrArg (· ++ rest) same
    obtain ⟨said,_,sampled,_⟩ := heading_exact separate separate whole
    rw [said,sampled]
    exact ⟨rfl,rfl⟩

-- Whether the object is a root depends on its annotations alone.
theorem root_iff {attributes : Attributes} {fields : List Field} {schema : Json}
    (sound : SoundInside (.object attributes fields))
    (compiled : fragment (.object attributes fields) = .ok schema) :
    Root schema ↔ heading .object attributes none = heading .object .initial none := by
  have grammar := fragment_sound sound compiled
  obtain ⟨properties,_,rfl⟩ := (fragment_object sound.2).mp compiled
  rw [← heading_bare_iff (closedPart_unannotated fields properties)]
  constructor
  · intro whole
    exact ⟨whole.undescribed,whole.unexemplified⟩
  · intro bare
    exact ⟨grammar,rfl,bare.1,bare.2⟩

end Schema

theorem FieldTree.compile_image (schema : Json) :
    (∃ tree : FieldTree, tree.WellFormed ∧ tree.compile = .ok schema) ↔ Schema.Root schema := by
  constructor
  · intro given
    obtain ⟨tree,sound,compiled⟩ := given
    rw [compile_wellFormed sound] at compiled
    exact (Schema.root_iff sound.inside compiled).mpr rfl
  · intro whole
    obtain ⟨field,_,_,sound,compiled⟩ := Schema.fragment_attained whole.fragment "" true
    obtain ⟨rest,front⟩ := Schema.fragment_type compiled
    have object : field.type = .object := by
      have said := whole.object
      rw [front,Json.members,List.lookup_cons_self,Option.some.injEq,Json.str.injEq] at said
      exact FieldType.name_injective (Text.ofString_inj.mp said)
    cases field with
    | object attributes fields =>
      have same := (Schema.root_iff sound compiled).mp whole
      have formed : FieldTree.WellFormed fields := sound
      refine ⟨fields,formed,?_⟩
      rw [compile_wellFormed formed,← compiled,Schema.fragment,Schema.fragment,same]
    | _ => cases object

end ExtractionSchema
