import ExtractionSchema.Field
import ExtractionSchema.Proofs.FieldReading

namespace ExtractionSchema

theorem texts_written (texts : List Text) :
    Accept.tuple Accept.text (.arr (texts.map .str)) = .accepted texts := by
  refine Accept.tuple_accepted_iff.mpr ⟨_,rfl,?_⟩
  exact List.forall₂_map_left_iff.mpr (List.forall₂_same.mpr fun text _ => rfl)

namespace Field

theorem attributeMembers_keys (form : UnsetForm) (attributes : Attributes) :
    ∀ member ∈ attributeMembers form attributes, member.1 ∈ Attributes.keys := by
  obtain ⟨name,required,description,examples⟩ := attributes
  cases description <;> cases form <;> simp [attributeMembers,settable,Attributes.keys]

theorem attributeMembers_lookup {key : Text} (other : key ∉ Attributes.keys) (form : UnsetForm)
    (attributes : Attributes) (rest : List (Text × Json)) :
    (attributeMembers form attributes ++ rest).lookup key = rest.lookup key := by
  have absent : (attributeMembers form attributes).lookup key = none := by
    rw [List.lookup_eq_none_iff]
    intro member found
    simp only [bne_iff_ne,ne_eq]
    rintro rfl
    exact other (attributeMembers_keys form attributes member found)
  simp [List.lookup_append,absent]

-- A description that is left out must not be found further on.
theorem readOver_written (form : UnsetForm) (attributes : Attributes) (rest : List (Text × Json))
    (unsaid : rest.lookup ("description" : Text) = none) :
    Attributes.initial.readOver (attributeMembers form attributes ++ rest) = .accepted attributes := by
  obtain ⟨name,required,description,examples⟩ := attributes
  have texts := texts_written examples
  cases description <;> cases form <;>
    simp [Attributes.readOver,attributeMembers,settable,Accept.member,Accept.optional,Accept.text,
      Accept.flag,Attributes.initial,Verdict.both,Verdict.map,Verdict.within,List.lookup_cons,
      unsaid,texts]

-- The members of a written field: the attributes, the type and what belongs to the type.
def writtenMembers (form : UnsetForm) (attributes : Attributes) (type : FieldType)
    (own : List (Text × Json)) : List (Text × Json) :=
  attributeMembers form attributes ++ tagMember type :: own

theorem readTag_written (form : UnsetForm) (attributes : Attributes) (type : FieldType)
    (own : List (Text × Json)) :
    readTag (writtenMembers form attributes type own) = .accepted type := by
  have tag : (writtenMembers form attributes type own).lookup ("type" : Text) = some (.str type.name) := by
    rw [writtenMembers,attributeMembers_lookup (by decide)]
    simp [tagMember]
  simp [readTag,tag,FieldType.ofName?_name]

theorem writtenMembers_lookup {key : Text} (other : key ∉ ("type" : Text) :: Attributes.keys)
    (form : UnsetForm) (attributes : Attributes) (type : FieldType) (own : List (Text × Json)) :
    (writtenMembers form attributes type own).lookup key = own.lookup key := by
  simp only [List.mem_cons,not_or] at other
  obtain ⟨tag,common⟩ := other
  rw [writtenMembers,attributeMembers_lookup common,tagMember,List.lookup_cons,beq_false_of_ne tag]

-- Nothing that belongs to a type is looked up among the attributes.
theorem readOwn_written (inner : Json → Verdict Field) (form : UnsetForm) (attributes : Attributes)
    (type : FieldType) (own : List (Text × Json)) :
    readOwn inner (writtenMembers form attributes type own) type = readOwn inner own type := by
  have found := fun key (other : key ∉ ("type" : Text) :: Attributes.keys) =>
    writtenMembers_lookup other form attributes type own
  cases type <;> simp only [readOwn,Accept.member,found "format" (by decide),found "items" (by decide),
    found "properties" (by decide)]

theorem writtenMembers_known (form : UnsetForm) (attributes : Attributes) {type : FieldType}
    {own : List (Text × Json)} (keys : ∀ member ∈ own, member.1 ∈ type.ownKeys) :
    ∀ member ∈ writtenMembers form attributes type own, member.1 ∈ type.keys := by
  intro member found
  simp only [writtenMembers,FieldType.keys,List.mem_append,List.mem_cons] at found ⊢
  rcases found with common | rfl | inside
  · exact .inl (attributeMembers_keys form attributes member common)
  · exact .inr (.inl rfl)
  · exact .inr (.inr (keys member inside))

theorem ownKeys_apart (type : FieldType) : ("description" : Text) ∉ type.ownKeys := by
  cases type <;> decide

theorem readWithin_written {room : Nat} {form : UnsetForm} (attributes : Attributes)
    {type : FieldType} {own : List (Text × Json)} {make : Attributes → Field}
    (keys : ∀ member ∈ own, member.1 ∈ type.ownKeys)
    (read : readOwn (readInside room) own type = .accepted make)
    (fits : type.isContainer = true → 0 < room) :
    readWithin room (.obj (writtenMembers form attributes type own))
      = .accepted (make attributes) := by
  have unsaid : (tagMember type :: own).lookup ("description" : Text) = none := by
    rw [List.lookup_eq_none_iff]
    intro member found
    simp only [bne_iff_ne,ne_eq]
    intro same
    rcases List.mem_cons.mp found with rfl | inside
    · simp [tagMember] at same
    · exact ownKeys_apart type (same ▸ keys member inside)
  refine readWithin_accepted_iff.mpr ⟨_,rfl,type,readTag_written form attributes type own,fits,?_⟩
  refine readVariant_accepted_iff.mpr ⟨attributes,readOver_written form attributes _ unsaid,make,?_,rfl,
    writtenMembers_known form attributes keys⟩
  rw [readOwn_written,read]

theorem toJsonAll_map (form : UnsetForm) (fields : List Field) :
    toJsonAll form fields = fields.map (toJson form) := by
  induction fields with
  | nil => rfl
  | cons field rest ih => simp [toJsonAll,ih]

theorem settable_keys (form : UnsetForm) (key : Text) (value : Option Json) :
    ∀ member ∈ settable form key value, member.1 = key := by
  cases value <;> cases form <;> simp [settable]

theorem settable_written {α : Type} (form : UnsetForm) (key : Text) {read : Json → Verdict α}
    {write : α → Json} (value : Option α)
    (back : ∀ inner ∈ value, write inner ≠ .null ∧ read (write inner) = .accepted inner) :
    Accept.member key (Accept.optional read) none (settable form key (value.map write))
      = .accepted value := by
  cases value with
  | none => cases form <;> simp [settable,Accept.member,Accept.optional,Verdict.within]
  | some inner =>
    obtain ⟨present,own⟩ := back inner rfl
    refine Accept.member_accepted_iff.mpr (.inr ⟨write inner,by simp [settable],?_⟩)
    exact Accept.optional_accepted_iff.mpr (.inr ⟨present,inner,own,rfl⟩)

theorem format_written (format : Format) :
    Accept.format (.str format.name) = .accepted format := by
  simp [Accept.format,Accept.oneOf,Format.ofName?_name]

theorem toJson_not_null (form : UnsetForm) (field : Field) : field.toJson form ≠ .null := by
  cases field with
  | array attributes items => cases items <;> simp [toJson]
  | _ => simp [toJson]

mutual
-- The number of fields of any type on the longest chain of fields inside one another.
def height : Field → Nat
  | .string _ _ | .number _ | .boolean _ | .array _ none => 1
  | .array _ (some item) => item.height + 1
  | .object _ properties => heightAmong properties + 1
termination_by structural field => field
def heightAmong : List Field → Nat
  | [] => 0
  | field :: rest => max field.height (heightAmong rest)
termination_by structural fields => fields
end

theorem depth_roomy {field : Field} {room : Nat} (fits : field.depth ≤ room) :
    field.type.isContainer = true → 0 < room := by
  intro container
  have positive : 0 < field.depth := by
    cases field with
    | array attributes items => cases items <;> simp [depth]
    | object => simp [depth]
    | _ => cases container
  exact Nat.lt_of_lt_of_le positive fits

theorem settable_known {form : UnsetForm} {type : FieldType} {key : Text} {value : Option Json}
    (known : key ∈ type.ownKeys) : ∀ member ∈ settable form key value, member.1 ∈ type.ownKeys := by
  intro member found
  rw [settable_keys form key value member found]
  exact known

-- The induction is on the room, which a field inside has one less of.
theorem read_toJson (form : UnsetForm) {field : Field} {room : Nat} (fits : field.depth ≤ room) :
    readWithin room (field.toJson form) = .accepted field := by
  induction room using Nat.strongRecOn generalizing field with
  | ind room ih =>
    have inside : ∀ part : Field, part.depth + 1 ≤ room →
        readInside room (part.toJson form) = .accepted part := by
      intro part fits
      obtain ⟨less,rfl⟩ : ∃ less, room = less + 1 := ⟨room - 1,by omega⟩
      exact ih less (Nat.lt_succ_self less) (Nat.le_of_succ_le_succ fits)
    have roomy := depth_roomy fits
    cases field with
    | string attributes format =>
      have own : readOwn (readInside room) (settable form "format"
          (format.map fun format => .str format.name)) .string
            = .accepted fun attributes => .string attributes format :=
        Verdict.map_accepted_iff.mpr ⟨format,settable_written form "format" format
          fun format _ => ⟨by simp,format_written format⟩,rfl⟩
      exact readWithin_written attributes (settable_known (by decide)) own roomy
    | number attributes => exact readWithin_written attributes (by simp) rfl roomy
    | boolean attributes => exact readWithin_written attributes (by simp) rfl roomy
    | array attributes items =>
      have back : ∀ item ∈ items, item.toJson form ≠ .null ∧
          readInside room (item.toJson form) = .accepted item := by
        rintro item ⟨⟩
        exact ⟨toJson_not_null form item,inside item fits⟩
      have own : readOwn (readInside room) (settable form "items" (items.map (toJson form))) .array
          = .accepted fun attributes => .array attributes items :=
        Verdict.map_accepted_iff.mpr ⟨items,settable_written form "items" items back,rfl⟩
      cases items <;> exact readWithin_written attributes (settable_known (by decide)) own roomy
    | object attributes fields =>
      have among : depthAmong fields + 1 ≤ room := fits
      have members : Accept.tuple (readInside room) (.arr (toJsonAll form fields))
          = .accepted fields := by
        refine Accept.tuple_accepted_iff.mpr ⟨_,rfl,?_⟩
        rw [toJsonAll_map,List.forall₂_map_left_iff,List.forall₂_same]
        intro field member
        have least := depthAmong_le_iff.mp (Nat.le_refl (depthAmong fields)) field member
        exact inside field (by omega)
      have own : readOwn (readInside room) [(("properties" : Text),.arr (toJsonAll form fields))] .object
          = .accepted fun attributes => .object attributes fields :=
        Verdict.map_accepted_iff.mpr ⟨fields,Accept.member_accepted_iff.mpr
          (.inr ⟨_,by simp,members⟩),rfl⟩
      exact readWithin_written attributes (by simp [FieldType.ownKeys]) own roomy

theorem read_toJson_only {form : UnsetForm} {field other : Field} {room : Nat}
    (read : readWithin room (field.toJson form) = .accepted other) : other = field := by
  have wide := readWithin_widen (Nat.le_max_left room field.depth) read
  have back := read_toJson form (Nat.le_max_right room field.depth)
  exact Verdict.accepted.inj (wide.symm.trans back)

theorem read_toJson_iff {form : UnsetForm} {field : Field} {room : Nat} :
    readWithin room (field.toJson form) = .accepted field ↔ field.depth ≤ room :=
  ⟨readWithin_depth,read_toJson form⟩

end Field

namespace FieldTree

theorem parse_ok_iff {raw : Json} {tree : FieldTree} :
    parse raw = .ok tree ↔ ∃ items, raw = .arr items ∧
      List.Forall₂ (fun item field => Field.read item = .accepted field) items tree := by
  rw [parse,Verdict.orTreeError_ok_iff]
  exact Accept.list_accepted_iff

theorem parse_written {form : Field.UnsetForm} {tree : FieldTree} :
    parse (.arr (Field.toJsonAll form tree)) = .ok tree ↔ Field.depthAmong tree ≤ nestingLimit := by
  rw [parse_ok_iff,Field.depthAmong_le_iff]
  simp only [Json.arr.injEq,exists_eq_left',Field.toJsonAll_map,List.forall₂_map_left_iff,
    List.forall₂_same]
  exact forall_congr' fun field => imp_congr_right fun _ => Field.read_toJson_iff

theorem parse_written_only {form : Field.UnsetForm} {tree other : FieldTree}
    (parsed : parse (.arr (Field.toJsonAll form tree)) = .ok other) : other = tree := by
  obtain ⟨items,same,aligned⟩ := parse_ok_iff.mp parsed
  cases same
  rw [Field.toJsonAll_map,List.forall₂_map_left_iff] at aligned
  have equal : List.Forall₂ Eq tree other := aligned.imp fun _ _ read =>
    (Field.read_toJson_only read).symm
  exact (List.forall₂_eq_eq_eq ▸ equal).symm

theorem parse_depth {raw : Json} {tree : FieldTree} (parsed : parse raw = .ok tree) :
    Field.depthAmong tree ≤ nestingLimit := by
  obtain ⟨items,_,aligned⟩ := parse_ok_iff.mp parsed
  refine Field.depthAmong_le_iff.mpr fun field member => ?_
  obtain ⟨item,_,read⟩ := aligned_source aligned field member
  exact Field.readWithin_depth read

-- Arrays in one another, the innermost without items.
def stacked : Nat → Field
  | 0 => .array .initial none
  | layers + 1 => .array .initial (some (stacked layers))

theorem stacked_depth (layers : Nat) : (stacked layers).depth = layers + 1 := by
  induction layers with
  | zero => rfl
  | succ layers ih => rw [stacked,Field.depth,ih]

theorem stacked_height (layers : Nat) : (stacked layers).height = layers + 1 := by
  induction layers with
  | zero => rfl
  | succ layers ih => rw [stacked,Field.height,ih]

-- An object as a client may send it: a word for a flag, an empty description, the format `none`, no
-- examples, and one array without items.
def looseObject : Json :=
  .arr [.obj [("type",.str "object"),("name",.str "order"),("required",.str "Yes"),
    ("description",.str ""),("properties",.arr [
      .obj [("items",.obj [("type",.str "string"),("format",.str "none"),("examples",.arr [])]),
        ("type",.str "array"),("name",.str "lines")],
      .obj [("name",.str "notes"),("type",.str "array"),("items",.null)]])]]

def readObject : FieldTree :=
  [.object ⟨"order",true,some "",[]⟩ [
    .array ⟨"lines",true,none,[]⟩ (some (.string .initial (some .none))),
    .array ⟨"notes",true,none,[]⟩ none]]

end FieldTree

end ExtractionSchema
