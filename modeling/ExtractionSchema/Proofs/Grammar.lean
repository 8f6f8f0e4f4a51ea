import ExtractionSchema.Proofs.Entries
import ExtractionSchema.Proofs.Nesting
import ExtractionSchema.Proofs.Payloads

namespace ExtractionSchema

-- The words for a flag, in letters of either case.
def flagWords : Bool → List String
  | false => ["0","off","f","false","n","no"]
  | true => ["1","on","t","true","y","yes"]

inductive Flags : Json → Bool → Prop where
  | truth {value} : Flags (.bool value) value
  | integer {value : Bool} : Flags (.int value.toInt) value
  | float {value number} (same : number.toInt? = some value.toInt) : Flags (.float number) value
  | word {value} {word : String} (known : Text.lowerAscii word ∈ flagWords value) : Flags (.str word) value

-- What is unset may be written as null.
def orNull {α : Type} (write : α → Json) : Option α → Json
  | none => .null
  | some value => write value

-- What is stated under a key, or what is taken for it where the key is absent.
def Stated {α : Type} (members : List (Text × Json)) (key : Text) (absent : α)
    (speaks : Json → α → Prop) (value : α) : Prop :=
  (members.lookup key = none ∧ absent = value) ∨
    ∃ raw, members.lookup key = some raw ∧ speaks raw value

structure Attributes.Spoken (members : List (Text × Json)) (attributes : Attributes) : Prop where
  name : Stated members "name" ("" : Text) (fun raw name => raw = .str name) attributes.name
  required : Stated members "required" true Flags attributes.required
  description : Stated members "description" none (fun raw said => raw = orNull .str said)
    attributes.description
  examples : Stated members "examples" [] (fun raw texts => raw = .arr (texts.map .str))
    attributes.examples

-- What fields of the type have, beside what some extra key may say.
structure Attributes.Heads (type : FieldType) (extra : List Text) (members : List (Text × Json))
    (attributes : Attributes) : Prop extends Attributes.Spoken members attributes where
  tag : members.lookup ("type" : Text) = some (.str type.name)
  known : ∀ key ∈ Entries.keys members,
    key ∈ (["name","required","description","examples","type"] : List Text) ++ extra

inductive Field.Denotes : Json → Field → Prop where
  | string {members attributes format} (head : attributes.Heads .string ["format"] members)
      (own : Stated members "format" none
        (fun raw format => raw = orNull (fun format => .str format.name) format) format) :
      Denotes (.obj members) (.string attributes format)
  | number {members attributes} (head : attributes.Heads .number [] members) :
      Denotes (.obj members) (.number attributes)
  | boolean {members attributes} (head : attributes.Heads .boolean [] members) :
      Denotes (.obj members) (.boolean attributes)
  | bare {members attributes} (head : attributes.Heads .array ["items"] members)
      (unset : ∀ raw, members.lookup ("items" : Text) = some raw → raw = .null) :
      Denotes (.obj members) (.array attributes none)
  | array {members attributes raw item} (head : attributes.Heads .array ["items"] members)
      (present : members.lookup ("items" : Text) = some raw) (inner : Denotes raw item) :
      Denotes (.obj members) (.array attributes (some item))
  | empty {members attributes} (head : attributes.Heads .object ["properties"] members)
      (absent : members.lookup ("properties" : Text) = none) : Denotes (.obj members) (.object attributes [])
  | object {members attributes items properties}
      (head : attributes.Heads .object ["properties"] members)
      (present : members.lookup ("properties" : Text) = some (.arr items))
      (inner : List.Forall₂ Denotes items properties) :
      Denotes (.obj members) (.object attributes properties)

namespace Accept

theorem flagOfInt_accepted_iff {n : Int} {value : Bool} :
    flagOfInt n = .accepted value ↔ n = value.toInt := by
  unfold flagOfInt
  cases value
  · split
    · next zero => simp [zero]
    · next other => split <;> simp [other,Verdict.reject]
  · split
    · next zero => simp [zero]
    · split <;> simp_all [Verdict.reject]

theorem flagWord_some_iff {word : String} {value : Bool} :
    flagWord? word = some value ↔ Text.lowerAscii word ∈ flagWords value := by
  have apart : ∀ lower ∈ flagWords false, lower ∉ flagWords true := by decide
  have choice : flagWord? word = if Text.lowerAscii word ∈ flagWords true then some true
      else if Text.lowerAscii word ∈ flagWords false then some false else none := by
    simp only [flagWord?,List.contains_iff_mem]
    rfl
  rw [choice]
  by_cases yes : Text.lowerAscii word ∈ flagWords true
  · have other : Text.lowerAscii word ∉ flagWords false := fun no => apart _ no yes
    cases value <;> simp [yes,other]
  · by_cases no : Text.lowerAscii word ∈ flagWords false
    · cases value <;> simp [yes,no]
    · cases value <;> simp [yes,no]

theorem flag_accepted_iff {raw : Json} {value : Bool} :
    flag raw = .accepted value ↔ Flags raw value := by
  constructor
  · intro read
    cases raw with
    | bool given =>
      cases read
      exact .truth
    | int n =>
      by_cases fits : fitsWord n = true
      · rw [flag,if_pos fits] at read
        rw [flagOfInt_accepted_iff.mp read]
        exact .integer
      · simp [flag,fits,Verdict.reject] at read
    | float number =>
      cases whole : number.toInt? with
      | none => simp [flag,whole,Verdict.reject] at read
      | some n =>
        by_cases fits : insideWord n = true
        · simp only [flag,whole,fits,if_true] at read
          exact .float (flagOfInt_accepted_iff.mp read ▸ whole)
        · simp [flag,whole,fits,Verdict.reject] at read
    | str text =>
      cases whole : text.string? with
      | none => simp [flag,whole,Verdict.reject] at read
      | some word =>
        rw [Text.string?_some_iff.mp whole]
        cases known : flagWord? word with
        | none => simp [flag,whole,known,Verdict.reject] at read
        | some given =>
          simp only [flag,whole,known,Verdict.accepted.injEq] at read
          exact .word (flagWord_some_iff.mp (read ▸ known))
    | _ => cases read
  · intro given
    have fits : fitsWord value.toInt = true ∧ insideWord value.toInt = true := by
      cases value <;> decide
    cases given with
    | truth => rfl
    | integer => rw [flag,if_pos fits.1,flagOfInt_accepted_iff]
    | float same => simp only [flag,same,fits.2,if_true,flagOfInt_accepted_iff]
    | word known => simp [flag,flagWord_some_iff.mpr known]

theorem member_stated_iff {α : Type} {key : Text} {read : Json → Verdict α} {absent value : α}
    {members : List (Text × Json)} {speaks : Json → α → Prop}
    (reads : ∀ raw value, read raw = .accepted value ↔ speaks raw value) :
    member key read absent members = .accepted value ↔ Stated members key absent speaks value := by
  rw [member_accepted_iff,Stated]
  simp only [reads]

theorem optional_orNull_iff {α : Type} {read : Json → Verdict α} {write : α → Json}
    (reads : ∀ raw value, read raw = .accepted value ↔ raw = write value)
    (some : ∀ value, write value ≠ .null) {raw : Json} {result : Option α} :
    optional read raw = .accepted result ↔ raw = orNull write result := by
  rw [optional_accepted_iff]
  cases result with
  | none => simp [orNull]
  | some value =>
    simp only [reads,orNull,Option.some.injEq,reduceCtorEq,and_false,false_or,exists_eq_right]
    exact and_iff_right_of_imp fun same => same ▸ some value

theorem texts_accepted_iff {raw : Json} {texts : List Text} :
    tuple text raw = .accepted texts ↔ raw = .arr (texts.map .str) := by
  constructor
  · intro read
    obtain ⟨items,rfl,aligned⟩ := tuple_accepted_iff.mp read
    have equal : List.Forall₂ Eq items (texts.map .str) :=
      List.forall₂_map_right_iff.mpr (aligned.imp fun _ _ => text_accepted_iff.mp)
    exact congrArg Json.arr (List.forall₂_eq_eq_eq ▸ equal)
  · intro same
    rw [same]
    exact texts_written texts

theorem format_accepted_iff {raw : Json} {value : Format} :
    format raw = .accepted value ↔ raw = .str value.name := by
  rw [format,oneOf_accepted_iff]
  constructor
  · intro known
    obtain ⟨name,same,found⟩ := known
    have own := List.find?_some found
    rw [same,beq_iff_eq.mp own]
  · intro same
    exact ⟨value.name,same,Format.ofName?_name value⟩

end Accept

namespace Attributes

theorem readOver_spoken_iff {members : List (Text × Json)} {attributes : Attributes} :
    initial.readOver members = .accepted attributes ↔ attributes.Spoken members := by
  rw [readOver_accepted_iff,Accept.member_stated_iff fun _ _ => Accept.text_accepted_iff,
    Accept.member_stated_iff fun _ _ => Accept.flag_accepted_iff,
    Accept.member_stated_iff fun _ _ => Accept.optional_orNull_iff
      (fun _ _ => Accept.text_accepted_iff) (fun _ => Json.noConfusion),
    Accept.member_stated_iff fun _ _ => Accept.texts_accepted_iff]
  constructor
  · intro parts
    obtain ⟨name,required,description,examples⟩ := parts
    exact ⟨name,required,description,examples⟩
  · intro spoken
    exact ⟨spoken.name,spoken.required,spoken.description,spoken.examples⟩

theorem heads_iff {type : FieldType} {members : List (Text × Json)} {attributes : Attributes} :
    attributes.Heads type type.ownKeys members ↔
      readTag members = .accepted type ∧ initial.readOver members = .accepted attributes ∧
        ∀ member ∈ members, member.1 ∈ type.keys := by
  have known : (∀ key ∈ Entries.keys members,
      key ∈ (["name","required","description","examples","type"] : List Text) ++ type.ownKeys) ↔
        ∀ member ∈ members, member.1 ∈ type.keys := List.forall_mem_map
  rw [readTag_accepted_iff,readOver_spoken_iff,← known]
  constructor
  · intro head
    exact ⟨head.tag,head.toSpoken,head.known⟩
  · intro parts
    obtain ⟨tag,spoken,keys⟩ := parts
    exact ⟨spoken,tag,keys⟩

end Attributes

namespace Field

theorem readWithin_heads_iff {room : Nat} {raw : Json} {field : Field} :
    readWithin room raw = .accepted field ↔ ∃ members, raw = .obj members ∧
      ∃ type attributes, attributes.Heads type type.ownKeys members ∧
        (type.isContainer = true → 0 < room) ∧
          ∃ make, readOwn (readInside room) members type = .accepted make ∧ make attributes = field := by
  rw [readWithin_accepted_iff]
  refine exists_congr fun members => and_congr_right fun _ => exists_congr fun type => ?_
  rw [readVariant_accepted_iff]
  constructor
  · intro read
    obtain ⟨tag,fits,attributes,common,make,own,made,known⟩ := read
    exact ⟨attributes,Attributes.heads_iff.mpr ⟨tag,common,known⟩,fits,make,own,made⟩
  · intro given
    obtain ⟨attributes,head,fits,make,own,made⟩ := given
    obtain ⟨tag,common,known⟩ := Attributes.heads_iff.mp head
    exact ⟨tag,fits,attributes,common,make,own,made,known⟩

theorem format_stated_iff {members : List (Text × Json)} {format : Option Format} :
    Accept.member "format" (Accept.optional Accept.format) none members = .accepted format ↔
      Stated members "format" none
        (fun raw format => raw = orNull (fun format => .str format.name) format) format :=
  Accept.member_stated_iff fun _ _ =>
    Accept.optional_orNull_iff (fun _ _ => Accept.format_accepted_iff) (fun _ => Json.noConfusion)

theorem denotes_of_read {room : Nat} {raw : Json} {field : Field}
    (read : readWithin room raw = .accepted field) : Denotes raw field := by
  induction room using Nat.strongRecOn generalizing raw field with
  | ind room ih =>
    obtain ⟨members,rfl,type,attributes,head,_,make,own,rfl⟩ := readWithin_heads_iff.mp read
    have inside : ∀ raw field, readInside room raw = .accepted field → Denotes raw field := by
      intro raw field inner
      obtain ⟨less,rfl,inner⟩ := readInside_accepted_iff.mp inner
      exact ih less (Nat.lt_succ_self less) inner
    cases type with
    | string =>
      obtain ⟨format,present,rfl⟩ := Verdict.map_accepted_iff.mp own
      exact .string head (format_stated_iff.mp present)
    | number =>
      cases own
      exact .number head
    | boolean =>
      cases own
      exact .boolean head
    | array =>
      obtain ⟨items,present,rfl⟩ := Verdict.map_accepted_iff.mp own
      rcases Accept.member_accepted_iff.mp present with ⟨absent,rfl⟩ | ⟨raw,found,read⟩
      · exact .bare head (by simp [absent])
      · rcases Accept.optional_accepted_iff.mp read with ⟨rfl,rfl⟩ | ⟨_,item,inner,rfl⟩
        · exact .bare head (by simp [found])
        · exact .array head found (inside raw item inner)
    | object =>
      obtain ⟨properties,present,rfl⟩ := Verdict.map_accepted_iff.mp own
      rcases Accept.member_accepted_iff.mp present with ⟨absent,rfl⟩ | ⟨raw,found,read⟩
      · exact .empty head absent
      · obtain ⟨items,rfl,aligned⟩ := Accept.tuple_accepted_iff.mp read
        exact .object head found (aligned.imp inside)

theorem Denotes.object_only {raw : Json} {field : Field} (denotes : Denotes raw field) :
    ∃ members, raw = .obj members := by
  cases denotes <;> exact ⟨_,rfl⟩

section

variable {inner : Json → Verdict Field} {members : List (Text × Json)}

theorem readOwn_string {format : Option Format} (stated : Stated members "format" none
    (fun raw format => raw = orNull (fun format => .str format.name) format) format) :
    readOwn inner members .string = .accepted fun attributes => .string attributes format :=
  Verdict.map_accepted_iff.mpr ⟨format,format_stated_iff.mpr stated,rfl⟩

theorem readOwn_bare (unset : ∀ raw, members.lookup ("items" : Text) = some raw → raw = .null) :
    readOwn inner members .array = .accepted fun attributes => .array attributes none := by
  refine Verdict.map_accepted_iff.mpr ⟨none,Accept.member_accepted_iff.mpr ?_,rfl⟩
  cases found : members.lookup ("items" : Text) with
  | none => exact .inl ⟨rfl,rfl⟩
  | some raw => exact .inr ⟨raw,rfl,Accept.optional_accepted_iff.mpr (.inl ⟨unset raw found,rfl⟩)⟩

theorem readOwn_array {raw : Json} {item : Field} (present : members.lookup ("items" : Text) = some raw)
    (filled : raw ≠ .null) (read : inner raw = .accepted item) :
    readOwn inner members .array = .accepted fun attributes => .array attributes (some item) := by
  have items := Accept.optional_accepted_iff.mpr (.inr ⟨filled,item,read,rfl⟩)
  exact Verdict.map_accepted_iff.mpr
    ⟨some item,Accept.member_accepted_iff.mpr (.inr ⟨raw,present,items⟩),rfl⟩

theorem readOwn_empty (absent : members.lookup ("properties" : Text) = none) :
    readOwn inner members .object = .accepted fun attributes => .object attributes [] :=
  Verdict.map_accepted_iff.mpr ⟨[],Accept.member_accepted_iff.mpr (.inl ⟨absent,rfl⟩),rfl⟩

theorem readOwn_object {items : List Json} {properties : List Field}
    (present : members.lookup ("properties" : Text) = some (.arr items))
    (read : List.Forall₂ (fun item field => inner item = .accepted field) items properties) :
    readOwn inner members .object = .accepted fun attributes => .object attributes properties := by
  have whole := Accept.tuple_accepted_iff.mpr ⟨items,rfl,read⟩
  exact Verdict.map_accepted_iff.mpr
    ⟨properties,Accept.member_accepted_iff.mpr (.inr ⟨_,present,whole⟩),rfl⟩

end

-- The induction is on the room: a field inside another one needs one place less.
theorem Denotes.read {room : Nat} {raw : Json} {field : Field} (denotes : Denotes raw field)
    (fits : field.depth ≤ room) : readWithin room raw = .accepted field := by
  induction room using Nat.strongRecOn generalizing raw field with
  | ind room ih =>
    have inside : ∀ raw part, Denotes raw part → part.depth + 1 ≤ room →
        readInside room raw = .accepted part := by
      intro raw part inner fits
      obtain ⟨less,rfl⟩ : ∃ less, room = less + 1 := ⟨room - 1,by omega⟩
      exact ih less (Nat.lt_succ_self less) inner (Nat.le_of_succ_le_succ fits)
    have roomy := depth_roomy fits
    apply readWithin_heads_iff.mpr
    cases denotes with
    | string head own => exact ⟨_,rfl,.string,_,head,roomy,_,readOwn_string own,rfl⟩
    | number head => exact ⟨_,rfl,.number,_,head,roomy,_,rfl,rfl⟩
    | boolean head => exact ⟨_,rfl,.boolean,_,head,roomy,_,rfl,rfl⟩
    | bare head unset => exact ⟨_,rfl,.array,_,head,roomy,_,readOwn_bare unset,rfl⟩
    | array head present inner =>
      have read := inside _ _ inner fits
      obtain ⟨members,same⟩ := inner.object_only
      have filled : Json.obj members ≠ .null := Json.noConfusion
      exact ⟨_,rfl,.array,_,head,roomy,_,readOwn_array present (same ▸ filled) read,rfl⟩
    | empty head absent => exact ⟨_,rfl,.object,_,head,roomy,_,readOwn_empty absent,rfl⟩
    | @object _ _ items properties head present inner =>
      have among : depthAmong properties + 1 ≤ room := fits
      have within : ∀ property ∈ properties, property.depth + 1 ≤ room := fun property member =>
        Nat.le_trans (Nat.succ_le_succ (depthAmong_le_iff.mp (Nat.le_refl _) property member)) among
      have paired := (List.forall₂_and_left properties items).mpr ⟨within,inner.flip⟩
      have read : List.Forall₂ (fun item property => readInside room item = .accepted property)
          items properties := (paired.imp fun property item both => inside item property both.2 both.1).flip
      exact ⟨_,rfl,.object,_,head,roomy,_,readOwn_object present read,rfl⟩

theorem readWithin_denotes_iff {room : Nat} {raw : Json} {field : Field} :
    readWithin room raw = .accepted field ↔ Denotes raw field ∧ field.depth ≤ room :=
  ⟨fun read => ⟨denotes_of_read read,readWithin_depth read⟩,fun given => given.1.read given.2⟩

theorem parse_denotes_iff {raw : Json} {field : Field} :
    Field.parse raw = .ok field ↔ Denotes raw field ∧ field.depth ≤ nestingLimit := by
  rw [Field.parse,Verdict.orTreeError_ok_iff]
  exact readWithin_denotes_iff

theorem parse_nested_iff {raw : Json} (nests : nestsWithin nestingLimit raw = true) {field : Field} :
    Field.parse raw = .ok field ↔ Denotes raw field := by
  rw [Field.parse,Verdict.orTreeError_ok_iff]
  refine ⟨denotes_of_read,fun denotes => ?_⟩
  rw [Field.read,← readWithin_enough nests (Nat.le_max_left nestingLimit field.depth)]
  exact denotes.read (Nat.le_max_right nestingLimit field.depth)

end Field

namespace FieldTree

def Denotes (raw : Json) (tree : FieldTree) : Prop :=
  ∃ items, raw = .arr items ∧ List.Forall₂ Field.Denotes items tree

theorem parse_denotes_iff {raw : Json} {tree : FieldTree} :
    parse raw = .ok tree ↔ Denotes raw tree ∧ Field.depthAmong tree ≤ nestingLimit := by
  rw [parse_ok_iff]
  constructor
  · intro read
    obtain ⟨items,same,aligned⟩ := read
    refine ⟨⟨items,same,aligned.imp fun _ _ => Field.denotes_of_read⟩,?_⟩
    exact parse_depth (parse_ok_iff.mpr ⟨items,same,aligned⟩)
  · intro given
    obtain ⟨⟨items,same,aligned⟩,fits⟩ := given
    refine ⟨items,same,?_⟩
    have paired := (List.forall₂_and_left tree items).mpr ⟨Field.depthAmong_le_iff.mp fits,aligned.flip⟩
    exact (paired.imp fun _ _ both => Field.Denotes.read both.2 both.1).flip

theorem parse_fields_iff {raw : Json} {tree : FieldTree} :
    parse raw = .ok tree ↔ ∃ items, raw = .arr items ∧
      List.Forall₂ (fun item field => Field.parse item = .ok field) items tree := by
  rw [parse_ok_iff]
  simp only [Field.parse,Verdict.orTreeError_ok_iff]

end FieldTree

-- An array with its keys in an order of its own, a word for a flag and a format that is none.
def looseLines : Json :=
  .obj [("items",.obj [("type",.str "string"),("format",.str "none"),("required",.str "OFF")]),
    ("type",.str "array"),("description",.null),("name",.str "lines")]

def readLines : Field :=
  .array ⟨"lines",true,none,[]⟩ (some (.string ⟨"",false,none,[]⟩ (some .none)))

end ExtractionSchema
