import ExtractionSchema.Proofs.Payloads
import ExtractionSchema.Proofs.PlainSchemas
import ExtractionSchema.Proofs.ReadBack
import ExtractionSchema.Service

namespace ExtractionSchema

namespace Field

theorem attributeMembers_sublist (form : UnsetForm) (attributes : Attributes) :
    (Entries.keys (attributeMembers form attributes)).Sublist Attributes.keys := by
  obtain ⟨name,required,description,examples⟩ := attributes
  cases description <;> cases form <;>
    simp [attributeMembers,settable,Attributes.keys,Entries.keys]

theorem settable_sublist (form : UnsetForm) (key : Text) (value : Option Json) :
    (Entries.keys (settable form key value)).Sublist [key] := by
  cases value <;> cases form <;> simp [settable,Entries.keys]

theorem settable_plain {form : UnsetForm} {key : Text} {value : Option Json}
    (plain : ∀ inner ∈ value, inner.Plain) : ∀ member ∈ settable form key value, member.2.Plain := by
  cases value with
  | none => cases form <;> simp [settable,Json.Plain.null]
  | some inner => simpa [settable] using plain

theorem attributeMembers_plain (form : UnsetForm) (attributes : Attributes) :
    ∀ member ∈ attributeMembers form attributes, member.2.Plain := by
  have said : ∀ member ∈ settable form "description" (attributes.description.map .str),
      member.2.Plain := by
    apply settable_plain
    intro inner written
    obtain ⟨text,_,rfl⟩ := Option.map_eq_some_iff.mp written
    exact .str text
  have texts := Schema.texts_plain attributes.examples
  simp only [attributeMembers,List.forall_mem_append,List.forall_mem_cons]
  exact ⟨⟨⟨.str _,.bool _,by simp⟩,said⟩,texts,by simp⟩

theorem writtenMembers_plain {form : UnsetForm} (attributes : Attributes) {type : FieldType}
    {own : List (Text × Json)} (keys : (Entries.keys own).Sublist type.ownKeys)
    (plain : ∀ member ∈ own, member.2.Plain) :
    (Json.obj (writtenMembers form attributes type own)).Plain := by
  have distinct : type.keys.Nodup := by cases type <;> decide
  refine .obj ?_ ?_
  · refine distinct.sublist ?_
    rw [writtenMembers,Entries.keys_append]
    exact (attributeMembers_sublist form attributes).append (keys.cons_cons _)
  · simp only [writtenMembers,List.forall_mem_append,List.forall_mem_cons]
    exact ⟨attributeMembers_plain form attributes,.str type.name,plain⟩

theorem toJson_plain (form : UnsetForm) (field : Field) : (field.toJson form).Plain := by
  induction field using Field.induction with
  | string attributes format =>
    refine writtenMembers_plain attributes (settable_sublist form "format" _) (settable_plain ?_)
    intro inner written
    obtain ⟨format,_,rfl⟩ := Option.map_eq_some_iff.mp written
    exact .str format.name
  | number attributes => exact writtenMembers_plain attributes (by simp [Entries.keys]) (by simp)
  | boolean attributes => exact writtenMembers_plain attributes (by simp [Entries.keys]) (by simp)
  | bare attributes =>
    exact writtenMembers_plain attributes (settable_sublist form "items" none)
      (settable_plain (by simp))
  | array attributes item inner =>
    exact writtenMembers_plain attributes (by simp [Entries.keys,FieldType.ownKeys])
      (by simpa using inner)
  | object attributes properties inner =>
    refine writtenMembers_plain attributes (by simp [Entries.keys,FieldType.ownKeys]) ?_
    have each : (Json.arr (toJsonAll form properties)).Plain := by
      rw [toJsonAll_map]
      exact .arr (List.forall_mem_map.mpr inner)
    simpa using each

theorem settable_nesting {form : UnsetForm} {key : Text} {value : Option Json} {layers : Nat}
    (each : ∀ inner ∈ value, inner.nesting ≤ layers) :
    ∀ member ∈ settable form key value, member.2.nesting ≤ layers := by
  cases value with
  | none => cases form <;> simp [settable,Json.nesting]
  | some inner => simpa [settable] using each

theorem attributeMembers_nesting (form : UnsetForm) (attributes : Attributes) :
    ∀ member ∈ attributeMembers form attributes, member.2.nesting ≤ 1 := by
  have said : ∀ member ∈ settable form "description" (attributes.description.map .str),
      member.2.nesting ≤ 1 := by
    apply settable_nesting
    intro inner written
    obtain ⟨text,_,rfl⟩ := Option.map_eq_some_iff.mp written
    exact Nat.zero_le 1
  have texts : Json.nestingAmong (attributes.examples.map .str) ≤ 0 :=
    Json.nestingAmong_le_iff.mpr (List.forall_mem_map.mpr fun text _ => Nat.le_refl 0)
  simp only [attributeMembers,List.forall_mem_append,List.forall_mem_cons]
  exact ⟨⟨⟨Nat.zero_le 1,Nat.zero_le 1,by simp⟩,said⟩,Nat.succ_le_succ texts,by simp⟩

theorem writtenMembers_nesting {form : UnsetForm} (attributes : Attributes) {type : FieldType}
    {own : List (Text × Json)} {layers : Nat} (some : 1 ≤ layers)
    (each : ∀ member ∈ own, member.2.nesting ≤ layers) :
    (Json.obj (writtenMembers form attributes type own)).nesting ≤ layers + 1 := by
  refine Nat.succ_le_succ (Json.nestingOf_le_iff.mpr ?_)
  simp only [writtenMembers,List.forall_mem_append,List.forall_mem_cons]
  have common := attributeMembers_nesting form attributes
  exact ⟨fun member written => Nat.le_trans (common member written) some,Nat.zero_le layers,each⟩

-- An object puts its fields into a list, and so takes two layers.
theorem toJson_nesting (form : UnsetForm) (field : Field) :
    (field.toJson form).nesting ≤ 2 * field.depth + 2 := by
  induction field using Field.induction with
  | string attributes format =>
    refine writtenMembers_nesting attributes (Nat.le_refl 1) (settable_nesting ?_)
    intro inner written
    obtain ⟨format,_,rfl⟩ := Option.map_eq_some_iff.mp written
    exact Nat.zero_le 1
  | number attributes => exact writtenMembers_nesting attributes (Nat.le_refl 1) (by simp)
  | boolean attributes => exact writtenMembers_nesting attributes (Nat.le_refl 1) (by simp)
  | bare attributes =>
    exact writtenMembers_nesting attributes (by simp [depth]) (settable_nesting (by simp))
  | array attributes item inner =>
    refine writtenMembers_nesting attributes (by omega) ?_
    simp only [List.forall_mem_singleton,depth]
    omega
  | object attributes properties inner =>
    refine writtenMembers_nesting attributes (by omega) ?_
    have each : Json.nestingAmong (toJsonAll form properties) ≤ 2 * depthAmong properties + 2 := by
      rw [toJsonAll_map,Json.nestingAmong_le_iff,List.forall_mem_map]
      intro field member
      have least := depthAmong_le_iff.mp (Nat.le_refl _) field member
      exact Nat.le_trans (inner field member) (by omega)
    simp only [List.forall_mem_singleton,Json.nesting,depth]
    omega

end Field

theorem FieldTree.written_plain (form : Field.UnsetForm) (tree : FieldTree) :
    (Json.arr (Field.toJsonAll form tree)).Plain := by
  rw [Field.toJsonAll_map]
  exact .arr (List.forall_mem_map.mpr fun field _ => Field.toJson_plain form field)

theorem Text.octets_ascii {c : Char} (ascii : c.toNat < 0x80) :
    (String.utf8EncodeChar c).map UInt8.toNat = [c.toNat] := by
  have within : c.val.toNat ≤ 127 := Nat.lt_succ_iff.mp ascii
  have small : c.toNat < 256 := by omega
  have octet : (UInt8.ofNat c.val.toNat).toNat = c.toNat := UInt8.toNat_ofNat_of_lt' small
  rw [String.utf8EncodeChar,if_pos within,List.map_singleton,octet]

-- In wider units a character of ASCII has an octet that is zero.
theorem Text.detect_narrow {first second : Nat} (one : 0 < first) (two : 0 < second)
    (rest : List Nat) : Encoding.detect (first :: second :: rest) = .utf8 := by
  obtain ⟨less,rfl⟩ := Nat.exists_eq_add_of_lt one
  obtain ⟨fewer,rfl⟩ := Nat.exists_eq_add_of_lt two
  rcases rest with _ | ⟨third,_ | ⟨fourth,more⟩⟩ <;> rfl

theorem Text.reread_ascii {text : String} {first second : Char} {rest : List Char}
    (begins : text.toList = first :: second :: rest) (one : 0 < first.toNat ∧ first.toNat < 0x80)
    (two : 0 < second.toNat ∧ second.toNat < 0x80) : reread? text = some (text : List Code) := by
  have narrow : Encoding.detect (octets text) = .utf8 := by
    rw [octets,begins,List.flatMap_cons,List.flatMap_cons,octets_ascii one.2,octets_ascii two.2]
    exact detect_narrow one.1 two.1 _
  rw [reread?,narrow]

theorem Json.write_opens (style : Style) (members : List (Text × Json)) :
    ∃ second rest, (Json.obj members).write style = .char '\x7b' :: .char second :: rest ∧
      0 < second.toNat ∧ second.toNat < 0x80 := by
  cases members with
  | nil => exact ⟨'\x7d',[],rfl,by decide⟩
  | cons member rest =>
    cases rest with
    | nil => exact ⟨'"',_,rfl,by decide⟩
    | cons next others => exact ⟨'"',_,rfl,by decide⟩

theorem Json.write_text {value : Json} (plain : value.Plain) :
    ∃ text : String, value.write .compactAscii = text := by
  have whole : ∀ code ∈ value.write .compactAscii, code.char?.isSome = true := by
    intro code found
    rw [Option.isSome_iff_ne_none]
    intro half
    exact absurd (half_bounds half).1 (Nat.not_le.mpr (write_ascii plain code found))
  obtain ⟨cs,chars⟩ := Code.chars_of_whole _ whole
  exact ⟨String.ofList cs,by rw [chars,Code.ofString,String.toList_ofList]⟩

theorem Body.carries_plain {members : List (Text × Json)} (plain : (Json.obj members).Plain)
    {room : Json.Room} (allows : room.Allows (Json.obj members).nesting) :
    ∃ body : Body, body.readJson room = .ok (.obj members) := by
  obtain ⟨text,written⟩ := Json.write_text plain
  refine ⟨.raw text "application/json",?_⟩
  obtain ⟨second,rest,begins,two⟩ := Json.write_opens .compactAscii members
  rw [written] at begins
  obtain ⟨first,behind,chars,head,others⟩ := List.map_eq_cons_iff.mp begins
  obtain ⟨other,last,more,next,_⟩ := List.map_eq_cons_iff.mp others
  cases head
  cases next
  subst more
  have some : text.isEmpty = false := by
    rw [String.isEmpty_eq_false_iff]
    intro empty
    rw [empty] at chars
    cases chars
  have json : isJsonType "application/json" = true := by decide +kernel
  have unmarked : withoutMark (text : List Code) = text := by
    rw [begins]
    rfl
  have read : Json.read room (text : List Code) = .ok (.obj members) := by
    rw [← written]
    exact Json.read_write Json.compactAscii_readable plain allows
  simp only [readJson,some,json,Text.reread_ascii chars (by decide) two,valueIn,unmarked,read]
  rfl

end ExtractionSchema
