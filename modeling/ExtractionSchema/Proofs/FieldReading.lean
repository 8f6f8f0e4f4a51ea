import ExtractionSchema.Field
import ExtractionSchema.Field.Reader
import ExtractionSchema.Proofs.Verdicts

namespace ExtractionSchema

theorem Accept.text_accepted_iff {raw : Json} {value : Text} :
    text raw = .accepted value ↔ raw = .str value := by
  cases raw <;> simp [text,Verdict.reject]

theorem Accept.oneOf_accepted_iff {α : Type} {ofName? : Text → Option α} {refusal : Fault}
    {raw : Json} {value : α} :
    oneOf ofName? refusal raw = .accepted value ↔ ∃ name, raw = .str name ∧ ofName? name = some value := by
  cases raw with
  | str name => cases known : ofName? name <;> simp [oneOf,known,Verdict.reject]
  | _ => simp [oneOf,Verdict.reject]

theorem FieldType.ofName?_some_iff {name : Text} {type : FieldType} :
    ofName? name = some type ↔ type.name = name := by
  constructor
  · intro known
    have same := List.find?_some known
    exact beq_iff_eq.mp same
  · intro same
    rw [← same]
    exact ofName?_name type

theorem Accept.fieldType_accepted_iff {raw : Json} {type : FieldType} :
    fieldType raw = .accepted type ↔ raw = .str type.name := by
  rw [fieldType,oneOf_accepted_iff]
  constructor
  · intro known
    obtain ⟨name,same,found⟩ := known
    rw [same,FieldType.ofName?_some_iff.mp found]
  · intro same
    exact ⟨type.name,same,FieldType.ofName?_name type⟩

theorem FieldType.keys_whole (type : FieldType) : ∀ key ∈ type.keys, key.isWhole = true := by
  cases type <;> decide

theorem readTag_accepted_iff {members : List (Text × Json)} {type : FieldType} :
    readTag members = .accepted type ↔ members.lookup ("type" : Text) = some (.str type.name) := by
  constructor
  · intro read
    unfold readTag at read
    split at read
    · cases read
    · next found =>
      split at read
      · split at read
        · next known =>
          cases read
          rw [found,FieldType.ofName?_some_iff.mp known]
        · cases read
      · cases read
  · intro tag
    simp [readTag,tag,FieldType.ofName?_name]

theorem Attributes.readOver_accepted_iff {base attributes : Attributes}
    {members : List (Text × Json)} :
    base.readOver members = .accepted attributes ↔
      Accept.member "name" Accept.text base.name members = .accepted attributes.name ∧
        Accept.member "required" Accept.flag base.required members
            = .accepted attributes.required ∧
          Accept.member "description" (Accept.optional Accept.text) base.description members
              = .accepted attributes.description ∧
            Accept.member "examples" (Accept.tuple Accept.text) base.examples members
              = .accepted attributes.examples := by
  rw [readOver,Verdict.map_accepted_iff]
  constructor
  · rintro ⟨⟨name,required,description,examples⟩,read,rfl⟩
    simpa only [Verdict.both_accepted_iff] using read
  · intro read
    exact ⟨(attributes.name,attributes.required,attributes.description,attributes.examples),
      by simpa only [Verdict.both_accepted_iff] using read,rfl⟩

namespace Field

theorem depthAmong_le_iff {fields : List Field} {room : Nat} :
    depthAmong fields ≤ room ↔ ∀ field ∈ fields, field.depth ≤ room := by
  induction fields with
  | nil => simp [depthAmong]
  | cons field rest ih => rw [depthAmong,Nat.max_le,ih,List.forall_mem_cons]

theorem readVariant_accepted_iff {inner : Json → Verdict Field} {members : List (Text × Json)}
    {type : FieldType} {field : Field} :
    readVariant inner members type = .accepted field ↔
      ∃ attributes, Attributes.initial.readOver members = .accepted attributes ∧
        ∃ make, readOwn inner members type = .accepted make ∧ make attributes = field ∧
          ∀ member ∈ members, member.1 ∈ type.keys := by
  by_cases whole : members.all (·.1.isWhole) = true
  · rw [readVariant,if_pos whole,Verdict.also_accepted_iff,Verdict.both_map_accepted_iff,
      Accept.onlyKeys_accepted_iff]
    constructor
    · rintro ⟨⟨attributes,common,make,own,made⟩,known⟩
      exact ⟨attributes,common,make,own,made,known⟩
    · rintro ⟨attributes,common,make,own,made,known⟩
      exact ⟨⟨attributes,common,make,own,made⟩,known⟩
  · rw [readVariant,if_neg whole]
    refine iff_of_false (by simp [Verdict.reject]) ?_
    intro given
    obtain ⟨_,_,_,_,_,known⟩ := given
    refine whole (List.all_eq_true.mpr fun member found => ?_)
    exact type.keys_whole _ (known member found)

-- The reader for the fields inside a field that is read with so much room.
def readInside : Nat → Json → Verdict Field
  | 0,_ => .reject .nestedTooDeep
  | room + 1,raw => readWithin room raw

theorem readInside_accepted_iff {room : Nat} {raw : Json} {field : Field} :
    readInside room raw = .accepted field ↔
      ∃ less, room = less + 1 ∧ readWithin less raw = .accepted field := by
  cases room with
  | zero => simp [readInside,Verdict.reject]
  | succ room => simp [readInside]

theorem readWithin_roomy {room : Nat} {members : List (Text × Json)} {type : FieldType}
    (tag : readTag members = .accepted type) (fits : type.isContainer = true → 0 < room) :
    readWithin room (.obj members) =
      (readVariant (readInside room) members type).within (.tag type) := by
  cases room with
  | zero =>
    have flat : type.isContainer = false :=
      Bool.eq_false_iff.mpr fun container => Nat.not_lt_zero 0 (fits container)
    rw [readWithin,readTagged,tag]
    simp only [readInnermost,flat,Bool.false_eq_true,if_false]
    rw [readVariant_flat flat]
  | succ room =>
    rw [readWithin,readTagged,tag]
    rfl

theorem readWithin_full {members : List (Text × Json)} {type : FieldType}
    (tag : readTag members = .accepted type) (container : type.isContainer = true) :
    readWithin 0 (.obj members) = (Verdict.reject .nestedTooDeep).within (.tag type) := by
  rw [readWithin,readTagged,tag]
  simp only [readInnermost,container,if_true]

theorem readWithin_untagged {room : Nat} {members : List (Text × Json)} {first : Issue}
    {rest : List Issue} (tag : readTag members = .rejected first rest) :
    readWithin room (.obj members) = .rejected first rest := by
  cases room <;> rw [readWithin,readTagged,tag]

theorem readWithin_accepted_iff {room : Nat} {raw : Json} {field : Field} :
    readWithin room raw = .accepted field ↔
      ∃ members, raw = .obj members ∧ ∃ type, readTag members = .accepted type ∧
        (type.isContainer = true → 0 < room) ∧
          readVariant (readInside room) members type = .accepted field := by
  cases raw with
  | obj members =>
    cases tag : readTag members with
    | rejected first rest => simp [readWithin_untagged tag,tag]
    | accepted type =>
      by_cases fits : type.isContainer = true → 0 < room
      · have room : (type.isContainer = true → 0 < room) = True := eq_true fits
        simp only [readWithin_roomy tag fits,Verdict.within_accepted_iff,tag,Json.obj.injEq,
          exists_eq_left',Verdict.accepted.injEq,room,true_and]
      · obtain ⟨container,full⟩ := Classical.not_imp.mp fits
        obtain rfl : room = 0 := Nat.eq_zero_of_not_pos full
        simp [readWithin_full tag container,Verdict.reject,Verdict.within,tag,container]
  | _ => simp [readWithin,Verdict.reject]

-- What belongs to the type is the only thing that may have fields inside.
theorem readOwn_depth {inner : Json → Verdict Field} {room : Nat}
    (each : ∀ raw field, inner raw = .accepted field → field.depth + 1 ≤ room)
    {members : List (Text × Json)} {type : FieldType} (fits : type.isContainer = true → 0 < room)
    {make : Attributes → Field} (own : readOwn inner members type = .accepted make)
    (attributes : Attributes) : (make attributes).depth ≤ room := by
  cases type with
  | string =>
    obtain ⟨format,_,rfl⟩ := Verdict.map_accepted_iff.mp own
    exact Nat.zero_le room
  | number =>
    cases own
    exact Nat.zero_le room
  | boolean =>
    cases own
    exact Nat.zero_le room
  | array =>
    obtain ⟨items,present,rfl⟩ := Verdict.map_accepted_iff.mp own
    cases items with
    | none => exact fits rfl
    | some item =>
      rcases Accept.member_accepted_iff.mp present with ⟨_,absent⟩ | ⟨raw,_,read⟩
      · cases absent
      · rcases Accept.optional_accepted_iff.mp read with ⟨_,unset⟩ | ⟨_,field,read,same⟩
        · cases unset
        · cases same
          exact each raw item read
  | object =>
    obtain ⟨properties,present,rfl⟩ := Verdict.map_accepted_iff.mp own
    have inside : ∀ property ∈ properties, property.depth ≤ room - 1 := by
      rcases Accept.member_accepted_iff.mp present with ⟨_,absent⟩ | ⟨raw,_,read⟩
      · subst absent
        simp
      · obtain ⟨items,_,aligned⟩ := Accept.tuple_accepted_iff.mp read
        intro property member
        obtain ⟨item,_,read⟩ := aligned_source aligned property member
        exact Nat.le_sub_one_of_lt (each item property read)
    have among := depthAmong_le_iff.mpr inside
    have positive := fits rfl
    simp only [depth]
    omega

theorem readWithin_depth {room : Nat} {raw : Json} {field : Field}
    (read : readWithin room raw = .accepted field) : field.depth ≤ room := by
  induction room using Nat.strongRecOn generalizing raw field with
  | ind room ih =>
    obtain ⟨members,_,type,_,fits,variant⟩ := readWithin_accepted_iff.mp read
    obtain ⟨attributes,_,make,own,rfl,_⟩ := readVariant_accepted_iff.mp variant
    refine readOwn_depth (fun raw field inner => ?_) fits own attributes
    obtain ⟨less,rfl,inner⟩ := readInside_accepted_iff.mp inner
    exact Nat.succ_le_succ (ih less (Nat.lt_succ_self less) inner)

theorem readOwn_widen {inner wider : Json → Verdict Field}
    (each : ∀ raw field, inner raw = .accepted field → wider raw = .accepted field)
    {members : List (Text × Json)} {type : FieldType} {make : Attributes → Field}
    (own : readOwn inner members type = .accepted make) :
    readOwn wider members type = .accepted make := by
  cases type with
  | array =>
    obtain ⟨items,present,rfl⟩ := Verdict.map_accepted_iff.mp own
    refine Verdict.map_accepted_iff.mpr ⟨items,Accept.member_accepted_iff.mpr ?_,rfl⟩
    rcases Accept.member_accepted_iff.mp present with absent | ⟨raw,found,read⟩
    · exact .inl absent
    · refine .inr ⟨raw,found,Accept.optional_accepted_iff.mpr ?_⟩
      rcases Accept.optional_accepted_iff.mp read with unset | ⟨some,field,read,same⟩
      · exact .inl unset
      · exact .inr ⟨some,field,each raw field read,same⟩
  | object =>
    obtain ⟨properties,present,rfl⟩ := Verdict.map_accepted_iff.mp own
    refine Verdict.map_accepted_iff.mpr ⟨properties,Accept.member_accepted_iff.mpr ?_,rfl⟩
    rcases Accept.member_accepted_iff.mp present with absent | ⟨raw,found,read⟩
    · exact .inl absent
    · obtain ⟨items,same,aligned⟩ := Accept.tuple_accepted_iff.mp read
      exact .inr ⟨raw,found,Accept.tuple_accepted_iff.mpr ⟨items,same,aligned.imp each⟩⟩
  | _ => exact own

theorem readWithin_widen {room more : Nat} (within : room ≤ more) {raw : Json} {field : Field}
    (read : readWithin room raw = .accepted field) : readWithin more raw = .accepted field := by
  induction room using Nat.strongRecOn generalizing more raw field with
  | ind room ih =>
    obtain ⟨members,same,type,tag,fits,variant⟩ := readWithin_accepted_iff.mp read
    obtain ⟨attributes,common,make,own,made,known⟩ := readVariant_accepted_iff.mp variant
    have wide : readOwn (readInside more) members type = .accepted make := by
      refine readOwn_widen (fun raw field inner => ?_) own
      obtain ⟨less,rfl,inner⟩ := readInside_accepted_iff.mp inner
      obtain ⟨wider,rfl⟩ : ∃ wider, more = wider + 1 := ⟨more - 1,by omega⟩
      exact ih less (Nat.lt_succ_self less) (Nat.le_of_succ_le_succ within) inner
    refine readWithin_accepted_iff.mpr ⟨members,same,type,tag,?_,?_⟩
    · exact fun container => Nat.lt_of_lt_of_le (fits container) within
    · exact readVariant_accepted_iff.mpr ⟨attributes,common,make,wide,made,known⟩

end Field

end ExtractionSchema
