import ExtractionSchema.Proofs.FieldReading

namespace ExtractionSchema.Field

-- The type that the members of a value name.
def marked? (members : List (Text × Json)) : Option FieldType :=
  match members.lookup ("type" : Text) with
  | some (.str name) => FieldType.ofName? name
  | _ => none

-- The values inside a value that have to be fields for it to be one.
def parts : Json → List Json
  | .obj members =>
    match marked? members with
    | some .array =>
      match members.lookup ("items" : Text) with
      | none | some .null => []
      | some item => [item]
    | some .object =>
      match members.lookup ("properties" : Text) with
      | some (.arr items) => items
      | _ => []
    | _ => []
  | _ => []

-- Whether a value is marked as one that may have such values inside.
def marksContainer : Json → Bool
  | .obj members => (marked? members).any (·.isContainer)
  | _ => false

-- Whether no more than so many arrays and objects stand inside one another, the value itself included.
def nestsWithin : Nat → Json → Bool
  | 0,raw => !marksContainer raw
  | room + 1,raw => (parts raw).all (nestsWithin room)

theorem marked?_some {members : List (Text × Json)} {type : FieldType}
    (tag : members.lookup ("type" : Text) = some (.str type.name)) : marked? members = some type := by
  simp only [marked?,tag,FieldType.ofName?_name]

theorem marksContainer_typed {members : List (Text × Json)} {type : FieldType}
    (tag : members.lookup ("type" : Text) = some (.str type.name)) :
    marksContainer (.obj members) = type.isContainer := by
  rw [marksContainer,marked?_some tag,Option.any_some]

theorem each_congr {first second : Json → Verdict Field} {items : List Json}
    (same : ∀ item ∈ items, first item = second item) (position : Nat) :
    Verdict.each first position items = Verdict.each second position items := by
  induction items generalizing position with
  | nil => rfl
  | cons item rest ih =>
    obtain ⟨head,others⟩ := List.forall_mem_cons.mp same
    rw [Verdict.each,Verdict.each,head,ih others]

theorem readOwn_congr {first second : Json → Verdict Field} {members : List (Text × Json)}
    {type : FieldType} (tag : members.lookup ("type" : Text) = some (.str type.name))
    (same : ∀ raw ∈ parts (.obj members), first raw = second raw) :
    readOwn first members type = readOwn second members type := by
  have own := marked?_some tag
  cases type with
  | array =>
    simp only [parts,own] at same
    cases found : members.lookup ("items" : Text) with
    | none => simp only [readOwn,Accept.member,found]
    | some raw =>
      rw [found] at same
      have own : Accept.optional first raw = Accept.optional second raw := by
        cases raw with
        | null => rfl
        | _ => exact congrArg (Verdict.map some) (same _ List.mem_cons_self)
      simp only [readOwn,Accept.member,found,own]
  | object =>
    simp only [parts,own] at same
    cases found : members.lookup ("properties" : Text) with
    | none => simp only [readOwn,Accept.member,found]
    | some raw =>
      rw [found] at same
      have own : Accept.tuple first raw = Accept.tuple second raw := by
        cases raw with
        | arr items => exact each_congr same 0
        | _ => rfl
      simp only [readOwn,Accept.member,found,own]
  | _ => rfl

theorem readWithin_enough {room more : Nat} {raw : Json} (nests : nestsWithin room raw = true)
    (within : room ≤ more) : readWithin more raw = readWithin room raw := by
  induction room generalizing more raw with
  | zero =>
    cases raw with
    | obj members =>
      cases tag : readTag members with
      | rejected first rest => rw [readWithin_untagged tag,readWithin_untagged tag]
      | accepted type =>
        have flat : type.isContainer = false := by
          rw [← marksContainer_typed (readTag_accepted_iff.mp tag)]
          simpa [nestsWithin] using nests
        have fits : ∀ room, type.isContainer = true → 0 < room :=
          fun _ container => absurd container (by simp [flat])
        rw [readWithin_roomy tag (fits more),readWithin_roomy tag (fits 0),readVariant_flat flat]
    | _ => simp only [readWithin]
  | succ room ih =>
    obtain ⟨less,rfl⟩ : ∃ less, more = less + 1 := ⟨more - 1,by omega⟩
    have inside : ∀ part ∈ parts raw, readWithin less part = readWithin room part :=
      fun part member => ih (List.all_eq_true.mp nests part member) (Nat.le_of_succ_le_succ within)
    cases raw with
    | obj members =>
      cases tag : readTag members with
      | rejected first rest => rw [readWithin_untagged tag,readWithin_untagged tag]
      | accepted type =>
        have same := readOwn_congr (readTag_accepted_iff.mp tag) inside
        simp only [readWithin,readTagged,tag,readVariant,same]
    | _ => simp only [readWithin]

end ExtractionSchema.Field
