import ExtractionSchema.Proofs.Places
import ExtractionSchema.Proofs.SubmittedSchemas

namespace ExtractionSchema

namespace Submission

-- A text is let in as a list whose names show, or as a map that it spells.
theorem read_ok {room : Json.Room} {text : List Code} {submission : Submission} (given : read room text = .ok submission) :
    (∃ items, Json.read room text = .ok (.arr items) ∧
        ∀ name ∈ submission.types.keys, Text.isBlankText name = false) ∨
      ∃ members, Json.read room text = .ok (.obj members) ∧ typeMapJson submission.types = .obj members ∧
        ∀ name ∈ submission.types.keys, name ≠ "" := by
  rcases read_container given with ⟨items,found⟩ | ⟨members,found⟩
  · -- The tree has passed the check, which none of its names would if it were blank.
    obtain ⟨tree,schema,_,compiled,rfl⟩ := (read_list_iff found).mp given
    have sound := FieldTree.wellFormed_of_compile compiled
    have each := soundAmong_iff.mp sound.1
    refine .inl ⟨items,found,?_⟩
    simp only [FieldTree.typeMap_distinct sound.2]
    simpa [Entries.keys] using fun field member => (each field member).1
  · obtain ⟨types,same,named,rfl⟩ := (read_map_iff found).mp given
    exact .inr ⟨members,found,same,named⟩

-- The text of a map with a name that does not show.
def Unnamed (room : Json.Room) (text : List Code) : Prop :=
  ∃ members, Json.read room text = .ok (.obj members) ∧
    ∃ member ∈ members, ∀ code ∈ member.1.codes, code.isBlank = true

theorem unnamed_iff {room : Json.Room} {text : List Code} {members : List (Text × Json)}
    (found : Json.read room text = .ok (.obj members)) :
    Unnamed room text ↔ ∃ name ∈ members.map (·.1), Text.isBlankText name = true := by
  simp [Unnamed,found,Text.isBlankText]

theorem typeMapJson_known (types : Entries FieldType) :
    ∃ members, typeMapJson types = .obj members ∧ members.map (·.1) = types.keys ∧
      ∀ member ∈ members,
        ∃ type ∈ ["string","number","boolean","array","object"], member.2 = .str type := by
  refine ⟨types.map fun entry => (entry.1,.str entry.2.name),rfl,by simp [Entries.keys],?_⟩
  intro member written
  obtain ⟨⟨name,type⟩,_,rfl⟩ := List.mem_map.mp written
  exact ⟨type.name,by cases type <;> simp [FieldType.name],rfl⟩

theorem names_visible_iff {room : Json.Room} {text : List Code} {submission : Submission}
    (given : read room text = .ok submission) :
    ((∀ name ∈ submission.types.keys, ∃ code ∈ name.codes, code.isBlank = false) ↔
        ¬ Unnamed room text) ∧
      (∀ name ∈ submission.types.keys, name ≠ "") ∧
        ∃ members, typeMapJson submission.types = .obj members ∧
          members.map (·.1) = submission.types.keys ∧
            ∀ member ∈ members,
              ∃ type ∈ ["string","number","boolean","array","object"], member.2 = .str type := by
  refine ⟨?_,?_,typeMapJson_known submission.types⟩
  · rcases read_ok given with ⟨items,found,shown⟩ | ⟨members,found,same,_⟩
    · refine iff_of_true (fun name member => Text.isBlankText_eq_false_iff.mp (shown name member)) ?_
      rintro ⟨members,other,_⟩
      cases found.symm.trans other
    · obtain ⟨_,written,names,_⟩ := typeMapJson_known submission.types
      cases same.symm.trans written
      simp only [unnamed_iff found,names,← Text.isBlankText_eq_false_iff]
      simp
  · rcases read_ok given with ⟨items,_,shown⟩ | ⟨members,_,_,named⟩
    · rintro name member rfl
      cases shown "" member
    · exact named

end Submission

-- A list of fields, with a name that has blanks around it, and a map with a name that is a blank.
def paddedText : String :=
  "[\x7b\"name\":\" total \",\"type\":\"number\"\x7d,\x7b\"name\":\"lines\",\"type\":\"array\","
    ++ "\"items\":\x7b\"type\":\"string\"\x7d\x7d]"

def padded : Entries FieldType := [(" total ",.number),("lines",.array)]

def blankText : String := "\x7b\" \":\"string\"\x7d"

theorem padded_visible :
    (∃ schema, Submission.read (some 900) paddedText = .ok ⟨padded,some schema⟩) ∧
      (∀ name ∈ padded.keys, ∃ code ∈ name.codes, code.isBlank = false) := by
  have found : Json.read (some 900) paddedText = .ok (.arr [.obj [("name",.str " total "),("type",.str "number")],
      .obj [("name",.str "lines"),("type",.str "array"),
        ("items",.obj [("type",.str "string")])]]) := by decide +kernel
  have given : ∃ schema, Submission.read (some 900) paddedText = .ok ⟨padded,some schema⟩ := by
    rw [Submission.read,found]
    exact ⟨_,rfl⟩
  obtain ⟨schema,read⟩ := given
  refine ⟨⟨schema,read⟩,(Submission.names_visible_iff read).1.mpr ?_⟩
  rintro ⟨members,other,_⟩
  cases found.symm.trans other

theorem blank_invisible :
    Submission.read (some 900) blankText = .ok ⟨[(" ",.string)],none⟩ ∧
      ¬ (∀ name ∈ Entries.keys [((" " : Text),FieldType.string)],
        ∃ code ∈ name.codes, code.isBlank = false) ∧
      FieldTree.check [.string ⟨" ",true,none,[]⟩ none] "" = .error ⟨.blankName,some "[0]"⟩ := by
  have found : Json.read (some 900) blankText = .ok (.obj [(" ",.str "string")]) := by decide +kernel
  have blank : Text.isBlankText " " = true := by decide +kernel
  refine ⟨?_,?_,by decide +kernel⟩
  · rw [Submission.read,found]
    rfl
  · intro shown
    have visible := Text.isBlankText_eq_false_iff.mpr (shown " " List.mem_cons_self)
    cases blank.symm.trans visible

end ExtractionSchema
