import ExtractionSchema.Proofs.EditSteps
import ExtractionSchema.Proofs.Payloads

namespace ExtractionSchema

namespace FieldEdit

-- The edits of the list of fields as clients write them.
def updatingJson (index : Nat) (field : Json) : Json :=
  .obj [("op",.str "update_field"),("index",.int index),("field",field)]

def removingJson (index : Nat) : Json := .obj [("op",.str "remove_field"),("index",.int index)]

def appendingJson (field : Json) : Json := .obj [("op",.str "add_field"),("field",field)]

def ofList (operation : Operation) (index : Option Int) (field : Option Field) : FieldEdit :=
  ⟨operation,index,field,none,none,[],none,none,none,none,none⟩

variable {raw : Json} {field : Field}

theorem field_given {key : Text} {members : List (Text × Json)}
    (given : members.lookup key = some raw) (known : Field.read raw = .accepted field) :
    optionalMember key Field.read members = .accepted (some field) := by
  have present : raw ≠ .null := by
    rintro rfl
    cases known
  refine Accept.member_accepted_iff.mpr (.inr ⟨raw,given,?_⟩)
  exact Accept.optional_accepted_iff.mpr (.inr ⟨present,field,known,rfl⟩)

theorem read_updating (index : Nat) (known : Field.read raw = .accepted field) :
    read .direct (updatingJson index raw) =
      .accepted (ofList .updateField (some (index : Int)) (some field)) := by
  have given : optionalMember "field" Field.read
      [("op",.str "update_field"),("index",.int index),("field",raw)] = .accepted (some field) :=
    field_given rfl known
  simp only [read,updatingJson,Accept.record,readMembers,given]
  rfl

theorem read_removing (index : Nat) :
    read .direct (removingJson index) = .accepted (ofList .removeField (some (index : Int)) none) := rfl

theorem read_appending (known : Field.read raw = .accepted field) :
    read .direct (appendingJson raw) = .accepted (ofList .addField none (some field)) := by
  have given : optionalMember "field" Field.read [("op",.str "add_field"),("field",raw)] =
      .accepted (some field) := field_given rfl known
  simp only [read,appendingJson,Accept.record,readMembers,given]
  rfl

end FieldEdit

namespace FieldTree

open FieldEdit

variable {raw : Json} {edit : FieldEdit} {tree next : FieldTree} {field : Field}

theorem applyJson_read (known : FieldEdit.read .direct raw = .accepted edit) (tree : FieldTree) :
    tree.applyJson raw = tree.applyEdit edit := by
  rw [applyJson,known]

-- A tree that was parsed is nested no deeper than its payloads can be read.
theorem parsed_payload (parsed : parse raw = .ok tree) (member : field ∈ tree) :
    Field.read field.toPayload = .accepted field :=
  Field.read_toJson .omitted (Field.depthAmong_le_iff.mp (parse_depth parsed) field member)

theorem applyJson_updating {place : Nat} (inside : place < tree.length)
    (known : Field.read raw = .accepted field) :
    tree.applyJson (updatingJson place raw) = .ok (tree.set place field) := by
  rw [applyJson_read (read_updating place known)]
  exact applyEdit_complete (.updateField rfl rfl inside rfl)

theorem applyJson_removing {place : Nat} (inside : place < tree.length) :
    tree.applyJson (removingJson place) = .ok (tree.eraseIdx place) := by
  rw [applyJson_read (read_removing place)]
  exact applyEdit_complete (.removeField rfl rfl inside)

theorem applyJson_appending (known : Field.read raw = .accepted field) (tree : FieldTree) :
    tree.applyJson (appendingJson raw) = .ok (tree ++ [field]) := by
  rw [applyJson_read (read_appending known)]
  exact applyEdit_complete (.addField rfl)

theorem removing_last (tree : FieldTree) (field : Field) :
    FieldTree.applyJson (removingJson tree.length) (tree ++ [field]) = .ok tree := by
  rw [applyJson_removing (by simp),List.eraseIdx_append_of_length_le (Nat.le_refl _)]
  simp

theorem edits_undone (parsed : parse raw = .ok tree) :
    (∀ (edit : FieldEdit) (next : FieldTree), edit.inPlace → tree.applyEdit edit = .ok next →
      ∃ (place : Nat) (old : Field), edit.index = some (place : Int) ∧ tree[place]? = some old ∧
        next.applyJson (updatingJson place old.toPayload) = .ok tree) ∧
    (∀ (edit : FieldEdit) (next : FieldTree), edit.operation = .addField →
      tree.applyEdit edit = .ok next → next.applyJson (removingJson tree.length) = .ok tree) ∧
    (∀ (rest : FieldTree) (last : Field), tree = rest ++ [last] →
      tree.applyJson (removingJson rest.length) = .ok rest ∧
        rest.applyJson (appendingJson last.toPayload) = .ok tree) := by
  refine ⟨?_,?_,?_⟩
  · intro edit next kept done
    obtain ⟨place,old,new,chosen,present,_,rfl⟩ := (applyEdit_inPlace_iff kept).mp done
    have known := parsed_payload parsed (List.mem_of_getElem? present)
    refine ⟨place,old,chosen,present,?_⟩
    obtain ⟨inside,rfl⟩ := List.getElem?_eq_some_iff.mp present
    rw [applyJson_updating (by rwa [List.length_set]) known,List.set_set,List.set_getElem_self]
  · intro edit next adds done
    cases applyEdit_sound done with
    | addField => exact removing_last tree _
    | updateField operation => exact absurd (adds.symm.trans operation) (by decide)
    | removeField operation => exact absurd (adds.symm.trans operation) (by decide)
    | onField _ _ changed => exact absurd adds changed.selects.1
  · rintro rest last rfl
    have known := parsed_payload parsed (List.mem_append_right rest List.mem_cons_self)
    exact ⟨removing_last rest last,applyJson_appending known rest⟩

-- A tree in the making, with an array that has neither a name nor items, and one edit of each kind.
def halfBuiltJson : Json :=
  .arr [.obj [("type",.str "array"),("description",.str ""),("required",.str "off")],
    .obj [("type",.str "string"),("format",.str "none")]]

def bareArray : Field := .array ⟨"",false,some "",[]⟩ none

def bareText : Field := .string .initial (some .none)

def textual : FieldEdit := ⟨.setType,some 0,none,some .string,none,[],none,none,none,none,none⟩

def lengthening : FieldEdit := ofList .addField none none

theorem halfBuilt_undone :
    parse halfBuiltJson = .ok [bareArray,bareText] ∧
      FieldTree.applyEdit textual [bareArray,bareText] =
        .ok [.string ⟨"",false,some "",[]⟩ none,bareText] ∧
      FieldTree.applyJson (updatingJson 0 bareArray.toPayload)
        [.string ⟨"",false,some "",[]⟩ none,bareText] = .ok [bareArray,bareText] ∧
      FieldTree.applyEdit lengthening [bareArray,bareText] = .ok [bareArray,bareText,.blank] ∧
      FieldTree.applyJson (removingJson 2) [bareArray,bareText,.blank] = .ok [bareArray,bareText] ∧
      FieldTree.applyJson (removingJson 1) [bareArray,bareText] = .ok [bareArray] ∧
      FieldTree.applyJson (appendingJson bareText.toPayload) [bareArray] = .ok [bareArray,bareText] := by
  have parsed : parse halfBuiltJson = .ok [bareArray,bareText] := rfl
  have kept : textual.inPlace := ⟨nofun,nofun⟩
  obtain ⟨changed,added,removed⟩ := edits_undone parsed
  obtain ⟨place,old,chosen,present,undone⟩ := changed textual _ kept rfl
  cases chosen
  cases present
  exact ⟨parsed,rfl,undone,rfl,added lengthening _ rfl rfl,removed [bareArray] bareText rfl⟩

end FieldTree

end ExtractionSchema
