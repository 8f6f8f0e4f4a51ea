import ExtractionSchema.Proofs.EditSteps

namespace ExtractionSchema

-- Two edits one after the other.
def FieldTree.applyBoth (first second : FieldEdit) (tree : FieldTree) : Except Failure FieldTree :=
  (tree.applyEdit first).bind (FieldTree.applyEdit second)

theorem FieldTree.applyBoth_ok_iff {first second : FieldEdit} {tree next : FieldTree} :
    tree.applyBoth first second = .ok next ↔
      ∃ between : FieldTree, tree.applyEdit first = .ok between ∧ between.applyEdit second = .ok next := by
  unfold applyBoth
  cases tree.applyEdit first <;> simp [Except.bind]

def shifted (gone place : Nat) : Nat := if gone < place then place - 1 else place

section Lists

variable {α : Type} {gone place : Nat}

theorem getElem?_shifted (items : List α) (apart : place ≠ gone) :
    (items.eraseIdx gone)[shifted gone place]? = items[place]? := by
  unfold shifted
  split
  · next behind =>
    rw [List.getElem?_eraseIdx_of_ge (Nat.le_sub_one_of_lt behind),Nat.sub_add_cancel (by omega)]
  · next before => rw [List.getElem?_eraseIdx_of_lt (by omega)]

theorem set_shifted (items : List α) (apart : place ≠ gone) (item : α) :
    (items.set place item).eraseIdx gone = (items.eraseIdx gone).set (shifted gone place) item := by
  unfold shifted
  split
  · next behind => exact List.eraseIdx_set_lt behind
  · next before => exact List.eraseIdx_set_gt (by omega)

end Lists

namespace FieldEdit

variable {edit : FieldEdit}

def elsewhere (index : Option Int) (edit : FieldEdit) : FieldEdit := { edit with index := index }

-- The same edit of the same field, once the field at another index is gone.
def afterRemoval (gone : Int) (edit : FieldEdit) : FieldEdit :=
  edit.elsewhere (edit.index.map fun index => if gone < index then index - 1 else index)

theorem Puts.elsewhere {field new : Field} (puts : edit.Puts field new) (index : Option Int) :
    (edit.elsewhere index).Puts field new := by
  cases puts with
  | given operation given => exact .given operation given
  | changed changed =>
    have own : (edit.elsewhere index).selectsField := changed.selects
    have same : (edit.elsewhere index).onField field = edit.onField field := rfl
    exact .changed (onField_sound own (same.trans (onField_complete changed)))

theorem afterRemoval_index_iff {gone later : Nat} (apart : edit.index ≠ some (gone : Int)) :
    (edit.afterRemoval gone).index = some (later : Int) ↔
      ∃ place : Nat, edit.index = some (place : Int) ∧ shifted gone place = later := by
  cases chosen : edit.index with
  | none => simp [afterRemoval,elsewhere,chosen]
  | some index =>
    simp only [afterRemoval,elsewhere,chosen,Option.map_some,Option.some.injEq]
    rw [chosen] at apart
    have different : index ≠ gone := fun same => apart (congrArg some same)
    constructor
    · intro moved
      refine ⟨index.toNat,?_,?_⟩
      · split at moved <;> omega
      · unfold shifted
        split at moved <;> split <;> omega
    · intro placed
      obtain ⟨place,rfl,rfl⟩ := placed
      unfold shifted
      split <;> split <;> omega

end FieldEdit

namespace FieldTree

variable {tree next : FieldTree} {first second : FieldEdit}

theorem applyBoth_inPlace (kept : first.inPlace) (other : second.inPlace)
    (apart : first.index ≠ second.index) (done : tree.applyBoth first second = .ok next) :
    tree.applyBoth second first = .ok next := by
  obtain ⟨between,one,two⟩ := applyBoth_ok_iff.mp done
  obtain ⟨place,field,new,chosen,present,puts,rfl⟩ := (applyEdit_inPlace_iff kept).mp one
  obtain ⟨place',field',new',chosen',present',puts',rfl⟩ := (applyEdit_inPlace_iff other).mp two
  have different : place ≠ place' := by
    intro same
    exact apart (chosen.trans (same ▸ chosen'.symm))
  rw [List.getElem?_set_ne different] at present'
  have still : (tree.set place' new')[place]? = some field := by
    rw [List.getElem?_set_ne different.symm,present]
  refine applyBoth_ok_iff.mpr ⟨tree.set place' new',?_,?_⟩
  · exact (applyEdit_inPlace_iff other).mpr ⟨place',field',new',chosen',present',puts',rfl⟩
  · have swapped := @List.set_comm _ new' new _ _ tree different.symm
    exact (applyEdit_inPlace_iff kept).mpr ⟨place,field,new,chosen,still,puts,swapped⟩

-- The field that is changed is there before and after the removal, and so is the one to be removed.
theorem applyBoth_removal_iff {gone : Int} (kept : first.inPlace)
    (removes : second.operation = .removeField) (chosen : second.index = some gone)
    (apart : first.index ≠ some gone) :
    tree.applyBoth first second = .ok next ↔
      tree.applyBoth second (first.afterRemoval gone) = .ok next := by
  have later : (first.afterRemoval gone).inPlace := kept
  simp only [applyBoth_ok_iff,applyEdit_inPlace_iff kept,applyEdit_inPlace_iff later,
    applyEdit_removal_iff removes]
  constructor
  · intro done
    obtain ⟨_,⟨place,field,new,own,present,puts,rfl⟩,other,⟨same,inside⟩,rfl⟩ := done
    cases chosen.symm.trans same
    have different : place ≠ other := by
      intro equal
      exact apart (equal ▸ own)
    rw [List.length_set] at inside
    refine ⟨tree.eraseIdx other,⟨other,⟨chosen,inside⟩,rfl⟩,shifted other place,field,new,?_,?_,?_,?_⟩
    · exact (FieldEdit.afterRemoval_index_iff apart).mpr ⟨place,own,rfl⟩
    · rw [getElem?_shifted tree different,present]
    · exact puts.elsewhere _
    · exact (set_shifted tree different new).symm
  · intro done
    obtain ⟨_,⟨other,⟨same,inside⟩,rfl⟩,moved,field,new,own,present,puts,rfl⟩ := done
    cases chosen.symm.trans same
    obtain ⟨place,at_place,rfl⟩ := (FieldEdit.afterRemoval_index_iff apart).mp own
    have different : place ≠ other := by
      intro equal
      exact apart (equal ▸ at_place)
    rw [getElem?_shifted tree different] at present
    have back : first.Puts field new := puts.elsewhere first.index
    refine ⟨tree.set place new,⟨place,field,new,at_place,present,back,rfl⟩,other,⟨chosen,?_⟩,?_⟩
    · rwa [List.length_set]
    · exact set_shifted tree different new

theorem applyBoth_either_order (tree next : FieldTree) (first second : FieldEdit)
    (kept : first.inPlace) :
    (second.inPlace → first.index ≠ second.index →
      (tree.applyBoth first second = .ok next ↔ tree.applyBoth second first = .ok next)) ∧
    ∀ gone : Int, second.operation = .removeField → second.index = some gone →
      first.index ≠ some gone →
        (tree.applyBoth first second = .ok next ↔
          tree.applyBoth second (first.afterRemoval gone) = .ok next) := by
  constructor
  · intro other apart
    exact ⟨applyBoth_inPlace kept other apart,applyBoth_inPlace other kept apart.symm⟩
  · intro gone removes chosen apart
    exact applyBoth_removal_iff kept removes chosen apart

-- A sender and a weight, with an edit of each, and the removal of the sender.
def parcel : FieldTree := [.string ⟨"sender",true,none,[]⟩ none,.string ⟨"weight",true,none,[]⟩ none]

def addressing : FieldEdit :=
  ⟨.setFormat,some 0,none,none,some .address,[],none,none,none,none,none⟩

def weighing : FieldEdit :=
  ⟨.setType,some 1,none,some .number,none,[],none,none,none,none,none⟩

def unsigning : FieldEdit :=
  ⟨.removeField,some 0,none,none,none,[],none,none,none,none,none⟩

def weighedParcel : FieldTree :=
  [.string ⟨"sender",true,none,[]⟩ (some .address),.number ⟨"weight",true,none,[]⟩]

theorem parcel_either_order :
    weighing.inPlace ∧ addressing.inPlace ∧ weighing.index ≠ addressing.index ∧
      parcel.applyBoth addressing weighing = .ok weighedParcel ∧
      (weighing.afterRemoval 0).index = some 0 ∧
      parcel.applyBoth unsigning (weighing.afterRemoval 0) = .ok [.number ⟨"weight",true,none,[]⟩] := by
  have kept : weighing.inPlace := ⟨nofun,nofun⟩
  have other : addressing.inPlace := ⟨nofun,nofun⟩
  have apart : weighing.index ≠ addressing.index := by decide
  have inPlace := (applyBoth_either_order parcel weighedParcel weighing addressing kept).1
  have removal := (applyBoth_either_order parcel [.number ⟨"weight",true,none,[]⟩] weighing unsigning kept).2
  exact ⟨kept,other,apart,(inPlace other apart).mp rfl,rfl,(removal 0 rfl rfl (by decide)).mp rfl⟩

end FieldTree

end ExtractionSchema
