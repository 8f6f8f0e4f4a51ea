import ExtractionSchema.Binary64
import ExtractionSchema.Text

namespace ExtractionSchema

abbrev Entries (α : Type) := List (Text × α)

namespace Entries

variable {α : Type}

def put (key : Text) (value : α) : Entries α → Entries α
  | [] => [(key,value)]
  | (k,v) :: rest => if k = key then (k,value) :: rest else (k,v) :: put key value rest

-- Each name once: at the place of its first occurrence, with the value of its last.
def collapse (pairs : List (Text × α)) : Entries α :=
  pairs.foldl (fun entries (key,value) => entries.put key value) []

def keys (entries : Entries α) : List Text := entries.map (·.1)

def get? (key : Text) (entries : Entries α) : Option α := entries.lookup key

end Entries

inductive Json where
  | null
  | bool (value : Bool)
  | int (value : Int)
  | float (value : Binary64)
  | str (value : Text)
  | arr (items : List Json)
  | obj (members : List (Text × Json))
  deriving Repr,Inhabited

namespace Json

inductive Kind where
  | null | bool | int | float | str | arr | obj
  deriving DecidableEq,Repr

def Kind.name : Kind → String
  | .null => "NoneType"
  | .bool => "bool"
  | .int => "int"
  | .float => "float"
  | .str => "str"
  | .arr => "list"
  | .obj => "dict"

def kind : Json → Kind
  | .null => .null
  | .bool _ => .bool
  | .int _ => .int
  | .float _ => .float
  | .str _ => .str
  | .arr _ => .arr
  | .obj _ => .obj

-- Whether a value counts as a yes where a flag is not checked: what is empty, zero or null
-- counts as a no.
def isTruthy : Json → Bool
  | .null => false
  | .bool value => value
  | .int value => value != 0
  | .float value => value.isTruthy
  | .str value => !value.isEmpty
  | .arr items => !items.isEmpty
  | .obj members => !members.isEmpty

def isScalar : Json → Bool
  | .arr _ | .obj _ => false
  | _ => true

-- What a walk over the value visits: the items of an array, the names of an object, the
-- code points of a text. Nothing else can be walked.
def elements? : Json → Option (List Json)
  | .arr items => some items
  | .obj members => some (members.map fun (key,_) => .str key)
  | .str value => some (value.codes.map fun code => .str (.ofCodes [code]))
  | _ => none

mutual
def decEq : (a b : Json) → Decidable (a = b)
  | .null,.null => isTrue rfl
  | .bool a,.bool b => if h : a = b then isTrue (by rw [h]) else isFalse (by simpa using h)
  | .int a,.int b => if h : a = b then isTrue (by rw [h]) else isFalse (by simpa using h)
  | .float a,.float b => if h : a = b then isTrue (by rw [h]) else isFalse (by simpa using h)
  | .str a,.str b => if h : a = b then isTrue (by rw [h]) else isFalse (by simpa using h)
  | .arr a,.arr b =>
    match decEqItems a b with
    | isTrue h => isTrue (by rw [h])
    | isFalse h => isFalse (by simpa using h)
  | .obj a,.obj b =>
    match decEqMembers a b with
    | isTrue h => isTrue (by rw [h])
    | isFalse h => isFalse (by simpa using h)
  | .null,.bool _ | .null,.int _ | .null,.float _ | .null,.str _ | .null,.arr _
  | .null,.obj _ | .bool _,.null | .bool _,.int _ | .bool _,.float _ | .bool _,.str _
  | .bool _,.arr _ | .bool _,.obj _ | .int _,.null | .int _,.bool _ | .int _,.float _
  | .int _,.str _ | .int _,.arr _ | .int _,.obj _ | .float _,.null | .float _,.bool _
  | .float _,.int _ | .float _,.str _ | .float _,.arr _ | .float _,.obj _ | .str _,.null
  | .str _,.bool _ | .str _,.int _ | .str _,.float _ | .str _,.arr _ | .str _,.obj _
  | .arr _,.null | .arr _,.bool _ | .arr _,.int _ | .arr _,.float _ | .arr _,.str _
  | .arr _,.obj _ | .obj _,.null | .obj _,.bool _ | .obj _,.int _ | .obj _,.float _
  | .obj _,.str _ | .obj _,.arr _ => isFalse (by simp)
termination_by structural a => a
def decEqItems : (a b : List Json) → Decidable (a = b)
  | [],[] => isTrue rfl
  | [],_ :: _ | _ :: _,[] => isFalse (by simp)
  | v :: vs,w :: ws =>
    match v.decEq w with
    | isFalse h => isFalse (by simp [h])
    | isTrue h =>
      match decEqItems vs ws with
      | isTrue h' => isTrue (by rw [h,h'])
      | isFalse h' => isFalse (by simp [h'])
termination_by structural a => a
def decEqMembers : (a b : List (Text × Json)) → Decidable (a = b)
  | [],[] => isTrue rfl
  | [],_ :: _ | _ :: _,[] => isFalse (by simp)
  | (j,v) :: vs,(k,w) :: ws =>
    if hk : j = k then
      match v.decEq w with
      | isFalse h => isFalse (by simp [h])
      | isTrue h =>
        match decEqMembers vs ws with
        | isTrue h' => isTrue (by rw [hk,h,h'])
        | isFalse h' => isFalse (by simp [h'])
    else isFalse (by simp [hk])
termination_by structural a => a
end

instance : DecidableEq Json := decEq

mutual
def isFinite : Json → Bool
  | .null | .bool _ | .int _ | .str _ => true
  | .float value => value.isFinite
  | .arr items => areFinite items
  | .obj members => haveFinite members
termination_by structural value => value
def areFinite : List Json → Bool
  | [] => true
  | value :: rest => value.isFinite && areFinite rest
termination_by structural items => items
def haveFinite : List (Text × Json) → Bool
  | [] => true
  | (_,value) :: rest => value.isFinite && haveFinite rest
termination_by structural members => members
end

mutual
-- Whether no text of the value has half a pair in it, nor any name of a member.
def isWhole : Json → Bool
  | .null | .bool _ | .int _ | .float _ => true
  | .str text => text.isWhole
  | .arr items => areWhole items
  | .obj members => haveWhole members
termination_by structural value => value
def areWhole : List Json → Bool
  | [] => true
  | value :: rest => value.isWhole && areWhole rest
termination_by structural items => items
def haveWhole : List (Text × Json) → Bool
  | [] => true
  | (key,value) :: rest => (key.isWhole && value.isWhole) && haveWhole rest
termination_by structural members => members
end

mutual
def withNulls : Json → Json
  | .float value => if value.isFinite then .float value else .null
  | .arr items => .arr (withNullsAll items)
  | .obj members => .obj (withNullsIn members)
  | .null => .null
  | .bool value => .bool value
  | .int value => .int value
  | .str value => .str value
termination_by structural value => value
def withNullsAll : List Json → List Json
  | [] => []
  | value :: rest => value.withNulls :: withNullsAll rest
termination_by structural items => items
def withNullsIn : List (Text × Json) → List (Text × Json)
  | [] => []
  | (key,value) :: rest => (key,value.withNulls) :: withNullsIn rest
termination_by structural members => members
end

theorem induction {P : Json → Prop} (scalar : ∀ value : Json, value.isScalar = true → P value)
    (arr : ∀ items, (∀ value ∈ items, P value) → P (.arr items))
    (obj : ∀ members, (∀ member ∈ members, P member.2) → P (.obj members)) : ∀ value, P value := by
  intro value
  refine @Json.rec P (fun items => ∀ value ∈ items, P value)
    (fun members => ∀ member ∈ members, P member.2) (fun member => P member.2) (scalar _ rfl)
    (fun _ => scalar _ rfl) (fun _ => scalar _ rfl) (fun _ => scalar _ rfl) (fun _ => scalar _ rfl)
    arr obj ?_ ?_ ?_ ?_ (fun _ _ inner => inner) value
  · simp
  · intro first rest head tail
    exact List.forall_mem_cons.mpr ⟨head,tail⟩
  · simp
  · intro first rest head tail
    exact List.forall_mem_cons.mpr ⟨head,tail⟩

end Json

end ExtractionSchema
