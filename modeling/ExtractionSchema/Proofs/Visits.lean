import ExtractionSchema.Field.Reader
import ExtractionSchema.Location

namespace ExtractionSchema

inductive Step where
  | index (position : Nat)
  | key (name : Text)
  deriving DecidableEq,Repr

abbrev Address := List Step

def Step.follow? : Step → Json → Option Json
  | .index position,.arr items => items[position]?
  | .key name,.obj members => members.lookup name
  | _,_ => none

def Step.extend (path : Text) : Step → Text
  | .index position => path ++ "[" ++ toString position ++ "]"
  | .key name => if path = "" then name else path ++ "." ++ name

namespace Address

def follow? : Address → Json → Option Json
  | [],value => some value
  | step :: rest,value => (step.follow? value).bind (follow? rest)

def pathFrom (path : Text) (address : Address) : Text := address.foldl Step.extend path

def path (address : Address) : Text := pathFrom "" address

end Address

namespace Location

-- Whether the type of a field is looked for behind a segment, or at the start.
def Opens (previous : Option Segment) : Prop :=
  ∀ type, isTag previous (.tag type) = true

-- A location that leads the way of an address, the types of fields apart.
inductive Spells : Option Segment → Location → Address → Prop where
  | here {previous} : Spells previous [] []
  | tag {previous type rest address} (opens : Opens previous)
      (inner : Spells (some (.tag type)) rest address) :
    Spells previous (.tag type :: rest) address
  | index {previous rest address} {position : Nat}
      (inner : Spells (some (.index position)) rest address) :
    Spells previous (.index position :: rest) (.index position :: address)
  | key {previous name rest address} (plain : isTag previous (.key name) = false)
      (inner : Spells (some (.key name)) rest address) :
    Spells previous (.key name :: rest) (.key name :: address)

theorem opens_start : Opens none := fun _ => rfl

theorem opens_index (position : Int) : Opens (some (.index position)) := fun _ => rfl

theorem opens_items : Opens (some (.key "items")) := fun _ => by simp [isTag,Segment.isTypeName]

-- Behind the type of a field every key is one of its attributes, whatever it is called.
theorem isTag_attribute (type : FieldType) (segment : Segment) :
    isTag (some (.tag type)) segment = false := by
  simp [isTag,Segment.isPosition]

theorem Spells.pathFrom_eq {previous : Option Segment} {location : Location} {address : Address}
    (spells : Spells previous location address) (path : Text) :
    pathFrom path previous location = address.pathFrom path := by
  induction spells generalizing path with
  | here => rfl
  | @tag previous type rest address opens inner ih =>
    simpa [pathFrom,Segment.isPosition,opens type] using ih path
  | @index previous rest address position inner ih =>
    have spelled : toString (position : Int) = toString position := rfl
    simpa [pathFrom,Segment.isPosition,Segment.text,indexPath,Address.pathFrom,Step.extend,spelled]
      using ih (indexPath path (toString position))
  | @key previous name rest address plain inner ih =>
    simpa [pathFrom,Segment.isPosition,Segment.text,plain,joinPath,Address.pathFrom,Step.extend] using
      ih (joinPath path name)

theorem Spells.path_eq {location : Location} {address : Address}
    (spells : Spells none location address) : location.path = address.path :=
  spells.pathFrom_eq ""

end Location

def Verdict.fault? {α : Type} : Verdict α → Option Fault
  | .accepted _ => none
  | .rejected first _ => some first.fault

inductive Expected where
  | tree
  -- A field, on from which only so many arrays and objects may be nested.
  | field (room : Nat)
  | text
  | flag
  | optionalText
  | optionalFormat
  | tuple
  | nothing
  | brokenNames
  deriving DecidableEq,Repr

-- What is wrong with a value by itself, whatever is inside it.
def Expected.fault? : Expected → Json → Option Fault
  | .tree,.arr _ => none
  | .tree,_ => some .notList
  | .field room,.obj members =>
    match readTag members with
    | .rejected first _ => some first.fault
    | .accepted type => if type.isContainer && room == 0 then some .nestedTooDeep else none
  | .field _,_ => some .notAttributes
  | .text,value => (Accept.text value).fault?
  | .flag,value => (Accept.flag value).fault?
  | .optionalText,value => (Accept.optional Accept.text value).fault?
  | .optionalFormat,value => (Accept.optional Accept.format value).fault?
  | .tuple,.arr _ => none
  | .tuple,_ => some .notTuple
  | .nothing,_ => some .unknownKey
  | .brokenNames,_ => some .brokenText

structure Visit where
  address : Address
  expected : Expected
  value : Json

namespace Visit

def fault? (visit : Visit) : Option Fault := visit.expected.fault? visit.value

def within (step : Step) (visit : Visit) : Visit :=
  { visit with address := step :: visit.address }

def here (expected : Expected) (value : Json) : List Visit := [⟨[],expected,value⟩]

def atKey (key : Text) (visits : Json → List Visit) (members : List (Text × Json)) :
    List Visit :=
  match members.lookup key with
  | none => []
  | some value => (visits value).map (within (.key key))

def elements (visits : Json → List Visit) : Json → List Visit
  | .arr items => items.zipIdx.flatMap fun (value,position) =>
    (visits value).map (within (.index position))
  | _ => []

def unlessNull (visits : Json → List Visit) : Json → List Visit
  | .null => []
  | value => visits value

def tuple (visits : Json → List Visit) (value : Json) : List Visit :=
  here .tuple value ++ elements visits value

def attributes (members : List (Text × Json)) : List Visit :=
  atKey "name" (here .text) members ++ (atKey "required" (here .flag) members ++
    (atKey "description" (here .optionalText) members ++
      atKey "examples" (tuple (here .text)) members))

-- What belongs to the type, with the places inside a field.
def own (inner : Json → List Visit) (members : List (Text × Json)) : FieldType → List Visit
  | .string => atKey "format" (here .optionalFormat) members
  | .number | .boolean => []
  | .array => atKey "items" (unlessNull inner) members
  | .object => atKey "properties" (tuple inner) members

def strayKeys (type : FieldType) (members : List (Text × Json)) : List Text :=
  (members.map (·.1)).filter fun key => !type.keys.contains key

def strays (type : FieldType) (members : List (Text × Json)) : List Visit :=
  (strayKeys type members).flatMap fun key => atKey key (here .nothing) members

def variant (inner : Json → List Visit) (members : List (Text × Json)) (type : FieldType) :
    List Visit :=
  if members.all (·.1.isWhole) then attributes members ++ own inner members type ++ strays type members
  else here .brokenNames (.obj members)

def innermost (members : List (Text × Json)) (type : FieldType) : List Visit :=
  if type.isContainer then [] else variant (fun _ => []) members type

def tagged (inside : List (Text × Json) → FieldType → List Visit)
    (members : List (Text × Json)) : List Visit :=
  match readTag members with
  | .accepted type => inside members type
  | .rejected _ _ => []

-- Nothing is looked at inside what is no field, or a field of no type.
def field : Nat → Json → List Visit
  | 0,.obj members => here (.field 0) (.obj members) ++ tagged innermost members
  | room + 1,.obj members =>
    here (.field (room + 1)) (.obj members) ++ tagged (variant (field room)) members
  | room,value => here (.field room) value

def tree (value : Json) : List Visit := here .tree value ++ elements (field nestingLimit) value

-- The address of a place leads to its value.
def Rooted (value : Json) (visits : List Visit) : Prop :=
  ∀ visit ∈ visits, visit.address.follow? value = some visit.value

theorem rooted_here (expected : Expected) (value : Json) : Rooted value (here expected value) := by
  intro visit member
  cases List.mem_singleton.mp member
  rfl

theorem rooted_none (value : Json) : Rooted value [] := by simp [Rooted]

theorem Rooted.append {value : Json} {first second : List Visit} (one : Rooted value first)
    (other : Rooted value second) : Rooted value (first ++ second) :=
  List.forall_mem_append.mpr ⟨one,other⟩

theorem Rooted.within {outer value : Json} {step : Step} {visits : List Visit}
    (inner : Rooted value visits) (leads : step.follow? outer = some value) :
    Rooted outer (visits.map (within step)) := by
  intro visit member
  obtain ⟨inside,found,rfl⟩ := List.mem_map.mp member
  simp [Visit.within,Address.follow?,leads,inner inside found]

section

variable {visits : Json → List Visit} (each : ∀ value, Rooted value (visits value))
include each

theorem rooted_atKey (key : Text) (members : List (Text × Json)) :
    Rooted (.obj members) (atKey key visits members) := by
  unfold atKey
  cases found : members.lookup key with
  | none => exact rooted_none _
  | some value => exact (each value).within found

theorem rooted_elements (value : Json) : Rooted value (elements visits value) := by
  cases value with
  | arr items =>
    intro visit member
    obtain ⟨⟨item,position⟩,element,inside⟩ := List.mem_flatMap.mp member
    have leads : (Step.index position).follow? (.arr items) = some item :=
      List.mk_mem_zipIdx_iff_getElem?.mp element
    exact (each item).within leads visit inside
  | _ => exact rooted_none _

theorem rooted_tuple (value : Json) : Rooted value (tuple visits value) :=
  (rooted_here .tuple value).append (rooted_elements each value)

theorem rooted_unlessNull (value : Json) : Rooted value (unlessNull visits value) := by
  cases value with
  | null => exact rooted_none _
  | _ => exact each _

theorem rooted_own (members : List (Text × Json)) (type : FieldType) :
    Rooted (.obj members) (own visits members type) := by
  cases type with
  | string => exact rooted_atKey (rooted_here .optionalFormat) "format" members
  | number => exact rooted_none _
  | boolean => exact rooted_none _
  | array => exact rooted_atKey (rooted_unlessNull each) "items" members
  | object => exact rooted_atKey (rooted_tuple each) "properties" members

theorem rooted_variant (members : List (Text × Json)) (type : FieldType) :
    Rooted (.obj members) (variant visits members type) := by
  have common : Rooted (.obj members) (attributes members) :=
    (rooted_atKey (rooted_here .text) "name" members).append
      ((rooted_atKey (rooted_here .flag) "required" members).append
        ((rooted_atKey (rooted_here .optionalText) "description" members).append
          (rooted_atKey (rooted_tuple (rooted_here .text)) "examples" members)))
  have unknown : Rooted (.obj members) (strays type members) := by
    intro visit member
    obtain ⟨key,_,inside⟩ := List.mem_flatMap.mp member
    exact rooted_atKey (rooted_here .nothing) key members visit inside
  unfold variant
  split
  · exact (common.append (rooted_own each members type)).append unknown
  · exact rooted_here _ _

end

theorem rooted_tagged {inside : List (Text × Json) → FieldType → List Visit}
    {members : List (Text × Json)} (each : ∀ type, Rooted (.obj members) (inside members type)) :
    Rooted (.obj members) (tagged inside members) := by
  unfold tagged
  cases readTag members with
  | accepted type => exact each type
  | rejected first rest => exact rooted_none _

theorem rooted_innermost (members : List (Text × Json)) (type : FieldType) :
    Rooted (.obj members) (innermost members type) := by
  unfold innermost
  split
  · exact rooted_none _
  · exact rooted_variant (fun _ => rooted_none _) members type

theorem rooted_field (room : Nat) (value : Json) : Rooted value (field room value) := by
  induction room generalizing value with
  | zero =>
    cases value with
    | obj members => exact (rooted_here _ _).append (rooted_tagged (rooted_innermost members))
    | _ => exact rooted_here _ _
  | succ room ih =>
    cases value with
    | obj members => exact (rooted_here _ _).append (rooted_tagged (rooted_variant ih members))
    | _ => exact rooted_here _ _

theorem rooted_tree (value : Json) : Rooted value (tree value) :=
  (rooted_here .tree value).append (rooted_elements (rooted_field nestingLimit) value)

end Visit

end ExtractionSchema
