import ExtractionSchema.Failure
import ExtractionSchema.Field
import ExtractionSchema.Text

namespace ExtractionSchema

-- The path of a field among its siblings: its trimmed name, or its position when that is empty.
def siblingPath (path : Text) (position : Nat) (name : Text) : Text :=
  let label := Text.strip name
  if label.isEmpty then indexPath path (toString position) else joinPath path label

def itemsPath (path : Text) : Text := path ++ ".items"

def violation (fault : TreeFault) (path : Text) : Except TreeError Unit :=
  .error ⟨fault,some path⟩

def checkName (path : Text) (named : Bool) (name : Text) : Except TreeError Unit :=
  if named && Text.isBlankText name then violation .blankName path else .ok ()

mutual
def checkField (path : Text) (named : Bool) : Field → Except TreeError Unit
  | .string attributes _ => checkName path named attributes.name
  | .number attributes => checkName path named attributes.name
  | .boolean attributes => checkName path named attributes.name
  | .array attributes none =>
    match checkName path named attributes.name with
    | .error error => .error error
    | .ok () => violation .missingItems path
  | .array attributes (some item) =>
    match checkName path named attributes.name with
    | .error error => .error error
    | .ok () => checkField (itemsPath path) false item
  | .object attributes properties =>
    match checkName path named attributes.name with
    | .error error => .error error
    | .ok () => checkSiblings path 0 [] properties
termination_by structural field => field
-- The fields from a position on; the names before it are known.
def checkSiblings (path : Text) (position : Nat) (seen : List Text) :
    List Field → Except TreeError Unit
  | [] => .ok ()
  | field :: rest =>
    let here := siblingPath path position field.name
    match checkField here true field with
    | .error error => .error error
    | .ok () =>
      if seen.contains field.name then violation (.repeatedName field.name) here
      else checkSiblings path (position + 1) (field.name :: seen) rest
termination_by structural fields => fields
end

namespace FieldTree

def check (tree : FieldTree) (path : Text) : Except TreeError Unit :=
  checkSiblings path 0 [] tree

def isWellFormed (tree : FieldTree) : Bool := (tree.check "").isOk

-- The same check on JSON values that have not been read as fields: the first one is a violation.
def checkUnread (raw : Json) (path : Text) : Except Failure Unit :=
  match raw.elements? with
  | none => .error (.misuse (.notIterable raw.kind))
  | some [] => .ok ()
  | some (value :: _) => .error (.tree ⟨.notAField value.kind,some (indexPath path "0")⟩)

def isWellFormedUnread (raw : Json) : Except Failure Bool :=
  match checkUnread raw "" with
  | .ok () => .ok true
  | .error (.tree _) => .ok false
  | .error failure => .error failure

end FieldTree

mutual
-- A field with nothing wrong inside, whatever its own name.
def SoundInside : Field → Prop
  | .string _ _ | .number _ | .boolean _ => True
  | .array _ none => False
  | .array _ (some item) => SoundInside item
  | .object _ properties => SoundAmong properties ∧ (properties.map (·.name)).Nodup
termination_by structural field => field
def SoundAmong : List Field → Prop
  | [] => True
  | field :: rest =>
    (Text.isBlankText field.name = false ∧ SoundInside field) ∧ SoundAmong rest
termination_by structural fields => fields
end

def FieldTree.WellFormed (tree : FieldTree) : Prop :=
  SoundAmong tree ∧ (tree.map (·.name)).Nodup

end ExtractionSchema
