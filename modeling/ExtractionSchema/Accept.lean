import ExtractionSchema.Text.Numeral
import ExtractionSchema.Text.Uppercase
import ExtractionSchema.Verdict

namespace ExtractionSchema.Accept

def text : Json → Verdict Text
  | .str value => .accepted value
  | _ => .reject .notText

-- The least integer that needs more than 64 bits with its sign.
def wordBound : Int := 0x8000000000000000

def fitsWord (n : Int) : Bool := -wordBound ≤ n && n < wordBound

def insideWord (n : Int) : Bool := -wordBound < n && n < wordBound

def trueWords : List String := ["1","on","t","true","y","yes"]

def falseWords : List String := ["0","off","f","false","n","no"]

def flagWord? (word : String) : Option Bool :=
  let lower := Text.lowerAscii word
  if trueWords.contains lower then some true
  else if falseWords.contains lower then some false
  else none

def flagOfInt (n : Int) : Verdict Bool :=
  if n = 0 then .accepted false else if n = 1 then .accepted true else .reject .unreadableFlag

def flag : Json → Verdict Bool
  | .bool value => .accepted value
  | .int n => if fitsWord n then flagOfInt n else .reject .notFlag
  | .float x =>
    match x.toInt? with
    | some n => if insideWord n then flagOfInt n else .reject .notFlag
    | none => .reject .notFlag
  | .str text =>
    match text.string? with
    | none => .reject .brokenText
    | some word =>
      match flagWord? word with
      | some value => .accepted value
      | none => .reject .unreadableFlag
  | _ => .reject .notFlag

def integer : Json → Verdict Int
  | .int n => .accepted n
  | .bool value => .accepted (if value then 1 else 0)
  | .float x =>
    if x.isFinite then
      match x.toInt? with
      | some n => if insideWord n then .accepted n else .reject .oversizedInteger
      | none => .reject .fractionalInteger
    else .reject .infiniteInteger
  | .str text =>
    match text.string? with
    | none => .reject .brokenText
    | some numeral =>
      match Text.wholeNumber numeral with
      | .ok n => .accepted n
      | .error .malformed => .reject .unreadableInteger
      | .error (.oversized _) => .reject .oversizedInteger
  | _ => .reject .notInteger

-- An integer beyond the finite range is no number of this kind.
def number : Json → Verdict Binary64
  | .float x => .accepted x
  | .int n =>
    let x := Binary64.ofInt n
    if x.isFinite then .accepted x else .reject .notNumber
  | .bool value => .accepted (Binary64.ofInt (if value then 1 else 0))
  | .str text =>
    match text.string? with
    | none => .reject .brokenText
    | some numeral =>
      match Text.looseDecimal? numeral with
      | some x => .accepted x
      | none => .reject .unreadableNumber
  | _ => .reject .notNumber

def oneOf {α : Type} (ofName? : Text → Option α) (refusal : Fault) : Json → Verdict α
  | .str name =>
    match ofName? name with
    | some value => .accepted value
    | none => .reject (if name.isWhole then refusal else .brokenText)
  | _ => .reject refusal

def format : Json → Verdict Format :=
  oneOf Format.ofName? (.notInEnumeration (Format.all.map (·.name)))

def fieldType : Json → Verdict FieldType :=
  oneOf FieldType.ofName? (.notInEnumeration (FieldType.all.map (·.name)))

def optional {α : Type} (read : Json → Verdict α) : Json → Verdict (Option α)
  | .null => .accepted none
  | value => (read value).map some

variable {α : Type}

def list (read : Json → Verdict α) : Json → Verdict (List α)
  | .arr items => .each read 0 items
  | _ => .reject .notList

def tuple (read : Json → Verdict α) : Json → Verdict (List α)
  | .arr items => .each read 0 items
  | _ => .reject .notTuple

def missingPlaces (length size : Nat) : List Issue :=
  (List.range' length (size - length)).map fun (place : Nat) => ⟨[.index place],.missing⟩

-- A tuple of a fixed size. One that is too long is reported as a whole.
def fixedTuple (read : Json → Verdict α) (size : Nat) : Json → Verdict (List α)
  | .arr items =>
    if size < items.length then .reject (.tooLong size items.length)
    else (Verdict.each read 0 items).also (.ofIssues (missingPlaces items.length size))
  | _ => .reject .notTuple

def dictionary : Json → Verdict (List (Text × Json))
  | .obj members => .accepted members
  | _ => .reject .notDictionary

def member (key : Text) (read : Json → Verdict α) (absent : α)
    (members : List (Text × Json)) : Verdict α :=
  match members.lookup key with
  | none => .accepted absent
  | some value => (read value).within (.key key)

def requiredMember (key : Text) (read : Json → Verdict α) (members : List (Text × Json)) :
    Verdict α :=
  match members.lookup key with
  | none => .rejected ⟨[.key key],.missing⟩ []
  | some value => (read value).within (.key key)

def onlyKeys (allowed : List Text) (members : List (Text × Json)) : Verdict Unit :=
  .ofIssues <| (members.filter fun (key,_) => !allowed.contains key).map fun (key,_) =>
    ⟨[.key key],.unknownKey⟩

-- Where a record comes from decides how a value that is no record is reported.
inductive Source where
  | direct
  | request
  deriving DecidableEq,Repr

def record (source : Source) (model : String) (read : List (Text × Json) → Verdict α) :
    Json → Verdict α
  | .obj members => read members
  | _ =>
    match source with
    | .direct => .reject (.notRecord model)
    | .request => .reject .notAttributes

end ExtractionSchema.Accept
