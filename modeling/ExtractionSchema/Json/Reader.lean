import ExtractionSchema.Binary64
import ExtractionSchema.Json
import ExtractionSchema.Text.Encoding
import ExtractionSchema.Text.Numeral

namespace ExtractionSchema.Json

-- How many arrays and objects may stand inside one another, if there is an end of it.
abbrev Room := Option Nat

def Room.inside (room : Room) : Room := room.map (· - 1)

inductive Container where
  | array | object
  deriving DecidableEq,Repr

def Container.name : Container → String
  | .array => "array"
  | .object => "object"

def Container.depthText (container : Container) : String :=
  "maximum recursion depth exceeded while decoding a JSON " ++ container.name
    ++ " from a unicode string"

inductive ReadFault where
  | byteOrderMark
  | expectedValue
  | expectedName
  | expectedColon
  | expectedComma
  | extraData
  | controlCharacter
  | unterminatedText
  | badEscape
  | badUnicodeEscape
  | oversizedInteger (digits : Nat)
  | nestedTooDeep (container : Container)
  deriving DecidableEq,Repr

def ReadFault.message : ReadFault → String
  | .byteOrderMark => "Unexpected UTF-8 BOM (decode using utf-8-sig)"
  | .expectedValue => "Expecting value"
  | .expectedName => "Expecting property name enclosed in double quotes"
  | .expectedColon => "Expecting ':' delimiter"
  | .expectedComma => "Expecting ',' delimiter"
  | .extraData => "Extra data"
  | .controlCharacter => "Invalid control character at"
  | .unterminatedText => "Unterminated string starting at"
  | .badEscape => "Invalid \\escape"
  | .badUnicodeEscape => "Invalid \\uXXXX escape"
  | .oversizedInteger digits => Text.oversizedText digits
  | .nestedTooDeep container => container.depthText

def ReadFault.isSyntactic : ReadFault → Bool
  | .oversizedInteger _ | .nestedTooDeep _ => false
  | _ => true

-- What there was no room for. This is a fault of the reader and not of the text.
def ReadFault.tooDeep? : ReadFault → Option Container
  | .nestedTooDeep container => some container
  | _ => none

-- A fault and its place in the text, counted in characters; lines and columns count from one.
structure ReadError where
  fault : ReadFault
  line : Nat
  column : Nat
  position : Nat
  deriving DecidableEq,Repr

def ReadError.message (error : ReadError) : String :=
  if error.fault.isSyntactic then
    error.fault.message ++ ": line " ++ toString error.line ++ " column " ++ toString error.column
      ++ " (char " ++ toString error.position ++ ")"
  else error.fault.message

structure Halt where
  fault : ReadFault
  unread : List Code
  deriving DecidableEq,Repr

def Halt.locate (text : List Code) (halt : Halt) : ReadError :=
  let position := text.length - halt.unread.length
  let before := text.take position
  { fault := halt.fault
    line := before.count (.char '\n') + 1
    column := (before.reverse.takeWhile (· != .char '\n')).length + 1
    position := position }

abbrev Reading (α : Type) := Except Halt (α × List Code)

def halt {α : Type} (fault : ReadFault) (unread : List Code) : Reading α :=
  .error ⟨fault,unread⟩

def isGap : Code → Bool
  | .char c => c == ' ' || c == '\t' || c == '\n' || c == '\r'
  | _ => false

def skipGaps (codes : List Code) : List Code := codes.dropWhile isGap

def simpleEscape? : Code → Option Char
  | .char '"' => some '"'
  | .char '\\' => some '\\'
  | .char '/' => some '/'
  | .char 'b' => some '\x08'
  | .char 'f' => some '\x0c'
  | .char 'n' => some '\n'
  | .char 'r' => some '\r'
  | .char 't' => some '\t'
  | _ => none

-- Where the scan of a quoted text stands: between characters, behind a backslash, or inside a
-- numeric escape, with the digits owed, the value so far and the text from its `u` on.
inductive TextState where
  | plain
  | escape
  | unit (owed value : Nat) (start : List Code)

-- Scans up to the closing quote, with halves of pairs still apart. A numeric escape is complete only
-- when something follows it.
def scanText (opening : List Code) : TextState → List Code → List Code → Reading (List Code)
  | .plain,_,[] => halt .unterminatedText opening
  | .plain,done,code :: rest =>
    if code = .char '"' then .ok (done.reverse,rest)
    else if code = .char '\\' then scanText opening .escape done rest
    else if code.toNat < 0x20 then halt .controlCharacter (code :: rest)
    else scanText opening .plain (code :: done) rest
  | .escape,_,[] => halt .unterminatedText opening
  | .escape,done,code :: rest =>
    if code = .char 'u' then scanText opening (.unit 4 0 (code :: rest)) done rest
    else
      match simpleEscape? code with
      | some plain => scanText opening .plain (.char plain :: done) rest
      | none => halt .badEscape (.char '\\' :: code :: rest)
  | .unit _ _ start,_,[] => halt .badUnicodeEscape start
  | .unit owed value start,done,code :: rest =>
    match code.char?.bind Text.hexValue? with
    | none => halt .badUnicodeEscape start
    | some digit =>
      if owed ≤ 1 then
        if rest.isEmpty then halt .badUnicodeEscape start
        else scanText opening .plain (.ofNat (16 * value + digit) :: done) rest
      else scanText opening (.unit (owed - 1) (16 * value + digit) start) done rest

-- A text whose opening quote has been read; the text from that quote on is kept for reports.
def readText (opening codes : List Code) : Reading Text :=
  match scanText opening .plain [] codes with
  | .error stop => .error stop
  | .ok (scanned,rest) => .ok (.ofCodes scanned,rest)

def isDigit : Code → Bool
  | .char c => '0' ≤ c && c ≤ '9'
  | _ => false

def natValue (digits : List Code) : Nat :=
  digits.foldl (fun n code => 10 * n + (code.toNat - 0x30)) 0

def fractionPart : List Code → List Code × List Code
  | .char '.' :: code :: rest =>
    if isDigit code then (code :: rest).span isDigit else ([],.char '.' :: code :: rest)
  | codes => ([],codes)

-- The exponent, if it has a digit; otherwise its letter is not part of the number.
def exponentPart (codes : List Code) : Option Int × List Code :=
  match codes with
  | e :: rest =>
    if e = .char 'e' ∨ e = .char 'E' then
      let (negative,body) := match rest with
        | .char '-' :: more => (true,more)
        | .char '+' :: more => (false,more)
        | _ => (false,rest)
      match body.span isDigit with
      | ([],_) => (none,codes)
      | (digits,left) =>
        (some (if negative then -(natValue digits : Int) else natValue digits),left)
    else (none,codes)
  | [] => (none,[])

-- A number has no superfluous zero in front. It is an integer unless it has a fraction or an
-- exponent.
def readNumber (codes : List Code) : Reading Json :=
  let (negative,body) := match codes with
    | .char '-' :: rest => (true,rest)
    | _ => (false,codes)
  let whole := match body with
    | .char '0' :: rest => ([.char '0'],rest)
    | _ => body.span isDigit
  match whole with
  | ([],_) => halt .expectedValue codes
  | (digits,afterWhole) =>
    let (fraction,afterFraction) := fractionPart afterWhole
    let (exponent,rest) := exponentPart afterFraction
    if fraction.isEmpty && exponent.isNone then
      if Text.digitLimit < digits.length then halt (.oversizedInteger digits.length) codes
      else
        let n : Int := natValue digits
        .ok (.int (if negative then -n else n),rest)
    else
      .ok (.float (Binary64.ofDecimal negative (natValue (digits ++ fraction))
        (exponent.getD 0 - fraction.length)),rest)

def constants : List (List Code × Json) :=
  [("null",.null),("true",.bool true),("false",.bool false),("NaN",.float .nan),
    ("Infinity",.float (.infinite false)),("-Infinity",.float (.infinite true))]

def constant? (codes : List Code) : Option (Json × List Code) :=
  (constants.find? fun (word,_) => word.isPrefixOf codes).map fun (word,value) =>
    (value,codes.drop word.length)

def readScalar (codes : List Code) : Reading Json :=
  match constant? codes with
  | some result => .ok result
  | none => readNumber codes

-- The first argument bounds the steps; every value, item and member takes one, and each value
-- has a code point of its own, so twice the length of the text is enough.
mutual
def readValue : Nat → Room → List Code → Reading Json
  | 0,_,codes => halt .expectedValue codes
  | _ + 1,_,.char '"' :: rest =>
    match readText (.char '"' :: rest) rest with
    | .error stop => .error stop
    | .ok (value,left) => .ok (.str value,left)
  | fuel + 1,room,.char '[' :: rest =>
    if room = some 0 then halt (.nestedTooDeep .array) (.char '[' :: rest)
    else
      match skipGaps rest with
      | .char ']' :: left => .ok (.arr [],left)
      | body => readItems fuel room.inside [] body
  | fuel + 1,room,.char '\x7b' :: rest =>
    if room = some 0 then halt (.nestedTooDeep .object) (.char '\x7b' :: rest)
    else
      match skipGaps rest with
      | .char '\x7d' :: left => .ok (.obj [],left)
      | body => readMembers fuel room.inside [] body
  | _ + 1,_,codes => readScalar codes
termination_by structural fuel => fuel
def readItems : Nat → Room → List Json → List Code → Reading Json
  | 0,_,_,codes => halt .expectedValue codes
  | fuel + 1,room,done,codes =>
    match readValue fuel room codes with
    | .error stop => .error stop
    | .ok (value,rest) =>
      match skipGaps rest with
      | .char ']' :: left => .ok (.arr (value :: done).reverse,left)
      | .char ',' :: left => readItems fuel room (value :: done) (skipGaps left)
      | left => halt .expectedComma left
termination_by structural fuel => fuel
def readMembers : Nat → Room → List (Text × Json) → List Code → Reading Json
  | 0,_,_,codes => halt .expectedName codes
  | fuel + 1,room,done,.char '"' :: codes =>
    match readText (.char '"' :: codes) codes with
    | .error stop => .error stop
    | .ok (key,afterKey) =>
      match skipGaps afterKey with
      | .char ':' :: body =>
        match readValue fuel room (skipGaps body) with
        | .error stop => .error stop
        | .ok (value,rest) =>
          match skipGaps rest with
          | .char '\x7d' :: left => .ok (.obj (Entries.collapse ((key,value) :: done).reverse),left)
          | .char ',' :: left => readMembers fuel room ((key,value) :: done) (skipGaps left)
          | left => halt .expectedComma left
      | left => halt .expectedColon left
  | _ + 1,_,_,codes => halt .expectedName codes
termination_by structural fuel => fuel
end

def readAll (room : Room) (codes : List Code) : Except Halt Json :=
  match codes with
  | .char '\uFEFF' :: _ => .error ⟨.byteOrderMark,codes⟩
  | _ =>
    match readValue (2 * codes.length + 2) room (skipGaps codes) with
    | .error stop => .error stop
    | .ok (value,rest) =>
      match skipGaps rest with
      | [] => .ok value
      | left => .error ⟨.extraData,left⟩

def read (room : Room) (text : List Code) : Except ReadError Json :=
  (readAll room text).mapError (·.locate text)

end ExtractionSchema.Json
