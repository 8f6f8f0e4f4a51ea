import ExtractionSchema.Binary64
import ExtractionSchema.Json
import ExtractionSchema.Text.Quoted

namespace ExtractionSchema.Json

def separated {α : Type} (separator : List α) : List (List α) → List α
  | [] => []
  | [part] => part
  | part :: rest => part ++ separator ++ separated separator rest

mutual
def shown : Json → List Char
  | .null => "None".toList
  | .bool true => "True".toList
  | .bool false => "False".toList
  | .int value => (toString value).toList
  | .float value => value.text .shown
  | .str value => Text.quoted value
  | .arr items => '[' :: separated [',',' '] (shownItems items) ++ [']']
  | .obj members => '\x7b' :: separated [',',' '] (shownMembers members) ++ ['\x7d']
termination_by structural value => value
def shownItems : List Json → List (List Char)
  | [] => []
  | value :: rest => value.shown :: shownItems rest
termination_by structural items => items
def shownMembers : List (Text × Json) → List (List Char)
  | [] => []
  | (key,value) :: rest => (Text.quoted key ++ [':',' '] ++ value.shown) :: shownMembers rest
termination_by structural members => members
end

def display (value : Json) : String := String.ofList value.shown

-- The value as text: a text is itself, anything else is as messages quote it.
def asText : Json → Text
  | .str value => value
  | value => value.display

structure Style where
  asciiOnly : Bool
  afterItem : List Code
  afterKey : List Code
  deriving DecidableEq,Repr

def Style.compact : Style := ⟨false,",",":"⟩

def Style.compactAscii : Style := ⟨true,",",":"⟩

def Style.spacedAscii : Style := ⟨true,", ",": "⟩

def unitEscape (n : Nat) : List Char := '\\' :: 'u' :: Text.hex 4 n

-- Code points above U+FFFF are escaped as two surrogates.
def codeEscape (n : Nat) : List Char :=
  if n < 0x10000 then unitEscape n
  else unitEscape (0xD800 + (n - 0x10000) / 0x400) ++ unitEscape (0xDC00 + (n - 0x10000) % 0x400)

def writeChar (style : Style) (c : Char) : List Char :=
  if c = '"' then ['\\','"']
  else if c = '\\' then ['\\','\\']
  else if c = '\n' then ['\\','n']
  else if c = '\r' then ['\\','r']
  else if c = '\t' then ['\\','t']
  else if c = '\x08' then ['\\','b']
  else if c = '\x0c' then ['\\','f']
  else if c.toNat < 0x20 then unitEscape c.toNat
  else if style.asciiOnly && 0x7F ≤ c.toNat then codeEscape c.toNat
  else [c]

def writeCode (style : Style) : Code → List Code
  | .char c => (writeChar style c).map .char
  | half => if style.asciiOnly then (unitEscape half.toNat).map .char else [half]

def writeText (style : Style) (text : Text) : List Code :=
  .char '"' :: text.codes.flatMap (writeCode style) ++ [.char '"']

mutual
def write (style : Style) : Json → List Code
  | .null => "null"
  | .bool true => "true"
  | .bool false => "false"
  | .int value => toString value
  | .float value => (value.text .json).map .char
  | .str value => writeText style value
  | .arr items => .char '[' :: separated style.afterItem (writeItems style items) ++ [.char ']']
  | .obj members =>
    .char '\x7b' :: separated style.afterItem (writeMembers style members) ++ [.char '\x7d']
termination_by structural value => value
def writeItems (style : Style) : List Json → List (List Code)
  | [] => []
  | value :: rest => value.write style :: writeItems style rest
termination_by structural items => items
def writeMembers (style : Style) : List (Text × Json) → List (List Code)
  | [] => []
  | (key,value) :: rest =>
    (writeText style key ++ style.afterKey ++ value.write style) :: writeMembers style rest
termination_by structural members => members
end

end ExtractionSchema.Json
