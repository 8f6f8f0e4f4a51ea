import ExtractionSchema.Text

namespace ExtractionSchema.Text

def octets (text : String) : List Nat :=
  text.toList.flatMap fun c => (String.utf8EncodeChar c).map UInt8.toNat

def octetChars (text : String) : String := String.ofList ((octets text).map Char.ofNat)

def charsetWords (name : String) : List String :=
  (((name.toList.map Char.toLower).splitBy fun a b => a.isAlphanum == b.isAlphanum).filter
    fun word => word.all Char.isAlphanum).map String.ofList

def isUtf8Name (name : String) : Bool :=
  [["utf","8"],["utf8"],["u8"],["utf"],["cp65001"]].contains (charsetWords name)

inductive Decoding where
  | text (text : String)
  | unsuited
  | failed
  deriving DecidableEq,Repr

abbrev Charsets := String → List Nat → Decoding

def Charsets.none : Charsets := fun _ _ => .unsuited

-- The text that a charset makes of the octets of a text in UTF-8. Where it makes none, each octet is
-- a character, unless all reading fails.
def readAs (charsets : Charsets) (charset text : String) : Option String :=
  if isUtf8Name charset then some text
  else
    match charsets charset (octets text) with
    | .text decoded => some decoded
    | .unsuited => some (octetChars text)
    | .failed => none

inductive ByteOrder where
  | highFirst
  | lowFirst
  deriving DecidableEq,Repr

inductive Encoding where
  | utf8
  | utf16 (order : ByteOrder)
  | utf32 (order : ByteOrder)
  deriving DecidableEq,Repr

def ByteOrder.unit (order : ByteOrder) (octets : List Nat) : Nat :=
  let falling := match order with
    | .highFirst => octets
    | .lowFirst => octets.reverse
  falling.foldl (fun n octet => 256 * n + octet) 0

def pairUnits? (order : ByteOrder) : List Nat → Option (List Nat)
  | [] => some []
  | a :: b :: rest => (pairUnits? order rest).map (order.unit [a,b] :: ·)
  | _ => none

def quadUnits? (order : ByteOrder) : List Nat → Option (List Nat)
  | [] => some []
  | a :: b :: c :: d :: rest => (quadUnits? order rest).map (order.unit [a,b,c,d] :: ·)
  | _ => none

namespace Encoding

def detect : List Nat → Encoding
  | 0 :: 0 :: _ :: _ :: _ => .utf32 .highFirst
  | 0 :: _ :: _ :: _ :: _ => .utf16 .highFirst
  | _ :: 0 :: 0 :: 0 :: _ => .utf32 .lowFirst
  | _ :: 0 :: _ :: _ :: _ => .utf16 .lowFirst
  | [0,_] => .utf16 .highFirst
  | [_,0] => .utf16 .lowFirst
  | _ => .utf8

end Encoding

def isCodePoint (n : Nat) : Bool := n ≤ 0x10FFFF

-- The text that was meant by octets that arrived as this text in UTF-8.
def reread? (text : String) : Option (List Code) :=
  match Encoding.detect (octets text) with
  | .utf8 => some text
  | .utf16 order => (pairUnits? order (octets text)).map fun units => Code.join (units.map .ofNat)
  | .utf32 order =>
    (quadUnits? order (octets text)).bind fun units =>
      if units.all isCodePoint then some (units.map .ofNat) else none

def hexValue? (c : Char) : Option Nat :=
  if '0' ≤ c ∧ c ≤ '9' then some (c.toNat - 0x30)
  else if 'a' ≤ c ∧ c ≤ 'f' then some (c.toNat - 0x57)
  else if 'A' ≤ c ∧ c ≤ 'F' then some (c.toNat - 0x37)
  else none

inductive Piece where
  | char (c : Char)
  | octet (n : Nat)
  deriving DecidableEq,Repr

def pieces : List Char → List Piece
  | [] => []
  | '%' :: high :: low :: rest =>
    match hexValue? high,hexValue? low with
    | some h,some l => .octet (16 * h + l) :: pieces rest
    | _,_ => .char '%' :: pieces (high :: low :: rest)
  | c :: rest => .char c :: pieces rest

-- What the first octet of a character fixes: the octets still owed, its own bits, and the
-- range of the next octet.
def leadOctet (n : Nat) : Option (Nat × Nat × Nat × Nat) :=
  if n < 0x80 then some (0,n,0x80,0xBF)
  else if 0xC2 ≤ n ∧ n ≤ 0xDF then some (1,n - 0xC0,0x80,0xBF)
  else if n = 0xE0 then some (2,0,0xA0,0xBF)
  else if n = 0xED then some (2,0xD,0x80,0x9F)
  else if 0xE1 ≤ n ∧ n ≤ 0xEF then some (2,n - 0xE0,0x80,0xBF)
  else if n = 0xF0 then some (3,0,0x90,0xBF)
  else if 0xF1 ≤ n ∧ n ≤ 0xF3 then some (3,n - 0xF0,0x80,0xBF)
  else if n = 0xF4 then some (3,4,0x80,0x8F)
  else none

structure Pending where
  owed : Nat
  bits : Nat
  low : Nat
  high : Nat

def startOctet (n : Nat) : List Char × Option Pending :=
  match leadOctet n with
  | none => (['\uFFFD'],none)
  | some (0,bits,_,_) => ([Char.ofNat bits],none)
  | some (owed + 1,bits,low,high) => ([],some ⟨owed + 1,bits,low,high⟩)

-- An octet that cannot continue the character under way ends it with U+FFFD and starts anew.
def decodePieces : Option Pending → List Piece → List Char
  | none,[] => []
  | some _,[] => ['\uFFFD']
  | none,.char c :: rest => c :: decodePieces none rest
  | some _,.char c :: rest => '\uFFFD' :: c :: decodePieces none rest
  | none,.octet n :: rest =>
    let (out,pending) := startOctet n
    out ++ decodePieces pending rest
  | some p,.octet n :: rest =>
    if p.low ≤ n ∧ n ≤ p.high then
      let bits := 64 * p.bits + (n - 0x80)
      if p.owed ≤ 1 then Char.ofNat bits :: decodePieces none rest
      else decodePieces (some ⟨p.owed - 1,bits,0x80,0xBF⟩) rest
    else
      let (out,pending) := startOctet n
      '\uFFFD' :: out ++ decodePieces pending rest

def percentDecode (text : List Char) : List Char := decodePieces none (pieces text)

end ExtractionSchema.Text
