import ExtractionSchema.Binary64
import ExtractionSchema.Text

namespace ExtractionSchema.Text

def decimalZeros : List Nat := [
  0x30,0x660,0x6F0,0x7C0,0x966,0x9E6,0xA66,0xAE6,0xB66,0xBE6,0xC66,0xCE6,0xD66,0xDE6,
  0xE50,0xED0,0xF20,0x1040,0x1090,0x17E0,0x1810,0x1946,0x19D0,0x1A80,0x1A90,0x1B50,
  0x1BB0,0x1C40,0x1C50,0xA620,0xA8D0,0xA900,0xA9D0,0xA9F0,0xAA50,0xABF0,0xFF10,0x104A0,
  0x10D30,0x11066,0x110F0,0x11136,0x111D0,0x112F0,0x11450,0x114D0,0x11650,0x116C0,
  0x11730,0x118E0,0x11950,0x11C50,0x11D50,0x11DA0,0x16A60,0x16AC0,0x16B50,0x1D7CE,
  0x1D7D8,0x1D7E2,0x1D7EC,0x1D7F6,0x1E140,0x1E2F0,0x1E950,0x1FBF0]

def asciiDigit? (c : Char) : Option Nat :=
  if '0' ≤ c ∧ c ≤ '9' then some (c.toNat - 0x30) else none

def decimalDigit? (c : Char) : Option Nat :=
  (decimalZeros.find? fun first => first ≤ c.toNat && c.toNat < first + 10).map (c.toNat - ·)

-- The digits at the front, and what follows them. An underscore is passed only between two
-- digits; the flag says that a digit has just been read.
def digitRun (digit? : Char → Option Nat) : Bool → List Char → List Nat × List Char
  | _,[] => ([],[])
  | joins,c :: rest =>
    match digit? c with
    | some d =>
      let (ds,left) := digitRun digit? true rest
      (d :: ds,left)
    | none =>
      if joins && c == '_' then
        match digitRun digit? false rest with
        | ([],_) => ([],c :: rest)
        | run => run
      else ([],c :: rest)

def digitsAtFront (digit? : Char → Option Nat) (cs : List Char) : List Nat × List Char :=
  digitRun digit? false cs

def digitsValue (ds : List Nat) : Nat := ds.foldl (fun n d => 10 * n + d) 0

def takeSign : List Char → Bool × List Char
  | '-' :: rest => (true,rest)
  | '+' :: rest => (false,rest)
  | cs => (false,cs)

def applySign (negative : Bool) (n : Nat) : Int := if negative then -n else n

def digitLimit : Nat := 4300

inductive NumeralFault where
  | malformed
  | oversized (digits : Nat)
  deriving DecidableEq,Repr

def oversizedText (digits : Nat) : String :=
  "Exceeds the limit (" ++ toString digitLimit ++ " digits) for integer string conversion: value has "
    ++ toString digits ++ " digits; use sys.set_int_max_str_digits() to increase the limit"

-- The digits are counted before anything is said of what follows them, except for an underscore:
-- it belongs to the numeral and makes it malformed.
def integer (digit? : Char → Option Nat) (text : String) : Except NumeralFault Int :=
  let (negative,body) := takeSign (trimBy isWhiteSpace text.toList)
  match digitsAtFront digit? body with
  | ([],_) => .error .malformed
  | (ds,left) =>
    if digitLimit < ds.length ∧ left.head? ≠ some '_' then .error (.oversized ds.length)
    else if left.isEmpty then .ok (applySign negative (digitsValue ds))
    else .error .malformed

def exponent? (digit? : Char → Option Nat) : List Char → Option Int
  | [] => some 0
  | e :: rest =>
    if e = 'e' ∨ e = 'E' then
      let (negative,body) := takeSign rest
      match digitsAtFront digit? body with
      | ([],_) => none
      | (ds,[]) => some (applySign negative (digitsValue ds))
      | _ => none
    else none

def namedNumber? (negative : Bool) (body : List Char) : Option Binary64 :=
  let word := String.ofList (body.map Char.toLower)
  if word = "inf" ∨ word = "infinity" then some (.infinite negative)
  else if word = "nan" then some .nan
  else none

def bareDecimal? (digit? : Char → Option Nat) (cs : List Char) : Option Binary64 :=
  let (negative,body) := takeSign cs
  let (whole,afterWhole) := digitsAtFront digit? body
  let (fraction,tail) := match afterWhole with
    | '.' :: rest => digitsAtFront digit? rest
    | _ => ([],afterWhole)
  if whole.isEmpty && fraction.isEmpty then namedNumber? negative body
  else (exponent? digit? tail).map fun power =>
    Binary64.ofDecimal negative (digitsValue (whole ++ fraction)) (power - fraction.length)

def decimal? (digit? : Char → Option Nat) (text : String) : Option Binary64 :=
  bareDecimal? digit? (trimBy isWhiteSpace text.toList)

-- Digits without a superfluous zero in front, behind a minus sign or not. The digits are counted
-- before anything is said of what follows them.
def plainInteger (cs : List Char) : Except NumeralFault Int :=
  let (negative,body) := match cs with
    | '-' :: rest => (true,rest)
    | _ => (false,cs)
  match body with
  | ['0'] => .ok 0
  | '0' :: _ => .error .malformed
  | _ =>
    let digits := (body.map asciiDigit?).takeWhile (·.isSome)
    if digitLimit < digits.length then .error (.oversized digits.length)
    else if digits.isEmpty || digits.length < body.length then .error .malformed
    else .ok (applySign negative (digitsValue (digits.filterMap id)))

-- What is left behind zeros and underscores. A minus sign behind them is the sign of what is
-- left, and in front of a point one character stays, as it does at the end.
def behindZeros? (passed : Char) : List Char → Option (List Char)
  | [] => some [passed]
  | c :: rest =>
    if c = '0' ∨ c = '_' then behindZeros? c rest
    else if c = '-' ∨ (asciiDigit? c).isSome then some (c :: rest)
    else if c = '.' then some (passed :: c :: rest)
    else none

def withoutZeros? : List Char → Option (List Char)
  | [] => none
  | c :: rest =>
    if c = '0' then behindZeros? c rest
    else if (asciiDigit? c).isSome then some (c :: rest)
    else none

def tidiedFront? : List Char → Option (List Char)
  | '+' :: rest => withoutZeros? rest
  | '-' :: rest => (withoutZeros? rest).map ('-' :: ·)
  | cs => withoutZeros? cs

def withoutZeroFraction (cs : List Char) : List Char :=
  match cs.span (· != '.') with
  | (whole,'.' :: '0' :: zeros) => if zeros.all (· == '0') then whole else cs
  | _ => cs

-- The pieces between underscores put together. None of them may be empty, so that no underscore
-- stands at an end or beside another.
def joined? (cs : List Char) : Option (List Char) :=
  let pieces := cs.splitOn '_'
  if pieces.any (·.isEmpty) then none else some pieces.flatten

def tidied? (text : String) : Option (List Char) :=
  (tidiedFront? (trimBy isWhiteSpace text.toList)).bind fun cs => joined? (withoutZeroFraction cs)

def wholeNumber (text : String) : Except NumeralFault Int :=
  match plainInteger text.toList with
  | .ok n => .ok n
  | .error (.oversized digits) => .error (.oversized digits)
  | .error .malformed =>
    match (tidied? text).map plainInteger with
    | some (.ok n) => .ok n
    | _ => .error .malformed

-- A decimal with white space around it, or one that is left when the underscores are taken out
-- of a text. An underscore may stand beside anything but another one.
def looseDecimal? (text : String) : Option Binary64 :=
  let cs := text.toList
  if cs.contains '_' then (joined? cs).bind (bareDecimal? asciiDigit?)
  else bareDecimal? asciiDigit? (trimBy isWhiteSpace cs)

end ExtractionSchema.Text
