namespace ExtractionSchema

-- A character, or one half of a pair of surrogates, which is no character by itself.
inductive Code where
  | char (c : Char)
  | high (bits : Fin 0x400)
  | low (bits : Fin 0x400)
  deriving DecidableEq,Repr

namespace Code

def toNat : Code → Nat
  | .char c => c.toNat
  | .high bits => 0xD800 + bits
  | .low bits => 0xDC00 + bits

def ofNat (n : Nat) : Code :=
  if high : 0xD800 ≤ n ∧ n < 0xDC00 then .high ⟨n - 0xD800,by omega⟩
  else if low : 0xDC00 ≤ n ∧ n < 0xE000 then .low ⟨n - 0xDC00,by omega⟩
  else .char (Char.ofNat n)

def char? : Code → Option Char
  | .char c => some c
  | _ => none

def pair (first second : Fin 0x400) : Char := Char.ofNat (0x10000 + 0x400 * first + second)

-- Halves that stand together are one character.
def join : List Code → List Code
  | [] => []
  | .high first :: .low second :: rest => .char (pair first second) :: join rest
  | code :: rest => code :: join rest

def ofString (text : String) : List Code := text.toList.map .char

instance : Coe String (List Code) := ⟨ofString⟩

-- Both stand apart unless they are the halves of one pair, in order.
def Apart (code : Code) (rest : List Code) : Prop :=
  ∀ first second later, code = .high first → rest = .low second :: later → False

theorem join_apart {code : Code} {rest : List Code} (apart : Apart code rest) :
    join (code :: rest) = code :: join rest := by
  rw [join]
  exact apart

theorem char_apart (c : Char) (rest : List Code) : Apart (.char c) rest := by
  intro _ _ _ same _
  cases same

@[simp] theorem join_char (c : Char) (rest : List Code) : join (.char c :: rest) = .char c :: join rest :=
  join_apart (char_apart c rest)

theorem Apart.joined {code : Code} {rest : List Code} (apart : Apart code rest) :
    Apart code (join rest) := by
  intro first second later high begins
  unfold join at begins
  split at begins
  · cases begins
  · cases begins
  · cases begins
    exact apart first second _ high rfl

theorem join_join (codes : List Code) : join (join codes) = join codes := by
  induction codes using join.induct with
  | case1 => rfl
  | case2 first second rest ih => rw [join,join_char,ih]
  | case3 code rest apart ih => rw [join_apart apart,join_apart (Apart.joined apart),ih]

theorem join_cons_join (code : Code) (rest : List Code) :
    join (code :: join rest) = join (code :: rest) := by
  by_cases apart : Apart code rest
  · rw [join_apart apart,join_apart apart.joined,join_join]
  · simp only [Apart,Classical.not_forall,not_false_eq_true] at apart
    obtain ⟨first,second,later,rfl,rfl,_⟩ := apart
    have behind : Apart (.low second) later := by
      intro _ _ _ same _
      cases same
    rw [join_apart behind,join,join,join_join]

theorem join_append_right (codes more : List Code) : join (codes ++ join more) = join (codes ++ more) := by
  induction codes with
  | nil => exact join_join more
  | cons code rest ih =>
    rw [List.cons_append,← join_cons_join,ih,join_cons_join,List.cons_append]

theorem join_append_left (codes more : List Code) : join (join codes ++ more) = join (codes ++ more) := by
  induction codes using join.induct with
  | case1 => rfl
  | case2 first second rest ih =>
    rw [join,List.cons_append,join_char,ih,List.cons_append,List.cons_append,join]
  | case3 code rest apart ih =>
    rw [join_apart apart,List.cons_append,← join_cons_join,ih,join_cons_join,List.cons_append]

@[simp] theorem join_eq_nil {codes : List Code} : join codes = [] ↔ codes = [] := by
  unfold join
  split <;> simp

def string? (codes : List Code) : Option String := (codes.mapM char?).map String.ofList

theorem join_chars (cs : List Char) : join (cs.map .char) = cs.map .char := by
  induction cs with
  | nil => rfl
  | cons c rest ih => rw [List.map_cons,join_char,ih]

theorem char?_some_iff {code : Code} {c : Char} : code.char? = some c ↔ code = .char c := by
  cases code <;> simp [char?]

theorem chars_some_iff {codes : List Code} {cs : List Char} :
    codes.mapM char? = some cs ↔ codes = cs.map .char := by
  induction codes generalizing cs with
  | nil => cases cs <;> simp
  | cons code rest ih =>
    cases cs <;> simp [List.mapM_cons,Option.bind_eq_some_iff,char?_some_iff,ih]

theorem string?_some_iff {codes : List Code} {text : String} :
    string? codes = some text ↔ codes = text := by
  simp only [string?,Option.map_eq_some_iff,chars_some_iff]
  constructor
  · intro given
    obtain ⟨cs,rfl,rfl⟩ := given
    rw [ofString,String.toList_ofList]
  · intro same
    exact ⟨text.toList,same,String.ofList_toList⟩

theorem chars_of_whole (codes : List Code) (whole : ∀ code ∈ codes, code.char?.isSome = true) :
    ∃ cs : List Char, codes = cs.map .char := by
  induction codes with
  | nil => exact ⟨[],rfl⟩
  | cons code rest ih =>
    obtain ⟨first,later⟩ := List.forall_mem_cons.mp whole
    obtain ⟨c,own⟩ := Option.isSome_iff_exists.mp first
    obtain ⟨cs,others⟩ := ih later
    exact ⟨c :: cs,by rw [char?_some_iff.mp own,others,List.map_cons]⟩

end Code

-- A text of any code points. It has no pair of halves, only the characters that pairs are.
structure Text where
  codes : List Code
  joined : Code.join codes = codes
  deriving DecidableEq,Repr

namespace Text

def ofCodes (codes : List Code) : Text := ⟨Code.join codes,Code.join_join codes⟩

def ofString (text : String) : Text := ⟨Code.ofString text,Code.join_chars text.toList⟩

instance : Coe String Text := ⟨ofString⟩

instance : Inhabited Text := ⟨ofString ""⟩

instance : Append Text := ⟨fun first second => ofCodes (first.codes ++ second.codes)⟩

def isEmpty (text : Text) : Bool := text.codes.isEmpty

def string? (text : Text) : Option String := Code.string? text.codes

def isWhole (text : Text) : Bool := text.codes.all fun code => code.char?.isSome

-- The code points by number, in which order texts are sorted.
def numbers (text : Text) : List Nat := text.codes.map Code.toNat

def isBefore (first second : Text) : Bool := first.numbers.lex second.numbers

-- How a text is shown where only characters can be: half a pair takes three octets, and none of them
-- belongs to a character.
def shown (text : Text) : String :=
  String.ofList <| text.codes.flatMap fun code =>
    match code with
    | .char c => [c]
    | _ => ['\uFFFD','\uFFFD','\uFFFD']

def isWhiteSpace (c : Char) : Bool :=
  let n := c.toNat
  (0x09 ≤ n && n ≤ 0x0D) || n == 0x20 || n == 0x85 || n == 0xA0 || n == 0x1680
    || (0x2000 ≤ n && n ≤ 0x200A) || n == 0x2028 || n == 0x2029 || n == 0x202F || n == 0x205F
    || n == 0x3000

def isBlank (c : Char) : Bool := isWhiteSpace c || (0x1C ≤ c.toNat && c.toNat ≤ 0x1F)

def trimBy {α : Type} (drop : α → Bool) (xs : List α) : List α :=
  ((xs.dropWhile drop).reverse.dropWhile drop).reverse

end Text

def Code.isBlank : Code → Bool
  | .char c => Text.isBlank c
  | _ => false

namespace Text

def strip (text : Text) : Text := ofCodes (trimBy Code.isBlank text.codes)

def isBlankText (text : Text) : Bool := text.codes.all Code.isBlank

@[ext] theorem ext {first second : Text} (same : first.codes = second.codes) : first = second := by
  cases first
  cases second
  cases same
  rfl

@[simp] theorem codes_ofString (text : String) : (ofString text).codes = text.toList.map .char := rfl

@[simp] theorem codes_append (first second : Text) :
    (first ++ second).codes = Code.join (first.codes ++ second.codes) := rfl

@[simp] theorem ofString_inj {first second : String} :
    ofString first = ofString second ↔ first = second := by
  constructor
  · intro same
    have chars := congrArg codes same
    simp only [codes_ofString] at chars
    exact String.toList_inj.mp ((List.map_inj_right fun _ _ same => Code.char.inj same).mp chars)
  · exact congrArg ofString

@[simp] theorem ofString_beq (first second : String) :
    (ofString first == ofString second) = (first == second) := by
  rw [Bool.eq_iff_iff,beq_iff_eq,beq_iff_eq,ofString_inj]

@[simp] theorem isEmpty_iff {text : Text} : text.isEmpty = true ↔ text = "" := by
  rw [isEmpty,List.isEmpty_iff]
  exact ⟨fun same => ext same,fun same => congrArg codes same⟩

@[simp] theorem isEmpty_eq_false_iff {text : Text} : text.isEmpty = false ↔ text ≠ "" := by
  rw [← Bool.not_eq_true,isEmpty_iff]

theorem string?_some_iff {text : Text} {whole : String} : text.string? = some whole ↔ text = whole := by
  rw [string?,Code.string?_some_iff]
  exact ⟨fun same => ext same,fun same => congrArg codes same⟩

@[simp] theorem string?_ofString (text : String) : (text : Text).string? = some text :=
  string?_some_iff.mpr rfl

theorem isWhole_iff {text : Text} : text.isWhole = true ↔ ∃ whole : String, text = whole := by
  constructor
  · intro each
    obtain ⟨cs,chars⟩ := Code.chars_of_whole text.codes (List.all_eq_true.mp each)
    exact ⟨String.ofList cs,ext (by rw [chars,codes_ofString,String.toList_ofList])⟩
  · intro given
    obtain ⟨whole,rfl⟩ := given
    simp [isWhole,Code.char?]

theorem shown_whole {text : Text} (whole : text.isWhole = true) : (text.shown : Text) = text := by
  obtain ⟨own,rfl⟩ := isWhole_iff.mp whole
  have same : own.toList.flatMap (fun c => [c]) = own.toList := List.flatMap_singleton' _
  ext1
  simp only [shown,codes_ofString,String.toList_ofList,List.flatMap_map,same]

@[simp] theorem ofString_append (first second : String) :
    (first : Text) ++ (second : Text) = (first ++ second : String) := by
  ext1
  simp only [codes_append,codes_ofString,← List.map_append,Code.join_chars,String.toList_append]

theorem codes_whole_append (whole : String) (text : Text) :
    ((whole : Text) ++ text).codes = whole.toList.map .char ++ text.codes := by
  rw [codes_append,codes_ofString]
  induction whole.toList with
  | nil => exact text.joined
  | cons c rest ih => rw [List.map_cons,List.cons_append,Code.join_char,ih]

theorem isWhole_append (whole : String) (text : Text) :
    ((whole : Text) ++ text).isWhole = text.isWhole := by
  simp [isWhole,codes_whole_append,Code.char?,- codes_append]

theorem append_assoc (first second third : Text) :
    first ++ second ++ third = first ++ (second ++ third) := by
  ext1
  simp only [codes_append,Code.join_append_left,Code.join_append_right,List.append_assoc]

@[simp] theorem append_eq_empty_iff {first second : Text} : first ++ second = "" ↔ first = "" ∧ second = "" := by
  simp only [← isEmpty_iff,isEmpty,List.isEmpty_iff,codes_append,Code.join_eq_nil,List.append_eq_nil_iff]

end Text

end ExtractionSchema
