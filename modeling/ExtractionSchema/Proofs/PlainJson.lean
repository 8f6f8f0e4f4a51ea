import ExtractionSchema.Json
import ExtractionSchema.Json.Reader
import ExtractionSchema.Json.Writer

namespace ExtractionSchema

-- U+007F is ASCII, but the styles for ASCII escape it all the same.
def Text.isBasic (text : Text) : Bool := text.codes.all (·.toNat < 0x7F)

namespace Json

inductive Plain : Json → Prop where
  | null : Plain .null
  | bool (value : Bool) : Plain (.bool value)
  | str (value : Text) : Plain (.str value)
  | arr {items} (each : ∀ value ∈ items, Plain value) : Plain (.arr items)
  | obj {members} (distinct : (Entries.keys members).Nodup)
      (each : ∀ member ∈ members, Plain member.2) : Plain (.obj members)

-- The texts in a value, the names in its objects among them.
inductive Mentions : Json → Text → Prop where
  | text {text} : Mentions (.str text) text
  | item {items value text} (member : value ∈ items) (inner : Mentions value text) :
      Mentions (.arr items) text
  | name {members : List (Text × Json)} {member} (found : member ∈ members) :
      Mentions (.obj members) member.1
  | value {members : List (Text × Json)} {member text} (found : member ∈ members)
      (inner : Mentions member.2 text) : Mentions (.obj members) text

theorem writeItems_map (style : Style) (items : List Json) :
    writeItems style items = items.map (write style) := by
  induction items with
  | nil => rfl
  | cons value rest ih => simp [writeItems,ih]

def writeMember (style : Style) (member : Text × Json) : List Code :=
  writeText style member.1 ++ style.afterKey ++ member.2.write style

theorem writeMembers_map (style : Style) (members : List (Text × Json)) :
    writeMembers style members = members.map (writeMember style) := by
  induction members with
  | nil => rfl
  | cons member rest ih =>
    obtain ⟨key,value⟩ := member
    simp [writeMembers,writeMember,ih]

theorem mem_separated {separator : List Code} {parts : List (List Code)} {c : Code}
    (found : c ∈ separated separator parts) : c ∈ separator ∨ ∃ part ∈ parts, c ∈ part := by
  induction parts with
  | nil => cases found
  | cons part rest ih =>
    cases rest with
    | nil => exact .inr ⟨part,by simp,found⟩
    | cons next others =>
      simp only [separated,List.mem_append] at found
      rcases found with (own | between) | later
      · exact .inr ⟨part,by simp,own⟩
      · exact .inl between
      · rcases ih later with between | ⟨other,member,inside⟩
        · exact .inl between
        · exact .inr ⟨other,List.mem_cons_of_mem _ member,inside⟩

theorem separated_mem {part : List Code} {parts : List (List Code)} {c : Code}
    (separator : List Code) (member : part ∈ parts) (inside : c ∈ part) :
    c ∈ separated separator parts := by
  induction parts with
  | nil => cases member
  | cons first rest ih =>
    cases rest with
    | nil =>
      cases List.mem_singleton.mp member
      exact inside
    | cons next others =>
      simp only [separated,List.mem_append]
      rcases List.mem_cons.mp member with rfl | later
      · exact .inl (.inl inside)
      · exact .inr (ih later)

-- The three ways in which a character is written.
inductive Spelling (style : Style) (c : Char) : List Char → Prop where
  | named {letter : Char} (escape : simpleEscape? (.char letter) = some c)
      (basic : letter.toNat < 0x7F ∧ c.toNat < 0x7F) :
      Spelling style c ['\\',letter]
  | numeric (due : c.toNat < 0x20 ∨ (style.asciiOnly = true ∧ 0x7F ≤ c.toNat)) :
      Spelling style c (codeEscape c.toNat)
  | itself (quote : c ≠ '"') (backslash : c ≠ '\\') (visible : 0x20 ≤ c.toNat)
      (ascii : style.asciiOnly = true → c.toNat < 0x7F) : Spelling style c [c]

theorem writeChar_spelling (style : Style) (c : Char) : Spelling style c (writeChar style c) := by
  unfold writeChar
  split
  · next same => subst same; exact .named rfl (by decide)
  split
  · next same => subst same; exact .named rfl (by decide)
  split
  · next same => subst same; exact .named rfl (by decide)
  split
  · next same => subst same; exact .named rfl (by decide)
  split
  · next same => subst same; exact .named rfl (by decide)
  split
  · next same => subst same; exact .named rfl (by decide)
  split
  · next same => subst same; exact .named rfl (by decide)
  split
  · next control =>
    have unit : codeEscape c.toNat = unitEscape c.toNat := if_pos (by omega)
    rw [← unit]
    exact .numeric (.inl control)
  split
  · next wide =>
    simp only [Bool.and_eq_true,decide_eq_true_eq] at wide
    exact .numeric (.inr wide)
  · next quote backslash _ _ _ _ _ visible plain =>
    simp only [Bool.and_eq_true,decide_eq_true_eq,not_and,Nat.not_le] at plain
    exact .itself quote backslash (by omega) plain

theorem hex_basic (width n : Nat) : ∀ c ∈ Text.hex width n, c.toNat < 0x7F := by
  have digits : ∀ d < 16, (Nat.digitChar d).toNat < 0x7F := by decide
  induction width generalizing n with
  | zero => intro c found; cases found
  | succ width ih =>
    intro c found
    rcases List.mem_append.mp found with higher | last
    · exact ih _ c higher
    · cases List.mem_singleton.mp last
      exact digits _ (Nat.mod_lt _ (by decide))

theorem unitEscape_basic (n : Nat) : ∀ c ∈ unitEscape n, c.toNat < 0x7F := by
  intro c found
  simp only [unitEscape,List.mem_cons] at found
  rcases found with rfl | rfl | digits
  · decide
  · decide
  · exact hex_basic 4 n c digits

theorem codeEscape_basic (n : Nat) : ∀ c ∈ codeEscape n, c.toNat < 0x7F := by
  intro c found
  unfold codeEscape at found
  split at found
  · exact unitEscape_basic _ c found
  · rcases List.mem_append.mp found with high | low
    · exact unitEscape_basic _ c high
    · exact unitEscape_basic _ c low

theorem Spelling.ascii {style : Style} {c : Char} {spelled : List Char}
    (spelling : Spelling style c spelled) (ascii : style.asciiOnly = true) :
    ∀ d ∈ spelled, d.toNat < 0x7F := by
  cases spelling with
  | named escape basic => simpa using basic.1
  | numeric due => exact codeEscape_basic _
  | itself quote backslash visible within => simpa using within ascii

theorem Spelling.beyond {style : Style} {c : Char} {spelled : List Char}
    (spelling : Spelling style c spelled) (raw : style.asciiOnly = false)
    (beyond : 0x7F ≤ c.toNat) : spelled = [c] := by
  cases spelling with
  | named escape basic => omega
  | numeric due =>
    rcases due with control | ⟨ascii,_⟩
    · omega
    · cases raw.symm.trans ascii
  | itself quote backslash visible within => rfl

theorem half_bounds {half : Code} (broken : half.char? = none) :
    0x7F ≤ half.toNat ∧ half.toNat < 0x10000 := by
  cases half with
  | char c => cases broken
  | high bits => simp only [Code.toNat]; omega
  | low bits => simp only [Code.toNat]; omega

theorem writeCode_half (style : Style) {half : Code} (broken : half.char? = none) :
    writeCode style half =
      if style.asciiOnly then (unitEscape half.toNat).map .char else [half] := by
  cases half with
  | char c => cases broken
  | high bits => rfl
  | low bits => rfl

theorem writeCode_ascii (code : Code) : ∀ d ∈ writeCode .compactAscii code, d.toNat < 0x7F := by
  intro d found
  cases broken : code.char? with
  | some c =>
    cases code <;> cases broken
    obtain ⟨e,inside,rfl⟩ := List.mem_map.mp found
    exact (writeChar_spelling _ c).ascii rfl e inside
  | none =>
    rw [writeCode_half _ broken] at found
    obtain ⟨e,inside,rfl⟩ := List.mem_map.mp found
    exact unitEscape_basic _ e inside

theorem writeCode_beyond {code : Code} (beyond : 0x7F ≤ code.toNat) :
    writeCode .compact code = [code] := by
  cases broken : code.char? with
  | some c =>
    cases code <;> cases broken
    rw [writeCode,(writeChar_spelling .compact c).beyond rfl beyond]
    rfl
  | none => exact writeCode_half _ broken

-- The compact styles part only where a code point is not basic.
theorem writeCode_basic {code : Code} (basic : code.toNat < 0x7F) :
    writeCode .compactAscii code = writeCode .compact code := by
  cases broken : code.char? with
  | some c =>
    cases code <;> cases broken
    have within : ¬ 0x7F ≤ c.toNat := Nat.not_le.mpr basic
    simp [writeCode,writeChar,Style.compactAscii,Style.compact,within]
  | none => exact absurd (half_bounds broken).1 (Nat.not_le.mpr basic)

theorem writeText_ascii (text : Text) : ∀ c ∈ writeText .compactAscii text, c.toNat < 0x7F := by
  intro c found
  simp only [writeText,List.cons_append,List.mem_cons,List.mem_append,List.mem_flatMap,
    List.not_mem_nil,or_false] at found
  rcases found with rfl | ⟨d,_,inside⟩ | rfl
  · decide
  · exact writeCode_ascii d c inside
  · decide

theorem writeText_beyond {text : Text} {c : Code} (member : c ∈ text.codes)
    (beyond : 0x7F ≤ c.toNat) : c ∈ writeText .compact text := by
  have inside : c ∈ text.codes.flatMap (writeCode .compact) := by
    refine List.mem_flatMap.mpr ⟨c,member,?_⟩
    rw [writeCode_beyond beyond]
    exact List.mem_singleton_self c
  simp only [writeText,List.cons_append,List.mem_cons,List.mem_append]
  exact .inr (.inl inside)

theorem writeText_basic {text : Text} (basic : Text.isBasic text = true) :
    writeText .compactAscii text = writeText .compact text := by
  have each : text.codes.map (writeCode .compactAscii) = text.codes.map (writeCode .compact) :=
    List.map_congr_left fun c member =>
      writeCode_basic (of_decide_eq_true (List.all_eq_true.mp basic c member))
  simp only [writeText,List.flatMap_def,each]

theorem basic_word {word : List Code} (basic : word.all (·.toNat < 0x7F) = true) :
    ∀ c ∈ word, c.toNat < 0x7F := by
  simpa using basic

theorem write_ascii {value : Json} (plain : value.Plain) :
    ∀ c ∈ value.write .compactAscii, c.toNat < 0x7F := by
  induction plain with
  | null => exact basic_word rfl
  | bool flag => cases flag <;> exact basic_word rfl
  | str text => exact writeText_ascii text
  | @arr items each inner =>
    intro c found
    simp only [write,List.cons_append,List.mem_cons,List.mem_append,List.not_mem_nil,or_false,
      writeItems_map] at found
    rcases found with rfl | between | rfl
    · decide
    · rcases mem_separated between with comma | ⟨part,member,inside⟩
      · cases List.mem_singleton.mp comma
        decide
      · obtain ⟨value,belongs,rfl⟩ := List.mem_map.mp member
        exact inner value belongs c inside
    · decide
  | @obj members distinct each inner =>
    intro c found
    simp only [write,List.cons_append,List.mem_cons,List.mem_append,List.not_mem_nil,or_false,
      writeMembers_map] at found
    rcases found with rfl | between | rfl
    · decide
    · rcases mem_separated between with comma | ⟨part,member,inside⟩
      · cases List.mem_singleton.mp comma
        decide
      · obtain ⟨pair,belongs,rfl⟩ := List.mem_map.mp member
        simp only [writeMember,List.mem_append] at inside
        rcases inside with (key | colon) | value
        · exact writeText_ascii pair.1 c key
        · cases List.mem_singleton.mp colon
          decide
        · exact inner pair belongs c value
    · decide

theorem write_beyond {value : Json} {text : Text} (mentions : value.Mentions text) {c : Code}
    (member : c ∈ text.codes) (beyond : 0x7F ≤ c.toNat) : c ∈ value.write .compact := by
  induction mentions with
  | text => exact writeText_beyond member beyond
  | item found _ ih =>
    have between := separated_mem [.char ','] (List.mem_map_of_mem found) (ih member)
    simp only [write,writeItems_map,List.cons_append,List.mem_cons,List.mem_append]
    exact .inr (.inl between)
  | @name members pair found =>
    have key : c ∈ writeMember .compact pair :=
      List.mem_append_left _ (List.mem_append_left _ (writeText_beyond member beyond))
    have between := separated_mem [.char ','] (List.mem_map_of_mem found) key
    simp only [write,writeMembers_map,List.cons_append,List.mem_cons,List.mem_append]
    exact .inr (.inl between)
  | @value members pair text found _ ih =>
    have inner : c ∈ writeMember .compact pair := List.mem_append_right _ (ih member)
    have between := separated_mem [.char ','] (List.mem_map_of_mem found) inner
    simp only [write,writeMembers_map,List.cons_append,List.mem_cons,List.mem_append]
    exact .inr (.inl between)

theorem write_basic {value : Json} (plain : value.Plain)
    (basic : ∀ text, value.Mentions text → Text.isBasic text = true) :
    value.write .compactAscii = value.write .compact := by
  induction plain with
  | null => rfl
  | bool flag => cases flag <;> rfl
  | str text => exact writeText_basic (basic text .text)
  | @arr items each inner =>
    have parts : items.map (write .compactAscii) = items.map (write .compact) :=
      List.map_congr_left fun value member =>
        inner value member fun text mentions => basic text (.item member mentions)
    simp only [write,writeItems_map,parts]
    rfl
  | @obj members distinct each inner =>
    have parts : members.map (writeMember .compactAscii) = members.map (writeMember .compact) := by
      apply List.map_congr_left
      intro pair member
      have key := writeText_basic (basic pair.1 (.name member))
      have value := inner pair member fun text mentions => basic text (.value member mentions)
      simp only [writeMember,key,value]
      rfl
    simp only [write,writeMembers_map,parts]
    rfl

theorem write_same_iff {value : Json} (plain : value.Plain) :
    value.write .compactAscii = value.write .compact ↔
      ∀ text, value.Mentions text → Text.isBasic text = true := by
  constructor
  · intro same text mentions
    refine List.all_eq_true.mpr fun c member => decide_eq_true ?_
    apply Classical.byContradiction
    intro large
    have kept := write_beyond mentions member (Nat.not_lt.mp large)
    exact large (write_ascii plain c (same ▸ kept))
  · intro basic
    exact write_basic plain basic

end Json

end ExtractionSchema
