import ExtractionSchema.Proofs.PlainJson

namespace ExtractionSchema

namespace Code

theorem scalar_range (c : Char) :
    c.toNat < 0xD800 ∨ (0xDFFF < c.toNat ∧ c.toNat < 0x110000) := c.valid

theorem ofNat_high {bits : Nat} (small : bits < 0x400) : ofNat (0xD800 + bits) = .high ⟨bits,small⟩ := by
  have within : 0xD800 ≤ 0xD800 + bits ∧ 0xD800 + bits < 0xDC00 := by omega
  simp only [ofNat,dif_pos within,Nat.add_sub_cancel_left]

theorem ofNat_low {bits : Nat} (small : bits < 0x400) : ofNat (0xDC00 + bits) = .low ⟨bits,small⟩ := by
  have beyond : ¬ (0xD800 ≤ 0xDC00 + bits ∧ 0xDC00 + bits < 0xDC00) := by omega
  have within : 0xDC00 ≤ 0xDC00 + bits ∧ 0xDC00 + bits < 0xE000 := by omega
  simp only [ofNat,dif_neg beyond,dif_pos within,Nat.add_sub_cancel_left]

theorem ofNat_toNat (code : Code) : ofNat code.toNat = code := by
  cases code with
  | char c =>
    have range := scalar_range c
    have first : ¬ (0xD800 ≤ c.toNat ∧ c.toNat < 0xDC00) := by omega
    have second : ¬ (0xDC00 ≤ c.toNat ∧ c.toNat < 0xE000) := by omega
    simp only [toNat,ofNat,dif_neg first,dif_neg second,Char.ofNat_toNat]
  | high bits => exact ofNat_high bits.isLt
  | low bits => exact ofNat_low bits.isLt

end Code

namespace Json

-- What the scan may give for a code point.
inductive Coded : Code → List Code → Prop where
  | whole {code} : Coded code [code]
  | halves {c} (wide : 0x10000 ≤ c.toNat) :
      Coded (.char c) [.ofNat (0xD800 + (c.toNat - 0x10000) / 0x400),
        .ofNat (0xDC00 + (c.toNat - 0x10000) % 0x400)]

theorem join_coded {code : Code} {codes : List Code} (coded : Coded code codes) (rest : List Code) :
    Code.join (codes ++ rest) = Code.join (code :: rest) := by
  cases coded with
  | whole => rfl
  | @halves c wide =>
    have range := Code.scalar_range c
    have high : (c.toNat - 0x10000) / 0x400 < 0x400 := by omega
    have low : (c.toNat - 0x10000) % 0x400 < 0x400 := by omega
    have whole : 0x10000 + 0x400 * ((c.toNat - 0x10000) / 0x400) + (c.toNat - 0x10000) % 0x400 =
        c.toNat := by omega
    rw [Code.ofNat_high high,Code.ofNat_low low,List.cons_append,List.cons_append,List.nil_append,
      Code.join,Code.pair,whole,Char.ofNat_toNat,Code.join_char]

theorem hexValue_digit {digit : Nat} (small : digit < 16) :
    Text.hexValue? (Text.hexDigit digit) = some digit := by
  have all : ∀ d < 16, Text.hexValue? (Text.hexDigit d) = some d := by decide
  exact all digit small

-- The four digits of an escape are owed one after another, and the text does not end with them.
theorem scanText_unit {n : Nat} (small : n < 0x10000) (opening done : List Code) {rest : List Code}
    (more : rest ≠ []) :
    scanText opening .plain done ((unitEscape n).map .char ++ rest) =
      scanText opening .plain (.ofNat n :: done) rest := by
  have first := hexValue_digit (Nat.mod_lt (n / 16 / 16 / 16) (by decide : 0 < 16))
  have second := hexValue_digit (Nat.mod_lt (n / 16 / 16) (by decide : 0 < 16))
  have third := hexValue_digit (Nat.mod_lt (n / 16) (by decide : 0 < 16))
  have fourth := hexValue_digit (Nat.mod_lt n (by decide : 0 < 16))
  have whole : 16 * (16 * (16 * (n / 16 / 16 / 16 % 16) + n / 16 / 16 % 16) + n / 16 % 16)
      + n % 16 = n := by omega
  have left : rest.isEmpty = false := List.isEmpty_eq_false_iff.mpr more
  simp only [unitEscape,Text.hex,List.nil_append,List.cons_append]
  simp [scanText,Code.char?,first,second,third,fourth,left,whole]

theorem scanText_char {c : Char} {style : Style} {spelled : List Char}
    (spelling : Spelling style c spelled) :
    ∃ codes, Coded (.char c) codes ∧ ∀ opening done rest, rest ≠ [] →
      scanText opening .plain done (spelled.map .char ++ rest)
        = scanText opening .plain (codes.reverse ++ done) rest := by
  cases spelling with
  | @named letter escape basic =>
    refine ⟨_,.whole,?_⟩
    intro opening done rest more
    have unnumbered : letter ≠ 'u' := by
      rintro rfl
      cases escape
    simp [scanText,escape,unnumbered]
  | numeric due =>
    unfold codeEscape
    split
    · next small =>
      refine ⟨_,.whole,?_⟩
      intro opening done rest more
      rw [scanText_unit small opening done more,show Code.ofNat c.toNat = .char c from Code.ofNat_toNat (.char c)]
      rfl
    · next wide =>
      have range := Code.scalar_range c
      refine ⟨_,.halves (by omega),?_⟩
      intro opening done rest more
      rw [List.map_append,List.append_assoc,scanText_unit (by omega) opening done (by simp [unitEscape]),
        scanText_unit (by omega) opening _ more]
      rfl
  | itself quote backslash visible ascii =>
    refine ⟨_,.whole,?_⟩
    intro opening done rest more
    have control : ¬ c.toNat < 0x20 := by omega
    simp [scanText,Code.toNat,quote,backslash,control]

theorem scanText_code (style : Style) (code : Code) :
    ∃ codes, Coded code codes ∧ ∀ opening done rest, rest ≠ [] →
      scanText opening .plain done (writeCode style code ++ rest)
        = scanText opening .plain (codes.reverse ++ done) rest := by
  cases broken : code.char? with
  | some c =>
    cases code <;> cases broken
    exact scanText_char (writeChar_spelling style c)
  | none =>
    refine ⟨_,.whole,?_⟩
    intro opening done rest more
    have bounds : 0x7F ≤ code.toNat ∧ code.toNat < 0x10000 := half_bounds broken
    rw [writeCode_half style broken]
    split
    · rw [scanText_unit bounds.2 opening done more,Code.ofNat_toNat]
      rfl
    · have control : ¬ code.toNat < 0x20 := by omega
      have apart : ∀ c, code ≠ .char c := by
        rintro c rfl
        cases broken
      simp [scanText,apart,control]

theorem scanText_written (style : Style) (codes : List Code) :
    ∃ scanned, Code.join scanned = Code.join codes ∧ ∀ opening done rest,
      scanText opening .plain done (codes.flatMap (writeCode style) ++ .char '"' :: rest)
        = .ok (done.reverse ++ scanned,rest) := by
  induction codes with
  | nil => exact ⟨[],rfl,fun opening done rest => by simp [scanText]⟩
  | cons code others ih =>
    obtain ⟨later,joined,scanned⟩ := ih
    obtain ⟨first,coded,own⟩ := scanText_code style code
    refine ⟨first ++ later,?_,?_⟩
    · rw [← Code.join_append_right,joined,Code.join_append_right,join_coded coded]
    · intro opening done rest
      rw [List.flatMap_cons,List.append_assoc,own opening done _ (by simp),scanned]
      simp

theorem readText_written (style : Style) (text : Text) (opening rest : List Code) :
    readText opening (text.codes.flatMap (writeCode style) ++ .char '"' :: rest) = .ok (text,rest) := by
  obtain ⟨scanned,joined,read⟩ := scanText_written style text.codes
  have same : Text.ofCodes scanned = text := Text.ext (joined.trans text.joined)
  rw [readText,read opening [] rest]
  simp [same]

end Json

end ExtractionSchema
