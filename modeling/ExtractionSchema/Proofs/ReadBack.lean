import ExtractionSchema.Proofs.Entries
import ExtractionSchema.Proofs.QuotedTexts

namespace ExtractionSchema.Json

-- A comma and a colon, and nothing but gaps behind them.
structure Style.Readable (style : Style) : Prop where
  item : ∃ gaps, style.afterItem = .char ',' :: gaps ∧ ∀ c ∈ gaps, isGap c = true
  key : ∃ gaps, style.afterKey = .char ':' :: gaps ∧ ∀ c ∈ gaps, isGap c = true

theorem compact_readable : Style.compact.Readable :=
  ⟨⟨[],rfl,by simp⟩,⟨[],rfl,by simp⟩⟩

theorem compactAscii_readable : Style.compactAscii.Readable :=
  ⟨⟨[],rfl,by simp⟩,⟨[],rfl,by simp⟩⟩

theorem spacedAscii_readable : Style.spacedAscii.Readable := by
  have blank : ∀ c ∈ [Code.char ' '], isGap c = true := by
    intro c member
    cases List.mem_singleton.mp member
    rfl
  exact ⟨⟨[.char ' '],rfl,blank⟩,⟨[.char ' '],rfl,blank⟩⟩

-- What stands where a reader looks for a value, an item or a name: no gap, no closing bracket and
-- no mark of an encoding.
def Begins (written : List Code) : Prop :=
  ∃ c rest, written = c :: rest ∧ isGap c = false ∧ c ≠ .char ']' ∧ c ≠ .char '\x7d' ∧ c ≠ .char '\uFEFF'

theorem skipGaps_begins {gaps written : List Code} (gap : ∀ c ∈ gaps, isGap c = true)
    (begins : Begins written) (rest : List Code) :
    skipGaps (gaps ++ (written ++ rest)) = written ++ rest := by
  obtain ⟨c,others,rfl,visible,_⟩ := begins
  rw [skipGaps,List.dropWhile_append_of_pos gap]
  simp [visible]

theorem begins_append {written : List Code} (begins : Begins written) (rest : List Code) :
    Begins (written ++ rest) := by
  obtain ⟨c,others,rfl,visible⟩ := begins
  exact ⟨c,others ++ rest,rfl,visible⟩

theorem writeText_begins (style : Style) (text : Text) : Begins (writeText style text) :=
  ⟨_,_,rfl,by decide⟩

theorem write_begins {value : Json} (plain : value.Plain) (style : Style) :
    Begins (value.write style) := by
  cases plain with
  | null => exact ⟨_,_,rfl,by decide⟩
  | bool value => cases value <;> exact ⟨_,_,rfl,by decide⟩
  | str value => exact writeText_begins style value
  | arr each => exact ⟨_,_,rfl,by decide⟩
  | obj distinct each => exact ⟨_,_,rfl,by decide⟩

theorem separated_begins {separator : List Code} {part : List Code} {parts : List (List Code)}
    (begins : Begins part) : Begins (separated separator (part :: parts)) := by
  cases parts with
  | nil => exact begins
  | cons next others => exact begins_append (begins_append begins separator) _

mutual
def nesting : Json → Nat
  | .arr items => nestingAmong items + 1
  | .obj members => nestingOf members + 1
  | _ => 0
termination_by structural value => value
def nestingAmong : List Json → Nat
  | [] => 0
  | item :: rest => max item.nesting (nestingAmong rest)
termination_by structural items => items
def nestingOf : List (Text × Json) → Nat
  | [] => 0
  | (_,value) :: rest => max value.nesting (nestingOf rest)
termination_by structural members => members
end

theorem nestingAmong_le_iff {items : List Json} {layers : Nat} :
    nestingAmong items ≤ layers ↔ ∀ item ∈ items, item.nesting ≤ layers := by
  induction items with
  | nil => simp [nestingAmong]
  | cons item rest ih => rw [nestingAmong,Nat.max_le,ih,List.forall_mem_cons]

theorem nestingOf_le_iff {members : List (Text × Json)} {layers : Nat} :
    nestingOf members ≤ layers ↔ ∀ member ∈ members, member.2.nesting ≤ layers := by
  induction members with
  | nil => simp [nestingOf]
  | cons member rest ih => rw [nestingOf,Nat.max_le,ih,List.forall_mem_cons]

def Room.Allows (room : Room) (layers : Nat) : Prop := ∀ most ∈ room, layers ≤ most

theorem Room.endless_allows (layers : Nat) : Room.Allows none layers := by simp [Room.Allows]

theorem Room.Allows.fewer {room : Room} {layers fewer : Nat} (allows : room.Allows layers)
    (less : fewer ≤ layers) : room.Allows fewer :=
  fun most member => Nat.le_trans less (allows most member)

theorem Room.Allows.enter {room : Room} {layers : Nat} (allows : room.Allows (layers + 1)) :
    room ≠ some 0 ∧ room.inside.Allows layers := by
  cases room with
  | none => exact ⟨nofun,Room.endless_allows layers⟩
  | some most =>
    have fits : layers + 1 ≤ most := allows most rfl
    refine ⟨fun empty => ?_,?_⟩
    · cases empty
      exact Nat.not_succ_le_zero _ fits
    · intro inner same
      cases same
      exact Nat.le_sub_one_of_lt fits

-- A value comes back and what follows it is left, given two steps for each character and room for
-- what is nested in it.
def ReadsBack (style : Style) (value : Json) : Prop :=
  ∀ fuel room rest, 2 * (value.write style).length ≤ fuel → room.Allows value.nesting →
    readValue fuel room (value.write style ++ rest) = .ok (value,rest)

theorem separated_next (separator part next : List Code) (parts : List (List Code)) :
    separated separator (part :: next :: parts)
      = part ++ (separator ++ separated separator (next :: parts)) := by
  simp [separated]

theorem readItems_last {fuel : Nat} {room : Room} {value : Json} {cs left : List Code}
    (done : List Json) (own : readValue fuel room cs = .ok (value,.char ']' :: left)) :
    readItems (fuel + 1) room done cs = .ok (.arr (done.reverse ++ [value]),left) := by
  rw [readItems,own]
  simp [skipGaps,isGap]

theorem readItems_next {style : Style} (readable : style.Readable) {fuel : Nat} {room : Room}
    {value : Json} {cs written rest : List Code} (done : List Json) (begins : Begins written)
    (own : readValue fuel room cs = .ok (value,style.afterItem ++ (written ++ rest))) :
    readItems (fuel + 1) room done cs = readItems fuel room (value :: done) (written ++ rest) := by
  obtain ⟨gaps,comma,gap⟩ := readable.item
  have reached := skipGaps_begins gap begins rest
  rw [comma,List.cons_append] at own
  rw [readItems,own]
  change readItems fuel room (value :: done) (skipGaps (gaps ++ (written ++ rest))) = _
  rw [reached]

-- An item is read with one step less than what is left for the items.
theorem readItems_written {style : Style} (readable : style.Readable) {items : List Json}
    (some : items ≠ []) (each : ∀ value ∈ items, value.Plain ∧ ReadsBack style value)
    {fuel : Nat} {room : Room} (done : List Json) (rest : List Code)
    (enough : 2 * (separated style.afterItem (items.map (write style))).length < fuel)
    (allows : ∀ value ∈ items, room.Allows value.nesting) :
    readItems fuel room done (separated style.afterItem (items.map (write style)) ++ .char ']' :: rest)
      = .ok (.arr (done.reverse ++ items),rest) := by
  induction items generalizing fuel done with
  | nil => cases some rfl
  | cons value others ih =>
    obtain ⟨less,rfl⟩ : ∃ less, fuel = less + 1 := ⟨fuel - 1,by omega⟩
    have own := (each value List.mem_cons_self).2
    have here := allows value List.mem_cons_self
    cases others with
    | nil => exact readItems_last done (own less room _ (Nat.lt_succ_iff.mp enough) here)
    | cons next more =>
      have begins : Begins (separated style.afterItem ((next :: more).map (write style))) :=
        separated_begins (write_begins (each next (by simp)).1 style)
      have comma : 0 < style.afterItem.length := by
        obtain ⟨gaps,comma,_⟩ := readable.item
        simp [comma]
      have whole := separated_next style.afterItem (write style value) (write style next)
        (more.map (write style))
      simp only [List.map_cons] at enough begins ih ⊢
      rw [whole,List.length_append,List.length_append] at enough
      rw [whole,List.append_assoc,List.append_assoc,
        readItems_next readable done begins (own less room _ (by omega) here),
        ih (by simp) (fun other member => each other (List.mem_cons_of_mem _ member)) _ (by omega)
          fun other member => allows other (List.mem_cons_of_mem _ member)]
      simp

theorem writeText_append (style : Style) (text : Text) (rest : List Code) :
    writeText style text ++ rest = .char '"' :: (text.codes.flatMap (writeCode style) ++ .char '"' :: rest) := by
  simp [writeText]

-- What the reader does behind a member, the members so far being known in reverse.
def afterMember (fuel : Nat) (room : Room) (done : List (Text × Json)) (left : List Code) :
    Reading Json :=
  match skipGaps left with
  | .char '\x7d' :: left => .ok (.obj (Entries.collapse done.reverse),left)
  | .char ',' :: left => readMembers fuel room done (skipGaps left)
  | left => halt .expectedComma left

theorem readMembers_member {style : Style} (readable : style.Readable) {member : Text × Json}
    {fuel : Nat} {room : Room} {left rest : List Code} (plain : member.2.Plain)
    (own : readValue fuel room (member.2.write style ++ rest) = .ok (member.2,left))
    (done : List (Text × Json)) :
    readMembers (fuel + 1) room done (writeMember style member ++ rest)
      = afterMember fuel room (member :: done) left := by
  obtain ⟨gaps,colon,gap⟩ := readable.key
  have reached := skipGaps_begins gap (write_begins plain style) rest
  have here : skipGaps (.char ':' :: (gaps ++ (member.2.write style ++ rest)))
      = .char ':' :: (gaps ++ (member.2.write style ++ rest)) := rfl
  rw [writeMember,List.append_assoc,List.append_assoc,writeText_append,colon,List.cons_append,
    readMembers,readText_written]
  simp only [here,reached,own]
  rfl

theorem afterMember_last (fuel : Nat) (room : Room) (done : List (Text × Json)) (rest : List Code) :
    afterMember fuel room done (.char '\x7d' :: rest) = .ok (.obj (Entries.collapse done.reverse),rest) :=
  rfl

theorem afterMember_next {style : Style} (readable : style.Readable) {written : List Code}
    (begins : Begins written) (fuel : Nat) (room : Room) (done : List (Text × Json))
    (rest : List Code) :
    afterMember fuel room done (style.afterItem ++ (written ++ rest))
      = readMembers fuel room done (written ++ rest) := by
  obtain ⟨gaps,comma,gap⟩ := readable.item
  have reached := skipGaps_begins gap begins rest
  rw [comma]
  change readMembers fuel room done (skipGaps (gaps ++ (written ++ rest))) = _
  rw [reached]

theorem writeMember_begins (style : Style) (member : Text × Json) :
    Begins (writeMember style member) :=
  begins_append (begins_append (writeText_begins style member.1) style.afterKey) _

theorem readMembers_written {style : Style} (readable : style.Readable)
    {members : List (Text × Json)} (some : members ≠ [])
    (each : ∀ member ∈ members, member.2.Plain ∧ ReadsBack style member.2) {fuel : Nat}
    {room : Room} (done : List (Text × Json)) (rest : List Code)
    (enough : 2 * (separated style.afterItem (members.map (writeMember style))).length < fuel)
    (allows : ∀ member ∈ members, room.Allows member.2.nesting) :
    readMembers fuel room done (separated style.afterItem (members.map (writeMember style)) ++ .char '\x7d' :: rest)
      = .ok (.obj (Entries.collapse (done.reverse ++ members)),rest) := by
  induction members generalizing fuel done with
  | nil => cases some rfl
  | cons member others ih =>
    obtain ⟨less,rfl⟩ : ∃ less, fuel = less + 1 := ⟨fuel - 1,by omega⟩
    obtain ⟨plain,own⟩ := each member List.mem_cons_self
    have here := allows member List.mem_cons_self
    have shorter : (member.2.write style).length ≤ (writeMember style member).length := by
      simp only [writeMember,List.length_append]
      omega
    cases others with
    | nil =>
      simp only [List.map_cons,List.map_nil,separated] at enough ⊢
      rw [readMembers_member readable plain (own less room _ (by omega) here),afterMember_last,
        List.reverse_cons]
    | cons next more =>
      have begins : Begins (separated style.afterItem ((next :: more).map (writeMember style))) :=
        separated_begins (writeMember_begins style next)
      have comma : 0 < style.afterItem.length := by
        obtain ⟨gaps,comma,_⟩ := readable.item
        simp [comma]
      have whole := separated_next style.afterItem (writeMember style member) (writeMember style next)
        (more.map (writeMember style))
      simp only [List.map_cons] at enough begins ih ⊢
      rw [whole,List.length_append,List.length_append] at enough
      rw [whole,List.append_assoc,List.append_assoc,
        readMembers_member readable plain (own less room _ (by omega) here),
        afterMember_next readable begins,
        ih (by simp) (fun other found => each other (List.mem_cons_of_mem _ found)) _ (by omega)
          fun other found => allows other (List.mem_cons_of_mem _ found)]
      simp

theorem readValue_array {fuel : Nat} {room : Room} {body : List Code} (begins : Begins body)
    (enters : room ≠ some 0) :
    readValue (fuel + 1) room (.char '[' :: body) = readItems fuel room.inside [] body := by
  obtain ⟨c,rest,rfl,visible,open_,_⟩ := begins
  have reached : skipGaps (c :: rest) = c :: rest := by simp [skipGaps,visible]
  rw [readValue,if_neg enters,reached]
  simp [open_]

theorem readValue_object {fuel : Nat} {room : Room} {body : List Code} (begins : Begins body)
    (enters : room ≠ some 0) :
    readValue (fuel + 1) room (.char '\x7b' :: body) = readMembers fuel room.inside [] body := by
  obtain ⟨c,rest,rfl,visible,_,open_,_⟩ := begins
  have reached : skipGaps (c :: rest) = c :: rest := by simp [skipGaps,visible]
  rw [readValue,if_neg enters,reached]
  simp [open_]

-- A written value has a character at least, and so there is a first step.
theorem readsBack_step {style : Style} {value : Json} (plain : value.Plain)
    (step : ∀ fuel room rest, 2 * (value.write style).length ≤ fuel + 1 →
      room.Allows value.nesting →
        readValue (fuel + 1) room (value.write style ++ rest) = .ok (value,rest)) :
    ReadsBack style value := by
  intro fuel room rest enough allows
  obtain ⟨c,others,same,_⟩ := write_begins plain style
  cases fuel with
  | zero => simp [same] at enough
  | succ fuel => exact step fuel room rest enough allows

theorem write_readsBack {style : Style} (readable : style.Readable) {value : Json}
    (plain : value.Plain) : ReadsBack style value := by
  induction plain with
  | null => exact readsBack_step .null fun fuel room rest _ _ => rfl
  | bool value => cases value <;> exact readsBack_step (.bool _) fun fuel room rest _ _ => rfl
  | str value =>
    refine readsBack_step (.str value) fun fuel room rest _ _ => ?_
    rw [write,writeText_append,readValue,readText_written]
  | @arr items each inner =>
    refine readsBack_step (.arr each) fun fuel room rest enough allows => ?_
    obtain ⟨enters,allows⟩ := allows.enter
    cases items with
    | nil =>
      change readValue (fuel + 1) room (.char '[' :: .char ']' :: rest) = _
      rw [readValue,if_neg enters]
      rfl
    | cons first others =>
      have begins : Begins (separated style.afterItem ((first :: others).map (write style))) :=
        separated_begins (write_begins (each first List.mem_cons_self) style)
      rw [write,writeItems_map] at enough ⊢
      simp only [List.length_append,List.length_cons,List.length_nil] at enough
      rw [List.append_assoc,List.cons_append,readValue_array (begins_append begins _) enters]
      exact readItems_written readable (List.cons_ne_nil first others)
        (fun value member => ⟨each value member,inner value member⟩) [] rest (by omega)
        fun value member => allows.fewer (nestingAmong_le_iff.mp (Nat.le_refl _) value member)
  | @obj members distinct each inner =>
    refine readsBack_step (.obj distinct each) fun fuel room rest enough allows => ?_
    obtain ⟨enters,allows⟩ := allows.enter
    cases members with
    | nil =>
      change readValue (fuel + 1) room (.char '\x7b' :: .char '\x7d' :: rest) = _
      rw [readValue,if_neg enters]
      rfl
    | cons first others =>
      have begins : Begins (separated style.afterItem ((first :: others).map (writeMember style))) :=
        separated_begins (writeMember_begins style first)
      rw [write,writeMembers_map] at enough ⊢
      simp only [List.length_append,List.length_cons,List.length_nil] at enough
      rw [List.append_assoc,List.cons_append,readValue_object (begins_append begins _) enters]
      refine (readMembers_written readable (List.cons_ne_nil first others)
        (fun member found => ⟨each member found,inner member found⟩) [] rest (by omega)
        fun member found => allows.fewer (nestingOf_le_iff.mp (Nat.le_refl _) member found)).trans ?_
      rw [List.reverse_nil,List.nil_append,Entries.collapse_distinct distinct]

theorem readAll_written {style : Style} (readable : style.Readable) {value : Json}
    (plain : value.Plain) {room : Room} (allows : room.Allows value.nesting) :
    readAll room (value.write style) = .ok value := by
  have own := write_readsBack readable plain (2 * (value.write style).length + 2) room [] (by omega)
    allows
  obtain ⟨c,rest,same,visible,_,_,mark⟩ := write_begins plain style
  have reached : skipGaps (value.write style) = value.write style := by
    simp [same,skipGaps,visible]
  rw [List.append_nil] at own
  unfold readAll
  split
  · next marked =>
    rw [same] at marked
    exact absurd (List.cons.inj marked).1 mark
  · rw [reached,own]
    rfl

theorem read_write {style : Style} (readable : style.Readable) {value : Json}
    (plain : value.Plain) {room : Room} (allows : room.Allows value.nesting) :
    read room (value.write style) = .ok value := by
  rw [read,readAll_written readable plain allows]
  rfl

theorem write_injective {style : Style} (readable : style.Readable) {first second : Json}
    (plain : first.Plain) (other : second.Plain) (same : first.write style = second.write style) :
    first = second := by
  have one := read_write readable plain (Room.endless_allows _)
  rw [same,read_write readable other (Room.endless_allows _)] at one
  exact (Except.ok.inj one).symm

end ExtractionSchema.Json
