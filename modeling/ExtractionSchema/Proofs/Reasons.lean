import ExtractionSchema.Client

namespace ExtractionSchema

namespace Text

theorem append_filled_left {first : String} (filled : first ≠ "") (second : String) :
    first ++ second ≠ "" :=
  fun empty => filled (String.append_eq_empty_iff.mp empty).1

theorem append_filled_right {second : String} (filled : second ≠ "") (first : String) :
    first ++ second ≠ "" :=
  fun empty => filled (String.append_eq_empty_iff.mp empty).2

theorem ofString_filled {text : String} (filled : text ≠ "") : (text : Text) ≠ "" :=
  fun empty => filled (ofString_inj.mp empty)

theorem oversizedText_filled (digits : Nat) : oversizedText digits ≠ "" := by
  unfold oversizedText
  exact append_filled_right (by decide) _

end Text

namespace Binary64

theorem positional_filled (digits : List Char) (exponent : Int) : positional digits exponent ≠ [] := by
  unfold positional
  split
  · simp
  · dsimp only
    split <;> simp

theorem magnitudeText_filled (layout : Layout) (significand exponent : Nat) :
    magnitudeText layout significand exponent ≠ [] := by
  unfold magnitudeText
  split
  · simp
  · dsimp only
    split
    · exact positional_filled _ _
    · simp [scientific]

theorem signed_filled {text : List Char} (negative : Bool) (filled : text ≠ []) :
    signed negative text ≠ [] := by
  cases negative with
  | false => exact filled
  | true => exact List.cons_ne_nil _ _

theorem shown_filled (value : Binary64) : value.text .shown ≠ [] := by
  cases value with
  | nan => decide
  | infinite negative => exact signed_filled negative (by decide)
  | finite negative significand exponent =>
    exact signed_filled negative (magnitudeText_filled _ significand exponent)

end Binary64

namespace Json

theorem int_filled (value : Int) : toString value ≠ "" := by
  cases value with
  | ofNat magnitude => exact Nat.repr_ne_empty
  | negSucc magnitude => exact Text.append_filled_left (by decide) _

theorem shown_filled (value : Json) : value.shown ≠ [] := by
  cases value with
  | bool flag => cases flag <;> decide
  | int number =>
    intro empty
    exact int_filled number (String.toList_eq_nil_iff.mp empty)
  | float number => exact number.shown_filled
  | null => decide
  | str text => exact List.cons_ne_nil _ _
  | arr items => exact List.cons_ne_nil _ _
  | obj members => exact List.cons_ne_nil _ _

-- Of the texts only the empty one is no reason, and it does not count as one.
theorem asText_filled {value : Json} (truthy : value.isTruthy = true) : value.asText ≠ "" := by
  have displayed : (value.display : Text) ≠ "" := fun empty => value.shown_filled (by
    simpa [display] using congrArg String.toList (Text.ofString_inj.mp empty))
  cases value with
  | str text =>
    intro empty
    rw [isTruthy,Text.isEmpty_iff.mpr (show text = "" from empty)] at truthy
    cases truthy
  | _ => exact displayed

theorem ReadFault.message_filled (fault : ReadFault) : fault.message ≠ "" := by
  cases fault with
  | oversizedInteger digits =>
    rw [message]
    exact Text.oversizedText_filled digits
  | nestedTooDeep container => cases container <;> decide
  | _ => decide

theorem ReadError.message_filled (error : ReadError) : error.message ≠ "" := by
  unfold message
  split
  · exact Text.append_filled_right (by decide) _
  · exact error.fault.message_filled

-- The reader has no room for the text.
def TooDeep (room : Room) (text : List Code) : Prop :=
  ∃ error container, read room text = .error error ∧ error.fault = .nestedTooDeep container

theorem ReadFault.tooDeep_iff {fault : ReadFault} :
    fault.tooDeep?.isSome = true ↔ ∃ container, fault = .nestedTooDeep container := by
  cases fault <;> simp [tooDeep?]

-- Brackets that are opened, one more than the reader has room for.
theorem readValue_bottomless (most : Nat) {fuel : Nat} (enough : 2 * most < fuel) (rest : List Code) :
    readValue fuel (some most) (List.replicate (most + 1) (.char '[') ++ rest) =
      .error ⟨.nestedTooDeep .array,.char '[' :: rest⟩ := by
  induction most generalizing fuel with
  | zero =>
    obtain ⟨less,rfl⟩ : ∃ less, fuel = less + 1 := ⟨fuel - 1,by omega⟩
    rfl
  | succ most ih =>
    obtain ⟨less,rfl⟩ : ∃ less, fuel = less + 1 + 1 := ⟨fuel - 2,by omega⟩
    have inner : readItems (less + 1) (some most) []
        (List.replicate (most + 1) (.char '[') ++ rest) =
          .error ⟨.nestedTooDeep .array,.char '[' :: rest⟩ := by
      rw [readItems,ih (by omega)]
    exact inner

-- Brackets that are opened and never closed.
def unclosed (count : Nat) : String := String.ofList (List.replicate count '[')

theorem unclosed_read {most count : Nat} (more : most < count) :
    ∃ error, read (some most) (unclosed count) = .error error ∧ error.fault = .nestedTooDeep .array := by
  obtain ⟨others,rfl⟩ : ∃ others, count = most + 1 + others := ⟨count - (most + 1),by omega⟩
  obtain ⟨rest,split⟩ : ∃ rest, (unclosed (most + 1 + others) : List Code) =
      List.replicate (most + 1) (.char '[') ++ rest := by
    refine ⟨List.replicate others (.char '['),?_⟩
    rw [Code.ofString,unclosed,String.toList_ofList,List.map_replicate,List.replicate_append_replicate]
  have own := readValue_bottomless most
    (show 2 * most < 2 * (List.replicate (most + 1) (Code.char '[') ++ rest).length + 2 by simp; omega) rest
  have reached : skipGaps (List.replicate (most + 1) (.char '[') ++ rest) =
      List.replicate (most + 1) (.char '[') ++ rest := by
    simp [skipGaps,isGap,List.replicate_succ]
  have whole : readAll (some most) (List.replicate (most + 1) (.char '[') ++ rest) =
      .error ⟨.nestedTooDeep .array,.char '[' :: rest⟩ := by
    unfold readAll
    split
    · next marked => simp [List.replicate_succ] at marked
    · rw [reached,own]
  have halted : read (some most) (unclosed (most + 1 + others)) =
      .error (Halt.locate (List.replicate (most + 1) (.char '[') ++ rest)
        ⟨.nestedTooDeep .array,.char '[' :: rest⟩) := by
    rw [read,split,whole]
    rfl
  exact ⟨_,halted,rfl⟩

end Json

theorem reasonOf_filled (value : Json) : reasonOf value ≠ "" := by
  have otherwise : (unexplained : Text) ≠ "" := by decide
  unfold reasonOf
  split
  · split
    · split
      · next truthy => exact Json.asText_filled truthy
      · exact otherwise
    · exact otherwise
  · exact otherwise

variable {room : Json.Room} {body : String}

theorem reasonIn_error_iff {error : Json.ReadError} :
    reasonIn room body = .error error ↔
      Json.read room body = .error error ∧ ∃ container, error.fault = .nestedTooDeep container := by
  unfold reasonIn
  cases Json.read room body with
  | ok value => simp
  | error stop =>
    by_cases deep : stop.fault.tooDeep?.isSome = true
    · simp only [if_pos deep]
      constructor
      · intro same
        cases same
        exact ⟨rfl,Json.ReadFault.tooDeep_iff.mp deep⟩
      · intro given
        cases given.1
        rfl
    · simp only [if_neg deep]
      refine iff_of_false (by simp) ?_
      intro given
      obtain ⟨same,other⟩ := given
      cases same
      exact deep (Json.ReadFault.tooDeep_iff.mpr other)

theorem reasonIn_filled {reason : Text} (found : reasonIn room body = .ok reason) : reason ≠ "" := by
  have otherwise : (unexplained : Text) ≠ "" := by decide
  unfold reasonIn at found
  split at found
  · cases found
    exact reasonOf_filled _
  · split at found
    · cases found
    · cases found
      split
      · exact otherwise
      · next kept => simpa using kept

theorem reasonIn_isOk : (reasonIn room body).isOk = false ↔ Json.TooDeep room body := by
  cases given : reasonIn room body with
  | ok reason =>
    refine iff_of_false (by simp [Except.isOk,Except.toBool]) ?_
    intro deep
    obtain ⟨error,container,read,fault⟩ := deep
    cases given.symm.trans (reasonIn_error_iff.mpr ⟨read,container,fault⟩)
  | error error =>
    obtain ⟨read,container,fault⟩ := reasonIn_error_iff.mp given
    exact iff_of_true rfl ⟨error,container,read,fault⟩

end ExtractionSchema
