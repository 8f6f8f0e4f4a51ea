import ExtractionSchema.Json.Reader
import ExtractionSchema.Proofs.Entries

namespace ExtractionSchema.Json

-- The names in a value are different from one another, if it is an object.
def NamesDiffer (value : Json) : Prop :=
  ∀ members, value = .obj members → (Entries.keys members).Nodup

theorem readNumber_scalar {cs left : List Code} {value : Json}
    (read : readNumber cs = .ok (value,left)) : value.isScalar = true := by
  revert read
  fun_cases readNumber cs
  all_goals intro read; cases read
  all_goals rfl

theorem constant_scalar {cs left : List Code} {value : Json}
    (found : constant? cs = some (value,left)) : value.isScalar = true := by
  have each : ∀ entry ∈ constants, entry.2.isScalar = true := by decide
  obtain ⟨entry,picked,same⟩ := Option.map_eq_some_iff.mp found
  cases same
  exact each entry (List.mem_of_find?_eq_some picked)

theorem readScalar_scalar {cs left : List Code} {value : Json}
    (read : readScalar cs = .ok (value,left)) : value.isScalar = true := by
  unfold readScalar at read
  split at read
  · next found =>
    cases read
    exact constant_scalar found
  · exact readNumber_scalar read

theorem scalar_namesDiffer {value : Json} (scalar : value.isScalar = true) : value.NamesDiffer := by
  intro members same
  subst same
  cases scalar

theorem readItems_array {fuel : Nat} {room : Room} {done : List Json} {cs left : List Code}
    {value : Json} (read : readItems fuel room done cs = .ok (value,left)) : ∃ items, value = .arr items := by
  induction fuel generalizing done cs with
  | zero => cases read
  | succ fuel ih =>
    rw [readItems] at read
    split at read
    · cases read
    · split at read
      · cases read
        exact ⟨_,rfl⟩
      · exact ih read
      · cases read

theorem readMembers_namesDiffer {fuel : Nat} {room : Room} {done : List (Text × Json)}
    {cs left : List Code} {value : Json} (read : readMembers fuel room done cs = .ok (value,left)) : value.NamesDiffer := by
  induction fuel generalizing done cs with
  | zero => cases read
  | succ fuel ih =>
    unfold readMembers at read
    split at read
    · cases read
    · next fuel _ _ same =>
      cases same
      split at read
      · cases read
      · split at read
        · split at read
          · cases read
          · split at read
            · cases read
              intro members same
              cases same
              exact Entries.collapsed_distinct _
            · exact ih read
            · cases read
        · cases read
    · cases read

theorem readValue_namesDiffer {fuel : Nat} {room : Room} {cs left : List Code} {value : Json}
    (read : readValue fuel room cs = .ok (value,left)) : value.NamesDiffer := by
  unfold readValue at read
  split at read
  · cases read
  · split at read
    · cases read
    · cases read
      exact scalar_namesDiffer rfl
  · split at read
    · cases read
    · split at read
      · cases read
        intro members same
        cases same
      · obtain ⟨items,rfl⟩ := readItems_array read
        intro members same
        cases same
  · split at read
    · cases read
    · split at read
      · cases read
        intro members same
        cases same
        exact List.nodup_nil
      · exact readMembers_namesDiffer read
  · exact scalar_namesDiffer (readScalar_scalar read)

theorem read_distinct {room : Room} {text : List Code} {members : List (Text × Json)}
    (found : read room text = .ok (.obj members)) : (Entries.keys members).Nodup := by
  unfold read readAll at found
  split at found
  · cases found
  · split at found
    · cases found
    · next value rest own =>
      split at found
      · cases found
        exact readValue_namesDiffer own members rfl
      · cases found

end ExtractionSchema.Json
