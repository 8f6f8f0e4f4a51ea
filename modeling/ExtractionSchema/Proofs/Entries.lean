import ExtractionSchema.Json
import Mathlib.Data.List.Induction
import Mathlib.Data.List.Nodup

namespace ExtractionSchema.Entries

variable {α : Type}

theorem keys_append (first second : Entries α) : keys (first ++ second) = keys first ++ keys second :=
  List.map_append

theorem put_fresh {key : Text} {entries : Entries α} (value : α) (fresh : key ∉ entries.keys) :
    entries.put key value = entries ++ [(key,value)] := by
  induction entries with
  | nil => rfl
  | cons entry rest ih =>
    obtain ⟨here,old⟩ := entry
    have apart : key ∉ here :: keys rest := fresh
    have different : here ≠ key := fun same => apart (same ▸ List.mem_cons_self)
    have remaining := ih (fun present => apart (List.mem_cons_of_mem _ present))
    simp [put,different,remaining]

theorem collapse_from {pairs entries : Entries α} (distinct : (keys (entries ++ pairs)).Nodup) :
    pairs.foldl (fun entries (key,value) => entries.put key value) entries = entries ++ pairs := by
  induction pairs generalizing entries with
  | nil => simp
  | cons pair rest ih =>
    obtain ⟨key,value⟩ := pair
    have fresh : key ∉ entries.keys := by
      intro present
      simp only [keys,List.map_append,List.map_cons] at distinct
      exact (List.nodup_append.mp distinct).2.2 key present key (by simp) rfl
    have later : (keys ((entries ++ [(key,value)]) ++ rest)).Nodup := by
      simpa using distinct
    rw [List.foldl_cons]
    dsimp only
    rw [put_fresh value fresh,ih later]
    simp

theorem collapse_distinct {pairs : Entries α} (distinct : (keys pairs).Nodup) :
    collapse pairs = pairs := by
  have whole : (keys ([] ++ pairs)).Nodup := distinct
  exact collapse_from whole

theorem keys_put (key : Text) (value : α) (entries : Entries α) :
    keys (entries.put key value) = if key ∈ keys entries then keys entries
      else keys entries ++ [key] := by
  induction entries with
  | nil => rfl
  | cons entry rest ih =>
    obtain ⟨here,old⟩ := entry
    have whole : keys ((here,old) :: rest) = here :: keys rest := rfl
    by_cases same : here = key
    · subst same
      simp [put,keys]
    · have later : keys (put key value ((here,old) :: rest)) = here :: keys (put key value rest) := by
        rw [put,if_neg same]
        rfl
      rw [later,ih,whole]
      by_cases known : key ∈ keys rest
      · rw [if_pos known,if_pos (List.mem_cons_of_mem here known)]
      · rw [if_neg known,if_neg (by simp [known,Ne.symm same]),List.cons_append]

theorem put_distinct {entries : Entries α} (distinct : entries.keys.Nodup) (key : Text) (value : α) :
    (keys (entries.put key value)).Nodup := by
  rw [keys_put]
  split
  · exact distinct
  · next fresh =>
    rw [← List.concat_eq_append]
    exact List.Nodup.concat fresh distinct

theorem collapsed_distinct (pairs : List (Text × α)) : (keys (collapse pairs)).Nodup := by
  suffices each : ∀ entries : Entries α, entries.keys.Nodup →
      (keys (pairs.foldl (fun entries (key,value) => entries.put key value) entries)).Nodup from
    each [] List.nodup_nil
  induction pairs with
  | nil => exact fun entries distinct => distinct
  | cons pair rest ih => exact fun entries distinct => ih _ (put_distinct distinct pair.1 pair.2)

theorem lookup_exact {entries : Entries α} (distinct : entries.keys.Nodup) {key : Text} {value : α} :
    entries.lookup key = some value ↔ (key,value) ∈ entries := by
  induction entries with
  | nil => simp
  | cons entry rest ih =>
    obtain ⟨here,first⟩ := entry
    obtain ⟨apart,others⟩ := List.nodup_cons.mp distinct
    by_cases same : key = here
    · subst same
      have absent : (key,value) ∉ rest := fun later => apart (List.mem_map.mpr ⟨_,later,rfl⟩)
      simp [absent,eq_comm]
    · simp [List.lookup_cons,beq_false_of_ne same,same,ih others]

theorem lookup_perm {entries others : Entries α} (distinct : entries.keys.Nodup)
    (same : entries.Perm others) (key : Text) : entries.lookup key = others.lookup key := by
  have apart : others.keys.Nodup := (same.map Prod.fst).nodup_iff.mp distinct
  apply Option.ext
  intro value
  rw [lookup_exact distinct,lookup_exact apart,same.mem_iff]

theorem lookup_none_iff {entries : Entries α} {key : Text} :
    entries.lookup key = none ↔ key ∉ entries.keys := by
  rw [← Option.not_isSome_iff_eq_none,List.lookup_isSome_iff]
  simp [keys]

theorem lookup_put (name key : Text) (value : α) (entries : Entries α) :
    (entries.put key value).lookup name = if name = key then some value else entries.lookup name := by
  induction entries with
  | nil => by_cases same : name = key <;> simp [put,List.lookup_cons,beq_false_of_ne,same]
  | cons entry rest ih =>
    obtain ⟨here,old⟩ := entry
    by_cases known : here = key
    · subst known
      by_cases same : name = here <;> simp [put,List.lookup_cons,beq_false_of_ne,same]
    · rw [put,if_neg known,List.lookup_cons,ih,List.lookup_cons]
      by_cases first : name = here
      · simp [first,known]
      · simp [beq_false_of_ne first]

-- Each name of the pairs once: where it comes first, and with the value that it has last.
structure Condenses (pairs : List (Text × α)) (entries : Entries α) : Prop where
  once : entries.keys.Nodup
  named : ∀ name, name ∈ entries.keys ↔ name ∈ keys pairs
  ordered : entries.keys.Pairwise fun before after => (keys pairs).idxOf before < (keys pairs).idxOf after
  latest : ∀ before name value after, pairs = before ++ (name,value) :: after → name ∉ keys after →
    entries.lookup name = some value

theorem keys_behind (pairs : List (Text × α)) (key : Text) (value : α) :
    keys (pairs ++ [(key,value)]) = keys pairs ++ [key] :=
  keys_append pairs [(key,value)]

theorem collapse_behind (pairs : List (Text × α)) (key : Text) (value : α) :
    collapse (pairs ++ [(key,value)]) = (collapse pairs).put key value := by
  simp [collapse]

theorem collapse_named (pairs : List (Text × α)) (name : Text) :
    name ∈ keys (collapse pairs) ↔ name ∈ keys pairs := by
  induction pairs using List.reverseRecOn with
  | nil => exact Iff.rfl
  | append_singleton pairs pair ih =>
    obtain ⟨key,value⟩ := pair
    rw [collapse_behind,keys_put,keys_behind]
    split
    · next known =>
      have same : name = key → name ∈ keys (collapse pairs) := fun equal => equal ▸ known
      simpa [ih] using same
    · simp [ih]

theorem collapse_ordered (pairs : List (Text × α)) :
    (keys (collapse pairs)).Pairwise fun before after =>
      (keys pairs).idxOf before < (keys pairs).idxOf after := by
  induction pairs using List.reverseRecOn with
  | nil => exact .nil
  | append_singleton pairs pair ih =>
    obtain ⟨key,value⟩ := pair
    have settled : ∀ name ∈ keys (collapse pairs),
        (keys pairs ++ [key]).idxOf name = (keys pairs).idxOf name := fun name present =>
      List.idxOf_append_of_mem ((collapse_named pairs name).mp present)
    have same : (keys (collapse pairs)).Pairwise fun before after =>
        (keys pairs ++ [key]).idxOf before < (keys pairs ++ [key]).idxOf after := by
      refine ih.imp_of_mem ?_
      intro before after one other earlier
      rwa [settled before one,settled after other]
    rw [collapse_behind,keys_put,keys_behind]
    split
    · exact same
    · next fresh =>
      refine List.pairwise_append.mpr ⟨same,List.pairwise_singleton _ _,?_⟩
      intro before present after last
      cases List.mem_singleton.mp last
      have known := (collapse_named pairs before).mp present
      have new : key ∉ keys pairs := fun found => fresh ((collapse_named pairs key).mpr found)
      have first := List.idxOf_lt_length_of_mem known
      rw [settled before present]
      exact Nat.lt_of_lt_of_eq first (by simp [List.idxOf_append_of_notMem new])

theorem collapse_latest (before : List (Text × α)) (name : Text) (value : α)
    {after : List (Text × α)} (last : name ∉ keys after) :
    (collapse (before ++ (name,value) :: after)).lookup name = some value := by
  induction after using List.reverseRecOn with
  | nil => rw [collapse_behind,lookup_put,if_pos rfl]
  | append_singleton after pair ih =>
    obtain ⟨key,other⟩ := pair
    rw [keys_behind,List.mem_append,not_or] at last
    have different : name ≠ key := fun same => last.2 (List.mem_singleton.mpr same)
    rw [← List.cons_append,← List.append_assoc,collapse_behind,lookup_put,if_neg different]
    exact ih last.1

theorem collapse_condenses (pairs : List (Text × α)) : Condenses pairs (collapse pairs) where
  once := collapsed_distinct pairs
  named := collapse_named pairs
  ordered := collapse_ordered pairs
  latest before name value _ same last := same ▸ collapse_latest before name value last

end ExtractionSchema.Entries
