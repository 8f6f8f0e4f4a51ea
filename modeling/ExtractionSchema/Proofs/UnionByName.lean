import ExtractionSchema.Template
import Mathlib.Data.List.Induction

namespace ExtractionSchema.FieldTree

-- The fields, in their order, whose names come neither in the tree nor before them.
def gained (tree incoming : FieldTree) : FieldTree :=
  (incoming.zipIdx.filter fun (field,place) =>
    field.name ∉ tree.map (·.name) ∧ field.name ∉ (incoming.take place).map (·.name)).map (·.1)

section Newcomers

variable {taken others : List Text} {field : Field}

theorem newcomers_old (old : field.name ∈ taken) (rest : FieldTree) :
    newcomers taken (field :: rest) = newcomers taken rest := by
  simp [newcomers,old]

theorem newcomers_new (new : field.name ∉ taken) (rest : FieldTree) :
    newcomers taken (field :: rest) = field :: newcomers (field.name :: taken) rest := by
  simp [newcomers,new]

-- It matters which names are taken, but not in which order or how often.
theorem newcomers_congr (same : ∀ name, name ∈ taken ↔ name ∈ others) (incoming : FieldTree) :
    newcomers taken incoming = newcomers others incoming := by
  induction incoming generalizing taken others with
  | nil => rfl
  | cons field rest ih =>
    have more : ∀ name, name ∈ field.name :: taken ↔ name ∈ field.name :: others := by
      intro name
      simp only [List.mem_cons,same]
    by_cases old : field.name ∈ taken
    · rw [newcomers_old old,newcomers_old ((same _).mp old),ih same]
    · rw [newcomers_new old,newcomers_new (fun known => old ((same _).mpr known)),ih more]

theorem newcomers_none_iff {incoming : FieldTree} :
    newcomers taken incoming = [] ↔ ∀ field ∈ incoming, field.name ∈ taken := by
  induction incoming with
  | nil => simp [newcomers]
  | cons field rest ih =>
    by_cases old : field.name ∈ taken
    · rw [newcomers_old old,ih,List.forall_mem_cons,iff_true_intro old,true_and]
    · rw [newcomers_new old]
      simp [old]

theorem names_newcomers {incoming : FieldTree} {name : Text} :
    name ∈ (newcomers taken incoming).map (·.name) ↔
      name ∈ incoming.map (·.name) ∧ name ∉ taken := by
  induction incoming generalizing taken with
  | nil => simp [newcomers]
  | cons field rest ih =>
    by_cases old : field.name ∈ taken
    · rw [newcomers_old old,ih,List.map_cons,List.mem_cons]
      grind
    · rw [newcomers_new old,List.map_cons,List.map_cons,List.mem_cons,List.mem_cons,ih,List.mem_cons]
      grind

-- Behind some fields their names are taken as well, whether or not they came in.
theorem newcomers_append (taken : List Text) (first second : FieldTree) :
    newcomers taken (first ++ second) =
      newcomers taken first ++ newcomers (taken ++ first.map (·.name)) second := by
  induction first generalizing taken with
  | nil => simp [newcomers]
  | cons field rest ih =>
    by_cases old : field.name ∈ taken
    · rw [List.cons_append,newcomers_old old,newcomers_old old,ih]
      refine congrArg (newcomers taken rest ++ ·) (newcomers_congr ?_ second)
      grind
    · rw [List.cons_append,newcomers_new old,newcomers_new old,ih,List.cons_append]
      refine congrArg (fun later => field :: (newcomers _ rest ++ later)) (newcomers_congr ?_ second)
      grind

-- Fields that came in where some names were taken come in where more are, if those leave them free.
theorem newcomers_twice (taken others : List Text) (incoming : FieldTree) :
    newcomers taken (newcomers others incoming) = newcomers (taken ++ others) incoming := by
  induction incoming generalizing taken others with
  | nil => rfl
  | cons field rest ih =>
    by_cases old : field.name ∈ others
    · rw [newcomers_old old,newcomers_old (List.mem_append_right taken old),ih]
    · rw [newcomers_new old]
      by_cases known : field.name ∈ taken
      · rw [newcomers_old known,newcomers_old (List.mem_append_left others known),ih]
        refine newcomers_congr ?_ rest
        grind
      · rw [newcomers_new known,newcomers_new (by grind),ih]
        refine congrArg (field :: ·) (newcomers_congr ?_ rest)
        grind

end Newcomers

theorem gained_append (tree before : FieldTree) (field : Field) :
    tree.gained (before ++ [field]) = tree.gained before ++
      if field.name ∈ tree.map (·.name) ++ before.map (·.name) then [] else [field] := by
  have earlier : (before.zipIdx.filter fun (other,place) => other.name ∉ tree.map (·.name) ∧
        other.name ∉ ((before ++ [field]).take place).map (·.name)) =
      before.zipIdx.filter fun (other,place) => other.name ∉ tree.map (·.name) ∧
        other.name ∉ (before.take place).map (·.name) := by
    apply List.filter_congr
    intro (other,place) member
    have inside : place ≤ before.length := by
      have bounds := List.mem_zipIdx member
      omega
    simp only [List.take_append_of_le_length inside]
  have whole : (before ++ [field]).take before.length = before := List.take_left
  rw [gained,gained,List.zipIdx_append,List.filter_append,List.map_append,earlier]
  refine congrArg _ ?_
  simp only [List.zipIdx_singleton,Nat.zero_add,List.filter_cons,List.filter_nil,whole,
    List.mem_append,← not_or]
  by_cases old : field.name ∈ tree.map (·.name) ∨ field.name ∈ before.map (·.name)
  · simp only [old]
    rfl
  · simp only [old]
    rfl

theorem newcomers_gained (tree incoming : FieldTree) :
    newcomers (tree.map (·.name)) incoming = tree.gained incoming := by
  induction incoming using List.reverseRecOn with
  | nil => rfl
  | append_singleton before field ih =>
    rw [newcomers_append,gained_append,ih]
    refine congrArg _ ?_
    split
    · next old => exact newcomers_old old []
    · next new => exact newcomers_new new []

theorem merge_gained (tree incoming : FieldTree) :
    tree.merge incoming = tree ++ tree.gained incoming :=
  congrArg (tree ++ ·) (newcomers_gained tree incoming)

theorem names_merge {tree incoming : FieldTree} {name : Text} :
    name ∈ (tree.merge incoming).map (·.name) ↔
      name ∈ tree.map (·.name) ∨ name ∈ incoming.map (·.name) := by
  rw [merge,List.map_append,List.mem_append,names_newcomers]
  by_cases known : name ∈ tree.map (·.name) <;> simp [known]

theorem merge_associative (first second third : FieldTree) :
    (first.merge second).merge third = first.merge (second.merge third) := by
  have known : ∀ name, name ∈ (first.merge second).map (·.name) ↔
      name ∈ (first.map (·.name) ++ second.map (·.name)) ++ second.map (·.name) := by
    intro name
    rw [names_merge,List.mem_append,List.mem_append,or_assoc,or_self]
  calc (first.merge second).merge third
      = first ++ (newcomers (first.map (·.name)) second ++
          newcomers ((first.merge second).map (·.name)) third) := by
        rw [merge,merge,List.append_assoc]
    _ = first ++ (newcomers (first.map (·.name)) second ++
          newcomers (first.map (·.name) ++ second.map (·.name))
            (newcomers (second.map (·.name)) third)) := by
        rw [newcomers_congr known,newcomers_twice]
    _ = first.merge (second.merge third) := by
        rw [← newcomers_append,merge,merge]

theorem merge_absorbs_iff {tree incoming : FieldTree} :
    tree.merge incoming = tree ↔ ∀ field ∈ incoming, field.name ∈ tree.map (·.name) := by
  rw [merge,List.append_right_eq_self,newcomers_none_iff]

theorem names_run {run : List FieldTree} {start : FieldTree} {name : Text} :
    name ∈ (run.foldl merge start).map (·.name) ↔
      ∃ known ∈ start :: run, name ∈ known.map (·.name) := by
  induction run generalizing start with
  | nil => simp
  | cons joined rest ih =>
    rw [List.foldl_cons,ih]
    simp only [List.mem_cons,exists_eq_or_imp,names_merge,or_assoc]

theorem merge_by_name (first second third : FieldTree) :
    first.merge second = first ++ first.gained second ∧
      (first.merge second).merge third = first.merge (second.merge third) ∧
      (first.merge second = first ↔ ∀ field ∈ second, field.name ∈ first.map (·.name)) ∧
      ∀ run : List FieldTree, ∀ known ∈ first :: run,
        (run.foldl merge first).merge known = run.foldl merge first := by
  refine ⟨merge_gained first second,merge_associative first second third,merge_absorbs_iff,?_⟩
  intro run known member
  apply merge_absorbs_iff.mpr
  intro field present
  exact names_run.mpr ⟨known,member,List.mem_map_of_mem present⟩

def billed : FieldTree := [.string ⟨"total",true,none,[]⟩ none]

def taxed : FieldTree := [.number ⟨"total",true,none,[]⟩,.number ⟨"tax",true,none,[]⟩,
  .string ⟨"tax",false,none,[]⟩ none]

def shipped : FieldTree := [.boolean ⟨"tax",true,none,[]⟩,.boolean ⟨"paid",true,none,[]⟩]

theorem taxed_absorbed :
    taxed ∈ billed :: [shipped,taxed,shipped] ∧
      ([shipped,taxed,shipped].foldl merge billed).merge taxed =
        [shipped,taxed,shipped].foldl merge billed ∧
      billed.merge taxed = [.string ⟨"total",true,none,[]⟩ none,.number ⟨"tax",true,none,[]⟩] := by
  have member : taxed ∈ billed :: [shipped,taxed,shipped] := by simp
  obtain ⟨gains,_,_,absorbs⟩ := merge_by_name billed taxed shipped
  exact ⟨member,absorbs _ taxed member,gains.trans (by decide)⟩

end ExtractionSchema.FieldTree
