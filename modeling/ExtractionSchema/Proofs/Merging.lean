import ExtractionSchema.Proofs.FirstViolation
import ExtractionSchema.Proofs.Fragment
import ExtractionSchema.Template

namespace ExtractionSchema

namespace FieldTree

def missing (tree incoming : FieldTree) : FieldTree :=
  incoming.filter fun field => field.name ∉ tree.map (·.name)

-- Among fields with different names none is kept out by another one of them.
theorem newcomers_distinct {incoming : FieldTree} (distinct : (incoming.map (·.name)).Nodup)
    (taken : List Text) :
    newcomers taken incoming = incoming.filter fun field => field.name ∉ taken := by
  induction incoming generalizing taken with
  | nil => rfl
  | cons field rest ih =>
    obtain ⟨apart,others⟩ := List.nodup_cons.mp distinct
    by_cases known : field.name ∈ taken
    · simp [newcomers,known,ih others]
    · have unaffected : rest.filter (fun other => other.name ∉ field.name :: taken) =
          rest.filter fun other => other.name ∉ taken := by
        apply List.filter_congr
        intro other member
        have different : other.name ≠ field.name :=
          fun same => apart (List.mem_map.mpr ⟨other,member,same⟩)
        simp [different]
      simp only [newcomers,List.contains_iff_mem,known,if_false,ih others,unaffected]
      simp [known]

theorem merge_distinct (tree : FieldTree) {incoming : FieldTree}
    (distinct : (incoming.map (·.name)).Nodup) :
    tree.merge incoming = tree ++ tree.missing incoming :=
  congrArg (tree ++ ·) (newcomers_distinct distinct _)

theorem missing_apart {tree incoming : FieldTree} :
    ∀ field ∈ tree.missing incoming, field.name ∉ tree.map (·.name) := by
  intro field member
  exact of_decide_eq_true (List.mem_filter.mp member).2

theorem missing_wellFormed (tree : FieldTree) {incoming : FieldTree} (sound : incoming.WellFormed) :
    (tree.missing incoming).WellFormed :=
  sound.sublist List.filter_sublist

section Joined

variable {tree fresh : FieldTree}

-- Fields that are sound among themselves and have names of their own do neither good nor harm.
theorem wellFormed_joined_iff (sound : fresh.WellFormed)
    (apart : ∀ field ∈ fresh, field.name ∉ tree.map (·.name)) :
    FieldTree.WellFormed (tree ++ fresh) ↔ tree.WellFormed := by
  have each := soundAmong_iff.mp sound.1
  have disjoint : ∀ name ∈ tree.map (·.name), ∀ other ∈ fresh.map (·.name), name ≠ other := by
    intro name member other found same
    obtain ⟨field,belongs,rfl⟩ := List.mem_map.mp found
    exact apart field belongs (same ▸ member)
  simp only [WellFormed,soundAmong_iff,List.forall_mem_append,List.map_append,List.nodup_append]
  constructor
  · intro whole
    exact ⟨whole.1.1,whole.2.1⟩
  · intro own
    exact ⟨⟨own.1,each⟩,own.2,sound.2,disjoint⟩

theorem check_joined (sound : fresh.WellFormed)
    (apart : ∀ field ∈ fresh, field.name ∉ tree.map (·.name)) (path : Text) :
    FieldTree.check (tree ++ fresh) path = tree.check path := by
  cases found : tree.check path with
  | error error => exact checkSiblings_append found fresh
  | ok _ => exact check_passes.mpr ((wellFormed_joined_iff sound apart).mpr (check_passes.mp found))

theorem check_merge (tree : FieldTree) {incoming : FieldTree} (sound : incoming.WellFormed)
    (path : Text) : (tree.merge incoming).check path = tree.check path := by
  rw [merge_distinct tree sound.2]
  exact check_joined (missing_wellFormed tree sound) missing_apart path

def Declares (tree : FieldTree) (properties : List (Text × Json)) : Prop :=
  ∃ rest, tree.compile =
    .ok (.obj (("type",.str "object") :: ("properties",.obj properties) :: rest))

theorem declares_aligned (sound : tree.WellFormed) {properties : List (Text × Json)}
    (aligned : List.Forall₂ Schema.Becomes tree properties) : tree.Declares properties := by
  have compiled : Schema.fragment (.object .initial tree) =
      .ok (.obj (("type",.str "object") :: Schema.closedPart tree properties)) :=
    (Schema.fragment_object sound.2).mpr ⟨properties,aligned,rfl⟩
  exact ⟨_,(compile_wellFormed sound).trans compiled⟩

theorem aligned_exists (sound : tree.WellFormed) :
    ∃ properties, List.Forall₂ Schema.Becomes tree properties :=
  Schema.fragments_exist fun field member =>
    Schema.fragment_exists (soundAmong_iff.mp sound.1 field member).2

theorem declares_joined (sound : tree.WellFormed) (new : fresh.WellFormed)
    (apart : ∀ field ∈ fresh, field.name ∉ tree.map (·.name)) :
    ∃ own more, tree.Declares own ∧ FieldTree.Declares (tree ++ fresh) (own ++ more) := by
  obtain ⟨own,aligned⟩ := aligned_exists sound
  obtain ⟨more,later⟩ := aligned_exists new
  have whole := (wellFormed_joined_iff new apart).mpr sound
  exact ⟨own,more,declares_aligned sound aligned,declares_aligned whole (List.rel_append aligned later)⟩

end Joined

end FieldTree

namespace Template

theorem find_key (template : Template) : find (.str template.key) = .ok template := by
  cases template <;> rfl

theorem fields_wellFormed (template : Template) : template.fields.WellFormed := by
  cases template <;> decide

end Template

namespace FieldTree

theorem resolve_joined {template : Template} {merging : Bool} (tree : FieldTree)
    (joins : template = .custom ∨ merging = true) :
    tree.resolve (.str template.key) merging = .ok (tree ++ tree.missing template.fields) := by
  have joined := merge_distinct tree template.fields_wellFormed.2
  unfold resolve
  rw [template.find_key]
  rcases joins with rfl | rfl
  · simp [missing,Template.fields]
  · cases template with
    | custom => simp [missing,Template.fields]
    | _ => exact congrArg Except.ok joined

theorem resolve_replaced {template : Template} (tree : FieldTree) (other : template ≠ .custom) :
    tree.resolve (.str template.key) false = .ok template.fields := by
  unfold resolve
  rw [template.find_key]
  cases template with
  | custom => exact absurd rfl other
  | _ => rfl

theorem resolve_keeps (tree : FieldTree) (template : Template) (merging : Bool) :
    (template = .custom ∨ merging = true →
      ∃ result : FieldTree, tree.resolve (.str template.key) merging = .ok result ∧
        result = tree ++ tree.missing template.fields ∧
        (∀ path, result.check path = tree.check path) ∧
          (tree.WellFormed → ∃ own more, tree.Declares own ∧ result.Declares (own ++ more))) ∧
    (template ≠ .custom → merging = false →
      tree.resolve (.str template.key) merging = .ok template.fields ∧
        template.fields.WellFormed) ∧
    ∀ incoming : FieldTree, incoming.WellFormed →
      ∀ path, (tree.merge incoming).check path = tree.check path := by
  have fresh := missing_wellFormed tree template.fields_wellFormed
  refine ⟨?_,?_,fun incoming sound path => check_merge tree sound path⟩
  · intro joins
    refine ⟨_,resolve_joined tree joins,rfl,check_joined fresh missing_apart,?_⟩
    intro sound
    exact declares_joined sound fresh missing_apart
  · intro other replaces
    subst replaces
    exact ⟨resolve_replaced tree other,template.fields_wellFormed⟩

-- A tree with a date of its own, which is a name that the receipt has as well.
def dated : FieldTree := [.string ⟨"date",true,some "mine",[]⟩ none,.number ⟨"tip",true,none,[]⟩]

theorem dated_kept :
    dated.WellFormed ∧
      (∃ own more, dated.Declares own ∧
        FieldTree.Declares (dated ++ dated.missing Template.receiptFields) (own ++ more)) ∧
      dated.resolve (.str "receipt") false = .ok Template.receiptFields ∧
      FieldTree.WellFormed Template.invoiceFields ∧
      (dated.merge Template.invoiceFields).check "form" = .ok () ∧
      ∃ result : FieldTree, crowded.resolve (.str "receipt") true = .ok result ∧
        result.check "form" = .error ⟨.blankName,some "form.seller.lines.items[1]"⟩ := by
  have sound : dated.WellFormed := by decide
  have invoice : FieldTree.WellFormed Template.invoiceFields := Template.invoice.fields_wellFormed
  obtain ⟨joins,_,merges⟩ := resolve_keeps dated .receipt true
  obtain ⟨_,replaces,_⟩ := resolve_keeps dated .receipt false
  obtain ⟨_,_,rfl,_,compiled⟩ := joins (.inr rfl)
  obtain ⟨result,given,_,found,_⟩ := (resolve_keeps crowded .receipt true).1 (.inr rfl)
  refine ⟨sound,compiled sound,(replaces (by decide) rfl).1,invoice,?_,result,given,?_⟩
  · exact (merges _ invoice "form").trans (check_passes.mpr sound)
  · exact (found "form").trans (by decide +kernel)

end FieldTree

end ExtractionSchema
