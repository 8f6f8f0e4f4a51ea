import ExtractionSchema.Accept
import ExtractionSchema.Failure
import Mathlib.Data.List.Forall2

namespace ExtractionSchema

theorem mapped_ok_iff {α β ε : Type} {result : Except ε α} {f : α → β} {value : β} :
    result.map f = .ok value ↔ ∃ before, result = .ok before ∧ f before = value := by
  cases result <;> simp [Except.map]

theorem liftTree_ok_iff {α : Type} {result : Except TreeError α} {value : α} :
    liftTree result = .ok value ↔ result = .ok value := by
  cases result <;> simp [liftTree,Except.mapError]

-- What the second of two lists in step has comes from the first.
theorem aligned_source {α β : Type} {R : α → β → Prop} {sources : List α} {results : List β}
    (aligned : List.Forall₂ R sources results) : ∀ result ∈ results, ∃ source ∈ sources, R source result := by
  induction aligned with
  | nil => simp
  | @cons source result sources results own _ ih =>
    intro other member
    rcases List.mem_cons.mp member with rfl | later
    · exact ⟨source,List.mem_cons_self,own⟩
    · obtain ⟨earlier,found,related⟩ := ih other later
      exact ⟨earlier,List.mem_cons_of_mem _ found,related⟩

namespace Verdict

variable {α β : Type}

theorem map_accepted_iff {verdict : Verdict α} {f : α → β} {result : β} :
    verdict.map f = .accepted result ↔ ∃ value, verdict = .accepted value ∧ f value = result := by
  cases verdict <;> simp [map]

theorem both_map_accepted_iff {γ : Type} {first : Verdict α} {second : Verdict β}
    {f : α × β → γ} {result : γ} :
    (first.both second).map f = .accepted result ↔
      ∃ a, first = .accepted a ∧ ∃ b, second = .accepted b ∧ f (a,b) = result := by
  cases first <;> cases second <;> simp [both,map]

theorem within_accepted_iff {verdict : Verdict α} {segment : Segment} {value : α} :
    verdict.within segment = .accepted value ↔ verdict = .accepted value := by
  cases verdict <;> simp [within]

theorem ofIssues_accepted_iff {issues : List Issue} : ofIssues issues = .accepted () ↔ issues = [] := by
  cases issues <;> simp [ofIssues]

theorem also_accepted_iff {verdict : Verdict α} {check : Verdict Unit} {value : α} :
    verdict.also check = .accepted value ↔ verdict = .accepted value ∧ check = .accepted () := by
  cases verdict <;> cases check <;> simp [also,both,map]

theorem each_accepted_iff {read : α → Verdict β} {position : Nat} {values : List α}
    {results : List β} :
    each read position values = .accepted results ↔
      List.Forall₂ (fun value result => read value = .accepted result) values results := by
  induction values generalizing position results with
  | nil => simp [each,eq_comm]
  | cons value rest ih =>
    rw [each,both_map_accepted_iff,List.forall₂_cons_left_iff]
    constructor
    · rintro ⟨first,own,others,later,rfl⟩
      exact ⟨first,others,within_accepted_iff.mp own,ih.mp later,rfl⟩
    · rintro ⟨first,others,own,later,rfl⟩
      exact ⟨first,within_accepted_iff.mpr own,others,ih.mpr later,rfl⟩

theorem orTreeError_ok_iff {verdict : Verdict α} {value : α} :
    verdict.orTreeError = .ok value ↔ verdict = .accepted value := by
  cases verdict <;> simp [orTreeError]

end Verdict

namespace Accept

variable {α : Type}

theorem list_accepted_iff {read : Json → Verdict α} {raw : Json} {results : List α} :
    list read raw = .accepted results ↔
      ∃ items, raw = .arr items ∧
        List.Forall₂ (fun item result => read item = .accepted result) items results := by
  cases raw <;> simp [list,Verdict.reject,Verdict.each_accepted_iff]

theorem tuple_accepted_iff {read : Json → Verdict α} {raw : Json} {results : List α} :
    tuple read raw = .accepted results ↔
      ∃ items, raw = .arr items ∧
        List.Forall₂ (fun item result => read item = .accepted result) items results := by
  cases raw <;> simp [tuple,Verdict.reject,Verdict.each_accepted_iff]

theorem optional_accepted_iff {read : Json → Verdict α} {raw : Json} {result : Option α} :
    optional read raw = .accepted result ↔
      (raw = .null ∧ none = result) ∨
        (raw ≠ .null ∧ ∃ value, read raw = .accepted value ∧ some value = result) := by
  cases raw <;> simp [optional,Verdict.map_accepted_iff]

-- An absent member takes its initial value, and one that is present has to be right.
theorem member_accepted_iff {key : Text} {read : Json → Verdict α} {absent result : α}
    {members : List (Text × Json)} :
    member key read absent members = .accepted result ↔
      (members.lookup key = none ∧ absent = result) ∨
        ∃ raw, members.lookup key = some raw ∧ read raw = .accepted result := by
  cases found : members.lookup key <;> simp [member,found,Verdict.within_accepted_iff]

theorem requiredMember_accepted_iff {key : Text} {read : Json → Verdict α}
    {members : List (Text × Json)} {result : α} :
    requiredMember key read members = .accepted result ↔
      ∃ raw, members.lookup key = some raw ∧ read raw = .accepted result := by
  cases found : members.lookup key <;> simp [requiredMember,found,Verdict.within_accepted_iff]

theorem onlyKeys_accepted_iff {allowed : List Text} {members : List (Text × Json)} :
    onlyKeys allowed members = .accepted () ↔ ∀ member ∈ members, member.1 ∈ allowed := by
  rw [onlyKeys,Verdict.ofIssues_accepted_iff]
  simp

end Accept

end ExtractionSchema
