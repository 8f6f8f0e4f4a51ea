import ExtractionSchema.Proofs.SchemaTexts
import ExtractionSchema.Service.Processing

namespace ExtractionSchema

theorem Text.isWhole_basic {text : Text} (basic : Text.isBasic text = true) : text.isWhole = true := by
  refine List.all_eq_true.mpr fun code member => ?_
  have small : code.toNat < 0x7F := of_decide_eq_true (List.all_eq_true.mp basic code member)
  rw [Option.isSome_iff_ne_none]
  intro half
  exact absurd (Json.half_bounds half).1 (Nat.not_le.mpr small)

namespace Json

-- The texts in a value. The names in its objects are not among them.
inductive Tells : Json → Text → Prop where
  | text {text} : Tells (.str text) text
  | item {items value text} (member : value ∈ items) (inner : Tells value text) :
      Tells (.arr items) text
  | value {members : List (Text × Json)} {member text} (found : member ∈ members)
      (inner : Tells member.2 text) : Tells (.obj members) text

theorem Tells.under {members : List (Text × Json)} (key : Text) {value : Json} {text : Text}
    (found : (key,value) ∈ members) (inner : value.Tells text) : Tells (.obj members) text :=
  .value found inner

theorem Tells.mentions {value : Json} {text : Text} (told : value.Tells text) : value.Mentions text := by
  induction told with
  | text => exact .text
  | item member _ ih => exact .item member ih
  | value found _ ih => exact .value found ih

-- Whether a value can be told in a record.
def Tellable (value : Json) : Prop := ∀ text, value.Tells text → text.isWhole = true

variable {α β γ : Type} {told other : Text → Prop}

-- What comes of something that tells these texts: it is there when they all are whole, and otherwise
-- there is one that is not.
inductive Recorded (told : Text → Prop) : Except Text α → Prop where
  | kept {value} (whole : ∀ text, told text → text.isWhole = true) : Recorded told (.ok value)
  | broken {text} (own : told text) (half : text.isWhole = false) : Recorded told (.error text)

theorem Recorded.map {result : Except Text α} (recorded : Recorded told result) (f : α → β) :
    Recorded told (result.map f) := by
  cases recorded with
  | kept whole => exact .kept whole
  | broken own half => exact .broken own half

theorem Recorded.congr {result : Except Text α} (recorded : Recorded told result)
    (same : ∀ text, told text ↔ other text) : Recorded other result := by
  have equal : told = other := funext fun text => propext (same text)
  exact equal ▸ recorded

theorem Recorded.both {first : Except Text α} {rest : Except Text β} (head : Recorded told first)
    (tail : Recorded other rest) (f : α → β → γ) :
    Recorded (fun text => told text ∨ other text) (first.bind fun value => rest.map (f value)) := by
  cases head with
  | broken own half => exact .broken (.inl own) half
  | kept whole =>
    cases tail with
    | kept others => exact .kept fun text either => either.elim (whole text) (others text)
    | broken own half => exact .broken (.inr own) half

theorem recordedItems_cons (value : Json) (rest : List Json) :
    recordedItems (value :: rest) =
      value.recorded.bind fun first => (recordedItems rest).map (first :: ·) := by
  rw [recordedItems]
  cases value.recorded <;> rfl

theorem recordedMembers_cons (member : Text × Json) (rest : List (Text × Json)) :
    recordedMembers (member :: rest) = member.2.recorded.bind fun first =>
      (recordedMembers rest).map (((member.1.shown : Text),first) :: ·) := by
  rw [recordedMembers]
  cases member.2.recorded <;> rfl

theorem recordedItems_recorded {items : List Json}
    (each : ∀ value ∈ items, Recorded value.Tells value.recorded) :
    Recorded (fun text => ∃ value ∈ items, value.Tells text) (recordedItems items) := by
  induction items with
  | nil => exact .kept (by simp)
  | cons value rest ih =>
    obtain ⟨head,others⟩ := List.forall_mem_cons.mp each
    rw [recordedItems_cons]
    exact (head.both (ih others) _).congr (by simp)

theorem recordedMembers_recorded {members : List (Text × Json)}
    (each : ∀ member ∈ members, Recorded member.2.Tells member.2.recorded) :
    Recorded (fun text => ∃ member ∈ members, member.2.Tells text) (recordedMembers members) := by
  induction members with
  | nil => exact .kept (by simp)
  | cons member rest ih =>
    obtain ⟨head,others⟩ := List.forall_mem_cons.mp each
    rw [recordedMembers_cons]
    exact (head.both (ih others) _).congr (by simp)

theorem recorded_recorded (value : Json) : Recorded value.Tells value.recorded := by
  induction value using Json.induction with
  | scalar value flat =>
    cases value with
    | str text =>
      rw [recorded]
      cases whole : text.isWhole with
      | true => exact .kept fun other told => by cases told; exact whole
      | false => exact .broken .text whole
    | arr items => cases flat
    | obj members => cases flat
    | _ => exact .kept fun text told => by cases told
  | arr items each =>
    refine ((recordedItems_recorded each).map Json.arr).congr fun text => ?_
    constructor
    · intro inside
      obtain ⟨value,member,inner⟩ := inside
      exact .item member inner
    · intro inside
      cases inside with
      | item member inner => exact ⟨_,member,inner⟩
  | obj members each =>
    refine ((recordedMembers_recorded each).map Json.obj).congr fun text => ?_
    constructor
    · intro inside
      obtain ⟨member,found,inner⟩ := inside
      exact .value found inner
    · intro inside
      cases inside with
      | value found inner => exact ⟨_,found,inner⟩

theorem recorded_ok_iff {value : Json} : (∃ shown, value.recorded = .ok shown) ↔ value.Tellable := by
  have known := recorded_recorded value
  generalize value.recorded = result at known
  cases known with
  | kept whole => exact iff_of_true ⟨_,rfl⟩ whole
  | @broken text own half =>
    refine iff_of_false (by simp) fun tellable => ?_
    cases half.symm.trans (tellable text own)

theorem recorded_error {value : Json} {text : Text} (failed : value.recorded = .error text) :
    value.Tells text ∧ text.isWhole = false := by
  have known := recorded_recorded value
  rw [failed] at known
  cases known with
  | broken own half => exact ⟨own,half⟩

theorem areWhole_iff {items : List Json} :
    areWhole items = true ↔ ∀ value ∈ items, value.isWhole = true := by
  induction items with
  | nil => simp [areWhole]
  | cons value rest ih => simp [areWhole,ih]

theorem haveWhole_iff {members : List (Text × Json)} :
    haveWhole members = true ↔ ∀ member ∈ members, member.1.isWhole = true ∧ member.2.isWhole = true := by
  induction members with
  | nil => simp [haveWhole]
  | cons member rest ih => simp [haveWhole,ih]

theorem isWhole_iff {value : Json} : value.isWhole = true ↔ value.All (·.isWhole = true) := by
  induction value using Json.induction with
  | scalar value flat =>
    cases value with
    | str text => exact Iff.symm all_str
    | arr items => cases flat
    | obj members => cases flat
    | _ => exact iff_of_true rfl fun text told => by cases told
  | arr items each =>
    rw [isWhole,areWhole_iff,all_arr]
    exact forall₂_congr each
  | obj members each =>
    rw [isWhole,haveWhole_iff,all_obj]
    exact forall₂_congr fun member found => and_congr_right' (each member found)

theorem recordedItems_whole {items : List Json} (each : ∀ value ∈ items, value.recorded = .ok value) :
    recordedItems items = .ok items := by
  induction items with
  | nil => rfl
  | cons value rest ih =>
    obtain ⟨first,others⟩ := List.forall_mem_cons.mp each
    rw [recordedItems_cons,first,ih others]
    rfl

theorem recordedMembers_whole {members : List (Text × Json)}
    (each : ∀ member ∈ members, member.1.isWhole = true ∧ member.2.recorded = .ok member.2) :
    recordedMembers members = .ok members := by
  induction members with
  | nil => rfl
  | cons member rest ih =>
    obtain ⟨⟨name,first⟩,others⟩ := List.forall_mem_cons.mp each
    rw [recordedMembers_cons,first,ih others,Text.shown_whole name]
    rfl

-- Where all names are whole too, the record is the value itself.
theorem recorded_whole {value : Json} (whole : value.All (·.isWhole = true)) :
    value.recorded = .ok value := by
  induction value using Json.induction with
  | scalar value flat =>
    cases value with
    | str text => rw [recorded,if_pos (all_str.mp whole)]
    | arr items => cases flat
    | obj members => cases flat
    | _ => rfl
  | arr items each =>
    have inside := all_arr.mp whole
    rw [recorded,recordedItems_whole fun value member => each value member (inside value member)]
    rfl
  | obj members each =>
    have inside := all_obj.mp whole
    rw [recorded,recordedMembers_whole fun member found =>
      ⟨(inside member found).1,each member found (inside member found).2⟩]
    rfl

end Json

namespace Answer

theorem sent_status {answer given : Answer} (sent : answer.sent = .ok given) :
    given.status = answer.status := by
  unfold Answer.sent at sent
  split at sent
  · cases sent
    rfl
  split at sent
  · split at sent
    · cases sent
      rfl
    · cases sent
  split at sent
  · cases sent
    rfl
  · cases sent

theorem ok_sent (body : Json) :
    (Answer.ok body).sent = (body.recorded.map (⟨200,some ·⟩)).mapError .brokenRecord := by
  have own : Answer.ok body = ⟨200,some body⟩ := rfl
  simp only [own,Answer.sent,if_true]
  cases body.recorded <;> rfl

theorem ok_sent_iff {body : Json} : (∃ given, (Answer.ok body).sent = .ok given) ↔ body.Tellable := by
  rw [ok_sent,← Json.recorded_ok_iff]
  cases body.recorded <;> simp [Except.map,Except.mapError]

theorem detail_sent_iff {status : Int} (other : status ≠ 200) {text : Text} {given : Answer} :
    (detail status text).sent = .ok given ↔
      given = detail status text ∧ (admitsBody status = true → text.isWhole = true) := by
  by_cases admits : admitsBody status = true
  · have own : detail status text = ⟨status,some (.obj [("detail",.str text)])⟩ := by
      rw [detail,ofJson,if_pos admits]
    have whole : (Json.obj [("detail",.str text)]).isWhole = text.isWhole := by
      simp [Json.isWhole,Json.haveWhole,Text.isWhole,Code.char?]
    simp only [own,Answer.sent,if_neg other,whole,admits,forall_const]
    cases text.isWhole with
    | true =>
      simp only [if_true,and_true,Except.ok.injEq]
      exact eq_comm
    | false => simp
  · have own : detail status text = ⟨status,none⟩ := by rw [detail,ofJson,if_neg admits]
    simp only [own,Answer.sent,admits,Bool.false_eq_true,false_imp_iff,and_true,Except.ok.injEq]
    exact eq_comm

end Answer

end ExtractionSchema
