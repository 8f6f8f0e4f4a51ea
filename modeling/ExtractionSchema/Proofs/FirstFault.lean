import ExtractionSchema.Field.Reader
import ExtractionSchema.Proofs.Visits
import Mathlib.Data.List.Forall2

namespace ExtractionSchema

structure Finding where
  address : Address
  fault : Fault

def Finding.within (step : Step) (finding : Finding) : Finding :=
  { finding with address := step :: finding.address }

def Finding.error (finding : Finding) : TreeError :=
  ⟨.unreadable finding.fault,some finding.address.path⟩

def Visit.finding? (visit : Visit) : Option Finding :=
  visit.fault?.map fun fault => ⟨visit.address,fault⟩

-- An issue that stands behind a segment and is what was found.
def Issue.Tells (previous : Option Segment) (issue : Issue) (finding : Finding) : Prop :=
  issue.fault = finding.fault ∧ Location.Spells previous issue.location finding.address

namespace Verdict

variable {α β : Type}

-- The issues of a verdict are the findings of the places, one by one.
def Told (previous : Option Segment) (verdict : Verdict α) (visits : List Visit) : Prop :=
  List.Forall₂ (Issue.Tells previous) verdict.issues (visits.filterMap Visit.finding?)

-- Nothing but the value as a whole can be wrong.
def Plain (verdict : Verdict α) : Prop :=
  ∀ first rest, verdict = .rejected first rest → first.location = [] ∧ rest = []

theorem plain_accepted (value : α) : (accepted value).Plain := fun _ _ impossible => by
  cases impossible

theorem plain_reject (fault : Fault) : (reject fault : Verdict α).Plain := by
  intro first rest same
  cases same
  exact ⟨rfl,rfl⟩

theorem Plain.map {verdict : Verdict α} (plain : verdict.Plain) (f : α → β) :
    (verdict.map f).Plain := by
  cases verdict with
  | accepted value => exact plain_accepted _
  | rejected first rest =>
    intro other others same
    cases same
    exact plain _ _ rfl

theorem issues_map (verdict : Verdict α) (f : α → β) : (verdict.map f).issues = verdict.issues := by
  cases verdict <;> rfl

theorem issues_within (verdict : Verdict α) (segment : Segment) :
    (verdict.within segment).issues = verdict.issues.map (Issue.within segment) := by
  cases verdict <;> rfl

theorem issues_ofIssues (issues : List Issue) : (ofIssues issues).issues = issues := by
  cases issues <;> rfl

theorem findings_within (step : Step) (visits : List Visit) :
    (visits.map (Visit.within step)).filterMap Visit.finding? =
      (visits.filterMap Visit.finding?).map (Finding.within step) := by
  rw [List.filterMap_map,List.map_filterMap]
  apply List.filterMap_congr
  intro visit _
  simp [Visit.finding?,Visit.fault?,Visit.within,Finding.within,Function.comp_def]

section

variable {previous : Option Segment}

theorem told_accepted (value : α) : Told previous (accepted value) [] := .nil

theorem Plain.told {verdict : Verdict α} (plain : verdict.Plain) {expected : Expected}
    {value : Json} (same : expected.fault? value = verdict.fault?) :
    Told previous verdict (Visit.here expected value) := by
  unfold Told
  cases verdict with
  | accepted result =>
    simp [Visit.here,Visit.finding?,Visit.fault?,same,fault?,issues]
  | rejected first rest =>
    obtain ⟨whole,rfl⟩ := plain first rest rfl
    have tells : Issue.Tells previous first ⟨[],first.fault⟩ := ⟨rfl,whole ▸ .here⟩
    simpa [Visit.here,Visit.finding?,Visit.fault?,same,fault?,issues] using tells

theorem Told.map {verdict : Verdict α} {visits : List Visit} (told : Told previous verdict visits)
    (f : α → β) : Told previous (verdict.map f) visits := by
  unfold Told
  rw [issues_map]
  exact told

theorem Told.both {first : Verdict α} {second : Verdict β} {visits others : List Visit}
    (one : Told previous first visits) (other : Told previous second others) :
    Told previous (first.both second) (visits ++ others) := by
  unfold Told
  rw [issues_both,List.filterMap_append]
  exact List.rel_append one other

theorem Told.also {verdict : Verdict α} {check : Verdict Unit} {visits others : List Visit}
    (one : Told previous verdict visits) (other : Told previous check others) :
    Told previous (verdict.also check) (visits ++ others) :=
  (one.both other).map _

theorem Told.within {verdict : Verdict α} {visits : List Visit} {segment : Segment} {step : Step}
    (inside : Told (some segment) verdict visits)
    (spelled : ∀ location address, Location.Spells (some segment) location address →
      Location.Spells previous (segment :: location) (step :: address)) :
    Told previous (verdict.within segment) (visits.map (Visit.within step)) := by
  unfold Told
  rw [issues_within,findings_within,List.forall₂_map_left_iff,List.forall₂_map_right_iff]
  apply inside.imp
  intro issue finding tells
  exact ⟨tells.1,spelled _ _ tells.2⟩

theorem Told.atIndex {verdict : Verdict α} {visits : List Visit} {position : Nat}
    (inside : Told (some (.index position)) verdict visits) :
    Told previous (verdict.within (.index position))
      (visits.map (Visit.within (.index position))) :=
  inside.within fun _ _ spells => .index spells

theorem Told.atKey {verdict : Verdict α} {visits : List Visit} {key : Text}
    (inside : Told (some (.key key)) verdict visits)
    (plain : Location.isTag previous (.key key) = false) :
    Told previous (verdict.within (.key key)) (visits.map (Visit.within (.key key))) :=
  inside.within fun _ _ spells => .key plain spells

theorem Told.tagged {verdict : Verdict α} {visits : List Visit} {type : FieldType}
    (inside : Told (some (.tag type)) verdict visits) (opens : Location.Opens previous) :
    Told previous (verdict.within (.tag type)) visits := by
  unfold Told
  rw [issues_within,List.forall₂_map_left_iff]
  apply inside.imp
  intro issue finding tells
  exact ⟨tells.1,.tag opens tells.2⟩

theorem told_each {read : Json → Verdict α} {visits : Json → List Visit}
    (each : ∀ position : Int, ∀ value, Told (some (.index position)) (read value) (visits value))
    (items : List Json) (start : Nat) :
    Told previous (Verdict.each read start items)
      ((items.zipIdx start).flatMap fun (value,position) =>
        (visits value).map (Visit.within (.index position))) := by
  induction items generalizing start with
  | nil => exact told_accepted _
  | cons value rest ih => exact ((each start value).atIndex.both (ih (start + 1))).map _

end

end Verdict

namespace Accept

open Verdict

theorem text_plain (value : Json) : (text value).Plain := by
  cases value with
  | str name => exact plain_accepted _
  | _ => exact plain_reject _

theorem flagOfInt_plain (n : Int) : (flagOfInt n).Plain := by
  unfold flagOfInt
  split
  · exact plain_accepted _
  · split
    · exact plain_accepted _
    · exact plain_reject _

theorem flag_plain (value : Json) : (flag value).Plain := by
  unfold flag
  split
  · exact plain_accepted _
  · split
    · exact flagOfInt_plain _
    · exact plain_reject _
  · split
    · split
      · exact flagOfInt_plain _
      · exact plain_reject _
    · exact plain_reject _
  · split
    · exact plain_reject _
    · split
      · exact plain_accepted _
      · exact plain_reject _
  · exact plain_reject _

theorem oneOf_plain {α : Type} (ofName? : Text → Option α) (refusal : Fault) (value : Json) :
    (oneOf ofName? refusal value).Plain := by
  unfold oneOf
  split
  · split
    · exact plain_accepted _
    · exact plain_reject _
  · exact plain_reject _

theorem optional_plain {α : Type} {read : Json → Verdict α} (plain : ∀ value, (read value).Plain)
    (value : Json) : (optional read value).Plain := by
  unfold optional
  split
  · exact plain_accepted _
  · exact (plain value).map _

section

variable {α : Type} {previous : Option Segment} {read : Json → Verdict α}
  {visits : Json → List Visit}

theorem told_member {key : Text} {absent : α} {members : List (Text × Json)}
    (inside : ∀ value, Told (some (.key key)) (read value) (visits value))
    (plain : Location.isTag previous (.key key) = false) :
    Told previous (member key read absent members) (Visit.atKey key visits members) := by
  unfold member Visit.atKey
  cases members.lookup key with
  | none => exact told_accepted _
  | some value => exact (inside value).atKey plain

theorem told_tuple
    (each : ∀ position : Int, ∀ value, Told (some (.index position)) (read value) (visits value))
    (value : Json) : Told previous (tuple read value) (Visit.tuple visits value) := by
  cases value with
  | arr items => exact told_each each items 0
  | _ => exact (plain_reject .notTuple).told rfl

theorem told_list
    (each : ∀ position : Int, ∀ value, Told (some (.index position)) (read value) (visits value))
    (value : Json) :
    Told previous (list read value) (Visit.here .tree value ++ Visit.elements visits value) := by
  cases value with
  | arr items => exact told_each each items 0
  | _ => exact (plain_reject .notList).told rfl

theorem told_optional (value : Json) (inside : Told previous (read value) (visits value)) :
    Told previous (optional read value) (Visit.unlessNull visits value) := by
  cases value with
  | null => exact told_accepted _
  | _ => exact inside.map _

end

end Accept

namespace Field

open Verdict

theorem readTag_plain (members : List (Text × Json)) : (readTag members).Plain := by
  unfold readTag
  split
  · exact plain_reject _
  · split
    · split
      · exact plain_accepted _
      · exact plain_reject _
    · exact plain_reject _

section

variable (type : FieldType) (members : List (Text × Json))

theorem told_attribute {α : Type} {key : Text} {read : Json → Verdict α} {absent : α}
    {visits : Json → List Visit}
    (inside : ∀ value, Told (some (.key key)) (read value) (visits value)) :
    Told (some (.tag type)) (Accept.member key read absent members)
      (Visit.atKey key visits members) :=
  Accept.told_member inside (Location.isTag_attribute type (.key key))

theorem told_readOver (base : Attributes) :
    Told (some (.tag type)) (base.readOver members) (Visit.attributes members) := by
  apply Told.map
  refine (told_attribute type members ?_).both ((told_attribute type members ?_).both
    ((told_attribute type members ?_).both (told_attribute type members ?_)))
  · exact fun value => (Accept.text_plain value).told rfl
  · exact fun value => (Accept.flag_plain value).told rfl
  · exact fun value => (Accept.optional_plain Accept.text_plain value).told rfl
  · exact Accept.told_tuple fun _ value => (Accept.text_plain value).told rfl

theorem told_readOwn {inner : Json → Verdict Field} {visits : Json → List Visit}
    (each : ∀ previous, Location.Opens previous → ∀ value,
      Told previous (inner value) (visits value)) :
    Told (some (.tag type)) (readOwn inner members type) (Visit.own visits members type) := by
  cases type with
  | string =>
    apply Told.map
    apply told_attribute
    exact fun value => (Accept.optional_plain (Accept.oneOf_plain _ _) value).told rfl
  | number => exact told_accepted _
  | boolean => exact told_accepted _
  | array =>
    apply Told.map
    apply told_attribute
    exact fun value => Accept.told_optional value (each _ Location.opens_items value)
  | object =>
    apply Told.map
    apply told_attribute
    exact Accept.told_tuple fun position => each _ (Location.opens_index position)

theorem findings_strays : (Visit.strays type members).filterMap Visit.finding? =
    (Visit.strayKeys type members).map fun key => ⟨[.key key],.unknownKey⟩ := by
  unfold Visit.strays
  rw [List.filterMap_flatMap,List.map_eq_flatMap]
  apply List.flatMap_congr
  intro key stray
  obtain ⟨member,among,rfl⟩ := List.mem_map.mp (List.mem_filter.mp stray).1
  have present : (members.lookup member.1).isSome :=
    List.lookup_isSome_iff.mpr ⟨member,among,beq_self_eq_true _⟩
  obtain ⟨value,found⟩ := Option.isSome_iff_exists.mp present
  simp [Visit.atKey,found,Visit.here,Visit.within,Visit.finding?,Visit.fault?,Expected.fault?]

theorem told_onlyKeys :
    Told (some (.tag type)) (Accept.onlyKeys type.keys members) (Visit.strays type members) := by
  have stray : (Accept.onlyKeys type.keys members).issues =
      (Visit.strayKeys type members).map fun key => ⟨[.key key],.unknownKey⟩ := by
    rw [Accept.onlyKeys,issues_ofIssues,Visit.strayKeys,List.filter_map,List.map_map]
    rfl
  unfold Told
  rw [stray,findings_strays,List.forall₂_map_left_iff,List.forall₂_map_right_iff,
    List.forall₂_same]
  intro key _
  exact ⟨rfl,.key (Location.isTag_attribute type (.key key)) .here⟩

theorem told_readVariant {inner : Json → Verdict Field} {visits : Json → List Visit}
    (each : ∀ previous, Location.Opens previous → ∀ value,
      Told previous (inner value) (visits value)) :
    Told (some (.tag type)) (readVariant inner members type) (Visit.variant visits members type) := by
  unfold readVariant Visit.variant
  split
  · apply Told.also
    · apply Told.map
      apply Told.both
      · exact told_readOver type members .initial
      · exact told_readOwn type members each
    · exact told_onlyKeys type members
  · exact (plain_reject .brokenText).told rfl

end

theorem told_untagged {room : Nat} {members : List (Text × Json)} {previous : Option Segment}
    {first : Issue} {rest : List Issue} (tag : readTag members = .rejected first rest) :
    Told previous (.rejected first rest : Verdict Field) (Visit.here (.field room) (.obj members)) := by
  have whole : (.rejected first rest : Verdict Field).Plain := by
    intro other others same
    cases same
    exact readTag_plain members first rest tag
  exact whole.told (by simp [Expected.fault?,tag,Verdict.fault?])

theorem told_typed {room : Nat} {members : List (Text × Json)} {type : FieldType}
    {previous : Option Segment} (opens : Location.Opens previous)
    (tag : readTag members = .accepted type) (fits : (type.isContainer && room == 0) = false)
    {verdict : Verdict Field} {visits : List Visit} (inside : Told (some (.tag type)) verdict visits) :
    Told previous (verdict.within (.tag type)) (Visit.here (.field room) (.obj members) ++ visits) := by
  have named : (Expected.field room).fault? (.obj members) = none := by
    simp only [Expected.fault?,tag,fits,Bool.false_eq_true,if_false]
  simpa [Told,Visit.here,Visit.finding?,Visit.fault?,named] using inside.tagged opens

theorem told_readInnermost {members : List (Text × Json)} {type : FieldType}
    {previous : Option Segment} (opens : Location.Opens previous)
    (tag : readTag members = .accepted type) :
    Told previous ((readInnermost members type).within (.tag type))
      (Visit.here (.field 0) (.obj members) ++ Visit.innermost members type) := by
  cases container : type.isContainer with
  | true =>
    have deep : (Expected.field 0).fault? (.obj members) = some .nestedTooDeep := by
      simp [Expected.fault?,tag,container]
    have told : Told (some (.tag type)) (.reject .nestedTooDeep : Verdict Field)
        (Visit.here (.field 0) (.obj members)) := (plain_reject .nestedTooDeep).told deep
    simpa [readInnermost,Visit.innermost,container] using told.tagged opens
  | false =>
    have fits : (type.isContainer && (0 : Nat) == 0) = false := by simp [container]
    have inside : Told (some (.tag type)) (readVariant (fun _ => .accepted .blank) members type)
        (Visit.variant (fun _ => []) members type) :=
      told_readVariant type members fun _ _ _ => told_accepted _
    have told := told_typed opens tag fits inside
    have same := @readVariant_flat (fun _ => .accepted .blank) (fun _ => .reject .nestedTooDeep)
      members type container
    simpa [readInnermost,Visit.innermost,container,same] using told

theorem told_readWithin (room : Nat) {previous : Option Segment} (opens : Location.Opens previous)
    (value : Json) : Told previous (readWithin room value) (Visit.field room value) := by
  induction room generalizing previous value with
  | zero =>
    cases value with
    | obj members =>
      unfold readWithin Visit.field readTagged Visit.tagged
      cases tag : readTag members with
      | accepted type => exact told_readInnermost opens tag
      | rejected first rest => simpa using told_untagged tag
    | _ => exact (plain_reject .notAttributes).told rfl
  | succ room ih =>
    cases value with
    | obj members =>
      unfold readWithin Visit.field readTagged Visit.tagged
      cases tag : readTag members with
      | accepted type =>
        have inside := told_readVariant type members fun previous opens => ih opens
        exact told_typed opens tag (by simp) inside
      | rejected first rest => simpa using told_untagged tag
    | _ => exact (plain_reject .notAttributes).told rfl

end Field

namespace Visit

-- An error that is about the first place where anything is wrong, and shows the way to its value.
def Located (visits : List Visit) (raw : Json) (error : TreeError) : Prop :=
  ∃ before visit after fault, visits = before ++ visit :: after ∧
    (∀ earlier ∈ before, earlier.fault? = none) ∧ visit.fault? = some fault ∧
      visit.address.follow? raw = some visit.value ∧
        error = ⟨.unreadable fault,some visit.address.path⟩

theorem finding_none_iff {visit : Visit} : visit.finding? = none ↔ visit.fault? = none :=
  Option.map_eq_none_iff

theorem located_iff {visits : List Visit} {raw : Json} (rooted : Rooted raw visits)
    {error : TreeError} :
    Located visits raw error ↔
      ∃ finding rest, visits.filterMap finding? = finding :: rest ∧ finding.error = error := by
  constructor
  · rintro ⟨before,visit,after,fault,rfl,clean,found,_,rfl⟩
    have first : visit.finding? = some ⟨visit.address,fault⟩ := by
      rw [finding?,found]
      rfl
    refine ⟨⟨visit.address,fault⟩,after.filterMap finding?,?_,rfl⟩
    exact List.filterMap_eq_cons_iff.mpr
      ⟨before,visit,after,rfl,fun earlier member => finding_none_iff.mpr (clean earlier member),
        first,rfl⟩
  · rintro ⟨finding,rest,findings,rfl⟩
    obtain ⟨before,visit,after,rfl,clean,first,_⟩ := List.filterMap_eq_cons_iff.mp findings
    obtain ⟨fault,found,rfl⟩ := Option.map_eq_some_iff.mp first
    exact ⟨before,visit,after,fault,rfl,
      fun earlier member => finding_none_iff.mp (clean earlier member),found,
      rooted visit (by simp),rfl⟩

end Visit

namespace Verdict

theorem orTreeError_error_iff {α : Type} {verdict : Verdict α} {error : TreeError} :
    verdict.orTreeError = .error error ↔
      ∃ first rest, verdict.issues = first :: rest ∧ TreeError.ofIssue first = error := by
  cases verdict <;> simp [orTreeError,issues]

theorem Told.located_iff {α : Type} {verdict : Verdict α} {visits : List Visit} {raw : Json}
    (told : Told none verdict visits) (rooted : Visit.Rooted raw visits) (error : TreeError) :
    verdict.orTreeError = .error error ↔ Visit.Located visits raw error := by
  rw [orTreeError_error_iff,Visit.located_iff rooted]
  have same (issue : Issue) (finding : Finding) (tells : issue.Tells none finding) :
      TreeError.ofIssue issue = finding.error := by
    rw [TreeError.ofIssue,tells.1,tells.2.path_eq]
    rfl
  unfold Told at told
  constructor
  · rintro ⟨first,rest,issues,rfl⟩
    rw [issues] at told
    obtain ⟨finding,others,tells,_,findings⟩ := List.forall₂_cons_left_iff.mp told
    exact ⟨finding,others,findings,(same first finding tells).symm⟩
  · rintro ⟨finding,others,findings,rfl⟩
    rw [findings] at told
    obtain ⟨first,rest,tells,_,issues⟩ := List.forall₂_cons_right_iff.mp told
    exact ⟨first,rest,issues,same first finding tells⟩

end Verdict

-- An attribute that is not known keeps its name, though it is the name of a type.
example : FieldTree.parse (.arr [.obj [("type",.str "string"),("string",.null)]]) =
    .error ⟨.unreadable .unknownKey,some "[0].string"⟩ := by
  rfl

end ExtractionSchema
