import ExtractionSchema.Proofs.FirstFault
import ExtractionSchema.Proofs.Grammar
import ExtractionSchema.Proofs.Validation

namespace ExtractionSchema

-- The error of a value as the error of another one, that has it at a place.
def TreeError.inside (place : Text) (error : TreeError) : TreeError :=
  ⟨error.fault,error.path.map fun path : Text => if path = "" then place else place ++ "." ++ path⟩

theorem Step.extend_some {path : Text} (some : path ≠ "") (step : Step) : step.extend path ≠ "" := by
  cases step <;> simp [extend,some]

theorem Step.extend_behind (place : Text) {path : Text} (some : path ≠ "") (step : Step) :
    step.extend (place ++ path) = place ++ step.extend path := by
  cases step <;> simp [extend,some,Text.append_assoc]

namespace Address

theorem pathFrom_some {path : Text} (some : path ≠ "") (address : Address) :
    address.pathFrom path ≠ "" := by
  induction address generalizing path with
  | nil => exact some
  | cons step rest ih => exact ih (step.extend_some some)

theorem pathFrom_behind (place : Text) {path : Text} (some : path ≠ "") (address : Address) :
    address.pathFrom (place ++ path) = place ++ address.pathFrom path := by
  induction address generalizing path with
  | nil => rfl
  | cons step rest ih =>
    have later := ih (step.extend_some some)
    rw [← step.extend_behind place some] at later
    exact later

-- An address that leads into a field, by a key with a name.
def Enters (address : Address) : Prop :=
  address = [] ∨ ∃ name rest, address = .key name :: rest ∧ name ≠ ""

theorem Enters.pathFrom_eq {address : Address} (enters : address.Enters) {place : Text}
    (some : place ≠ "") :
    address.pathFrom place = if address.path = "" then place else place ++ "." ++ address.path := by
  rcases enters with rfl | ⟨name,rest,rfl,named⟩
  · rfl
  · have own : path (.key name :: rest) = pathFrom name rest := rfl
    have behind : pathFrom place (.key name :: rest) = pathFrom (place ++ "." ++ name) rest := by
      simp [pathFrom,Step.extend,some]
    rw [own,if_neg (pathFrom_some named rest),behind,pathFrom_behind _ named]

end Address

theorem Visit.field_enters {room : Nat} {raw : Json} {visit : Visit}
    (member : visit ∈ Visit.field room raw) (named : ("" : Text) ∉ Entries.keys raw.members) :
    visit.address.Enters := by
  cases raw with
  | obj members =>
    have leads := rooted_field room (.obj members) visit member
    generalize visit.address = address at leads
    cases address with
    | nil => exact .inl rfl
    | cons step rest =>
      obtain ⟨value,found,_⟩ := Option.bind_eq_some_iff.mp leads
      cases step with
      | index position => cases found
      | key name =>
        have known : name ∈ Entries.keys members := by
          apply Classical.byContradiction
          intro absent
          have none := Entries.lookup_none_iff.mpr absent
          rw [Step.follow?,none] at found
          cases found
        exact .inr ⟨name,rest,rfl,fun empty => named (empty ▸ known)⟩
  | _ =>
    cases room <;>
    · cases List.mem_singleton.mp member
      exact .inl rfl

theorem Verdict.each_issues_behind {α β : Type} {read : α → Verdict β} {before : List α} {value : α}
    (clean : ∀ item ∈ before, ∃ result, read item = .accepted result) {first : Issue}
    {rest : List Issue} (wrong : (read value).issues = first :: rest) (after : List α) (start : Nat) :
    ∃ others, (each read start (before ++ value :: after)).issues =
      first.within (.index (start + before.length : Nat)) :: others := by
  induction before generalizing start with
  | nil =>
    rw [List.nil_append,each,issues_map,issues_both,issues_within,wrong]
    exact ⟨_,rfl⟩
  | cons item before ih =>
    obtain ⟨⟨result,right⟩,clean⟩ := List.forall_mem_cons.mp clean
    obtain ⟨others,behind⟩ := ih clean (start + 1)
    have place : start + (item :: before).length = start + 1 + before.length := by
      simp [Nat.add_comm,Nat.add_left_comm]
    rw [List.cons_append,each,issues_map,issues_both,right,behind,place]
    exact ⟨others,rfl⟩

namespace Field

theorem told_first {room : Nat} {raw : Json} {first : Issue} {rest : List Issue}
    (wrong : (readWithin room raw).issues = first :: rest) :
    ∃ visit ∈ Visit.field room raw, ∀ previous, Location.Opens previous →
      Location.Spells previous first.location visit.address := by
  have start := told_readWithin room Location.opens_start raw
  unfold Verdict.Told at start
  rw [wrong] at start
  obtain ⟨finding,others,_,_,findings⟩ := List.forall₂_cons_left_iff.mp start
  have among : finding ∈ (Visit.field room raw).filterMap Visit.finding? :=
    findings ▸ List.mem_cons_self
  obtain ⟨visit,member,found⟩ := List.mem_filterMap.mp among
  obtain ⟨fault,_,rfl⟩ := Option.map_eq_some_iff.mp found
  refine ⟨visit,member,fun previous opens => ?_⟩
  have told := told_readWithin room opens raw
  unfold Verdict.Told at told
  rw [wrong,findings] at told
  exact (List.forall₂_cons.mp told).1.2

theorem ofIssue_inside {room : Nat} {raw : Json} {first : Issue} {rest : List Issue}
    (wrong : (readWithin room raw).issues = first :: rest) (named : ("" : Text) ∉ Entries.keys raw.members)
    {previous : Option Segment} (opens : Location.Opens previous) (front : Location) (way : Address)
    (spelled : ∀ location address, Location.Spells previous location address →
      Location.Spells none (front ++ location) (way ++ address)) {place : Text}
    (leads : way.path = place) (some : place ≠ "") :
    TreeError.ofIssue ⟨front ++ first.location,first.fault⟩ =
      (TreeError.ofIssue first).inside place := by
  obtain ⟨visit,member,spells⟩ := told_first wrong
  have own : first.location.path = visit.address.path :=
    (spells none Location.opens_start).path_eq
  have whole : Location.path (front ++ first.location) = Address.path (way ++ visit.address) :=
    (spelled _ _ (spells previous opens)).path_eq
  have behind : Address.path (way ++ visit.address) = visit.address.pathFrom place :=
    leads ▸ List.foldl_append
  rw [TreeError.ofIssue,whole,behind,(Visit.field_enters member named).pathFrom_eq some,← own]
  rfl

theorem issues_own {room : Nat} {members : List (Text × Json)} {attributes : Attributes}
    (type : FieldType) (tag : members.lookup ("type" : Text) = some (.str type.name))
    (whole : ∀ key ∈ Entries.keys members, key.isWhole = true) (spoken : attributes.Spoken members)
    {first : Issue} {rest : List Issue}
    (wrong : (readOwn (readWithin room) members type).issues = first :: rest) :
    ∃ others, (readWithin (room + 1) (.obj members)).issues = first.within (.tag type) :: others := by
  have known := readTag_accepted_iff.mpr tag
  have common := Attributes.readOver_spoken_iff.mpr spoken
  have names : members.all (·.1.isWhole) = true :=
    List.all_eq_true.mpr fun member found => whole _ (List.mem_map_of_mem found)
  have variant : ∃ others, (readVariant (readWithin room) members type).issues = first :: others := by
    rw [readVariant,if_pos names,Verdict.also,Verdict.issues_map,Verdict.issues_both,Verdict.issues_map,
      Verdict.issues_both,common,wrong]
    exact ⟨_,rfl⟩
  obtain ⟨others,variant⟩ := variant
  simp only [readWithin,readTagged,known]
  rw [Verdict.issues_within,variant]
  exact ⟨_,rfl⟩

-- A field inside another one is read there as it is by itself.
theorem readWithin_part {room : Nat} {raw part : Json} (nests : nestsWithin (room + 1) raw = true)
    (member : part ∈ parts raw) : readWithin room part = readWithin (room + 1) part :=
  (readWithin_enough (List.all_eq_true.mp nests part member) (Nat.le_succ room)).symm

section

variable {members : List (Text × Json)} {attributes : Attributes} (room : Nat) {raw : Json}
  {first : Issue} {rest : List Issue} (nests : nestsWithin (room + 1) (.obj members) = true)
  (whole : ∀ key ∈ Entries.keys members, key.isWhole = true) (spoken : attributes.Spoken members)
  (wrong : (readWithin (room + 1) raw).issues = first :: rest)
include nests whole spoken wrong

theorem issues_items (tag : members.lookup ("type" : Text) = some (.str "array"))
    (present : members.lookup ("items" : Text) = some raw) (filled : raw ≠ .null) :
    ∃ others, (readWithin (room + 1) (.obj members)).issues =
      (first.within (.key "items")).within (.tag .array) :: others := by
  have type : marked? members = some .array := marked?_some tag
  have part : parts (.obj members) = [raw] := by simp only [parts,type,present]
  have same : readWithin room raw = readWithin (room + 1) raw := readWithin_part nests (by simp [part])
  have optional : Accept.optional (readWithin room) raw = (readWithin room raw).map some := by
    cases raw with
    | null => exact absurd rfl filled
    | _ => rfl
  have own : (readOwn (readWithin room) members .array).issues =
      first.within (.key "items") :: rest.map (Issue.within (.key "items")) := by
    rw [readOwn,Accept.member,present,Verdict.issues_map]
    simp only [optional,Verdict.issues_within,Verdict.issues_map,same,wrong,List.map_cons]
  exact issues_own .array tag whole spoken own

theorem issues_properties {before after : List Json}
    (tag : members.lookup ("type" : Text) = some (.str "object"))
    (present : members.lookup ("properties" : Text) = some (.arr (before ++ raw :: after)))
    (clean : ∀ item ∈ before, ∃ field, readWithin (room + 1) item = .accepted field) :
    ∃ others, (readWithin (room + 1) (.obj members)).issues =
      ((first.within (.index before.length)).within (.key "properties")).within (.tag .object)
        :: others := by
  have type : marked? members = some .object := marked?_some tag
  have part : parts (.obj members) = before ++ raw :: after := by simp only [parts,type,present]
  have same : ∀ item ∈ before ++ raw :: after, readWithin room item = readWithin (room + 1) item :=
    fun item member => readWithin_part nests (part ▸ member)
  have right : ∀ item ∈ before, ∃ field, readWithin room item = .accepted field := by
    intro item member
    obtain ⟨field,read⟩ := clean item member
    exact ⟨field,(same item (List.mem_append_left _ member)).trans read⟩
  have fault : (readWithin room raw).issues = first :: rest := by
    rw [same raw (by simp)]
    exact wrong
  obtain ⟨more,behind⟩ := Verdict.each_issues_behind right fault after 0
  have own : ∃ more, (readOwn (readWithin room) members .object).issues =
      (first.within (.index before.length)).within (.key "properties") :: more := by
    rw [readOwn,Accept.member,present,Verdict.issues_map]
    dsimp only
    rw [Verdict.issues_within,Accept.tuple,behind,Nat.zero_add]
    exact ⟨_,rfl⟩
  obtain ⟨more,own⟩ := own
  exact issues_own .object tag whole spoken own

end

theorem parsed_clean {before : List Json} (clean : ∀ item ∈ before, ∃ field, parse item = .ok field) :
    ∀ item ∈ before, ∃ field, read item = .accepted field := by
  intro item member
  obtain ⟨field,parsed⟩ := clean item member
  exact ⟨field,Verdict.orTreeError_ok_iff.mp parsed⟩

section

variable {members : List (Text × Json)} {attributes : Attributes} {raw : Json} {inner : TreeError}
  (nests : nestsWithin nestingLimit (.obj members) = true)
  (whole : ∀ key ∈ Entries.keys members, key.isWhole = true) (spoken : attributes.Spoken members)
  (failed : parse raw = .error inner) (named : ("" : Text) ∉ Entries.keys raw.members)
include nests whole spoken failed named

theorem parse_items (tag : members.lookup ("type" : Text) = some (.str "array"))
    (present : members.lookup ("items" : Text) = some raw) (filled : raw ≠ .null) :
    parse (.obj members) = .error (inner.inside "items") := by
  obtain ⟨first,rest,wrong,rfl⟩ := Verdict.orTreeError_error_iff.mp failed
  obtain ⟨others,told⟩ := issues_items (nestingLimit - 1) nests whole spoken wrong tag present filled
  refine Verdict.orTreeError_error_iff.mpr ⟨_,others,told,?_⟩
  refine ofIssue_inside wrong named Location.opens_items [.tag .array,.key "items"] [.key "items"]
    ?_ rfl (by simp)
  intro location address spells
  exact .tag Location.opens_start (.key (Location.isTag_attribute .array _) spells)

theorem parse_properties {before after : List Json}
    (tag : members.lookup ("type" : Text) = some (.str "object"))
    (present : members.lookup ("properties" : Text) = some (.arr (before ++ raw :: after)))
    (clean : ∀ item ∈ before, ∃ field, parse item = .ok field) :
    parse (.obj members) =
      .error (inner.inside ("properties[" ++ toString before.length ++ "]")) := by
  obtain ⟨first,rest,wrong,rfl⟩ := Verdict.orTreeError_error_iff.mp failed
  obtain ⟨others,told⟩ :=
    issues_properties (nestingLimit - 1) nests whole spoken wrong tag present (parsed_clean clean)
  have leads : Address.path [.key "properties",.index before.length] =
      "properties[" ++ toString before.length ++ "]" := by
    simp [Address.path,Address.pathFrom,Step.extend]
  refine Verdict.orTreeError_error_iff.mpr ⟨_,others,told,?_⟩
  refine ofIssue_inside wrong named (Location.opens_index before.length)
    [.tag .object,.key "properties",.index before.length] _ ?_ leads (by simp)
  intro location address spells
  exact .tag Location.opens_start (.key (Location.isTag_attribute .object _) (.index spells))

end

end Field

namespace FieldTree

theorem parse_list_iff {items : List Json} {tree : FieldTree} :
    parse (.arr items) = .ok tree ↔
      List.Forall₂ (fun item field => Field.parse item = .ok field) items tree := by
  rw [parse_fields_iff]
  simp only [Json.arr.injEq,exists_eq_left']

theorem parse_behind {before after : List Json} {raw : Json} {inner : TreeError}
    (clean : ∀ item ∈ before, ∃ field, Field.parse item = .ok field)
    (named : ("" : Text) ∉ Entries.keys raw.members) (failed : Field.parse raw = .error inner) :
    parse (.arr (before ++ raw :: after)) =
      .error (inner.inside ("[" ++ toString before.length ++ "]")) := by
  obtain ⟨first,rest,wrong,rfl⟩ := Verdict.orTreeError_error_iff.mp failed
  obtain ⟨others,whole⟩ := Verdict.each_issues_behind (Field.parsed_clean clean) wrong after 0
  rw [Nat.zero_add] at whole
  refine Verdict.orTreeError_error_iff.mpr ⟨_,others,whole,?_⟩
  have leads : Address.path [.index before.length] = "[" ++ toString before.length ++ "]" := by
    simp [Address.path,Address.pathFrom,Step.extend]
  exact Field.ofIssue_inside wrong named (Location.opens_index before.length)
    [.index before.length] _ (fun _ _ => .index) leads (by simp)

-- Either all of the values are fields, or there is a first one that is not.
theorem parsed_or_failed (items : List Json) :
    (∃ tree, List.Forall₂ (fun item field => Field.parse item = .ok field) items tree) ∨
      ∃ before raw after inner, items = before ++ raw :: after ∧
        (∀ item ∈ before, ∃ field, Field.parse item = .ok field) ∧ Field.parse raw = .error inner := by
  induction items with
  | nil => exact .inl ⟨[],.nil⟩
  | cons item rest ih =>
    cases parsed : Field.parse item with
    | error inner => exact .inr ⟨[],item,rest,inner,rfl,by simp,parsed⟩
    | ok field =>
      rcases ih with ⟨tree,aligned⟩ | ⟨before,raw,after,inner,rfl,clean,failed⟩
      · exact .inl ⟨field :: tree,.cons parsed aligned⟩
      · refine .inr ⟨item :: before,raw,after,inner,rfl,?_,failed⟩
        exact List.forall_mem_cons.mpr ⟨⟨field,parsed⟩,clean⟩

theorem parse_first_iff {items : List Json} (named : ∀ item ∈ items, ("" : Text) ∉ Entries.keys item.members)
    {error : TreeError} :
    parse (.arr items) = .error error ↔
      ∃ before raw after inner, items = before ++ raw :: after ∧
        (∀ item ∈ before, ∃ field, Field.parse item = .ok field) ∧ Field.parse raw = .error inner ∧
          error = inner.inside ("[" ++ toString before.length ++ "]") := by
  constructor
  · intro refused
    rcases parsed_or_failed items with ⟨tree,aligned⟩ | ⟨before,raw,after,inner,rfl,clean,failed⟩
    · rw [parse_list_iff.mpr aligned] at refused
      cases refused
    · rw [parse_behind clean (named raw (by simp)) failed] at refused
      exact ⟨before,raw,after,inner,rfl,clean,failed,(Except.error.inj refused).symm⟩
  · intro given
    obtain ⟨before,raw,after,inner,rfl,clean,failed,rfl⟩ := given
    exact parse_behind clean (named raw (by simp)) failed

end FieldTree

def datedItem : Json := .obj [("type",.str "number"),("format",.str "date")]

def datedLines : Json := .obj [("type",.str "array"),("items",datedItem)]

def datedText : Json := .obj [("type",.str "string"),("format",.str "date")]

def datedTable : Json :=
  .obj [("type",.str "object"),("properties",.arr [datedText,datedLines])]

def datedFault (path : Text) : TreeError := ⟨.unreadable .unknownKey,some path⟩

end ExtractionSchema
