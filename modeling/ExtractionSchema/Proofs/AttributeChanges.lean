import ExtractionSchema.Proofs.ApplicableEdits

namespace ExtractionSchema

namespace Entries

variable {α : Type}

-- The first entries, with the values that the second have for the same names, and behind them what
-- the second have under other names.
def override (first second : Entries α) : Entries α :=
  first.map (fun (name,value) => (name,(second.lookup name).getD value))
    ++ second.filter fun (name,_) => !first.keys.contains name

theorem lookup_revalued (entries others : Entries α) (key : Text) :
    (entries.map fun (name,value) => (name,(others.lookup name).getD value)).lookup key =
      (entries.lookup key).map fun value => (others.lookup key).getD value := by
  induction entries with
  | nil => rfl
  | cons entry rest ih =>
    obtain ⟨name,value⟩ := entry
    by_cases same : key = name
    · subst same
      simp
    · simp [List.lookup_cons,beq_false_of_ne same,ih]

theorem lookup_filtered (entries : Entries α) (keep : Text → Bool) (key : Text) :
    (entries.filter fun (name,_) => keep name).lookup key =
      if keep key then entries.lookup key else none := by
  induction entries with
  | nil => simp
  | cons entry rest ih =>
    obtain ⟨name,value⟩ := entry
    by_cases same : key = name
    · subst same
      cases kept : keep key <;> simp [kept,ih]
    · cases kept : keep name <;> simp [kept,List.lookup_cons,beq_false_of_ne same,ih]

theorem lookup_override (first second : Entries α) (key : Text) :
    (first.override second).lookup key = (second.lookup key).or (first.lookup key) := by
  rw [override,List.lookup_append,lookup_revalued,lookup_filtered second (!first.keys.contains ·)]
  cases found : first.lookup key with
  | none =>
    have absent := lookup_none_iff.mp found
    simp [absent]
  | some value => cases second.lookup key <;> rfl

theorem keys_override {first second : Entries α} {key : Text} :
    key ∈ (first.override second).keys ↔ key ∈ first.keys ∨ key ∈ second.keys := by
  rw [← not_iff_not,not_or,← lookup_none_iff,← lookup_none_iff,← lookup_none_iff,lookup_override,
    Option.or_eq_none_iff,and_comm]

end Entries

variable {first second changes : Entries Json}

theorem Accept.member_override {α : Type} {key : Text} {read : Json → Verdict α} {absent before : α}
    (taken : member key read absent first = .accepted before) :
    member key read absent (first.override second) = member key read before second := by
  cases given : second.lookup key with
  | none => simpa [member,Entries.lookup_override,given] using taken
  | some value => simp [member,Entries.lookup_override,given]

theorem Attributes.readOver_override {base between : Attributes}
    (read : base.readOver first = .accepted between) :
    base.readOver (first.override second) = between.readOver second := by
  obtain ⟨name,required,description,samples⟩ := readOver_accepted_iff.mp read
  rw [readOver,readOver,Accept.member_override name,Accept.member_override required,
    Accept.member_override description,Accept.member_override samples]

namespace Field

variable {field between after : Field}

theorem known_keys_iff : (∀ change ∈ changes, change.1 ∈ Attributes.keys) ↔
    ∀ key ∈ changes.keys, key ∈ Attributes.keys := by
  simp [Entries.keys]

theorem setAttributes_override_iff (done : field.setAttributes first = .ok between) :
    field.setAttributes (first.override second) = .ok after ↔ between.setAttributes second = .ok after := by
  obtain ⟨known,attributes,read,rfl⟩ := setAttributes_ok_iff.mp done
  have keys : (∀ key ∈ (first.override second).keys, key ∈ Attributes.keys) ↔
      ∀ key ∈ second.keys, key ∈ Attributes.keys := by
    simp only [Entries.keys_override,or_imp,forall_and]
    exact and_iff_right (known_keys_iff.mp known)
  rw [setAttributes_ok_iff,setAttributes_ok_iff,known_keys_iff,known_keys_iff,keys,
    Attributes.readOver_override read]
  simp only [attributes_withAttributes,withAttributes_withAttributes]

theorem setAttributes_congr (same : ∀ key, first.lookup key = second.lookup key) :
    field.setAttributes first = .ok after ↔ field.setAttributes second = .ok after := by
  have keys : ∀ key, key ∈ first.keys ↔ key ∈ second.keys := by
    intro key
    rw [← not_iff_not,← Entries.lookup_none_iff,← Entries.lookup_none_iff,same]
  simp only [setAttributes_ok_iff,known_keys_iff,keys,Attributes.readOver,Accept.member,same]

theorem setAttributes_succeeds_iff :
    (∃ after, field.setAttributes changes = .ok after) ↔
      ∀ key value, changes.lookup key = some value → Attributes.Takes key value := by
  rw [← Attributes.changes_take_iff field.attributes]
  simp only [setAttributes_ok_iff]
  simp

theorem setAttributes_swapped (apart : ∀ key ∈ first.keys, key ∉ second.keys)
    (done : (field.setAttributes first).bind (setAttributes second) = .ok after) :
    (field.setAttributes second).bind (setAttributes first) = .ok after := by
  have same : ∀ key, (first.override second).lookup key = (second.override first).lookup key := by
    intro key
    rw [Entries.lookup_override,Entries.lookup_override]
    by_cases present : key ∈ first.keys
    · simp [Entries.lookup_none_iff.mpr (apart key present)]
    · simp [Entries.lookup_none_iff.mpr present]
  cases one : field.setAttributes first with
  | error failure => simp [one,Except.bind] at done
  | ok between =>
    have two : between.setAttributes second = .ok after := by simpa [one,Except.bind] using done
    -- What the second change asks for, it asks of every field alike.
    obtain ⟨other,begun⟩ := setAttributes_succeeds_iff.mpr (setAttributes_succeeds_iff.mp ⟨after,two⟩)
    have whole := (setAttributes_congr same).mp ((setAttributes_override_iff one).mpr two)
    rw [begun]
    exact (setAttributes_override_iff begun).mp whole

theorem setAttributes_again (done : field.setAttributes changes = .ok after) :
    after.setAttributes changes = .ok after := by
  refine (setAttributes_override_iff done).mp ((setAttributes_congr ?_).mp done)
  intro key
  rw [Entries.lookup_override,Option.or_self]

theorem setAttributes_none (field : Field) : field.setAttributes [] = .ok field :=
  setAttributes_ok_iff.mpr ⟨by simp,field.attributes,rfl,field.withAttributes_self⟩

theorem setAttributes_singly (distinct : changes.keys.Nodup) :
    (∃ after, field.setAttributes changes = .ok after) ↔
      ∀ change ∈ changes, ∃ after, field.setAttributes [change] = .ok after := by
  simp only [setAttributes_succeeds_iff,Entries.lookup_exact distinct]
  constructor
  · intro takes change member key value given
    have single : (Entries.keys [change]).Nodup := List.nodup_singleton _
    cases List.mem_singleton.mp ((Entries.lookup_exact single).mp given)
    exact takes key value member
  · intro each key value member
    exact each (key,value) member key value (by simp)

theorem readOwn_make {inner : Json → Verdict Field} {members : List (Text × Json)} {type : FieldType}
    {make : Attributes → Field} (own : readOwn inner members type = .accepted make)
    (attributes : Attributes) :
    (make attributes).attributes = attributes ∧
      ∀ others, (make attributes).withAttributes others = make others := by
  cases type with
  | string =>
    obtain ⟨format,_,rfl⟩ := Verdict.map_accepted_iff.mp own
    exact ⟨rfl,fun _ => rfl⟩
  | array =>
    obtain ⟨items,_,rfl⟩ := Verdict.map_accepted_iff.mp own
    exact ⟨rfl,fun _ => rfl⟩
  | object =>
    obtain ⟨properties,_,rfl⟩ := Verdict.map_accepted_iff.mp own
    exact ⟨rfl,fun _ => rfl⟩
  | _ =>
    cases own
    exact ⟨rfl,fun _ => rfl⟩

-- A field is read from an object in which the changes have been made already as from the one without
-- them, but for the attributes.
theorem readWithin_override {members : Entries Json} {room : Nat}
    (read : readWithin room (.obj members) = .accepted field)
    (known : ∀ change ∈ changes, change.1 ∈ Attributes.keys) :
    readWithin room (.obj (members.override changes)) = .accepted after ↔
      field.setAttributes changes = .ok after := by
  obtain ⟨_,⟨⟩,type,tag,fits,variant⟩ := readWithin_accepted_iff.mp read
  obtain ⟨attributes,common,make,own,rfl,keys⟩ := readVariant_accepted_iff.mp variant
  obtain ⟨same,remade⟩ := readOwn_make own attributes
  have kept : ∀ key ∉ Attributes.keys, (members.override changes).lookup key = members.lookup key := by
    intro key other
    have absent : changes.lookup key = none :=
      Entries.lookup_none_iff.mpr fun present => other (known_keys_iff.mp known key present)
    rw [Entries.lookup_override,absent,Option.none_or]
  have tagged : readTag (members.override changes) = .accepted type := by
    rw [readTag_accepted_iff,kept "type" (by decide),readTag_accepted_iff.mp tag]
  have owned : readOwn (readInside room) (members.override changes) type = .accepted make := by
    rw [← own]
    cases type <;> simp only [readOwn,Accept.member,kept "format" (by decide),
      kept "items" (by decide),kept "properties" (by decide)]
  have all : ∀ member ∈ members.override changes, member.1 ∈ type.keys := by
    intro member present
    rcases Entries.keys_override.mp (List.mem_map.mpr ⟨member,present,rfl⟩) with old | new
    · obtain ⟨earlier,found,equal⟩ := List.mem_map.mp old
      exact equal ▸ keys earlier found
    · exact List.mem_append_left _ (known_keys_iff.mp known _ new)
  rw [readWithin_accepted_iff,setAttributes_ok_iff,iff_true_intro known,true_and]
  have roomy := iff_true_intro fits
  simp only [Json.obj.injEq,exists_eq_left',tagged,Verdict.accepted.injEq,roomy,true_and,readVariant_accepted_iff,
    owned,Attributes.readOver_override common,same,remade]
  exact exists_congr fun others => and_congr_right fun _ => and_iff_left all

theorem setAttributes_composes (field : Field) :
    (∀ (first second : Entries Json) (between : Field), field.setAttributes first = .ok between →
      ∀ after, between.setAttributes second = .ok after ↔
        field.setAttributes (first.override second) = .ok after) ∧
    (∀ first second : Entries Json, (∀ key ∈ first.keys, key ∉ second.keys) →
      ∀ after, (field.setAttributes first).bind (setAttributes second) = .ok after ↔
        (field.setAttributes second).bind (setAttributes first) = .ok after) ∧
    (∀ (changes : Entries Json) (after : Field), field.setAttributes changes = .ok after →
      after.setAttributes changes = .ok after) ∧
    field.setAttributes [] = .ok field ∧
    (∀ changes : Entries Json, changes.keys.Nodup →
      ((∃ after, field.setAttributes changes = .ok after) ↔
        ∀ change ∈ changes, ∃ after, field.setAttributes [change] = .ok after)) ∧
    (∀ members changes : Entries Json, parse (.obj members) = .ok field →
      (∀ key ∈ changes.keys, key ∈ Attributes.keys) →
      ∀ after, parse (.obj (members.override changes)) = .ok after ↔
        field.setAttributes changes = .ok after) := by
  refine ⟨?_,?_,fun _ _ => setAttributes_again,setAttributes_none field,
    fun _ => setAttributes_singly,?_⟩
  · intro first second between done after
    exact (setAttributes_override_iff done).symm
  · intro first second apart after
    refine ⟨setAttributes_swapped apart,setAttributes_swapped ?_⟩
    intro key given present
    exact apart key present given
  · intro members changes read known after
    rw [parse,Verdict.orTreeError_ok_iff] at read ⊢
    exact readWithin_override read (known_keys_iff.mpr known)

end Field

-- An array that gets another name, with a word for the flag, and then is to be required after all.
def orderRows : Field :=
  .array ⟨"rows",true,some "",["two"]⟩ (some (.object ⟨"row",true,none,[]⟩ [.string .initial none]))

def writtenRows : Entries Json :=
  [("type",.str "array"),("name",.str "rows"),("description",.str ""),("examples",.arr [.str "two"]),
    ("items",.obj [("type",.str "object"),("name",.str "row"),
      ("properties",.arr [.obj [("type",.str "string")]])])]

def retitling : Entries Json := [("name",.str "lines"),("required",.str "No")]

def requiring : Entries Json := [("required",.int 1),("description",.null)]

def clearing : Entries Json := [("examples",.arr [])]

def retitledRows : Field := orderRows.withAttributes ⟨"lines",false,some "",["two"]⟩

def requiredRows : Field := orderRows.withAttributes ⟨"lines",true,none,["two"]⟩

theorem orderRows_composes :
    orderRows.setAttributes retitling = .ok retitledRows ∧
      orderRows.setAttributes (retitling.override requiring) = .ok requiredRows ∧
      retitledRows.setAttributes requiring = .ok requiredRows ∧
      retitledRows.setAttributes retitling = .ok retitledRows ∧
      (∀ key ∈ clearing.keys, key ∉ retitling.keys) ∧
      (orderRows.setAttributes clearing).bind (Field.setAttributes retitling) =
        .ok (retitledRows.withExamples []) ∧
      (∀ change ∈ retitling, ∃ after, orderRows.setAttributes [change] = .ok after) ∧
      Field.parse (.obj (writtenRows.override retitling)) = .ok retitledRows := by
  obtain ⟨composed,swapped,again,_,singly,reread⟩ := Field.setAttributes_composes orderRows
  have retitled : orderRows.setAttributes retitling = .ok retitledRows := rfl
  have whole : orderRows.setAttributes (retitling.override requiring) = .ok requiredRows := rfl
  have apart : ∀ key ∈ clearing.keys, key ∉ retitling.keys := by decide
  refine ⟨retitled,whole,?_,again _ _ retitled,apart,?_,(singly _ (by decide)).mp ⟨_,retitled⟩,?_⟩
  · exact (composed retitling requiring retitledRows retitled requiredRows).mpr whole
  · exact (swapped clearing retitling apart _).mpr rfl
  · exact (reread writtenRows retitling rfl (by decide) retitledRows).mpr retitled

end ExtractionSchema
