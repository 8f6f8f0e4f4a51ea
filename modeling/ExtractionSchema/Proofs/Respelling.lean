import ExtractionSchema.Proofs.Grammar
import ExtractionSchema.Proofs.Recovery
import Mathlib.Logic.Relation

namespace ExtractionSchema

-- What a field of the type has under a key that it leaves out.
def FieldType.defaults (type : FieldType) : List (Text × Json) :=
  ("name",.str "") :: ("required",.bool true) :: ("description",.null) :: ("examples",.arr []) ::
    match type with
    | .string => [("format",.null)]
    | .number | .boolean => []
    | .array => [("items",.null)]
    | .object => [("properties",.arr [])]

namespace Json

-- One change in how a value is written: the keys of an object in another order, a default of a field
-- written out, or such a change anywhere inside.
inductive Respelled : Json → Json → Prop where
  | reordered {members others : List (Text × Json)} (distinct : (Entries.keys members).Nodup)
      (same : members.Perm others) : Respelled (.obj members) (.obj others)
  | spelledOut {members key value} {type : FieldType}
      (tag : members.lookup ("type" : Text) = some (.str type.name)) (default : (key,value) ∈ type.defaults)
      (fresh : key ∉ Entries.keys members) :
      Respelled (.obj members) (.obj ((key,value) :: members))
  | member {raw other} (before : List (Text × Json)) (key : Text) (after : List (Text × Json))
      (inner : Respelled raw other) :
      Respelled (.obj (before ++ (key,raw) :: after)) (.obj (before ++ (key,other) :: after))
  | element {raw other} (before after : List Json) (inner : Respelled raw other) :
      Respelled (.arr (before ++ raw :: after)) (.arr (before ++ other :: after))

-- A value that no attribute has: there is an object in it, or an array in an array.
def Structured : Json → Prop
  | .obj _ => True
  | .arr items => ∃ item ∈ items, item.isScalar = false
  | _ => False

theorem Structured.container {raw : Json} (structured : raw.Structured) : raw.isScalar = false := by
  cases raw <;> first | rfl | cases structured

-- Two values that are the same field or tree, if they are any.
structure Interchangeable (raw other : Json) : Prop where
  structured : raw.Structured ∧ other.Structured
  field : ∀ field, Field.Denotes raw field ↔ Field.Denotes other field
  tree : ∀ tree, FieldTree.Denotes raw tree ↔ FieldTree.Denotes other tree

theorem Interchangeable.symm {raw other : Json} (same : Interchangeable raw other) :
    Interchangeable other raw :=
  ⟨same.structured.symm,fun field => (same.field field).symm,fun tree => (same.tree tree).symm⟩

-- What two spellings of a field of the type may have under a key.
inductive Alike (type : FieldType) (key : Text) : Option Json → Option Json → Prop where
  | same {found} : Alike type key found found
  | written {value} (default : (key,value) ∈ type.defaults) : Alike type key none (some value)
  | omitted {value} (default : (key,value) ∈ type.defaults) : Alike type key (some value) none
  | inside {raw other} (inner : Interchangeable raw other) : Alike type key (some raw) (some other)

theorem Alike.symm {type : FieldType} {key : Text} {found other : Option Json}
    (alike : Alike type key found other) : Alike type key other found := by
  cases alike with
  | same => exact .same
  | written default => exact .omitted default
  | omitted default => exact .written default
  | inside inner => exact .inside inner.symm

end Json

theorem Flags.plain {raw : Json} {value : Bool} (flags : Flags raw value) : ¬ raw.Structured := by
  intro structured
  cases flags <;> cases structured

theorem orNull_plain {α : Type} {write : α → Json} (plain : ∀ value, ¬ (write value).Structured)
    (given : Option α) : ¬ (orNull write given).Structured := by
  cases given with
  | none => exact id
  | some value => exact plain value

theorem texts_plain (texts : List Text) : ¬ (Json.arr (texts.map .str)).Structured := by
  intro structured
  obtain ⟨item,member,container⟩ := structured
  obtain ⟨text,_,rfl⟩ := List.mem_map.mp member
  cases container

section

variable {type : FieldType} {members others : List (Text × Json)}

theorem Stated.carried {α : Type} {key : Text} {absent value : α} {speaks : Json → α → Prop}
    (stated : Stated members key absent speaks value)
    (alike : Json.Alike type key (members.lookup key) (others.lookup key))
    (default : ∀ raw, (key,raw) ∈ type.defaults → ∀ value, speaks raw value ↔ absent = value)
    (plain : ∀ raw value, speaks raw value → ¬ raw.Structured) :
    Stated others key absent speaks value := by
  unfold Stated at stated ⊢
  generalize members.lookup key = found at alike stated
  generalize others.lookup key = other at alike
  cases alike with
  | same => exact stated
  | @written raw own =>
    rcases stated with ⟨_,initial⟩ | ⟨_,present,_⟩
    · exact .inr ⟨raw,rfl,(default raw own value).mpr initial⟩
    · cases present
  | omitted own =>
    rcases stated with ⟨present,_⟩ | ⟨_,present,speaks⟩
    · cases present
    · cases present
      exact .inl ⟨rfl,(default _ own value).mp speaks⟩
  | inside inner =>
    rcases stated with ⟨present,_⟩ | ⟨_,present,speaks⟩
    · cases present
    · cases present
      exact absurd inner.structured.1 (plain _ value speaks)

theorem Stated.carried_orNull {α : Type} {key : Text} {write : α → Json} {value : Option α}
    (stated : Stated members key none (fun raw said => raw = orNull write said) value)
    (alike : Json.Alike type key (members.lookup key) (others.lookup key))
    (unset : ∀ raw, (key,raw) ∈ type.defaults → raw = .null)
    (some : ∀ value, write value ≠ .null) (plain : ∀ value, ¬ (write value).Structured) :
    Stated others key none (fun raw said => raw = orNull write said) value := by
  refine stated.carried alike (fun raw own said => ?_) fun raw said same => ?_
  · rw [unset raw own]
    cases said with
    | none => simp [orNull]
    | some value => simp [orNull,(some value).symm]
  · exact same ▸ orNull_plain plain said

variable {attributes : Attributes}
  (alike : ∀ key, Json.Alike type key (members.lookup key) (others.lookup key))
include alike

theorem Attributes.Spoken.carried (spoken : attributes.Spoken members) : attributes.Spoken others where
  name := by
    refine spoken.name.carried (alike "name") (fun raw own value => ?_) fun raw value same => ?_
    · have empty : raw = .str "" := by cases type <;> simpa [FieldType.defaults] using own
      simp [empty]
    · exact same ▸ id
  required := by
    refine spoken.required.carried (alike "required") (fun raw own value => ?_) fun _ _ => Flags.plain
    have yes : raw = .bool true := by cases type <;> simpa [FieldType.defaults] using own
    rw [yes]
    exact ⟨fun flags => by cases flags; rfl,fun same => same ▸ .truth⟩
  description := by
    refine spoken.description.carried_orNull (alike "description") (fun raw own => ?_)
      (fun _ => Json.noConfusion) fun _ => id
    cases type <;> simpa [FieldType.defaults] using own
  examples := by
    refine spoken.examples.carried (alike "examples") (fun raw own value => ?_)
      fun raw value same => ?_
    · have empty : raw = .arr [] := by cases type <;> simpa [FieldType.defaults] using own
      simp [empty,eq_comm]
    · exact same ▸ texts_plain value

theorem tag_carried (tag : members.lookup ("type" : Text) = some (.str type.name)) :
    others.lookup ("type" : Text) = some (.str type.name) := by
  have own := alike "type"
  rw [tag] at own
  generalize others.lookup ("type" : Text) = other at own
  cases own with
  | same => rfl
  | omitted default => cases type <;> simp [FieldType.defaults] at default
  | inside inner => cases inner.structured.1

theorem known_carried {allowed : List Text} (known : ∀ key ∈ Entries.keys members, key ∈ allowed)
    (own : ∀ default ∈ type.defaults, default.1 ∈ allowed) :
    ∀ key ∈ Entries.keys others, key ∈ allowed := by
  intro key present
  have spelled := alike key
  by_cases before : key ∈ Entries.keys members
  · exact known key before
  · rw [Entries.lookup_none_iff.mpr before] at spelled
    generalize found : others.lookup key = other at spelled
    cases spelled with
    | same => exact absurd present (Entries.lookup_none_iff.mp found)
    | written default => exact own _ default

theorem Attributes.Heads.carried (head : attributes.Heads type type.ownKeys members) :
    attributes.Heads type type.ownKeys others where
  toSpoken := head.toSpoken.carried alike
  tag := tag_carried alike head.tag
  known := known_carried alike head.known (by cases type <;> decide)

end

namespace Field

variable {members others : List (Text × Json)}

theorem Denotes.typed {field : Field} (denotes : Denotes (.obj members) field) :
    members.lookup ("type" : Text) = some (.str field.type.name) := by
  cases denotes with
  | _ head => exact head.tag

theorem Denotes.carried {field : Field} (denotes : Denotes (.obj members) field)
    (alike : ∀ key, Json.Alike field.type key (members.lookup key) (others.lookup key)) :
    Denotes (.obj others) field := by
  cases denotes with
  | @string _ attributes format head own =>
    refine .string (head.carried alike) (own.carried_orNull (alike "format") (fun raw default => ?_)
      (fun _ => Json.noConfusion) fun _ => id)
    simpa [FieldType.defaults,type] using default
  | number head => exact .number (head.carried alike)
  | boolean head => exact .boolean (head.carried alike)
  | bare head unset =>
    refine .bare (head.carried alike) fun raw present => ?_
    have items := alike "items"
    rw [present] at items
    generalize found : members.lookup ("items" : Text) = given at items
    cases items with
    | same => exact unset raw found
    | written default => simpa [FieldType.defaults,type] using default
    | inside inner =>
      have null := unset _ found
      exact absurd inner.structured.1 (null ▸ id)
  | array head present inner =>
    have items := alike "items"
    rw [present] at items
    generalize found : others.lookup ("items" : Text) = given at items
    cases items with
    | same => exact .array (head.carried alike) found inner
    | omitted default =>
      obtain ⟨members,same⟩ := inner.object_only
      simp [FieldType.defaults,type,same] at default
    | inside spelled => exact .array (head.carried alike) found ((spelled.field _).mp inner)
  | empty head absent =>
    have properties := alike "properties"
    rw [absent] at properties
    generalize found : others.lookup ("properties" : Text) = given at properties
    cases properties with
    | same => exact .empty (head.carried alike) found
    | @written value default =>
      have none : value = .arr [] := by simpa [FieldType.defaults,type] using default
      exact .object (head.carried alike) (none ▸ found) .nil
  | @object _ _ items properties head present inner =>
    have properties := alike "properties"
    rw [present] at properties
    generalize found : others.lookup ("properties" : Text) = given at properties
    cases properties with
    | same => exact .object (head.carried alike) found inner
    | omitted default =>
      have none : items = [] := by simpa [FieldType.defaults,type] using default
      subst none
      cases inner
      exact .empty (head.carried alike) found
    | inside spelled =>
      obtain ⟨others,same,each⟩ := (spelled.tree _).mp ⟨_,rfl,inner⟩
      exact .object (head.carried alike) (same ▸ found) each

end Field

theorem FieldTree.Denotes.not_object {members : List (Text × Json)} {tree : FieldTree} :
    ¬ Denotes (.obj members) tree := by
  intro denotes
  obtain ⟨items,same,_⟩ := denotes
  cases same

theorem Field.Denotes.not_list {items : List Json} {field : Field} :
    ¬ Denotes (.arr items) field := by
  intro denotes
  cases denotes

theorem aligned_swapped {α β : Type} {R : α → β → Prop} {first second : α}
    (same : ∀ result, R first result ↔ R second result) (before after : List α) (results : List β) :
    List.Forall₂ R (before ++ first :: after) results ↔
      List.Forall₂ R (before ++ second :: after) results := by
  induction before generalizing results with
  | nil => simp only [List.nil_append,List.forall₂_cons_left_iff,same]
  | cons head rest ih => simp only [List.cons_append,List.forall₂_cons_left_iff,ih]

namespace Json

theorem Interchangeable.objects {members others : List (Text × Json)}
    (alike : ∀ type : FieldType, members.lookup ("type" : Text) = some (.str type.name) ∨
      others.lookup ("type" : Text) = some (.str type.name) →
        ∀ key, Alike type key (members.lookup key) (others.lookup key)) :
    Interchangeable (.obj members) (.obj others) where
  structured := ⟨trivial,trivial⟩
  field field := by
    constructor
    · intro denotes
      exact denotes.carried (alike field.type (.inl denotes.typed))
    · intro denotes
      exact denotes.carried fun key => (alike field.type (.inr denotes.typed) key).symm
  tree _ := iff_of_false FieldTree.Denotes.not_object FieldTree.Denotes.not_object

theorem Interchangeable.reordered {members others : List (Text × Json)}
    (distinct : (Entries.keys members).Nodup) (same : members.Perm others) :
    Interchangeable (.obj members) (.obj others) := by
  refine .objects fun type _ key => ?_
  rw [Entries.lookup_perm distinct same key]
  exact .same

theorem Interchangeable.spelledOut {members : List (Text × Json)} {key : Text} {value : Json}
    {type : FieldType} (tag : members.lookup ("type" : Text) = some (.str type.name))
    (default : (key,value) ∈ type.defaults) (fresh : key ∉ Entries.keys members) :
    Interchangeable (.obj members) (.obj ((key,value) :: members)) := by
  have absent := Entries.lookup_none_iff.mpr fresh
  have other : "type" ≠ key := by
    intro same
    rw [← same,tag] at absent
    cases absent
  refine .objects fun given tagged name => ?_
  have own : given = type := by
    rw [List.lookup_cons,beq_false_of_ne other,or_self,tag] at tagged
    exact FieldType.name_injective (Text.ofString_inj.mp (Json.str.inj (Option.some.inj tagged.symm)))
  subst own
  by_cases here : name = key
  · subst here
    rw [absent,List.lookup_cons_self]
    exact .written default
  · rw [List.lookup_cons,beq_false_of_ne here]
    exact .same

theorem Interchangeable.member {raw other : Json} (inner : Interchangeable raw other)
    (before : List (Text × Json)) (key : Text) (after : List (Text × Json)) :
    Interchangeable (.obj (before ++ (key,raw) :: after))
      (.obj (before ++ (key,other) :: after)) := by
  refine .objects fun type _ name => ?_
  rw [List.lookup_append,List.lookup_append]
  cases before.lookup name with
  | some found => exact .same
  | none =>
    by_cases here : name = key
    · subst here
      rw [List.lookup_cons_self,List.lookup_cons_self]
      exact .inside inner
    · rw [List.lookup_cons,List.lookup_cons,beq_false_of_ne here]
      exact .same

theorem Interchangeable.element {raw other : Json} (inner : Interchangeable raw other)
    (before after : List Json) :
    Interchangeable (.arr (before ++ raw :: after)) (.arr (before ++ other :: after)) where
  structured := ⟨⟨raw,by simp,inner.structured.1.container⟩,
    ⟨other,by simp,inner.structured.2.container⟩⟩
  field _ := iff_of_false Field.Denotes.not_list Field.Denotes.not_list
  tree tree := by
    simp only [FieldTree.Denotes,Json.arr.injEq,exists_eq_left']
    exact aligned_swapped inner.field before after tree

-- The induction is on where the one change is.
theorem Respelled.interchangeable {raw other : Json} (respelled : Respelled raw other) :
    Interchangeable raw other := by
  induction respelled with
  | reordered distinct same => exact .reordered distinct same
  | spelledOut tag default fresh => exact .spelledOut tag default fresh
  | member before key after _ ih => exact ih.member before key after
  | element before after _ ih => exact ih.element before after

end Json

namespace FieldTree

theorem respelled_denotes_iff {raw other : Json} (alike : Relation.EqvGen Json.Respelled raw other)
    (tree : FieldTree) : Denotes raw tree ↔ Denotes other tree := by
  induction alike with
  | rel raw other step => exact step.interchangeable.tree tree
  | refl raw => exact Iff.rfl
  | symm raw other _ ih => exact ih.symm
  | trans raw middle other _ _ first second => exact first.trans second

theorem respelled_parse_iff {raw other : Json} (alike : Relation.EqvGen Json.Respelled raw other)
    (tree : FieldTree) : parse raw = .ok tree ↔ parse other = .ok tree := by
  rw [parse_denotes_iff,parse_denotes_iff,respelled_denotes_iff alike]

-- The text that a tree is sent as, from what is given for the tree.
def compileRead (raw : Json) : Except Failure (List Code) :=
  (ensure raw).bind fun tree => liftTree tree.compileText

theorem compileRead_list {items : List Json} {tree : FieldTree}
    (parsed : parse (.arr items) = .ok tree) : compileRead (.arr items) = liftTree tree.compileText := by
  cases items with
  | nil =>
    cases parsed
    rfl
  | cons first rest =>
    have ensured : ensure (.arr (first :: rest)) = liftTree (parse (.arr (first :: rest))) := rfl
    rw [compileRead,ensured,parsed]
    rfl

theorem respelled_compiles {items others : List Json}
    (alike : Relation.EqvGen Json.Respelled (.arr items) (.arr others)) :
    ((∃ error, parse (.arr items) = .error error) ∧ ∃ error, parse (.arr others) = .error error) ∨
      ∃ tree, parse (.arr items) = .ok tree ∧ parse (.arr others) = .ok tree ∧
        ((∃ text, compileRead (.arr items) = .ok text ∧ compileRead (.arr others) = .ok text) ∨
          ∃ error, compileRead (.arr items) = .error (.tree error) ∧
            compileRead (.arr others) = .error (.tree error)) := by
  cases parsed : parse (.arr items) with
  | error error =>
    cases again : parse (.arr others) with
    | error other => exact .inl ⟨⟨error,rfl⟩,other,rfl⟩
    | ok tree =>
      rw [(respelled_parse_iff alike tree).mpr again] at parsed
      cases parsed
  | ok tree =>
    have again := (respelled_parse_iff alike tree).mp parsed
    refine .inr ⟨tree,rfl,again,?_⟩
    rw [compileRead_list parsed,compileRead_list again]
    cases compiled : tree.compileText with
    | ok text => exact .inl ⟨text,rfl,rfl⟩
    | error error => exact .inr ⟨error,rfl,rfl⟩

-- The same array, once with its type last and the required flag of its items written out.
def tersePrices : List Json :=
  [.obj [("type",.str "array"),("name",.str "prices"),("items",.obj [("type",.str "number")])]]

def wordyPrices : List Json :=
  [.obj [("name",.str "prices"),("items",.obj [("required",.bool true),("type",.str "number")]),
    ("type",.str "array")]]

theorem prices_respelled : Relation.EqvGen Json.Respelled (.arr tersePrices) (.arr wordyPrices) ∧
    ∃ text, compileRead (.arr tersePrices) = .ok text ∧ compileRead (.arr wordyPrices) = .ok text := by
  have flag : Json.Respelled (.obj [("type",.str "number")])
      (.obj [("required",.bool true),("type",.str "number")]) :=
    @Json.Respelled.spelledOut _ _ _ .number rfl (by simp [FieldType.defaults])
      (by simp [Entries.keys])
  have inner := Json.Respelled.element [] []
    (.member [("type",.str "array"),("name",.str "prices")] "items" [] flag)
  have outer : Json.Respelled
      (.arr [.obj [("type",.str "array"),("name",.str "prices"),
        ("items",.obj [("required",.bool true),("type",.str "number")])]]) (.arr wordyPrices) :=
    .element [] [] (.reordered (by simp [Entries.keys]) (@List.perm_append_comm _ [_] _))
  have alike := (Relation.EqvGen.rel _ _ inner).trans _ _ _ (.rel _ _ outer)
  refine ⟨alike,?_⟩
  rcases respelled_compiles alike with ⟨⟨error,refused⟩,_⟩ | ⟨_,_,_,same | ⟨error,refused,_⟩⟩
  · cases refused
  · exact same
  · cases refused

end FieldTree

end ExtractionSchema
