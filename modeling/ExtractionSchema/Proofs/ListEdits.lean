import ExtractionSchema.Proofs.ApplicableEdits
import ExtractionSchema.Proofs.FieldRuns
import ExtractionSchema.Proofs.FirstViolation

namespace ExtractionSchema

inductive ListEdit (α : Type) where
  | append (items : List α)
  | delete (index : Option Int)
  | replace (index : Option Int) (item : α)

namespace ListEdit

variable {α : Type} {edit : ListEdit α} {edits : List (ListEdit α)} {items : List α}

-- What is left of the list. Only an index that is within it is of any interest here.
def after (items : List α) : ListEdit α → List α
  | .append others => items ++ others
  | .delete index => index.elim items fun index => items.eraseIdx index.toNat
  | .replace index item => index.elim items fun index => items.set index.toNat item

def afterAll (items : List α) (edits : List (ListEdit α)) : List α := edits.foldl after items

-- The index that the edit uses is there and is neither negative nor too large.
def Within (items : List α) : ListEdit α → Prop
  | .append _ => True
  | .delete index | .replace index _ => Points index items.length

-- No edit uses an index that is not within the list as it is by then.
def StaysWithin (items : List α) (edits : List (ListEdit α)) : Prop :=
  ∀ before edit rest, edits = before ++ edit :: rest → edit.Within (afterAll items before)

theorem staysWithin_nil : StaysWithin items [] := by
  intro before edit rest split
  simp at split

theorem staysWithin_cons :
    StaysWithin items (edit :: edits) ↔ edit.Within items ∧ StaysWithin (edit.after items) edits := by
  constructor
  · intro stays
    refine ⟨stays [] edit edits rfl,?_⟩
    intro before later rest split
    exact stays (edit :: before) later rest (congrArg _ split)
  · intro parts before later rest split
    obtain ⟨within,stays⟩ := parts
    cases before with
    | nil =>
      cases split
      exact within
    | cons first before =>
      obtain ⟨rfl,others⟩ := List.cons.inj split
      exact stays before later rest others

theorem placed_iff {given : Option Int} {size : Nat} (make : Nat → List α) (fits : List α → Prop) :
    (∃ place : Nat, (given = some (place : Int) ∧ place < size) ∧ fits (make place)) ↔
      Points given size ∧ fits (given.elim items fun index => make index.toNat) := by
  rw [points_iff]
  constructor
  · intro placed
    obtain ⟨place,⟨rfl,inside⟩,made⟩ := placed
    exact ⟨⟨place,rfl,inside⟩,made⟩
  · intro given
    obtain ⟨⟨place,rfl,inside⟩,made⟩ := given
    exact ⟨place,⟨rfl,inside⟩,made⟩

end ListEdit

inductive GivenProperty where
  | asField (property : Field)
  | asJson (raw : Json)

def GivenProperty.candidate : GivenProperty → Except TreeError Field
  | .asField property => .ok property
  | .asJson raw => Field.parse raw

inductive PropertyEdit where
  | add
  | remove (index : Option Int)
  | update (index : Option Int) (property : GivenProperty)

namespace PropertyEdit

def apply (edit : PropertyEdit) (field : Field) : Except Failure Field :=
  match edit with
  | .add => field.addProperty
  | .remove index => field.removeProperty (.ofOption index)
  | .update index property => field.updateProperty (.ofOption index) property.candidate

inductive Means : PropertyEdit → ListEdit Field → Prop where
  | add : Means .add (.append [.string ⟨"",true,none,[]⟩ none])
  | remove {index} : Means (.remove index) (.delete index)
  | update {index given property} (read : given.candidate = .ok property) :
      Means (.update index given) (.replace index property)

end PropertyEdit

inductive ExampleEdit where
  | add (text : Text)
  | remove (index : Option Int)

namespace ExampleEdit

def apply (edit : ExampleEdit) (field : Field) : Except Failure Field :=
  match edit with
  | .add text => .ok (field.addExample text)
  | .remove index => field.removeExample (.ofOption index)

-- What the edit is on the plain list of examples. Nothing is appended for a text that is blank.
def plain : ExampleEdit → ListEdit Text
  | .add text => .append (if Text.strip text = "" then [] else [Text.strip text])
  | .remove index => .delete index

end ExampleEdit

namespace Field

section Plain

variable {α ε : Type} {apply : ε → Field → Except Failure Field} {means : ε → ListEdit α → Prop}
  {holding : List α → Field}

-- The list that a field holds goes through the plain edits, step by step. The induction is over the
-- edits, for every list, since each of them leaves another list to the next.
theorem applyEach_plain
    (step : ∀ edit plain, means edit plain → ∀ items next, apply edit (holding items) = .ok next ↔
      plain.Within items ∧ holding (plain.after items) = next)
    {edits : List ε} {plains : List (ListEdit α)} (aligned : List.Forall₂ means edits plains)
    (items : List α) (next : Field) :
    (holding items).applyEach apply edits = .ok next ↔
      ListEdit.StaysWithin items plains ∧ holding (ListEdit.afterAll items plains) = next := by
  induction aligned generalizing items with
  | nil => simp [applyEach_nil,ListEdit.staysWithin_nil,ListEdit.afterAll]
  | @cons edit plain edits plains own _ ih =>
    rw [applyEach_cons_ok_iff,ListEdit.staysWithin_cons]
    constructor
    · intro run
      obtain ⟨between,first,later⟩ := run
      obtain ⟨within,rfl⟩ := (step edit plain own items between).mp first
      obtain ⟨stays,same⟩ := (ih (plain.after items)).mp later
      exact ⟨⟨within,stays⟩,same⟩
    · intro run
      obtain ⟨⟨within,stays⟩,same⟩ := run
      exact ⟨_,(step edit plain own items _).mpr ⟨within,rfl⟩,(ih _).mpr ⟨stays,same⟩⟩

end Plain

theorem propertyEdit_plain (attributes : Attributes) (edit : PropertyEdit) (plain : ListEdit Field)
    (own : edit.Means plain) (properties : List Field) (next : Field) :
    edit.apply (.object attributes properties) = .ok next ↔
      plain.Within properties ∧ .object attributes (plain.after properties) = next := by
  cases own with
  | add =>
    simp only [PropertyEdit.apply,addProperty,editProperties,Except.map,Except.ok.injEq,ListEdit.Within,
      ListEdit.after,true_and]
    rfl
  | remove =>
    simp only [PropertyEdit.apply,removeProperty,editProperties,mapped_ok_iff,Position.cut_given,
      Position.index_given_ok_iff,exists_exists_and_eq_and]
    exact ListEdit.placed_iff properties.eraseIdx fun after => .object attributes after = next
  | @update _ _ property read =>
    simp only [PropertyEdit.apply,updateProperty,editProperties,mapped_ok_iff,replaceAt_given_ok_iff,
      read,Except.ok.injEq,exists_eq_left',exists_exists_and_eq_and]
    exact ListEdit.placed_iff (properties.set · property) fun after => .object attributes after = next

theorem exampleEdit_plain (field : Field) (edit : ExampleEdit) (plain : ListEdit Text)
    (own : edit.plain = plain) (examples : List Text) (next : Field) :
    edit.apply (field.withExamples examples) = .ok next ↔
      plain.Within examples ∧ field.withExamples (plain.after examples) = next := by
  subst own
  cases edit with
  | add text =>
    simp only [ExampleEdit.apply,ExampleEdit.plain,ListEdit.Within,ListEdit.after,Except.ok.injEq,
      true_and,addExample,← Text.strip_isEmpty,Text.isEmpty_iff,examples_withExamples,
      withExamples_withExamples]
    split <;> simp
  | remove given =>
    simp only [ExampleEdit.apply,removeExample_given_ok_iff,examples_withExamples,
      withExamples_withExamples]
    exact ListEdit.placed_iff examples.eraseIdx fun after => field.withExamples after = next

theorem applyEach_list :
    (∀ (attributes : Attributes) (properties : List Field) (edits : List PropertyEdit)
        (plains : List (ListEdit Field)), List.Forall₂ PropertyEdit.Means edits plains →
      ∀ next, (object attributes properties).applyEach PropertyEdit.apply edits = .ok next ↔
        ListEdit.StaysWithin properties plains ∧
          object attributes (ListEdit.afterAll properties plains) = next) ∧
    ∀ (field : Field) (edits : List ExampleEdit) (next : Field),
      field.applyEach ExampleEdit.apply edits = .ok next ↔
        ListEdit.StaysWithin field.examples (edits.map ExampleEdit.plain) ∧
          field.withExamples (ListEdit.afterAll field.examples (edits.map ExampleEdit.plain)) = next := by
  constructor
  · intro attributes properties edits plains aligned next
    exact applyEach_plain (propertyEdit_plain attributes) aligned properties next
  · intro field edits next
    have aligned : List.Forall₂ (fun edit plain => edit.plain = plain) edits
        (edits.map ExampleEdit.plain) := by
      rw [List.forall₂_map_right_iff,List.forall₂_same]
      exact fun _ _ => rfl
    have run := applyEach_plain (exampleEdit_plain field) aligned field.examples next
    rwa [withExamples_examples] at run

-- A seller who gets a telephone number in the place of a name that is taken out.
def namedSeller : Field :=
  .object ⟨"seller",true,none,[]⟩ [.string ⟨"name",true,none,[]⟩ none]

def telephone : Field := .array ⟨"phones",false,none,[]⟩ none

def replacing : List PropertyEdit :=
  [.add,.remove (some 0),.update (some 0)
    (.asJson (.obj [("type",.str "array"),("name",.str "phones"),("required",.str "no")]))]

def replacingPlainly : List (ListEdit Field) :=
  [.append [.string ⟨"",true,none,[]⟩ none],.delete (some 0),.replace (some 0) telephone]

theorem namedSeller_list :
    List.Forall₂ PropertyEdit.Means replacing replacingPlainly ∧
      namedSeller.applyEach PropertyEdit.apply replacing =
        .ok (.object ⟨"seller",true,none,[]⟩ [telephone]) ∧
      ∀ next, namedSeller.applyEach PropertyEdit.apply (replacing ++ [.remove (some 1)]) ≠ .ok next := by
  have aligned : List.Forall₂ PropertyEdit.Means replacing replacingPlainly :=
    .cons .add (.cons .remove (.cons (.update rfl) .nil))
  have longer : List.Forall₂ PropertyEdit.Means (replacing ++ [.remove (some 1)])
      (replacingPlainly ++ [.delete (some 1)]) :=
    .cons .add (.cons .remove (.cons (.update rfl) (.cons .remove .nil)))
  refine ⟨aligned,(applyEach_list.1 _ _ _ _ aligned _).mpr ⟨?_,rfl⟩,?_⟩
  · simp [replacingPlainly,ListEdit.staysWithin_cons,ListEdit.staysWithin_nil,ListEdit.Within,
      ListEdit.after,Points]
  · intro next done
    obtain ⟨stays,_⟩ := (applyEach_list.1 _ _ _ _ longer next).mp done
    obtain ⟨index,given,_,inside⟩ := stays replacingPlainly (.delete (some 1)) [] rfl
    cases given
    exact absurd inside (by decide)

end Field

end ExtractionSchema
