import ExtractionSchema.Proofs.Checker
import Mathlib.Data.List.DropRight

namespace ExtractionSchema

theorem Text.strip_isEmpty (text : Text) : (strip text).isEmpty = isBlankText text := by
  have bare : trimBy Code.isBlank text.codes = [] ↔ ∀ c ∈ text.codes, c.isBlank = true := by
    have trimmed : trimBy Code.isBlank text.codes =
        (text.codes.dropWhile Code.isBlank).rdropWhile Code.isBlank := rfl
    rw [trimmed,List.rdropWhile_eq_nil_iff,← List.dropWhile_eq_nil_iff,List.dropWhile_idempotent,
      List.dropWhile_eq_nil_iff]
  rw [Bool.eq_iff_iff,isBlankText,List.all_eq_true,← bare,strip,isEmpty,List.isEmpty_iff]
  exact Code.join_eq_nil

-- One step of the way down: to a field among those beside it, or to the items of an array.
inductive Turn where
  | beside (position : Nat) (name : Text)
  | items
  deriving DecidableEq,Repr

abbrev Trail := List Turn

def Turn.extend (path : Text) : Turn → Text
  | .beside position name =>
    if Text.isBlankText name then indexPath path (toString position)
    else joinPath path (Text.strip name)
  | .items => path ++ ".items"

def Trail.pathFrom (path : Text) (trail : Trail) : Text := trail.foldl Turn.extend path

structure Violation where
  trail : Trail
  fault : TreeFault
  deriving DecidableEq,Repr

namespace Violation

def after (turn : Turn) (violation : Violation) : Violation :=
  ⟨turn :: violation.trail,violation.fault⟩

def error (path : Text) (violation : Violation) : TreeError :=
  ⟨violation.fault,some (violation.trail.pathFrom path)⟩

-- The order of visiting. Of one field its name comes first and its being a repetition last; in
-- between is what is inside, or that there is nothing inside.
inductive Precedes : Violation → Violation → Prop where
  | beside {first second one other trail way fault flaw} (before : first < second) :
    Precedes ⟨.beside first one :: trail,fault⟩ ⟨.beside second other :: way,flaw⟩
  | within {turn trail way fault flaw} (inner : Precedes ⟨trail,fault⟩ ⟨way,flaw⟩) :
    Precedes ⟨turn :: trail,fault⟩ ⟨turn :: way,flaw⟩
  | name {other} (apart : other ≠ ⟨[],.blankName⟩) : Precedes ⟨[],.blankName⟩ other
  | bare {name} : Precedes ⟨[],.missingItems⟩ ⟨[],.repeatedName name⟩
  | inside {turn trail fault name} : Precedes ⟨turn :: trail,fault⟩ ⟨[],.repeatedName name⟩

theorem Precedes.asymm {first second : Violation} (forth : first.Precedes second) :
    ¬ second.Precedes first := by
  induction forth with
  | beside before =>
    intro back
    cases back with
    | beside after => exact Nat.lt_asymm before after
    | within inner => exact Nat.lt_irrefl _ before
  | within inner ih =>
    intro back
    cases back with
    | beside after => exact Nat.lt_irrefl _ after
    | within back => exact ih back
  | name apart =>
    intro back
    cases back with
    | name same => exact same rfl
  | bare => intro back; cases back
  | inside => intro back; cases back

end Violation

mutual
-- What is wrong at a field or inside it, told from the field on.
inductive Field.Violated : Field → Bool → Violation → Prop where
  | blank {field} (blank : Text.isBlankText field.name = true) :
    Field.Violated field true ⟨[],.blankName⟩
  | bare {attributes named} : Field.Violated (.array attributes none) named ⟨[],.missingItems⟩
  | items {attributes item named violation} (inner : Field.Violated item false violation) :
    Field.Violated (.array attributes (some item)) named (violation.after .items)
  | properties {attributes properties named violation}
      (inner : FieldTree.Violated properties violation) :
    Field.Violated (.object attributes properties) named violation
inductive FieldTree.Violated : List Field → Violation → Prop where
  | inside {front field rest violation} (inner : Field.Violated field true violation) :
    FieldTree.Violated (front ++ field :: rest)
      (violation.after (.beside front.length field.name))
  | repeated {front field rest} (known : field.name ∈ front.map (·.name)) :
    FieldTree.Violated (front ++ field :: rest)
      ⟨[.beside front.length field.name],.repeatedName field.name⟩
end

-- The one of some violations that all the others come after.
structure Violation.Leads (violated : Violation → Prop) (first : Violation) : Prop where
  present : violated first
  ahead : ∀ other, violated other → other = first ∨ first.Precedes other

theorem Violation.Leads.unique {violated : Violation → Prop} {first second : Violation}
    (one : Leads violated first) (other : Leads violated second) : second = first := by
  rcases one.ahead second other.present with same | forth
  · exact same
  · rcases other.ahead first one.present with same | back
    · exact same.symm
    · exact absurd back forth.asymm

def Reports (path : Text) (violated : Violation → Prop) : Except TreeError Unit → Prop
  | .ok () => ∀ violation, ¬ violated violation
  | .error error => ∃ first, Violation.Leads violated first ∧ error = first.error path

-- Two checks, of which the second is made only when the first finds nothing.
def inTurn (one other : Except TreeError Unit) : Except TreeError Unit :=
  match one with
  | .error error => .error error
  | .ok () => other

section Reports

variable {path : Text} {violated first second : Violation → Prop}
  {result one other : Except TreeError Unit}

theorem Reports.congr (reports : Reports path first result)
    (same : ∀ violation, second violation ↔ first violation) : Reports path second result := by
  have equal : second = first := funext fun violation => propext (same violation)
  exact equal ▸ reports

theorem reports_violation (path : Text) (fault : TreeFault) :
    Reports path (· = ⟨[],fault⟩) (violation fault path) :=
  ⟨⟨[],fault⟩,⟨rfl,fun _ same => .inl same⟩,rfl⟩

theorem Reports.andThen (reports : Reports path first one) (next : Reports path second other)
    (ordered : ∀ before after, first before → second after → before.Precedes after) :
    Reports path (fun violation => first violation ∨ second violation) (inTurn one other) := by
  cases one with
  | error error =>
    obtain ⟨found,leads,rfl⟩ := reports
    refine ⟨found,⟨.inl leads.present,?_⟩,rfl⟩
    intro violation wrong
    rcases wrong with early | late
    · exact leads.ahead violation early
    · exact .inr (ordered found violation leads.present late)
  | ok _ =>
    refine next.congr fun violation => ?_
    simp [reports violation]

theorem Reports.after (turn : Turn) (reports : Reports (turn.extend path) violated result) :
    Reports path (fun violation => ∃ inner, violated inner ∧ violation = inner.after turn) result := by
  cases result with
  | error error =>
    obtain ⟨found,leads,rfl⟩ := reports
    refine ⟨found.after turn,⟨⟨found,leads.present,rfl⟩,?_⟩,rfl⟩
    rintro violation ⟨inner,wrong,rfl⟩
    rcases leads.ahead inner wrong with rfl | later
    · exact .inl rfl
    · exact .inr (.within later)
  | ok _ =>
    rintro violation ⟨inner,wrong,rfl⟩
    exact reports inner wrong

theorem reports_guard (path : Text) (wrong : Prop) [Decidable wrong] (fault : TreeFault) :
    Reports path (fun violation => wrong ∧ violation = ⟨[],fault⟩)
      (if wrong then violation fault path else .ok ()) := by
  split
  · rename_i holds
    exact (reports_violation path fault).congr fun violation => by simp [holds]
  · rename_i fails
    exact fun violation present => fails present.1

theorem checkName_reports (path : Text) (named : Bool) (name : Text) :
    Reports path (fun violation => (named && Text.isBlankText name) = true ∧
      violation = ⟨[],.blankName⟩) (checkName path named name) :=
  reports_guard path _ .blankName

end Reports

namespace Field

-- A violation is of the own name, or of what the type has inside.
theorem violated_iff {field : Field} {named : Bool} {violation : Violation} :
    field.Violated named violation ↔
      ((named && Text.isBlankText field.name) = true ∧ violation = ⟨[],.blankName⟩) ∨
        match field with
        | .array _ none => violation = ⟨[],.missingItems⟩
        | .array _ (some item) => ∃ inner, item.Violated false inner ∧ violation = inner.after .items
        | .object _ properties => FieldTree.Violated properties violation
        | _ => False := by
  constructor
  · intro wrong
    cases wrong with
    | blank blank => exact .inl ⟨by simpa using blank,rfl⟩
    | bare => exact .inr rfl
    | items inner => exact .inr ⟨_,inner,rfl⟩
    | properties inner => exact .inr inner
  · rintro (⟨blank,rfl⟩ | inside)
    · obtain ⟨rfl,blank⟩ := Bool.and_eq_true_iff.mp blank
      exact .blank blank
    · split at inside
      · subst inside
        exact .bare
      · obtain ⟨inner,wrong,rfl⟩ := inside
        exact .items wrong
      · exact .properties inside
      · cases inside

end Field

namespace FieldTree

def ViolatedBehind (front fields : List Field) (violation : Violation) : Prop :=
  ∃ between field rest, fields = between ++ field :: rest ∧
    ∃ inner, (field.Violated true inner ∨
        field.name ∈ (front ++ between).map (·.name) ∧ inner = ⟨[],.repeatedName field.name⟩) ∧
      violation = inner.after (.beside (front ++ between).length field.name)

theorem violated_iff {fields : List Field} {violation : Violation} :
    FieldTree.Violated fields violation ↔ ViolatedBehind [] fields violation := by
  constructor
  · intro wrong
    cases wrong with
    | @inside front field rest inner wrong => exact ⟨front,field,rest,rfl,inner,.inl wrong,rfl⟩
    | @repeated front field rest known =>
      exact ⟨front,field,rest,rfl,⟨[],.repeatedName field.name⟩,.inr ⟨known,rfl⟩,rfl⟩
  · rintro ⟨front,field,rest,rfl,inner,wrong | ⟨known,rfl⟩,rfl⟩
    · exact .inside wrong
    · exact .repeated known

theorem violatedBehind_cons {front rest : List Field} {field : Field} {violation : Violation} :
    ViolatedBehind front (field :: rest) violation ↔
      (∃ inner, (field.Violated true inner ∨
          field.name ∈ front.map (·.name) ∧ inner = ⟨[],.repeatedName field.name⟩) ∧
        violation = inner.after (.beside front.length field.name)) ∨
      ViolatedBehind (front ++ [field]) rest violation := by
  constructor
  · rintro ⟨between,other,later,split,wrong⟩
    cases between with
    | nil =>
      cases split
      exact .inl (by simpa using wrong)
    | cons first between =>
      cases split
      exact .inr ⟨between,other,later,rfl,by simpa using wrong⟩
  · rintro (wrong | ⟨between,other,later,rfl,wrong⟩)
    · exact ⟨[],field,rest,rfl,by simpa using wrong⟩
    · exact ⟨field :: between,other,later,rfl,by simpa using wrong⟩

end FieldTree

theorem Turn.extend_beside (path : Text) (position : Nat) (name : Text) :
    extend path (.beside position name) = siblingPath path position name := by
  simp [extend,siblingPath,Text.strip_isEmpty]

-- That a name is a repetition is found after all else that is wrong with its field.
theorem Field.Violated.before_repeated {field : Field} {named : Bool} {violation : Violation}
    (wrong : field.Violated named violation) (name : Text) :
    violation.Precedes ⟨[],.repeatedName name⟩ := by
  cases wrong with
  | blank => exact .name (by simp)
  | bare => exact .bare
  | items => exact .inside
  | properties inner =>
    obtain ⟨_,_,_,_,_,_,rfl⟩ := FieldTree.violated_iff.mp inner
    exact .inside

theorem FieldTree.Violated.behind_name {fields : List Field} {violation : Violation}
    (wrong : FieldTree.Violated fields violation) :
    Violation.Precedes ⟨[],.blankName⟩ violation := by
  obtain ⟨_,_,_,_,_,_,rfl⟩ := FieldTree.violated_iff.mp wrong
  exact .name (by simp [Violation.after])

-- The names that are known are those of the fields in front.
theorem checkSiblings_cons {path : Text} {position : Nat} {seen : List Text} {field : Field}
    {rest : List Field} :
    checkSiblings path position seen (field :: rest) =
      inTurn
        (inTurn (checkField (siblingPath path position field.name) true field)
          (if seen.contains field.name then
            violation (.repeatedName field.name) (siblingPath path position field.name)
          else .ok ()))
        (checkSiblings path (position + 1) (field.name :: seen) rest) := by
  rw [checkSiblings]
  cases checkField (siblingPath path position field.name) true field with
  | error error => rfl
  | ok _ =>
    dsimp only [inTurn]
    split <;> rfl

theorem checkSiblings_reports (path : Text) (front : List Field) {fields : List Field}
    (each : ∀ field ∈ fields, ∀ path named,
      Reports path (field.Violated named) (checkField path named field)) :
    Reports path (FieldTree.ViolatedBehind front fields)
      (checkSiblings path front.length (front.map (·.name)).reverse fields) := by
  induction fields generalizing front with
  | nil =>
    rintro violation ⟨between,field,rest,split,_⟩
    simp at split
  | cons field rest ih =>
    have own := each field List.mem_cons_self (siblingPath path front.length field.name) true
    have repetition := reports_guard (siblingPath path front.length field.name)
      (field.name ∈ front.map (·.name)) (.repeatedName field.name)
    have here := own.andThen repetition (by
      rintro before after wrong ⟨_,rfl⟩
      exact wrong.before_repeated field.name)
    rw [← Turn.extend_beside] at here
    have later := ih (front ++ [field]) fun other member =>
      each other (List.mem_cons_of_mem _ member)
    have whole := (here.after _).andThen later (by
      rintro before after ⟨inner,_,rfl⟩ ⟨between,other,_,_,behind,_,rfl⟩
      exact .beside (by simp))
    have known : (front.map (·.name)).reverse.contains field.name = true ↔
        field.name ∈ front.map (·.name) := by simp
    have names : ((front ++ [field]).map (·.name)).reverse =
        field.name :: (front.map (·.name)).reverse := by simp
    have length : (front ++ [field]).length = front.length + 1 := by simp
    rw [Turn.extend_beside,names,length] at whole
    rw [checkSiblings_cons]
    simp only [known]
    exact whole.congr fun violation => FieldTree.violatedBehind_cons

theorem checkField_reports (field : Field) :
    ∀ path named, Reports path (field.Violated named) (checkField path named field) := by
  induction field using Field.induction with
  | string attributes format =>
    intro path named
    have own := checkName_reports path named attributes.name
    exact own.congr fun violation => Field.violated_iff.trans (iff_of_eq (or_false _))
  | number attributes =>
    intro path named
    have own := checkName_reports path named attributes.name
    exact own.congr fun violation => Field.violated_iff.trans (iff_of_eq (or_false _))
  | boolean attributes =>
    intro path named
    have own := checkName_reports path named attributes.name
    exact own.congr fun violation => Field.violated_iff.trans (iff_of_eq (or_false _))
  | bare attributes =>
    intro path named
    have own := checkName_reports path named attributes.name
    have whole := own.andThen (reports_violation path .missingItems) (by
      rintro before after ⟨_,rfl⟩ rfl
      exact .name (by simp))
    exact whole.congr fun violation => Field.violated_iff
  | array attributes item inner =>
    intro path named
    have own := checkName_reports path named attributes.name
    have inside := Reports.after .items (inner (itemsPath path) false)
    have whole := own.andThen inside (by
      rintro before after ⟨_,rfl⟩ ⟨_,_,rfl⟩
      exact .name (by simp [Violation.after]))
    exact whole.congr fun violation => Field.violated_iff
  | object attributes properties inner =>
    intro path named
    have own := checkName_reports path named attributes.name
    have members := (checkSiblings_reports path [] inner).congr
      fun violation => FieldTree.violated_iff
    have whole := own.andThen members (by
      rintro before after ⟨_,rfl⟩ wrong
      exact wrong.behind_name)
    exact whole.congr fun violation => Field.violated_iff

theorem FieldTree.check_reports (tree : FieldTree) (path : Text) :
    Reports path (FieldTree.Violated tree) (tree.check path) := by
  have siblings := checkSiblings_reports path [] fun field (_ : field ∈ tree) =>
    checkField_reports field
  exact siblings.congr fun violation => FieldTree.violated_iff

theorem checkSiblings_append {path : Text} {position : Nat} {seen : List Text}
    {fields : List Field} {error : TreeError}
    (failed : checkSiblings path position seen fields = .error error) (later : List Field) :
    checkSiblings path position seen (fields ++ later) = .error error := by
  induction fields generalizing position seen with
  | nil => simp [checkSiblings] at failed
  | cons field rest ih =>
    rw [List.cons_append,checkSiblings_cons]
    rw [checkSiblings_cons] at failed
    cases here : inTurn (checkField (siblingPath path position field.name) true field)
        (if seen.contains field.name then
          violation (.repeatedName field.name) (siblingPath path position field.name)
        else .ok ()) with
    | error found =>
      rw [here] at failed
      exact failed
    | ok _ =>
      rw [here] at failed
      exact ih failed

theorem FieldTree.check_first (tree : FieldTree) (path : Text) (unsound : ¬ tree.WellFormed) :
    ∃ first, Violation.Leads (FieldTree.Violated tree) first ∧
      (∀ other, Violation.Leads (FieldTree.Violated tree) other → other = first) ∧
        tree.check path = .error (first.error path) ∧
          ∀ later : List Field, FieldTree.check (tree ++ later) path = .error (first.error path) := by
  have reports := check_reports tree path
  cases found : tree.check path with
  | ok _ => exact absurd (check_passes.mp found) unsound
  | error error =>
    rw [found] at reports
    obtain ⟨first,leads,rfl⟩ := reports
    exact ⟨first,leads,fun other => leads.unique,rfl,checkSiblings_append found⟩

def crowded : FieldTree :=
  [.string ⟨" id",true,none,[]⟩ none,
    .object ⟨" seller ",true,none,[]⟩
      [.array ⟨"lines",true,none,[]⟩
        (some (.object ⟨"",true,none,[]⟩
          [.number ⟨"quantity",true,none,[]⟩,.boolean ⟨" \u3000",true,none,[]⟩]))],
    .number ⟨" id",true,none,[]⟩,
    .array ⟨"tags",true,none,[]⟩ none]

theorem crowded_first :
    ¬ crowded.WellFormed ∧
      crowded.check "form" = .error ⟨.blankName,some "form.seller.lines.items[1]"⟩ ∧
        ∃ first, Violation.Leads (FieldTree.Violated crowded) first ∧
          first.error "form" = ⟨.blankName,some "form.seller.lines.items[1]"⟩ := by
  have unsound : ¬ crowded.WellFormed := by decide +kernel
  have reported : crowded.check "form" = .error ⟨.blankName,some "form.seller.lines.items[1]"⟩ := by
    decide +kernel
  obtain ⟨first,leads,_,found,_⟩ := FieldTree.check_first crowded "form" unsound
  exact ⟨unsound,reported,first,leads,Except.error.inj (found.symm.trans reported)⟩

end ExtractionSchema
