import ExtractionSchema.Proofs.EditFailures
import ExtractionSchema.Proofs.Places

namespace ExtractionSchema

namespace FieldTree

variable {tree : FieldTree}

theorem compile_error_iff {error : TreeError} :
    tree.compile = .error error ↔ tree.check "" = .error error := by
  cases verdict : tree.check "" with
  | error found => simp [compile,verdict]
  | ok _ =>
    obtain ⟨members,compiled⟩ := compile_passes (check_passes.mp verdict)
    simp [compiled]

theorem WellFormed.compiled (sound : tree.WellFormed) {standing : Standing} {field : Field}
    (held : tree.Holds standing field) : ∃ schema, Schema.fragment field = .ok schema :=
  Schema.fragment_exists (sound.holds held).1

end FieldTree

-- An array of arrays of objects, and a request to add it to an empty tree.
def rows : Field :=
  .array ⟨"rows",true,none,[]⟩ (some (.array ⟨"",true,none,[]⟩
    (some (.object ⟨"",true,none,[]⟩ [.number ⟨"total",true,none,[]⟩]))))

def rowsJson : Json :=
  .obj [("name",.str "rows"),("type",.str "array"),
    ("items",.obj [("type",.str "array"),
      ("items",.obj [("type",.str "object"),
        ("properties",.arr [.obj [("name",.str "total"),("type",.str "number")]])])])]

def rowsBody : Body :=
  .raw ("\x7b\"edit\":\x7b\"op\":\"add_field\",\"field\":\x7b\"name\":\"rows\",\"type\":\"array\","
    ++ "\"items\":\x7b\"type\":\"array\",\"items\":\x7b\"type\":\"object\",\"properties\":"
    ++ "[\x7b\"name\":\"total\",\"type\":\"number\"\x7d]\x7d\x7d\x7d\x7d\x7d") "application/json"

def rowsRequest : Json := .obj [("edit",.obj [("op",.str "add_field"),("field",rowsJson)])]

def addingRows : FieldEdit := ⟨.addField,none,some rows,none,none,[],none,none,none,none,none⟩

-- A field that is called by one half of a pair.
def half : Text := .ofCodes [.high 0]

def halfNamed : FieldTree := [.string ⟨half,true,none,[]⟩ none]

def halfBody : Body :=
  .raw "\x7b\"edit\":\x7b\"op\":\"add_field\",\"field\":\x7b\"name\":\"\\ud800\",\"type\":\"string\"\x7d\x7d\x7d"
    "application/json"

def halfRequest : Json :=
  .obj [("edit",.obj [("op",.str "add_field"),("field",.obj [("name",.str half),("type",.str "string")])])]

def addingHalf : FieldEdit :=
  ⟨.addField,none,some (.string ⟨half,true,none,[]⟩ none),none,none,[],none,none,none,none,none⟩

end ExtractionSchema
