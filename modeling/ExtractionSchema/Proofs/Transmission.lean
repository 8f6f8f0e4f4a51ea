import ExtractionSchema.Proofs.Attempts
import ExtractionSchema.Proofs.PlainSchemas
import ExtractionSchema.Proofs.ReadBack
import ExtractionSchema.Proofs.SchemaTexts
import ExtractionSchema.Template

namespace ExtractionSchema

namespace Client

theorem attempt_posts {client : Client} {post : Post} {outcomes : Nat → Outcome} {left number : Nat} :
    (client.attempt post outcomes left number).posts ≠ [] ∧
      ∀ made ∈ (client.attempt post outcomes left number).posts, made = post := by
  obtain ⟨more,_,_,_,run⟩ := attempt_exact client outcomes left number
  rw [run]
  exact ⟨by simp,fun made member => List.eq_of_mem_replicate member⟩

theorem send_schema {client : Client} {document : Document} {types schema : Json}
    {outcomes : Nat → Outcome} :
    (client.send document types (some schema) outcomes).posts ≠ [] ∧
      ∀ post ∈ (client.send document types (some schema) outcomes).posts,
        post.schema = some (schema.write .compactAscii) := by
  refine ⟨attempt_posts.1,?_⟩
  intro post member
  rw [attempt_posts.2 post member]
  rfl

end Client

-- The texts that a tree gives to its schema.
def FieldTree.Mentions (tree : FieldTree) (text : Text) : Prop :=
  Field.Mentions (.object .initial tree) text

-- Whatever becomes of the posts, there is one at least.
theorem FieldTree.posted_canonical (tree : FieldTree) (sound : tree.WellFormed) :
    ∃ schema text, tree.compile = .ok schema ∧ tree.compileText = .ok text ∧
      ∀ (client : Client) (document : Document) (types : Json) (outcomes : Nat → Outcome),
        (client.send document types (some schema) outcomes).posts ≠ [] ∧
          ∀ post ∈ (client.send document types (some schema) outcomes).posts,
            post.schema = some text ↔
              ∀ written, tree.Mentions written → Text.isBasic written = true := by
  obtain ⟨schema,compiled,own,plain,written⟩ := compileText_exact sound
  refine ⟨schema,schema.write .compact,compiled,written,?_⟩
  intro client document types outcomes
  refine ⟨Client.send_schema.1,?_⟩
  intro post member
  rw [Client.send_schema.2 post member,Option.some.injEq]
  exact (Json.write_same_iff plain).trans (Schema.fragment_all (fun _ => id) sound.inside own)

theorem invoice_posted :
    FieldTree.WellFormed Template.invoiceFields ∧
      ∃ schema text, FieldTree.compile Template.invoiceFields = .ok schema ∧
        FieldTree.compileText Template.invoiceFields = .ok text ∧
        ∀ (client : Client) (document : Document) (types : Json) (outcomes : Nat → Outcome),
          (client.send document types (some schema) outcomes).posts ≠ [] ∧
            ∀ post ∈ (client.send document types (some schema) outcomes).posts,
              post.schema = some text ↔ ∀ written,
                FieldTree.Mentions Template.invoiceFields written → Text.isBasic written = true :=
  ⟨by decide,FieldTree.posted_canonical Template.invoiceFields (by decide)⟩

def accented : FieldTree := [.string ⟨"é",true,none,[]⟩ none]

theorem accented_posted :
    accented.WellFormed ∧
      ∃ schema text, accented.compile = .ok schema ∧ accented.compileText = .ok text ∧
        ∀ (client : Client) (document : Document) (types : Json) (outcomes : Nat → Outcome),
          (client.send document types (some schema) outcomes).posts ≠ [] ∧
            ∀ post ∈ (client.send document types (some schema) outcomes).posts,
              post.schema ≠ some text := by
  refine ⟨by decide,_,"\x7b\"type\":\"object\",\"properties\":\x7b\"é\":\x7b\"type\":\"string\"\x7d\x7d,"
    ++ "\"required\":[\"é\"],\"additionalProperties\":false\x7d",rfl,by decide,?_⟩
  intro client document types outcomes
  refine ⟨Client.send_schema.1,?_⟩
  intro post member
  rw [Client.send_schema.2 post member]
  -- What goes out has the six characters of a numeric escape in place of each of the two letters.
  decide

theorem typeMapJson_plain {types : Entries FieldType} (distinct : types.keys.Nodup) :
    (typeMapJson types).Plain := by
  refine .obj ?_ ?_
  · simpa [Entries.keys,Function.comp_def] using distinct
  · intro member written
    obtain ⟨⟨name,type⟩,_,rfl⟩ := List.mem_map.mp written
    exact .str type.name

theorem FieldTree.typeMap_plain {tree : FieldTree} (distinct : (tree.map (·.name)).Nodup) :
    (typeMapJson tree.typeMap).Plain := by
  apply typeMapJson_plain
  rw [typeMap_distinct distinct]
  simpa [Entries.keys,Function.comp_def] using distinct

-- Names and texts with all that is escaped in one of the texts or in both.
def spelled : FieldTree :=
  [.object ⟨"é",true,some "a \"quoted\" \\ line\n\x01",[]⟩
      [.string ⟨"😀",false,some "\x7f",["Ω","\t"]⟩ (some .date)],
    .array ⟨" ü ",false,none,[]⟩ (some (.array ⟨"",true,none,["\u2028"]⟩
      (some (.boolean ⟨"",true,some "",[]⟩))))]

end ExtractionSchema
