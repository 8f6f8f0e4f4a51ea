import ExtractionSchema.Edit.Session
import ExtractionSchema.Service
import ExtractionSchema.Proofs.Entries
import ExtractionSchema.Proofs.Checker
import ExtractionSchema.Proofs.Fragment
import ExtractionSchema.Proofs.Validation
import ExtractionSchema.Proofs.Meaning
import ExtractionSchema.Proofs.PlainJson
import ExtractionSchema.Proofs.PlainSchemas
import ExtractionSchema.Proofs.SchemaTexts
import ExtractionSchema.Proofs.Transmission
import ExtractionSchema.Proofs.QuotedTexts
import ExtractionSchema.Proofs.ReadBack
import ExtractionSchema.Proofs.NormalForm
import ExtractionSchema.Proofs.Recovery
import ExtractionSchema.Proofs.Merging
import ExtractionSchema.Proofs.Verdicts
import ExtractionSchema.Proofs.FieldReading
import ExtractionSchema.Proofs.Payloads
import ExtractionSchema.Proofs.Places
import ExtractionSchema.Proofs.EditSteps
import ExtractionSchema.Proofs.EditedTrees
import ExtractionSchema.Proofs.Answers
import ExtractionSchema.Proofs.EditFailures
import ExtractionSchema.Proofs.Submissions
import ExtractionSchema.Proofs.Compilation
import ExtractionSchema.Proofs.FirstViolation
import ExtractionSchema.Proofs.SubmittedNames
import ExtractionSchema.Proofs.Visits
import ExtractionSchema.Proofs.FirstFault
import ExtractionSchema.Proofs.Attempts
import ExtractionSchema.Proofs.RemoteFailures
import ExtractionSchema.Proofs.ClosedSchemas
import ExtractionSchema.Proofs.PlainPayloads
import ExtractionSchema.Proofs.ReadObjects
import ExtractionSchema.Proofs.CompileRoutes
import ExtractionSchema.Proofs.Dispatches
import ExtractionSchema.Proofs.EditLoop
import ExtractionSchema.Proofs.TypeMaps
import ExtractionSchema.Proofs.Grammar
import ExtractionSchema.Proofs.Respelling
import ExtractionSchema.Proofs.InnerFaults
import ExtractionSchema.Proofs.UnionByName
import ExtractionSchema.Proofs.ApplicableEdits
import ExtractionSchema.Proofs.EditScopes
import ExtractionSchema.Proofs.IndependentEdits
import ExtractionSchema.Proofs.AttributeChanges
import ExtractionSchema.Proofs.FieldRuns
import ExtractionSchema.Proofs.ListEdits
import ExtractionSchema.Proofs.UndoneEdits
