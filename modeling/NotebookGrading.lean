import NotebookGrading.Environment.Basic
import NotebookGrading.Gradebook.Automatic
import NotebookGrading.Notebook.Agreement
import NotebookGrading.Pipeline.Basic
import NotebookGrading.Policy.Submission
import NotebookGrading.Proofs.Tables
import NotebookGrading.Proofs.Text.Parts
import NotebookGrading.Proofs.Gradebook.Entries
import NotebookGrading.Proofs.Gradebook.Recording
import NotebookGrading.Proofs.Gradebook.ManualEntries
import NotebookGrading.Proofs.Gradebook.RecordedCells
import NotebookGrading.Proofs.Gradebook.Automation
import NotebookGrading.Proofs.Notebook.LimitedScores
import NotebookGrading.Proofs.Json.Numerals
import NotebookGrading.Proofs.Json.Quoted
import NotebookGrading.Proofs.Json.Tokens
import NotebookGrading.Proofs.Json.Reader
import NotebookGrading.Proofs.Gradebook.Documents
import NotebookGrading.Proofs.Storage.FileTrees
import NotebookGrading.Proofs.Storage.Replacement
import NotebookGrading.Proofs.Double.FiniteArithmetic
import NotebookGrading.Proofs.Json.FiniteNumbers
import NotebookGrading.Proofs.Json.Reads
import NotebookGrading.Proofs.Gradebook.FiniteDoubles
import NotebookGrading.Proofs.Gradebook.Reopening
import NotebookGrading.Proofs.Double.Order
import NotebookGrading.Proofs.Policy.LateScaling
import NotebookGrading.Proofs.Policy.Recalculation
import NotebookGrading.Proofs.Gradebook.Histories
import NotebookGrading.Proofs.Gradebook.RecordedNotebooks
import NotebookGrading.Proofs.Storage.Paths
import NotebookGrading.Proofs.Storage.Files
import NotebookGrading.Proofs.Storage.TemporaryNames
import NotebookGrading.Proofs.Storage.Phases
import NotebookGrading.Proofs.Storage.Shapes
import NotebookGrading.Proofs.Storage.Repetition
import NotebookGrading.Proofs.Gradebook.Transactions
import NotebookGrading.Proofs.Pipeline.SavedScores
import NotebookGrading.Proofs.Notebook.GradeIds
import NotebookGrading.Proofs.Pipeline.GradeIds
import NotebookGrading.Proofs.Json.Values
import NotebookGrading.Proofs.Json.OpenRecords
import NotebookGrading.Proofs.Json.WholeNumbers
import NotebookGrading.Proofs.Json.Members
import NotebookGrading.Proofs.Notebook.CellDocuments
import NotebookGrading.Proofs.Notebook.Documents
import NotebookGrading.Proofs.Notebook.UnknownKeys
import NotebookGrading.Proofs.Notebook.SettledCells
import NotebookGrading.Proofs.Gradebook.RecordedParts
import NotebookGrading.Proofs.Gradebook.RecordedBooks
import NotebookGrading.Proofs.Pipeline.Runs
import NotebookGrading.Proofs.Pipeline.Regrading
import NotebookGrading.Proofs.Pipeline.Presentation
import NotebookGrading.Proofs.Pipeline.RegisteredPoints
import NotebookGrading.Proofs.Notebook.AwardedPoints
import NotebookGrading.Proofs.Gradebook.AutomaticScores
import NotebookGrading.Proofs.Gradebook.SeparateHistories
import NotebookGrading.Proofs.Gradebook.SeparateNotebooks
import NotebookGrading.Proofs.Notebook.StampedCells
import NotebookGrading.Proofs.Json.Replacements
import NotebookGrading.Proofs.Notebook.LenientFields
import NotebookGrading.Proofs.Double.WrittenForms
import NotebookGrading.Proofs.Notebook.ChecksumTexts
import NotebookGrading.Proofs.Double.ExactValues
import NotebookGrading.Proofs.Time.WrittenPeriods
import NotebookGrading.Proofs.Double.Signs
import NotebookGrading.Proofs.Time.PeriodTexts
import NotebookGrading.Proofs.Time.SignedPeriods
import NotebookGrading.Proofs.Double.Decimals
import NotebookGrading.Proofs.Time.CountedComponents
import NotebookGrading.Proofs.Policy.LateFaults
import NotebookGrading.Proofs.Notebook.DecidingOutputs
import NotebookGrading.Proofs.Gradebook.ExtractedScores
import NotebookGrading.Proofs.Gradebook.RearrangedNotebooks
import NotebookGrading.Proofs.Pipeline.AutomationConflicts
import NotebookGrading.Proofs.Notebook.RepeatedIds
import NotebookGrading.Proofs.Notebook.LimitedStreams
import NotebookGrading.Proofs.Notebook.CutMarkers
import NotebookGrading.Proofs.Notebook.MarkSchemeRegions
import NotebookGrading.Proofs.Notebook.MisplacedRegions
import NotebookGrading.Proofs.Json.Variants
import NotebookGrading.Proofs.Notebook.DocumentsInPieces
import NotebookGrading.Proofs.Notebook.TextsInPieces
import NotebookGrading.Proofs.Notebook.ShortenedTracebacks
