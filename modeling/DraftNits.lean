import DraftNits.Document.Json
import DraftNits.Json.Reader
import DraftNits.Main
import DraftNits.Proofs.CitedReferences
import DraftNits.Proofs.Conformance
import DraftNits.Proofs.CrossReferences
import DraftNits.Proofs.DateParts
import DraftNits.Proofs.DayCount
import DraftNits.Proofs.DocumentData
import DraftNits.Proofs.EndToEnd
import DraftNits.Proofs.FieldSpacing
import DraftNits.Proofs.Headings
import DraftNits.Proofs.LenientRuns
import DraftNits.Proofs.NestedSections
import DraftNits.Proofs.OneLineReports
import DraftNits.Proofs.PageFurniture
import DraftNits.Proofs.Pages
import DraftNits.Proofs.Recognition
import DraftNits.Proofs.RecoveredLists
import DraftNits.Proofs.ReferenceTargets
import DraftNits.Proofs.ReportData
import DraftNits.Proofs.ReportLines
import DraftNits.Proofs.RfcNumbers
import DraftNits.Proofs.SubmissionMode
import DraftNits.Proofs.LineEndings
import DraftNits.Proofs.RuleListing
import DraftNits.Proofs.ListingTable
import DraftNits.Proofs.TitleBlock
import DraftNits.Proofs.TextWithoutCase
import DraftNits.Proofs.SectionSearch
