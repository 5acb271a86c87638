import DocLint.Block
import DocLint.Call
import DocLint.Capitalization
import DocLint.Check
import DocLint.Checker
import DocLint.Config
import DocLint.Config.Dump
import DocLint.Config.Load
import DocLint.Config.Reading
import DocLint.Config.Value
import DocLint.Diagnostic
import DocLint.Fault
import DocLint.Fixing
import DocLint.Kind
import DocLint.ParamText
import DocLint.Placement
import DocLint.Report
import DocLint.Review
import DocLint.Rule.Description
import DocLint.Rule.FileTags
import DocLint.Rule.FunctionTags
import DocLint.Rule.Layout
import DocLint.Rule.Params
import DocLint.Rule.TagTable
import DocLint.Signature
import DocLint.Site
import DocLint.Source
import DocLint.Text.Blank
import DocLint.Text.Case
import DocLint.Text.CodeSet
import DocLint.Text.Digit
import DocLint.Text.Letter
import DocLint.Text.Numeral
import DocLint.Text.Printable
import DocLint.Text.Quoted
import DocLint.Text.Search
import DocLint.Text.Template
import DocLint.Text.Word
import DocLint.Token
import DocLint.Violation
import DocLint.Proofs.CommentOwner
import DocLint.Proofs.Wording
import DocLint.Proofs.Checks
import DocLint.Proofs.Filing
import DocLint.Proofs.Auditing
import DocLint.Proofs.BlockReading
import DocLint.Proofs.Correspondence
import DocLint.Proofs.RuleOutcome
import DocLint.Proofs.InheritMarker
import DocLint.Proofs.BlockRewriting
import DocLint.Proofs.Applying
import DocLint.Proofs.SpacingEdits
import DocLint.Proofs.Inspection
import DocLint.Proofs.OnePass
import DocLint.Proofs.Resumption
import DocLint.Proofs.WellFormed
import DocLint.Proofs.PartialRepair
import DocLint.Proofs.ReportHistory
import DocLint.Proofs.ExactRepair
import DocLint.Proofs.References
import DocLint.Proofs.FaultFree
import DocLint.Proofs.EditScope
import DocLint.Proofs.OwnComment
import DocLint.Proofs.Sketch
import DocLint.Proofs.DeclaredParameters
import DocLint.Proofs.WrittenComment
import DocLint.Proofs.SilentFunction
import DocLint.Proofs.ParameterMatching
import DocLint.Proofs.Findings
import DocLint.Proofs.ReviewFindings
import DocLint.Proofs.HaltingDiscipline
import DocLint.Proofs.OwnPlaces
import DocLint.Proofs.Surroundings
import DocLint.Proofs.Sections
import DocLint.Proofs.FixingFlag
import DocLint.Proofs.Leniency
import DocLint.Proofs.Shift
import DocLint.Proofs.ShiftedComment
import DocLint.Proofs.ShiftedRules
import DocLint.Proofs.LeadingBlanks
import DocLint.Proofs.TableWalk
import DocLint.Proofs.TagOrder
import DocLint.Proofs.OrderedTable
import DocLint.Proofs.TagSegments
import DocLint.Proofs.DescriptionRuns
import DocLint.Proofs.UniqueReading
import DocLint.Proofs.ParameterReports
import DocLint.Proofs.SimultaneousEdits
import DocLint.Proofs.TrailingComments
import DocLint.Proofs.SignatureParts
import DocLint.Proofs.SpacingRepairs
import DocLint.Proofs.CircularBrackets
import DocLint.Proofs.MirroredSearch
import DocLint.Proofs.ConfigRoundTrip
