import TextTemplate.NumberPattern.Printer
import TextTemplate.Report
import TextTemplate.Syntax.Scanner
import TextTemplate.Workspace
import TextTemplate.Proofs.SessionHistory
import TextTemplate.Proofs.EmissionMeaning
import TextTemplate.Proofs.CanonicalText
import TextTemplate.Proofs.ScannerAnswers
import TextTemplate.Proofs.SourcePieces
import TextTemplate.Proofs.PlanRelocation
import TextTemplate.Proofs.SourcePlaces
import TextTemplate.Proofs.ResolvedSegments
import TextTemplate.Proofs.Concatenation
import TextTemplate.Proofs.CacheHistory
import TextTemplate.Proofs.GapInsertion
import TextTemplate.Proofs.CacheGrowth
import TextTemplate.Proofs.EmissionAgreement
import TextTemplate.Proofs.ReadSet
import TextTemplate.Proofs.ErrorPlaces
import TextTemplate.Proofs.CollectedNames
import TextTemplate.Proofs.ViablePrefixes
import TextTemplate.Proofs.NumberPatternGrammar
import TextTemplate.Proofs.CallRegistry
import TextTemplate.Proofs.TokenPartition
import TextTemplate.Proofs.TemplatePlaces
import TextTemplate.Proofs.TemplateHistory
import TextTemplate.Proofs.NumberFields
import TextTemplate.Proofs.SignRule
import TextTemplate.Proofs.NumeralGrammar
import TextTemplate.Proofs.SignificantDigits
import TextTemplate.Proofs.GroupingAndTrimming
import TextTemplate.Proofs.TextWidths
import TextTemplate.Proofs.AbsentValues
import TextTemplate.Proofs.ReportMarks
import TextTemplate.Proofs.ParameterNames
