import Datalogger.Rehearsal
import Datalogger.Main
import Datalogger.Proofs.Outcome
import Datalogger.Proofs.Statement.Every
import Datalogger.Proofs.Text.LineBreaks
import Datalogger.Proofs.Declarations
import Datalogger.Proofs.Statement.Layout
import Datalogger.Proofs.Assembly
import Datalogger.Proofs.DeclarationSection
import Datalogger.Proofs.DependencyNames
import Datalogger.Proofs.Blocks
import Datalogger.Proofs.Statement.Nesting
import Datalogger.Proofs.Design
import Datalogger.Proofs.Instance
import Datalogger.Proofs.Text.Bytes
import Datalogger.Proofs.Gathering
import Datalogger.Proofs.TableMerge
import Datalogger.Proofs.Instruments.Conventions
import Datalogger.Proofs.Instruments.Weather
import Datalogger.Proofs.Instruments.Site
import Datalogger.Proofs.Instruments.Water
import Datalogger.Proofs.Instruments.Wind
import Datalogger.Proofs.Instruments.Power
import Datalogger.Proofs.Instruments.Soil
import Datalogger.Proofs.Instruments.Builtin
import Datalogger.Proofs.Progress
import Datalogger.Proofs.TableCalls
import Datalogger.Proofs.Reordering
import Datalogger.Proofs.Sections
import Datalogger.Proofs.ProgramBody
import Datalogger.Proofs.ProgramText
import Datalogger.Proofs.Comments
import Datalogger.Proofs.MergeOutcome
import Datalogger.Proofs.Instruments.Requirements
import Datalogger.Proofs.Text.Rewriting
import Datalogger.Proofs.Text.Words
import Datalogger.Proofs.Text.Replacement
import Datalogger.Proofs.Statement.Map
import Datalogger.Proofs.Inert
import Datalogger.Proofs.Isolation
import Datalogger.Proofs.Instruments.Isolation
import Datalogger.Proofs.Instruments.Shapes
import Datalogger.Proofs.Views
import Datalogger.Proofs.Placeholders
import Datalogger.Proofs.Suffixes
import Datalogger.Proofs.Columns
import Datalogger.Proofs.Data.NormalForm
import Datalogger.Proofs.Exchange.Records
import Datalogger.Proofs.Exchange.RoundTrip
import Datalogger.Proofs.NameCheck
import Datalogger.Proofs.SuffixDistinctness
import Datalogger.Proofs.WiringOverrides
import Datalogger.Proofs.ResolutionOutcome
import Datalogger.Proofs.SequenceGrouping
import Datalogger.Proofs.DeclarationCheck
import Datalogger.Proofs.Renaming
import Datalogger.Proofs.Statement.Alignment
import Datalogger.Proofs.Numerals
import Datalogger.Proofs.TerminalSpellings
import Datalogger.Proofs.Instruments.Attribution
import Datalogger.Proofs.Precedence
import Datalogger.Proofs.Decimal.Magnitude
import Datalogger.Proofs.Data.JsonTexts
import Datalogger.Proofs.Parameters
import Datalogger.Proofs.Text.Indentation
import Datalogger.Proofs.BodyLines
