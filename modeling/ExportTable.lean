import ExportTable.Interface.Json
import ExportTable.Main
import ExportTable.Proofs.CSource.LineEnds
import ExportTable.Proofs.Capsule.ForeignCalls
import ExportTable.Proofs.Capsule.Imports
import ExportTable.Proofs.Capsule.LastWrites
import ExportTable.Proofs.CommandLine.Previews
import ExportTable.Proofs.Configuration.Resolution
import ExportTable.Proofs.Extraction.Appending
import ExportTable.Proofs.Extraction.Items
import ExportTable.Proofs.Extraction.NearMatches
import ExportTable.Proofs.Extraction.ParameterLists
import ExportTable.Proofs.Extraction.Reemission
import ExportTable.Proofs.Extraction.Rendering
import ExportTable.Proofs.Extraction.Symbols
import ExportTable.Proofs.Info.PythonLiterals
import ExportTable.Proofs.Interface.Documentation
import ExportTable.Proofs.Interface.Histories
import ExportTable.Proofs.Interface.KeyLiteral
import ExportTable.Proofs.Interface.MacroText
import ExportTable.Proofs.Interface.SlotAgreement
import ExportTable.Proofs.Opcode.Spellings
import ExportTable.Proofs.Operation.SupportedTypes
import ExportTable.Proofs.Recipe.Repetition
import ExportTable.Proofs.Recipe.Tracking
import ExportTable.Proofs.Version.Search
import ExportTable.Proofs.Version.Tags
