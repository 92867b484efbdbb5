import JsonRecords.Main
import JsonRecords.Proofs.CallContexts
import JsonRecords.Proofs.CompilerLife
import JsonRecords.Proofs.DirectBinding
import JsonRecords.Proofs.EqualBinding
import JsonRecords.Proofs.FieldPolicies
import JsonRecords.Proofs.FileNames
import JsonRecords.Proofs.HiddenData
import JsonRecords.Proofs.LoadedDocuments
import JsonRecords.Proofs.NormalPointers
import JsonRecords.Proofs.Rebinding
import JsonRecords.Proofs.Refactoring
import JsonRecords.Proofs.SeveralDocuments
import JsonRecords.Proofs.SpelledPaths
import JsonRecords.Proofs.SummaryBinding
import JsonRecords.Proofs.Termination
import JsonRecords.Proofs.TypeKeywords
import JsonRecords.Proofs.WholeFiles
