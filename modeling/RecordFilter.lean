import RecordFilter.Files.Tree
import RecordFilter.Main
import RecordFilter.Proofs.AlignedTables
import RecordFilter.Proofs.Appending
import RecordFilter.Proofs.Complements
import RecordFilter.Proofs.Composition
import RecordFilter.Proofs.ConfigText
import RecordFilter.Proofs.Confinement
import RecordFilter.Proofs.DatasetPaths
import RecordFilter.Proofs.ExclusiveFlags
import RecordFilter.Proofs.FirstFault
import RecordFilter.Proofs.LexicalFaults
import RecordFilter.Proofs.ListingRuns
import RecordFilter.Proofs.LiteralValues
import RecordFilter.Proofs.Meaning
import RecordFilter.Proofs.MissingValues
import RecordFilter.Proofs.Pages
import RecordFilter.Proofs.Previews
import RecordFilter.Proofs.PrintedPredicate
import RecordFilter.Proofs.QueryRuns
import RecordFilter.Proofs.QuotedText
import RecordFilter.Proofs.Registrations
import RecordFilter.Proofs.Spelling
import RecordFilter.Proofs.StoredConfigs
import RecordFilter.Proofs.StoredDatasets
import RecordFilter.Proofs.StoredRecords
import RecordFilter.Proofs.StyledTables
import RecordFilter.Proofs.Suggestions
import RecordFilter.Proofs.SyntaxErrors
import RecordFilter.Proofs.Tiling
import RecordFilter.Proofs.TomlText
import RecordFilter.Proofs.Typing
import RecordFilter.Store
