import DevicetreeHeader.Header.Sink
import DevicetreeHeader.Main
import DevicetreeHeader.Proofs.Document.Printing
import DevicetreeHeader.Proofs.Document.Restripping
import DevicetreeHeader.Proofs.Source.BlockSearch
import DevicetreeHeader.Proofs.Source.CommentDeletion
import DevicetreeHeader.Proofs.Source.CommentSeams
import DevicetreeHeader.Proofs.Document.CommentInsertion
import DevicetreeHeader.Proofs.Files.Writing
import DevicetreeHeader.Proofs.Program.Stages
import DevicetreeHeader.Proofs.Header.Grouping
import DevicetreeHeader.Proofs.Text.Lines
import DevicetreeHeader.Proofs.Header.MacroSegment
import DevicetreeHeader.Proofs.Header.Lines
import DevicetreeHeader.Proofs.Document.PropertyLines
import DevicetreeHeader.Proofs.Document.QuotedValue
import DevicetreeHeader.Proofs.Node.Concatenation
import DevicetreeHeader.Proofs.Source.Excerpts
import DevicetreeHeader.Proofs.Node.WellFormed
import DevicetreeHeader.Proofs.Header.Decoding
import DevicetreeHeader.Proofs.Files.Ancestors
import DevicetreeHeader.Proofs.Files.Walks
import DevicetreeHeader.Proofs.Options.Discovery
import DevicetreeHeader.Proofs.Source.NestedBlocks
import DevicetreeHeader.Proofs.Source.AssignmentScan
import DevicetreeHeader.Proofs.Source.AssignmentSearch
import DevicetreeHeader.Proofs.Source.AssignmentLayout
import DevicetreeHeader.Proofs.Program.Verbosity
import DevicetreeHeader.Proofs.Program.Outcome
import DevicetreeHeader.Proofs.Header.Writing
import DevicetreeHeader.Proofs.Node.Account
import DevicetreeHeader.Proofs.Header.Collisions
import DevicetreeHeader.Proofs.Header.Decoration
import DevicetreeHeader.Proofs.Value.DecimalCells
import DevicetreeHeader.Proofs.Value.Alike
import DevicetreeHeader.Proofs.Files.Reading
import DevicetreeHeader.Proofs.Files.SearchOrder
import DevicetreeHeader.Proofs.Options.Variables
import DevicetreeHeader.Proofs.Program.Settling
import DevicetreeHeader.Proofs.Program.Log
import DevicetreeHeader.Proofs.Options.ConfigFile
import DevicetreeHeader.Proofs.Program.ArgumentOrder
