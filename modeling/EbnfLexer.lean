import EbnfLexer.Main
import EbnfLexer.Proofs.Scan.Literal
import EbnfLexer.Proofs.Scan.Segment
import EbnfLexer.Proofs.Scan.Pass
import EbnfLexer.Proofs.Scan.Columns
import EbnfLexer.Proofs.Run
import EbnfLexer.Proofs.Reprint
import EbnfLexer.Proofs.Conservation
import EbnfLexer.Proofs.WordChain
import EbnfLexer.Proofs.Stream
import EbnfLexer.Proofs.Positions
import EbnfLexer.Proofs.Session
import EbnfLexer.Proofs.Json.Reads
import EbnfLexer.Proofs.Json.Parts
import EbnfLexer.Proofs.TokenJson
import EbnfLexer.Proofs.Relexing
import EbnfLexer.Proofs.QuotePairs
import EbnfLexer.Proofs.LineBreaks
import EbnfLexer.Proofs.Spaces
import EbnfLexer.Proofs.Listing
import EbnfLexer.Proofs.Files.Lookup
import EbnfLexer.Proofs.Outcome
import EbnfLexer.Proofs.TrailingSpaces
import EbnfLexer.Proofs.LineEnds
import EbnfLexer.Proofs.Json.Grammar
import EbnfLexer.Proofs.Json.Members
import EbnfLexer.Proofs.SettingsFile
import EbnfLexer.Proofs.SameOutput
import EbnfLexer.Proofs.MachineWords
import EbnfLexer.Proofs.Coherence
