import Unsugar.Main
import Unsugar.Program.Files
import Unsugar.Eval.Basic
import Unsugar.Proofs.Except
import Unsugar.Proofs.Desugar.Label
import Unsugar.Proofs.Desugar.Outcome
import Unsugar.Proofs.Desugar.Nodes
import Unsugar.Proofs.Desugar.Normal
import Unsugar.Proofs.Desugar.Transform
import Unsugar.Proofs.Desugar.Conservation
import Unsugar.Proofs.Desugar.Offence
import Unsugar.Proofs.Desugar.Session
import Unsugar.Proofs.Desugar.Matching
import Unsugar.Proofs.Json.Finite
import Unsugar.Proofs.Eval.Container
import Unsugar.Proofs.Eval.Meaning
import Unsugar.Proofs.Eval.Frame
import Unsugar.Proofs.Eval.Order
import Unsugar.Proofs.Interchange.Node
import Unsugar.Proofs.Interchange.Schema
import Unsugar.Proofs.Interchange.WellFormed
import Unsugar.Proofs.Interchange.Faithful
import Unsugar.Proofs.Interchange.RoundTrip
import Unsugar.Proofs.Interchange.Culprit
import Unsugar.Proofs.Interchange.Written
import Unsugar.Proofs.Interchange.Text
import Unsugar.Proofs.Program.Files
import Unsugar.Proofs.Program.CommandLine
import Unsugar.Proofs.Program.Run
import Unsugar.Proofs.Json.Everywhere
import Unsugar.Proofs.Json.Scalars
import Unsugar.Proofs.Json.Text
import Unsugar.Proofs.Json.Order
import Unsugar.Proofs.Desugar.Fusion
import Unsugar.Proofs.Eval.Repeat
import Unsugar.Proofs.Desugar.Roles
import Unsugar.Proofs.Listing.Paragraphs
import Unsugar.Proofs.Program.History
import Unsugar.Proofs.Report.Labels
import Unsugar.Proofs.Listing.Operators
import Unsugar.Proofs.Assoc
import Unsugar.Proofs.Eval.Integers
import Unsugar.Proofs.Text.ByteOrder
import Unsugar.Proofs.Eval.Dict
import Unsugar.Proofs.Listing.Atoms
