import CardText.Main
import CardText.Disk.Tree
import CardText.Proofs.Grammar.Captures
import CardText.Proofs.Dispatch.Gating
import CardText.Proofs.Dispatch.Order
import CardText.Proofs.Dispatch.Append
import CardText.Proofs.Wording.NormalForm
import CardText.Proofs.Grammar.Refusals
import CardText.Proofs.Grammar.Wordings
import CardText.Proofs.Dataset.Grouping
import CardText.Proofs.Dataset.Loading
import CardText.Proofs.Generation.Batches
import CardText.Proofs.Generation.Outcome
import CardText.Proofs.Script.Layout
import CardText.Proofs.Script.Calls
import CardText.Proofs.Script.Arguments
import CardText.Proofs.Script.Replay
import CardText.Proofs.Text.Alphabet
import CardText.Proofs.Unit.Names
import CardText.Proofs.Text.Lines
import CardText.Proofs.Script.Indentation
import CardText.Proofs.Unit.Outline
import CardText.Proofs.Unit.Blocks
import CardText.Proofs.Coverage.Balance
import CardText.Proofs.Coverage.Aggregation
import CardText.Proofs.Generation.Combined
import CardText.Proofs.Script.Called
import CardText.Proofs.Unit.Procedures
import CardText.Proofs.Unit.LineCount
import CardText.Proofs.Dataset.Creatures
import CardText.Proofs.Dataset.CanonicalName
import CardText.Proofs.Generation.Paths
import CardText.Proofs.Generation.Ledgers
import CardText.Proofs.Wording.Variants
import CardText.Proofs.Grammar.Strikes
import CardText.Proofs.Grammar.WellFormed
import CardText.Proofs.Grammar.Counters
import CardText.Proofs.Unit.ProcedureNames
import CardText.Proofs.Script.Nesting
import CardText.Proofs.Coverage.Anonymity
import CardText.Proofs.Coverage.Grouping
import CardText.Proofs.Unit.StructNames
import CardText.Proofs.Dataset.Amounts
import CardText.Proofs.Cli.Spellings
import CardText.Proofs.Disk.Places
import CardText.Proofs.Disk.Writing
import CardText.Proofs.Unit.Resistances
import CardText.Proofs.Unit.FreeNames
