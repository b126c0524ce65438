import BlockCalc.Main
import BlockCalc.Proofs.Checked
import BlockCalc.Proofs.Checked.Nodes
import BlockCalc.Proofs.DefinedBeforeUse
import BlockCalc.Proofs.Execution
import BlockCalc.Proofs.Grammar
import BlockCalc.Proofs.Grammar.Agenda
import BlockCalc.Proofs.Number.Numeral
import BlockCalc.Proofs.Number.Rounding
import BlockCalc.Proofs.Parsing
import BlockCalc.Proofs.Parsing.Outcome
import BlockCalc.Proofs.Parsing.Script
import BlockCalc.Proofs.RoundTrip
import BlockCalc.Proofs.Session.History
import BlockCalc.Proofs.Token.Feed
import BlockCalc.Proofs.Token.Reading
import BlockCalc.Proofs.Token.Segmentation
import BlockCalc.Proofs.Token.Spelling
import BlockCalc.Proofs.Token.StreamState
import BlockCalc.Proofs.Tree.Likeness
import BlockCalc.Proofs.Tree.Spelling
import BlockCalc.Proofs.Tree.Tokens
import BlockCalc.Tree.Build
import BlockCalc.Proofs.Layout
import BlockCalc.Proofs.Enclosed
import BlockCalc.Proofs.Command.Endings
import BlockCalc.Proofs.Command.Agreement
import BlockCalc.Proofs.Parsing.Depth
import BlockCalc.Proofs.Token.Brackets
import BlockCalc.Proofs.Grammar.Operators
import BlockCalc.Proofs.Precedence
import BlockCalc.Proofs.Execution.Flat
import BlockCalc.Proofs.Tree.Blocks
import BlockCalc.Proofs.Evaluation.Ends
import BlockCalc.Proofs.Execution.Exposed
import BlockCalc.Proofs.Number.Written
import BlockCalc.Proofs.Tree.Outline
import BlockCalc.Proofs.Tree.Identity
import BlockCalc.Proofs.Location
import BlockCalc.Proofs.Token.Concatenation
import BlockCalc.Proofs.Token.Calls
import BlockCalc.Proofs.Settings
import BlockCalc.Proofs.Parsing.Limit
import BlockCalc.Proofs.Parsing.Nested
import BlockCalc.Proofs.DepthGuards
import BlockCalc.Proofs.Formats
