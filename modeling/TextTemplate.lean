import TextTemplate.Host.Stock
import TextTemplate.Log.Format
import TextTemplate.Log.Settings
import TextTemplate.Prompt.Load
import TextTemplate.Scope.Tree
import TextTemplate.Proofs.Number.Numeral
import TextTemplate.Proofs.Syntax.Lexeme
import TextTemplate.Proofs.Syntax.Printer
import TextTemplate.Proofs.Syntax.Grammar
import TextTemplate.Proofs.Syntax.Reading
import TextTemplate.Proofs.Syntax.Bracket
import TextTemplate.Proofs.Syntax.Expression
import TextTemplate.Proofs.Syntax.RoundTrip
import TextTemplate.Proofs.Syntax.Spelling
import TextTemplate.Proofs.Syntax.Respelling
import TextTemplate.Proofs.Eval.Indifferent
import TextTemplate.Proofs.Eval.Scoping
import TextTemplate.Proofs.Eval.Strict
import TextTemplate.Proofs.Matching.Memory
import TextTemplate.Proofs.Matching.Eval
import TextTemplate.Proofs.Matching.Operator
import TextTemplate.Proofs.Matching.Call
import TextTemplate.Proofs.Matching.Filter
import TextTemplate.Proofs.Matching.Scope
import TextTemplate.Proofs.Variables.Findings
import TextTemplate.Proofs.Variables.Survey
import TextTemplate.Proofs.Matching.Parallel
import TextTemplate.Proofs.Variables.Simulation
import TextTemplate.Proofs.Matching.Held
import TextTemplate.Proofs.Matching.Exchange
import TextTemplate.Proofs.Matching.Start
import TextTemplate.Proofs.Variables.Soundness
import TextTemplate.Proofs.Eval.Plain
import TextTemplate.Proofs.Eval.Answers
import TextTemplate.Proofs.Eval.Failures
import TextTemplate.Proofs.Prompt.History
import TextTemplate.Proofs.Prompt.Sharing
import TextTemplate.Proofs.Preset.Tree
import TextTemplate.Proofs.Eval.Reading
import TextTemplate.Proofs.Eval.Conversion
import TextTemplate.Proofs.Preset.Conversation
import TextTemplate.Proofs.Preset.Llama
import TextTemplate.Proofs.Preset.Format
import TextTemplate.Proofs.Syntax.Progress
import TextTemplate.Proofs.Syntax.Ending
import TextTemplate.Proofs.Syntax.Leaves
import TextTemplate.Proofs.Syntax.Accounts
import TextTemplate.Proofs.Source.Deletion
import TextTemplate.Proofs.Source.Untagged
import TextTemplate.Proofs.Value.Fields
import TextTemplate.Proofs.Scope.Bindings
import TextTemplate.Proofs.Eval.Refusal
import TextTemplate.Proofs.Prompt.Validation
import TextTemplate.Proofs.Eval.Arguments
import TextTemplate.Proofs.Variables.Guards
import TextTemplate.Proofs.Eval.Unbundled
import TextTemplate.Proofs.Eval.Lending
import TextTemplate.Proofs.Eval.Reaches
import TextTemplate.Proofs.Eval.Bundles
import TextTemplate.Proofs.Eval.Iteration
import TextTemplate.Proofs.Source.Mark
import TextTemplate.Proofs.Source.Quoted
import TextTemplate.Proofs.Syntax.Literal
import TextTemplate.Proofs.Syntax.Compact
import TextTemplate.Proofs.Syntax.Adjacent
import TextTemplate.Proofs.Syntax.Braces
import TextTemplate.Proofs.Syntax.HostLiteral
import TextTemplate.Proofs.Eval.Returning
import TextTemplate.Proofs.Eval.Copies
import TextTemplate.Proofs.Eval.Obstacle
import TextTemplate.Proofs.Eval.Boundary
import TextTemplate.Proofs.Value.Holding
import TextTemplate.Proofs.Value.Resemblance
import TextTemplate.Proofs.Scope.Trees
import TextTemplate.Proofs.Source.CommentLines
import TextTemplate.Proofs.Source.Thinning
import TextTemplate.Proofs.Value.Growth
import TextTemplate.Proofs.Eval.Works
import TextTemplate.Proofs.Eval.Stepwise
import TextTemplate.Proofs.Eval.Objects
import TextTemplate.Proofs.Source.Seams
import TextTemplate.Proofs.Source.Dashes
import TextTemplate.Proofs.Syntax.Layout
import TextTemplate.Proofs.Syntax.Lookahead
import TextTemplate.Proofs.Syntax.Appending
import TextTemplate.Proofs.Eval.Composition
import TextTemplate.Proofs.Syntax.Subscript
import TextTemplate.Proofs.Eval.Slicing
import TextTemplate.Proofs.Eval.Chained
import TextTemplate.Proofs.Eval.Scalars
import TextTemplate.Proofs.Value.Equality
import TextTemplate.Proofs.Eval.Comparison
import TextTemplate.Proofs.Sequence.Selection
import TextTemplate.Proofs.Scope.Writing
import TextTemplate.Proofs.Eval.Ranges
import TextTemplate.Proofs.Text.Search
import TextTemplate.Proofs.Eval.Splitting
import TextTemplate.Proofs.Syntax.Pointing
import TextTemplate.Proofs.Eval.Effects
import TextTemplate.Proofs.Eval.Distribution
import TextTemplate.Proofs.Host.Entries
import TextTemplate.Proofs.Prompt.Choice
import TextTemplate.Proofs.Json.Text
import TextTemplate.Proofs.Json.Simple
import TextTemplate.Proofs.Json.RoundTrip
import TextTemplate.Proofs.Eval.Documents
