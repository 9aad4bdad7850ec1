import RuleAtlas.Main
import RuleAtlas.Query.Expr.Printer
import RuleAtlas.Proofs.Binary64.Digits
import RuleAtlas.Proofs.Binary64.Rounding
import RuleAtlas.Proofs.Binary64.Shortest
import RuleAtlas.Proofs.Binary64.Fewest
import RuleAtlas.Proofs.Binary64.Numerals
import RuleAtlas.Proofs.Binary64.Reading
import RuleAtlas.Proofs.Binary64.Rewriting
import RuleAtlas.Proofs.Yaml.Numbers
import RuleAtlas.Proofs.Yaml.Nodes
import RuleAtlas.Proofs.Yaml.Decoding
import RuleAtlas.Proofs.Yaml.Records
import RuleAtlas.Proofs.Files.Discovery
import RuleAtlas.Proofs.Query.Lexing
import RuleAtlas.Proofs.Query.Pieces
import RuleAtlas.Proofs.Query.Accepted.Trees
import RuleAtlas.Proofs.Query.Nodes
import RuleAtlas.Proofs.Query.Rendering
import RuleAtlas.Proofs.Query.Rereading.Parts
import RuleAtlas.Proofs.Query.Rereading.Trees
import RuleAtlas.Proofs.Query.RoundTrip
import RuleAtlas.Proofs.Query.Stratified
import RuleAtlas.Proofs.Query.Climbing
import RuleAtlas.Proofs.Query.Leaves
import RuleAtlas.Proofs.Query.Roles
import RuleAtlas.Proofs.Query.Consuming
import RuleAtlas.Proofs.Query.Naming
import RuleAtlas.Proofs.Graph.Building
import RuleAtlas.Proofs.Graph.Dot
import RuleAtlas.Proofs.Graph.DotLanguage
import RuleAtlas.Proofs.Graph.Resolving
import RuleAtlas.Proofs.Graph.History
import RuleAtlas.Proofs.Query.WellFormed
import RuleAtlas.Proofs.Query.Spans
import RuleAtlas.Proofs.Rules.Loading
import RuleAtlas.Proofs.Rules.Values
import RuleAtlas.Proofs.Query.Taking
import RuleAtlas.Proofs.Rules.Referring
import RuleAtlas.Proofs.Rules.Faults
import RuleAtlas.Proofs.Rules.Findings
import RuleAtlas.Proofs.Files.Tree
import RuleAtlas.Proofs.Rules.Catalogue
import RuleAtlas.Proofs.Files.Observing
import RuleAtlas.Proofs.Command.Delivery
import RuleAtlas.Proofs.Query.Recurring
import RuleAtlas.Proofs.Query.Respacing
import RuleAtlas.Proofs.Query.Indexed.Machine
import RuleAtlas.Proofs.Query.Indexed.Parser
import RuleAtlas.Proofs.Query.Indexed.Following
import RuleAtlas.Proofs.Query.Indexed.Grammar
import RuleAtlas.Proofs.Query.Indexed.Calls
import RuleAtlas.Proofs.Query.Literals.Basic
import RuleAtlas.Proofs.Query.Literals.Numerals
import RuleAtlas.Proofs.Query.Literals.Strings
import RuleAtlas.Proofs.Query.Literals.Quoting
import RuleAtlas.Proofs.Query.Literals.Conversion
import RuleAtlas.Proofs.Query.Bytes.Machine
import RuleAtlas.Proofs.Query.Bytes.Lexer
import RuleAtlas.Proofs.Query.Bytes.Following
import RuleAtlas.Proofs.Query.Bytes.Strings
import RuleAtlas.Proofs.Query.Bytes.Tokens
import RuleAtlas.Proofs.Query.Bytes.Calls
import RuleAtlas.Proofs.Query.Durations.Amounts
import RuleAtlas.Proofs.Query.Durations.Words
import RuleAtlas.Proofs.Query.Durations.Tokens
import RuleAtlas.Proofs.Query.Visiting
import RuleAtlas.Proofs.Regex.Spans
import RuleAtlas.Proofs.Regex.Enclosed.Reading
import RuleAtlas.Proofs.Regex.Anchored
import RuleAtlas.Proofs.Query.Anchoring
import RuleAtlas.Proofs.Query.Locating
import RuleAtlas.Proofs.Query.Clauses
import RuleAtlas.Proofs.Query.Framing
import RuleAtlas.Proofs.Query.Balance
import RuleAtlas.Proofs.Query.Swapping
import RuleAtlas.Proofs.Query.Listing
import RuleAtlas.Proofs.Query.Rewording
