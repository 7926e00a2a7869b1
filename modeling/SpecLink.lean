import SpecLink.Main
import SpecLink.Proofs.Level
import SpecLink.Proofs.Selection.Eligibility
import SpecLink.Proofs.Selection.Winner
import SpecLink.Proofs.Text.Lowercase
import SpecLink.Proofs.Text.Shard
import SpecLink.Proofs.Anchor.Shards
import SpecLink.Proofs.Biblio.Shards
import SpecLink.Proofs.Reading
import SpecLink.Proofs.Resolver.Changes
import SpecLink.Proofs.Resolver.Run
import SpecLink.Proofs.Resolver.Search
import SpecLink.Proofs.Resolver.Contract
import SpecLink.Proofs.Resolver.History
import SpecLink.Proofs.Resolver.Pruning
import SpecLink.Proofs.Resolver.Phases
import SpecLink.Proofs.Resolver.Blocking
import SpecLink.Proofs.Text.Normal
import SpecLink.Proofs.Linking.Collecting
import SpecLink.Proofs.Linking.Exits
import SpecLink.Proofs.Linking.Passes
import SpecLink.Proofs.Linking.Reaching
import SpecLink.Proofs.Linking.Frame
import SpecLink.Proofs.Linking.Reports
import SpecLink.Proofs.Linking.Interruption
import SpecLink.Proofs.Hint
import SpecLink.Proofs.Resolver.Reports
import SpecLink.Proofs.Resolver.Rules
import SpecLink.Proofs.Selection.Narrowing
import SpecLink.Proofs.Resolver.Advice
import SpecLink.Proofs.Biblio.History
import SpecLink.Proofs.Sorted
import SpecLink.Proofs.Linking.Requests
import SpecLink.Proofs.Linking.Repetition
import SpecLink.Proofs.Text.AsciiCase
import SpecLink.Proofs.Usages
import SpecLink.Proofs.Resolver.Usages
import SpecLink.Proofs.Linking.References
import SpecLink.Proofs.FileTree
import SpecLink.Proofs.Json.Numerals
import SpecLink.Proofs.Json.Records
import SpecLink.Proofs.Json.Texts
import SpecLink.Proofs.Persistence
import SpecLink.Proofs.Biblio.Retries
import SpecLink.Proofs.Resolver.Failures
import SpecLink.Proofs.Biblio.Numbered
import SpecLink.Proofs.Linking.StandIns
import SpecLink.Proofs.Index.Additions
import SpecLink.Proofs.Index.Claims
import SpecLink.Proofs.Linking.Leftovers
import SpecLink.Proofs.Resolver.Replacement
import SpecLink.Proofs.Resolver.ForeignRules
import SpecLink.Proofs.Resolver.Remarks
import SpecLink.Proofs.Anchor.Listing
import SpecLink.Proofs.Anchor.Suppression
import SpecLink.Proofs.Biblio.Priority
import SpecLink.Proofs.Biblio.Aliases
import SpecLink.Proofs.Resolver.Lookups
import SpecLink.Proofs.Resolver.Citations
import SpecLink.Proofs.Text.TopLevel
import SpecLink.Proofs.Defaults.InfoTree
import SpecLink.Proofs.Defaults.Block
import SpecLink.Proofs.Defaults.Spellings
import SpecLink.Proofs.Defaults.BlockLine
import SpecLink.Proofs.Text.Lines
import SpecLink.Proofs.Defaults.Clauses
import SpecLink.Proofs.Defaults.HintClause
import SpecLink.Proofs.Resolver.LinkDefaults
import SpecLink.Proofs.Biblio.Refer
import SpecLink.Proofs.Messages
import SpecLink.Proofs.Heading
import SpecLink.Proofs.Text.EditDistance
import SpecLink.Proofs.Biblio.Suggestions
import SpecLink.Proofs.Filing
import SpecLink.Proofs.Ambiguity
