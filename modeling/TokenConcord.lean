import TokenConcord.Main
import TokenConcord.Pattern.Reach
import TokenConcord.Proofs.Grammar.Tiling
import TokenConcord.Proofs.Reconcile.Segments
import TokenConcord.Proofs.Pattern.Position
import TokenConcord.Proofs.Grammar.Coverage
import TokenConcord.Proofs.Bundled.Compiled
import TokenConcord.Proofs.Bundled.Characters
import TokenConcord.Proofs.Bundled.Words
import TokenConcord.Proofs.Bundled.Identifiers
import TokenConcord.Proofs.Bundled.Frames
import TokenConcord.Proofs.Bundled.Delimited
import TokenConcord.Proofs.Lexing.Lexemes
import TokenConcord.Proofs.Lexing.Outline
import TokenConcord.Proofs.Bundled.Code
import TokenConcord.Proofs.Reconcile.Continuation
import TokenConcord.Proofs.Lexing.Numbers
import TokenConcord.Proofs.Bundled.Numbers
import TokenConcord.Proofs.Lexing.Words
import TokenConcord.Proofs.Lexing.Items
import TokenConcord.Proofs.Bundled.FirstRule
import TokenConcord.Proofs.Reconcile.Units
import TokenConcord.Proofs.Bundled.Items
import TokenConcord.Proofs.Reconcile.Agreement
import TokenConcord.Proofs.Reconcile.Idempotence
import TokenConcord.Proofs.Text.Cuts
import TokenConcord.Proofs.Lexing.Constructs
import TokenConcord.Proofs.Lexing.Reading
import TokenConcord.Proofs.Lexing.History
import TokenConcord.Proofs.Lexing.Brackets
import TokenConcord.Proofs.Lexing.Gaps
import TokenConcord.Proofs.Lexing.LineFeeds
import TokenConcord.Proofs.Lexing.WholeText
import TokenConcord.Proofs.Lexing.Accounting
import TokenConcord.Proofs.Outcome
import TokenConcord.Proofs.Reconcile.Steps
import TokenConcord.Proofs.Reconcile.Batch
import TokenConcord.Proofs.Grammar.WellFormed
import TokenConcord.Proofs.Grammar.Places
import TokenConcord.Proofs.Grammar.Sources
import TokenConcord.Proofs.Grammar.References
import TokenConcord.Proofs.Grammar.OpenRules
import TokenConcord.Proofs.Pattern.FromOffset
import TokenConcord.Proofs.Grammar.Candidates
import TokenConcord.Proofs.Grammar.Earliest
import TokenConcord.Proofs.Grammar.Rounds
import TokenConcord.Proofs.Lexing.Pieces
import TokenConcord.Proofs.Bundled.Pieces
import TokenConcord.Proofs.Reconcile.Pieces
import TokenConcord.Proofs.Lexing.LineEndings
import TokenConcord.Proofs.Reconcile.LineEndings
import TokenConcord.Proofs.Reconcile.SingleLine
import TokenConcord.Proofs.Grammar.Defects
import TokenConcord.Proofs.Grammar.Ordered
import TokenConcord.Proofs.Grammar.Arena
import TokenConcord.Proofs.Grammar.Correspondence
import TokenConcord.Proofs.Grammar.AddedEntry
import TokenConcord.Proofs.Grammar.Scopes
import TokenConcord.Proofs.Reconcile.Passing
import TokenConcord.Proofs.Reconcile.Composed
import TokenConcord.Proofs.Reconcile.Rounds
import TokenConcord.Proofs.Reconcile.Faults
import TokenConcord.Proofs.Reconcile.FirstUnit
import TokenConcord.Proofs.Bundled.LexemeStarts
import TokenConcord.Proofs.Reconcile.RawOffsets
import TokenConcord.Proofs.Grammar.Flattening
import TokenConcord.Proofs.Grammar.Preference
import TokenConcord.Proofs.Grammar.Nesting
import TokenConcord.Proofs.Reconcile.Flagged
import TokenConcord.Proofs.Reconcile.BreakingOff
import TokenConcord.Proofs.Reconcile.Mismatches
import TokenConcord.Proofs.Reconcile.Tables
import TokenConcord.Proofs.Reconcile.Continued
import TokenConcord.Proofs.Lexing.Failures
import TokenConcord.Proofs.Lexing.Blanks
import TokenConcord.Proofs.Lexing.LongestMatch
import TokenConcord.Proofs.Lexing.Joined
import TokenConcord.Proofs.Text.Bytes
import TokenConcord.Proofs.Lexing.Quotes
import TokenConcord.Proofs.Pattern.LeastPlace
import TokenConcord.Proofs.Reconcile.QuotedIdentifiers
