import Lisplet.CommandLine.Arguments
import Lisplet.CommandLine.Run
import Lisplet.Main
import Lisplet.Proofs.Dialogue
import Lisplet.Proofs.Frame
import Lisplet.Proofs.Grammar
import Lisplet.Proofs.Lexing
import Lisplet.Proofs.Numerals
import Lisplet.Proofs.Parsing
import Lisplet.Proofs.PhraseReading
import Lisplet.Proofs.Printing
import Lisplet.Proofs.Recorder
import Lisplet.Proofs.RoundTrip
import Lisplet.Proofs.SoundRecord
import Lisplet.Proofs.StaticNesting
import Lisplet.Proofs.Relocation
import Lisplet.Proofs.LikeNatives
import Lisplet.Proofs.LexicalScope
import Lisplet.Proofs.Tracing
import Lisplet.Proofs.JoinedSource
import Lisplet.Proofs.SplitRuns
import Lisplet.Proofs.StructuredFailures
import Lisplet.Proofs.Script
import Lisplet.Proofs.Applications
import Lisplet.Proofs.Balance
import Lisplet.Proofs.PassThrough
import Lisplet.Proofs.LexicalGrammar
import Lisplet.Proofs.ScopeTree
import Lisplet.Proofs.Tokenizing
import Lisplet.Proofs.IncompleteInput
import Lisplet.Proofs.ScopeHistory
import Lisplet.Proofs.DefinitionOrder
import Lisplet.Proofs.TraceTexts
import Lisplet.Proofs.NestedMessages
import Lisplet.Proofs.CallTree
import Lisplet.Proofs.NativeFaults
import Lisplet.Proofs.RecursionLimit
import Lisplet.Proofs.TokenPlaces
import Lisplet.Proofs.ExactDivision
import Lisplet.Proofs.Enactment
import Lisplet.Proofs.Gathering
import Lisplet.Proofs.ListFolds
import Lisplet.Proofs.Weights
import Lisplet.Proofs.Answers
import Lisplet.Proofs.EncodedText
import Lisplet.Proofs.Sameness
import Lisplet.Proofs.FileTree
import Lisplet.Proofs.SettledFiles
import Lisplet.Proofs.TextFiles
import Lisplet.Proofs.LiteralPatterns
import Lisplet.Proofs.SplitJoin
import Lisplet.Proofs.TraceWatchers
import Lisplet.Proofs.Nesting
import Lisplet.Proofs.NestedParsing
import Lisplet.Proofs.Descent
import Lisplet.Proofs.StrayFailures
