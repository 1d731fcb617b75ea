import SqlAssist.Debounce.Script
import SqlAssist.Editor.Session
import SqlAssist.Main
import SqlAssist.Proofs.LexicalGrammar
import SqlAssist.Proofs.Placement
import SqlAssist.Proofs.Locality
import SqlAssist.Proofs.SelectParts
import SqlAssist.Proofs.Replacement
import SqlAssist.Proofs.Projection
import SqlAssist.Proofs.QuotedValues
import SqlAssist.Proofs.Respacing
import SqlAssist.Proofs.SealedRuns
import SqlAssist.Proofs.SignificantTokens
import SqlAssist.Proofs.ErrorMessages
import SqlAssist.Proofs.Matching
import SqlAssist.Proofs.ProtectedRuns
import SqlAssist.Proofs.TakenRuns
import SqlAssist.Proofs.Overlaps
import SqlAssist.Proofs.Spellings
import SqlAssist.Proofs.DisjointSpans
import SqlAssist.Proofs.PreferredRuns
import SqlAssist.Proofs.JsonDocument
import SqlAssist.Proofs.JsonHighlighting
import SqlAssist.Proofs.LetterCase
import SqlAssist.Proofs.CaselessPatterns
import SqlAssist.Proofs.EditorAnswers
import SqlAssist.Proofs.Deliveries
import SqlAssist.Proofs.Coalescing
import SqlAssist.Proofs.TomlValues
import SqlAssist.Proofs.TomlDocuments
import SqlAssist.Proofs.LongNumbers
import SqlAssist.Proofs.TomlReaders
import SqlAssist.Proofs.ReaderBounds
import SqlAssist.Proofs.ConfigFile
import SqlAssist.Proofs.LoadedConfig
import SqlAssist.Proofs.ExtraStreams
import SqlAssist.Proofs.DefaultQuery
import SqlAssist.Proofs.WordInProgress
import SqlAssist.Proofs.SuggestedBlocks
import SqlAssist.Proofs.ScopedSuggestions
import SqlAssist.Proofs.CursorAgreement
import SqlAssist.Proofs.WordLookup
import SqlAssist.Proofs.RenderedLooks
import SqlAssist.Proofs.EscapedQuotes
import SqlAssist.Proofs.FieldLookup
import SqlAssist.Proofs.MaximalTokens
import SqlAssist.Proofs.TokenLookup
import SqlAssist.Proofs.LineStarts
import SqlAssist.Proofs.SortedVocabularies
import SqlAssist.Proofs.TomlStrings
