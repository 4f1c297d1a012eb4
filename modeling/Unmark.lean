import Unmark.Main
import Unmark.PlainText.Body
import Unmark.Proofs.RenderedBody
import Unmark.Proofs.HeapUnfolding
import Unmark.Proofs.TreeRoundTrip
import Unmark.Proofs.JsonTree
import Unmark.Proofs.EveryNode
import Unmark.Proofs.TokenNodes
import Unmark.Proofs.TokenText
import Unmark.Proofs.BlockScan
import Unmark.Proofs.DocumentTokens
import Unmark.Proofs.ParsedTree
import Unmark.Proofs.References
import Unmark.Proofs.BareTree
import Unmark.Proofs.ParsedJson
import Unmark.Proofs.FrontMatterFaults
import Unmark.Proofs.JsonFaults
import Unmark.Proofs.DecimalRange
import Unmark.Proofs.JsonTreeFaults
import Unmark.Proofs.AttachedValue
import Unmark.Proofs.EnvironmentDefaults
import Unmark.Proofs.LoadDefects
import Unmark.Proofs.ReadingDefaults
import Unmark.Proofs.PanelTitles
import Unmark.Proofs.CommandStops
import Unmark.Proofs.RunLog
import Unmark.Proofs.RunEndings
import Unmark.Proofs.RenderFailures
import Unmark.Proofs.ContentModel
import Unmark.Proofs.DocumentEnds
import Unmark.Proofs.LoadOrder
import Unmark.Proofs.PrintedFields
import Unmark.Proofs.LogHistory
import Unmark.Proofs.SpelledOptions
import Unmark.Proofs.ExplicitArguments
import Unmark.Proofs.TextLines
import Unmark.Proofs.FrontMatterCut
import Unmark.Proofs.PhraseRuns
import Unmark.Proofs.PhraseText
import Unmark.Proofs.WrappedRuns
import Unmark.Proofs.ForeignNames
import Unmark.Proofs.Brackets
import Unmark.Proofs.SeparatorChange
import Unmark.Proofs.EventStream
import Unmark.Proofs.ReadingAlike
import Unmark.Proofs.RespelledTrees
import Unmark.Proofs.NullValues
import Unmark.Proofs.SelfSpelled
import Unmark.Proofs.EscapedText
import Unmark.Proofs.EscapedTitles
import Unmark.Proofs.DetectedText
import Unmark.Proofs.DependencyReport
import Unmark.Proofs.RunOutput
import Unmark.Proofs.LabelSpacing
