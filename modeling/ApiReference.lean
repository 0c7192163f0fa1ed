import ApiReference.Command.Directory
import ApiReference.Command.Run
import ApiReference.Main
import ApiReference.Proofs.ArticleExtraction
import ApiReference.Proofs.Command.Run
import ApiReference.Proofs.Command.Verbosity
import ApiReference.Proofs.ExtractionNotices
import ApiReference.Proofs.Markup.Place
import ApiReference.Proofs.Markup.RawTextReading
import ApiReference.Proofs.Markup.Replay
import ApiReference.Proofs.Markup.Turn
import ApiReference.Proofs.NarrowedExtraction
import ApiReference.Proofs.Output.BlankLines
import ApiReference.Proofs.Output.CodeLines
import ApiReference.Proofs.Output.CommentWords
import ApiReference.Proofs.Output.DistinctNames
import ApiReference.Proofs.Output.GreedyRows
import ApiReference.Proofs.Output.InlineText
import ApiReference.Proofs.Output.JsonReading
import ApiReference.Proofs.Output.JsonRoundTrip
import ApiReference.Proofs.Output.LocalName
import ApiReference.Proofs.Output.ResultSignature
import ApiReference.Proofs.Output.TypeDialects
import ApiReference.Proofs.Page.BlockText
import ApiReference.Proofs.Page.CollectorState
import ApiReference.Proofs.Page.Outline
import ApiReference.Proofs.Page.RecordNotices
import ApiReference.Proofs.Page.TableRows
import ApiReference.Proofs.Page.UnclosedElement
import ApiReference.Proofs.Schema.ArrayTower
import ApiReference.Proofs.Schema.DeclaredType
import ApiReference.Proofs.Schema.NamedType
import ApiReference.Proofs.Schema.ResultPhrase
import ApiReference.Proofs.Schema.ResultSearch
import ApiReference.Proofs.Schema.ResultType
import ApiReference.Proofs.Schema.WholeWord
import ApiReference.Proofs.Text.Word
