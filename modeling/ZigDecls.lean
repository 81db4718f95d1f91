import ZigDecls.Main
import ZigDecls.Proofs.Sections
import ZigDecls.Record.Section
import ZigDecls.Run.Stage
import ZigDecls.Text.Utf8
import ZigDecls.Zig.Inventory
import ZigDecls.Proofs.Collection
import ZigDecls.Proofs.Conservation
import ZigDecls.Proofs.CodeLines
import ZigDecls.Proofs.Boundaries
import ZigDecls.Proofs.Acceptance
import ZigDecls.Proofs.Policies
import ZigDecls.Proofs.Comments
import ZigDecls.Proofs.Growth
import ZigDecls.Proofs.Delivery
import ZigDecls.Proofs.Layers
import ZigDecls.Proofs.NumberTypes
import ZigDecls.Proofs.Stages
import ZigDecls.Proofs.Cores
import ZigDecls.Proofs.Phrases
import ZigDecls.Proofs.Placement
import ZigDecls.Proofs.Traces
import ZigDecls.Proofs.Endings
import ZigDecls.Proofs.TitleWords
import ZigDecls.Proofs.Merging
import ZigDecls.Proofs.Blanks
import ZigDecls.Proofs.Placeholders
import ZigDecls.Proofs.Blocks
import ZigDecls.Proofs.ShortRows
import ZigDecls.Proofs.Utf8
import ZigDecls.Proofs.WholePage
import ZigDecls.Proofs.References
import ZigDecls.Proofs.SettledTags
import ZigDecls.Proofs.PageTokens
import ZigDecls.Proofs.PagePieces
import ZigDecls.Proofs.WrittenMarkup
import ZigDecls.Proofs.SecondWalk
import ZigDecls.Proofs.Regions
import ZigDecls.Proofs.FrameTags
import ZigDecls.Proofs.WrittenLines
import ZigDecls.Proofs.Narrowing
import ZigDecls.Proofs.OnePass
import ZigDecls.Proofs.DocComments
