import Signpost.Disk.Tree
import Signpost.Document.Shelf
import Signpost.Main
import Signpost.Session.Describe
import Signpost.Proofs.Text.Cuts
import Signpost.Proofs.Text.Lines
import Signpost.Proofs.Text.Edits
import Signpost.Proofs.Text.Columns
import Signpost.Proofs.Text.Pieces
import Signpost.Proofs.Text.Places
import Signpost.Proofs.Text.Fronts
import Signpost.Proofs.Session.Mirror
import Signpost.Proofs.Token.Construction
import Signpost.Proofs.Path.Names
import Signpost.Proofs.Text.Returns
import Signpost.Proofs.Resolve.Layout
import Signpost.Proofs.Resolve.Evidence
import Signpost.Proofs.Resolve.Window
import Signpost.Proofs.Document.LineEndings
import Signpost.Proofs.Document.Calls
import Signpost.Proofs.Document.Shelf
import Signpost.Proofs.Session.Settings
import Signpost.Proofs.Protocol.Definition
import Signpost.Proofs.Path.Plain
import Signpost.Proofs.Url.File
import Signpost.Proofs.Disk.Lawful
import Signpost.Proofs.Command.Agreement
import Signpost.Proofs.Token.Passage
import Signpost.Proofs.Token.Retarget
import Signpost.Proofs.Resolve.Walk
import Signpost.Proofs.Url.Canonical
import Signpost.Proofs.Url.Sendable
import Signpost.Proofs.Protocol.Targets
import Signpost.Proofs.Token.Leftmost
import Signpost.Proofs.Token.Grammar
import Signpost.Proofs.Token.Rendered
import Signpost.Proofs.Token.Words
import Signpost.Proofs.Token.Ways
import Signpost.Proofs.Token.Patterns
import Signpost.Proofs.Token.Spans
import Signpost.Proofs.Path.Folding
import Signpost.Proofs.Resolve.Joining
import Signpost.Proofs.Resolve.Asked
import Signpost.Proofs.Text.Splices
import Signpost.Proofs.Settings.Languages
import Signpost.Proofs.Session.Reported
import Signpost.Proofs.Settings.Merging
import Signpost.Proofs.Settings.Keys
import Signpost.Proofs.Settings.Loading
