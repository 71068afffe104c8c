import Semicolon.Main
import Semicolon.Proofs.Classification.ElseIf
import Semicolon.Proofs.Classification.OpenEnds
import Semicolon.Proofs.Classification.TypeScript
import Semicolon.Proofs.Comment.Progress
import Semicolon.Proofs.Delimiters.Nesting
import Semicolon.Proofs.Dispatcher.Explanation
import Semicolon.Proofs.Dispatcher.Locality
import Semicolon.Proofs.Document.Lines
import Semicolon.Proofs.Document.Offsets
import Semicolon.Proofs.FileRun.Agreement
import Semicolon.Proofs.FileRun.LineBreaks
import Semicolon.Proofs.Literal.Insertions
import Semicolon.Proofs.Literal.Pieces
import Semicolon.Proofs.Session.Debouncing
import Semicolon.Proofs.Session.Edits
import Semicolon.Proofs.Session.Once
import Semicolon.Proofs.Session.Probe
import Semicolon.Proofs.Session.Retracing
import Semicolon.Proofs.Session.Settings
import Semicolon.Proofs.Session.Undo
import Semicolon.Proofs.Settings.Effective
