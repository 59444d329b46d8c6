import EmacsSession.Text.Blank
import EmacsSession.Text.Lines
import EmacsSession.Text.Digit
import EmacsSession.Text.Capital
import EmacsSession.Text.Quoted
import EmacsSession.Text.Words
import EmacsSession.Utf8.Decoder
import EmacsSession.Double.Text
import EmacsSession.Value.Table
import EmacsSession.Value.Part
import EmacsSession.Value.Display
import EmacsSession.Form.Input
import EmacsSession.Log.Level
import EmacsSession.Log.Record
import EmacsSession.Path
import EmacsSession.Settings
import EmacsSession.Log.Root
import EmacsSession.Session.Diagnostics
import EmacsSession.Session.Disk
import EmacsSession.Session.Process
import EmacsSession.Session.Readiness
import EmacsSession.Session.Basic
import EmacsSession.Session.Evaluate
import EmacsSession.Session.Request
import EmacsSession.Session.Run
import EmacsSession.Proofs.Readiness
import EmacsSession.Proofs.Session.Fields
import EmacsSession.Proofs.Session.Step
import EmacsSession.Proofs.Session.Turn
import EmacsSession.Proofs.Session.Move
import EmacsSession.Proofs.Session.Phase
import EmacsSession.Proofs.Session.Accounting
import EmacsSession.Proofs.Session.Background
import EmacsSession.Proofs.Session.Lifecycle
import EmacsSession.Proofs.Session.Overtaking
import EmacsSession.Proofs.Session.StartCall
import EmacsSession.Proofs.Session.StopCall
import EmacsSession.Proofs.Session.Coexistence
import EmacsSession.Proofs.Session.Record
import EmacsSession.Proofs.Session.Books
import EmacsSession.Proofs.Session.EvaluateCall
import EmacsSession.Proofs.Value.Numeral
import EmacsSession.Proofs.Value.Reading
import EmacsSession.Proofs.Session.Conduct
import EmacsSession.Proofs.Session.Course
import EmacsSession.Proofs.Session.Machine
import EmacsSession.Proofs.Form.Program
import EmacsSession.Proofs.Lisp.Evaluation
import EmacsSession.Proofs.Lisp.InputLoop
import EmacsSession.Proofs.Session.Sharing
import EmacsSession.Proofs.Session.Housing
import EmacsSession.Proofs.Diagnostics
import EmacsSession.Proofs.Marker
import EmacsSession.Proofs.Session.Reader
import EmacsSession.Proofs.Session.Relaying
import EmacsSession.Proofs.Session.Detection
import EmacsSession.Proofs.Session.Removal
import EmacsSession.Proofs.Session.Sponsor
import EmacsSession.Proofs.Session.Scope
import EmacsSession.Proofs.Value.Chain
import EmacsSession.Proofs.Value.Refusal
import EmacsSession.Proofs.Session.Farewell
import EmacsSession.Proofs.Session.Failure
import EmacsSession.Proofs.Value.Quantity
import EmacsSession.Proofs.Value.Equality
import EmacsSession.Proofs.Value.Spelling
import EmacsSession.Proofs.Value.Naming
import EmacsSession.Proofs.Form.Association
import EmacsSession.Proofs.Session.Workshop
import EmacsSession.Proofs.Log.Level
import EmacsSession.Proofs.Log.SetUp
import EmacsSession.Proofs.Log.Course
import EmacsSession.Proofs.Log.Colour
import EmacsSession.Proofs.Text.Words
import EmacsSession.Proofs.Session.Commands
import EmacsSession.Proofs.Utf8.Whole
import EmacsSession.Proofs.Session.Decoding
