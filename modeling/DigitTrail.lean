import DigitTrail.Command.Batch
import DigitTrail.Command.Driver
import DigitTrail.Command.Files
import DigitTrail.Command.Invocation
import DigitTrail.Command.Settings
import DigitTrail.Command.Window
import DigitTrail.Config.Document
import DigitTrail.Config.Moment
import DigitTrail.Config.Number
import DigitTrail.Config.Profile
import DigitTrail.Config.Quotation
import DigitTrail.Config.Scalar
import DigitTrail.Config.Table
import DigitTrail.Console
import DigitTrail.Data
import DigitTrail.Digit
import DigitTrail.Entropy
import DigitTrail.Main
import DigitTrail.Memory.Basic
import DigitTrail.Memory.Reader
import DigitTrail.Number
import DigitTrail.Plane
import DigitTrail.Program.Instruction
import DigitTrail.Program.Machine
import DigitTrail.Proofs.Command.Batch
import DigitTrail.Proofs.Command.Driver
import DigitTrail.Proofs.Command.Invocation
import DigitTrail.Proofs.Command.Neighbourhood
import DigitTrail.Proofs.Command.Requests
import DigitTrail.Proofs.Command.Stream
import DigitTrail.Proofs.Command.Window
import DigitTrail.Proofs.Config.Expansion
import DigitTrail.Proofs.Console.Terminal
import DigitTrail.Proofs.Entropy.Cycle
import DigitTrail.Proofs.Memory.Chance
import DigitTrail.Proofs.Memory.Frame
import DigitTrail.Proofs.Memory.Key
import DigitTrail.Proofs.Memory.Session
import DigitTrail.Proofs.Memory.Settlement
import DigitTrail.Proofs.Number.Numeral
import DigitTrail.Proofs.Plane.Clamp
import DigitTrail.Proofs.Program.Chance
import DigitTrail.Proofs.Program.Column
import DigitTrail.Proofs.Program.Course
import DigitTrail.Proofs.Program.Execution
import DigitTrail.Proofs.Program.Extension
import DigitTrail.Proofs.Program.Failure
import DigitTrail.Proofs.Program.Frame
import DigitTrail.Proofs.Program.History
import DigitTrail.Proofs.Program.Lattice
import DigitTrail.Proofs.Program.Mask
import DigitTrail.Proofs.Program.Neutral
import DigitTrail.Proofs.Program.Order
import DigitTrail.Proofs.Program.Replay
import DigitTrail.Proofs.Program.Rest
import DigitTrail.Proofs.Program.Semantics
import DigitTrail.Proofs.Program.Synchrony
import DigitTrail.Proofs.Program.Termination
import DigitTrail.Proofs.Program.Tokens
import DigitTrail.Proofs.Program.Transcript
import DigitTrail.Proofs.Reference.Legible
import DigitTrail.Proofs.Reference.Reading
import DigitTrail.Proofs.Sheet.Grammar
import DigitTrail.Proofs.Sheet.Spelling
import DigitTrail.Proofs.Walk.Cursor
import DigitTrail.Proofs.Walk.Ground
import DigitTrail.Proofs.Walk.Policy
import DigitTrail.Proofs.Walk.Retrace
import DigitTrail.Proofs.Walk.Tick
import DigitTrail.Reference
import DigitTrail.Sheet.Basic
import DigitTrail.Sheet.Cell
import DigitTrail.Text
import DigitTrail.Walk.Cursor
import DigitTrail.Walk.Walker
