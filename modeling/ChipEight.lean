import ChipEight.Machine.Dump
import ChipEight.Machine.Run
import ChipEight.Worker
import ChipEight.Main
import ChipEight.Proofs.Instruction.Decoding
import ChipEight.Proofs.Machine.Raw
import ChipEight.Proofs.Machine.Range
import ChipEight.Proofs.Machine.Failure
import ChipEight.Proofs.Machine.Calls
import ChipEight.Proofs.Loop.Polls
import ChipEight.Proofs.Loop.CpuFold
import ChipEight.Proofs.Loop.Keys
import ChipEight.Proofs.Loop.Frames
import ChipEight.Proofs.Session.Keys
import ChipEight.Proofs.Session.Redraw
import ChipEight.Proofs.Session.History
import ChipEight.Proofs.Session.WindDown
import ChipEight.Proofs.Session.Outcome
import ChipEight.Proofs.Session.Passes
import ChipEight.Proofs.Machine.Frame
import ChipEight.Proofs.Machine.Flow
import ChipEight.Proofs.Machine.Independence
import ChipEight.Proofs.Dump.Listing
import ChipEight.Proofs.Dump.Cells
import ChipEight.Proofs.Dump.Lossless
import ChipEight.Proofs.Screen.Drawing
import ChipEight.Proofs.Loop.Pace
import ChipEight.Proofs.Machine.Transfer
import ChipEight.Proofs.Machine.Arithmetic
import ChipEight.Proofs.Machine.Waiting
import ChipEight.Proofs.Session.Reports
import ChipEight.Proofs.Loop.Ending
import ChipEight.Proofs.Dump.Canonical
import ChipEight.Proofs.Instruction.Encoding
import ChipEight.Proofs.Loop.Report
import ChipEight.Proofs.Cartridge.Loading
import ChipEight.Proofs.CommandLine.Order
import ChipEight.Proofs.Machine.Unread
import ChipEight.Proofs.Screen.Points
import ChipEight.Proofs.Loop.Episodes
import ChipEight.Proofs.Session.Episodes
import ChipEight.Proofs.Loop.Holding
import ChipEight.Proofs.Machine.Countdowns
