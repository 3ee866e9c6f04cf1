import DurableCalc.Session.Rehearsal
import DurableCalc.Main
import DurableCalc.Proofs.Session.ExactlyOnce
import DurableCalc.Proofs.Session.AtLeastOnce
import DurableCalc.Proofs.Session.Soundness
import DurableCalc.Proofs.Plain.Refinement
import DurableCalc.Proofs.Session.Rejection
import DurableCalc.Proofs.Session.Transition
import DurableCalc.Proofs.Session.Lockstep
import DurableCalc.Proofs.Session.Stream
import DurableCalc.Proofs.Session.Standstill
import DurableCalc.Proofs.Session.Sittings
import DurableCalc.Proofs.Session.Closing
import DurableCalc.Proofs.Session.Potential
import DurableCalc.Proofs.Session.Checked
import DurableCalc.Proofs.Session.Spill
import DurableCalc.Proofs.Snapshot.Layout
import DurableCalc.Proofs.Session.Edits
import DurableCalc.Proofs.Session.Errand
import DurableCalc.Proofs.Session.Respelling
import DurableCalc.Proofs.Median.Written
import DurableCalc.Proofs.Generator.Cycle
import DurableCalc.Proofs.Command.Resolution
import DurableCalc.Proofs.Session.NumberLine
import DurableCalc.Proofs.Channel.Terminator
import DurableCalc.Proofs.Session.Status
import DurableCalc.Proofs.CommandLine.Precedence
import DurableCalc.Proofs.Storage.Directories
import DurableCalc.Proofs.Storage.PathNames
import DurableCalc.Proofs.Storage.PlainPath
import DurableCalc.Proofs.Storage.Refinement
