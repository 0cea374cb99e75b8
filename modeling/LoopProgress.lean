import LoopProgress.CommandLine.Grammar
import LoopProgress.Main
import LoopProgress.Plan.Passes
import LoopProgress.Recorder
import LoopProgress.Session
import LoopProgress.Store.Lines
import LoopProgress.Store.Takes
import LoopProgress.Proofs.ScriptsInRow
import LoopProgress.Proofs.Delivery
import LoopProgress.Proofs.FailStop
import LoopProgress.Proofs.Conservation
import LoopProgress.Proofs.Invocation
import LoopProgress.Proofs.Continuation
import LoopProgress.Proofs.Verbosity
import LoopProgress.Proofs.WholeRequests
import LoopProgress.Proofs.Portions
import LoopProgress.Proofs.RunLog
import LoopProgress.Proofs.HonestReports
import LoopProgress.Proofs.Performance
import LoopProgress.Proofs.Decoding
import LoopProgress.Proofs.Framing
import LoopProgress.Proofs.Dialogue
import LoopProgress.Proofs.FinishCount
import LoopProgress.Proofs.Regrouping
import LoopProgress.Proofs.FirstRepeat
import LoopProgress.Proofs.LinesByKind
