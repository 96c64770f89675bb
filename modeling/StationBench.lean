import StationBench.Main
import StationBench.Proofs.Advice
import StationBench.Proofs.Calls
import StationBench.Proofs.Coherence
import StationBench.Proofs.Competitor
import StationBench.Proofs.Conclusion
import StationBench.Proofs.DrawOrder
import StationBench.Proofs.DurationFields
import StationBench.Proofs.Elapsed
import StationBench.Proofs.Faithful
import StationBench.Proofs.Generations
import StationBench.Proofs.Interruption
import StationBench.Proofs.MessageText
import StationBench.Proofs.Observers
import StationBench.Proofs.Precedence
import StationBench.Proofs.Provenance
import StationBench.Proofs.Replay
import StationBench.Proofs.Reset
import StationBench.Proofs.ResultCheck
import StationBench.Proofs.SnapshotCheck
import StationBench.Proofs.StepLanguage
import StationBench.Proofs.StepText
import StationBench.Proofs.Story
import StationBench.Proofs.Timing
import StationBench.Proofs.Uniform
import StationBench.Proofs.Verdict
