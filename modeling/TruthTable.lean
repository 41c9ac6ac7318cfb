import TruthTable.CommandLine
import TruthTable.Main
import TruthTable.Proofs.RoundTrip
import TruthTable.Proofs.SolveExact
import TruthTable.Token.Stream
import TruthTable.Proofs.OutcomeExact
import TruthTable.Proofs.Outline
import TruthTable.Proofs.OutlineExact
import TruthTable.Proofs.Positions
import TruthTable.Proofs.Completion
import TruthTable.Proofs.ErrorExact
import TruthTable.Proofs.DepthExact
import TruthTable.Proofs.CommandLineExact
import TruthTable.Proofs.CursorExact
import TruthTable.Proofs.Dependence
import TruthTable.Proofs.EvalExact
import TruthTable.Proofs.NamesExact
import TruthTable.Proofs.ExtraVariables
import TruthTable.Proofs.Renaming
import TruthTable.Proofs.Composition
import TruthTable.Proofs.PhraseBounds
import TruthTable.Proofs.ScanExact
import TruthTable.Proofs.EndExact
import TruthTable.Proofs.PatternExact
import TruthTable.Proofs.AssignmentExact
import TruthTable.Proofs.SourceExact
import TruthTable.Proofs.LogExact
import TruthTable.Proofs.SessionLaws
import TruthTable.Proofs.PushBackExact
import TruthTable.Proofs.RuleCalls
import TruthTable.Proofs.ExitExact
import TruthTable.Proofs.ProgressExact
