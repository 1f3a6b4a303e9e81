import Narrowing.Script.Request
import Narrowing.Proofs.Check
import Narrowing.Proofs.Evaluation
import Narrowing.Proofs.Enforcement
import Narrowing.Proofs.Verdict
import Narrowing.Proofs.Formula
import Narrowing.Proofs.Propagation
import Narrowing.Proofs.Simulation
import Narrowing.Proofs.ShortCircuit
import Narrowing.Proofs.Leaves
import Narrowing.Proofs.TypeFaults
import Narrowing.Proofs.Sameness
import Narrowing.Proofs.Oddities
import Narrowing.Proofs.Lawful
import Narrowing.Proofs.Options
import Narrowing.Proofs.Spelling
import Narrowing.Proofs.NormalForm
import Narrowing.Proofs.Reordering
import Narrowing.Proofs.Readymade
import Narrowing.Proofs.SeveralSpecies
import Narrowing.Proofs.Rearrangement
import Narrowing.Proofs.Regrouping
import Narrowing.Proofs.Concatenation
import Narrowing.Proofs.Literals
import Narrowing.Proofs.Rewrapping
import Narrowing.Proofs.Flags
import Narrowing.Proofs.Descent
import Narrowing.Proofs.Outcomes
import Narrowing.Proofs.NestedTuples
import Narrowing.Proofs.Attempts
