import CatalistOracle.Impl.Python
import CatalistOracle.Impl.Typings
import CatalistOracle.Impl.LidoValidators
import CatalistOracle.Impl.ValidatorState
import CatalistOracle.Impl.Snapshot
import CatalistOracle.Impl.LegacyValidators
import CatalistOracle.Proof.Grouping
import CatalistOracle.Proof.StuckExited
import CatalistOracle.Proof.Recent
import CatalistOracle.Proof.KeySets
import CatalistOracle.Proof.Monotone
import CatalistOracle.Proof.Refinement
import CatalistOracle.Proof.InputOrder
import CatalistOracle.Proof.StuckDelayed
import CatalistOracle.Proof.Raises
