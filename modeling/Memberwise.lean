import Memberwise.Expansion
import Memberwise.Token.Printer
import Memberwise.Proofs.Stream
import Memberwise.Proofs.Outcome
import Memberwise.Proofs.Run
import Memberwise.Proofs.Alike
import Memberwise.Proofs.Equivalence
import Memberwise.Proofs.Spends
import Memberwise.Proofs.Reemission
import Memberwise.Proofs.Lookahead
import Memberwise.Proofs.SelfType
import Memberwise.Proofs.Function
import Memberwise.Proofs.Implementation
import Memberwise.Proofs.Conditions
import Memberwise.Proofs.Finds
import Memberwise.Proofs.Members
import Memberwise.Proofs.Interface
import Memberwise.Proofs.Forms
import Memberwise.Proofs.Reread
import Memberwise.Proofs.Heads
import Memberwise.Proofs.TypeHeads
import Memberwise.Proofs.Places
import Memberwise.Proofs.Stability
import Memberwise.Proofs.ArgumentGrammar
import Memberwise.Proofs.Keywords
import Memberwise.Proofs.Header
import Memberwise.Proofs.Skipping
import Memberwise.Proofs.HelperScan
import Memberwise.Proofs.Rejections
import Memberwise.Proofs.Groups
import Memberwise.Proofs.FunctionName
import Memberwise.Proofs.Extends
import Memberwise.Proofs.Rewriting
import Memberwise.Proofs.WrittenParts
import Memberwise.Proofs.WrittenItems
import Memberwise.Proofs.Expansions
