import Profiles.Proofs.Debug.Injective
import Profiles.Proofs.Debug.Literals
import Profiles.Proofs.Debug.OneLine
import Profiles.Proofs.Debug.Padding
import Profiles.Proofs.Debug.Segments
import Profiles.Proofs.Json.Minify
import Profiles.Proofs.Json.Stream
import Profiles.Proofs.Program.Bundles
import Profiles.Proofs.Program.Conditions
import Profiles.Proofs.Program.Contexts
import Profiles.Proofs.Program.Dump
import Profiles.Proofs.Program.Failures
import Profiles.Proofs.Program.Frame
import Profiles.Proofs.Program.Independence
import Profiles.Proofs.Program.LongSwap
import Profiles.Proofs.Program.Reachable
import Profiles.Proofs.Program.Swaps
import Profiles.Proofs.Program.Transfers
import Profiles.Proofs.Record.Calls
import Profiles.Proofs.Record.Composition
import Profiles.Proofs.Record.Document
import Profiles.Proofs.Record.Logged
import Profiles.Proofs.Record.Threads
