import Gawd.Bestiary.Daemon
import Gawd.Executor.Deployments
import Gawd.Executor.Resumption
import Gawd.Home.Pages
import Gawd.Home.Policy
import Gawd.Home.RecoverySweep
import Gawd.Home.SingleWriter
import Gawd.Home.Submission
import Gawd.Journal.Install
import Gawd.Locator.Refusal
import Gawd.Policy.OriginDefense
import Gawd.Sanctum.Teardown
import Gawd.Transfer.Frame
import Gawd.Transfer.Plan
import Gawd.Transport.Agreement
import Gawd.Transport.Forgetting
import Gawd.Transport.Gossip
import Gawd.Transport.ReplayGuard
import Gawd.Wire.CanonicalJson
