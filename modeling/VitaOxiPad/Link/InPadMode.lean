import VitaOxiPad.Link.Pads
import VitaOxiPad.Server.PadMode
/-!
# What reaches the PC

The system sees of the console its network thread.  Here the console is there with all of
its threads, and whatever the client's device is given has been sent in pad mode.  The
controls are read before, at the top of an iteration.
-/

namespace VitaOxiPad.Link

open NetProtocol Server
open Client.VitaReports (Carries)

variable {ε : Type}

end VitaOxiPad.Link
