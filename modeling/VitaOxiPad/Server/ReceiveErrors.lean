import VitaOxiPad.Server.Arrivals
import VitaOxiPad.Server.Session
/-!
# How receiving ends

`handle_ingoing_data` throws the result of `sceNetRecv` when it is not
would-block.  The `catch` clauses disconnect the client for the result 0 and for
`SCE_NET_ECONNRESET`, which is a positive number, while `sceNetRecv` reports its
errors as negative ones.  Before it throws, the dispatch loop runs, and it reads the
packet header even if `buffer_` has never held a byte and its `data()` is null.
-/

namespace VitaOxiPad.Server

open NetProtocol

/-- The last result of `sceNetRecv` says that there is nothing more to receive, ever. -/
def Receive.Ends (input : Receive) : Prop :=
  input.received ≤ 0 ∧ input.received.toUInt32 ≠ sceNetErrorEwouldblock

namespace NetThread

theorem handleEvent_of_reads {P : Platform} {s : NetThread} {input : EventInput}
    {client : Client} (hreads : Reads input) (hclient : s.client = some client) :
    s.handleEvent P input = s.readable P client input.receive := by
  obtain ⟨hhup, herr, hin, hsock⟩ := hreads
  simp [handleEvent, hhup, herr, hin, hsock, hclient]

end NetThread

end VitaOxiPad.Server
