import VitaOxiPad.Link.System
import VitaOxiPad.Server.Connections
/-!
# What the client writes

A client writes its handshake, then, once it is connected, the polling interval if one was
asked for, and from then on heartbeats.  Nothing else goes to its control socket.
-/

namespace VitaOxiPad.Link

open NetProtocol Server
open Client (LoopState Turn)
open Client.VitaReports (MainReport)

variable {ε : Type}

def Setup.interval (L : Setup ε) : UInt64 :=
  (L.pollingInterval.map fun v => max v Client.minPollingRate).getD Client.minPollingRate

def Setup.opening (L : Setup ε) : List Message :=
  .handshake ⟨.client, L.boundPort, 0⟩ ::
    if L.interval ≠ Client.minPollingRate then [.config ⟨L.interval⟩] else []

/-- What the client has sent when it is in the phase. -/
def Scripted (L : Setup ε) (messages : List Message) : Phase → Prop
  | .connected => messages = []
  | .greeted => messages = [.handshake ⟨.client, L.boundPort, 0⟩]
  | .looping _ state => state.conn.outgoingBuffer = [] ∧
      ∃ beats, messages = L.opening ++ List.replicate beats .heartbeat

theorem connect_writes {L : Setup ε} {read : List UInt8} {clock : Nat} {r : Client.Connected}
    (h : Client.connect L.flatbuffers ⟨L.boundPort, L.pollingInterval, [read], clock⟩ = .ok r) :
    ctrlWrites r.io = L.opening.map (encode L.flatbuffers) ∧
      r.state.conn.outgoingBuffer = [] := by
  obtain ⟨handshake, rest, hresponse, hstate⟩ := connect_ok h
  have hsent : (Client.Connection.new.sendHandshake L.flatbuffers
      ⟨.client, L.boundPort, 0⟩).retrieveOutData.2 = Client.Connection.new := rfl
  refine ⟨?_, by rw [hstate]; rfl⟩
  simp only [Client.connect, hsent, hresponse, bind, Except.bind, pure, Except.pure] at h
  unfold Setup.opening Setup.interval
  split_ifs at h ⊢
  · cases h
    simp [ctrlWrites, encode, Client.Connection.sendHandshake, Client.Connection.new,
      Client.Connection.sendHeartbeat, Client.Connection.sendConfig,
      Client.Connection.retrieveOutData]
  · cases h
    simp [ctrlWrites, encode, Client.Connection.sendHandshake, Client.Connection.new,
      Client.Connection.sendHeartbeat, Client.Connection.retrieveOutData]

theorem receiveTurn_io {fb : Client.Flatbuffers ε} {device : List MainReport → Bool}
    {s s' : LoopState} {t : Turn} (h : Client.receiveTurn fb device s t = .ok s') :
    s'.io = s.io ∧ s'.conn.outgoingBuffer = s.conn.outgoingBuffer := by
  unfold Client.receiveTurn at h
  split_ifs at h
  · cases h
    exact ⟨rfl, rfl⟩
  · split at h
    · cases h
    · cases h
      exact ⟨rfl, rfl⟩
    · rename_i bytes _
      cases hreceive : Client.receive fb device s.inbox (bytes.take Client.bufferSize) with
      | error e =>
          rw [hreceive] at h
          cases h
      | ok inbox =>
          rw [hreceive] at h
          cases h
          exact ⟨rfl, rfl⟩

theorem loopTurn_writes {fb : Client.Flatbuffers ε} {device : List MainReport → Bool}
    {heartbeatFreq : UInt32} {s s' : LoopState} {t : Turn} (hempty : s.conn.outgoingBuffer = [])
    (h : Client.loopTurn fb device heartbeatFreq s t = .ok s') :
    s'.conn.outgoingBuffer = [] ∧ heartbeatWrites (s'.io.drop s.io.length) =
      if t.HeartbeatDue heartbeatFreq s.lastTime then [heartbeatMagic] else [] := by
  have hclock : t.NotBefore s.lastTime := by
    by_contra hbefore
    rw [Client.loopTurn, Client.heartbeatTurn_of_before hbefore] at h
    cases h
  cases hok : t.pollOk with
  | false =>
      rw [Client.loopTurn, Client.heartbeatTurn_of_poll_failed hclock.1 hok] at h
      cases h
  | true =>
      obtain ⟨secs, -, hturn⟩ :=
        Client.heartbeatTurn_of_notBefore heartbeatFreq hclock hok hempty
      rw [Client.loopTurn, hturn] at h
      split_ifs at h ⊢
      · obtain ⟨hio, hout⟩ := receiveTurn_io h
        refine ⟨hout.trans hempty, ?_⟩
        rw [hio]
        simp [heartbeatWrites]
      · cases h
      · obtain ⟨hio, hout⟩ := receiveTurn_io h
        refine ⟨hout.trans hempty, ?_⟩
        rw [hio]
        simp [heartbeatWrites]

/-! ## What the messages ask for -/

theorem Setup.opening_eq (L : Setup ε) :
    L.opening = [.handshake ⟨.client, L.boundPort, 0⟩] ++
      if L.interval ≠ Client.minPollingRate then [.config ⟨L.interval⟩] else [] := rfl

theorem intervals_opening (L : Setup ε) :
    L.opening.filterMap Message.interval =
      if minPollingIntervalMicros.toUInt64 < L.interval then [L.interval] else [] := by
  rw [Setup.opening_eq]
  by_cases hrate : L.interval = Client.minPollingRate
  · have hshort : ¬ minPollingIntervalMicros.toUInt64 < Client.minPollingRate := by decide
    rw [if_neg (not_not.mpr hrate), hrate, if_neg hshort]
    rfl
  · rw [if_pos hrate, List.singleton_append, List.filterMap_cons_none rfl]
    by_cases hlong : minPollingIntervalMicros.toUInt64 < L.interval
    · have htaken : Message.interval (.config ⟨L.interval⟩) = some L.interval := if_pos hlong
      rw [if_pos hlong, List.filterMap_cons_some htaken, List.filterMap_nil]
    · have hignored : Message.interval (.config ⟨L.interval⟩) = none := if_neg hlong
      rw [if_neg hlong, List.filterMap_cons_none hignored, List.filterMap_nil]

theorem padPorts_opening (L : Setup ε) :
    L.opening.filterMap Message.padPort = [L.boundPort] := by
  rw [Setup.opening_eq]
  split_ifs <;> rfl

theorem filterMap_script {α : Type} {f : Message → Option α} (hbeat : f .heartbeat = none)
    (L : Setup ε) (beats : Nat) :
    (L.opening ++ List.replicate beats Message.heartbeat).filterMap f = L.opening.filterMap f := by
  have hnone : (List.replicate beats Message.heartbeat).filterMap f = [] := by
    rw [List.filterMap_eq_nil_iff]
    intro m hm
    rw [List.eq_of_mem_replicate hm, hbeat]
  rw [List.filterMap_append, hnone, List.append_nil]

theorem Scripted.prefix_script {L : Setup ε} {messages : List Message} {phase : Phase}
    (h : Scripted L messages phase) :
    ∃ beats, messages <+: L.opening ++ List.replicate beats .heartbeat := by
  cases phase with
  | connected => exact ⟨0, by rw [show messages = [] from h]; exact List.nil_prefix⟩
  | greeted =>
      refine ⟨0, ?_⟩
      rw [show messages = [.handshake ⟨.client, L.boundPort, 0⟩] from h, Setup.opening_eq,
        List.append_assoc]
      exact List.prefix_append _ _
  | looping heartbeatFreq state =>
      obtain ⟨-, beats, rfl⟩ := h
      exact ⟨beats, List.prefix_rfl⟩

end VitaOxiPad.Link
