import VitaOxiPad.Server.NetThread
/-!
# The timeout of the next wait

At the end of an iteration `net_thread` stores the client's
`remaining_polling_time` as the timeout of its next `sceNetEpollWait`.  The
difference is taken without a sign in 64 bits, clamped after that, and stored in
32 bits.
-/

namespace VitaOxiPad.Server

def timeToPoll (pollingTime elapsed : UInt64) : Nat :=
  if elapsed ≤ pollingTime then pollingTime.toNat - elapsed.toNat else 0

namespace Client

theorem remainingPollingTime_of_le {client : Client} {now : UInt64}
    (h : client.timeSinceLastSentData now ≤ client.pollingTime) :
    (client.remainingPollingTime now).toNat =
      client.pollingTime.toNat - (client.timeSinceLastSentData now).toNat := by
  have hsub := UInt64.toNat_sub_of_le _ _ h
  have hle : ¬ client.pollingTime < client.pollingTime - client.timeSinceLastSentData now := by
    rw [UInt64.lt_iff_toNat_lt, hsub]
    omega
  unfold remainingPollingTime
  dsimp only
  rw [if_neg UInt64.not_lt_zero, if_neg hle, hsub]

/-- Once overdue the difference wraps around, and the clamp takes its upper end. -/
theorem remainingPollingTime_of_lt {client : Client} {now : UInt64}
    (h : client.pollingTime < client.timeSinceLastSentData now) :
    client.remainingPollingTime now = client.pollingTime := by
  have hwrap : client.pollingTime < client.pollingTime - client.timeSinceLastSentData now := by
    rw [UInt64.lt_iff_toNat_lt] at h ⊢
    rw [UInt64.toNat_sub]
    have hlt := (client.timeSinceLastSentData now).toNat_lt
    omega
  unfold remainingPollingTime
  dsimp only
  rw [if_neg UInt64.not_lt_zero, if_pos hwrap]

/-- A remaining time is right after the store exactly when it has no high half, or the
client is overdue and its polling time has no low half. -/
theorem remainingPollingTime_stored_iff (client : Client) (now : UInt64) :
    (client.remainingPollingTime now).toUInt32.toNat =
        timeToPoll client.pollingTime (client.timeSinceLastSentData now) ↔
      (client.timeSinceLastSentData now ≤ client.pollingTime ∧
        client.pollingTime.toNat - (client.timeSinceLastSentData now).toNat < 2 ^ 32) ∨
      (client.pollingTime < client.timeSinceLastSentData now ∧
        2 ^ 32 ∣ client.pollingTime.toNat) := by
  rw [UInt64.toNat_toUInt32, timeToPoll]
  by_cases hdue : client.timeSinceLastSentData now ≤ client.pollingTime
  · have hnot : ¬ client.pollingTime < client.timeSinceLastSentData now :=
      UInt64.not_lt.mpr hdue
    rw [if_pos hdue, remainingPollingTime_of_le hdue]
    simp only [hdue, hnot, true_and, false_and, or_false]
    omega
  · have hover := UInt64.not_le.mp hdue
    rw [if_neg hdue, remainingPollingTime_of_lt hover]
    simp only [hdue, hover, true_and, false_and, false_or]
    omega

def DuePad (client : Client) (input : SendInput) : Prop :=
  client.state = .connected ∧ client.isPollingTimeElapsed input.pollingClock ∧ input.padMode

instance (client : Client) (input : SendInput) : Decidable (client.DuePad input) :=
  inferInstanceAs (Decidable (_ ∧ _))

def lastSend (client : Client) (input : SendInput) : UInt64 :=
  if client.DuePad input then input.sentDataClock else client.sentDataTime

end Client

namespace NetThread

def StoresTimeout (P : Platform) (client : Client) (input : SendInput) : Prop :=
  client.DuePad input → 0 ≤ P.serverUdpFd ∧ 0 ≤ input.sendtoResult

theorem sendPad_timeout {P : Platform} {client : Client} {input : SendInput}
    (hstores : StoresTimeout P client input) (s : NetThread) :
    (s.sendPad P client input).timeout =
      ((client.updateSentDataTime (client.lastSend input)).remainingPollingTime
        input.timeoutClock).toUInt32 := by
  unfold sendPad
  by_cases hdue : client.DuePad input
  · have hlast : client.lastSend input = input.sentDataClock := if_pos hdue
    obtain ⟨hfd, hsent⟩ := hstores hdue
    unfold Client.DuePad at hdue
    rw [hlast, if_pos hdue, if_pos hfd, if_neg (Int32.not_lt.mpr hsent)]
    rfl
  · have hlast : client.lastSend input = client.sentDataTime := if_neg hdue
    unfold Client.DuePad at hdue
    rw [hlast, if_neg hdue]
    rfl

/-- The timeout that an iteration stores is the time until the client is due, and 0 if it is
overdue, exactly when that time fits the 32 bits, or the client is overdue and its polling
time is a multiple of `2 ^ 32`. -/
theorem timeout_is_timeToPoll_iff (P : Platform) (s t : NetThread) (client : Client)
    (input : SendInput) (hclient : s.client = some client) (hend : s.finish P input = .ok t)
    (hstores : StoresTimeout P client input) :
    let elapsed := input.timeoutClock - client.lastSend input
    t.timeout.toNat = timeToPoll client.pollingTime elapsed ↔
      (elapsed ≤ client.pollingTime ∧ client.pollingTime.toNat - elapsed.toNat < 2 ^ 32) ∨
      (client.pollingTime < elapsed ∧ 2 ^ 32 ∣ client.pollingTime.toNat) := by
  intro elapsed
  have ht : t = s.sendPad P client input := by
    rcases finish_cases hend with ⟨hnone, -⟩ | ⟨client', hsome, -, ht⟩
    · rw [hclient] at hnone
      cases hnone
    · rw [hclient] at hsome
      cases hsome
      exact ht
  rw [ht, sendPad_timeout hstores]
  exact (client.updateSentDataTime (client.lastSend input)).remainingPollingTime_stored_iff _

def startClient : Client := .new Socket.peer ⟨0, 3, ⟨0, 0⟩⟩ 0 0

theorem timeout_is_timeToPoll_of_instant :
    ∃ t, finish .sample { initial .idle ⟨0, 0, 0, 0, 0, 0⟩ with client := some startClient }
        (.instant 1000 false) = .ok t ∧
      t.timeout.toNat = timeToPoll minPollingIntervalMicros.toUInt64 1000 := by
  have hnot : ¬ startClient.DuePad (.instant 1000 false) := by decide
  obtain ⟨t, ht⟩ : ∃ t, finish .sample
      { initial .idle ⟨0, 0, 0, 0, 0, 0⟩ with client := some startClient }
      (.instant 1000 false) = .ok t := ⟨_, rfl⟩
  refine ⟨t, ht, ?_⟩
  apply (timeout_is_timeToPoll_iff .sample _ t startClient (.instant 1000 false) rfl ht
    (fun hdue => absurd hdue hnot)).mpr
  decide

/-- Seven milliseconds after it was accepted, with the default polling time of six. -/
def overdue : List Iteration := [.instant 0 false [.connect 0], .instant 7000 false []]

theorem not_timeout_is_timeToPoll_of_overdue :
    ∃ s client, loop .sample (initial .idle ⟨0, 0, 0, 0, 0, 0⟩) overdue = .ok s ∧
      s.client = some client ∧ client.pollingTime = minPollingIntervalMicros.toUInt64 ∧
      client.isPollingTimeElapsed 7000 = true ∧
      s.timeout.toNat ≠ timeToPoll client.pollingTime (client.timeSinceLastSentData 7000) := by
  have hend : (loop .sample (initial .idle ⟨0, 0, 0, 0, 0, 0⟩) overdue).toOption.map
      (fun s => (s.timeout, s.client.map fun c => (c.pollingTime, c.sentDataTime))) =
        some (6000, some (6000, 0)) := by decide +kernel
  obtain ⟨s, hrun, hfields⟩ := StepRun.exists_ok_of_map hend
  obtain ⟨htimeout, hclient⟩ := Prod.ext_iff.mp hfields
  obtain ⟨client, hsome, htimes⟩ := Option.map_eq_some_iff.mp hclient
  obtain ⟨hpolling, hsent⟩ := Prod.ext_iff.mp htimes
  dsimp only at htimeout hpolling hsent
  have helapsed : client.timeSinceLastSentData 7000 = 7000 := by
    rw [Client.timeSinceLastSentData, hsent]
    rfl
  refine ⟨s, client, hrun, hsome, hpolling, ?_, ?_⟩
  · rw [Client.isPollingTimeElapsed, hpolling, helapsed]
    decide
  · rw [htimeout, hpolling, helapsed]
    decide

end NetThread

end VitaOxiPad.Server
