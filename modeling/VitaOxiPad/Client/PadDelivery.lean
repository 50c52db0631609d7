import VitaOxiPad.Client.MainLoop
/-!
# Which pad reports reach the device

With one whole pad packet in every datagram, the client forwards a report
exactly when its timestamp is above those of all the datagrams before it, and
nothing stays buffered.  A datagram of another shape goes through the same
buffer: the reports after it are safe if it is made of whole frames of which at
most one bears no item, and can be lost when it is not.
-/

namespace VitaOxiPad.Client

open NetProtocol
open VitaReports (MainReport)

variable {ε : Type}

/-- A datagram with exactly one pad packet, and the report it carries. -/
structure PadDatagram (fb : Flatbuffers ε) extends SentPacket fb where
  report : MainReport
  event_eq : event = .padDataReceived report
  fits : bytes.length ≤ bufferSize

/-- The reports above 0 and above every earlier one, in order. -/
def freshReports (earlier : List MainReport) : List MainReport → List MainReport
  | [] => []
  | report :: later =>
      if 0 < report.timestamp ∧ ∀ e ∈ earlier, e.timestamp < report.timestamp then
        report :: freshReports (earlier ++ [report]) later
      else freshReports (earlier ++ [report]) later

def Inbox.offer (s : Inbox) (data : MainReport) : Inbox :=
  if data.timestamp ≤ s.lastTimestamp then s
  else { s with lastTimestamp := data.timestamp, reports := s.reports ++ [data] }

@[simp] theorem Inbox.offer_incomingBuffer (s : Inbox) (data : MainReport) :
    (s.offer data).incomingBuffer = s.incomingBuffer := by
  unfold Inbox.offer
  split_ifs <;> rfl

theorem handleEvent_pad {device : List MainReport → Bool} (hdevice : ∀ rs, device rs = true)
    (s : Inbox) (data : MainReport) :
    handleEvent device s (.ok (.padDataReceived data) : Item ε) = .ok (s.offer data) := by
  simp only [handleEvent, Inbox.offer, hdevice, if_true]
  split_ifs <;> rfl

theorem PadDatagram.wholeFrame {fb : Flatbuffers ε} (p : PadDatagram fb) :
    WholeFrame fb p.bytes (some (.ok (.padDataReceived p.report))) := by
  have h := (Frame.packet p.toSentPacket).wholeFrame
  rwa [Frame.event, p.event_eq] at h

/-- Whole frames that all bear an item, none of them a report the filter passes. -/
def StaleFrames (fb : Flatbuffers ε) (lastTimestamp : UInt64)
    (frames : List (List UInt8)) : Prop :=
  ∀ f ∈ frames, ∃ item, WholeFrame fb f (some item) ∧
    ∀ data, item = .ok (.padDataReceived data) → data.timestamp ≤ lastTimestamp

theorem staleFrames_nil (fb : Flatbuffers ε) (lastTimestamp : UInt64) :
    StaleFrames fb lastTimestamp [] := by
  intro f hf
  cases hf

theorem handleEvent_stale {device : List MainReport → Bool} {s : Inbox} {item : Item ε}
    (h : ∀ data, item = .ok (.padDataReceived data) → data.timestamp ≤ s.lastTimestamp) :
    handleEvent device s item = .ok s := by
  unfold handleEvent
  split
  · rw [if_pos (h _ rfl)]
  · rfl

theorem forEvents_staleFrames {fb : Flatbuffers ε} {device : List MainReport → Bool}
    {frames : List (List UInt8)} {s : Inbox} (h : StaleFrames fb s.lastTimestamp frames)
    (rest : List UInt8) :
    forEvents fb device { s with incomingBuffer := frames.flatten ++ rest } =
      forEvents fb device { s with incomingBuffer := rest } := by
  induction frames with
  | nil => rfl
  | cons f frames ih =>
      obtain ⟨item, hframe, hstale⟩ := h f (by simp)
      have hbody : handleEvent device { s with incomingBuffer := frames.flatten ++ rest } item =
          .ok { s with incomingBuffer := frames.flatten ++ rest } := handleEvent_stale hstale
      rw [List.flatten_cons, List.append_assoc, forEvents_frame hframe hbody]
      exact ih fun g hg => h g (by simp [hg])

theorem forEvents_pad {fb : Flatbuffers ε} {device : List MainReport → Bool}
    (hdevice : ∀ rs, device rs = true) (p : PadDatagram fb) (s : Inbox) :
    forEvents fb device { s with incomingBuffer := p.bytes } =
      .ok ({ s with incomingBuffer := [] }.offer p.report) := by
  have hbody := handleEvent_pad (ε := ε) hdevice { s with incomingBuffer := [] } p.report
  have hframe := forEvents_frame p.wholeFrame hbody
  rw [List.append_nil] at hframe
  rw [hframe, forEvents_nil fb device (by simp)]

theorem receive_pad {fb : Flatbuffers ε} {device : List MainReport → Bool}
    (hdevice : ∀ rs, device rs = true) {frames : List (List UInt8)} {s : Inbox}
    (hbuffer : s.incomingBuffer = frames.flatten)
    (hstale : StaleFrames fb s.lastTimestamp frames) (p : PadDatagram fb) :
    receive fb device s p.bytes =
      .ok ({ s with incomingBuffer := [] }.offer p.report) := by
  have hne : p.bytes ≠ [] := (Frame.packet p.toSentPacket).bytes_ne_nil
  rw [receive, if_neg hne, hbuffer, forEvents_staleFrames hstale, forEvents_pad hdevice]

/-! ## One pad packet in every datagram -/

theorem run_receive_pads {fb : Flatbuffers ε} {device : List MainReport → Bool}
    (hdevice : ∀ rs, device rs = true) (pads : List (PadDatagram fb)) (s : Inbox)
    (earlier : List MainReport) (hbuffer : s.incomingBuffer = [])
    (hlast : ∀ x, s.lastTimestamp < x ↔ 0 < x ∧ ∀ e ∈ earlier, e.timestamp < x) :
    ∃ s', StepRun.run (receive fb device) s (pads.map (·.bytes)) = .ok s' ∧
      s'.incomingBuffer = [] ∧
      s'.reports = s.reports ++ freshReports earlier (pads.map (·.report)) := by
  induction pads generalizing s earlier with
  | nil => exact ⟨s, rfl, hbuffer, by simp [freshReports]⟩
  | cons p pads ih =>
      have hflat : s.incomingBuffer = ([] : List (List UInt8)).flatten := hbuffer
      have hreceive := receive_pad hdevice hflat (staleFrames_nil fb s.lastTimestamp) p
      have hlast' : ∀ x, ({ s with incomingBuffer := [] }.offer p.report).lastTimestamp < x ↔
          0 < x ∧ ∀ e ∈ earlier ++ [p.report], e.timestamp < x := by
        intro x
        simp only [List.mem_append, List.mem_singleton, or_imp, forall_and, forall_eq]
        rw [← and_assoc, ← hlast]
        unfold Inbox.offer
        split_ifs with hstale
        · simp only [iff_self_and]
          exact fun h => UInt64.lt_of_le_of_lt hstale h
        · simp only [iff_and_self]
          exact fun h => UInt64.lt_trans (UInt64.not_le.mp hstale) h
      obtain ⟨s', hrun, hempty, hreports⟩ := ih _ _ (by simp) hlast'
      refine ⟨s', ?_, hempty, ?_⟩
      · rw [List.map_cons, StepRun.run_cons_of_ok hreceive, hrun]
      · simp only [hreports, List.map_cons, freshReports, ← hlast, Inbox.offer]
        by_cases hstale : p.report.timestamp ≤ s.lastTimestamp
        · rw [if_pos hstale, if_neg (UInt64.not_lt.mpr hstale)]
        · rw [if_neg hstale, if_pos (UInt64.not_le.mp hstale)]
          simp

/-- As long as nothing outside ends it, the main loop passes on exactly the fresh reports
and keeps nothing buffered. -/
theorem mainLoop_forwards_fresh (fb : Flatbuffers ε) (device : List MainReport → Bool)
    (hdevice : ∀ reports, device reports = true) (heartbeatFreq : UInt32) (s : LoopState)
    (hbuffer : s.conn.incomingBuffer = []) (hlast : s.lastTimestamp = 0)
    (hreports : s.reports = []) (turns : List Turn)
    (hunhindered : Unhindered heartbeatFreq s.lastTime turns) (pads : List (PadDatagram fb))
    (hturns : datagrams turns = pads.map (·.bytes)) :
    ∃ s', mainLoop fb device heartbeatFreq s turns = .ok s' ∧
      s'.reports = freshReports [] (pads.map (·.report)) ∧ s'.conn.incomingBuffer = [] := by
  have hdelivered : delivered turns = pads.map (·.bytes) := by
    rw [delivered, hturns, List.map_map]
    exact List.map_congr_left fun p _ => List.take_of_length_le p.fits
  obtain ⟨inbox, hrun, hempty, hfresh⟩ :=
    run_receive_pads hdevice pads s.inbox [] hbuffer (by simp [LoopState.inbox, hlast])
  rw [← hdelivered] at hrun
  obtain ⟨s', hs', rfl⟩ := mainLoop_of_unhindered hunhindered hrun
  refine ⟨s', hs', ?_, hempty⟩
  have h : s'.reports = s.reports ++ freshReports [] (pads.map (·.report)) := hfresh
  rw [h, hreports, List.nil_append]

def padReport (low : UInt8) : MainReport where
  buttons := .from
    { select := false, start := true, up := false, right := false, down := false, left := true
      lt := false, rt := true, triangle := false, circle := true, cross := false
      square := true, volUp := true, volDown := false, ps := false }
  lx := 16
  ly := 96
  rx := 144
  ry := 240
  frontTouch := ⟨[⟨500, 300, 3, 40⟩, ⟨1400, 800, 4, 50⟩]⟩
  backTouch := ⟨[⟨200, 900, 5, 60⟩]⟩
  motion := ⟨⟨0x3f000000, 0xbf800000, 0x40000000⟩, ⟨0x3e800000, 0x3f800000, 0xc1000000⟩⟩
  timestamp := 2816 + low.toUInt64
  chargePercent := 87

def padOnly : Flatbuffers Unit where
  sizePrefixedRootAsPacket buffer :=
    let low := buffer.getD 112 0
    if buffer = padPacket low then .ok ⟨.pad, none, some (padTable low)⟩ else .error ()
  finishSizePrefixed _ := []

theorem padOnly_padPacket (low : UInt8) :
    padOnly.sizePrefixedRootAsPacket (padPacket low) =
      .ok ⟨.pad, none, some (padTable low)⟩ := if_pos rfl

theorem length_padPacket (low : UInt8) : (padPacket low).length = 168 := by
  rw [padPacket, List.length_append, List.length_cons (a := low)]
  decide +kernel

theorem declaredSize_padPacket (low : UInt8) : declaredSize (padPacket low) = 164 := rfl

def sentPad (low : UInt8) : PadDatagram padOnly where
  bytes := padPacket low
  event := .padDataReceived (padReport low)
  report := padReport low
  event_eq := rfl
  size_prefixed := by rw [length_padPacket, declaredSize_padPacket]
  nonempty := by rw [declaredSize_padPacket]; decide
  short := by rw [length_padPacket]; decide
  fits := by rw [length_padPacket]; decide
  decodes := ⟨_, padOnly_padPacket low, .pad rfl rfl (by constructor <;> rfl)⟩

def Turn.reading (bytes : List UInt8) : Turn where
  pollClock := 0
  pollOk := true
  readyEvents := 1
  checkClock := 0
  ctrlWriteOk := true
  resetClock := 0
  recv := .datagram bytes

theorem unhindered_reading (heartbeatFreq : UInt32) (datagrams : List (List UInt8)) :
    Unhindered heartbeatFreq 0 (datagrams.map .reading) := by
  induction datagrams with
  | nil => trivial
  | cons d datagrams ih =>
      refine ⟨⟨⟨Nat.le_refl 0, fun _ => Nat.le_refl 0⟩, rfl, fun _ => rfl, nofun⟩, ?_⟩
      rwa [show (if (Turn.reading d).HeartbeatDue heartbeatFreq 0 then (Turn.reading d).resetClock
        else 0) = 0 from ite_self 0]

def LoopState.initial (lastTime : Nat) : LoopState := ⟨Connection.new, lastTime, 0, [], []⟩

/-- The second of four pads is overtaken by the third, which comes twice. -/
theorem mainLoop_forwards_fresh_of_overtaking :
    ∃ s', mainLoop padOnly (fun _ => true) 25 (.initial 0)
        ([padPacket 1, padPacket 3, padPacket 2, padPacket 3, padPacket 4].map .reading) =
          .ok s' ∧
      s'.reports = [padReport 1, padReport 3, padReport 4] ∧ s'.conn.incomingBuffer = [] := by
  have hfresh : freshReports [] [padReport 1, padReport 3, padReport 2, padReport 3,
      padReport 4] = [padReport 1, padReport 3, padReport 4] := by decide +kernel
  rw [← hfresh]
  exact mainLoop_forwards_fresh padOnly (fun _ => true) (fun _ => rfl) 25 (.initial 0) rfl rfl rfl
    _ (unhindered_reading 25 _) [sentPad 1, sentPad 3, sentPad 2, sentPad 3, sentPad 4] rfl

/-! ## After a datagram of another shape -/

/-- Whole frames, none of them a report the filter passes, and at most one of
them without an item. -/
def Harmless (fb : Flatbuffers ε) (lastTimestamp : UInt64) (d : List UInt8) : Prop :=
  ∃ (before : List (List UInt8)) (silent : List UInt8) (after : List (List UInt8)),
    d = before.flatten ++ (silent ++ after.flatten) ∧
      StaleFrames fb lastTimestamp before ∧ StaleFrames fb lastTimestamp after ∧
      (silent = [] ∨ WholeFrame fb silent none)

theorem receive_harmless {fb : Flatbuffers ε} (device : List MainReport → Bool) (s : Inbox)
    {d : List UInt8} (hbuffer : s.incomingBuffer = [])
    (h : Harmless fb s.lastTimestamp d) :
    ∃ frames, StaleFrames fb s.lastTimestamp frames ∧
      receive fb device s d = .ok { s with incomingBuffer := frames.flatten } := by
  obtain ⟨before, silent, after, rfl, hbefore, hafter, hsilent⟩ := h
  have hs : s = { s with incomingBuffer := [] } := by rw [← hbuffer]
  by_cases hd : before.flatten ++ (silent ++ after.flatten) = []
  · refine ⟨[], staleFrames_nil fb _, ?_⟩
    rw [receive, if_pos hd]
    exact congrArg Except.ok hs
  · rw [receive, if_neg hd, hbuffer, List.nil_append, forEvents_staleFrames hbefore]
    rcases hsilent with rfl | hsilent
    · refine ⟨[], staleFrames_nil fb _, ?_⟩
      rw [List.nil_append, ← List.append_nil after.flatten, forEvents_staleFrames hafter,
        forEvents_nil fb device rfl]
      rfl
    · refine ⟨after, hafter, ?_⟩
      exact FuelLoop.run_of_done (forStep_of_none (hsilent.next after.flatten))

theorem run_receive_increasing {fb : Flatbuffers ε} {device : List MainReport → Bool}
    (hdevice : ∀ rs, device rs = true) (pads : List (PadDatagram fb)) (s : Inbox)
    {frames : List (List UInt8)} (hbuffer : s.incomingBuffer = frames.flatten)
    (hstale : StaleFrames fb s.lastTimestamp frames)
    (hinc : (s.lastTimestamp :: pads.map (·.report.timestamp)).Pairwise (· < ·)) :
    ∃ s', StepRun.run (receive fb device) s (pads.map (·.bytes)) = .ok s' ∧
      s'.reports = s.reports ++ pads.map (·.report) := by
  induction pads generalizing s frames with
  | nil => exact ⟨s, rfl, by simp⟩
  | cons p pads ih =>
      have hreceive := receive_pad hdevice hbuffer hstale p
      have hfresh : ¬ p.report.timestamp ≤ s.lastTimestamp := by
        have hlt : s.lastTimestamp < p.report.timestamp :=
          List.rel_of_pairwise_cons hinc (by simp)
        exact UInt64.not_le.mpr hlt
      have hoffer : { s with incomingBuffer := [] }.offer p.report =
          ⟨[], p.report.timestamp, s.reports ++ [p.report]⟩ := if_neg hfresh
      rw [hoffer] at hreceive
      have hnil := staleFrames_nil fb p.report.timestamp
      obtain ⟨s', hrun, hreports⟩ :=
        ih ⟨[], p.report.timestamp, s.reports ++ [p.report]⟩ rfl hnil (List.Pairwise.of_cons hinc)
      refine ⟨s', ?_, ?_⟩
      · rw [List.map_cons, StepRun.run_cons_of_ok hreceive, hrun]
      · rw [hreports]
        simp

/-- After a harmless datagram every pad with increasing timestamps is forwarded, as long as
nothing outside ends the loop. -/
theorem mainLoop_forwards_after_harmless (fb : Flatbuffers ε)
    (device : List MainReport → Bool) (hdevice : ∀ reports, device reports = true)
    (heartbeatFreq : UInt32) (s : LoopState) (hbuffer : s.conn.incomingBuffer = [])
    (d : List UInt8) (hd : Harmless fb s.lastTimestamp d) (pads : List (PadDatagram fb))
    (hinc : (s.lastTimestamp :: pads.map (·.report.timestamp)).Pairwise (· < ·))
    (turns : List Turn) (hunhindered : Unhindered heartbeatFreq s.lastTime turns)
    (hturns : delivered turns = d :: pads.map (·.bytes)) :
    ∃ s', mainLoop fb device heartbeatFreq s turns = .ok s' ∧
      s'.reports = s.reports ++ pads.map (·.report) := by
  obtain ⟨frames, hstale, hreceive⟩ :=
    receive_harmless device s.inbox hbuffer hd
  obtain ⟨inbox, hrun, hreports⟩ := run_receive_increasing hdevice pads
    { s.inbox with incomingBuffer := frames.flatten } rfl hstale hinc
  have hall : StepRun.run (receive fb device) s.inbox (delivered turns) = .ok inbox := by
    rw [hturns, StepRun.run_cons_of_ok hreceive, hrun]
  obtain ⟨s', hs', rfl⟩ := mainLoop_of_unhindered hunhindered hall
  exact ⟨s', hs', hreports⟩

/-- A packet that does not decode, a heartbeat and a stale pad come in one datagram, and three
pads after it. -/
theorem mainLoop_forwards_after_junk :
    ∃ s', mainLoop padOnly (fun _ => true) 25 { LoopState.initial 0 with lastTimestamp := 2817 }
        ([[1, 0, 0, 0, 7] ++ (heartbeatMagic ++ padPacket 1), padPacket 2, padPacket 5,
          padPacket 9].map .reading) = .ok s' ∧
      s'.reports = [padReport 2, padReport 5, padReport 9] := by
  have hstale : StaleFrames padOnly 2817 [[1, 0, 0, 0, 7], heartbeatMagic, padPacket 1] := by
    intro f hf
    simp only [List.mem_cons, List.not_mem_nil, or_false] at hf
    rcases hf with rfl | rfl | rfl
    · refine ⟨.error (.invalidPacket ()), ?_, fun data h => by cases h⟩
      exact .packet ⟨by decide, by decide, by decide⟩ (by decide)
    · exact ⟨_, .heartbeat, fun data h => by cases h⟩
    · refine ⟨_, (sentPad 1).wholeFrame, fun data h => ?_⟩
      cases h
      exact UInt64.le_refl _
  exact mainLoop_forwards_after_harmless padOnly (fun _ => true) (fun _ => rfl) 25
    { LoopState.initial 0 with lastTimestamp := 2817 } rfl _
    ⟨[[1, 0, 0, 0, 7], heartbeatMagic, padPacket 1], [], [], rfl, hstale, staleFrames_nil _ _,
      .inl rfl⟩
    [sentPad 2, sentPad 5, sentPad 9] (by decide +kernel) _ (unhindered_reading 25 _)
    (by decide +kernel)

/-- Four zero bytes stay at the front of the buffer and block the pad behind them. -/
theorem mainLoop_blocked_by_zero_prefix :
    0 < (sentPad 1).report.timestamp ∧
      (mainLoop padOnly (fun _ => true) 25 (.initial 0)
        [.reading [0, 0, 0, 0], .reading (sentPad 1).bytes]).toOption.map (·.reports) =
          some [] := by
  constructor
  · decide +kernel
  · decide +kernel

end VitaOxiPad.Client
