import VitaOxiPad.Device.MainDevice
import VitaOxiPad.Lib.ChangeReports
/-!
# Failed reports

A call of `send_report` remembers the buttons and the hat of its report before its
first write, which is the one that gives them to the main device.  When that write
fails, the changes of the report are lost: the calls after it take them for sent.
-/

namespace VitaOxiPad.VirtualDevice.Linux

open ChangeReports SetChanges
open Client.VitaReports

variable {ε : Type}

def Call.delivered (call : Call ε) : Bool :=
  match call.failure with
  | some (0, _) => false
  | _ => true

def attempt (locateAtPoint : LocateAtPoint) (s : VitaDevice × Evdev) (call : Call ε) :
    VitaDevice × Evdev :=
  let sent := sendReport locateAtPoint s.1 call
  (sent.device, s.2.replay (onHandle .main sent.written))

def attempts (locateAtPoint : LocateAtPoint) (config : Config) (calls : List (Call ε)) :
    VitaDevice × Evdev :=
  calls.foldl (attempt locateAtPoint) (.new config, .initial)

/-! ## What a call leaves -/

section

variable (locateAtPoint : LocateAtPoint) (d : VitaDevice) (call : Call ε)

/-- Whatever happens to its writes, the call remembers its buttons and its hat. -/
theorem sendReport_remembers :
    (sendReport locateAtPoint d call).device.config = d.config ∧
      (sendReport locateAtPoint d call).device.previousButtons =
        pressedButtons locateAtPoint d.config call.report ∧
      ((sendReport locateAtPoint d call).device.previousHatX,
          (sendReport locateAtPoint d call).device.previousHatY) =
        dpadDirectionToAxisValues (hatDirection locateAtPoint d.config call.report) := by
  obtain ⟨hbuttons, hhat⟩ := mainEvents_remembers locateAtPoint d call
  obtain ⟨hconfig, hkept, hkeptX, hkeptY⟩ :=
    touchpadWrites_keeps (mainEvents locateAtPoint d call).2 call.report
  have hdevice : (sendReport locateAtPoint d call).device = (mainEvents locateAtPoint d call).2 ∨
      (sendReport locateAtPoint d call).device =
        (touchpadWrites (mainEvents locateAtPoint d call).2 call.report).2 := by
    unfold sendReport
    dsimp only
    split
    · exact .inr rfl
    · split_ifs
      · exact .inl rfl
      · exact .inr rfl
      · exact .inr rfl
  rcases hdevice with hdevice | hdevice
  · rw [hdevice]
    exact ⟨rfl, hbuttons, hhat⟩
  · rw [hdevice, hconfig, hkept, hkeptX, hkeptY]
    exact ⟨rfl, hbuttons, hhat⟩

def laterWrites (events : List InputEvent) : List Write :=
  [(.keyboard, events), (.keyboard, [.synchronize])] ++
    (touchpadWrites (mainEvents locateAtPoint d call).2 call.report).1 ++ sensorWrites call.report

theorem onHandle_main_later (events : List InputEvent) (n : Nat) :
    onHandle .main ((laterWrites locateAtPoint d call events).take n) = [] := by
  have hother : ∀ w ∈ laterWrites locateAtPoint d call events, w.1 ≠ .main := by
    intro w hw
    simp only [laterWrites, sensorWrites, List.mem_append, List.mem_cons, List.not_mem_nil,
      or_false] at hw
    rcases hw with ((rfl | rfl) | hw) | rfl | rfl
    · simp
    · simp
    · simp [touchpadWrites_handle _ _ w hw]
    · simp
    · simp
  have hnone : ((laterWrites locateAtPoint d call events).take n).filter (·.1 = .main) = [] := by
    rw [List.filter_eq_nil_iff]
    intro w hw
    simp [hother w (List.mem_of_mem_take hw)]
  rw [onHandle, hnone, List.flatMap_nil]

theorem delivered_of_failure {call : Call ε} {n : Nat} {e : ε} (h : call.failure = some (n, e)) :
    call.delivered = true ↔ 0 < n := by
  rw [Call.delivered, h]
  cases n <;> simp

def allWrites : List Write :=
  (.main, (mainEvents locateAtPoint d call).1) :: (.main, [.synchronize]) ::
    laterWrites locateAtPoint d call (mainEvents locateAtPoint d call).1

/-- The writes are done in their order up to the one that fails. -/
theorem sendReport_written :
    ∃ n, (call.delivered = true ↔ 0 < n) ∧
      (sendReport locateAtPoint d call).written = (allWrites locateAtPoint d call).take n := by
  have hall : mainWrites (mainEvents locateAtPoint d call).1 ++
      (touchpadWrites (mainEvents locateAtPoint d call).2 call.report).1 ++
        sensorWrites call.report = allWrites locateAtPoint d call := rfl
  cases hfailure : call.failure with
  | none =>
      refine ⟨(allWrites locateAtPoint d call).length, ?_, ?_⟩
      · simp [Call.delivered, hfailure, allWrites]
      · simp only [sendReport, hfailure, hall, List.take_length]
  | some failure =>
      obtain ⟨n, e⟩ := failure
      refine ⟨n, delivered_of_failure hfailure, ?_⟩
      simp only [sendReport, hfailure, hall]
      split_ifs with hn
      · rfl
      · rfl
      · exact (List.take_of_length_le (Nat.not_lt.mp hn)).symm

/-- The main device gets the events of the call, and maybe their end, or nothing. -/
theorem onHandle_main_written :
    (call.delivered = true ∧
      (onHandle .main (sendReport locateAtPoint d call).written =
          (mainEvents locateAtPoint d call).1 ∨
        onHandle .main (sendReport locateAtPoint d call).written =
          (mainEvents locateAtPoint d call).1 ++ [.synchronize])) ∨
    (call.delivered = false ∧ onHandle .main (sendReport locateAtPoint d call).written = []) := by
  obtain ⟨n, hdelivered, hwritten⟩ := sendReport_written locateAtPoint d call
  have hlater := onHandle_main_later locateAtPoint d call (mainEvents locateAtPoint d call).1
  rw [hwritten, allWrites]
  match n with
  | 0 => exact .inr ⟨by simpa using hdelivered, rfl⟩
  | 1 => exact .inl ⟨by simpa using hdelivered, .inl (by simp [onHandle])⟩
  | n + 2 =>
      refine .inl ⟨by simpa using hdelivered, .inr ?_⟩
      have hrest := hlater n
      simp only [onHandle] at hrest
      simp [onHandle, hrest]

/-! ## The keys -/

theorem replay_volume {keys : Finset Key} (h : ButtonKeys keys) :
    SetChanges.replay keys ((if call.report.buttons.volUp then tap .volumeUp else []) ++
      if call.report.buttons.volDown then tap .volumeDown else []) = keys := by
  have hup := (tap_volume h call.report.buttons.volUp
    fun button => (mapButtonToDs4_ne_volume button).1).2
  have hdown := (tap_volume h call.report.buttons.volDown
    fun button => (mapButtonToDs4_ne_volume button).2).2
  rw [SetChanges.replay_append, hup, hdown]

theorem mem_map_order {order : HashOrder} {s : Finset Button} (button : Button) :
    mapButtonToDs4 button ∈ (order.list s).map mapButtonToDs4 ↔ button ∈ s := by
  rw [List.mem_map_of_injective mapButtonToDs4_injective, (order.enumerates s).mem_iff]

/-- The events move the keys of the buttons that the report changes and no others. -/
theorem keys_replay_mainEvents {e : Evdev} (h : ButtonKeys e.keys) :
    ButtonKeys (e.replay (mainEvents locateAtPoint d call).1).keys ∧
      ∀ button, mapButtonToDs4 button ∈ (e.replay (mainEvents locateAtPoint d call).1).keys ↔
        (mapButtonToDs4 button ∈ e.keys ∨
            button ∈ pressedButtons locateAtPoint d.config call.report \ d.previousButtons) ∧
          button ∉ d.previousButtons \ pressedButtons locateAtPoint d.config call.report := by
  set now := pressedButtons locateAtPoint d.config call.report
  set presses := (call.pressOrder.list (now \ d.previousButtons)).map mapButtonToDs4
  set releases := (call.releaseOrder.list (d.previousButtons \ now)).map mapButtonToDs4
  have hmem : ∀ key, key ∈ SetChanges.replay e.keys (difference presses releases) ↔
      (key ∈ e.keys ∨ key ∈ presses) ∧ key ∉ releases := by
    intro key
    rw [difference, SetChanges.replay_append, mem_replay_releases, mem_replay_presses]
  have hbuttons : ButtonKeys (SetChanges.replay e.keys (difference presses releases)) := by
    intro key hkey
    rcases ((hmem key).mp hkey).1 with hkey | hkey
    · exact h key hkey
    · obtain ⟨button, -, hbutton⟩ := List.mem_map.mp hkey
      exact ⟨button, hbutton⟩
  rw [Evdev.keys_replay, keyChanges_mainEvents, SetChanges.replay_append,
    replay_volume call hbuttons]
  refine ⟨hbuttons, fun button => ?_⟩
  rw [hmem, mem_map_order, mem_map_order]

/-- A hat axis that has changed is set, wherever it was. -/
theorem axes_replay_mainEvents (e : Evdev) :
    (e.replay (mainEvents locateAtPoint d call).1).axes .hat0X =
        (if (mainEvents locateAtPoint d call).2.previousHatX ≠ d.previousHatX
          then (mainEvents locateAtPoint d call).2.previousHatX else e.axes .hat0X) ∧
      (e.replay (mainEvents locateAtPoint d call).1).axes .hat0Y =
        (if (mainEvents locateAtPoint d call).2.previousHatY ≠ d.previousHatY
          then (mainEvents locateAtPoint d call).2.previousHatY else e.axes .hat0Y) := by
  obtain ⟨hX, hY⟩ := axisValues_mainEvents_eq locateAtPoint d call
  rw [Evdev.axes_replay (by simp [AbsoluteAxis.Multitouch]),
    Evdev.axes_replay (by simp [AbsoluteAxis.Multitouch]), hX, hY, dpadEvent, dpadEvent]
  constructor <;> split_ifs <;> simp [axisValues, InputEvent.valueOf?]

end

/-! ## Each control over a run -/

/-- Whether a button is remembered as pressed, and whether its key is down. -/
def keyLink (s : VitaDevice × Evdev) (button : Button) : Link Bool :=
  ⟨decide (button ∈ s.1.previousButtons), decide (mapButtonToDs4 button ∈ s.2.keys)⟩

def hatXLink (s : VitaDevice × Evdev) : Link Int := ⟨s.1.previousHatX, s.2.axes .hat0X⟩

def hatYLink (s : VitaDevice × Evdev) : Link Int := ⟨s.1.previousHatY, s.2.axes .hat0Y⟩

section

variable (locateAtPoint : LocateAtPoint) (config : Config)

def keyReport (button : Button) (call : Call ε) : Report Bool :=
  ⟨decide (button ∈ pressedButtons locateAtPoint config call.report), call.delivered⟩

def hat (report : MainReport) : Int × Int :=
  dpadDirectionToAxisValues (hatDirection locateAtPoint config report)

def hatXReport (call : Call ε) : Report Int :=
  ⟨(hat locateAtPoint config call.report).1, call.delivered⟩

def hatYReport (call : Call ε) : Report Int :=
  ⟨(hat locateAtPoint config call.report).2, call.delivered⟩

structure Attempted (s : VitaDevice × Evdev) : Prop where
  config : s.1.config = config
  keys : ButtonKeys s.2.keys

theorem attempted_initial : Attempted config (.new config, .initial) :=
  ⟨rfl, fun _ hkey => absurd hkey (Finset.notMem_empty _)⟩

theorem attempt_device (s : VitaDevice × Evdev) (call : Call ε) :
    (call.delivered = true ∧
      (attempt locateAtPoint s call).2 = s.2.replay (mainEvents locateAtPoint s.1 call).1) ∨
    (call.delivered = false ∧ (attempt locateAtPoint s call).2 = s.2) := by
  rcases onHandle_main_written locateAtPoint s.1 call with
    ⟨hdelivered, hwritten | hwritten⟩ | ⟨hlost, hwritten⟩
  · exact .inl ⟨hdelivered, by rw [attempt, hwritten]⟩
  · exact .inl ⟨hdelivered, by rw [attempt, hwritten, replay_synchronized]⟩
  · exact .inr ⟨hlost, by rw [attempt, hwritten, Evdev.replay_nil]⟩

variable {locateAtPoint config}

theorem Attempted.attempt {s : VitaDevice × Evdev} (h : Attempted config s) (call : Call ε) :
    Attempted config (attempt locateAtPoint s call) where
  config := (sendReport_remembers locateAtPoint s.1 call).1.trans h.config
  keys := by
    rcases attempt_device locateAtPoint s call with ⟨-, hdevice⟩ | ⟨-, hdevice⟩
    · rw [hdevice]
      exact (keys_replay_mainEvents locateAtPoint s.1 call h.keys).1
    · rw [hdevice]
      exact h.keys

theorem keyLink_attempt {s : VitaDevice × Evdev} (h : Attempted config s) (call : Call ε)
    (button : Button) :
    keyLink (Linux.attempt locateAtPoint s call) button =
      (keyLink s button).report (keyReport locateAtPoint config button call) := by
  obtain ⟨-, hbuttons, -⟩ := sendReport_remembers locateAtPoint s.1 call
  rw [h.config] at hbuttons
  have hremembered : (Linux.attempt locateAtPoint s call).1.previousButtons =
      pressedButtons locateAtPoint config call.report := hbuttons
  rw [keyLink, hremembered, Link.report, keyReport, keyLink]
  congr 1
  rcases attempt_device locateAtPoint s call with ⟨hdelivered, hdevice⟩ | ⟨hlost, hdevice⟩
  · have hkey := (keys_replay_mainEvents locateAtPoint s.1 call h.keys).2 button
    rw [← hdevice, h.config, Finset.mem_sdiff, Finset.mem_sdiff] at hkey
    simp only [hkey, hdelivered]
    by_cases hnow : button ∈ pressedButtons locateAtPoint config call.report <;>
      by_cases hbefore : button ∈ s.1.previousButtons <;> simp [hnow, hbefore]
  · simp [hdevice, hlost]

theorem hatLink_attempt {s : VitaDevice × Evdev} (h : Attempted config s) (call : Call ε) :
    hatXLink (Linux.attempt locateAtPoint s call) =
        (hatXLink s).report (hatXReport locateAtPoint config call) ∧
      hatYLink (Linux.attempt locateAtPoint s call) =
        (hatYLink s).report (hatYReport locateAtPoint config call) := by
  obtain ⟨-, -, hhat⟩ := sendReport_remembers locateAtPoint s.1 call
  obtain ⟨-, hmain⟩ := mainEvents_remembers locateAtPoint s.1 call
  rw [h.config] at hhat hmain
  obtain ⟨hX, hY⟩ := Prod.ext_iff.mp hhat
  obtain ⟨hmainX, hmainY⟩ := Prod.ext_iff.mp hmain
  obtain ⟨haxisX, haxisY⟩ := axes_replay_mainEvents locateAtPoint s.1 call s.2
  dsimp only at hX hY hmainX hmainY
  rw [hmainX] at haxisX
  rw [hmainY] at haxisY
  have hrememberedX : (Linux.attempt locateAtPoint s call).1.previousHatX =
      (hat locateAtPoint config call.report).1 := hX
  have hrememberedY : (Linux.attempt locateAtPoint s call).1.previousHatY =
      (hat locateAtPoint config call.report).2 := hY
  rw [hatXLink, hatYLink, hrememberedX, hrememberedY]
  rcases attempt_device locateAtPoint s call with ⟨hdelivered, hdevice⟩ | ⟨hlost, hdevice⟩
  · rw [hdevice, haxisX, haxisY]
    simp [Link.report, hatXLink, hatYLink, hatXReport, hatYReport, hat, hdelivered]
  · rw [hdevice]
    simp [Link.report, hatXLink, hatYLink, hatXReport, hatYReport, hlost]

theorem foldl_attempt {s : VitaDevice × Evdev} (h : Attempted config s) (calls : List (Call ε)) :
    Attempted config (calls.foldl (Linux.attempt locateAtPoint) s) ∧
      (∀ button, keyLink (calls.foldl (Linux.attempt locateAtPoint) s) button =
        (calls.map (keyReport locateAtPoint config button)).foldl Link.report
          (keyLink s button)) ∧
      hatXLink (calls.foldl (Linux.attempt locateAtPoint) s) =
        (calls.map (hatXReport locateAtPoint config)).foldl Link.report (hatXLink s) ∧
      hatYLink (calls.foldl (Linux.attempt locateAtPoint) s) =
        (calls.map (hatYReport locateAtPoint config)).foldl Link.report (hatYLink s) := by
  induction calls generalizing s with
  | nil => exact ⟨h, fun _ => rfl, rfl, rfl⟩
  | cons call calls ih =>
      obtain ⟨hattempted, hkey, hX, hY⟩ := ih (h.attempt call)
      obtain ⟨hcallX, hcallY⟩ := hatLink_attempt h call
      refine ⟨hattempted, fun button => ?_, ?_, ?_⟩
      · rw [List.foldl_cons, hkey, keyLink_attempt h, List.map_cons, List.foldl_cons]
      · rw [List.foldl_cons, hX, hcallX, List.map_cons, List.foldl_cons]
      · rw [List.foldl_cons, hY, hcallY, List.map_cons, List.foldl_cons]

variable (locateAtPoint config) in
/-- What the device shows is what the last change of each control that has been
delivered says. -/
theorem attempts_shown (calls : List (Call ε)) :
    ButtonKeys (attempts locateAtPoint config calls).2.keys ∧
      (∀ button, decide (mapButtonToDs4 button ∈ (attempts locateAtPoint config calls).2.keys) =
        lastDelivered false (calls.map (keyReport locateAtPoint config button))) ∧
      (attempts locateAtPoint config calls).2.axes .hat0X =
        lastDelivered 0 (calls.map (hatXReport locateAtPoint config)) ∧
      (attempts locateAtPoint config calls).2.axes .hat0Y =
        lastDelivered 0 (calls.map (hatYReport locateAtPoint config)) := by
  obtain ⟨hattempted, hkey, hX, hY⟩ :=
    foldl_attempt (attempted_initial config) calls
  refine ⟨hattempted.keys, fun button => ?_, ?_, ?_⟩
  · rw [← shown_eq_lastDelivered]
    exact congrArg Link.shown (hkey button)
  · rw [← shown_eq_lastDelivered]
    exact congrArg Link.shown hX
  · rw [← shown_eq_lastDelivered]
    exact congrArg Link.shown hY

/-! ## Lost changes -/

/-- For every control the last change of it that has been delivered, if there is one,
gave it the value that it has in the report. -/
structure NothingLost (locateAtPoint : LocateAtPoint) (config : Config) (calls : List (Call ε))
    (report : MainReport) : Prop where
  buttons : ∀ button, lastDelivered false (calls.map (keyReport locateAtPoint config button)) =
    decide (button ∈ pressedButtons locateAtPoint config report)
  hatX : lastDelivered 0 (calls.map (hatXReport locateAtPoint config)) =
    (hat locateAtPoint config report).1
  hatY : lastDelivered 0 (calls.map (hatYReport locateAtPoint config)) =
    (hat locateAtPoint config report).2

/-- A failure of another write than the first loses nothing. -/
theorem nothingLost_of_delivered {earlier : List (Call ε)} {call : Call ε}
    (h : ∀ c ∈ earlier ++ [call], c.delivered = true) :
    NothingLost locateAtPoint config (earlier ++ [call]) call.report where
  buttons button := by
    rw [lastDelivered_of_all_delivered (List.forall_mem_map.mpr h)]
    simp [keyReport]
  hatX := by
    rw [lastDelivered_of_all_delivered (List.forall_mem_map.mpr h)]
    simp [hatXReport]
  hatY := by
    rw [lastDelivered_of_all_delivered (List.forall_mem_map.mpr h)]
    simp [hatYReport]

theorem keys_eq_iff {keys : Finset Key} (h : ButtonKeys keys) (buttons : Finset Button) :
    keys = buttons.image mapButtonToDs4 ↔
      ∀ button, decide (mapButtonToDs4 button ∈ keys) = decide (button ∈ buttons) := by
  simp only [decide_eq_decide]
  constructor
  · rintro rfl button
    exact mapButtonToDs4_injective.mem_finset_image
  · intro hsame
    ext key
    constructor
    · intro hkey
      obtain ⟨button, rfl⟩ := h key hkey
      exact Finset.mem_image_of_mem _ ((hsame button).mp hkey)
    · intro hkey
      obtain ⟨button, hbutton, rfl⟩ := Finset.mem_image.mp hkey
      exact (hsame button).mpr hbutton

end

/-- However the writes of the calls before have failed, a call leaves the main device
with the keys of its pressed set and its hat exactly when no change has been lost
that this depends on. -/
theorem failed_reports_lose_nothing_iff (locateAtPoint : LocateAtPoint) (config : Config)
    (earlier : List (Call ε)) (call : Call ε) :
    ((attempt locateAtPoint (attempts locateAtPoint config earlier) call).2.keys =
          (pressedButtons locateAtPoint config call.report).image mapButtonToDs4 ∧
        ((attempt locateAtPoint (attempts locateAtPoint config earlier) call).2.axes .hat0X,
            (attempt locateAtPoint (attempts locateAtPoint config earlier) call).2.axes .hat0Y) =
          dpadDirectionToAxisValues (hatDirection locateAtPoint config call.report)) ↔
      NothingLost locateAtPoint config (earlier ++ [call]) call.report := by
  have hlast : attempt locateAtPoint (attempts locateAtPoint config earlier) call =
      attempts locateAtPoint config (earlier ++ [call]) := by
    rw [attempts, attempts, List.foldl_append, List.foldl_cons, List.foldl_nil]
  obtain ⟨hbuttons, hkey, hX, hY⟩ :=
    attempts_shown locateAtPoint config (earlier ++ [call])
  rw [hlast, keys_eq_iff hbuttons, hX, hY, Prod.ext_iff]
  simp only [hkey]
  constructor
  · rintro ⟨hkeys, hhat⟩
    exact ⟨hkeys, hhat.1, hhat.2⟩
  · rintro ⟨hkeys, hatX, hatY⟩
    exact ⟨hkeys, hatX, hatY⟩

def lostCross : Call Unit := { sentCall crossReport with failure := some (0, ()) }

/-- The cross is held, the next report is sent, and the device shows it released. -/
theorem not_failed_reports_lose_nothing :
    (sendReport firstZone (attempts firstZone .rearRl2FrontRl3 [lostCross]).1
        (sentCall crossReport)).result = .ok () ∧
      (attempt firstZone (attempts firstZone .rearRl2FrontRl3 [lostCross])
          (sentCall crossReport)).2.keys ≠
        (pressedButtons firstZone .rearRl2FrontRl3 crossReport).image mapButtonToDs4 := by
  refine ⟨sendReport_of_no_failure _ _ rfl, fun hkeys => ?_⟩
  obtain ⟨-, hkey, -⟩ :=
    attempts_shown firstZone .rearRl2FrontRl3 [lostCross, sentCall crossReport]
  have hcross := hkey .cross
  have hshown : (attempts firstZone .rearRl2FrontRl3 [lostCross, sentCall crossReport]).2.keys =
      (pressedButtons firstZone .rearRl2FrontRl3 crossReport).image mapButtonToDs4 := hkeys
  rw [hshown] at hcross
  exact absurd hcross (by decide)

end VitaOxiPad.VirtualDevice.Linux
