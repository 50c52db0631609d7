import VitaOxiPad.Device.LinuxSetup
/-!
# The devices behind the Linux driver

Reports are sent and the configuration is changed in any order.  Each device shows its part
of the last report.
-/

namespace VitaOxiPad.VirtualDevice.Linux

open SetChanges
open Client.VitaReports

/-! ## The driver and its devices -/

structure ConfigBuilder where
  frontTouchConfig : Option (Option TouchConfig)
  rearTouchConfig : Option (Option TouchConfig)
  triggerConfig : Option TriggerConfig
  touchpadSource : Option (Option TouchpadSource)
  deriving DecidableEq, Repr

/-- What `set_config` makes of the configuration.  The touchpad keeps its source. -/
def setConfig (config : Config) (builder : ConfigBuilder) : Config where
  frontTouchConfig := builder.frontTouchConfig.getD config.frontTouchConfig
  rearTouchConfig := builder.rearTouchConfig.getD config.rearTouchConfig
  triggerConfig := builder.triggerConfig.getD config.triggerConfig
  touchpadSource := config.touchpadSource

inductive Request (ε : Type) where
  | setConfig (builder : ConfigBuilder)
  | sendReport (call : Call ε)

structure Devices where
  driver : VitaDevice
  /-- What the readers of each device have made of its events. -/
  device : Handle → Evdev

namespace Devices

variable {ε : Type}

def new (config : Config) : Devices := ⟨.new config, fun _ => .initial⟩

def receive (s : Devices) (writes : List Write) (handle : Handle) : Evdev :=
  (s.device handle).replay
    ((onHandle handle writes).filter (handle.setup s.driver.config.touchpadSource).passes)

def step (locateAtPoint : LocateAtPoint) (s : Devices) :
    Request ε → Except (Error ε) Devices
  | .setConfig builder =>
      .ok { s with driver := { s.driver with config := setConfig s.driver.config builder } }
  | .sendReport call =>
      let sent := sendReport locateAtPoint s.driver call
      sent.result.map fun _ => ⟨sent.device, s.receive sent.written⟩

def run (locateAtPoint : LocateAtPoint) (config : Config) (requests : List (Request ε)) :
    Except (Error ε) Devices :=
  StepRun.run (step locateAtPoint) (.new config) requests

end Devices

/-! ## The main device and the keyboard -/

section

variable {ε : Type} (locateAtPoint : LocateAtPoint) (d : VitaDevice) (call : Call ε)

theorem mapButtonToDs4_mem_main (button : Button) :
    mapButtonToDs4 button ∈ mainSetup.keybits := by
  cases button <;> decide

theorem mapButtonToDs4_not_mem_keyboard (button : Button) :
    mapButtonToDs4 button ∉ keyboardSetup.keybits := by
  cases button <;> decide

def buttonChanges : List (Change Key) :=
  difference
    ((call.pressOrder.list (pressedButtons locateAtPoint d.config call.report \
      d.previousButtons)).map mapButtonToDs4)
    ((call.releaseOrder.list (d.previousButtons \
      pressedButtons locateAtPoint d.config call.report)).map mapButtonToDs4)

def volumeChanges : List (Change Key) :=
  (if call.report.buttons.volUp then tap .volumeUp else []) ++
    if call.report.buttons.volDown then tap .volumeDown else []

theorem keyChanges_mainEvents_eq :
    keyChanges (mainEvents locateAtPoint d call).1 =
      buttonChanges locateAtPoint d call ++ volumeChanges call :=
  keyChanges_mainEvents locateAtPoint d call

theorem changeKey_buttonChanges :
    ∀ change ∈ buttonChanges locateAtPoint d call, ∃ button,
      mapButtonToDs4 button = changeKey change := by
  intro change hchange
  simp only [buttonChanges, difference, List.mem_append, List.mem_map] at hchange
  rcases hchange with ⟨key, ⟨button, -, rfl⟩, rfl⟩ | ⟨key, ⟨button, -, rfl⟩, rfl⟩
  · exact ⟨button, rfl⟩
  · exact ⟨button, rfl⟩

theorem changeKey_tap {key : Key} {isDown : Bool} {change : Change Key}
    (h : change ∈ if isDown then tap key else []) : changeKey change = key := by
  cases isDown with
  | false => cases h
  | true =>
      rcases List.mem_cons.mp h with rfl | h
      · rfl
      · rw [List.mem_singleton.mp h]
        rfl

theorem changeKey_volumeChanges :
    ∀ change ∈ volumeChanges call, changeKey change ∈ keyboardSetup.keybits := by
  intro change hchange
  rcases List.mem_append.mp hchange with hup | hdown
  · rw [changeKey_tap hup]
    decide
  · rw [changeKey_tap hdown]
    decide

theorem not_mem_main_of_mem_keyboard {key : Key} (h : key ∈ keyboardSetup.keybits) :
    key ∉ mainSetup.keybits := by
  intro hmain
  obtain ⟨button, -, rfl⟩ := List.mem_map.mp hmain
  exact mapButtonToDs4_not_mem_keyboard button h

/-- The main device gets the buttons, not the volume keys. -/
theorem main_passes :
    (keyChanges (mainEvents locateAtPoint d call).1).filter
        (fun change => decide (changeKey change ∈ mainSetup.keybits)) =
      buttonChanges locateAtPoint d call := by
  rw [keyChanges_mainEvents_eq, List.filter_append, List.filter_eq_self.mpr,
    List.filter_eq_nil_iff.mpr, List.append_nil]
  · intro change hchange
    simpa using not_mem_main_of_mem_keyboard (changeKey_volumeChanges call change hchange)
  · intro change hchange
    obtain ⟨button, hbutton⟩ := changeKey_buttonChanges locateAtPoint d call change hchange
    rw [← hbutton]
    exact decide_eq_true (mapButtonToDs4_mem_main button)

/-- The keyboard gets the volume keys, not the buttons. -/
theorem keyboard_passes :
    (keyChanges (mainEvents locateAtPoint d call).1).filter
        (fun change => decide (changeKey change ∈ keyboardSetup.keybits)) =
      volumeChanges call := by
  rw [keyChanges_mainEvents_eq, List.filter_append, List.filter_eq_nil_iff.mpr,
    List.filter_eq_self.mpr, List.nil_append]
  · intro change hchange
    exact decide_eq_true (changeKey_volumeChanges call change hchange)
  · intro change hchange
    obtain ⟨button, hbutton⟩ := changeKey_buttonChanges locateAtPoint d call change hchange
    rw [← hbutton]
    simpa using mapButtonToDs4_not_mem_keyboard button

end

/-! ## One report -/

theorem keys_passed (setup : Setup) (e : Evdev) (events : List InputEvent) :
    (e.replay ((events ++ [InputEvent.synchronize]).filter setup.passes)).keys =
      SetChanges.replay e.keys
        ((keyChanges events).filter fun change => decide (changeKey change ∈ setup.keybits)) := by
  rw [Evdev.keys_replay, keyChanges_passed]

theorem axes_passed {setup : Setup} {axis : AbsoluteAxis} (h : axis ∈ setup.axes.map (·.axis))
    (hplain : ¬ axis.Multitouch) (e : Evdev) (events : List InputEvent) :
    (e.replay ((events ++ [InputEvent.synchronize]).filter setup.passes)).axes axis =
      (axisValues axis events).getLastD (e.axes axis) := by
  rw [Evdev.axes_replay hplain, axisValues_passed h]

section

variable {ε : Type} (locateAtPoint : LocateAtPoint) (d : VitaDevice) (call : Call ε)

theorem replay_buttonChanges :
    SetChanges.replay (d.previousButtons.image mapButtonToDs4)
        (buttonChanges locateAtPoint d call) =
      (pressedButtons locateAtPoint d.config call.report).image mapButtonToDs4 := by
  have hpress := (call.pressOrder.enumerates
    (pressedButtons locateAtPoint d.config call.report \ d.previousButtons)).map
      mapButtonToDs4_injective
  have hrelease := (call.releaseOrder.enumerates
    (d.previousButtons \ pressedButtons locateAtPoint d.config call.report)).map
      mapButtonToDs4_injective
  rw [Finset.image_sdiff _ _ mapButtonToDs4_injective] at hpress hrelease
  exact replay_difference hpress hrelease

theorem replay_volumeChanges : SetChanges.replay ∅ (volumeChanges call) = ∅ := by
  have htap : ∀ (isDown : Bool) (key : Key),
      SetChanges.replay ∅ (if isDown then tap key else []) = ∅ := by
    intro isDown key
    cases isDown with
    | false => rfl
    | true => exact replay_tap (Finset.notMem_empty key)
  rw [volumeChanges, SetChanges.replay_append, htap, htap]

/-- The sticks have no other events than their own. -/
theorem axisValues_mainEvents_stick {axis : AbsoluteAxis} (hX : axis ≠ .hat0X)
    (hY : axis ≠ .hat0Y) :
    axisValues axis (mainEvents locateAtPoint d call).1 =
      axisValues axis (createStickEvents call.report) := by
  simp only [mainEvents, axisValues_append, axisValues_buttonEvents, axisValues_volumeEvent,
    axisValues_dpadEvent_of_ne hX.symm, axisValues_dpadEvent_of_ne hY.symm, List.append_nil,
    List.nil_append]

theorem onHandle_other_writes {handle : Handle} (h : handle ≠ .touchpad) (report : MainReport)
    (events : List InputEvent) :
    onHandle handle (mainWrites events ++ (touchpadWrites d report).1 ++ sensorWrites report) =
      onHandle handle (mainWrites events) ++ onHandle handle (sensorWrites report) := by
  have htouch : (touchpadWrites d report).1.filter (·.1 = handle) = [] := by
    rw [List.filter_eq_nil_iff]
    intro w hw
    simp [touchpadWrites_handle d report w hw, h.symm]
  simp only [onHandle, List.filter_append, htouch, List.append_nil, List.flatMap_append]

theorem onHandle_keyboard_writes (report : MainReport) (events : List InputEvent) :
    onHandle .keyboard (mainWrites events ++ (touchpadWrites d report).1 ++
        sensorWrites report) = events ++ [.synchronize] := by
  rw [onHandle_other_writes d (by simp)]
  simp [onHandle, mainWrites, sensorWrites]

theorem onHandle_sensor_writes (report : MainReport) (events : List InputEvent) :
    onHandle .sensor (mainWrites events ++ (touchpadWrites d report).1 ++
        sensorWrites report) = createMotionEvents report ++ [.synchronize] := by
  rw [onHandle_other_writes d (by simp)]
  simp [onHandle, mainWrites, sensorWrites]

end

namespace Devices

variable {ε : Type} {locateAtPoint : LocateAtPoint} {s t : Devices} {call : Call ε}

theorem sendReport_eq_ok (h : s.step locateAtPoint (.sendReport call) = .ok t) :
    (sendReport locateAtPoint s.driver call).result = .ok () ∧
      t = ⟨(sendReport locateAtPoint s.driver call).device,
        s.receive (sendReport locateAtPoint s.driver call).written⟩ := by
  simp only [step] at h
  cases hresult : (sendReport locateAtPoint s.driver call).result with
  | error e =>
      rw [hresult] at h
      cases h
  | ok _ =>
      rw [hresult] at h
      cases h
      exact ⟨rfl, rfl⟩

/-- The driver and a reader of all events of a handle, whether they are passed on or not. -/
theorem replayStep_of_step (h : s.step locateAtPoint (.sendReport call) = .ok t)
    (handle : Handle) (e : Evdev) :
    replayStep locateAtPoint handle (s.driver, e) call =
      .ok (t.driver, e.replay
        (onHandle handle (sendReport locateAtPoint s.driver call).written)) := by
  obtain ⟨hresult, rfl⟩ := sendReport_eq_ok h
  exact replayStep_eq_ok_iff.mpr ⟨hresult, rfl⟩

/-- What is on the devices when all reports have been sent. -/
structure Consistent (s : Devices) : Prop where
  main : Mirrors s.driver.config (s.driver, s.device .main)
  keyboard : (s.device .keyboard).keys = ∅
  touchpad : ∀ source, s.driver.config.touchpadSource = some source →
    Follows (touchpadOf source (s.driver, s.device .touchpad))
  noTouchpad : s.driver.config.touchpadSource = none → s.device .touchpad = .initial

structure ShowsReport (locateAtPoint : LocateAtPoint) (config : Config) (report : MainReport)
    (s : Devices) : Prop where
  buttons : (s.device .main).keys =
    (pressedButtons locateAtPoint config report).image mapButtonToDs4
  hat : ((s.device .main).axes .hat0X, (s.device .main).axes .hat0Y) =
    dpadDirectionToAxisValues (hatDirection locateAtPoint config report)
  sticks : ∀ axis value, .absolute axis value ∈ createStickEvents report →
    (s.device .main).axes axis = value
  keyboard : (s.device .keyboard).keys = ∅
  touchpad : ∀ source, config.touchpadSource = some source →
    Shows (touchpadOf source (s.driver, s.device .touchpad)) (panelTouches source report)
  noTouchpad : config.touchpadSource = none → s.device .touchpad = .initial
  motion : ∀ axis value, .absolute axis value ∈ createMotionEvents report →
    (s.device .sensor).axes axis = value

theorem consistent_new (config : Config) : Consistent (.new config) where
  main := mirrors_initial config
  keyboard := rfl
  touchpad source _ := by
    cases source with
    | front => exact follows_initial
    | rear => exact follows_initial
  noTouchpad _ := rfl

theorem Consistent.setConfig (h : s.Consistent) (builder : ConfigBuilder) :
    Consistent { s with
      driver := { s.driver with config := setConfig s.driver.config builder } } where
  main := ⟨rfl, h.main.keys, h.main.hatX, h.main.hatY⟩
  keyboard := h.keyboard
  touchpad source hsource := by
    have hfollows := h.touchpad source hsource
    cases source <;> exact hfollows
  noTouchpad := h.noTouchpad

theorem device_main (h : s.step locateAtPoint (.sendReport call) = .ok t) :
    t.device .main = (s.device .main).replay
      (((mainEvents locateAtPoint s.driver call).1 ++ [InputEvent.synchronize]).filter
        mainSetup.passes) := by
  obtain ⟨hresult, rfl⟩ := sendReport_eq_ok h
  show s.receive _ .main = _
  rw [receive, (sendReport_ok hresult).2, onHandle_main_writes]
  rfl

theorem device_keyboard (h : s.step locateAtPoint (.sendReport call) = .ok t) :
    t.device .keyboard = (s.device .keyboard).replay
      (((mainEvents locateAtPoint s.driver call).1 ++ [InputEvent.synchronize]).filter
        keyboardSetup.passes) := by
  obtain ⟨hresult, rfl⟩ := sendReport_eq_ok h
  show s.receive _ .keyboard = _
  rw [receive, (sendReport_ok hresult).2, onHandle_keyboard_writes]
  rfl

theorem device_sensor (h : s.step locateAtPoint (.sendReport call) = .ok t) :
    t.device .sensor = (s.device .sensor).replay
      ((createMotionEvents call.report ++ [InputEvent.synchronize]).filter sensorSetup.passes) := by
  obtain ⟨hresult, rfl⟩ := sendReport_eq_ok h
  show s.receive _ .sensor = _
  rw [receive, (sendReport_ok hresult).2, onHandle_sensor_writes]
  rfl

/-- Nothing is kept from the readers of the touchpad. -/
theorem device_touchpad (h : s.step locateAtPoint (.sendReport call) = .ok t) :
    t.device .touchpad = (s.device .touchpad).replay
      (onHandle .touchpad (sendReport locateAtPoint s.driver call).written) := by
  obtain ⟨hresult, rfl⟩ := sendReport_eq_ok h
  show s.receive _ .touchpad = _
  have hpasses : ∀ event ∈ onHandle .touchpad (sendReport locateAtPoint s.driver call).written,
      (touchpadSetup s.driver.config.touchpadSource).passes event = true := by
    rw [(sendReport_ok hresult).2, onHandle_touchpad_writes]
    intro event hevent
    unfold touchpadWrites at hevent
    split at hevent
    · rw [onHandle_synchronized] at hevent
      rcases List.mem_append.mp hevent with hevent | hevent
      · exact touchpad_passes _ (mem_createTouchEvents hevent)
      · rw [List.mem_singleton.mp hevent]
        rfl
    · rw [onHandle_synchronized] at hevent
      rcases List.mem_append.mp hevent with hevent | hevent
      · exact touchpad_passes _ (mem_createTouchEvents hevent)
      · rw [List.mem_singleton.mp hevent]
        rfl
    · cases hevent
  rw [receive, Handle.setup, List.filter_eq_self.mpr hpasses]

theorem driver_remembers (h : s.step locateAtPoint (.sendReport call) = .ok t) :
    t.driver.config = s.driver.config ∧
      t.driver.previousButtons = pressedButtons locateAtPoint s.driver.config call.report ∧
      (t.driver.previousHatX, t.driver.previousHatY) =
        dpadDirectionToAxisValues (hatDirection locateAtPoint s.driver.config call.report) := by
  obtain ⟨-, rfl⟩ := sendReport_eq_ok h
  exact sendReport_remembers locateAtPoint s.driver call

theorem axes_main (h : s.step locateAtPoint (.sendReport call) = .ok t) {axis : AbsoluteAxis}
    (haxis : axis ∈ mainSetup.axes.map (·.axis)) (hplain : ¬ axis.Multitouch) :
    (t.device .main).axes axis =
      (axisValues axis (mainEvents locateAtPoint s.driver call).1).getLastD
        ((s.device .main).axes axis) := by
  rw [device_main h, axes_passed haxis hplain]

theorem Consistent.main_step (hs : s.Consistent)
    (h : s.step locateAtPoint (.sendReport call) = .ok t) :
    Mirrors t.driver.config (t.driver, t.device .main) where
  config := rfl
  keys := by
    rw [device_main h, keys_passed, main_passes, hs.main.keys, replay_buttonChanges,
      (driver_remembers h).2.1]
  hatX := by
    obtain ⟨-, -, hhat⟩ := driver_remembers h
    have hremembered := (mainEvents_remembers locateAtPoint s.driver call).2
    rw [axes_main h (by decide) id, hs.main.hatX,
      (axisValues_mainEvents locateAtPoint s.driver call).1]
    exact congrArg Prod.fst (hremembered.trans hhat.symm)
  hatY := by
    obtain ⟨-, -, hhat⟩ := driver_remembers h
    have hremembered := (mainEvents_remembers locateAtPoint s.driver call).2
    rw [axes_main h (by decide) id, hs.main.hatY,
      (axisValues_mainEvents locateAtPoint s.driver call).2]
    exact congrArg Prod.snd (hremembered.trans hhat.symm)

theorem sticks_step (h : s.step locateAtPoint (.sendReport call) = .ok t) (axis : AbsoluteAxis)
    (value : Int) (hvalue : .absolute axis value ∈ createStickEvents call.report) :
    (t.device .main).axes axis = value := by
  have hstick : axis ∈ [AbsoluteAxis.x, .y, .rx, .ry] := by
    simp only [createStickEvents, List.mem_cons, InputEvent.absolute.injEq, List.not_mem_nil,
      or_false] at hvalue ⊢
    exact hvalue.imp And.left (.imp And.left (.imp And.left And.left))
  simp only [List.mem_cons, List.not_mem_nil, or_false] at hstick
  rcases hstick with rfl | rfl | rfl | rfl <;>
    rw [axes_main h (by decide) id, axisValues_mainEvents_stick _ _ _ (by simp) (by simp)] <;>
    simpa [createStickEvents, axisValues, InputEvent.valueOf?, eq_comm] using hvalue

theorem motion_step (h : s.step locateAtPoint (.sendReport call) = .ok t) (axis : AbsoluteAxis)
    (value : Int) (hvalue : .absolute axis value ∈ createMotionEvents call.report) :
    (t.device .sensor).axes axis = value := by
  have hmotion : axis ∈ [AbsoluteAxis.x, .y, .z, .rx, .ry, .rz] := by
    simp only [createMotionEvents, List.mem_cons, InputEvent.absolute.injEq, List.not_mem_nil,
      or_false] at hvalue ⊢
    exact hvalue.imp And.left (.imp And.left (.imp And.left (.imp And.left
      (.imp And.left And.left))))
  simp only [List.mem_cons, List.not_mem_nil, or_false] at hmotion
  rcases hmotion with rfl | rfl | rfl | rfl | rfl | rfl <;>
    rw [device_sensor h, axes_passed (by decide) id] <;>
    simpa [createMotionEvents, axisValues, InputEvent.valueOf?, eq_comm] using hvalue

theorem Consistent.keyboard_step (hs : s.Consistent)
    (h : s.step locateAtPoint (.sendReport call) = .ok t) : (t.device .keyboard).keys = ∅ := by
  rw [device_keyboard h, keys_passed, keyboard_passes, hs.keyboard, replay_volumeChanges]

theorem Consistent.touchpad_step (hs : s.Consistent)
    (h : s.step locateAtPoint (.sendReport call) = .ok t) {source : TouchpadSource}
    (hsource : s.driver.config.touchpadSource = some source) :
    Follows (touchpadOf source (t.driver, t.device .touchpad)) ∧
      Shows (touchpadOf source (t.driver, t.device .touchpad))
        (panelTouches source call.report) := by
  have hall := replayStep_of_step h .touchpad (s.device .touchpad)
  rw [← device_touchpad h] at hall
  obtain ⟨-, hstep⟩ := touchpadOf_step rfl hsource hall
  have hslots : slotCount source ≤ 2 ^ 31 := by cases source <;> decide
  obtain ⟨hfollows, hshows, -⟩ := (hs.touchpad source hsource).step hslots
    (panelTouches source call.report)
  rw [hstep]
  exact ⟨hfollows, hshows⟩

theorem noTouchpad_step (h : s.step locateAtPoint (.sendReport call) = .ok t)
    (hsource : s.driver.config.touchpadSource = none) :
    t.device .touchpad = s.device .touchpad := by
  obtain ⟨hresult, -⟩ := sendReport_eq_ok h
  have hnone : (touchpadWrites (mainEvents locateAtPoint s.driver call).2 call.report).1 = [] := by
    have hconfig : (mainEvents locateAtPoint s.driver call).2.config.touchpadSource = none :=
      hsource
    rw [touchpadWrites, hconfig]
  rw [device_touchpad h, (sendReport_ok hresult).2, onHandle_touchpad_writes, hnone]
  rfl

/-- A report that is sent is shown, and leaves the devices ready for the next one. -/
theorem Consistent.sendReport (hs : s.Consistent)
    (h : s.step locateAtPoint (.sendReport call) = .ok t) :
    t.Consistent ∧ ShowsReport locateAtPoint s.driver.config call.report t := by
  obtain ⟨hconfig, hbuttons, hhat⟩ := driver_remembers h
  have hmain := hs.main_step h
  constructor
  · refine ⟨hmain, hs.keyboard_step h, ?_, ?_⟩
    · intro source hsource
      rw [hconfig] at hsource
      exact (hs.touchpad_step h hsource).1
    · intro hsource
      rw [hconfig] at hsource
      rw [noTouchpad_step h hsource, hs.noTouchpad hsource]
  · refine ⟨?_, ?_, sticks_step h, hs.keyboard_step h, ?_, ?_, motion_step h⟩
    · rw [hmain.keys, hbuttons]
    · rw [hmain.hatX, hmain.hatY, hhat]
    · exact fun source hsource => (hs.touchpad_step h hsource).2
    · intro hsource
      rw [noTouchpad_step h hsource, hs.noTouchpad hsource]

/-! ## Runs -/

def configInForce (config : Config) (requests : List (Request ε)) : Config :=
  requests.foldl
    (fun config request =>
      match request with
      | .setConfig builder => setConfig config builder
      | .sendReport _ => config) config

theorem run_consistent {config : Config} {requests : List (Request ε)}
    (h : run locateAtPoint config requests = .ok s) :
    s.Consistent ∧ s.driver.config = configInForce config requests := by
  induction requests using List.reverseRecOn generalizing s with
  | nil =>
      cases h
      exact ⟨consistent_new config, rfl⟩
  | append_singleton requests request ih =>
      obtain ⟨u, hu, hstep⟩ := (StepRun.run_concat_eq_ok_iff _ requests request s).mp h
      obtain ⟨hconsistent, hconfig⟩ := ih hu
      rw [configInForce, List.foldl_append]
      cases request with
      | setConfig builder =>
          cases hstep
          exact ⟨hconsistent.setConfig builder, congrArg (setConfig · builder) hconfig⟩
      | sendReport call =>
          refine ⟨(hconsistent.sendReport hstep).1, ?_⟩
          rw [(driver_remembers hstep).1, hconfig]
          rfl

/-- Whatever reports have been sent before and however the configuration has been changed,
after a report has been sent each of the four devices shows its part of the report, as the
configuration in force has it. -/
theorem devices_show_report (locateAtPoint : LocateAtPoint) (config : Config)
    (earlier : List (Request ε)) (call : Call ε) (s t : Devices)
    (hs : run locateAtPoint config earlier = .ok s)
    (ht : s.step locateAtPoint (.sendReport call) = .ok t) :
    ShowsReport locateAtPoint (configInForce config earlier) call.report t := by
  obtain ⟨hconsistent, hconfig⟩ := run_consistent hs
  rw [← hconfig]
  exact (hconsistent.sendReport ht).2

theorem step_sentCall (s : Devices) (report : MainReport) :
    ∃ t, s.step firstZone (.sendReport (sentCall report)) = .ok t := by
  have hok : (Linux.sendReport firstZone s.driver (sentCall report)).result = .ok () :=
    sendReport_of_no_failure firstZone s.driver rfl
  exact ⟨⟨_, s.receive (Linux.sendReport firstZone s.driver (sentCall report)).written⟩, by
    simp only [step, hok]
    rfl⟩

def triggersAsShoulders : ConfigBuilder := ⟨none, none, some .shoulder, none⟩

def switched : List (Request Unit) :=
  [.sendReport (sentCall crossReport), .setConfig triggersAsShoulders]

theorem run_switched :
    ∃ s, run firstZone .frontTopRl2BottomRl3RearTouchpad switched = .ok s := by
  obtain ⟨u, hu⟩ := step_sentCall (.new .frontTopRl2BottomRl3RearTouchpad) crossReport
  obtain ⟨s, hs⟩ : ∃ s, u.step (ε := Unit) firstZone (.setConfig triggersAsShoulders) = .ok s :=
    ⟨_, rfl⟩
  refine ⟨s, ?_⟩
  rw [run, switched, StepRun.run_cons_of_ok hu, StepRun.run_cons_of_ok hs]
  rfl

theorem devices_show_report_of_switched :
    ∃ s t, run firstZone .frontTopRl2BottomRl3RearTouchpad switched = .ok s ∧
      s.step firstZone (.sendReport (sentCall rearReport)) = .ok t ∧
      ShowsReport firstZone (configInForce .frontTopRl2BottomRl3RearTouchpad switched)
        rearReport t := by
  obtain ⟨s, hs⟩ := run_switched
  obtain ⟨t, ht⟩ := step_sentCall s rearReport
  exact ⟨s, t, hs, ht, devices_show_report firstZone .frontTopRl2BottomRl3RearTouchpad switched
    (sentCall rearReport) s t hs ht⟩

end Devices

end VitaOxiPad.VirtualDevice.Linux
