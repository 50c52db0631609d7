import VitaOxiPad.Device.Linux
import VitaOxiPad.Lib.StepRun
/-!
# Replaying the Linux main device

The main device gets the differences between the buttons of a report and those
of the report before, and a hat axis only when it changes.  A reader that replays
the events of the reports that were sent has, after each of them, the keys of its
pressed set and its hat.
-/

namespace VitaOxiPad.VirtualDevice

open SetChanges
open Client.VitaReports

def TouchAction.button? : TouchAction → Option Button
  | .button b => some b
  | .dpad _ => none

def TouchAction.dpad? : TouchAction → Option DpadDirection
  | .dpad d => some d
  | .button _ => none

namespace Linux

variable {ε : Type}

def pressedButtons (locateAtPoint : LocateAtPoint) (config : Config) (report : MainReport) :
    Finset Button :=
  (getPressedButtons report.buttons config.triggerConfig).toFinset ∪
    ((touchActions locateAtPoint config report).filterMap (·.button?)).toFinset

/-- The last touched zone with a direction decides, else the physical buttons. -/
def hatDirection (locateAtPoint : LocateAtPoint) (config : Config) (report : MainReport) :
    DpadDirection :=
  ((touchActions locateAtPoint config report).filterMap (·.dpad?)).getLastD
    (computeDpadDirection report.buttons)

def onHandle (handle : Handle) (writes : List Write) : List InputEvent :=
  (writes.filter (·.1 = handle)).flatMap (·.2)

def replayStep (locateAtPoint : LocateAtPoint) (handle : Handle) (s : VitaDevice × Evdev)
    (call : Call ε) : Except (Error ε) (VitaDevice × Evdev) :=
  let sent := sendReport locateAtPoint s.1 call
  sent.result.map fun _ => (sent.device, s.2.replay (onHandle handle sent.written))

def replayRun (locateAtPoint : LocateAtPoint) (handle : Handle) (config : Config)
    (calls : List (Call ε)) : Except (Error ε) (VitaDevice × Evdev) :=
  StepRun.run (replayStep locateAtPoint handle) (.new config, .initial) calls

/-! ## The pressed set -/

theorem mapButtonToDs4_injective : Function.Injective mapButtonToDs4 := by
  intro a b h
  cases a <;> cases b <;> first | rfl | cases h

theorem foldl_act (actions : List TouchAction) (buttons : Finset Button)
    (direction : DpadDirection) :
    actions.foldl Pressed.act ⟨buttons, (dpadDirectionToAxisValues direction).1,
        (dpadDirectionToAxisValues direction).2⟩ =
      ⟨buttons ∪ (actions.filterMap (·.button?)).toFinset,
        (dpadDirectionToAxisValues ((actions.filterMap (·.dpad?)).getLastD direction)).1,
        (dpadDirectionToAxisValues ((actions.filterMap (·.dpad?)).getLastD direction)).2⟩ := by
  induction actions generalizing buttons direction with
  | nil => simp
  | cons action actions ih =>
      cases action with
      | button button =>
          have hbuttons : (TouchAction.button button :: actions).filterMap (·.button?) =
              button :: actions.filterMap (·.button?) := rfl
          refine (ih (insert button buttons) direction).trans ?_
          rw [hbuttons, List.toFinset_cons, Finset.union_insert, Finset.insert_union]
          rfl
      | dpad direction' =>
          have hdpads : (TouchAction.dpad direction' :: actions).filterMap (·.dpad?) =
              direction' :: actions.filterMap (·.dpad?) := rfl
          refine (ih buttons direction').trans ?_
          rw [hdpads, List.getLastD_cons]
          rfl

theorem pressed_eq (locateAtPoint : LocateAtPoint) (config : Config) (report : MainReport) :
    pressed locateAtPoint config report =
      ⟨pressedButtons locateAtPoint config report,
        (dpadDirectionToAxisValues (hatDirection locateAtPoint config report)).1,
        (dpadDirectionToAxisValues (hatDirection locateAtPoint config report)).2⟩ :=
  foldl_act _ _ _

/-! ## The events of the main device -/

/-- All events of a list are of one key each. -/
theorem keyChanges_buttonEvents (state : KeyState) (change : Key → Change Key)
    (h : ∀ key, (InputEvent.key key state).keyChange? = some (change key))
    (buttons : List Button) :
    keyChanges (buttonEvents state buttons) = (buttons.map mapButtonToDs4).map change := by
  induction buttons with
  | nil => rfl
  | cons button buttons ih =>
      rw [buttonEvents, List.map_cons, keyChanges, List.filterMap_cons_some (h _)]
      exact congrArg (change (mapButtonToDs4 button) :: ·) ih

theorem axisValues_buttonEvents (axis : AbsoluteAxis) (state : KeyState)
    (buttons : List Button) : axisValues axis (buttonEvents state buttons) = [] := by
  induction buttons with
  | nil => rfl
  | cons button buttons ih => exact ih

theorem keyChanges_dpadEvent (axis : AbsoluteAxis) (previous value : Int) :
    keyChanges (dpadEvent axis previous value) = [] := by
  unfold dpadEvent
  split_ifs <;> rfl

/-- The last value of the axis is the new one, written or not. -/
theorem axisValues_dpadEvent (axis : AbsoluteAxis) (previous value : Int) :
    (axisValues axis (dpadEvent axis previous value)).getLastD previous = value := by
  unfold dpadEvent
  split_ifs with h
  · simp [axisValues, InputEvent.valueOf?]
  · exact (not_not.mp h).symm

theorem axisValues_dpadEvent_of_ne {axis other : AbsoluteAxis} (h : other ≠ axis)
    (previous value : Int) : axisValues axis (dpadEvent other previous value) = [] := by
  unfold dpadEvent
  split_ifs <;> simp [axisValues, InputEvent.valueOf?, h]

theorem keyChanges_volumeEvent (isDown : Bool) (key : Key) :
    keyChanges (volumeEvent isDown key) = if isDown then tap key else [] := by
  cases isDown <;> rfl

theorem axisValues_volumeEvent (axis : AbsoluteAxis) (isDown : Bool) (key : Key) :
    axisValues axis (volumeEvent isDown key) = [] := by
  cases isDown <;> rfl

theorem keyChanges_mainEvents (locateAtPoint : LocateAtPoint) (d : VitaDevice)
    (call : Call ε) :
    keyChanges (mainEvents locateAtPoint d call).1 =
      difference
          ((call.pressOrder.list (pressedButtons locateAtPoint d.config call.report \
            d.previousButtons)).map mapButtonToDs4)
          ((call.releaseOrder.list (d.previousButtons \
            pressedButtons locateAtPoint d.config call.report)).map mapButtonToDs4) ++
        ((if call.report.buttons.volUp then tap .volumeUp else []) ++
          if call.report.buttons.volDown then tap .volumeDown else []) := by
  have hsticks : keyChanges (createStickEvents call.report) = [] := rfl
  simp only [mainEvents, pressed_eq, keyChanges_append, keyChanges_dpadEvent,
    keyChanges_volumeEvent, hsticks, List.append_nil, difference,
    keyChanges_buttonEvents .pressed .press fun _ => rfl,
    keyChanges_buttonEvents .released .release fun _ => rfl]

/-- A hat axis has no other events than those of its own change. -/
theorem axisValues_mainEvents_eq (locateAtPoint : LocateAtPoint) (d : VitaDevice)
    (call : Call ε) :
    axisValues .hat0X (mainEvents locateAtPoint d call).1 =
        axisValues .hat0X (dpadEvent .hat0X d.previousHatX
          (mainEvents locateAtPoint d call).2.previousHatX) ∧
      axisValues .hat0Y (mainEvents locateAtPoint d call).1 =
        axisValues .hat0Y (dpadEvent .hat0Y d.previousHatY
          (mainEvents locateAtPoint d call).2.previousHatY) := by
  have hsticks : ∀ axis, axis = .hat0X ∨ axis = .hat0Y →
      axisValues axis (createStickEvents call.report) = [] := by
    rintro axis (rfl | rfl) <;> rfl
  constructor
  · simp only [mainEvents, axisValues_append, axisValues_buttonEvents, axisValues_volumeEvent,
      axisValues_dpadEvent_of_ne (by decide : AbsoluteAxis.hat0Y ≠ .hat0X),
      hsticks .hat0X (.inl rfl), List.append_nil, List.nil_append]
  · simp only [mainEvents, axisValues_append, axisValues_buttonEvents, axisValues_volumeEvent,
      axisValues_dpadEvent_of_ne (by decide : AbsoluteAxis.hat0X ≠ .hat0Y),
      hsticks .hat0Y (.inr rfl), List.append_nil, List.nil_append]

theorem axisValues_mainEvents (locateAtPoint : LocateAtPoint) (d : VitaDevice) (call : Call ε) :
    (axisValues .hat0X (mainEvents locateAtPoint d call).1).getLastD d.previousHatX =
        (mainEvents locateAtPoint d call).2.previousHatX ∧
      (axisValues .hat0Y (mainEvents locateAtPoint d call).1).getLastD d.previousHatY =
        (mainEvents locateAtPoint d call).2.previousHatY := by
  obtain ⟨hX, hY⟩ := axisValues_mainEvents_eq locateAtPoint d call
  rw [hX, hY]
  exact ⟨axisValues_dpadEvent _ _ _, axisValues_dpadEvent _ _ _⟩

/-! ## What a call writes and keeps -/

theorem touchpadWrites_keeps (d : VitaDevice) (report : MainReport) :
    (touchpadWrites d report).2.config = d.config ∧
      (touchpadWrites d report).2.previousButtons = d.previousButtons ∧
      (touchpadWrites d report).2.previousHatX = d.previousHatX ∧
      (touchpadWrites d report).2.previousHatY = d.previousHatY := by
  unfold touchpadWrites
  split <;> exact ⟨rfl, rfl, rfl, rfl⟩

theorem touchpadWrites_handle (d : VitaDevice) (report : MainReport) :
    ∀ w ∈ (touchpadWrites d report).1, w.1 = .touchpad := by
  intro w hw
  unfold touchpadWrites at hw
  split at hw
  · simp at hw
    rcases hw with rfl | rfl <;> rfl
  · simp at hw
    rcases hw with rfl | rfl <;> rfl
  · cases hw

theorem onHandle_main_writes (d : VitaDevice) (report : MainReport)
    (events : List InputEvent) :
    onHandle .main (mainWrites events ++ (touchpadWrites d report).1 ++ sensorWrites report) =
      events ++ [.synchronize] := by
  have htouch : (touchpadWrites d report).1.filter (·.1 = .main) = [] := by
    rw [List.filter_eq_nil_iff]
    intro w hw
    simp [touchpadWrites_handle d report w hw]
  simp [onHandle, List.filter_append, htouch, mainWrites, sensorWrites]

theorem sendReport_ok {locateAtPoint : LocateAtPoint} {d : VitaDevice} {call : Call ε}
    (h : (sendReport locateAtPoint d call).result = .ok ()) :
    (sendReport locateAtPoint d call).device =
        (touchpadWrites (mainEvents locateAtPoint d call).2 call.report).2 ∧
      (sendReport locateAtPoint d call).written =
        mainWrites (mainEvents locateAtPoint d call).1 ++
          (touchpadWrites (mainEvents locateAtPoint d call).2 call.report).1 ++
          sensorWrites call.report := by
  cases hfailure : call.failure with
  | none =>
      simp only [sendReport, hfailure]
      exact ⟨trivial, trivial⟩
  | some failure =>
      obtain ⟨n, e⟩ := failure
      simp only [sendReport, hfailure] at h ⊢
      split_ifs at h with hn
      rw [if_neg hn]
      exact ⟨rfl, rfl⟩

/-! ## Runs -/

/-- The reader has the keys and the hat that the driver remembers. -/
structure Mirrors (config : Config) (s : VitaDevice × Evdev) : Prop where
  config : s.1.config = config
  keys : s.2.keys = s.1.previousButtons.image mapButtonToDs4
  hatX : s.2.axes .hat0X = s.1.previousHatX
  hatY : s.2.axes .hat0Y = s.1.previousHatY

theorem mirrors_initial (config : Config) : Mirrors config (.new config, .initial) :=
  ⟨rfl, rfl, rfl, rfl⟩

theorem mapButtonToDs4_ne_volume (button : Button) :
    mapButtonToDs4 button ≠ .volumeUp ∧ mapButtonToDs4 button ≠ .volumeDown := by
  cases button <;> decide

/-- Only buttons are down, no volume key. -/
def ButtonKeys (keys : Finset Key) : Prop := ∀ key ∈ keys, ∃ button, mapButtonToDs4 button = key

theorem buttonKeys_image (buttons : Finset Button) :
    ButtonKeys (buttons.image mapButtonToDs4) := by
  intro key hkey
  obtain ⟨button, -, hbutton⟩ := Finset.mem_image.mp hkey
  exact ⟨button, hbutton⟩

/-- A tap of a volume key comes when the keys are those of buttons. -/
theorem tap_volume {keys : Finset Key} (h : ButtonKeys keys) (isDown : Bool) {key : Key}
    (hkey : ∀ button, mapButtonToDs4 button ≠ key) :
    AllEffective keys (if isDown then tap key else []) ∧
      SetChanges.replay keys (if isDown then tap key else []) = keys := by
  have hmem : key ∉ keys := by
    intro hkeys
    obtain ⟨button, hbutton⟩ := h key hkeys
    exact hkey button hbutton
  cases isDown with
  | false => exact ⟨trivial, rfl⟩
  | true => exact ⟨allEffective_tap hmem, replay_tap hmem⟩

/-- One report turns the keys of the pressed set before into those of its own. -/
theorem changes_mainEvents (locateAtPoint : LocateAtPoint) (d : VitaDevice) (call : Call ε) :
    AllEffective (d.previousButtons.image mapButtonToDs4)
        (keyChanges (mainEvents locateAtPoint d call).1) ∧
      SetChanges.replay (d.previousButtons.image mapButtonToDs4)
          (keyChanges (mainEvents locateAtPoint d call).1) =
        (pressedButtons locateAtPoint d.config call.report).image mapButtonToDs4 := by
  set now := pressedButtons locateAtPoint d.config call.report
  have hpress := (call.pressOrder.enumerates (now \ d.previousButtons)).map
    mapButtonToDs4_injective
  have hrelease := (call.releaseOrder.enumerates (d.previousButtons \ now)).map
    mapButtonToDs4_injective
  rw [Finset.image_sdiff _ _ mapButtonToDs4_injective] at hpress hrelease
  obtain ⟨hupEffective, hup⟩ := tap_volume (buttonKeys_image now) call.report.buttons.volUp
    fun button => (mapButtonToDs4_ne_volume button).1
  obtain ⟨hdownEffective, hdown⟩ := tap_volume (buttonKeys_image now) call.report.buttons.volDown
    fun button => (mapButtonToDs4_ne_volume button).2
  have hdifference := replay_difference hpress hrelease
  rw [keyChanges_mainEvents]
  constructor
  · rw [allEffective_append, allEffective_append, hdifference, hup]
    exact ⟨allEffective_difference hpress hrelease, hupEffective, hdownEffective⟩
  · rw [SetChanges.replay_append, SetChanges.replay_append, hdifference, hup, hdown]

theorem replayStep_eq_ok_iff {locateAtPoint : LocateAtPoint} {handle : Handle}
    {s t : VitaDevice × Evdev} {call : Call ε} :
    replayStep locateAtPoint handle s call = .ok t ↔
      (sendReport locateAtPoint s.1 call).result = .ok () ∧
        t = ((sendReport locateAtPoint s.1 call).device,
          s.2.replay (onHandle handle (sendReport locateAtPoint s.1 call).written)) := by
  simp only [replayStep]
  cases (sendReport locateAtPoint s.1 call).result with
  | error e => simp [Except.map]
  | ok => simp [Except.map, eq_comm]

theorem mainEvents_remembers (locateAtPoint : LocateAtPoint) (d : VitaDevice) (call : Call ε) :
    (mainEvents locateAtPoint d call).2.previousButtons =
        pressedButtons locateAtPoint d.config call.report ∧
      ((mainEvents locateAtPoint d call).2.previousHatX,
          (mainEvents locateAtPoint d call).2.previousHatY) =
        dpadDirectionToAxisValues (hatDirection locateAtPoint d.config call.report) := by
  simp only [mainEvents, pressed_eq]
  exact ⟨trivial, trivial⟩

theorem keyChanges_synchronized (events : List InputEvent) :
    keyChanges (events ++ [.synchronize]) = keyChanges events := by
  rw [keyChanges_append]
  exact List.append_nil _

theorem replay_synchronized (e : Evdev) (events : List InputEvent) :
    e.replay (events ++ [.synchronize]) = e.replay events := by
  rw [Evdev.replay_append]
  rfl

theorem replayStep_ok {locateAtPoint : LocateAtPoint} {config : Config}
    {s t : VitaDevice × Evdev} {call : Call ε} (hs : Mirrors config s)
    (h : replayStep locateAtPoint .main s call = .ok t) :
    Mirrors config t ∧ t.1.previousButtons = pressedButtons locateAtPoint config call.report ∧
      (t.1.previousHatX, t.1.previousHatY) =
        dpadDirectionToAxisValues (hatDirection locateAtPoint config call.report) ∧
      AllEffective s.2.keys
        (keyChanges (onHandle .main (sendReport locateAtPoint s.1 call).written)) := by
  obtain ⟨hresult, rfl⟩ := replayStep_eq_ok_iff.mp h
  obtain ⟨d, e⟩ := s
  obtain ⟨rfl, hkeys, hX, hY⟩ := hs
  dsimp only at hresult hkeys hX hY ⊢
  obtain ⟨hdevice, hwritten⟩ := sendReport_ok hresult
  obtain ⟨hconfig, hbuttons, hhatX, hhatY⟩ :=
    touchpadWrites_keeps (mainEvents locateAtPoint d call).2 call.report
  obtain ⟨heffective, hreplay⟩ := changes_mainEvents locateAtPoint d call
  obtain ⟨hvalueX, hvalueY⟩ := axisValues_mainEvents locateAtPoint d call
  obtain ⟨hnow, hhat⟩ := mainEvents_remembers locateAtPoint d call
  rw [hdevice, hwritten, onHandle_main_writes, keyChanges_synchronized,
    replay_synchronized]
  refine ⟨⟨hconfig, ?_, ?_, ?_⟩, hbuttons.trans hnow, ?_, ?_⟩
  · rw [Evdev.keys_replay, hkeys, hreplay, hbuttons, hnow]
  · rw [Evdev.axes_replay (by simp [AbsoluteAxis.Multitouch]), hX, hvalueX, hhatX]
  · rw [Evdev.axes_replay (by simp [AbsoluteAxis.Multitouch]), hY, hvalueY, hhatY]
  · rw [hhatX, hhatY, hhat]
  · rw [hkeys]
    exact heffective

theorem mirrors_run {locateAtPoint : LocateAtPoint} {config : Config} {calls : List (Call ε)}
    {s : VitaDevice × Evdev} (h : replayRun locateAtPoint .main config calls = .ok s) :
    Mirrors config s :=
  StepRun.run_invariant (fun _ _ _ hs ht => (replayStep_ok hs ht).1) (mirrors_initial config) h

/-- After every report that was sent, the main device has the keys of its pressed
set and its hat, and no key event on the way was without effect. -/
theorem main_device_follows (locateAtPoint : LocateAtPoint) (config : Config)
    (earlier : List (Call ε)) (call : Call ε) (s t : VitaDevice × Evdev)
    (hs : replayRun locateAtPoint .main config earlier = .ok s)
    (ht : replayStep locateAtPoint .main s call = .ok t) :
    t.2.keys = (pressedButtons locateAtPoint config call.report).image mapButtonToDs4 ∧
      (t.2.axes .hat0X, t.2.axes .hat0Y) =
        dpadDirectionToAxisValues (hatDirection locateAtPoint config call.report) ∧
      AllEffective s.2.keys
        (keyChanges (onHandle .main (sendReport locateAtPoint s.1 call).written)) := by
  obtain ⟨hmirrors, hbuttons, hhat, heffective⟩ := replayStep_ok (mirrors_run hs) ht
  refine ⟨?_, ?_, heffective⟩
  · rw [hmirrors.keys, hbuttons]
  · rw [hmirrors.hatX, hmirrors.hatY, hhat]

/-! ## A cross that is released while the rear panel is touched -/

theorem sendReport_of_no_failure (locateAtPoint : LocateAtPoint) (d : VitaDevice)
    {call : Call ε} (h : call.failure = none) :
    (sendReport locateAtPoint d call).result = .ok () := by
  simp only [sendReport, h]

def firstZone : LocateAtPoint := fun zones p =>
  zones.find? fun zone =>
    zone.rect.lower.x ≤ p.x ∧ p.x ≤ zone.rect.upper.x ∧
      zone.rect.lower.y ≤ p.y ∧ p.y ≤ zone.rect.upper.y

def allButtons : List Button :=
  [.thumbRight, .thumbLeft, .options, .share, .triggerRight, .triggerLeft, .shoulderRight,
    .shoulderLeft, .triangle, .circle, .cross, .square, .psButton]

def declaredOrder : HashOrder where
  list s := allButtons.filter (· ∈ s)
  enumerates s :=
    { nodup := (by decide : allButtons.Nodup).filter _
      mem_iff := fun button => by cases button <;> simp [allButtons] }

def idleReport : MainReport where
  buttons := ⟨false, false, false, false, false, false, false, false, false, false, false,
    false, false, false, false⟩
  lx := 128
  ly := 128
  rx := 128
  ry := 128
  frontTouch := ⟨[]⟩
  backTouch := ⟨[]⟩
  motion := ⟨⟨0, 0, 0⟩, ⟨0, 0, 0⟩⟩
  timestamp := 0
  chargePercent := 100

def crossReport : MainReport :=
  { idleReport with buttons := { idleReport.buttons with cross := true } }

def rearReport : MainReport := { idleReport with backTouch := ⟨[⟨100, 400, 1, 90⟩]⟩ }

def sentCall (report : MainReport) : Call Unit := ⟨report, declaredOrder, declaredOrder, none⟩

theorem replayStep_sentCall (s : VitaDevice × Evdev) (report : MainReport) :
    ∃ t, replayStep firstZone .main s (sentCall report) = .ok t :=
  ⟨_, replayStep_eq_ok_iff.mpr ⟨sendReport_of_no_failure _ _ rfl, rfl⟩⟩

theorem main_device_follows_of_release :
    ∃ s t, replayRun firstZone .main .rearRl2FrontRl3 [sentCall crossReport] = .ok s ∧
      replayStep firstZone .main s (sentCall rearReport) = .ok t ∧
      t.2.keys = (pressedButtons firstZone .rearRl2FrontRl3 rearReport).image mapButtonToDs4 ∧
      (t.2.axes .hat0X, t.2.axes .hat0Y) =
        dpadDirectionToAxisValues (hatDirection firstZone .rearRl2FrontRl3 rearReport) ∧
      AllEffective s.2.keys
        (keyChanges (onHandle .main (sendReport firstZone s.1 (sentCall rearReport)).written)) := by
  obtain ⟨s, hs⟩ := replayStep_sentCall (.new .rearRl2FrontRl3, .initial) crossReport
  obtain ⟨t, ht⟩ := replayStep_sentCall s rearReport
  have hrun : replayRun firstZone .main .rearRl2FrontRl3 [sentCall crossReport] = .ok s :=
    (StepRun.run_singleton _ _).trans hs
  exact ⟨s, t, hrun, ht,
    main_device_follows firstZone .rearRl2FrontRl3 [sentCall crossReport] (sentCall rearReport)
      s t hrun ht⟩

example : pressedButtons firstZone .rearRl2FrontRl3 rearReport = {.shoulderLeft} := by decide

end Linux

end VitaOxiPad.VirtualDevice
