import VitaOxiPad.Lib.ChangeReports
import VitaOxiPad.Server.MainEvents
/-!
# The status thread

The loop of `status_thread` in `server/src/status.cpp`.  A turn reads the battery, the
charger and the network, and publishes each reading that is another than the one before.
What it takes to have been read before the first turn need not be what `main` has published.
-/

namespace VitaOxiPad.Server

open ChangeReports

/-- The fields of `SharedData` that the thread writes. -/
structure StatusData where
  events : UInt32
  batteryLevel : Int32
  chargerConnected : Bool
  wifiSignalStrength : UInt32
  deriving DecidableEq, Repr

structure StatusThread where
  previousBatteryLevel : Int32
  previousChargerConnected : Bool
  previousWifiSignalStrength : UInt32
  sharedData : StatusData
  /-- What has been given to `sceKernelSetEventFlag`. -/
  raised : List StatusEvent
  deriving DecidableEq, Repr

/-- The readings of a turn, one after the other. -/
inductive StatusInput where
  | battery (currentBatteryLevel : Int32)
  | charger (currentChargerConnected : Bool)
  /-- The result of `sceNetCtlInetGetInfo` and what it has written. -/
  | wifi (ret : Int32) (rssiPercentage : UInt32)
  deriving DecidableEq, Repr

def currentWifiSignalStrength (ret : Int32) (rssiPercentage : UInt32) : UInt32 :=
  if ret = 0 then rssiPercentage else 0

namespace StatusThread

/-- `main` publishes its own readings, the thread begins with one of the charger. -/
def initial (batteryLevel : Int32) (chargerConnected previousChargerConnected : Bool) :
    StatusThread where
  previousBatteryLevel := 0
  previousChargerConnected := previousChargerConnected
  previousWifiSignalStrength := 0
  sharedData := ⟨0, batteryLevel, chargerConnected, 0⟩
  raised := []

def raise (s : StatusThread) (event : StatusEvent) : StatusThread :=
  { s with
    sharedData := { s.sharedData with events := s.sharedData.events ||| event.mask }
    raised := s.raised ++ [event] }

def updateBattery (s : StatusThread) (current : Int32) : StatusThread :=
  if current ≠ s.previousBatteryLevel then
    raise { s with
      previousBatteryLevel := current
      sharedData := { s.sharedData with batteryLevel := current } } .batteryLevel
  else s

def updateCharger (s : StatusThread) (current : Bool) : StatusThread :=
  if current ≠ s.previousChargerConnected then
    raise { s with
      previousChargerConnected := current
      sharedData := { s.sharedData with chargerConnected := current } } .statusCharger
  else s

def updateWifi (s : StatusThread) (current : UInt32) : StatusThread :=
  if current ≠ s.previousWifiSignalStrength then
    raise { s with
      previousWifiSignalStrength := current
      sharedData := { s.sharedData with wifiSignalStrength := current } } .wifiSignal
  else s

def step (s : StatusThread) : StatusInput → StatusThread
  | .battery current => s.updateBattery current
  | .charger current => s.updateCharger current
  | .wifi ret rssiPercentage => s.updateWifi (currentWifiSignalStrength ret rssiPercentage)

def run (s : StatusThread) (inputs : List StatusInput) : StatusThread := inputs.foldl step s

/-! ## Each reading is told over a link of its own -/

section

variable {β : Type} [DecidableEq β]

/-- The readings of one kind are told over the link, and the event counts the changes. -/
structure Watches (link : StatusThread → Link β) (reading : StatusInput → Option β)
    (event : StatusEvent) : Prop where
  other : ∀ s i, reading i = none →
    link (s.step i) = link s ∧ (s.step i).raised.count event = s.raised.count event
  told : ∀ s i value, reading i = some value →
    link (s.step i) = (link s).tell value ∧
      (s.step i).raised.count event =
        s.raised.count event + if value = (link s).remembered then 0 else 1

theorem Watches.run {link : StatusThread → Link β} {reading : StatusInput → Option β}
    {event : StatusEvent} (h : Watches link reading event) (s : StatusThread)
    (inputs : List StatusInput) :
    link (s.run inputs) = (inputs.filterMap reading).foldl Link.tell (link s) ∧
      (s.run inputs).raised.count event =
        s.raised.count event + changeCount (link s).remembered (inputs.filterMap reading) := by
  induction inputs generalizing s with
  | nil => exact ⟨rfl, rfl⟩
  | cons i inputs ih =>
      obtain ⟨hlink, hcount⟩ := ih (s.step i)
      have hcons : s.run (i :: inputs) = (s.step i).run inputs := rfl
      cases hreading : reading i with
      | none =>
          obtain ⟨hsame, hraised⟩ := h.other s i hreading
          rw [hcons, List.filterMap_cons_none hreading, hlink, hcount, hsame, hraised]
          exact ⟨rfl, rfl⟩
      | some value =>
          obtain ⟨htold, hraised⟩ := h.told s i value hreading
          have hremembered : ((link s).tell value).remembered = value := rfl
          rw [hcons, List.filterMap_cons_some hreading, hlink, hcount, htold, hraised,
            hremembered, changeCount_cons]
          exact ⟨rfl, by omega⟩

/-- What is shown after the readings, when `first` is taken to be shown and `shown` is. -/
def lastPublished (first shown : β) (readings : List β) : β :=
  if ∀ reading ∈ readings, reading = first then shown else readings.getLastD shown

structure Published (first shown : β) (readings : List β) (value : β) (announced : Nat) :
    Prop where
  value : value = lastPublished first shown readings
  announced : announced = changeCount first readings

theorem Watches.published {link : StatusThread → Link β} {reading : StatusInput → Option β}
    {event : StatusEvent} (h : Watches link reading event) (s : StatusThread)
    (hs : s.raised = []) (inputs : List StatusInput) :
    Published (link s).remembered (link s).shown (inputs.filterMap reading)
      (link (s.run inputs)).shown ((s.run inputs).raised.count event) := by
  obtain ⟨hlink, hcount⟩ := h.run s inputs
  refine ⟨?_, ?_⟩
  · rw [hlink, foldl_tell_shown, lastPublished]
  · rw [hcount, hs, List.count_nil, Nat.zero_add]

end

def batteryLink (s : StatusThread) : Link Int32 :=
  ⟨s.previousBatteryLevel, s.sharedData.batteryLevel⟩

def chargerLink (s : StatusThread) : Link Bool :=
  ⟨s.previousChargerConnected, s.sharedData.chargerConnected⟩

def wifiLink (s : StatusThread) : Link UInt32 :=
  ⟨s.previousWifiSignalStrength, s.sharedData.wifiSignalStrength⟩

end StatusThread

namespace StatusInput

def batteryLevel : StatusInput → Option Int32
  | battery current => some current
  | _ => none

def chargerConnected : StatusInput → Option Bool
  | charger current => some current
  | _ => none

def wifiSignalStrength : StatusInput → Option UInt32
  | wifi ret rssiPercentage => some (currentWifiSignalStrength ret rssiPercentage)
  | _ => none

end StatusInput

namespace StatusThread

theorem updateBattery_links (s : StatusThread) (current : Int32) :
    (s.updateBattery current).batteryLink = s.batteryLink.tell current ∧
      (s.updateBattery current).chargerLink = s.chargerLink ∧
        (s.updateBattery current).wifiLink = s.wifiLink := by
  unfold updateBattery
  split_ifs with h
  · rw [Link.tell_of_ne h]
    exact ⟨rfl, rfl, rfl⟩
  · rw [not_not.mp h]
    exact ⟨s.batteryLink.tell_remembered.symm, rfl, rfl⟩

theorem updateBattery_raised (s : StatusThread) (current : Int32) :
    (s.updateBattery current).raised =
      s.raised ++ if current = s.previousBatteryLevel then [] else [.batteryLevel] := by
  rw [updateBattery]
  by_cases h : current = s.previousBatteryLevel
  · rw [if_neg (not_not.mpr h), if_pos h, List.append_nil]
  · rw [if_pos h, if_neg h]
    rfl

theorem updateCharger_links (s : StatusThread) (current : Bool) :
    (s.updateCharger current).chargerLink = s.chargerLink.tell current ∧
      (s.updateCharger current).batteryLink = s.batteryLink ∧
        (s.updateCharger current).wifiLink = s.wifiLink := by
  unfold updateCharger
  split_ifs with h
  · rw [Link.tell_of_ne h]
    exact ⟨rfl, rfl, rfl⟩
  · rw [not_not.mp h]
    exact ⟨s.chargerLink.tell_remembered.symm, rfl, rfl⟩

theorem updateCharger_raised (s : StatusThread) (current : Bool) :
    (s.updateCharger current).raised =
      s.raised ++ if current = s.previousChargerConnected then [] else [.statusCharger] := by
  rw [updateCharger]
  by_cases h : current = s.previousChargerConnected
  · rw [if_neg (not_not.mpr h), if_pos h, List.append_nil]
  · rw [if_pos h, if_neg h]
    rfl

theorem updateWifi_links (s : StatusThread) (current : UInt32) :
    (s.updateWifi current).wifiLink = s.wifiLink.tell current ∧
      (s.updateWifi current).batteryLink = s.batteryLink ∧
        (s.updateWifi current).chargerLink = s.chargerLink := by
  unfold updateWifi
  split_ifs with h
  · rw [Link.tell_of_ne h]
    exact ⟨rfl, rfl, rfl⟩
  · rw [not_not.mp h]
    exact ⟨s.wifiLink.tell_remembered.symm, rfl, rfl⟩

theorem updateWifi_raised (s : StatusThread) (current : UInt32) :
    (s.updateWifi current).raised =
      s.raised ++ if current = s.previousWifiSignalStrength then [] else [.wifiSignal] := by
  rw [updateWifi]
  by_cases h : current = s.previousWifiSignalStrength
  · rw [if_neg (not_not.mpr h), if_pos h, List.append_nil]
  · rw [if_pos h, if_neg h]
    rfl

theorem count_append_ite (raised : List StatusEvent) (c : Prop) [Decidable c]
    (event event' : StatusEvent) :
    (raised ++ if c then [] else [event']).count event =
      raised.count event + if event' = event then if c then 0 else 1 else 0 := by
  split_ifs with hc hevent hevent <;> simp [hevent]

theorem watches_battery : Watches batteryLink StatusInput.batteryLevel .batteryLevel where
  other s i h := by
    cases i with
    | battery => cases h
    | charger current =>
        rw [step, updateCharger_raised, count_append_ite]
        exact ⟨(updateCharger_links s current).2.1, rfl⟩
    | wifi ret rssiPercentage =>
        rw [step, updateWifi_raised, count_append_ite]
        exact ⟨(updateWifi_links s _).2.1, rfl⟩
  told s i value h := by
    cases i with
    | battery current =>
        cases h
        rw [step, updateBattery_raised, count_append_ite]
        exact ⟨(updateBattery_links s value).1, rfl⟩
    | charger => cases h
    | wifi => cases h

theorem watches_charger : Watches chargerLink StatusInput.chargerConnected .statusCharger where
  other s i h := by
    cases i with
    | battery current =>
        rw [step, updateBattery_raised, count_append_ite]
        exact ⟨(updateBattery_links s current).2.1, rfl⟩
    | charger => cases h
    | wifi ret rssiPercentage =>
        rw [step, updateWifi_raised, count_append_ite]
        exact ⟨(updateWifi_links s _).2.2, rfl⟩
  told s i value h := by
    cases i with
    | battery => cases h
    | charger current =>
        cases h
        rw [step, updateCharger_raised, count_append_ite]
        exact ⟨(updateCharger_links s value).1, rfl⟩
    | wifi => cases h

theorem watches_wifi : Watches wifiLink StatusInput.wifiSignalStrength .wifiSignal where
  other s i h := by
    cases i with
    | battery current =>
        rw [step, updateBattery_raised, count_append_ite]
        exact ⟨(updateBattery_links s current).2.2, rfl⟩
    | charger current =>
        rw [step, updateCharger_raised, count_append_ite]
        exact ⟨(updateCharger_links s current).2.2, rfl⟩
    | wifi => cases h
  told s i value h := by
    cases i with
    | battery => cases h
    | charger => cases h
    | wifi ret rssiPercentage =>
        cases h
        rw [step, updateWifi_raised, count_append_ite]
        exact ⟨(updateWifi_links s _).1, rfl⟩

/-! ## The events -/

def BitsRaised (s : StatusThread) : Prop :=
  s.sharedData.events = Latch.raise StatusEvent.mask 0 s.raised

theorem BitsRaised.raise {s : StatusThread} (h : s.BitsRaised) (event : StatusEvent) :
    (s.raise event).BitsRaised := by
  show s.sharedData.events ||| event.mask = Latch.raise StatusEvent.mask 0 (s.raised ++ [event])
  rw [h, Latch.raise, Latch.raise, List.foldl_append]
  rfl

theorem BitsRaised.step {s : StatusThread} (h : s.BitsRaised) (i : StatusInput) :
    (s.step i).BitsRaised := by
  cases i with
  | battery current =>
      show (s.updateBattery current).BitsRaised
      unfold updateBattery
      split_ifs
      · exact BitsRaised.raise h .batteryLevel
      · exact h
  | charger current =>
      show (s.updateCharger current).BitsRaised
      unfold updateCharger
      split_ifs
      · exact BitsRaised.raise h .statusCharger
      · exact h
  | wifi ret rssiPercentage =>
      show (s.updateWifi (currentWifiSignalStrength ret rssiPercentage)).BitsRaised
      unfold updateWifi
      split_ifs
      · exact BitsRaised.raise h .wifiSignal
      · exact h

theorem BitsRaised.run {s : StatusThread} (h : s.BitsRaised) (inputs : List StatusInput) :
    (s.run inputs).BitsRaised := by
  induction inputs generalizing s with
  | nil => exact h
  | cons i inputs ih => exact ih (h.step i)

/-- In every run each published value is the last reading of its kind, unless every such
reading has been what the thread began with.  Each event is raised as often as its value has
changed, and its bit is set when it has been raised. -/
theorem status_follows_readings (batteryLevel : Int32)
    (chargerConnected previousChargerConnected : Bool) (inputs : List StatusInput) :
    let s := (initial batteryLevel chargerConnected previousChargerConnected).run inputs
    Published 0 batteryLevel (inputs.filterMap StatusInput.batteryLevel)
        s.sharedData.batteryLevel (s.raised.count .batteryLevel) ∧
      Published previousChargerConnected chargerConnected
        (inputs.filterMap StatusInput.chargerConnected)
        s.sharedData.chargerConnected (s.raised.count .statusCharger) ∧
      Published 0 0 (inputs.filterMap StatusInput.wifiSignalStrength)
        s.sharedData.wifiSignalStrength (s.raised.count .wifiSignal) ∧
      ∀ event : StatusEvent, s.sharedData.events &&& event.mask ≠ 0 ↔ event ∈ s.raised := by
  let s := initial batteryLevel chargerConnected previousChargerConnected
  refine ⟨watches_battery.published s rfl inputs, watches_charger.published s rfl inputs,
    watches_wifi.published s rfl inputs, fun event => ?_⟩
  have hinitial : s.BitsRaised := rfl
  have hbits : (s.run inputs).BitsRaised := hinitial.run inputs
  have hmask : ∀ a b : StatusEvent, b.mask &&& a.mask ≠ 0 ↔ b = a := by
    intro a b
    exact (Raised.mask_and (.status a) (.status b)).trans (by simp)
  show (s.run inputs).sharedData.events &&& event.mask ≠ 0 ↔ event ∈ (s.run inputs).raised
  rw [hbits, Latch.raised_iff hmask]
  simp

end StatusThread

end VitaOxiPad.Server
