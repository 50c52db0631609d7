import VitaOxiPad.Lib.Monitor
import VitaOxiPad.Server.MainThread
/-!
# The screen follows `display_on`

That the screen is on is kept three times: in `display_on`, in the kernel
module's `g_screen_off` and by the panel.  A toggle changes all three, leaving
pad mode only the first and the last.
-/

namespace VitaOxiPad.Server.MainThread

def PanelFollows (s : MainThread) : Prop := s.kctrl.panel.on = s.displayOn

instance (s : MainThread) : Decidable s.PanelFollows :=
  inferInstanceAs (Decidable (s.kctrl.panel.on = s.displayOn))

def LeavesDark (s : MainThread) (f : Frame) : Prop := s.Leaves f ∧ s.displayOn = false

instance (s : MainThread) (f : Frame) : Decidable (s.LeavesDark f) :=
  inferInstanceAs (Decidable (_ ∧ _))

def HasLeftDark : MainThread → List Frame → Prop
  | _, [] => False
  | s, f :: fs => s.LeavesDark f ∨ (s.frame f).HasLeftDark fs

instance decidableHasLeftDark :
    (s : MainThread) → (frames : List Frame) → Decidable (s.HasLeftDark frames)
  | _, [] => .isFalse id
  | s, f :: fs =>
      have := decidableHasLeftDark (s.frame f) fs
      inferInstanceAs (Decidable (_ ∨ _))

/-- What a run keeps as long as the panel follows `display_on`.  A dark leave
makes `g_screen_off` stale, and nothing but a toggle would change that. -/
structure Screen (s : MainThread) (leftDark : Prop) : Prop where
  hasPanel : s.kctrl.HasPanel
  follows : s.PanelFollows
  fresh : ¬ leftDark → (s.kctrl.screenOff ≠ 0 ↔ s.displayOn = false)
  stale : leftDark → s.kctrl.screenOff ≠ 0 ∧ s.displayOn = true

theorem Screen.frame_follows_iff {s : MainThread} {leftDark : Prop} (h : s.Screen leftDark)
    (f : Frame) : (s.frame f).PanelFollows ↔ (s.Toggles f → ¬ leftDark) := by
  unfold PanelFollows
  rcases s.frame_cases f with ⟨hleaves, htoggles, hdisplay, hkctrl⟩ |
    ⟨hleaves, htoggles, hdisplay, hkctrl⟩ | ⟨hleaves, htoggles, hdisplay, hkctrl⟩
  · rw [hdisplay, hkctrl, Kctrl.screenOn_on h.hasPanel]
    simp [htoggles]
  · rw [hdisplay, hkctrl, Kctrl.toggleScreen_on h.hasPanel]
    by_cases hdark : leftDark
    · obtain ⟨hoff, hon⟩ := h.stale hdark
      simp [hoff, hon, htoggles, hdark]
    · have hfresh := h.fresh hdark
      cases hon : s.displayOn <;> simp_all
  · rw [hdisplay, hkctrl]
    simp only [htoggles, false_imp_iff, iff_true]
    exact h.follows

theorem Screen.frame {s : MainThread} {leftDark : Prop} (h : s.Screen leftDark) {f : Frame}
    (hfollows : (s.frame f).PanelFollows) :
    (s.frame f).Screen (leftDark ∨ s.LeavesDark f) := by
  have hclean := (h.frame_follows_iff f).mp hfollows
  rcases s.frame_cases f with ⟨hleaves, -, hdisplay, hkctrl⟩ |
    ⟨hleaves, htoggles, hdisplay, hkctrl⟩ | ⟨hleaves, -, hdisplay, hkctrl⟩
  · refine ⟨?_, hfollows, fun hdark => ?_, fun hdark => ?_⟩
    · rw [hkctrl]
      exact h.hasPanel.screenOn
    · obtain ⟨hnot, hlit⟩ := not_or.mp hdark
      have hon : s.displayOn ≠ false := fun hoff => hlit ⟨hleaves, hoff⟩
      rw [hkctrl, hdisplay, Kctrl.screenOn_screenOff, h.fresh hnot]
      simp [hon]
    · rw [hkctrl, hdisplay, Kctrl.screenOn_screenOff]
      refine ⟨?_, rfl⟩
      by_cases hbefore : leftDark
      · exact (h.stale hbefore).1
      · have hnow : s.LeavesDark f := hdark.resolve_left hbefore
        exact (h.fresh hbefore).mpr hnow.2
  · have hnot : ¬ leftDark := hclean htoggles
    refine ⟨?_, hfollows, fun _ => ?_, fun hdark => ?_⟩
    · rw [hkctrl]
      exact h.hasPanel.toggleScreen
    · have hfresh := h.fresh hnot
      rw [hkctrl, hdisplay, Kctrl.toggleScreen_screenOff]
      split_ifs with hoff
      · simp [hfresh.mp hoff]
      · have hon : s.displayOn ≠ false := fun hdark => hoff (hfresh.mpr hdark)
        simp [hon]
    · exact absurd hdark (not_or.mpr ⟨hnot, fun hnow => hleaves hnow.1⟩)
  · have hsame : (leftDark ∨ s.LeavesDark f) ↔ leftDark :=
      or_iff_left fun hnow => hleaves hnow.1
    rw [hsame]
    refine ⟨?_, hfollows, ?_, ?_⟩
    · rw [hkctrl]
      exact h.hasPanel
    · rw [hkctrl, hdisplay]
      exact h.fresh
    · rw [hkctrl, hdisplay]
      exact h.stale

def followed : Monitor MainThread Frame where
  next := MainThread.frame
  Allowed s f := (s.frame f).PanelFollows

def untoggled : Monitor (MainThread × Prop) Frame where
  next s f := (s.1.frame f, s.2 ∨ s.1.LeavesDark f)
  Allowed s f := s.1.Toggles f → ¬ s.2

theorem untoggled_after (s : MainThread) (leftDark : Prop) (frames : List Frame) :
    untoggled.after (s, leftDark) frames = (s.run frames, leftDark ∨ s.HasLeftDark frames) := by
  induction frames generalizing s leftDark with
  | nil => simp [run, HasLeftDark]
  | cons f fs ih =>
      rw [Monitor.after_cons]
      simp only [untoggled] at ih ⊢
      rw [ih, HasLeftDark, or_assoc]
      rfl

/-- Once every copy agrees, the panel follows `display_on` after every frame
exactly when the screen is never toggled after a frame has left pad mode with
`display_on` false. -/
theorem panel_follows_iff (s : MainThread) (hpanel : s.kctrl.HasPanel)
    (hscreenOff : s.kctrl.screenOff = 0) (hon : s.kctrl.panel.on = true)
    (hdisplayOn : s.displayOn = true) (frames : List Frame) :
    (∀ pre f post, frames = pre ++ f :: post → ((s.run pre).frame f).PanelFollows) ↔
      ∀ pre f post, frames = pre ++ f :: post →
        (s.run pre).Toggles f → ¬ s.HasLeftDark pre := by
  have hscreen : s.Screen False :=
    ⟨hpanel, by rw [PanelFollows, hon, hdisplayOn], by simp [hscreenOff, hdisplayOn], False.elim⟩
  have hmonitors : followed.Accepts s frames ↔ untoggled.Accepts (s, False) frames := by
    refine Monitor.accepts_congr (fun s t => s = t.1 ∧ s.Screen t.2) ?_ ?_ ⟨rfl, hscreen⟩ frames
    · rintro s ⟨_, leftDark⟩ f ⟨rfl, h⟩
      exact h.frame_follows_iff f
    · rintro s ⟨_, leftDark⟩ f ⟨rfl, h⟩ hfollows
      exact ⟨rfl, h.frame hfollows⟩
  rw [Monitor.accepts_iff, Monitor.accepts_iff] at hmonitors
  simp only [untoggled_after, false_or] at hmonitors
  exact hmonitors

def lit : MainThread := .initial true (moduleStart true false ⟨true, 50⟩)

theorem panel_follows_when_toggled_back :
    (lit.run [.holding [.cross], .holding [.start, .up], .holding [.start, .up]]).PanelFollows := by
  apply (panel_follows_iff lit (.inr rfl) rfl rfl rfl
    [.holding [.cross], .holding [.start, .up], .holding [.start, .up]]).mpr ?_
    [.holding [.cross], .holding [.start, .up]] (.holding [.start, .up]) [] rfl
  intro pre f post hframes htoggles
  rcases pre with _ | ⟨a, _ | ⟨b, _ | ⟨c, pre⟩⟩⟩
  · exact id
  · cases hframes
    decide
  · cases hframes
    decide
  · simp at hframes

/-- The screen is toggled off, pad mode is left and entered again, and the next
toggle finds the panel on. -/
theorem not_panel_follows_after_dark_leave :
    ¬ ∀ pre f post,
      [.holding [.cross], .holding [.start, .up], .holding [.select, .start],
        .holding [.cross], .holding [.start, .up]] = pre ++ f :: post →
          ((lit.run pre).frame f).PanelFollows := by
  intro h
  have hlast := h [.holding [.cross], .holding [.start, .up], .holding [.select, .start],
    .holding [.cross]] _ [] rfl
  exact absurd hlast (by decide)

end VitaOxiPad.Server.MainThread
