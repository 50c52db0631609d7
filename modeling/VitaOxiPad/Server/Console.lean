import Mathlib.Data.List.Forall2
import VitaOxiPad.Server.Moves
import VitaOxiPad.Server.Notifications
import VitaOxiPad.Server.Session
import VitaOxiPad.Server.StatusThread
/-!
# The threads of the console

`main` starts the status thread and the network thread and goes on with its own loop.  The
three share the buttons, the battery level, the pad mode and the main event flag.  Here they
take turns in any order, and the main loop may be passed between any two reads of the
buttons.  What a thread raises it raises one by one, before its next turn.
-/

namespace VitaOxiPad.Server

/-- Where the main loop is in its frame.  Between the two reads of a condition the word
that has been read is kept. -/
inductive MainPoint where
  | poll
  | enter
  | select
  | start (select : UInt32)
  | up
  | upStart (up : UInt32)
  deriving DecidableEq, Repr

def Effect.raised : Effect → Option Raised
  | .setEventFlag event => some (.net event)
  | _ => none

def Frame.reading (buttons : UInt32) : Frame := ⟨0, buttons, buttons, buttons, buttons, buttons⟩

def MainLoop.poll (s : MainLoop) : MainLoop :=
  let (events, evFlag) := (pollEventFlag s.evFlag 0xFFFFFFFF).getD (s.events, s.evFlag)
  { evFlag := evFlag, events := events, main := s.main.takeEvents events }

structure Console where
  net : NetThread
  /-- What the network thread has still to raise. -/
  netRaising : List Raised
  status : StatusThread
  statusRaising : List Raised
  loop : MainLoop
  point : MainPoint
  /-- What was raised before each poll, since the one before it. -/
  windows : List (List Raised)
  /-- What has been raised since the last poll. -/
  window : List Raised
  deriving DecidableEq, Repr

/-- The thread whose turn it is, with what it reads from outside the program. -/
inductive ConsoleInput where
  | net (input : Input)
  | netRaise
  | status (input : StatusInput)
  | statusRaise
  | main

namespace Console

def initial (ctrl : CtrlState) (padData : SceCtrlData) (status : StatusThread)
    (connectedToNetwork : Bool) (kctrl : Kctrl) : Console where
  net := .initial ctrl padData
  netRaising := []
  status := status
  statusRaising := []
  loop := .initial connectedToNetwork kctrl
  point := .poll
  windows := []
  window := []

def raise (s : Console) (raised : List Raised) : Console :=
  { s with loop := s.loop.raise raised, window := s.window ++ raised }

/-- The network thread reads the pad mode and the battery level that it shares. -/
def given (s : Console) : Input → Input
  | .send input =>
      .send { input with
        padMode := s.loop.main.padMode
        batteryLevel := s.status.sharedData.batteryLevel }
  | input => input

def netTurn (P : Platform) (s : Console) (input : Input) : Except Stop Console :=
  (NetThread.step P s.net (s.given input)).map fun net =>
    { s.raise s.netRaising with
      net := net
      netRaising := (net.trace.drop s.net.trace.length).filterMap Effect.raised }

def netRaise (s : Console) : Console :=
  match s.netRaising with
  | [] => s
  | raised :: rest => { s.raise [raised] with netRaising := rest }

def statusTurn (s : Console) (input : StatusInput) : Console :=
  let status := s.status.step input
  { s.raise s.statusRaising with
    status := status
    statusRaising := (status.raised.drop s.status.raised.length).map .status }

def statusRaise (s : Console) : Console :=
  match s.statusRaising with
  | [] => s
  | raised :: rest => { s.raise [raised] with statusRaising := rest }

def mainTurn (s : Console) : Console :=
  let buttons := s.net.sharedData.padData.buttons
  let main := s.loop.main
  match s.point with
  | .poll =>
      { s with
        loop := s.loop.poll
        point := .enter
        windows := s.windows ++ [s.window]
        window := [] }
  | .enter =>
      { s with
        loop := { s.loop with main := main.enterPadMode (.reading buttons) }
        point := .select }
  | .select => { s with point := .start buttons }
  | .start select =>
      { s with
        loop := { s.loop with
          main := main.leavePadMode { Frame.reading buttons with select := select } }
        point := .up }
  | .up => { s with point := .upStart buttons }
  | .upStart up =>
      { s with
        loop := { s.loop with main := main.switchScreen { Frame.reading buttons with up := up } }
        point := .poll }

def step (P : Platform) (s : Console) : ConsoleInput → Except Stop Console
  | .net input => s.netTurn P input
  | .netRaise => .ok s.netRaise
  | .status input => .ok (s.statusTurn input)
  | .statusRaise => .ok s.statusRaise
  | .main => .ok s.mainTurn

def run (P : Platform) (s : Console) (inputs : List ConsoleInput) : Except Stop Console :=
  StepRun.run (step P) s inputs

end Console

/-! ## The main loop among the other threads -/

theorem MainLoop.pollFrame_eq (s : MainLoop) (f : Frame) :
    s.pollFrame f =
      { s.poll with main := ((s.poll.main.enterPadMode f).leavePadMode f).switchScreen f } :=
  rfl

theorem MainLoop.raise_append (s : MainLoop) (raised raised' : List Raised) :
    s.raise (raised ++ raised') = (s.raise raised).raise raised' := by
  simp only [MainLoop.raise, Latch.raise, List.foldl_append]

/-- What the frame has done of its own when it comes to the point. -/
def MainPoint.within (main : MainThread) (f : Frame) : MainPoint → MainThread
  | poll => ((main.enterPadMode f).leavePadMode f).switchScreen f
  | enter => main
  | select | start _ => main.enterPadMode f
  | up | upStart _ => (main.enterPadMode f).leavePadMode f

/-- The frame has read the word that the point keeps. -/
def MainPoint.Kept (f : Frame) : MainPoint → Prop
  | start selectWord => f.select = selectWord
  | upStart upWord => f.up = upWord
  | _ => True

/-- The words of the buttons that a frame reads, in order. -/
def Frame.words (f : Frame) : List UInt32 := [f.cross, f.select, f.start, f.up, f.upStart]

def MainPoint.wordsRead (f : Frame) : MainPoint → List UInt32
  | poll => f.words
  | enter => []
  | select => [f.cross]
  | start _ => [f.cross, f.select]
  | up => [f.cross, f.select, f.start]
  | upStart _ => [f.cross, f.select, f.start, f.up]

namespace Console

structure Begun (start : MainLoop) (s : Console) (words : List UInt32) (done : List Window)
    (raised : List Raised) (f : Frame) : Prop where
  windows : s.windows = done.map Window.raised ++ [raised]
  kept : s.point.Kept f
  words : words = done.flatMap (·.frame.words) ++ s.point.wordsRead f
  loop : s.loop =
    { ((start.run done).raise raised).poll with
      main := s.point.within ((start.run done).raise raised).poll.main f }.raise s.window

/-- The main loop is in the frame that follows these windows. -/
inductive Framed (start : MainLoop) (s : Console) (words : List UInt32) : Prop
  | between (done : List Window) (hpoint : s.point = .poll)
      (hwindows : s.windows = done.map Window.raised)
      (hwords : words = done.flatMap (·.frame.words))
      (hloop : s.loop = (start.run done).raise s.window)
  | within (done : List Window) (raised : List Raised) (f : Frame) (hpoint : s.point ≠ .poll)
      (hbegun : s.Begun start words done raised f)

def reads (s : Console) : List UInt32 :=
  if s.point = .poll then [] else [s.net.sharedData.padData.buttons]

def readsIn (s : Console) : ConsoleInput → List UInt32
  | .main => s.reads
  | .net _ | .netRaise | .status _ | .statusRaise => []

variable {start : MainLoop} {s t : Console} {words : List UInt32}

/-- Another thread raises something, and does nothing else that the main loop sees. -/
theorem Framed.raised (h : s.Framed start words) {raised : List Raised}
    (hloop : t.loop = s.loop.raise raised) (hwindow : t.window = s.window ++ raised)
    (hpoint : t.point = s.point) (hwindows : t.windows = s.windows) : t.Framed start words := by
  cases h with
  | between done hs hdone hwords hs' =>
      apply Framed.between done (hpoint.trans hs) (hwindows.trans hdone) hwords
      rw [hloop, hs', hwindow, MainLoop.raise_append]
  | within done polled f hs hbegun =>
      refine Framed.within done polled f (by rwa [hpoint]) ⟨?_, ?_, ?_, ?_⟩
      · exact hwindows.trans hbegun.windows
      · rw [hpoint]
        exact hbegun.kept
      · rw [hpoint]
        exact hbegun.words
      · rw [hloop, hbegun.loop, hwindow, hpoint, MainLoop.raise_append]

theorem reads_of_within {done : List Window} {f : Frame}
    (hwords : words = done.flatMap (·.frame.words) ++ s.point.wordsRead f)
    (hpoint : s.point ≠ .poll) : words ++ s.reads = done.flatMap (·.frame.words) ++
      (s.point.wordsRead f ++ [s.net.sharedData.padData.buttons]) := by
  rw [hwords, reads, if_neg hpoint, List.append_assoc]

theorem Framed.mainTurn (h : s.Framed start words) :
    s.mainTurn.Framed start (words ++ s.reads) := by
  cases h with
  | between done hs hdone hwords hs' =>
      rw [reads, if_pos hs, List.append_nil]
      unfold Console.mainTurn
      rw [hs]
      refine Framed.within done s.window (.reading 0) (by simp) ⟨?_, ?_, ?_, ?_⟩
      · show s.windows ++ [s.window] = _
        rw [hdone]
      · trivial
      · exact hwords.trans (List.append_nil _).symm
      · show s.loop.poll = _
        rw [hs']
        rfl
  | within done raised f hs hbegun =>
      obtain ⟨hwindows, hkept, hwords, hloop⟩ := hbegun
      rw [reads_of_within hwords hs]
      unfold Console.mainTurn
      cases hpoint : s.point with
      | poll => exact absurd hpoint hs
      | enter =>
          rw [hpoint] at hloop
          refine Framed.within done raised { f with cross := s.net.sharedData.padData.buttons }
            (by simp) ⟨hwindows, ?_, rfl, ?_⟩
          · trivial
          · dsimp only
            rw [hloop]
            rfl
      | select =>
          rw [hpoint] at hloop
          refine Framed.within done raised { f with select := s.net.sharedData.padData.buttons }
            (by simp) ⟨hwindows, rfl, rfl, ?_⟩
          dsimp only
          rw [hloop]
          rfl
      | start select =>
          rw [hpoint] at hloop hkept
          refine Framed.within done raised { f with start := s.net.sharedData.padData.buttons }
            (by simp) ⟨hwindows, ?_, rfl, ?_⟩
          · trivial
          · dsimp only
            rw [hloop, ← hkept]
            rfl
      | up =>
          rw [hpoint] at hloop
          refine Framed.within done raised { f with up := s.net.sharedData.padData.buttons }
            (by simp) ⟨hwindows, rfl, rfl, ?_⟩
          dsimp only
          rw [hloop]
          rfl
      | upStart up =>
          rw [hpoint] at hloop hkept
          let f' : Frame := { f with upStart := s.net.sharedData.padData.buttons }
          refine Framed.between (done ++ [⟨raised, f'⟩]) rfl ?_ ?_ ?_
          · rw [List.map_append]
            exact hwindows
          · rw [List.flatMap_append, List.flatMap_singleton]
            rfl
          · have hrun : start.run (done ++ [⟨raised, f'⟩]) =
                ((start.run done).raise raised).pollFrame f' := List.foldl_append
            dsimp only
            rw [hloop, hrun, ← hkept, MainLoop.pollFrame_eq]
            rfl

theorem netTurn_ok {P : Platform} {input : Input} (h : s.netTurn P input = .ok t) :
    ∃ net, NetThread.step P s.net (s.given input) = .ok net ∧
      t = { s.raise s.netRaising with
        net := net
        netRaising := (net.trace.drop s.net.trace.length).filterMap Effect.raised } := by
  unfold netTurn at h
  cases hstep : NetThread.step P s.net (s.given input) with
  | error stop =>
      rw [hstep] at h
      cases h
  | ok net =>
      rw [hstep] at h
      cases h
      exact ⟨net, rfl, rfl⟩

theorem Framed.step {P : Platform} (h : s.Framed start words) {i : ConsoleInput}
    (hstep : Console.step P s i = .ok t) : t.Framed start (words ++ s.readsIn i) := by
  cases i with
  | net input =>
      obtain ⟨net, -, rfl⟩ := netTurn_ok hstep
      rw [readsIn, List.append_nil]
      exact h.raised rfl rfl rfl rfl
  | netRaise =>
      cases hstep
      rw [readsIn, List.append_nil]
      unfold Console.netRaise
      split
      · exact h
      · exact h.raised rfl rfl rfl rfl
  | status input =>
      cases hstep
      rw [readsIn, List.append_nil]
      exact h.raised rfl rfl rfl rfl
  | statusRaise =>
      cases hstep
      rw [readsIn, List.append_nil]
      unfold Console.statusRaise
      split
      · exact h
      · exact h.raised rfl rfl rfl rfl
  | main =>
      cases hstep
      exact h.mainTurn

/-! ## Each thread on its own -/

end Console

def ConsoleInput.ofNet : ConsoleInput → Option Input
  | net input => some input
  | _ => none

def ConsoleInput.ofStatus : ConsoleInput → Option StatusInput
  | status input => some input
  | _ => none

/-- The same input, but for what the thread shares with the others. -/
def Input.Agrees : Input → Input → Prop
  | .send a, .send b => b = { a with padMode := b.padMode, batteryLevel := b.batteryLevel }
  | a, b => a = b

namespace Console

/-- A turn that is another thread's leaves the network thread and the status thread. -/
theorem netRaise_threads (s : Console) :
    s.netRaise.net = s.net ∧ s.netRaise.status = s.status := by
  unfold netRaise
  split <;> exact ⟨rfl, rfl⟩

theorem statusRaise_threads (s : Console) :
    s.statusRaise.net = s.net ∧ s.statusRaise.status = s.status := by
  unfold statusRaise
  split <;> exact ⟨rfl, rfl⟩

theorem mainTurn_threads (s : Console) :
    s.mainTurn.net = s.net ∧ s.mainTurn.status = s.status := by
  unfold mainTurn
  dsimp only
  split <;> exact ⟨rfl, rfl⟩

theorem step_status {P : Platform} {i : ConsoleInput} (h : step P s i = .ok t) :
    t.status = i.ofStatus.elim s.status s.status.step := by
  cases i with
  | net input =>
      obtain ⟨net, -, rfl⟩ := netTurn_ok h
      rfl
  | netRaise =>
      cases h
      exact (netRaise_threads s).2
  | status input =>
      cases h
      rfl
  | statusRaise =>
      cases h
      exact (statusRaise_threads s).2
  | main =>
      cases h
      exact (mainTurn_threads s).2

theorem step_net {P : Platform} {i : ConsoleInput} (h : step P s i = .ok t) :
    match i.ofNet with
    | none => t.net = s.net
    | some input => NetThread.step P s.net (s.given input) = .ok t.net := by
  cases i with
  | net input =>
      obtain ⟨net, hnet, rfl⟩ := netTurn_ok h
      exact hnet
  | netRaise =>
      cases h
      exact (netRaise_threads s).1
  | status input =>
      cases h
      rfl
  | statusRaise =>
      cases h
      exact (statusRaise_threads s).1
  | main =>
      cases h
      exact (mainTurn_threads s).1

theorem agrees_given (s : Console) (input : Input) : input.Agrees (s.given input) := by
  cases input <;> rfl

/-- What the threads have read of each other, turn by turn. -/
structure Seen where
  /-- The network thread's inputs, with what it has read of the others. -/
  given : List Input
  /-- The words of the buttons that the main thread has read. -/
  words : List UInt32

def Seen.next (seen : Seen) (s : Console) (i : ConsoleInput) : Seen where
  given := seen.given ++ (i.ofNet.map s.given).toList
  words := seen.words ++ s.readsIn i

def seenRun (P : Platform) (s : Console) (inputs : List ConsoleInput) :
    Except Stop (Console × Seen) :=
  StepRun.run (StepRun.recording (step P) fun s i seen => seen.next s i) (s, ⟨[], []⟩) inputs

/-- The three threads have run as if each were alone. -/
structure Threads (P : Platform) (s₀ : Console) (inputs : List ConsoleInput) (s : Console)
    (seen : Seen) : Prop where
  agrees : List.Forall₂ Input.Agrees (inputs.filterMap ConsoleInput.ofNet) seen.given
  net : NetThread.run P s₀.net seen.given = .ok s.net
  status : s.status = s₀.status.run (inputs.filterMap ConsoleInput.ofStatus)
  main : s.Framed s₀.loop seen.words

theorem Threads.step {P : Platform} {s₀ : Console} {inputs : List ConsoleInput} {seen : Seen}
    (h : Threads P s₀ inputs s seen) {i : ConsoleInput} (hstep : Console.step P s i = .ok t) :
    Threads P s₀ (inputs ++ [i]) t (seen.next s i) where
  agrees := by
    rw [List.filterMap_append]
    apply List.rel_append h.agrees
    cases i with
    | net input => exact .cons (agrees_given s input) .nil
    | _ => exact .nil
  net := by
    have hnet := step_net hstep
    rw [Seen.next]
    cases hof : i.ofNet with
    | none =>
        rw [hof] at hnet
        rw [Option.map_none, Option.toList_none, List.append_nil, hnet]
        exact h.net
    | some input =>
        rw [hof] at hnet
        exact (StepRun.run_concat_eq_ok_iff _ _ _ _).mpr ⟨s.net, h.net, hnet⟩
  status := by
    have hstatus := step_status hstep
    rw [List.filterMap_append, StatusThread.run, List.foldl_append, hstatus, h.status]
    cases hof : i.ofStatus <;> simp [hof, StatusThread.run]
  main := h.main.step hstep

theorem seenRun_threads {P : Platform} {ctrl : CtrlState} {padData : SceCtrlData}
    {status : StatusThread} {connectedToNetwork : Bool} {kctrl : Kctrl}
    {inputs : List ConsoleInput} {s : Console} {seen : Seen}
    (hrun : seenRun P (initial ctrl padData status connectedToNetwork kctrl) inputs =
      .ok (s, seen)) :
    Threads P (initial ctrl padData status connectedToNetwork kctrl) inputs s seen := by
  induction inputs using List.reverseRecOn generalizing s seen with
  | nil =>
      cases hrun
      exact ⟨.nil, rfl, rfl, .between [] rfl rfl rfl rfl⟩
  | append_singleton inputs i ih =>
      obtain ⟨u, hu, hlast⟩ := (StepRun.run_concat_eq_ok_iff _ inputs i _).mp hrun
      obtain ⟨hstep, hseen⟩ := StepRun.recording_eq_ok_iff.mp hlast
      dsimp only at hstep hseen
      rw [hseen]
      exact (ih hu).step hstep

theorem run_threads {P : Platform} {ctrl : CtrlState} {padData : SceCtrlData}
    {status : StatusThread} {connectedToNetwork : Bool} {kctrl : Kctrl}
    {inputs : List ConsoleInput} {s : Console}
    (hrun : run P (initial ctrl padData status connectedToNetwork kctrl) inputs = .ok s) :
    ∃ seen, seenRun P (initial ctrl padData status connectedToNetwork kctrl) inputs =
        .ok (s, seen) ∧
      Threads P (initial ctrl padData status connectedToNetwork kctrl) inputs s seen := by
  obtain ⟨seen, hseen⟩ := (StepRun.run_recording_eq_ok_iff _ _ inputs s).mp hrun
  exact ⟨seen, hseen, seenRun_threads hseen⟩

/-- In any interleaving of the threads, each of them does what it does alone, given what it
reads of the others at its turns; the main loop does between two frames what it does when
nothing interrupts its frames. -/
theorem threads_run_alone (P : Platform) (ctrl : CtrlState) (padData : SceCtrlData)
    (status : StatusThread) (connectedToNetwork : Bool) (kctrl : Kctrl)
    (inputs : List ConsoleInput) (s : Console)
    (hrun : run P (initial ctrl padData status connectedToNetwork kctrl) inputs = .ok s) :
    ∃ seen, seenRun P (initial ctrl padData status connectedToNetwork kctrl) inputs =
        .ok (s, seen) ∧
      List.Forall₂ Input.Agrees (inputs.filterMap ConsoleInput.ofNet) seen.given ∧
      NetThread.run P (.initial ctrl padData) seen.given = .ok s.net ∧
      s.status = status.run (inputs.filterMap ConsoleInput.ofStatus) ∧
      (s.point = .poll → ∃ done : List Window, done.map Window.raised = s.windows ∧
        done.flatMap (·.frame.words) = seen.words ∧
        s.loop = ((MainLoop.initial connectedToNetwork kctrl).run done).raise s.window) := by
  obtain ⟨seen, hseen, hthreads⟩ := run_threads hrun
  refine ⟨seen, hseen, hthreads.agrees, hthreads.net, hthreads.status, fun hpoint => ?_⟩
  cases hthreads.main with
  | between done _ hwindows hwords hloop => exact ⟨done, hwindows.symm, hwords.symm, hloop⟩
  | within done raised f hwithin => exact absurd hpoint hwithin

/-- The main loop enters pad mode while the battery is read, and then a client connects. -/
def interleaved : List ConsoleInput :=
  [.net (.ctrl { CtrlRead.idle 2000 with pad := ⟨2000, SceCtrl.cross.mask, 128, 128, 128, 128⟩ }),
    .main, .status (.battery 57), .main, .net (.netStatus [.connected]), .main, .statusRaise,
    .main, .netRaise, .main, .main] ++
  (Iteration.handshaking.flatMap Iteration.inputs).map .net

def sample : Console :=
  initial .idle ⟨0, 0, 0, 0, 0, 0⟩ (.initial 60 false false) true
    (moduleStart true false ⟨true, 50⟩)

theorem threads_run_alone_of_interleaved :
    ∃ s seen, run .sample sample interleaved = .ok s ∧ s.point = .poll ∧
      seen.words = List.replicate 5 SceCtrl.cross.mask ∧
      seenRun .sample sample interleaved = .ok (s, seen) ∧
      List.Forall₂ Input.Agrees (interleaved.filterMap ConsoleInput.ofNet) seen.given ∧
      NetThread.run .sample (.initial .idle ⟨0, 0, 0, 0, 0, 0⟩) seen.given = .ok s.net ∧
      s.status = (StatusThread.initial 60 false false).run
        (interleaved.filterMap ConsoleInput.ofStatus) ∧
      (s.point = .poll → ∃ done : List Window, done.map Window.raised = s.windows ∧
        done.flatMap (·.frame.words) = seen.words ∧
        s.loop = ((MainLoop.initial true (moduleStart true false ⟨true, 50⟩)).run done).raise
          s.window) := by
  have hend : (seenRun .sample sample interleaved).toOption.map
      (fun r => (r.1.point, r.2.words)) =
        some (.poll, List.replicate 5 SceCtrl.cross.mask) := by decide +kernel
  obtain ⟨⟨s, seen⟩, hseen, hend⟩ := StepRun.exists_ok_of_map hend
  obtain ⟨hpoint, hwords⟩ := Prod.mk.inj hend
  have hrun : run .sample sample interleaved = .ok s :=
    (StepRun.run_recording_eq_ok_iff _ _ _ _).mpr ⟨seen, hseen⟩
  obtain ⟨seen', hseen', hthreads⟩ := threads_run_alone .sample .idle ⟨0, 0, 0, 0, 0, 0⟩
    (.initial 60 false false) true (moduleStart true false ⟨true, 50⟩) interleaved s hrun
  change seenRun .sample sample interleaved = .ok (s, seen') at hseen'
  rw [hseen] at hseen'
  obtain rfl : seen = seen' := (Prod.mk.inj (Except.ok.inj hseen')).2
  exact ⟨s, seen, hrun, hpoint, hwords, hseen, hthreads⟩

end Console

end VitaOxiPad.Server
