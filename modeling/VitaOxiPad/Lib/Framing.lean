import Mathlib.Algebra.Order.Ring.Nat
import Mathlib.Data.List.Induction
import VitaOxiPad.Lib.StepRun
/-!
# Byte strings, framed streams and the ways of cutting them

`ofLe` is the number a byte string encodes.  `bytesAt` reads a byte string out
of a memory, which is a byte at every address; two memories that agree on the
addresses read give the same bytes.

A stream is the concatenation of the encodings of a list of frames.  After its
first `n` symbols have arrived, some frames are whole (`completed`) and the
symbols of one more may have begun to arrive (`pending`).  A receiver that is
fed the stream in pieces is judged against these two at every boundary.
-/

namespace ByteOrder

def ofLe : List UInt8 → Nat
  | [] => 0
  | b :: bs => b.toNat + 256 * ofLe bs

def bytesAt (mem : Int → UInt8) (pos : Int) : Nat → List UInt8
  | 0 => []
  | n + 1 => mem pos :: bytesAt mem (pos + 1) n

def readLe (mem : Int → UInt8) (pos : Int) (n : Nat) : Nat :=
  ofLe (bytesAt mem pos n)

theorem bytesAt_congr {mem mem' : Int → UInt8} {pos : Int} {n : Nat}
    (h : ∀ i, pos ≤ i → i < pos + n → mem i = mem' i) :
    bytesAt mem pos n = bytesAt mem' pos n := by
  induction n generalizing pos with
  | zero => rfl
  | succ n ih =>
      rw [bytesAt, bytesAt, h pos (le_refl pos) (by omega)]
      rw [ih fun i hlo hhi => h i (by omega) (by omega)]

theorem readLe_congr {mem mem' : Int → UInt8} {pos : Int} {n : Nat}
    (h : ∀ i, pos ≤ i → i < pos + n → mem i = mem' i) :
    readLe mem pos n = readLe mem' pos n := by
  rw [readLe, readLe, bytesAt_congr h]

end ByteOrder

namespace Framing

variable {F α : Type} (enc : F → List α)

def stream (fs : List F) : List α := fs.flatMap enc

/-- The frames that are whole once `n` symbols have arrived. -/
def completed : List F → Nat → List F
  | [], _ => []
  | f :: fs, n =>
      if (enc f).length ≤ n then f :: completed fs (n - (enc f).length) else []

/-- The symbols that have arrived of the frame after the completed ones. -/
def pending : List F → Nat → List α
  | [], _ => []
  | f :: fs, n =>
      if (enc f).length ≤ n then pending fs (n - (enc f).length) else (enc f).take n

@[simp] theorem stream_nil : stream enc [] = [] := rfl

@[simp] theorem stream_cons (f : F) (fs : List F) :
    stream enc (f :: fs) = enc f ++ stream enc fs := by
  simp [stream]

@[simp] theorem stream_append (fs gs : List F) :
    stream enc (fs ++ gs) = stream enc fs ++ stream enc gs := by
  simp [stream]

theorem take_stream (fs : List F) (n : Nat) (hn : n ≤ (stream enc fs).length) :
    (stream enc fs).take n = stream enc (completed enc fs n) ++ pending enc fs n := by
  induction fs generalizing n with
  | nil => simp [completed, pending]
  | cons f fs ih =>
      rw [stream_cons, List.length_append] at hn
      by_cases hf : (enc f).length ≤ n
      · have htake := ih (n - (enc f).length) (by omega)
        simp only [stream_cons, completed, pending, if_pos hf, List.append_assoc, ← htake]
        rw [List.take_append, List.take_of_length_le hf]
      · simp only [stream_cons, completed, pending, if_neg hf, stream_nil, List.nil_append]
        rw [List.take_append_of_le_length (by omega)]

theorem completed_pending_length_le (fs : List F) (n : Nat) :
    (stream enc (completed enc fs n)).length + (pending enc fs n).length ≤
      (stream enc fs).length := by
  induction fs generalizing n with
  | nil => exact Nat.le_refl 0
  | cons f fs ih =>
      by_cases hf : (enc f).length ≤ n
      · have hle := ih (n - (enc f).length)
        simp only [completed, pending, if_pos hf, stream_cons, List.length_append]
        omega
      · simp only [completed, pending, if_neg hf, stream_cons, stream_nil, List.length_nil,
          List.length_append, List.length_take]
        omega

theorem completed_prefix (fs : List F) {n m : Nat} (h : n ≤ m) :
    completed enc fs n <+: completed enc fs m := by
  induction fs generalizing n m with
  | nil => exact List.prefix_rfl
  | cons f fs ih =>
      simp only [completed]
      by_cases hn : (enc f).length ≤ n
      · rw [if_pos hn, if_pos (Nat.le_trans hn h)]
        exact (List.prefix_cons_inj f).mpr (ih (by omega))
      · rw [if_neg hn]
        exact List.nil_prefix

theorem completed_length (fs : List F) :
    completed enc fs (stream enc fs).length = fs := by
  induction fs with
  | nil => rfl
  | cons f fs ih => simp [completed, ih]

theorem pending_length (fs : List F) :
    pending enc fs (stream enc fs).length = [] := by
  induction fs with
  | nil => rfl
  | cons f fs ih => simp [pending, ih]

theorem completed_zero (henc : ∀ f, enc f ≠ []) (fs : List F) :
    completed enc fs 0 = [] := by
  cases fs with
  | nil => rfl
  | cons f fs => simp [completed, henc f]

theorem pending_zero (henc : ∀ f, enc f ≠ []) (fs : List F) : pending enc fs 0 = [] := by
  cases fs with
  | nil => rfl
  | cons f fs => simp [pending, henc f]

/-- Whatever is pending is a proper part of the frame that comes next. -/
theorem pending_spec (fs : List F) (n : Nat) :
    pending enc fs n = [] ∨
      ∃ f rest, fs = completed enc fs n ++ f :: rest ∧
        pending enc fs n <+: enc f ∧ (pending enc fs n).length < (enc f).length ∧
        n = (stream enc (completed enc fs n)).length + (pending enc fs n).length := by
  induction fs generalizing n with
  | nil => exact Or.inl rfl
  | cons f fs ih =>
      by_cases hf : (enc f).length ≤ n
      · simp only [completed, pending, if_pos hf, stream_cons, List.length_append]
        rcases ih (n - (enc f).length) with hnil | ⟨g, rest, hfs, hpre, hlt, hn⟩
        · exact Or.inl hnil
        · refine Or.inr ⟨g, rest, ?_, hpre, hlt, by omega⟩
          rw [List.cons_append, ← hfs]
      · simp only [completed, pending, if_neg hf, stream_nil, List.length_nil, Nat.zero_add]
        have hlen : ((enc f).take n).length = n := by
          rw [List.length_take]; omega
        exact Or.inr ⟨f, fs, rfl, List.take_prefix _ _, by omega, hlen.symm⟩

theorem pending_append (before : List F) (f : F) (after : List F) (n : Nat)
    (hlo : (stream enc before).length ≤ n)
    (hhi : n < (stream enc before).length + (enc f).length) :
    pending enc (before ++ f :: after) n =
      (enc f).take (n - (stream enc before).length) := by
  induction before generalizing n with
  | nil =>
      simp only [stream_nil, List.length_nil, Nat.zero_add] at hhi
      simp only [List.nil_append, pending, if_neg (Nat.not_le.mpr hhi), stream_nil,
        List.length_nil, Nat.sub_zero]
  | cons g before ih =>
      rw [stream_cons, List.length_append] at hlo hhi ⊢
      have hg : (enc g).length ≤ n := by omega
      rw [List.cons_append, pending, if_pos hg, ih _ (by omega) (by omega), Nat.sub_add_eq]

/-- What follows some frames, and ends where a frame does, is whole frames. -/
theorem exists_frames_of_boundary {before after : List F} {piece : List α} {n : Nat}
    (hpiece : piece <+: stream enc after)
    (hlen : (stream enc before).length + piece.length =
      (stream enc ((before ++ after).take n)).length) :
    ∃ more rest, after = more ++ rest ∧ piece = stream enc more := by
  by_cases hn : n ≤ before.length
  · have hle : (stream enc (before.take n)).length ≤ (stream enc before).length := by
      conv_rhs => rw [← List.take_append_drop n before, stream_append, List.length_append]
      omega
    rw [List.take_append_of_le_length hn] at hlen
    have hnil : piece = [] := List.length_eq_zero_iff.mp (by omega)
    exact ⟨[], after, rfl, hnil⟩
  · rw [List.take_append, List.take_of_length_le (by omega), stream_append,
      List.length_append] at hlen
    refine ⟨after.take (n - before.length), after.drop (n - before.length),
      (List.take_append_drop _ _).symm, ?_⟩
    have hfirst : stream enc (after.take (n - before.length)) <+: stream enc after := by
      refine ⟨stream enc (after.drop (n - before.length)), ?_⟩
      rw [← stream_append, List.take_append_drop]
    exact (List.prefix_of_prefix_length_le hpiece hfirst (by omega)).eq_of_length (by omega)

section Rename

variable {G : Type} {enc} {enc' : G → List α} {g : F → G} {fs : List F}
  (h : ∀ f ∈ fs, enc f = enc' (g f))

include h

theorem stream_map : stream enc' (fs.map g) = stream enc fs := by
  induction fs with
  | nil => rfl
  | cons f fs ih =>
      have htail := ih fun e he => h e (by simp [he])
      calc stream enc' ((f :: fs).map g)
          = enc' (g f) ++ stream enc' (fs.map g) := stream_cons enc' (g f) (fs.map g)
        _ = enc f ++ stream enc fs := by rw [← h f (by simp), htail]
        _ = stream enc (f :: fs) := (stream_cons enc f fs).symm

theorem completed_map (n : Nat) :
    completed enc' (fs.map g) n = (completed enc fs n).map g := by
  induction fs generalizing n with
  | nil => rfl
  | cons f fs ih =>
      have hf := h f (by simp)
      rw [List.map_cons, completed, completed, ← hf, ih fun e he => h e (by simp [he])]
      split_ifs <;> rfl

theorem pending_map (n : Nat) : pending enc' (fs.map g) n = pending enc fs n := by
  induction fs generalizing n with
  | nil => rfl
  | cons f fs ih =>
      have hf := h f (by simp)
      rw [List.map_cons, pending, pending, ← hf, ih fun e he => h e (by simp [he])]

end Rename

theorem advance {fs : List F} {n : Nat} {piece : List α}
    (hpiece : (stream enc fs).take n ++ piece = (stream enc fs).take (n + piece.length))
    (hlen : n + piece.length ≤ (stream enc fs).length) :
    ∃ more, completed enc fs (n + piece.length) = completed enc fs n ++ more ∧
      pending enc fs n ++ piece = stream enc more ++ pending enc fs (n + piece.length) := by
  obtain ⟨more, hmore⟩ := completed_prefix enc fs (Nat.le_add_right n piece.length)
  refine ⟨more, hmore.symm, ?_⟩
  rw [take_stream enc fs n (by omega), take_stream enc fs _ hlen, ← hmore,
    stream_append, List.append_assoc, List.append_assoc] at hpiece
  exact List.append_cancel_left hpiece

/-! ## Receivers fed in pieces -/

section Receiver

variable {σ γ ε : Type} (bytes : γ → List α) (feed : σ → γ → Except ε σ)
  (Holds : List F → List α → σ → Prop) (Good : List F → Nat → γ → Prop)

def arrived (pieces : List γ) : Nat := (pieces.flatMap bytes).length

/-- Each of the pieces takes the receiver from the frames completed before it to
those completed after it, when the boundary at its end is good. -/
def Advances (fs : List F) (pieces : List γ) : Prop :=
  ∀ n, ∀ piece ∈ pieces, ∀ s more, Holds (completed enc fs n) (pending enc fs n) s →
    n + (bytes piece).length ≤ (stream enc fs).length →
    completed enc fs (n + (bytes piece).length) = completed enc fs n ++ more →
    pending enc fs n ++ bytes piece =
      stream enc more ++ pending enc fs (n + (bytes piece).length) →
    Good fs (n + (bytes piece).length) piece →
    ∃ s', feed s piece = .ok s' ∧
      Holds (completed enc fs (n + (bytes piece).length))
        (pending enc fs (n + (bytes piece).length)) s'

/-- A piece that reaches a receiver on track and ends at a bad boundary. -/
structure BadPiece (fs : List F) (n : Nat) (piece : γ) (s : σ) (more : List F) : Prop where
  holds : Holds (completed enc fs n) (pending enc fs n) s
  within : n + (bytes piece).length ≤ (stream enc fs).length
  completes : completed enc fs (n + (bytes piece).length) = completed enc fs n ++ more
  brings : pending enc fs n ++ bytes piece =
    stream enc more ++ pending enc fs (n + (bytes piece).length)
  bad : ¬ Good fs (n + (bytes piece).length) piece

def AllGood (fs : List F) (pieces : List γ) : Prop :=
  ∀ pre p post, pieces = pre ++ p :: post → Good fs (arrived bytes (pre ++ [p])) p

def OnTrack (fs : List F) (s₀ : σ) (pieces : List γ) : Prop :=
  ∀ pre post, pieces = pre ++ post → ∃ s, StepRun.run feed s₀ pre = .ok s ∧
    Holds (completed enc fs (arrived bytes pre)) (pending enc fs (arrived bytes pre)) s

@[simp] theorem arrived_append (ps qs : List γ) :
    arrived bytes (ps ++ qs) = arrived bytes ps + arrived bytes qs := by
  simp [arrived]

@[simp] theorem arrived_singleton (p : γ) : arrived bytes [p] = (bytes p).length := by
  simp [arrived]

variable {bytes feed Holds Good} {enc}

private theorem arrived_le {fs : List F} {pieces rest : List γ} {p : γ}
    (hstream : (pieces ++ p :: rest).flatMap bytes = stream enc fs) :
    arrived bytes pieces + (bytes p).length ≤ (stream enc fs).length := by
  have hlen := congrArg List.length hstream
  rw [List.flatMap_append, List.flatMap_cons, List.length_append, List.length_append] at hlen
  unfold arrived
  omega

private theorem advance_piece {fs : List F} {pieces rest : List γ} {p : γ}
    (hstream : (pieces ++ p :: rest).flatMap bytes = stream enc fs) :
    ∃ more, completed enc fs (arrived bytes pieces + (bytes p).length) =
        completed enc fs (arrived bytes pieces) ++ more ∧
      pending enc fs (arrived bytes pieces) ++ bytes p =
        stream enc more ++
          pending enc fs (arrived bytes pieces + (bytes p).length) := by
  have hsplit : stream enc fs =
      pieces.flatMap bytes ++ (bytes p ++ rest.flatMap bytes) := by
    rw [← hstream]
    simp
  apply advance
  · rw [hsplit, ← List.append_assoc]
    simp [arrived, List.take_append, List.take_of_length_le]
  · rw [hsplit]
    simp [arrived]

theorem run_holds {fs : List F} {s₀ : σ}
    (h₀ : Holds (completed enc fs 0) (pending enc fs 0) s₀) :
    ∀ pieces rest, Advances enc bytes feed Holds Good fs (pieces ++ rest) →
      (pieces ++ rest).flatMap bytes = stream enc fs → AllGood bytes Good fs pieces →
      ∃ s, StepRun.run feed s₀ pieces = .ok s ∧
        Holds (completed enc fs (arrived bytes pieces))
          (pending enc fs (arrived bytes pieces)) s := by
  intro pieces
  induction pieces using List.reverseRecOn with
  | nil => intro _ _ _ _; exact ⟨s₀, rfl, h₀⟩
  | append_singleton pieces p ih =>
      intro rest hadv hstream hgood
      have hsplit : (pieces ++ [p]) ++ rest = pieces ++ p :: rest := by simp
      rw [hsplit] at hadv
      have hstream' : (pieces ++ p :: rest).flatMap bytes = stream enc fs := by
        rw [← hsplit, hstream]
      obtain ⟨s, hrun, hholds⟩ := ih (p :: rest) hadv hstream'
        fun pre q post heq => hgood pre q (post ++ [p]) (by simp [heq])
      obtain ⟨more, hmore, hpend⟩ := advance_piece hstream'
      have hg := hgood pieces p [] rfl
      rw [arrived_append, arrived_singleton] at hg
      obtain ⟨s', hfeed, hholds'⟩ :=
        hadv _ p (by simp) s more hholds (arrived_le hstream') hmore hpend hg
      refine ⟨s', ?_, ?_⟩
      · rw [StepRun.run_append_of_ok hrun, StepRun.run_singleton, hfeed]
      · rwa [arrived_append, arrived_singleton]

/-- The pieces up to the first bad boundary leave the receiver on track. -/
theorem exists_first_bad {fs : List F} {pieces : List γ}
    (hadv : Advances enc bytes feed Holds Good fs pieces)
    {s₀ : σ} (h₀ : Holds (completed enc fs 0) (pending enc fs 0) s₀)
    (hstream : pieces.flatMap bytes = stream enc fs)
    (hbad : ¬ AllGood bytes Good fs pieces) :
    ∃ pre p post s more, pieces = pre ++ p :: post ∧ StepRun.run feed s₀ pre = .ok s ∧
      BadPiece enc bytes Holds Good fs (arrived bytes pre) p s more := by
  suffices h : ∃ pre p post, pieces = pre ++ p :: post ∧ AllGood bytes Good fs pre ∧
      ¬ Good fs (arrived bytes (pre ++ [p])) p by
    obtain ⟨pre, p, post, rfl, hgood, hp⟩ := h
    obtain ⟨s, hrun, hholds⟩ := run_holds h₀ pre (p :: post) hadv hstream hgood
    obtain ⟨more, hmore, hpend⟩ := advance_piece hstream
    rw [arrived_append, arrived_singleton] at hp
    exact ⟨pre, p, post, s, more, rfl, hrun, hholds, arrived_le hstream, hmore, hpend, hp⟩
  clear hstream hadv
  induction pieces using List.reverseRecOn with
  | nil =>
      refine absurd ?_ hbad
      intro pre p post heq
      simp at heq
  | append_singleton pieces p ih =>
      by_cases hgood : AllGood bytes Good fs pieces
      · refine ⟨pieces, p, [], rfl, hgood, fun hp => hbad ?_⟩
        intro pre q post heq
        rcases List.eq_nil_or_concat post with rfl | ⟨post', r, rfl⟩
        · obtain ⟨rfl, hq⟩ := List.append_inj' heq rfl
          cases hq
          exact hp
        · have hinit : pieces ++ [p] = (pre ++ q :: post') ++ [r] := by simpa using heq
          obtain ⟨rfl, -⟩ := List.append_inj' hinit rfl
          exact hgood pre q post' rfl
      · obtain ⟨pre, q, post, rfl, hpre, hq⟩ := ih hgood
        exact ⟨pre, q, post ++ [p], by simp, hpre, hq⟩

/-- What is seen of a receiver on track is seen everywhere exactly when there is no bad
boundary, for a receiver that a bad boundary throws off. -/
theorem onTrack_iff_allGood {Seen : List F → List α → σ → Prop}
    (hseen : ∀ done rest s, Holds done rest s → Seen done rest s)
    {fs : List F} {pieces : List γ} (hadv : Advances enc bytes feed Holds Good fs pieces)
    (hderail : ∀ n, ∀ p ∈ pieces, ∀ s s' more,
      BadPiece enc bytes Holds Good fs n p s more → feed s p = .ok s' →
      ¬ Seen (completed enc fs (n + (bytes p).length))
        (pending enc fs (n + (bytes p).length)) s')
    {s₀ : σ} (h₀ : Holds (completed enc fs 0) (pending enc fs 0) s₀)
    (hstream : pieces.flatMap bytes = stream enc fs) :
    OnTrack enc bytes feed Seen fs s₀ pieces ↔ AllGood bytes Good fs pieces := by
  constructor
  · intro htrack
    by_contra hbad
    obtain ⟨pre, p, post, s, more, rfl, hrun, hpiece⟩ :=
      exists_first_bad hadv h₀ hstream hbad
    obtain ⟨s', hrun', hseen'⟩ := htrack (pre ++ [p]) post (by simp)
    rw [StepRun.run_append_of_ok hrun, StepRun.run_singleton] at hrun'
    rw [arrived_append, arrived_singleton] at hseen'
    exact hderail _ p (by simp) s s' more hpiece hrun' hseen'
  · intro hgood pre post heq
    subst heq
    obtain ⟨s, hrun, hholds⟩ := run_holds h₀ pre post hadv hstream
      fun pre' p post' h => hgood pre' p (post' ++ post) (by simp [h])
    exact ⟨s, hrun, hseen _ _ s hholds⟩

/-- A receiver that every bad boundary stops gets through exactly when there is
none, and then it is on track. -/
theorem run_ok_iff_allGood {fs : List F} {pieces : List γ}
    (hadv : Advances enc bytes feed Holds Good fs pieces)
    (hstop : ∀ n p s more, BadPiece enc bytes Holds Good fs n p s more →
      ∀ s', feed s p ≠ .ok s')
    {s₀ : σ} (h₀ : Holds (completed enc fs 0) (pending enc fs 0) s₀)
    (hstream : pieces.flatMap bytes = stream enc fs) :
    (∃ s, StepRun.run feed s₀ pieces = .ok s ∧ Holds fs [] s) ↔
      AllGood bytes Good fs pieces := by
  constructor
  · rintro ⟨s', hrun', -⟩
    by_contra hbad
    obtain ⟨pre, p, post, s, more, rfl, hrun, hpiece⟩ :=
      exists_first_bad hadv h₀ hstream hbad
    rw [StepRun.run_append_of_ok hrun] at hrun'
    cases hp : feed s p with
    | error e => rw [StepRun.run_cons_of_error hp] at hrun'; cases hrun'
    | ok t => exact hstop _ p s more hpiece t hp
  · intro hgood
    have hnil : pieces ++ [] = pieces := List.append_nil pieces
    obtain ⟨s, hrun, hholds⟩ := run_holds h₀ pieces [] (by rwa [hnil]) (by rwa [hnil]) hgood
    have hall : arrived bytes pieces = (stream enc fs).length := by rw [arrived, hstream]
    rw [hall, completed_length, pending_length] at hholds
    exact ⟨s, hrun, hholds⟩

end Receiver

end Framing
