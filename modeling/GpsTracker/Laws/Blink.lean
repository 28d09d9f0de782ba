/-
The two writers of the status LED (status_led.c).

The calls of main and `blink_work_handler` write the same channels.
Elsewhere the handler runs in one piece; here it runs in steps, and main,
whose thread has the higher priority, makes a whole call between any two of
them. Only the calls that stop the blink wait for the handler: they cancel
the work, let the handler finish, and write then.

# Where the two meet

- a call that does not stop the blink writes while the handler still holds
  the colours of the phase it toggled to, and the handler then drives those;
- a handler that has its delay already schedules itself again behind a
  cancel, with the delay of the pattern before.

A run in which neither happens keeps the channels with the flags. The
histories in which the handler runs in one piece are such runs
(`History.follows`).
-/
import GpsTracker.Laws.Led

namespace GpsTracker

open Proc

variable {cfg : Config}

-- ================================================================== the model

/-- Where `blink_work_handler` stands, and the values it holds there: about
to toggle `lit`, to choose the colours, to drive red, to drive green, to
compute the delay, to reschedule. -/
inductive Handler
  | idle
  | begun
  | toggled (on : Bool)
  | coloured (red green : Bool)
  | reddened (green : Bool)
  | driven
  | delayed (delay : Option Nat)
deriving DecidableEq, Repr

/-- What the two threads share: the flags, the channels as last driven, the
timeout of the work item and whether it is on the queue; where the handler
stands; and whether main waits in `stop_blink`. -/
structure Lamp where
  available : Bool := false
  vars : LedVars := {}
  red : Bool := false
  green : Bool := false
  timeout : Option Nat := none
  queued : Bool := false
  handler : Handler := .idle
  stopping : Bool := false
deriving DecidableEq, Repr

namespace Lamp

/-- `k_work_reschedule`; `none` for `K_FOREVER`. -/
def reschedule (delay : Option Nat) (l : Lamp) : Lamp :=
  { l with timeout := delay }

/-- `apply`. -/
def apply (on : Bool) (l : Lamp) : Lamp :=
  let c := ledColour l.vars.status on
  { l with vars := { l.vars with lit := on }, red := c.1, green := c.2 }

/-- `stop_blink`, up to the wait for the handler: what is pending or queued
is removed. -/
def stopBlink (l : Lamp) : Lamp :=
  { l with
    vars := { l.vars with blinking := false }
    timeout := none
    queued := false
    stopping := true }

/-- After `stop_blink` both callers go on with `apply(true)`; `blinking` is
clear, so `status_led_set` does not reschedule. -/
def resume (l : Lamp) : Lamp := { l.apply true with stopping := false }

/-- `status_led_set`, up to the wait in `stop_blink`. -/
def set (cfg : Config) (status : Status) (l : Lamp) : Lamp :=
  if !l.available then l
  else
    let l := { l with vars := { l.vars with status := status } }
    if status = .off then l.stopBlink
    else if l.vars.blinking then
      (l.apply true).reschedule (phaseDelay cfg l.vars.pattern true)
    else l.apply true

/-- `status_led_pattern`, up to the wait in `stop_blink`. -/
def pattern (cfg : Config) (pattern : LedPattern) (l : Lamp) : Lamp :=
  let wantBlink := pattern != .solid
  if !l.available then l
  else if pattern = l.vars.pattern && wantBlink == l.vars.blinking then l
  else
    let l := { l with vars := { l.vars with pattern := pattern } }
    if pattern = .solid then l.stopBlink
    else
      let l := { l with vars := { l.vars with blinking := true } }
      (l.apply true).reschedule (phaseDelay cfg pattern true)

/-- A call of main, up to the wait in `stop_blink`. -/
def call (cfg : Config) : LedCall → Lamp → Lamp
  | .set s, l => l.set cfg s
  | .pattern p, l => l.pattern cfg p
  | .sleep, l => if !cfg.statusLedOnBattery then l.set cfg .off else l

/-- As `status_led_init` leaves it, with the driver ready or not. -/
def init (cfg : Config) (ready : Bool) : Lamp :=
  if !ready then {} else (set cfg .off { available := true }).resume

/-- One step of `blink_work_handler`. Behind a cancel its own reschedule
may be lost. -/
def work (cfg : Config) (survives : Bool) (l : Lamp) : Lamp :=
  match l.handler with
  | .idle => l
  | .begun =>
      { l with
        vars := { l.vars with lit := !l.vars.lit }
        handler := .toggled !l.vars.lit }
  | .toggled on =>
      let c := ledColour l.vars.status on
      { l with handler := .coloured c.1 c.2 }
  | .coloured red green => { l with red := red, handler := .reddened green }
  | .reddened green => { l with green := green, handler := .driven }
  | .driven =>
      { l with handler := .delayed (phaseDelay cfg l.vars.pattern l.vars.lit) }
  | .delayed delay =>
      let l := { l with handler := .idle }
      if l.stopping && !survives then l else l.reschedule delay

end Lamp

/-- The timeout expires, the work queue starts the handler, the handler
takes a step, main makes a call, and main comes back from `stop_blink`. -/
inductive LampMove
  | expire
  | start
  | work (survives : Bool)
  | call (c : LedCall)
  | resume

/-- Main goes first: the handler starts only while main is not in a call,
and while main waits in one the handler finishes what it has begun. -/
def LampMove.can : LampMove → Lamp → Bool
  | .expire, l => l.timeout.isSome
  | .start, l => l.queued && l.handler == .idle && !l.stopping
  | .work _, l => l.handler != .idle
  | .call _, l => !l.stopping
  | .resume, l => l.stopping && l.handler == .idle

def LampMove.run (cfg : Config) : LampMove → Lamp → Lamp
  | .expire, l => { l with timeout := none, queued := true }
  | .start, l => { l with queued := false, handler := .begun }
  | .work survives, l => l.work cfg survives
  | .call c, l => l.call cfg c
  | .resume, l => l.resume

/-- No calls come from outside: main is one of the two parties. -/
abbrev NoCalls : Sig := ⟨Empty, nofun⟩

/-- The two threads. -/
def lamp (cfg : Config) : Machine Lamp LampMove NoCalls where
  ok := nofun
  effect := nofun
  can := LampMove.can
  move := LampMove.run cfg

abbrev LampWorld := World Unit Lamp LampMove NoCalls

/-- From the end of `status_led_init`. -/
def lampInit (cfg : Config) (ready : Bool) : LampWorld :=
  ⟨(), Lamp.init cfg ready, []⟩

abbrev LampEv := Event Unit Lamp LampMove NoCalls

-- ================================================================= statements

/-- A call of main. -/
def asked : LampEv → Bool
  | .env _ _ (.call _) => true
  | _ => false

/-- No call is under way and no run of the handler in progress. -/
def Lamp.resting (l : Lamp) : Prop := l.stopping = false ∧ l.handler = .idle

/-- The channels show the flags, and where nothing is to blink no handler
changes them before the next call. -/
def SingleWriter (cfg : Config) (w : LampWorld) : Prop :=
  w.dev.resting →
    (w.dev.red, w.dev.green) = ledColour w.dev.vars.status w.dev.vars.lit ∧
    (w.dev.vars.status = .off ∨ w.dev.vars.pattern = .solid →
      ∀ w' l, Moves (lamp cfg) w w' → w'.log = l ++ w.log →
        (∀ e ∈ l, asked e = false) →
        (w'.dev.red, w'.dev.green) = (w.dev.red, w.dev.green))

/-- The status whose colours a call drives at once, without stopping the
blink first; `none` where it drives nothing or waits for the handler. -/
def Lamp.drives (l : Lamp) : LedCall → Option Status
  | .set s => if l.available && s != .off then some s else none
  | .pattern p =>
      if !l.available || (p == l.vars.pattern &&
        (p != .solid) == l.vars.blinking) || p == .solid then none
      else some l.vars.status
  | .sleep => none

/-- The handler is past its toggle and has still to drive a channel other
than as the lit phase of `s` asks. -/
def Lamp.holdsOther (s : Status) (l : Lamp) : Bool :=
  match l.handler with
  | .toggled on => ledColour s on != ledColour s true
  | .coloured red green => (red, green) != ledColour s true
  | .reddened green => green != (ledColour s true).2
  | _ => false

/-- The handler reschedules itself with a delay it computed before main
stopped the blink for good. -/
def Lamp.stale (l : Lamp) : Bool :=
  l.stopping && l.vars.pattern == .solid &&
    match l.handler with
    | .delayed delay => delay.isSome
    | _ => false

/-- No call drives the channels while the handler holds other colours for
them, and no stale delay survives. -/
def apart : LampEv → Bool
  | .env _ l (.call c) =>
      match l.drives c with
      | some s => !l.holdsOther s
      | none => true
  | .env _ l (.work survives) => !(survives && l.stale)
  | _ => true

/-- `apart` as a proviso on the steps of a run. -/
abbrev Apart (e : LampEv) (_ : Log Unit Lamp LampMove NoCalls) : Prop := apart e

-- ================================================================= the colours

namespace Lamp

/-- What the channels will show once the handler has driven what it
holds. -/
def due (l : Lamp) : Bool × Bool :=
  match l.handler with
  | .toggled on => ledColour l.vars.status on
  | .coloured red green => (red, green)
  | .reddened green => (l.red, green)
  | _ => (l.red, l.green)

/-- What keeps the two writers together: the channels are due to show the
flags, unless main is about to drive them; and a solid LED has no work
pending, nor a handler running once main is back. -/
structure Tended (l : Lamp) : Prop where
  colour : l.stopping = false → l.due = ledColour l.vars.status l.vars.lit
  solid : l.vars.pattern = .solid → l.timeout = none ∧ l.queued = false
  still : l.vars.pattern = .solid → l.stopping = false → l.handler = .idle

variable {l : Lamp}

/-- After `status_led_init` the LED is tended, whether its driver is ready or
not. -/
theorem init_tended (ready : Bool) : (init cfg ready).Tended := by
  cases ready with
  | false => exact ⟨fun _ => rfl, fun _ => ⟨rfl, rfl⟩, fun _ _ => rfl⟩
  | true => exact ⟨fun _ => rfl, fun _ => ⟨rfl, rfl⟩, fun _ _ => rfl⟩

/-- Stopping the blink keeps that, even where it cannot stop the handler. -/
theorem stopBlink_tended : l.stopBlink.Tended :=
  ⟨nofun, fun _ => ⟨rfl, rfl⟩, fun _ => nofun⟩

/-- A handler that holds nothing else is due to show the lit phase. -/
theorem apply_due (h : l.holdsOther l.vars.status = false) :
    (l.apply true).due = ledColour l.vars.status true := by
  unfold holdsOther at h
  unfold due apply
  cases hh : l.handler with
  | toggled on =>
      rw [hh] at h
      exact bne_eq_false_iff_eq.mp h
  | coloured red green =>
      rw [hh] at h
      exact bne_eq_false_iff_eq.mp h
  | reddened green =>
      rw [hh] at h
      exact Prod.ext rfl (bne_eq_false_iff_eq.mp h)
  | _ => rfl

/-- A status is set without the handler's colour in the way. -/
theorem set_tended (h : l.Tended) {s : Status}
    (hs : ∀ s', l.drives (.set s) = some s' → l.holdsOther s' = false) :
    (l.set cfg s).Tended := by
  unfold set
  by_cases ha : l.available = true
  · rw [if_neg (by simp [ha])]
    by_cases hoff : s = .off
    · rw [if_pos hoff]
      exact stopBlink_tended
    · rw [if_neg hoff]
      have hdrives : l.drives (.set s) = some s :=
        if_pos (by simp [ha, hoff])
      have h' : ({ l with vars := { l.vars with status := s } }.apply
          true).due = ledColour s true :=
        apply_due (l := { l with vars := { l.vars with status := s } })
          (hs s hdrives)
      split
      · exact ⟨fun _ => h', fun hp => ⟨by
          rw [show l.vars.pattern = .solid from hp]
          rfl, (h.solid hp).2⟩, h.still⟩
      · exact ⟨fun _ => h', h.solid, h.still⟩
  · rw [if_pos (by simp [ha])]
    exact h

/-- And a pattern. -/
theorem pattern_tended (h : l.Tended) {p : LedPattern}
    (hs : ∀ s, l.drives (.pattern p) = some s → l.holdsOther s = false) :
    (l.pattern cfg p).Tended := by
  unfold pattern
  by_cases ha : l.available = true
  · rw [if_neg (by simp [ha])]
    split
    · exact h
    next hnew =>
      split
      · exact stopBlink_tended
      next hp =>
        have hdrives : l.drives (.pattern p) = some l.vars.status :=
          if_neg (by simpa [ha, hp] using hnew)
        exact ⟨fun _ => apply_due (l := { l with vars := { l.vars with
          pattern := p, blinking := true } }) (hs _ hdrives),
          fun hp' => absurd hp' hp, fun hp' => absurd hp' hp⟩
  · rw [if_pos (by simp [ha])]
    exact h

/-- So every call that meets the condition keeps it. -/
theorem call_tended (h : l.Tended) {c : LedCall}
    (hs : ∀ s, l.drives c = some s → l.holdsOther s = false) :
    (l.call cfg c).Tended := by
  cases c with
  | set s => exact set_tended h hs
  | pattern p => exact pattern_tended h hs
  | sleep =>
      show (if !cfg.statusLedOnBattery then l.set cfg .off else l).Tended
      split
      · exact set_tended h fun s' hs' => by simp [drives] at hs'
      · exact h

/-- One step of the handler; only its reschedule may break anything. -/
theorem work_tended (h : l.Tended) {survives : Bool}
    (hrun : l.handler ≠ .idle) (hs : (survives && l.stale) = false) :
    (l.work cfg survives).Tended := by
  -- in the solid pattern the handler runs only while `stop_blink` waits for
  -- it
  have hbusy : l.vars.pattern = .solid → l.stopping = true := fun hp =>
    Decidable.byContradiction fun hm =>
      hrun (h.still hp (Bool.eq_false_iff.mpr hm))
  have hstill : ∀ l' : Lamp, l'.stopping = l.stopping →
      l'.vars.pattern = l.vars.pattern → l'.vars.pattern = .solid →
      l'.stopping = false → l'.handler = .idle := fun l' hm hp hp' hm' => by
    rw [hm, hbusy (hp ▸ hp')] at hm'
    cases hm'
  unfold work
  cases hh : l.handler with
  | idle => exact absurd hh hrun
  | begun => exact ⟨fun _ => rfl, h.solid, hstill _ rfl rfl⟩
  -- from the toggle to the second channel the colour that is due stays the
  -- same
  | toggled on =>
      have hdue := h.colour
      unfold due at hdue
      rw [hh] at hdue
      exact ⟨hdue, h.solid, hstill _ rfl rfl⟩
  | coloured red green =>
      have hdue := h.colour
      unfold due at hdue
      rw [hh] at hdue
      exact ⟨hdue, h.solid, hstill _ rfl rfl⟩
  | reddened green =>
      have hdue := h.colour
      unfold due at hdue
      rw [hh] at hdue
      exact ⟨hdue, h.solid, hstill _ rfl rfl⟩
  | driven =>
      have hdue := h.colour
      unfold due at hdue
      rw [hh] at hdue
      exact ⟨hdue, h.solid, hstill _ rfl rfl⟩
  -- the last step: cancelled, or it reschedules by what it read before
  | delayed delay =>
      have hdue := h.colour
      unfold due at hdue
      rw [hh] at hdue
      show (if l.stopping && !survives then _ else _ : Lamp).Tended
      split
      · exact ⟨hdue, h.solid, fun _ _ => rfl⟩
      next hkeeps =>
        refine ⟨hdue, fun hp => ⟨?_, (h.solid hp).2⟩, fun _ _ => rfl⟩
        have hsurvives : survives = true := by
          simpa [hbusy hp] using hkeeps
        -- what survives here is the stale read that keeping apart excludes
        have hstale : l.stale = delay.isSome := by
          have hp' : l.vars.pattern = .solid := hp
          unfold stale
          rw [hbusy hp, hp', hh]
          rfl
        rw [hsurvives, hstale, Bool.true_and] at hs
        exact Option.not_isSome_iff_eq_none.mp (Bool.eq_false_iff.mp hs)

/-- A call that waited for the handler goes on once it is idle. -/
theorem resume_tended (h : l.Tended) (hidle : l.handler = .idle) :
    l.resume.Tended where
  colour := fun _ => by
    unfold due resume apply
    rw [hidle]
  solid := h.solid
  still := fun _ _ => hidle

end Lamp

/-- Every step of the two threads that stay apart. -/
theorem tended_stable :
    Stable (lamp cfg) Apart fun w : LampWorld => w.dev.Tended := by
  intro w a h hcan hG
  have happart : apart (.env w.st w.dev a) = true := hG.1
  cases a with
  -- the timeout belongs to a blinking pattern
  | expire =>
      have hsome : w.dev.timeout.isSome = true := hcan
      refine ⟨h.colour, fun hp => ?_, h.still⟩
      rw [(h.solid hp).1] at hsome
      cases hsome
  | start =>
      obtain ⟨⟨hq, hidle⟩, -⟩ : (w.dev.queued = true ∧
          w.dev.handler = .idle) ∧ w.dev.stopping = false := by
        simpa [lamp, LampMove.can] using hcan
      have hblinks : w.dev.vars.pattern ≠ .solid := fun hp => by
        rw [(h.solid hp).2] at hq
        cases hq
      refine ⟨fun hm => ?_, fun hp => absurd hp hblinks,
        fun hp => absurd hp hblinks⟩
      have hdue := h.colour hm
      unfold Lamp.due at hdue
      rw [hidle] at hdue
      exact hdue
  | work survives =>
      exact Lamp.work_tended h (bne_iff_ne.mp hcan)
        ((Bool.not_eq_true' _).mp happart)
  -- a call that drives the channels finds no other status held by the handler
  | call c =>
      refine Lamp.call_tended h fun s hs => ?_
      unfold apart at happart
      simpa [hs] using happart
  | resume =>
      obtain ⟨-, hidle⟩ := Bool.and_eq_true_iff.mp hcan
      exact Lamp.resume_tended h (beq_iff_eq.mp hidle)

-- ===================================================================== the law

/-- A solid LED with no work to run. -/
structure Lamp.Still (c : Bool × Bool) (l : Lamp) : Prop where
  colour : (l.red, l.green) = c
  free : l.stopping = false
  timeout : l.timeout = none
  queued : l.queued = false
  idle : l.handler = .idle

/-- A dark status with nothing but dark to drive. -/
structure Lamp.Dark (l : Lamp) : Prop where
  colour : (l.red, l.green) = (false, false)
  free : l.stopping = false
  status : l.vars.status = .off
  due : l.due = (false, false)

variable {l₀ : Log Unit Lamp LampMove NoCalls}

/-- A still LED stays still until it is asked. -/
theorem still_stable {c : Bool × Bool} :
    Stable (lamp cfg) (Since l₀ fun e => asked e = false)
      (After l₀ fun _ l => l.Still c) := by
  refine After.stable fun _ s l a h hcan hasked => ?_
  cases a with
  | expire =>
      have hsome : l.timeout.isSome = true := hcan
      rw [h.timeout] at hsome
      cases hsome
  | start =>
      have hstart := (Bool.and_eq_true_iff.mp hcan).1
      rw [h.queued] at hstart
      cases hstart
  | work survives => exact absurd h.idle (bne_iff_ne.mp hcan)
  | call c => cases hasked
  | resume =>
      have hstopping := (Bool.and_eq_true_iff.mp hcan).1
      rw [h.free] at hstopping
      cases hstopping

/-- One step of the handler under a dark status. -/
theorem Lamp.Dark.worked {l : Lamp} (h : l.Dark) (survives : Bool) :
    (l.work cfg survives).Dark := by
  have hdark : ∀ on, ledColour .off on = (false, false) := by decide
  have hdue := h.due
  unfold Lamp.due at hdue
  unfold Lamp.work
  cases hh : l.handler with
  | idle => exact h
  | begun =>
      refine ⟨h.colour, h.free, h.status, ?_⟩
      show ledColour l.vars.status (!l.vars.lit) = (false, false)
      rw [h.status]
      exact hdark _
  | toggled on =>
      rw [hh] at hdue
      exact ⟨h.colour, h.free, h.status, hdue⟩
  | coloured red green =>
      rw [hh] at hdue
      cases hdue
      have hgreen : l.green = false := congrArg Prod.snd h.colour
      exact ⟨Prod.ext rfl hgreen, h.free, h.status, rfl⟩
  | reddened green =>
      rw [hh] at hdue
      exact ⟨hdue, h.free, h.status, hdue⟩
  | driven => exact ⟨h.colour, h.free, h.status, h.colour⟩
  | delayed delay =>
      show (if l.stopping && !survives then _ else _ : Lamp).Dark
      rw [h.free]
      exact ⟨h.colour, rfl, h.status, h.colour⟩

/-- And a dark one dark, through what the handler still has to do. -/
theorem dark_stable :
    Stable (lamp cfg) (Since l₀ fun e => asked e = false)
      (After l₀ fun _ l => l.Dark) := by
  refine After.stable fun _ s l a h hcan hasked => ?_
  cases a with
  | expire => exact ⟨h.colour, h.free, h.status, h.due⟩
  | start => exact ⟨h.colour, h.free, h.status, h.colour⟩
  | work survives => exact h.worked survives
  | call c => cases hasked
  | resume =>
      have hstopping := (Bool.and_eq_true_iff.mp hcan).1
      rw [h.free] at hstopping
      cases hstopping

/-- In every run in which the two threads stay apart, between two calls and
two runs of the handler the channels show the flags; and where the status
is dark or the pattern solid they stay so until the next call. -/
theorem led_single_writer {ready : Bool} {w : LampWorld}
    (h : Moves (lamp cfg) (lampInit cfg ready) w)
    (hG : Always Apart w.log) : SingleWriter cfg w := by
  have ht : w.dev.Tended :=
    tended_stable.moves h hG (Lamp.init_tended ready)
  rintro ⟨hm, hidle⟩
  have hcolour : (w.dev.red, w.dev.green)
      = ledColour w.dev.vars.status w.dev.vars.lit := by
    have hdue := ht.colour hm
    unfold Lamp.due at hdue
    rw [hidle] at hdue
    exact hdue
  refine ⟨hcolour, fun hstill w' l hmoves hl hnone => ?_⟩
  have hsince : Always (Since w.log fun e => asked e = false) w'.log := by
    rw [hl]
    exact always_since hnone
  -- dark: the handler may still run, and shows nothing; solid: it is not
  -- scheduled
  rcases hstill with hoff | hsolid
  · have hdark : (w.dev.red, w.dev.green) = (false, false) := by
      rw [hcolour, hoff]
      cases w.dev.vars.lit <;> rfl
    have hdue : w.dev.due = (false, false) := by
      rw [ht.colour hm, ← hcolour]
      exact hdark
    obtain ⟨-, -, hstays⟩ := dark_stable.moves hmoves hsince
      ⟨[], rfl, hdark, hm, hoff, hdue⟩
    exact hstays.colour.trans hdark.symm
  · obtain ⟨htimeout, hqueued⟩ := ht.solid hsolid
    obtain ⟨-, -, hstays⟩ := still_stable.moves hmoves hsince
      ⟨[], rfl, rfl, hm, htimeout, hqueued, hidle⟩
    exact hstays.colour

/-- The world after some moves from the end of `status_led_init`. -/
def lampAfter (as : List LampMove) : LampWorld :=
  (playMoves (lamp {}) as (lampInit {} true)).getD (lampInit {} true)

/-- What the moves play is a run. -/
theorem lampAfter_moves {as : List LampMove}
    (h : (playMoves (lamp {}) as (lampInit {} true)).isSome = true) :
    Moves (lamp {}) (lampInit {} true) (lampAfter as) := by
  obtain ⟨w, hw⟩ := Option.isSome_iff_exists.mp h
  have hafter : lampAfter as = w := by
    unfold lampAfter
    rw [hw]
    rfl
  rw [hafter]
  exact playMoves_moves (.refl _) hw

/-- The handler in one piece. -/
def wholeRun : List LampMove :=
  .expire :: .start :: List.replicate 6 (.work true)

/-- A blink, and a status for it between two runs of the handler. -/
def blinking : List LampMove :=
  [.call (.set .noLte), .call (.pattern .charging)] ++ wholeRun ++
    [.call (.set .lteFix)] ++ wholeRun

/-- Two blinks, a status between them. -/
theorem led_single_writer_blinking : SingleWriter {} (lampAfter blinking) :=
  led_single_writer (lampAfter_moves (by rfl) :
    Moves (lamp {}) (lampInit {} true) _) (by decide +kernel)

/-- A status set while the handler is about to drive the dark phase. -/
def overtaken : List LampMove :=
  [.call (.set .noLte), .call (.pattern .charging), .expire, .start,
    .work true, .work true, .call (.set .lteFix), .work true, .work true,
    .work true, .work true]

/-- A solid pattern asked for while the handler is about to reschedule. -/
def outlived : List LampMove :=
  [.call (.set .noLte), .call (.pattern .charging), .expire, .start] ++
    List.replicate 5 (.work true) ++
    [.call (.pattern .solid), .work true, .resume]

/-- The lit phase of the new status with the channels dark; and the delay
that outlives the cancel, after which the solid LED goes dark. -/
theorem led_mixes_colours :
    (Moves (lamp {}) (lampInit {} true) (lampAfter overtaken)
      ∧ ¬SingleWriter {} (lampAfter overtaken)) ∧
    Moves (lamp {}) (lampInit {} true) (lampAfter outlived)
      ∧ ¬SingleWriter {} (lampAfter outlived) := by
  refine ⟨⟨lampAfter_moves (by rfl), fun h => ?_⟩,
    lampAfter_moves (by rfl), fun h => ?_⟩
  · have hcolour := (h ⟨by rfl, by rfl⟩).1
    revert hcolour
    decide +kernel
  · have hmoves : Moves (lamp {}) (lampAfter outlived)
        (lampAfter (outlived ++ wholeRun)) :=
      playMoves_moves (.refl _) (by rfl :
        playMoves (lamp {}) wholeRun _ = some _)
    have hsame := (h ⟨by rfl, by rfl⟩).2 (.inr (by rfl)) _
      ((lampAfter (outlived ++ wholeRun)).log.take 8) hmoves (by rfl)
      (by decide +kernel)
    revert hsame
    decide +kernel

-- ================================================= the handler in one piece

/-- Between two calls and two runs of the handler, under the flags `v`. -/
structure Lamp.At (cfg : Config) (v : LedVars) (l : Lamp) : Prop where
  available : l.available = true
  vars : l.vars = v
  colour : (l.red, l.green) = ledColour v.status v.lit
  timeout : l.timeout = v.work cfg
  queued : l.queued = false
  resting : l.resting

/-- The end of a call that finds no handler to wait for. -/
def Lamp.settle (l : Lamp) : Lamp := if l.stopping then l.resume else l

/-- A handler at rest has nothing to wait for. -/
theorem Lamp.At.settled {v : LedVars} {l : Lamp} (h : l.At cfg v) :
    l.settle.At cfg v := by
  unfold Lamp.settle
  rw [if_neg (Bool.eq_false_iff.mp h.resting.1)]
  exact h

/-- A status set in one piece shows as its flags. -/
theorem Lamp.At.set {v : LedVars} {l : Lamp} (h : l.At cfg v) (s : Status) :
    (l.set cfg s).settle.At cfg (v.set s) := by
  obtain ⟨ha, rfl, hc, ht, hq, hm, hidle⟩ := h
  unfold Lamp.set
  rw [if_neg (by simp [ha])]
  by_cases hs : s = .off
  · rw [if_pos hs]
    have hset : l.vars.set s
        = { l.vars with status := s, blinking := false, lit := true } := by
      simp [LedVars.set, hs]
    rw [hset]
    exact ⟨ha, rfl, rfl, rfl, rfl, rfl, hidle⟩
  · rw [if_neg hs]
    have hset : l.vars.set s = { l.vars with status := s, lit := true } := by
      simp [LedVars.set, hs]
    rw [hset]
    by_cases hb : l.vars.blinking = true
    · rw [if_pos hb]
      exact Lamp.At.settled
        ⟨ha, rfl, rfl, (if_pos hb).symm, hq, hm, hidle⟩
    · rw [if_neg hb]
      have hwork : l.timeout = none := ht.trans (if_neg hb)
      exact Lamp.At.settled
        ⟨ha, rfl, rfl, hwork.trans (if_neg hb).symm, hq, hm, hidle⟩

/-- And so does a pattern. -/
theorem Lamp.At.pattern {v : LedVars} {l : Lamp} (h : l.At cfg v)
    (p : LedPattern) : (l.pattern cfg p).settle.At cfg (v.show p) := by
  obtain ⟨ha, rfl, hc, ht, hq, hm, hidle⟩ := h
  have hready : ¬(!l.available) = true := by simp [ha]
  unfold Lamp.pattern LedVars.show
  simp only [if_neg hready]
  by_cases hsame : (decide (p = l.vars.pattern) &&
      (p != .solid) == l.vars.blinking) = true
  · rw [if_pos hsame, if_pos hsame]
    exact Lamp.At.settled ⟨ha, rfl, hc, ht, hq, hm, hidle⟩
  rw [if_neg hsame, if_neg hsame]
  by_cases hp : p = .solid
  · rw [if_pos hp]
    subst hp
    exact ⟨ha, rfl, rfl, rfl, rfl, rfl, hidle⟩
  · have hblinks : (p != .solid) = true := bne_iff_ne.mpr hp
    rw [if_neg hp, hblinks]
    exact Lamp.At.settled ⟨ha, rfl, rfl, rfl, hq, hm, hidle⟩

/-- A call with no handler running. -/
theorem Lamp.At.call {v : LedVars} {l : Lamp} (h : l.At cfg v) (c : LedCall) :
    (l.call cfg c).settle.At cfg (v.after cfg c) := by
  cases c with
  | set s => exact h.set s
  | pattern p => exact h.pattern p
  | sleep =>
      show ((if !cfg.statusLedOnBattery then l.set cfg .off else l).settle).At
        cfg (v.sleep cfg)
      unfold LedVars.sleep
      by_cases hb : cfg.statusLedOnBattery = true
      · rw [if_pos hb, if_neg (by simp [hb])]
        exact h.settled
      · rw [if_neg hb, if_pos (by simp [hb])]
        exact h.set .off

/-- A run of the two threads that leads to the flags `v` and stays apart. -/
structure Follows (cfg : Config) (v : LedVars) (w : LampWorld) : Prop where
  moves : Moves (lamp cfg) (lampInit cfg true) w
  apart : Always Apart w.log
  here : w.dev.At cfg v

variable {v : LedVars}

/-- A call, and its return from `stop_blink` where it waits there. -/
theorem Follows.called {w : LampWorld} (h : Follows cfg v w) (c : LedCall) :
    ∃ w', Follows cfg (v.after cfg c) w' := by
  obtain ⟨hmoves, hapart, hat⟩ := h
  have hfree : (lamp cfg).can (.call c) w.dev = true := by
    show (!w.dev.stopping) = true
    rw [hat.resting.1]
    rfl
  have hholds : ∀ s, w.dev.holdsOther s = false := fun s => by
    unfold Lamp.holdsOther
    rw [hat.resting.2]
  have hspared : Apart (.env w.st w.dev (.call c)) w.log := by
    unfold Apart GpsTracker.apart
    cases hd : w.dev.drives c with
    | none => simp [hd]
    | some s => simp [hd, hholds s]
  have hcalled := Moves.step (LampMove.call c) hmoves hfree
  have hsettled := hat.call c
  unfold Lamp.settle at hsettled
  -- where the call waits in `stop_blink`, nothing runs that it could wait for
  by_cases hm : (w.dev.call cfg c).stopping = true
  · rw [if_pos hm] at hsettled
    have hidle : (w.dev.call cfg c).handler = .idle := hsettled.resting.2
    have hcan : (lamp cfg).can .resume (w.dev.call cfg c) = true := by
      show ((w.dev.call cfg c).stopping &&
        (w.dev.call cfg c).handler == .idle) = true
      rw [hm, hidle]
      rfl
    exact ⟨_, Moves.step LampMove.resume hcalled hcan,
      ⟨rfl, hspared, hapart⟩, hsettled⟩
  · rw [if_neg hm] at hsettled
    exact ⟨_, hcalled, ⟨hspared, hapart⟩, hsettled⟩

/-- A run of the handler in one piece. -/
theorem Follows.ticked {w : LampWorld} (h : Follows cfg v w)
    (hpending : (v.work cfg).isSome = true) :
    ∃ w', Follows cfg { v with lit := !v.lit } w' := by
  obtain ⟨hmoves, hapart, ha, hv, hc, ht, hq, hm, hidle⟩ := h
  obtain ⟨⟨⟩, ⟨available, vars, red, green, timeout, queued, handler,
    stopping⟩, log⟩ := w
  simp only at ha hv hc ht hq hm hidle
  subst ha hv hq hm hidle
  have hb : vars.blinking = true := by
    refine Decidable.byContradiction fun hoff => ?_
    rw [LedVars.work, if_neg hoff] at hpending
    cases hpending
  cases timeout with
  | none =>
      rw [← ht] at hpending
      cases hpending
  | some ms =>
      have hmoves' := playMoves_moves hmoves
        (rfl : playMoves (lamp cfg) wholeRun _ = some _)
      exact ⟨_, hmoves', ⟨rfl, rfl, rfl, rfl, rfl, rfl, rfl, rfl, hapart⟩,
        rfl, rfl, rfl, (if_pos hb).symm, rfl, rfl, rfl⟩

/-- Every history in which the handler runs in one piece is a run of the
two threads that stay apart: the flags, the channels and the pending work
are the same. -/
theorem History.follows (hled : cfg.statusLed = true) {w : Tracker}
    (h : History cfg w) : ∃ v w', Shown cfg v w ∧ Follows cfg v w' := by
  -- on the history: its boot, its calls, and its moves one by one
  induction h with
  | @init w w' hboot hblink hp =>
      obtain ⟨⟨l, hl, hv, hc, hw⟩, ha⟩ := hp.result (statusLedInit_led hled)
        ⟨[], rfl, hboot, rfl, hblink⟩ rfl
      exact ⟨{ lit := true }, lampInit cfg true, ⟨ha, hv, hc, hw, nofun⟩,
        .refl _, trivial, rfl, rfl, rfl, rfl, rfl, rfl, rfl⟩
  | call k _ hp ih =>
      obtain ⟨v, w', hv, hf⟩ := ih
      obtain ⟨w'', hf'⟩ := hf.called k
      exact ⟨_, w'', hv.performs hled hp, hf'⟩
  | moves _ hm ih =>
      obtain ⟨v, w', hv, hf⟩ := ih
      clear hled
      induction hm with
      | refl => exact ⟨v, w', hv, hf⟩
      | @step w₁ a _ hcan ih =>
          obtain ⟨v₁, w₂, hv₁, hf₁⟩ := ih
          have hmoved := hv₁.moved hcan
          cases hticked : GpsTracker.ticked (.env w₁.st w₁.dev a) with
          -- any other move is none of the lamp's
          | false =>
              rw [hticked, Bool.bne_false] at hmoved
              exact ⟨v₁, w₂, hmoved, hf₁⟩
          | true =>
              cases a with
              | blinkTick =>
                  rw [hticked, Bool.bne_true] at hmoved
                  have hpending : (v₁.work cfg).isSome = true := by
                    rw [← hv₁.work]
                    exact hcan
                  obtain ⟨w₃, hf₃⟩ := hf₁.ticked hpending
                  exact ⟨_, w₃, hmoved, hf₃⟩
              | _ => cases hticked

end GpsTracker
