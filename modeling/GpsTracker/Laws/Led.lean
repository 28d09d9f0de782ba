/-
The status LED after any history (status_led.c).

Four flags, two channels and a pending work item. Between two calls the
flags determine the rest: the channels show the colour of the status in
the phase the LED is in, and the work is pending exactly while it blinks,
with that phase's delay. `status_led_sleep` stops the blink and leaves the
pattern as it is, which is what the early return of `status_led_pattern`
has to get right.
-/
import GpsTracker.Run.Script

namespace GpsTracker

open Proc

variable {cfg : Config}

-- ================================================================= statements

/-- A run of `blink_work_handler`. -/
def ticked : Ev → Bool
  | .env _ _ .blinkTick => true
  | _ => false

/-- How often the handler ran. -/
def ticks (l : Trace) : Nat := l.countP ticked

/-- A whole call, with no run of the handler inside. -/
def Performs {α : Type} (cfg : Config) (p : P α) (w : Tracker) (r : α)
    (w' : Tracker) : Prop :=
  Reach (device cfg) p w (.ret r, w') ∧
    ∃ l, w'.log = l ++ w.log ∧ ∀ e ∈ l, ticked e = false

/-- The calls of main. -/
inductive LedCall
  | set (s : Status)
  | pattern (p : LedPattern)
  | sleep

def LedCall.run (cfg : Config) : LedCall → P Unit
  | .set s => statusLedSet cfg s
  | .pattern p => statusLedPattern cfg p
  | .sleep => statusLedSleep cfg

/-- The flags of a boot, an initialisation that found the LED, and then
calls and moves of the surroundings, the handler's runs among them, in any
order. -/
inductive History (cfg : Config) : Tracker → Prop
  | init {w w' : Tracker} : w.dev.led = {} → w.dev.blink = none →
      Performs cfg (statusLedInit cfg) w 0 w' → History cfg w'
  | call {w w' : Tracker} (c : LedCall) : History cfg w →
      Performs cfg (c.run cfg) w () w' → History cfg w'
  | moves {w w' : Tracker} : History cfg w → Moves (device cfg) w w' →
      History cfg w'

/-- Lit in the colour of `s`, or dark, and blinking as `p` asks. -/
structure Displays (cfg : Config) (s : Status) (p : LedPattern) (on : Bool)
    (d : Dev) : Prop where
  colour : (d.red, d.green) = ledColour s on
  blinking : d.led.blinking = (p != .solid)
  pending : d.blink.isSome = d.led.blinking
  delay : d.blink = phaseDelay cfg p on

/-- In the phase `on` now, and alternating with every run of the handler
from here. -/
def Alternates (cfg : Config) (s : Status) (p : LedPattern) (on : Bool)
    (w : Tracker) : Prop :=
  ∀ w' l, Moves (device cfg) w w' → w'.log = l ++ w.log →
    Displays cfg s p (on == (ticks l % 2 == 0)) w'.dev

/-- Both channels dark and no work pending, from here on. -/
def StaysDark (cfg : Config) (w : Tracker) : Prop :=
  ∀ w', Moves (device cfg) w w' →
    w'.dev.red = false ∧ w'.dev.green = false ∧ w'.dev.blink = none

-- ================================================================== the flags

/-- The work that is pending under the flags `v`. -/
def LedVars.work (cfg : Config) (v : LedVars) : Option Nat :=
  if v.blinking then phaseDelay cfg v.pattern v.lit else none

/-- What `status_led_set` makes of the flags. -/
def LedVars.set (s : Status) (v : LedVars) : LedVars :=
  { v with
    status := s, lit := true, blinking := v.blinking && s != .off }

/-- What `status_led_pattern` makes of the flags. -/
def LedVars.show (p : LedPattern) (v : LedVars) : LedVars :=
  if p = v.pattern && (p != .solid) == v.blinking then v
  else { v with pattern := p, lit := true, blinking := p != .solid }

/-- What `status_led_sleep` makes of the flags. -/
def LedVars.sleep (cfg : Config) (v : LedVars) : LedVars :=
  if cfg.statusLedOnBattery then v else v.set .off

/-- The flags, the channels and the pending work. -/
def LedAt (l₀ : Trace) (v : LedVars) (c : Bool × Bool) (work : Option Nat)
    (w : Tracker) : Prop :=
  After l₀ (fun _ d => d.led = v ∧ (d.red, d.green) = c ∧ d.blink = work) w ∧
    w.st.ledAvailable = true

/-- Between two calls the flags `v` determine the rest. -/
structure Shown (cfg : Config) (v : LedVars) (w : Tracker) : Prop where
  available : w.st.ledAvailable = true
  led : w.dev.led = v
  colour : (w.dev.red, w.dev.green) = ledColour v.status v.lit
  work : w.dev.blink = v.work cfg
  modulated : v.blinking = true → v.pattern ≠ .solid

variable {l₀ : Trace} {v : LedVars} {c : Bool × Bool} {work : Option Nat}

/-- What leaves the LED alone. -/
theorem move_led (cfg : Config) {a : Move} {s : Statics} {d : Dev}
    (h : ticked (.env s d a) = false) :
    (move cfg a d).led = d.led ∧ (move cfg a d).red = d.red ∧
      (move cfg a d).green = d.green ∧ (move cfg a d).blink = d.blink := by
  cases a with
  | blinkTick => cases h
  | workStart =>
      simp only [move]
      split <;> exact ⟨rfl, rfl, rfl, rfl⟩
  | workStep =>
      simp only [move]
      split
      · exact ⟨rfl, rfl, rfl, rfl⟩
      next m _ _ => cases m <;> exact ⟨rfl, rfl, rfl, rfl⟩
  | guardTick =>
      simp only [move]
      split <;> exact ⟨rfl, rfl, rfl, rfl⟩
  | give s' => cases s' <;> exact ⟨rfl, rfl, rfl, rfl⟩
  | _ => exact ⟨rfl, rfl, rfl, rfl⟩

/-- While the blink work does not run, nothing but main changes the LED. -/
theorem led_stable :
    Stable (device cfg) (Since l₀ fun e => ticked e = false)
      (After l₀ fun _ d =>
        d.led = v ∧ (d.red, d.green) = c ∧ d.blink = work) := by
  refine After.stable fun l s d a h _ hg => ?_
  obtain ⟨hled, hred, hgreen, hblink⟩ := move_led cfg hg
  show (move cfg a d).led = v ∧
    ((move cfg a d).red, (move cfg a d).green) = c ∧
      (move cfg a d).blink = work
  rw [hled, hred, hgreen, hblink]
  exact h

/-- The same with the device known to be there. -/
theorem ledAt_stable :
    Stable (device cfg) (Since l₀ fun e => ticked e = false)
      (LedAt l₀ v c work) :=
  led_stable.and (Stable.static fun s : Statics => s.ledAvailable = true)

/-- One call, by what it does to the LED. -/
theorem led_op {o : Op} {v' : LedVars} {c' : Bool × Bool}
    {work' : Option Nat}
    (h : ∀ r d, d.led = v → (d.red, d.green) = c → d.blink = work →
      (effect o r d).led = v' ∧
        ((effect o r d).red, (effect o r d).green) = c' ∧
        (effect o r d).blink = work') :
    Triple (device cfg) (Since l₀ fun e => ticked e = false) (fun _ => True)
      (LedAt l₀ v c work) (call o) fun _ => LedAt l₀ v' c' work' := by
  refine Triple.op ledAt_stable fun w r hw _ _ => ⟨trivial, ?_, hw.2⟩
  obtain ⟨⟨l, hl, hled, hcolour, hblink⟩, -⟩ := hw
  exact ⟨.call w.st w.dev o r :: l, congrArg (List.cons _) hl,
    h r w.dev hled hcolour hblink⟩

/-- A read of the flags gives what they are, -/
theorem ledGet_reads :
    Triple (device cfg) (Since l₀ fun e => ticked e = false) (fun _ => True)
      (LedAt l₀ v c work) (call .ledGet)
      fun r w => LedAt l₀ v c work w ∧ r = v := by
  refine Triple.op ledAt_stable fun w r hw hok _ => ⟨trivial, ⟨?_, hw.2⟩, ?_⟩
  · obtain ⟨⟨l, hl, h⟩, -⟩ := hw
    exact ⟨.call w.st w.dev .ledGet r :: l, congrArg (List.cons _) hl, h⟩
  · obtain ⟨⟨l, hl, hled, -⟩, -⟩ := hw
    have hread : r = w.dev.led := beq_iff_eq.mp hok
    rw [hread, hled]

/-- A read of the flags and what follows on them. -/
theorem ledGet_bind {α : Type} {k : LedVars → P α} {Q : α → Tracker → Prop}
    (h : Triple (device cfg) (Since l₀ fun e => ticked e = false)
      (fun _ => True) (LedAt l₀ v c work) (k v) Q) :
    Triple (device cfg) (Since l₀ fun e => ticked e = false) (fun _ => True)
      (LedAt l₀ v c work) (call .ledGet >>= k) Q :=
  ledGet_reads.bind fun _ => Triple.pure_pre fun hr => hr ▸ h

/-- a write changes them and nothing else, -/
theorem ledSet_led (u : LedVars) :
    Triple (device cfg) (Since l₀ fun e => ticked e = false) (fun _ => True)
      (LedAt l₀ v c work) (call (.ledSet u)) fun _ => LedAt l₀ u c work :=
  led_op fun _ _ _ hc hw => ⟨rfl, hc, hw⟩

/-- the pins show what they are set to, -/
theorem ledChannels_led (red green : Bool) :
    Triple (device cfg) (Since l₀ fun e => ticked e = false) (fun _ => True)
      (LedAt l₀ v c work) (call (.ledChannels red green))
      fun _ => LedAt l₀ v (red, green) work :=
  led_op fun _ _ hv _ hw => ⟨hv, rfl, hw⟩

/-- and the work is due when it is told to be. -/
theorem blinkSchedule_led (ms : Option Nat) :
    Triple (device cfg) (Since l₀ fun e => ticked e = false) (fun _ => True)
      (LedAt l₀ v c work) (call (.blinkSchedule ms))
      fun _ => LedAt l₀ v c ms :=
  led_op fun _ _ hv hc _ => ⟨hv, hc, rfl⟩

-- ================================================================== the calls

/-- `apply` shows the colour of the status, or none. -/
theorem ledApply_led (on : Bool) :
    Triple (device cfg) (Since l₀ fun e => ticked e = false) (fun _ => True)
      (LedAt l₀ v c work) (ledApply on)
      fun _ => LedAt l₀ { v with lit := on } (ledColour v.status on) work :=
  ledGet_bind ((ledSet_led _).bind fun _ => ledChannels_led _ _)

/-- `stop_blink` cancels the work and notes it in the flags. -/
theorem stopBlink_led :
    Triple (device cfg) (Since l₀ fun e => ticked e = false) (fun _ => True)
      (LedAt l₀ v c work) stopBlink
      fun _ => LedAt l₀ { v with blinking := false } c none :=
  ledGet_bind ((ledSet_led _).bind fun _ => blinkSchedule_led _)

/-- `status_led_set` from flags that fit the pending work. -/
theorem statusLedSet_led (hled : cfg.statusLed = true) (s : Status)
    (hwork : work = v.work cfg) :
    Triple (device cfg) (Since l₀ fun e => ticked e = false) (fun _ => True)
      (LedAt l₀ v c work) (statusLedSet cfg s)
      fun _ => LedAt l₀ (v.set s) (ledColour s true) ((v.set s).work cfg) := by
  refine Triple.get fun s₀ => Triple.ite (fun hoff => ?_) fun _ => ?_
  · intro w hw
    rw [hled, ← hw.2, hw.1.2] at hoff
    cases hoff
  refine Triple.pre (P := LedAt l₀ v c work) ?_ fun w hw => hw.1
  refine ledGet_bind ((ledSet_led _).bind fun _ => ?_)
  -- dark stops the blinking, a colour keeps its rhythm and starts it over
  by_cases hs : s = .off
  · rw [if_pos hs]
    refine stopBlink_led.bind fun _ => (ledApply_led true).bind fun _ =>
      ledGet_bind (Triple.ite (fun h => nomatch h) fun _ =>
        Triple.ret fun w hw => ?_)
    have hset : v.set s = { v with status := s, blinking := false, lit := true }
        := by simp [LedVars.set, hs]
    rw [hset]
    exact hw
  · rw [if_neg hs]
    have hset : v.set s = { v with status := s, lit := true } := by
      simp [LedVars.set, hs]
    rw [hset]
    refine (ledApply_led true).bind fun _ => ledGet_bind (Triple.ite
      (fun hblink => ?_) fun hblink => Triple.ret fun w hw => ?_)
    · have hwork' : LedVars.work cfg { v with status := s, lit := true }
          = phaseDelay cfg v.pattern true := if_pos hblink
      rw [hwork']
      exact blinkSchedule_led _
    · have hwork' : LedVars.work cfg { v with status := s, lit := true }
          = work := by
        rw [hwork]
        exact (if_neg hblink).trans (if_neg hblink).symm
      rw [hwork']
      exact hw

/-- `status_led_pattern` from a colour and work that fit the flags. -/
theorem statusLedPattern_led (hled : cfg.statusLed = true) (p : LedPattern) :
    Triple (device cfg) (Since l₀ fun e => ticked e = false) (fun _ => True)
      (LedAt l₀ v (ledColour v.status v.lit) (v.work cfg))
      (statusLedPattern cfg p)
      fun _ => LedAt l₀ (v.show p)
        (ledColour (v.show p).status (v.show p).lit)
        ((v.show p).work cfg) := by
  refine Triple.get fun s₀ => Triple.ite (fun hoff => ?_) fun _ => ?_
  · intro w hw
    rw [hled, ← hw.2, hw.1.2] at hoff
    cases hoff
  refine Triple.pre (P := LedAt l₀ v (ledColour v.status v.lit)
    (v.work cfg)) ?_ fun w hw => hw.1
  refine ledGet_bind (Triple.ite (fun hsame => ?_) fun hchange => ?_)
  · have hshow : v.show p = v := if_pos hsame
    rw [hshow]
    exact Triple.ret fun w hw => hw
  have hshow : v.show p
      = { v with pattern := p, lit := true, blinking := p != .solid } :=
    if_neg hchange
  rw [hshow]
  refine (ledSet_led _).bind fun _ => Triple.ite (fun hsolid => ?_)
    fun hblink => ?_
  · subst hsolid
    exact stopBlink_led.bind fun _ => ledApply_led true
  · have hmodulated : (p != .solid) = true := bne_iff_ne.mpr hblink
    have hwork : LedVars.work cfg
        { v with pattern := p, lit := true, blinking := p != .solid }
          = phaseDelay cfg p true := if_pos hmodulated
    rw [hwork, hmodulated]
    exact ledGet_bind ((ledSet_led _).bind fun _ =>
      (ledApply_led true).bind fun _ => blinkSchedule_led _)

/-- `status_led_sleep`, from what was shown before to what is shown after. -/
theorem statusLedSleep_led (hled : cfg.statusLed = true) :
    Triple (device cfg) (Since l₀ fun e => ticked e = false) (fun _ => True)
      (LedAt l₀ v (ledColour v.status v.lit) (v.work cfg))
      (statusLedSleep cfg)
      fun _ => LedAt l₀ (v.sleep cfg)
        (ledColour (v.sleep cfg).status (v.sleep cfg).lit)
        ((v.sleep cfg).work cfg) := by
  refine triple_scope (led_op fun _ _ hv hc hw => ⟨hv, hc, hw⟩)
    (Triple.ite (fun hdark => ?_) fun hkeep => Triple.ret fun w hw => ?_)
    fun _ => led_op fun _ _ hv hc hw => ⟨hv, hc, hw⟩
  · have hsleep : v.sleep cfg = v.set .off := by
      simp [LedVars.sleep, hled] at hdark ⊢
      simp [hdark]
    rw [hsleep]
    exact statusLedSet_led hled .off rfl
  · have hsleep : v.sleep cfg = v := by
      simp [LedVars.sleep, hled] at hkeep ⊢
      simp [hkeep]
    rw [hsleep]
    exact hw

/-- What a call of main makes of the flags. -/
def LedVars.after (cfg : Config) (v : LedVars) : LedCall → LedVars
  | .set s => v.set s
  | .pattern p => v.show p
  | .sleep => v.sleep cfg

/-- The calls of the driver in one rule: flags that determine the rest still
do after any of them. -/
theorem LedCall.run_led (hled : cfg.statusLed = true) (k : LedCall) :
    Triple (device cfg) (Since l₀ fun e => ticked e = false) (fun _ => True)
      (LedAt l₀ v (ledColour v.status v.lit) (v.work cfg)) (k.run cfg)
      fun _ => LedAt l₀ (v.after cfg k)
        (ledColour (v.after cfg k).status (v.after cfg k).lit)
        ((v.after cfg k).work cfg) := by
  cases k with
  | set s => exact statusLedSet_led hled s rfl
  | pattern p => exact statusLedPattern_led hled p
  | sleep => exact statusLedSleep_led hled

/-- An initialisation that returns 0 found the LED and leaves it off. -/
theorem statusLedInit_led (hled : cfg.statusLed = true) :
    Triple (device cfg) (Since l₀ fun e => ticked e = false) (fun _ => True)
      (After l₀ fun _ d =>
        d.led = {} ∧ (d.red, d.green) = c ∧ d.blink = none)
      (statusLedInit cfg)
      fun r w => r = 0 →
        LedAt l₀ { lit := true } (ledColour .off true) none w := by
  refine Triple.ite (fun hoff => ?_) fun _ => ?_
  · rw [hled] at hoff
    cases hoff
  have hready : Triple (device cfg) (Since l₀ fun e => ticked e = false)
      (fun _ => True) (After l₀ fun _ d =>
        d.led = {} ∧ (d.red, d.green) = c ∧ d.blink = none)
      (call (.lib .deviceReadyLeds)) fun _ => After l₀ fun _ d =>
        d.led = {} ∧ (d.red, d.green) = c ∧ d.blink = none :=
    After.op led_stable fun _ _ _ _ h _ _ => h
  refine hready.bind fun err => Triple.ite
    (fun _ => Triple.ret fun w hw h0 => nomatch h0) fun _ => ?_
  refine Triple.bind (R := fun _ => LedAt l₀ {} c none)
    (Triple.modify fun w hw => ⟨trivial, hw, rfl⟩) fun _ => ?_
  refine Triple.bind (R := fun _ => LedAt l₀ {} c none)
    (led_op fun _ _ hv hc hw => ⟨hv, hc, hw⟩) fun _ => ?_
  exact (statusLedSet_led hled .off rfl).bind fun _ => Triple.ret
    fun w hw _ => hw

-- ================================================================= histories

/-- No call makes the LED blink in the solid pattern. -/
theorem LedVars.after_modulated (k : LedCall)
    (h : v.blinking = true → v.pattern ≠ .solid) :
    (v.after cfg k).blinking = true → (v.after cfg k).pattern ≠ .solid := by
  have hset : ∀ s, (v.set s).blinking = true → (v.set s).pattern ≠ .solid :=
    fun s hblink => h (Bool.and_eq_true_iff.mp hblink).1
  cases k with
  | set s => exact hset s
  | pattern p =>
      show (v.show p).blinking = true → (v.show p).pattern ≠ .solid
      unfold LedVars.show
      split
      · exact h
      · exact fun hblink => bne_iff_ne.mp hblink
  | sleep =>
      show (v.sleep cfg).blinking = true → (v.sleep cfg).pattern ≠ .solid
      unfold LedVars.sleep
      split
      · exact h
      · exact hset .off

/-- What a triple proves of a call holds of each of its runs without a tick.
-/
theorem Performs.result {α : Type} {p : P α} {r : α} {w w' : Tracker}
    {X : Tracker → Prop} {Y : α → Tracker → Prop} (h : Performs cfg p w r w')
    (hp : Triple (device cfg) (Since w.log fun e => ticked e = false)
      (fun _ => True) X p Y) (hX : X w) : Y r w' := by
  obtain ⟨hr, l, hl, hticked⟩ := h
  have hG : Always (Since w.log fun e => ticked e = false) w'.log := by
    rw [hl]
    exact always_since hticked
  exact hp.result hX trivial hr hG

/-- Between two calls the LED is at what its flags determine. -/
theorem Shown.at {w : Tracker} (h : Shown cfg v w) :
    LedAt w.log v (ledColour v.status v.lit) (v.work cfg) w :=
  ⟨⟨[], rfl, h.led, h.colour, h.work⟩, h.available⟩

/-- A whole call. -/
theorem Shown.performs (hled : cfg.statusLed = true) {w w' : Tracker}
    (h : Shown cfg v w) {k : LedCall} (hp : Performs cfg (k.run cfg) w () w') :
    Shown cfg (v.after cfg k) w' := by
  obtain ⟨⟨l, hl, hv, hc, hw⟩, ha⟩ := hp.result (k.run_led hled) h.at
  exact ⟨ha, hv, hc, hw, LedVars.after_modulated k h.modulated⟩

/-- One move of the surroundings; a run of the handler changes the phase. -/
theorem Shown.moved {w : Tracker} (h : Shown cfg v w) {a : Move}
    (hcan : can a w.dev = true) :
    Shown cfg { v with lit := v.lit != ticked (.env w.st w.dev a) }
      (w.moved (device cfg) a) := by
  cases hticked : ticked (.env w.st w.dev a) with
  | false =>
      obtain ⟨hled, hred, hgreen, hblink⟩ := move_led cfg hticked
      have hlit : { v with lit := v.lit != false } = v := by
        rw [Bool.bne_false]
      rw [hlit]
      refine ⟨h.available, hled.trans h.led, ?_, hblink.trans h.work,
        h.modulated⟩
      show ((move cfg a w.dev).red, (move cfg a w.dev).green) = _
      rw [hred, hgreen]
      exact h.colour
  | true =>
      cases a with
      | blinkTick =>
          have hpending : w.dev.blink.isSome = true := hcan
          -- the work is pending, so it blinks
          have hblink : v.blinking = true := by
            refine Decidable.byContradiction fun hoff => ?_
            rw [h.work, LedVars.work, if_neg hoff] at hpending
            cases hpending
          have hphase : (v.lit != true) = !v.lit := Bool.bne_true v.lit
          rw [hphase]
          refine ⟨h.available, ?_, ?_, ?_, h.modulated⟩
          · show { w.dev.led with lit := !w.dev.led.lit } = _
            rw [h.led]
          · show ledColour w.dev.led.status (!w.dev.led.lit) = _
            rw [h.led]
          · show phaseDelay cfg w.dev.led.pattern (!w.dev.led.lit) = _
            rw [h.led]
            exact (if_pos hblink).symm
      | _ => cases hticked

/-- Any moves of the surroundings. -/
theorem Shown.moves {w w' : Tracker} (h : Shown cfg v w)
    (hm : Moves (device cfg) w w') :
    ∃ l, w'.log = l ++ w.log ∧
      Shown cfg { v with lit := v.lit == (ticks l % 2 == 0) } w' := by
  induction hm with
  | refl =>
      have hlit : (v.lit == (ticks [] % 2 == 0)) = v.lit := beq_true v.lit
      refine ⟨[], rfl, ?_⟩
      rw [hlit]
      exact h
  | @step w' a _ hcan ih =>
      obtain ⟨l, hl, hs⟩ := ih
      refine ⟨.env w'.st w'.dev a :: l, congrArg (List.cons _) hl, ?_⟩
      have hlit : (v.lit == (ticks (.env w'.st w'.dev a :: l) % 2 == 0))
          = ((v.lit == (ticks l % 2 == 0))
            != ticked (.env w'.st w'.dev a)) := by
        unfold ticks
        rw [List.countP_cons]
        generalize List.countP ticked l = n
        cases ticked (.env w'.st w'.dev a) with
        | false => simp
        | true =>
            rcases Nat.mod_two_eq_zero_or_one n with hn | hn
            · have hn' : (n + 1) % 2 = 1 := by omega
              simp [hn, hn']
            · have hn' : (n + 1) % 2 = 0 := by omega
              simp [hn, hn']
      rw [hlit]
      exact hs.moved hcan

/-- After any history the flags determine the rest. -/
theorem History.shown (hled : cfg.statusLed = true) {w : Tracker}
    (h : History cfg w) : ∃ v, Shown cfg v w := by
  induction h with
  | @init w w' hboot hblink hp =>
      obtain ⟨⟨l, hl, hv, hc, hw⟩, ha⟩ := hp.result (statusLedInit_led hled)
        ⟨[], rfl, hboot, rfl, hblink⟩ rfl
      exact ⟨{ lit := true }, ha, hv, hc, hw, nofun⟩
  | call k _ hp ih =>
      obtain ⟨v, hv⟩ := ih
      exact ⟨_, hv.performs hled hp⟩
  | moves _ hm ih =>
      obtain ⟨v, hv⟩ := ih
      obtain ⟨l, -, hs⟩ := hv.moves hm
      exact ⟨_, hs⟩

-- ===================================================================== the law

/-- The flags of a status and a pattern. -/
structure LedVars.Of (s : Status) (p : LedPattern) (v : LedVars) : Prop where
  status : v.status = s
  pattern : v.pattern = p
  blinking : v.blinking = (p != .solid)

/-- From the flags to what is to be seen. -/
theorem Shown.displays {s : Status} {p : LedPattern} {w : Tracker}
    (h : Shown cfg v w) (hv : v.Of s p) : Displays cfg s p v.lit w.dev := by
  have hwork : w.dev.blink = phaseDelay cfg p v.lit := by
    rw [h.work, LedVars.work, hv.blinking, hv.pattern]
    cases p <;> rfl
  refine ⟨?_, ?_, ?_, hwork⟩
  · rw [h.colour, hv.status]
  · rw [h.led, hv.blinking]
  · rw [hwork, h.led, hv.blinking]
    cases p with
    | battery => cases v.lit <;> rfl
    | _ => rfl

/-- From a call on, the LED alternates in its colour. -/
theorem Shown.alternates {s : Status} {p : LedPattern} {w : Tracker}
    (h : Shown cfg v w) (hv : v.Of s p) : Alternates cfg s p v.lit w := by
  intro w' l hm hl
  obtain ⟨l', hl', hs⟩ := h.moves hm
  rw [List.append_cancel_right (hl.symm.trans hl')]
  exact hs.displays ⟨hv.status, hv.pattern, hv.blinking⟩

/-- No handler runs while nothing blinks. -/
theorem Shown.still {w w' : Tracker} (h : Shown cfg v w)
    (hoff : v.blinking = false) (hm : Moves (device cfg) w w') :
    ∃ l, w'.log = l ++ w.log ∧ ticks l = 0 ∧ Shown cfg v w' := by
  induction hm with
  | refl => exact ⟨[], rfl, rfl, h⟩
  | @step w' a _ hcan ih =>
      obtain ⟨l, hl, hticks, hs⟩ := ih
      have hstill : ticked (.env w'.st w'.dev a) = false := by
        cases a with
        | blinkTick =>
            have hpending : w'.dev.blink.isSome = true := hcan
            have hnone : w'.dev.blink = none := by
              rw [hs.work, LedVars.work, hoff]
              rfl
            rw [hnone] at hpending
            cases hpending
        | _ => rfl
      have hmoved := hs.moved hcan
      rw [hstill, Bool.bne_false] at hmoved
      refine ⟨.env w'.st w'.dev a :: l, congrArg (List.cons _) hl, ?_, hmoved⟩
      unfold ticks at hticks ⊢
      rw [List.countP_cons, hticks, hstill]
      rfl

/-- `status_led_pattern` makes the LED blink as it is asked to. -/
theorem LedVars.show_of {s : Status} (p : LedPattern) (h : v.status = s) :
    (v.show p).Of s p := by
  subst h
  unfold LedVars.show
  split
  next hsame =>
    obtain ⟨hp, hblink⟩ := Bool.and_eq_true_iff.mp hsame
    exact ⟨rfl, (of_decide_eq_true hp).symm, (beq_iff_eq.mp hblink).symm⟩
  next => exact ⟨rfl, rfl, rfl⟩

/-- The LED after `status_led_set(s)`, any moves, `status_led_pattern(p)`. -/
theorem show_after_set (hled : cfg.statusLed = true) {s : Status}
    {p : LedPattern} {w₁ w₂ w₃ : Tracker} {l : Trace}
    (hs : Shown cfg (v.set s) w₁) (hm : Moves (device cfg) w₁ w₂)
    (hl : w₂.log = l ++ w₁.log)
    (hp : Performs cfg (statusLedPattern cfg p) w₂ () w₃) :
    ∃ on, Alternates cfg s p on w₃ ∧
      (ticks l = 0 ∨ p = .solid → on = true) := by
  obtain ⟨l', hl', hmoved⟩ := hs.moves hm
  obtain rfl : l = l' := List.append_cancel_right (hl.symm.trans hl')
  have hshown : Shown cfg (LedVars.show p
      { v.set s with lit := (v.set s).lit == (ticks l % 2 == 0) }) w₃ :=
    hmoved.performs hled (k := .pattern p) hp
  have hof : (LedVars.show p
      { v.set s with lit := (v.set s).lit == (ticks l % 2 == 0) }).Of s p :=
    LedVars.show_of p rfl
  refine ⟨_, hshown.alternates hof, fun hstill => ?_⟩
  have hticks : (v.set s).blinking = false → ticks l = 0 := by
    intro hoff
    obtain ⟨l', hl', hnone, -⟩ := hs.still hoff hm
    rw [List.append_cancel_right (hl.symm.trans hl')]
    exact hnone
  unfold LedVars.show
  -- the same pattern again leaves the phase; a new one starts lit
  split
  next hsame =>
    have hblink := (Bool.and_eq_true_iff.mp hsame).2
    have hzero : ticks l = 0 := by
      rcases hstill with hzero | rfl
      · exact hzero
      · exact hticks (beq_iff_eq.mp hblink).symm
    show (true == (ticks l % 2 == 0)) = true
    rw [hzero]
    rfl
  next => rfl

/-- After any history: a status and a pattern light the LED in the colour of
the status and let it blink as the pattern asks, from the lit phase on if
the handler did not run between the two or does not run at all; and
`status_led_set(OFF)` leaves it dark until the next call. -/
theorem led_follows_calls (hled : cfg.statusLed = true) {w : Tracker}
    (h : History cfg w) :
    (∀ s p w₁ w₂ w₃ l, Performs cfg (statusLedSet cfg s) w () w₁ →
      Moves (device cfg) w₁ w₂ → w₂.log = l ++ w₁.log →
      Performs cfg (statusLedPattern cfg p) w₂ () w₃ →
      ∃ on, Alternates cfg s p on w₃ ∧
        (ticks l = 0 ∨ p = .solid → on = true)) ∧
    ∀ w', Performs cfg (statusLedSet cfg .off) w () w' →
      StaysDark cfg w' := by
  obtain ⟨v, hv⟩ := h.shown hled
  constructor
  · intro s p w₁ w₂ w₃ l hset hm hl hp
    have hshown : Shown cfg (v.set s) w₁ :=
      hv.performs hled (k := .set s) hset
    exact show_after_set hled hshown hm hl hp
  · intro w' hset w'' hm
    have hshown : Shown cfg (v.set .off) w' :=
      hv.performs hled (k := .set .off) hset
    have hoff : (v.set .off).blinking = false := Bool.and_false _
    obtain ⟨l, -, -, hs⟩ := hshown.still hoff hm
    have hcolour : (w''.dev.red, w''.dev.green) = (false, false) := hs.colour
    refine ⟨congrArg Prod.fst hcolour, congrArg Prod.snd hcolour, ?_⟩
    rw [hs.work, LedVars.work, hoff]
    rfl

/-- One call on a calm device. -/
def playLed {α : Type} (p : P α) (w : Tracker) : P α × Tracker :=
  play (device {}) calm 60 p w

/-- A scripted run in which the log grew by events that are no ticks performs
its call. -/
theorem playLed_performs {α : Type} {p : P α} {w : Tracker} {r : α}
    (hr : (playLed p w).1 = .ret r) (n : Nat)
    (hlog : (playLed p w).2.log.drop n = w.log)
    (hstill : ((playLed p w).2.log.take n).all (!ticked ·) = true) :
    Performs {} p w r (playLed p w).2 := by
  refine ⟨?_, (playLed p w).2.log.take n, ?_, fun e he => ?_⟩
  · rw [← hr]
    exact play_reach .init
  · rw [← hlog, List.take_append_drop]
  · exact (Bool.not_eq_true' _).mp (List.all_eq_true.mp hstill e he)

/-- A boot, a sleep, and a first fix on the way out of it. -/
def ledBoot : Tracker := (playLed (statusLedInit {}) (start {})).2
def ledSlept : Tracker := (playLed (statusLedSleep {}) ledBoot).2
def ledSet : Tracker := (playLed (statusLedSet {} .lteFix) ledSlept).2
def ledFlashing : Tracker := (playLed (statusLedPattern {} .battery) ledSet).2

/-- A flash after a sleep. -/
theorem led_follows_calls_awake :
    Alternates {} .lteFix .battery true ledFlashing := by
  have hboot : History {} ledBoot := .init rfl rfl
    (playLed_performs (by rfl) ledBoot.log.length (by rfl) (by rfl))
  have hslept : History {} ledSlept := .call .sleep hboot
    (playLed_performs (by rfl) 11 (by rfl) (by rfl))
  obtain ⟨on, halternates, hon⟩ := (led_follows_calls rfl hslept).1 .lteFix
    .battery ledSet ledSet ledFlashing []
    (playLed_performs (by rfl) 6 (by rfl) (by rfl)) (.refl _) rfl
    (playLed_performs (by rfl) 8 (by rfl) (by rfl))
  rw [hon (.inl rfl)] at halternates
  exact halternates

end GpsTracker
