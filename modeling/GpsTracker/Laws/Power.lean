/-
One receiver at a time, and none of it powered in vain (gnss.c,
gnss_ext.c).

Four pieces of state decide who runs: whether the modem receiver was
started, the module's power pin, its UART, and the arbiter's active
source with the driver's own `powered`. `Rails` is the five together, and
the laws are about what each function does to them. They assume that the
pin writes and the UART suspends succeed, as nothing in the code can
recover from their failure.
-/
import GpsTracker.Run.Script

namespace GpsTracker

open Proc

variable {cfg : Config}

-- =================================================================== rails

/-- What decides which receiver runs. -/
structure Rails where
  modemOn : Bool
  pin : Bool
  uart : Bool
  powered : Bool
  active : FixSource

/-- The rails of a world. -/
def rails (w : Tracker) : Rails :=
  { modemOn := w.dev.modemOn
    pin := w.dev.pin
    uart := w.dev.uart
    powered := w.st.powered
    active := w.st.active }

namespace Rails

/-- At most one receiver runs, and the UART only drives a powered module;
the module runs while it is powered and its UART active. -/
def Sound (r : Rails) : Prop :=
  ¬(r.modemOn = true ∧ r.pin = true ∧ r.uart = true) ∧
    (r.uart = true → r.pin = true)

/-- Nothing runs, and the module is off where it is to be switched off. -/
def Dark (cfg : Config) (r : Rails) : Prop :=
  r.modemOn = false ∧ r.uart = false ∧
    (cfg.gnssExtPowerCycle = true → r.pin = false) ∧ r.powered = r.pin

/-- The modem has the cycle, whether it runs or not. -/
def OnModem (cfg : Config) (r : Rails) : Prop :=
  r.active = .modem ∧ r.uart = false ∧
    (cfg.gnssExtPowerCycle = true → r.pin = false) ∧ r.powered = r.pin

/-- The external module has the cycle. -/
def OnModule (r : Rails) : Prop :=
  r.active = .external ∧ r.modemOn = false ∧
    (r.uart = true → r.pin = true) ∧ r.powered = r.pin

theorem Dark.sound {r : Rails} (h : r.Dark cfg) : r.Sound := by
  obtain ⟨hm, hu, -, -⟩ := h
  simp [Sound, hm, hu]

theorem OnModem.sound {r : Rails} (h : r.OnModem cfg) : r.Sound := by
  obtain ⟨-, hu, -, -⟩ := h
  simp [Sound, hu]

theorem OnModule.sound {r : Rails} (h : r.OnModule) : r.Sound := by
  obtain ⟨-, hm, hu, -⟩ := h
  exact ⟨by simp [hm], hu⟩

end Rails

-- ============================================================ the promise

/-- `gnss_init` has returned 0. -/
def initialised (l : Trace) : Bool :=
  l.any fun
    | .call _ _ (.leave .gnssInit r) _ => r == 0
    | _ => false

/-- Whether an event begins or ends a battery sleep. -/
def sleepEdge : Ev → Option Bool
  | .call _ _ (.enter (.batterySleep _)) _ => some true
  | .call _ _ (.leave (.batterySleep _) _) _ => some false
  | _ => none

/-- Inside `battery_sleep`. -/
def asleep (l : Trace) : Bool := (l.findSome? sleepEdge).getD false

/-- Once `gnss_init` is done, the rails are sound, and throughout every
battery sleep nothing runs. -/
def PowerSafe (cfg : Config) (w : Tracker) : Prop :=
  initialised w.log = true → (rails w).Sound ∧
    (asleep w.log = true → w.dev.modemOn = false ∧ w.dev.uart = false ∧
      (cfg.gnssExtPowerCycle = true → w.dev.pin = false))

/-- The pin can be driven, the UART suspended, and `gnss_ext_init`
succeeds. -/
def railsWork : Ev → Bool
  | .call _ _ (.gpioPinSet _) r => r == (0 : Int)
  | .call _ _ (.pmAction .uart false) r => r == (0 : Int) || r == -EALREADY
  | .call _ _ (.leave .gnssExtInit r) _ => r == 0
  | _ => true

/-- `railsWork` as a proviso on the steps of a run. -/
abbrev RailsWork (e : Ev) (_ : Trace) : Prop := railsWork e

-- ================================================================= frames

/-- The marks of `battery_sleep`. -/
abbrev sleepMarks : List Group :=
  [.mark (.batterySleep .noNetwork), .mark (.batterySleep .gnssStart),
    .mark (.batterySleep .endOfCycle)]

private theorem asleep_call {o : Op} (h : Off sleepMarks o) (s : Statics)
    (d : Dev) (r : o.Ret) (l : Trace) :
    asleep (.call s d o r :: l) = asleep l := by
  have hedge : sleepEdge (.call s d o r : Ev) = none := by
    cases o with
    | enter f =>
        cases f with
        | batterySleep site => cases site <;> exact absurd (by simp) h
        | _ => rfl
    | leave f r =>
        cases f with
        | batterySleep site => cases site <;> exact absurd (by simp) h
        | _ => rfl
    | _ => rfl
  simp only [asleep, List.findSome?_cons, hedge]

private theorem initialised_call {o : Op} (h : group o ≠ .mark .gnssInit)
    (s : Statics) (d : Dev) (r : o.Ret) (l : Trace) :
    initialised (.call s d o r :: l) = initialised l := by
  cases o with
  | leave f r => cases f <;> first | rfl | exact absurd rfl h
  | _ => rfl

private theorem rails_moved (w : Tracker) (a : Move) :
    rails (w.moved (device cfg) a) = rails w := by
  have h := move_drifts cfg a w.dev
  simp [rails, World.moved, device, h.modemOn, h.pin, h.uart]

/-- A call outside the three groups moves no rail. -/
private theorem rails_called {o : Op} (h : Off [.modemRun, .pin, .pm] o)
    (w : Tracker) (r : o.Ret) :
    rails (w.called (device cfg) o r) = rails w := by
  have hs := effect_spares o r w.dev
  have hm := hs.modemOn fun hg => h (by rw [hg]; simp)
  have hp := hs.pin fun hg => h (by rw [hg]; simp)
  have hu := hs.uart fun hg => h (by rw [hg]; simp)
  simp [rails, World.called, device, hm, hp, hu]

/-- Nor does a write to other variables. -/
private theorem rails_wrote {w : Tracker} {f : Statics → Statics}
    (hf : Keep [.powered, .active] w.st (f w.st)) :
    rails (w.wrote f) = rails w := by
  have hp : (f w.st).powered = w.st.powered := hf .powered (by simp)
  have ha : (f w.st).active = w.st.active := hf .active (by simp)
  simp [rails, World.wrote, hp, ha]

/-- Awake, with the rails as `φ` says. -/
def Up (φ : Rails → Prop) (w : Tracker) : Prop :=
  φ (rails w) ∧ asleep w.log = false

theorem Up.safe {φ : Rails → Prop} (hφ : ∀ r, φ r → r.Sound) {w : Tracker}
    (h : Up φ w) : PowerSafe cfg w :=
  fun _ => ⟨hφ _ h.1, fun ha => by rw [h.2] at ha; cases ha⟩

theorem up_stable (φ : Rails → Prop) :
    Stable (device cfg) RailsWork (Up φ) := fun w a h _ _ => by
  refine ⟨?_, h.2⟩
  rw [rails_moved]
  exact h.1

/-- Whatever holds of the rails keeps holding while nothing touches
them. -/
theorem up_frame {φ : Rails → Prop} (hφ : ∀ x, φ x → x.Sound) :
    Frame (device cfg) RailsWork (PowerSafe cfg) (Up φ)
      (Off (.modemRun :: .pin :: .pm :: sleepMarks))
      (Keep [.powered, .active]) where
  stable := up_stable φ
  calls := fun w o r ho h _ _ => by
    have hoff : Off [.modemRun, .pin, .pm] o := ho.mono (by simp)
    exact ⟨by rw [rails_called hoff]; exact h.1,
      (asleep_call (ho.mono (by simp)) ..).trans h.2⟩
  writes := fun w f hf h => ⟨by rw [rails_wrote hf]; exact h.1, h.2⟩
  gives := fun w h => h.safe hφ

-- ========================================================== single actions

/-- A call that is no mark, by what its answers do to the rails. -/
private theorem up_call {φ : Rails → Prop} {o : Op}
    {ψ : o.Ret → Rails → Prop} (hmark : Off sleepMarks o)
    (hψ : ∀ r x, ψ r x → x.Sound)
    (h : ∀ w r, φ (rails w) → ok o r w.dev = true →
      railsWork (.call w.st w.dev o r) = true →
      ψ r (rails (w.called (device cfg) o r))) :
    Triple (device cfg) RailsWork (PowerSafe cfg) (Up φ) (call o)
      fun r => Up (ψ r) :=
  Triple.op (up_stable φ) fun w r hw hok hG =>
    have hup : Up (ψ r) (w.called (device cfg) o r) :=
      ⟨h w r hw.1 hok hG.1, (asleep_call hmark ..).trans hw.2⟩
    ⟨hup.safe (hψ r), hup⟩

/-- A suspend that works leaves the UART suspended and moves nothing
else. -/
private theorem rails_suspended {w : Tracker} {r : Int}
    (hok : ok (.pmAction .uart false) r w.dev = true)
    (hG : railsWork (.call w.st w.dev (.pmAction .uart false) r) = true) :
    rails (w.called (device cfg) (.pmAction .uart false) r)
      = { rails w with uart := false } := by
  by_cases hr : r = 0
  · simp [rails, World.called, device, effect, act, hr, Dev.setActive]
  · -- already suspended
    have hal : r = -EALREADY := by simpa [railsWork, hr] using hG
    have hu : w.dev.uart = false := by
      simpa [ok, hal, Dev.active] using hok
    simp [rails, World.called, device, effect, act, hr, hu]

/-- Suspending the UART leaves it suspended. -/
theorem suspend_up {φ ψ : Rails → Prop} (hψ : ∀ x, ψ x → x.Sound)
    (h : ∀ x, φ x → ψ { x with uart := false }) :
    Triple (device cfg) RailsWork (PowerSafe cfg) (Up φ)
      (call (.pmAction .uart false)) fun _ => Up ψ := by
  refine up_call (by simp [Off]) (fun _ => hψ) fun w r hw hok hG => ?_
  rw [rails_suspended hok hG]
  exact h _ hw

/-- Resuming the UART makes it active exactly where the answer says so. -/
theorem resume_up {φ : Rails → Prop}
    (hφ : ∀ x, φ x → x.modemOn = false ∧ x.pin = true) :
    Triple (device cfg) RailsWork (PowerSafe cfg) (Up φ)
      (call (.pmAction .uart true)) fun r => Up fun x => ∃ y, φ y ∧
        x = { y with uart := decide (r = 0 ∨ r = -EALREADY) } := by
  refine up_call (by simp [Off]) (fun r x hx => ?_) fun w r hw hok _ =>
    ⟨rails w, hw, ?_⟩
  · obtain ⟨y, hy, rfl⟩ := hx
    obtain ⟨hm, hp⟩ := hφ y hy
    simp [Rails.Sound, hm, hp]
  by_cases hr : r = 0
  · simp [rails, World.called, device, effect, act, hr, Dev.setActive]
  · have hu : w.dev.uart = decide (r = -EALREADY) := by
      have hok : (r == -EALREADY) = (w.dev.uart == true) := by
        simpa [ok, Dev.active] using hok
      cases hw : w.dev.uart <;> simp_all
    simp [rails, World.called, device, effect, act, hr, hu]

/-- The driver's power state is no rail. -/
theorem driver_up {φ : Rails → Prop} (hφ : ∀ x, φ x → x.Sound)
    (resume : Bool) :
    Triple (device cfg) RailsWork (PowerSafe cfg) (Up φ)
      (call (.pmAction .gnssDriver resume)) fun _ => Up φ := by
  refine up_call (by simp [Off]) (fun _ => hφ) fun w r hw _ _ => ?_
  have hrails : rails (w.called (device cfg)
      (.pmAction .gnssDriver resume) r) = rails w := by
    by_cases hr : r = 0 <;>
      simp [rails, World.called, device, effect, act, hr, Dev.setActive]
  rw [hrails]
  exact hw

/-- `power_set` moves the pin and the driver's record of it together. -/
theorem powerSet_up {φ ψ : Rails → Prop} {on : Bool}
    (hmid : ∀ x, φ x → Rails.Sound { x with pin := on })
    (hψ : ∀ x, ψ x → x.Sound)
    (h : ∀ x, φ x → ψ { x with pin := on, powered := on }) :
    Triple (device cfg) RailsWork (PowerSafe cfg) (Up φ) (powerSet on)
      fun _ => Up ψ := by
  refine Triple.bind (R := fun r => Up fun x => r = 0 ∧ ∃ y, φ y ∧
    x = { y with pin := on }) (up_call (by simp [Off]) (fun r x hx => ?_)
    fun w r hw _ hG => ?_) fun r => ?_
  · obtain ⟨-, y, hy, rfl⟩ := hx
    exact hmid y hy
  · have hr : r = 0 := eq_of_beq hG
    refine ⟨hr, rails w, hw, ?_⟩
    simp [rails, World.called, device, effect, act, hr]
  refine Triple.ite (fun hr => fun w hw => absurd hw.1.1 hr) fun _ =>
    Triple.modify fun w hw => ?_
  obtain ⟨⟨-, y, hy, hx⟩, hawake⟩ := hw
  have hup : Up ψ (w.wrote fun s => { s with powered := on }) := by
    refine ⟨?_, hawake⟩
    have hrails : rails (w.wrote fun s => { s with powered := on })
        = { y with pin := on, powered := on } := by
      rw [show rails (w.wrote fun s => { s with powered := on })
        = { rails w with powered := on } from rfl, hx]
    rw [hrails]
    exact h y hy
  exact ⟨hup.safe hψ, hup⟩

/-- Starting the modem receiver, while the module is silent. -/
theorem gnssRun_up {φ : Rails → Prop} (hφ : ∀ x, φ x → x.uart = false) :
    Triple (device cfg) RailsWork (PowerSafe cfg) (Up φ)
      (call (.gnssRun true)) fun r => Up fun x => ∃ y, φ y ∧
        x = { y with modemOn := decide (r = 0) || y.modemOn } := by
  refine up_call (by simp [Off]) (fun r x hx => ?_) fun w r hw _ _ =>
    ⟨rails w, hw, ?_⟩
  · obtain ⟨y, hy, rfl⟩ := hx
    simp [Rails.Sound, hφ y hy]
  by_cases hr : r = 0 <;>
    simp [rails, World.called, device, effect, act, hr]

/-- Stopping the modem receiver stops it. -/
theorem gnssModemStop_up {φ ψ : Rails → Prop} (hφ : ∀ x, φ x → x.Sound)
    (hψ : ∀ x, ψ x → x.Sound)
    (h : ∀ x, φ x → ψ { x with modemOn := false }) :
    Triple (device cfg) RailsWork (PowerSafe cfg) (Up φ) gnssModemStop
      fun _ => Up ψ := by
  have hrun : Triple (device cfg) RailsWork (PowerSafe cfg) (Up φ)
      (call (.gnssRun false)) fun _ => Up ψ :=
    up_call (by simp [Off]) (fun _ => hψ) fun w r hw _ _ => h (rails w) hw
  exact triple_scope (enter_keeps (up_frame hφ) (by simp))
    (hrun.bind fun _ => Triple.ret fun w h => h)
    fun _ => leave_keeps (up_frame hψ) (by simp)

/-- The condition in which a module start is decided. -/
def Rails.Starting (cfg : Config) (r : Rails) : Prop :=
  r.active = .external ∧ r.Dark cfg

/-- Powered, with nothing running yet. -/
def Rails.Ready (r : Rails) : Prop :=
  r.active = .external ∧ r.modemOn = false ∧ r.uart = false ∧
    r.pin = true ∧ r.powered = true

/-- What a module start leaves behind where it fails. -/
def Rails.Failed (r : Rails) : Prop :=
  r.modemOn = false ∧ r.uart = false ∧ r.pin = false ∧ r.powered = false

theorem Rails.Ready.sound {r : Rails} (h : r.Ready) : r.Sound := by
  obtain ⟨-, hm, hu, -, -⟩ := h
  simp [Rails.Sound, hm, hu]

theorem Rails.Failed.sound {r : Rails} (h : r.Failed) : r.Sound := by
  obtain ⟨hm, hu, -, -⟩ := h
  simp [Rails.Sound, hm, hu]

theorem Rails.Failed.dark {r : Rails} (h : r.Failed) : r.Dark cfg := by
  obtain ⟨hm, hu, hp, hw⟩ := h
  exact ⟨hm, hu, fun _ => hp, hw.trans hp.symm⟩

/-- What a module start promises by its result. -/
abbrev StartedExt (r : Int) : Rails → Prop :=
  if r = 0 then Rails.OnModule else Rails.Failed

private theorem startedExt_sound (r : Int) :
    ∀ x, StartedExt r x → x.Sound := by
  intro x hx
  unfold StartedExt at hx
  split at hx
  · exact hx.sound
  · exact hx.sound

/-- Switching the module off after a failed start. -/
private theorem unwind_up {φ : Rails → Prop} {err : Int} (herr : err ≠ 0)
    (hφ : ∀ x, φ x → x.modemOn = false ∧ x.uart = false) :
    Triple (device cfg) RailsWork (PowerSafe cfg) (Up φ) (do
      powerSet false
      pure err : P Int) fun r => Up (StartedExt r) := by
  refine (powerSet_up (ψ := Rails.Failed) (fun x hx => ?_)
    (fun x hx => hx.sound) fun x hx => ?_).bind fun _ =>
    Triple.ret fun w h => ?_
  · simp [Rails.Sound, (hφ x hx).1, (hφ x hx).2]
  · exact ⟨(hφ x hx).1, (hφ x hx).2, rfl, rfl⟩
  · rw [StartedExt, if_neg herr]
    exact h

/-- The tail of a module start: all the way up, or all the way down. -/
theorem gnssExtOpen_up :
    Triple (device cfg) RailsWork (PowerSafe cfg) (Up Rails.Ready)
      gnssExtOpen fun r => Up (StartedExt r) := by
  refine (resume_up fun x hx => ⟨hx.2.1, hx.2.2.2.1⟩).bind fun err =>
    Triple.ite (fun herr => ?_) fun herr => ?_
  · refine Triple.pre (P := Up fun x => x.modemOn = false ∧ x.uart = false)
      (unwind_up herr.1 fun x hx => hx) fun w h => ⟨?_, h.2⟩
    obtain ⟨⟨y, hy, hx⟩, -⟩ := h
    rw [hx]
    exact ⟨hy.2.1, by simp [herr.1, herr.2]⟩
  refine Triple.pre (P := Up fun x => x.active = .external ∧
    x.modemOn = false ∧ x.pin = true ∧ x.powered = true) ?_
    fun w h => ⟨?_, h.2⟩
  · have hopen : ∀ x : Rails, (x.active = .external ∧ x.modemOn = false ∧
        x.pin = true ∧ x.powered = true) → x.OnModule :=
      fun x hx => ⟨hx.1, hx.2.1, fun _ => hx.2.2.1,
        hx.2.2.2.trans hx.2.2.1.symm⟩
    refine (driver_up (fun x hx => (hopen x hx).sound) true).bind
      fun err => Triple.ite (fun herr => ?_) fun herr => ?_
    · refine (suspend_up (ψ := fun x => x.modemOn = false ∧ x.uart = false)
        (fun x hx => ?_) fun x hx => ⟨hx.2.1, rfl⟩).bind fun _ =>
        unwind_up herr.1 fun x hx => hx
      simp [Rails.Sound, hx.1, hx.2]
    · refine (plain_keeps (up_frame fun x hx => (hopen x hx).sound) (by rfl)
      (by simp)).bind
        fun _ =>
        Triple.ret fun w h => ⟨?_, h.2⟩
      exact hopen _ h.1
  · obtain ⟨⟨y, hy, hx⟩, -⟩ := h
    rw [hx]
    exact ⟨hy.1, hy.2.1, hy.2.2.2.1, hy.2.2.2.2⟩

/-- A module start. -/
theorem gnssExtStart_up :
    Triple (device cfg) RailsWork (PowerSafe cfg) (Up (Rails.Starting cfg))
      (gnssExtStart cfg) fun r => Up (StartedExt r) := by
  have hS : ∀ x, Rails.Starting cfg x → x.Sound := fun x hx => hx.2.sound
  refine triple_scope (enter_keeps (up_frame hS)
    (by simp)) (Triple.get fun s =>
    Triple.ite (fun hs => ?_) fun hs => ?_)
    fun r => leave_keeps (up_frame (startedExt_sound r)) (by simp)
  · refine Triple.pre (P := Up (Rails.Starting cfg)) ?_ fun w h => h.1
    refine (powerSet_up (ψ := Rails.Ready) (fun x hx => ?_)
      (fun x hx => hx.sound) fun x hx => ?_).bind fun _ =>
      Triple.get fun s => Triple.ite (fun hs => ?_) fun _ => ?_
    · obtain ⟨-, hm, hu, -, -⟩ := hx
      simp [Rails.Sound, hm, hu]
    · exact ⟨hx.1, hx.2.1, hx.2.2.1, rfl, rfl⟩
    · -- the pin write succeeded, so the driver says powered
      intro w hw
      have hp : w.st.powered = true := hw.1.1.2.2.2.2
      rw [hw.2] at hp
      simp [hp] at hs
    · refine Triple.pre (P := Up Rails.Ready) ?_ fun w h => h.1
      exact (plain_keeps (up_frame fun x hx => hx.sound) (by rfl)
        (by simp)).bind
        fun _ => gnssExtOpen_up
  · refine gnssExtOpen_up.pre fun w h => ⟨?_, h.1.2⟩
    obtain ⟨⟨⟨ha, hm, hu, -, hp⟩, -⟩, hst⟩ := h
    have hpow : w.st.powered = true := by
      rw [hst]
      simpa using hs
    exact ⟨ha, hm, hu, hp.symm.trans hpow, hpow⟩

/-- A module stop: the UART suspended, and the pin low where asked. -/
theorem gnssExtStop_up (powerOff : Bool) {ψ : Rails → Prop}
    (hψ : ∀ x, ψ x → x.Sound)
    (h : ∀ x : Rails, x.OnModule → ψ { x with
      uart := false
      pin := x.pin && !powerOff
      powered := x.powered && !powerOff }) :
    Triple (device cfg) RailsWork (PowerSafe cfg) (Up Rails.OnModule)
      (gnssExtStop powerOff) fun _ => Up ψ := by
  refine triple_scope (enter_keeps (up_frame fun x hx => hx.sound) (by simp))
    ((suspend_up (ψ := fun x => ∃ y : Rails, y.OnModule ∧
      x = { y with uart := false }) (fun x hx => ?_)
      fun x hx => ⟨x, hx, rfl⟩).bind fun _ => Triple.ite (fun hoff => ?_)
      fun hoff => Triple.ret fun w hw => ⟨?_, hw.2⟩)
    fun _ => leave_keeps (up_frame hψ) (by simp)
  · obtain ⟨y, hy, rfl⟩ := hx
    simp [Rails.Sound]
  · subst hoff
    refine powerSet_up (fun x hx => ?_) hψ fun x hx => ?_
    · obtain ⟨y, hy, rfl⟩ := hx
      simp [Rails.Sound]
    · obtain ⟨y, hy, rfl⟩ := hx
      simpa using h y hy
  · obtain ⟨⟨y, hy, hx⟩, -⟩ := hw
    rw [hx]
    simpa [Bool.eq_false_iff.mpr hoff] using h y hy

/-- A start of the modem receiver while the module is silent. -/
theorem gnssModemStart_up (site : StartSite) {φ : Rails → Prop}
    (hφ : ∀ x, φ x → x.uart = false) :
    Triple (device cfg) RailsWork (PowerSafe cfg) (Up φ)
      (gnssModemStart cfg site) fun r => Up fun x => ∃ y, φ y ∧
        x = { y with modemOn := decide (r = 0) || y.modemOn } := by
  have hS : ∀ x, φ x → x.Sound := fun x hx => by
    simp [Rails.Sound, hφ x hx]
  have hlib : ∀ o, group o = .plain → Triple (device cfg) RailsWork
      (PowerSafe cfg) (Up φ) (call o) fun _ => Up φ := fun o ho =>
    plain_keeps (up_frame hS) ho (by simp)
  have htail : Triple (device cfg) RailsWork (PowerSafe cfg) (Up φ) (do
      call (.semReset .modemFix)
      call (.semReset .agnssReq)
      let err ← call (.gnssRun true)
      if err ≠ 0 then pure err else pure 0 : P Int) fun r => Up fun x =>
        ∃ y, φ y ∧ x = { y with modemOn := decide (r = 0) || y.modemOn } := by
    refine (hlib _ rfl).bind fun _ => (hlib _ rfl).bind fun _ =>
      (gnssRun_up hφ).bind fun err => Triple.ite
      (fun _ => Triple.ret fun w h => h) fun herr => Triple.ret fun w h => ?_
    rwa [Decidable.not_not.mp herr] at h
  refine triple_scope (enter_keeps (up_frame hS) (by simp)) ?_ fun r =>
    leave_keeps (up_frame fun x hx => ?_) (by simp)
  · refine (hlib _ rfl).bind fun _ => (hlib _ rfl).bind fun _ =>
      (hlib _ rfl).bind fun _ => Triple.ite (fun _ => ?_) fun _ => htail
    exact (hlib _ rfl).bind fun _ => htail
  · obtain ⟨y, hy, rfl⟩ := hx
    simp [Rails.Sound, hφ y hy]

-- ============================================================= the arbiter

/-- One receiver has the cycle. -/
def Rails.Run (cfg : Config) (r : Rails) : Prop :=
  r.OnModem cfg ∨ r.OnModule

theorem Rails.Run.sound {r : Rails} (h : r.Run cfg) : r.Sound :=
  h.elim Rails.OnModem.sound Rails.OnModule.sound

private theorem run_frame : Frame (device cfg) RailsWork (PowerSafe cfg)
    (Up (Rails.Run cfg)) (Off (.modemRun :: .pin :: .pm :: sleepMarks))
    (Keep [.powered, .active]) := up_frame fun _ h => h.sound

private theorem dark_frame : Frame (device cfg) RailsWork (PowerSafe cfg)
    (Up (Rails.Dark cfg)) (Off (.modemRun :: .pin :: .pm :: sleepMarks))
    (Keep [.powered, .active]) := up_frame fun _ h => h.sound

/-- Naming another source moves no rail. -/
theorem switch_up {φ ψ : Rails → Prop} (src : FixSource)
    (hψ : ∀ x, ψ x → x.Sound) (h : ∀ x, φ x → ψ { x with active := src }) :
    Triple (device cfg) RailsWork (PowerSafe cfg) (Up φ)
      (Prog.modify fun s => { s with active := src }) fun _ => Up ψ :=
  Triple.modify fun w hw =>
    have hup : Up ψ (w.wrote fun s => { s with active := src }) :=
      ⟨h (rails w) hw.1, hw.2⟩
    ⟨hup.safe hψ, hup⟩

/-- `gnss_start`: one receiver has the cycle, or nothing runs. -/
theorem gnssStart_up :
    Triple (device cfg) RailsWork (PowerSafe cfg) (Up (Rails.Dark cfg))
      (gnssStart cfg) fun r =>
        Up (if r = 0 then Rails.Run cfg else Rails.Dark cfg) := by
  -- the modem has the cycle if it starts
  have hmodem : Triple (device cfg) RailsWork (PowerSafe cfg)
      (Up (Rails.Dark cfg)) (gnssStartModem cfg) fun r =>
        Up (if r = 0 then Rails.Run cfg else Rails.Dark cfg) := by
    refine (switch_up (ψ := fun x => x.active = .modem ∧ x.Dark cfg) .modem
      (fun x hx => hx.2.sound) fun x hx => ⟨rfl, hx⟩).bind fun _ =>
      (gnssModemStart_up .cycle fun x hx => hx.2.2.1).post fun r w h => ?_
    obtain ⟨⟨y, ⟨hact, hm, hu, hp, hpow⟩, hx⟩, hawake⟩ := h
    refine ⟨?_, hawake⟩
    rw [hx]
    split
    next => exact .inl ⟨hact, hu, hp, hpow⟩
    next hr => exact ⟨by simp [hr, hm], hu, hp, hpow⟩
  have hbody : Triple (device cfg) RailsWork (PowerSafe cfg)
      (Up (Rails.Dark cfg)) (do
        let s ← Prog.get
        if cfg.gnssExternal && s.externalUsable then
          Prog.modify fun s => { s with active := .external }
          if (← gnssExtStart cfg) = 0 then pure 0 else gnssStartModem cfg
        else gnssStartModem cfg : P Int) fun r =>
        Up (if r = 0 then Rails.Run cfg else Rails.Dark cfg) := by
    -- the external module comes first, and its failure powers it off again
    -- before the modem is tried
    refine Triple.get fun s => Triple.ite (fun _ => ?_) fun _ =>
      hmodem.pre fun w h => h.1
    refine Triple.pre (P := Up (Rails.Dark cfg)) ?_ fun w h => h.1
    refine (switch_up (ψ := Rails.Starting cfg) .external
      (fun x hx => hx.2.sound) fun x hx => ⟨rfl, hx⟩).bind fun _ =>
      gnssExtStart_up.bind fun r => Triple.ite (fun hr => ?_) fun hr => ?_
    · refine Triple.ret fun w h => ⟨?_, h.2⟩
      rw [StartedExt, if_pos hr] at h
      exact .inr h.1
    · refine hmodem.pre fun w h => ⟨?_, h.2⟩
      rw [StartedExt, if_neg hr] at h
      exact h.1.dark
  refine triple_scope (enter_keeps dark_frame (by simp)) hbody fun r => ?_
  by_cases hr : r = 0
  · simp only [if_pos hr]
    exact leave_keeps run_frame (by simp)
  · simp only [if_neg hr]
    exact leave_keeps dark_frame (by simp)

/-- `gnss_stop`: whoever has the cycle, nothing runs afterwards. -/
theorem gnssStop_up (hext : cfg.gnssExternal = true) :
    Triple (device cfg) RailsWork (PowerSafe cfg) (Up (Rails.Run cfg))
      (gnssStop cfg) fun _ => Up (Rails.Dark cfg) := by
  refine triple_scope (enter_keeps run_frame (by simp)) (Triple.get fun s =>
    Triple.ite (fun hs => ?_) fun hs => ?_) fun _ => leave_keeps dark_frame
      (by simp)
  · refine (gnssExtStop_up (ψ := Rails.Dark cfg) _
      (fun x hx => hx.sound) fun x hx => ?_).pre fun w h => ⟨?_, h.1.2⟩
    · obtain ⟨-, hm, -, hp⟩ := hx
      exact ⟨hm, rfl, fun hoff => by simp [hoff], by simp [hp]⟩
    · obtain ⟨⟨h, -⟩, hst⟩ := h
      refine h.resolve_left fun hmodem => ?_
      have hact : w.st.active = .modem := hmodem.1
      rw [hst, hs.2] at hact
      cases hact
  · refine (gnssModemStop_up (φ := Rails.OnModem cfg) (ψ := Rails.Dark cfg)
      (fun x hx => hx.sound) (fun x hx => hx.sound)
      fun x hx => ⟨rfl, hx.2⟩).pre fun w h => ⟨?_, h.1.2⟩
    obtain ⟨⟨h, -⟩, hst⟩ := h
    refine h.resolve_right fun hmodule => hs ⟨hext, ?_⟩
    have hact : w.st.active = .external := hmodule.1
    rwa [hst] at hact

/-- `gnss_fallback`: the module off, and the cycle with the modem. -/
theorem gnssFallback_up (hext : cfg.gnssExternal = true) :
    Triple (device cfg) RailsWork (PowerSafe cfg) (Up (Rails.Run cfg))
      (gnssFallback cfg) fun _ => Up (Rails.Run cfg) := by
  refine triple_scope (enter_keeps run_frame (by simp)) (Triple.bind
    (R := fun b w => Up (Rails.Run cfg) w ∧ (b = true →
      w.st.active = .external)) (Triple.get fun s => Triple.ret fun w h => ?_)
    fun b => Triple.ite (fun _ => Triple.ret fun w h => h.1) fun hb => ?_)
    fun _ => leave_keeps run_frame (by simp)
  · refine ⟨h.1, fun hb => ?_⟩
    rw [h.2]
    simp only [Bool.and_eq_true, beq_iff_eq] at hb
    exact hb.1.2
  refine Triple.ite (fun _ => ?_) fun hno => absurd hext hno
  refine Triple.pre (P := Up Rails.OnModule) ?_ fun w h => ⟨?_, h.1.2⟩
  · refine (gnssExtStop_up (ψ := Rails.Failed) true (fun x hx => hx.sound)
      fun x hx => ?_).bind fun _ => (switch_up (ψ := Rails.OnModem cfg)
      .modem (fun x hx => hx.sound) fun x hx => ?_).bind fun _ => ?_
    · exact ⟨hx.2.1, rfl, by simp, by simp⟩
    · exact ⟨rfl, hx.2.1, fun _ => hx.2.2.1, hx.2.2.2.trans hx.2.2.1.symm⟩
    refine (gnssModemStart_up .fallback fun x hx => hx.2.1).bind fun r =>
      Triple.pre (P := Up (Rails.Run cfg)) (Triple.ite
        (fun _ => Triple.ret fun w h => h)
        fun _ => Triple.ret fun w h => h) fun w h => ⟨.inl ?_, h.2⟩
    obtain ⟨⟨y, hy, hx⟩, -⟩ := h
    rw [hx]
    exact hy
  · obtain ⟨⟨hrun, -⟩, hact⟩ := h
    refine hrun.resolve_left fun hmodem => ?_
    have hmod : w.st.active = .modem := hmodem.1
    rw [hact (by simpa using hb)] at hmod
    cases hmod

/-- Where it does not matter whether the modem runs, its starts and stops
do not matter either. -/
theorem up_frame_modem {φ : Rails → Prop} (hφ : ∀ x, φ x → x.Sound)
    (hm : ∀ x b, φ x → φ { x with modemOn := b }) :
    Frame (device cfg) RailsWork (PowerSafe cfg) (Up φ)
      (Off (.pin :: .pm :: sleepMarks)) (Keep [.powered, .active]) where
  stable := up_stable φ
  calls := fun w o r ho h _ _ => by
    have hs := effect_spares o r w.dev
    have hp := hs.pin (ho.ne (by simp))
    have hu := hs.uart (ho.ne (by simp))
    have hrails : rails (w.called (device cfg) o r)
        = { rails w with modemOn := (effect o r w.dev).modemOn } := by
      simp [rails, World.called, device, hp, hu]
    refine ⟨?_, (asleep_call (ho.mono (by simp)) ..).trans h.2⟩
    rw [hrails]
    exact hm _ _ h.1
  writes := fun w f hf h => ⟨by rw [rails_wrote hf]; exact h.1, h.2⟩
  gives := fun w h => h.safe hφ

/-- A fetch with the modem active stops and restarts the modem only. -/
theorem agnssFetchAndInject_up :
    Triple (device cfg) RailsWork (PowerSafe cfg)
      (fun w => Up (Rails.Run cfg) w ∧ w.st.active = .modem)
      (agnssFetchAndInject cfg) fun _ => Up (Rails.Run cfg) := by
  have F : Frame (device cfg) RailsWork _ (Up (Rails.OnModem cfg)) _ _ :=
    up_frame_modem (fun x hx => hx.sound) fun x b hx => hx
  refine (part F (agnssFetchAndInject_foot cfg)
    (by simp) (by simp)).conseq (fun w h => ?_)
    fun _ w h => ⟨.inl h.1, h.2⟩
  refine ⟨h.1.1.resolve_right fun hmodule => ?_, h.1.2⟩
  have hact : w.st.active = .external := hmodule.1
  rw [h.2] at hact
  cases hact

-- ==================================================== the sleep, the set-up

/-- Nothing runs, asleep or awake. -/
theorem dark_keeps : Frame (device cfg) RailsWork (PowerSafe cfg)
    (fun w => (rails w).Dark cfg) (Off [.modemRun, .pin, .pm])
    (Keep [.powered, .active]) where
  stable := fun w a h _ _ => by
    show (rails _).Dark cfg
    rw [rails_moved]
    exact h
  calls := fun w o r ho h _ _ => by
    show (rails _).Dark cfg
    rw [rails_called ho]
    exact h
  writes := fun w f hf h => by
    show (rails _).Dark cfg
    rw [rails_wrote hf]
    exact h
  gives := fun w h _ => ⟨h.sound, fun _ => ⟨h.1, h.2.1, h.2.2.1⟩⟩

/-- `battery_sleep` touches no rail. -/
theorem batterySleep_up (site : SleepSite) :
    Triple (device cfg) RailsWork (PowerSafe cfg) (Up (Rails.Dark cfg))
      (batterySleep cfg site) fun _ => Up (Rails.Dark cfg) := by
  refine triple_scope ((enter_keeps dark_keeps (by simp)).pre fun w h => h.1)
    (part dark_keeps (foot_scope.mp (batterySleep_foot cfg site)).2
      (by simp) (by simp))
    fun r => Triple.op dark_keeps.stable fun w u h _ _ => ?_
  have hup : Up (Rails.Dark cfg)
      (w.called (device cfg) (.leave (.batterySleep site) (Code.code r)) u) :=
    ⟨h, rfl⟩
  exact ⟨hup.safe fun x hx => hx.sound, hup⟩

/-- Before `gnss_init` returns, with the rails as `φ` says. -/
def Unset (φ : Rails → Prop) (w : Tracker) : Prop :=
  initialised w.log = false ∧ Up φ w

theorem Unset.safe {φ : Rails → Prop} {w : Tracker} (h : Unset φ w) :
    PowerSafe cfg w := fun hi => by
  rw [h.1] at hi
  cases hi

theorem unset_stable (φ : Rails → Prop) :
    Stable (device cfg) RailsWork (Unset φ) := fun w a h hcan hG =>
  ⟨h.1, up_stable φ w a h.2 hcan hG⟩

theorem unset_frame (φ : Rails → Prop) :
    Frame (device cfg) RailsWork (PowerSafe cfg) (Unset φ)
      (Off (.mark .gnssInit :: .modemRun :: .pin :: .pm :: sleepMarks))
      (Keep [.powered, .active]) where
  stable := unset_stable φ
  calls := fun w o r ho h _ _ => by
    have hinit : group o ≠ .mark .gnssInit := fun hg =>
      ho (List.mem_cons.mpr (.inl hg))
    have hoff : Off [.modemRun, .pin, .pm] o := ho.mono (by simp)
    exact ⟨(initialised_call hinit ..).trans h.1,
      by rw [rails_called hoff]; exact h.2.1,
      (asleep_call (ho.mono (by simp)) ..).trans h.2.2⟩
  writes := fun w f hf h =>
    ⟨h.1, by rw [rails_wrote hf]; exact h.2.1, h.2.2⟩
  gives := fun w h => h.safe

/-- The rails as boot leaves them: the modem off, the driver's record of
the pin low. -/
def Rails.Cold (r : Rails) : Prop :=
  r.modemOn = false ∧ r.powered = false

/-- `gnss_ext_init`, assumed to succeed: the pin low, the UART
suspended. -/
theorem gnssExtInit_up :
    Triple (device cfg) RailsWork (PowerSafe cfg) (Unset Rails.Cold)
      gnssExtInit fun r w => Unset (fun x => x.Cold ∧ x.pin = false ∧
        x.uart = false) w ∧ r = 0 := by
  have F : Frame (device cfg) RailsWork _ _ _ _ := unset_frame Rails.Cold
  have hlib : ∀ f, Triple (device cfg) RailsWork (PowerSafe cfg)
      (Unset Rails.Cold) (call (.lib f)) fun _ => Unset Rails.Cold :=
    fun f => plain_keeps F (by rfl) (by simp)
  -- the pin is low if it could be configured
  have hpin : Triple (device cfg) RailsWork (PowerSafe cfg)
      (Unset Rails.Cold) (call .gpioPinConfigure) fun r =>
        Unset fun x => x.Cold ∧ (r = 0 → x.pin = false) := by
    refine Triple.op (unset_stable _) fun w r h _ _ => ?_
    have hx : (rails (w.called (device cfg) .gpioPinConfigure r)).Cold ∧
        (r = 0 → (rails (w.called (device cfg) .gpioPinConfigure r)).pin
          = false) := by
      have hcold := h.2.1
      by_cases hr : r = 0 <;>
        simpa [Rails.Cold, rails, World.called, device, effect, act, hr]
          using hcold
    have hun : Unset (fun x => x.Cold ∧ (r = 0 → x.pin = false))
        (w.called (device cfg) .gpioPinConfigure r) :=
      ⟨h.1, hx, h.2.2⟩
    exact ⟨hun.safe, hun⟩
  have huart : Triple (device cfg) RailsWork (PowerSafe cfg)
      (Unset fun x => x.Cold ∧ x.pin = false)
      (call (.pmAction .uart false)) fun _ =>
        Unset fun x => x.Cold ∧ x.pin = false ∧ x.uart = false := by
    refine Triple.op (unset_stable _) fun w r h hok hG => ?_
    have hun : Unset (fun x => x.Cold ∧ x.pin = false ∧ x.uart = false)
        (w.called (device cfg) (.pmAction .uart false) r) := by
      refine ⟨h.1, ?_, h.2.2⟩
      rw [rails_suspended hok hG.1]
      exact ⟨h.2.1.1, h.2.1.2, rfl⟩
    exact ⟨hun.safe, hun⟩
  -- each early return leaves the cold boot as it was
  have hbody : Triple (device cfg) RailsWork (PowerSafe cfg)
      (Unset Rails.Cold) (do
        if (← call (.lib .deviceReadyGpio)) ≠ 0 then
          pure (-ENODEV)
        else if (← call (.lib .deviceReadyUart)) ≠ 0 then
          pure (-ENODEV)
        else if (← call (.lib .deviceReadyGnss)) ≠ 0 then
          pure (-ENODEV)
        else
          let err ← call .gpioPinConfigure
          if err ≠ 0 then
            pure err
          else
            let _ ← call (.pmAction .uart false)
            pure 0 : P Int) fun r w => Unset Rails.Cold w ∧
              (r = 0 → w.dev.pin = false ∧ w.dev.uart = false) := by
    have hdead : ∀ {X : Tracker → Prop}, (∀ w, X w → Unset Rails.Cold w) →
        ∀ r : Int, r ≠ 0 → Triple (device cfg) RailsWork (PowerSafe cfg) X
          (pure r) fun r w => Unset Rails.Cold w ∧
            (r = 0 → w.dev.pin = false ∧ w.dev.uart = false) :=
      fun hX r hr => Triple.ret fun w h => ⟨hX w h, fun h0 => absurd h0 hr⟩
    refine (hlib _).bind fun _ => Triple.ite
      (fun _ => hdead (fun _ h => h) _ (by decide)) fun _ => ?_
    refine (hlib _).bind fun _ => Triple.ite
      (fun _ => hdead (fun _ h => h) _ (by decide)) fun _ => ?_
    refine (hlib _).bind fun _ => Triple.ite
      (fun _ => hdead (fun _ h => h) _ (by decide)) fun _ => ?_
    refine hpin.bind fun err => Triple.ite (fun herr =>
      hdead (fun w h => ⟨h.1, h.2.1.1, h.2.2⟩) _ herr) fun herr => ?_
    refine (huart.pre fun w h => ⟨h.1, ⟨h.2.1.1,
      h.2.1.2 (Decidable.not_not.mp herr)⟩, h.2.2⟩).bind fun _ =>
      Triple.ret fun w h => ⟨⟨h.1, h.2.1.1, h.2.2⟩, fun _ => h.2.1.2⟩
  refine triple_scope (enter_keeps F (by simp)) hbody fun r => ?_
  have hS : Stable (device cfg) RailsWork fun w => Unset Rails.Cold w ∧
      (r = 0 → w.dev.pin = false ∧ w.dev.uart = false) :=
    fun w a h hcan hG => by
      have hd := move_drifts cfg a w.dev
      refine ⟨unset_stable _ w a h.1 hcan hG, fun h0 => ?_⟩
      exact ⟨hd.pin.trans (h.2 h0).1, hd.uart.trans (h.2 h0).2⟩
  refine Triple.op hS fun w u h _ hG => ?_
  -- the early returns are excluded: the assumption on the rails has the
  -- initialisation succeed
  have hr : r = 0 := eq_of_beq hG.1
  have hun : Unset (fun x => x.Cold ∧ x.pin = false ∧ x.uart = false)
      (w.called (device cfg) (.leave .gnssExtInit (Code.code r)) u) :=
    ⟨h.1.1, ⟨h.1.2.1, h.2 hr⟩, h.1.2.2⟩
  exact ⟨hun.safe, hun, hr⟩

/-- `gnss_init`: where it returns 0, nothing runs and the module is off. -/
theorem gnssInit_up (hext : cfg.gnssExternal = true) :
    Triple (device cfg) RailsWork (PowerSafe cfg) (Unset Rails.Cold)
      (gnssInit cfg) fun r w => r = 0 → Up (Rails.Dark cfg) w := by
  have F : Frame (device cfg) RailsWork _ _ _ _ := unset_frame Rails.Cold
  have henter : Triple (device cfg) RailsWork (PowerSafe cfg)
      (Unset Rails.Cold) (call (.enter .gnssInit))
      fun _ => Unset Rails.Cold :=
    Triple.op (unset_stable _) fun w r h _ _ =>
      have hun : Unset Rails.Cold
        (w.called (device cfg) (.enter .gnssInit) r) := h
      ⟨hun.safe, hun⟩
  have hoff : ∀ x : Rails, (x.Cold ∧ x.pin = false ∧ x.uart = false) →
      x.Dark cfg := fun x hx =>
    ⟨hx.1.1, hx.2.2, fun _ => hx.2.1, hx.1.2.trans hx.2.1.symm⟩
  -- the two writes that follow are to neither rail
  have hset : ∀ f : Statics → Statics, (∀ s, (f s).powered = s.powered) →
      Triple (device cfg) RailsWork (PowerSafe cfg)
        (Unset fun x => x.Cold ∧ x.pin = false ∧ x.uart = false)
        (Prog.modify f) fun _ =>
          Unset fun x => x.Cold ∧ x.pin = false ∧ x.uart = false := by
    intro f hf
    refine Triple.modify fun w h => ?_
    have hun : Unset (fun x => x.Cold ∧ x.pin = false ∧ x.uart = false)
        (w.wrote f) :=
      ⟨h.1, ⟨⟨h.2.1.1.1, (hf w.st).trans h.2.1.1.2⟩, h.2.1.2⟩, h.2.2⟩
    exact ⟨hun.safe, hun⟩
  have hbody : Triple (device cfg) RailsWork (PowerSafe cfg)
      (Unset Rails.Cold) (do
        let modemErr ← gnssModemInit
        if cfg.gnssExternal then
          if (← gnssExtInit) = 0 then
            Prog.modify fun s => { s with externalUsable := true }
        let s ← Prog.get
        if !s.externalUsable && modemErr != 0 then
          pure modemErr
        else
          Prog.modify fun s =>
            { s with active := if s.externalUsable then .external else .modem }
          pure 0 : P Int) fun _ =>
        Unset fun x => x.Cold ∧ x.pin = false ∧ x.uart = false := by
    -- whichever receiver becomes the active one
    have hrest : ∀ modemErr : Int, Triple (device cfg) RailsWork
        (PowerSafe cfg)
        (Unset fun x => x.Cold ∧ x.pin = false ∧ x.uart = false) (do
          let s ← Prog.get
          if !s.externalUsable && modemErr != 0 then
            pure modemErr
          else
            Prog.modify fun s =>
              { s with active := if s.externalUsable then .external else .modem }
            pure 0 : P Int) fun _ =>
          Unset fun x => x.Cold ∧ x.pin = false ∧ x.uart = false :=
      fun modemErr => Triple.get fun s => Triple.ite
        (fun _ => Triple.ret fun w h => h.1) fun _ => Triple.pre
          ((hset _ (by exact fun _ => rfl)).bind fun _ =>
            Triple.ret fun w h => h) fun w h => h.1
    refine (part F gnssModemInit_foot
      (by simp) (by simp)).bind fun modemErr =>
      Triple.ite (fun _ => ?_) fun hno => absurd hext hno
    refine gnssExtInit_up.bind fun r => Triple.ite (fun _ => ?_) fun _ => ?_
    · refine Triple.pre ((hset _ ?_).bind fun _ => hrest modemErr)
        fun w h => h.1
      exact fun _ => rfl
    · exact (hrest modemErr).pre fun w h => h.1
  refine triple_scope henter hbody fun r => ?_
  refine Triple.op (unset_stable _) fun w u h _ _ => ?_
  have hup : Up (Rails.Dark cfg)
      (w.called (device cfg) (.leave .gnssInit (Code.code r)) u) :=
    ⟨hoff _ h.2.1, h.2.2⟩
  exact ⟨hup.safe fun x hx => hx.sound, fun _ => hup⟩

/-- The whole set-up. -/
theorem setUp_up (hext : cfg.gnssExternal = true) :
    Triple (device cfg) RailsWork (PowerSafe cfg) (Unset Rails.Cold)
      (setUp cfg) fun r w => r = 0 → Up (Rails.Dark cfg) w := by
  have F : Frame (device cfg) RailsWork _ _ _ _ := unset_frame Rails.Cold
  have D : Frame (device cfg) RailsWork _ _ _ _ := dark_frame
  have hdead : ∀ {X : Tracker → Prop} (r : Int), r ≠ 0 →
      Triple (device cfg) RailsWork (PowerSafe cfg) X (pure r)
        fun r w => r = 0 → Up (Rails.Dark cfg) w :=
    fun r hr => Triple.ret fun w h h0 => absurd h0 hr
  refine (plain_keeps F (by rfl) (by simp)).bind fun err => ?_
  refine Triple.ite (fun herr => hdead _ herr) fun _ => ?_
  refine (part F watchdogInit_foot (by simp) (by simp)).bind fun _ => ?_
  refine (plain_keeps F (by rfl) (by simp)).bind fun _ => ?_
  refine (part F powerInit_foot (by simp) (by simp)).bind fun _ => ?_
  refine (part F (motionInit_foot cfg) (by simp) (by simp)).bind fun _ => ?_
  refine (part F (statusLedInit_foot cfg)
    (by simp) (by simp)).bind fun _ => ?_
  refine (gnssInit_up hext).bind fun r => Triple.ite
    (fun _ => hdead _ (by decide)) fun hr => ?_
  refine Triple.pre (P := Up (Rails.Dark cfg)) ?_
    fun w h => h (Decidable.not_not.mp hr)
  refine (part D (radioInit_foot cfg)
    (by simp) (by simp)).bind fun r => Triple.ite
    (fun _ => hdead _ (by decide)) fun _ => ?_
  refine (part D (cloudInit_foot cfg) (by simp) (by simp)).bind fun _ => ?_
  exact (part D (statusLedReport_foot cfg false)
    (by simp) (by simp)).bind fun _ =>
    Triple.ret fun w h _ => h

-- ================================================================= the law

/-- Who has the cycle, point by point. -/
theorem power_outline (hext : cfg.gnssExternal = true) :
    Outline cfg RailsWork (PowerSafe cfg) fun pt => match pt with
      | .boot => Unset Rails.Cold
      | .run => Up (Rails.Run cfg)
      | .told => Up (Rails.Run cfg)
      | .pass => Up (Rails.Run cfg)
      | .done => Up (Rails.Run cfg)
      | _ => Up (Rails.Dark cfg) := by
  have B : Frame (device cfg) RailsWork _ _ _ _ := unset_frame Rails.Cold
  have D : Frame (device cfg) RailsWork _ _ _ _ := dark_frame
  have R : Frame (device cfg) RailsWork _ _ _ _ := run_frame
  exact
    { quiet := fun pt => by
        -- from start to stop one receiver has the cycle, elsewhere none
        cases pt <;> first
          | exact quiet B (by simp) (by simp)
          | exact quiet R (by simp) (by simp)
          | exact quiet D (by simp) (by simp)
      setUp := setUp_up hext
      topOfCycle := fun wr => part D (topOfCycle_foot wr) (by simp) (by simp)
      recover := part D (recoverIfSilent_foot cfg) (by simp) (by simp)
      lte := part D (lteEnsureConnected_foot cfg) (by simp) (by simp)
      noLte := fun _ _ h => h
      offline := fun _ h => h
      resume := part D (cloudResume_foot cfg) (by simp) (by simp)
      ledOn := part D (statusLedReport_foot cfg false) (by simp) (by simp)
      start := gnssStart_up.post fun r w h => by
        split
        next hr => rwa [if_pos hr] at h
        next hr => rwa [if_neg hr] at h
      fetch := agnssFetchAndInject_up
      wait := fun t => part R (gnssWaitFix_foot cfg t) (by simp) (by simp)
      fallback := gnssFallback_up hext
      report := fun fix t wr => part R (reportFix_foot cfg fix t wr)
        (by simp) (by simp)
      unreported := fun _ h => h
      ledTold := fun b => part R (statusLedReport_foot cfg b)
        (by simp) (by simp)
      keepIf := fun mc => (part R (keepReporting_foot cfg _ mc)
        (by simp) (by simp)).post
        fun _ _ h => by split <;> exact h
      logLine := part R (powerVbusPresent_foot _) (by simp) (by simp)
      keepWhile := fun mc => (part R (keepReporting_foot cfg _ mc)
        (by simp) (by simp)).post
        fun _ _ h => by split <;> exact h
      holdOff := part R (holdOffMotion_foot cfg) (by simp) (by simp)
      stop := gnssStop_up hext
      pause := fun _ => part D (cloudPause_foot cfg) (by simp) (by simp)
      sleep := fun site => batterySleep_up site }

/-- In every reachable state after `gnss_init`, at most one receiver runs
and the UART is active only while the module is powered; and in every
battery sleep nothing runs. -/
theorem receivers_power_safe (hext : cfg.gnssExternal = true) {n fuel : Nat}
    {w : Tracker} (hw : Booted cfg w) {c : P Int × Tracker}
    (hr : Reach (device cfg) (main cfg n fuel) w c)
    (hG : Always RailsWork c.2.log) : PowerSafe cfg c.2 := by
  obtain ⟨magic, phase, hst⟩ := hw.st
  refine (power_outline hext).reach (J := PowerSafe cfg) ?_ hr hG
  refine ⟨?_, ⟨hw.modemOn, ?_⟩, ?_⟩
  · rw [hw.log]
    rfl
  · show w.st.powered = false
    rw [hst]
    rfl
  · rw [hw.log]
    rfl

/-- A cycle over both receivers that ends asleep. -/
theorem receivers_power_safe_thirsty :
    asleep (playMain {} (thirsty 0 0) 1 0 270).2.log = true ∧
      PowerSafe {} (playMain {} (thirsty 0 0) 1 0 270).2 :=
  ⟨by decide +kernel, receivers_power_safe rfl (start_booted {})
    (playMain_reach {} (thirsty 0 0) 1 0 270) (by decide +kernel)⟩

end GpsTracker
