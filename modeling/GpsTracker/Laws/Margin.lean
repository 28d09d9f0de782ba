/-
The watchdog never strikes a healthy run (watchdog.c, main.c, Kconfig).

The watchdog counts through nine minutes of sleep and has five more to
spare. `main` feeds it at the top of a cycle, around its network calls and
after its reports, and not before it sleeps: what the end of a cycle has
used up is carried into the sleep and past the top of the next.

# The accounts

Every call has an allowance: a wait its timeout, a send its two minutes, and
`cloud_resume` and an assistance fetch their budgets, whatever they do with
them. What is taken beyond goes to an account that a feed clears, and a run
is `Budgeted` if the account never holds more than half a minute. `Owing n`
says that the allowances since the last feed come to at most `n`, and
`Costs c` that a part of `main` adds at most `c`.
-/
import GpsTracker.Laws.Hang

namespace GpsTracker

open Proc

variable {cfg : Config}

-- ================================================================= statements

/-- The timings of Kconfig. -/
structure Config.DefaultTimings (cfg : Config) : Prop where
  sleep : cfg.sleepSeconds = 540
  margin : cfg.watchdogMarginSeconds = 300
  lte : cfg.lteConnectTimeoutSeconds = 120
  connect : cfg.cloudConnectBudgetSeconds = 240
  fetch : cfg.agnssBudgetSeconds = 180
  proactive : cfg.agnssProactiveWaitSeconds = 5
  assistedFix : cfg.agnssFixTimeoutSeconds = 90
  fix : cfg.gnssFixTimeoutSeconds = 120
  extFix : cfg.gnssExtFixTimeoutSeconds = 60
  extraFix : cfg.gnssExtraFixSeconds = 5
  warmup : cfg.gnssExtWarmupMs = 500
  charging : cfg.chargingIntervalSeconds = 60

/-- What a send may take. -/
def sendMs : Nat := 120000

/-- What all the other calls between two feeds may take. -/
def slackMs : Nat := 30000

/-- `wdt_setup` starts an installed watchdog. -/
def starts : Ev → Bool
  | .call s _ (.lib .wdtSetup) r => r == (0 : Int) && decide (0 ≤ s.wdtChannel)
  | _ => false

/-- The watchdog is started, or fed by whomever. -/
def feeds (e : Ev) : Bool := (feedAt e).isSome || starts e

/-- A running watchdog was fed less than its timeout ago. -/
def Fed (cfg : Config) (e : Ev) (l : Trace) : Prop :=
  l.any starts = true → ∃ e' ∈ l, feeds e' = true ∧
    e.dev.now < e'.dev.now + WDT_TIMEOUT_MS cfg

/-- The functions with a bound of their own. -/
def spanMs (cfg : Config) : Fn → Option Nat
  | .cloudResume => some (cfg.cloudConnectBudgetSeconds * 1000)
  | .agnssFetchAndInject => some (cfg.agnssBudgetSeconds * 1000)
  | .firstSend => some sendMs
  | .retrySend => some sendMs
  | _ => none

/-- What an event says about such a function in progress. -/
def spanWord (cfg : Config) : Ev → Option (Option (Nat × Nat))
  | .call _ d (.enter f) _ => (spanMs cfg f).map fun b => some (d.now, b)
  | .call _ _ (.leave f _) _ => (spanMs cfg f).map fun _ => none
  | _ => none

/-- When the one in progress, if any, was entered, and its bound. -/
def span (cfg : Config) (l : Trace) : Option (Nat × Nat) :=
  latest (spanWord cfg) none l

/-- The bounds of the other calls. -/
def allowance : Op → Nat
  | .kSleep ms => ms
  | .semTake _ ms => ms
  | .locationSend _ => sendMs
  | _ => 0

/-- When a call is to be over. -/
def deadline (cfg : Config) (d : Dev) (o : Op) (l : Trace) : Nat :=
  match span cfg l with
  | some (t, b) => t + b
  | none => d.since + allowance o

/-- What a call takes beyond that. -/
def excess (cfg : Config) : Ev → Trace → Nat
  | .call _ d o _, l => d.now - max d.since (deadline cfg d o l)
  | .env .., _ => 0

/-- The main thread feeds a running watchdog, or starts it. -/
def kicks : Ev → Bool
  | .call s _ .wdtFeed _ => decide (0 ≤ s.wdtChannel)
  | e => starts e

/-- When it did so last. -/
def lastKick : Trace → Option Nat
  | [] => none
  | e :: l => if kicks e then some e.dev.now else lastKick l

/-- What calls have taken beyond their bounds since. -/
def spare (cfg : Config) : Trace → Nat
  | [] => 0
  | e :: l => if kicks e then 0 else spare cfg l + excess cfg e l

/-- Every call keeps to its bound, but for half a minute between two
feeds. -/
def Budgeted (cfg : Config) (e : Ev) (l : Trace) : Prop :=
  (lastKick l).isSome = true → spare cfg l + excess cfg e l ≤ slackMs

instance {e : Ev} {l : Trace} : Decidable (Budgeted cfg e l) :=
  inferInstanceAs (Decidable (_ → _))

/-- The calls since the last kick that took more than their bound. -/
def overruns (cfg : Config) : Trace → Nat
  | [] => 0
  | e :: l =>
      if kicks e then 0
      else overruns cfg l + if 0 < excess cfg e l then 1 else 0

/-- No call takes a second more than its bound, and no more than thirty
calls take more than their bound between two feeds. -/
def Seconds (cfg : Config) (e : Ev) (l : Trace) : Prop :=
  excess cfg e l ≤ 1000 ∧
    overruns cfg l + (if 0 < excess cfg e l then 1 else 0) ≤ 30

/-- A second for each call that took more than its bound covers what they
took. -/
theorem spare_overruns {l : Trace} (h : Always (Seconds cfg) l) :
    spare cfg l ≤ 1000 * overruns cfg l := by
  induction l with
  | nil => exact Nat.le_refl _
  | cons e l ih =>
      obtain ⟨hsecond, -⟩ := h.1
      have hspare := ih h.2
      unfold spare overruns
      by_cases hk : kicks e = true
      · exact Nat.le_trans (Nat.le_of_eq (if_pos hk)) (Nat.zero_le _)
      · rw [if_neg hk, if_neg hk]
        split <;> omega

/-- Thirty other calls of a second each between two feeds are within the
slack. -/
theorem Seconds.budgeted {l : Trace} (h : Always (Seconds cfg) l) :
    Always (Budgeted cfg) l := by
  induction l with
  | nil => trivial
  | cons e l ih =>
      refine ⟨fun _ => ?_, ih h.2⟩
      obtain ⟨hsecond, hlate⟩ := h.1
      have hspare := spare_overruns h.2
      unfold slackMs
      split at hlate <;> omega

-- =============================================================== assertions

/-- No call ended later than the timeout after the last feed. -/
def InTime (cfg : Config) : Ev → Trace → Prop
  | .call _ d _ _, l =>
      ∀ t, lastKick l = some t → d.now < t + WDT_TIMEOUT_MS cfg
  | .env .., _ => True

/-- The promise at every step. -/
def Alive (cfg : Config) (w : Tracker) : Prop := Always (InTime cfg) w.log

/-- The allowances since the last feed come to at most `n`. -/
structure Owing (cfg : Config) (n : Nat) (w : Tracker) : Prop where
  record : Alive cfg w
  running : (lastKick w.log).isSome = true → 0 ≤ w.st.wdtChannel
  closed : span cfg w.log = none
  owes : ∀ t, lastKick w.log = some t → w.dev.since ≤ t + n + spare cfg w.log

/-- The same where a function with the bound `b` was entered, which is not
yet used up. -/
structure Spending (cfg : Config) (n b : Nat) (w : Tracker) : Prop where
  record : Alive cfg w
  running : (lastKick w.log).isSome = true → 0 ≤ w.st.wdtChannel
  opened : ∃ t₀, span cfg w.log = some (t₀, b) ∧ t₀ ≤ w.dev.now ∧
    ∀ t, lastKick w.log = some t → t₀ ≤ t + n + spare cfg w.log ∧
      w.dev.since ≤ t + n + b + spare cfg w.log

/-- `n` and the slack are less than the timeout. -/
def Affordable (cfg : Config) (n : Nat) : Prop :=
  n + slackMs < WDT_TIMEOUT_MS cfg

/-- What affords more affords less. -/
theorem Affordable.mono {n m : Nat} (h : Affordable cfg m) (hn : n ≤ m) :
    Affordable cfg n := by
  unfold Affordable at *
  omega

/-- At the default timings 810 s are affordable: 840 s of timeout less the
slack. -/
theorem Config.DefaultTimings.affords (hcfg : cfg.DefaultTimings) {n : Nat}
    (hn : n < 810000) : Affordable cfg n := by
  have htimeout : WDT_TIMEOUT_MS cfg = 840000 := by
    unfold WDT_TIMEOUT_MS
    rw [hcfg.sleep, hcfg.margin]
    rfl
  unfold Affordable slackMs
  rw [htimeout]
  omega

/-- Owing less is owing no more. -/
theorem Owing.mono {n m : Nat} {w : Tracker} (h : Owing cfg n w) (hn : n ≤ m) :
    Owing cfg m w :=
  ⟨h.record, h.running, h.closed, fun t ht => by
    have := h.owes t ht
    omega⟩

/-- And so within a function with a bound of its own. -/
theorem Spending.mono {n m b : Nat} {w : Tracker} (h : Spending cfg n b w)
    (hn : n ≤ m) : Spending cfg m b w := by
  obtain ⟨t₀, hspan, hpast, howes⟩ := h.opened
  refine ⟨h.record, h.running, t₀, hspan, hpast, fun t ht => ?_⟩
  obtain ⟨hentered, hsince⟩ := howes t ht
  omega

-- ================================================================ one call

/-- What does not kick leaves the last kick. -/
theorem lastKick_idle {e : Ev} (h : kicks e = false) (l : Trace) :
    lastKick (e :: l) = lastKick l := by
  rw [lastKick, if_neg (ne_true_of_eq_false h)]

/-- And adds its excess to what was spare. -/
theorem spare_idle {e : Ev} (h : kicks e = false) (l : Trace) :
    spare cfg (e :: l) = spare cfg l + excess cfg e l := by
  rw [spare, if_neg (ne_true_of_eq_false h)]

/-- A kick is the last one. -/
theorem lastKick_kick {e : Ev} (h : kicks e = true) (l : Trace) :
    lastKick (e :: l) = some e.dev.now := if_pos h

/-- Outside the functions with a bound of their own a call has its allowance.
-/
theorem excess_closed {l : Trace} (h : span cfg l = none) {s : Statics}
    {d : Dev} {o : Op} {r : o.Ret} :
    excess cfg (.call s d o r) l = d.now - max d.since (d.since + allowance o)
    := by
  show d.now - max d.since (deadline cfg d o l) = _
  unfold deadline
  rw [h]

/-- Inside one it has what the function has left. -/
theorem excess_opened {l : Trace} {t b : Nat} (h : span cfg l = some (t, b))
    {s : Statics} {d : Dev} {o : Op} {r : o.Ret} :
    excess cfg (.call s d o r) l = d.now - max d.since (t + b) := by
  show d.now - max d.since (deadline cfg d o l) = _
  unfold deadline
  rw [h]

/-- Only a running watchdog is kicked. -/
theorem kicks_running {s : Statics} {d : Dev} {o : Op} {r : o.Ret}
    (h : kicks (.call s d o r) = true) : 0 ≤ s.wdtChannel := by
  cases o with
  | wdtFeed => exact of_decide_eq_true h
  | lib f =>
      cases f with
      | wdtSetup => exact of_decide_eq_true (Bool.and_eq_true_iff.mp h).2
      | _ => cases h
  | _ => cases h

/-- A watchdog that was kicked runs, and no call stops it. -/
theorem running_called {w : Tracker} (o : Op) (r : o.Ret)
    (h : (lastKick w.log).isSome = true → 0 ≤ w.st.wdtChannel)
    (hk : (lastKick (.call w.st w.dev o r :: w.log)).isSome = true) :
    0 ≤ w.st.wdtChannel := by
  cases hkick : kicks (.call w.st w.dev o r) with
  | true => exact kicks_running hkick
  | false =>
      rw [lastKick_idle hkick] at hk
      exact h hk

/-- The accounts behind a call that ended `n` and its excess after the last
feed. -/
theorem owes_called {w : Tracker} {n : Nat} (o : Op) (r : o.Ret)
    (h : ∀ t, lastKick w.log = some t → w.dev.now
      ≤ t + n + (spare cfg w.log + excess cfg (.call w.st w.dev o r) w.log)) :
    ∀ t, lastKick (.call w.st w.dev o r :: w.log) = some t →
      w.dev.now ≤ t + n + spare cfg (.call w.st w.dev o r :: w.log) := by
  intro t ht
  cases hk : kicks (.call w.st w.dev o r) with
  | true =>
      rw [lastKick_kick hk] at ht
      have hnow : w.dev.now = t := Option.some.inj ht
      omega
  | false =>
      rw [lastKick_idle hk] at ht
      rw [spare_idle hk]
      exact h t ht

/-- And it ended in time. -/
theorem alive_called {w : Tracker} {n : Nat} {o : Op} {r : o.Ret}
    (hrecord : Alive cfg w)
    (h : ∀ t, lastKick w.log = some t → w.dev.now
      ≤ t + n + (spare cfg w.log + excess cfg (.call w.st w.dev o r) w.log))
    (hG : Budgeted cfg (.call w.st w.dev o r) w.log) (hn : Affordable cfg n) :
    Alive cfg (w.called (device cfg) o r) := by
  refine ⟨fun t ht => ?_, hrecord⟩
  have hbounded := hG (by rw [ht]; rfl)
  have hnow := h t ht
  unfold Affordable at hn
  omega

/-- Outside the functions with a bound of their own a call adds its
allowance. -/
theorem Owing.called {n : Nat} {w : Tracker} (h : Owing cfg n w) (o : Op)
    (r : o.Ret) (hspan : spanWord cfg (.call w.st w.dev o r) = none)
    (hG : Budgeted cfg (.call w.st w.dev o r) w.log)
    (hn : Affordable cfg (n + allowance o)) :
    Owing cfg (n + allowance o) (w.called (device cfg) o r) := by
  have hnow : ∀ t, lastKick w.log = some t → w.dev.now ≤ t + (n + allowance o)
      + (spare cfg w.log + excess cfg (.call w.st w.dev o r) w.log) := by
    intro t ht
    have howes := h.owes t ht
    rw [excess_closed h.closed]
    omega
  refine ⟨alive_called h.record hnow hG hn, running_called o r h.running,
    (latest_none hspan).trans h.closed, ?_⟩
  show ∀ t, _ → (effect o r w.dev).since ≤ _
  exact owes_called o r hnow

/-- Within one of them no call adds to its bound. -/
theorem Spending.spent {n b : Nat} {w : Tracker} (h : Spending cfg n b w)
    (o : Op) (r : o.Ret) : ∀ t, lastKick w.log = some t →
      w.dev.now ≤ t + (n + b)
        + (spare cfg w.log + excess cfg (.call w.st w.dev o r) w.log) := by
  intro t ht
  obtain ⟨t₀, hspan, -, howes⟩ := h.opened
  obtain ⟨hentered, hsince⟩ := howes t ht
  rw [excess_opened hspan]
  omega

/-- Within a function with a bound of its own a call adds nothing to what is
owed at its end. -/
theorem Spending.called {n b : Nat} {w : Tracker} (h : Spending cfg n b w)
    (o : Op) (r : o.Ret) (hword : spanWord cfg (.call w.st w.dev o r) = none)
    (hG : Budgeted cfg (.call w.st w.dev o r) w.log)
    (hn : Affordable cfg (n + b)) :
    Spending cfg n b (w.called (device cfg) o r) := by
  obtain ⟨t₀, hspan, hpast, howes⟩ := h.opened
  refine ⟨alive_called h.record (h.spent o r) hG hn,
    running_called o r h.running, t₀, (latest_none hword).trans hspan, ?_,
    fun t ht => ⟨?_, ?_⟩⟩
  · show t₀ ≤ (effect o r w.dev).now
    rw [effect_now]
    exact hpast
  · show t₀ ≤ t + n + spare cfg (.call w.st w.dev o r :: w.log)
    have ht' : lastKick (.call w.st w.dev o r :: w.log) = some t := ht
    cases hk : kicks (.call w.st w.dev o r) with
    | true =>
        rw [lastKick_kick hk] at ht'
        have hnow : w.dev.now = t := Option.some.inj ht'
        omega
    | false =>
        rw [lastKick_idle hk] at ht'
        rw [spare_idle hk]
        have hentered := (howes t ht').1
        omega
  · show (effect o r w.dev).since ≤ t + n + b
      + spare cfg (.call w.st w.dev o r :: w.log)
    have hnow := owes_called o r (h.spent o r) t ht
    show w.dev.now ≤ _
    omega

-- =================================================================== frames

/-- Own moves of the device do not kick, -/
theorem lastKick_moved (s : Statics) (d : Dev) (a : Move) (l : Trace) :
    lastKick (.env s d a :: l) = lastKick l := lastKick_idle rfl l

/-- nor are they late. -/
theorem spare_moved (s : Statics) (d : Dev) (a : Move) (l : Trace) :
    spare cfg (.env s d a :: l) = spare cfg l := spare_idle rfl l

/-- A call that takes no time of its own. -/
def Swift (o : Op) : Prop := kind o ≠ .wait ∧ kind o ≠ .send

/-- A call that is no wait and no send has no allowance. -/
theorem Swift.allowance {o : Op} (h : Swift o) : allowance o = 0 := by
  cases o with
  | kSleep ms => exact absurd rfl h.1
  | semTake s ms => exact absurd rfl h.1
  | locationSend m => exact absurd rfl h.2
  | _ => rfl

/-- Nor does it open or close a function with one. -/
theorem Swift.spanWord {o : Op} (h : Swift o) (hw : Off windowMarks o)
    (s : Statics) (d : Dev) (r : o.Ret) :
    spanWord cfg (.call s d o r) = none := by
  cases o with
  | enter f =>
      cases f with
      | cloudResume => exact absurd hw (by simp [Off])
      | agnssFetchAndInject => exact absurd hw (by simp [Off])
      | firstSend => exact absurd rfl h.2
      | retrySend => exact absurd rfl h.2
      | _ => rfl
  | leave f c =>
      cases f with
      | cloudResume => exact absurd hw (by simp [Off])
      | agnssFetchAndInject => exact absurd hw (by simp [Off])
      | firstSend => exact absurd rfl h.2
      | retrySend => exact absurd rfl h.2
      | _ => rfl
  | _ => rfl

/-- What is owed is counted from the last call, so it waits with the thread.
-/
theorem owing_stable {n : Nat} :
    Stable (device cfg) (Budgeted cfg) (Owing cfg n) := by
  intro w a h _ _
  have hsince : (move cfg a w.dev).since = w.dev.since :=
    (move_drifts cfg a w.dev).since
  refine ⟨⟨trivial, h.record⟩, ?_, (latest_none rfl).trans h.closed, ?_⟩
  · show (lastKick (.env w.st w.dev a :: w.log)).isSome = true → _
    rw [lastKick_moved]
    exact h.running
  · show ∀ t, lastKick (.env w.st w.dev a :: w.log) = some t →
      (move cfg a w.dev).since
        ≤ t + n + spare cfg (.env w.st w.dev a :: w.log)
    rw [lastKick_moved, spare_moved, hsince]
    exact h.owes

/-- What takes no time adds nothing. -/
theorem owing_frame {n : Nat} (hn : Affordable cfg n) :
    Frame (device cfg) (Budgeted cfg) (Alive cfg) (Owing cfg n)
      (fun o => Swift o ∧ Off windowMarks o) (Keep [.wdtChannel]) where
  stable := owing_stable
  calls := fun w o r ho h _ hG => by
    have h' := h.called o r (ho.1.spanWord ho.2 ..) hG.1
      (by rw [ho.1.allowance]; exact hn)
    rw [ho.1.allowance] at h'
    exact h'
  writes := fun w f hf h => by
    have hkept : (f w.st).wdtChannel = w.st.wdtChannel :=
      hf .wdtChannel (by simp)
    refine ⟨h.record, fun hk => ?_, h.closed, h.owes⟩
    show 0 ≤ (f w.st).wdtChannel
    rw [hkept]
    exact h.running hk
  gives := fun w h => h.record

/-- The marks of the functions with a bound of their own. -/
abbrev spanMarks : List Group :=
  .mark .firstSend :: .mark .retrySend :: windowMarks

/-- And so it is inside a function with a bound. -/
theorem spending_stable {n b : Nat} :
    Stable (device cfg) (Budgeted cfg) (Spending cfg n b) := by
  intro w a h _ _
  have hdrifts := move_drifts cfg a w.dev
  obtain ⟨t₀, hspan, hpast, howes⟩ := h.opened
  refine ⟨⟨trivial, h.record⟩, ?_, t₀, (latest_none rfl).trans hspan,
    Nat.le_trans hpast hdrifts.now, ?_⟩
  · show (lastKick (.env w.st w.dev a :: w.log)).isSome = true → _
    rw [lastKick_moved]
    exact h.running
  · show ∀ t, lastKick (.env w.st w.dev a :: w.log) = some t →
      t₀ ≤ t + n + spare cfg (.env w.st w.dev a :: w.log) ∧
        (move cfg a w.dev).since
          ≤ t + n + b + spare cfg (.env w.st w.dev a :: w.log)
    rw [lastKick_moved, spare_moved, hdrifts.since]
    exact howes

/-- Within a function with a bound of its own nothing adds to it. -/
theorem spending_frame {n b : Nat} (hn : Affordable cfg (n + b)) :
    Frame (device cfg) (Budgeted cfg) (Alive cfg) (Spending cfg n b)
      (Off spanMarks) (Keep [.wdtChannel]) where
  stable := spending_stable
  calls := fun w o r ho h _ hG => by
    have hword : spanWord cfg (.call w.st w.dev o r) = none := by
      cases o with
      | enter f => cases f <;> first | rfl | exact absurd ho (by simp [Off])
      | leave f c => cases f <;> first | rfl | exact absurd ho (by simp [Off])
      | _ => rfl
    exact h.called o r hword hG.1 hn
  writes := fun w f hf h => by
    have hkept : (f w.st).wdtChannel = w.st.wdtChannel :=
      hf .wdtChannel (by simp)
    refine ⟨h.record, fun hk => ?_, h.opened⟩
    show 0 ≤ (f w.st).wdtChannel
    rw [hkept]
    exact h.running hk
  gives := fun w h => h.record

-- ==================================================================== costs

variable {α β : Type}

/-- From `n` at most to `m` at most. -/
abbrev Runs (cfg : Config) (n : Nat) (p : P α) (m : Nat) : Prop :=
  Triple (device cfg) (Budgeted cfg) (Alive cfg) (Owing cfg n) p
    fun _ => Owing cfg m

/-- `p` adds at most `c`. -/
def Costs (cfg : Config) (c : Nat) (p : P α) : Prop :=
  ∀ n, Affordable cfg (n + c) → Runs cfg n p (n + c)

/-- A larger cost is a cost. -/
theorem Costs.mono {c c' : Nat} {p : P α} (h : Costs cfg c p) (hc : c ≤ c') :
    Costs cfg c' p := fun n hn =>
  (h n (hn.mono (by omega))).post fun _ _ h => h.mono (by omega)

/-- What runs in sequence costs both; it must afford both. -/
theorem Costs.bind {c c' : Nat} {p : P α} {f : α → P β} (hp : Costs cfg c p)
    (hf : ∀ a, Costs cfg c' (f a)) : Costs cfg (c + c') (p >>= f) := by
  intro n hn
  refine (hp n (hn.mono (by omega))).bind fun a => ?_
  exact (hf a (n + c) (hn.mono (by omega))).post fun _ _ h =>
    h.mono (by omega)

/-- What follows a part that costs nothing. -/
theorem Costs.then {c : Nat} {p : P α} {f : α → P β} (hp : Costs cfg 0 p)
    (hf : ∀ a, Costs cfg c (f a)) : Costs cfg c (p >>= f) :=
  (hp.bind hf).mono (by omega)

/-- And what follows on it without a cost. -/
theorem Costs.last {c : Nat} {p : P α} {f : α → P β} (hp : Costs cfg c p)
    (hf : ∀ a, Costs cfg 0 (f a)) : Costs cfg c (p >>= f) := hp.bind hf

theorem Costs.ret {c : Nat} (a : α) : Costs cfg c (pure a : P α) :=
  fun _ _ => Triple.ret fun _ h => h.mono (by omega)

theorem Costs.halt {c : Nat} : Costs cfg c (Prog.halt : P α) :=
  fun _ _ => Triple.halt

/-- Reading the statics costs nothing. -/
theorem Costs.get {c : Nat} {k : Statics → P α} (h : ∀ s, Costs cfg c (k s)) :
    Costs cfg c (Prog.get >>= k) := fun n hn =>
  Triple.get fun s => (h s n hn).pre fun _ h => h.1

/-- A branch costs what its sides do. -/
theorem Costs.ite {c : Nat} {b : Prop} [Decidable b] {p q : P α}
    (hp : Costs cfg c p) (hq : Costs cfg c q) :
    Costs cfg c (if b then p else q) := fun n hn =>
  Triple.ite (fun _ => hp n hn) fun _ => hq n hn

/-- A part without waits and sends, outside the functions with a bound of
their own. -/
theorem swift_costs {ks : List Kind} {gs : List Group} {vs : List Var}
    {p : P α} (hp : Paced ks p) (hf : Foot gs vs p) (hwait : Kind.wait ∉ ks)
    (hsend : Kind.send ∉ ks) (hg : ∀ g ∈ gs, g ∉ windowMarks)
    (hv : Var.wdtChannel ∉ vs) : Costs cfg 0 p := by
  intro n hn
  have hoff : Within (S := Calls) (Off windowMarks) (Keep [.wdtChannel]) p :=
    hf.off hg (by simpa using hv)
  apply (owing_frame hn).keeps
  refine (Within.and hp hoff).mono (fun o h => ⟨⟨fun ho => hwait ?_,
    fun ho => hsend ?_⟩, h.2⟩) fun _ _ h => h.2
  · rw [← ho]
    exact h.1
  · rw [← ho]
    exact h.1

/-- A call costs its allowance. -/
theorem call_costs (o : Op) (hspan : ∀ s d (r : o.Ret),
    spanWord cfg (.call s d o r) = none) : Costs cfg (allowance o) (call o) :=
  fun n hn => Triple.op owing_stable fun w r h _ hG => by
    have h' := h.called o r (hspan ..) hG.1 hn
    exact ⟨h'.record, h'⟩

/-- A sleep costs its duration. -/
theorem kSleep_costs (ms : Nat) : Costs cfg ms (call (.kSleep ms)) :=
  call_costs (.kSleep ms) fun _ _ _ => rfl

/-- A wait costs its timeout. -/
theorem semTake_costs (s : Sem) (ms : Nat) :
    Costs cfg ms (call (.semTake s ms)) :=
  call_costs (.semTake s ms) fun _ _ _ => rfl

/-- A call that takes no time costs none. -/
theorem swift_op {o : Op} (hk : kind o = .other)
    (hg : group o ∉ windowMarks) : Costs cfg 0 (call o) := by
  have hp : Paced [.other] (call o) := paced_call.mpr (by rw [hk]; simp)
  have hf : Foot [group o] [] (call o) := foot_call.mpr (by simp)
  exact swift_costs hp hf (by simp) (by simp) (by simpa using hg) (by simp)

/-- The marks of a logged function cost nothing. -/
theorem scope_costs [Code α] {c : Nat} {f : Fn} {p : P α}
    (hf : kind (.enter f) = .other) (hl : ∀ c, kind (.leave f c) = .other)
    (hg : Group.mark f ∉ windowMarks) (h : Costs cfg c p) :
    Costs cfg c (scope f p) := by
  have hleave : ∀ a : α, Costs cfg 0 (do
      call (.leave f (Code.code a))
      pure a : P α) := fun a =>
    (swift_op (hl (Code.code a)) hg).then fun _ => Costs.ret a
  exact (swift_op hf hg).then fun _ => h.bind hleave

-- ================================================================== the spans

/-- Into a function with the bound `b`. -/
theorem span_enters {n b : Nat} {f : Fn} (hf : spanMs cfg f = some b)
    (hn : Affordable cfg n) :
    Triple (device cfg) (Budgeted cfg) (Alive cfg) (Owing cfg n)
      (call (.enter f)) fun _ => Spending cfg n b := by
  refine Triple.op owing_stable fun w r h _ hG => ?_
  have hnow : ∀ t, lastKick w.log = some t → w.dev.now
      ≤ t + n + (spare cfg w.log
        + excess cfg (.call w.st w.dev (.enter f) r) w.log) := by
    intro t ht
    have howes := h.owes t ht
    rw [excess_closed h.closed]
    simp only [allowance]
    omega
  have halive := alive_called h.record hnow hG.1 hn
  have hlater := owes_called (.enter f) r hnow
  refine ⟨halive, halive, running_called (.enter f) r h.running, w.dev.now,
    latest_some ?_, ?_, fun t ht => ⟨hlater t ht, ?_⟩⟩
  · simp only [spanWord, hf, Option.map_some]
  · exact Nat.le_refl _
  · have hentered := hlater t ht
    show w.dev.now
      ≤ t + n + b + spare cfg (.call w.st w.dev (.enter f) r :: w.log)
    omega

/-- And out of it, the bound added. -/
theorem span_leaves {n b : Nat} {f : Fn} (hf : (spanMs cfg f).isSome = true)
    (c : Int) (hn : Affordable cfg (n + b)) :
    Triple (device cfg) (Budgeted cfg) (Alive cfg) (Spending cfg n b)
      (call (.leave f c)) fun _ => Owing cfg (n + b) := by
  obtain ⟨b', hb⟩ := Option.isSome_iff_exists.mp hf
  refine Triple.op spending_stable fun w r h _ hG => ?_
  have hnow := h.spent (.leave f c) r
  have halive := alive_called h.record hnow hG.1 hn
  refine ⟨halive, halive, running_called (.leave f c) r h.running,
    latest_some ?_, owes_called (.leave f c) r hnow⟩
  simp only [spanWord, hb, Option.map_some]

/-- The whole of such a function. -/
theorem span_costs [Code α] {b : Nat} {f : Fn} {p : P α}
    (hf : spanMs cfg f = some b)
    (hp : Within (S := Calls) (Off spanMarks) (Keep [.wdtChannel]) p) :
    Costs cfg b (scope f p) := by
  intro n hn
  refine triple_scope (span_enters hf (hn.mono (by omega)))
    ((spending_frame hn).keeps hp) fun a => span_leaves ?_ _ hn
  rw [hf]
  rfl

/-- What a watchdog that was never started is not owed. -/
theorem unstarted {w : Tracker}
    (h : (lastKick w.log).isSome = true → 0 ≤ w.st.wdtChannel)
    (hc : ¬0 ≤ w.st.wdtChannel) (t : Nat) : lastKick w.log ≠ some t :=
  fun ht => hc (h (by rw [ht]; rfl))

/-- A feed within the function lets the account begin with it. -/
theorem feed_spends {n b : Nat} (hn : Affordable cfg (n + b)) :
    Triple (device cfg) (Budgeted cfg) (Alive cfg) (Spending cfg n b)
      watchdogFeed fun _ => Spending cfg 0 b := by
  refine Triple.get fun s => Triple.ite (fun hc => ?_) fun hc => ?_
  · refine (Triple.op (spending_stable.and (Stable.static (· = s)))
      fun w r h _ hG => ?_)
    obtain ⟨h, rfl⟩ := h
    have hkick : kicks (.call w.st w.dev .wdtFeed r) = true :=
      decide_eq_true hc
    have h' := h.called .wdtFeed r rfl hG.1 hn
    obtain ⟨t₀, hspan, hpast, -⟩ := h'.opened
    refine ⟨h'.record, h'.record, h'.running, t₀, hspan, hpast, fun t ht => ?_⟩
    have hnow : w.dev.now = t :=
      Option.some.inj ((lastKick_kick hkick w.log).symm.trans ht)
    have hbegun : t₀ ≤ (effect .wdtFeed r w.dev).now := hpast
    rw [effect_now] at hbegun
    refine ⟨?_, ?_⟩
    · omega
    · show w.dev.now ≤ _
      omega
  · refine Triple.ret fun w h => ?_
    obtain ⟨h, rfl⟩ := h
    obtain ⟨t₀, hspan, hpast, -⟩ := h.opened
    exact ⟨h.record, h.running, t₀, hspan, hpast,
      fun t ht => absurd ht (unstarted h.running hc t)⟩

/-- A feed clears the account. -/
theorem feed_clears {n : Nat} (hn : Affordable cfg n) :
    Runs cfg n watchdogFeed 0 := by
  refine Triple.get fun s => Triple.ite (fun hc => ?_) fun hc => ?_
  · refine (Triple.op (owing_stable.and (Stable.static (· = s)))
      fun w r h _ hG => ?_)
    obtain ⟨h, rfl⟩ := h
    have hkick : kicks (.call w.st w.dev .wdtFeed r) = true :=
      decide_eq_true hc
    have h' := h.called .wdtFeed r rfl hG.1 hn
    refine ⟨h'.record, h'.record, h'.running, h'.closed, fun t ht => ?_⟩
    have hnow : w.dev.now = t :=
      Option.some.inj ((lastKick_kick hkick w.log).symm.trans ht)
    show w.dev.now ≤ _
    omega
  · refine Triple.ret fun w h => ?_
    obtain ⟨h, rfl⟩ := h
    exact ⟨h.record, h.running, h.closed,
      fun t ht => absurd ht (unstarted h.running hc t)⟩

-- ============================================== the functions with a bound

/-- The link costs its budget. -/
theorem cloudResume_costs :
    Costs cfg (cfg.cloudConnectBudgetSeconds * 1000) (cloudResume cfg) := by
  obtain ⟨body, he, hfoot⟩ := cloudResume_scoped cfg
  rw [he]
  exact span_costs rfl (hfoot.off (by simp) (by simp))

/-- A send costs two minutes. -/
theorem firstSend_costs (payload : Text) :
    Costs cfg sendMs (scope .firstSend (cloudSendTelemetry cfg payload)) :=
  span_costs rfl ((cloudSendTelemetry_foot cfg payload).off (by simp)
    (by simp))

theorem retrySend_costs (payload : Text) :
    Costs cfg sendMs (scope .retrySend (cloudSendTelemetry cfg payload)) :=
  span_costs rfl ((cloudSendTelemetry_foot cfg payload).off (by simp)
    (by simp))

/-- And so does a location. -/
theorem cloudSendLocation_costs (fix : TrackerFix) :
    Costs cfg sendMs (cloudSendLocation cfg fix) := by
  unfold cloudSendLocation
  cases cfg.cloudProvider with
  | hologram => exact Costs.ret _
  | nrfcloud =>
      refine Costs.ite (Costs.ret _) (Costs.ite (Costs.ret _) ?_)
      refine Costs.then (swift_op rfl (by simp)) fun now => ?_
      exact (call_costs (.locationSend _) fun _ _ _ => rfl).last fun r =>
        Costs.ret _

/-- From the start of the guard on the account of a fetch begins with a
feed. -/
theorem fetch_spends {n b : Nat} (hn : Affordable cfg (n + b)) :
    Triple (device cfg) (Budgeted cfg) (Alive cfg) (Spending cfg n b)
      (do
        watchdogGuardStart cfg.agnssBudgetSeconds
        let err ← fetchAndInject cfg
        watchdogGuardStop
        if cfg.agnssStopGnssDuringFetch then
          if (← gnssModemStart cfg .assistance) ≠ 0 then
            pure (- EIO)
          else
            pure err
        else
          pure err : P Int)
      fun _ => Spending cfg 0 b := by
  have N : Frame (device cfg) (Budgeted cfg) (Alive cfg) _ _ _ :=
    spending_frame hn
  have Z : Frame (device cfg) (Budgeted cfg) (Alive cfg) (Spending cfg 0 b)
      _ _ := spending_frame (hn.mono (by omega))
  -- the guard's first feed clears the account, and no more is owed until it
  -- ends
  have hstart : Triple (device cfg) (Budgeted cfg) (Alive cfg)
      (Spending cfg n b) (watchdogGuardStart cfg.agnssBudgetSeconds)
      fun _ => Spending cfg 0 b :=
    (plain_keeps N (by rfl) (by simp)).bind fun _ => (feed_spends hn).bind
      fun _ => plain_keeps Z (by rfl) (by simp)
  refine hstart.bind fun _ => ?_
  refine (part Z (fetchAndInject_foot cfg) (by simp) (by simp)).bind
    fun err => ?_
  refine (part Z watchdogGuardStop_foot (by simp) (by simp)).bind fun _ => ?_
  refine Triple.ite (fun _ => ?_) fun _ => Triple.ret fun w h => h
  refine (part Z (gnssModemStart_foot cfg .assistance) (by simp)
    (by simp)).bind fun r => ?_
  exact Triple.ite (fun _ => Triple.ret fun w h => h)
    fun _ => Triple.ret fun w h => h

/-- An assistance fetch; where it returns 0 it has fed the watchdog. -/
theorem agnssFetchAndInject_owes {n : Nat}
    (hn : Affordable cfg (n + cfg.agnssBudgetSeconds * 1000)) :
    Triple (device cfg) (Budgeted cfg) (Alive cfg) (Owing cfg n)
      (agnssFetchAndInject cfg) fun r w =>
        Owing cfg (n + cfg.agnssBudgetSeconds * 1000) w ∧
          (r = 0 → Owing cfg (cfg.agnssBudgetSeconds * 1000) w) := by
  have N : Frame (device cfg) (Budgeted cfg) (Alive cfg) _ _ _ :=
    spending_frame hn
  have hrefused : ∀ r : Int, r ≠ 0 → Triple (device cfg) (Budgeted cfg)
      (Alive cfg) (Spending cfg n (cfg.agnssBudgetSeconds * 1000)) (pure r)
      fun r w => Spending cfg n (cfg.agnssBudgetSeconds * 1000) w ∧
        (r = 0 → Spending cfg 0 (cfg.agnssBudgetSeconds * 1000) w) :=
    fun r hr => Triple.ret fun w h => ⟨h, fun h0 => absurd h0 hr⟩
  have hfetch := (fetch_spends hn).post fun r w h =>
    (⟨h.mono (Nat.zero_le n), fun _ => h⟩ :
      Spending cfg n (cfg.agnssBudgetSeconds * 1000) w ∧
        (r = 0 → Spending cfg 0 (cfg.agnssBudgetSeconds * 1000) w))
  refine triple_scope (span_enters rfl (hn.mono (by omega)))
    (Triple.ite (fun _ => hrefused _ (by decide)) fun _ => ?_) fun r => ?_
  · refine (part N (rateLimited_foot cfg) (by simp) (by simp)).bind fun b =>
      Triple.ite (fun _ => hrefused _ (by decide)) fun _ =>
        Triple.ite (fun _ => ?_) fun _ => hfetch
    exact (part N gnssModemStop_foot (by simp) (by simp)).bind fun _ => hfetch
  · by_cases hr : r = 0
    · refine (span_leaves rfl (Code.code r) (hn.mono (by omega))).conseq
        (fun w h => h.2 hr) fun _ w h => ⟨h.mono (by omega), fun _ => ?_⟩
      exact h.mono (by omega)
    · exact (span_leaves rfl (Code.code r) hn).conseq (fun w h => h.1)
        fun _ w h => ⟨h, fun h0 => absurd h0 hr⟩

-- =========================================================== the other parts

theorem phase_costs (p : Phase) : Costs cfg 0 (watchdogPhase p) :=
  swift_costs (watchdogPhase_paced p) (watchdogPhase_foot p) (by simp)
    (by simp) (by simp) (by simp)

theorem gnssModemStart_costs (site : StartSite) :
    Costs cfg 0 (gnssModemStart cfg site) :=
  swift_costs (gnssModemStart_paced cfg site) (gnssModemStart_foot cfg site)
    (by simp) (by simp) (by simp) (by simp)

/-- A store costs nothing; the channel is not among what it may write. -/
theorem modify_costs {f : Statics → Statics}
    (hf : ∀ s, (f s).wdtChannel = s.wdtChannel) :
    Costs cfg 0 (Prog.modify f : P Unit) := fun n hn =>
  (owing_frame hn).keeps (Within.modify fun s => by simpa [Keep] using hf s)

/-- The registration costs its wait. -/
theorem lteEnsureConnected_costs :
    Costs cfg (cfg.lteConnectTimeoutSeconds * 1000)
      (lteEnsureConnected cfg) := by
  have hreg : Costs cfg 0 lteIsRegistered :=
    swift_costs lteIsRegistered_paced lteIsRegistered_foot (by simp) (by simp)
      (by simp) (by simp)
  refine scope_costs rfl (fun _ => rfl) (by simp) (hreg.then fun b =>
    Costs.ite (Costs.ret _) ?_)
  refine Costs.then (swift_op rfl (by simp)) fun _ =>
    Costs.then (swift_op rfl (by simp)) fun err =>
    Costs.ite (Costs.ret _) ?_
  refine (semTake_costs _ _).last fun r => ?_
  exact Costs.ite (Costs.ret _) (Costs.ret _)

/-- Recovery costs the second the modem is off for. -/
theorem recoverIfSilent_costs : Costs cfg 1000 (recoverIfSilent cfg) := by
  refine scope_costs rfl (fun _ => rfl) (by simp) (Costs.get fun s =>
    Costs.then (swift_op rfl (by simp)) fun now => Costs.ite ?_ (Costs.ite ?_
      (Costs.ite (Costs.ret _) ?_)))
  · refine Costs.mono (modify_costs ?_) (by omega)
    exact fun _ => rfl
  · refine Costs.then (phase_costs _) fun _ => ?_
    refine Costs.mono ((kSleep_costs 200).last fun _ => ?_) (by omega)
    exact Costs.then (swift_op rfl (by simp)) fun _ => Costs.halt
  · refine Costs.then (modify_costs ?_) fun _ =>
      Costs.then (swift_op rfl (by simp)) fun _ =>
      (kSleep_costs 1000).last fun _ => ?_
    · exact fun _ => rfl
    · exact Costs.then (swift_op rfl (by simp)) fun _ => Costs.ret _

/-- The module costs its warm-up. -/
theorem gnssExtStart_costs :
    Costs cfg cfg.gnssExtWarmupMs (gnssExtStart cfg) := by
  have hpower : ∀ on, Costs cfg 0 (powerSet on) := fun on => by
    have hp : Paced [.other] (powerSet on) := by simp [powerSet]
    have hf : Foot [.pin] [.powered] (powerSet on) := by
      simp [powerSet, Var.forall]
    exact swift_costs hp hf (by simp) (by simp) (by simp) (by simp)
  have hopen : Costs cfg 0 gnssExtOpen := by
    have hp : Paced [.other] gnssExtOpen := by simp [gnssExtOpen, powerSet]
    have hf : Foot [.plain, .pin, .pm] [.powered] gnssExtOpen := by
      simp [gnssExtOpen, powerSet, Var.forall]
    exact swift_costs hp hf (by simp) (by simp) (by simp) (by simp)
  refine scope_costs rfl (fun _ => rfl) (by simp) (Costs.get fun s =>
    Costs.ite ?_ (hopen.mono (by omega)))
  exact (hpower true).then fun _ => Costs.get fun s =>
    Costs.ite (Costs.ret _) ((kSleep_costs _).last fun _ => hopen)

/-- And the start of either receiver no more than that. -/
theorem gnssStart_costs : Costs cfg cfg.gnssExtWarmupMs (gnssStart cfg) := by
  have hmodem : Costs cfg 0 (gnssStartModem cfg) := by
    refine Costs.then (modify_costs ?_) fun _ => gnssModemStart_costs _
    exact fun _ => rfl
  refine scope_costs rfl (fun _ => rfl) (by simp) (Costs.get fun s =>
    Costs.ite (Costs.then (modify_costs ?_) fun _ => ?_)
      (hmodem.mono (by omega)))
  · exact fun _ => rfl
  · exact gnssExtStart_costs.last fun r => Costs.ite (Costs.ret _) hmodem

/-- A wait for a fix costs its timeout. -/
theorem gnssWaitFix_costs (t : Nat) :
    Costs cfg (t * 1000) (gnssWaitFix cfg t) := by
  have hext : Costs cfg (t * 1000) (gnssExtWaitFix t) := by
    refine Costs.then (swift_op rfl (by simp)) fun _ =>
      (semTake_costs _ _).last fun r => Costs.ite (Costs.ret _) ?_
    exact Costs.then (swift_op rfl (by simp)) fun _ => Costs.ret _
  have hmodem : Costs cfg (t * 1000) (gnssModemWaitFix t) := by
    refine Costs.then (swift_op rfl (by simp)) fun _ =>
      (semTake_costs _ _).last fun r => Costs.ite (Costs.ret _) ?_
    exact Costs.then (swift_op rfl (by simp)) fun _ => Costs.ret _
  exact scope_costs rfl (fun _ => rfl) (by simp) (Costs.get fun s =>
    Costs.ite hext hmodem)

/-- At the default timings that is two minutes at most. -/
theorem fixWait_owes {n : Nat} (hn : Affordable cfg (n + 120000))
    (t : Nat) :
    Triple (device cfg) (Budgeted cfg) (Alive cfg)
      (fun w => Owing cfg n w ∧ t ≤ 120) (gnssWaitFix cfg t)
      fun _ => Owing cfg (n + 120000) := by
  intro w h
  obtain ⟨howing, ht⟩ := h
  exact (gnssWaitFix_costs t).mono (by omega) n hn w howing

/-- The wait for the modem's request costs its own. -/
theorem gnssAgnssRequestWait_costs (t : Nat) :
    Costs cfg (t * 1000) (gnssAgnssRequestWait t) := by
  refine Costs.get fun s => Costs.ite (Costs.ret _)
    ((semTake_costs _ _).last fun r => ?_)
  exact Costs.ite (Costs.ret _) (Costs.ret _)

/-- `wake_wait` costs its seconds. -/
theorem wakeWait_costs (seconds : Nat) :
    Costs cfg (seconds * 1000) (wakeWait seconds) := by
  refine scope_costs rfl (fun _ => rfl) (by simp)
    (Costs.then (swift_op rfl (by simp)) fun _ =>
      Costs.then (swift_op rfl (by simp)) fun _ =>
      (semTake_costs _ _).last fun r => Costs.ite (Costs.ret _) ?_)
  exact swift_op rfl (by simp)

/-- A battery sleep does not feed: it costs all of them. -/
theorem batterySleep_costs (site : SleepSite) :
    Costs cfg (cfg.sleepSeconds * 1000) (batterySleep cfg site) := by
  have hwait : Costs cfg (cfg.sleepSeconds * 1000) (do
        watchdogPhase .sleep
        wakeWait cfg.sleepSeconds : P WakeReason) :=
    (phase_costs _).then fun _ => wakeWait_costs _
  have hled : Costs cfg 0 (statusLedSleep cfg) :=
    swift_costs (statusLedSleep_paced cfg) (statusLedSleep_foot cfg) (by simp)
      (by simp) (by simp) (by simp)
  have harm : ∀ arm, Costs cfg 0 (motionSetArmed cfg arm) := fun arm =>
    swift_costs (motionSetArmed_paced cfg arm) (motionSetArmed_foot cfg arm)
      (by simp) (by simp) (by simp) (by simp)
  refine scope_costs rfl (fun _ => rfl) (by simp) (Costs.get fun s =>
    (phase_costs _).then fun _ => hled.then fun _ => (phase_costs _).then
    fun _ => (harm _).then fun _ => Costs.ite ?_ hwait)
  refine Costs.then (modify_costs ?_) fun _ => hwait
  exact fun _ => rfl

theorem agnssWanted_costs : Costs cfg 0 (agnssWanted cfg) :=
  fun _ _ => agnssWanted_modem.post fun _ _ h => h.1

-- ==================================================================== main.c

section

variable (hcfg : cfg.DefaultTimings)
include hcfg

/-- Starting the guard feeds first, so that nothing is owed. -/
theorem guardStart_clears {n : Nat} (hn : n < 810000) (budgetS : Nat) :
    Runs cfg n (watchdogGuardStart budgetS) 0 := by
  have N : Frame (device cfg) (Budgeted cfg) (Alive cfg) _ _ _ :=
    owing_frame (hcfg.affords hn)
  have Z : Frame (device cfg) (Budgeted cfg) (Alive cfg) (Owing cfg 0) _ _ :=
    owing_frame (hcfg.affords (by omega))
  refine (N.keeps (Within.op ⟨⟨by simp, by simp⟩, by simp [Off]⟩)).bind
    fun _ => ?_
  refine (feed_clears (hcfg.affords hn)).bind fun _ => ?_
  exact Z.keeps (Within.op ⟨⟨by simp, by simp⟩, by simp [Off]⟩)

/-- And so does stopping it. -/
theorem guardStop_clears {n : Nat} (hn : n < 810000) :
    Runs cfg n watchdogGuardStop 0 := by
  have N : Frame (device cfg) (Budgeted cfg) (Alive cfg) _ _ _ :=
    owing_frame (hcfg.affords hn)
  refine (N.keeps (Within.op ⟨⟨by simp, by simp⟩, by simp [Off]⟩)).bind
    fun _ => ?_
  exact feed_clears (hcfg.affords hn)

/-- Under the guard the link may add its budget. -/
theorem cloudResume_owes {n : Nat} (hn : n + 240000 < 810000) :
    Runs cfg n (cloudResume cfg) (n + 240000) := by
  have h := @cloudResume_costs cfg
  rw [hcfg.connect] at h
  exact h n (hcfg.affords hn)

/-- Two sends at most, and the link between them: what is left is one
send. -/
theorem sendReport_owes {n : Nat} (hn : n + sendMs < 810000) (payload : Text) :
    Runs cfg n (sendReport cfg payload) (n + sendMs) := by
  refine (firstSend_costs payload n (hcfg.affords hn)).bind fun err =>
    Triple.ite (fun _ => ?_) fun _ => Triple.ret fun w h => h
  refine (guardStart_clears hcfg hn _).bind fun _ =>
    (cloudResume_owes hcfg (by omega)).bind fun err =>
    (guardStop_clears hcfg (by omega)).bind fun _ =>
    Triple.ite (fun _ => ?_) fun _ => Triple.ret fun w h => h.mono (by omega)
  refine (retrySend_costs payload 0 (hcfg.affords (by omega))).post
    fun _ w h => h.mono (by omega)

/-- A delivery feeds at its end. -/
theorem deliver_clears {n : Nat} (hn : n + 2 * sendMs < 810000)
    (fix : Option TrackerFix) (payload : Text) :
    Runs cfg n (deliver cfg fix payload) 0 := by
  have htail : ∀ (m : Nat) (err : Int), m < 810000 → Runs cfg m (do
      watchdogFeed
      pure err : P Int) 0 := fun m err hm =>
    (feed_clears (hcfg.affords hm)).bind fun _ => Triple.ret fun w h => h
  refine (sendReport_owes hcfg (by omega) payload).bind fun err =>
    Triple.ite (fun _ => ?_) fun _ => htail _ err (by omega)
  refine ((swift_op rfl (by simp) : Costs cfg 0 (call .kUptimeGet)) _
    (hcfg.affords (by omega))).bind fun now => ?_
  refine Triple.bind (R := fun _ => Owing cfg (n + sendMs))
    (modify_costs ?_ _ (hcfg.affords (by omega))) fun _ => ?_
  · exact fun _ => rfl
  cases fix with
  | none => exact htail _ err (by omega)
  | some fix =>
      exact (cloudSendLocation_costs fix _ (hcfg.affords (by omega))).bind
        fun _ => htail _ err (by omega)

/-- A report clears the account, or takes no time. -/
theorem reportFix_owes {n : Nat} (hn : n + 2 * sendMs < 810000)
    (fix : Option TrackerFix) (u : Nat) (wr : WakeReason) :
    Runs cfg n (reportFix cfg fix u wr) n := by
  have hn' : Affordable cfg n := hcfg.affords (by omega)
  have hop : ∀ o : Op, kind o = .other → group o ∉ windowMarks →
      Runs cfg n (call o) n := fun o hk hg => swift_op hk hg n hn'
  have hpower : Runs cfg n powerRead n :=
    swift_costs powerRead_paced powerRead_foot (by simp) (by simp) (by simp)
      (by simp) n hn'
  refine triple_scope (hop _ rfl (by simp)) ((hop _ rfl (by simp)).bind
    fun now => hpower.bind fun power => (hop _ rfl (by simp)).bind fun rsrp =>
    (phase_costs .report n hn').bind fun _ => Triple.get fun s => ?_)
    fun r => hop _ rfl (by simp)
  generalize telemetryBuildJson _ _ _ _ = built
  cases built with
  | error err => exact Triple.ret fun w h => h.1
  | ok payload =>
      exact ((deliver_clears hcfg hn fix payload).conseq (fun w h => h.1)
        fun _ w h => h.mono (by omega))

/-- A report comes out even; where none is made, nothing is owed more. -/
theorem reportOrSkip_owes {n : Nat} (hn : n + 2 * sendMs < 810000)
    (fix : Option TrackerFix) (u : Nat) (wr : WakeReason) :
    Runs cfg n (reportOrSkip cfg fix u wr) n := by
  have hled : ∀ b, Runs cfg n (statusLedReport cfg b) n := fun b =>
    swift_costs (statusLedReport_paced cfg b) (statusLedReport_foot cfg b)
      (by simp) (by simp) (by simp) (by simp) n (hcfg.affords (by omega))
  cases fix with
  | some fix =>
      exact (reportFix_owes hcfg hn (some fix) u wr).bind fun _ => hled true
  | none =>
      refine Triple.ite (fun _ => ?_) fun _ => hled false
      exact (reportFix_owes hcfg hn none u wr).bind fun _ => hled false

-- ============================================================== acquisition

/-- An assistance fetch at the default budget. -/
theorem fetch_costs : Costs cfg 180000 (agnssFetchAndInject cfg) := by
  intro n hn
  have h := @agnssFetchAndInject_owes cfg n
  rw [hcfg.fetch] at h
  exact (h hn).post fun _ _ h => h.1

/-- With the wait for the request before it. -/
theorem assistIfAsked_costs {mark : P Unit} (hm : Costs cfg 0 mark) :
    Costs cfg 185000 (assistIfAsked cfg mark) := by
  have hwait := @gnssAgnssRequestWait_costs cfg cfg.agnssProactiveWaitSeconds
  have hfetch : Costs cfg 180000 (do
      mark
      pure (some ((← agnssFetchAndInject cfg) == 0)) : P (Option Bool)) :=
    hm.then fun _ => (fetch_costs hcfg).last fun r => Costs.ret _
  refine agnssWanted_costs.then fun b => Costs.ite (Costs.ret _) ?_
  have hproactive := hcfg.proactive
  exact Costs.mono (hwait.bind fun r => Costs.ite (Costs.ret _) hfetch)
    (by omega)

/-- No wait for a fix is longer than the modem's. -/
theorem fixTimeout_owes {n : Nat} :
    Triple (device cfg) (Budgeted cfg) (Alive cfg) (Owing cfg n)
      (gnssFixTimeoutSeconds cfg) fun t w => Owing cfg n w ∧ t ≤ 120 := by
  have hext := hcfg.extFix
  have hfix := hcfg.fix
  exact Triple.get fun s => Triple.ite
    (fun _ => Triple.ret fun w h => ⟨h.1, by omega⟩)
    fun _ => Triple.ret fun w h => ⟨h.1, by omega⟩

/-- The second receiver: assistance again, and the wait. -/
theorem acquireFallback_costs (assisted : Bool) :
    Costs cfg 305000 (acquireFallback cfg assisted) := by
  have hfallback : Costs cfg 0 (gnssFallback cfg) :=
    swift_costs (gnssFallback_paced cfg) (gnssFallback_foot cfg) (by simp)
      (by simp) (by simp) (by simp)
  have hwait : ∀ asked : Option Bool, Costs cfg 120000 (do
      let fix ← gnssWaitFix cfg (← gnssFixTimeoutSeconds cfg)
      pure (fix.toOption, asked.getD assisted) :
        P (Option TrackerFix × Bool)) := by
    intro asked n hn
    exact (fixTimeout_owes hcfg).bind fun t => (fixWait_owes hn t).bind
      fun fix => Triple.ret fun w h => h
  exact hfallback.then fun r => Costs.ite (Costs.ret _)
    ((assistIfAsked_costs hcfg (Costs.ret ())).bind hwait)

/-- The last resort: either the fetch fails, or it has fed the watchdog
before the wait. -/
theorem acquireAssisted_owes {n : Nat} (hn : 90000 ≤ n)
    (ha : n + 180000 < 810000) :
    Runs cfg n (acquireAssisted cfg) (n + 180000) := by
  have hfetch := @agnssFetchAndInject_owes cfg n
  have hwait := @gnssWaitFix_costs cfg cfg.agnssFixTimeoutSeconds
  rw [hcfg.fetch] at hfetch
  rw [hcfg.assistedFix] at hwait
  refine (hfetch (hcfg.affords ha)).bind fun r => Triple.ite
    (fun _ => Triple.ret fun w h => h.1) fun hr => ?_
  rw [hcfg.assistedFix]
  refine Triple.pre (P := Owing cfg 180000) ?_
    fun w h => h.2 (Decidable.not_not.mp hr)
  refine (hwait 180000 (hcfg.affords (by omega))).bind fun fix =>
    Triple.ret fun w h => h.mono (by omega)

/-- The longest way without a feed: both receivers with their assistance, and
the last resort. The guard of the last fetch feeds, but the bound does not
need it to. -/
theorem acquire_owes :
    Runs cfg 500 (acquire cfg) 790500 := by
  have havailable : Costs cfg 0 (gnssFallbackAvailable cfg) :=
    Costs.get fun s => Costs.ret _
  refine acquire_ladder (fun _ => Owing cfg 305500)
    (fun _ => Owing cfg 610500)
    (assistIfAsked_costs hcfg (phase_costs _) 500 (hcfg.affords (by omega)))
    (phase_costs .fix _ (hcfg.affords (by omega))) (fixTimeout_owes hcfg)
    (fixWait_owes (hcfg.affords (by omega)))
    (havailable _ (hcfg.affords (by omega)))
    (fun assisted => acquireFallback_costs hcfg assisted _
      (hcfg.affords (by omega)))
    (fun _ _ h => h.mono (by omega)) ?_ fun _ _ h => h.mono (by omega)
  refine (agnssWanted_costs _ (hcfg.affords (by omega))).bind fun b =>
    Triple.ite (fun _ => ?_) fun _ => Triple.ret fun w h => h.mono (by omega)
  exact acquireAssisted_owes hcfg (by omega) (by omega)

-- ================================================================= reporting

/-- Settling: five seconds and the short wait. -/
theorem settleFix_owes (fix : TrackerFix) :
    Runs cfg 0 (settleFix cfg fix) 10000 := by
  have hextra := hcfg.extraFix
  refine Triple.ite (fun _ => ?_)
    fun _ => Triple.ret fun w h => h.mono (by omega)
  refine Triple.bind (R := fun _ => Owing cfg 5000) ?_ fun _ => ?_
  · exact ((kSleep_costs _) 0 (hcfg.affords (by omega))).post fun _ _ h =>
      h.mono (by omega)
  · exact (gnssWaitFix_costs 5 5000 (hcfg.affords (by omega))).bind
      fun better => Triple.ret fun w h => h

/-- A report with a fix leaves the ten seconds of its settling owed. -/
theorem firstReport_owes (fix : Option TrackerFix) (u : Nat)
    (wr : WakeReason) : Runs cfg 790500 (firstReport cfg fix u wr) 10000 := by
  have hsends : 10000 + 2 * sendMs < 810000 := by decide
  have hlast : Runs cfg 10000 watchdogFeed 10000 :=
    (feed_clears (hcfg.affords (by omega))).post fun _ _ h => h.mono (by omega)
  refine (feed_clears (hcfg.affords (by omega))).bind fun _ => ?_
  cases fix with
  | some fix =>
      exact (settleFix_owes hcfg fix).bind fun fix =>
        (reportOrSkip_owes hcfg hsends (some fix) u wr).bind fun _ => hlast
  | none =>
      exact ((reportOrSkip_owes hcfg hsends none u wr).pre
        fun _ h => h.mono (by omega)).bind fun _ => hlast

/-- A pass feeds after its nap, so that ten seconds stay owed, pass after
pass. -/
theorem frequentPass_owes (u : Nat) (wr : WakeReason) :
    Runs cfg 10000 (frequentPass cfg u wr) 10000 := by
  have hsends : 10000 + 2 * sendMs < 810000 := by decide
  have hcharging := hcfg.charging
  have hhold : Costs cfg 0 (holdOffMotion cfg) :=
    swift_costs (holdOffMotion_paced cfg) (holdOffMotion_foot cfg) (by simp)
      (by simp) (by simp) (by simp)
  refine (phase_costs .frequent _ (hcfg.affords (by omega))).bind fun _ =>
    (hhold _ (hcfg.affords (by omega))).bind fun _ => ?_
  refine (kSleep_costs _ _ (hcfg.affords (by omega))).bind fun _ =>
    (feed_clears (hcfg.affords (by omega))).bind fun _ => ?_
  exact (gnssWaitFix_costs 10 0 (hcfg.affords (by omega))).bind fun fix =>
    reportOrSkip_owes hcfg hsends _ u wr

/-- The network owes recovery and registration. -/
theorem bringUpNetwork_owes : Runs cfg 0 (bringUpNetwork cfg) 121000 := by
  have hlte := hcfg.lte
  refine Triple.ite (fun _ => Triple.ret fun w h => h.mono (by omega))
    fun _ => ?_
  refine (recoverIfSilent_costs 0 (hcfg.affords (by omega))).bind fun _ =>
    (phase_costs .lte _ (hcfg.affords (by omega))).bind fun _ =>
    (lteEnsureConnected_costs _ (hcfg.affords (by omega))).bind fun r => ?_
  exact Triple.ret fun w h => h.mono (by omega)

end

-- =================================================================== set-up

/-- The watchdog is not started yet. -/
structure Unwatched (cfg : Config) (w : Tracker) : Prop where
  record : Alive cfg w
  unstarted : lastKick w.log = none
  closed : span cfg w.log = none

/-- Nothing is owed to it. -/
theorem Unwatched.owing {w : Tracker} (h : Unwatched cfg w) (n : Nat) :
    Owing cfg n w := by
  refine ⟨h.record, fun hk => ?_, h.closed, fun t ht => ?_⟩
  · rw [h.unstarted] at hk
    cases hk
  · rw [h.unstarted] at ht
    cases ht

/-- Before the watchdog is started nothing can be late. -/
theorem Unwatched.called {w : Tracker} (h : Unwatched cfg w) {o : Op}
    (r : o.Ret) (hs : spanWord cfg (.call w.st w.dev o r) = none)
    (hk : kicks (.call w.st w.dev o r) = false) :
    Unwatched cfg (w.called (device cfg) o r) := by
  refine ⟨⟨fun t ht => ?_, h.record⟩,
    (lastKick_idle hk w.log).trans h.unstarted,
    (latest_none hs).trans h.closed⟩
  rw [h.unstarted] at ht
  cases ht

/-- What neither starts the watchdog nor feeds it. -/
theorem unwatched_frame :
    Frame (device cfg) (Budgeted cfg) (Alive cfg) (Unwatched cfg)
      (fun o => ∃ f, o = .lib f ∧ f ≠ .wdtSetup) (fun _ _ => True) where
  stable := fun w a h _ _ =>
    ⟨⟨trivial, h.record⟩, (lastKick_moved ..).trans h.unstarted,
      (latest_none rfl).trans h.closed⟩
  calls := fun w o r ho h _ _ => by
    obtain ⟨f, rfl, hf⟩ := ho
    refine h.called (o := .lib f) r rfl ?_
    cases f <;> first | rfl | exact absurd rfl hf
  writes := fun w f _ h => ⟨h.record, h.unstarted, h.closed⟩
  gives := fun w h => h.record

/-- `wdt_setup` starts it or does not; the channel is known either way. -/
theorem wdtSetup_owes (channel : Int) :
    Triple (device cfg) (Budgeted cfg) (Alive cfg)
      (fun w => Unwatched cfg w ∧ w.st.wdtChannel = channel)
      (call (.lib .wdtSetup)) fun r w =>
        Owing cfg 0 w ∧ (r ≠ 0 → Unwatched cfg w) := by
  refine Triple.op (unwatched_frame.stable.and
    (Stable.static fun s : Statics => s.wdtChannel = channel))
    fun w r h _ _ => ?_
  obtain ⟨h, hch⟩ := h
  have halive : Alive cfg (w.called (device cfg) (.lib .wdtSetup) r) := by
    refine ⟨fun t ht => ?_, h.record⟩
    rw [h.unstarted] at ht
    cases ht
  cases hk : kicks (.call w.st w.dev (.lib .wdtSetup) r) with
  | true =>
      refine ⟨halive, ⟨halive, fun _ => kicks_running hk,
        (latest_none rfl).trans h.closed, fun t ht => ?_⟩, fun hr => ?_⟩
      · have hnow : w.dev.now = t :=
          Option.some.inj ((lastKick_kick hk w.log).symm.trans ht)
        show w.dev.now ≤ _
        omega
      · exact absurd (eq_of_beq (Bool.and_eq_true_iff.mp hk).1) hr
  | false =>
      have h' := h.called (o := .lib .wdtSetup) r rfl hk
      exact ⟨halive, h'.owing 0, fun _ => h'⟩

/-- After `watchdog_init` nothing is owed. -/
theorem watchdogInit_owes :
    Triple (device cfg) (Budgeted cfg) (Alive cfg) (Unwatched cfg)
      watchdogInit fun _ => Owing cfg 0 := by
  have F : Frame (device cfg) (Budgeted cfg) (Alive cfg) _ _ _ :=
    unwatched_frame
  have hlib : ∀ f, f ≠ .wdtSetup → Triple (device cfg) (Budgeted cfg)
      (Alive cfg) (Unwatched cfg) (call (.lib f)) fun _ => Unwatched cfg :=
    fun f hf => F.keeps (Within.op ⟨f, rfl, hf⟩)
  have hinit : Triple (device cfg) (Budgeted cfg) (Alive cfg) (Unwatched cfg)
      phaseInit fun _ => Unwatched cfg :=
    F.keeps (Within.mono phaseInit_foot (fun o ho => nomatch ho)
      fun _ _ _ => trivial)
  refine hinit.bind fun _ => (hlib _ (by decide)).bind fun err => Triple.ite
    (fun _ => Triple.ret fun w h => h.owing 0) fun _ => ?_
  refine (hlib _ (by decide)).bind fun channel => ?_
  refine Triple.bind (R := fun _ w => Unwatched cfg w ∧
    w.st.wdtChannel = channel) (Triple.modify fun w h =>
      ⟨h.record, ⟨h.record, h.unstarted, h.closed⟩, rfl⟩) fun _ => ?_
  refine Triple.ite (fun _ => Triple.ret fun w h => h.1.owing 0) fun _ => ?_
  refine (wdtSetup_owes channel).bind fun err => Triple.ite (fun herr => ?_)
    fun _ => Triple.ret fun w h => h.1
  refine Triple.bind (R := fun _ => Unwatched cfg)
    (Triple.modify fun w h => ?_) fun _ => Triple.ret fun w h => h.owing 0
  have h' := h.2 herr
  exact ⟨h'.record, h'.record, h'.unstarted, h'.closed⟩

/-- Nor after the rest of the set-up, which takes no time. -/
theorem setUp_owes (hcfg : cfg.DefaultTimings) :
    Triple (device cfg) (Budgeted cfg) (Alive cfg) (Unwatched cfg) (setUp cfg)
      fun _ => Owing cfg 0 := by
  have F : Frame (device cfg) (Budgeted cfg) (Alive cfg) _ _ _ :=
    unwatched_frame
  -- the watchdog runs from `watchdog_init` on; before it nothing can expire
  have hz : Affordable cfg 0 := hcfg.affords (by omega)
  have hradio : Costs cfg 0 (radioInit cfg) := by
    have hp : Paced [.other] (radioInit cfg) := by simp [radioInit]
    exact swift_costs hp (radioInit_foot cfg) (by simp) (by simp) (by simp)
      (by simp)
  refine (F.keeps (Within.op ⟨.nrfModemLibInit, rfl, by decide⟩)).bind
    fun err => Triple.ite (fun _ => Triple.ret fun w h => h.owing 0)
      fun _ => ?_
  refine watchdogInit_owes.bind fun _ =>
    ((swift_op rfl (by simp) : Costs cfg 0 (call (.lib .modemInfoInit))) 0
      hz).bind fun _ => ?_
  refine (swift_costs powerInit_paced powerInit_foot (by simp) (by simp)
    (by simp) (by simp) 0 hz).bind fun _ => ?_
  refine (swift_costs (motionInit_paced cfg) (motionInit_foot cfg) (by simp)
    (by simp) (by simp) (by simp) 0 hz).bind fun _ => ?_
  refine (swift_costs (statusLedInit_paced cfg) (statusLedInit_foot cfg)
    (by simp) (by simp) (by simp) (by simp) 0 hz).bind fun _ => ?_
  refine (swift_costs (gnssInit_paced cfg) (gnssInit_foot cfg) (by simp)
    (by simp) (by simp) (by simp) 0 hz).bind fun r =>
    Triple.ite (fun _ => Triple.ret fun w h => h) fun _ => ?_
  refine (hradio 0 hz).bind fun r =>
    Triple.ite (fun _ => Triple.ret fun w h => h) fun _ => ?_
  refine (swift_costs (cloudInit_paced cfg) (cloudInit_foot cfg) (by simp)
    (by simp) (by simp) (by simp) 0 hz).bind fun _ => ?_
  exact (swift_costs (statusLedReport_paced cfg false)
    (statusLedReport_foot cfg false) (by simp) (by simp) (by simp) (by simp)
    0 hz).bind fun _ => Triple.ret fun w h => h

-- =================================================================== main

/-- What is owed at each place. The sleep at the end of a cycle that found
no network takes the most past the top of the next, and an acquisition with
both receivers the most of all. -/
def owedAt : Place → Nat
  | .boot => 0
  | .top _ => 661000
  | .during _ _ .woken => 0
  | .during _ _ .awake => 121000
  | .during _ _ .guarded => 0
  | .during _ _ .resumed => 240000
  | .during _ _ .on => 0
  | .during _ _ .run => 500
  | .during _ _ (.ready _) => 790500
  | .during _ _ .told => 10000
  | .during _ _ .pass => 10000
  | .during _ _ .done => 10000
  | .cut => 121000
  | .off _ => 10000
  | .bed _ => 121000

abbrev marginAt (cfg : Config) : Place → Tracker → Prop
  | .boot => Unwatched cfg
  | pl => Owing cfg (owedAt pl)

/-- Every place affords what is owed there. -/
theorem owedAt_affords (hcfg : cfg.DefaultTimings) (pl : Place) :
    Affordable cfg (owedAt pl) := by
  refine hcfg.affords ?_
  cases pl with
  | during u wr st => cases st <;> simp [owedAt]
  | _ => simp [owedAt]

/-- The top of a cycle feeds, whatever the sleep has left owed. -/
theorem topOfCycle_owes (hcfg : cfg.DefaultTimings) (wr : WakeReason) :
    Runs cfg 661000 (topOfCycle wr) 0 := by
  have h661 : Affordable cfg 661000 := hcfg.affords (by omega)
  have henter : Runs cfg 661000 (call (.enter (.cycle wr))) 661000 :=
    swift_op rfl (by simp) _ h661
  have hread : Runs cfg 661000 (call .kUptimeGet) 661000 :=
    swift_op rfl (by simp) _ h661
  have hlast : ∀ now : Int, Runs cfg 661000 (do
      watchdogPhase .wake
      watchdogFeed
      pure (u32 now) : P Nat) 0 := fun now =>
    (phase_costs .wake _ h661).bind fun _ => (feed_clears h661).bind
      fun _ => Triple.ret fun w h => h
  refine henter.bind fun _ => hread.bind fun now => Triple.ite (fun _ => ?_)
    fun _ => hlast now
  refine Triple.bind (R := fun _ => Owing cfg 661000)
    (modify_costs ?_ _ h661) fun _ => hlast now
  exact fun _ => rfl

/-- What is owed along `main`, function by function. -/
theorem margin_walk (hcfg : cfg.DefaultTimings) :
    Walk cfg (Budgeted cfg) (Alive cfg) (marginAt cfg) where
  gives := fun _ h => h.record
  phase pl p := by
    -- setting a phase takes no time
    cases pl with
    | boot =>
        exact Triple.modify fun w h =>
          ⟨h.record, h.record, h.unstarted, h.closed⟩
    | _ => exact phase_costs p _ (owedAt_affords hcfg _)
  setUp := (setUp_owes hcfg).post fun _ _ h _ => h.mono (by decide)
  topOfCycle wr := topOfCycle_owes hcfg wr
  network u wr := (bringUpNetwork_owes hcfg).post fun _ _ h => by
    split <;> exact h
  ledCut := swift_costs (statusLedSet_paced cfg _) (statusLedSet_foot cfg _)
    (by simp) (by simp) (by simp) (by simp) _ (owedAt_affords hcfg .cut)
  guardStart _ _ := @guardStart_clears cfg hcfg 121000 (by omega) _
  resume _ _ := by
    have h := @cloudResume_owes cfg hcfg 0 (by omega)
    exact h.post fun _ _ h => h.mono (by simp [owedAt])
  guardStop _ _ := @guardStop_clears cfg hcfg 240000 (by omega)
  ledOn u wr := swift_costs (statusLedReport_paced cfg _)
    (statusLedReport_foot cfg _) (by simp) (by simp) (by simp) (by simp) _
    (owedAt_affords hcfg (.during u wr .on))
  start u wr := by
    have hwarmup := hcfg.warmup
    have h := @gnssStart_costs cfg 0 (hcfg.affords (by omega))
    refine h.post fun r w h => ?_
    split
    · exact h.mono (by simp only [owedAt]; omega)
    · exact h.mono (by simp only [owedAt]; omega)
  acquire _ _ := acquire_owes hcfg
  firstReport u wr fix := firstReport_owes hcfg fix u wr
  keepIf u wr := (swift_costs (keepReporting_paced cfg _ _)
    (keepReporting_foot cfg _ _) (by simp) (by simp) (by simp) (by simp) _
    (owedAt_affords hcfg (.during u wr .told))).post fun _ _ h => by
      split <;> exact h
  logLine u wr := swift_costs (powerVbusPresent_paced _)
    (powerVbusPresent_foot _) (by simp) (by simp) (by simp) (by simp) _
    (owedAt_affords hcfg (.during u wr .told))
  keepWhile u wr := (swift_costs (keepReporting_paced cfg _ _)
    (keepReporting_foot cfg _ _) (by simp) (by simp) (by simp) (by simp) _
    (owedAt_affords hcfg (.during u wr .told))).post fun _ _ h => by
      split <;> exact h
  frequentPass u wr := frequentPass_owes hcfg u wr
  stop u wr := swift_costs (gnssStop_paced cfg) (gnssStop_foot cfg) (by simp)
    (by simp) (by simp) (by simp) _ (owedAt_affords hcfg (.during u wr .done))
  pause site := (swift_costs (cloudPause_paced cfg) (cloudPause_foot cfg)
    (by simp) (by simp) (by simp) (by simp) _
    (owedAt_affords hcfg (.off site))).post fun _ _ h =>
      h.mono (by simp [owedAt])
  sleep site := by
    have hsleep := hcfg.sleep
    have h := @batterySleep_costs cfg site 121000 (hcfg.affords (by omega))
    exact h.post fun _ _ h => h.mono (by simp only [owedAt]; omega)

-- ================================================================ the record

/-- The record is in the order of time. -/
structure InOrder (w : Tracker) : Prop where
  ordered : Always (fun e l => ∀ e' ∈ l, e'.dev.now ≤ e.dev.now) w.log
  chrono : Chrono w

/-- The last thing on record, if any, is a call. -/
def EndsInCall : Trace → Prop
  | .env .. :: _ => False
  | _ => True

/-- Own moves keep the log in order. -/
theorem InOrder.moves {w w' : Tracker} (h : InOrder w)
    (hm : Moves (device cfg) w w') : InOrder w' := by
  induction hm with
  | refl => exact h
  | step a _ _ ih => exact ⟨⟨ih.chrono, ih.ordered⟩, ih.chrono.moved a⟩

/-- Every run is recorded in the order of time, up to a call. -/
theorem reach_dated {p : P α} {w : Tracker} (hw : w.log = [])
    {c : P α × Tracker} (hr : Reach (device cfg) p w c) :
    InOrder c.2 ∧ EndsInCall c.2.log := by
  induction hr with
  | init =>
      refine ⟨⟨?_, ?_⟩, ?_⟩
      · show Always _ w.log
        rw [hw]
        trivial
      · show ∀ e ∈ w.log, e.dev.now ≤ w.dev.now
        rw [hw]
        exact fun e he => absurd he List.not_mem_nil
      · show EndsInCall w.log
        rw [hw]
        trivial
  | step _ hs ih =>
      cases hs with
      | read => exact ih
      | write => exact ⟨⟨ih.1.ordered, ih.1.chrono⟩, ih.2⟩
      | call r hm _ =>
          have hd := ih.1.moves hm
          exact ⟨⟨⟨hd.chrono, hd.ordered⟩, hd.chrono.called _ r⟩, trivial⟩

/-- A kick is a feed on record, or the start. -/
theorem kicks_feeds {e : Ev} (h : kicks e = true) : feeds e = true := by
  cases e with
  | env s d a => cases h
  | call s d o r =>
      cases o with
      | wdtFeed => rfl
      | lib f => exact Bool.or_eq_true_iff.mpr (.inr h)
      | _ => cases h

/-- A start is a kick. -/
theorem kicks_starts {e : Ev} (h : starts e = true) : kicks e = true := by
  cases e with
  | env s d a => cases h
  | call s d o r =>
      cases o with
      | wdtFeed => cases h
      | _ => exact h

/-- The last kick is a feed on record. -/
theorem lastKick_mem {l : Trace} {t : Nat} (h : lastKick l = some t) :
    ∃ e ∈ l, feeds e = true ∧ e.dev.now = t := by
  induction l with
  | nil => cases h
  | cons e l ih =>
      cases hk : kicks e with
      | true =>
          rw [lastKick_kick hk] at h
          exact ⟨e, List.mem_cons_self, kicks_feeds hk, Option.some.inj h⟩
      | false =>
          rw [lastKick_idle hk] at h
          obtain ⟨e', he', hfed⟩ := ih h
          exact ⟨e', List.mem_cons_of_mem _ he', hfed⟩

/-- A watchdog that was started was kicked then. -/
theorem lastKick_started {l : Trace} (h : l.any starts = true) :
    ∃ t, lastKick l = some t := by
  induction l with
  | nil => cases h
  | cons e l ih =>
      cases hk : kicks e with
      | true => exact ⟨_, lastKick_kick hk l⟩
      | false =>
          rw [lastKick_idle hk]
          have hstart : starts e = false :=
            Bool.eq_false_iff.mpr fun hs => by
              rw [kicks_starts hs] at hk
              cases hk
          rw [List.any_cons, hstart, Bool.false_or] at h
          exact ih h

/-- What is in time of the last kick was fed. -/
theorem fed_inTime {e : Ev} {l : Trace} (h : ∀ t, lastKick l = some t →
    e.dev.now < t + WDT_TIMEOUT_MS cfg) : Fed cfg e l := by
  intro hstarted
  obtain ⟨t, ht⟩ := lastKick_started hstarted
  obtain ⟨e', he', hfed, hat⟩ := lastKick_mem ht
  have hlater := h t ht
  exact ⟨e', he', hfed, by omega⟩

/-- What happens before a call that ends in time happens in time. -/
theorem fed_before {l : Trace} {T : Nat} (hlog : Always (InTime cfg) l)
    (hdated : Always (fun e l => ∀ e' ∈ l, e'.dev.now ≤ e.dev.now) l)
    (hpast : ∀ e ∈ l, e.dev.now ≤ T)
    (hT : ∀ t, lastKick l = some t → T < t + WDT_TIMEOUT_MS cfg) :
    Always (Fed cfg) l := by
  induction l generalizing T with
  | nil => trivial
  | cons e l ih =>
      have hnow : ∀ t, lastKick l = some t →
          e.dev.now < t + WDT_TIMEOUT_MS cfg := by
        cases e with
        | call s d o r => exact hlog.1
        | env s d a =>
            intro t ht
            have hlater := hT t ((lastKick_moved s d a l).trans ht)
            have hbefore := hpast _ List.mem_cons_self
            omega
      exact ⟨fed_inTime hnow, ih hlog.2 hdated.2 hdated.1 hnow⟩

/-- What happens once the watchdog is started happens less than its timeout
after a feed, where the calls keep to their bounds. -/
theorem fed_reach (hcfg : cfg.DefaultTimings) {n fuel : Nat} {w : Tracker}
    (hw : Booted cfg w) {c : P Int × Tracker}
    (hr : Reach (device cfg) (main cfg n fuel) w c)
    (hG : Always (Budgeted cfg) c.2.log) : Always (Fed cfg) c.2.log := by
  have hboot : Unwatched cfg w := by
    refine ⟨?_, ?_, ?_⟩
    · rw [Alive, hw.log]
      trivial
    · rw [hw.log]
      rfl
    · rw [hw.log]
      rfl
  have halive : Alive cfg c.2 := (margin_walk hcfg).reach hboot hr hG
  obtain ⟨hdated, hanswered⟩ := reach_dated hw.log hr
  have hordered := hdated.ordered
  unfold Alive at halive
  cases hl : c.2.log with
  | nil => trivial
  | cons e l =>
      rw [hl] at halive hordered hanswered
      cases e with
      | env s d a => exact hanswered.elim
      | call s d o r =>
          exact ⟨fed_inTime halive.1,
            fed_before halive.2 hordered.2 hordered.1 halive.1⟩

/-- At the default timings the watchdog never expires: in every run in
which the calls keep to their bounds, what happens once it is started
happens less than its timeout after a feed. -/
theorem never_expires (hcfg : cfg.DefaultTimings) {n fuel : Nat} {w : Tracker}
    (hw : Booted cfg w) {c : P Int × Tracker}
    (hr : Reach (device cfg) (main cfg n fuel) w c)
    (hG : Always (Budgeted cfg) c.2.log) : Always (Fed cfg) c.2.log :=
  fed_reach hcfg hw hr hG

/-- A cycle without a fix, and its sleep. -/
theorem never_expires_calm :
    (playMain {} calm 1 0 400).2.log.any starts = true ∧
      Always (Fed {}) (playMain {} calm 1 0 400).2.log :=
  ⟨by decide +kernel, never_expires
    ⟨rfl, rfl, rfl, rfl, rfl, rfl, rfl, rfl, rfl, rfl, rfl, rfl⟩
    (start_booted {}) (playMain_reach {} calm 1 0 400) (by decide +kernel)⟩

/-- Call by call: where no call takes a second more than its bound, and no
more than thirty do between two feeds, the watchdog never expires. -/
theorem fed_seconds (hcfg : cfg.DefaultTimings) {n fuel : Nat} {w : Tracker}
    (hw : Booted cfg w) {c : P Int × Tracker}
    (hr : Reach (device cfg) (main cfg n fuel) w c)
    (hG : Always (Seconds cfg) c.2.log) : Always (Fed cfg) c.2.log :=
  fed_reach hcfg hw hr (Seconds.budgeted hG)

end GpsTracker
