/-
How long a cycle may take (main.c, Kconfig).

The battery pays for the time between two sleeps. Every wait of `main` has
a timeout, so that a cycle is in its sleep after `cycleMs` and the next one
begins after the sleep's seconds more, whatever the answers were: no
network, no fix, no assistance, a refused report. Two things come on top.
Each pass of the frequent loop may take its own `passMs`, and what a call
takes beyond its bound is as late for the cycle as it is for the call.

# The account

`Budget n` says that the calls of the cycle so far have left `n` of what it
may take; whatever is left, the last call has ended in time. A nap of the
frequent loop is granted the whole pass it begins, so that the pass comes
out even (`frequentPass_takes`) and the loop spends nothing however often
it goes round. The functions with a bound of their own are the watchdog's
(`Margin`).
-/
import GpsTracker.Lib.Cost
import GpsTracker.Laws.Margin
import GpsTracker.Laws.Traffic
import Mathlib.Algebra.Order.Group.Nat

namespace GpsTracker

open Proc

-- ================================================================= statements

/-- What a wait for a fix may take, by either receiver. -/
def Config.fixMs (cfg : Config) : Nat :=
  max cfg.gnssFixTimeoutSeconds cfg.gnssExtFixTimeoutSeconds * 1000

/-- What waiting for a request and answering it may take. -/
def Config.assistMs (cfg : Config) : Nat :=
  (cfg.agnssProactiveWaitSeconds + cfg.agnssBudgetSeconds) * 1000

/-- What the acquisition may take: a wait with either receiver, each with
its assistance, and the last resort. -/
def Config.acquireMs (cfg : Config) : Nat :=
  2 * (cfg.assistMs + cfg.fixMs)
    + (cfg.agnssBudgetSeconds + cfg.agnssFixTimeoutSeconds) * 1000

/-- What a report may take: two sends, the link between them, and the
location. -/
def Config.reportMs (cfg : Config) : Nat :=
  3 * sendMs + cfg.cloudConnectBudgetSeconds * 1000

/-- What a pass of the frequent loop may take. -/
def Config.passMs (cfg : Config) : Nat :=
  (cfg.chargingIntervalSeconds + 10) * 1000 + cfg.reportMs

/-- What the network may take: the restart of the modem, the registration
and the link. -/
def Config.networkMs (cfg : Config) : Nat :=
  (1 + cfg.lteConnectTimeoutSeconds + cfg.cloudConnectBudgetSeconds) * 1000

/-- What the settling and the first report may take. -/
def Config.tellMs (cfg : Config) : Nat :=
  (cfg.gnssExtraFixSeconds + 5) * 1000 + cfg.reportMs

/-- What a cycle may take up to its sleep. -/
def Config.cycleMs (cfg : Config) : Nat :=
  cfg.networkMs + cfg.gnssExtWarmupMs + cfg.acquireMs + cfg.tellMs

/-- What a cycle is granted for an event: a pass for each nap that begins
one, and what the call took beyond its bound. -/
def grant (cfg : Config) (e : Ev) (l : Trace) : Nat :=
  (if dozes cfg e l then cfg.passMs else 0) + excess cfg e l

/-- What it was granted since it began. -/
def granted (cfg : Config) : Trace → Nat
  | [] => 0
  | e :: l => if beginsCycle e then 0 else granted cfg l + grant cfg e l

/-- When the last cycle began. -/
def begun : Trace → Option Nat
  | [] => none
  | e :: l => if beginsCycle e then some e.dev.now else begun l

/-- What an event says of the cycle's battery sleep. -/
def restWord : Ev → Option Bool
  | .call _ _ (.enter (.batterySleep _)) _ => some true
  | .call _ _ (.enter (.cycle _)) _ => some false
  | _ => none

/-- The cycle has begun its battery sleep, or none has begun yet. -/
def abed (l : Trace) : Bool := latest restWord true l

/-- What a cycle may take: its waking part and, once it is in bed, the
sleep. -/
def allottedMs (cfg : Config) (bed : Bool) : Nat :=
  cfg.cycleMs + if bed then cfg.sleepSeconds * 1000 else 0

/-- What it may have taken at an event. A sleep is to begin within the waking
part. -/
def dueMs (cfg : Config) : Ev → Trace → Nat
  | .call _ _ (.enter (.batterySleep _)) _, _ => cfg.cycleMs
  | _, l => allottedMs cfg (abed l)

/-- When the last call had ended: at a call itself, at a move of the
surroundings the call before. -/
def endedBy : Ev → Nat
  | .call _ d _ _ => d.now
  | .env _ d _ => d.since

/-- Everything within a cycle happens in time, but for what was granted. -/
def Dutiful (cfg : Config) (e : Ev) (l : Trace) : Prop :=
  ∀ t, begun l = some t →
    endedBy e ≤ t + dueMs cfg e l + (granted cfg l + grant cfg e l)

-- =============================================================== assertions

variable {cfg : Config}

/-- The promise at every step. -/
def OnTime (cfg : Config) (w : Tracker) : Prop := Always (Dutiful cfg) w.log

/-- Of what the cycle may take, `n` was left when the last call ended. -/
structure Budget (cfg : Config) (bed : Bool) (n : Nat) (w : Tracker) :
    Prop where
  record : OnTime cfg w
  closed : span cfg w.log = none
  inBed : abed w.log = bed
  left : ∀ t, begun w.log = some t →
    w.dev.since + n ≤ t + allottedMs cfg bed + granted cfg w.log

/-- The same where a function with the bound `b` was entered. -/
structure Using (cfg : Config) (bed : Bool) (b n : Nat) (w : Tracker) :
    Prop where
  record : OnTime cfg w
  inBed : abed w.log = bed
  opened : ∃ t₀, span cfg w.log = some (t₀, b) ∧
    ∀ t, begun w.log = some t →
      t₀ + b + n ≤ t + allottedMs cfg bed + granted cfg w.log ∧
      w.dev.since + n ≤ t + allottedMs cfg bed + granted cfg w.log

variable {bed : Bool}

/-- A budget that has more has less. -/
theorem budget_stretches : Stretches (Budget cfg bed) := fun n m hn w h =>
  ⟨h.record, h.closed, h.inBed, fun t ht => by
    have := h.left t ht
    omega⟩

theorem Budget.mono {n m : Nat} {w : Tracker} (h : Budget cfg bed m w)
    (hn : n ≤ m) : Budget cfg bed n w := budget_stretches n m hn w h

-- ================================================================= one event

/-- Only the mark of a cycle begins one. -/
theorem begun_same {e : Ev} (h : beginsCycle e = false) (l : Trace) :
    begun (e :: l) = begun l := by
  rw [begun, if_neg (ne_true_of_eq_false h)]

/-- What is granted adds up within a cycle. -/
theorem granted_same {e : Ev} (h : beginsCycle e = false) (l : Trace) :
    granted cfg (e :: l) = granted cfg l + grant cfg e l := by
  rw [granted, if_neg (ne_true_of_eq_false h)]

/-- What a call takes beyond its bound is granted in full. -/
theorem excess_grant (e : Ev) (l : Trace) :
    excess cfg e l ≤ grant cfg e l := Nat.le_add_left _ _

/-- The marks of a cycle and of its sleep. -/
abbrev dueMarks : List Group :=
  [.mark (.cycle .boot), .mark (.cycle .timer), .mark (.cycle .vbus),
    .mark (.cycle .motion), .mark (.batterySleep .noNetwork),
    .mark (.batterySleep .gnssStart), .mark (.batterySleep .endOfCycle)]

/-- The marks the account looks at, those of a send apart. -/
abbrev dutyMarks : List Group := windowMarks ++ dueMarks

/-- A call within a part of a cycle, waking or asleep. -/
structure Midway (o : Op) : Prop where
  begins : ∀ s d (r : o.Ret), beginsCycle (.call s d o r) = false
  bed : ∀ s d (r : o.Ret), restWord (.call s d o r) = none

/-- Such a call has what the cycle is allotted there. -/
theorem Midway.dueMs {o : Op} (h : Midway o) (s : Statics) (d : Dev)
    (r : o.Ret) (l : Trace) :
    dueMs cfg (.call s d o r) l = allottedMs cfg (abed l) := by
  cases o with
  | enter f =>
      cases f with
      | batterySleep site => cases h.bed s d r
      | _ => rfl
  | _ => rfl

/-- A call without one of the marks is midway. -/
theorem midway_off {o : Op} (h : Off dueMarks o) : Midway o := by
  constructor <;> intro s d r
  · cases o with
    | enter f =>
        cases f with
        | cycle wr => cases wr <;> exact absurd h (by simp [Off])
        | _ => rfl
    | _ => rfl
  · cases o with
    | enter f =>
        cases f with
        | cycle wr => cases wr <;> exact absurd h (by simp [Off])
        | batterySleep site => cases site <;> exact absurd h (by simp [Off])
        | _ => rfl
    | _ => rfl

/-- A call that ends with `n` left is in time, and leaves `n`. -/
theorem budget_called {n : Nat} {w : Tracker} {o : Op} (r : o.Ret)
    (hm : Midway o) (hbed : abed w.log = bed) (h : ∀ t,
      begun w.log = some t → w.dev.now + n ≤ t + allottedMs cfg bed
        + (granted cfg w.log + grant cfg (.call w.st w.dev o r) w.log)) :
    Dutiful cfg (.call w.st w.dev o r) w.log ∧
      abed (.call w.st w.dev o r :: w.log) = bed ∧
      ∀ t, begun (.call w.st w.dev o r :: w.log) = some t →
        w.dev.now + n ≤ t + allottedMs cfg bed
          + granted cfg (.call w.st w.dev o r :: w.log) := by
  have hbegins := hm.begins w.st w.dev r
  refine ⟨fun t ht => ?_, (latest_none (hm.bed w.st w.dev r)).trans hbed,
    fun t ht => ?_⟩
  · have hnow := h t ht
    rw [hm.dueMs, hbed]
    show w.dev.now ≤ _
    omega
  · rw [begun_same hbegins] at ht
    rw [granted_same hbegins]
    exact h t ht

/-- Outside the functions with a bound of their own a call spends its
allowance. -/
theorem Budget.called {n : Nat} {w : Tracker} {o : Op}
    (h : Budget cfg bed (allowance o + n) w) (r : o.Ret)
    (hspan : spanWord cfg (.call w.st w.dev o r) = none) (hm : Midway o) :
    Budget cfg bed n (w.called (device cfg) o r) := by
  have hended : ∀ t, begun w.log = some t →
      w.dev.now + n ≤ t + allottedMs cfg bed + (granted cfg w.log
        + grant cfg (.call w.st w.dev o r) w.log) := by
    intro t ht
    have hleft := h.left t ht
    have hexcess := excess_closed h.closed (s := w.st) (d := w.dev) (r := r)
    have hgrant : excess cfg (.call w.st w.dev o r) w.log
      ≤ grant cfg (.call w.st w.dev o r) w.log := excess_grant _ _
    omega
  obtain ⟨hrecord, hbed, hleft⟩ := budget_called r hm h.inBed hended
  exact ⟨⟨hrecord, h.record⟩, (latest_none hspan).trans h.closed, hbed,
    hleft⟩

/-- Within one of them a call spends nothing but what is the function's. -/
theorem Using.called {n b : Nat} {w : Tracker} (h : Using cfg bed b n w)
    {o : Op} (r : o.Ret) (hm : Midway o) :
    OnTime cfg (w.called (device cfg) o r) ∧
      abed (.call w.st w.dev o r :: w.log) = bed ∧
      ∃ t₀, span cfg w.log = some (t₀, b) ∧
        ∀ t, begun (.call w.st w.dev o r :: w.log) = some t →
          t₀ + b + n ≤ t + allottedMs cfg bed
            + granted cfg (.call w.st w.dev o r :: w.log) ∧
          w.dev.now + n ≤ t + allottedMs cfg bed
            + granted cfg (.call w.st w.dev o r :: w.log) := by
  obtain ⟨t₀, hspan, husing⟩ := h.opened
  have hbegins := hm.begins w.st w.dev r
  have hended : ∀ t, begun w.log = some t →
      w.dev.now + n ≤ t + allottedMs cfg bed + (granted cfg w.log
        + grant cfg (.call w.st w.dev o r) w.log) := by
    intro t ht
    obtain ⟨hentered, hsince⟩ := husing t ht
    have hexcess := excess_opened hspan (s := w.st) (d := w.dev) (r := r)
    have hgrant : excess cfg (.call w.st w.dev o r) w.log
      ≤ grant cfg (.call w.st w.dev o r) w.log := excess_grant _ _
    omega
  obtain ⟨hrecord, hbed, hleft⟩ := budget_called r hm h.inBed hended
  refine ⟨⟨hrecord, h.record⟩, hbed, t₀, hspan,
    fun t ht => ⟨?_, hleft t ht⟩⟩
  rw [begun_same hbegins] at ht
  obtain ⟨hentered, -⟩ := husing t ht
  rw [granted_same hbegins]
  omega

-- ==================================================================== frames

theorem Off.due {o : Op} (h : Off dutyMarks o) : Off dueMarks o :=
  h.mono (by simp)

theorem Off.window {o : Op} (h : Off dutyMarks o) : Off windowMarks o :=
  h.mono (by simp)

/-- A move of the surroundings is in time as the call before it was. -/
theorem dutiful_moved {w : Tracker} {n : Nat} (hbed : abed w.log = bed)
    (h : ∀ t, begun w.log = some t →
      w.dev.since + n ≤ t + allottedMs cfg bed + granted cfg w.log)
    (a : Move) : Dutiful cfg (.env w.st w.dev a) w.log := by
  intro t ht
  have hleft := h t ht
  show w.dev.since ≤ t + allottedMs cfg (abed w.log) + _
  rw [hbed]
  omega

/-- The budget waits with the thread: what is left is counted from the end of
the last call. -/
theorem budget_stable {n : Nat} :
    Stable (device cfg) Free (Budget cfg bed n) := by
  intro w a h _ _
  have hsince : (move cfg a w.dev).since = w.dev.since :=
    (move_drifts cfg a w.dev).since
  refine ⟨⟨dutiful_moved h.inBed h.left a, h.record⟩,
    (latest_none rfl).trans h.closed, (latest_none rfl).trans h.inBed,
    fun t ht => ?_⟩
  have hleft := h.left t ht
  show (move cfg a w.dev).since + n
    ≤ t + allottedMs cfg bed + granted cfg (.env w.st w.dev a :: w.log)
  rw [granted_same rfl, hsince]
  omega

/-- What takes no time spends nothing. -/
theorem budget_frame (n : Nat) :
    Frame (device cfg) Free (OnTime cfg) (Budget cfg bed n)
      (fun o => Swift o ∧ Off dutyMarks o) (fun _ _ => True) where
  stable := budget_stable
  calls := fun w o r ho h _ _ => by
    obtain ⟨hswift, hoff⟩ := ho
    refine Budget.called (o := o) ?_ r (hswift.spanWord hoff.window ..)
      (midway_off hoff.due)
    rw [hswift.allowance, Nat.zero_add]
    exact h
  writes := fun _ _ _ h => ⟨h.record, h.closed, h.inBed, h.left⟩
  gives := fun _ h => h.record

/-- And so does one in use. -/
theorem using_stable {b n : Nat} :
    Stable (device cfg) Free (Using cfg bed b n) := by
  intro w a h _ _
  have hsince : (move cfg a w.dev).since = w.dev.since :=
    (move_drifts cfg a w.dev).since
  obtain ⟨t₀, hspan, husing⟩ := h.opened
  have hleft : ∀ t, begun w.log = some t →
    w.dev.since + n ≤ t + allottedMs cfg bed + granted cfg w.log :=
    fun t ht => (husing t ht).2
  refine ⟨⟨dutiful_moved h.inBed hleft a, h.record⟩,
    (latest_none rfl).trans h.inBed, t₀, (latest_none rfl).trans hspan,
    fun t ht => ?_⟩
  obtain ⟨hentered, hsince'⟩ := husing t ht
  show t₀ + b + n ≤ t + allottedMs cfg bed
      + granted cfg (.env w.st w.dev a :: w.log) ∧
    (move cfg a w.dev).since + n ≤ t + allottedMs cfg bed
      + granted cfg (.env w.st w.dev a :: w.log)
  rw [granted_same rfl, hsince]
  omega

/-- Within a function with a bound of its own nothing is spent beyond
it. -/
theorem using_frame (b n : Nat) :
    Frame (device cfg) Free (OnTime cfg) (Using cfg bed b n)
      (Off (spanMarks ++ dueMarks)) (fun _ _ => True) where
  stable := using_stable
  calls := fun w o r ho h _ _ => by
    have hword : spanWord cfg (.call w.st w.dev o r) = none := by
      cases o with
      | enter f => cases f <;> first | rfl | exact absurd ho (by simp [Off])
      | leave f c => cases f <;> first | rfl | exact absurd ho (by simp [Off])
      | _ => rfl
    obtain ⟨hrecord, hbed, t₀, hspan, husing⟩ :=
      h.called r (midway_off (ho.mono (by simp)))
    exact ⟨hrecord, hbed, t₀, (latest_none hword).trans hspan, husing⟩
  writes := fun _ _ _ h => ⟨h.record, h.inBed, h.opened⟩
  gives := fun _ h => h.record

-- ==================================================================== costs

variable {α : Type}

/-- `p` takes at most `c` of what the cycle has left, in bed or out of it. -/
abbrev Takes (cfg : Config) (bed : Bool) (c : Nat) (p : P α) : Prop :=
  Spends (device cfg) Free (OnTime cfg) (Budget cfg bed) c p

/-- A part without waits and sends, outside the functions with a bound of
their own. -/
theorem swift_takes {ks : List Kind} {gs : List Group} {vs : List Var}
    {p : P α} (hp : Paced ks p) (hf : Foot gs vs p) (hwait : Kind.wait ∉ ks)
    (hsend : Kind.send ∉ ks) (hg : ∀ g ∈ gs, g ∉ dutyMarks) :
    Takes cfg bed 0 p := by
  have hoff : Within (S := Calls) (Off dutyMarks) (Keep []) p :=
    hf.off hg (by simp)
  apply Spends.keeps budget_frame
  refine (Within.and hp hoff).mono (fun o h => ⟨⟨fun ho => hwait ?_,
    fun ho => hsend ?_⟩, h.2⟩) fun _ _ _ => trivial
  · rw [← ho]
    exact h.1
  · rw [← ho]
    exact h.1

/-- One such call. -/
theorem swift_call {o : Op} (hk : kind o = .other)
    (hg : group o ∉ dutyMarks) : Takes cfg bed 0 (call o) := by
  have hp : Paced [.other] (call o) := paced_call.mpr (by rw [hk]; simp)
  have hf : Foot [group o] [] (call o) := foot_call.mpr (by simp)
  exact swift_takes hp hf (by simp) (by simp) (by simpa using hg)

/-- A call takes its allowance. -/
theorem call_takes (o : Op) (hspan : ∀ s d (r : o.Ret),
    spanWord cfg (.call s d o r) = none) (hm : Midway o) :
    Takes cfg bed (allowance o) (call o) := fun n =>
  Triple.op budget_stable fun w r h _ _ => by
    have h' := h.called r (hspan ..) hm
    exact ⟨h'.record, h'⟩

/-- A sleep takes its duration; where it is a nap of the frequent loop, it is
granted more than that. -/
theorem kSleep_takes (ms : Nat) : Takes cfg bed ms (call (.kSleep ms)) :=
  call_takes (.kSleep ms) (fun _ _ _ => rfl)
    ⟨fun _ _ _ => rfl, fun _ _ _ => rfl⟩

/-- A nap that begins a pass is granted it: it leaves what the rest of the
pass takes. -/
theorem nap_takes (n : Nat) :
    Triple (device cfg) Free (OnTime cfg)
      (fun w => Budget cfg bed n w ∧ drowsy w.log = true)
      (call (.kSleep (cfg.chargingIntervalSeconds * 1000)))
      fun _ => Budget cfg bed (10 * 1000 + cfg.reportMs + n) := by
  refine Triple.op (budget_stable.and fun _ _ h _ _ => h)
    fun w r h _ _ => ?_
  obtain ⟨h, hdrowsy⟩ := h
  have hdozes : dozes cfg (.call w.st w.dev
      (.kSleep (cfg.chargingIntervalSeconds * 1000)) r) w.log = true := by
    rw [dozes, hdrowsy, beq_self_eq_true]
    rfl
  have hended : ∀ t, begun w.log = some t →
      w.dev.now + (10 * 1000 + cfg.reportMs + n)
        ≤ t + allottedMs cfg bed + (granted cfg w.log
          + grant cfg (.call w.st w.dev
            (.kSleep (cfg.chargingIntervalSeconds * 1000)) r) w.log) := by
    intro t ht
    have hleft := h.left t ht
    -- nothing is open, so the excess is that of the nap alone
    have hexcess := excess_closed h.closed (s := w.st) (d := w.dev)
      (o := .kSleep (cfg.chargingIntervalSeconds * 1000)) (r := r)
    have hpass : cfg.passMs
      = (cfg.chargingIntervalSeconds + 10) * 1000 + cfg.reportMs := rfl
    rw [grant, if_pos hdozes, hexcess]
    simp only [allowance]
    omega
  have hmidway : Midway (.kSleep (cfg.chargingIntervalSeconds * 1000)) :=
    ⟨fun _ _ _ => rfl, fun _ _ _ => rfl⟩
  obtain ⟨hrecord, hbed, hleft⟩ := budget_called r hmidway h.inBed hended
  have hrecord' : OnTime cfg (w.called (device cfg)
    (.kSleep (cfg.chargingIntervalSeconds * 1000)) r) := ⟨hrecord, h.record⟩
  exact ⟨hrecord', hrecord', (latest_none rfl).trans h.closed, hbed, hleft⟩

/-- A wait takes its timeout at most. -/
theorem semTake_takes (s : Sem) (ms : Nat) :
    Takes cfg bed ms (call (.semTake s ms)) :=
  call_takes (.semTake s ms) (fun _ _ _ => rfl)
    ⟨fun _ _ _ => rfl, fun _ _ _ => rfl⟩

/-- The marks of a logged function take no time. -/
theorem scope_takes [Code α] {c : Nat} {f : Fn} {p : P α}
    (hf : kind (.enter f) = .other) (hl : ∀ c, kind (.leave f c) = .other)
    (hg : Group.mark f ∉ dutyMarks) (h : Takes cfg bed c p) :
    Takes cfg bed c (scope f p) := by
  have hleave : ∀ a : α, Takes cfg bed 0 (do
      call (.leave f (Code.code a))
      pure a : P α) := fun a =>
    (swift_call (hl (Code.code a)) hg).after fun _ => Spends.ret a
  exact (swift_call hf hg).after fun _ => h.before hleave

section

variable {b : Nat} {f : Fn}

/-- Into a function with the bound `b`. -/
theorem using_enters (hf : spanMs cfg f = some b)
    (hdue : Off dueMarks (.enter f)) (n : Nat) :
    Triple (device cfg) Free (OnTime cfg) (Budget cfg bed (b + n))
      (call (.enter f)) fun _ => Using cfg bed b n := by
  refine Triple.op budget_stable fun w r h _ _ => ?_
  have hword : spanWord cfg (.call w.st w.dev (.enter f) r)
      = some (some (w.dev.now, b)) := by
    simp only [spanWord, hf, Option.map_some]
  have hended : ∀ t, begun w.log = some t →
      w.dev.now + (b + n) ≤ t + allottedMs cfg bed + (granted cfg w.log
        + grant cfg (.call w.st w.dev (.enter f) r) w.log) := by
    intro t ht
    have hleft := h.left t ht
    have hexcess := excess_closed h.closed (s := w.st) (d := w.dev)
      (o := .enter f) (r := r)
    -- what was overrun before is granted too
    have hgrant : excess cfg (.call w.st w.dev (.enter f) r) w.log
      ≤ grant cfg (.call w.st w.dev (.enter f) r) w.log := excess_grant _ _
    simp only [allowance] at hexcess
    omega
  obtain ⟨hrecord, hbed, hleft⟩ :=
    budget_called r (midway_off hdue) h.inBed hended
  have hrecord' : OnTime cfg (w.called (device cfg) (.enter f) r) :=
    ⟨hrecord, h.record⟩
  refine ⟨hrecord', hrecord', hbed, w.dev.now, latest_some hword,
    fun t ht => ?_⟩
  have hnow := hleft t ht
  show w.dev.now + b + n ≤ t + allottedMs cfg bed
      + granted cfg (_ :: w.log) ∧
    w.dev.now + n ≤ t + allottedMs cfg bed
      + granted cfg (_ :: w.log)
  omega

/-- And out of it. -/
theorem using_leaves (hf : spanMs cfg f = some b) (c : Int) (n : Nat) :
    Triple (device cfg) Free (OnTime cfg) (Using cfg bed b n)
      (call (.leave f c)) fun _ => Budget cfg bed n := by
  refine Triple.op using_stable fun w r h _ _ => ?_
  have hword : spanWord cfg (.call w.st w.dev (.leave f c) r) = some none := by
    simp only [spanWord, hf, Option.map_some]
  obtain ⟨hrecord, hbed, t₀, -, husing⟩ := h.called (o := .leave f c) r
    ⟨fun _ _ _ => rfl, fun _ _ _ => rfl⟩
  exact ⟨hrecord, hrecord, latest_some hword, hbed,
    fun t ht => (husing t ht).2⟩

/-- The whole of such a function takes its bound. -/
theorem span_takes [Code α] {gs : List Group} {vs : List Var} {p : P α}
    (hf : spanMs cfg f = some b) (hdue : Off dueMarks (.enter f))
    (hp : Foot gs vs p) (hg : ∀ g ∈ gs, g ∉ spanMarks ++ dueMarks) :
    Takes cfg bed b (scope f p) := fun n =>
  triple_scope (using_enters hf hdue n)
    ((using_frame b n).keeps
      (Within.mono hp (fun _ ho => hg _ ho) fun _ _ _ => trivial))
    fun a => using_leaves hf (Code.code a) n

end

-- ============================================== the functions with a bound

/-- A resume of the link, the wait for the modem's time included, takes its
budget. -/
theorem resume_takes :
    Takes cfg bed (cfg.cloudConnectBudgetSeconds * 1000)
      (cloudResume cfg) := by
  obtain ⟨body, he, hfoot⟩ := cloudResume_scoped cfg
  rw [he]
  exact span_takes rfl (by simp [Off]) hfoot (by simp)

/-- An assistance fetch takes its own. -/
theorem fetch_takes :
    Takes cfg bed (cfg.agnssBudgetSeconds * 1000)
      (agnssFetchAndInject cfg) := by
  obtain ⟨body, he, hfoot⟩ := agnssFetchAndInject_scoped cfg
  rw [he]
  exact span_takes rfl (by simp [Off]) hfoot (by simp)

theorem firstSend_takes (payload : Text) :
    Takes cfg bed sendMs (scope .firstSend (cloudSendTelemetry cfg payload)) :=
  span_takes rfl (by simp [Off]) (cloudSendTelemetry_foot cfg payload)
    (by simp)

theorem retrySend_takes (payload : Text) :
    Takes cfg bed sendMs (scope .retrySend (cloudSendTelemetry cfg payload)) :=
  span_takes rfl (by simp [Off]) (cloudSendTelemetry_foot cfg payload)
    (by simp)

/-- A shared location is one send. -/
theorem location_takes (fix : TrackerFix) :
    Takes cfg bed sendMs (cloudSendLocation cfg fix) := by
  unfold cloudSendLocation
  cases cfg.cloudProvider with
  | hologram => exact (Spends.ret _).mono budget_stretches (by simp)
  | nrfcloud =>
      refine Spends.ite_ret budget_stretches (Nat.zero_le _)
        (Spends.ite_ret budget_stretches (Nat.zero_le _) ?_)
      refine Spends.after (swift_call rfl (by simp)) fun now => ?_
      exact (call_takes (.locationSend _) (fun _ _ _ => rfl)
        ⟨fun _ _ _ => rfl, fun _ _ _ => rfl⟩).before fun r => Spends.ret _

-- =========================================================== the other parts

theorem phase_takes (p : Phase) : Takes cfg bed 0 (watchdogPhase p) :=
  swift_takes (watchdogPhase_paced p) (watchdogPhase_foot p) (by simp)
    (by simp) (by simp)

theorem feed_takes : Takes cfg bed 0 watchdogFeed :=
  swift_takes watchdogFeed_paced watchdogFeed_foot (by simp) (by simp)
    (by simp)

theorem guardStart_takes (budgetS : Nat) :
    Takes cfg bed 0 (watchdogGuardStart budgetS) := by
  have hp : Paced [.guard, .other] (watchdogGuardStart budgetS) := by
    simp [watchdogGuardStart, watchdogFeed]
  exact swift_takes hp (watchdogGuardStart_foot budgetS) (by simp) (by simp)
    (by simp)

theorem guardStop_takes : Takes cfg bed 0 watchdogGuardStop := by
  have hp : Paced [.guard, .other] watchdogGuardStop := by
    simp [watchdogGuardStop, watchdogFeed]
  exact swift_takes hp watchdogGuardStop_foot (by simp) (by simp) (by simp)

theorem led_takes (haveFix : Bool) :
    Takes cfg bed 0 (statusLedReport cfg haveFix) :=
  swift_takes (statusLedReport_paced cfg haveFix)
    (statusLedReport_foot cfg haveFix) (by simp) (by simp) (by simp)

theorem modify_takes (f : Statics → Statics) :
    Takes cfg bed 0 (Prog.modify f : P Unit) :=
  Spends.keeps budget_frame (Within.modify fun _ => trivial)

/-- The registration is waited for once. -/
theorem lte_takes :
    Takes cfg bed (cfg.lteConnectTimeoutSeconds * 1000)
      (lteEnsureConnected cfg) := by
  have hreg : Takes cfg bed 0 lteIsRegistered :=
    swift_takes lteIsRegistered_paced lteIsRegistered_foot (by simp) (by simp)
      (by simp)
  refine scope_takes rfl (fun _ => rfl) (by simp) (hreg.after fun b =>
    Spends.ite_ret budget_stretches (Nat.zero_le _) ?_)
  refine Spends.after (swift_call rfl (by simp)) fun _ =>
    Spends.after (swift_call rfl (by simp)) fun err =>
    Spends.ite_ret budget_stretches (Nat.zero_le _) ?_
  refine (semTake_takes _ _).before fun r => ?_
  exact Spends.ite (Spends.ret _) (Spends.ret _)

/-- Recovery takes the second between the two switches of the modem; a reboot
ends the run before its sleep counts. -/
theorem recover_takes : Takes cfg bed 1000 (recoverIfSilent cfg) := by
  refine scope_takes rfl (fun _ => rfl) (by simp) (Spends.get fun s =>
    Spends.after (swift_call rfl (by simp)) fun now => Spends.ite ?_
      (Spends.ite ?_
        (Spends.ite_ret budget_stretches (Nat.zero_le _) ?_)))
  · exact (modify_takes _).mono budget_stretches (by simp)
  · refine (phase_takes _).after fun _ => ?_
    refine Spends.mono budget_stretches ((kSleep_takes 200).before fun _ => ?_)
      (by simp)
    exact Spends.after (swift_call rfl (by simp)) fun _ => Spends.halt
  · refine (modify_takes _).after fun _ =>
      Spends.after (swift_call rfl (by simp)) fun _ =>
      (kSleep_takes 1000).before fun _ => ?_
    exact Spends.after (swift_call rfl (by simp)) fun _ => Spends.ret _

/-- The network: recovery first, then the registration. -/
theorem network_takes :
    Takes cfg bed ((1 + cfg.lteConnectTimeoutSeconds) * 1000)
      (bringUpNetwork cfg) := by
  refine Spends.ite_ret budget_stretches (Nat.zero_le _) ?_
  have hlte : Takes cfg bed (cfg.lteConnectTimeoutSeconds * 1000) (do
      watchdogPhase .lte
      pure ((← lteEnsureConnected cfg) == 0) : P Bool) :=
    (phase_takes .lte).after fun _ => lte_takes.before fun r => Spends.ret _
  exact (recover_takes.bind fun _ => hlte).mono budget_stretches (by omega)

/-- The module is given its warm-up where it was off. -/
theorem extStart_takes :
    Takes cfg bed cfg.gnssExtWarmupMs (gnssExtStart cfg) := by
  have hpower : ∀ on, Takes cfg bed 0 (powerSet on) := fun on => by
    have hp : Paced [.other] (powerSet on) := by simp [powerSet]
    have hf : Foot [.pin] [.powered] (powerSet on) := by
      simp [powerSet, Var.forall]
    exact swift_takes hp hf (by simp) (by simp) (by simp)
  have hopen : Takes cfg bed 0 gnssExtOpen := by
    have hp : Paced [.other] gnssExtOpen := by simp [gnssExtOpen, powerSet]
    have hf : Foot [.plain, .pin, .pm] [.powered] gnssExtOpen := by
      simp [gnssExtOpen, powerSet, Var.forall]
    exact swift_takes hp hf (by simp) (by simp) (by simp)
  refine scope_takes rfl (fun _ => rfl) (by simp) (Spends.get fun s =>
    Spends.ite ?_ (hopen.mono budget_stretches (by omega)))
  exact (hpower true).after fun _ => Spends.get fun s =>
    Spends.ite_ret budget_stretches (Nat.zero_le _)
      ((kSleep_takes _).before fun _ => hopen)

/-- A start takes the warm-up of the module at most, the fallback to the modem
nothing more. -/
theorem start_takes : Takes cfg bed cfg.gnssExtWarmupMs (gnssStart cfg) := by
  have hmodem : Takes cfg bed 0 (gnssStartModem cfg) :=
    (modify_takes _).after fun _ => swift_takes (gnssModemStart_paced cfg _)
      (gnssModemStart_foot cfg _) (by simp) (by simp) (by simp)
  refine scope_takes rfl (fun _ => rfl) (by simp) (Spends.get fun s =>
    Spends.ite ((modify_takes _).after fun _ => ?_)
      (hmodem.mono budget_stretches (by omega)))
  exact extStart_takes.before fun r => Spends.ite (Spends.ret _) hmodem

/-- A wait for a fix takes its timeout, on either receiver. -/
theorem fixWait_takes (t : Nat) :
    Takes cfg bed (t * 1000) (gnssWaitFix cfg t) := by
  have hext : Takes cfg bed (t * 1000) (gnssExtWaitFix t) := by
    refine Spends.after (swift_call rfl (by simp)) fun _ =>
      (semTake_takes _ _).before fun r => Spends.ite (Spends.ret _) ?_
    exact Spends.after (swift_call rfl (by simp)) fun _ => Spends.ret _
  have hmodem : Takes cfg bed (t * 1000) (gnssModemWaitFix t) := by
    refine Spends.after (swift_call rfl (by simp)) fun _ =>
      (semTake_takes _ _).before fun r => Spends.ite (Spends.ret _) ?_
    exact Spends.after (swift_call rfl (by simp)) fun _ => Spends.ret _
  exact scope_takes rfl (fun _ => rfl) (by simp) (Spends.get fun s =>
    Spends.ite hext hmodem)

/-- A wait for the modem's request takes its own. -/
theorem requestWait_takes (t : Nat) :
    Takes cfg bed (t * 1000) (gnssAgnssRequestWait t) := by
  refine Spends.get fun s => Spends.ite_ret budget_stretches (Nat.zero_le _) ?_
  exact (semTake_takes _ _).before fun r =>
    Spends.ite (Spends.ret _) (Spends.ret _)

/-- `wake_wait` takes its seconds at most. -/
theorem sleep_takes (seconds : Nat) :
    Takes cfg bed (seconds * 1000) (wakeWait seconds) := by
  refine scope_takes rfl (fun _ => rfl) (by simp)
    (Spends.after (swift_call rfl (by simp)) fun _ =>
      Spends.after (swift_call rfl (by simp)) fun _ =>
      (semTake_takes _ _).before fun r => Spends.ite (Spends.ret _) ?_)
  exact swift_call rfl (by simp)

-- ============================================================ the acquisition

theorem wanted_takes : Takes cfg bed 0 (agnssWanted cfg) := by
  apply Spends.keeps budget_frame
  exact Within.mono (agnssWanted_foot cfg)
    (fun o ho => absurd ho List.not_mem_nil) fun _ _ _ => trivial

/-- Assistance: the wait for the request and one fetch. -/
theorem assist_takes {mark : P Unit} (hm : Takes cfg bed 0 mark) :
    Takes cfg bed cfg.assistMs (assistIfAsked cfg mark) := by
  have hfetch : Takes cfg bed (cfg.agnssBudgetSeconds * 1000) (do
      mark
      pure (some ((← agnssFetchAndInject cfg) == 0)) : P (Option Bool)) :=
    hm.after fun _ => fetch_takes.before fun r => Spends.ret _
  refine wanted_takes.after fun b =>
    Spends.ite_ret budget_stretches (Nat.zero_le _) ?_
  refine Spends.mono budget_stretches ((requestWait_takes _).bind fun r =>
    Spends.ite_ret budget_stretches (Nat.zero_le _) hfetch) ?_
  unfold Config.assistMs
  omega

/-- No wait for a fix is longer than the longer of the two. -/
theorem fixTimeout_returns :
    Returns (· * 1000 ≤ cfg.fixMs) (gnssFixTimeoutSeconds cfg) := by
  unfold Config.fixMs
  exact Returns.get fun s => Returns.ite (fun _ => Returns.ret (by omega))
    fun _ => Returns.ret (by omega)

theorem fixTimeout_takes : Takes cfg bed 0 (gnssFixTimeoutSeconds cfg) :=
  Spends.get fun _ => Spends.ite (Spends.ret _) (Spends.ret _)

/-- The second receiver: assistance and a wait, as for the first. -/
theorem acquireFallback_takes (assisted : Bool) :
    Takes cfg bed (cfg.assistMs + cfg.fixMs)
      (acquireFallback cfg assisted) := by
  have hfallback : Takes cfg bed 0 (gnssFallback cfg) :=
    swift_takes (gnssFallback_paced cfg) (gnssFallback_foot cfg) (by simp)
      (by simp) (by simp)
  have hwait : ∀ asked : Option Bool, Takes cfg bed cfg.fixMs (do
      let fix ← gnssWaitFix cfg (← gnssFixTimeoutSeconds cfg)
      pure (fix.toOption, asked.getD assisted) :
        P (Option TrackerFix × Bool)) := fun asked =>
    (fixTimeout_takes.bind_returns fixTimeout_returns fun t ht =>
      ((fixWait_takes t).before fun r => Spends.ret _).mono budget_stretches
        ht).mono budget_stretches (by omega)
  exact hfallback.after fun r => Spends.ite_ret budget_stretches (Nat.zero_le _)
    ((assist_takes (Spends.ret ())).bind hwait)

/-- The last resort: a fetch and a wait. -/
theorem acquireAssisted_takes :
    Takes cfg bed ((cfg.agnssBudgetSeconds + cfg.agnssFixTimeoutSeconds) * 1000)
      (acquireAssisted cfg) := by
  have hwait : Takes cfg bed (cfg.agnssFixTimeoutSeconds * 1000) (do
      let fix ← gnssWaitFix cfg cfg.agnssFixTimeoutSeconds
      pure fix.toOption : P (Option TrackerFix)) :=
    (fixWait_takes _).before fun fix => Spends.ret _
  exact (fetch_takes.bind fun r =>
    Spends.ite_ret budget_stretches (Nat.zero_le _) hwait).mono
      budget_stretches (by omega)

/-- The acquisition takes what its ladder adds up to, whichever of its ways it
goes. -/
theorem acquire_takes : Takes cfg bed cfg.acquireMs (acquire cfg) := by
  intro n
  have hneed : cfg.acquireMs = 2 * (cfg.assistMs + cfg.fixMs)
    + (cfg.agnssBudgetSeconds + cfg.agnssFixTimeoutSeconds) * 1000 := rfl
  have havailable : Takes cfg bed 0 (gnssFallbackAvailable cfg) :=
    Spends.get fun s => Spends.ret _
  -- what is left once the first wait is over, and once the second is
  obtain ⟨last, hlast⟩ : ∃ m, m =
    (cfg.agnssBudgetSeconds + cfg.agnssFixTimeoutSeconds) * 1000 + n :=
    ⟨_, rfl⟩
  obtain ⟨second, hsecond⟩ : ∃ m, m = cfg.assistMs + cfg.fixMs + last :=
    ⟨_, rfl⟩
  refine acquire_ladder (fun _ => Budget cfg bed second)
    (fun _ => Budget cfg bed last)
    ((assist_takes (phase_takes _)).span budget_stretches
      (m := cfg.fixMs + second) (by omega))
    ((phase_takes .fix).span budget_stretches (m := cfg.fixMs + second)
      (by omega))
    ((fixTimeout_takes.span budget_stretches (m := cfg.fixMs + second)
      (by omega)).returns fixTimeout_returns)
    (fun t => Triple.pure_pre fun ht => (fixWait_takes t).span
      budget_stretches (Nat.add_le_add_right ht second))
    (havailable.span budget_stretches (by omega))
    (fun assisted => (acquireFallback_takes assisted).span budget_stretches
      (by omega))
    (fun fix w h => h.mono (by omega)) ?_ fun fix w h => h.mono (by omega)
  refine (wanted_takes.after fun b => Spends.ite acquireAssisted_takes
    ((Spends.ret _).mono budget_stretches (by omega))).span budget_stretches
      (by omega)

-- ================================================================= reporting

/-- Settling: a sleep and a short wait. -/
theorem settle_takes (fix : TrackerFix) :
    Takes cfg bed ((cfg.gnssExtraFixSeconds + 5) * 1000)
      (settleFix cfg fix) := by
  refine Spends.ite ?_ ((Spends.ret _).mono budget_stretches (by omega))
  exact ((kSleep_takes _).bind fun _ => (fixWait_takes 5).before
    fun better => Spends.ret _).mono budget_stretches (by omega)

/-- A report is sent twice at most, with the link brought up in between. -/
theorem sendReport_takes (payload : Text) :
    Takes cfg bed (2 * sendMs + cfg.cloudConnectBudgetSeconds * 1000)
      (sendReport cfg payload) := by
  have hretry : ∀ err : Int, Takes cfg bed sendMs (do
      if err = 0 then scope .retrySend (cloudSendTelemetry cfg payload)
      else pure err : P Int) := fun err =>
    Spends.ite (retrySend_takes payload)
      ((Spends.ret err).mono budget_stretches (by omega))
  have hagain : Takes cfg bed
      (cfg.cloudConnectBudgetSeconds * 1000 + sendMs) (do
        watchdogGuardStart cfg.cloudConnectBudgetSeconds
        let err ← cloudResume cfg
        watchdogGuardStop
        if err = 0 then scope .retrySend (cloudSendTelemetry cfg payload)
        else pure err : P Int) :=
    (guardStart_takes _).after fun _ => resume_takes.bind fun err =>
      guardStop_takes.after fun _ => hretry err
  refine ((firstSend_takes payload).bind fun err => Spends.ite hagain
    ((Spends.ret err).mono budget_stretches (by omega))).mono
      budget_stretches (by omega)

/-- With the location behind it, that is the whole of a report. -/
theorem deliver_takes (fix : Option TrackerFix) (payload : Text) :
    Takes cfg bed cfg.reportMs (deliver cfg fix payload) := by
  have hneed : cfg.reportMs
    = 3 * sendMs + cfg.cloudConnectBudgetSeconds * 1000 := rfl
  have htail : ∀ err : Int, Takes cfg bed 0 (do
      watchdogFeed
      pure err : P Int) := fun err => feed_takes.after fun _ => Spends.ret err
  refine Spends.mono budget_stretches
    (c := 2 * sendMs + cfg.cloudConnectBudgetSeconds * 1000 + sendMs) ?_
    (by omega)
  refine (sendReport_takes payload).bind fun err => ?_
  refine Spends.ite ?_ ((htail err).mono budget_stretches (by omega))
  refine Spends.after (swift_call rfl (by simp)) fun now =>
    Spends.after (modify_takes _) fun _ => ?_
  cases fix with
  | none => exact (htail err).mono budget_stretches (by omega)
  | some fix => exact (location_takes fix).before fun _ => htail err

/-- What comes before the payload takes no time. -/
theorem report_takes (fix : Option TrackerFix) (u : Nat) (wr : WakeReason) :
    Takes cfg bed cfg.reportMs (reportFix cfg fix u wr) := by
  have hpower : Takes cfg bed 0 powerRead :=
    swift_takes powerRead_paced powerRead_foot (by simp) (by simp) (by simp)
  refine scope_takes rfl (fun _ => rfl) (by simp)
    (Spends.after (swift_call rfl (by simp)) fun now =>
      hpower.after fun power =>
      Spends.after (swift_call rfl (by simp)) fun rsrp =>
      (phase_takes .report).after fun _ => Spends.get fun s => ?_)
  generalize telemetryBuildJson _ _ _ _ = built
  cases built with
  | error err => exact (Spends.ret _).mono budget_stretches (by omega)
  | ok payload => exact deliver_takes fix payload

theorem reportOrSkip_takes (fix : Option TrackerFix) (u : Nat)
    (wr : WakeReason) :
    Takes cfg bed cfg.reportMs (reportOrSkip cfg fix u wr) := by
  cases fix with
  | some fix => exact (report_takes (some fix) u wr).before fun _ => led_takes _
  | none =>
      refine Spends.ite ?_ ((led_takes false).mono budget_stretches (by omega))
      exact (report_takes none u wr).before fun _ => led_takes _

theorem firstReport_takes (fix : Option TrackerFix) (u : Nat)
    (wr : WakeReason) :
    Takes cfg bed cfg.tellMs (firstReport cfg fix u wr) := by
  have hneed : cfg.tellMs
    = (cfg.gnssExtraFixSeconds + 5) * 1000 + cfg.reportMs := rfl
  have hreport : ∀ fix, Takes cfg bed cfg.reportMs (do
      reportOrSkip cfg fix u wr
      watchdogFeed : P Unit) := fun fix =>
    (reportOrSkip_takes fix u wr).before fun _ => feed_takes
  refine feed_takes.after fun _ => ?_
  cases fix with
  | none => exact (hreport none).mono budget_stretches (by omega)
  | some fix =>
      exact ((settle_takes fix).bind fun better =>
        hreport (some better)).mono budget_stretches (by omega)

/-- A pass comes out even. -/
theorem frequentPass_takes (u : Nat) (wr : WakeReason) :
    Takes cfg bed 0 (frequentPass cfg u wr) := by
  intro n
  have hhold : Takes cfg bed 0 (holdOffMotion cfg) :=
    swift_takes (holdOffMotion_paced cfg) (holdOffMotion_foot cfg) (by simp)
      (by simp) (by simp)
  have hbegun : Triple (device cfg) Free (OnTime cfg) (Budget cfg bed (0 + n))
      (holdOffMotion cfg)
      fun _ w => Budget cfg bed n w ∧ drowsy w.log = true :=
    ((hhold n).and holdOffMotion_drowsy).pre fun w h => ⟨h, trivial⟩
  have hrest : Takes cfg bed (10 * 1000 + cfg.reportMs) (do
      watchdogFeed
      let fix ← gnssWaitFix cfg 10
      reportOrSkip cfg fix.toOption u wr : P Unit) :=
    feed_takes.after fun _ => (fixWait_takes 10).bind fun fix =>
      reportOrSkip_takes fix.toOption u wr
  exact ((phase_takes .frequent) (0 + n)).pre (fun w h => h.mono (by omega))
    |>.bind fun _ => hbegun.bind fun _ => (nap_takes n).bind fun _ => hrest n

-- ==================================================================== main

/-- What was left when a cycle begins is forgotten. -/
theorem begin_allots (wr : WakeReason) :
    Triple (device cfg) Free (OnTime cfg) (Budget cfg true 0)
      (call (.enter (.cycle wr))) fun _ => Budget cfg false cfg.cycleMs := by
  refine Triple.op budget_stable fun w r h _ _ => ?_
  have hdue : Dutiful cfg (.call w.st w.dev (.enter (.cycle wr)) r)
      w.log := by
    intro t ht
    have hleft := h.left t ht
    have hexcess := excess_closed h.closed (s := w.st) (d := w.dev)
      (o := .enter (.cycle wr)) (r := r)
    have hgrant : excess cfg (.call w.st w.dev (.enter (.cycle wr)) r) w.log
      ≤ grant cfg (.call w.st w.dev (.enter (.cycle wr)) r) w.log :=
      excess_grant _ _
    simp only [allowance] at hexcess
    show w.dev.now ≤ t + allottedMs cfg (abed w.log) + _
    rw [h.inBed]
    omega
  have hrecord : OnTime cfg
      (w.called (device cfg) (.enter (.cycle wr)) r) := ⟨hdue, h.record⟩
  refine ⟨hrecord, hrecord, (latest_none rfl).trans h.closed, rfl,
    fun t ht => ?_⟩
  have hnow : w.dev.now = t := Option.some.inj ht
  show w.dev.now + cfg.cycleMs ≤ t + (cfg.cycleMs + 0) + 0
  omega

/-- At the top of a cycle all of its waking part is left. -/
theorem topOfCycle_allots (wr : WakeReason) :
    Triple (device cfg) Free (OnTime cfg) (Budget cfg true 0)
      (topOfCycle wr) fun _ => Budget cfg false cfg.cycleMs := by
  have hrest : Takes cfg false 0 (do
      let now ← call .kUptimeGet
      if wr = .vbus then
        Prog.modify fun s => { s with batterySleeps := 0 }
      watchdogPhase .wake
      watchdogFeed
      pure (u32 now) : P Nat) := by
    have hlast : ∀ now : Int, Takes cfg false 0 (do
        watchdogPhase .wake
        watchdogFeed
        pure (u32 now) : P Nat) := fun now =>
      (phase_takes .wake).after fun _ => feed_takes.after fun _ =>
        Spends.ret _
    exact Spends.after (swift_call rfl (by simp)) fun now => Spends.ite
      ((modify_takes _).after fun _ => hlast now) (hlast now)
  exact (begin_allots wr).bind fun _ =>
    hrest.span budget_stretches (by omega)

/-- A battery sleep begins in time, and is allotted its seconds. -/
theorem bed_allots (site : SleepSite) :
    Triple (device cfg) Free (OnTime cfg) (Budget cfg false 0)
      (call (.enter (.batterySleep site)))
      fun _ => Budget cfg true (cfg.sleepSeconds * 1000) := by
  refine Triple.op budget_stable fun w r h _ _ => ?_
  have hended : ∀ t, begun w.log = some t → w.dev.now
      ≤ t + cfg.cycleMs + (granted cfg w.log
        + grant cfg (.call w.st w.dev (.enter (.batterySleep site)) r)
          w.log) := by
    intro t ht
    have hleft : w.dev.since + 0 ≤ t + (cfg.cycleMs + 0) + granted cfg w.log :=
      h.left t ht
    have hexcess := excess_closed h.closed (s := w.st) (d := w.dev)
      (o := .enter (.batterySleep site)) (r := r)
    have hgrant : excess cfg
        (.call w.st w.dev (.enter (.batterySleep site)) r) w.log
      ≤ grant cfg (.call w.st w.dev (.enter (.batterySleep site)) r) w.log :=
      excess_grant _ _
    simp only [allowance] at hexcess
    omega
  have hrecord : OnTime cfg (w.called (device cfg)
    (.enter (.batterySleep site)) r) := ⟨hended, h.record⟩
  refine ⟨hrecord, hrecord, (latest_none rfl).trans h.closed, rfl,
    fun t ht => ?_⟩
  have hnow := hended t ((begun_same rfl w.log).symm.trans ht)
  show w.dev.now + cfg.sleepSeconds * 1000
    ≤ t + (cfg.cycleMs + cfg.sleepSeconds * 1000) + granted cfg (_ :: w.log)
  rw [granted_same rfl]
  omega

/-- A battery sleep is over after its seconds. -/
theorem batterySleep_allots (site : SleepSite) :
    Triple (device cfg) Free (OnTime cfg) (Budget cfg false 0)
      (batterySleep cfg site) fun _ => Budget cfg true 0 := by
  have hwait : Takes cfg true (cfg.sleepSeconds * 1000) (do
      watchdogPhase .sleep
      wakeWait cfg.sleepSeconds : P WakeReason) :=
    (phase_takes .sleep).after fun _ => sleep_takes _
  -- the clock stands still up to the wait
  have hled : Takes cfg true 0 (statusLedSleep cfg) :=
    swift_takes (statusLedSleep_paced cfg) (statusLedSleep_foot cfg) (by simp)
      (by simp) (by simp)
  have harm : ∀ arm, Takes cfg true 0 (motionSetArmed cfg arm) := fun arm =>
    swift_takes (motionSetArmed_paced cfg arm) (motionSetArmed_foot cfg arm)
      (by simp) (by simp) (by simp)
  have hleave : ∀ c, Takes cfg true 0 (call (.leave (.batterySleep site) c)) :=
    fun c => call_takes (.leave (.batterySleep site) c) (fun _ _ _ => rfl)
      ⟨fun _ _ _ => rfl, fun _ _ _ => rfl⟩
  have hbody : ∀ s : Statics, Takes cfg true (cfg.sleepSeconds * 1000) (do
      watchdogPhase .ledSleep
      statusLedSleep cfg
      watchdogPhase .motionArm
      motionSetArmed cfg (decide (cfg.motionSettleCycles ≤ s.batterySleeps))
      if !decide (cfg.motionSettleCycles ≤ s.batterySleeps) then
        Prog.modify fun s => { s with batterySleeps := s.batterySleeps + 1 }
      watchdogPhase .sleep
      wakeWait cfg.sleepSeconds : P WakeReason) := fun s =>
    (phase_takes .ledSleep).after fun _ => hled.after fun _ =>
      (phase_takes .motionArm).after fun _ => (harm _).after fun _ =>
      Spends.ite ((modify_takes _).after fun _ => hwait) hwait
  -- in bed from the entry on, with the seconds of the sleep for a budget
  exact triple_scope (bed_allots site)
    ((Spends.get hbody).span budget_stretches (m := 0) (by omega))
    fun wr => (hleave _).span budget_stretches (by omega)

/-- What a cycle has left at each of its places. -/
def leftAt (cfg : Config) : Place → Nat
  | .during _ _ .woken => cfg.cycleMs
  | .during _ _ .awake =>
      cfg.cloudConnectBudgetSeconds * 1000 + cfg.gnssExtWarmupMs
        + cfg.acquireMs + cfg.tellMs
  | .during _ _ .guarded =>
      cfg.cloudConnectBudgetSeconds * 1000 + cfg.gnssExtWarmupMs
        + cfg.acquireMs + cfg.tellMs
  | .during _ _ .resumed => cfg.gnssExtWarmupMs + cfg.acquireMs + cfg.tellMs
  | .during _ _ .on => cfg.gnssExtWarmupMs + cfg.acquireMs + cfg.tellMs
  | .during _ _ .run => cfg.acquireMs + cfg.tellMs
  | .during _ _ (.ready _) => cfg.tellMs
  | _ => 0

/-- Whether it is in bed there: only before the next begins. -/
def bedAt : Place → Bool
  | .boot => true
  | .top _ => true
  | _ => false

abbrev dutyAt (cfg : Config) (pl : Place) : Tracker → Prop :=
  Budget cfg (bedAt pl) (leftAt cfg pl)

theorem setUp_takes : Takes cfg bed 0 (setUp cfg) :=
  swift_takes (setUp_paced cfg) setUp_foot (by simp) (by simp) (by simp)

theorem keepReporting_takes (site : VbusSite) (motionCycle : Bool) :
    Takes cfg bed 0 (keepReporting cfg site motionCycle) :=
  swift_takes (keepReporting_paced cfg _ _) (keepReporting_foot cfg _ _)
    (by simp) (by simp) (by simp)

/-- What every function takes of the cycle, put together along `main`. -/
theorem duty_walk : Walk cfg Free (OnTime cfg) (dutyAt cfg) where
  gives _ h := h.record
  phase pl p := (phase_takes p).span budget_stretches (by omega)
  setUp := (setUp_takes 0).post fun _ _ h _ => h
  topOfCycle wr := topOfCycle_allots wr
  network u wr := by
    -- registration and link first, out of the amount of a whole cycle
    have hnetwork : cfg.networkMs = (1 + cfg.lteConnectTimeoutSeconds
      + cfg.cloudConnectBudgetSeconds) * 1000 := rfl
    have htakes : Triple (device cfg) Free (OnTime cfg)
        (dutyAt cfg (.during u wr .woken)) (bringUpNetwork cfg)
        fun _ => dutyAt cfg (.during u wr .awake) :=
      network_takes.span budget_stretches (by
        simp only [leftAt, Config.cycleMs]
        omega)
    refine htakes.post fun b w h => ?_
    split
    · exact h
    -- cut short: the rest of the amount lapses
    · exact h.mono (Nat.zero_le _)
  ledCut := (swift_takes (statusLedSet_paced cfg _) (statusLedSet_foot cfg _)
    (by simp) (by simp) (by simp)).span budget_stretches (by simp [leftAt])
  guardStart u wr := (guardStart_takes _).span budget_stretches
    (by simp [leftAt])
  resume u wr := resume_takes.span budget_stretches (by
    simp only [leftAt]
    omega)
  guardStop u wr := guardStop_takes.span budget_stretches (by simp [leftAt])
  ledOn u wr := (led_takes false).span budget_stretches (by simp [leftAt])
  start u wr := by
    have htakes : Triple (device cfg) Free (OnTime cfg)
        (dutyAt cfg (.during u wr .on)) (gnssStart cfg)
        fun _ => dutyAt cfg (.during u wr .run) :=
      start_takes.span budget_stretches (by
        simp only [leftAt]
        omega)
    refine htakes.post fun r w h => ?_
    split
    · exact h
    · exact h.mono (Nat.zero_le _)
  acquire u wr := acquire_takes.span budget_stretches (m := cfg.tellMs)
    (by simp [leftAt])
  firstReport u wr fix := (firstReport_takes fix u wr).span budget_stretches
    (by simp [leftAt])
  keepIf u wr := ((keepReporting_takes _ _) 0).post fun b w h => by
    split <;> exact h
  logLine u wr := (swift_takes (powerVbusPresent_paced _)
    (powerVbusPresent_foot _) (by simp) (by simp) (by simp)).span
      budget_stretches (by simp [leftAt])
  keepWhile u wr := ((keepReporting_takes _ _) 0).post fun b w h => by
    split <;> exact h
  frequentPass u wr := (frequentPass_takes u wr).span budget_stretches
    (by simp [leftAt])
  stop u wr := (swift_takes (gnssStop_paced cfg) (gnssStop_foot cfg)
    (by simp) (by simp) (by simp)).span budget_stretches (by simp [leftAt])
  pause site := (swift_takes (cloudPause_paced cfg) (cloudPause_foot cfg)
    (by simp) (by simp) (by simp)).span budget_stretches (by simp [leftAt])
  sleep site := batterySleep_allots site

/-- In every run everything a cycle does is over within `cycleMs` of its
beginning, its going to sleep included, and everything from then to the
beginning of the next within its sleep more, but for the passes of the
frequent loop and for what calls take beyond their bounds. -/
theorem cycles_bounded {n fuel : Nat} {w : Tracker} (hw : Booted cfg w)
    {c : P Int × Tracker} (hr : Reach (device cfg) (main cfg n fuel) w c) :
    Always (Dutiful cfg) c.2.log := by
  have hstart : dutyAt cfg .boot w := by
    refine ⟨?_, ?_, ?_, ?_⟩
    · rw [OnTime, hw.log]
      trivial
    · rw [hw.log]
      rfl
    · rw [hw.log]
      rfl
    · intro t ht
      rw [hw.log] at ht
      cases ht
  exact duty_walk.reach hstart hr (always_free c.2.log)

/-- A cycle without a fix and its sleep, a pass of the loop, and the times
they took. -/
theorem cycles_bounded_driven :
    let c := playMain fixless (driven false) 2 2 400
    ((begun c.2.log).isSome = true ∧ c.2.log.countP beginsCycle = 2
      ∧ naps fixless c.2.log = 1) ∧
    Always (Dutiful fixless) c.2.log :=
  ⟨by decide +kernel, cycles_bounded (start_booted fixless)
    (playMain_reach fixless (driven false) 2 2 400)⟩

end GpsTracker
