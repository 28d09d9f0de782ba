/-
How much a run can send.

The sim card is billed by the message and the battery by the wake-up, so
what a maintainer wants is a bound on both over any run. A report needs a
cycle or a pass of the frequent loop of its own; a pass sleeps a whole
interval before it reports; a cycle after the first needs a battery sleep
that ended, either because its time was up or because a handler gave the
wake semaphore; and a handler gives it once for each plug-in or jolt.
Every report hands over two messages at most (`Ledger`).

# The argument

Three accounts, each kept by every step of a run. `Timely`: completed
naps and sleeps have taken their time. `Caused`: a semaphore taken was
given, and each give goes back to one interrupt; what is still queued,
running or available is counted by `Dev.owed`. Both hold of any program
on this device. `Books` is the account of `main`: reports against cycles
and naps, cycles against ended sleeps.
-/
import GpsTracker.Laws.Ledger

namespace GpsTracker

open Proc

-- ================================================================ the events

/-- A cycle begins. -/
def beginsCycle : Ev → Bool
  | .call _ _ (.enter (.cycle _)) _ => true
  | _ => false

/-- A report is made. -/
def makesReport : Ev → Bool
  | .call _ _ (.enter (.reportFix _)) _ => true
  | _ => false

/-- A message is handed to a transport. -/
def handsMessage : Ev → Bool
  | .call _ _ (.jsonMessageSend _) _ => true
  | .call _ _ (.sendSocket _) _ => true
  | _ => false

/-- What an event says of the sleep of a pass of the frequent loop: it is to
come once the pass has looked at the supply, and the next sleep is it. -/
def napWord : Ev → Option Bool
  | .call _ _ (.leave (.powerVbusPresent .body) _) _ => some true
  | .call _ _ (.kSleep _) _ => some false
  | _ => none

/-- A pass of the frequent loop has begun and has not slept yet. -/
def drowsy (l : Trace) : Bool := latest napWord false l

/-- A pass of the frequent loop sleeps through its interval. -/
def dozes (cfg : Config) : Ev → Trace → Bool
  | .call _ _ (.kSleep ms) _, l =>
      drowsy l && ms == cfg.chargingIntervalSeconds * 1000
  | _, _ => false

/-- How many intervals of the frequent loop were slept through. -/
def naps (cfg : Config) : Trace → Nat
  | [] => 0
  | e :: l => naps cfg l + (dozes cfg e l).toNat

/-- A battery sleep runs to its end. -/
def sleepsOut (cfg : Config) : Ev → Bool
  | .call _ _ (.semTake .wake ms) r =>
      ms == cfg.sleepSeconds * 1000 && r != (0 : Int)
  | _ => false

/-- A battery sleep ends early. -/
def roused : Ev → Bool
  | .call _ _ (.semTake .wake _) r => r == (0 : Int)
  | _ => false

/-- Power is plugged in, or the tracker is jolted while armed. -/
def stirs : Ev → Bool
  | .env _ _ .vbusIn => true
  | .env _ _ .jolt => true
  | _ => false

-- ==================================================================== the time

section

variable {cfg : Config} {G : Ev → Trace → Prop}

/-- The naps and full sleeps of a log take this long, in milliseconds. -/
def slept (cfg : Config) (l : Trace) : Nat :=
  (l.countP (sleepsOut cfg) * cfg.sleepSeconds
    + naps cfg l * cfg.chargingIntervalSeconds) * 1000

/-- Only a nap counts as one. -/
theorem naps_awake {e : Ev} {l : Trace} (h : dozes cfg e l = false) :
    naps cfg (e :: l) = naps cfg l := by
  rw [naps, h]
  rfl

theorem naps_dozing {e : Ev} {l : Trace} (h : dozes cfg e l = true) :
    naps cfg (e :: l) = naps cfg l + 1 := by
  rw [naps, h]
  rfl

/-- What neither sleeps out nor naps takes no time of this account. -/
theorem slept_quiet {e : Ev} {l : Trace} (hs : sleepsOut cfg e = false)
    (hn : dozes cfg e l = false) : slept cfg (e :: l) = slept cfg l := by
  unfold slept
  rw [List.countP_cons_of_neg (by simp [hs]), naps_awake hn]

theorem slept_out {e : Ev} {l : Trace} (hs : sleepsOut cfg e = true)
    (hn : dozes cfg e l = false) :
    slept cfg (e :: l) = slept cfg l + cfg.sleepSeconds * 1000 := by
  unfold slept
  rw [List.countP_cons_of_pos hs, naps_awake hn, Nat.succ_mul]
  omega

theorem slept_nap {e : Ev} {l : Trace} (hs : sleepsOut cfg e = false)
    (hn : dozes cfg e l = true) : slept cfg (e :: l)
      = slept cfg l + cfg.chargingIntervalSeconds * 1000 := by
  unfold slept
  rw [List.countP_cons_of_neg (by simp [hs]), naps_dozing hn, Nat.succ_mul]
  omega

/-- Since `now₀` there was time for all naps and full sleeps, before the
last call completed. -/
def Timely (cfg : Config) (now₀ : Nat) (w : Tracker) : Prop :=
  now₀ + slept cfg w.log ≤ w.dev.since ∧ w.dev.since ≤ w.dev.now

/-- A call that waited took the time it waited for. -/
theorem Timely.called {now₀ : Nat} {w : Tracker} (h : Timely cfg now₀ w)
    {o : Op} {r : o.Ret} (hok : ok o r w.dev = true) :
    Timely cfg now₀ (w.called (device cfg) o r) := by
  obtain ⟨hsince, hnow⟩ := h
  have hlog : (w.called (device cfg) o r).log
      = .call w.st w.dev o r :: w.log := rfl
  have hdev : (w.called (device cfg) o r).dev = effect o r w.dev := rfl
  have hle : slept cfg (.call w.st w.dev o r :: w.log) + w.dev.since
      ≤ slept cfg w.log + w.dev.now := by
    -- two calls wait: the sleep of a pass and the wait of a battery sleep
    cases o with
    | kSleep ms =>
        have hslept : w.dev.since + ms ≤ w.dev.now := of_decide_eq_true hok
        by_cases hms : dozes cfg (.call w.st w.dev (.kSleep ms) r) w.log
          = true
        · have heq : ms = cfg.chargingIntervalSeconds * 1000 :=
            beq_iff_eq.mp (Bool.and_eq_true_iff.mp hms).2
          rw [slept_nap rfl hms]
          omega
        · rw [slept_quiet rfl (by simpa using hms)]
          omega
    | semTake s ms =>
        by_cases hs : sleepsOut cfg (.call w.st w.dev (.semTake s ms) r)
          = true
        · cases s with
          | wake =>
              have hout : ms = cfg.sleepSeconds * 1000 ∧ r ≠ (0 : Int) := by
                simpa [sleepsOut] using hs
              -- a wait that ran out did so after all of its time
              have hlate : w.dev.since + ms ≤ w.dev.now := by
                have hok' : (if w.dev.sem .wake then
                    r == (0 : Int) && decide (w.dev.now ≤ w.dev.since + ms)
                  else r == -EAGAIN
                    && decide (w.dev.since + ms ≤ w.dev.now)) = true := hok
                split at hok'
                · rw [Bool.and_eq_true, beq_iff_eq] at hok'
                  exact absurd hok'.1 hout.2
                · rw [Bool.and_eq_true] at hok'
                  exact of_decide_eq_true hok'.2
              rw [slept_out hs rfl]
              omega
          | _ => cases hs
        · rw [slept_quiet (by simpa using hs) rfl]
          omega
    | _ =>
        rw [slept_quiet rfl rfl]
        omega
  refine ⟨?_, ?_⟩
  · rw [hlog, hdev]
    show now₀ + slept cfg _ ≤ w.dev.now
    omega
  · rw [hdev, effect_now]
    exact Nat.le_refl _

/-- Time only passes while the thread waits. -/
theorem Timely.moved {now₀ : Nat} {w : Tracker} (h : Timely cfg now₀ w)
    (a : Move) : Timely cfg now₀ (w.moved (device cfg) a) := by
  obtain ⟨hsince, hnow⟩ := h
  have hd := move_drifts cfg a w.dev
  have hquiet : slept cfg (w.moved (device cfg) a).log = slept cfg w.log :=
    slept_quiet rfl rfl
  refine ⟨?_, ?_⟩
  · rw [hquiet]
    exact Nat.le_trans hsince (Nat.le_of_eq hd.since.symm)
  · exact Nat.le_trans (Nat.le_of_eq hd.since) (Nat.le_trans hnow hd.now)

end

-- ================================================================== the causes

section

variable {cfg : Config} {G : Ev → Trace → Prop}

/-- How often the wake semaphore may still be taken with nothing new
happening. -/
def Dev.owed (d : Dev) : Nat :=
  d.semWake.toNat + d.busy.count .give + d.queue.countP Work.wakes

/-- A handler gives the semaphore once, or not at all. -/
theorem steps_give (now : Nat) (w : Work) :
    (w.steps now).count .give = w.wakes.toNat := by
  cases w <;> rfl

/-- What is owed grows by interrupts only. -/
theorem owed_move (cfg : Config) {a : Move} {d : Dev} (h : can a d = true)
    (s : Statics) :
    (move cfg a d).owed ≤ d.owed + (stirs (.env s d a)).toNat := by
  unfold Dev.owed
  cases a with
  | vbusIn => simp [move, stirs, Work.wakes, List.countP_append]; omega
  | vbusOut => simp [move, stirs, Work.wakes, List.countP_append]
  | jolt => simp [move, stirs, Work.wakes, List.countP_append]; omega
  | workStart =>
      have hidle : d.busy = [] ∧ d.queue ≠ [] := by simpa [can] using h
      obtain ⟨w, q, hq⟩ := List.exists_cons_of_ne_nil hidle.2
      simp only [move, hq, hidle.1, steps_give, List.countP_cons]
      cases w <;> simp [Work.wakes] <;> omega
  | workStep =>
      have hbusy : d.busy ≠ [] := by simpa [can] using h
      obtain ⟨m, ms, hm⟩ := List.exists_cons_of_ne_nil hbusy
      simp only [move, hm]
      cases m with
      | give =>
          simp [Micro.run]
          omega
      | _ => simp [Micro.run]
  | give t => cases t <;> simp_all [move, can, Dev.setSem]
  | guardTick =>
      simp only [move]
      split <;> exact Nat.le_add_right _ _
  | _ => exact Nat.le_add_right _ _

/-- A call that takes the semaphore pays for it. -/
theorem owed_call {o : Op} {r : o.Ret} {d : Dev} (h : ok o r d = true)
    (s : Statics) :
    (effect o r d).owed + (roused (.call s d o r)).toNat ≤ d.owed := by
  have hspares := effect_spares o r d
  have hsem := effect_sem .wake o r d
  -- a take that succeeds clears the flag it is paid with
  have hle : (effect o r d).semWake.toNat
      + (roused (.call s d o r)).toNat ≤ d.semWake.toNat := by
    rw [show (effect o r d).semWake = _ from hsem]
    -- only takes and resets touch the flag, and only a take rouses
    cases o with
    | semTake t ms =>
        cases t with
        | wake =>
            have hr := take_answer h
            cases hd : d.semWake with
            | true =>
                have hzero : r = (0 : Int) := hr.mpr hd
                simp [roused, drains, Dev.sem, hzero, hd]
            | false =>
                have hne : r ≠ (0 : Int) := fun hz => by
                  have := hr.mp hz
                  simp [Dev.sem, hd] at this
                simp [roused, drains, Dev.sem, hne, hd]
        | _ =>
            cases hd : d.semWake <;>
              simp [roused, drains, Dev.sem, hd, Bool.toNat_le]
    | semReset t =>
        cases hd : d.semWake <;>
          simp [roused, drains, Dev.sem, hd, Bool.toNat_le]
    | _ => simp [roused, drains, Dev.sem]
  unfold Dev.owed
  rw [hspares.queue, hspares.busy]
  omega

/-- Every early wake-up had its cause. -/
def Caused (w : Tracker) : Prop :=
  w.log.countP roused + w.dev.owed ≤ w.log.countP stirs

/-- Each wake-up is paid for by the interrupt that raised it. -/
theorem caused_frame :
    Frame (device cfg) G Caused Caused (fun _ => True)
      fun _ _ => True where
  stable := fun w a h hcan _ => by
    have hmove := owed_move cfg hcan w.st
    unfold Caused at h ⊢
    show (Event.env w.st w.dev a :: w.log).countP roused
      + (move cfg a w.dev).owed
      ≤ (Event.env w.st w.dev a :: w.log).countP stirs
    rw [List.countP_cons_of_neg (by simp [roused]), List.countP_cons]
    cases hs : stirs (.env w.st w.dev a) <;> simp [hs] at hmove ⊢ <;> omega
  calls := fun w o r _ h hok _ => by
    have hcall := owed_call hok w.st
    unfold Caused at h ⊢
    show (Event.call w.st w.dev o r :: w.log).countP roused
      + (effect o r w.dev).owed
      ≤ (Event.call w.st w.dev o r :: w.log).countP stirs
    rw [List.countP_cons, List.countP_cons_of_neg (by simp [stirs])]
    cases hs : roused (.call w.st w.dev o r) <;> simp [hs] at hcall ⊢ <;> omega
  writes := fun _ _ _ h => h
  gives := fun _ h => h

/-- And each sleep by the clock. -/
theorem timely_frame (now₀ : Nat) :
    Frame (device cfg) G (Timely cfg now₀) (Timely cfg now₀) (fun _ => True)
      fun _ _ => True where
  stable := fun _ a h _ _ => h.moved a
  calls := fun _ _ _ _ h hok _ => h.called hok
  writes := fun _ _ _ h => h
  gives := fun _ h => h

end

-- =================================================================== the books

section

variable {cfg : Config} {G : Ev → Trace → Prop}

/-- Reports against cycles and naps, cycles against ended sleeps, with `a`
reports and `b` cycles still to come. -/
def Books (cfg : Config) (a b : Nat) (w : Tracker) : Prop :=
  w.log.countP makesReport + a
    ≤ w.log.countP beginsCycle + naps cfg w.log
  ∧ w.log.countP beginsCycle + b
    ≤ w.log.countP (sleepsOut cfg) + w.log.countP roused + 1

/-- What is still to come may be given up. -/
theorem Books.settle {a b : Nat} {w : Tracker} (h : Books cfg a b w) :
    Books cfg 0 0 w :=
  ⟨Nat.le_of_add_right_le h.1, Nat.le_of_add_right_le h.2⟩

/-- What neither begins a cycle nor makes a report can only help. -/
theorem Books.cons {a b : Nat} {w w' : Tracker} (h : Books cfg a b w) {e : Ev}
    (hlog : w'.log = e :: w.log) (hc : beginsCycle e = false)
    (hr : makesReport e = false) : Books cfg a b w' := by
  obtain ⟨hreports, hcycles⟩ := h
  unfold Books
  rw [hlog, List.countP_cons_of_neg (by simp [hr]),
    List.countP_cons_of_neg (by simp [hc]), List.countP_cons,
    List.countP_cons, naps]
  omega

/-- The marks the books are kept of. -/
abbrev bookGroups : List Group :=
  [.mark (.cycle .boot), .mark (.cycle .timer), .mark (.cycle .vbus),
    .mark (.cycle .motion), .mark (.reportFix true), .mark (.reportFix false)]

private theorem bookGroups_off {o : Op} (h : Off bookGroups o) (s : Statics)
    (d : Dev) (r : o.Ret) : beginsCycle (.call s d o r) = false
      ∧ makesReport (.call s d o r) = false := by
  cases o with
  | enter f =>
      cases f with
      | cycle wr => cases wr <;> exact absurd h (by simp [Off])
      | reportFix b => cases b <;> exact absurd h (by simp [Off])
      | _ => exact ⟨rfl, rfl⟩
  | _ => exact ⟨rfl, rfl⟩

/-- What neither begins nor reports keeps the books. -/
theorem books_frame (a b : Nat) :
    Frame (device cfg) G (Books cfg 0 0) (Books cfg a b) (Off bookGroups)
      (Keep []) where
  stable := fun _ _ h _ _ => h.cons rfl rfl rfl
  calls := fun w _ r ho h _ _ =>
    h.cons rfl (bookGroups_off ho w.st w.dev r).1
      (bookGroups_off ho w.st w.dev r).2
  writes := fun _ _ _ h => h
  gives := fun _ h => h.settle

/-- A call that moves the books, by what it adds to the log. -/
theorem call_books {o : Op} {a b a' b' : Nat}
    (h : ∀ s d (r : o.Ret) l, Books cfg a b ⟨s, d, l⟩ →
      Books cfg a' b' ⟨s, d, .call s d o r :: l⟩) :
    Triple (device cfg) G (Books cfg 0 0) (Books cfg a b) (call o)
      fun _ => Books cfg a' b' := by
  refine Triple.op (books_frame a b).stable fun w r hw _ _ => ?_
  have hw' : Books cfg a' b' (w.called (device cfg) o r) :=
    h w.st w.dev r w.log hw
  exact ⟨hw'.settle, hw'⟩

/-- A cycle is begun on the sleep that ended before it, or on the boot. -/
theorem topOfCycle_books (wr : WakeReason) :
    Triple (device cfg) G (Books cfg 0 0) (Books cfg 0 1) (topOfCycle wr)
      fun _ => Books cfg 1 0 := by
  have hbegin : Triple (device cfg) G (Books cfg 0 0) (Books cfg 0 1)
      (call (.enter (.cycle wr))) fun _ => Books cfg 1 0 := by
    refine call_books fun s d r l h => ?_
    unfold Books at h ⊢
    simp only [List.countP_cons, beginsCycle, makesReport, naps, dozes,
      sleepsOut, roused] at h ⊢
    simp
    omega
  have hrest : Foot [.plain] [.phase, .batterySleeps] (do
      let now ← call .kUptimeGet
      if wr = .vbus then
        Prog.modify fun s => { s with batterySleeps := 0 }
      watchdogPhase .wake
      watchdogFeed
      pure (u32 now)) := by
    simp [watchdogPhase, watchdogFeed, Var.forall]
  exact hbegin.bind fun _ => part (books_frame 1 0) hrest (by simp) (by simp)

/-- A report is made on its cycle or its nap. -/
theorem reportFix_books (fix : Option TrackerFix) (u : Nat)
    (wr : WakeReason) :
    Triple (device cfg) G (Books cfg 0 0) (Books cfg 1 0)
      (reportFix cfg fix u wr) fun _ => Books cfg 0 0 := by
  refine triple_scoped (reportFix_scoped cfg fix u wr) (books_frame 0 0)
    (by simp) (by simp) ?_ fun a => ?_
  · refine call_books fun s d r l h => ?_
    unfold Books at h ⊢
    simp only [List.countP_cons, beginsCycle, makesReport, naps, dozes,
      sleepsOut, roused] at h ⊢
    simp
    omega
  · exact call_books fun s d r l h => h.cons rfl rfl rfl

/-- A report that is due is made or given up. -/
theorem reportOrSkip_books (fix : Option TrackerFix) (u : Nat)
    (wr : WakeReason) :
    Triple (device cfg) G (Books cfg 0 0) (Books cfg 1 0)
      (reportOrSkip cfg fix u wr) fun _ => Books cfg 0 0 := by
  have hled : ∀ b, Triple (device cfg) G (Books cfg 0 0) (Books cfg 0 0)
      (statusLedReport cfg b) fun _ => Books cfg 0 0 := fun b =>
    part (books_frame 0 0) (statusLedReport_foot cfg b) (by simp) (by simp)
  cases fix with
  | some fix => exact (reportFix_books (some fix) u wr).bind fun _ => hled true
  | none =>
      refine Triple.ite (fun _ => ?_) fun _ => (hled false).pre
        fun w h => h.settle
      exact (reportFix_books none u wr).bind fun _ => hled false

/-- The first report is the cycle's own. -/
theorem firstReport_books (fix : Option TrackerFix) (u : Nat)
    (wr : WakeReason) :
    Triple (device cfg) G (Books cfg 0 0) (Books cfg 1 0)
      (firstReport cfg fix u wr) fun _ => Books cfg 0 0 := by
  have hfeed : ∀ a, Triple (device cfg) G (Books cfg 0 0) (Books cfg a 0)
      watchdogFeed fun _ => Books cfg a 0 := fun a =>
    part (books_frame a 0) watchdogFeed_foot (by simp) (by simp)
  cases fix with
  | none =>
      exact (hfeed 1).bind fun _ => (reportOrSkip_books none u wr).bind
        fun _ => hfeed 0
  | some fix =>
      exact (hfeed 1).bind fun _ => (part (books_frame 1 0)
        (settleFix_foot cfg fix) (by simp) (by simp)).bind fun better =>
        (reportOrSkip_books (some better) u wr).bind fun _ => hfeed 0

/-- What neither looks at the supply for a pass nor sleeps keeps a pass
where it is. -/
theorem drowsy_frame :
    Frame (device cfg) G (fun _ => True) (fun w => drowsy w.log = true)
      (Off [.plain, .mark (.powerVbusPresent .body)]) (Keep []) where
  stable := fun _ _ h _ _ => h
  calls := fun w o r ho h _ _ => by
    have hword : napWord (.call w.st w.dev o r) = none := by
      cases o with
      | kSleep ms => exact absurd ho (by simp [Off])
      | leave f c =>
          cases f with
          | powerVbusPresent site =>
              cases site <;> first | rfl | exact absurd ho (by simp [Off])
          | _ => rfl
      | _ => rfl
    exact (latest_none hword).trans h
  writes := fun _ _ _ h => h
  gives := fun _ _ => trivial

/-- `holdOffMotion` begins a pass: its interval is to be slept. -/
theorem holdOffMotion_drowsy :
    Triple (device cfg) G (fun _ => True) (fun _ => True)
      (holdOffMotion cfg) fun _ w => drowsy w.log = true := by
  have F : Frame (device cfg) G (fun _ => True) (fun _ => True) (Off [])
    (Keep []) := ⟨fun _ _ _ _ _ => trivial,
      fun _ _ _ _ _ _ _ => trivial, fun _ _ _ _ => trivial,
      fun _ _ => trivial⟩
  have hlook : Triple (device cfg) G (fun _ => True) (fun _ => True)
      (powerVbusPresent .body) fun _ w => drowsy w.log = true :=
    triple_scoped (powerVbusPresent_scoped .body) F (by simp) (by simp)
      (F.keeps (Within.op (by simp [Off]))) fun b =>
      Triple.op F.stable fun w r _ _ _ => ⟨trivial, rfl⟩
  refine hlook.bind fun present => Triple.ite (fun _ => ?_)
    fun _ => Triple.ret fun w h => h
  exact (part drowsy_frame (motionSetArmed_foot cfg false) (by simp)
    (by simp)).bind fun _ => Triple.modify fun w h => ⟨trivial, h⟩

/-- A pass that has begun sleeps through its interval. -/
theorem nap_books :
    Triple (device cfg) G (Books cfg 0 0)
      (fun w => Books cfg 0 0 w ∧ drowsy w.log = true)
      (call (.kSleep (cfg.chargingIntervalSeconds * 1000)))
      fun _ => Books cfg 1 0 := by
  refine Triple.op ((books_frame 0 0).stable.and fun _ _ h _ _ => h)
    fun w r h _ _ => ?_
  obtain ⟨⟨hreports, hcycles⟩, hdrowsy⟩ := h
  have hdozes : dozes cfg (.call w.st w.dev
      (.kSleep (cfg.chargingIntervalSeconds * 1000)) r) w.log = true := by
    rw [dozes, hdrowsy, beq_self_eq_true]
    rfl
  have hbooks : Books cfg 1 0 (w.called (device cfg)
      (.kSleep (cfg.chargingIntervalSeconds * 1000)) r) := by
    refine ⟨?_, hcycles⟩
    have hnaps := naps_dozing hdozes
    show w.log.countP makesReport + 1
      ≤ w.log.countP beginsCycle + naps cfg (_ :: w.log)
    omega
  exact ⟨hbooks.settle, hbooks⟩

/-- A pass sleeps its interval and may then report. -/
theorem frequentPass_books (u : Nat) (wr : WakeReason) :
    Triple (device cfg) G (Books cfg 0 0) (Books cfg 0 0)
      (frequentPass cfg u wr) fun _ => Books cfg 0 0 := by
  have hhold : Triple (device cfg) G (Books cfg 0 0) (Books cfg 0 0)
      (holdOffMotion cfg)
      fun _ w => Books cfg 0 0 w ∧ drowsy w.log = true :=
    ((part (books_frame 0 0) (holdOffMotion_foot cfg) (by simp)
      (by simp)).and holdOffMotion_drowsy).pre fun w h => ⟨h, trivial⟩
  exact (part (books_frame 0 0) (watchdogPhase_foot _) (by simp)
    (by simp)).bind fun _ => hhold.bind fun _ => nap_books.bind fun _ =>
    (part (books_frame 1 0) watchdogFeed_foot (by simp) (by simp)).bind
    fun _ => (part (books_frame 1 0) (gnssWaitFix_foot cfg 10) (by simp)
    (by simp)).bind fun r => reportOrSkip_books r.toOption u wr

/-- A battery sleep ends, and the next cycle may begin. -/
theorem wakeWait_books :
    Triple (device cfg) G (Books cfg 0 0) (Books cfg 0 0)
      (wakeWait cfg.sleepSeconds) fun _ => Books cfg 0 1 := by
  have hkeep : ∀ o : Op, Off bookGroups o → ∀ b, Triple (device cfg) G
      (Books cfg 0 0) (Books cfg 0 b) (call o) fun _ => Books cfg 0 b :=
    fun o ho b => (books_frame 0 b).keeps (Within.op ho)
  have htake : Triple (device cfg) G (Books cfg 0 0) (Books cfg 0 0)
      (call (.semTake .wake (cfg.sleepSeconds * 1000)))
      fun _ => Books cfg 0 1 := by
    refine call_books fun s d r l h => ?_
    unfold Books at h ⊢
    simp only [List.countP_cons, beginsCycle, makesReport, naps, dozes,
      sleepsOut, roused] at h ⊢
    by_cases hr : r = (0 : Int)
    · simp [hr]
      omega
    · simp [hr]
      omega
  refine triple_scope (hkeep _ (by simp [Off]) 0)
    (R := fun _ => Books cfg 0 1) ?_ fun r => hkeep _ (by simp [Off]) 1
  exact (hkeep _ (by simp [Off]) 0).bind fun _ =>
    (hkeep _ (by simp [Off]) 0).bind fun _ => htake.bind fun r =>
    Triple.ite (fun _ => Triple.ret fun w h => h)
      fun _ => hkeep _ (by simp [Off]) 1

/-- A battery sleep ends by its time or by a give, and either allows a cycle.
-/
theorem batterySleep_books (site : SleepSite) :
    Triple (device cfg) G (Books cfg 0 0) (Books cfg 0 0)
      (batterySleep cfg site) fun _ => Books cfg 0 1 := by
  have F : Frame (device cfg) G (Books cfg 0 0) (Books cfg 0 0)
    (Off bookGroups) (Keep []) := books_frame 0 0
  refine triple_scope (call_books fun s d r l h => h.cons rfl rfl rfl)
    (Triple.get fun s => Triple.pre (P := Books cfg 0 0) ?_ fun w h => h.1)
    fun r => call_books fun s d r l h => h.cons rfl rfl rfl
  have hwait : Triple (device cfg) G (Books cfg 0 0) (Books cfg 0 0) (do
      watchdogPhase .sleep
      wakeWait cfg.sleepSeconds) fun _ => Books cfg 0 1 :=
    (part F (watchdogPhase_foot _) (by simp) (by simp)).bind
      fun _ => wakeWait_books
  refine (part F (watchdogPhase_foot _) (by simp) (by simp)).bind fun _ =>
    (part F (statusLedSleep_foot cfg) (by simp) (by simp)).bind fun _ =>
    (part F (watchdogPhase_foot _) (by simp) (by simp)).bind fun _ =>
    (part F (motionSetArmed_foot cfg _) (by simp) (by simp)).bind fun _ =>
    Triple.ite (fun _ => ?_) fun _ => hwait
  exact Triple.bind (R := fun _ => Books cfg 0 0)
    (Triple.modify fun w h => ⟨h, h⟩) fun _ => hwait

/-- The network begins nothing and reports nothing. -/
theorem bringUpNetwork_books :
    Triple (device cfg) G (Books cfg 0 0) (Books cfg 1 0)
      (bringUpNetwork cfg) fun _ => Books cfg 1 0 := by
  have F : Frame (device cfg) G (Books cfg 0 0) (Books cfg 1 0)
    (Off bookGroups) (Keep []) := books_frame 1 0
  refine Triple.ite (fun _ => Triple.ret fun w h => h) fun _ => ?_
  exact (part F (recoverIfSilent_foot cfg) (by simp) (by simp)).bind fun _ =>
    (part F (watchdogPhase_foot _) (by simp) (by simp)).bind fun _ =>
    (part F (lteEnsureConnected_foot cfg) (by simp) (by simp)).bind
    fun r => Triple.ret fun w h => h

/-- The books at each place of `main`. -/
def booksAt (cfg : Config) : Place → Tracker → Prop
  | .boot => Books cfg 0 1
  | .top _ => Books cfg 0 1
  | .during _ _ .told => Books cfg 0 0
  | .during _ _ .pass => Books cfg 0 0
  | .during _ _ .done => Books cfg 0 0
  | .during _ _ _ => Books cfg 1 0
  | .cut => Books cfg 0 0
  | .off _ => Books cfg 0 0
  | .bed _ => Books cfg 0 0

theorem booksAt_frame (pl : Place) :
    Frame (device cfg) G (Books cfg 0 0) (booksAt cfg pl) (Off bookGroups)
      (Keep []) := by
  cases pl with
  | during u wr stage => cases stage <;> exact books_frame _ _
  | _ => exact books_frame _ _

/-- The books are kept along all of `main`: a cycle is due at its top, a
report until it is told, and a pass brings its own. -/
theorem books_walk : Walk cfg G (Books cfg 0 0) (booksAt cfg) where
  gives _ h := h.settle
  phase pl p := part (booksAt_frame pl) (watchdogPhase_foot p) (by simp)
    (by simp)
  setUp := (part (books_frame 0 1) setUp_foot (by simp) (by simp)).post
    fun _ _ h _ => h
  topOfCycle wr := topOfCycle_books wr
  network u wr := bringUpNetwork_books.post fun b w h => by
    -- a cycle without a network tells nothing, and its due is settled
    cases b with
    | true => exact h
    | false => exact h.settle
  ledCut := part (books_frame 0 0) (statusLedSet_foot cfg .noLte) (by simp)
    (by simp)
  guardStart u wr := part (books_frame 1 0) (watchdogGuardStart_foot _)
    (by simp) (by simp)
  resume u wr := part (books_frame 1 0) (cloudResume_foot cfg) (by simp)
    (by simp)
  guardStop u wr := part (books_frame 1 0) watchdogGuardStop_foot (by simp)
    (by simp)
  ledOn u wr := part (books_frame 1 0) (statusLedReport_foot cfg false)
    (by simp) (by simp)
  start u wr := (part (books_frame 1 0) (gnssStart_foot cfg) (by simp)
    (by simp)).post fun r w h => by
      split
      · exact h
      · exact h.settle
  acquire u wr := part (books_frame 1 0) (acquire_foot cfg) (by simp) (by simp)
  firstReport u wr fix := firstReport_books fix u wr
  keepIf u wr := (part (books_frame 0 0) (keepReporting_foot cfg _ _)
    (by simp) (by simp)).post fun b w h => by split <;> exact h
  logLine u wr := part (books_frame 0 0) (powerVbusPresent_foot _) (by simp)
    (by simp)
  keepWhile u wr := (part (books_frame 0 0) (keepReporting_foot cfg _ _)
    (by simp) (by simp)).post fun b w h => by split <;> exact h
  frequentPass u wr := frequentPass_books u wr
  stop u wr := part (books_frame 0 0) (gnssStop_foot cfg) (by simp) (by simp)
  pause site := part (books_frame 0 0) (cloudPause_foot cfg) (by simp)
    (by simp)
  sleep site := batterySleep_books site

end

-- ===================================================================== the law

/-- A count of marks is a count of events. -/
theorem marks_countP {p : Mark → Bool} {q : Ev → Bool}
    (h : ∀ e, ((mark e).map p).getD false = q e) (l : Trace) :
    (marks l).countP p = l.countP q := by
  unfold marks said
  rw [List.countP_filterMap]
  exact List.countP_congr fun e _ => by rw [h e]

/-- The schedule's word for a message is the message itself. -/
theorem isMessage_mark (e : Ev) :
    ((mark e).map Mark.isMessage).getD false = handsMessage e := by
  cases e with
  | env s d a => rfl
  | call s d o r =>
      cases o with
      | enter f => cases f <;> rfl
      | leave f c =>
          cases f with
          | powerVbusPresent site => cases site <;> rfl
          | _ => rfl
      | funcModeSet m => cases m <;> rfl
      | _ => rfl

/-- And its word for a report, the report. -/
theorem isReport_mark (e : Ev) :
    ((mark e).map Mark.isReport).getD false = makesReport e := by
  cases e with
  | env s d a => rfl
  | call s d o r =>
      cases o with
      | enter f => cases f <;> rfl
      | leave f c =>
          cases f with
          | powerVbusPresent site => cases site <;> rfl
          | _ => rfl
      | funcModeSet m => cases m <;> rfl
      | _ => rfl

variable {cfg : Config}

/-- A report hands over two messages at most. -/
theorem messages_reports {l : Trace} {q : Station}
    (h : (schedule cfg).run (marks l) = some q) :
    l.countP handsMessage ≤ 2 * l.countP makesReport := by
  have hmessages := messages_credit h
  rwa [marks_countP isMessage_mark, marks_countP isReport_mark]
    at hmessages

/-- The three accounts of every run. -/
theorem accounts_reach {w : Tracker} (hw : Booted cfg w)
    (hnow : w.dev.since = w.dev.now) {n fuel : Nat} {c : P Int × Tracker}
    (hr : Reach (device cfg) (main cfg n fuel) w c) :
    Books cfg 0 0 c.2 ∧ Caused c.2 ∧ Timely cfg w.dev.now c.2 := by
  refine ⟨books_walk.reach ?_ hr (always_free c.2.log),
    caused_frame.invariant_reach ?_ hr,
    (timely_frame w.dev.now).invariant_reach ?_ hr⟩
  · show Books cfg 0 1 w
    rw [Books, hw.log]
    exact ⟨Nat.le_refl _, Nat.le_refl _⟩
  · rw [Caused, hw.log, Dev.owed, hw.semWake, hw.busy, hw.queue]
    exact Nat.le_refl _
  · have hslept : slept cfg [] = 0 := by simp [slept, naps]
    rw [Timely, hw.log, hnow, hslept]
    exact ⟨Nat.le_refl _, Nat.le_refl _⟩

/-- In every run the messages are at most two for the boot, for each plug-in
or jolt, for each sleep slept out and for each nap, and the sleeps and naps
have taken their time since the boot. -/
theorem traffic_bounded {w : Tracker} (hw : Booted cfg w)
    (hnow : w.dev.since = w.dev.now) {n fuel : Nat} {c : P Int × Tracker}
    (hr : Reach (device cfg) (main cfg n fuel) w c) :
    c.2.log.countP handsMessage
      ≤ 2 * (1 + c.2.log.countP stirs + c.2.log.countP (sleepsOut cfg)
        + naps cfg c.2.log)
    ∧ w.dev.now + (c.2.log.countP (sleepsOut cfg) * cfg.sleepSeconds
        + naps cfg c.2.log * cfg.chargingIntervalSeconds) * 1000
      ≤ c.2.dev.now := by
  obtain ⟨hbooks, hcaused, htimely⟩ := accounts_reach hw hnow hr
  obtain ⟨q, hq⟩ := schedule_reach cfg hw.log hr
  have hmessages := messages_reports hq
  obtain ⟨hreports, hcycles⟩ := hbooks
  unfold Caused at hcaused
  exact ⟨by omega, Nat.le_trans htimely.1 htimely.2⟩

/-- A plug-in, a nap and two messages. -/
theorem traffic_bounded_driven :
    let c := playMain fixless (driven false) 1 2 400
    (c.2.log.countP handsMessage = 2 ∧ c.2.log.countP stirs = 1
      ∧ naps fixless c.2.log = 1) ∧
    c.2.log.countP handsMessage
      ≤ 2 * (1 + c.2.log.countP stirs + c.2.log.countP (sleepsOut fixless)
        + naps fixless c.2.log)
    ∧ (start fixless).dev.now
      + (c.2.log.countP (sleepsOut fixless) * fixless.sleepSeconds
        + naps fixless c.2.log * fixless.chargingIntervalSeconds)
        * 1000 ≤ c.2.dev.now :=
  ⟨by decide +kernel, traffic_bounded (start_booted fixless) rfl
    (playMain_reach fixless (driven false) 1 2 400)⟩

end GpsTracker
