/-
A tracker on the shelf: no power, no motion, and a charger that answers.

Then no handler runs, so no jolt is on record and the battery sleeps run
to their end; every look at the supply finds none and no surge is active,
so the frequent loop is never entered. What is left is one report for each
cycle and one cycle for each sleep slept out.
-/
import GpsTracker.Laws.Traffic

namespace GpsTracker

open Proc

/-- Nothing stirs the tracker, and its charger answers. -/
def liesStill : Ev → Bool
  | .call _ _ .chargerFetch r => r == (0 : Int)
  | .call _ _ .vbusStatusGet r => r.1 == 0
  | e => !stirs e

/-- The runs of a tracker on the shelf. -/
def Shelved (e : Ev) (_ : Trace) : Prop := liesStill e = true

instance (e : Ev) (l : Trace) : Decidable (Shelved e l) :=
  inferInstanceAs (Decidable (liesStill e = true))

/-- Nothing has happened to the device. -/
structure Dev.Still (d : Dev) : Prop where
  vbus : d.vbus = false
  queue : d.queue = []
  busy : d.busy = []
  lastEventHi : d.lastEventHi = 0
  lastEventLo : d.lastEventLo = 0

variable {cfg : Config}

/-- Calls do not stir. -/
theorem Dev.Still.effect {d : Dev} (h : d.Still) (o : Op) (r : o.Ret) :
    (effect o r d).Still := by
  have hs := effect_spares o r d
  constructor
  · exact hs.vbus.trans h.vbus
  · exact hs.queue.trans h.queue
  · exact hs.busy.trans h.busy
  · exact hs.lastEventHi.trans h.lastEventHi
  · exact hs.lastEventLo.trans h.lastEventLo

/-- Nor do moves that run no handler. -/
theorem Dev.Still.rests {d d' : Dev} (h : d.Still) (hrests : Rests d d') :
    d'.Still :=
  ⟨hrests.vbus.trans h.vbus, hrests.queue.trans h.queue,
    hrests.busy.trans h.busy, hrests.lastEventHi.trans h.lastEventHi,
    hrests.lastEventLo.trans h.lastEventLo⟩

/-- And without an interrupt no handler runs. -/
theorem Dev.Still.move {d : Dev} (h : d.Still) {a : Move}
    (hcan : can a d = true) (s : Statics)
    (hstill : stirs (.env s d a) = false) :
    (move cfg a d).Still ∧ (move cfg a d).vbusConnected = d.vbusConnected := by
  cases a with
  | vbusIn => cases hstill
  | jolt => cases hstill
  | vbusOut => simp [can, h.vbus] at hcan
  | workStart => simp [can, h.queue] at hcan
  | workStep => simp [can, h.busy] at hcan
  | _ =>
      exact ⟨h.rests (move_rests cfg rfl d),
        (move_rests cfg rfl d).vbusConnected⟩

-- ================================================================== the looks

/-- A word that lets `main` into the frequent loop, or keeps it there: a look
that found power, or a surge that was active. -/
def Mark.keeps : Mark → Bool
  | .look _ b => b
  | .surge b => b
  | _ => false

/-- The call that says it. -/
def goesOn (e : Ev) : Bool := ((mark e).map Mark.keeps).getD false

/-- The tracker lies still, and nothing has kept the loop going. -/
def Shelf (w : Tracker) : Prop := w.dev.Still ∧ w.log.countP goesOn = 0

private theorem supplyGroups_off {o : Op} (h : Off supplyGroups o) (s : Statics)
    (d : Dev) (r : o.Ret) : goesOn (.call s d o r) = false := by
  cases o with
  | enter f => cases f <;> rfl
  | leave f c =>
      cases f with
      | powerVbusPresent site =>
          cases site <;> first | rfl | exact absurd h (by simp [Off])
      | surgeActive mc => cases mc <;> exact absurd h (by simp [Off])
      | _ => rfl
  | funcModeSet m => cases m <;> rfl
  | _ => rfl

/-- A call keeps the shelf where it says nothing that lets the loop go on. -/
theorem Shelf.called {w : Tracker} (h : Shelf w) {o : Op} {r : o.Ret}
    (he : goesOn (.call w.st w.dev o r) = false) :
    Shelf (w.called (device cfg) o r) := by
  refine ⟨h.1.effect o r, ?_⟩
  show (Event.call w.st w.dev o r :: w.log).countP goesOn = 0
  rw [List.countP_cons_of_neg (by simp [he])]
  exact h.2

/-- The surroundings keep it: nothing is plugged in, nothing jolts, and no
handler is queued. -/
theorem Shelf.moved {w : Tracker} (h : Shelf w) {a : Move}
    (hcan : can a w.dev = true)
    (hG : Always Shelved (w.moved (device cfg) a).log) :
    Shelf (w.moved (device cfg) a)
      ∧ (w.moved (device cfg) a).dev.vbusConnected
        = w.dev.vbusConnected := by
  have hlies : stirs (.env w.st w.dev a) = false := by
    simpa [Shelved, liesStill] using hG.1
  obtain ⟨hstill, hword⟩ := h.1.move hcan w.st hlies
  refine ⟨⟨hstill, ?_⟩, hword⟩
  show (Event.env w.st w.dev a :: w.log).countP goesOn = 0
  rw [List.countP_cons_of_neg (by simp [goesOn, mark])]
  exact h.2

/-- Away from the looks and the surge nothing lets the loop go on. -/
theorem shelf_frame :
    Frame (device cfg) Shelved Shelf Shelf (Off supplyGroups) (Keep []) where
  stable := fun _ _ h hcan hG => (h.moved hcan hG).1
  calls := fun w _ r ho h _ _ => h.called (supplyGroups_off ho w.st w.dev r)
  writes := fun _ _ _ h => h
  gives := fun _ h => h

/-- A call of `p` that says nothing leaves the shelf, and its answer is one
the machine may give on it. -/
theorem call_shelf {o : Op} {Q : o.Ret → Prop}
    (ho : ∀ s d r, goesOn (.call s d o r) = false)
    (hq : ∀ s (d : Dev) r l, d.Still → ok o r d = true →
      Shelved (.call s d o r) l → Q r) :
    Triple (device cfg) Shelved Shelf Shelf (call o)
      fun r w => Shelf w ∧ Q r :=
  Triple.op shelf_frame.stable fun w r h hok hG =>
    have hw : Shelf (w.called (device cfg) o r) :=
      h.called (ho w.st w.dev r)
    ⟨hw, hw, hq w.st w.dev r w.log h.1 hok hG.1⟩

/-- The supply is read as it is. -/
theorem readVbusPresent_shelf :
    Triple (device cfg) Shelved Shelf Shelf readVbusPresent
      fun b w => Shelf w ∧ b = false := by
  refine Triple.bind (R := fun r w => Shelf w ∧ r = (0 : Int))
    (call_shelf (o := .chargerFetch) (by simp [goesOn, mark, Op.mark])
      fun _ _ _ _ _ _ h => beq_iff_eq.mp h) fun err => ?_
  refine Triple.ite (fun herr w h => absurd h.2 herr) fun _ =>
    Triple.pre (P := Shelf) ?_ fun w h => h.1
  refine Triple.bind (R := fun (r : Int × Bool) w => Shelf w
    ∧ (r.1 = 0 ∧ r.2 = false)) (call_shelf (o := .vbusStatusGet)
      (Q := fun r => r.1 = 0 ∧ r.2 = false) (by simp [goesOn, mark, Op.mark])
      fun s d r l hd hok hr => ?_) fun r => ?_
  · have hzero : r.1 = 0 := beq_iff_eq.mp hr
    have hread : (r.1 != 0 || r.2 == d.vbus) = true := hok
    rw [hzero, hd.vbus] at hread
    exact ⟨hzero, by simpa using hread⟩
  · obtain ⟨err, present⟩ := r
    exact Triple.ite (fun herr w h => absurd h.2.1 herr) fun _ =>
      Triple.ret fun w h => ⟨h.1, h.2.2⟩

/-- A look at the supply finds none. -/
theorem powerVbusPresent_shelf (site : VbusSite) :
    Triple (device cfg) Shelved Shelf Shelf (powerVbusPresent site)
      fun b w => Shelf w ∧ b = false := by
  refine triple_scope (Y := Shelf) (R := fun b w => Shelf w ∧ b = false)
    ?_ ?_ fun b => ?_
  · exact (call_shelf (Q := fun _ => True) (by simp [goesOn, mark, Op.mark])
      fun _ _ _ _ _ _ _ => trivial).post fun _ w h => h.1
  · refine readVbusPresent_shelf.bind fun present => ?_
    refine Triple.bind (R := fun _ w => Shelf w
      ∧ w.dev.vbusConnected = false) ?_ fun _ => ?_
    · intro w h
      obtain ⟨hshelf, rfl⟩ := h
      refine Triple.op (R := fun _ w => Shelf w
        ∧ w.dev.vbusConnected = false) shelf_frame.stable
        (fun w r h _ _ => ?_) w hshelf
      have hw : Shelf (w.called (device cfg) (.vbusConnectedSet false) r) :=
        h.called rfl
      exact ⟨hw, hw, rfl⟩
    · refine Triple.op (fun w a h hcan hG => ?_) fun w r h hok _ => ?_
      · obtain ⟨hshelf, hword⟩ := h.1.moved hcan hG
        exact ⟨hshelf, hword.trans h.2⟩
      · have hw : Shelf (w.called (device cfg) .vbusConnectedGet r) :=
          h.1.called rfl
        have hr : (r == w.dev.vbusConnected) = true := hok
        rw [h.2] at hr
        exact ⟨hw, hw, beq_iff_eq.mp hr⟩
  · intro w h
    obtain ⟨hshelf, rfl⟩ := h
    refine (call_shelf (o := .leave (.powerVbusPresent site) 0)
      (Q := fun _ => false = false) (fun s d r => ?_)
      fun _ _ _ _ _ _ _ => rfl) w hshelf
    cases site <;> rfl

/-- No surge is active. -/
theorem surgeActive_shelf (motionCycle : Bool) :
    Triple (device cfg) Shelved Shelf Shelf (surgeActive cfg motionCycle)
      fun b w => Shelf w ∧ b = false := by
  have hlast : Triple (device cfg) Shelved Shelf Shelf
      (motionLastEventUptime cfg) fun t w => Shelf w ∧ t = 0 := by
    refine Triple.ite (fun _ => Triple.ret fun w h => ⟨h, rfl⟩) fun _ => ?_
    refine Triple.bind (R := fun lo w => Shelf w ∧ lo = 0)
      (call_shelf (o := .lastEventLoGet) (Q := fun r => r = (0 : Nat))
        (by simp [goesOn, mark, Op.mark])
        fun s d r l hd hok _ => (beq_iff_eq.mp hok).trans hd.lastEventLo)
      fun lo => ?_
    intro w h
    obtain ⟨hshelf, rfl⟩ := h
    refine Triple.bind (R := fun hi w => Shelf w ∧ hi = 0)
      (call_shelf (o := .lastEventHiGet) (Q := fun r => r = (0 : Nat))
        (by simp [goesOn, mark, Op.mark])
        fun s d r l hd hok _ => (beq_iff_eq.mp hok).trans hd.lastEventHi)
      (fun hi => Triple.ret fun w h => ⟨h.1, ?_⟩) w hshelf
    rw [h.2]
    rfl
  refine triple_scope (Y := Shelf) (R := fun b w => Shelf w ∧ b = false)
    ?_ ?_ fun b => ?_
  · exact (call_shelf (Q := fun _ => True) (by simp [goesOn, mark, Op.mark])
      fun _ _ _ _ _ _ _ => trivial).post fun _ w h => h.1
  · refine Triple.ite (fun _ => Triple.ret fun w h => ⟨h, rfl⟩) fun _ => ?_
    refine hlast.bind fun last => Triple.ite
      (fun _ => Triple.ret fun w h => ⟨h.1, rfl⟩) fun hne w h =>
        absurd h.2 hne
  · intro w h
    obtain ⟨hshelf, rfl⟩ := h
    exact (call_shelf (o := .leave (.surgeActive motionCycle) 0)
      (Q := fun _ => false = false) (fun s d r => rfl)
      fun _ _ _ _ _ _ _ => rfl) w hshelf

/-- So the condition of the frequent loop fails. -/
theorem keepReporting_shelf (site : VbusSite) (motionCycle : Bool) :
    Triple (device cfg) Shelved Shelf Shelf
      (keepReporting cfg site motionCycle) fun _ => Shelf := by
  refine (powerVbusPresent_shelf site).bind fun b => Triple.ite
    (fun _ => Triple.ret fun w h => h.1) fun _ => ?_
  exact ((surgeActive_shelf motionCycle).pre fun w h => h.1).post
    fun _ w h => h.1

-- ==================================================================== the walk

/-- Wherever `main` is, the tracker is on the shelf. -/
theorem shelf_walk : Walk cfg Shelved Shelf fun _ => Shelf :=
  walk_holding shelf_frame (by simp)
    (part shelf_frame (acquire_foot cfg) (by simp) (by simp))
    keepReporting_shelf

-- ===================================================================== the law

/-- Whether a report may be made without a word that keeps the loop going. -/
def Station.due : Station → Bool
  | .woken | .restarted | .tended | .online | .linked => true
  | .running .searching | .running .found | .running .empty
  | .running .pass => true
  | .fetching _ => true
  | _ => false

/-- A report needs a cycle of its own, or a word that keeps the loop
going. -/
theorem reports_credit {l : List Mark} {q : Station}
    (h : (schedule cfg).run l = some q) :
    l.countP Mark.isReport
      ≤ l.countP (fun m => m.isCycle || m.keeps) := by
  have hc := schedule_credit (p := Mark.isReport)
    (r := fun m => m.isCycle || m.keeps) (k := 1)
    (fun q => q.due.toNat) ?_ h
  · simpa [Station.due] using hc
  · intro q m q' hq
    cases hq with
    | @wait hand hand' found hw =>
        cases hand <;> cases found <;>
          simp_all [Hand.wait, Station.due, Mark.isReport, Mark.isCycle,
            Mark.keeps] <;> subst hw <;> simp
    | @report hand b hr =>
        cases hand <;>
          simp_all [Hand.reports, Station.due, Mark.isReport, Mark.isCycle,
            Mark.keeps]
    | _ =>
        simp [Station.due, Mark.isReport, Mark.isCycle, Mark.keeps]

/-- The schedule's word for a cycle is its mark. -/
theorem isCycle_mark (e : Ev) :
    ((mark e).map Mark.isCycle).getD false = beginsCycle e := by
  cases e with
  | env s d a => rfl
  | call s d o r =>
      cases o with
      | enter f => cases f <;> rfl
      | leave f c =>
          cases f with
          | powerVbusPresent site => cases site <;> rfl
          | _ => rfl
      | funcModeSet m => cases m <;> rfl
      | _ => rfl

/-- On the shelf a report needs a cycle of its own. -/
theorem reports_shelf {l : Trace} {q : Station}
    (h : (schedule cfg).run (marks l) = some q)
    (hquiet : l.countP goesOn = 0) :
    l.countP makesReport ≤ l.countP beginsCycle := by
  have hreports := reports_credit h
  have hcycles : (marks l).countP (fun m => m.isCycle || m.keeps)
      = (marks l).countP Mark.isCycle := by
    refine List.countP_congr fun m hm => ?_
    obtain ⟨e, he, hmark⟩ := List.mem_filterMap.mp hm
    have hkeeps := List.countP_eq_zero.mp hquiet e he
    simp only [goesOn, hmark, Option.map_some, Option.getD_some] at hkeeps
    simp [hkeeps]
  rwa [hcycles, marks_countP isReport_mark, marks_countP isCycle_mark]
    at hreports

/-- On the shelf nothing stirs. -/
theorem stirs_shelf {l : Trace} (h : Always Shelved l) :
    l.countP stirs = 0 := by
  refine List.countP_eq_zero.mpr fun e he => ?_
  obtain ⟨l₁, l₂, rfl⟩ := List.append_of_mem he
  have hshelved := always_iff.mp h l₁ e l₂ rfl
  cases e with
  | call s d o r => simp [stirs]
  | env s d a => simpa [Shelved, liesStill] using hshelved

/-- Without power and motion, and with a charger that answers, a run makes
one report for the boot and for each sleep slept out at most, and sends two
messages for each report at most; the sleeps have taken their time, none
ended early, and nothing ever let `main` into the frequent loop. -/
theorem shelf_traffic {w : Tracker} (hw : Booted cfg w)
    (hstill : w.dev.vbus = false) (hnow : w.dev.since = w.dev.now)
    {n fuel : Nat} {c : P Int × Tracker}
    (hr : Reach (device cfg) (main cfg n fuel) w c)
    (hG : Always Shelved c.2.log) :
    c.2.log.countP makesReport ≤ 1 + c.2.log.countP (sleepsOut cfg)
    ∧ c.2.log.countP handsMessage ≤ 2 * c.2.log.countP makesReport
    ∧ w.dev.now + c.2.log.countP (sleepsOut cfg) * cfg.sleepSeconds * 1000
      ≤ c.2.dev.now
    ∧ c.2.log.countP roused = 0 ∧ c.2.log.countP goesOn = 0 := by
  have hstart : Shelf w := by
    refine ⟨⟨hstill, hw.queue, hw.busy, hw.lastEventHi, hw.lastEventLo⟩, ?_⟩
    rw [hw.log]
    rfl
  have hshelf : Shelf c.2 := shelf_walk.reach hstart hr hG
  obtain ⟨q, hq⟩ := schedule_reach cfg hw.log hr
  have hreports := reports_shelf hq hshelf.2
  have hstirs := stirs_shelf hG
  obtain ⟨hbooks, hcaused, htimely⟩ := accounts_reach hw hnow hr
  have hmessages := messages_reports hq
  obtain ⟨-, hcycles⟩ := hbooks
  unfold Caused at hcaused
  refine ⟨by omega, hmessages, ?_, by omega, hshelf.2⟩
  have hsleeps : c.2.log.countP (sleepsOut cfg) * cfg.sleepSeconds * 1000
      ≤ slept cfg c.2.log :=
    Nat.mul_le_mul_right 1000 (Nat.le_add_right _ _)
  exact Nat.le_trans (Nat.add_le_add_left hsleeps w.dev.now)
    (Nat.le_trans htimely.1 htimely.2)

/-- Two cycles on the shelf. -/
theorem shelf_traffic_calm :
    let c := playMain fixless calm 2 0 500
    (c.2.log.countP makesReport = 2
      ∧ c.2.log.countP (sleepsOut fixless) = 2) ∧
    c.2.log.countP makesReport ≤ 1 + c.2.log.countP (sleepsOut fixless)
    ∧ c.2.log.countP handsMessage ≤ 2 * c.2.log.countP makesReport
    ∧ (start fixless).dev.now
      + c.2.log.countP (sleepsOut fixless) * fixless.sleepSeconds * 1000
      ≤ c.2.dev.now
    ∧ c.2.log.countP roused = 0 ∧ c.2.log.countP goesOn = 0 := by
  refine ⟨by decide +kernel, ?_⟩
  exact shelf_traffic (start_booted fixless) rfl rfl
    (playMain_reach fixless calm 2 0 500) (by decide +kernel)

end GpsTracker
