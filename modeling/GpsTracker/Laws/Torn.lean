/-
What `motion_last_event_uptime` may read (motion.c).

`motion_handler` stores its time high word first, the reader loads it low
word first, and the comment has it that a torn read can only make the
surge look shorter. Within 2^32 ms it can. Where the high word changes, a
reader that loads the low word of one jolt and the high word of a later
one reads a time that may lie after both.

The two words are read back as the jolts they were stored by, so the
invariant holds between any two steps of the handler, whatever the main
thread does there.
-/
import GpsTracker.Laws.Jolt

namespace GpsTracker

open Proc

variable {cfg : Config}

-- =============================================================== the record

/-- The jolts on record: the most recent one, those whose high and low
words stand, and the one whose low word was last loaded. -/
structure Jolts where
  last : Nat := 0
  high : Nat := 0
  low : Nat := 0
  loaded : Nat := 0

/-- A starting `motion_handler` reads the clock, and its stores are those
of the jolt it read. -/
def Jolts.after (j : Jolts) : Ev → Jolts
  | .env _ d .workStart =>
      match d.queue with
      | .motion :: _ => { j with last := d.now }
      | _ => j
  | .env _ d .workStep =>
      match d.busy with
      | .storeHi _ :: _ => { j with high := j.last }
      | .storeLo _ :: _ => { j with low := j.last }
      | _ => j
  | .call _ _ .lastEventLoGet _ => { j with loaded := j.low }
  | _ => j

/-- The record of a log. -/
def jolts : Trace → Jolts
  | [] => {}
  | e :: l => (jolts l).after e

/-- The high word stands for a jolt of a later span of 2^32 ms than the low
word that was loaded, and the most recent jolt is in that span, but not as
far into it. -/
abbrev Jolts.Torn (j : Jolts) : Prop :=
  j.loaded / 4294967296 < j.high / 4294967296 ∧
  j.last / 4294967296 = j.high / 4294967296 ∧
  j.last % 4294967296 < j.loaded % 4294967296

-- ============================================================ the invariant

/-- How far the running handler is with the last jolt. -/
inductive Storing (j : Jolts) (busy : List Micro) : Prop
  | other (h : busy.all Micro.plain)
  | high (h : busy = motionHandler j.last)
  | low (h : busy = (motionHandler j.last).tail) (hhigh : j.high = j.last)

/-- The words are those of the jolts on record, and these are in order. -/
structure Stored (j : Jolts) (d : Dev) : Prop where
  high : d.lastEventHi = j.high / 4294967296
  low : d.lastEventLo = j.low % 4294967296
  order : j.loaded ≤ j.low ∧ j.low ≤ j.high ∧ j.high ≤ j.last
  past : j.last ≤ d.now
  storing : Storing j d.busy

namespace Stored

variable {j : Jolts} {d d' : Dev}

/-- Time and the rest of the device do not matter. -/
theorem congr (h : Stored j d) (hbusy : d'.busy = d.busy)
    (hhi : d'.lastEventHi = d.lastEventHi)
    (hlo : d'.lastEventLo = d.lastEventLo) (hnow : d.now ≤ d'.now) :
    Stored j d' where
  high := hhi.trans h.high
  low := hlo.trans h.low
  order := h.order
  past := Nat.le_trans h.past hnow
  storing := hbusy ▸ h.storing

/-- So a move that runs no handler keeps the words on record. -/
theorem rests (h : Stored j d) (hrests : Rests d d') (hnow : d.now ≤ d'.now) :
    Stored j d' :=
  h.congr hrests.busy hrests.lastEventHi hrests.lastEventLo hnow

theorem workStart (h : Stored j d) (hcan : can .workStart d = true)
    (s : Statics) :
    Stored (j.after (.env s d .workStart)) (move cfg .workStart d) := by
  obtain ⟨hempty, -⟩ := Bool.and_eq_true_iff.mp hcan
  have hnil : d.busy = [] := List.isEmpty_iff.mp hempty
  obtain ⟨hhigh, hlow, ⟨hloaded, hmid, hrecent⟩, hpast, -⟩ := h
  simp only [Jolts.after, move]
  cases hq : d.queue with
  | nil =>
      refine ⟨hhigh, hlow, ⟨hloaded, hmid, hrecent⟩, hpast, .other ?_⟩
      rw [hnil]
      rfl
  | cons work q =>
      cases work with
      | motion =>
          exact ⟨hhigh, hlow, ⟨hloaded, hmid, Nat.le_trans hrecent hpast⟩,
            Nat.le_refl _, .high rfl⟩
      | vbusDetected =>
          exact ⟨hhigh, hlow, ⟨hloaded, hmid, hrecent⟩, hpast, .other rfl⟩
      | vbusRemoved =>
          exact ⟨hhigh, hlow, ⟨hloaded, hmid, hrecent⟩, hpast, .other rfl⟩

/-- One step of a handler: a store brings its word up to the last jolt. -/
theorem workStep (h : Stored j d) (s : Statics) :
    Stored (j.after (.env s d .workStep)) (move cfg .workStep d) := by
  obtain ⟨hhigh, hlow, ⟨hloaded, hmid, hrecent⟩, hpast, hstoring⟩ := h
  cases hstoring with
  | high hbusy =>
      simp only [Jolts.after, move, hbusy, motionHandler, List.cons_append,
        Micro.run]
      exact ⟨rfl, hlow, ⟨hloaded, Nat.le_trans hmid hrecent, Nat.le_refl _⟩,
        hpast, .low rfl rfl⟩
  | low hbusy hlast =>
      simp only [Jolts.after, move, hbusy, motionHandler, List.cons_append,
        List.tail_cons, Micro.run]
      exact ⟨hhigh, rfl, ⟨by simp only; omega, by simp only; omega, hrecent⟩,
        hpast, .other rfl⟩
  | other hplain =>
      cases hb : d.busy with
      | nil =>
          simp only [Jolts.after, move, hb]
          exact ⟨hhigh, hlow, ⟨hloaded, hmid, hrecent⟩, hpast,
            .other (hb ▸ hplain)⟩
      | cons step rest =>
          rw [hb, List.all_cons, Bool.and_eq_true] at hplain
          cases step with
          | storeHi t => cases hplain.1
          | storeLo t => cases hplain.1
          | _ =>
              simp only [Jolts.after, move, hb, Micro.run]
              exact ⟨hhigh, hlow, ⟨hloaded, hmid, hrecent⟩, hpast,
                .other hplain.2⟩

/-- Every own move keeps the record and the words together. -/
theorem moved (h : Stored j d) (a : Move) (hcan : can a d = true)
    (s : Statics) : Stored (j.after (.env s d a)) (move cfg a d) := by
  cases a with
  | workStep => exact h.workStep s
  | workStart => exact h.workStart hcan s
  | vbusIn | vbusOut | jolt => exact h.congr rfl rfl rfl (Nat.le_refl _)
  | _ => exact h.rests (move_rests cfg rfl d) (move_drifts cfg _ d).now

end Stored

/-- The invariant of every world, whatever program runs in it. -/
def StoredAt (w : Tracker) : Prop := Stored (jolts w.log) w.dev

/-- A call stores nothing, and a load of the low word takes what stands. -/
theorem effect_stored {j : Jolts} {d : Dev} (h : Stored j d) (o : Op)
    (r : o.Ret) (s : Statics) :
    Stored (j.after (.call s d o r)) (effect o r d) := by
  have hs := effect_spares o r d
  have hd : Stored j (effect o r d) :=
    h.congr hs.busy hs.lastEventHi hs.lastEventLo (Nat.le_of_eq hs.now.symm)
  cases o with
  | lastEventLoGet =>
      obtain ⟨hhigh, hlow, ⟨-, hmid, hrecent⟩, hpast, hstoring⟩ := hd
      refine ⟨hhigh, hlow, ⟨Nat.le_refl _, hmid, hrecent⟩, hpast, ?_⟩
      cases hstoring with
      | other h => exact .other h
      | high h => exact .high h
      | low h hhigh => exact .low h hhigh
  | _ => exact hd

/-- Every step keeps it. -/
theorem stored_frame : Frame (device cfg) Free StoredAt StoredAt
    (fun _ => True) fun _ _ => True where
  stable := fun w a h hcan _ => h.moved a hcan w.st
  calls := fun w o r _ h _ _ => effect_stored h o r w.st
  writes := fun _ _ _ h => h
  gives := fun _ h => h

-- =================================================================== the read

/-- What was loaded stays loaded while the handler goes on. -/
theorem after_loaded (j : Jolts) (s : Statics) (d : Dev) (a : Move) :
    (j.after (.env s d a)).loaded = j.loaded := by
  cases a with
  | workStart =>
      simp only [Jolts.after]
      split <;> rfl
  | workStep =>
      simp only [Jolts.after]
      split <;> rfl
  | _ => rfl

/-- The value read: the high word of one jolt over the low word of
another. -/
theorem motionLastEventUptime_stored (hwake : cfg.motionWake = true) :
    Triple (device cfg) Free StoredAt StoredAt (motionLastEventUptime cfg)
      fun last w => StoredAt w ∧
        last = ((jolts w.log).high / 4294967296 * 4294967296
          + (jolts w.log).loaded % 4294967296 : Nat) := by
  have hlow : Triple (device cfg) Free StoredAt StoredAt
      (call .lastEventLoGet) fun (lo : Nat) w => StoredAt w ∧
        lo = (jolts w.log).loaded % 4294967296 := by
    refine stored_frame.ask trivial fun w (r : Nat) h hok => ?_
    have hr : r = w.dev.lastEventLo := by simpa [device, ok] using hok
    exact hr.trans h.low
  have hhigh : ∀ lo : Nat, Triple (device cfg) Free StoredAt
      (fun w => StoredAt w ∧ lo = (jolts w.log).loaded % 4294967296)
      (call .lastEventHiGet) fun (hi : Nat) w => StoredAt w ∧
        lo = (jolts w.log).loaded % 4294967296 ∧
        hi = (jolts w.log).high / 4294967296 := by
    intro lo
    refine Triple.op (fun w a h hcan _ => ⟨h.1.moved a hcan w.st, ?_⟩)
      fun w (r : Nat) h hok _ => ?_
    · show lo = ((jolts w.log).after (.env w.st w.dev a)).loaded % 4294967296
      rw [after_loaded]
      exact h.2
    · have hr : r = w.dev.lastEventHi := by simpa [device, ok] using hok
      have hd := effect_stored h.1 .lastEventHiGet r w.st
      exact ⟨hd, hd, h.2, hr.trans h.1.high⟩
  have hskip : (!cfg.motionWake) = false := by rw [hwake]; rfl
  simp only [motionLastEventUptime, hskip, Bool.false_eq_true, if_false]
  refine hlow.bind fun lo => (hhigh lo).bind fun hi => Triple.ret fun w h => ?_
  refine ⟨h.1, ?_⟩
  rw [h.2.1, h.2.2]

/-- A device without a jolt yet. -/
structure Unjolted (w : Tracker) : Prop where
  log : w.log = []
  busy : w.dev.busy = []
  lastEventHi : w.dev.lastEventHi = 0
  lastEventLo : w.dev.lastEventLo = 0

theorem Unjolted.stored {w : Tracker} (h : Unjolted w) : StoredAt w := by
  unfold StoredAt
  rw [h.log]
  exact ⟨h.lastEventHi, h.lastEventLo, ⟨Nat.le_refl _, Nat.le_refl _,
    Nat.le_refl _⟩, Nat.zero_le _, .other (by rw [h.busy]; rfl)⟩

/-- Whatever ran before, an execution of `motion_last_event_uptime` returns
a time no later than the clock and the most recent jolt exactly if its two
loads were not torn. -/
theorem last_event_past_iff (hwake : cfg.motionWake = true) {w : Tracker}
    (hw : Unjolted w) {α : Type} {p : P α} {c : P α × Tracker}
    (hc : Reach (device cfg) p w c) {last : Int} {w' : Tracker}
    (hr : Reach (device cfg) (motionLastEventUptime cfg) c.2
      (.ret last, w')) :
    (last ≤ w'.dev.now ∧ last ≤ (jolts w'.log).last) ↔
      ¬(jolts w'.log).Torn := by
  have hstart : StoredAt c.2 := (stored_frame.invariant p).reach hw.stored
    hw.stored hc (always_free _)
  obtain ⟨⟨-, -, ⟨hloaded, hlow, hhigh⟩, hpast, -⟩, hlast⟩ :=
    (motionLastEventUptime_stored hwake).result hstart hstart hr
      (always_free _)
  unfold Jolts.Torn
  rw [hlast]
  omega

/-- A jolt handled whole at `first`, and one `gap` later of which only the
high word is stored when the main thread preempts its handler. -/
def interrupted (first gap : Nat) : Script Statics Dev Move Calls :=
  fun w o =>
    match o with
    | .lastEventLoGet =>
        ([.tick first, .jolt, .workStart, .workStep, .workStep, .workStep,
          .workStep, .tick gap, .jolt, .workStart, .workStep],
          first % 4294967296)
    | o => calm w o

/-- A device with its accelerometer armed. -/
def armed : Tracker := { start {} with dev := { trig := true } }

/-- The read that preempts the second jolt. -/
def playRead (first gap : Nat) : P Int × Tracker :=
  play (device {}) (interrupted first gap) 2 (motionLastEventUptime {}) armed

theorem playRead_reach (first gap : Nat) :
    Reach (device {}) (motionLastEventUptime {}) armed (playRead first gap) :=
  play_reach .init

theorem armed_unjolted : Unjolted armed := ⟨rfl, rfl, rfl, rfl⟩

/-- Within a span of 2^32 ms the earlier jolt is read. -/
theorem last_event_past_iff_within :
    (1000 : Int) ≤ (playRead 1000 500).2.dev.now ∧
      (1000 : Int) ≤ (jolts (playRead 1000 500).2.log).last := by
  have hr : Reach (device {}) (motionLastEventUptime {}) armed
      (.ret 1000, (playRead 1000 500).2) := playRead_reach 1000 500
  have hc : Reach (device {}) (motionLastEventUptime {}) armed
      (motionLastEventUptime {}, armed) := .init
  exact (last_event_past_iff rfl armed_unjolted hc hr).mpr (by decide +kernel)

/-- Across its border, a time seven weeks after both jolts. -/
theorem last_event_future :
    ∃ w w', Unjolted w ∧
      Reach (device {}) (motionLastEventUptime {}) w
        (.ret 8589934576, w') ∧
      (jolts w'.log).last = 4294967312 ∧ w'.dev.now = 4294967312 ∧
      ¬((8589934576 : Int) ≤ w'.dev.now ∧
        (8589934576 : Int) ≤ (jolts w'.log).last) :=
  ⟨armed, (playRead 4294967280 32).2, armed_unjolted,
    playRead_reach 4294967280 32, by decide +kernel, by decide +kernel,
    by decide +kernel⟩

end GpsTracker
