/-
The wait for registration (main.c).

`lte_ensure_connected` looks at the registration, drains the semaphore,
asks for a connection and waits. `lte_handler` gives the semaphore when
the registration changes, so an event that lands between the look and
the drain is thrown away, and nothing repeats it: the wait runs out on a
modem that is registered.
-/
import GpsTracker.Run.Script

namespace GpsTracker

open Proc

variable {cfg : Config}

-- ================================================================= statements

/-- The semaphore given by something other than `lte_handler`. -/
def spuriousGive : Ev → Bool
  | .env _ _ (.give .lteConnected) => true
  | _ => false

/-- Only `lte_handler` gives the semaphore. -/
def HandlerGives (e : Ev) : Prop := spuriousGive e = false

instance (e : Ev) : Decidable (HandlerGives e) :=
  inferInstanceAs (Decidable (_ = _))

/-- The end of a wait for registration, and whether the modem is registered
there. -/
def awaited : Ev → Option Bool
  | .call _ d (.semTake .lteConnected _) _ => some d.registered
  | _ => none

/-- The modem was registered at some moment on record. -/
def Seen (l : Trace) : Prop := ∃ e ∈ l, e.dev.registered = true

/-- The modem was registered when the semaphore was drained last, and no
registration event has come since. -/
def unheard : Trace → Bool
  | [] => false
  | .call _ d (.semReset .lteConnected) _ :: _ => d.registered
  | .env _ _ (.lteReg _) :: _ => false
  | _ :: l => unheard l

/-- A call with the record `l` that returned `r` was right: 0 if the modem
is registered at the end of the wait and stays so, and 0 only if it was
registered at some moment. -/
def Exact (l : Trace) (r : Int) : Prop :=
  (∀ l₁ e l₂, l = l₁ ++ e :: l₂ → awaited e = some true →
    (∀ x ∈ l₁, x.dev.registered = true) → r = 0) ∧
  (r = 0 → Seen l)

/-- The semaphore was drained on a registered modem, no event came before
the wait ended, and the registration lasts. -/
def Missed (l : Trace) : Prop :=
  ∃ l₁ e l₂, l = l₁ ++ e :: l₂ ∧ (awaited e).isSome = true ∧
    unheard l₂ = true ∧ ∀ x ∈ l₁, x.dev.registered = true

-- ================================================================= assertions

/-- No wait has ended yet. -/
def Unwaited (l : Trace) : Prop := ∀ e ∈ l, awaited e = none

/-- Behind the drain the semaphore is available once the event was heard. -/
structure Drained (l : Trace) (d : Dev) : Prop where
  unwaited : Unwaited l
  record : unheard l = (d.registered && !d.semLte)
  seen : d.semLte = true → d.registered = true ∨ Seen l

/-- Behind the wait, which answered `a`. -/
structure Waited (a : Int) (l : Trace) : Prop where
  split : ∃ l₁ e l₂, l = l₁ ++ e :: l₂ ∧ Unwaited l₁ ∧ Unwaited l₂ ∧
    (awaited e).isSome = true ∧
    (unheard l₂ = true ↔ a ≠ 0 ∧ awaited e = some true)
  seen : a = 0 → Seen l

/-- What was seen stays seen. -/
theorem Seen.cons {l : Trace} (h : Seen l) (e : Ev) : Seen (e :: l) := by
  obtain ⟨x, hx, hr⟩ := h
  exact ⟨x, List.mem_cons_of_mem _ hx, hr⟩

/-- At the beginning no one has waited. -/
theorem Unwaited.nil : Unwaited [] := by
  intro e he
  cases he

/-- Events that are no wait leave it so. -/
theorem Unwaited.cons {l : Trace} (h : Unwaited l) {e : Ev}
    (he : awaited e = none) : Unwaited (e :: l) := by
  intro x hx
  rcases List.mem_cons.mp hx with rfl | hx
  · exact he
  · exact h x hx

/-- And leave a wait's answer the last. -/
theorem Waited.cons {a : Int} {l : Trace} (h : Waited a l) {e : Ev}
    (he : awaited e = none) : Waited a (e :: l) := by
  obtain ⟨l₁, x, l₂, rfl, h₁, h₂⟩ := h.split
  exact ⟨⟨e :: l₁, x, l₂, rfl, h₁.cons he, h₂⟩, fun ha => (h.seen ha).cons e⟩

/-- What happens to a drained semaphore by itself. -/
theorem Drained.moved {l : Trace} {d : Dev} (h : Drained l d) (s : Statics)
    {a : Move} (hg : HandlerGives (.env s d a)) :
    Drained (.env s d a :: l) (move cfg a d) := by
  have hkeep : ∀ d' : Dev, d'.registered = d.registered →
      d'.semLte = d.semLte → unheard (.env s d a :: l) = unheard l →
      Drained (.env s d a :: l) d' := by
    intro d' hr hs hu
    refine ⟨h.unwaited.cons rfl, ?_, fun hsem => ?_⟩
    · rw [hu, hr, hs]
      exact h.record
    · rw [hs] at hsem
      rw [hr]
      exact (h.seen hsem).imp_right fun hseen => hseen.cons _
  cases a with
  -- the event: registered sets the semaphore, anything else leaves it
  | lteReg b =>
      refine ⟨h.unwaited.cons rfl, ?_, fun hsem => ?_⟩
      · show false = (b && !(b || d.semLte))
        cases b <;> simp
      · cases b with
        | true => exact .inl rfl
        | false =>
            have hsem' : d.semLte = true := hsem
            rcases h.seen hsem' with hr | hseen
            · exact .inr ⟨_, List.mem_cons_self, hr⟩
            · exact .inr (hseen.cons _)
  -- only the handler gives, by the condition on the run
  | give s' =>
      cases s' with
      | lteConnected => cases hg
      | _ => exact hkeep _ rfl rfl rfl
  | workStart =>
      simp only [move]
      split <;> exact hkeep _ rfl rfl rfl
  | workStep =>
      simp only [move]
      split
      · exact hkeep _ rfl rfl rfl
      next m _ _ => cases m <;> exact hkeep _ rfl rfl rfl
  | guardTick =>
      simp only [move]
      split <;> exact hkeep _ rfl rfl rfl
  | _ => exact hkeep _ rfl rfl rfl

variable {l₀ : Trace}

/-- Own moves do not wait. -/
theorem unwaited_stable :
    Stable (device cfg) (Since l₀ HandlerGives)
      (After l₀ fun l _ => Unwaited l) :=
  After.stable fun _ _ _ _ h _ _ => h.cons rfl

/-- A semaphore that was emptied since is available only by a give since. -/
theorem drained_stable :
    Stable (device cfg) (Since l₀ HandlerGives) (After l₀ Drained) :=
  After.stable fun _ s _ _ h _ hg => h.moved s hg

-- ==================================================================== the call

/-- What a call that is about to return `r` has on record. -/
def Returned (r : Int) (l : Trace) : Prop :=
  (Unwaited l ∧ (r = 0 → Seen l)) ∨ ∃ a, Waited a l ∧ (r = 0 ↔ a = 0)

/-- A return is of the last wait. -/
theorem Returned.cons {r : Int} {l : Trace} (h : Returned r l) {e : Ev}
    (he : awaited e = none) : Returned r (e :: l) := by
  rcases h with ⟨hu, hseen⟩ | ⟨a, hw, hr⟩
  · exact .inl ⟨hu.cons he, fun h0 => (hseen h0).cons e⟩
  · exact .inr ⟨a, hw.cons he, hr⟩

/-- And own moves leave it that. -/
theorem returned_stable (r : Int) :
    Stable (device cfg) (Since l₀ HandlerGives)
      (After l₀ fun l _ => Returned r l) :=
  After.stable fun _ _ _ _ h _ _ => h.cons rfl

/-- The look at the registration answers true only on a registered
modem. -/
theorem lteIsRegistered_seen :
    Triple (device cfg) (Since l₀ HandlerGives) (fun _ => True)
      (After l₀ fun l _ => Unwaited l) lteIsRegistered
      fun b => After l₀ fun l _ => Unwaited l ∧ (b = true → Seen l) := by
  have hget : Triple (device cfg) (Since l₀ HandlerGives) (fun _ => True)
      (After l₀ fun l _ => Unwaited l) (call .nwRegStatusGet)
      fun r => After l₀ fun l _ => Unwaited l ∧
        (r.1 = 0 → r.2 ≠ .other → Seen l) := by
    refine After.op unwaited_stable fun l s d r h hok _ => ⟨h.cons rfl, ?_⟩
    intro herr hstatus
    have hanswer : (r.1 != 0 || (r.2 != .other) == d.registered) = true := hok
    refine ⟨_, List.mem_cons_self, ?_⟩
    show d.registered = true
    have hother : (r.2 != NwRegStatus.other) = true := bne_iff_ne.mpr hstatus
    rw [herr, hother] at hanswer
    exact (beq_iff_eq.mp hanswer).symm
  refine hget.bind fun r => ?_
  obtain ⟨err, status⟩ := r
  refine Triple.ite (fun _ => Triple.ret fun w h => ?_)
    fun herr => Triple.ret fun w h => ?_
  · obtain ⟨l, hl, hu, -⟩ := h
    exact ⟨l, hl, hu, nofun⟩
  · obtain ⟨l, hl, hu, hseen⟩ := h
    refine ⟨l, hl, hu, fun hb => hseen (Decidable.not_not.mp herr) ?_⟩
    rintro rfl
    cases hb

/-- What the answer of the wait says. -/
theorem Drained.waited {l : Trace} {d : Dev} (h : Drained l d)
    (s : Statics) {ms : Nat} {a : Int} (ha : a = 0 ↔ d.semLte = true) :
    Waited a (.call s d (.semTake .lteConnected ms) a :: l) := by
  have hreg : awaited (.call s d (.semTake .lteConnected ms) a)
      = some d.registered := rfl
  refine ⟨⟨[], .call s d (.semTake .lteConnected ms) a, l, rfl, Unwaited.nil,
    h.unwaited, rfl, ?_⟩, fun h0 => ?_⟩
  · rw [h.record, hreg, Ne, ha]
    cases d.registered <;> cases d.semLte <;> simp
  · rcases h.seen (ha.mp h0) with hr | hseen
    · exact ⟨_, List.mem_cons_self, hr⟩
    · exact hseen.cons _

/-- The wait is for an event since the semaphore was emptied. -/
theorem semTake_waits (ms : Nat) :
    Triple (device cfg) (Since l₀ HandlerGives) (fun _ => True)
      (After l₀ Drained) (call (.semTake .lteConnected ms))
      fun a => After l₀ fun l _ => Waited a l :=
  After.op drained_stable fun _ s _ _ h hok _ => h.waited s (take_answer hok)

/-- Along `lte_ensure_connected`: registered at once, or the request refused,
or one wait. -/
theorem ensure_returns :
    Triple (device cfg) (Since l₀ HandlerGives) (fun _ => True)
      (After l₀ fun l _ => Unwaited l) (lteEnsureConnected cfg)
      fun r => After l₀ fun l _ => Returned r l := by
  have hplain : ∀ o : Op, (∀ s d (r : o.Ret), awaited (.call s d o r) = none) →
      Triple (device cfg) (Since l₀ HandlerGives) (fun _ => True)
        (After l₀ fun l _ => Unwaited l) (call o)
        fun _ => After l₀ fun l _ => Unwaited l := fun o ho =>
    After.op unwaited_stable fun l s d r h _ _ => h.cons (ho s d r)
  refine triple_scope (R := fun r => After l₀ fun l _ => Returned r l)
    (hplain _ fun _ _ _ => rfl) ?_ fun r => After.op (returned_stable r)
      fun l s d _ h _ _ => h.cons rfl
  refine lteIsRegistered_seen.bind fun b => ?_
  cases b with
  | true =>
      refine Triple.ret fun w h => ?_
      obtain ⟨l, hl, hu, hseen⟩ := h
      exact ⟨l, hl, .inl ⟨hu, fun _ => hseen rfl⟩⟩
  | false =>
      refine Triple.pre (P := After l₀ fun l _ => Unwaited l) ?_ fun w h => by
        obtain ⟨l, hl, hu, -⟩ := h
        exact ⟨l, hl, hu⟩
      -- what the drain swallowed was before it: nothing is unheard right
      -- after
      have hdrain : Triple (device cfg) (Since l₀ HandlerGives)
          (fun _ => True) (After l₀ fun l _ => Unwaited l)
          (call (.semReset .lteConnected)) fun _ => After l₀ Drained :=
        After.op unwaited_stable fun l s d r h _ _ =>
          ⟨h.cons rfl, (Bool.and_true _).symm, nofun⟩
      have hconnect : Triple (device cfg) (Since l₀ HandlerGives)
          (fun _ => True) (After l₀ Drained)
          (call (.lib .lteLcConnectAsync)) fun _ => After l₀ Drained :=
        After.op drained_stable fun l s d r h _ _ =>
          ⟨h.unwaited.cons rfl, h.record,
            fun hsem => (h.seen hsem).imp_right fun hseen => hseen.cons _⟩
      refine hdrain.bind fun _ => hconnect.bind fun err =>
        Triple.ite (fun herr => Triple.ret fun w h => ?_) fun _ => ?_
      -- the request was refused: no wait
      · obtain ⟨l, hl, hd⟩ := h
        exact ⟨l, hl, .inl ⟨hd.unwaited, fun h0 => absurd h0 herr.1⟩⟩
      · refine (semTake_waits _).bind fun a => Triple.ite
          (fun ha => Triple.ret fun w h => ?_)
          fun ha => Triple.ret fun w h => ?_
        · obtain ⟨l, hl, hw⟩ := h
          refine ⟨l, hl, .inr ⟨a, hw, ?_⟩⟩
          constructor
          · intro h0
            cases h0
          · intro h0
            exact absurd h0 ha
        · obtain ⟨l, hl, hw⟩ := h
          exact ⟨l, hl, .inr ⟨a, hw, fun _ => Decidable.not_not.mp ha,
            fun _ => rfl⟩⟩

-- ===================================================================== the law

/-- The one wait of a record is found in one way. -/
theorem wait_unique {l₁ l₂ l₁' l₂' : Trace} {e e' : Ev}
    (h₁ : Unwaited l₁) (h₂ : Unwaited l₂) (he' : (awaited e').isSome = true)
    (h : l₁ ++ e :: l₂ = l₁' ++ e' :: l₂') :
    l₁ = l₁' ∧ e = e' ∧ l₂ = l₂' := by
  induction l₁ generalizing l₁' with
  | nil =>
      cases l₁' with
      | nil =>
          cases h
          exact ⟨rfl, rfl, rfl⟩
      | cons x l₁' =>
          cases h
          rw [h₂ e' (by simp)] at he'
          cases he'
  | cons x l₁ ih =>
      cases l₁' with
      | nil =>
          cases h
          rw [h₁ _ List.mem_cons_self] at he'
          cases he'
      | cons y l₁' =>
          obtain ⟨rfl, htail⟩ := List.cons.inj h
          obtain ⟨rfl, rfl, rfl⟩ :=
            ih (fun z hz => h₁ z (List.mem_cons_of_mem _ hz)) htail
          exact ⟨rfl, rfl, rfl⟩

/-- So the answer is exact unless the one event came before the emptying. -/
theorem Returned.exact_iff {r : Int} {l : Trace} (h : Returned r l) :
    Exact l r ↔ ¬Missed l := by
  rcases h with ⟨hu, hseen⟩ | ⟨a, hw, hr⟩
  · have hnone : ∀ l₁ e l₂, l = l₁ ++ e :: l₂ → awaited e = none :=
      fun l₁ e l₂ hl => hu e (by rw [hl]; simp)
    constructor
    · rintro - ⟨l₁, e, l₂, hl, he, -⟩
      rw [hnone l₁ e l₂ hl] at he
      cases he
    · intro _
      refine ⟨fun l₁ e l₂ hl he _ => ?_, hseen⟩
      rw [hnone l₁ e l₂ hl] at he
      cases he
  · obtain ⟨l₁, e, l₂, hl, h₁, h₂, he, hmiss⟩ := hw.split
    have hunique : ∀ l₁' e' l₂', l = l₁' ++ e' :: l₂' →
        (awaited e').isSome = true → l₁ = l₁' ∧ e = e' ∧ l₂ = l₂' :=
      fun l₁' e' l₂' hl' he' => wait_unique h₁ h₂ he' (hl.symm.trans hl')
    constructor
    · rintro ⟨hexact, -⟩ ⟨l₁', e', l₂', hl', he', hu, hstay⟩
      obtain ⟨rfl, rfl, rfl⟩ := hunique l₁' e' l₂' hl' he'
      obtain ⟨ha, hreg⟩ := hmiss.mp hu
      exact ha (hr.mp (hexact l₁ e l₂ hl hreg hstay))
    · intro hheard
      refine ⟨fun l₁' e' l₂' hl' he' hstay => ?_, fun h0 => hw.seen (hr.mp h0)⟩
      obtain ⟨rfl, rfl, rfl⟩ := hunique l₁' e' l₂' hl' (by rw [he']; rfl)
      refine hr.mpr (Decidable.not_not.mp fun ha => hheard ?_)
      exact ⟨l₁, e, l₂, hl, he, hmiss.mpr ⟨ha, he'⟩, hstay⟩

/-- A call returns 0 for a modem that is registered at the end of its wait
and stays so, and only for one that was registered at some moment, if and
only if no registration slipped in between the look and the drain. -/
theorem ensure_exact_iff {w w' : Tracker} {r : Int} {l : Trace}
    (hr : Reach (device cfg) (lteEnsureConnected cfg) w (.ret r, w'))
    (hl : w'.log = l ++ w.log) (hgives : ∀ e ∈ l, HandlerGives e) :
    Exact l r ↔ ¬Missed l := by
  have hG : Always (Since w.log HandlerGives) w'.log := by
    rw [hl]
    exact always_since hgives
  obtain ⟨l', hl', h⟩ := (@ensure_returns cfg _).result
    (w := w) ⟨[], rfl, Unwaited.nil⟩ trivial hr hG
  rw [List.append_cancel_right (hl.symm.trans hl')]
  exact h.exact_iff

/-- A modem that registers before the drain, if `early`, or after it. -/
def registering (early : Bool) : Script Statics Dev Move Calls := fun w o =>
  match o with
  | .semReset .lteConnected =>
      (if early then [.lteReg true] else [], ())
  | .lib .lteLcConnectAsync =>
      (if early then [] else [.lteReg true], (0 : Int))
  | o => calm w o

/-- A call on a modem that is searching. -/
def searching : Tracker := { start {} with dev := {} }

/-- The call, run to its end. -/
def playEnsure (early : Bool) : P Int × Tracker :=
  play (device {}) (registering early) 20 (lteEnsureConnected {}) searching

/-- What is played is a run of it. -/
theorem playEnsure_reach (early : Bool) :
    Reach (device {}) (lteEnsureConnected {}) searching (playEnsure early) :=
  play_reach .init

/-- Registration after the drain ends the wait. -/
theorem ensure_exact_iff_heard :
    Exact (playEnsure false).2.log 0 ↔ ¬Missed (playEnsure false).2.log :=
  ensure_exact_iff (r := 0) (playEnsure_reach false)
    (List.append_nil _).symm (by decide)

/-- Registration before it does not. -/
theorem registration_missed :
    ∃ w w' r l, Reach (device {}) (lteEnsureConnected {}) w (.ret r, w') ∧
      w'.log = l ++ w.log ∧ (∀ e ∈ l, HandlerGives e) ∧ r = -ETIMEDOUT ∧
      w'.dev.registered = true ∧ ¬Exact l r := by
  refine ⟨searching, (playEnsure true).2, -ETIMEDOUT, (playEnsure true).2.log,
    playEnsure_reach true, (List.append_nil _).symm, by decide, rfl, rfl, ?_⟩
  rintro ⟨hexact, -⟩
  have hzero := hexact ((playEnsure true).2.log.take 1)
    ((playEnsure true).2.log.get ⟨1, by decide⟩)
    ((playEnsure true).2.log.drop 2) rfl rfl (by decide)
  exact absurd hzero (by decide)

end GpsTracker
