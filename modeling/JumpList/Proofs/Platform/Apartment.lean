/-
# JumpList.Proofs.Platform.Apartment — a thread leaves its apartment as often as it joined it.

A guard does not remember the status with which it was got, only whether the thread has to leave.  The
ledger remembers it: the statuses of the guards that the thread holds, and of those that it gave up
(`Ledger`).  Every step takes one ledger to the next in one of six ways (`Ledger.Takes`), so that whatever
the platform reports and in whichever order guards are given up, the calls that leave the apartment are as
many as the guards given up that had joined it, and the calls that joined it are as many as the guards, held
or given up, that did (`Ledger.Balances`).  A thread that gives up in the end all that it holds leaves once
for each of those (`countP_leaveAll`).

This holds at every point of a run, since each step makes at most one call (`Ledger.TakesAll.exists_point`).
-/
import JumpList.Platform.Apartment
import JumpList.Proofs.Dialogue
import Mathlib.Data.List.Perm.Basic

namespace JumpList

open Native (Status)

/-- Whether a status stands for success: its code is not negative as a signed number. -/
def Native.Status.succeeded (status : Status) : Bool := status.code.toNat < 0x80000000

theorem Native.Status.isFailure_eq (status : Status) : status.isFailure = !status.succeeded := by
  have hsigned : status.code.toInt32.toInt = (status.code.toNat : Int).bmod (2 ^ 32) :=
    BitVec.toInt_eq_toNat_bmod status.code.toBitVec
  have hlt : status.code.toNat < 2 ^ 32 := status.code.toNat_lt
  have hzero : (0 : Int32).toInt = 0 := rfl
  unfold isFailure signed succeeded
  rw [Bool.eq_iff_iff, decide_eq_true_iff, Int32.lt_iff_toInt_lt, hsigned, hzero, Int.bmod_def]
  simp
  omega

namespace Platform

/-- A call to the platform and what it reported. -/
abbrev Event := Dialogue.Event Call Call.Reply

/-- Anything that answers calls to the platform, with a memory of type `σ`. -/
abbrev Responder (σ : Type) := Dialogue.Responder Call Call.Reply σ

namespace Event

/-- Whether the thread joined an apartment, which it may have been in before. -/
def joins : Event → Bool
  | ⟨.enterApartment _, status⟩ => Status.succeeded status
  | ⟨.leaveApartment, _⟩ | ⟨.setProcessAppId _, _⟩ => false

/-- Whether the thread left an apartment. -/
def leaves : Event → Bool
  | ⟨.leaveApartment, _⟩ => true
  | ⟨.enterApartment _, _⟩ | ⟨.setProcessAppId _, _⟩ => false

end Event

namespace Apartment

/-- The guard that a thread gets with a status, if it gets one. -/
def ofStatus (status : Status) : Apartment := ⟨status.succeeded⟩

variable {σ : Type} (answer : Responder σ)

/-- Asking to join is one call, and how it goes on depends on the status. -/
theorem run_enter {α : Type} (next : Status → Talk α) (s : σ) :
    (do let status : Status ← call (.enterApartment threaded); next status : Talk α).run answer s =
      let status : Status := (answer (.enterApartment threaded) s).1
      let r := (next status).run answer (answer (.enterApartment threaded) s).2
      { r with events := ⟨.enterApartment threaded, status⟩ :: r.events } := rfl

/-- A thread asks to join in one call.  With a status that is a success, or that says that it is in an
apartment of another model, it gets a guard, and with any other it gets none. -/
theorem run_join (s : σ) :
    let status : Status := (answer (.enterApartment threaded) s).1
    let r := join.run answer s
    r.events = [⟨.enterApartment threaded, status⟩] ∧
      (status.succeeded → r.value = .ok (ofStatus status)) ∧
      (status = changedMode → r.value = .ok (ofStatus status)) ∧
      (status.succeeded = false → status ≠ changedMode →
        ∃ text, r.value = .error (.initializationFailed text)) := by
  intro status r
  have hr : r = join.run answer s := rfl
  unfold join at hr
  rw [run_enter] at hr
  dsimp only at hr
  by_cases hmode : status = changedMode
  · -- This status is no success, and there is a guard all the same.
    have hlost : status.succeeded = false := by
      rw [hmode]
      rfl
    rw [if_pos hmode, Dialogue.run_bind] at hr
    rw [hr]
    exact ⟨rfl, fun _ => by rw [ofStatus, hlost]; rfl, fun _ => by rw [ofStatus, hlost]; rfl,
      fun _ h => absurd hmode h⟩
  rw [if_neg hmode] at hr
  by_cases hok : status.succeeded
  · have hfail : ¬ status.isFailure := by simp [Status.isFailure_eq, hok]
    rw [if_neg hfail] at hr
    have hguard : r.events = [⟨.enterApartment threaded, status⟩] ∧
        r.value = .ok (ofStatus status) := by
      rw [hr, ofStatus, hok]
      split
      · exact ⟨rfl, rfl⟩
      · exact ⟨rfl, rfl⟩
    exact ⟨hguard.1, fun _ => hguard.2, fun _ => hguard.2, fun h => absurd hok (by simp [h])⟩
  · have hfail : status.isFailure := by simp [Status.isFailure_eq, hok]
    rw [if_pos hfail] at hr
    rw [hr]
    exact ⟨rfl, fun h => absurd h hok, fun h => absurd h hmode, fun _ _ => ⟨_, rfl⟩⟩

/-- Giving up a guard is leaving the apartment if the thread had joined it, and nothing otherwise. -/
theorem run_leave_ofStatus (status : Status) (s : σ) :
    ((ofStatus status).leave.run answer s).events =
      if status.succeeded then [⟨.leaveApartment, (answer .leaveApartment s).1⟩] else [] := by
  by_cases h : status.succeeded
  · simp [leave, ofStatus, h, call]
  · simp [leave, ofStatus, h]

/-- Giving up guards is leaving once for each with which the thread had joined. -/
theorem countP_forM_leave (statuses : List Status) (s : σ) :
    let r := ((statuses.map ofStatus).forM leave).run answer s
    r.events.countP Event.leaves = statuses.countP Status.succeeded ∧
      r.events.countP Event.joins = 0 := by
  induction statuses generalizing s with
  | nil => exact ⟨rfl, rfl⟩
  | cons status statuses ih =>
    obtain ⟨hleft, hjoined⟩ := ih ((ofStatus status).leave.run answer s).state
    simp only [List.map_cons, List.forM_eq_forM, List.forM_cons, Dialogue.run_bind,
      run_leave_ofStatus, List.countP_append] at hleft hjoined ⊢
    rw [hleft, hjoined]
    by_cases h : status.succeeded
    · simp [h, Event.leaves, Event.joins]
      omega
    · simp [h]

/-- In whichever order guards are given up, the thread leaves as often. -/
theorem countP_leaveAll (statuses : List Status) (s : σ) :
    let r := (leaveAll (statuses.map ofStatus)).run answer s
    r.events.countP Event.leaves = statuses.countP Status.succeeded ∧
      r.events.countP Event.joins = 0 := by
  have h := countP_forM_leave answer statuses.reverse s
  rwa [List.map_reverse, List.countP_reverse] at h

/-! ## The ledger -/

/-- The statuses of the guards that a thread holds, from the oldest, and of those that it gave up. -/
structure Ledger where
  held : List Status
  dropped : List Status
  deriving DecidableEq, Repr

namespace Ledger

/-- The ledger of a thread that has had no guard yet. -/
def blank : Ledger := ⟨[], []⟩

/-- A step can take a ledger to another one with these events and this report. -/
inductive Takes (before : Ledger) : Step → List Event → Report → Ledger → Prop
  | joined {status : Status} : status.succeeded →
      Takes before .acquire [⟨.enterApartment threaded, status⟩] .acquired
        ⟨before.held ++ [status], before.dropped⟩
  | stayed :
      Takes before .acquire [⟨.enterApartment threaded, changedMode⟩] .acquired
        ⟨before.held ++ [changedMode], before.dropped⟩
  | refused {status : Status} (text : String) : status.succeeded = false → status ≠ changedMode →
      Takes before .acquire [⟨.enterApartment threaded, status⟩]
        (.refused (.initializationFailed text)) before
  | left {place : Nat} {status : Status} : before.held[place]? = some status → status.succeeded →
      Takes before (.release place) [⟨.leaveApartment, ()⟩] .released
        ⟨before.held.eraseIdx place, before.dropped ++ [status]⟩
  | forgotten {place : Nat} {status : Status} : before.held[place]? = some status →
      status.succeeded = false →
      Takes before (.release place) [] .released
        ⟨before.held.eraseIdx place, before.dropped ++ [status]⟩
  | notHeld {place : Nat} : before.held[place]? = none →
      Takes before (.release place) [] .notHeld before

/-- Steps can take a ledger to another one with these events and reports. -/
inductive TakesAll : Ledger → List Step → List Event → List Report → Ledger → Prop
  | nil (ledger : Ledger) : TakesAll ledger [] [] [] ledger
  | cons {before between after : Ledger} {step : Step} {steps : List Step} {es es' : List Event}
      {report : Report} {reports : List Report} :
      Takes before step es report between → TakesAll between steps es' reports after →
      TakesAll before (step :: steps) (es ++ es') (report :: reports) after

/-- The calls of a thread are in balance with its ledger. -/
structure Balances (ledger : Ledger) (es : List Event) : Prop where
  /-- The thread left as often as it gave up a guard with which it had joined. -/
  left : es.countP Event.leaves = ledger.dropped.countP Status.succeeded
  /-- It joined as often as it got a guard with which it joined. -/
  joined : es.countP Event.joins =
    ledger.held.countP Status.succeeded + ledger.dropped.countP Status.succeeded

variable {before after : Ledger} {step : Step} {steps : List Step} {es es' : List Event}
  {report : Report} {reports : List Report}

theorem balances_blank : blank.Balances [] := ⟨rfl, rfl⟩

/-- A guard that is given up is counted among those given up instead of those held. -/
theorem countP_eraseIdx {held : List Status} {place : Nat} {status : Status}
    (h : held[place]? = some status) :
    held.countP Status.succeeded =
      (held.eraseIdx place).countP Status.succeeded + [status].countP Status.succeeded := by
  obtain ⟨hplace, rfl⟩ := List.getElem?_eq_some_iff.mp h
  have hperm := List.getElem_cons_eraseIdx_perm hplace
  rw [← hperm.countP_eq, ← List.singleton_append, List.countP_append, Nat.add_comm]

/-- Every step keeps the balance. -/
theorem Takes.balances (h : Takes before step es report after) (hbefore : before.Balances es') :
    after.Balances (es' ++ es) := by
  obtain ⟨hleft, hjoined⟩ := hbefore
  cases h with
  | joined hok =>
    constructor
    · simp [Event.leaves, hleft]
    · simp [Event.joins, hok, hjoined]
      omega
  | stayed =>
    have hlost : changedMode.succeeded = false := rfl
    constructor
    · simp [Event.leaves, hleft]
    · simp [Event.joins, hlost, hjoined]
  | refused text hlost =>
    constructor
    · simp [Event.leaves, hleft]
    · simp [Event.joins, hlost, hjoined]
  | left hplace hok =>
    have hcount := countP_eraseIdx hplace
    constructor
    · simp [Event.leaves, hleft, hok]
    · simp [Event.joins, hjoined, hok] at hcount ⊢
      omega
  | forgotten hplace hlost =>
    have hcount := countP_eraseIdx hplace
    constructor
    · simp [hleft, hlost]
    · simp [hjoined, hlost] at hcount ⊢
      omega
  | notHeld hplace =>
    rw [List.append_nil]
    exact ⟨hleft, hjoined⟩

/-- Whatever is done, the balance is kept. -/
theorem TakesAll.balances (h : TakesAll before steps es reports after)
    (hbefore : before.Balances es') : after.Balances (es' ++ es) := by
  induction h generalizing es' with
  | nil => rwa [List.append_nil]
  | cons hstep _ ih =>
    rw [← List.append_assoc]
    exact ih (hstep.balances hbefore)

/-- A step makes at most one call. -/
theorem Takes.length_le_one (h : Takes before step es report after) : es.length ≤ 1 := by
  cases h <;> simp

/-- At every point between the calls of a run some of the steps have been taken. -/
theorem TakesAll.exists_point (h : TakesAll before steps es reports after) (hpoint : es' <+: es) :
    ∃ steps' reports' between, steps' <+: steps ∧ TakesAll before steps' es' reports' between := by
  induction h generalizing es' with
  | nil ledger =>
    rw [List.prefix_nil] at hpoint
    subst hpoint
    exact ⟨[], [], ledger, List.nil_prefix, .nil ledger⟩
  | @cons before between after step steps es rest report reports hstep _ ih =>
    by_cases hnone : es' = []
    · subst hnone
      exact ⟨[], [], before, List.nil_prefix, .nil before⟩
    -- Some call has been made, so the first step has been taken, which makes no more than that one.
    have htaken : es <+: es' := by
      rcases List.prefix_or_prefix_of_prefix hpoint (List.prefix_append es rest) with hle | hle
      · have hone := hstep.length_le_one
        have hsome : 0 < es'.length := List.length_pos_iff.mpr hnone
        have hall : es' = es := hle.eq_of_length_le (by omega)
        exact ⟨[], (List.append_nil es).trans hall.symm⟩
      · exact hle
    obtain ⟨more, rfl⟩ := htaken
    have hmore : more <+: rest := (List.prefix_append_right_inj es).mp hpoint
    obtain ⟨steps', reports', reached, hsteps, htakes⟩ := ih hmore
    exact ⟨step :: steps', report :: reports', reached, List.cons_prefix_cons.mpr ⟨rfl, hsteps⟩,
      .cons hstep htakes⟩

end Ledger

/-! ## Runs -/

/-- Asking for a guard takes the ledger to one with that guard, or leaves it as it is. -/
theorem perform_acquire_takes (ledger : Ledger) (s : σ) :
    let r := (perform (ledger.held.map ofStatus) .acquire).run answer s
    ∃ after, ledger.Takes .acquire r.events r.value.1 after ∧ r.value.2 = after.held.map ofStatus := by
  intro r
  have hr : r = (perform (ledger.held.map ofStatus) .acquire).run answer s := rfl
  obtain ⟨hevents, hjoined, hstayed, hrefused⟩ := run_join answer s
  generalize (answer (.enterApartment threaded) s).1 = status at *
  have hguards (status : Status) : ledger.held.map ofStatus ++ [ofStatus status] =
      (ledger.held ++ [status]).map ofStatus := by
    rw [List.map_append, List.map_singleton]
  unfold perform at hr
  rw [Dialogue.run_bind] at hr
  dsimp only at hr
  by_cases hok : status.succeeded
  · rw [hevents, hjoined hok] at hr
    rw [hr]
    exact ⟨_, .joined hok, hguards status⟩
  by_cases hmode : status = changedMode
  · rw [hevents, hstayed hmode, hmode] at hr
    rw [hr]
    exact ⟨_, .stayed, hguards changedMode⟩
  · have hlost : status.succeeded = false := by simpa using hok
    obtain ⟨text, hvalue⟩ := hrefused hlost hmode
    rw [hevents, hvalue] at hr
    rw [hr]
    exact ⟨ledger, .refused text hlost hmode, rfl⟩

/-- Giving up a guard takes the ledger to one in which it is given up. -/
theorem perform_release_takes (ledger : Ledger) (place : Nat) (s : σ) :
    let r := (perform (ledger.held.map ofStatus) (.release place)).run answer s
    ∃ after, ledger.Takes (.release place) r.events r.value.1 after ∧
      r.value.2 = after.held.map ofStatus := by
  intro r
  have hr : r = (perform (ledger.held.map ofStatus) (.release place)).run answer s := rfl
  unfold perform at hr
  dsimp only at hr
  rw [List.getElem?_map] at hr
  cases hplace : ledger.held[place]? with
  | none =>
    rw [hplace] at hr
    rw [hr]
    exact ⟨ledger, .notHeld hplace, rfl⟩
  | some status =>
    have hleave := run_leave_ofStatus answer status s
    rw [hplace] at hr
    dsimp only [Option.map_some] at hr
    rw [Dialogue.run_bind] at hr
    have hheld : (ledger.held.map ofStatus).eraseIdx place =
        (ledger.held.eraseIdx place).map ofStatus := List.eraseIdx_map ..
    rw [hr, hheld]
    dsimp only [Dialogue.run_pure]
    rw [hleave, List.append_nil]
    by_cases hok : status.succeeded
    · rw [if_pos hok]
      exact ⟨_, .left hplace hok, rfl⟩
    · rw [if_neg hok]
      exact ⟨_, .forgotten hplace (by simpa using hok), rfl⟩

/-- A step of a thread takes its ledger to another. -/
theorem perform_takes (ledger : Ledger) (step : Step) (s : σ) :
    let r := (perform (ledger.held.map ofStatus) step).run answer s
    ∃ after, ledger.Takes step r.events r.value.1 after ∧ r.value.2 = after.held.map ofStatus := by
  cases step with
  | acquire => exact perform_acquire_takes answer ledger s
  | release place => exact perform_release_takes answer ledger place s

/-- The steps of a thread take its ledger to another. -/
theorem performAll_takesAll (ledger : Ledger) (steps : List Step) (s : σ) :
    let r := (performAll (ledger.held.map ofStatus) steps).run answer s
    ∃ after, ledger.TakesAll steps r.events r.value.1 after ∧
      r.value.2 = after.held.map ofStatus := by
  induction steps generalizing ledger s with
  | nil => exact ⟨ledger, .nil ledger, rfl⟩
  | cons step steps ih =>
    intro r
    have hr : r = (performAll (ledger.held.map ofStatus) (step :: steps)).run answer s := rfl
    obtain ⟨between, hstep, hheld⟩ := perform_takes answer ledger step s
    obtain ⟨after, hsteps, hafter⟩ := ih between
      ((perform (ledger.held.map ofStatus) step).run answer s).state
    unfold performAll at hr
    rw [Dialogue.run_bind] at hr
    dsimp only at hr
    rw [hheld, Dialogue.run_bind] at hr
    dsimp only [Dialogue.run_pure] at hr
    rw [List.append_nil] at hr
    rw [hr]
    exact ⟨after, .cons hstep hsteps, hafter⟩

/-- Whatever steps a thread takes and whatever the platform reports, the guards of the thread are in the
ledger with the statuses that were reported for them; at every point the thread has left as often as it
gave up a guard with which it had joined, so never more often than it joined, and as often when it holds no
guard.  So it is when it gives up in the end whatever it still holds.  A status that says that the thread is
in an apartment of another model gives a guard that never leaves, and any other status that is no success
gives none and makes no further call. -/
theorem performAll_balanced (steps : List Step) (s : σ) :
    let r := (performAll [] steps).run answer s
    (∃ ledger, Ledger.blank.TakesAll steps r.events r.value.1 ledger ∧
      r.value.2 = ledger.held.map ofStatus ∧ ledger.Balances r.events) ∧
    (∀ es, es <+: r.events → ∃ taken reports ledger, taken <+: steps ∧
      Ledger.blank.TakesAll taken es reports ledger ∧
      es.countP Event.leaves = ledger.dropped.countP Status.succeeded ∧
      es.countP Event.leaves ≤ es.countP Event.joins ∧
      (ledger.held = [] → es.countP Event.leaves = es.countP Event.joins)) ∧
    (let whole := r.events ++ ((leaveAll r.value.2).run answer r.state).events;
      whole.countP Event.leaves = whole.countP Event.joins) ∧
    ∀ s, let status : Status := (answer (.enterApartment threaded) s).1
      let r := join.run answer s
      r.events = [⟨.enterApartment threaded, status⟩] ∧
      (status = changedMode →
        ∃ guard, r.value = .ok guard ∧ ∀ s', (guard.leave.run answer s').events = []) ∧
      (status.succeeded = false → status ≠ changedMode →
        ∃ text, r.value = .error (.initializationFailed text)) := by
  intro r
  obtain ⟨ledger, htakes, hheld⟩ := performAll_takesAll answer Ledger.blank steps s
  refine ⟨⟨ledger, htakes, hheld, ?_⟩, ?_, ?_, ?_⟩
  · exact htakes.balances Ledger.balances_blank
  · intro es hpoint
    obtain ⟨taken, reports, reached, htaken, hreached⟩ := htakes.exists_point hpoint
    obtain ⟨hleft, hjoined⟩ : reached.Balances es := hreached.balances Ledger.balances_blank
    refine ⟨taken, reports, reached, htaken, hreached, hleft, ?_, ?_⟩
    · omega
    · intro hnone
      simp only [hnone, List.countP_nil, Nat.zero_add] at hjoined
      rw [hleft, hjoined]
  · obtain ⟨hleft, hjoined⟩ : ledger.Balances r.events := htakes.balances Ledger.balances_blank
    obtain ⟨hlast, hnone⟩ := countP_leaveAll answer ledger.held r.state
    have hrest : r.value.2 = ledger.held.map ofStatus := hheld
    intro whole
    rw [List.countP_append, List.countP_append, hrest, hleft, hjoined, hlast, hnone]
    omega
  · intro s status r
    obtain ⟨hevents, -, hstayed, hrefused⟩ := run_join answer s
    refine ⟨hevents, ?_, hrefused⟩
    intro hmode
    refine ⟨ofStatus status, hstayed hmode, ?_⟩
    intro s'
    rw [run_leave_ofStatus, hmode]
    rfl

/-- Three guards, the second of which never joined, given up in another order. -/
example :
    let answer : Responder (List Status) := fun call statuses =>
      match call with
      | .enterApartment _ | .setProcessAppId _ => (statuses.headD ⟨0⟩, statuses.tail)
      | .leaveApartment => ((), statuses)
    let steps := [.acquire, .acquire, .acquire, .release 1, .release 1, .release 0]
    let r := (performAll [] steps).run answer [⟨0⟩, changedMode, alreadyJoined]
    r.events.countP Event.leaves = 2 ∧ r.value.2 = [] := by
  decide

end Apartment

end Platform

end JumpList
