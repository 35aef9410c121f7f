import Mathlib.Data.List.Basic
import Showcase.Bridge

/-!
# What reaches an observer

What has happened around a bridge, the latest first, tells which observer is listening and
which events each one has heard. A bridge keeps no such record; its registered position and
the observers themselves sum it up.

An observer that echoes reports an event once more while it handles it, and the bridge passes
that on like any other event. `Emits` leaves open how often this goes on. It never goes on for
long, because the only observer that an echo could reach is the one that is busy with it.
-/

namespace Showcase

namespace BridgeStep

/-- Whom the latest registration that took effect names, or no one if it was undone since. It
takes effect for one of `count` observers that has not been dropped. -/
def listener (count : Nat) : List BridgeStep → Option Nat
  | [] => none
  | register i :: past => if i < count ∧ drop i ∉ past then some i else listener count past
  | unregister :: _ => none
  | drop _ :: past => listener count past
  | emit _ _ :: past => listener count past

/-- The events that the observer at a position has heard, in the order they were reported:
those for which it was listening, had not been dropped and was not busy. -/
def heard (count i : Nat) : List BridgeStep → List SectionEvent
  | [] => []
  | emit busy e :: past =>
    if listener count past = some i ∧ drop i ∉ past ∧ i ∉ busy then heard count i past ++ [e]
    else heard count i past
  | register _ :: past => heard count i past
  | unregister :: past => heard count i past
  | drop _ :: past => heard count i past

/-- The observer at a position after what has happened. -/
def observer (count i : Nat) (past : List BridgeStep) (echoes : Bool) : Observer :=
  { echoes, alive := decide (drop i ∉ past), seen := heard count i past }

variable {count i : Nat} {past : List BridgeStep}

theorem lt_of_listener (h : listener count past = some i) : i < count := by
  induction past with
  | nil => cases h
  | cons step past ih =>
      cases step with
      | register j =>
          rw [listener] at h
          split at h
          · rename_i h_can
            exact Option.some.inj h ▸ h_can.1
          · exact ih h
      | unregister => cases h
      | drop j => exact ih h
      | emit busy e => exact ih h

theorem observer_cons (step : BridgeStep) (h : drop i ≠ step) :
    observer count i (step :: past) = fun echoes =>
      { observer count i past echoes with seen := heard count i (step :: past) } := by
  funext echoes
  simp [observer, h]

theorem observer_drop :
    observer count i (drop i :: past) = fun echoes =>
      { observer count i past echoes with alive := false } := by
  funext echoes
  simp [observer, heard]

end BridgeStep

namespace Bridge

open BridgeStep (listener heard observer)

/-- An event is reported while some observers are busy, and its echoes are reported until
there are no more of them. The list says what became of the event and of each echo, and the
last bridge is the one that is left in the end. -/
inductive Emits (e : SectionEvent) : Bridge → List Nat → List Delivery → Bridge → Prop
  | lost {b : Bridge} {busy : List Nat} (h : ∀ i, b.reach busy ≠ .given i) :
      Emits e b busy [b.reach busy] b
  | handled {b : Bridge} {busy : List Nat} {i : Nat} (h : b.reach busy = .given i)
      (hplain : (b.observers[i]?).any (·.echoes) = false) :
      Emits e b busy [.given i] (receive e b (.given i))
  | echoed {b b' : Bridge} {busy : List Nat} {i : Nat} {echo : List Delivery}
      (h : b.reach busy = .given i) (hechoes : (b.observers[i]?).any (·.echoes) = true)
      (hecho : Emits e (receive e b (.given i)) (i :: busy) echo b') :
      Emits e b busy (.given i :: echo) b'

def Delivery.isGiven : Delivery → Bool
  | given _ => true
  | _ => false

variable {b b' : Bridge} {busy : List Nat} {e : SectionEvent} {i : Nat}

/-! ## One event -/

theorem reach_eq_given_iff :
    b.reach busy = .given i ↔ b.registered = some i ∧ b.isAlive i = true ∧ i ∉ busy := by
  constructor
  · intro h
    rw [reach] at h
    split at h
    · cases h
    · rename_i h_registered
      split at h
      · cases h
      · rename_i h_alive
        split at h
        · cases h
        · rename_i h_free
          cases h
          exact ⟨h_registered, by simpa using h_alive, h_free⟩
  · intro ⟨h_registered, h_alive, h_free⟩
    simp [reach, h_registered, h_alive, h_free]

/-- The observer that is given an event is busy with it when it reports the echo. -/
theorem reach_cons_of_given (h : b.reach busy = .given i) : b.reach (i :: busy) = .refused := by
  obtain ⟨h_registered, h_alive, -⟩ := reach_eq_given_iff.1 h
  simp [reach, h_registered, h_alive]

theorem deliveries_of_not_given (h : ∀ i, b.reach busy ≠ .given i) :
    b.deliveries busy = [b.reach busy] := by
  rw [deliveries]
  split
  · rename_i j h_given
    exact absurd h_given (h j)
  · rfl

theorem deliveries_of_given (h : b.reach busy = .given i) :
    b.deliveries busy =
      .given i :: if (b.observers[i]?).any (·.echoes) then [.refused] else [] := by
  rw [deliveries, h]
  simp only [reach_cons_of_given h]

theorem countP_deliveries_le_one (b : Bridge) (busy : List Nat) :
    (b.deliveries busy).countP Delivery.isGiven ≤ 1 := by
  cases h : b.reach busy with
  | given i =>
      rw [deliveries_of_given h]
      split
      · exact Nat.le_refl 1
      · exact Nat.le_refl 1
  | _ =>
      rw [deliveries_of_not_given (by simp [h])]
      exact List.countP_le_length

/-- An event changes what it would change without any echo. -/
theorem emit_eq (b : Bridge) (busy : List Nat) (e : SectionEvent) :
    b.emit busy e = receive e b (b.reach busy) := by
  rw [emit]
  cases h : b.reach busy with
  | given i =>
      rw [deliveries_of_given h]
      split
      · rfl
      · rfl
  | _ =>
      rw [deliveries_of_not_given (by simp [h]), h]
      rfl

/-! ## Echoes -/

theorem registered_receive (e : SectionEvent) (b : Bridge) (d : Delivery) :
    (receive e b d).registered = b.registered := by
  cases d with
  | _ => rfl

theorem getElem?_observers_receive (e : SectionEvent) (b : Bridge) (d : Delivery) (j : Nat) :
    (receive e b d).observers[j]? =
      b.observers[j]?.map fun o =>
        if d = .given j then { o with seen := o.seen ++ [e] } else o := by
  cases d with
  | given i =>
      rw [receive, Array.getElem?_modify]
      by_cases h_eq : i = j
      · simp [h_eq]
      · simp [h_eq]
  | _ => simp [receive]

/-- What an observer has seen does not matter to where an event goes. -/
theorem reach_receive (b : Bridge) (d : Delivery) (busy : List Nat) :
    (receive e b d).reach busy = b.reach busy := by
  have h_alive : ∀ i, (receive e b d).isAlive i = b.isAlive i := by
    intro i
    rw [isAlive, isAlive, getElem?_observers_receive, Option.any_map]
    congr 1
    funext o
    split
    · rfl
    · rfl
  simp only [reach, registered_receive, h_alive]

theorem reach_receive_cons (h : b.reach busy = .given i) :
    (receive e b (.given i)).reach (i :: busy) = .refused :=
  (reach_receive b _ _).trans (reach_cons_of_given h)

theorem emits_deliveries (b : Bridge) (busy : List Nat) (e : SectionEvent) :
    Emits e b busy (b.deliveries busy) (b.emit busy e) := by
  rw [emit_eq]
  cases h : b.reach busy with
  | given i =>
      rw [deliveries_of_given h]
      have h_refused := reach_receive_cons (e := e) h
      split
      · rename_i h_echoes
        refine .echoed h h_echoes ?_
        rw [← h_refused]
        exact .lost (by simp [h_refused])
      · rename_i h_plain
        exact .handled h (Bool.not_eq_true _ ▸ h_plain)
  | _ =>
      have h_lost : ∀ i, b.reach busy ≠ .given i := by simp [h]
      rw [deliveries_of_not_given h_lost]
      exact .lost h_lost

/-- There is only one way for an emission to go, and it ends. -/
theorem emits_iff {ds : List Delivery} :
    Emits e b busy ds b' ↔ ds = b.deliveries busy ∧ b' = b.emit busy e := by
  constructor
  · intro h
    rw [emit_eq]
    induction h with
    | @lost b busy h =>
        refine ⟨(deliveries_of_not_given h).symm, ?_⟩
        cases h_reach : b.reach busy with
        | given i => exact absurd h_reach (h i)
        | _ => rfl
    | handled h hplain =>
        rw [deliveries_of_given h, h, hplain]
        exact ⟨rfl, rfl⟩
    | @echoed b b' busy i echo h hechoes _ ih =>
        have h_refused := reach_receive_cons (e := e) h
        rw [h_refused, deliveries_of_not_given (by simp [h_refused]), h_refused] at ih
        rw [deliveries_of_given h, h, hechoes, ih.1, ih.2]
        exact ⟨rfl, rfl⟩
  · intro ⟨h_ds, h_left⟩
    rw [h_ds, h_left]
    exact emits_deliveries b busy e

/-! ## What a bridge keeps of its history -/

/-- The registered position and the observers sum up what has happened around a bridge whose
observers echo as `kinds` says. -/
structure SumsUp (kinds : List Bool) (past : List BridgeStep) (b : Bridge) : Prop where
  registered : b.registered = listener kinds.length past
  observers : ∀ i : Nat, b.observers[i]? = kinds[i]?.map (observer kinds.length i past)

variable {kinds : List Bool} {past : List BridgeStep}

theorem SumsUp.isAlive_iff (h : b.SumsUp kinds past) :
    b.isAlive i = true ↔ i < kinds.length ∧ BridgeStep.drop i ∉ past := by
  rw [isAlive, h.observers i]
  rcases Nat.lt_or_ge i kinds.length with hlt | hge
  · simp [observer, hlt]
  · simp [Nat.not_lt.2 hge]

theorem SumsUp.reach_iff (h : b.SumsUp kinds past) :
    b.reach busy = .given i ↔
      listener kinds.length past = some i ∧ BridgeStep.drop i ∉ past ∧ i ∉ busy := by
  rw [reach_eq_given_iff, h.registered, h.isAlive_iff, and_assoc]
  exact and_congr_right fun h_listener => and_iff_right (BridgeStep.lt_of_listener h_listener)

theorem SumsUp.isConnected_iff (h : b.SumsUp kinds past) :
    b.isConnected = true ↔
      ∃ i, listener kinds.length past = some i ∧ BridgeStep.drop i ∉ past := by
  rw [isConnected, h.registered, Option.any_eq_true]
  refine exists_congr fun i => and_congr_right fun h_listener => ?_
  rw [h.isAlive_iff]
  exact and_iff_right (BridgeStep.lt_of_listener h_listener)

theorem sumsUp_ofObservers (kinds : List Bool) :
    (ofObservers (kinds.map fun echoes => { echoes })).SumsUp kinds [] where
  registered := rfl
  observers i := by
    rw [ofObservers, List.getElem?_toArray, List.getElem?_map]
    rfl

theorem SumsUp.register (h : b.SumsUp kinds past) (i : Nat) :
    (b.register i).SumsUp kinds (.register i :: past) where
  registered := by
    rw [Bridge.register, listener, if_congr h.isAlive_iff.symm rfl rfl]
    split
    · rfl
    · exact h.registered
  observers j := by
    have h_observers : (b.register i).observers = b.observers := by
      rw [Bridge.register]
      split
      · rfl
      · rfl
    rw [h_observers, BridgeStep.observer_cons (.register i) nofun]
    exact h.observers j

theorem SumsUp.drop (h : b.SumsUp kinds past) (i : Nat) :
    (b.drop i).SumsUp kinds (.drop i :: past) where
  registered := h.registered
  observers j := by
    rw [Bridge.drop, Array.getElem?_modify, h.observers j]
    split
    · rename_i h_eq
      rw [h_eq, Option.map_map, BridgeStep.observer_drop]
      rfl
    · rename_i h_ne
      rw [BridgeStep.observer_cons (.drop i) fun h_drop => h_ne (BridgeStep.drop.inj h_drop).symm]
      rfl

theorem SumsUp.emit (h : b.SumsUp kinds past) (busy : List Nat) (e : SectionEvent) :
    (b.emit busy e).SumsUp kinds (.emit busy e :: past) where
  registered := by
    rw [emit_eq, registered_receive]
    exact h.registered
  observers j := by
    rw [emit_eq, getElem?_observers_receive, h.observers j, Option.map_map,
      BridgeStep.observer_cons (.emit busy e) nofun, heard, if_congr h.reach_iff.symm rfl rfl]
    congr 1
    funext echoes
    by_cases h_reach : b.reach busy = .given j
    · simp only [Function.comp, if_pos h_reach]
      rfl
    · simp only [Function.comp, if_neg h_reach]
      rfl

theorem SumsUp.perform (h : b.SumsUp kinds past) (step : BridgeStep) :
    (b.perform step).SumsUp kinds (step :: past) := by
  cases step with
  | register i => exact h.register i
  | unregister =>
      refine ⟨rfl, fun j => ?_⟩
      rw [BridgeStep.observer_cons .unregister nofun]
      exact h.observers j
  | drop i => exact h.drop i
  | emit busy e => exact h.emit busy e

theorem SumsUp.run (h : b.SumsUp kinds past) (steps : List BridgeStep) :
    (b.run steps).SumsUp kinds (steps.reverse ++ past) := by
  induction steps generalizing b past with
  | nil => exact h
  | cons step steps ih =>
      rw [List.reverse_cons, List.append_assoc]
      exact ih (h.perform step)

end Bridge

/-- After any steps around a bridge, each observer has seen the events it was to hear and is
alive unless it was dropped. Whoever is busy, an event that is reported next is given to one
observer at most, and its echoes come to an end. The bridge is connected exactly if the
observer that is listening has not been dropped. -/
theorem Bridge.run_delivers (kinds : List Bool) (steps : List BridgeStep) :
    let b := (ofObservers (kinds.map fun echoes => { echoes })).run steps
    let past := steps.reverse
    (∀ i : Nat, b.observers[i]? = kinds[i]?.map fun echoes =>
      { echoes, alive := decide (.drop i ∉ past), seen := BridgeStep.heard kinds.length i past }) ∧
    (∀ busy e, ∃ ds, ds.countP Delivery.isGiven ≤ 1 ∧
      ∀ ds' b', Emits e b busy ds' b' ↔ ds' = ds ∧ b' = b.perform (.emit busy e)) ∧
    (b.isConnected = true ↔
      ∃ i, BridgeStep.listener kinds.length past = some i ∧ .drop i ∉ past) := by
  intro b past
  have h : b.SumsUp kinds past := by
    rw [← List.append_nil past]
    exact (sumsUp_ofObservers kinds).run steps
  exact ⟨h.observers, fun busy e => ⟨_, countP_deliveries_le_one b busy, fun _ _ => emits_iff⟩,
    h.isConnected_iff⟩

end Showcase
