import Ssh1.Lib.RecordedRun

/-
  Monitors of recorded events.

  A monitor reads the events one after the other and keeps
  what it has to know of the past. Computations are judged by
  it from a precondition on their state and on what the
  monitor knows.

  Main declarations:
    * `Monitor`, `Monitor.Accepts`
    * `Recorded.Watched`
-/

------------------------------------------------------------
-- Monitors
------------------------------------------------------------

/- What is allowed, and what is known afterwards. -/
structure Monitor (ε κ : Type) where
  allows : κ → ε → Prop
  next : κ → ε → κ

namespace Monitor

variable {ε κ : Type}
variable (monitor : Monitor ε κ)

/- What is known after some events. -/
def after : κ → List ε → κ
| k, [] => k
| k, event :: events => after (monitor.next k event) events

/- Each event is allowed when it comes. -/
def Accepts : κ → List ε → Prop
| _, [] => True
| k, event :: events =>
    monitor.allows k event ∧
      Accepts (monitor.next k event) events

/- The monitor goes on from where it stands. -/
theorem after_append
    (k : κ)
    (events events' : List ε) :
    monitor.after k (events ++ events') =
      monitor.after (monitor.after k events) events' := by
  induction events generalizing k with
  | nil => rfl
  | cons event events ih => exact ih (monitor.next k event)

/- Each part is accepted from where the monitor stands. -/
theorem accepts_append
    (k : κ)
    (events events' : List ε) :
    monitor.Accepts k (events ++ events') ↔
      monitor.Accepts k events ∧
        monitor.Accepts (monitor.after k events) events' := by
  induction events generalizing k with
  | nil => simp [Accepts, after]
  | cons event events ih =>
      simp only [List.cons_append, Accepts, after, ih,
        and_assoc]

/- An event of an accepted run was allowed where it stands. -/
theorem allows_of_accepts
    {k : κ}
    {before after' : List ε}
    {event : ε}
    (hAccepts :
      monitor.Accepts k (before ++ event :: after')) :
    monitor.allows (monitor.after k before) event :=
  ((monitor.accepts_append k before _).mp hAccepts).2.1

/- The monitor that knows all events so far. -/
def history
    (allows : List ε → ε → Prop) : Monitor ε (List ε) where
  allows := allows
  next k event := k ++ [event]

/- The state of this monitor is the run itself. -/
theorem after_history
    (allows : List ε → ε → Prop)
    (k events : List ε) :
    (history allows).after k events = k ++ events := by
  induction events generalizing k with
  | nil => exact (List.append_nil k).symm
  | cons event events ih =>
      rw [after, ih]
      exact List.append_assoc k [event] events

/- Each event is allowed after the events before it. -/
theorem allows_of_accepts_history
    {allows : List ε → ε → Prop}
    {before after' : List ε}
    {event : ε}
    (hAccepts :
      (history allows).Accepts []
        (before ++ event :: after')) :
    allows before event := by
  have hAllows := (history allows).allows_of_accepts hAccepts
  rw [after_history, List.nil_append] at hAllows
  exact hAllows

end Monitor

------------------------------------------------------------
-- Watched Computations
------------------------------------------------------------

namespace Recorded

variable {ε η σ κ α β : Type}

/-
  From the precondition on, the monitor accepts all events,
  and where the computation returns the postcondition holds.
-/
def Watched
    (monitor : Monitor ε κ)
    (P : σ → κ → Prop)
    (m : Recorded ε η σ α)
    (Q : α → σ → κ → Prop) : Prop :=
  ∀ state k, P state k →
    monitor.Accepts k (m state).events ∧
      ∀ a state', (m state).result = .ok (a, state') →
        Q a state' (monitor.after k (m state).events)

variable {monitor : Monitor ε κ}
variable {P : σ → κ → Prop} {Q : α → σ → κ → Prop}
variable {Q' : β → σ → κ → Prop}

/- A value moves nothing. -/
theorem Watched.pure
    {a : α}
    (hPost : ∀ state k, P state k → Q a state k) :
    Watched monitor P
      (Pure.pure a : Recorded ε η σ α) Q := by
  intro state k hPre
  refine ⟨trivial, ?_⟩
  intro a' state' hResult
  cases hResult
  exact hPost state k hPre

/- A halt reaches no state. -/
theorem Watched.stop
    (halt : η) :
    Watched monitor P (stop halt : Recorded ε η σ α) Q := by
  intro state k hPre
  refine ⟨trivial, ?_⟩
  intro a state' hResult
  cases hResult

/- The event is allowed, and the monitor moves. -/
theorem Watched.record
    {event : ε}
    {Q : Unit → σ → κ → Prop}
    (hAllows : ∀ state k, P state k → monitor.allows k event)
    (hPost : ∀ state k, P state k →
      Q () state (monitor.next k event)) :
    Watched monitor P
      (record event : Recorded ε η σ Unit) Q := by
  intro state k hPre
  refine ⟨⟨hAllows state k hPre, trivial⟩, ?_⟩
  intro a state' hResult
  cases hResult
  exact hPost state k hPre

/- The state changes and the monitor stays. -/
theorem Watched.modify
    {f : σ → σ}
    {Q : Unit → σ → κ → Prop}
    (hPost : ∀ state k, P state k → Q () (f state) k) :
    Watched monitor P
      (modify f : Recorded ε η σ Unit) Q := by
  intro state k hPre
  refine ⟨trivial, ?_⟩
  intro a state' hResult
  cases hResult
  exact hPost state k hPre

/- What a call does and what it changes, together. -/
theorem Watched.record_modify
    {event : ε}
    {f : σ → σ}
    {Q : Unit → σ → κ → Prop}
    (hAllows : ∀ state k, P state k → monitor.allows k event)
    (hPost : ∀ state k, P state k →
      Q () (f state) (monitor.next k event)) :
    Watched monitor P
      (do
        Recorded.record event
        Recorded.modify f : Recorded ε η σ Unit) Q := by
  intro state k hPre
  refine ⟨⟨hAllows state k hPre, trivial⟩, ?_⟩
  intro a state' hResult
  cases hResult
  exact hPost state k hPre

/- The rule of sequence. -/
theorem Watched.bind
    {m : Recorded ε η σ α}
    {f : α → Recorded ε η σ β}
    (hFirst : Watched monitor P m Q)
    (hRest : ∀ a, Watched monitor (Q a) (f a) Q') :
    Watched monitor P (m >>= f) Q' := by
  intro state k hPre
  have hBefore := hFirst state k hPre
  rw [bind_apply]
  rcases andThen_cases (m state) f with
    ⟨halt, _, hRun⟩ | ⟨a, state', hOk, hRun⟩
  · rw [hRun]
    refine ⟨hBefore.1, ?_⟩
    intro b state' hResult
    cases hResult
  · rw [hRun]
    have hAfter :=
      hRest a state' _ (hBefore.2 a state' hOk)
    refine ⟨(monitor.accepts_append _ _ _).mpr
      ⟨hBefore.1, hAfter.1⟩, ?_⟩
    intro b state'' hResult
    rw [monitor.after_append]
    exact hAfter.2 b state'' hResult

/- The rest of a computation knows the state that it read. -/
theorem Watched.get_bind
    {f : σ → Recorded ε η σ β}
    (hRest : ∀ read,
      Watched monitor (fun state k => state = read ∧ P state k)
        (f read) Q') :
    Watched monitor P (get >>= f) Q' := by
  intro state k hPre
  exact hRest state state k ⟨rfl, hPre⟩

/- The rule of consequence. -/
theorem Watched.mono
    {P' : σ → κ → Prop}
    {Q' : α → σ → κ → Prop}
    {m : Recorded ε η σ α}
    (hWatched : Watched monitor P m Q)
    (hPre : ∀ state k, P' state k → P state k)
    (hPost : ∀ a state k, Q a state k → Q' a state k) :
    Watched monitor P' m Q' := by
  intro state k hPre'
  have hRun := hWatched state k (hPre state k hPre')
  refine ⟨hRun.1, ?_⟩
  intro a state' hResult
  exact hPost a state' _ (hRun.2 a state' hResult)

/- What is known of the result of a run from one state. -/
theorem Watched.from_state
    {m : Recorded ε η σ α}
    (hWatched : Watched monitor P m Q)
    (start : σ) :
    Watched monitor (fun state k => state = start ∧ P state k)
      m fun a state k =>
        Q a state k ∧ (m start).result = .ok (a, state) := by
  intro state k hPre
  have hRun := hWatched state k hPre.2
  refine ⟨hRun.1, ?_⟩
  intro a state' hResult
  refine ⟨hRun.2 a state' hResult, ?_⟩
  rw [← hPre.1]
  exact hResult

/-
  A computation whose events the monitor passes over, and
  that leads to states like the one before.
-/
theorem Watched.of_always
    {Passed : ε → Prop}
    {R : σ → List ε → σ → Prop}
    {m : Recorded ε η σ α}
    (hAllows : ∀ k event, Passed event →
      monitor.allows k event ∧ monitor.next k event = k)
    (hAlways : Always Passed m)
    (hLeads : Leads R m)
    (hKeeps : ∀ state events state' k,
      P state k → R state events state' → P state' k) :
    Watched monitor P m fun _ => P := by
  have hPass : ∀ (events : List ε) k,
      (∀ event ∈ events, Passed event) →
        monitor.Accepts k events ∧
          monitor.after k events = k := by
    intro events k hEvents
    induction events with
    | nil => exact ⟨trivial, rfl⟩
    | cons event events ih =>
        rcases List.forall_mem_cons.mp hEvents with
          ⟨hEvent, hRest⟩
        rcases hAllows k event hEvent with
          ⟨hAllowed, hSame⟩
        rw [Monitor.Accepts, Monitor.after, hSame]
        exact ⟨⟨hAllowed, (ih hRest).1⟩, (ih hRest).2⟩
  intro state k hPre
  rcases hPass (m state).events k (hAlways state) with
    ⟨hAccepts, hSame⟩
  refine ⟨hAccepts, ?_⟩
  intro a state' hResult
  rw [hSame]
  exact hKeeps state _ state' k hPre
    (hLeads state a state' hResult)

end Recorded
