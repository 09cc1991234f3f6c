import Ssh1.Lib.MonitoredRun

/-
  The history of a run.

  A rule says after which events an event may come. Runs that
  keep a rule are judged by what holds of the events so far.
  Facts about the past that later events cannot change stay
  true during a run, and so do bounds on the number of events
  of a kind.

  Main declarations:
    * `EachFollows`
    * `Recorded.Follows`, `Recorded.Stable`
    * `Recorded.AtMost`
-/

------------------------------------------------------------
-- Rules
------------------------------------------------------------

/- Each event comes after events that the rule wants. -/
def EachFollows
    {ε : Type}
    (rule : List ε → ε → Prop)
    (events : List ε) : Prop :=
  ∀ before event after,
    events = before ++ event :: after → rule before event

namespace Recorded

variable {ε η σ α β : Type}
variable {rule : List ε → ε → Prop}
variable {P P' : List ε → Prop}
variable {Q : α → List ε → Prop} {Q' : β → List ε → Prop}

/-
  After a past with the precondition every event is allowed,
  and where the computation returns the postcondition holds.
-/
def Follows
    (rule : List ε → ε → Prop)
    (P : List ε → Prop)
    (m : Recorded ε η σ α)
    (Q : α → List ε → Prop) : Prop :=
  Watched (Monitor.history rule) (fun _ => P) m
    fun a _ => Q a

/- A value follows every rule. -/
theorem Follows.pure
    {a : α}
    (hPost : ∀ before, P before → Q a before) :
    Follows rule P (Pure.pure a : Recorded ε η σ α) Q :=
  Watched.pure fun _ => hPost

/- Whatever is claimed of the end, a halt does not reach it. -/
theorem Follows.stop
    (halt : η) :
    Follows rule P (stop halt : Recorded ε η σ α) Q :=
  Watched.stop halt

/- The event keeps the rule, given what came before. -/
theorem Follows.record
    {event : ε}
    {Q : Unit → List ε → Prop}
    (hRule : ∀ before, P before → rule before event)
    (hPost : ∀ before, P before → Q () (before ++ [event])) :
    Follows rule P (record event : Recorded ε η σ Unit) Q :=
  Watched.record (fun _ => hRule) fun _ => hPost

/- A change of the state leaves the history as it is. -/
theorem Follows.modify
    (f : σ → σ) :
    Follows rule P (modify f : Recorded ε η σ Unit)
      fun _ => P :=
  Watched.modify fun _ _ hPre => hPre

/- The second piece goes on from the history of the first. -/
theorem Follows.bind
    {m : Recorded ε η σ α}
    {f : α → Recorded ε η σ β}
    (hFirst : Follows rule P m Q)
    (hRest : ∀ a, Follows rule (Q a) (f a) Q') :
    Follows rule P (m >>= f) Q' :=
  Watched.bind hFirst hRest

/- The state may be read before. -/
theorem Follows.get_bind
    {f : σ → Recorded ε η σ β}
    (hRest : ∀ read, Follows rule P (f read) Q') :
    Follows rule P (get >>= f) Q' :=
  Watched.get_bind fun read =>
    (hRest read).mono (fun _ _ hPre => hPre.2)
      fun _ _ _ hPost => hPost

/- The rule of consequence. -/
theorem Follows.weaken
    {Q₂ : α → List ε → Prop}
    {m : Recorded ε η σ α}
    (hFollows : Follows rule P m Q)
    (hPre : ∀ before, P' before → P before)
    (hPost : ∀ a before, Q a before → Q₂ a before) :
    Follows rule P' m Q₂ :=
  hFollows.mono (fun _ => hPre) fun a _ => hPost a

/- A precondition that is a fact about no event. -/
theorem Follows.of_fact
    {p : Prop}
    {m : Recorded ε η σ α}
    (hFollows : p → Follows rule P m Q) :
    Follows rule (fun before => p ∧ P before) m Q := by
  intro state before hPre
  exact hFollows hPre.1 state before hPre.2

/- A run that starts with no past keeps the rule. -/
theorem Follows.eachFollows
    {m : Recorded ε η σ α}
    (hFollows : Follows rule (· = []) m Q)
    (state : σ) :
    EachFollows rule (m state).events := by
  intro before event after hEvents
  have hAccepts := (hFollows state [] rfl).1
  rw [hEvents] at hAccepts
  exact Monitor.allows_of_accepts_history hAccepts

/- What holds of the whole run where it returns. -/
theorem Follows.returns
    {m : Recorded ε η σ α}
    {state state' : σ}
    {a : α}
    (hFollows : Follows rule (· = []) m Q)
    (hResult : (m state).result = .ok (a, state')) :
    Q a (m state).events := by
  have hPost := (hFollows state [] rfl).2 a state' hResult
  rw [Monitor.after_history, List.nil_append] at hPost
  exact hPost

end Recorded

------------------------------------------------------------
-- Facts about the Past
------------------------------------------------------------

namespace Recorded

variable {ε : Type}

/- Later events do not change the fact. -/
def Stable (F : List ε → Prop) : Prop :=
  ∀ before later, F before → F (before ++ later)

/- What was seen once has been seen. -/
theorem Stable.mem
    (event : ε) :
    Stable fun before => event ∈ before := by
  intro before later hMem
  exact List.mem_append_left _ hMem

end Recorded

------------------------------------------------------------
-- Numbers of Events
------------------------------------------------------------

namespace Recorded

variable {ε η σ α β : Type} {p : ε → Bool}

/- There are no more events of this kind in any run. -/
def AtMost
    (p : ε → Bool)
    (bound : Nat)
    (m : Recorded ε η σ α) : Prop :=
  ∀ state, (m state).events.countP p ≤ bound

/- A value counts nothing. -/
theorem AtMost.pure
    (a : α) :
    AtMost p 0 (Pure.pure a : Recorded ε η σ α) := by
  intro state
  exact Nat.le_refl 0

theorem AtMost.stop
    (halt : η) :
    AtMost p 0 (stop halt : Recorded ε η σ α) := by
  intro state
  exact Nat.le_refl 0

theorem AtMost.get :
    AtMost p 0 (get : Recorded ε η σ σ) := by
  intro state
  exact Nat.le_refl 0

theorem AtMost.modify
    (f : σ → σ) :
    AtMost p 0 (modify f : Recorded ε η σ Unit) := by
  intro state
  exact Nat.le_refl 0

/- One event counts once at the most. -/
theorem AtMost.record
    (event : ε) :
    AtMost p 1 (record event : Recorded ε η σ Unit) := by
  intro state
  exact List.countP_le_length

/- No event of the run counts. -/
theorem AtMost.of_always
    {m : Recorded ε η σ α}
    (hAlways : Always (fun event => p event = false) m) :
    AtMost p 0 m := by
  intro state
  rw [Nat.le_zero, List.countP_eq_zero]
  intro event hEvent
  rw [hAlways state event hEvent]
  exact Bool.false_ne_true

/- A higher bound holds as well. -/
theorem AtMost.mono
    {bound bound' : Nat}
    {m : Recorded ε η σ α}
    (hAtMost : AtMost p bound m)
    (hLe : bound ≤ bound') :
    AtMost p bound' m := by
  intro state
  exact Nat.le_trans (hAtMost state) hLe

/- The bounds of both pieces add up. -/
theorem AtMost.bind
    {first rest : Nat}
    {m : Recorded ε η σ α}
    {f : α → Recorded ε η σ β}
    (hFirst : AtMost p first m)
    (hRest : ∀ a, AtMost p rest (f a)) :
    AtMost p (first + rest) (m >>= f) := by
  intro state
  rw [bind_apply]
  rcases andThen_cases (m state) f with
    ⟨halt, _, hRun⟩ | ⟨a, state', _, hRun⟩
  · rw [hRun]
    exact Nat.le_trans (hFirst state) (Nat.le_add_right _ _)
  · rw [hRun, List.countP_append]
    exact Nat.add_le_add (hFirst state) (hRest a state')

/- What comes first is none of these events. -/
theorem AtMost.after_none
    {bound : Nat}
    {m : Recorded ε η σ α}
    {f : α → Recorded ε η σ β}
    (hFirst : AtMost p 0 m)
    (hRest : ∀ a, AtMost p bound (f a)) :
    AtMost p bound (m >>= f) := by
  have hBoth := hFirst.bind hRest
  rw [Nat.zero_add] at hBoth
  exact hBoth

end Recorded
