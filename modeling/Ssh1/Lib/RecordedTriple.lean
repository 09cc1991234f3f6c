import Ssh1.Lib.RecordedRun

/-
  Triples for computations that record events.

  From states of the precondition, as long as what happens is
  what was assumed, everything that is recorded is as it was
  guaranteed. The computation stops only as it may, and where
  it returns the postcondition holds.

  Main declarations:
    * `Recorded.Rely`
    * `Recorded.Rely.Triple`
    * `Recorded.Rely.Triple.bind`
-/

------------------------------------------------------------
-- Triples
------------------------------------------------------------

namespace Recorded

/- What is assumed of events, and what is guaranteed. -/
structure Rely (ε η : Type) where
  assumed : ε → Prop
  guaranteed : ε → Prop
  -- the ways in which a computation may stop
  stops : η → Prop

namespace Rely

variable {ε η σ α β : Type}

/- The end of a run, against a postcondition. -/
def Ends
    (rely : Rely ε η)
    (post : α → σ → Prop) :
    Except η (α × σ) → Prop
| .error halt => rely.stops halt
| .ok (a, state) => post a state

/- From a state with the precondition, and as long as the
  others do what is assumed, the run does what is guaranteed
  and ends with the postcondition. -/
def Triple
    (rely : Rely ε η)
    (pre : σ → Prop)
    (m : Recorded ε η σ α)
    (post : α → σ → Prop) : Prop :=
  ∀ state, pre state →
    (∀ event ∈ (m state).events, rely.assumed event) →
      (∀ event ∈ (m state).events, rely.guaranteed event) ∧
        rely.Ends post (m state).result

end Rely

end Recorded

------------------------------------------------------------
-- Rules
------------------------------------------------------------

namespace Recorded

namespace Rely

namespace Triple

variable {ε η σ α β : Type}
variable {rely : Rely ε η}
variable {pre : σ → Prop}

/- The rule of consequence. -/
theorem weaken
    {m : Recorded ε η σ α}
    {pre' : σ → Prop}
    {post post' : α → σ → Prop}
    (hTriple : rely.Triple pre m post)
    (hPre : ∀ state, pre' state → pre state)
    (hPost : ∀ a state, post a state → post' a state) :
    rely.Triple pre' m post' := by
  intro state hState hAssumed
  rcases hTriple state (hPre state hState) hAssumed with
    ⟨hEvents, hEnds⟩
  refine ⟨hEvents, ?_⟩
  cases hResult : (m state).result with
  | error halt =>
      rw [hResult] at hEnds
      exact hEnds
  | ok returned =>
      rw [hResult] at hEnds
      exact hPost _ _ hEnds

/- The postcondition holds already. -/
theorem pure
    {post : α → σ → Prop}
    {a : α}
    (hPost : ∀ state, pre state → post a state) :
    rely.Triple pre (Pure.pure a : Recorded ε η σ α) post := by
  intro state hState _
  refine ⟨?_, hPost state hState⟩
  intro event hEvent
  cases hEvent

/- The rule of sequence, with what holds in between. -/
theorem bind
    {m : Recorded ε η σ α}
    {f : α → Recorded ε η σ β}
    {mid : α → σ → Prop}
    {post : β → σ → Prop}
    (hFirst : rely.Triple pre m mid)
    (hRest : ∀ a, rely.Triple (mid a) (f a) post) :
    rely.Triple pre (m >>= f) post := by
  intro state hState hAssumed
  rw [bind_apply] at hAssumed ⊢
  rcases andThen_cases (m state) f with
    ⟨halt, hResult, hRun⟩ | ⟨a, state', hResult, hRun⟩
  · rw [hRun] at hAssumed ⊢
    rcases hFirst state hState hAssumed with ⟨hEvents, hEnds⟩
    rw [hResult] at hEnds
    exact ⟨hEvents, hEnds⟩
  · rw [hRun] at hAssumed ⊢
    rcases hFirst state hState
        (fun event hMem =>
          hAssumed event (List.mem_append_left _ hMem)) with
      ⟨hEvents, hEnds⟩
    rw [hResult] at hEnds
    rcases hRest a state' hEnds
        (fun event hMem =>
          hAssumed event (List.mem_append_right _ hMem)) with
      ⟨hEvents', hEnds'⟩
    refine ⟨?_, hEnds'⟩
    intro event hMem
    rcases List.mem_append.mp hMem with hBefore | hAfter
    · exact hEvents event hBefore
    · exact hEvents' event hAfter

/- The event is one that the run answers for. -/
theorem record
    {event : ε}
    (hEvent : rely.guaranteed event) :
    rely.Triple pre (record event : Recorded ε η σ Unit)
      (fun _ => pre) := by
  intro state hState _
  refine ⟨?_, hState⟩
  intro event' hMem
  rw [record_apply, List.mem_singleton] at hMem
  exact hMem ▸ hEvent

/- What is assumed of an event holds from then on. -/
theorem record_bind
    {event : ε}
    {f : Unit → Recorded ε η σ β}
    {post : β → σ → Prop}
    (hEvent : rely.guaranteed event)
    (hRest : rely.assumed event →
      rely.Triple pre (f ()) post) :
    rely.Triple pre (Recorded.record event >>= f) post := by
  intro state hState hAssumed
  rw [bind_apply, record_apply, andThen_ok] at hAssumed ⊢
  rcases hRest (hAssumed event (List.mem_append_left _ (by simp)))
      state hState
      (fun event' hMem =>
        hAssumed event' (List.mem_append_right _ hMem)) with
    ⟨hEvents, hEnds⟩
  refine ⟨?_, hEnds⟩
  intro event' hMem
  rcases List.mem_append.mp hMem with hFirst | hAfter
  · rw [List.mem_singleton] at hFirst
    exact hFirst ▸ hEvent
  · exact hEvents event' hAfter

/- The run may halt so. -/
theorem stop
    {halt : η}
    {post : α → σ → Prop}
    (hStop : rely.stops halt) :
    rely.Triple pre (stop halt : Recorded ε η σ α) post := by
  intro state _ _
  refine ⟨?_, hStop⟩
  intro event hEvent
  cases hEvent

/- What was read is the state. -/
theorem get :
    rely.Triple pre (get : Recorded ε η σ σ)
      (fun seen state => pre state ∧ seen = state) := by
  intro state hState _
  refine ⟨?_, hState, rfl⟩
  intro event hEvent
  cases hEvent

/- The changed state has the postcondition. -/
theorem modify
    {f : σ → σ}
    {post : Unit → σ → Prop}
    (hPost : ∀ state, pre state → post () (f state)) :
    rely.Triple pre (modify f : Recorded ε η σ Unit) post := by
  intro state hState _
  refine ⟨?_, hPost state hState⟩
  intro event hEvent
  cases hEvent

/- A computation that records nothing. -/
theorem ofRuns
    {f : σ → Run ε η σ α}
    {post : α → σ → Prop}
    (hSilent : ∀ state, (f state).events = [])
    (hEnds : ∀ state, pre state →
      rely.Ends post (f state).result) :
    rely.Triple pre (ofRuns f) post := by
  intro state hState _
  refine ⟨?_, hEnds state hState⟩
  intro event hMem
  rw [ofRuns_apply, hSilent] at hMem
  cases hMem

end Triple

end Rely

end Recorded
