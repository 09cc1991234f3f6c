import Mathlib.Data.List.Basic

/-
  Computations that record events and may stop.

  A computation takes a state. It leaves behind the events
  that it recorded, and either returns with a new state or
  stops for good. What it recorded before stays recorded.

  Main declarations:
    * `Recorded`, `Recorded.Run`
    * `Recorded.record`, `Recorded.stop`
    * `Recorded.Always`
    * `Recorded.Leads`, `Recorded.Kept`
-/

------------------------------------------------------------
-- Computations
------------------------------------------------------------

/- The events of a run, and what it ended with. -/
structure Recorded.Run (ε η σ α : Type) where
  events : List ε
  result : Except η (α × σ)

/- A computation over states of the type `σ`. -/
def Recorded (ε η σ α : Type) : Type :=
  σ → Recorded.Run ε η σ α

namespace Recorded

variable {ε η σ α β : Type}

/- The rest of a computation after its first part. -/
def andThen
    (run : Run ε η σ α)
    (f : α → Recorded ε η σ β) : Run ε η σ β :=
  match run.result with
  | .error halt => ⟨run.events, .error halt⟩
  | .ok (a, state) =>
      ⟨run.events ++ (f a state).events, (f a state).result⟩

instance : Monad (Recorded ε η σ) where
  pure a := fun state => ⟨[], .ok (a, state)⟩
  bind m f := fun state => andThen (m state) f

/- A computation by its runs. -/
def ofRuns (f : σ → Run ε η σ α) : Recorded ε η σ α :=
  f

/- One event, and the state stays. -/
def record (event : ε) : Recorded ε η σ Unit :=
  fun state => ⟨[event], .ok ((), state)⟩

/- The run ends here. -/
def stop (halt : η) : Recorded ε η σ α :=
  fun _ => ⟨[], .error halt⟩

/- The state that the run has reached. -/
def get : Recorded ε η σ σ :=
  fun state => ⟨[], .ok (state, state)⟩

/- A change of the state that leaves no event. -/
def modify (f : σ → σ) : Recorded ε η σ Unit :=
  fun state => ⟨[], .ok ((), f state)⟩

/- The second piece starts where the first one has ended. -/
theorem bind_apply
    (m : Recorded ε η σ α)
    (f : α → Recorded ε η σ β)
    (state : σ) :
    (m >>= f) state = andThen (m state) f :=
  rfl

@[simp] theorem pure_apply
    (a : α)
    (state : σ) :
    (pure a : Recorded ε η σ α) state =
      ⟨[], .ok (a, state)⟩ :=
  rfl

@[simp] theorem ofRuns_apply
    (f : σ → Run ε η σ α)
    (state : σ) :
    ofRuns f state = f state :=
  rfl

@[simp] theorem record_apply
    (event : ε)
    (state : σ) :
    (record event : Recorded ε η σ Unit) state =
      ⟨[event], .ok ((), state)⟩ :=
  rfl

@[simp] theorem stop_apply
    (halt : η)
    (state : σ) :
    (stop halt : Recorded ε η σ α) state =
      ⟨[], .error halt⟩ :=
  rfl

@[simp] theorem get_apply
    (state : σ) :
    (get : Recorded ε η σ σ) state =
      ⟨[], .ok (state, state)⟩ :=
  rfl

@[simp] theorem modify_apply
    (f : σ → σ)
    (state : σ) :
    (modify f : Recorded ε η σ Unit) state =
      ⟨[], .ok ((), f state)⟩ :=
  rfl

/- The events of both pieces, in their order. -/
@[simp] theorem andThen_ok
    (events : List ε)
    (a : α)
    (state : σ)
    (f : α → Recorded ε η σ β) :
    andThen ⟨events, .ok (a, state)⟩ f =
      ⟨events ++ (f a state).events, (f a state).result⟩ :=
  rfl

/- What follows a halted run does not happen. -/
@[simp] theorem andThen_error
    (events : List ε)
    (halt : η)
    (f : α → Recorded ε η σ β) :
    andThen (⟨events, .error halt⟩ : Run ε η σ α) f =
      ⟨events, .error halt⟩ :=
  rfl

/- A sequence ends as its first part or as the rest does. -/
theorem andThen_cases
    (run : Run ε η σ α)
    (f : α → Recorded ε η σ β) :
    (∃ halt,
      run.result = .error halt ∧
        andThen run f = ⟨run.events, .error halt⟩) ∨
      ∃ a state,
        run.result = .ok (a, state) ∧
          andThen run f =
            ⟨run.events ++ (f a state).events,
              (f a state).result⟩ := by
  unfold andThen
  cases hResult : run.result with
  | error halt => exact Or.inl ⟨halt, rfl, rfl⟩
  | ok returned => exact Or.inr ⟨_, _, rfl, rfl⟩

/- A sequence by the runs of its parts. -/
theorem bind_of_ok
    {m : Recorded ε η σ α}
    {f : α → Recorded ε η σ β}
    {state state' : σ}
    {a : α}
    {events events' : List ε}
    {result : Except η (β × σ)}
    (hFirst : m state = ⟨events, .ok (a, state')⟩)
    (hRest : f a state' = ⟨events', result⟩) :
    (m >>= f) state = ⟨events ++ events', result⟩ := by
  rw [bind_apply, hFirst, andThen_ok, hRest]

/- A first piece that halts is all there is. -/
theorem bind_of_error
    {m : Recorded ε η σ α}
    {f : α → Recorded ε η σ β}
    {state : σ}
    {halt : η}
    {events : List ε}
    (hFirst : m state = ⟨events, .error halt⟩) :
    (m >>= f) state = ⟨events, .error halt⟩ := by
  rw [bind_apply, hFirst, andThen_error]

/- A sequence that returns, by its parts. -/
theorem bind_ok
    {m : Recorded ε η σ α}
    {f : α → Recorded ε η σ β}
    {state state'' : σ}
    {b : β}
    (hResult : ((m >>= f) state).result = .ok (b, state'')) :
    ∃ a state',
      (m state).result = .ok (a, state') ∧
        (f a state').result = .ok (b, state'') ∧
        ((m >>= f) state).events =
          (m state).events ++ (f a state').events := by
  rw [bind_apply] at hResult ⊢
  rcases andThen_cases (m state) f with
    ⟨halt, _, hRun⟩ | ⟨a, state', hOk, hRun⟩
  · rw [hRun] at hResult
    cases hResult
  · rw [hRun] at hResult ⊢
    exact ⟨a, state', hOk, hResult, rfl⟩

/- The first law of a monad. -/
theorem return_bind
    (a : α)
    (f : α → Recorded ε η σ β) :
    (pure a : Recorded ε η σ α) >>= f = f a := by
  funext state
  rw [bind_apply, pure_apply, andThen_ok, List.nil_append]

/- The order of the brackets makes no difference. -/
theorem bind_bind
    {γ : Type}
    (m : Recorded ε η σ α)
    (f : α → Recorded ε η σ β)
    (g : β → Recorded ε η σ γ) :
    m >>= f >>= g = m >>= fun a => f a >>= g := by
  funext state
  change andThen (andThen (m state) f) g =
    andThen (m state) fun a => f a >>= g
  rcases m state with ⟨events, _ | ⟨a, state'⟩⟩
  · rfl
  · rw [andThen_ok, andThen_ok, bind_apply]
    rcases f a state' with ⟨events', _ | ⟨b, state''⟩⟩
    · rfl
    · rw [andThen_ok, andThen_ok, List.append_assoc]

/- Returning a value records nothing. -/
theorem events_bind_pure
    (m : Recorded ε η σ α)
    (b : β)
    (state : σ) :
    ((m >>= fun _ => (pure b : Recorded ε η σ β))
        state).events = (m state).events := by
  rw [bind_apply]
  rcases andThen_cases (m state)
      fun _ => (pure b : Recorded ε η σ β) with
    ⟨_, _, hRun⟩ | ⟨_, _, _, hRun⟩
  · rw [hRun]
  · rw [hRun]
    exact List.append_nil _

/- What was recorded first stays recorded. -/
theorem events_subset_andThen
    (run : Run ε η σ α)
    (f : α → Recorded ε η σ β) :
    run.events ⊆ (andThen run f).events := by
  rcases andThen_cases run f with
    ⟨_, _, hRun⟩ | ⟨_, _, _, hRun⟩
  · rw [hRun]
    exact List.Subset.refl _
  · rw [hRun]
    exact List.subset_append_left _ _

end Recorded

------------------------------------------------------------
-- Rules
------------------------------------------------------------

namespace Recorded

variable {ε η σ α β : Type}

/- Every event that is recorded is one of these. -/
def Always
    (P : ε → Prop)
    (m : Recorded ε η σ α) : Prop :=
  ∀ state, ∀ event ∈ (m state).events, P event

/-
  A relation of the state before, the events and the state
  after, that sequences of computations keep.
-/
structure Composes (R : σ → List ε → σ → Prop) : Prop where
  refl : ∀ state, R state [] state
  trans : ∀ {x y z events events'},
    R x events y → R y events' z → R x (events ++ events') z

/- Where the computation returns, the relation holds. -/
def Leads
    (R : σ → List ε → σ → Prop)
    (m : Recorded ε η σ α) : Prop :=
  ∀ state a state',
    (m state).result = .ok (a, state') →
      R state (m state).events state'

variable {P : ε → Prop} {R : σ → List ε → σ → Prop}

/- A value leaves no event. -/
theorem Always.pure
    (a : α) :
    Always P (Pure.pure a : Recorded ε η σ α) := by
  intro state event hEvent
  cases hEvent

/- The one event has the property. -/
theorem Always.record
    {event : ε}
    (hEvent : P event) :
    Always P (record event : Recorded ε η σ Unit) := by
  intro state event' hMem
  rw [record_apply, List.mem_singleton] at hMem
  exact hMem ▸ hEvent

/- A halt leaves no event. -/
theorem Always.stop
    (halt : η) :
    Always P (stop halt : Recorded ε η σ α) := by
  intro state event hEvent
  cases hEvent

theorem Always.get :
    Always P (get : Recorded ε η σ σ) := by
  intro state event hEvent
  cases hEvent

theorem Always.modify
    (f : σ → σ) :
    Always P (modify f : Recorded ε η σ Unit) := by
  intro state event hEvent
  cases hEvent

/- The property holds of the events of both pieces. -/
theorem Always.bind
    {m : Recorded ε η σ α}
    {f : α → Recorded ε η σ β}
    (hFirst : Always P m)
    (hRest : ∀ a, Always P (f a)) :
    Always P (m >>= f) := by
  intro state event hEvent
  rw [bind_apply] at hEvent
  rcases andThen_cases (m state) f with
    ⟨halt, _, hRun⟩ | ⟨a, state', _, hRun⟩
  · rw [hRun] at hEvent
    exact hFirst state event hEvent
  · rw [hRun] at hEvent
    rcases List.mem_append.mp hEvent with hBefore | hAfter
    · exact hFirst state event hBefore
    · exact hRest a state' event hAfter

/- A weaker property holds as well. -/
theorem Always.mono
    {Q : ε → Prop}
    {m : Recorded ε η σ α}
    (hAlways : Always P m)
    (hImp : ∀ event, P event → Q event) :
    Always Q m := by
  intro state event hEvent
  exact hImp event (hAlways state event hEvent)

/- A value is an empty run. -/
theorem Leads.pure
    (hR : Composes R)
    (a : α) :
    Leads R (Pure.pure a : Recorded ε η σ α) := by
  intro state a' state' hResult
  cases hResult
  exact hR.refl state

/- One step of the relation. -/
theorem Leads.record
    {event : ε}
    (hStep : ∀ state, R state [event] state) :
    Leads R (record event : Recorded ε η σ Unit) := by
  intro state a state' hResult
  cases hResult
  exact hStep state

/- A run that halts has reached no state. -/
theorem Leads.stop
    (halt : η) :
    Leads R (stop halt : Recorded ε η σ α) := by
  intro state a state' hResult
  cases hResult

theorem Leads.get
    (hR : Composes R) :
    Leads R (get : Recorded ε η σ σ) := by
  intro state a state' hResult
  cases hResult
  exact hR.refl state

/- One step of the relation without an event. -/
theorem Leads.modify
    {f : σ → σ}
    (hStep : ∀ state, R state [] (f state)) :
    Leads R (modify f : Recorded ε η σ Unit) := by
  intro state a state' hResult
  cases hResult
  exact hStep state

/- The relation composes along the run. -/
theorem Leads.bind
    {m : Recorded ε η σ α}
    {f : α → Recorded ε η σ β}
    (hR : Composes R)
    (hFirst : Leads R m)
    (hRest : ∀ a, Leads R (f a)) :
    Leads R (m >>= f) := by
  intro state b state'' hResult
  rw [bind_apply] at hResult ⊢
  rcases andThen_cases (m state) f with
    ⟨halt, _, hRun⟩ | ⟨a, state', hOk, hRun⟩
  · rw [hRun] at hResult
    cases hResult
  · rw [hRun] at hResult ⊢
    exact hR.trans (hFirst state a state' hOk)
      (hRest a state' b state'' hResult)

/- Both: what is recorded, and where the computation leads. -/
structure Kept
    (P : ε → Prop)
    (R : σ → List ε → σ → Prop)
    (m : Recorded ε η σ α) : Prop where
  always : Always P m
  leads : Leads R m

/- A value keeps every relation that composes. -/
theorem Kept.pure
    (hR : Composes R)
    (a : α) :
    Kept P R (Pure.pure a : Recorded ε η σ α) :=
  ⟨Always.pure a, Leads.pure hR a⟩

/- An event with the property, as one step of the relation. -/
theorem Kept.record
    {event : ε}
    (hEvent : P event)
    (hStep : ∀ state, R state [event] state) :
    Kept P R (record event : Recorded ε η σ Unit) :=
  ⟨Always.record hEvent, Leads.record hStep⟩

theorem Kept.stop
    (halt : η) :
    Kept P R (stop halt : Recorded ε η σ α) :=
  ⟨Always.stop halt, Leads.stop halt⟩

theorem Kept.get
    (hR : Composes R) :
    Kept P R (get : Recorded ε η σ σ) :=
  ⟨Always.get, Leads.get hR⟩

/- A step of the relation that no one sees. -/
theorem Kept.modify
    {f : σ → σ}
    (hStep : ∀ state, R state [] (f state)) :
    Kept P R (modify f : Recorded ε η σ Unit) :=
  ⟨Always.modify f, Leads.modify hStep⟩

/- The rule of composition for both halves at once. -/
theorem Kept.bind
    {m : Recorded ε η σ α}
    {f : α → Recorded ε η σ β}
    (hR : Composes R)
    (hFirst : Kept P R m)
    (hRest : ∀ a, Kept P R (f a)) :
    Kept P R (m >>= f) :=
  ⟨hFirst.always.bind fun a => (hRest a).always,
    hFirst.leads.bind hR fun a => (hRest a).leads⟩

end Recorded
