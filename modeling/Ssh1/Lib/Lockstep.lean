import Ssh1.Lib.MonitoredRun

/-
  Two machines that take the same events.

  As long as the events are allowed, the states of the two
  stay related and show the same. Where one event that is not
  allowed would be seen at once, what they show says whether
  all events were allowed.

  Main declarations:
    * `Lockstep.rel_foldl`
    * `Lockstep.agree_iff_accepts`
-/

------------------------------------------------------------
-- Related Machines
------------------------------------------------------------

namespace Lockstep

variable {σ κ ε ο : Type}
variable {step : σ → ε → σ}
variable {monitor : Monitor ε κ}
variable {rel : σ → κ → Prop}

/- Allowed events keep the states related. -/
theorem rel_foldl
    (hKeeps : ∀ s k event, rel s k →
      monitor.allows k event →
        rel (step s event) (monitor.next k event))
    {s : σ}
    {k : κ}
    (hRel : rel s k)
    {events : List ε}
    (hAccepts : monitor.Accepts k events) :
    rel (events.foldl step s) (monitor.after k events) := by
  induction events generalizing s k with
  | nil => exact hRel
  | cons event events ih =>
      exact ih (hKeeps s k event hRel hAccepts.1) hAccepts.2

/-
  The machines show the same at all times exactly where each
  event is allowed when it comes.
-/
theorem agree_iff_accepts
    (step : σ → ε → σ)
    (monitor : Monitor ε κ)
    (view : σ → ο)
    (view' : κ → ο)
    (hKeeps : ∀ s k event, rel s k →
      monitor.allows k event →
        rel (step s event) (monitor.next k event))
    (hShows : ∀ s k, rel s k → view s = view' k)
    (hTells : ∀ s k event, rel s k →
      view (step s event) = view' (monitor.next k event) →
        monitor.allows k event)
    {s : σ}
    {k : κ}
    (hRel : rel s k)
    (events : List ε) :
    (∀ done, done <+: events →
        view (done.foldl step s) =
          view' (monitor.after k done)) ↔
      monitor.Accepts k events := by
  constructor
  · intro hAgree
    induction events generalizing s k with
    | nil => trivial
    | cons event events ih =>
        have hFirst :=
          hAgree [event]
            (List.cons_prefix_cons.mpr ⟨rfl, List.nil_prefix⟩)
        have hAllowed := hTells s k event hRel hFirst
        refine ⟨hAllowed,
          ih (hKeeps s k event hRel hAllowed) ?_⟩
        intro done hDone
        exact hAgree (event :: done)
          (List.cons_prefix_cons.mpr ⟨rfl, hDone⟩)
  · rintro hAccepts done ⟨rest, rfl⟩
    rw [monitor.accepts_append] at hAccepts
    exact hShows _ _ (rel_foldl hKeeps hRel hAccepts.1)

end Lockstep
