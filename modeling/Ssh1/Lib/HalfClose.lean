import Mathlib.Data.List.Basic
import Mathlib.Data.List.Forall2

/-
  One direction of a connection that is closed in halves.

  A sender says some data, then that no more data follows. It
  also says once, at any time, that it takes no more data
  itself. What the receiver has heard, followed by what is
  still on its way, is what the sender has said.

  Main declarations:
    * `HalfClose.Said`
    * `HalfClose.replay`
    * `HalfClose.Flow`
    * `HalfClose.Flow.send`, `HalfClose.Flow.receive`
-/

------------------------------------------------------------
-- Sayings
------------------------------------------------------------

namespace HalfClose

/- What can be said. -/
inductive Item where
  | data
  | ended
  | closed
  deriving DecidableEq, Repr

/- What has been said so far. -/
structure Said where
  ended : Bool
  closed : Bool
  deriving DecidableEq, Repr

namespace Said

/- Neither half is closed. -/
def nothing : Said := ⟨false, false⟩

/- Both halves are closed. -/
def everything : Said := ⟨true, true⟩

/- Nothing is said twice, and no data after the end. -/
def next (said : Said) : Item → Option Said
| .data => if said.ended then none else some said
| .ended =>
    if said.ended then none else some { said with ended := true }
| .closed =>
    if said.closed then none
    else some { said with closed := true }

variable {said : Said}

theorem next_data
    (hMore : said.ended = false) :
    said.next .data = some said := by
  simp [next, hMore]

/- The end is said once. -/
theorem next_ended
    (hMore : said.ended = false) :
    said.next .ended = some { said with ended := true } := by
  simp [next, hMore]

/- The close is said once. -/
theorem next_closed
    (hOpen : said.closed = false) :
    said.next .closed = some { said with closed := true } := by
  simp [next, hOpen]

/- After everything nothing can be said any more. -/
theorem next_everything
    (item : Item) :
    everything.next item = none := by
  cases item <;> rfl

end Said

/- All of the items said in turn. -/
def replay : Said → List Item → Option Said
| said, [] => some said
| said, item :: items =>
    (said.next item).bind fun said' => replay said' items

@[simp] theorem replay_nil
    (said : Said) :
    replay said [] = some said := rfl

/- The replay goes on from where it stands. -/
theorem replay_append
    (said : Said)
    (items items' : List Item) :
    replay said (items ++ items') =
      (replay said items).bind fun said' =>
        replay said' items' := by
  induction items generalizing said with
  | nil => rfl
  | cons item items ih =>
      cases hNext : said.next item with
      | none => simp [replay, hNext]
      | some said' => simp [replay, hNext, ih]

end HalfClose

------------------------------------------------------------
-- Flows
------------------------------------------------------------

namespace HalfClose

variable {α : Type}
variable {carries : α → Item → Prop}
variable {sent received : Said}
variable {queue : List α}

/-
  The messages in the queue carry what the sender has said
  and the receiver has not heard yet.
-/
def Flow
    (carries : α → Item → Prop)
    (sent received : Said)
    (queue : List α) : Prop :=
  ∃ items,
    List.Forall₂ carries queue items ∧
      replay received items = some sent

/- No item changes nothing. -/
theorem Flow.refl
    (said : Said) :
    Flow carries said said [] :=
  ⟨[], .nil, rfl⟩

/- The sender says something more. -/
theorem Flow.send
    {sent' : Said}
    {item : Item}
    {message : α}
    (hFlow : Flow carries sent received queue)
    (hCarries : carries message item)
    (hNext : sent.next item = some sent') :
    Flow carries sent' received (queue ++ [message]) := by
  rcases hFlow with ⟨items, hQueue, hReplay⟩
  refine ⟨items ++ [item], ?_, ?_⟩
  · exact List.rel_append hQueue (.cons hCarries .nil)
  · rw [replay_append, hReplay]
    simp [replay, hNext]

/- The receiver hears the first message. -/
theorem Flow.receive
    {message : α}
    (hFlow : Flow carries sent received (message :: queue)) :
    ∃ item received',
      carries message item ∧
        received.next item = some received' ∧
        Flow carries sent received' queue := by
  rcases hFlow with ⟨items, hQueue, hReplay⟩
  cases hQueue with
  | cons hCarries hRest =>
      next item items =>
      cases hNext : received.next item with
      | none => simp [replay, hNext] at hReplay
      | some received' =>
          simp only [replay, hNext, Option.bind_some] at hReplay
          exact ⟨item, received', hCarries, hNext, items, hRest,
            hReplay⟩

/- Nothing is on its way to one who has heard everything. -/
theorem Flow.of_everything
    (hFlow : Flow carries sent .everything queue) :
    queue = [] ∧ sent = .everything := by
  cases queue with
  | nil =>
      rcases hFlow with ⟨items, hQueue, hReplay⟩
      cases hQueue
      cases hReplay
      exact ⟨rfl, rfl⟩
  | cons message queue =>
      rcases hFlow.receive with ⟨item, received', -, hNext, -⟩
      rw [Said.next_everything] at hNext
      cases hNext

/- What is in the queue can be said of each message in it. -/
theorem Flow.carries_of_mem
    {message : α}
    (hFlow : Flow carries sent received queue)
    (hMem : message ∈ queue) :
    ∃ item, carries message item := by
  rcases hFlow with ⟨items, hQueue, -⟩
  induction hQueue with
  | nil => cases hMem
  | cons hHead _ ih =>
      rcases List.mem_cons.mp hMem with rfl | hRest
      · exact ⟨_, hHead⟩
      · exact ih hRest

end HalfClose
