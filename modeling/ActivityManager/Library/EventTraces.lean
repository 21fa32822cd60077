import ActivityManager.Library.KeyedList
import ActivityManager.Library.StepSystem

/-!
# Traces that follow an automaton

A system leaves a trace of events behind, and many things take part in it: each
has a key, and `select key` finds its own events.  An automaton says which
events may come next.  `Follows` ties the two together: it is an invariant of
the system that the events of every key are a run of the automaton, and that
the run has arrived at a stage that the state of the system determines.

What the stages count is counted at the end of a run: `run?_count`.
-/

namespace EventTrace

open StepSystem (run? run?_append)

variable {Key Event Own Stage : Type}

/-- The events of one key, in the order of the trace. -/
def eventsOf
    (select : Key → Event → Option Own)
    (key : Key)
    (trace : List Event) : List Own :=
  trace.filterMap (select key)

@[simp] theorem eventsOf_append
    (select : Key → Event → Option Own)
    (key : Key)
    (first later : List Event) :
    eventsOf select key (first ++ later) =
      eventsOf select key first ++ eventsOf select key later :=
  List.filterMap_append

/-- Many things one after the other: each key has the events of its own. -/
theorem eventsOf_flatMap
    {α : Type}
    [DecidableEq Key]
    {select : Key → Event → Option Own}
    {events : α → List Event}
    {own : α → List Own}
    {elements : List α}
    (key : α → Key)
    (distinct : (elements.map key).Nodup)
    (ownEvents :
      ∀ element ∈ elements,
        ∀ k,
          eventsOf select k (events element) =
            if key element = k then own element else [])
    (k : Key) :
    eventsOf select k (elements.flatMap events) =
      ((elements.find? (key · == k)).map own).getD [] := by
  induction elements with
  | nil =>
      rfl
  | cons first rest inductionHypothesis =>
      rw [List.map_cons, List.nodup_cons] at distinct
      rw [List.flatMap_cons, eventsOf_append,
        ownEvents first List.mem_cons_self,
        inductionHypothesis distinct.2 fun element member =>
          ownEvents element (List.mem_cons_of_mem _ member)]
      by_cases isKey : key first = k
      · have notAgain : rest.find? (key · == k) = none := by
          refine KeyedList.find?_eq_none_iff.mpr fun element member isSame =>
            distinct.1 ?_
          rw [isKey, ← isSame]
          exact List.mem_map_of_mem member
        rw [if_pos isKey, notAgain,
          List.find?_cons_of_pos (by simpa using isKey)]
        simp
      · rw [if_neg isKey, List.nil_append,
          List.find?_cons_of_neg (by simpa using isKey)]

/-- The events of every key take the automaton to the stage of the key. -/
def Follows
    (step? : Stage → Own → Option Stage)
    (select : Key → Event → Option Own)
    (initial : Stage)
    (trace : List Event)
    (stages : Key → Stage) : Prop :=
  ∀ key, run? step? initial (eventsOf select key trace) = some (stages key)

namespace Follows

variable
  {step? : Stage → Own → Option Stage}
  {select : Key → Event → Option Own}
  {initial : Stage}
  {trace events : List Event}
  {stages later : Key → Stage}

/-- Each key goes on from its stage. -/
theorem append
    (follows : Follows step? select initial trace stages)
    (goesOn :
      ∀ key,
        run? step? (stages key) (eventsOf select key events) =
          some (later key)) :
    Follows step? select initial (trace ++ events) later := by
  intro key
  rw [eventsOf_append, run?_append, follows key, Option.bind_some]
  exact goesOn key

/-- Where a key has no event, its stage is the same. -/
theorem append_of_silent
    (follows : Follows step? select initial trace stages)
    (silent : ∀ key, eventsOf select key events = [])
    (same : ∀ key, later key = stages key) :
    Follows step? select initial (trace ++ events) later := by
  refine follows.append fun key => ?_
  rw [silent key, same key]
  rfl

end Follows

/-! ## The last event that counts -/

/--
Where an event may set a field and nothing else changes it, the field is what
the last event that sets it has set.
-/
theorem foldl_eq_last
    {State Value : Type}
    {apply : State → Event → State}
    {sets : Event → Option Value}
    (field : State → Value)
    (isSet :
      ∀ state event,
        field (apply state event) = (sets event).getD (field state))
    (trace : List Event)
    (initial : State) :
    field (trace.foldl apply initial) =
      ((trace.filterMap sets).getLast?).getD (field initial) := by
  induction trace generalizing initial with
  | nil =>
      rfl
  | cons event rest inductionHypothesis =>
      rw [List.foldl_cons, inductionHypothesis, isSet]
      cases isSetting : sets event with
      | none =>
          rw [List.filterMap_cons_none isSetting, Option.getD_none]
      | some value =>
          rw [List.filterMap_cons_some isSetting, List.getLast?_cons,
            Option.getD_some, Option.getD_some]

/-! ## Counting events -/

/--
Where a stage says how many more events of one kind than of another there have
been, it says so at the end of a run.
-/
theorem run?_count
    [DecidableEq Own]
    {step? : Stage → Own → Option Stage}
    {amount : Stage → Nat}
    {rise fall : Own}
    (changes :
      ∀ stage event next,
        step? stage event = some next →
        amount next + (if event = fall then 1 else 0) =
          amount stage + (if event = rise then 1 else 0))
    {events : List Own}
    {initial final : Stage}
    (arrives : run? step? initial events = some final) :
    amount final + events.count fall =
      amount initial + events.count rise := by
  induction events generalizing initial with
  | nil =>
      rw [run?, Option.some.injEq] at arrives
      rw [arrives, List.count_nil, List.count_nil]
  | cons event rest inductionHypothesis =>
      rw [run?] at arrives
      cases isNext : step? initial event with
      | none =>
          rw [isNext] at arrives
          cases arrives
      | some next =>
          rw [isNext] at arrives
          have changed := changes initial event next isNext
          have others := inductionHypothesis arrives
          simp only [List.count_cons, beq_iff_eq]
          omega

end EventTrace
