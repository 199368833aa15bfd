import Listening.Proofs.Runs

/-!
# The calls of a run

Which calls a script makes is, like the changes it makes to its world, a property of every run
of it. Two forms are used. A script calls only what some test admits (`CallsOnly`) when every
run of it, however it ends, adds only such calls to the log: this keeps when scripts are put
together, so it holds of a whole script when it holds of each step. A script makes given calls
(`Makes`) when every run of it from a given state ends one way, adds exactly those calls and
leaves a given state: runs put together then make the calls of their parts in turn.
-/

namespace Listening.World.Scripted

variable {σ α β : Type}

/-- A script calls only what `allowed` admits: every run of it, however it ends, only adds such
calls to the log. -/
def CallsOnly (allowed : Call → Prop) (script : Scripted σ α) : Prop :=
  ∀ trace, ∃ added : List Call, (runFrom script trace).2.calls = trace.calls ++ added.toArray ∧
    ∀ call ∈ added, allowed call

namespace CallsOnly

variable {allowed : Call → Prop}

/-- A script that leaves the log as it is calls nothing. -/
theorem of_calls_eq {script : Scripted σ α}
    (same : ∀ trace, (runFrom script trace).2.calls = trace.calls) : CallsOnly allowed script :=
  fun trace => ⟨[], by simp [same trace], by simp⟩

theorem pure (a : α) : CallsOnly allowed (Pure.pure a : Scripted σ α) :=
  of_calls_eq fun _ => rfl

theorem throw (stop : Stop) : CallsOnly allowed (MonadExcept.throw stop : Scripted σ α) :=
  of_calls_eq fun _ => rfl

theorem say (line : String) : CallsOnly allowed (Scripted.say line : Scripted σ Unit) :=
  of_calls_eq fun _ => rfl

theorem raise (failure : Failure) (message : String) :
    CallsOnly allowed (Scripted.raise failure message : Scripted σ α) :=
  of_calls_eq fun _ => rfl

theorem world : CallsOnly allowed (Scripted.world : Scripted σ σ) :=
  of_calls_eq fun _ => rfl

theorem alter (update : σ → σ) : CallsOnly allowed (Scripted.alter update) :=
  of_calls_eq fun _ => rfl

theorem call {name : String} {args : List Datum} (admitted : allowed ⟨name, args⟩) :
    CallsOnly allowed (Scripted.call name args : Scripted σ Unit) := fun trace =>
  ⟨[⟨name, args⟩], Array.push_eq_append, by simpa using admitted⟩

/-- Calls admitted one after the other make a log of admitted calls. -/
theorem append (calls : Array Call) {first rest : List Call} (firstAdmitted : ∀ c ∈ first, allowed c)
    (restAdmitted : ∀ c ∈ rest, allowed c) :
    calls ++ first.toArray ++ rest.toArray = calls ++ (first ++ rest).toArray ∧
      ∀ c ∈ first ++ rest, allowed c := by
  refine ⟨by rw [← Array.toList_inj]; simp, ?_⟩
  intro c member
  rcases List.mem_append.mp member with early | late
  · exact firstAdmitted c early
  · exact restAdmitted c late

theorem bind {x : Scripted σ α} {f : α → Scripted σ β} (first : CallsOnly allowed x)
    (rest : ∀ a, CallsOnly allowed (f a)) : CallsOnly allowed (x >>= f) := by
  intro trace
  obtain ⟨added, grown, admitted⟩ := first trace
  rw [runFrom_bind]
  rcases ran : runFrom x trace with ⟨result, after⟩
  rw [ran] at grown
  cases result with
  | ok a =>
    obtain ⟨more, grownMore, admittedMore⟩ := rest a after
    obtain ⟨joined, allAdmitted⟩ := append trace.calls admitted admittedMore
    exact ⟨added ++ more, by rw [grownMore, grown, joined], allAdmitted⟩
  | error stop => exact ⟨added, grown, admitted⟩

theorem tryCatch {x : Scripted σ α} {handler : Stop → Scripted σ α} (first : CallsOnly allowed x)
    (rest : ∀ stop, CallsOnly allowed (handler stop)) :
    CallsOnly allowed (tryCatch x handler) := by
  intro trace
  obtain ⟨added, grown, admitted⟩ := first trace
  rw [runFrom_tryCatch]
  rcases ran : runFrom x trace with ⟨result, after⟩
  rw [ran] at grown
  cases result with
  | ok a => exact ⟨added, grown, admitted⟩
  | error stop =>
    obtain ⟨more, grownMore, admittedMore⟩ := rest stop after
    obtain ⟨joined, allAdmitted⟩ := append trace.calls admitted admittedMore
    exact ⟨added ++ more, by rw [grownMore, grown, joined], allAdmitted⟩

theorem ite {condition : Prop} [Decidable condition] {yes no : Scripted σ α}
    (whenYes : CallsOnly allowed yes) (whenNo : CallsOnly allowed no) :
    CallsOnly allowed (if condition then yes else no) := by
  split
  · exact whenYes
  · exact whenNo

/-- A loop calls only admitted calls when every pass of its body does, from any state. -/
theorem forIn {body : α → β → Scripted σ (ForInStep β)}
    (step : ∀ a b, CallsOnly allowed (body a b)) :
    ∀ (items : List α) (init : β), CallsOnly allowed (ForIn.forIn items init body)
  | [], init => pure init
  | item :: items, init => by
    rw [List.forIn_cons]
    refine bind (step item init) fun next => ?_
    cases next with
    | done b => exact pure b
    | yield b => exact forIn step items b

end CallsOnly

/-- Run from any trace whose world is `before`, a script ends with `result`, having added the
calls `made` to the log and left the world `after`; what it prints is left open. -/
def Makes (script : Scripted σ α) (before : σ) (result : Except Stop α) (made : List Call)
    (after : σ) : Prop :=
  ∀ trace : Trace σ, trace.world = before → ∃ printed, runFrom script trace =
    (result, { calls := trace.calls ++ made.toArray, printed := printed, world := after })

namespace Makes

variable {script : Scripted σ α} {before after : σ} {result : Except Stop α} {made : List Call}

/-- A script that changes neither the log nor the world makes no calls. -/
theorem of_runFrom_eq {state : σ} {value : Except Stop α}
    (same : ∀ trace : Trace σ, ∃ printed, runFrom script trace = (value, { trace with printed := printed })) :
    Makes script state value [] state := by
  intro trace atState
  obtain ⟨printed, ran⟩ := same trace
  exact ⟨printed, by rw [ran, ← atState]; simp⟩

theorem pure (a : α) (state : σ) : Makes (Pure.pure a : Scripted σ α) state (.ok a) [] state :=
  of_runFrom_eq fun trace => ⟨trace.printed, rfl⟩

theorem say (line : String) (state : σ) :
    Makes (Scripted.say line : Scripted σ Unit) state (.ok ()) [] state :=
  of_runFrom_eq fun trace => ⟨trace.printed ++ line ++ "\n", rfl⟩

theorem raise (failure : Failure) (message : String) (state : σ) :
    Makes (Scripted.raise failure message : Scripted σ α) state
      (.error (.raised failure message)) [] state :=
  of_runFrom_eq fun trace => ⟨trace.printed, rfl⟩

theorem world (state : σ) : Makes (Scripted.world : Scripted σ σ) state (.ok state) [] state := by
  intro trace atState
  exact ⟨trace.printed, by rw [runFrom_world, atState]; simp [← atState]⟩

theorem call (name : String) (args : List Datum) (state : σ) :
    Makes (Scripted.call name args : Scripted σ Unit) state (.ok ()) [⟨name, args⟩] state := by
  intro trace atState
  exact ⟨trace.printed, by rw [runFrom_call, ← atState, Array.push_eq_append]⟩

theorem alter (update : σ → σ) (state : σ) :
    Makes (Scripted.alter update) state (.ok ()) [] (update state) := by
  intro trace atState
  exact ⟨trace.printed, by rw [runFrom_alter, atState]; simp⟩

/-- The calls of a run may be written in any form of the same list. -/
theorem calls_eq (makes : Makes script before result made after) {written : List Call}
    (same : made = written) : Makes script before result written after :=
  same ▸ makes

theorem bind {x : Scripted σ α} {f : α → Scripted σ β} {a : α} {middle : σ} {first : List Call}
    {result : Except Stop β} {rest : List Call}
    (ranFirst : Makes x before (.ok a) first middle) (ranRest : Makes (f a) middle result rest after) :
    Makes (x >>= f) before result (first ++ rest) after := by
  intro trace atBefore
  obtain ⟨printed, ran⟩ := ranFirst trace atBefore
  obtain ⟨printedRest, ranRest⟩ :=
    ranRest { calls := trace.calls ++ first.toArray, printed := printed, world := middle } rfl
  refine ⟨printedRest, ?_⟩
  rw [runFrom_bind, ran]
  simp only
  rw [ranRest]
  simp only [Prod.mk.injEq, Trace.mk.injEq, true_and, and_true]
  rw [← Array.toList_inj]
  simp

/-- A failure of the first step is the failure of the whole. -/
theorem bind_error {x : Scripted σ α} {f : α → Scripted σ β} {stop : Stop}
    (ranFirst : Makes x before (.error stop) made after) :
    Makes (x >>= f) before (.error stop) made after := by
  intro trace atBefore
  obtain ⟨printed, ran⟩ := ranFirst trace atBefore
  exact ⟨printed, by rw [runFrom_bind, ran]⟩

/-- A step whose result is only known to exist, followed by steps that make the same calls and
end the same way whatever it gave. -/
theorem bind_some {x : Scripted σ α} {f : α → Scripted σ β} {middle : σ} {first : List Call}
    {result : Except Stop β} (rest : List Call)
    (ranFirst : ∃ a, Makes x before (.ok a) first middle)
    (ranRest : ∀ a, Makes (f a) middle result rest after) :
    Makes (x >>= f) before result (first ++ rest) after := by
  obtain ⟨a, ranFirst⟩ := ranFirst
  exact bind ranFirst (ranRest a)

theorem tryCatch_ok {x : Scripted σ α} {handler : Stop → Scripted σ α} {a : α}
    (ranFirst : Makes x before (.ok a) made after) :
    Makes (tryCatch x handler) before (.ok a) made after := by
  intro trace atBefore
  obtain ⟨printed, ran⟩ := ranFirst trace atBefore
  exact ⟨printed, by rw [runFrom_tryCatch, ran]⟩

/-- A loop whose every pass over an item of the list keeps the world, makes the calls `calls` of
its item and goes on with `next` of the state and the item, ends with `next` folded over the
items. -/
theorem forIn_fold {body : α → β → Scripted σ (ForInStep β)} {state : σ} (calls : α → List Call)
    (next : β → α → β) :
    ∀ (items : List α), (∀ a ∈ items, ∀ b,
        Makes (body a b) state (.ok (.yield (next b a))) (calls a) state) →
      ∀ (init : β), Makes (ForIn.forIn items init body) state (.ok (items.foldl next init))
        (items.flatMap calls) state
  | [], _, init => pure init state
  | item :: items, step, init => by
    rw [List.forIn_cons, List.flatMap_cons, List.foldl_cons]
    exact bind (step item List.mem_cons_self init) (forIn_fold calls next items
      (fun a member => step a (List.mem_cons_of_mem item member)) (next init item))

/-- A loop whose every pass keeps the world and makes the calls `calls` of its item makes the
calls of all its items in turn. -/
theorem forIn {body : α → β → Scripted σ (ForInStep β)} {state : σ} (calls : α → List Call)
    (step : ∀ a b, ∃ next, Makes (body a b) state (.ok (.yield next)) (calls a) state)
    (items : List α) (init : β) :
    ∃ final, Makes (ForIn.forIn items init body) state (.ok final) (items.flatMap calls) state :=
  -- the state after each pass, chosen once for every item and state, is folded over the items
  ⟨items.foldl (fun b a => Classical.choose (step a b)) init,
    forIn_fold calls _ items (fun a _ b => Classical.choose_spec (step a b)) init⟩

/-- A failure of the first step handled by the handler. -/
theorem tryCatch_error {x : Scripted σ α} {handler : Stop → Scripted σ α} {stop : Stop}
    {middle : σ} {first rest : List Call} {result : Except Stop α}
    (ranFirst : Makes x before (.error stop) first middle)
    (handled : Makes (handler stop) middle result rest after) :
    Makes (tryCatch x handler) before result (first ++ rest) after := by
  intro trace atBefore
  obtain ⟨printed, ran⟩ := ranFirst trace atBefore
  obtain ⟨printedRest, ranRest⟩ :=
    handled { calls := trace.calls ++ first.toArray, printed := printed, world := middle } rfl
  refine ⟨printedRest, ?_⟩
  rw [runFrom_tryCatch, ran]
  simp only
  rw [ranRest]
  simp only [Prod.mk.injEq, Trace.mk.injEq, true_and, and_true]
  rw [← Array.toList_inj]
  simp

/-- A run of a script made on a fresh log. -/
theorem execute (makes : Makes script before result made after) :
    ∃ printed, Scripted.execute script before =
      (result, { calls := made.toArray, printed := printed, world := after }) := by
  obtain ⟨printed, ran⟩ := makes { world := before } rfl
  refine ⟨printed, ?_⟩
  show runFrom script { world := before } = _
  simpa using ran

end Makes

end Listening.World.Scripted
