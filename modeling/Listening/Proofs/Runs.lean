import Listening.Media.Studio

/-!
# Running scripts

A script runs from a trace: it finishes with a value or stops, and leaves a trace (`runFrom`).
One equation per building block says what a run of it is, so that a run can be followed step
by step without unfolding the monad.

Most facts about a whole run say that it changes its world only in some way: the services'
answers stay fixed, or only folders below the working directory are removed. Such a way of
changing is a `Change`, which every state may make to itself and which chains; a script stays
`Within` a change when every run of it does, whether it finishes or stops. Staying within a change
is closed under every way scripts are put together, so a whole run stays within a change when
each of its steps does.
-/

namespace Listening.World.Scripted

variable {σ α β : Type}

/-- Runs a script from a trace: how it ends, and the trace it leaves. -/
def runFrom (script : Scripted σ α) (trace : Trace σ) : Except Stop α × Trace σ :=
  StateT.run (ExceptT.run script) trace

theorem runFrom_bind (x : Scripted σ α) (f : α → Scripted σ β) (trace : Trace σ) :
    runFrom (x >>= f) trace = match runFrom x trace with
      | (.ok a, after) => runFrom (f a) after
      | (.error stop, after) => (.error stop, after) := by
  unfold runFrom
  show (StateT.run (ExceptT.run x >>= ExceptT.bindCont f) trace) = _
  rw [StateT.run_bind]
  rcases StateT.run (ExceptT.run x) trace with ⟨result, after⟩
  cases result <;> rfl

@[simp] theorem runFrom_pure (a : α) (trace : Trace σ) :
    runFrom (pure a : Scripted σ α) trace = (.ok a, trace) := rfl

@[simp] theorem runFrom_throw (stop : Stop) (trace : Trace σ) :
    runFrom (throw stop : Scripted σ α) trace = (.error stop, trace) := rfl

@[simp] theorem runFrom_call (name : String) (args : List Datum) (trace : Trace σ) :
    runFrom (call name args : Scripted σ Unit) trace =
      (.ok (), { trace with calls := trace.calls.push ⟨name, args⟩ }) := rfl

@[simp] theorem runFrom_say (line : String) (trace : Trace σ) :
    runFrom (say line : Scripted σ Unit) trace =
      (.ok (), { trace with printed := trace.printed ++ line ++ "\n" }) := rfl

@[simp] theorem runFrom_raise (failure : Failure) (message : String) (trace : Trace σ) :
    runFrom (raise failure message : Scripted σ α) trace =
      (.error (.raised failure message), trace) := rfl

@[simp] theorem runFrom_world (trace : Trace σ) :
    runFrom (world : Scripted σ σ) trace = (.ok trace.world, trace) := rfl

@[simp] theorem runFrom_alter (update : σ → σ) (trace : Trace σ) :
    runFrom (alter update) trace = (.ok (), { trace with world := update trace.world }) := rfl

theorem runFrom_map (f : α → β) (x : Scripted σ α) (trace : Trace σ) :
    runFrom (f <$> x) trace = match runFrom x trace with
      | (.ok a, after) => (.ok (f a), after)
      | (.error stop, after) => (.error stop, after) := by
  have mapped : runFrom (f <$> x) trace = runFrom (x >>= fun a => pure (f a)) trace := rfl
  rw [mapped, runFrom_bind]
  rcases runFrom x trace with ⟨result, after⟩
  cases result <;> rfl

theorem runFrom_tryCatch (x : Scripted σ α) (handler : Stop → Scripted σ α) (trace : Trace σ) :
    runFrom (tryCatch x handler) trace = match runFrom x trace with
      | (.ok a, after) => (.ok a, after)
      | (.error stop, after) => runFrom (handler stop) after := by
  unfold runFrom
  show StateT.run (ExceptT.tryCatch x handler).run trace = _
  simp only [ExceptT.tryCatch, ExceptT.run_mk, StateT.run_bind]
  dsimp only [ExceptT.run]
  rcases StateT.run x trace with ⟨result, after⟩
  cases result <;> rfl

/-- A kind of change a world's state may undergo: a state may always stay as it is, and two
changes of the kind in a row make one. -/
structure Change (σ : Type) where
  allows : σ → σ → Prop
  refl : ∀ state, allows state state
  trans : ∀ {first second third}, allows first second → allows second third → allows first third

/-- A script stays within a kind of change when the state it leaves, whether it finishes or
stops, is such a change of the state it started from. -/
def Within (change : Change σ) (script : Scripted σ α) : Prop :=
  ∀ trace, change.allows trace.world (runFrom script trace).2.world

namespace Within

variable {change : Change σ}

/-- The state a run of a script within a change leaves is allowed from the one it started in. -/
theorem allows_after {script : Scripted σ α} (kept : Within change script) {trace : Trace σ}
    {result : Except Stop α} {after : Trace σ} (ran : runFrom script trace = (result, after)) :
    change.allows trace.world after.world := by
  simpa [ran] using kept trace

theorem pure (a : α) : Within change (Pure.pure a : Scripted σ α) :=
  fun trace => change.refl trace.world

theorem throw (stop : Stop) : Within change (MonadExcept.throw stop : Scripted σ α) :=
  fun trace => change.refl trace.world

theorem call (name : String) (args : List Datum) :
    Within change (Scripted.call name args : Scripted σ Unit) :=
  fun trace => change.refl trace.world

theorem say (line : String) : Within change (Scripted.say line : Scripted σ Unit) :=
  fun trace => change.refl trace.world

theorem raise (failure : Failure) (message : String) :
    Within change (Scripted.raise failure message : Scripted σ α) :=
  fun trace => change.refl trace.world

theorem world : Within change (Scripted.world : Scripted σ σ) :=
  fun trace => change.refl trace.world

theorem alter {update : σ → σ} (allowed : ∀ state, change.allows state (update state)) :
    Within change (Scripted.alter update) :=
  fun trace => allowed trace.world

theorem bind {x : Scripted σ α} {f : α → Scripted σ β} (first : Within change x)
    (rest : ∀ a, Within change (f a)) : Within change (x >>= f) := by
  intro trace
  rw [runFrom_bind]
  rcases ran : runFrom x trace with ⟨result, after⟩
  have kept := first.allows_after ran
  cases result with
  | ok a => exact change.trans kept (rest a after)
  | error stop => exact kept

theorem map {x : Scripted σ α} (f : α → β) (first : Within change x) : Within change (f <$> x) := by
  intro trace
  rw [runFrom_map]
  rcases ran : runFrom x trace with ⟨result, after⟩
  have kept := first.allows_after ran
  cases result <;> exact kept

theorem tryCatch {x : Scripted σ α} {handler : Stop → Scripted σ α} (first : Within change x)
    (rest : ∀ stop, Within change (handler stop)) : Within change (tryCatch x handler) := by
  intro trace
  rw [runFrom_tryCatch]
  rcases ran : runFrom x trace with ⟨result, after⟩
  have kept := first.allows_after ran
  cases result with
  | ok a => exact kept
  | error stop => exact change.trans kept (rest stop after)

/-- A loop stays within a change when every pass of its body does, from any state. -/
theorem forIn {body : α → β → Scripted σ (ForInStep β)} (step : ∀ a b, Within change (body a b)) :
    ∀ (items : List α) (init : β), Within change (ForIn.forIn items init body)
  | [], init => pure init
  | item :: items, init => by
    rw [List.forIn_cons]
    refine bind (step item init) fun next => ?_
    cases next with
    | done b => exact pure b
    | yield b => exact forIn step items b

/-- A fold stays within a change when every pass of its step over an item of the list does,
from any state and with any value carried. -/
theorem foldlM {step : β → α → Scripted σ β} :
    ∀ {items : List α}, (∀ carried, ∀ item ∈ items, Within change (step carried item)) →
      ∀ init, Within change (items.foldlM step init)
  | [], _, init => pure init
  | item :: items, each, init => by
    rw [List.foldlM_cons]
    exact bind (each init item List.mem_cons_self) fun next =>
      foldlM (fun carried other member => each carried other (List.mem_cons_of_mem item member)) next

end Within

end Listening.World.Scripted

namespace Listening.Media

open Listening.World Listening.World.Scripted Listening.Media.Session

@[simp] theorem runFrom_scene (trace : Trace Studio) :
    runFrom Session.scene trace = (.ok trace.world.scene, trace) := rfl

/-- Taking the result of a computation on numbers leaves the world as it is. -/
theorem computed_within {change : Change Studio} {α : Type} (value : Except String α) :
    Within change (computed value) := by
  cases value with
  | ok a => exact Within.pure a
  | error message => exact Within.raise .overflow message

/-- Changing the working directory stays within a change that allows every change the update
can make. -/
theorem onDisk_within {change : Change Studio} {update : Disk → Except Stop Disk}
    (allowed : ∀ studio changed, update studio.disk = .ok changed →
      change.allows studio { studio with disk := changed }) :
    Within change (onDisk update) := by
  intro trace
  simp only [onDisk, Session.disk, runFrom_bind, runFrom_world, runFrom_pure]
  split
  · next changed updated => exact allowed trace.world changed updated
  · exact change.refl trace.world

end Listening.Media
