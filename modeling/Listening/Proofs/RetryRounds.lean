import Listening.Proofs.CallLog
import Listening.Media.Fetch

/-!
# Rounds of retries

A download refused for too many requests is tried again after a pause, as long as fewer rounds
than the retry limit have passed. The pause of round `k` is `backoff ^ k` plus the `k`-th random
draw, each as computed on numbers and then written with two decimals (`Transcriber.wait`); it is
announced and slept. The limit counts the rounds (`Number.countsBelow`: a whole number below one
allows none).

An attempt is described by what each run of it does (`RefusedThen`): while fewer than
`refusals` runs were refused it is refused again; then it ends with an `outcome` that is no
refusal. Each run makes one call that marks it and no wait, and leaves the draws to the pauses.
From such an attempt the retries make `refusals + 1` runs of it and a pause after each refusal,
and end with its outcome, when the limit allows more rounds than there are refusals; otherwise
they make as many runs and pauses as the limit allows and give up (`retry_rounds`). The pauses
are those the waits compute, so no wait may overflow: with a backoff of `10 ^ 200` the third
wait is too large for a double and the run stops there (`huge_backoff_overflows`).
-/

namespace Listening.Media

open Listening.World Listening.World.Scripted Listening.Media.Session

/-- The waits of a log: the arguments of its `sleep` calls, in order. -/
def sleepsOf (calls : List Call) : List (List Datum) :=
  (calls.filter (·.name == "sleep")).map (·.args)

/-- How many calls of a log have a name. -/
def countNamed (name : String) (calls : List Call) : Nat :=
  calls.countP (·.name == name)

@[simp] theorem sleepsOf_append (first rest : List Call) :
    sleepsOf (first ++ rest) = sleepsOf first ++ sleepsOf rest := by
  simp [sleepsOf]

@[simp] theorem countNamed_append (name : String) (first rest : List Call) :
    countNamed name (first ++ rest) = countNamed name first + countNamed name rest := by
  simp [countNamed]

namespace Transcriber

/-- The wait after the refusal of round `round` when the draw gives `drawn`: `backoff ^ round`
plus the draw, which must also be written with two decimals. -/
def wait (run : Transcriber) (round : Nat) (drawn : Number) : Except String Number := do
  let grown ← run.backoff.pow round
  let pause ← grown.add drawn
  let _ ← pause.fixed2
  pure pause

/-- A computation on numbers that ends with a value ran its first step to a value. -/
theorem bind_eq_ok {α β : Type} {first : Except String α} {rest : α → Except String β} {b : β}
    (ran : (first >>= rest) = .ok b) : ∃ a, first = .ok a ∧ rest a = .ok b := by
  cases first with
  | error message => cases ran
  | ok a => exact ⟨a, rfl, ran⟩

theorem wait_eq_ok {run : Transcriber} {round : Nat} {drawn pause : Number}
    (waited : run.wait round drawn = .ok pause) :
    ∃ grown text, run.backoff.pow round = .ok grown ∧ grown.add drawn = .ok pause ∧
      pause.fixed2 = .ok text := by
  obtain ⟨grown, powered, rest⟩ := bind_eq_ok waited
  obtain ⟨sum, added, rest⟩ := bind_eq_ok rest
  obtain ⟨text, shown, last⟩ := bind_eq_ok rest
  cases last
  exact ⟨grown, text, powered, added, shown⟩

/-- A computation on numbers that fails failed at its first step or at a later one. -/
theorem bind_eq_error {α β : Type} {first : Except String α} {rest : α → Except String β}
    {message : String} (ran : (first >>= rest) = .error message) :
    first = .error message ∨ ∃ a, first = .ok a ∧ rest a = .error message := by
  cases first with
  | error early =>
    cases ran
    exact Or.inl rfl
  | ok a => exact Or.inr ⟨a, rfl, ran⟩

/-- A wait that overflows does so at the power, at the sum, or when written with two decimals. -/
theorem wait_eq_error {run : Transcriber} {round : Nat} {drawn : Number} {message : String}
    (waited : run.wait round drawn = .error message) :
    run.backoff.pow round = .error message ∨ ∃ grown, run.backoff.pow round = .ok grown ∧
      (grown.add drawn = .error message ∨
        ∃ pause, grown.add drawn = .ok pause ∧ pause.fixed2 = .error message) := by
  rcases bind_eq_error waited with powered | ⟨grown, powered, rest⟩
  · exact Or.inl powered
  refine Or.inr ⟨grown, powered, ?_⟩
  rcases bind_eq_error rest with added | ⟨pause, added, rest⟩
  · exact Or.inl added
  refine Or.inr ⟨pause, added, ?_⟩
  rcases bind_eq_error rest with shown | ⟨text, _, last⟩
  · exact shown
  · cases last

/-- The wait from a whole backoff and a whole draw: their whole sum when it can be written as a
double, and an overflow otherwise. -/
theorem wait_whole {run : Transcriber} {base : Int} (based : run.backoff = .whole base)
    (round : Nat) (drawn : Int) :
    run.wait round (.whole drawn) =
      if (Int.pow base round + drawn).natAbs < Number.doubleBound then
        .ok (.whole (Int.pow base round + drawn))
      else .error Number.tooLarge := by
  unfold wait Number.fixed2 Number.toDouble?
  rw [based]
  -- the bound is kept abstract, so that nothing evaluates it
  generalize Number.doubleBound = bound
  simp only [bind, Except.bind, Number.pow, Number.add, pure, Except.pure]
  by_cases small : (Int.pow base round + drawn).natAbs < bound
  · simp only [if_pos small]
  · simp only [if_neg small]

end Transcriber

/-- An attempt that is refused for too many requests while fewer than `refusals` of its runs were
refused, as `tries` counts them on the states that `fits`, and then ends with `outcome`. Each run
makes one call named `mark` and no wait, and leaves the draws as they are. -/
structure RefusedThen {α : Type} (attempt : Session α) (mark : String) (fits : Studio → Prop)
    (tries : Studio → Nat) (refusals : Nat) (outcome : Except Stop α) : Prop where
  refused : ∀ trace, fits trace.world → tries trace.world < refusals →
    (∃ message, (runFrom attempt trace).1 = .error (.raised .rateLimited message)) ∧
      tries (runFrom attempt trace).2.world = tries trace.world + 1
  ends : ∀ trace, fits trace.world → tries trace.world = refusals →
    (runFrom attempt trace).1 = outcome
  notRefusal : ∀ message, outcome ≠ .error (.raised .rateLimited message)
  fitting : ∀ trace, fits trace.world → fits (runFrom attempt trace).2.world
  keepsDraws : ∀ trace, fits trace.world → (runFrom attempt trace).2.world.draws = trace.world.draws
  marked : ∀ trace, fits trace.world → ∃ added : List Call,
    (runFrom attempt trace).2.calls = trace.calls ++ added.toArray ∧
      countNamed mark added = 1 ∧ sleepsOf added = []
  markApart : mark ≠ "uniform" ∧ mark ≠ "sleep"
  drawsApart : ∀ studio draws, fits studio →
    fits { studio with draws := draws } ∧ tries { studio with draws := draws } = tries studio

/-- Between two traces of a run, `runs` runs of an attempt marked by `mark` were made and the
waits `pauses` were slept. -/
structure Retried (mark : String) (before after : Trace Studio) (runs : Nat) (pauses : List Number) :
    Prop where
  sleeps : sleepsOf after.calls.toList =
    sleepsOf before.calls.toList ++ pauses.map fun pause => [pause.toDatum]
  marks : countNamed mark after.calls.toList = countNamed mark before.calls.toList + runs

theorem Retried.refl (mark : String) (trace : Trace Studio) : Retried mark trace trace 0 [] :=
  ⟨by simp, by simp⟩

theorem Retried.trans {mark : String} {first middle last : Trace Studio} {runs more : Nat}
    {pauses later : List Number} (early : Retried mark first middle runs pauses)
    (late : Retried mark middle last more later) :
    Retried mark first last (runs + more) (pauses ++ later) :=
  ⟨by rw [late.sleeps, early.sleeps, List.map_append, List.append_assoc],
    by rw [late.marks, early.marks, Nat.add_assoc]⟩

/-- A run that adds calls to the log retried as the calls say: `runs` marked ones, and sleeps for
`pauses`. -/
theorem Retried.of_calls {mark : String} {before after : Trace Studio} {made : List Call}
    {runs : Nat} {pauses : List Number} (grown : after.calls = before.calls ++ made.toArray)
    (slept : sleepsOf made = pauses.map fun pause => [pause.toDatum])
    (marked : countNamed mark made = runs) : Retried mark before after runs pauses :=
  ⟨by simp [grown, slept], by simp [grown, marked]⟩

section Steps

/-- A draw gives the next scripted number, or the lower end once they are used up, and drops it. -/
theorem draw_makes (low high : Int) (studio : Studio) :
    Makes (draw low high) studio (.ok (studio.draws.headD (.whole low)))
      [⟨"uniform", [.int low, .int high]⟩] { studio with draws := studio.draws.tail } := by
  obtain ⟨scene, disk, draws, refused, gathered⟩ := studio
  unfold draw
  apply Makes.calls_eq
  case makes =>
    cases draws with
    | nil => exact Makes.bind (Makes.call _ _ _) (Makes.bind (Makes.world _) (Makes.pure _ _))
    | cons next rest =>
      exact Makes.bind (Makes.call _ _ _)
        (Makes.bind (Makes.world _) (Makes.bind (Makes.alter _ _) (Makes.pure _ _)))
  case same => rfl

theorem computed_makes {α : Type} {value : Except String α} {a : α} (ok : value = .ok a)
    (studio : Studio) : Makes (computed value) studio (.ok a) [] studio := by
  subst ok
  exact Makes.pure a studio

/-- The pause of a round whose wait is computed: a draw and a sleep for that wait. -/
theorem pause_makes (run : Transcriber) (round : Nat) (studio : Studio) {pause : Number}
    (waited : run.wait round (studio.draws.headD (.whole 0)) = .ok pause) :
    Makes (run.pause round) studio (.ok ())
      [⟨"uniform", [.int 0, .int 1]⟩, ⟨"sleep", [pause.toDatum]⟩]
      { studio with draws := studio.draws.tail } := by
  obtain ⟨grown, text, powered, added, shown⟩ := Transcriber.wait_eq_ok waited
  unfold Transcriber.pause
  apply Makes.calls_eq
  case makes =>
    exact Makes.bind (computed_makes powered _) (Makes.bind (draw_makes 0 1 _)
      (Makes.bind (computed_makes added _) (Makes.bind (computed_makes shown _)
      (Makes.bind (Makes.say _ _) (Makes.call _ _ _)))))
  case same => rfl

theorem computed_overflows {α : Type} {value : Except String α} {message : String}
    (fails : value = .error message) (studio : Studio) :
    Makes (computed value) studio (.error (.raised .overflow message)) [] studio := by
  subst fails
  exact Makes.raise .overflow message studio

/-- The pause of a round whose wait overflows stops with that overflow, having made at most the
draw and no sleep. -/
theorem pause_overflows (run : Transcriber) (round : Nat) (studio : Studio) {message : String}
    (fails : run.wait round (studio.draws.headD (.whole 0)) = .error message) :
    ∃ made after, (made = [] ∨ made = [⟨"uniform", [.int 0, .int 1]⟩]) ∧
      Makes (run.pause round) studio (.error (.raised .overflow message)) made after := by
  unfold Transcriber.pause
  rcases Transcriber.wait_eq_error fails with
    powered | ⟨grown, powered, added | ⟨pause, added, shown⟩⟩
  · exact ⟨[], studio, Or.inl rfl, Makes.bind_error (computed_overflows powered studio)⟩
  · refine ⟨[] ++ ([⟨"uniform", [.int 0, .int 1]⟩] ++ []), { studio with draws := studio.draws.tail },
      Or.inr rfl, ?_⟩
    exact Makes.bind (computed_makes powered studio) (Makes.bind (draw_makes 0 1 studio)
      (Makes.bind_error (computed_overflows added _)))
  · refine ⟨[] ++ ([⟨"uniform", [.int 0, .int 1]⟩] ++ ([] ++ [])),
      { studio with draws := studio.draws.tail }, Or.inr rfl, ?_⟩
    exact Makes.bind (computed_makes powered studio) (Makes.bind (draw_makes 0 1 studio)
      (Makes.bind (computed_makes added _) (Makes.bind_error (computed_overflows shown _))))

end Steps

section Rounds

variable {run : Transcriber} {α : Type} {attempt : Session α} {mark : String}
  {fits : Studio → Prop} {tries : Studio → Nat} {refusals : Nat} {outcome : Except Stop α}

/-- Where round `round` of the retries starts: on a state that fits, after `round` refused runs,
with the draws from the `round`-th on still to come. -/
structure RoundStart (fits : Studio → Prop) (tries : Studio → Nat) (draws : List Number)
    (round : Nat) (trace : Trace Studio) : Prop where
  fitting : fits trace.world
  counted : tries trace.world = round
  drawsLeft : trace.world.draws = draws.drop round

theorem headD_drop (draws : List Number) (round : Nat) (low : Number) :
    (draws.drop round).headD low = draws.getD round low := by
  rw [List.headD_eq_head?_getD, List.head?_drop, List.getD_eq_getElem?_getD]

/-- The run of a round before the last refusal: refused and counted, on a state that fits, with
the draws kept, marked once and without a wait. -/
theorem run_refused (spec : RefusedThen attempt mark fits tries refusals outcome)
    {draws : List Number} {round : Nat} {trace : Trace Studio}
    (start : RoundStart fits tries draws round trace) (early : round < refusals) :
    ∃ message after, runFrom attempt trace = (.error (.raised .rateLimited message), after) ∧
      fits after.world ∧ tries after.world = round + 1 ∧ after.world.draws = draws.drop round ∧
      Retried mark trace after 1 [] := by
  obtain ⟨⟨message, refusedNow⟩, countedNow⟩ :=
    spec.refused trace start.fitting (start.counted ▸ early)
  obtain ⟨added, grown, marked, noSleeps⟩ := spec.marked trace start.fitting
  refine ⟨message, (runFrom attempt trace).2, Prod.ext refusedNow rfl,
    spec.fitting trace start.fitting, ?_, ?_, Retried.of_calls grown noSleeps marked⟩
  · rw [countedNow, start.counted]
  · rw [spec.keepsDraws trace start.fitting, start.drawsLeft]

/-- A round whose run is refused pauses for the round's wait and starts the next round. -/
theorem go_refused (left : Nat) (spec : RefusedThen attempt mark fits tries refusals outcome)
    {draws : List Number} {round : Nat} {trace : Trace Studio} {pause : Number}
    (start : RoundStart fits tries draws round trace) (early : round < refusals)
    (waited : run.wait round (draws.getD round (.whole 0)) = .ok pause) :
    ∃ next, RoundStart fits tries draws (round + 1) next ∧ Retried mark trace next 1 [pause] ∧
      runFrom (Transcriber.retry.go run attempt round (left + 1)) trace =
        runFrom (Transcriber.retry.go run attempt (round + 1) left) next := by
  obtain ⟨message, after, ran, fitsAfter, countedAfter, drawsAfter, retried⟩ :=
    run_refused spec start early
  have drawn : after.world.draws.headD (.whole 0) = draws.getD round (.whole 0) := by
    rw [drawsAfter, headD_drop]
  obtain ⟨printed, paused⟩ := pause_makes run round after.world (drawn ▸ waited) after rfl
  obtain ⟨keptFit, keptCount⟩ := spec.drawsApart after.world after.world.draws.tail fitsAfter
  let next : Trace Studio :=
    { calls := after.calls ++ [⟨"uniform", [.int 0, .int 1]⟩, ⟨"sleep", [pause.toDatum]⟩].toArray,
      printed := printed, world := { after.world with draws := after.world.draws.tail } }
  -- the pause adds a draw and the sleep, neither of them marked
  have slept : Retried mark after next 0 [pause] :=
    Retried.of_calls rfl (by simp [sleepsOf])
      (by simp [countNamed, spec.markApart.1.symm, spec.markApart.2.symm])
  refine ⟨next, ⟨keptFit, keptCount.trans countedAfter, ?_⟩, retried.trans slept, ?_⟩
  · simp only [next, drawsAfter, List.tail_drop]
  · rw [Transcriber.retry.go.eq_2, runFrom_tryCatch, runFrom_map, ran]
    simp only
    rw [runFrom_bind, paused]

/-- A round before the last refusal whose wait overflows stops the retries with that overflow,
after one more run and no sleep. -/
theorem go_overflows (left : Nat) (spec : RefusedThen attempt mark fits tries refusals outcome)
    {draws : List Number} {round : Nat} {trace : Trace Studio} {message : String}
    (start : RoundStart fits tries draws round trace) (early : round < refusals)
    (fails : run.wait round (draws.getD round (.whole 0)) = .error message) :
    (runFrom (Transcriber.retry.go run attempt round (left + 1)) trace).1 =
        .error (.raised .overflow message) ∧
      Retried mark trace (runFrom (Transcriber.retry.go run attempt round (left + 1)) trace).2 1 [] := by
  obtain ⟨refusal, after, ran, -, -, drawsAfter, retried⟩ := run_refused spec start early
  have drawn : after.world.draws.headD (.whole 0) = draws.getD round (.whole 0) := by
    rw [drawsAfter, headD_drop]
  obtain ⟨made, later, drawOnly, overflowed⟩ := pause_overflows run round after.world (drawn ▸ fails)
  obtain ⟨printed, paused⟩ := overflowed after rfl
  have unmarked : Retried mark after
      { calls := after.calls ++ made.toArray, printed := printed, world := later } 0 [] := by
    rcases drawOnly with rfl | rfl
    · exact Retried.of_calls rfl rfl rfl
    · exact Retried.of_calls rfl (by simp [sleepsOf]) (by simp [countNamed, spec.markApart.1.symm])
  rw [Transcriber.retry.go.eq_2, runFrom_tryCatch, runFrom_map, ran]
  simp only
  rw [runFrom_bind, paused]
  exact ⟨rfl, retried.trans unmarked⟩

/-- The round after the last refusal runs the attempt once more and ends with its outcome. -/
theorem go_last (run : Transcriber) (left : Nat) (spec : RefusedThen attempt mark fits tries refusals outcome)
    {draws : List Number} {round : Nat} {trace : Trace Studio}
    (start : RoundStart fits tries draws round trace) (last : round = refusals) :
    (runFrom (Transcriber.retry.go run attempt round (left + 1)) trace).1 = outcome.map some ∧
      Retried mark trace (runFrom (Transcriber.retry.go run attempt round (left + 1)) trace).2 1 [] := by
  have ended := spec.ends trace start.fitting (start.counted.trans last)
  obtain ⟨added, grown, marked, noSleeps⟩ := spec.marked trace start.fitting
  have retried : Retried mark trace (runFrom attempt trace).2 1 [] :=
    Retried.of_calls grown noSleeps marked
  generalize ran : runFrom attempt trace = outcomeNow at ended retried
  obtain ⟨result, after⟩ := outcomeNow
  simp only at ended retried
  subst ended
  rw [Transcriber.retry.go.eq_2, runFrom_tryCatch, runFrom_map, ran]
  cases result with
  | ok value => exact ⟨rfl, retried⟩
  | error stop =>
    -- the outcome is no refusal, so the handler passes it on
    simp only
    split
    · next message => exact absurd rfl (spec.notRefusal message)
    · exact ⟨rfl, retried⟩

/-- With no rounds left the retries give up, printing so. -/
theorem go_none (round : Nat) (trace : Trace Studio) :
    runFrom (Transcriber.retry.go run attempt round 0) trace =
      (.ok none, { trace with printed := trace.printed ++
        "Max retries reached. Could not complete the request." ++ "\n" }) := by
  rw [Transcriber.retry.go.eq_1, runFrom_bind, runFrom_say]
  rfl

/-- Rounds whose runs are all refused and whose waits are all computed: after `n` of them the
retries start round `round + n` with `n` fewer rounds left, having run the attempt `n` times and
slept each round's wait. -/
theorem go_advance (spec : RefusedThen attempt mark fits tries refusals outcome)
    (draws : List Number) (pause : Nat → Number) :
    ∀ (n round left : Nat) (trace : Trace Studio), RoundStart fits tries draws round trace →
      round + n ≤ refusals →
      (∀ k, round ≤ k → k < round + n → run.wait k (draws.getD k (.whole 0)) = .ok (pause k)) →
      ∃ next, RoundStart fits tries draws (round + n) next ∧
        Retried mark trace next n ((List.range' round n).map pause) ∧
        runFrom (Transcriber.retry.go run attempt round (left + n)) trace =
          runFrom (Transcriber.retry.go run attempt (round + n) left) next
  | 0, _, _, trace, start, _, _ => ⟨trace, start, Retried.refl mark trace, rfl⟩
  | n + 1, round, left, trace, start, within, waited => by
    obtain ⟨middle, started, retried, stepped⟩ :=
      go_refused (left + n) spec start (by omega) (waited round (Nat.le_refl round) (by omega))
    obtain ⟨next, reached, rest, advanced⟩ := go_advance spec draws pause n (round + 1) left middle
      started (by omega) fun k later below => waited k (by omega) (by omega)
    have shifted : round + 1 + n = round + (n + 1) := by omega
    refine ⟨next, shifted ▸ reached, ?_, ?_⟩
    · rw [List.range'_succ, List.map_cons, Nat.add_comm n 1]
      exact retried.trans rest
    · rw [← Nat.add_assoc, stepped, advanced, shifted]

end Rounds

section Download

/-- How many downloads of a post were refused so far. -/
def refusedSoFar (code : String) (studio : Studio) : Nat :=
  (lookup studio.refused code).getD 0

/-- The post a code names in the scene; a code the scene does not name downloads an empty post. -/
def postOf (code : String) (studio : Studio) : Post :=
  (lookup studio.scene.posts code).getD {}

/-- A download of a post that has refusals left is refused for too many requests, and counted. -/
theorem downloadPost_refused (code target : String) (trace : Trace Studio)
    (below : refusedSoFar code trace.world < (postOf code trace.world).rateLimits) :
    runFrom (downloadPost code target) trace =
      (.error (.raised .rateLimited "429 Too Many Requests"),
        { trace with
          calls := trace.calls.push ⟨"download_post", [.str code, .str target]⟩
          world := { trace.world with
            refused := setKey trace.world.refused code (refusedSoFar code trace.world + 1) } }) := by
  unfold refusedSoFar postOf at below
  unfold downloadPost
  simp only [runFrom_bind, runFrom_call, runFrom_scene, runFrom_world]
  rw [if_pos below]
  rfl

/-- A download of a post without refusals left that writes no files fails as the scene says, or
ends. -/
theorem downloadPost_through (code target : String) (trace : Trace Studio)
    (reached : ¬ refusedSoFar code trace.world < (postOf code trace.world).rateLimits)
    (writesNone : (postOf code trace.world).create = false) :
    runFrom (downloadPost code target) trace =
      ((match (postOf code trace.world).failure with
        | some message => .error (.raised .postUnreachable message)
        | none => .ok ()),
        { trace with calls := trace.calls.push ⟨"download_post", [.str code, .str target]⟩ }) := by
  unfold refusedSoFar postOf at reached
  unfold postOf at writesNone
  unfold downloadPost postOf
  simp only [runFrom_bind, runFrom_call, runFrom_scene, runFrom_world]
  rw [if_neg reached]
  cases ((lookup trace.world.scene.posts code).getD {}).failure with
  | none => simp [writesNone]
  | some message => rfl

/-- What a download leaves when the post it names writes no files: its call logged, and one more
refusal counted while the post has refusals left. -/
theorem downloadPost_leaves (code target : String) (trace : Trace Studio)
    (writesNone : (postOf code trace.world).create = false) :
    (runFrom (downloadPost code target) trace).2 =
      { trace with
        calls := trace.calls.push ⟨"download_post", [.str code, .str target]⟩
        world := if refusedSoFar code trace.world < (postOf code trace.world).rateLimits then
          { trace.world with
            refused := setKey trace.world.refused code (refusedSoFar code trace.world + 1) }
          else trace.world } := by
  by_cases below : refusedSoFar code trace.world < (postOf code trace.world).rateLimits
  · rw [downloadPost_refused code target trace below, if_pos below]
  · rw [downloadPost_through code target trace below writesNone, if_neg below]

/-- A download of a post that writes no files is refused as often as the post says, and then
fails as the scene says or ends. -/
theorem downloadPost_refusedThen (code target : String) (post : Post)
    (writesNone : post.create = false) :
    RefusedThen (downloadPost code target) "download_post" (fun studio => postOf code studio = post)
      (refusedSoFar code) post.rateLimits
      (match post.failure with
        | some message => .error (.raised .postUnreachable message)
        | none => .ok ()) where
  refused trace named below := by
    subst named
    rw [downloadPost_refused code target trace below]
    exact ⟨⟨_, rfl⟩, by simp [refusedSoFar, lookup_setKey_self]⟩
  ends trace named reached := by
    subst named
    rw [downloadPost_through code target trace (by omega) writesNone]
  notRefusal message := by
    cases post.failure <;> simp
  fitting trace named := by
    rw [downloadPost_leaves code target trace (named ▸ writesNone)]
    split <;> exact named
  keepsDraws trace named := by
    rw [downloadPost_leaves code target trace (named ▸ writesNone)]
    split <;> rfl
  marked trace named := by
    refine ⟨[⟨"download_post", [.str code, .str target]⟩], ?_, by simp [countNamed],
      by simp [sleepsOf]⟩
    rw [downloadPost_leaves code target trace (named ▸ writesNone), Array.push_eq_append]
  markApart := by decide
  drawsApart studio draws named := ⟨named, rfl⟩

end Download

/-- The retries of an attempt that is refused `refusals` times and then ends with `outcome`, from
a state where none of its runs were refused yet, when every wait they reach can be computed
(`pause k` is the wait of round `k`, drawn from the `k`-th scripted number). If the limit allows
more rounds than there are refusals, they run the attempt `refusals + 1` times, sleep the waits of
rounds `0` to `refusals - 1` in order, and end with its outcome: a value, or any failure other
than a refusal, passed on. Otherwise they run it as often as the limit allows, sleep after each
run, the last one too, and give up with nothing after printing so. -/
theorem retry_rounds {α : Type} {attempt : Session α} {mark : String} {fits : Studio → Prop}
    {tries : Studio → Nat} {refusals : Nat} {outcome : Except Stop α} (run : Transcriber)
    (spec : RefusedThen attempt mark fits tries refusals outcome) (trace : Trace Studio)
    (fitting : fits trace.world) (fresh : tries trace.world = 0) (pause : Nat → Number)
    (waited : ∀ k, k < min refusals run.retryLimit.countsBelow →
      run.wait k (trace.world.draws.getD k (.whole 0)) = .ok (pause k)) :
    (refusals < run.retryLimit.countsBelow →
      (runFrom (run.retry attempt) trace).1 = outcome.map some ∧
      Retried mark trace (runFrom (run.retry attempt) trace).2 (refusals + 1)
        ((List.range refusals).map pause)) ∧
    (run.retryLimit.countsBelow ≤ refusals →
      (runFrom (run.retry attempt) trace).1 = .ok none ∧
      Retried mark trace (runFrom (run.retry attempt) trace).2 run.retryLimit.countsBelow
        ((List.range run.retryLimit.countsBelow).map pause) ∧
      ∃ before, (runFrom (run.retry attempt) trace).2.printed =
        before ++ "Max retries reached. Could not complete the request." ++ "\n") := by
  have start : RoundStart fits tries trace.world.draws 0 trace := ⟨fitting, fresh, rfl⟩
  unfold Transcriber.retry
  rw [List.range_eq_range', List.range_eq_range']
  constructor
  · intro allowed
    -- the limit leaves a round for the last run after the refused ones
    obtain ⟨spare, total⟩ : ∃ spare, run.retryLimit.countsBelow = spare + 1 + refusals :=
      ⟨run.retryLimit.countsBelow - refusals - 1, by omega⟩
    obtain ⟨next, started, retried, advanced⟩ := go_advance spec trace.world.draws pause refusals 0
      (spare + 1) trace start (by omega) fun k _ below => waited k (by omega)
    obtain ⟨ended, last⟩ := go_last run spare spec started (Nat.zero_add refusals)
    rw [total, advanced]
    exact ⟨ended, by simpa using retried.trans last⟩
  · intro exhausted
    obtain ⟨next, _, retried, advanced⟩ := go_advance spec trace.world.draws pause
      run.retryLimit.countsBelow 0 0 trace start (by omega) fun k _ below => waited k (by omega)
    simp only [Nat.zero_add] at advanced
    rw [advanced, go_none]
    exact ⟨rfl, ⟨retried.sleeps, retried.marks⟩, next.printed, rfl⟩




/-- The retries stop at the first wait that overflows when they reach it, in a round before the
last refusal and within the limit: with that overflow, after one run more than the rounds before
it and a sleep for each of those. -/
theorem retry_stops_at_overflow {α : Type} {attempt : Session α} {mark : String}
    {fits : Studio → Prop} {tries : Studio → Nat} {refusals : Nat} {outcome : Except Stop α}
    (run : Transcriber) (spec : RefusedThen attempt mark fits tries refusals outcome)
    (trace : Trace Studio) (fitting : fits trace.world) (fresh : tries trace.world = 0)
    (pause : Nat → Number) {stop : Nat} {message : String}
    (reached : stop < min refusals run.retryLimit.countsBelow)
    (waited : ∀ k, k < stop → run.wait k (trace.world.draws.getD k (.whole 0)) = .ok (pause k))
    (fails : run.wait stop (trace.world.draws.getD stop (.whole 0)) = .error message) :
    (runFrom (run.retry attempt) trace).1 = .error (.raised .overflow message) ∧
      Retried mark trace (runFrom (run.retry attempt) trace).2 (stop + 1)
        ((List.range stop).map pause) := by
  have start : RoundStart fits tries trace.world.draws 0 trace := ⟨fitting, fresh, rfl⟩
  obtain ⟨spare, total⟩ : ∃ spare, run.retryLimit.countsBelow = spare + 1 + stop :=
    ⟨run.retryLimit.countsBelow - stop - 1, by omega⟩
  obtain ⟨next, started, retried, advanced⟩ := go_advance spec trace.world.draws pause stop 0
    (spare + 1) trace start (by omega) fun k _ below => waited k (by omega)
  obtain ⟨overflowed, last⟩ := go_overflows spare spec started (by omega)
    (by rw [Nat.zero_add]; exact fails)
  unfold Transcriber.retry
  rw [total, advanced, List.range_eq_range']
  exact ⟨overflowed, by simpa using retried.trans last⟩

/-- A post refused twice, downloaded with the default settings from a scene without draws: three
downloads, and sleeps of one and then two seconds. -/
theorem twice_refused_download_retried :
    (runFrom (({} : Transcriber).retry (downloadPost "CODE" "CODE"))
        { world := { scene := { posts := [("CODE", { rateLimits := 2, create := false })] } } }).1 =
      .ok (some ()) ∧
    Retried "download_post"
      { world := { scene := { posts := [("CODE", { rateLimits := 2, create := false })] } } }
      (runFrom (({} : Transcriber).retry (downloadPost "CODE" "CODE"))
        { world := { scene := { posts := [("CODE", { rateLimits := 2, create := false })] } } }).2
      3 [.whole 1, .whole 2] := by
  have waits : ∀ k, k < min 2 ({} : Transcriber).retryLimit.countsBelow →
      ({} : Transcriber).wait k (([] : List Number).getD k (.whole 0)) =
        .ok (.whole (Int.pow 2 k + 0)) := by
    intro k below
    have early : k < 2 := Nat.lt_of_lt_of_le below (Nat.min_le_left _ _)
    rw [List.getD_nil, Transcriber.wait_whole rfl, if_pos]
    rcases k with _ | _ | k
    · decide +kernel
    · decide +kernel
    · omega
  exact (retry_rounds {} (downloadPost_refusedThen "CODE" "CODE" { rateLimits := 2, create := false } rfl)
    { world := { scene := { posts := [("CODE", { rateLimits := 2, create := false })] } } } rfl rfl
    _ waits).1 (by decide)

/-- With a backoff of `10 ^ 200`, a post refused three times is not downloaded: the wait of the
third round, `10 ^ 400` seconds, is too large for a double, and the retries stop there. -/
theorem huge_backoff_overflows :
    (runFrom (({ backoff := .whole (Int.pow 10 200) } : Transcriber).retry
        (downloadPost "CODE" "CODE"))
        { world := { scene := { posts := [("CODE", { rateLimits := 3, create := false })] } } }).1 =
      .error (.raised .overflow Number.tooLarge) := by
  have waits : ∀ k, k < 2 → ({ backoff := .whole (Int.pow 10 200) } : Transcriber).wait k
      (([] : List Number).getD k (.whole 0)) = .ok (.whole (Int.pow (Int.pow 10 200) k + 0)) := by
    intro k early
    rw [List.getD_nil, Transcriber.wait_whole rfl, if_pos]
    rcases k with _ | _ | k
    · decide +kernel
    · decide +kernel
    · omega
  have fails : ({ backoff := .whole (Int.pow 10 200) } : Transcriber).wait 2
      (([] : List Number).getD 2 (.whole 0)) = .error Number.tooLarge := by
    rw [List.getD_nil, Transcriber.wait_whole rfl, if_neg (by decide +kernel)]
  exact (retry_stops_at_overflow { backoff := .whole (Int.pow 10 200) }
    (downloadPost_refusedThen "CODE" "CODE" { rateLimits := 3, create := false } rfl)
    { world := { scene := { posts := [("CODE", { rateLimits := 3, create := false })] } } } rfl rfl
    _ (by decide) waits fails).1

end Listening.Media
