import Listening.Proofs.CallLog
import Listening.Browser.SignIn

/-!
# Sign-in attempts

How often a sign-in sends its form, and that it closes the browser last.

No step of a sign-in but the last closes the browser (`CallsOnly KeepsOpen`), so the browser is
closed exactly once, as the very last call, whatever the limit, the credentials and the site,
and however the run ends (`signIn_quits_last`).

On a site that cooperates, where both fields are found (`Cooperates`), every attempt finds,
clears and fills the address field, does the same for the password field, sends the form and
waits (`attemptCalls`). An attempt sends the form once, and once more for every enter key typed with
the address or the password (`sendsPerAttempt`). The attempts go on until the title read after
one of them lacks `Sign in`, or until the limit is reached (`attemptsMade`): a sign-in with a
whole-number limit makes that many attempts, reports and closes the browser
(`signIn_attempts_then_quits`). A float limit stops the run before any attempt
(`float_limit_refused`).
-/

namespace Listening.Browser

open Listening.World Listening.World.Scripted Visit

/-- A call that leaves the browser open. -/
def KeepsOpen (call : Call) : Prop := call.name ≠ "quit"

section KeepsOpen

theorem showing_keepsOpen (view : Site → Showing) : CallsOnly KeepsOpen (showing view) :=
  CallsOnly.bind CallsOnly.world fun _ => CallsOnly.pure _

theorem attempt_keepsOpen (email password : Datum) :
    CallsOnly KeepsOpen (attempt email password) := by
  unfold attempt fill findField typeInto
  repeat' first
    | with_reducible exact CallsOnly.pure _
    | with_reducible exact CallsOnly.world
    | with_reducible exact CallsOnly.raise _ _
    | with_reducible exact CallsOnly.alter _
    | with_reducible exact showing_keepsOpen _
    | with_reducible apply CallsOnly.bind
    | with_reducible apply CallsOnly.call
    | split
    | with_reducible intro
  all_goals simp [KeepsOpen]

theorem attemptsFrom_keepsOpen (email password : Datum) (limit : Nat) :
    ∀ (number : Nat) (rest : List Nat),
      CallsOnly KeepsOpen (attemptsFrom email password limit number rest)
  | _, [] => CallsOnly.pure ()
  | number, _ :: later => by
    unfold attemptsFrom
    refine CallsOnly.bind (CallsOnly.say _) fun _ => ?_
    refine CallsOnly.bind (attempt_keepsOpen email password) fun left => ?_
    split
    · exact CallsOnly.say _
    · refine CallsOnly.bind (CallsOnly.say _) fun _ => ?_
      dsimp only
      split
      · exact CallsOnly.bind (CallsOnly.say _) fun _ =>
          attemptsFrom_keepsOpen email password limit (number + 1) later
      · exact CallsOnly.bind (CallsOnly.say _) fun _ =>
          attemptsFrom_keepsOpen email password limit (number + 1) later

theorem report_keepsOpen : CallsOnly KeepsOpen report := by
  unfold report notice
  repeat' first
    | with_reducible exact CallsOnly.pure _
    | with_reducible exact CallsOnly.world
    | with_reducible exact CallsOnly.say _
    | with_reducible exact showing_keepsOpen _
    | with_reducible apply CallsOnly.bind
    | with_reducible apply CallsOnly.forIn
    | with_reducible apply CallsOnly.call
    | with_reducible apply CallsOnly.ite
    | split
    | with_reducible intro
  all_goals simp [KeepsOpen]

theorem attemptLimit_keepsOpen (limit : Datum) : CallsOnly KeepsOpen (attemptLimit limit) := by
  unfold attemptLimit
  split
  · exact CallsOnly.pure _
  · exact CallsOnly.pure _
  · exact CallsOnly.raise _ _
  · exact CallsOnly.raise _ _
  · exact CallsOnly.raise _ _
  · exact CallsOnly.raise _ _

/-- What a sign-in does with the browser open never closes it. -/
theorem signInSteps_keepsOpen (email password limit : Datum) :
    CallsOnly KeepsOpen (signInSteps email password limit) := by
  unfold signInSteps
  refine CallsOnly.bind (CallsOnly.call (by simp [KeepsOpen])) fun _ => ?_
  refine CallsOnly.bind (attemptLimit_keepsOpen limit) fun limit => ?_
  exact CallsOnly.bind (attemptsFrom_keepsOpen email password _ 1 _) fun _ => report_keepsOpen

end KeepsOpen

/-- A sign-in opens the browser, runs its steps, closes the browser whatever they gave, and then
passes on their failure. -/
theorem runFrom_signIn (email password limit : Datum) (trace : Trace Window) :
    runFrom (signIn email password limit) trace =
      ((runFrom (signInSteps email password limit)
          { trace with calls := (trace.calls.push ⟨"Chrome", []⟩).push ⟨"maximize_window", []⟩ }).1,
        let after := (runFrom (signInSteps email password limit)
          { trace with calls := (trace.calls.push ⟨"Chrome", []⟩).push ⟨"maximize_window", []⟩ }).2
        { after with calls := after.calls.push ⟨"quit", []⟩ }) := by
  simp only [signIn, runFrom_bind, runFrom_call, runFrom_tryCatch]
  rcases runFrom (signInSteps email password limit)
    { trace with calls := (trace.calls.push ⟨"Chrome", []⟩).push ⟨"maximize_window", []⟩ }
    with ⟨result, after⟩
  cases result <;> rfl

/-- However a sign-in ends, the browser is closed exactly once, by the last call of the run. -/
theorem signIn_quits_last (email password limit : Datum) (start : Window) :
    ∃ before : List Call,
      (Scripted.execute (signIn email password limit) start).2.calls.toList =
        ⟨"Chrome", []⟩ :: ⟨"maximize_window", []⟩ :: before ++ [⟨"quit", []⟩] ∧
      ∀ call ∈ before, call.name ≠ "quit" := by
  obtain ⟨before, grown, kept⟩ := signInSteps_keepsOpen email password limit
    { calls := (#[].push ⟨"Chrome", []⟩).push ⟨"maximize_window", []⟩, world := start }
  refine ⟨before, ?_, kept⟩
  show (runFrom (signIn email password limit) { world := start }).2.calls.toList = _
  rw [runFrom_signIn]
  simp only [Array.toList_push]
  rw [grown]
  simp

section Attempts

/-- The form sendings that typing keys makes: one for each enter key of a text. -/
def sendings : Datum → Nat
  | .str text => text.toList.count enterKey
  | _ => 0

/-- The form sendings of one attempt: those typed with the address and with the password, and the
enter key after them. -/
def sendsPerAttempt (email password : Datum) : Nat :=
  sendings email + sendings password + 1

/-- The calls that fill a field afresh: find it, clear it, type into it. -/
def fillCalls (name : String) (keys : Datum) : List Call :=
  [⟨"find_element", [.str "name", .str name]⟩, ⟨"clear", [.str name]⟩,
    ⟨"send_keys", [.str name, keys]⟩]

/-- The calls of one attempt: both fields filled afresh, the enter key, the wait. -/
def attemptCalls (email password : Datum) : List Call :=
  fillCalls "email" email ++ fillCalls "password" password ++
    [⟨"send_keys", [.str "password", .str enterKey.toString]⟩, ⟨"sleep", [.int 5]⟩]

/-- The lookup of a notice. -/
def noticeCall (selector : String) : Call :=
  ⟨"find_element", [.str "xpath", .str selector]⟩

/-- The calls of the report: a lookup per notice selector, the screenshot and the last wait. -/
def reportCalls : List Call :=
  noticeSelectors.map noticeCall ++
    [⟨"save_screenshot", [.str screenshotPath]⟩, ⟨"sleep", [.int 3]⟩]

/-- A site on which the form can be filled in: both fields are found. -/
structure Cooperates (site : Site) : Prop where
  emailFound : Media.lookup site.broken "email" = none
  passwordFound : Media.lookup site.broken "password" = none

/-- Whether the page was left after `k` attempts that send the form `perAttempt` times each. -/
def leftAfter (title : Nat → String) (perAttempt k : Nat) : Bool :=
  !Media.holdsText (title (k * perAttempt)) "Sign in"

/-- How many attempts are made after `done` of them with `left` more allowed, when `leaves k` tells
whether the page was left after the `k`-th. -/
def attemptsMade (leaves : Nat → Bool) (done : Nat) : Nat → Nat
  | 0 => 0
  | left + 1 => if leaves (done + 1) then 1 else attemptsMade leaves (done + 1) left + 1

section Made

variable (leaves : Nat → Bool)

theorem attemptsMade_le : ∀ done left, attemptsMade leaves done left ≤ left
  | _, 0 => Nat.le_refl 0
  | done, left + 1 => by
    have inner := attemptsMade_le (done + 1) left
    unfold attemptsMade
    split <;> omega

/-- Every attempt before the last one made stayed on the sign-in page. -/
theorem stays_of_lt_attemptsMade :
    ∀ done left k, 0 < k → k < attemptsMade leaves done left → leaves (done + k) = false
  | _, 0, _, _, beyond => absurd beyond (Nat.not_lt_zero _)
  | done, left + 1, k, positive, before => by
    unfold attemptsMade at before
    split at before
    · omega
    · next stayed =>
      rcases Nat.lt_or_ge 1 k with later | first
      · have inner := stays_of_lt_attemptsMade (done + 1) left (k - 1) (by omega) (by omega)
        rwa [show done + 1 + (k - 1) = done + k by omega] at inner
      · rw [show k = 1 by omega]
        simpa using stayed

/-- The attempts stop at the limit, or at an attempt after which the page was left. -/
theorem attemptsMade_eq_or_leaves :
    ∀ done left, attemptsMade leaves done left = left ∨
      0 < attemptsMade leaves done left ∧ leaves (done + attemptsMade leaves done left) = true
  | _, 0 => .inl rfl
  | done, left + 1 => by
    unfold attemptsMade
    split
    · next leaving => exact .inr ⟨Nat.one_pos, leaving⟩
    · rcases attemptsMade_eq_or_leaves (done + 1) left with limit | ⟨_, leaving⟩
      · exact .inl (by omega)
      · refine .inr ⟨Nat.succ_pos _, ?_⟩
        rwa [show done + (attemptsMade leaves (done + 1) left + 1) =
          done + 1 + attemptsMade leaves (done + 1) left by omega]

end Made

theorem sendings_enterKey : sendings (.str enterKey.toString) = 1 := by
  simp [sendings, Char.toString, String.toList_singleton]

variable {site : Site}

theorem showing_makes (view : Site → Showing) (sent : Nat) :
    Makes (showing view) ⟨site, sent⟩ (.ok ((view site).after sent)) [] ⟨site, sent⟩ := by
  unfold showing
  refine Makes.calls_eq ?_ (List.append_nil [])
  exact Makes.bind (Makes.world _) (Makes.pure _ _)

theorem findField_makes {name : String} (found : Media.lookup site.broken name = none)
    (sent : Nat) :
    Makes (findField name) ⟨site, sent⟩ (.ok ()) [⟨"find_element", [.str "name", .str name]⟩]
      ⟨site, sent⟩ := by
  unfold findField
  refine Makes.calls_eq ?_ (List.append_nil [_])
  refine Makes.bind (Makes.call _ _ _) (Makes.calls_eq (Makes.bind (Makes.world _) ?_) rfl)
  simp only [found]
  exact Makes.pure _ _

theorem typeInto_makes (name : String) (keys : Datum) (sent : Nat) :
    Makes (typeInto name keys) ⟨site, sent⟩ (.ok ()) [⟨"send_keys", [.str name, keys]⟩]
      ⟨site, sent + sendings keys⟩ := by
  refine Makes.calls_eq ?_ (List.append_nil _)
  exact Makes.bind (Makes.call _ _ _) (Makes.alter _ _)

theorem fill_makes {name : String} (found : Media.lookup site.broken name = none) (keys : Datum)
    (sent : Nat) :
    Makes (fill name keys) ⟨site, sent⟩ (.ok ()) (fillCalls name keys) ⟨site, sent + sendings keys⟩ := by
  refine Makes.calls_eq ?_ rfl
  exact Makes.bind (findField_makes found sent)
    (Makes.bind (Makes.call _ _ _) (typeInto_makes name keys sent))

/-- One attempt on a cooperating site: its calls, the sendings it makes, and whether the title
read after them lacks `Sign in`. -/
theorem attempt_makes (cooperates : Cooperates site) (email password : Datum) (sent : Nat) :
    Makes (attempt email password) ⟨site, sent⟩
      (.ok (!Media.holdsText (site.titles.after (sent + sendsPerAttempt email password)) "Sign in"))
      (attemptCalls email password) ⟨site, sent + sendsPerAttempt email password⟩ := by
  have sending : sent + sendsPerAttempt email password =
      sent + sendings email + sendings password + sendings (.str enterKey.toString) := by
    rw [sendings_enterKey, sendsPerAttempt]
    omega
  rw [sending]
  unfold attempt
  apply Makes.calls_eq
  case makes =>
    exact Makes.bind (fill_makes cooperates.emailFound email sent)
      (Makes.bind (fill_makes cooperates.passwordFound password _)
      (Makes.bind (typeInto_makes "password" _ _)
      (Makes.bind (Makes.call _ _ _)
      (Makes.bind (showing_makes _ _)
      (Makes.bind (showing_makes _ _) (Makes.pure _ _))))))
  case same => simp [attemptCalls]

/-- The attempts from the one after the `done`-th on, when `rest` stands for those still allowed:
as many as `attemptsMade` counts, each with its calls and its sendings. -/
theorem attemptsFrom_makes (cooperates : Cooperates site) (email password : Datum)
    (limit : Nat) :
    ∀ (rest : List Nat) (done : Nat),
      Makes (attemptsFrom email password limit (done + 1) rest)
        ⟨site, done * sendsPerAttempt email password⟩ (.ok ())
        (List.replicate (attemptsMade (leftAfter site.titles.after (sendsPerAttempt email password)) done
          rest.length) (attemptCalls email password)).flatten
        ⟨site, (done + attemptsMade (leftAfter site.titles.after (sendsPerAttempt email password)) done
          rest.length) * sendsPerAttempt email password⟩
  | [], done => by
    simpa [attemptsFrom, attemptsMade] using Makes.pure ()
      (⟨site, done * sendsPerAttempt email password⟩ : Window)
  | _ :: later, done => by
    have tried := attempt_makes cooperates email password (done * sendsPerAttempt email password)
    rw [← Nat.add_one_mul] at tried
    unfold attemptsFrom
    simp only [List.length_cons, attemptsMade]
    by_cases leaving : leftAfter site.titles.after (sendsPerAttempt email password) (done + 1) = true
    · -- the page was left: this attempt is the last
      rw [if_pos leaving]
      apply Makes.calls_eq
      case makes =>
        apply Makes.bind (Makes.say _ _)
        apply Makes.bind tried
        unfold leftAfter at leaving
        rw [if_pos leaving]
        exact Makes.say _ _
      case same => simp
    · -- still on the sign-in page: the attempts go on from the next one
      rw [if_neg leaving, show done + (attemptsMade (leftAfter site.titles.after (sendsPerAttempt email password))
        (done + 1) later.length + 1) = done + 1 + attemptsMade (leftAfter site.titles.after
        (sendsPerAttempt email password)) (done + 1) later.length by omega]
      have going := attemptsFrom_makes cooperates email password limit later (done + 1)
      apply Makes.calls_eq
      case makes =>
        apply Makes.bind (Makes.say _ _)
        apply Makes.bind tried
        unfold leftAfter at leaving
        rw [if_neg leaving]
        apply Makes.bind (Makes.say _ _)
        split
        · exact Makes.bind (Makes.say _ _) going
        · exact Makes.bind (Makes.say _ _) going
      case same => simp [List.replicate_succ]

/-- Looking for a notice makes its lookup and tells the notice's text, if the page shows it. -/
theorem notice_makes (selector : String) (sent : Nat) :
    Makes (notice selector) ⟨site, sent⟩ (.ok (Media.lookup site.notices selector))
      [noticeCall selector] ⟨site, sent⟩ := by
  unfold notice
  apply Makes.calls_eq
  case makes => exact Makes.bind (Makes.call _ _ _) (Makes.bind (Makes.world _) (Makes.pure _ _))
  case same => rfl

/-- The report on a cooperating site makes its lookups, the screenshot and the last wait, and
leaves the window as it was. -/
theorem report_makes (sent : Nat) :
    Makes report ⟨site, sent⟩ (.ok ()) reportCalls ⟨site, sent⟩ := by
  unfold report
  apply Makes.calls_eq
  case makes =>
    apply Makes.bind (Makes.say _ _)
    apply Makes.bind (showing_makes _ sent)
    apply Makes.bind (Makes.say _ _)
    apply Makes.bind (showing_makes _ sent)
    apply Makes.bind (Makes.say _ _)
    apply Makes.bind (Makes.say _ _)
    apply Makes.bind (Makes.world _)
    apply Makes.bind (Makes.say _ _)
    apply Makes.bind (Makes.say _ _)
    dsimp only
    apply Makes.bind_some [⟨"save_screenshot", [.str screenshotPath]⟩, ⟨"sleep", [.int 3]⟩]
      (Makes.forIn (fun selector => [noticeCall selector]) ?pass noticeSelectors false)
    case pass =>
      intro selector found
      cases noticed : Media.lookup site.notices selector with
      | none =>
        refine ⟨found, ?_⟩
        apply Makes.calls_eq
        case makes =>
          apply Makes.bind (notice_makes selector sent)
          rw [noticed]
          exact Makes.pure _ _
        case same => rfl
      | some text =>
        refine ⟨true, ?_⟩
        apply Makes.calls_eq
        case makes =>
          apply Makes.bind (notice_makes selector sent)
          rw [noticed]
          exact Makes.bind (Makes.say _ _) (Makes.pure _ _)
        case same => rfl
    intro found
    -- the closing notice prints or not; the calls after it are the same
    split
    · apply Makes.calls_eq
      case makes =>
        exact Makes.bind (Makes.say _ _) (Makes.bind (Makes.call _ _ _)
          (Makes.bind (Makes.say _ _) (Makes.call _ _ _)))
      case same => rfl
    · apply Makes.calls_eq
      case makes => exact Makes.bind (Makes.call _ _ _) (Makes.bind (Makes.say _ _) (Makes.call _ _ _))
      case same => rfl
  case same => rfl

/-- With a whole-number limit on a cooperating site, the steps open the sign-in page, make the
attempts that `attemptsMade` counts and report. -/
theorem signInSteps_makes (cooperates : Cooperates site) (email password : Datum)
    (limit : Int) :
    Makes (signInSteps email password (.int limit)) ⟨site, 0⟩ (.ok ())
      (⟨"get", [.str signInPage]⟩ :: (List.replicate (attemptsMade (leftAfter site.titles.after
        (sendsPerAttempt email password)) 0 limit.toNat) (attemptCalls email password)).flatten ++
        reportCalls)
      ⟨site, attemptsMade (leftAfter site.titles.after (sendsPerAttempt email password)) 0 limit.toNat *
        sendsPerAttempt email password⟩ := by
  have attempts := attemptsFrom_makes cooperates email password limit.toNat
    (List.range limit.toNat) 0
  simp only [Nat.zero_mul, Nat.zero_add, List.length_range] at attempts
  unfold signInSteps
  apply Makes.calls_eq
  case makes =>
    exact Makes.bind (Makes.call _ _ _) (Makes.bind (Makes.pure limit _)
      (Makes.bind attempts (report_makes _)))
  case same => simp

/-- A sign-in with a whole-number limit on a cooperating site makes `n` attempts, where `n` is the
first attempt after which the title lacks `Sign in`, or the limit (none for a limit below one).
Each attempt finds, clears and fills both fields and sends the form; then come the report and
the closing of the browser. The title after `k` attempts is the one after `k` times the sendings
of an attempt. Whatever the limit and the site, the browser is closed exactly once, last. -/
theorem signIn_attempts_then_quits (email password : Datum) (limit : Int) (site : Site)
    (cooperates : Cooperates site) :
    (∃ attempts printed, attempts ≤ limit.toNat ∧
      (∀ k, 0 < k → k < attempts →
        Media.holdsText (site.titles.after (k * sendsPerAttempt email password)) "Sign in" = true) ∧
      (attempts = limit.toNat ∨ 0 < attempts ∧
        Media.holdsText (site.titles.after (attempts * sendsPerAttempt email password)) "Sign in" =
          false) ∧
      Scripted.execute (signIn email password (.int limit)) { site := site } =
        (.ok (), { calls := ((⟨"Chrome", []⟩ : Call) :: ⟨"maximize_window", []⟩ ::
                     ⟨"get", [.str signInPage]⟩ ::
                     (List.replicate attempts (attemptCalls email password)).flatten ++
                     reportCalls ++ [(⟨"quit", []⟩ : Call)]).toArray,
                   printed := printed,
                   world := { site := site, sent := attempts * sendsPerAttempt email password } })) ∧
    ∀ (anyLimit : Datum) (start : Window), ∃ before : List Call,
      (Scripted.execute (signIn email password anyLimit) start).2.calls.toList =
        ⟨"Chrome", []⟩ :: ⟨"maximize_window", []⟩ :: before ++ [⟨"quit", []⟩] ∧
      ∀ call ∈ before, call.name ≠ "quit" := by
  refine ⟨?_, signIn_quits_last email password⟩
  let opened : Trace Window := { ({ world := { site := site } } : Trace Window) with
    calls := (#[].push ⟨"Chrome", []⟩).push ⟨"maximize_window", []⟩ }
  obtain ⟨printed, ran⟩ := signInSteps_makes cooperates email password limit opened rfl
  have bounded :=
    attemptsMade_le (leftAfter site.titles.after (sendsPerAttempt email password)) 0 limit.toNat
  refine ⟨_, printed, bounded, ?_, ?_, ?_⟩
  · intro k positive before
    have stayed := stays_of_lt_attemptsMade _ 0 _ k positive before
    simpa [leftAfter] using stayed
  · rcases attemptsMade_eq_or_leaves (leftAfter site.titles.after (sendsPerAttempt email password)) 0
      limit.toNat with limited | ⟨positive, leaving⟩
    · exact .inl limited
    · refine .inr ⟨positive, ?_⟩
      simpa [leftAfter] using leaving
  · show runFrom (signIn email password (.int limit)) { world := { site := site } } = _
    rw [runFrom_signIn, ran]
    simp only [Prod.mk.injEq, Trace.mk.injEq, true_and, and_true]
    rw [← Array.toList_inj]
    simp [opened]

/-- On a site whose title leaves the sign-in page at the third sending, a limit of five makes
three attempts. -/
theorem signIn_leaves_at_third_attempt :
    Cooperates { titles := .bySending "Brandwatch | Sign in" ["Brandwatch | Sign in", "Home"] } ∧
      ∃ printed, Scripted.execute (signIn (.str "x") (.str "y") (.int 5))
          { site := { titles := .bySending "Brandwatch | Sign in" ["Brandwatch | Sign in", "Home"] } } =
        (.ok (), { calls := ((⟨"Chrome", []⟩ : Call) :: ⟨"maximize_window", []⟩ ::
                     ⟨"get", [.str signInPage]⟩ ::
                     (List.replicate 3 (attemptCalls (.str "x") (.str "y"))).flatten ++
                     reportCalls ++ [(⟨"quit", []⟩ : Call)]).toArray,
                   printed := printed,
                   world := { site := { titles :=
                                          .bySending "Brandwatch | Sign in" ["Brandwatch | Sign in", "Home"] },
                              sent := 3 } }) := by
  have cooperates : Cooperates
      { titles := .bySending "Brandwatch | Sign in" ["Brandwatch | Sign in", "Home"] } :=
    ⟨rfl, rfl⟩
  refine ⟨cooperates, ?_⟩
  obtain ⟨⟨attempts, printed, _, stayed, ended, ran⟩, -⟩ :=
    signIn_attempts_then_quits (.str "x") (.str "y") 5 _ cooperates
  have single : sendsPerAttempt (.str "x") (.str "y") = 1 := by decide
  rw [single] at stayed ended ran
  -- the third attempt leaves the page, so the attempts neither stop before it nor go past it
  have three : attempts = 3 := by
    rcases Nat.lt_or_ge attempts 3 with early | late
    · rcases ended with limited | ⟨positive, leaving⟩
      · simp at limited
        omega
      · rcases attempts with _ | _ | _ | _
        · omega
        · exact absurd leaving (by decide)
        · exact absurd leaving (by decide)
        · omega
    · rcases Nat.lt_or_ge 3 attempts with beyond | _
      · exact absurd (stayed 3 (by decide) beyond) (by decide)
      · omega
  subst three
  exact ⟨printed, ran⟩

/-- A float limit stops a sign-in before any attempt, with the error of a float where a whole
number is needed; the browser is still closed, last. -/
theorem float_limit_refused :
    Scripted.execute (signIn (.str "x") (.str "y") (.float 2.0)) {} =
      (.error (.raised .wrongShape "'float' object cannot be interpreted as an integer"),
        { calls := #[⟨"Chrome", []⟩, ⟨"maximize_window", []⟩, ⟨"get", [.str signInPage]⟩,
            ⟨"quit", []⟩], world := {} }) :=
  rfl

end Attempts

end Listening.Browser
