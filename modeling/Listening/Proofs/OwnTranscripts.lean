import Listening.Proofs.VisitSteps

/-!
# Each link keeps its own transcripts

A run hands each visit the transcripts of the last transcribed link, and one kind of link reads
them: a link of the captions service whose video has captions (`Scene.captioned`) is given those
transcripts instead of its own. Every other visit does the same whatever it is handed
(`find_uncaptioned`, `visit_alone`). So when no link of a run is captioned, the run is the run in
which every link is gone through on its own (`process_alone`), and the transcripts gathered under
a link are those of its own videos. A captioned link after a transcribed one shows the other
side: it gets the earlier link's transcripts and never its captions
(`captioned_link_gets_earlier_transcripts`).

That the scene stays as it is, so that a link captioned at the start is captioned when its turn
comes, is the invariant `Studio.sceneFixed`: every step of a visit only prints, calls the
services, draws, or changes the file system, the refusal counts, the transcripts and the record of
removed folders.
-/

namespace Listening.Media

open Listening.World Listening.World.Scripted Listening.Media.Session

/-- Changes that leave the scene as it is: the services answer the same throughout a run. -/
def Studio.sceneFixed : Change Studio where
  allows before after := after.scene = before.scene
  refl _ := rfl
  trans first second := second.trans first

section SceneFixed

/-- Keeping the scene allows every step of a visit but deleting a folder. -/
theorem Studio.sceneFixed_tolerates : Studio.Tolerates Studio.sceneFixed :=
  ⟨fun _ _ => rfl, fun _ _ => rfl, fun _ _ => rfl, fun _ _ _ => rfl⟩

theorem safeDelete_sceneFixed (target : Datum) : Within Studio.sceneFixed (safeDelete target) := by
  unfold safeDelete removeTree Session.disk
  repeat' first
    | with_reducible exact Within.pure _
    | with_reducible exact Within.world
    | with_reducible exact Within.say _
    | with_reducible exact Within.throw _
    | with_reducible exact Within.raise _ _
    | with_reducible exact Studio.sceneFixed_tolerates.onDisk Disk.removeFolder_home
    | with_reducible apply Within.alter
    | with_reducible apply Within.bind
    | split
    | rfl
    | with_reducible intro

theorem transcribeAll_sceneFixed (videos : List Datum) (folder : Datum) :
    Within Studio.sceneFixed (transcribeAll videos folder) := by
  unfold transcribeAll
  dsimp only
  repeat' first
    | with_reducible exact Within.pure _
    | with_reducible exact Studio.sceneFixed_tolerates.transcribeOne _ _
    | with_reducible exact safeDelete_sceneFixed _
    | with_reducible apply Within.bind
    | with_reducible apply Within.forIn
    | split
    | with_reducible intro

/-- A visit leaves the scene as it is. -/
theorem visit_sceneFixed (run : Transcriber) (count : Number) (previous : Option Transcripts)
    (link : String) : Within Studio.sceneFixed (run.visit count previous link) := by
  unfold Transcriber.visit
  repeat' first
    | with_reducible exact Within.pure _
    | with_reducible exact Within.say _
    | with_reducible exact Studio.sceneFixed_tolerates.backOff _
    | with_reducible exact Studio.sceneFixed_tolerates.find _ _ _
    | with_reducible exact transcribeAll_sceneFixed _ _
    | with_reducible apply Within.alter
    | with_reducible apply Within.bind
    | split
    | rfl
    | with_reducible intro

end SceneFixed

/-- Whether a link is one of the captions service whose video has captions in a scene: a run
gives such a link the transcripts of the last transcribed link before it. -/
def Scene.captioned (scene : Scene) (link : String) : Bool :=
  !holdsText link "instagram.com" && !holdsText link "tiktok.com" && holdsText link "youtube.com" &&
    ((videoId? link).bind (lookup scene.captions)).isSome

/-- What a link gives does not depend on the transcripts handed in, unless it is captioned. -/
theorem find_uncaptioned (run : Transcriber) (previous : Option Transcripts) (link : String)
    (trace : Trace Studio) (uncaptioned : trace.world.scene.captioned link = false) :
    runFrom (run.find previous link) trace = runFrom (run.find none link) trace := by
  unfold Transcriber.find
  split
  · rfl
  split
  · rfl
  split
  · next notInstagram notTiktok youtube =>
    -- only the captions service reads the transcripts handed in, and only for a video with captions
    cases found : videoId? link with
    | none => simp [showVideoId, found, runFrom_bind]
    | some id =>
      have noCaptions : lookup trace.world.scene.captions id = none := by
        simpa [Scene.captioned, notInstagram, notTiktok, youtube, found] using uncaptioned
      simp [showVideoId, found, runFrom_bind, Session.scene, noCaptions]
  · rfl

/-- Two runs have the same effect when they leave the same trace and end alike: both finish,
with whatever values, or both stop the same way. -/
def SameEffect {α β : Type} (first : Except Stop α × Trace Studio)
    (second : Except Stop β × Trace Studio) : Prop :=
  first.1.map (fun _ => ()) = second.1.map (fun _ => ()) ∧ first.2 = second.2

namespace SameEffect

variable {α β γ δ : Type}

/-- Runs with the same effect both stop the same way or both finish, in the same trace. -/
theorem cases {first : Except Stop α × Trace Studio} {second : Except Stop β × Trace Studio}
    (same : SameEffect first second) :
    (∃ stop after, first = (.error stop, after) ∧ second = (.error stop, after)) ∨
      ∃ a b after, first = (.ok a, after) ∧ second = (.ok b, after) := by
  rcases first with ⟨firstEnd, after⟩
  rcases second with ⟨secondEnd, afterSecond⟩
  obtain ⟨sameEnd, sameTrace⟩ := same
  dsimp only at sameTrace
  subst sameTrace
  cases firstEnd <;> cases secondEnd <;> simp_all [Except.map]

/-- Scripts with the same effect, each followed by steps with the same effect from where they
finish, have the same effect. -/
theorem bind {x : Session α} {y : Session β} {f : α → Session γ} {g : β → Session δ}
    {trace : Trace Studio} (first : SameEffect (runFrom x trace) (runFrom y trace))
    (rest : ∀ a b after, runFrom x trace = (.ok a, after) → runFrom y trace = (.ok b, after) →
      SameEffect (runFrom (f a) after) (runFrom (g b) after)) :
    SameEffect (runFrom (x >>= f) trace) (runFrom (y >>= g) trace) := by
  rw [runFrom_bind, runFrom_bind]
  rcases first.cases with ⟨stop, after, stopped, stoppedToo⟩ | ⟨a, b, after, ran, ranToo⟩
  · rw [stopped, stoppedToo]
    exact ⟨rfl, rfl⟩
  · rw [ran, ranToo]
    exact rest a b after ran ranToo

/-- Scripts with the same effect, followed by one step that ignores their values, run alike. -/
theorem runFrom_seq {x : Session α} {y : Session β} (next : Session γ) {trace : Trace Studio}
    (same : SameEffect (runFrom x trace) (runFrom y trace)) :
    runFrom (x >>= fun _ => next) trace = runFrom (y >>= fun _ => next) trace := by
  rw [runFrom_bind, runFrom_bind]
  rcases same.cases with ⟨stop, after, stopped, stoppedToo⟩ | ⟨a, b, after, ran, ranToo⟩
  · rw [stopped, stoppedToo]
  · rw [ran, ranToo]

end SameEffect

/-- The run in which every link is gone through on its own: no visit is handed the transcripts
of a link before it. -/
def Transcriber.processAlone (run : Transcriber) : Session (List (String × Transcripts)) := do
  let _ ← run.links.foldlM (fun _ link => run.visit (Number.whole run.links.length) none link) none
  return (← world).gathered

/-- A visit of a link that is not captioned has the same effect whatever transcripts it is
handed; only what it hands on differs. -/
theorem visit_alone (run : Transcriber) (count : Number) (previous : Option Transcripts)
    (link : String) (trace : Trace Studio) (uncaptioned : trace.world.scene.captioned link = false) :
    SameEffect (runFrom (run.visit count previous link) trace)
      (runFrom (run.visit count none link) trace) := by
  simp only [Transcriber.visit, runFrom_bind]
  rcases waited : runFrom (Transcriber.backOff count) trace with ⟨waitedEnd, afterWait⟩
  have sameScene : afterWait.world.scene = trace.world.scene :=
    (Studio.sceneFixed_tolerates.backOff count).allows_after waited
  cases waitedEnd with
  | error stop => exact ⟨rfl, rfl⟩
  | ok _ =>
    simp only [runFrom_say]
    rw [find_uncaptioned run previous link _ (by simpa [sameScene] using uncaptioned)]
    rcases looked : runFrom (run.find none link) _ with ⟨foundEnd, afterFind⟩
    cases foundEnd with
    | error stop => exact ⟨rfl, rfl⟩
    | ok found =>
      cases found with
      | done => exact ⟨rfl, rfl⟩
      | videos videos folder =>
        simp only
        split
        · simp [SameEffect, runFrom_map, Except.map]
        · exact ⟨rfl, rfl⟩

/-- A run of visits has the same effect as one in which no visit is handed earlier transcripts,
as long as no link is captioned. The scene, which says which links are, stays as it is. -/
theorem foldlM_visit_alone (run : Transcriber) (count : Number) :
    ∀ (links : List String) (previous other : Option Transcripts) (trace : Trace Studio),
      (∀ link ∈ links, trace.world.scene.captioned link = false) →
      SameEffect (runFrom (links.foldlM (run.visit count) previous) trace)
        (runFrom (links.foldlM (fun _ link => run.visit count none link) other) trace)
  | [], _, _, _, _ => ⟨rfl, rfl⟩
  | link :: links, previous, other, trace, uncaptioned => by
    simp only [List.foldlM_cons]
    refine (visit_alone run count previous link trace (uncaptioned link List.mem_cons_self)).bind
      fun _ _ after visited _ => ?_
    -- the scene, which says which links are captioned, is the one the run started from
    have sameScene : after.world.scene = trace.world.scene :=
      (visit_sceneFixed run count previous link).allows_after visited
    exact foldlM_visit_alone run count links _ _ after fun next member => by
      simpa [sameScene] using uncaptioned next (List.mem_cons_of_mem link member)

/-- When no link of a run is captioned, the run is the run in which every link is gone through
on its own: the transcripts gathered under each link are those of its own videos, never those of
a link before it. -/
theorem process_alone (run : Transcriber) (studio : Studio)
    (uncaptioned : ∀ link ∈ run.links, studio.scene.captioned link = false) :
    execute run.process studio = execute run.processAlone studio := by
  show runFrom run.process { world := studio } = runFrom run.processAlone { world := studio }
  unfold Transcriber.process Transcriber.processAlone
  exact SameEffect.runFrom_seq _ (foldlM_visit_alone run _ run.links none none _ uncaptioned)

theorem process_alone_of_clip_and_post :
    (∀ link ∈ ["https://www.tiktok.com/@u/video/1", "https://www.instagram.com/p/CODE/"],
        ({} : Studio).scene.captioned link = false) ∧
      execute ({ links := ["https://www.tiktok.com/@u/video/1",
          "https://www.instagram.com/p/CODE/"] } : Transcriber).process {} =
        execute ({ links := ["https://www.tiktok.com/@u/video/1",
          "https://www.instagram.com/p/CODE/"] } : Transcriber).processAlone {} :=
  have uncaptioned : ∀ link ∈ ["https://www.tiktok.com/@u/video/1", "https://www.instagram.com/p/CODE/"],
      ({} : Studio).scene.captioned link = false := by decide +kernel
  ⟨uncaptioned, process_alone _ _ uncaptioned⟩

/-- A captioned link after a transcribed one is given the earlier link's transcripts: with a
clip transcribed first, the link of the captions service gathers the clip's transcript and never
its own captions. -/
theorem captioned_link_gets_earlier_transcripts :
    (execute ({ links := ["https://www.tiktok.com/@u/video/1",
        "https://www.youtube.com/watch?v=VID2"] } : Transcriber).process
      { scene := { speech := [("./first_0.mp3", [" From the clip."])],
                   clips := [("https://www.tiktok.com/@u/video/1", { title := some (.str "first") })],
                   captions := [("VID2", ["Own caption line."])] } }).1.toOption =
      some [("https://www.tiktok.com/@u/video/1", [("video_0", " From the clip.")]),
        ("https://www.youtube.com/watch?v=VID2", [("video_0", " From the clip.")])] := by
  decide +kernel

end Listening.Media
