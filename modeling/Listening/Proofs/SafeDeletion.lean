import Listening.Proofs.OwnTranscripts
import Listening.Proofs.Paths

/-!
# Deleting download folders stays below the working directory

After transcribing a link's videos, a run deletes their download folder with everything in it:
the post's short code, read off the link, or the folder of the clip's file. The deletion skips
only the spellings `.` and `/`; otherwise it removes whatever the path leads to, and the run
records that place (`Studio.removed`).

When every clip of a run is saved under a name that goes down (a first name of its own, never
`..`) and no post's short code is `..`, every folder the run removes lies strictly below its
working directory: never the working directory itself, the root, or a folder above it
(`process_removes_only_below_home`). Two facts carry the proof. Every step of a visit but the
deletion stays within the change `Studio.removesBelowHome`, which tolerates them; and the folder a
visit deletes leads down, a fact about the result of finding what a link gives (`find_yields`),
carried from one step to the next by `Yields`.

Without the conditions the run removes what it must not: a clip titled `./x` is saved as
`././x.mp4`, whose folder `./.` is the working directory, and the run empties it
(`clip_title_removes_working_directory`).
-/

namespace Listening.Media

open Listening.World Listening.World.Scripted Listening.Media.Session

/-- Whether deleting a download folder by this value removes only below the working directory: a
path spelled `.` or `/` is skipped, an empty one names no folder, and any other must lead down. A
value that is not a path removes nothing. -/
def deletesBelow : Datum → Bool
  | .str path => path == "." || path == "/" || path == "" || leadsDown path
  | _ => true

/-- Whether the folder of what a link gives is one deleted only below the working directory. -/
def Found.deletesBelow : Found → Bool
  | .videos _ folder => Media.deletesBelow folder
  | .done => true

/-- Whether the clip of each of a run's links is saved under a name that goes down. -/
def Scene.clipsGoDown (scene : Scene) (links : List String) : Prop :=
  ∀ link ∈ links, goesDown (scene.clipOf (.str link)).reportedName = true

instance (scene : Scene) (links : List String) : Decidable (scene.clipsGoDown links) :=
  inferInstanceAs (Decidable (∀ link ∈ links, _))

/-- Changes that, in a scene whose clips go down, keep the scene and the working directory and
remove only folders strictly below the working directory. -/
def Studio.removesBelowHome (links : List String) : Change Studio where
  allows before after := before.scene.clipsGoDown links →
    after.scene = before.scene ∧ after.disk.home = before.disk.home ∧
      ∀ place ∈ after.removed, place ∈ before.removed ∨ Below before.disk.home place
  refl _ _ := ⟨rfl, rfl, fun _ member => .inl member⟩
  trans firstStep secondStep fair := by
    obtain ⟨sameScene, sameHome, removedFirst⟩ := firstStep fair
    obtain ⟨sameScene', sameHome', removedSecond⟩ := secondStep (sameScene ▸ fair)
    refine ⟨sameScene'.trans sameScene, sameHome'.trans sameHome, fun place member => ?_⟩
    rcases removedSecond place member with earlier | below
    · exact removedFirst place earlier
    · exact .inr (sameHome ▸ below)

theorem Studio.removesBelowHome_tolerates (links : List String) :
    Studio.Tolerates (Studio.removesBelowHome links) where
  draws _ _ _ := ⟨rfl, rfl, fun _ member => .inl member⟩
  refused _ _ _ := ⟨rfl, rfl, fun _ member => .inl member⟩
  gathered _ _ _ := ⟨rfl, rfl, fun _ member => .inl member⟩
  entries _ _ sameHome _ := ⟨rfl, sameHome, fun _ member => .inl member⟩

section Deleting

variable {links : List String}

/-- Removing a folder whose path leads down removes a folder strictly below the working
directory. -/
theorem removeTree_below {path : String} (down : leadsDown path = true) :
    Within (Studio.removesBelowHome links) (removeTree path) := by
  intro trace
  simp only [removeTree, Session.disk, runFrom_bind, runFrom_world, runFrom_pure]
  split
  · exact (Studio.removesBelowHome links).refl _
  · next place resolved =>
    have below := resolve_below down resolved
    simp only [runFrom_bind, runFrom_alter]
    -- the folder is recorded and emptied, then removed with the working directory in place
    have removing := @Studio.Tolerates.onDisk _ (Studio.removesBelowHome_tolerates links)
      (fun disk => disk.removeFolder path) (fun removed => Disk.removeFolder_home removed)
      { trace with world := { trace.world with disk := trace.world.disk.clearUnder place,
                                               removed := trace.world.removed ++ [place] } }
    refine (Studio.removesBelowHome links).trans (fun _ => ?_) removing
    refine ⟨rfl, rfl, fun other member => ?_⟩
    simp only [List.mem_append, List.mem_singleton] at member
    rcases member with earlier | recorded
    · exact .inl earlier
    · exact .inr (recorded ▸ below)

theorem safeDelete_below {folder : Datum} (deletes : deletesBelow folder = true) :
    Within (Studio.removesBelowHome links) (safeDelete folder) := by
  unfold safeDelete Session.disk
  split
  · next path =>
    refine Within.bind (Within.bind Within.world fun _ => Within.pure _) fun disk => ?_
    split
    · next folderThere =>
      split
      · exact Within.say _
      · next spelledOut =>
        -- a path other than `.` and `/` that names a folder is not empty, so it leads down
        have notEmpty : path ≠ "" := by
          rintro rfl
          simp [Disk.isFolder, Disk.entryAt?] at folderThere
        simp only [Bool.or_eq_true, decide_eq_true_eq, not_or] at spelledOut
        have down : leadsDown path = true := by
          simpa [deletesBelow, spelledOut.1, spelledOut.2, notEmpty] using deletes
        exact Within.bind (removeTree_below down) fun _ => Within.say _
    · exact Within.say _
  -- a value that is not a path is only reported, or refused
  all_goals
    repeat' first
      | with_reducible exact Within.say _
      | with_reducible exact Within.raise _ _
      | split

theorem transcribeAll_below (videos : List Datum) {folder : Datum}
    (deletes : deletesBelow folder = true) :
    Within (Studio.removesBelowHome links) (transcribeAll videos folder) := by
  unfold transcribeAll
  dsimp only
  repeat' first
    | with_reducible exact Within.pure _
    | with_reducible exact (Studio.removesBelowHome_tolerates links).transcribeOne _ _
    | with_reducible exact safeDelete_below deletes
    | with_reducible apply Within.bind
    | with_reducible apply Within.forIn
    | split
    | with_reducible intro

end Deleting

/-- Every run of a script that finishes gives a result of which `good` holds, in the scene of the
state it started from. -/
def Yields {α : Type} (good : Scene → α → Prop) (script : Session α) : Prop :=
  ∀ trace a after, runFrom script trace = (.ok a, after) → good trace.world.scene a

namespace Yields

variable {α β : Type} {good : Scene → β → Prop}

theorem pure {a : β} (holds : ∀ scene, good scene a) : Yields good (Pure.pure a) := by
  intro trace b after ran
  simp only [runFrom_pure, Prod.mk.injEq, Except.ok.injEq] at ran
  exact ran.1 ▸ holds _

theorem raise (failure : Failure) (message : String) :
    Yields good (Scripted.raise failure message : Session β) := by
  intro trace b after ran
  simp at ran

theorem throw (stop : Stop) : Yields good (MonadExcept.throw stop : Session β) := by
  intro trace b after ran
  simp at ran

theorem raise_bind {α : Type} (failure : Failure) (message : String) (rest : α → Session β) :
    Yields good (Scripted.raise failure message >>= rest) := by
  intro trace b after ran
  simp [runFrom_bind] at ran

theorem throw_bind {α : Type} (stop : Stop) (rest : α → Session β) :
    Yields good (MonadExcept.throw stop >>= rest) := by
  intro trace b after ran
  simp at ran

/-- The rest of a script is given a result of its first part, from a state in the same scene. -/
theorem bind {x : Session α} {f : α → Session β} {first : Scene → α → Prop}
    (yields : Yields first x) (fixed : Within Studio.sceneFixed x)
    (rest : ∀ a, Yields (fun scene b => first scene a → good scene b) (f a)) :
    Yields good (x >>= f) := by
  intro trace b after ran
  rw [runFrom_bind] at ran
  rcases firstRan : runFrom x trace with ⟨result, middle⟩
  rw [firstRan] at ran
  cases result with
  | ok a =>
    have sameScene : middle.world.scene = trace.world.scene := fixed.allows_after firstRan
    exact sameScene ▸ rest a middle b after ran (sameScene ▸ yields trace a middle firstRan)
  | error stop => cases ran

theorem seq {x : Session α} {f : α → Session β} (fixed : Within Studio.sceneFixed x)
    (rest : ∀ a, Yields good (f a)) : Yields good (x >>= f) :=
  @bind α β good x f (fun _ _ => True) (fun _ _ _ _ => trivial) fixed fun a trace b after ran _ =>
    rest a trace b after ran

/-- Reading the scene gives the scene. -/
theorem scene : Yields (fun scene read => read = scene) Session.scene := by
  intro trace read after ran
  simp only [Session.scene, runFrom_bind, runFrom_world, runFrom_pure, Prod.mk.injEq,
    Except.ok.injEq] at ran
  exact ran.1.symm

theorem tryCatch {x : Session β} {handler : Stop → Session β} (yields : Yields good x)
    (fixed : Within Studio.sceneFixed x) (rest : ∀ stop, Yields good (handler stop)) :
    Yields good (tryCatch x handler) := by
  intro trace b after ran
  rw [runFrom_tryCatch] at ran
  rcases firstRan : runFrom x trace with ⟨result, middle⟩
  rw [firstRan] at ran
  cases result with
  | ok a =>
    simp only [Prod.mk.injEq, Except.ok.injEq] at ran
    exact ran.1 ▸ yields trace a middle firstRan
  | error stop =>
    have sameScene : middle.world.scene = trace.world.scene := fixed.allows_after firstRan
    exact sameScene ▸ rest stop middle b after ran

end Yields

/-- A script that gives results good in every scene whose clips go down, followed by one that
stays within the change for each such result, stays within the change. -/
theorem removesBelowHome_bind {links : List String} {α β : Type} {x : Session α}
    {f : α → Session β} {good : Scene → α → Prop}
    (first : Within (Studio.removesBelowHome links) x) (yields : Yields good x)
    (rest : ∀ a scene, scene.clipsGoDown links → good scene a →
      Within (Studio.removesBelowHome links) (f a)) :
    Within (Studio.removesBelowHome links) (x >>= f) := by
  intro trace fair
  rw [runFrom_bind]
  rcases firstRan : runFrom x trace with ⟨result, middle⟩
  have kept := first.allows_after firstRan
  cases result with
  | ok a =>
    exact (Studio.removesBelowHome links).trans kept
      (rest a _ fair (yields trace a middle firstRan) middle) fair
  | error stop => exact kept fair

section Found

/-- A clip download gives, if anything, the path of the file under the name the service
reports. -/
theorem fetchClip_yields (link : Datum) (folder : String) :
    Yields (fun scene path => ∀ saved, path = some saved →
      saved = joinPath folder (scene.clipOf link).reportedName) (fetchClip link folder) := by
  unfold fetchClip
  refine Yields.seq (Within.call _ _) fun _ => Yields.seq (Within.call _ _) fun _ => ?_
  refine Yields.bind Yields.scene (Within.bind Within.world fun _ => Within.pure _) fun read => ?_
  unfold Session.disk
  dsimp only
  -- every path given is built from the clip read
  repeat' first
    | with_reducible exact Yields.raise _ _
    | with_reducible exact Yields.pure fun _ same _ found => by subst same; cases found <;> rfl
    | with_reducible exact Within.pure _
    | with_reducible exact Within.world
    | with_reducible exact Within.say _
    | with_reducible exact Within.raise _ _
    | with_reducible exact Studio.sceneFixed_tolerates.onDisk Disk.makeFolders_home
    | with_reducible exact Studio.sceneFixed_tolerates.onDisk Disk.writeFile_home
    | with_reducible apply Yields.seq
    | with_reducible apply Within.bind
    | split
    | with_reducible intro

/-- A post download gives, if any folder, the short code read off the link. -/
theorem fetchPost_yields (run : Transcriber) (text : String) :
    Yields (fun _ result => ∀ code, result.2 = some code → itemAt? (pathNames text) (-2) = some code)
      (run.fetchPost (.str text)) := by
  unfold Transcriber.fetchPost Session.disk Session.scene
  dsimp only
  simp only [pure_bind]
  -- every folder given is the short code the link was split into
  repeat' first
    | with_reducible exact Yields.raise _ _
    | with_reducible exact Yields.throw _
    | with_reducible exact Yields.raise_bind _ _ _
    | with_reducible exact Yields.throw_bind _ _
    | with_reducible exact Yields.pure fun _ _ found => by cases found <;> assumption
    | with_reducible exact Within.pure _
    | with_reducible exact Within.world
    | with_reducible exact Within.say _
    | with_reducible exact Within.call _ _
    | with_reducible exact Within.raise _ _
    | with_reducible exact Within.throw _
    | with_reducible exact
        Studio.sceneFixed_tolerates.retry run (Studio.sceneFixed_tolerates.downloadPost _ _)
    | with_reducible apply Yields.tryCatch
    | with_reducible apply Yields.seq
    | with_reducible apply Within.bind
    | split
    | with_reducible intro

/-- A name read off a link, other than `..`, is a folder deleted only below the working
directory. -/
theorem deletesBelow_of_mem_pathNames {path code : String} (member : code ∈ pathNames path)
    (notUp : code ≠ "..") : deletesBelow (.str code) = true := by
  by_cases dots : isDots code = true
  · -- an empty code names no folder, and `.` is skipped
    simp only [isDots, notUp, Bool.or_eq_true, beq_iff_eq, or_false] at dots
    rcases dots with empty | dot
    · simp [deletesBelow, empty]
    · simp [deletesBelow, dot]
  · simp [deletesBelow, leadsDown_of_mem_pathNames member (Bool.eq_false_iff.mpr dots)]

/-- The folder of a clip saved in `.` under a name that goes down is deleted only below the
working directory. -/
theorem deletesBelow_clipFolder {name : String} (down : goesDown name = true) :
    deletesBelow (.str (folderOf (joinPath "." name))) = true := by
  have joined : joinPath "." name = "./" ++ name := by
    have notEnds : ".".endsWith "/" = false := by decide +kernel
    simp [joinPath, goesDown_relative down, notEnds]
  rw [joined]
  by_cases dot : folderOf ("./" ++ name) = "."
  · simp [deletesBelow, dot]
  · simp [deletesBelow, leadsDown_folderOf_dotSlash down dot]

/-- Downloading a link's clip into `.` yields a folder deleted only below the working directory,
when the clip is saved under a name that goes down. -/
theorem savedClip_yields (link : String) :
    Yields (fun scene found => goesDown (scene.clipOf (.str link)).reportedName = true →
      Found.deletesBelow found = true)
      (fetchClip (.str link) "." >>= fun path =>
        let (videos, folder) := clipVideos path
        pure (Found.videos videos folder)) := by
  refine Yields.bind (fetchClip_yields _ _) (Studio.sceneFixed_tolerates.fetchClip _ _)
    fun path => ?_
  cases path with
  | none => exact Yields.pure fun _ _ _ => rfl
  | some saved =>
    exact Yields.pure fun _ savedIs down => (savedIs saved rfl) ▸ deletesBelow_clipFolder down

/-- Finding what a link gives yields a folder deleted only below the working directory, when the
link's clip is saved under a name that goes down and a post's short code is not `..`. -/
theorem find_yields (run : Transcriber) (previous : Option Transcripts) (link : String)
    (posts : holdsText link "instagram.com" = true → itemAt? (pathNames link) (-2) ≠ some "..") :
    Yields (fun scene found => goesDown (scene.clipOf (.str link)).reportedName = true →
      found.deletesBelow = true) (run.find previous link) := by
  unfold Transcriber.find
  split
  · next instagram =>
    refine Yields.bind (fetchPost_yields run link) (Studio.sceneFixed_tolerates.fetchPost run _)
      fun ⟨videos, code⟩ => Yields.pure fun _ named _ => ?_
    cases code with
    | none => rfl
    | some code =>
      have found := named code rfl
      exact deletesBelow_of_mem_pathNames (itemAt?_mem found)
        (fun up => posts instagram (up ▸ found))
  · split
    · exact savedClip_yields link
    · split
      · -- a link of the captions service: earlier transcripts, or a clip saved in `.`
        refine Yields.seq (showVideoId_within _) fun _ => Yields.seq (Within.call _ _) fun _ => ?_
        refine Yields.seq (Within.bind Within.world fun _ => Within.pure _) fun _ => ?_
        split
        · exact Yields.seq (Within.alter fun _ => rfl) fun _ => Yields.pure fun _ _ => rfl
        · exact savedClip_yields link
      · exact Yields.seq (Within.say _) fun _ => Yields.pure fun _ _ => rfl

end Found

section Run

variable {links : List String}

/-- A visit of one of a run's links removes only folders below the working directory, when its
short code is not `..`. -/
theorem visit_below (run : Transcriber) (count : Number) (previous : Option Transcripts)
    {link : String} (listed : link ∈ links)
    (posts : holdsText link "instagram.com" = true → itemAt? (pathNames link) (-2) ≠ some "..") :
    Within (Studio.removesBelowHome links) (run.visit count previous link) := by
  have tolerant := Studio.removesBelowHome_tolerates links
  unfold Transcriber.visit
  refine Within.bind (tolerant.backOff count) fun _ => Within.bind (Within.say _) fun _ => ?_
  refine removesBelowHome_bind (tolerant.find run previous link)
    (find_yields run previous link posts) fun found scene fair good => ?_
  -- the folder the link gives is one deleted only below the working directory
  have deletes := good (fair link listed)
  split
  · exact Within.pure _
  · next _ videos folder =>
    split
    · exact Within.bind (Within.say _) fun _ => Within.pure _
    · exact Within.bind (transcribeAll_below videos deletes) fun _ =>
        Within.bind (Within.alter fun _ => tolerant.gathered _ _) fun _ => Within.pure _

/-- A run removes only folders below its working directory, in a scene whose clips go down, when
no post's short code is `..`. -/
theorem process_below (run : Transcriber)
    (posts : ∀ link ∈ run.links,
      holdsText link "instagram.com" = true → itemAt? (pathNames link) (-2) ≠ some "..") :
    Within (Studio.removesBelowHome run.links) run.process := by
  unfold Transcriber.process
  refine Within.bind (Within.foldlM (fun _ link listed =>
    visit_below run _ _ listed (posts link listed)) none) fun _ => ?_
  exact Within.bind Within.world fun _ => Within.pure _

end Run

/-- Every folder a run removes lies strictly below its working directory, never the working
directory itself, the root or a folder above it, whatever the file system holds and however the
services answer, provided the name the video service reports for the clip of each link goes down
(a first name of its own, never `..`) and the short code read off each link of the photo service
is not `..`. -/
theorem process_removes_only_below_home (run : Transcriber) (studio : Studio)
    (clips : studio.scene.clipsGoDown run.links)
    (posts : ∀ link ∈ run.links,
      holdsText link "instagram.com" = true → itemAt? (pathNames link) (-2) ≠ some "..") :
    ∀ place ∈ (execute run.process studio).2.world.removed,
      place ∈ studio.removed ∨ Below studio.disk.home place :=
  ((process_below run posts) { world := studio } clips).2.2

theorem process_removes_only_below_home_of_post_and_clip :
    ({ clips := [("https://www.tiktok.com/@u/video/1", { title := some (.str "d/x") })] } :
        Scene).clipsGoDown ["https://www.instagram.com/p/CODE/", "https://www.tiktok.com/@u/video/1"] ∧
      (∀ link ∈ ["https://www.instagram.com/p/CODE/", "https://www.tiktok.com/@u/video/1"],
        holdsText link "instagram.com" = true → itemAt? (pathNames link) (-2) ≠ some "..") ∧
      ∀ place ∈ (execute ({ links := ["https://www.instagram.com/p/CODE/",
          "https://www.tiktok.com/@u/video/1"] } : Transcriber).process
          { scene := { clips := [("https://www.tiktok.com/@u/video/1", { title := some (.str "d/x") })] },
            disk := Disk.emptyAt ["tmp", "scratch"] }).2.world.removed,
        place ∈ ([] : List Place) ∨ Below ["tmp", "scratch"] place :=
  have clips : ({ clips := [("https://www.tiktok.com/@u/video/1", { title := some (.str "d/x") })] } :
      Scene).clipsGoDown ["https://www.instagram.com/p/CODE/", "https://www.tiktok.com/@u/video/1"] := by
    decide +kernel
  have posts : ∀ link ∈ ["https://www.instagram.com/p/CODE/", "https://www.tiktok.com/@u/video/1"],
      holdsText link "instagram.com" = true → itemAt? (pathNames link) (-2) ≠ some ".." := by
    decide +kernel
  ⟨clips, posts, process_removes_only_below_home _
    { scene := { clips := [("https://www.tiktok.com/@u/video/1", { title := some (.str "d/x") })] },
      disk := Disk.emptyAt ["tmp", "scratch"] } clips posts⟩

/-- A clip titled `./x` is saved as `././x.mp4`, whose folder `./.` is the working directory: the
run removes everything in it, a file set up beforehand included, and then fails, as the system
refuses to remove a folder named through a last `.`. -/
theorem clip_title_removes_working_directory :
    let studio : Studio :=
      { scene := { clips := [("https://www.tiktok.com/@u/video/1", { title := some (.str "./x") })] },
        disk := { home := ["tmp", "scratch"],
                  entries := [(["tmp"], .folder), (["tmp", "scratch"], .folder),
                    (["tmp", "scratch", "keep.txt"], .file)] } }
    let outcome := execute ({ links := ["https://www.tiktok.com/@u/video/1"] } : Transcriber).process
      studio
    outcome.2.world.removed = [studio.disk.home] ∧ outcome.2.world.disk.listing = [] ∧
      (match outcome.1 with
        | .error (.raised failure message) => some (failure, message)
        | _ => none) = some (.systemRefused, "[Errno 22] Invalid argument: './.'") := by
  decide +kernel

end Listening.Media
