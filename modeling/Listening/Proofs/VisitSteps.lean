import Listening.Proofs.Runs
import Listening.Media.Transcribe

/-!
# What the steps of a visit change

Every step of a visit but the deletion of its download folder changes the run's state in one of
four ways: it uses up a draw, counts a refusal, gathers transcripts, or changes the entries of the
file system. None of them moves the working directory: each operation on the file system changes
its entries only (`Disk.makeFolders_home` and the like).

A kind of change that allows these four (`Studio.Tolerates`) allows every such step: backing off,
pausing and retrying, downloading a post or a clip, transcribing one video and finding what a link
gives. A fact about whole runs then looks only at what deleting a folder does.
-/

namespace Listening.Media

open Listening.World Listening.World.Scripted Listening.Media.Session

namespace Disk

variable {disk changed : Disk} {path : String}

@[simp] theorem add_home (place : Place) (entry : Entry) : (disk.add place entry).home = disk.home :=
  rfl

@[simp] theorem clearUnder_home (place : Place) : (disk.clearUnder place).home = disk.home := rfl

theorem makeFolders_go_home (path : String) :
    ∀ {disk changed : Disk} {here : Place} {names : List String},
      makeFolders.go path disk here names = .ok changed → changed.home = disk.home
  | _, _, _, [], made => by
    simp only [makeFolders.go, Except.ok.injEq] at made
    rw [made]
  | disk, _, here, name :: rest, made => by
    unfold makeFolders.go at made
    -- each name either goes on from the same file system or from one with a folder more
    split at made
    · exact makeFolders_go_home path made
    · exact (makeFolders_go_home path made :)
    all_goals cases made

theorem makeFolders_home (made : disk.makeFolders path = .ok changed) : changed.home = disk.home :=
  makeFolders_go_home path made

theorem writeFile_home (written : disk.writeFile path = .ok changed) : changed.home = disk.home := by
  unfold writeFile at written
  split at written
  · cases written
  · split at written <;> cases written <;> rfl

theorem removeFile_home (removed : disk.removeFile path = .ok changed) : changed.home = disk.home := by
  unfold removeFile at removed
  split at removed
  · cases removed
  · split at removed <;> cases removed <;> rfl

theorem removeFolder_home (removed : disk.removeFolder path = .ok changed) :
    changed.home = disk.home := by
  unfold removeFolder at removed
  dsimp only at removed
  split at removed
  all_goals try cases removed
  split at removed
  · split at removed
    · cases removed
    · cases removed
      rfl
  · cases removed
  · cases removed

end Disk

/-- Finding the identifier of a link leaves the world as it is. -/
theorem showVideoId_within {σ : Type} {change : Change σ} (link : Datum) :
    Within change (showVideoId link : Scripted σ String) := by
  unfold showVideoId
  split
  · split
    · exact Within.bind (Within.say _) fun _ => Within.pure _
    · exact Within.raise _ _
  · exact Within.raise _ _

/-- A kind of change that allows every step of a visit but deleting a folder: using up draws,
counting refusals, gathering transcripts, and changing the entries of the file system with the
working directory where it is. -/
structure Studio.Tolerates (change : Change Studio) : Prop where
  draws : ∀ (studio : Studio) draws, change.allows studio { studio with draws := draws }
  refused : ∀ (studio : Studio) refused, change.allows studio { studio with refused := refused }
  gathered : ∀ (studio : Studio) gathered, change.allows studio { studio with gathered := gathered }
  entries : ∀ (studio : Studio) (disk : Disk), disk.home = studio.disk.home →
    change.allows studio { studio with disk := disk }

namespace Studio.Tolerates

variable {change : Change Studio} (tolerant : Studio.Tolerates change)
include tolerant

/-- An operation on the file system that keeps the working directory where it is stays within
a tolerant change. -/
theorem onDisk {update : Disk → Except Stop Disk}
    (keeps : ∀ {disk changed}, update disk = .ok changed → changed.home = disk.home) :
    Within change (onDisk update) :=
  onDisk_within fun studio _ updated => tolerant.entries studio _ (keeps updated)

theorem draw (low high : Int) : Within change (draw low high) := by
  unfold Session.draw
  refine Within.bind (Within.call _ _) fun _ => Within.bind Within.world fun studio => ?_
  split
  · exact Within.bind (Within.alter fun _ => tolerant.draws _ _) fun _ => Within.pure _
  · exact Within.pure _

theorem pause (run : Transcriber) (round : Nat) : Within change (run.pause round) :=
  Within.bind (computed_within _) fun _ => Within.bind (tolerant.draw 0 1) fun _ =>
    Within.bind (computed_within _) fun _ => Within.bind (computed_within _) fun _ =>
      Within.bind (Within.say _) fun _ => Within.call _ _

theorem backOff (count : Number) : Within change (Transcriber.backOff count) :=
  Within.bind (tolerant.draw 1 3) fun _ => Within.bind (computed_within _) fun _ =>
    Within.bind (computed_within _) fun _ => Within.bind (Within.say _) fun _ => Within.call _ _

theorem retry (run : Transcriber) {α : Type} {attempt : Session α} (kept : Within change attempt) :
    Within change (run.retry attempt) := by
  unfold Transcriber.retry
  suffices ∀ left round, Within change (Transcriber.retry.go run attempt round left) from this _ _
  intro left
  -- on the number of attempts left
  induction left with
  | zero =>
    intro round
    unfold Transcriber.retry.go
    exact Within.bind (Within.say _) fun _ => Within.pure _
  | succ left ih =>
    intro round
    unfold Transcriber.retry.go
    refine Within.tryCatch (Within.map _ kept) fun stop => ?_
    split
    · exact Within.bind (tolerant.pause run round) fun _ => ih _
    · exact Within.throw _

theorem downloadPost (code target : String) : Within change (downloadPost code target) := by
  unfold Media.downloadPost Session.scene
  dsimp only
  repeat' first
    | with_reducible exact Within.pure _
    | with_reducible exact Within.world
    | with_reducible exact Within.call _ _
    | with_reducible exact Within.raise _ _
    | with_reducible exact tolerant.onDisk Disk.makeFolders_home
    | with_reducible exact tolerant.onDisk Disk.writeFile_home
    | with_reducible exact fun _ => tolerant.refused _ _
    | with_reducible apply Within.alter
    | with_reducible apply Within.bind
    | with_reducible apply Within.forIn
    | split
    | with_reducible intro

theorem fetchPost (run : Transcriber) (link : Datum) : Within change (run.fetchPost link) := by
  unfold Transcriber.fetchPost Session.disk Session.scene
  dsimp only
  repeat' first
    | with_reducible exact Within.pure _
    | with_reducible exact Within.world
    | with_reducible exact Within.throw _
    | with_reducible exact Within.say _
    | with_reducible exact Within.call _ _
    | with_reducible exact Within.raise _ _
    | with_reducible exact tolerant.retry run (tolerant.downloadPost _ _)
    | with_reducible apply Within.bind
    | with_reducible apply Within.tryCatch
    | split
    | with_reducible intro

theorem fetchClip (link : Datum) (folder : String) : Within change (fetchClip link folder) := by
  unfold Media.fetchClip Session.disk Session.scene
  dsimp only
  repeat' first
    | with_reducible exact Within.pure _
    | with_reducible exact Within.world
    | with_reducible exact Within.say _
    | with_reducible exact Within.call _ _
    | with_reducible exact Within.raise _ _
    | with_reducible exact tolerant.onDisk Disk.makeFolders_home
    | with_reducible exact tolerant.onDisk Disk.writeFile_home
    | with_reducible apply Within.bind
    | split
    | with_reducible intro

theorem transcribeOne (video : Datum) (position : Nat) :
    Within change (transcribeOne video position) := by
  unfold Media.transcribeOne Session.disk Session.scene
  dsimp only
  repeat' first
    | with_reducible exact Within.pure _
    | with_reducible exact Within.world
    | with_reducible exact Within.say _
    | with_reducible exact Within.call _ _
    | with_reducible exact Within.raise _ _
    | with_reducible exact tolerant.onDisk Disk.writeFile_home
    | with_reducible exact tolerant.onDisk Disk.removeFile_home
    | with_reducible apply Within.bind
    | split
    | with_reducible intro

theorem find (run : Transcriber) (previous : Option Transcripts) (link : String) :
    Within change (run.find previous link) := by
  unfold Transcriber.find showVideoId Session.scene
  dsimp only
  repeat' first
    | with_reducible exact Within.pure _
    | with_reducible exact Within.world
    | with_reducible exact Within.say _
    | with_reducible exact Within.call _ _
    | with_reducible exact Within.raise _ _
    | with_reducible exact tolerant.fetchPost _ _
    | with_reducible exact tolerant.fetchClip _ _
    | with_reducible exact fun _ => tolerant.gathered _ _
    | with_reducible apply Within.alter
    | with_reducible apply Within.bind
    | with_reducible apply Within.map
    | split
    | with_reducible intro

end Studio.Tolerates

end Listening.Media
