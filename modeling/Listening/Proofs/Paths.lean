import Mathlib.Data.List.DropRight
import Listening.Media.Disk
import Listening.Index

/-!
# Where paths lead

A path is read as the names between its `/`s. Joining two paths with a `/` joins their names
(`pathNames_append_slash`), and a name read off a path holds no `/`. The folder part of a path
that starts with a name, followed by a `/`, begins the path (`folderOf_append_slash`); so the
folder of a file saved in `.` is `.` itself or `./` and a first part of the file's name
(`folderOf_dotSlash`), and the folder's names are among the file's.

A path leads down when it does not start at the root, never goes up through `..` and has a name
of its own. Such a path, wherever it is followed, ends strictly below the working directory
(`resolve_below`): without `..` a walk only goes into the names it meets. The folder of a file
saved in `.` under a name that starts with a name of its own and never goes up leads down, unless
it is `.` (`leadsDown_folderOf_dotSlash`).
-/

namespace Listening.Media

/-- Whether a path leads strictly down from where it starts: it does not start at the root, never
goes up through `..`, and has a name of its own. -/
def leadsDown (path : String) : Bool :=
  !path.startsWith "/" && !(pathNames path).contains ".." && (pathNames path).any (!isDots ·)

/-- Whether a relative name goes only down: its first name is a name of its own, and none of the
others goes up through `..`. -/
def goesDown (path : String) : Bool :=
  match pathNames path with
  | first :: rest => !isDots first && !rest.contains ".."
  | [] => false

/-- A place lies strictly below another. -/
def Below (home place : Place) : Prop :=
  home <+: place ∧ place ≠ home

section Names

theorem pathNames_go_append_slash (name chars more : List Char) :
    pathNames.go name (chars ++ '/' :: more) = pathNames.go name chars ++ pathNames.go [] more := by
  induction chars generalizing name with
  | nil => simp [pathNames.go]
  | cons c rest ih =>
    by_cases slash : c = '/'
    · subst slash
      simp [pathNames.go, ih]
    · simp [pathNames.go, ih]

/-- The names of two paths joined by a `/` are those of the first, then those of the second. -/
theorem pathNames_append_slash (first second : String) :
    pathNames (first ++ "/" ++ second) = pathNames first ++ pathNames second := by
  simp only [pathNames, String.toList_append, List.append_assoc]
  exact pathNames_go_append_slash [] first.toList second.toList

theorem pathNames_go_ne_nil (name chars : List Char) : pathNames.go name chars ≠ [] := by
  induction chars generalizing name with
  | nil => simp [pathNames.go]
  | cons c rest ih =>
    by_cases slash : c = '/'
    · subst slash
      simp [pathNames.go]
    · simpa [pathNames.go, slash] using ih (c :: name)

theorem pathNames_ne_nil (path : String) : pathNames path ≠ [] :=
  pathNames_go_ne_nil [] path.toList

theorem pathNames_go_of_no_slash {name chars : List Char} (noSlash : '/' ∉ chars) :
    pathNames.go name chars = [String.ofList (name.reverse ++ chars)] := by
  induction chars generalizing name with
  | nil => simp [pathNames.go]
  | cons c rest ih =>
    have notSlash : c ≠ '/' := fun same => noSlash (same ▸ List.mem_cons_self)
    simp [pathNames.go, ih (fun inRest => noSlash (List.mem_cons_of_mem c inRest))]

/-- A path with no `/` is one name. -/
theorem pathNames_of_no_slash {path : String} (noSlash : '/' ∉ path.toList) :
    pathNames path = [path] := by
  simp [pathNames, pathNames_go_of_no_slash noSlash]

theorem no_slash_of_mem_pathNames_go {name chars : List Char} (noSlash : '/' ∉ name) :
    ∀ read ∈ pathNames.go name chars, '/' ∉ read.toList := by
  induction chars generalizing name with
  | nil => simpa [pathNames.go] using noSlash
  | cons c rest ih =>
    by_cases slash : c = '/'
    · subst slash
      simpa [pathNames.go, noSlash] using @ih [] (by simp)
    · simp only [pathNames.go]
      exact ih (by simp [noSlash, Ne.symm slash])

/-- A name read off a path holds no `/`. -/
theorem no_slash_of_mem_pathNames {path read : String} (member : read ∈ pathNames path) :
    '/' ∉ read.toList :=
  no_slash_of_mem_pathNames_go (by simp) read member

theorem itemAt?_mem {α : Type} {items : List α} {position : Int} {item : α}
    (found : itemAt? items position = some item) : item ∈ items := by
  unfold itemAt? at found
  split at found
  · split at found
    · exact List.mem_of_getElem? found
    · cases found
  · exact List.mem_of_getElem? found

end Names

section FolderPart

/-- A list holding a `/` is a part, its last `/`, and a rest with no `/`. -/
theorem exists_last_slash {chars : List Char} (slash : '/' ∈ chars) :
    ∃ before after, chars = before ++ '/' :: after ∧ '/' ∉ after := by
  induction chars using List.reverseRecOn with
  | nil => simp at slash
  | append_singleton init c ih =>
    by_cases last : c = '/'
    · exact ⟨init, [], by simp [last], by simp⟩
    · obtain ⟨before, after, split, noSlash⟩ := ih (by simpa [Ne.symm last] using slash)
      exact ⟨before, after ++ [c], by simp [split], by simp [noSlash, Ne.symm last]⟩

theorem dropWhile_reverse_of_last_slash {before after : List Char} (noSlash : '/' ∉ after) :
    (before ++ '/' :: after).reverse.dropWhile (· != '/') = '/' :: before.reverse := by
  rw [List.reverse_append, List.reverse_cons, List.append_assoc, List.dropWhile_append_of_pos]
  · simp
  · intro c member
    have notSlash : c ≠ '/' := fun same => noSlash (by simpa [same] using member)
    simpa using notSlash

/-- The folder part of a path that starts with a name and holds a `/` is not empty, and it begins
the path, followed by a `/`. -/
theorem folderOf_append_slash {path : String} (first : path.toList.head? ≠ some '/')
    (slash : '/' ∈ path.toList) :
    folderOf path ≠ "" ∧ ∃ rest, path = folderOf path ++ "/" ++ rest := by
  obtain ⟨before, after, split, noSlash⟩ := exists_last_slash slash
  -- the part before the last `/` starts the path, so it starts with a character other than `/`
  obtain ⟨c, chars, beforeIs⟩ : ∃ c chars, before = c :: chars := by
    cases before with
    | nil => simp [split] at first
    | cons c chars => exact ⟨c, chars, rfl⟩
  have notSlash : c ≠ '/' := fun same => first (by simp [split, beforeIs, same])
  -- the folder is that part without the `/`s that end it
  have stripped : before.reverse.dropWhile (· == '/') ≠ [] := by
    rw [Ne, List.dropWhile_eq_nil_iff]
    intro allSlashes
    exact notSlash (by simpa using allSlashes c (by simp [beforeIs]))
  have folderIs : folderOf path = String.ofList (before.reverse.dropWhile (· == '/')).reverse := by
    unfold folderOf
    dsimp only
    rw [split, dropWhile_reverse_of_last_slash noSlash]
    simp [beforeIs, notSlash]
  refine ⟨by simpa [folderIs, String.ext_iff] using stripped, ?_⟩
  -- the `/`s that end the part, then the last `/`, are one `/` and then the same `/`s
  obtain ⟨ending, endingAre⟩ : ∃ count, (before.reverse.takeWhile (· == '/')).reverse =
      List.replicate count '/' :=
    ⟨_, List.eq_replicate_iff.mpr ⟨rfl, fun b member => by
      simpa using List.mem_takeWhile_imp (List.mem_reverse.mp member)⟩⟩
  refine ⟨String.ofList (List.replicate ending '/' ++ after), String.ext ?_⟩
  have whole : before = (before.reverse.dropWhile (· == '/')).reverse ++
      (before.reverse.takeWhile (· == '/')).reverse := by
    rw [← List.reverse_append, List.takeWhile_append_dropWhile, List.reverse_reverse]
  rw [folderIs, split]
  conv_lhs => rw [whole, endingAre]
  rw [List.append_assoc, ← List.singleton_append, ← List.append_assoc (List.replicate ending '/'),
    ← List.replicate_succ', List.replicate_succ]
  simp

/-- The folder of a file saved in `.` under a relative name is `.`, or `./` and the part of the
name before one of its `/`s. -/
theorem folderOf_dotSlash {name : String} :
    folderOf ("./" ++ name) = "." ∨
      ∃ part rest, name = part ++ "/" ++ rest ∧ folderOf ("./" ++ name) = "./" ++ part := by
  obtain ⟨nonempty, rest, split⟩ := @folderOf_append_slash ("./" ++ name) (by simp) (by simp)
  have chars := congrArg String.toList split
  simp only [String.toList_append] at chars
  -- the folder starts with `.`; after it comes the `/` that ends it, or the one after the `.`
  cases folderChars : (folderOf ("./" ++ name)).toList with
  | nil => exact absurd (String.toList_eq_nil_iff.mp folderChars) nonempty
  | cons dot after =>
    rw [folderChars] at chars
    simp only [String.reduceToList, List.cons_append, List.cons.injEq] at chars
    obtain ⟨dotIs, chars⟩ := chars
    cases after with
    | nil =>
      left
      exact String.ext (by simp [folderChars, ← dotIs])
    | cons slash part =>
      right
      simp only [List.cons_append, List.cons.injEq] at chars
      obtain ⟨slashIs, nameIs⟩ := chars
      refine ⟨String.ofList part, rest, String.ext (by simpa using nameIs), String.ext ?_⟩
      simp [folderChars, ← dotIs, ← slashIs]

end FolderPart

section Down

theorem isDots_eq_false {name : String} :
    isDots name = false ↔ name ≠ "" ∧ name ≠ "." ∧ name ≠ ".." := by
  simp [isDots, and_assoc]

/-- A path from the root starts with an empty name. -/
theorem pathNames_of_startsWith_slash {path : String} (fromRoot : path.startsWith "/" = true) :
    ∃ rest, pathNames path = "" :: rest := by
  rw [String.startsWith_string_iff] at fromRoot
  obtain ⟨tail, split⟩ := fromRoot
  exact ⟨pathNames.go [] tail, by simp [pathNames, ← split, pathNames.go]⟩

/-- A name that goes down does not start at the root. -/
theorem goesDown_relative {name : String} (down : goesDown name = true) :
    name.startsWith "/" = false := by
  cases fromRoot : name.startsWith "/" with
  | false => rfl
  | true =>
    obtain ⟨rest, names⟩ := pathNames_of_startsWith_slash fromRoot
    simp [goesDown, names, isDots] at down

/-- A name of its own read off a path leads down. -/
theorem leadsDown_of_mem_pathNames {path name : String} (member : name ∈ pathNames path)
    (own : isDots name = false) : leadsDown name = true := by
  have noSlash := no_slash_of_mem_pathNames member
  obtain ⟨notEmpty, notDot, notUp⟩ := isDots_eq_false.mp own
  have relative : name.startsWith "/" = false := by
    simpa [String.startsWith_string_eq_false_iff] using fun prefixed =>
      noSlash (List.IsPrefix.mem (by simp) prefixed)
  simp [leadsDown, relative, pathNames_of_no_slash noSlash, Ne.symm notUp, own]

/-- The folder of a file saved in `.` under a name that goes down leads down, unless it is `.`. -/
theorem leadsDown_folderOf_dotSlash {name : String} (down : goesDown name = true)
    (notDot : folderOf ("./" ++ name) ≠ ".") : leadsDown (folderOf ("./" ++ name)) = true := by
  rcases @folderOf_dotSlash name with dot | ⟨part, rest, nameIs, folderIs⟩
  · exact absurd dot notDot
  · -- the folder's names are `.` and the names of a first part of the file's name
    have folderNames : pathNames (folderOf ("./" ++ name)) = "." :: pathNames part := by
      rw [folderIs, show "./" ++ part = "." ++ "/" ++ part from rfl, pathNames_append_slash]
      simp [pathNames_of_no_slash]
    have nameNames : pathNames name = pathNames part ++ pathNames rest := by
      rw [nameIs, pathNames_append_slash]
    obtain ⟨first, more, partNames⟩ : ∃ first more, pathNames part = first :: more := by
      cases h : pathNames part with
      | nil => exact absurd h (pathNames_ne_nil part)
      | cons first more => exact ⟨first, more, rfl⟩
    simp only [goesDown, nameNames, partNames, List.cons_append, Bool.and_eq_true,
      Bool.not_eq_true', List.contains_eq_mem, decide_eq_false_iff_not, List.mem_append,
      not_or] at down
    obtain ⟨own, notUp, -⟩ := down
    have relative : (folderOf ("./" ++ name)).startsWith "/" = false := by
      simp [folderIs, String.startsWith_string_eq_false_iff]
    have firstNotUp : first ≠ ".." := (isDots_eq_false.mp own).2.2
    simp [leadsDown, relative, folderNames, partNames, Ne.symm firstNotUp, own, notUp]

end Down

section Walks

variable {disk : Disk}

theorem enter_of_not_isDots {here : Place} {name : String} (named : isDots name = false) :
    enter here name = here ++ [name] := by
  obtain ⟨notEmpty, notDot, notUp⟩ := isDots_eq_false.mp named
  simp [enter, notEmpty, notDot, notUp]

theorem enter_of_isDots {here : Place} {name : String} (dots : isDots name = true)
    (notUp : name ≠ "..") : enter here name = here := by
  simp [isDots, notUp] at dots
  simp [enter, dots]

/-- Without `..`, a walk goes only into the names of its own it meets. -/
theorem walk_of_no_parent {names : List String} (noUp : ".." ∉ names) :
    ∀ {here place : Place}, disk.walk here names = .ok place →
      place = here ++ names.filter (!isDots ·) := by
  induction names with
  | nil =>
    intro here place walked
    simpa [Disk.walk] using walked.symm
  | cons name rest ih =>
    intro here place walked
    have notUp : name ≠ ".." := fun same => noUp (by simp [same])
    unfold Disk.walk at walked
    split at walked
    · rw [ih (fun inRest => noUp (List.mem_cons_of_mem name inRest)) walked]
      by_cases dots : isDots name = true
      · simp [enter_of_isDots dots notUp, dots]
      · simp [enter_of_not_isDots (Bool.eq_false_iff.mpr dots), Bool.not_eq_true _ ▸ dots]
    · cases walked
    · cases walked

theorem foldl_enter_of_no_parent {names : List String} (noUp : ".." ∉ names)
    (allDots : ∀ name ∈ names, isDots name = true) (here : Place) :
    names.foldl enter here = here := by
  induction names generalizing here with
  | nil => rfl
  | cons name rest ih =>
    rw [List.foldl_cons,
      enter_of_isDots (allDots name List.mem_cons_self) (fun same => noUp (by simp [same])),
      ih (fun inRest => noUp (List.mem_cons_of_mem name inRest))
        (fun other member => allDots other (List.mem_cons_of_mem name member))]

/-- A path that leads down ends strictly below the working directory, whatever the file system
holds. -/
theorem resolve_below {path : String} {place : Place} (down : leadsDown path = true)
    (resolved : disk.resolve path = .ok place) : Below disk.home place := by
  simp only [leadsDown, Bool.and_eq_true, Bool.not_eq_true', List.contains_eq_mem,
    decide_eq_false_iff_not, List.any_eq_true] at down
  obtain ⟨⟨relative, noUp⟩, ⟨own, member, ownIsOwn⟩⟩ := down
  have fromHome : disk.start path = disk.home := by simp [Disk.start, relative]
  unfold Disk.resolve Disk.follow at resolved
  rw [fromHome, foldl_enter_of_no_parent
    (fun inLeading => noUp ((List.takeWhile_prefix _).subset inLeading))
    (fun name member => List.mem_takeWhile_imp member)] at resolved
  have noUpAfter : ".." ∉ (pathNames path).dropWhile isDots :=
    fun inRest => noUp ((List.dropWhile_suffix _).subset inRest)
  rw [walk_of_no_parent noUpAfter resolved]
  refine ⟨List.prefix_append _ _, fun same => ?_⟩
  -- the names left after the leading dots start with a name of its own
  have ownAfter : own ∈ (pathNames path).dropWhile isDots := by
    rw [← List.takeWhile_append_dropWhile (p := isDots) (l := pathNames path)] at member
    rcases List.mem_append.mp member with leading | after
    · exact absurd (List.mem_takeWhile_imp leading) (by simpa using ownIsOwn)
    · exact after
  have kept : ((pathNames path).dropWhile isDots).filter (!isDots ·) ≠ [] :=
    List.ne_nil_of_mem (List.mem_filter.mpr ⟨ownAfter, by simpa using ownIsOwn⟩)
  exact kept (List.append_right_eq_self.mp same)

end Walks

end Listening.Media
