import Mathlib.Data.List.Forall2
import Listening.Proofs.Runs
import Listening.Desktop.Wallpaper

/-!
# Wallpaper paths in the desktop script

The script that sets wallpapers quotes each path for the desktop scripting language by writing a
backslash before every double quote, and does nothing else to it. A string literal of that
language reads a backslash as the start of an escape: `\\` for a backslash, `\"` for a double
quote, and `\n`, `\r`, `\t` for a line feed, a return and a tab (`readLiteral`).

A quoted path therefore reads back as the path exactly when the path holds no backslash
(`readLiteral_quoteChars_iff`): a backslash of the path starts an escape of its own, and then
the literal stands for a shorter text or for none (`readLiteral_length`). A line feed in a path
splits the script's line in two, since lines are only joined by line feeds. So the script has
one line per desktop, each quoting its path faithfully, exactly when no path holds a backslash
or a line feed (`wallpaper_script_faithful_iff`). The path `a\nb`, with a backslash, is written
so that the script reads it as `a`, a line feed and `b` (`backslash_path_misread`).
-/

namespace Listening.Desktop

open Listening.World Listening.World.Scripted

/-- The character an escape `\c` of a string literal stands for, when `\c` is one. -/
def escapedChar : Char → Option Char
  | '\\' => some '\\'
  | '"' => some '"'
  | 'n' => some '\n'
  | 'r' => some '\r'
  | 't' => some '\t'
  | _ => none

/-- Reads a string literal of the desktop scripting language from just after its opening quote:
the text it stands for and what follows its closing quote. A literal that never closes, or in
which a backslash starts no escape, is no literal. -/
def readLiteral : List Char → Option (List Char × List Char)
  | [] => none
  | '"' :: rest => some ([], rest)
  | '\\' :: c :: rest => do
    let char ← escapedChar c
    let (text, after) ← readLiteral rest
    pure (char :: text, after)
  | c :: rest => (readLiteral rest).map fun (text, after) => (c :: text, after)

/-- The characters a path is quoted into: a backslash before each double quote. -/
def quoteChars (chars : List Char) : List Char :=
  chars.flatMap fun c => if c = '"' then ['\\', '"'] else [c]

/-- The line of the script that gives a desktop the wallpaper written as `literal`. -/
def pictureLine (desktop : Int) (literal : String) : String :=
  "set picture of desktop " ++ toString desktop ++ " to \"" ++ literal ++ "\""

/-- The picture lines of a run: desktop `i` gets wallpaper `i`, quoted. -/
def pictureLines (desktops : List Int) (wallpapers : List String) : List String :=
  List.zipWith (fun desktop path => pictureLine desktop (escapeQuotes path)) desktops wallpapers

/-- The script a run writes: its head, the picture lines and its end, one a line. -/
def wallpaperScript (desktops : List Int) (wallpapers : List String) : String :=
  "\n".intercalate (scriptHead :: pictureLines desktops wallpapers ++ [scriptEnd])

/-- The call that runs a script of the desktop scripting language. -/
def scriptCall (script : String) : Call :=
  ⟨"run", [.list [.str "osascript", .str "-e", .str script]]⟩

/-- The lines of a text: its pieces between line feeds. -/
def linesOf (text : String) : List String :=
  (text.toList.splitOn '\n').map String.ofList

/-- A run setting wallpapers quotes them faithfully when it finishes having run the desktop
script once, and the script's lines are its head, one picture line per desktop in order, and its
end, where the literal of each picture line, read as a string literal, stands for exactly that
desktop's wallpaper. -/
def QuotesFaithfully (desktops : List Int) (wallpapers : List String)
    (outcome : Except Stop Unit × Trace Unit) : Prop :=
  ∃ script literals, outcome.1 = .ok () ∧
    outcome.2.calls.toList = [scriptCall script] ∧
    linesOf script = scriptHead :: List.zipWith pictureLine desktops literals ++ [scriptEnd] ∧
    List.Forall₂ (fun literal wallpaper =>
        readLiteral (literal.toList ++ ['"']) = some (wallpaper.toList, []))
      literals (wallpapers.take desktops.length)

section Quoting

@[simp] theorem quoteChars_nil : quoteChars [] = [] := rfl

@[simp] theorem quoteChars_cons (c : Char) (chars : List Char) :
    quoteChars (c :: chars) = (if c = '"' then ['\\', '"'] else [c]) ++ quoteChars chars := by
  simp [quoteChars]

@[simp] theorem toList_escapeQuotes (path : String) :
    (escapeQuotes path).toList = quoteChars path.toList := by
  simp [escapeQuotes, quoteChars]

theorem length_quoteChars (chars : List Char) :
    (quoteChars chars).length = chars.length + chars.count '"' := by
  induction chars with
  | nil => rfl
  | cons c chars ih =>
    by_cases quote : c = '"'
    · simp [quote, ih]
      omega
    · simp [quote, ih]
      omega

/-- Quoting adds backslashes and nothing else: every other character is in the quoted path
exactly when it is in the path. -/
theorem mem_quoteChars {c : Char} (notBackslash : c ≠ '\\') (chars : List Char) :
    c ∈ quoteChars chars ↔ c ∈ chars := by
  induction chars with
  | nil => simp
  | cons d chars ih =>
    by_cases quote : d = '"'
    · subst quote
      simp [ih, notBackslash]
    · simp [quote, ih]

end Quoting

section Reading

theorem readLiteral_plain {c : Char} (notQuote : c ≠ '"') (notBackslash : c ≠ '\\')
    (rest : List Char) :
    readLiteral (c :: rest) = (readLiteral rest).map fun (text, after) => (c :: text, after) := by
  rw [readLiteral.eq_def]
  split <;> simp_all

/-- A quoted path without backslashes reads back as the path, up to the closing quote. -/
theorem readLiteral_quoteChars {chars : List Char} (noBackslash : '\\' ∉ chars)
    (rest : List Char) : readLiteral (quoteChars chars ++ '"' :: rest) = some (chars, rest) := by
  induction chars with
  | nil => simp [readLiteral]
  | cons c chars ih =>
    have notBackslash : c ≠ '\\' := fun same => noBackslash (same ▸ List.mem_cons_self)
    have inner := ih fun member => noBackslash (List.mem_cons_of_mem c member)
    by_cases quote : c = '"'
    · subst quote
      simp [readLiteral, escapedChar, inner]
    · simp [quote, readLiteral_plain quote notBackslash, inner]

/-- A literal is never shorter than what it reads: each character of the text takes at least one
character, a double quote or a backslash two (as an escape), and the closing quote one more. -/
theorem readLiteral_length {source text after : List Char}
    (read : readLiteral source = some (text, after)) :
    text.length + text.count '"' + text.count '\\' + 1 + after.length ≤ source.length := by
  fun_induction readLiteral source generalizing text after with
  | case1 => simp at read
  | case2 rest =>
    simp only [Option.some.injEq, Prod.mk.injEq] at read
    obtain ⟨rfl, rfl⟩ := read
    simp only [List.length_nil, List.count_nil, List.length_cons]
    omega
  | case3 c rest ih =>
    -- an escape: two characters of the source for one of the text
    simp only [Option.bind_eq_bind, Option.bind_eq_some_iff, Option.pure_def,
      Option.some.injEq] at read
    obtain ⟨char, -, ⟨inner, innerAfter⟩, innerRead, same⟩ := read
    simp only [Prod.mk.injEq] at same
    obtain ⟨rfl, rfl⟩ := same
    have bound := ih innerRead
    have oneKind : (if char = '"' then 1 else 0) + (if char = '\\' then 1 else 0) ≤ 1 := by
      by_cases quote : char = '"' <;> by_cases backslash : char = '\\' <;> simp_all
    simp only [List.length_cons, List.count_cons, beq_iff_eq]
    omega
  | case4 c rest notQuote notEscape ih =>
    -- a plain character: one character of the source for one of the text
    have notBackslash : c ≠ '\\' := by
      rintro rfl
      cases rest with
      | nil => simp [readLiteral] at read
      | cons d rest => exact notEscape d rest rfl rfl
    simp only [Option.map_eq_some_iff, Prod.exists, Prod.mk.injEq] at read
    obtain ⟨inner, innerAfter, innerRead, rfl, rfl⟩ := read
    have bound := ih innerRead
    simp only [List.length_cons, List.count_cons, beq_iff_eq, if_neg notQuote,
      if_neg notBackslash]
    omega

/-- A quoted path reads back as the path exactly when the path holds no backslash. -/
theorem readLiteral_quoteChars_iff (chars : List Char) :
    readLiteral (quoteChars chars ++ ['"']) = some (chars, []) ↔ '\\' ∉ chars := by
  constructor
  · intro read
    have bound := readLiteral_length read
    have counted := length_quoteChars chars
    simp only [List.length_append, List.length_singleton, List.length_nil] at bound
    exact List.count_eq_zero.mp (by omega)
  · intro noBackslash
    exact readLiteral_quoteChars noBackslash []

end Reading

section Lines

variable {α : Type} [BEq α] [LawfulBEq α]

/-- Splitting at a separator gives one piece more than there are separators. -/
theorem length_splitOn (a : α) (xs : List α) : (xs.splitOn a).length = xs.count a + 1 := by
  induction xs with
  | nil => simp
  | cons x xs ih =>
    rw [List.splitOn_cons_eq_if_modifyHead]
    by_cases same : x = a
    · simp [same, ih]
    · simp [same, ih]

/-- Joining pieces with a separator adds one separator between each two of them. -/
theorem count_intercalate (a : α) :
    ∀ (pieces : List (List α)), pieces ≠ [] →
      ([a].intercalate pieces).count a + 1 = pieces.flatten.count a + pieces.length
  | [piece], _ => by simp
  | piece :: next :: rest, _ => by
    have inner := count_intercalate a (next :: rest) (List.cons_ne_nil next rest)
    simp only [List.intercalate_cons_cons, List.count_append, List.flatten_cons,
      List.length_cons] at inner ⊢
    simp only [List.count_singleton_self]
    omega

end Lines

section Script

/-- A desktop number is written in decimal digits, so it holds no line feed. -/
theorem newline_not_mem_toString (desktop : Int) : '\n' ∉ (toString desktop).toList := by
  intro member
  have digits : ∀ n : Nat, '\n' ∉ (Nat.repr n).toList := fun n inDigits => by
    rw [Nat.toList_repr] at inDigits
    have := Nat.isDigit_of_mem_toDigits (by decide) (by decide) inDigits
    simp [Char.isDigit] at this
  cases desktop with
  | ofNat n => exact digits n member
  | negSucc n =>
    have : '\n' ∈ (Nat.repr (n + 1)).toList := by
      simpa [toString, Int.repr] using member
    exact digits _ this

theorem pictureLine_inj {desktop : Int} {first second : String}
    (same : pictureLine desktop first = pictureLine desktop second) : first = second := by
  unfold pictureLine at same
  rw [String.append_left_inj, String.append_right_inj] at same
  exact same

/-- A picture line holds a line feed exactly when the path it quotes does. -/
theorem newline_mem_pictureLine (desktop : Int) (path : String) :
    '\n' ∈ (pictureLine desktop (escapeQuotes path)).toList ↔ '\n' ∈ path.toList := by
  have notDigit := newline_not_mem_toString desktop
  have notInStart : '\n' ∉ "set picture of desktop ".toList := by decide
  have notInMiddle : '\n' ∉ " to \"".toList := by decide
  have notInEnd : '\n' ∉ "\"".toList := by decide
  unfold pictureLine
  rw [String.toList_append, String.toList_append, String.toList_append, String.toList_append]
  simp only [List.mem_append, toList_escapeQuotes, mem_quoteChars (show '\n' ≠ '\\' by decide),
    notInStart, notInMiddle, notInEnd, notDigit, false_or, or_false]

theorem display_int (desktop : Int) : (Datum.int desktop).display = toString desktop := by
  rw [Datum.display, Datum.literal]
  intro value same
  cases same

/-- Giving a desktop a wallpaper that is there and a text prints the assignment and makes its
picture line. -/
theorem runFrom_assignment (wallpapers : List String) (desktop : Int) (position : Nat)
    (inRange : position < wallpapers.length) (trace : Trace Unit) :
    runFrom (assignment (wallpapers.map Datum.str) (.int desktop, position)) trace =
      (.ok (pictureLine desktop (escapeQuotes wallpapers[position])),
        { trace with printed := trace.printed ++ ("Assigned new wallpaper to desktop " ++
          toString desktop ++ ": " ++ wallpapers[position]) ++ "\n" }) := by
  simp only [assignment, runFrom_bind, List.getElem?_map, List.getElem?_eq_getElem inRange,
    Option.map_some, runFrom_pure, runFrom_say, display_int]
  rfl

/-- Giving desktops the wallpapers from position `start` on, when they are all there and texts:
one picture line per desktop, and nothing but printing. -/
theorem runFrom_assignments (wallpapers : List String) :
    ∀ (desktops : List Int) (start : Nat) (trace : Trace Unit),
      start + desktops.length ≤ wallpapers.length →
      ∃ printed, runFrom (((desktops.map Datum.int).zipIdx start).mapM
          (assignment (wallpapers.map Datum.str))) trace =
        (.ok (pictureLines desktops (wallpapers.drop start)), { trace with printed := printed })
  | [], _, trace, _ => ⟨trace.printed, by
    simp only [List.map_nil, List.zipIdx_nil, List.mapM_nil, pictureLines, List.zipWith_nil_left]
    rfl⟩
  | desktop :: desktops, start, trace, enough => by
    have inRange : start < wallpapers.length := by
      simp only [List.length_cons] at enough
      omega
    obtain ⟨printed, rest⟩ := runFrom_assignments wallpapers desktops (start + 1)
      { trace with printed := trace.printed ++ ("Assigned new wallpaper to desktop " ++
          toString desktop ++ ": " ++ wallpapers[start]) ++ "\n" }
      (by simp only [List.length_cons] at enough; omega)
    refine ⟨printed, ?_⟩
    simp only [List.map_cons, List.zipIdx_cons, List.mapM_cons, runFrom_bind,
      runFrom_assignment wallpapers desktop start inRange, rest, runFrom_pure,
      List.drop_eq_getElem_cons inRange, pictureLines, List.zipWith_cons_cons]

/-- A run with a wallpaper for every desktop, each a text, finishes having run one script: the
head, the picture lines and the end, joined by line feeds. -/
theorem execute_setWallpapers {desktops : List Int} {wallpapers : List String}
    (enough : desktops.length ≤ wallpapers.length) :
    ∃ printed, Script.execute (setWallpapers (desktops.map .int) (wallpapers.map .str)) =
      (.ok (), { calls := #[scriptCall (wallpaperScript desktops wallpapers)],
                 printed := printed, world := () }) := by
  obtain ⟨printed, assigned⟩ := runFrom_assignments wallpapers desktops 0 { world := () }
    (by omega)
  refine ⟨printed, ?_⟩
  show runFrom (setWallpapers (desktops.map .int) (wallpapers.map .str)) { world := () } = _
  simp only [setWallpapers, runFrom_bind, assigned, List.drop_zero, runFrom_call]
  rfl

end Script

section PictureLines

theorem length_pictureLines {desktops : List Int} {wallpapers : List String}
    (enough : desktops.length ≤ wallpapers.length) :
    (pictureLines desktops wallpapers).length = desktops.length := by
  simp only [pictureLines, List.length_zipWith]
  omega

/-- Every picture line gives some desktop one of the wallpapers matched with a desktop. -/
theorem mem_pictureLines {line : String} :
    ∀ {desktops : List Int} {wallpapers : List String}, line ∈ pictureLines desktops wallpapers →
      ∃ desktop path, path ∈ wallpapers.take desktops.length ∧
        line = pictureLine desktop (escapeQuotes path)
  | [], _, member => by simp [pictureLines] at member
  | _ :: _, [], member => by simp [pictureLines] at member
  | desktop :: desktops, path :: paths, member => by
    simp only [pictureLines, List.zipWith_cons_cons, List.mem_cons] at member
    rcases member with first | later
    · exact ⟨desktop, path, by simp, first⟩
    · obtain ⟨other, otherPath, taken, same⟩ := mem_pictureLines later
      exact ⟨other, otherPath, by simp [taken], same⟩

/-- Every wallpaper matched with a desktop has its picture line. -/
theorem exists_pictureLine {path : String} :
    ∀ {desktops : List Int} {wallpapers : List String}, path ∈ wallpapers.take desktops.length →
      ∃ desktop, pictureLine desktop (escapeQuotes path) ∈ pictureLines desktops wallpapers
  | [], _, member => by simp at member
  | _ :: _, [], member => by simp at member
  | desktop :: desktops, first :: paths, member => by
    simp only [List.length_cons, List.take_succ_cons, List.mem_cons] at member
    rcases member with same | later
    · exact ⟨desktop, by simp [pictureLines, same]⟩
    · obtain ⟨other, present⟩ := exists_pictureLine later
      refine ⟨other, ?_⟩
      simp only [pictureLines, List.zipWith_cons_cons, List.mem_cons]
      exact Or.inr present

/-- The picture lines of a run are those of some literals exactly when the literals are the
quoted wallpapers. -/
theorem zipWith_pictureLine_eq_iff :
    ∀ {desktops : List Int} {wallpapers literals : List String},
      desktops.length ≤ wallpapers.length → literals.length = desktops.length →
      (List.zipWith pictureLine desktops literals = pictureLines desktops wallpapers ↔
        literals = (wallpapers.take desktops.length).map escapeQuotes)
  | [], _, [], _, _ => by simp [pictureLines]
  | [], _, _ :: _, _, counted => by simp at counted
  | _ :: _, [], _, enough, _ => by simp at enough
  | _ :: _, _ :: _, [], _, counted => by simp at counted
  | desktop :: desktops, path :: paths, literal :: literals, enough, counted => by
    have inner := @zipWith_pictureLine_eq_iff desktops paths literals (by simpa using enough)
      (by simpa using counted)
    simp only [pictureLines, List.zipWith_cons_cons, List.cons.injEq, List.length_cons,
      List.take_succ_cons, List.map_cons] at inner ⊢
    rw [inner]
    constructor
    · rintro ⟨same, rest⟩
      exact ⟨pictureLine_inj same, rest⟩
    · rintro ⟨rfl, rest⟩
      exact ⟨rfl, rest⟩

end PictureLines

section ScriptLines

theorem toList_newline : "\n".toList = ['\n'] := by decide

theorem length_linesOf (text : String) : (linesOf text).length = text.toList.count '\n' + 1 := by
  simp only [linesOf, List.length_map, length_splitOn]

/-- Lines without line feeds, joined by line feeds, split back into themselves. -/
theorem linesOf_intercalate {lines : List String} (noNewline : ∀ line ∈ lines, '\n' ∉ line.toList)
    (nonempty : lines ≠ []) : linesOf ("\n".intercalate lines) = lines := by
  have pieces : ∀ piece ∈ lines.map String.toList, '\n' ∉ piece := by
    simpa using noNewline
  have split := List.splitOn_intercalate '\n' pieces (by simpa using nonempty)
  unfold linesOf
  rw [String.toList_intercalate, toList_newline, split]
  simp

/-- Lines joined by line feeds split back into as many lines only when none of them holds a line
feed: each line feed inside a line adds a line. -/
theorem newline_free_of_length_linesOf {lines : List String} (nonempty : lines ≠ [])
    (counted : (linesOf ("\n".intercalate lines)).length = lines.length) :
    ∀ line ∈ lines, '\n' ∉ line.toList := by
  have joined := count_intercalate '\n' (lines.map String.toList) (by simpa using nonempty)
  rw [length_linesOf, String.toList_intercalate, toList_newline] at counted
  rw [List.length_map] at joined
  have none : (lines.map String.toList).flatten.count '\n' = 0 := by omega
  intro line member inLine
  rw [List.count_eq_zero] at none
  exact none (List.mem_flatten.mpr ⟨line.toList, List.mem_map_of_mem member, inLine⟩)

/-- When no wallpaper matched with a desktop holds a line feed, the script's lines are its head,
the picture lines and its end. -/
theorem linesOf_wallpaperScript {desktops : List Int} {wallpapers : List String}
    (plain : ∀ w ∈ wallpapers.take desktops.length, '\n' ∉ w.toList) :
    linesOf (wallpaperScript desktops wallpapers) =
      scriptHead :: pictureLines desktops wallpapers ++ [scriptEnd] := by
  unfold wallpaperScript
  refine linesOf_intercalate (fun line member => ?_) (List.cons_ne_nil _ _)
  simp only [List.mem_append, List.mem_cons, List.not_mem_nil, or_false] at member
  rcases member with (head | picture) | last
  · subst head
    decide
  · obtain ⟨desktop, path, taken, rfl⟩ := mem_pictureLines picture
    rw [newline_mem_pictureLine]
    exact plain path taken
  · subst last
    decide

end ScriptLines

section Faithful

variable {desktops : List Int} {wallpapers : List String}

/-- Wallpapers without backslashes or line feeds are quoted faithfully. -/
theorem quotesFaithfully_of_plain (enough : desktops.length ≤ wallpapers.length)
    (plain : ∀ w ∈ wallpapers.take desktops.length, '\\' ∉ w.toList ∧ '\n' ∉ w.toList) :
    QuotesFaithfully desktops wallpapers
      (Script.execute (setWallpapers (desktops.map .int) (wallpapers.map .str))) := by
  obtain ⟨printed, ran⟩ := execute_setWallpapers enough
  have counted : ((wallpapers.take desktops.length).map escapeQuotes).length = desktops.length := by
    simp only [List.length_map, List.length_take]
    omega
  refine ⟨wallpaperScript desktops wallpapers, (wallpapers.take desktops.length).map escapeQuotes,
    by rw [ran], by rw [ran], ?_, ?_⟩
  · rw [(zipWith_pictureLine_eq_iff enough counted).mpr rfl]
    exact linesOf_wallpaperScript fun w taken => (plain w taken).2
  · rw [List.forall₂_map_left_iff, List.forall₂_same]
    intro w taken
    rw [toList_escapeQuotes]
    exact (readLiteral_quoteChars_iff w.toList).mpr (plain w taken).1

/-- Wallpapers quoted faithfully hold no backslash and no line feed. -/
theorem plain_of_quotesFaithfully (enough : desktops.length ≤ wallpapers.length)
    (faithful : QuotesFaithfully desktops wallpapers
      (Script.execute (setWallpapers (desktops.map .int) (wallpapers.map .str)))) :
    ∀ w ∈ wallpapers.take desktops.length, '\\' ∉ w.toList ∧ '\n' ∉ w.toList := by
  obtain ⟨printed, ran⟩ := execute_setWallpapers enough
  obtain ⟨script, literals, _, called, lines, read⟩ := faithful
  rw [ran] at called
  have same : script = wallpaperScript desktops wallpapers := by
    simp only [List.cons.injEq, scriptCall, Call.mk.injEq, Datum.list.injEq, Datum.str.injEq,
      and_true, true_and] at called
    exact called.symm
  subst same
  have counted : literals.length = desktops.length := by
    rw [read.length_eq, List.length_take]
    omega
  -- the script splits into as many lines as were joined, so no joined line holds a line feed
  have pieces : ∀ line ∈ scriptHead :: pictureLines desktops wallpapers ++ [scriptEnd],
      '\n' ∉ line.toList := by
    refine newline_free_of_length_linesOf (List.cons_ne_nil _ _) ?_
    have lengths := congrArg List.length lines
    unfold wallpaperScript at lengths
    rw [lengths]
    simp only [List.length_cons, List.length_append, List.length_zipWith, counted, Nat.min_self,
      length_pictureLines enough]
  have quoted : literals = (wallpapers.take desktops.length).map escapeQuotes := by
    rw [← zipWith_pictureLine_eq_iff enough counted]
    rw [wallpaperScript, linesOf_intercalate pieces (List.cons_ne_nil _ _)] at lines
    simpa using lines.symm
  subst quoted
  rw [List.forall₂_map_left_iff, List.forall₂_same] at read
  intro w taken
  constructor
  · have readBack := read w taken
    rw [toList_escapeQuotes] at readBack
    exact (readLiteral_quoteChars_iff w.toList).mp readBack
  · obtain ⟨desktop, present⟩ := exists_pictureLine taken
    rw [← newline_mem_pictureLine desktop]
    exact pieces _ (List.mem_cons_of_mem _ (List.mem_append_left _ present))

/-- The run writes one script whose lines are its head, one picture line per desktop and its end,
with each literal standing for its wallpaper, exactly when no wallpaper matched with a desktop
holds a backslash or a line feed. -/
theorem wallpaper_script_faithful_iff (desktops : List Int) (wallpapers : List String)
    (enough : desktops.length ≤ wallpapers.length) :
    QuotesFaithfully desktops wallpapers
        (Script.execute (setWallpapers (desktops.map .int) (wallpapers.map .str))) ↔
      ∀ w ∈ wallpapers.take desktops.length, '\\' ∉ w.toList ∧ '\n' ∉ w.toList :=
  ⟨plain_of_quotesFaithfully enough, quotesFaithfully_of_plain enough⟩

/-- A path with a double quote in it is quoted faithfully. -/
theorem quoted_name_faithful :
    QuotesFaithfully [4] ["/w/\"quoted\" name.jpg"]
      (Script.execute (setWallpapers (([4] : List Int).map .int)
        (["/w/\"quoted\" name.jpg"].map .str))) := by
  refine (wallpaper_script_faithful_iff [4] ["/w/\"quoted\" name.jpg"] (by decide)).mpr ?_
  simp only [List.length_singleton, List.take_succ_cons, List.take_zero, List.mem_singleton,
    forall_eq]
  decide

/-- The path a, backslash, n, b is not quoted faithfully: its backslash starts an escape. -/
theorem backslash_path_misread :
    ¬ QuotesFaithfully [1] ["a\\nb"]
      (Script.execute (setWallpapers (([1] : List Int).map .int) (["a\\nb"].map .str))) := by
  intro faithful
  have plain := plain_of_quotesFaithfully (by decide) faithful "a\\nb" (by simp)
  exact plain.1 (by decide)

end Faithful

end Listening.Desktop
