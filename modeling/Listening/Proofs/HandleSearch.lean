import Listening.Proofs.CallLog
import Listening.Social.Roster
import Mathlib.Data.List.SplitBy

/-!
# Searching for a person's handles

What the search for a person does on scripted pages. `searchOn` is the handle the page fetched
for a name points at, and `findHandle_makes` says that the search gives it after one request,
whatever the page: a page that cannot be reached is reported and finds nothing.

A name is shortened exactly when it has more than two parts (`shortenName_ne_self_iff`): the
shortened name is two words with a space between them, and such a text has two parts. The
handles of a name (`handlesOf`) are those of the full name and then those of the shortened one,
each once; `handlesFor_makes` says the search for a text name finds them, with one request per
name searched.
-/

namespace Listening.Social

open Listening.World Listening.World.Scripted Listening.Web

/-- What fetching an address gives among scripted pages: the page's markup, an empty page where
there is none, or the failure of a page that cannot be reached. -/
def fetched (pages : List (String × Page)) (address : String) : Except Stop String :=
  match Media.lookup pages address with
  | some (.body markup) => .ok markup
  | some (.unreachable message) => .error (.raised .pageUnreachable message)
  | none => .ok ""

/-- The account a search page names: the first link that points at an account of the service. -/
def handleOnPage (page : String) : Option String :=
  (Node.elementsWithin "a" "href" (Node.parse page)).findSome? fun link =>
    (link.attribute? "href").bind handleOf?

/-- The handle a search for a person finds among scripted pages, none when its page cannot be
fetched. -/
def searchOn (pages : List (String × Page)) (person : String) : Option String :=
  match fetched pages (searchPage (quote person)) with
  | .ok page => handleOnPage page
  | .error _ => none

/-- The request for the search page of a person. -/
def searchCall (person : String) : Call :=
  ⟨"get", [.str (searchPage (quote person)), requestHeaders]⟩

/-- A fetch makes one request and gives what the scripted pages hold at the address. -/
theorem fetch_makes (address : String) (desk : Desk) :
    Makes (fetch address) desk (fetched desk.pages address)
      [⟨"get", [.str address, requestHeaders]⟩] desk := by
  unfold fetch fetched
  apply Makes.calls_eq
  case makes =>
    apply Makes.bind (Makes.call _ _ desk)
    apply Makes.bind (Makes.world desk)
    cases Media.lookup desk.pages address with
    | none => exact Makes.pure _ desk
    | some page =>
      cases page with
      | body markup => exact Makes.pure _ desk
      | unreachable message => exact Makes.raise _ _ desk
  case same => rfl

/-- Fetching fails only for a page that cannot be reached. -/
theorem fetched_error {pages : List (String × Page)} {address : String} {stop : Stop}
    (failed : fetched pages address = .error stop) :
    ∃ message, stop = .raised .pageUnreachable message := by
  unfold fetched at failed
  split at failed
  · cases failed
  · next message _ => cases failed; exact ⟨message, rfl⟩
  · cases failed

/-- A search for a text name makes one request and finds the handle its page points at, with the
profile address; a page that cannot be reached is reported and finds nothing. -/
theorem findHandle_makes (person : String) (desk : Desk) :
    Makes (findHandle (.str person)) desk
      (.ok ((searchOn desk.pages person).map fun handle => (handle, profileAddress handle)))
      [searchCall person] desk := by
  unfold findHandle searchOn
  apply Makes.calls_eq
  case makes =>
    apply Makes.bind (Makes.pure person desk)
    have fetching := fetch_makes (searchPage (quote person)) desk
    cases page : fetched desk.pages (searchPage (quote person)) with
    | ok markup =>
      rw [page] at fetching
      apply Makes.tryCatch_ok
      exact Makes.bind fetching (Makes.bind (Makes.say _ desk) (Makes.pure _ desk))
    | error stop =>
      obtain ⟨message, rfl⟩ := fetched_error page
      rw [page] at fetching
      exact Makes.tryCatch_error (Makes.bind_error fetching)
        (Makes.bind (Makes.say _ desk) (Makes.pure _ desk))
  case same => rfl

section Names

/-- Every part of a name is a word: not empty, and without a blank character. -/
theorem word_of_mem_nameParts {name part : String} (member : part ∈ nameParts name) :
    part.toList ≠ [] ∧ ∀ c ∈ part.toList, Text.isBlank c = false := by
  unfold nameParts at member
  simp only [List.mem_map, List.mem_filter, List.any_eq_true, Bool.not_eq_eq_eq_not,
    Bool.not_true] at member
  obtain ⟨run, ⟨split, c, inRun, shown⟩, rfl⟩ := member
  have filled : run ≠ [] := List.ne_nil_of_mem_splitBy split
  -- a run of the split has one side throughout, that of its first character
  have oneSide : ∀ d ∈ run, Text.isBlank d = Text.isBlank (run.head filled) :=
    (List.isChain_of_mem_splitBy split).induction _ _
      (fun x y same before => by simpa [before] using (beq_iff_eq.mp same).symm) (fun _ => rfl)
  refine ⟨by simpa using filled, fun d inPart => ?_⟩
  rw [String.toList_ofList] at inPart
  rw [oneSide d inPart, ← oneSide c inRun, shown]

/-- The characters of a word make one run. -/
theorem splitBy_word {word : List Char} (filled : word ≠ [])
    (plain : ∀ c ∈ word, Text.isBlank c = false) :
    word.splitBy (fun a b => Text.isBlank a == Text.isBlank b) = [word] := by
  apply List.splitBy_of_isChain filled
  apply List.Pairwise.isChain
  exact List.pairwise_of_forall_mem_list fun a inA b inB => by simp [plain a inA, plain b inB]

/-- Two words with one space between them are a name of exactly those two parts. -/
theorem nameParts_two_words {first last : String} (firstFilled : first.toList ≠ [])
    (firstPlain : ∀ c ∈ first.toList, Text.isBlank c = false) (lastFilled : last.toList ≠ [])
    (lastPlain : ∀ c ∈ last.toList, Text.isBlank c = false) :
    nameParts (first ++ " " ++ last) = [first, last] := by
  have space : Text.isBlank ' ' = true := by decide +kernel
  have chars : (first ++ " " ++ last).toList = first.toList ++ ' ' :: last.toList := by simp
  obtain ⟨after, rest, opened⟩ := List.exists_cons_of_ne_nil lastFilled
  unfold nameParts
  rw [chars, List.splitBy_append_cons, ← List.singleton_append, List.splitBy_append,
    splitBy_word firstFilled firstPlain, splitBy_word lastFilled lastPlain]
  · have firstKept : first.toList.any (fun c => !Text.isBlank c) = true := by
      obtain ⟨c, more, started⟩ := List.exists_cons_of_ne_nil firstFilled
      simp [started, firstPlain c (by simp [started])]
    have lastKept : last.toList.any (fun c => !Text.isBlank c) = true := by
      simp [opened, lastPlain after (by simp [opened])]
    simp [List.splitBy, List.splitBy.loop, space, firstKept, lastKept]
  · simp [opened, space, lastPlain after (by simp [opened])]
  · intro x ended
    simp [firstPlain x (List.mem_of_mem_getLast? ended), space]

/-- A name is shortened exactly when it has more than two parts. -/
theorem shortenName_ne_self_iff (name : String) :
    shortenName name ≠ name ↔ 2 < (nameParts name).length := by
  unfold shortenName
  split
  next first second last rest parts =>
    refine ⟨fun _ => by simp [parts], fun _ same => ?_⟩
    -- the shortened name has two parts, and the name more
    obtain ⟨firstFilled, firstPlain⟩ :=
      word_of_mem_nameParts (by simp [parts] : first ∈ nameParts name)
    obtain ⟨lastFilled, lastPlain⟩ := word_of_mem_nameParts
      (by rw [parts]; simp [List.getLast_mem] :
        (last :: rest).getLast (List.cons_ne_nil _ _) ∈ nameParts name)
    have two := nameParts_two_words firstFilled firstPlain lastFilled lastPlain
    rw [same, parts] at two
    simp at two
  next fewer =>
    simp only [ne_eq, not_true_eq_false, false_iff, Nat.not_lt]
    match parts : nameParts name with
    | [] | [_] | [_, _] => simp
    | first :: second :: last :: rest => exact (fewer first second last rest parts).elim

example : shortenName "Jane  Q. Doe" = "Jane Doe" ∧ shortenName "Jane  Doe" = "Jane  Doe" := by
  decide +kernel

end Names

section Handles

/-- A handle with the address of its profile. -/
def withProfile (handle : String) : String × String :=
  (handle, profileAddress handle)

/-- The handles found by the name without its middle parts: searched for only when the name has
more than two parts. -/
def shortSearch (pages : List (String × Page)) (full : String) : List String :=
  if 2 < (nameParts full).length then (searchOn pages (shortenName full)).toList else []

/-- The handles found for a name, each once: by the full name first, then by the name without
its middle parts. -/
def handlesOf (pages : List (String × Page)) (full : String) : List String :=
  ((searchOn pages full).toList ++ shortSearch pages full).eraseDups

/-- The searches made for a name: by the full name, then by the shortened one if it differs. -/
def searchCalls (full : String) : List Call :=
  searchCall full :: if 2 < (nameParts full).length then [searchCall (shortenName full)] else []

/-- Adding the handle found by the shortened name to the one found by the full name keeps the
handles once each, and searches only for a name of more than two parts. -/
theorem addShortened_makes (full : String) (first : Option String) (desk : Desk) :
    Makes (addShortened full (first.toList.map withProfile)) desk
      (.ok ((first.toList ++ shortSearch desk.pages full).eraseDups.map withProfile))
      (searchCalls full).tail desk := by
  unfold addShortened shortSearch searchCalls
  by_cases longer : 2 < (nameParts full).length
  · have shortened : (shortenName full != full) = true := by
      simpa using (shortenName_ne_self_iff full).mpr longer
    simp only [shortened, longer, if_true, List.tail_cons]
    apply Makes.calls_eq
    case makes =>
      apply Makes.bind (findHandle_makes _ desk)
      cases searchOn desk.pages (shortenName full) with
      | none =>
        have kept : (first.toList ++ []).eraseDups = first.toList := by
          cases first <;> simp [List.eraseDups_cons]
        rw [Option.toList_none, kept]
        exact Makes.bind (Makes.say _ desk) (Makes.pure _ desk)
      | some handle =>
        cases first with
        | none =>
          have fresh : (!([] : List (String × String)).any fun x => x.fst == handle) = true := rfl
          rw [Option.toList_none, List.map_nil, Option.toList_some, Option.map_some]
          dsimp only
          rw [if_pos fresh]
          exact Makes.bind (Makes.say _ desk) (Makes.pure _ desk)
        | some found =>
          rw [Option.toList_some, Option.toList_some, Option.map_some]
          dsimp only
          by_cases same : found = handle
          · subst same
            have once : ([found] ++ [found]).eraseDups = [found] := by simp [List.eraseDups_cons]
            rw [if_neg (by simp [withProfile]), once]
            exact Makes.pure _ desk
          · have both : ([found] ++ [handle]).eraseDups = [found, handle] := by
              simp [List.eraseDups_cons, Ne.symm same]
            have fresh : (!([found].map withProfile).any fun x => x.fst == handle) = true := by
              simp [withProfile, same]
            rw [if_pos fresh, both]
            exact Makes.bind (Makes.say _ desk) (Makes.pure _ desk)
    case same => rfl
  · have kept : (shortenName full != full) = false := by
      simpa using mt (shortenName_ne_self_iff full).mp longer
    simp only [kept, longer, if_false, List.tail_cons, List.append_nil]
    cases first <;> exact Makes.pure _ desk

/-- A search for a text name finds the handles of the name, each once, having made one search
for the full name and, for a name of more than two parts, one for the shortened name. -/
theorem handlesFor_makes (full : String) (desk : Desk) :
    Makes (handlesFor (.str full)) desk (.ok ((handlesOf desk.pages full).map withProfile))
      (searchCalls full) desk := by
  unfold handlesFor handlesOf
  apply Makes.calls_eq
  case makes =>
    apply Makes.bind (findHandle_makes full desk)
    -- either way the found handles go on to the search by the shortened name
    cases searchOn desk.pages full with
    | none =>
      exact Makes.bind (Makes.say _ desk) (Makes.bind (Makes.pure _ desk)
        (Makes.bind (Makes.pure full desk) (addShortened_makes full none desk)))
    | some handle =>
      exact Makes.bind (Makes.say _ desk) (Makes.bind (Makes.pure _ desk)
        (Makes.bind (Makes.pure full desk) (addShortened_makes full (some handle) desk)))
  case same => rfl

end Handles

end Listening.Social
