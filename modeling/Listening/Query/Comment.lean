/-!
# Comments in query text

A comment opens with three less-than signs and closes with the first three greater-than signs
that follow the opening. Removing comments scans from the left: each comment goes as a whole,
and the scan goes on after it. An opening without a closing ends the scan, and the text from
there stays as it is.
-/

namespace Listening.Query

/-- The text after the first closing mark, if there is one. -/
def afterClosing : List Char → Option (List Char)
  | [] => none
  | c :: rest => if c = '>' && rest.take 2 = ['>', '>'] then some (rest.drop 2) else afterClosing rest

theorem afterClosing_length_lt :
    ∀ {text rest : List Char}, afterClosing text = some rest → rest.length < text.length
  | [], _, h => by simp [afterClosing] at h
  | c :: more, rest, h => by
    unfold afterClosing at h
    split at h
    · simp only [Option.some.injEq] at h
      subst h
      simp only [List.length_drop, List.length_cons]
      omega
    · have := afterClosing_length_lt h
      simp only [List.length_cons]
      omega

/-- Removes the comments of a text. -/
def stripComments : List Char → List Char
  | [] => []
  | '<' :: '<' :: '<' :: rest =>
    match h : afterClosing rest with
    | some after =>
      have : after.length < rest.length := afterClosing_length_lt h
      stripComments after
    | none => '<' :: '<' :: '<' :: rest
  | c :: rest => c :: stripComments rest
termination_by text => text.length

end Listening.Query
