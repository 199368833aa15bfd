import Listening.Datum

/-!
# Scripts against a scripted world

The chores of this library talk to the outside world: they fetch pages, drive a browser, run
programs, wait and print. Here that world is scripted: each call to it is recorded in order, by
name with its arguments, and answered from data given in advance. Printed text is collected.
A world may also keep a state of its own (files on a disk, a queue of random draws), which the
script reads and changes as it goes.

A script either finishes with a value, stops with a failure (some call, or the script itself,
raised it), or exits with a status. The calls, the printed text and the world's state up to
that point remain.
-/

namespace Listening.World

/-- A call to the outside world: its name and its arguments. -/
structure Call where
  name : String
  args : List Datum := []

/-- The call as a list: its name, then its arguments. -/
def Call.toDatum (call : Call) : Datum :=
  .list (.str call.name :: call.args)

/-- The kinds of failure that stop a script. -/
inductive Failure where
  /-- An argument has the right shape but a wrong value. -/
  | wrongValue
  /-- A datum lacks an operation that was asked of it. -/
  | missingOperation
  /-- A datum of a wrong shape was used. -/
  | wrongShape
  /-- A mapping lacks a key. -/
  | missingKey
  /-- A list lacks a position. -/
  | missingPosition
  /-- The system refused an operation. -/
  | systemRefused
  /-- A file does not exist. -/
  | missingFile
  /-- A path names a file where a directory was needed. -/
  | notADirectory
  /-- A path names a directory where a file was needed. -/
  | isADirectory
  /-- A name was read before it was given a value. -/
  | unsetName
  /-- A download failed. -/
  | downloadFailed
  /-- The browser failed. -/
  | browserFailed
  /-- The browser found no element for a selector. -/
  | missingElement
  /-- A page could not be fetched. -/
  | pageUnreachable
  /-- A post could not be fetched. -/
  | postUnreachable
  /-- A server answered with an error. -/
  | badResponse
  /-- A server refused because of too many requests. -/
  | rateLimited
  /-- A table could not be read. -/
  | malformedTable
  /-- A number grew too large for a double. -/
  | overflow
deriving DecidableEq, Repr

/-- How a script ends when it does not finish. -/
inductive Stop where
  /-- A failure was raised, with its message. -/
  | raised (failure : Failure) (message : String)
  /-- The script exited with a status. -/
  | exit (status : Int)

/-- What a script leaves: the calls it made, the text it printed and its world's state. -/
structure Trace (σ : Type) where
  calls : Array Call := #[]
  printed : String := ""
  world : σ

/-- A script over a world whose state has type `σ`: it records calls and printed text, reads
and changes the state, and may stop early. -/
abbrev Scripted (σ : Type) := ExceptT Stop (StateM (Trace σ))

/-- A script over a world without a state of its own. -/
abbrev Script := Scripted Unit

namespace Scripted

variable {σ : Type}

/-- Records a call. -/
def call (name : String) (args : List Datum := []) : Scripted σ Unit :=
  modify fun trace => { trace with calls := trace.calls.push ⟨name, args⟩ }

/-- Prints a line. -/
def say (line : String) : Scripted σ Unit :=
  modify fun trace => { trace with printed := trace.printed ++ line ++ "\n" }

/-- Raises a failure. -/
def raise {α : Type} (failure : Failure) (message : String) : Scripted σ α :=
  throw (.raised failure message)

/-- Exits with a status. -/
def exitWith {α : Type} (status : Int) : Scripted σ α :=
  throw (.exit status)

/-- The world's state. -/
def world : Scripted σ σ :=
  return (← get).world

/-- Changes the world's state. -/
def alter (change : σ → σ) : Scripted σ Unit :=
  modify fun trace => { trace with world := change trace.world }

/-- Runs a script from a world's state, with no calls and nothing printed yet. -/
def execute {α : Type} (script : Scripted σ α) (start : σ) : Except Stop α × Trace σ :=
  StateT.run (ExceptT.run script) { world := start }

end Scripted

/-- Runs a script over a world without a state. -/
def Script.execute {α : Type} (script : Script α) : Except Stop α × Trace Unit :=
  Scripted.execute script ()

end Listening.World
