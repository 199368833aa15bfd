import Listening.Tokenizer.Key
import Listening.Tokenizer.Split

/-!
# Encoding and decoding with a vocabulary

A vocabulary lists token texts with their identifiers. Encoding splits a text into pieces and
looks each piece up; the second generation first replaces every piece that the vocabulary lacks
by the unknown token `<|unk|>`. Decoding looks up the token of each identifier (when several
tokens share an identifier, the last one listed) and joins the tokens.
-/

namespace Listening.Tokenizer

/-- Why a tokenizer step fails. -/
inductive TokenFault where
  /-- A piece has no identifier. -/
  | unknownPiece (piece : String)
  /-- An identifier has no token. -/
  | unknownKey (key : Key)
  /-- A datum of this shape cannot be an identifier. -/
  | unhashable (shape : String)
  /-- A datum of this shape is no sequence of identifiers. -/
  | notIterable (shape : String)
  /-- A datum of this shape is no text. -/
  | notText (shape : String)
  /-- A datum of this shape is no vocabulary. -/
  | notMapping (shape : String)

/-- The message of a tokenizer fault. -/
def TokenFault.message : TokenFault → String
  | .unknownPiece piece => Text.literal piece
  | .unknownKey key => key.literal
  | .unhashable shape => "unhashable type: '" ++ shape ++ "'"
  | .notIterable shape => "'" ++ shape ++ "' object is not iterable"
  | .notText shape => "expected string or bytes-like object, got '" ++ shape ++ "'"
  | .notMapping shape => "'" ++ shape ++ "' object has no attribute 'items'"

/-- The token that stands for pieces missing from the vocabulary. -/
def unknownToken : String := "<|unk|>"

/-- Token texts with their identifiers, in order. -/
structure Vocabulary where
  entries : List (String × Key)

namespace Vocabulary

/-- Reads a vocabulary from a record of token texts and identifiers. -/
def ofDatum : Datum → Except TokenFault Vocabulary
  | .record fields =>
    let entries : Except String (List (String × Key)) :=
      fields.mapM fun (field : String × Datum) => (Key.ofDatum field.2).map (field.1, ·)
    (entries.map Vocabulary.mk).mapError TokenFault.unhashable
  | other => .error (.notMapping other.shapeName)

/-- The identifier of a token. -/
def keyOf? (vocabulary : Vocabulary) (token : String) : Option Key :=
  (vocabulary.entries.find? (·.1 == token)).map (·.2)

/-- The token of an identifier: the last one listed with that identifier. -/
def tokenOf? (vocabulary : Vocabulary) (key : Key) : Option String :=
  (vocabulary.entries.reverse.find? (·.2.same key)).map (·.1)

/-- Encodes a text. -/
def encode (vocabulary : Vocabulary) (generation : Generation) (text : String) :
    Except TokenFault (List Key) :=
  let pieces := generation.split text
  let pieces := match generation with
    | .first => pieces
    | .second => pieces.map fun piece =>
      if (vocabulary.keyOf? piece).isSome then piece else unknownToken
  pieces.mapM fun piece =>
    match vocabulary.keyOf? piece with
    | some key => .ok key
    | none => .error (.unknownPiece piece)

/-- Decodes identifiers. -/
def decode (vocabulary : Vocabulary) (generation : Generation) (keys : List Key) :
    Except TokenFault String :=
  let tokens : Except TokenFault (List String) := keys.mapM fun key =>
    match vocabulary.tokenOf? key with
    | some token => .ok token
    | none => .error (.unknownKey key)
  tokens.map generation.join

end Vocabulary

/-- The identifiers that a datum holds, in order: the items of a list, the characters of a text
or the field names of a record. -/
def keysOf : Datum → Except TokenFault (List Key)
  | .list items => items.mapM fun item => (Key.ofDatum item).mapError TokenFault.unhashable
  | .str text => .ok (text.toList.map fun c => .text c.toString)
  | .record fields => .ok (fields.map fun field => .text field.1)
  | other => .error (.notIterable other.shapeName)

/-- Decodes the identifiers of a datum; an identifier is checked just before it is looked up. -/
def Vocabulary.decodeDatum (vocabulary : Vocabulary) (generation : Generation) (ids : Datum) :
    Except TokenFault String :=
  match ids with
  | .list items =>
    (items.mapM fun item => do
      let key ← (Key.ofDatum item).mapError TokenFault.unhashable
      match vocabulary.tokenOf? key with
      | some token => .ok token
      | none => .error (.unknownKey key)).map generation.join
  | other => do vocabulary.decode generation (← keysOf other)

end Listening.Tokenizer
