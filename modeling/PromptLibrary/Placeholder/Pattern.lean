import PromptLibrary.Placeholder.Basic
import PromptLibrary.Text.Word

/-!
# Finding placeholders in a text

A pattern says which delimiters a placeholder has and whether blanks are required around its name. A
text is read from left to right: where a token of the pattern begins it is taken as a whole,
elsewhere one character is passed over. The result is a list of pieces whose spellings, put
together, are the text.

Reading a token needs no search. After the opening delimiter come all blanks there are, then all
name characters there are, then all blanks there are; since these classes and the delimiters do not
meet, a token that exists at all is found this way.
-/

namespace PromptLibrary

open Text

/-! ## Tokens -/

/-- A placeholder as it is spelled. -/
structure Token where
  /-- The opening delimiter. -/
  opening : List Char
  /-- The blanks before the name. -/
  before : List Char
  /-- The name. -/
  name : List Char
  /-- The blanks after the name. -/
  after : List Char
  /-- The closing delimiter. -/
  closing : List Char
  deriving DecidableEq

/-- The characters of a token. -/
def Token.spelling (t : Token) : List Char :=
  t.opening ++ t.before ++ t.name ++ t.after ++ t.closing

/-- The shape of the tokens that are looked for. -/
structure Pattern where
  /-- What opens a token. -/
  opening : List Char
  /-- What closes a token. -/
  closing : List Char
  /-- The name must have blanks on both sides. -/
  spaced : Bool
  deriving DecidableEq

namespace Pattern

/-- The pattern of a kind of placeholder. -/
def ofKind (k : Placeholder.Kind) : Pattern :=
  ⟨k.opening, k.closing, k ≠ .text⟩

/-- The pattern for removing output placeholders: blanks around the name are optional. -/
def looseOutput : Pattern :=
  { ofKind .output with spaced := false }

/-- The token has the shape of the pattern. -/
def Fits (p : Pattern) (t : Token) : Prop :=
  t.opening = p.opening ∧ t.closing = p.closing ∧ t.name ≠ [] ∧
    (∀ c ∈ t.name, isNameChar c = true) ∧
    (∀ c ∈ t.before, isBlank c = true) ∧ (∀ c ∈ t.after, isBlank c = true) ∧
    (p.spaced = true → t.before ≠ [] ∧ t.after ≠ [])

/-- The input after a given beginning. -/
def dropBeginning? : List Char → List Char → Option (List Char)
  | [], cs => some cs
  | _ :: _, [] => none
  | b :: bs, c :: cs => if b = c then dropBeginning? bs cs else none

/-- The token at the beginning of the input. -/
def tokenAt? (p : Pattern) (cs : List Char) : Option Token := do
  let inner ← dropBeginning? p.opening cs
  let before := inner.takeWhile isBlank
  let inner := inner.dropWhile isBlank
  let name := inner.takeWhile isNameChar
  let inner := inner.dropWhile isNameChar
  let after := inner.takeWhile isBlank
  let inner := inner.dropWhile isBlank
  let _ ← dropBeginning? p.closing inner
  if name.isEmpty then none
  else if p.spaced && (before.isEmpty || after.isEmpty) then none
  else some ⟨p.opening, before, name, after, p.closing⟩

/-! ## Pieces -/

/-- A piece of a text that is read with a pattern. -/
inductive Piece where
  /-- A character outside every token. -/
  | char (c : Char)
  /-- A token. -/
  | token (t : Token)
  deriving DecidableEq

/-- The characters of a piece. -/
def Piece.spelling : Piece → List Char
  | .char c => [c]
  | .token t => t.spelling

/-- The pieces of the input after `skip` characters, which belong to a token already taken. -/
def piecesAfter (p : Pattern) : Nat → List Char → List Piece
  | _, [] => []
  | skip + 1, _ :: cs => piecesAfter p skip cs
  | 0, c :: cs =>
    match p.tokenAt? (c :: cs) with
    | some t => .token t :: piecesAfter p (t.spelling.length - 1) cs
    | none => .char c :: piecesAfter p 0 cs

/-- The pieces of a text. -/
def pieces (p : Pattern) (cs : List Char) : List Piece :=
  p.piecesAfter 0 cs

/-- The tokens of a text, from left to right. -/
def tokens (p : Pattern) (cs : List Char) : List Token :=
  (p.pieces cs).filterMap fun
    | .token t => some t
    | .char _ => none

/-- The text without its tokens. -/
def remove (p : Pattern) (cs : List Char) : List Char :=
  (p.pieces cs).filterMap fun
    | .char c => some c
    | .token _ => none

end Pattern

end PromptLibrary
