import PromptLibrary.Text.Case

/-!
# Paths

A path is a text; it is shown as it was given. What it denotes are its components: repeated and
trailing slashes and inner dots do not count, a leading dot does. Two paths are the same if their
components are.
-/

namespace PromptLibrary

/-! ## Components -/

/-- A component of a path. -/
inductive Component where
  /-- The leading slash of an absolute path. -/
  | root
  /-- A leading dot. -/
  | here
  /-- Two dots. -/
  | up
  /-- The name of a file or a directory. -/
  | name (text : String)
  deriving DecidableEq

/-- A path, as written. -/
structure Path where
  /-- The text of the path. -/
  text : String

namespace Path

instance : Inhabited Path := ⟨⟨""⟩⟩

/-- The texts between the slashes, empty ones included. -/
def segments : List Char → List (List Char)
  | [] => [[]]
  | c :: cs =>
    if c = '/' then [] :: segments cs
    else
      match segments cs with
      | [] => [[c]]
      | s :: ss => (c :: s) :: ss

/-- The component that a segment stands for, if it counts. The dot counts only where a path
begins. -/
def component? (first : Bool) (segment : List Char) : Option Component :=
  if segment = [] then none
  else if segment = ['.'] then if first then some .here else none
  else if segment = ['.', '.'] then some .up
  else some (.name (String.ofList segment))

/-- The components of the segments from the character at `offset` on, each with the offset at which
it ends. -/
def componentsFrom (offset : Nat) (first : Bool) : List (List Char) → List (Component × Nat)
  | [] => []
  | s :: ss =>
    let stop := offset + s.length
    let rest := componentsFrom (stop + 1) false ss
    match component? first s with
    | some c => (c, stop) :: rest
    | none => rest

/-- The path begins at the root. -/
def isAbsolute (p : Path) : Bool :=
  p.text.toList.head? == some '/'

/-- The components with the offsets at which they end in the text. -/
def spans (p : Path) : List (Component × Nat) :=
  match p.text.toList with
  | '/' :: cs => (.root, 1) :: componentsFrom 1 false (segments cs)
  | cs => componentsFrom 0 true (segments cs)

/-- The components in order. -/
def components (p : Path) : List Component :=
  p.spans.map (·.1)

/-- Paths are compared by their components. -/
instance : BEq Path := ⟨fun p q ↦ p.components == q.components⟩

theorem beq_iff {p q : Path} : (p == q) = true ↔ p.components = q.components := by
  show (p.components == q.components) = true ↔ _
  simp

instance : EquivBEq Path where
  rfl := beq_iff.2 rfl
  symm h := beq_iff.2 (beq_iff.1 h).symm
  trans h₁ h₂ := beq_iff.2 ((beq_iff.1 h₁).trans (beq_iff.1 h₂))

/-! ## Parts -/

/-- The name of the file or directory; none if the path ends in the root or in dots. -/
def fileName (p : Path) : Option String :=
  match p.components.getLast? with
  | some (.name s) => some s
  | _ => none

/-- The path without its last component; none if it has none but the root. -/
def parent (p : Path) : Option Path :=
  match p.spans.reverse with
  | [] => none
  | (.root, _) :: _ => none
  | _ :: [] => some ⟨""⟩
  | _ :: (_, stop) :: _ => some ⟨String.ofList (p.text.toList.take stop)⟩

/-- A file name cut at its last dot. A name whose only dot is the first character has no second
part. -/
def splitName (name : List Char) : List Char × Option (List Char) :=
  let extension := (name.reverse.takeWhile (· != '.')).reverse
  let stem := name.take (name.length - extension.length - 1)
  if stem.isEmpty then (name, none) else (stem, some extension)

/-- The file name without its extension. -/
def stem (p : Path) : Option String :=
  p.fileName.map fun n ↦ String.ofList (splitName n.toList).1

/-- The part of the file name after its last dot. -/
def extension (p : Path) : Option String :=
  p.fileName.bind fun n ↦ (splitName n.toList).2.map String.ofList

/-! ## Joining -/

/-- A path below another one. An absolute path replaces the base. -/
def join (base : Path) (s : String) : Path :=
  if (⟨s⟩ : Path).isAbsolute then ⟨s⟩
  else
    match base.text.toList.getLast? with
    | none => ⟨s⟩
    | some '/' => ⟨base.text ++ s⟩
    | some _ => ⟨base.text ++ "/" ++ s⟩

end Path

end PromptLibrary
