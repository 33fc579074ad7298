/-!
# Keyed entries in order

An object of a JSON document, the templates of a library and the files of a store are lists of
entries with distinct keys whose order can be observed. A later value for a key that is already
there replaces the earlier one in place. There are two ways to remove an entry: `erase` closes the
gap and so keeps the order of the rest, `swapErase` fills the gap with the last entry.

Keys are compared with `==`, which need not be equality: the first spelling of a key stays.
-/

namespace PromptLibrary

/-- Keyed entries in order. -/
abbrev Entries (κ α : Type) := List (κ × α)

namespace Entries

variable {κ α : Type} [BEq κ]

/-! ## Looking up -/

/-- The value of a key. -/
def get? (es : Entries κ α) (k : κ) : Option α :=
  (es.find? fun e ↦ e.1 == k).map (·.2)

/-- The key has a value. -/
def contains (es : Entries κ α) (k : κ) : Bool :=
  es.any fun e ↦ e.1 == k

/-- The keys in order. -/
def keys (es : Entries κ α) : List κ :=
  es.map (·.1)

/-! ## Changing -/

/-- Gives a key its value: in place if the key is there, else at the end. -/
def insert (k : κ) (v : α) : Entries κ α → Entries κ α
  | [] => [(k, v)]
  | (k', v') :: es => if k' == k then (k', v) :: es else (k', v') :: insert k v es

/-- The entries of a list of pairs in which later values of a key win. -/
def ofPairs (ps : List (κ × α)) : Entries κ α :=
  ps.foldl (fun es p ↦ insert p.1 p.2 es) []

/-- Changes the value of a key that is there. -/
def modify (k : κ) (f : α → α) : Entries κ α → Entries κ α
  | [] => []
  | (k', v) :: es => if k' == k then (k', f v) :: es else (k', v) :: modify k f es

/-- Removes a key and keeps the order of the rest. -/
def erase (k : κ) : Entries κ α → Entries κ α
  | [] => []
  | (k', v) :: es => if k' == k then es else (k', v) :: erase k es

/-- Removes a key and moves the last entry into its place. -/
def swapErase (k : κ) (es : Entries κ α) : Entries κ α :=
  let before := es.takeWhile fun e ↦ !(e.1 == k)
  match es.dropWhile fun e ↦ !(e.1 == k) with
  | [] => es
  | _ :: after =>
    match after.getLast? with
    | none => before
    | some last => before ++ last :: after.dropLast

end Entries

end PromptLibrary
