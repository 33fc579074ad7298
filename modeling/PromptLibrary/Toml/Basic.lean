import PromptLibrary.Entries

/-!
# TOML tables

A configuration file is a table of tables. Which definitions may follow which is decided by how a
table came about: by its own header, as the parent of somebody's header, or by a dotted key. A table
must not be defined twice, and a header cannot continue what dotted keys have built, nor the other
way round.
-/

namespace PromptLibrary.Toml

/-! ## Values -/

/-- What a key stands for. -/
inductive Item where
  /-- A text. -/
  | string (value : String)
  /-- A whole number. -/
  | integer (value : Int)
  /-- A number with a fraction or an exponent, as written. -/
  | float (text : List Char)
  /-- A truth value. -/
  | boolean (value : Bool)
  /-- A date or a time, as written. -/
  | moment (text : List Char)
  /-- A list of values. -/
  | array (items : List Item)
  /-- A table in braces; `dotted` if a dotted key inside of braces built it. -/
  | braced (dotted : Bool) (entries : List (String × Item))
  /-- A table with lines of its own. It is implicit until it gets its own header; `dotted` if a
  dotted key built it. -/
  | table (implicit dotted : Bool) (entries : List (String × Item))
  /-- The tables under one header in double brackets. -/
  | tables (elements : List (List (String × Item)))

/-- The text of a text value. -/
def Item.string? : Item → Option String
  | .string s => some s
  | _ => none

/-- The number of a whole number. -/
def Item.integer? : Item → Option Int
  | .integer n => some n
  | _ => none

/-! ## Definitions -/

/-- Adds a key to a table that was reached by a dotted path or by none. The key must be new, and
what dotted keys have built is open to dotted keys only. -/
def addKey (viaDots : Bool) (key : String) (value : Item) (dotted : Bool)
    (es : Entries String Item) : Option (Entries String Item) :=
  if viaDots != dotted then none
  else if Entries.contains es key then none
  else some (Entries.insert key value es)

/-- Changes the table at a path of keys below a table whose `dotted` flag and entries are given.
Missing tables on the way are created as implicit ones. The way of a dotted key does not lead
through a table with a header; any way leads through the last table of a row in double brackets. -/
def changeAt (byDots : Bool) (change : Bool → Entries String Item → Option (Entries String Item)) :
    List String → Bool → Entries String Item → Option (Entries String Item)
  | [], dotted, es => change dotted es
  | k :: ks, _, es =>
    match Entries.get? es k with
    | none => do
      let inner ← changeAt byDots change ks byDots []
      return Entries.insert k (.table true byDots inner) es
    | some (.table implicit dotted inner) =>
      if byDots && !implicit then none
      else do
        let inner ← changeAt byDots change ks dotted inner
        return Entries.insert k (.table implicit dotted inner) es
    | some (.tables elements) => do
      let last ← elements.getLast?
      let inner ← changeAt byDots change ks false last
      return Entries.insert k (.tables (elements.dropLast ++ [inner])) es
    | some _ => none

/-- Gives a value to a dotted key in the table under the current header. -/
def define (header path : List String) (key : String) (value : Item) (root : Entries String Item) :
    Option (Entries String Item) :=
  changeAt false (fun dotted es ↦ changeAt true (addKey (!path.isEmpty) key value) path dotted es)
    header false root

/-- Opens the table under a header. It must be new, or known only as a parent of other headers. -/
def openTable (path : List String) (key : String) (root : Entries String Item) :
    Option (Entries String Item) :=
  changeAt false (fun _ es ↦
    match Entries.get? es key with
    | none => some (Entries.insert key (.table false false []) es)
    | some (.table true false inner) => some (Entries.insert key (.table false false inner) es)
    | some _ => none) path false root

/-- Adds a table to the row under a header in double brackets. -/
def appendTable (path : List String) (key : String) (root : Entries String Item) :
    Option (Entries String Item) :=
  changeAt false (fun _ es ↦
    match Entries.get? es key with
    | none => some (Entries.insert key (.tables [[]]) es)
    | some (.tables elements) => some (Entries.insert key (.tables (elements ++ [[]])) es)
    | some _ => none) path false root

/-- Gives a value to a dotted key inside of braces, where the table at hand was built by a dotted
key or not. -/
def defineBraced (key : String) (value : Item) :
    List String → Bool → Bool → Entries String Item → Option (Entries String Item)
  | [], viaDots, dotted, es => addKey viaDots key value dotted es
  | k :: ks, _, _, es =>
    match Entries.get? es k with
    | none => do
      let inner ← defineBraced key value ks true true []
      return Entries.insert k (.braced true inner) es
    | some (.braced true inner) => do
      let inner ← defineBraced key value ks true true inner
      return Entries.insert k (.braced true inner) es
    | some _ => none

end PromptLibrary.Toml
