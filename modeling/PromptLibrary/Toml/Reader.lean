import PromptLibrary.Decimal.Binary64
import PromptLibrary.Toml.Basic

/-!
# Reading TOML

The reader accepts TOML 1.0. A value may be nested in fewer than eighty others and a key may have
fewer than eighty parts. A float that is too large to be a finite number is refused, and so is a
date that the calendar does not have.
-/

namespace PromptLibrary.Toml

/-- How deep values may be nested and how many parts a key may have, plus one. -/
def nestingBound : Nat := 80

/-! ## Space, comments and lines -/

/-- A character between the parts of a line. -/
def isSpace (c : Char) : Bool :=
  c == ' ' || c == '\t'

/-- A character that a comment may contain. -/
def isCommentChar (c : Char) : Bool :=
  c == '\t' || (0x20 ≤ c.toNat && c.toNat != 0x7F)

/-- The input after spaces. -/
def skipSpace (cs : List Char) : List Char :=
  cs.dropWhile isSpace

/-- The input after a line break. -/
def lineBreak? : List Char → Option (List Char)
  | '\n' :: cs => some cs
  | '\r' :: '\n' :: cs => some cs
  | _ => none

/-- The input after a comment, if there is one. -/
def skipComment : List Char → List Char
  | '#' :: cs => cs.dropWhile isCommentChar
  | cs => cs

/-- The input after the end of a line, or of the text. -/
def endLine (cs : List Char) : Option (List Char) :=
  match skipComment (skipSpace cs) with
  | [] => some []
  | rest => lineBreak? rest

/-- The input after spaces, comments and line breaks; the fuel bounds the number of lines. -/
def skipLines : Nat → List Char → List Char
  | 0, cs => cs
  | fuel + 1, cs =>
    match lineBreak? (skipComment (skipSpace cs)) with
    | some rest => skipLines fuel rest
    | none => skipComment (skipSpace cs)

/-! ## Strings -/

/-- The value of hexadecimal digits. -/
def hexValue? (cs : List Char) : Option Nat :=
  cs.foldlM (fun n c ↦
    if '0' ≤ c && c ≤ '9' then some (16 * n + (c.toNat - '0'.toNat))
    else if 'a' ≤ c && c ≤ 'f' then some (16 * n + (c.toNat - 'a'.toNat + 10))
    else if 'A' ≤ c && c ≤ 'F' then some (16 * n + (c.toNat - 'A'.toNat + 10))
    else none) 0

/-- The character with the given hexadecimal digits. -/
def scalar? (digits : List Char) : Option Char := do
  let n ← hexValue? digits
  if h : n.isValidChar then some (Char.ofNatAux n h) else none

/-- The character that a short escape stands for. -/
def shortEscape? : Char → Option Char
  | 'b' => some '\x08'
  | 't' => some '\t'
  | 'n' => some '\n'
  | 'f' => some '\x0c'
  | 'r' => some '\r'
  | '"' => some '"'
  | '\\' => some '\\'
  | _ => none

/-- A character that may stand for itself between quotes. -/
def isPlain (c : Char) : Bool :=
  c == '\t' || (0x20 ≤ c.toNat && c.toNat != 0x7F)

/-- The rest of a string in double quotes. -/
def readBasic : List Char → Option (List Char × List Char)
  | '"' :: rest => some ([], rest)
  | '\\' :: 'u' :: a :: b :: c :: d :: rest => do
    let x ← scalar? [a, b, c, d]
    let (s, rest) ← readBasic rest
    return (x :: s, rest)
  | '\\' :: 'U' :: a :: b :: c :: d :: e :: f :: g :: h :: rest => do
    let x ← scalar? [a, b, c, d, e, f, g, h]
    let (s, rest) ← readBasic rest
    return (x :: s, rest)
  | '\\' :: e :: rest => do
    let x ← shortEscape? e
    let (s, rest) ← readBasic rest
    return (x :: s, rest)
  | c :: rest => do
    if !isPlain c || c == '\\' then failure
    let (s, rest) ← readBasic rest
    return (c :: s, rest)
  | [] => none

/-- The rest of a string in single quotes. -/
def readLiteral : List Char → Option (List Char × List Char)
  | '\'' :: rest => some ([], rest)
  | c :: rest => do
    if !isPlain c then failure
    let (s, rest) ← readLiteral rest
    return (c :: s, rest)
  | [] => none

/-- The rest of a string in three double quotes. While `trimming`, after a backslash at the end of a
line, spaces and line breaks are passed over. One or two quotes may stand before the closing
ones. -/
def readBasicLines : Bool → List Char → Option (List Char × List Char)
  | true, ' ' :: rest => readBasicLines true rest
  | true, '\t' :: rest => readBasicLines true rest
  | true, '\n' :: rest => readBasicLines true rest
  | true, '\r' :: '\n' :: rest => readBasicLines true rest
  | _, '"' :: '"' :: '"' :: '"' :: '"' :: rest => some (['"', '"'], rest)
  | _, '"' :: '"' :: '"' :: '"' :: rest => some (['"'], rest)
  | _, '"' :: '"' :: '"' :: rest => some ([], rest)
  | _, '\r' :: '\n' :: rest => do
    let (s, rest) ← readBasicLines false rest
    return ('\n' :: s, rest)
  | _, '\\' :: 'u' :: a :: b :: c :: d :: rest => do
    let x ← scalar? [a, b, c, d]
    let (s, rest) ← readBasicLines false rest
    return (x :: s, rest)
  | _, '\\' :: 'U' :: a :: b :: c :: d :: e :: f :: g :: h :: rest => do
    let x ← scalar? [a, b, c, d, e, f, g, h]
    let (s, rest) ← readBasicLines false rest
    return (x :: s, rest)
  | _, '\\' :: e :: rest =>
    match shortEscape? e with
    | some x => do
      let (s, rest) ← readBasicLines false rest
      return (x :: s, rest)
    | none =>
      if (lineBreak? (skipSpace (e :: rest))).isSome then readBasicLines true (e :: rest) else none
  | _, c :: rest => do
    if !(isPlain c || c == '\n') || c == '\\' then failure
    let (s, rest) ← readBasicLines false rest
    return (c :: s, rest)
  | _, [] => none

/-- The rest of a string in three single quotes. One or two quotes may stand before the closing
ones. -/
def readLiteralLines : List Char → Option (List Char × List Char)
  | '\'' :: '\'' :: '\'' :: '\'' :: '\'' :: rest => some (['\'', '\''], rest)
  | '\'' :: '\'' :: '\'' :: '\'' :: rest => some (['\''], rest)
  | '\'' :: '\'' :: '\'' :: rest => some ([], rest)
  | '\r' :: '\n' :: rest => do
    let (s, rest) ← readLiteralLines rest
    return ('\n' :: s, rest)
  | c :: rest => do
    if !(isPlain c || c == '\n') then failure
    let (s, rest) ← readLiteralLines rest
    return (c :: s, rest)
  | [] => none

/-- The input after a line break that follows three opening quotes. -/
def skipFirstBreak (cs : List Char) : List Char :=
  (lineBreak? cs).getD cs

/-- A string. -/
def readString : List Char → Option (List Char × List Char)
  | '"' :: '"' :: '"' :: rest => readBasicLines false (skipFirstBreak rest)
  | '\'' :: '\'' :: '\'' :: rest => readLiteralLines (skipFirstBreak rest)
  | '"' :: rest => readBasic rest
  | '\'' :: rest => readLiteral rest
  | _ => none

/-! ## Keys -/

/-- A character of a key without quotes. -/
def isBareKeyChar (c : Char) : Bool :=
  c.isAlphanum || c == '_' || c == '-'

/-- One part of a key. -/
def readKeyPart : List Char → Option (String × List Char)
  | '"' :: rest => (readBasic rest).map fun (s, rest) ↦ (String.ofList s, rest)
  | '\'' :: rest => (readLiteral rest).map fun (s, rest) ↦ (String.ofList s, rest)
  | cs =>
    match cs.takeWhile isBareKeyChar with
    | [] => none
    | s => some (String.ofList s, cs.dropWhile isBareKeyChar)

/-- The parts of a key, with the spaces around them; the fuel bounds their number. -/
def readKeyParts : Nat → List Char → Option (List String × List Char)
  | 0, _ => none
  | fuel + 1, cs => do
    let (part, rest) ← readKeyPart (skipSpace cs)
    match skipSpace rest with
    | '.' :: rest => do
      let (parts, rest) ← readKeyParts fuel rest
      return (part :: parts, rest)
    | rest => return ([part], rest)

/-- A key: the path to its last part, and the last part. -/
def readKey (cs : List Char) : Option ((List String × String) × List Char) := do
  let (parts, rest) ← readKeyParts (nestingBound - 1) cs
  let last ← parts.getLast?
  return ((parts.dropLast, last), rest)

/-! ## Numbers and dates -/

/-- A decimal digit. -/
def isDigit (c : Char) : Bool :=
  '0' ≤ c && c ≤ '9'

/-- Digits in which single underscores may stand between two digits, without the underscores. -/
def readDigits (digit : Char → Bool) : List Char → Option (List Char × List Char)
  | c :: '_' :: rest =>
    if digit c then do
      let (ds, rest) ← readDigits digit rest
      return (c :: ds, rest)
    else none
  | c :: rest =>
    if digit c then
      match readDigits digit rest with
      | some (ds, rest) => some (c :: ds, rest)
      | none => if (rest.head?.map digit).getD false then none else some ([c], rest)
    else none
  | [] => none

/-- An optional sign: whether it is a minus sign. -/
def readSign : List Char → Bool × List Char
  | '+' :: rest => (false, rest)
  | '-' :: rest => (true, rest)
  | rest => (false, rest)

/-- The digits of a decimal number before its point: a zero, or digits that do not begin with
one. -/
def readWhole : List Char → Option (List Char × List Char)
  | '0' :: rest => some (['0'], rest)
  | rest => readDigits isDigit rest

/-- The value of digits of some base. -/
def numberValue (base : Nat) (ds : List Char) : Option Nat := do
  let n ← ds.foldlM (fun n c ↦ do return base * n + (← hexValue? [c])) 0
  return n

/-- A whole number, which must fit into a signed 64-bit word. -/
def readInteger (cs : List Char) : Option (Item × List Char) := do
  let (value, rest) ← match cs with
    | '0' :: 'x' :: rest => do
      let (ds, rest) ← readDigits (fun c ↦ (hexValue? [c]).isSome) rest
      pure ((← numberValue 16 ds : Int), rest)
    | '0' :: 'o' :: rest => do
      let (ds, rest) ← readDigits (fun c ↦ '0' ≤ c && c ≤ '7') rest
      pure ((← numberValue 8 ds : Int), rest)
    | '0' :: 'b' :: rest => do
      let (ds, rest) ← readDigits (fun c ↦ c == '0' || c == '1') rest
      pure ((← numberValue 2 ds : Int), rest)
    | cs => do
      let (negative, rest) := readSign cs
      let (ds, rest) ← readWhole rest
      let n ← numberValue 10 ds
      pure (if negative then -(n : Int) else n, rest)
  if -0x8000_0000_0000_0000 ≤ value && value < 0x8000_0000_0000_0000 then
    some (.integer value, rest)
  else none

/-- A decimal number is beyond the largest finite binary64 number. -/
def isTooLarge (digits : List Char) (exponent : Int) : Bool :=
  let n := (numberValue 10 digits).getD 0
  let top := (Nat.toDigits 10 n).length + exponent
  if n = 0 || top < 0 then false
  else if top > 400 then true
  else (Binary64.ofRatio false (n * Nat.pow 10 exponent.toNat)
    (Nat.pow 10 (-exponent).toNat)).isNone

/-- The fraction of a number, if there is one: its digits. -/
def readFraction : List Char → Option (List Char × List Char)
  | '.' :: rest => readDigits isDigit rest
  | rest => some ([], rest)

/-- The exponent of a number, if there is one. -/
def readExponent : List Char → Option (Option Int × List Char)
  | c :: rest =>
    if c == 'e' || c == 'E' then do
      let (negative, rest) := readSign rest
      let (ds, rest) ← readDigits isDigit rest
      let n ← numberValue 10 ds
      return (some (if negative then -(n : Int) else n), rest)
    else some (none, c :: rest)
  | [] => some (none, [])

/-- A number with a fraction or an exponent, or one of the words for what is not a finite number. -/
def readFloat (cs : List Char) : Option (Item × List Char) :=
  let (negative, unsigned) := readSign cs
  match unsigned with
  | 'i' :: 'n' :: 'f' :: rest => some (.float (cs.take (cs.length - rest.length)), rest)
  | 'n' :: 'a' :: 'n' :: rest => some (.float (cs.take (cs.length - rest.length)), rest)
  | _ => do
    let (whole, afterWhole) ← readWhole unsigned
    let (fraction, afterFraction) ← readFraction afterWhole
    let (exponent, rest) ← readExponent afterFraction
    if fraction.isEmpty && exponent.isNone then failure
    if !negative && isTooLarge (whole ++ fraction) (exponent.getD 0 - fraction.length) then failure
    return (.float (cs.take (cs.length - rest.length)), rest)

/-- A number of exactly two digits within bounds. -/
def readTwoDigits (low high : Nat) : List Char → Option (Nat × List Char)
  | a :: b :: rest => do
    if !(isDigit a && isDigit b) then failure
    let n := 10 * (a.toNat - '0'.toNat) + (b.toNat - '0'.toNat)
    if low ≤ n && n ≤ high then some (n, rest) else none
  | _ => none

/-- The number of days of a month. -/
def daysOfMonth (year month : Nat) : Nat :=
  if month = 2 then
    if year % 4 = 0 && (year % 100 ≠ 0 || year % 400 = 0) then 29 else 28
  else if month = 4 || month = 6 || month = 9 || month = 11 then 30
  else 31

/-- The input after a given character. -/
def skipChar (c : Char) : List Char → Option (List Char)
  | d :: rest => if c = d then some rest else none
  | [] => none

/-- The input after a time of day. -/
def skipTime (cs : List Char) : Option (List Char) := do
  let (_, rest) ← readTwoDigits 0 23 cs
  let (_, rest) ← readTwoDigits 0 59 (← skipChar ':' rest)
  let (_, rest) ← readTwoDigits 0 60 (← skipChar ':' rest)
  match rest with
  | '.' :: fraction =>
    if (fraction.takeWhile isDigit).isEmpty then return rest
    else return fraction.dropWhile isDigit
  | rest => return rest

/-- The input after an offset from universal time, if there is one. -/
def skipOffset : List Char → Option (List Char)
  | 'Z' :: rest => some rest
  | 'z' :: rest => some rest
  | c :: rest =>
    if c == '+' || c == '-' then do
      let (_, rest) ← readTwoDigits 0 23 rest
      let (_, rest) ← readTwoDigits 0 59 (← skipChar ':' rest)
      return rest
    else some (c :: rest)
  | [] => some []

/-- The input after a date. -/
def skipDate : List Char → Option (List Char)
  | a :: b :: rest => do
    let (century, _) ← readTwoDigits 0 99 [a, b]
    let (decade, rest) ← readTwoDigits 0 99 rest
    let (month, rest) ← readTwoDigits 1 12 (← skipChar '-' rest)
    let days := daysOfMonth (100 * century + decade) month
    let (_, rest) ← readTwoDigits 1 days (← skipChar '-' rest)
    return rest
  | [] => none
  | [_] => none

/-- The input after a time that follows a date, if there is one. -/
def skipTimeOfDate : List Char → Option (List Char)
  | c :: rest =>
    if c == 'T' || c == 't' || c == ' ' then
      match skipTime rest with
      | some rest => skipOffset rest
      | none => some (c :: rest)
    else some (c :: rest)
  | [] => some []

/-- A date, a time, or both. -/
def readMoment (cs : List Char) : Option (Item × List Char) := do
  let rest ← ((skipDate cs).bind skipTimeOfDate).or (skipTime cs)
  return (.moment (cs.take (cs.length - rest.length)), rest)

/-! ## Values

The fuel of the following readers bounds the number of items; `room` is the nesting that is left. -/

mutual

/-- A value. -/
def readValue : Nat → Nat → List Char → Option (Item × List Char)
  | 0, _, _ => none
  | fuel + 1, room, cs =>
    match cs with
    | '"' :: _ => (readString cs).map fun (s, rest) ↦ (.string (String.ofList s), rest)
    | '\'' :: _ => (readString cs).map fun (s, rest) ↦ (.string (String.ofList s), rest)
    | 't' :: 'r' :: 'u' :: 'e' :: rest => some (.boolean true, rest)
    | 'f' :: 'a' :: 'l' :: 's' :: 'e' :: rest => some (.boolean false, rest)
    | '[' :: rest =>
      match room with
      | 0 => none
      | room + 1 => (readItems fuel room rest).map fun (vs, rest) ↦ (.array vs, rest)
    | '\x7b' :: rest =>
      match room with
      | 0 => none
      | room + 1 =>
        match skipSpace rest with
        | '\x7d' :: rest => some (.braced false [], rest)
        | rest => (readPairs fuel room [] rest).map fun (es, rest) ↦ (.braced false es, rest)
    | cs => ((readMoment cs).or (readFloat cs)).or (readInteger cs)

/-- The rest of an array. -/
def readItems : Nat → Nat → List Char → Option (List Item × List Char)
  | 0, _, _ => none
  | fuel + 1, room, cs =>
    match skipLines cs.length cs with
    | ']' :: rest => some ([], rest)
    | cs => do
      let (v, rest) ← readValue fuel room cs
      match skipLines rest.length rest with
      | ',' :: rest => do
        let (vs, rest) ← readItems fuel room rest
        return (v :: vs, rest)
      | ']' :: rest => return ([v], rest)
      | _ => none

/-- The rest of a table in braces from a key on, given the entries before it. -/
def readPairs :
    Nat → Nat → Entries String Item → List Char → Option (Entries String Item × List Char)
  | 0, _, _, _ => none
  | fuel + 1, room, es, cs => do
    let ((path, key), rest) ← readKey cs
    let rest ← skipChar '=' rest
    let (v, rest) ← readValue fuel room (skipSpace rest)
    let es ← defineBraced key v path false false es
    match skipSpace rest with
    | ',' :: rest => readPairs fuel room es rest
    | '\x7d' :: rest => return (es, rest)
    | _ => none

end

/-! ## Documents -/

/-- The lines of a document, given the header they belong to and the root table before them; the
fuel bounds their number. -/
def readLines : Nat → List String → Entries String Item → List Char → Option (Entries String Item)
  | 0, _, _, _ => none
  | fuel + 1, header, root, cs =>
    match skipSpace cs with
    | [] => some root
    | '[' :: '[' :: rest => do
      let ((path, key), rest) ← readKey rest
      let rest ← endLine (← skipChar ']' (← skipChar ']' rest))
      readLines fuel (path ++ [key]) (← appendTable path key root) rest
    | '[' :: rest => do
      let ((path, key), rest) ← readKey rest
      let rest ← endLine (← skipChar ']' rest)
      readLines fuel (path ++ [key]) (← openTable path key root) rest
    | '#' :: rest => do
      readLines fuel header root (← endLine ('#' :: rest))
    | '\n' :: rest => readLines fuel header root rest
    | '\r' :: '\n' :: rest => readLines fuel header root rest
    | rest => do
      let ((path, key), rest) ← readKey rest
      let rest ← skipChar '=' rest
      let (v, rest) ← readValue (2 * rest.length + 2) (nestingBound - 1) (skipSpace rest)
      let rest ← endLine rest
      readLines fuel header (← define header path key v root) rest

/-- The table that a text spells. A byte order mark in front is passed over. -/
def parse? (text : String) : Option (Entries String Item) :=
  let cs := match text.toList with
    | '\ufeff' :: cs => cs
    | cs => cs
  readLines (cs.length + 1) [] [] cs

end PromptLibrary.Toml
