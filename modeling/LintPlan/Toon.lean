import LintPlan.Json.Printer
import LintPlan.Text.Letters
/-!
# Writing TOON

The token-saving notation for values: entries on lines of their own, two blanks for each level, lists with
their length in front, lists of records as tables.
-/

namespace LintPlan.Toon

open Json

/-! ## Scalars and keys -/

/-- Characters that may not stand in a bare text. -/
def isSpecial (c : Char) : Bool :=
  [',', '[', ']', '\x7b', '\x7d', ':', '-', '\n', '\r', ' ', '\t'].contains c

/-- Could the text be taken for a number? A minus sign may stand in front of the first digit, and a zero
may not stand in front of another digit. -/
def looksNumeric (cs : List Char) : Bool :=
  let body := match cs with
    | '-' :: rest => rest
    | _ => cs
  match body with
  | [] => false
  | first :: more =>
    let padded := first == '0' && (more.head?.map Char.isDigit).getD false
    first.isDigit && !padded &&
      more.all fun c => c.isDigit || ['.', 'e', 'E', '+', '-'].contains c

/-- Does a text need quotes? -/
def needsQuotes (cs : List Char) : Bool :=
  cs.isEmpty || ["null".toList, "true".toList, "false".toList].contains cs || looksNumeric cs ||
    cs.any isSpecial

/-- One character between quotes. -/
def escaped (c : Char) : List Char :=
  match c with
  | '\n' => ['\\', 'n']
  | '\r' => ['\\', 'r']
  | '\t' => ['\\', 't']
  | '"' => ['\\', '"']
  | '\\' => ['\\', '\\']
  | c => [c]

/-- A text between quotes. -/
def quoted (cs : List Char) : List Char := '"' :: cs.flatMap escaped ++ ['"']

/-- A text, with quotes if it needs them. -/
def textChars (s : String) : List Char :=
  if needsQuotes s.toList then quoted s.toList else s.toList

/-- May a key stand without quotes? -/
def isBareKey (cs : List Char) : Bool :=
  match cs with
  | [] => false
  | first :: more =>
    (Text.isLetter first || first == '_') &&
      more.all fun c => Text.isLetterOrNumber c || c == '_' || c == '.'

/-- A key, with quotes if it needs them. -/
def keyChars (key : String) : List Char :=
  if isBareKey key.toList then key.toList else quoted key.toList

/-- A number that is no integer of its own: whole numbers get `.0` after as many digits as an integer of 64 bits
can have, the others are written without an exponent. -/
def floatChars (x : Binary64) : List Char :=
  match x with
  | .finite s m e =>
    if m = 0 && s then ['0']
    else if x.isInteger then intText x.toInt64 ++ ['.', '0']
    else Binary64.signed s (Decimal.shortest m e).positional
  | _ => "null".toList

/-- The text of a scalar; lists and objects have none. -/
def scalar? : Json → Option (List Char)
  | .null => some "null".toList
  | .bool b => some (if b then "true" else "false").toList
  | .int i => some (intText i)
  | .float x => some (floatChars x)
  | .str s => some (textChars s)
  | .date => some "null".toList
  | .arr _ => none
  | .obj _ => none

/-! ## Lists -/

/-- The blanks in front of a line. -/
def indent (depth : Nat) : List Char := List.replicate (2 * depth) ' '

/-- The number of items between brackets. -/
def countChars (n : Nat) : List Char := '[' :: Text.numeral n ++ [']']

/-- The scalars of a list that holds nothing else. -/
def scalars? (items : List Json) : Option (List (List Char)) := items.mapM scalar?

/-- The keys of objects that all have the same keys in the same order, with scalars only. -/
def tableKeys? : List Json → Option (List String)
  | .obj entries :: rest =>
    let keys := entries.map (·.1)
    let fits : Json → Bool
      | .obj es => es.map (·.1) == keys && es.all fun e => (scalar? e.2).isSome
      | _ => false
    if fits (.obj entries) && rest.all fits then some keys else none
  | _ => none

/-- The row of a table. -/
def rowChars : Json → List Char
  | .obj entries => Text.join [','] (entries.filterMap fun e => scalar? e.2)
  | _ => []

/-- A table: its head and a line for each row. -/
def tableChars (depth : Nat) (keys : List String) (rows : List Json) : List Char :=
  countChars rows.length ++ '\x7b' :: Text.join [','] (keys.map keyChars) ++ ['\x7d', ':'] ++
    rows.flatMap fun row => '\n' :: indent (depth + 1) ++ rowChars row

/-- A list of scalars on one line. -/
def inlineChars (items : List (List Char)) : List Char :=
  countChars items.length ++ ':' :: ' ' :: Text.join [','] items

/-- A list that needs no lines for items: a table or a line of scalars. -/
def closedForm? (depth : Nat) (items : List Json) : Option (List Char) :=
  match tableKeys? items with
  | some keys => some (tableChars depth keys items)
  | none => (scalars? items).map inlineChars

/-! ## Values -/

mutual

/-- A list without its key: a table, a line of scalars, or a line for each item. -/
def listChars (depth : Nat) : List Json → List Char
  | [] => ['[', '0', ']', ':']
  | j :: js =>
    match closedForm? depth (j :: js) with
    | some text => text
    | none =>
      countChars (js.length + 1) ++ ':' :: '\n' :: indent (depth + 1) ++ '-' :: ' ' ::
        itemChars depth j ++ itemLines depth js

/-- The items of a list, each on a line of its own. -/
def itemLines (depth : Nat) : List Json → List Char
  | [] => []
  | j :: js => '\n' :: indent (depth + 1) ++ '-' :: ' ' :: itemChars depth j ++ itemLines depth js

/-- An item of a list at a depth. -/
def itemChars (depth : Nat) : Json → List Char
  | .arr items => listChars (depth + 1) items
  | .obj entries => firstEntry depth entries
  | .null => (scalar? .null).getD []
  | .bool b => (scalar? (.bool b)).getD []
  | .int i => (scalar? (.int i)).getD []
  | .float x => (scalar? (.float x)).getD []
  | .str s => (scalar? (.str s)).getD []
  | .date => (scalar? .date).getD []

/-- The entries of an object in a list; the first one stands on the line of the item. -/
def firstEntry (depth : Nat) : List (String × Json) → List Char
  | [] => []
  | (key, j) :: rest =>
    keyChars key ++ ':' :: ' ' :: entryValue (depth + 1) j ++ otherEntries depth rest

/-- Entries of an object in a list, each on a line of its own. -/
def otherEntries (depth : Nat) : List (String × Json) → List Char
  | [] => []
  | (key, j) :: rest =>
    '\n' :: indent (depth + 2) ++ keyChars key ++ ':' :: ' ' :: entryValue (depth + 2) j ++
      otherEntries depth rest

/-- The value of an entry of an object in a list. -/
def entryValue (depth : Nat) : Json → List Char
  | .arr items => listChars depth items
  | .obj entries => '\n' :: objectChars (depth + 1) entries
  | .null => (scalar? .null).getD []
  | .bool b => (scalar? (.bool b)).getD []
  | .int i => (scalar? (.int i)).getD []
  | .float x => (scalar? (.float x)).getD []
  | .str s => (scalar? (.str s)).getD []
  | .date => (scalar? .date).getD []

/-- An object that stands on lines of its own. -/
def objectChars (depth : Nat) : List (String × Json) → List Char
  | [] => []
  | [(key, j)] => indent depth ++ memberChars depth key j
  | (key, j) :: rest => indent depth ++ memberChars depth key j ++ '\n' :: objectChars depth rest

/-- An entry of an object. A list with items has its indentation once more. -/
def memberChars (depth : Nat) (key : String) : Json → List Char
  | .arr items =>
    (if items.isEmpty then [] else indent depth) ++ keyChars key ++ listChars depth items
  | .obj entries => keyChars key ++ ':' :: '\n' :: objectChars (depth + 1) entries
  | .null => keyChars key ++ ':' :: ' ' :: (scalar? .null).getD []
  | .bool b => keyChars key ++ ':' :: ' ' :: (scalar? (.bool b)).getD []
  | .int i => keyChars key ++ ':' :: ' ' :: (scalar? (.int i)).getD []
  | .float x => keyChars key ++ ':' :: ' ' :: (scalar? (.float x)).getD []
  | .str s => keyChars key ++ ':' :: ' ' :: (scalar? (.str s)).getD []
  | .date => keyChars key ++ ':' :: ' ' :: (scalar? .date).getD []

end

/-- The text of a value. -/
def chars : Json → List Char
  | .arr items => listChars 0 items
  | .obj entries => objectChars 0 entries
  | j => (scalar? j).getD []

/-- The text of a value. -/
def encode (j : Json) : String := String.ofList (chars j)

end LintPlan.Toon
