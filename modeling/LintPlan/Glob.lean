/-!
# File patterns

Patterns for paths: `?` is any character, `*` any run of characters, `**` as a whole component any run
of components, `[…]` one character of a set. Whether `*`, `?` and sets may stand for a slash is up to
the caller.
-/

namespace LintPlan

/-- A part of a set: one character, or all characters between two. -/
inductive GlobRange where
  | one (c : Char)
  | between (first last : Char)
  deriving DecidableEq, Repr

/-- A piece of a pattern. -/
inductive GlobToken where
  /-- The character itself. -/
  | char (c : Char)
  /-- One character. -/
  | anyChar
  /-- A run of characters, also an empty one. -/
  | anyRun
  /-- A run of whole components, also an empty one. -/
  | anyComponents
  /-- One character of a set. -/
  | within (set : List GlobRange)
  /-- One character outside a set. -/
  | outside (set : List GlobRange)
  deriving DecidableEq, Repr

namespace Glob

/-! ## Reading patterns -/

/-- The parts of a set: `a-c` is a range, everything else stands for itself. -/
def rangesOf : List Char → List GlobRange
  | a :: '-' :: b :: rest => .between a b :: rangesOf rest
  | c :: rest => .one c :: rangesOf rest
  | [] => []

/-- The set after its opening bracket and what follows it. A closing bracket in the first place belongs
to the set. -/
def readSet (cs : List Char) : Option (GlobToken × List Char) :=
  let outside := cs.head? == some '!'
  let body := if outside then cs.tail else cs
  match body with
  | [] => none
  | first :: more =>
    let members := first :: more.takeWhile (· != ']')
    match more.dropWhile (· != ']') with
    | _ :: rest =>
      some (if outside then .outside (rangesOf members) else .within (rangesOf members), rest)
    | [] => none

/-- Adds a run of components, unless one stands there already. -/
def addComponents (done : List GlobToken) : List GlobToken :=
  if done.length > 1 && done.getLast? == some .anyComponents then done else done ++ [.anyComponents]

/-- Reads the rest of a pattern. `previous` is the character in front of it. -/
def readTokens : (fuel : Nat) → (previous : Option Char) → (done : List GlobToken) → List Char →
    Option (List GlobToken)
  | 0, _, _, _ => none
  | _ + 1, _, done, [] => some done
  | fuel + 1, _, done, '?' :: rest => readTokens fuel (some '?') (done ++ [.anyChar]) rest
  | fuel + 1, previous, done, '*' :: rest =>
    let stars := 1 + (rest.takeWhile (· == '*')).length
    let rest := rest.dropWhile (· == '*')
    if 2 < stars then none
    else if stars = 1 then readTokens fuel (some '*') (done ++ [.anyRun]) rest
    else if previous.isNone || previous == some '/' then
      match rest with
      | [] => readTokens fuel (some '*') (addComponents done) []
      | '/' :: rest => readTokens fuel (some '/') (addComponents done) rest
      | _ => none
    else none
  | fuel + 1, _, done, '[' :: rest =>
    match readSet rest with
    | some (token, rest) => readTokens fuel (some ']') (done ++ [token]) rest
    | none => none
  | fuel + 1, _, done, c :: rest => readTokens fuel (some c) (done ++ [.char c]) rest

/-- The tokens of a pattern; malformed patterns have none. -/
def tokens? (pattern : String) : Option (List GlobToken) :=
  let cs := pattern.toList
  readTokens (cs.length + 1) none [] cs

/-! ## Matching

A pattern is matched from its end: from the ends of the text that its last tokens take follow those that one token more
takes, in one pass over the text.
-/

/-- Is the character in one of the parts? -/
def inSet (c : Char) (set : List GlobRange) : Bool :=
  set.any fun
    | .one d => c == d
    | .between first last => first ≤ c && c ≤ last

/-- Does a token for one character take this one? With `literalSlash`, only a slash takes a slash. -/
def takes (literalSlash : Bool) (token : GlobToken) (c : Char) : Bool :=
  match token with
  | .char d => c == d
  | .anyChar => !(literalSlash && c == '/')
  | .within set => !(literalSlash && c == '/') && inSet c set
  | .outside set => !(literalSlash && c == '/') && !inSet c set
  | .anyRun => false
  | .anyComponents => false

/-- May a run of characters go on over this one? -/
def runsOver (literalSlash : Bool) (c : Char) : Bool := !(literalSlash && c == '/')

/-- Which ends of a text a run of characters and then the rest of a pattern take. `rest` says which ends the rest of the
pattern takes: the whole text, the text without its first character, and so on down to the empty text. -/
def afterRun (literalSlash : Bool) (cs : List Char) (rest : List Bool) : List Bool :=
  (cs.zip rest).foldr
    (fun e ends => (e.2 || (runsOver literalSlash e.1 && ends.headD false)) :: ends)
    [rest.getLastD false]

/-- Which ends of a text have a slash behind which the rest of a pattern takes everything; of the empty text, whether
the rest of the pattern takes it. -/
def afterSlash (cs : List Char) (rest : List Bool) : List Bool :=
  (cs.zip rest.tail).foldr (fun e ends => ((e.1 == '/' && e.2) || ends.headD false) :: ends)
    [rest.getLastD false]

/-- Which ends of a text a token and then the rest of a pattern take. -/
def endsTaken (literalSlash : Bool) (cs : List Char) (token : GlobToken) (rest : List Bool) : List Bool :=
  match token with
  | .anyRun => afterRun literalSlash cs rest
  | .anyComponents => (rest.zip (afterSlash cs rest)).map fun e => e.1 || e.2
  | token => (cs.zip rest.tail).map (fun e => takes literalSlash token e.1 && e.2) ++ [false]

/-- Which ends of a text a pattern takes. The empty pattern takes the empty text only. -/
def matchedEnds (literalSlash : Bool) (tokens : List GlobToken) (cs : List Char) : List Bool :=
  tokens.foldr (endsTaken literalSlash cs) (cs.map (fun _ => false) ++ [true])

/-- Does the pattern take the text? Malformed patterns take nothing. -/
def isMatch (literalSlash : Bool) (pattern text : String) : Bool :=
  match tokens? pattern with
  | some tokens => (matchedEnds literalSlash tokens text.toList).headD false
  | none => false

end Glob

end LintPlan
