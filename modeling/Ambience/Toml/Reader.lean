import Ambience.Toml.Quoted
import Ambience.Toml.Table

/-!
# Reading TOML

The grammar of statements, names and values, over lists of characters. Each reader takes what it
reads off the front and gives the rest, or nothing if the text is not of its form.
-/

namespace Ambience.Toml

/-! ## Gaps -/

/-- Whether a character is a blank within a line. -/
def isSpace (c : Char) : Bool := c == ' ' || c == '\t'

/-- The text without the blanks in front. -/
def skipSpace (text : List Char) : List Char := text.dropWhile isSpace

/-- The text without the blanks, line ends and comments in front; `inComment` holds while it begins
in a comment. Comments must be clean. -/
def skipGap (inComment : Bool) : List Char → Option (List Char)
  | [] => some []
  | '\n' :: rest => skipGap false rest
  | '\r' :: '\n' :: rest => skipGap false rest
  | c :: rest =>
    if inComment then if Quoted.isPlain c then skipGap true rest else none
    else if isSpace c then skipGap false rest
    else if c == '#' then skipGap true rest
    else some (c :: rest)

/-- The text after the end of a line with nothing but blanks and a comment before it. -/
def endLine (text : List Char) : Option (List Char) :=
  match skipSpace text with
  | [] => some []
  | '\n' :: rest => skipGap false rest
  | '\r' :: '\n' :: rest => skipGap false rest
  | '#' :: rest => skipGap true rest
  | _ => none

/-! ## Names -/

/-- Whether a character may stand in a name without quotes. -/
def isBare (c : Char) : Bool := c.isAlphanum || c == '_' || c == '-'

/-- A name without dots. -/
def readName (text : List Char) : Option (String × List Char) :=
  match text with
  | '"' :: rest => Quoted.readLine '"' rest
  | '\'' :: rest => Quoted.readLine '\'' rest
  | _ =>
    match text.takeWhile isBare with
    | [] => none
    | name => some (String.ofList name, text.dropWhile isBare)

/-- The names of a dotted name, at most as many as the limit says. -/
def readPath : Nat → List Char → Option (List String × List Char)
  | 0, _ => none
  | limit + 1, text => do
    let (name, rest) ← readName text
    match skipSpace rest with
    | '.' :: rest => do
      let (path, rest) ← readPath limit (skipSpace rest)
      return (name :: path, rest)
    | rest => return ([name], rest)

/-- The most names that a dotted name may have. -/
def maxNames : Nat := 80

/-- A dotted name: the names in front and the last one. -/
def readKey (text : List Char) : Option (List String × String × List Char) := do
  let (path, rest) ← readPath maxNames text
  return (path.dropLast, ← path.getLast?, rest)

/-! ## Values -/

mutual

/-- A value. The depth bounds how many lists and tables may be around one another, and the fuel how
many readers of this group may be nested. -/
def readValue : Nat → Nat → List Char → Option (Value × List Char)
  | 0, _, _ => none
  | fuel + 1, depth, text =>
    match text with
    | '[' :: rest =>
      match depth with
      | 0 => none
      | depth + 1 => (readItems fuel depth rest).map fun (items, rest) => (.list items, rest)
    | '{' :: rest =>
      match depth with
      | 0 => none
      | depth + 1 =>
        (readMembers fuel depth [] rest).map fun (members, rest) => (.table .inline members, rest)
    | '"' :: _ => (Quoted.read text).map fun (content, rest) => (.text content, rest)
    | '\'' :: _ => (Quoted.read text).map fun (content, rest) => (.text content, rest)
    | _ => Literal.read text

/-- The items of a list up to the closing bracket. A comma may follow the last one. -/
def readItems : Nat → Nat → List Char → Option (List Value × List Char)
  | 0, _, _ => none
  | fuel + 1, depth, text => do
    match ← skipGap false text with
    | ']' :: rest => return ([], rest)
    | rest => do
      let (item, rest) ← readValue fuel depth rest
      match ← skipGap false rest with
      | ',' :: rest => do
        let (items, rest) ← readItems fuel depth rest
        return (item :: items, rest)
      | ']' :: rest => return ([item], rest)
      | _ => none

/-- The table that its members up to the closing brace build, after those already entered. A comma
may follow the last one, and lines may end anywhere but within a dotted name. -/
def readMembers : Nat → Nat → Members → List Char → Option (Members × List Char)
  | 0, _, _, _ => none
  | fuel + 1, depth, members, text => do
    match ← skipGap false text with
    | '}' :: rest => return (members, rest)
    | rest => do
      let (path, name, rest) ← readKey rest
      match ← skipGap false rest with
      | '=' :: rest => do
        let (value, rest) ← readValue fuel depth (← skipGap false rest)
        let members ← members.assign path name value
        match ← skipGap false rest with
        | ',' :: rest => readMembers fuel depth members rest
        | '}' :: rest => return (members, rest)
        | _ => none
      | _ => none

end

/-! ## Statements -/

/-- The most lists and tables that may be around one another. -/
def maxDepth : Nat := 80

/-- A statement, up to the end of its line. -/
def readStatement (text : List Char) : Option (Statement × List Char) :=
  match text with
  | '[' :: '[' :: rest => do
    let (path, name, rest) ← readKey (skipSpace rest)
    match skipSpace rest with
    | ']' :: ']' :: rest => return (.item (path ++ [name]), rest)
    | _ => none
  | '[' :: rest => do
    let (path, name, rest) ← readKey (skipSpace rest)
    match skipSpace rest with
    | ']' :: rest => return (.header (path ++ [name]), rest)
    | _ => none
  | _ => do
    let (path, name, rest) ← readKey text
    match skipSpace rest with
    | '=' :: rest => do
      let (value, rest) ← readValue (2 * rest.length + 2) maxDepth (skipSpace rest)
      return (.assign path name value, rest)
    | _ => none

/-- The statements of a text without a gap in front. The fuel bounds their number. -/
def readStatements : Nat → List Char → Option (List Statement)
  | _, [] => some []
  | 0, _ => none
  | fuel + 1, text => do
    let (statement, rest) ← readStatement text
    return statement :: (← readStatements fuel (← endLine rest))

/-- The text without a byte order mark in front. -/
def dropMark : List Char → List Char
  | '\uFEFF' :: rest => rest
  | text => text

/-- The table that a whole text builds. Every statement takes at least one character, so the fuel is
enough. -/
def Members.ofText? (text : List Char) : Option Members := do
  let text ← skipGap false (dropMark text)
  Members.ofStatements? (← readStatements text.length text)

end Ambience.Toml
