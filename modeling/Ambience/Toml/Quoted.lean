import Ambience.Toml.Literal

/-!
# Quoted texts

The four forms of texts in TOML: with double quotes, where a backslash escapes, or with single
quotes, where nothing does; each on one line or on several between threefold quotes.
-/

namespace Ambience.Toml.Quoted

/-- Whether a character may stand for itself: all but control characters, tabs excepted. -/
def isPlain (c : Char) : Bool := c == '\t' || (' ' ≤ c && c != '\x7f')

/-! ## The extent of a text -/

/-- Characters up to the closing quote on the same line, and the rest after it. Where a backslash
escapes, it shields the character after it. -/
def splitLine (quote : Char) (escapes : Bool) : Bool → List Char → Option (List Char × List Char)
  | _, [] => none
  | shielded, c :: rest =>
    if c == '\n' then none
    else if c == quote && !shielded then some ([], rest)
    else
      (splitLine quote escapes (escapes && c == '\\' && !shielded) rest).map
        fun (body, rest) => (c :: body, rest)

/-- How many characters in front are the quote, at most five. -/
def quotesAhead (quote : Char) (text : List Char) : Nat :=
  ((text.take 5).takeWhile fun c => c == quote).length

/-- Characters up to the closing three quotes, and the rest after them. Up to two more quotes just
before the closing ones belong to the text. -/
def splitLines (quote : Char) (escapes : Bool) : Bool → List Char → Option (List Char × List Char)
  | _, [] => none
  | shielded, c :: rest =>
    let quotes := if shielded then 0 else quotesAhead quote (c :: rest)
    if 3 ≤ quotes then some (List.replicate (quotes - 3) quote, rest.drop (quotes - 1))
    else
      (splitLines quote escapes (escapes && c == '\\' && !shielded) rest).map
        fun (body, rest) => (c :: body, rest)

/-- The text without a line end in front. -/
def dropLineEnd : List Char → List Char
  | '\n' :: rest => rest
  | '\r' :: '\n' :: rest => rest
  | rest => rest

/-! ## The content of a text -/

/-- The character of a number, if the number is that of one. -/
def charOf? (n : Nat) : Option Char := if n.isValidChar then some (Char.ofNat n) else none

/-- The character of a number in hexadecimal digits. -/
def hexChar? (digits : List Char) : Option Char :=
  if digits.all fun c => (Literal.digitOf? 16 c).isSome then
    charOf? (digits.foldl (fun n c => n * 16 + (Literal.digitOf? 16 c).getD 0) 0)
  else none

/-- The character that a letter stands for after a backslash. -/
def escaped? : Char → Option Char
  | 'b' => some '\x08'
  | 't' => some '\t'
  | 'n' => some '\n'
  | 'f' => some '\x0c'
  | 'r' => some '\r'
  | 'e' => some '\x1b'
  | '"' => some '"'
  | '\\' => some '\\'
  | _ => none

/-- Whether only blanks stand before the end of the line. -/
def endsLine (text : List Char) : Bool :=
  match text.dropWhile fun c => c == ' ' || c == '\t' with
  | '\n' :: _ => true
  | '\r' :: '\n' :: _ => true
  | _ => false

/-- The content of a text with escapes. A backslash at the end of a line joins it to the next
character that is not blank; while that is looked for, `joining` holds. -/
def decode? (joining : Bool) : List Char → Option (List Char)
  | [] => some []
  | '\n' :: rest => (decode? joining rest).map fun later => if joining then later else '\n' :: later
  | '\r' :: '\n' :: rest =>
    (decode? joining rest).map fun later => if joining then later else '\r' :: '\n' :: later
  | '\\' :: 'x' :: a :: b :: rest => do return (← hexChar? [a, b]) :: (← decode? false rest)
  | '\\' :: 'u' :: a :: b :: c :: d :: rest => do
    return (← hexChar? [a, b, c, d]) :: (← decode? false rest)
  | '\\' :: 'U' :: a :: b :: c :: d :: e :: f :: g :: h :: rest => do
    return (← hexChar? [a, b, c, d, e, f, g, h]) :: (← decode? false rest)
  | '\\' :: c :: rest =>
    if endsLine (c :: rest) then decode? true rest
    else do return (← escaped? c) :: (← decode? false rest)
  | '\\' :: [] => none
  | c :: rest =>
    if joining && (c == ' ' || c == '\t') then decode? true rest
    else if isPlain c then (decode? false rest).map (c :: ·)
    else none

/-- Whether all characters of a text without escapes may stand in it; lines end as usual. -/
def isClean : List Char → Bool
  | [] => true
  | '\n' :: rest => isClean rest
  | '\r' :: '\n' :: rest => isClean rest
  | c :: rest => isPlain c && isClean rest

/-- The content of the body of a text. -/
def content? (escapes : Bool) (body : List Char) : Option String :=
  if escapes then (decode? false body).map String.ofList
  else if isClean body then some (String.ofList body)
  else none

/-! ## Reading -/

/-- A text on one line, from after its opening quote. -/
def readLine (quote : Char) (text : List Char) : Option (String × List Char) := do
  let escapes := quote == '"'
  let (body, rest) ← splitLine quote escapes false text
  return (← content? escapes body, rest)

/-- A text on several lines, from after its opening quotes. -/
def readLines (quote : Char) (text : List Char) : Option (String × List Char) := do
  let escapes := quote == '"'
  let (body, rest) ← splitLines quote escapes false (dropLineEnd text)
  return (← content? escapes body, rest)

/-- A text in any of its forms, if one stands in front. -/
def read : List Char → Option (String × List Char)
  | '"' :: '"' :: '"' :: rest => readLines '"' rest
  | '"' :: rest => readLine '"' rest
  | '\'' :: '\'' :: '\'' :: rest => readLines '\'' rest
  | '\'' :: rest => readLine '\'' rest
  | _ => none

end Ambience.Toml.Quoted
