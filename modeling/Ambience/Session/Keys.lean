/-!
# Keys

What is typed into a terminal, read from the characters that it sends. Arrow keys come as control
sequences; a letter typed with the control key comes as a control character, and one typed with the
alternate key after an escape character. Which of those keys was held does not matter here.
-/

namespace Ambience

/-- A key that was pressed. -/
inductive Key where
  | char (c : Char)
  | left
  | right
  | escape
  /-- Any other key. -/
  | other
  deriving DecidableEq, Repr

namespace Key

/-- The key of a single character: control characters are those of the letter or digit that was
typed with the control key. -/
def ofChar (c : Char) : Key :=
  let n := c.toNat
  if n = 0 then .char ' '
  else if n = 0x0D ∨ n = 0x09 ∨ n = 0x7F then .other
  else if n ≤ 0x1A then .char (Char.ofNat (n - 1 + 'a'.toNat))
  else if 0x1C ≤ n ∧ n ≤ 0x1F then .char (Char.ofNat (n - 0x1C + '4'.toNat))
  else .char c

/-- The key that a control sequence with this last character stands for. -/
def ofFinal : Char → Key
  | 'C' => .right
  | 'D' => .left
  | _ => .other

/-- Whether a character ends a control sequence with parameters. -/
def isFinal (c : Char) : Bool := '@' ≤ c && c ≤ '~'

/-- Where the reading of typed characters stands. -/
inductive Mode where
  /-- Between keys. -/
  | ready
  /-- After an escape character. -/
  | escaped
  /-- After an escape character and the letter O. -/
  | single
  /-- At the start of a control sequence. -/
  | opened
  /-- After a doubled bracket. -/
  | doubled
  /-- Within the parameters of a control sequence. -/
  | parameters
  deriving DecidableEq, Repr

/-- The keys of typed characters. An escape character that nothing follows is the key itself. -/
def read : Mode → List Char → List Key
  | .ready, [] => []
  | .escaped, [] => [.escape]
  | _, [] => []
  | .ready, c :: later => if c = '\x1b' then read .escaped later else ofChar c :: read .ready later
  | .escaped, c :: later =>
    if c = '[' then read .opened later
    else if c = 'O' then read .single later
    else if c = '\x1b' then .escape :: read .ready later
    else ofChar c :: read .ready later
  | .single, c :: later => ofFinal c :: read .ready later
  | .opened, c :: later =>
    if c.isDigit || c = ';' || c = '<' || c = '?' then read .parameters later
    else if c = '[' then read .doubled later
    else ofFinal c :: read .ready later
  | .doubled, _ :: later => .other :: read .ready later
  | .parameters, c :: later =>
    if isFinal c then ofFinal c :: read .ready later else read .parameters later

/-- The keys of a text that was typed at once. -/
def ofText (text : String) : List Key := read .ready text.toList

end Key

end Ambience
