import Profiles.Text.Numeral

/-!
# JSON strings

The text between the quotes of a JSON string. `escape` writes a character: a quote and a backslash get a
backslash in front, five control characters have a letter, the rest of those below the space are spelled
`\u00` and two digits, and everything else stands for itself, whatever its size.

Reading is wider: any character may be spelled `\u` and four digits of either case, one outside the first
plane by its two surrogates, and a solidus may be escaped. A raw character below the space and a surrogate
that stands alone are refused. `Mode.step` reads one character and tells where the reader then stands and
which character of the text, if any, is complete.
-/

namespace Profiles.Json.Quoted

/-- How one character is written inside a string. -/
def escape (c : Char) : List Char :=
  if c = '"' then ['\\', '"']
  else if c = '\\' then ['\\', '\\']
  else if c = '\x08' then ['\\', 'b']
  else if c = '\x0c' then ['\\', 'f']
  else if c = '\n' then ['\\', 'n']
  else if c = '\r' then ['\\', 'r']
  else if c = '\t' then ['\\', 't']
  else if c.toNat < 0x20 then
    ['\\', 'u', '0', '0', Nat.digitChar (c.toNat / 16), Nat.digitChar (c.toNat % 16)]
  else [c]

/-- The text between the quotes. -/
def body (text : List Char) : List Char := text.flatMap escape

/-- A text as a JSON string, quotes included. -/
def encode (text : List Char) : List Char := '"' :: (body text ++ ['"'])

@[simp] theorem body_cons (c : Char) (text : List Char) :
    body (c :: text) = escape c ++ body text := rfl

/-- Where a reader stands inside a string. -/
inductive Mode where
  /-- Between two characters of the text. -/
  | plain
  /-- After a backslash. -/
  | escape
  /-- In a spelled code unit, after `count` of its four digits; `high` is the first half of a pair. -/
  | unit (high : Option Nat) (count value : Nat)
  /-- After the first half of a pair: a backslash must follow. -/
  | half (high : Nat)
  /-- After the first half of a pair and a backslash: the letter of a code unit must follow. -/
  | halfEscape (high : Nat)

/-- The character that a backslash and this letter stand for. -/
def unescape? : Char → Option Char
  | '"' => some '"'
  | '\\' => some '\\'
  | '/' => some '/'
  | 'b' => some '\x08'
  | 'f' => some '\x0c'
  | 'n' => some '\n'
  | 'r' => some '\r'
  | 't' => some '\t'
  | _ => none

/-- What a complete code unit means: a character, the first half of a pair, or, after such a half, the
other one. -/
def ofUnit? : Option Nat → Nat → Option (Mode × Option Char)
  | none, value =>
    -- outside of the surrogates a unit is a character by itself
    if value < 0xd800 ∨ 0xdfff < value then some (.plain, some (Char.ofNat value))
    else if value < 0xdc00 then some (.half value, none)
    -- a second half that comes first has no first half
    else none
  | some high, value =>
    if 0xdc00 ≤ value ∧ value ≤ 0xdfff then
      some (.plain, some (Char.ofNat (0x10000 + (high - 0xd800) * 0x400 + (value - 0xdc00))))
    else none

/-- **One character of a string is read**, anything but the closing quote. -/
def Mode.step : Mode → Char → Option (Mode × Option Char)
  | .plain, c =>
    -- also a raw line break: a string stays on its line
    if c.toNat < 0x20 then none
    else if c = '\\' then some (.escape, none)
    else some (.plain, some c)
  | .escape, c =>
    if c = 'u' then some (.unit none 0 0, none)
    else (unescape? c).map fun d => (.plain, some d)
  | .unit high count value, c => do
    let value := 16 * value + (← Numeral.hexDigit? c)
    -- the fourth digit completes the unit
    if count < 3 then return (.unit high (count + 1) value, none) else ofUnit? high value
  | .half high, c => if c = '\\' then some (.halfEscape high, none) else none
  | .halfEscape high, c => if c = 'u' then some (.unit (some high) 0 0, none) else none

end Profiles.Json.Quoted
