import Mathlib.Algebra.GroupWithZero.Nat
import Mathlib.Data.Int.Notation
import Mathlib.Data.Nat.Notation

/-!
# JSON texts

JSON values without fractions, and the two texts that a serializer usually offers: a compact one,
and one that puts every element of an array or object on a line of its own. They differ only in
white space, so one function `render` writes both: its argument is the depth of the line that the
value ends on, or `none` for the compact text.
-/

namespace Json

/-- A JSON value. The members of an object are listed in the order in which they are written. -/
inductive Value where
  | null
  | bool (b : Bool)
  | num (n : ℤ)
  | str (s : String)
  | arr (vs : List Value)
  | obj (members : List (String × Value))

/-- The hexadecimal digit of a number below 16, in lower case. -/
def hexDigit (n : ℕ) : Char := "0123456789abcdef".toList.getD n '0'

/-- A character inside a string: quotes, backslashes and control characters are escaped, the last
by their short form where there is one. Everything else stands for itself. -/
def escapeChar (c : Char) : List Char :=
  if c = '"' then ['\\', '"']
  else if c = '\\' then ['\\', '\\']
  else if c = '\n' then ['\\', 'n']
  else if c = '\r' then ['\\', 'r']
  else if c = '\t' then ['\\', 't']
  else if c = Char.ofNat 8 then ['\\', 'b']
  else if c = Char.ofNat 12 then ['\\', 'f']
  else if c.toNat < 32 then
    ['\\', 'u', '0', '0', hexDigit (c.toNat / 16), hexDigit (c.toNat % 16)]
  else [c]

/-- The characters of a string, escaped. -/
def escape (cs : List Char) : List Char := cs.flatMap escapeChar

/-- A string with its quotes. -/
def renderString (s : String) : List Char := '"' :: escape s.toList ++ ['"']

/-- A decimal integer. -/
def renderInt : ℤ → List Char
  | .ofNat n => Nat.toDigits 10 n
  | .negSucc n => '-' :: Nat.toDigits 10 (n + 1)

/-- The break before an element at the given depth, two blanks to a level. The compact text has
none. -/
def lineBreak : Option ℕ → List Char
  | none => []
  | some d => '\n' :: List.replicate (2 * d) ' '

/-- What separates the name of a member from its value. -/
def colon : Option ℕ → List Char
  | none => [':']
  | some _ => [':', ' ']

/-- One level deeper. -/
def deeper (depth : Option ℕ) : Option ℕ := depth.map (· + 1)

mutual

/-- The text of a value. -/
def render (depth : Option ℕ) : Value → List Char
  | .null => ['n', 'u', 'l', 'l']
  | .bool true => ['t', 'r', 'u', 'e']
  | .bool false => ['f', 'a', 'l', 's', 'e']
  | .num n => renderInt n
  | .str s => renderString s
  | .arr [] => ['[', ']']
  | .arr (v :: vs) =>
    '[' :: lineBreak (deeper depth) ++ render (deeper depth) v ++
      renderElements depth vs ++ lineBreak depth ++ [']']
  | .obj [] => ['{', '}']
  | .obj ((name, v) :: ms) =>
    '{' :: lineBreak (deeper depth) ++ renderString name ++ colon depth ++
      render (deeper depth) v ++ renderMembers depth ms ++ lineBreak depth ++ ['}']

/-- The further elements of an array, each after a comma. -/
def renderElements (depth : Option ℕ) : List Value → List Char
  | [] => []
  | v :: vs =>
    ',' :: lineBreak (deeper depth) ++ render (deeper depth) v ++ renderElements depth vs

/-- The further members of an object, each after a comma. -/
def renderMembers (depth : Option ℕ) : List (String × Value) → List Char
  | [] => []
  | (name, v) :: ms =>
    ',' :: lineBreak (deeper depth) ++ renderString name ++ colon depth ++
      render (deeper depth) v ++ renderMembers depth ms

end

/-- The UTF-8 bytes of a text. -/
def utf8 (cs : List Char) : List UInt8 := cs.flatMap String.utf8EncodeChar

/-- The number of bytes of a text. -/
def utf8Length (cs : List Char) : ℕ := (cs.map Char.utf8Size).sum

/-- The bytes of two texts in a row. -/
@[simp] theorem utf8_append (cs ds : List Char) : utf8 (cs ++ ds) = utf8 cs ++ utf8 ds := by
  simp [utf8]

/-- A text has as many bytes as its characters need. -/
@[simp] theorem length_utf8 (cs : List Char) : (utf8 cs).length = utf8Length cs := by
  simp [utf8, utf8Length, List.length_flatMap]

/-- The empty text has no bytes. -/
@[simp] theorem utf8Length_nil : utf8Length [] = 0 := rfl

/-- A character adds its bytes. -/
@[simp] theorem utf8Length_cons (c : Char) (cs : List Char) :
    utf8Length (c :: cs) = c.utf8Size + utf8Length cs := by
  simp [utf8Length]

/-- The number of bytes of two texts in a row. -/
@[simp] theorem utf8Length_append (cs ds : List Char) :
    utf8Length (cs ++ ds) = utf8Length cs + utf8Length ds := by
  simp [utf8Length]

/-- The compact text of a value, as bytes. -/
def toVec (v : Value) : List UInt8 := utf8 (render none v)

/-- The indented text of a value, as bytes. -/
def toVecPretty (v : Value) : List UInt8 := utf8 (render (some 0) v)

end Json
