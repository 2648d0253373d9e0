import Mathlib.Data.List.Lex
import Mathlib.Order.WithBot
import Counterparty.Library.UnicodeDigits
import Counterparty.PyJson

/-! What Python's operators and string methods do on parsed JSON. -/
namespace Counterparty

open Json

/-- A `TypeError` or a `ValueError` that is not caught. -/
inductive PyError
  | typeError
  | valueError
deriving DecidableEq

/-! Numbers. -/

/-- The value that comparisons go by; a NaN has none. -/
def PyNumber.value : PyNumber → Option (WithBot (WithTop ℚ))
  | .int z => some ((z : ℚ) : WithTop ℚ)
  | .float (.finite neg mag) => some ((if neg then -mag.1 else mag.1 : ℚ) : WithTop ℚ)
  | .float (.infinity false) => some (⊤ : WithTop ℚ)
  | .float (.infinity true) => some ⊥
  | .float .nan => none

/-- The number a value is to arithmetic; booleans are the integers zero and one. -/
def number? : PyJson → Option PyNumber
  | .num x => some x
  | .bool b => some (.int (if b then 1 else 0))
  | _ => none

def PyNumber.lt (x y : PyNumber) : Bool :=
  match x.value, y.value with
  | some a, some b => a < b
  | _, _ => false

/-! Equality. -/

def isNaN (j : PyJson) : Bool :=
  match j with
  | .num (.float .nan) => true
  | _ => false

def numberEq (a b : PyJson) : Bool :=
  match number? a, number? b with
  | some x, some y => x.value.isSome && x.value == y.value
  | _, _ => false

mutual

/-- `a == b` -/
def pyEq : PyJson → PyJson → Bool
  | .null, .null => true
  | .str s, .str t => s = t
  | .arr xs, .arr ys => itemsEq xs ys
  | .obj fs, .obj gs => fs.length = gs.length && fieldsEq fs gs
  | a, b => numberEq a b

/-- Items are equal when they are one object, as every parsed NaN is, or compare equal. -/
def itemsEq : List PyJson → List PyJson → Bool
  | [], [] => true
  | x :: xs, y :: ys => (isNaN x && isNaN y || pyEq x y) && itemsEq xs ys
  | _, _ => false

def fieldsEq : List (PyStr × PyJson) → List (PyStr × PyJson) → Bool
  | [], _ => true
  | (k, x) :: fs, gs =>
    (match gs.lookup k with
      | some y => isNaN x && isNaN y || pyEq x y
      | none => false) && fieldsEq fs gs

end

def sameItem (x y : PyJson) : Bool := isNaN x && isNaN y || pyEq x y

/-! Order; `none` is a `TypeError`. -/

inductive Comparison
  | gte
  | lte
deriving DecidableEq

def Comparison.holds {α : Type} [LE α] [DecidableLE α] (c : Comparison) (a b : α) : Bool :=
  match c with
  | .gte => b ≤ a
  | .lte => a ≤ b

def numberOrder (c : Comparison) (a b : PyJson) : Option Bool :=
  match number? a, number? b with
  | some x, some y =>
    match x.value, y.value with
    | some v, some w => some (c.holds v w)
    | _, _ => some false
  | _, _ => none

mutual

/-- `a >= b` or `a <= b` -/
def pyOrder (c : Comparison) : PyJson → PyJson → Option Bool
  | .str s, .str t => some (c.holds s t)
  | .arr xs, .arr ys => itemsOrder c xs ys
  | a, b => numberOrder c a b

/-- Lists are ordered by their first items that differ, else by their lengths. -/
def itemsOrder (c : Comparison) : List PyJson → List PyJson → Option Bool
  | x :: xs, y :: ys => if sameItem x y then itemsOrder c xs ys else pyOrder c x y
  | xs, ys => some (c.holds xs.length ys.length)

end

/-- `value in container`; `none` is a `TypeError`, of an unhashable key as well. -/
def pyIn (value : PyJson) : PyJson → Option Bool
  | .str t =>
    match value with
    | .str s => some (s <:+: t)
    | _ => none
  | .arr items => some (items.any fun x => sameItem x value)
  | .obj fields =>
    match value with
    | .str k => some (fields.lookup k).isSome
    | .arr _ | .obj _ => none
    | _ => some false
  | _ => none

/-! Strings. -/

/-- `str.lower`, as far as ASCII letters come of it. -/
def lower (t : Text) : Text :=
  t.flatMap fun c =>
    if 65 ≤ c ∧ c ≤ 90 then [c + 32]
    else if c = 0x130 then [105, 0x307]
    else if c = 0x212A then [107]
    else [c]

/-- `str.upper`, as far as a comparison with ASCII words goes: a code point not named here becomes
one or more of which some is not ASCII. -/
def upper (t : Text) : Text :=
  t.flatMap fun c =>
    if 97 ≤ c ∧ c ≤ 122 then [c - 32]
    else if c = 0xDF then codes "SS"
    else if c = 0x131 then codes "I"
    else if c = 0x17F then codes "S"
    else if c = 0xFB00 then codes "FF"
    else if c = 0xFB01 then codes "FI"
    else if c = 0xFB02 then codes "FL"
    else if c = 0xFB03 then codes "FFI"
    else if c = 0xFB04 then codes "FFL"
    else if c = 0xFB05 ∨ c = 0xFB06 then codes "ST"
    else [c]

def PyStr.text (s : PyStr) : Text := s.map Fin.val

/-- `str(value)`; of a list or an object only the bracket it begins with. -/
def pyStrOf : PyJson → Text
  | .null => codes "None"
  | .bool true => codes "True"
  | .bool false => codes "False"
  | .num (.float (.infinity false)) => codes "inf"
  | .num (.float (.infinity true)) => codes "-inf"
  | .num (.float .nan) => codes "nan"
  | .num x => numberText x
  | .str s => s.text
  | .arr _ => codes "["
  | .obj _ => [123]

/-- `str.isdigit` -/
def PyStr.isDigit (s : PyStr) : Bool := !s.isEmpty && s.all fun c => UnicodeDigits.isDigit c.val

/-- `int(s)`, for a string that `isdigit` accepts. -/
def PyStr.int (s : PyStr) : Except PyError ℕ :=
  match UnicodeDigits.decimal s.text with
  | some n => .ok n
  | none => .error .valueError

/-- `s.replace("~" + digit, by)` -/
def PyStr.replaceTilde (digit replacement : CodePoint) : PyStr → PyStr
  | c :: d :: s =>
    if c = 126 ∧ d = digit then replacement :: replaceTilde digit replacement s
    else c :: replaceTilde digit replacement (d :: s)
  | s => s

end Counterparty
