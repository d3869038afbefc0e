import QuantX.Lib.Dict
import Mathlib.Data.Rat.Defs

/-! Values of dynamically typed records and their conversions `float(x)`, `int(x)` and `bool(x)`. Floating point numbers are
    exact rationals; a conversion that raises returns the error instead. -/

namespace Lib

inductive PyVal where
  | none
  | bool (b : Bool)
  | int (n : Int)
  | float (q : Rat)
  | str (s : String)
  | list (items : List PyVal)
  | dict (fields : List (String × PyVal))
  deriving Inhabited

/-- The integer part of a rational, towards zero: `int(q)`. -/
def pyInt (q : Rat) : Int := q.num.tdiv q.den

namespace PyVal

/-- `bool(x)`. -/
def truthy : PyVal → Bool
  | none => false
  | bool b => b
  | int n => n ≠ 0
  | float q => q ≠ 0
  | str s => s ≠ ""
  | list items => !items.isEmpty
  | dict fields => !fields.isEmpty

/-- `x or y`. -/
def or (x y : PyVal) : PyVal := if x.truthy then x else y

/-! ### Decimal texts -/

def digits? (cs : List Char) : Option Nat :=
  if cs.isEmpty || cs.any (fun c => !c.isDigit) then Option.none
  else some (cs.foldl (fun n c => 10 * n + (c.toNat - '0'.toNat)) 0)

/-- An unsigned decimal `12`, `12.5`, `.5` or `12.`. -/
def decimal? (cs : List Char) : Option Rat :=
  match cs.span (· != '.') with
  | (whole, []) => (digits? whole).map fun n => (n : Rat)
  | (whole, _ :: frac) =>
    if whole.isEmpty && frac.isEmpty then Option.none
    else do
      let n ← if whole.isEmpty then some 0 else digits? whole
      let m ← if frac.isEmpty then some 0 else digits? frac
      pure ((n : Rat) + (m : Rat) / (10 : Rat) ^ frac.length)

def signed? {α : Type} [Neg α] (read : List Char → Option α) : List Char → Option α
  | '-' :: cs => (read cs).map (- ·)
  | '+' :: cs => read cs
  | cs => read cs

/-- `float(s)` of a decimal text. The texts of infinities and of not-a-number have no rational value. -/
def floatText? (s : String) : Option Rat := signed? decimal? s.trimAscii.toString.toList
def intText? (s : String) : Option Int := signed? (fun cs => (digits? cs).map Int.ofNat) s.trimAscii.toString.toList

/-- `float(x)`. -/
def toFloat : PyVal → Except String Rat
  | none => .error "TypeError"
  | bool b => .ok (if b then 1 else 0)
  | int n => .ok n
  | float q => .ok q
  | str s => match floatText? s with
    | some q => .ok q
    | Option.none => .error "ValueError"
  | list _ => .error "TypeError"
  | dict _ => .error "TypeError"

/-- `int(x)`. -/
def toInt : PyVal → Except String Int
  | none => .error "TypeError"
  | bool b => .ok (if b then 1 else 0)
  | int n => .ok n
  | float q => .ok (pyInt q)
  | str s => match intText? s with
    | some n => .ok n
    | Option.none => .error "ValueError"
  | list _ => .error "TypeError"
  | dict _ => .error "TypeError"

/-- `float(x)`, or nothing where it raises. -/
def optionalFloat (x : PyVal) : Option Rat := x.toFloat.toOption

/-- `int(x)`, or nothing where it raises. -/
def optionalInt (x : PyVal) : Option Int := x.toInt.toOption

/-- The text of a value that is a string, and `default` for any other. -/
def text (x : PyVal) (default : String) : String :=
  match x with
  | str s => s
  | _ => default

/-- `str(x)` of texts, integers, truth values and nothing. The texts of other values are not represented. -/
def pyStr : PyVal → String
  | none => "None"
  | bool b => if b then "True" else "False"
  | int n => toString n
  | str s => s
  | _ => ""

/-- `x.get(key)` of a mapping. -/
def get (fields : List (String × PyVal)) (key : String) : PyVal := (Dict.lookup key fields).getD none

/-- `value or default` for texts. -/
def orText (value default : String) : String := if value ≠ "" then value else default

/-- `value or default` for numbers. -/
def orNumber (value default : Rat) : Rat := if value ≠ 0 then value else default

@[simp] theorem orText_empty (s : String) : orText s "" = s := by
  unfold orText
  by_cases h : s = "" <;> simp [h]

@[simp] theorem text_str (s default : String) : (PyVal.str s).text default = s := rfl

theorem eq_str_of_text {x : PyVal} {s default : String} (h : x.text default = s) (hs : s ≠ default) : x = .str s := by
  cases x with
  | str t => exact congrArg PyVal.str h
  | _ => exact absurd h.symm hs

@[simp] theorem str_or (s d : String) : (PyVal.str s).or (.str d) = .str (orText s d) := by
  unfold PyVal.or PyVal.truthy orText
  by_cases h : s = "" <;> simp [h]

@[simp] theorem float_or (q : Rat) : (PyVal.float q).or (.float 0) = .float q := by
  unfold PyVal.or PyVal.truthy
  by_cases h : q = 0 <;> simp [h]

@[simp] theorem int_or_zero (n : Int) : (PyVal.int n).or (.int 0) = .int n := by
  unfold PyVal.or PyVal.truthy
  by_cases h : n = 0 <;> simp [h]

theorem int_or (n d : Int) : (PyVal.int n).or (.int d) = .int (if n = 0 then d else n) := by
  unfold PyVal.or PyVal.truthy
  by_cases h : n = 0 <;> simp [h]

@[simp] theorem toInt_int (n : Int) : (PyVal.int n).toInt = .ok n := rfl
@[simp] theorem toFloat_float (q : Rat) : (PyVal.float q).toFloat = .ok q := rfl
@[simp] theorem truthy_bool (b : Bool) : (PyVal.bool b).truthy = b := rfl

end PyVal
end Lib
