import QuantX.Lib.PyVal

/-! Reading the fields of a JSON-like mapping with defaults. A missing field and a falsy one are told
    apart where the reader tells them apart; a value that cannot be converted raises. -/

namespace Lib

/-- `float(raw.get(key, default) or 0.0)`. -/
def floatField (raw : List (String × PyVal)) (key : String) (default : Rat) : Except String Rat :=
  (((Dict.lookup key raw).getD (.float default)).or (.float 0)).toFloat

def getOr (key : String) (default : PyVal) : List (List (String × PyVal)) → PyVal
  | [] => default
  | fields :: rest => (Dict.lookup key fields).getD (getOr key default rest)

/-- `int(raw.get(key) or 0)`. -/
def intField (raw : List (String × PyVal)) (key : String) : Except String Int :=
  ((PyVal.get raw key).or (.int 0)).toInt

/-- `dict(value or {})`: a mapping, or the empty one for a falsy value. -/
def mappingOrEmpty : PyVal → Except String (List (String × PyVal))
  | .dict fields => .ok fields
  | x => if x.truthy then .error "ValueError" else .ok []

/-- `str(raw.get(key, default) or "")`. -/
def textField (raw : List (String × PyVal)) (key default : String) : String :=
  (((Dict.lookup key raw).getD (.str default)).or (.str "")).text ""

/-- `str(raw[key])`. -/
def requiredText (raw : List (String × PyVal)) (key : String) : Except String String :=
  match Dict.lookup key raw with
  | some value => .ok (value.text "")
  | none => .error "KeyError"

/-- `int(raw.get(key, default) or default)`. -/
def intOrField (raw : List (String × PyVal)) (key : String) (default : Int) : Except String Int :=
  (((Dict.lookup key raw).getD (.int default)).or (.int default)).toInt

/-- `bool(raw.get(key, default))`. -/
def boolField (raw : List (String × PyVal)) (key : String) (default : Bool) : Bool :=
  ((Dict.lookup key raw).getD (.bool default)).truthy

/-- `str(raw.get(key, default) or default).upper()`. -/
def upperField (raw : List (String × PyVal)) (key default : String) : String :=
  ((((Dict.lookup key raw).getD (.str default)).or (.str default)).text "").toUpper

/-- `list(value or [])`. -/
def listOrEmpty : PyVal → Except String (List PyVal)
  | .list items => .ok items
  | x => if x.truthy then .error "TypeError" else .ok []

def optionalNumber : PyVal → Except String (Option Rat)
  | .none => .ok none
  | value => value.toFloat.map some

def numberOrNone (value : Option Rat) : PyVal := (value.map PyVal.float).getD .none

/-! ### Values that are taken as they are -/

def fieldOr {α : Type} (raw : List (String × PyVal)) (key : String) (default : α) (read : PyVal → Except String α) :
    Except String α :=
  match Dict.lookup key raw with
  | none => .ok default
  | some value => read value

def readText : PyVal → Except String String
  | .str s => .ok s
  | _ => .error "TypeError"

def readInt : PyVal → Except String Int
  | .int n => .ok n
  | _ => .error "TypeError"

def readNumber : PyVal → Except String Rat
  | .float q => .ok q
  | .int n => .ok n
  | _ => .error "TypeError"

def readBool : PyVal → Except String Bool
  | .bool b => .ok b
  | _ => .error "TypeError"

def readList {α : Type} (read : PyVal → Except String α) : PyVal → Except String (List α)
  | .list items => items.mapM read
  | _ => .error "TypeError"

def readEntry {α : Type} (read : PyVal → Except String α) (entry : String × PyVal) : Except String (String × α) := do
  return (entry.1, ← read entry.2)

def readDict {α : Type} (read : PyVal → Except String α) : PyVal → Except String (Dict String α)
  | .dict fields => do return Dict.ofList (← fields.mapM (readEntry read))
  | _ => .error "TypeError"

def readAny (value : PyVal) : Except String PyVal := .ok value

def writeList {α : Type} (write : α → PyVal) (items : List α) : PyVal := .list (items.map write)

def writeDict {α : Type} (write : α → PyVal) (d : Dict String α) : PyVal :=
  .dict (d.entries.map fun e => (e.1, write e.2))

def readOption {α : Type} (read : PyVal → Except String α) : PyVal → Except String (Option α)
  | .none => .ok none
  | value => do return some (← read value)

def writeOption {α : Type} (write : α → PyVal) (value : Option α) : PyVal := (value.map write).getD .none

@[simp] theorem mappingOrEmpty_dict (fields : List (String × PyVal)) : mappingOrEmpty (.dict fields) = .ok fields := rfl
@[simp] theorem listOrEmpty_list (items : List PyVal) : listOrEmpty (.list items) = .ok items := rfl

@[simp] theorem optionalNumber_numberOrNone (value : Option Rat) : optionalNumber (numberOrNone value) = .ok value := by
  cases value <;> rfl

@[simp] theorem optionalFloat_numberOrNone (value : Option Rat) : (numberOrNone value).optionalFloat = value := by
  cases value <;> rfl

theorem mapM_written {α β : Type} {write : α → β} {read : β → Except String α} (h : ∀ x, read (write x) = .ok x) :
    ∀ l : List α, (l.map write).mapM read = .ok l
  | [] => rfl
  | x :: rest => by
    rw [List.map_cons, List.mapM_cons, h x, mapM_written h rest]
    rfl

theorem bind_written {α β : Type} {x : Except String α} {a : α} {f : α → Except String β} {r : Except String β}
    (h : x = .ok a) (hrest : f a = r) : (x >>= f) = r := by
  rw [h]
  exact hrest

theorem bind_eq_ok {α β : Type} {x : Except String α} {f : α → Except String β} {b : β} :
    (x >>= f) = .ok b ↔ ∃ a, x = .ok a ∧ f a = .ok b := by
  cases x with
  | error e => simp [bind, Except.bind]
  | ok a => simp [bind, Except.bind]

theorem readDict_writeDict {α : Type} {write : α → PyVal} {read : PyVal → Except String α}
    (h : ∀ x, read (write x) = .ok x) (d : Dict String α) : readDict read (writeDict write d) = .ok d := by
  have hentry : ∀ e : String × α, readEntry read (e.1, write e.2) = .ok e := by
    intro e
    simp only [readEntry, h, bind, Except.bind, pure, Except.pure]
  simp only [readDict, writeDict, bind, Except.bind, pure, Except.pure, mapM_written hentry, Dict.ofList_entries]

theorem readList_writeList {α : Type} {write : α → PyVal} {read : PyVal → Except String α}
    (h : ∀ x, read (write x) = .ok x) (items : List α) : readList read (writeList write items) = .ok items :=
  mapM_written h items

@[simp] theorem readDict_int (d : Dict String Int) : readDict readInt (writeDict .int d) = .ok d :=
  readDict_writeDict (by intro n; rfl) d

@[simp] theorem readDict_float (d : Dict String Rat) : readDict readNumber (writeDict .float d) = .ok d :=
  readDict_writeDict (by intro q; rfl) d

@[simp] theorem readDict_any (d : Dict String PyVal) : readDict readAny (writeDict id d) = .ok d :=
  readDict_writeDict (by intro value; rfl) d

@[simp] theorem readList_text (items : List String) : readList readText (writeList .str items) = .ok items :=
  readList_writeList (by intro s; rfl) items

@[simp] theorem readOption_int (value : Option Int) : readOption readInt (writeOption .int value) = .ok value := by
  cases value <;> rfl

end Lib
