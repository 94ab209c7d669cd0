import Cc2Camera.Lib.Sorting
import Cc2Camera.Python
import Mathlib.Data.List.Lex
import Mathlib.Data.Rat.Defs

/-!
# Json — values as `json.loads` returns them

A JSON value keeps Python's distinctions: `True`, `1` and `1.0` are three values that compare equal, and
a string is a list of code points, since a decoded string may hold a lone surrogate.  A dict is an
association list read by its first entry for a key.
-/

open Bytes Exceptions

namespace Cc2Camera

/-- A Python string: its code points, lone surrogates included. -/
abbrev Text := List Nat

instance : LawfulBEq Text := inferInstance

/-- A string literal of the source. -/
def text (s : String) : Text := s.toList.map Char.toNat

inductive Json where
  | null
  | bool (b : Bool)
  | int (n : Int)
  | finite (q : ℚ)
  -- an infinity or a NaN
  | nonfinite
  | str (s : Text)
  | arr (items : List Json)
  | obj (fields : List (Text × Json))

/-- The value a literal of the source is compared with. -/
inductive Expected where
  | int (n : Int)
  | bool (b : Bool)
  | str (s : Text)

namespace Json

/-- The number a value stands for in an arithmetic comparison. -/
def num? : Json → Option ℚ
  | bool b => some (if b then 1 else 0)
  | int n => some n
  | finite q => some q
  | _ => none

/-- `value == expected`. -/
def eqs (value : Json) : Expected → Bool
  | .int n => value.num? = some (n : ℚ)
  | .bool b => value.num? = some (if b then 1 else 0)
  | .str s =>
    match value with
    | str t => t = s
    | _ => false

/-- The entries of a value that is a dict. -/
def dict? : Json → Option (List (Text × Json))
  | obj fields => some fields
  | _ => none

def list? : Json → Option (List Json)
  | arr items => some items
  | _ => none

def str? : Json → Option Text
  | str s => some s
  | _ => none

/-- An `int` in the sense of `type(value) is int`. -/
def int? : Json → Option Int
  | int n => some n
  | _ => none

/-- `f"{value:x}"`. -/
def formatHex : Json → Except Exc String
  | int n => .ok ((if n < 0 then "-" else "") ++ String.ofList (Nat.toDigits 16 n.natAbs))
  | bool b => .ok (if b then "1" else "0")
  | finite _ => .error .valueError
  | nonfinite => .error .valueError
  | str _ => .error .valueError
  | _ => .error .typeError

/-- `sum(values)`. -/
def sum : List Json → Except Exc ℚ
  | [] => .ok 0
  | value :: values => do
    let head ← orRaise value.num? .typeError
    let tail ← sum values
    .ok (head + tail)

@[simp] theorem dict?_eq_some {value : Json} {fields : List (Text × Json)} :
    value.dict? = some fields ↔ value = .obj fields := by
  cases value <;> simp [dict?]

@[simp] theorem list?_eq_some {value : Json} {items : List Json} :
    value.list? = some items ↔ value = .arr items := by
  cases value <;> simp [list?]

@[simp] theorem int?_eq_some {value : Json} {n : Int} : value.int? = some n ↔ value = .int n := by
  cases value <;> simp [int?]

@[simp] theorem str?_eq_some {value : Json} {s : Text} : value.str? = some s ↔ value = .str s := by
  cases value <;> simp [str?]

theorem eqs_int_iff {value : Json} {n : Int} :
    value.eqs (.int n) = true ↔ value.num? = some (n : ℚ) := decide_eq_true_iff

end Json

/-- `d.get(key)`: `None` when the key is absent. -/
def dictGet (fields : List (Text × Json)) (key : String) : Json :=
  (fields.lookup (text key)).getD .null

/-- The loop `for key, expected in ...: if d.get(key) != expected: raise`. -/
def checkFields (fields : List (Text × Json)) (complain : String → Exc) :
    List (String × Expected) → Except Exc Unit
  | [] => .ok ()
  | (key, expected) :: rest => do
    raiseIf (!(dictGet fields key).eqs expected) (complain key)
    checkFields fields complain rest

theorem checkFields_eq_ok {fields : List (Text × Json)} {complain : String → Exc}
    {expected : List (String × Expected)} {u : Unit} :
    checkFields fields complain expected = .ok u ↔
      ∀ e ∈ expected, (dictGet fields e.1).eqs e.2 = true := by
  induction expected with
  | nil => simp [checkFields]
  | cons e rest ih =>
    obtain ⟨key, value⟩ := e
    rw [checkFields, bind_eq_ok, List.forall_mem_cons, ← ih]
    simp

/-! ## Values with their keys in order -/

open Sorting

mutual
/-- What is read back of a value that was written with `sort_keys=True`: every dict has its keys in order. -/
def Json.sorted : Json → Json
  | .arr items => .arr (sortedItems items)
  | .obj fields => .obj (sortByKey Prod.fst (sortedFields fields))
  | value => value

def sortedItems : List Json → List Json
  | [] => []
  | item :: items => item.sorted :: sortedItems items

def sortedFields : List (Text × Json) → List (Text × Json)
  | [] => []
  | (key, value) :: fields => (key, value.sorted) :: sortedFields fields
end

theorem sortedItems_eq_map (items : List Json) : sortedItems items = items.map Json.sorted := by
  induction items with
  | nil => rfl
  | cons item items ih => rw [sortedItems, ih, List.map_cons]

theorem sortedFields_eq_map (fields : List (Text × Json)) :
    sortedFields fields = fields.map fun field => (field.1, field.2.sorted) := by
  induction fields with
  | nil => rfl
  | cons field fields ih => rw [sortedFields, ih, List.map_cons]

/-- The dict that is read back. -/
def sortedDict (fields : List (Text × Json)) : List (Text × Json) :=
  sortByKey Prod.fst (sortedFields fields)

theorem lookup_sortedDict (fields : List (Text × Json)) (key : Text) :
    (sortedDict fields).lookup key = (fields.lookup key).map Json.sorted := by
  rw [sortedDict, lookup_sortByKey, sortedFields_eq_map]
  induction fields with
  | nil => rfl
  | cons field fields ih =>
    rw [List.map_cons, List.lookup_cons, List.lookup_cons]
    cases key == field.1 with
    | true => rfl
    | false => exact ih

theorem dictGet_sortedDict (fields : List (Text × Json)) (key : String) :
    dictGet (sortedDict fields) key = (dictGet fields key).sorted := by
  rw [dictGet, dictGet, lookup_sortedDict]
  cases fields.lookup (text key) <;> rfl

-- the comparisons of the readers do not look into a dict
theorem Json.eqs_sorted (value : Json) (expected : Expected) :
    value.sorted.eqs expected = value.eqs expected := by
  cases value <;> rfl

theorem Json.str?_sorted (value : Json) : value.sorted.str? = value.str? := by
  cases value <;> rfl

/-- Python's own text functions, where only their results are compared or printed. -/
structure PyText where
  casefold : Text → Text
  repr : Text → String
  format : Json → String

-- text functions that leave lower-case ASCII as it is and print nothing
def plainText : PyText where
  casefold s := s
  repr _ := ""
  format _ := ""

/-- `json` over UTF-8: `dumps` is called with `sort_keys=True`, `loads` raises `UnicodeDecodeError`, `ValueError` or `RecursionError`. -/
structure JsonCodec where
  dumps : Json → Bytes
  loads : Bytes → Except Exc Json

end Cc2Camera
