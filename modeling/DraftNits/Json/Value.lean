/-! # JSON values

A value of a JSON text. An object keeps its members in the order in which they are written. A
number is an integer when it is written without a point, without an exponent and not as `-0`;
any other number is kept as it is written, because no record of this library has a place for it. -/

namespace DraftNits

/-- A JSON value. -/
inductive Json where
  /-- The value `null`. -/
  | null
  /-- A truth value. -/
  | bool (value : Bool)
  /-- A number written as an integer. -/
  | int (value : Int)
  /-- A number in any other notation, as it is written. -/
  | number (literal : String)
  /-- A text. -/
  | str (value : String)
  /-- A list. -/
  | arr (items : List Json)
  /-- An object with its members in order. -/
  | obj (members : List (String × Json))
  deriving Inhabited

namespace Json

/-- A natural number. -/
def nat (n : Nat) : Json := .int n

/-- A text, or `null` where there is none. -/
def optStr : Option String → Json
  | none => .null
  | some s => .str s

/-- A natural number, or `null` where there is none. -/
def optNat : Option Nat → Json
  | none => .null
  | some n => .nat n

/-- A list of values of one type. -/
def list {α : Type} (item : α → Json) (items : List α) : Json := .arr (items.map item)

/-! ## Reading values -/

/-- A text. -/
def str? : Json → Option String
  | .str s => some s
  | _ => none

/-- A truth value. -/
def bool? : Json → Option Bool
  | .bool b => some b
  | _ => none

/-- A natural number below a bound. -/
def natBelow? (bound : Nat) : Json → Option Nat
  | .int n => if 0 ≤ n ∧ n < bound then some n.toNat else none
  | _ => none

/-- A natural number of 64 bits. -/
def nat64? : Json → Option Nat := natBelow? UInt64.size

/-- A natural number of 32 bits. -/
def nat32? : Json → Option Nat := natBelow? UInt32.size

/-- Nothing for `null`, otherwise the value that a reader finds. -/
def opt? {α : Type} (item? : Json → Option α) : Json → Option (Option α)
  | .null => some none
  | v => (item? v).map some

/-- A list whose items a reader accepts one by one. -/
def list? {α : Type} (item? : Json → Option α) : Json → Option (List α)
  | .arr items => items.mapM item?
  | _ => none

/-- The name of a choice: written as a text, or as an object with that one key and `null`. -/
def choice? : Json → Option String
  | .str s => some s
  | .obj [(s, .null)] => some s
  | _ => none

/-! ## Records

A record is an object; members that it does not know are passed over. It may also be written as
the list of its members' values in order, which must then be complete. -/

/-- The members of a record with the given member names. -/
def record? (names : List String) : Json → Option (List (String × Json))
  | .obj members => some members
  | .arr values => if values.length = names.length then some (names.zip values) else none
  | _ => none

/-- A member that must be there. -/
def required? {α : Type} (item? : Json → Option α) (name : String)
    (members : List (String × Json)) : Option α :=
  (members.lookup name).bind item?

/-- A member that may be missing or `null`. -/
def optional? {α : Type} (item? : Json → Option α) (name : String)
    (members : List (String × Json)) : Option (Option α) :=
  match members.lookup name with
  | none => some none
  | some v => opt? item? v

@[simp] theorem str?_str (s : String) : str? (.str s) = some s := rfl

@[simp] theorem bool?_bool (b : Bool) : bool? (.bool b) = some b := rfl

/-- A natural number below the bound is read back. -/
theorem natBelow?_nat {bound n : Nat} (h : n < bound) : natBelow? bound (.nat n) = some n := by
  simp [nat, natBelow?, h]

end Json

end DraftNits
