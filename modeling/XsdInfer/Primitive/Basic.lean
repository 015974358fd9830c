/-!
# Primitive types

The types built into XML Schema that a value of a sample can be given.
-/

namespace XsdInfer

/-- A type built into XML Schema. -/
inductive Primitive where
  | string
  | integer
  | decimal
  | double
  | boolean
  | date
  | dateTime
  | time
  /-- Never inferred from a value. -/
  | base64Binary
deriving DecidableEq, Repr

namespace Primitive

def all : List Primitive :=
  [string, integer, decimal, double, boolean, date, dateTime, time, base64Binary]

/-- The name of a type in the vocabulary of XML Schema. -/
def name : Primitive → String
  | string => "string"
  | integer => "integer"
  | decimal => "decimal"
  | double => "double"
  | boolean => "boolean"
  | date => "date"
  | dateTime => "dateTime"
  | time => "time"
  | base64Binary => "base64Binary"

def ofName? (name : String) : Option Primitive :=
  all.find? (·.name == name)

/-- The name of a type as a reference from a schema. -/
def reference (t : Primitive) : String :=
  "xs:" ++ t.name

/-- The common type of two observations: any disagreement makes it a string. -/
def unify (s t : Primitive) : Primitive :=
  if s = t then s else string

/-- The list of the primitives has all of them. -/
theorem mem_all (t : Primitive) : t ∈ all := by
  cases t <;> decide

/-- Each type is found under its name. -/
theorem ofName?_name (t : Primitive) : ofName? t.name = some t := by
  cases t <;> decide

/-- It does not matter which of two types comes first. -/
theorem unify_comm (s t : Primitive) : unify s t = unify t s := by
  cases s <;> cases t <;> rfl

/-- It does not matter in which order three types are unified. -/
theorem unify_assoc (r s t : Primitive) : unify (unify r s) t = unify r (unify s t) := by
  cases r <;> cases s <;> cases t <;> rfl

/-- A type is its own common type. -/
@[simp]
theorem unify_self (t : Primitive) : unify t t = t := by
  simp [unify]

end Primitive

end XsdInfer
