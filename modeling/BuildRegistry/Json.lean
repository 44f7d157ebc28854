import BuildRegistry.Decimal.Double

/-
  JSON documents. Integers of 64 bits, signed or unsigned, are exact; every other number is a
  double. `Json.object` keeps the fields in ascending order of their names, each name once.
-/

namespace BuildRegistry

inductive Json where
  | null
  | bool (b : Bool)
  | int (n : Int)
  | double (x : Decimal.Double)
  | str (s : String)
  | arr (items : List Json)
  | obj (fields : List (String × Json))

namespace Json

/-- Puts a field in its place among fields in ascending order; the last value of a name stays. -/
def put {α : Type} (key : String) (value : α) : List (String × α) → List (String × α)
  | [] => [(key, value)]
  | (k, v) :: rest =>
    match compare key k with
    | .lt => (key, value) :: (k, v) :: rest
    | .eq => (key, value) :: rest
    | .gt => (k, v) :: put key value rest

/-- The fields in ascending order, the last of each name. -/
def sorted {α : Type} (fields : List (String × α)) : List (String × α) :=
  fields.foldl (fun acc f => put f.1 f.2 acc) []

def object (fields : List (String × Json)) : Json := obj (sorted fields)

/-- An object with text values. -/
def textMap (entries : List (String × String)) : Json :=
  object (entries.map fun (k, v) => (k, str v))

def ofOption {α : Type} (f : α → Json) : Option α → Json
  | none => null
  | some a => f a

def text? (s : Option String) : Json := ofOption str s

def texts (ss : List String) : Json := arr (ss.map str)

def field? (name : String) : Json → Option Json
  | obj fields => fields.lookup name
  | _ => none

end Json

end BuildRegistry
