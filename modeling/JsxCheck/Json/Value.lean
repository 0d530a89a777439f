import JsxCheck.Json.Decimal

/-!
JSON values.

An object holds each key once, and its keys in increasing order.
-/
namespace JsxCheck

inductive Json where
  | null
  | bool (value : Bool)
  /-- A whole number that 64 bits hold, with or without a sign. -/
  | integer (value : Int)
  /-- Any other number. -/
  | decimal (value : Decimal)
  | string (value : String)
  | array (items : List Json)
  | object (fields : List (String × Json))
  deriving Inhabited

namespace Json

/-- Puts a key at its place, over an earlier value of the same key. -/
def insertField (key : String) (value : Json) : List (String × Json) → List (String × Json)
  | [] => [(key, value)]
  | (k, v) :: rest =>
    if key < k then (key, value) :: (k, v) :: rest
    else if key = k then (key, value) :: rest
    else (k, v) :: insertField key value rest

/-- An object from its entries in the order they are written; the last value of a key counts. -/
def ofFields (entries : List (String × Json)) : Json :=
  .object (entries.foldl (fun fields e => insertField e.1 e.2 fields) [])

def field? (key : String) : Json → Option Json
  | .object fields => (fields.find? (·.1 == key)).map (·.2)
  | _ => none

end Json

end JsxCheck
