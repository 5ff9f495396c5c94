import Confluence.Core.Types
import Confluence.Uuid

/-!
# JSON values

Command payloads and exchange responses are JSON values that the program takes apart. The payloads
of audit events are only ever written; their leaves keep the values they were built from.
-/

namespace Confluence

inductive Json
  | null
  | bool (b : Bool)
  | num (n : ℚ)
  | str (s : String)
  | arr (values : List Json)
  | obj (fields : List (String × Json))

namespace Json

def get (key : String) : Json → Option Json
  | obj fields => fields.lookup key
  | _ => none

def asStr : Json → Option String
  | str s => some s
  | _ => none

def asBool : Json → Option Bool
  | bool b => some b
  | _ => none

def asArray : Json → Option (List Json)
  | arr values => some values
  | _ => none

/-- `v.get(key).and_then(as_str)`. -/
def getStr (v : Json) (key : String) : Option String := (v.get key).bind asStr

/-- `v.get(key).and_then(as_bool)`. -/
def getBool (v : Json) (key : String) : Option Bool := (v.get key).bind asBool

/-- `v.get(key).and_then(as_array)`. -/
def getArray (v : Json) (key : String) : Option (List Json) := (v.get key).bind asArray

end Json

/-- `json!({ "order_id": order_id })`. -/
def orderPayload (orderId : Uuid) : Json := .obj [("order_id", .str (toString orderId))]

/-- The leaves of event payloads. -/
inductive Datum
  | uuid (id : Uuid)
  | commandId (id : ℕ)
  | text (s : String)
  | bool (b : Bool)
  | decimal (d : Decimal)
  | int (n : ℤ)
  | intent (i : TradeIntent)
  | decision (d : Decision)
  | arr (items : List Datum)
  | obj (fields : List (String × Datum))

abbrev Payload := List (String × Datum)

/-- A piece of a message: text, or a value that the message shows. -/
inductive Piece
  | text (s : String)
  | decimal (d : Decimal)
  | int (n : ℤ)
  | decision (d : Decision)
deriving DecidableEq

abbrev Message := List Piece

instance : Coe String Piece := ⟨.text⟩
instance : Coe Decimal Piece := ⟨.decimal⟩
instance : Coe ℤ Piece := ⟨.int⟩

end Confluence
