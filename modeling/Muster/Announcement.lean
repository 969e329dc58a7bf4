/-
  Announcements: the JSON in which an instance is published.

  An instance is written as an object of three fields, compact and in a fixed order.  It is read more
  generously: the fields in any order and others beside them, or a list of exactly three.  A field
  that stands twice, a port that is not an integer literal from 0 to 65535, and bytes that are not
  strict JSON are refused.
-/
import Muster.Datum
import Muster.Instance
import Muster.Json.Reader

namespace Muster.Instance

/-- The fields of an announcement, in their order. -/
def fields : List String := ["name", "address", "port"]

/-- An instance as JSON. -/
def toJson (i : Instance) : Json :=
  .object [("name", .string i.name), ("address", .string i.address),
    ("port", .ofNat i.port.toNat)]

/-- **The announcement of an instance.** -/
def encode (i : Instance) : String := i.toJson.render

/-- The instance in a datum. -/
def ofDatum? (d : Datum) : Option Instance := do
  let r ← d.record? .json fields
  let name ← r.required "name" Datum.text?
  let address ← r.required "address" Datum.text?
  let port ← r.required "port" Datum.uint16?
  return ⟨name, address, port⟩

/-- **The instance that bytes announce**, if they announce one. -/
def decode? (b : ByteArray) : Option Instance :=
  (Json.parseBytes b).bind fun v => ofDatum? (.ofJson v)

/-- A list of instances as JSON text. -/
def encodeList (l : List Instance) : String := (Json.array (l.map toJson)).render

end Muster.Instance
