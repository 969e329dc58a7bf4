/-
  Endpoints: `address:port`.

  (1) The text of an endpoint: the address, a colon, the port in decimal.  No brackets are put around
      an IPv6 address, so the address may hold colons of its own.
  (2) Reading one back: cut at the LAST colon; the address must not be empty and the rest must be a
      port number — digits with an optional plus sign, at most 65535.
  (3) The crux: the port is written without colons, so the last colon IS the separator, and the text
      determines both parts (`split_render`).

  Beside them stands the rule that completes a bare host into a URL.
-/
import Muster.Text.Cut
import Muster.Text.Decimal

namespace Muster.Endpoint

/-- The largest port. -/
def maxPort : Nat := 65535

/-- **The text of an endpoint.** -/
def render (address : String) (port : UInt16) : String :=
  String.ofList (address.toList ++ ':' :: Decimal.digits port.toNat)

/-- **The parts of an endpoint**, or `none` when the text is none. -/
def split (s : String) : Option (String × UInt16) :=
  match Text.cutLast ':' s.toList with
  | none => none
  | some (address, port) =>
    if address = [] then none
    else (Decimal.read maxPort port).map fun n => (String.ofList address, UInt16.ofNat n)

/-- The decimal digits of a number hold no colon. -/
theorem colon_not_mem_digits (n : Nat) : ':' ∉ Decimal.digits n := fun h =>
  absurd (Decimal.isDigit_of_mem_digits h) (by decide)

/-- Reading what was written gives both parts back, unless the address is empty. -/
theorem split_render (address : String) (port : UInt16) :
    split (render address port) = if address = "" then none else some (address, port) := by
  have hp : port.toNat ≤ maxPort := by have := port.toNat_lt; unfold maxPort; omega
  unfold split render
  rw [String.toList_ofList, Text.cutLast_append (colon_not_mem_digits _)]
  by_cases h : address = ""
  · simp [h]
  · have : address.toList ≠ [] := by simpa using h
    simp [this, h, Decimal.read_digits hp]

/-! ## A URL for a bare host -/

/-- `http://` in front of a URL that names no scheme of its own; trailing slashes go. -/
def withHttpScheme (url : String) : String :=
  let bare := String.ofList (Text.trimEnd (· == '/') url.toList)
  if Text.startsWith "http://" url || Text.startsWith "https://" url then bare else "http://" ++ bare

end Muster.Endpoint
