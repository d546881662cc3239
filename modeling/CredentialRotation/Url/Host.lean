import CredentialRotation.Url.Ipv4
import CredentialRotation.Url.Ipv6
import CredentialRotation.Url.Name
import CredentialRotation.Url.Percent

/-!
# Url — Host

The host of an address: an address of sixteen bytes between brackets, an address of four bytes, or a
name.  Percent signs are read before a name is.
-/

namespace CredentialRotation

/-- A host. -/
inductive Host where
  | named (name : HostName)
  | ipv4 (address : Ipv4)
  | ipv6 (address : Ipv6)
  deriving DecidableEq, Repr

namespace Host

/-- The host that the characters of a name write, where a name that ends in a number is an
address. -/
def ofName? (cs : List Char) : Option Host := do
  let name ← HostName.ofText? cs
  let text := HostName.text name
  if text = [] then none
  else if Ipv4.isNumeric text then (Ipv4.ofText? text).map ipv4
  else some (.named name)

/-- The host that a text writes. -/
def ofText? : List Char → Option Host
  | '[' :: rest =>
    if rest.getLast? = some ']' then (Ipv6.ofText? rest.dropLast).map ipv6 else none
  | cs => (Url.percentDecode? cs).bind ofName?

/-- The host as a text. -/
def toText : Host → String
  | named name => String.ofList (HostName.text name)
  | ipv4 address => address.toText
  | ipv6 address => "[" ++ address.toText ++ "]"

end Host

end CredentialRotation
