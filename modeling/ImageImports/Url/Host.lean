import ImageImports.Url.Escape
import ImageImports.Url.Ipv6
import ImageImports.Url.Punycode

/-!
# Hosts

The host of a URL is a name or an address. In the schemes of the web escapes in a name are resolved,
the name is spelled in ASCII, and a name that ends in a number is an address. In other schemes a
name is kept as it is.

## Main definitions

* `Url.Host`: a name or an address.
* `Url.ToAscii`: how names of the web are spelled in ASCII.
* `Url.ToAscii.ofAscii`: the spelling of names that are in ASCII.
* `Url.Host.parse?`: the host that a text spells.
* `Url.Host.render`: its normal spelling.
-/

namespace ImageImports.Url

/-- The host of a URL. -/
inductive Host where
  | named (name : String)
  | ipv4 (address : Nat)
  | ipv6 (groups : List Nat)
  deriving DecidableEq, Repr

/-- How names of the web are spelled in ASCII. A name is given by its bytes. It may hold characters
of any script, which Unicode has tables for, and a name that no host may have gets no spelling. The
tables are no part of this library: whatever reads URLs is told how names are spelled. -/
abbrev ToAscii := List UInt8 → Option (List Char)

/-- Names that are in ASCII, spelled in small letters. A name beyond ASCII gets no spelling, and
neither does one with a label that spells none. -/
def ToAscii.ofAscii : ToAscii := fun bytes =>
  let name := bytes.map fun b => (Char.ofNat b.toNat).toLower
  if name.all (·.toNat < 128) && (Ipv4.splitDots name).all Punycode.isValidLabel then some name
  else none

namespace Host

/-- The host without a name. -/
def empty : Host := .named ""

/-- Characters that no host may hold. -/
def forbidden : List Char :=
  ['\x00', '\t', '\n', '\r', ' ', '#', '/', ':', '<', '>', '?', '@', '[', '\\', ']', '^', '|']

/-- A character that may stand in a name of the web. -/
def allowedInName (c : Char) : Bool :=
  0x20 < c.toNat && c.toNat < 0x7F && c ≠ '%' && !forbidden.contains c

/-- The address between square brackets. -/
def bracketed? (cs : List Char) : Option Host :=
  if cs.getLast? = some ']' then (Ipv6.parse? cs.dropLast).map .ipv6 else none

/-- A host of the web. -/
def parseSpecial? (ascii : ToAscii) (cs : List Char) : Option Host :=
  match cs with
  | '[' :: rest => bracketed? rest
  | _ =>
    (ascii (unescape cs)).bind fun name =>
      if name.isEmpty || !name.all allowedInName then none
      else if Ipv4.endsInNumber name then (Ipv4.parse? name).map .ipv4
      else some (.named (String.ofList name))

/-- A host of another scheme. -/
def parseOpaque? (cs : List Char) : Option Host :=
  match cs with
  | '[' :: rest => bracketed? rest
  | _ =>
    if cs.any forbidden.contains then none else some (.named (String.ofList (escape [] cs)))

/-- The host that a text spells. -/
def parse? (ascii : ToAscii) (special : Bool) (cs : List Char) : Option Host :=
  if special then parseSpecial? ascii cs else parseOpaque? cs

/-- The normal spelling of a host. -/
def render : Host → String
  | .named name => name
  | .ipv4 address => Ipv4.render address
  | .ipv6 groups => "[" ++ Ipv6.render groups ++ "]"

end Host

end ImageImports.Url
