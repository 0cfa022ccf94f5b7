import RamlBridge.Text.Hex
import RamlBridge.Text.Pieces

/-!
Addresses of hosts in figures, of four bytes or of eight groups, and the brackets that an authority
holds an address in.
-/
namespace RamlBridge.Uri

/-- Whether characters are a number below 256 in decimal, without a zero in front. -/
def isOctet (cs : List Char) : Bool :=
  !cs.isEmpty && cs.length ≤ 3 && cs.all Char.isDigit && (cs == ['0'] || cs.head? != some '0') &&
    cs.foldl (fun n c => 10 * n + (c.toNat - '0'.toNat)) 0 ≤ 255

/-- Whether characters are an address of four bytes with points between them. -/
def isFourByteAddress (cs : List Char) : Bool :=
  let octets := Text.split '.' cs
  octets.length == 4 && octets.all isOctet

def isHexDigit (c : Char) : Bool :=
  (Text.hexValue? c).isSome

/-- Whether characters are a group of an address: up to four hexadecimal digits. -/
def isGroup (cs : List Char) : Bool :=
  !cs.isEmpty && cs.length ≤ 4 && cs.all isHexDigit

/-- The groups of an address, where an address of four bytes at the end counts as two; none if it
is no such address. -/
def groups? (cs : List Char) : Option (List (List Char)) :=
  let parts := Text.split ':' cs
  let last := parts.getLastD []
  if parts.length < 3 then none
  else if last.contains '.' then
    if isFourByteAddress last then some (parts.dropLast ++ [['0'], ['0']]) else none
  else some parts

/-- Whether groups are an address: eight of them, or fewer with one gap, which is an empty group and
at either end two. -/
def areGroups (groups : List (List Char)) : Bool :=
  match groups.findIdx? (·.isEmpty) with
  | none => groups.length == 8 && groups.all isGroup
  | some i =>
    let before := groups.take i
    let gapAndAfter := groups.drop (max i 1)
    let after := if gapAndAfter.tail = [[]] then [] else gapAndAfter.tail
    gapAndAfter.length ≥ 2 && gapAndAfter.head? == some [] && before.length + after.length < 8 &&
      before.all isGroup && after.all isGroup

/-- Whether characters are an address of eight groups. A zone may follow it behind a percent
sign. -/
def isGroupAddress (cs : List Char) : Bool :=
  let (address, zone) := Text.cut '%' cs
  !cs.contains '/' && zone.all (fun z => !z.isEmpty && !z.contains '%') &&
    match groups? address with
    | some groups => areGroups groups
    | none => false

/-- Whether characters are an address of a later kind: its version after a letter, a point, and the
address. -/
def isFutureAddress (cs : List Char) : Bool :=
  match Text.cut '.' cs with
  | ('v' :: version, some address) =>
    !version.isEmpty && version.all isHexDigit && !address.isEmpty && !address.contains '\n'
  | _ => false

/-- Whether the host of an authority with brackets can stand in them. Nothing stands before the
brackets, and behind them at most a port. -/
def isBracketed (authority : List Char) : Bool :=
  let hostPort := Text.afterLast '@' authority
  let isHost (cs : List Char) : Bool :=
    if cs.head? = some 'v' then isFutureAddress cs else isGroupAddress cs
  match Text.cut '[' hostPort with
  | (before, some inside) =>
    let (host, after) := Text.cut ']' inside
    let port := after.getD []
    before.isEmpty && (port.isEmpty || port.head? == some ':') && isHost host
  | (_, none) => isHost (Text.cut ':' hostPort).1

end RamlBridge.Uri
