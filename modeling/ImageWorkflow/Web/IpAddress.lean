/-!
# Numeric addresses

`IpAddress.isV4` and `IpAddress.isV6` : whether a text is a numeric address.  The longer kind has
eight groups of hexadecimal digits, of which `::` leaves out a row of zeros and a short address may
write the last two; a zone may follow behind `%`.
-/

namespace ImageWorkflow.Web.IpAddress

/-- The parts of a text between the characters `separator`. -/
def splitAt (separator : Char) : List Char → List (List Char)
  | [] => [[]]
  | c :: rest =>
    match splitAt separator rest with
    | part :: more => if c = separator then [] :: part :: more else (c :: part) :: more
    | [] => [[]]

/-- Whether a text is a number below 256 without needless zeros. -/
def isOctet (text : List Char) : Bool :=
  !text.isEmpty && text.all Char.isDigit && text.length ≤ 3 &&
    (text.length = 1 || text.head? ≠ some '0') &&
    text.foldl (fun n c => n * 10 + (c.toNat - 48)) 0 ≤ 255

/-- Whether a text is a short address. -/
def isV4 (text : List Char) : Bool :=
  let parts := splitAt '.' text
  parts.length = 4 && parts.all isOctet

/-- Whether a text is a group of a long address. -/
def isGroup (text : List Char) : Bool :=
  !text.isEmpty && text.length ≤ 4 &&
    text.all fun c => c.isDigit || ('a' ≤ c && c ≤ 'f') || ('A' ≤ c && c ≤ 'F')

/-- The groups of a long address, those that a short address writes among them. -/
def groups? (text : List Char) : Option (List (List Char)) :=
  let parts := splitAt ':' text
  let last := parts.getLast?.getD []
  if parts.length < 3 then none
  else if last.contains '.' then
    if isV4 last then some (parts.dropLast ++ [['0'], ['0']]) else none
  else some parts

/-- Whether groups are those of a long address: eight, or fewer with one gap, which may be at an
end. -/
def areGroups (groups : List (List Char)) : Bool :=
  let inner := groups.tail.dropLast
  match inner.count [] with
  | 0 => groups.length = 8 && groups.all isGroup
  | 1 =>
    let place := inner.idxOf [] + 1
    let before := groups.take place
    let after := groups.drop (place + 1)
    let before := if before = [[]] then [] else before
    let after := if after = [[]] then [] else after
    before.all isGroup && after.all isGroup && before.length + after.length < 8 &&
      groups.length ≤ 9
  | _ => false

/-- Whether a text is a long address. -/
def isV6 (text : List Char) : Bool :=
  let address := text.takeWhile (· ≠ '%')
  let zone := (text.dropWhile (· ≠ '%')).drop 1
  let hasZone := text.contains '%'
  (!hasZone || (!zone.isEmpty && !zone.contains '%')) && (groups? address).any areGroups

end ImageWorkflow.Web.IpAddress
