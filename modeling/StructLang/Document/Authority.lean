import StructLang.Alphabet.Digit
import StructLang.Text.Numeral
import StructLang.Text.Parts
import StructLang.Text.Quoted

/-!
# Authorities

The authority of a URI names a host, maybe with a user before it and a number after it. A host that
is an IPv6 address stands in brackets, and so does an address of a later version. No character of
an authority may stand for one that would end it.
-/

namespace StructLang

/-- Why a text is not read as a URI. The cause always lies in its authority. -/
inductive UriFault
  | brackets
  | bracketedIPv4
  | laterVersion
  | noAddress (host : String)
  | reserved (authority : String)
  deriving DecidableEq, Repr

/-- What is wrong with a refused URI. -/
def UriFault.message : UriFault → String
  | brackets => "Invalid IPv6 URL"
  | bracketedIPv4 => "An IPv4 address cannot be in brackets"
  | laterVersion => "IPvFuture address is invalid"
  | noAddress host => s!"{Text.quoted host} does not appear to be an IPv4 or IPv6 address"
  | reserved authority =>
      s!"netloc '{authority}' contains invalid characters under NFKC normalization"

namespace Authority

/-! ## Addresses -/

/-- Whether a text is one of the four numbers of an IPv4 address: at most 255, in decimal digits
of ASCII without a zero in front. -/
def isByte (text : List Char) : Bool :=
  !text.isEmpty && text.length ≤ 3 && text.all (·.isDigit) &&
    (text.length == 1 || text.head? != some '0') &&
    Text.valueOfDigits (text.map fun digit => digit.toNat - '0'.toNat) ≤ 255

/-- Whether a text is an IPv4 address: four numbers with points between them. -/
def isIPv4 (text : List Char) : Bool :=
  let numbers := Text.parts '.' text
  numbers.length == 4 && numbers.all isByte

/-- Whether a text is a group of an IPv6 address: one to four hexadecimal digits. -/
def isGroup (text : List Char) : Bool :=
  !text.isEmpty && text.length ≤ 4 && text.all fun digit => (Alphabet.hexValue? digit).isSome

/-- The texts between the colons of a part of an address; an empty part has none. -/
def groupTexts (part : List Char) : List (List Char) :=
  if part.isEmpty then [] else Text.parts ':' part

/-- How many groups some texts come to, if each of them is one. The last one may be an IPv4
address, which takes the place of two. -/
def groupCount? : List (List Char) → Option Nat
  | [] => some 0
  | [last] => if isIPv4 last then some 2 else if isGroup last then some 1 else none
  | head :: tail => if isGroup head then (groupCount? tail).map (· + 1) else none

/-- What stands before and after the first two colons in a row. -/
def cutAtGap? : List Char → Option (List Char × List Char)
  | [] => none
  | ':' :: ':' :: rest => some ([], rest)
  | character :: rest => (cutAtGap? rest).map fun (before, after) => (character :: before, after)

/-- Whether a text is eight groups with colons between them, of which one or more in a row may be
left out between two colons. -/
def areGroups (text : List Char) : Bool :=
  match cutAtGap? text with
  | none => groupCount? (Text.parts ':' text) == some 8
  | some (before, after) =>
      (groupTexts before).all isGroup &&
        (groupCount? (groupTexts after)).any fun count => (groupTexts before).length + count < 8

/-- Whether a text is an IPv6 address. The name of a zone may follow a percent sign. -/
def isIPv6 (text : List Char) : Bool :=
  areGroups (text.takeWhile (· != '%')) &&
    match text.dropWhile (· != '%') with
    | [] => true
    | _ :: zone => !zone.isEmpty && !zone.contains '%'

/-- Whether a text is an address of a later version: the letter `v`, hexadecimal digits, a point,
and something after it. -/
def isLaterVersion (text : List Char) : Bool :=
  match text with
  | 'v' :: rest =>
      let isHex (character : Char) : Bool := (Alphabet.hexValue? character).isSome
      match rest.dropWhile isHex with
      | '.' :: _ :: _ => !(rest.takeWhile isHex).isEmpty
      | _ => false
  | _ => false

/-- Refuses a host in brackets that is no address, or one of version 4. -/
def checkAddress (host : List Char) : Except UriFault Unit :=
  if host.head? = some 'v' then
    if isLaterVersion host then .ok () else .error .laterVersion
  else if isIPv4 host then .error .bracketedIPv4
  else if isIPv6 host then .ok ()
  else .error (.noAddress (String.ofList host))

/-! ## The whole -/

/-- An authority without the user: what stands after its last at sign. -/
def withoutUser (authority : List Char) : List Char :=
  (authority.reverse.takeWhile (· != '@')).reverse

/-- Refuses a host in brackets that is no address, or that has something beside it which no colon
divides from it. If the brackets belong to the user, the host must be an address without them. -/
def checkBrackets (authority : List Char) : Except UriFault Unit :=
  let place := withoutUser authority
  match place.dropWhile (· != '[') with
  | [] => checkAddress (place.takeWhile (· != ':'))
  | _ :: bracketed =>
      let behind := (bracketed.dropWhile (· != ']')).drop 1
      if place.head? ≠ some '[' ∨ behind.head?.any (· != ':') then .error .brackets
      else checkAddress (bracketed.takeWhile (· != ']'))

/-- The code points beyond ASCII whose compatibility decomposition (Unicode 14) holds a slash, a
question mark, a number sign, an at sign or a colon. -/
def expandingToReserved : List Nat :=
  [0x2047, 0x2048, 0x2049, 0x2100, 0x2101, 0x2105, 0x2106, 0x2A74, 0xFE13, 0xFE16, 0xFE55, 0xFE56,
   0xFE5F, 0xFE6B, 0xFF03, 0xFF0F, 0xFF1A, 0xFF1F, 0xFF20]

/-- Refuses an authority with brackets that do not enclose an address, or with a character that
stands for one of those that divide a URI. -/
def check (authority : List Char) : Except UriFault Unit :=
  let isReserved := authority.any fun character => expandingToReserved.contains character.toNat
  let refusal : Except UriFault Unit :=
    if isReserved then .error (.reserved (String.ofList authority)) else .ok ()
  if authority.contains '[' != authority.contains ']' then .error .brackets
  else if authority.contains '[' then
    match checkBrackets authority with
    | .error fault => .error fault
    | .ok () => refusal
  else refusal

end Authority

end StructLang
