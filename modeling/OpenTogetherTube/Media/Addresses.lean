import OpenTogetherTube.Lib.Digits

/-!
# Private addresses

Embeds `isPrivateAddress` of `server/ffprobe.ts` with `isIPv4` and `isIPv6` of `node:net`. The
texts are lists of characters throughout.
-/

namespace OpenTogetherTube

open Lib

/-- A number up to 255 in decimal, without leading zeros. -/
def isOctet (part : List Char) : Bool :=
  !part.isEmpty && part.all Char.isDigit &&
    (decide (part.length = 1) || decide (part.head? ≠ some '0')) &&
    decide (Nat.ofDigitChars 10 part 0 ≤ 255)

/-- `net.isIPv4`: four octets with dots between them. -/
def isIPv4 (text : List Char) : Bool :=
  decide ((text.splitOn '.').length = 4) && (text.splitOn '.').all isOctet

/-- One to four hexadecimal digits. -/
def isHextet (part : List Char) : Bool :=
  decide (1 ≤ part.length) && decide (part.length ≤ 4) && part.all isHexDigit

/-- How many groups stand before `::`. -/
def leadingGroups (text : List Char) : Option Nat :=
  if text.isEmpty then some 0
  else if (text.splitOn ':').all isHextet then some (text.splitOn ':').length
  else none

/-- How many groups a text without `::` stands for. An IPv4 address at its end counts for two. -/
def groupCount (text : List Char) : Option Nat :=
  match (text.splitOn ':').getLast? with
  | none => none
  | some last =>
      if (text.splitOn ':').dropLast.all isHextet && isIPv4 last then
        some ((text.splitOn ':').length + 1)
      else leadingGroups text

/-- The texts before and after the first `::`. -/
def splitDouble : List Char → Option (List Char × List Char)
  | ':' :: ':' :: rest => some ([], rest)
  | char :: rest => (splitDouble rest).map fun parts => (char :: parts.1, parts.2)
  | [] => none

/-- A character of a zone. -/
def isZoneChar (char : Char) : Bool :=
  char.isAlphanum || decide (char ∈ ['-', '.', ':'])

/-- `net.isIPv6`: eight groups, or fewer around one `::`, and perhaps a zone after a percent sign. -/
def isIPv6 (text : List Char) : Bool :=
  let zone := text.dropWhile fun char => decide (char ≠ '%')
  (zone.isEmpty || decide (2 ≤ zone.length) && zone.tail.all isZoneChar) &&
    match splitDouble (text.takeWhile fun char => decide (char ≠ '%')) with
    | none => decide (groupCount (text.takeWhile fun char => decide (char ≠ '%')) = some 8)
    | some (left, right) =>
        match leadingGroups left, groupCount right with
        | some before, some after => decide (before + after ≤ 7)
        | _, _ => false

/-- `isPrivateAddress`, for an IPv4 address. -/
def isPrivateIPv4 (address : List Char) : Bool :=
  match (address.splitOn '.').map fun part => Nat.ofDigitChars 10 part 0 with
  | a :: b :: c :: _ =>
      decide (a = 0) || decide (a = 10) || decide (a = 127) ||
        decide (a = 100 ∧ b ≥ 64 ∧ b ≤ 127) || decide (a = 169 ∧ b = 254) ||
        decide (a = 172 ∧ b ≥ 16 ∧ b ≤ 31) || decide (a = 192 ∧ b = 168) ||
        decide (a = 192 ∧ b = 0 ∧ c = 0) || decide (a = 198 ∧ (b = 18 ∨ b = 19)) ||
        decide (a ≥ 224)
  | _ => false

/-- The text of four octets. -/
def dottedText (octets : List Nat) : List Char :=
  ['.'].intercalate (octets.map (Nat.toDigits 10))

/-- `IPV4_MAPPED_HEX_PATTERN`: the two groups of a match. -/
def matchMappedHex (mapped : List Char) : Option (List Char × List Char) :=
  match mapped.splitOn ':' with
  | [high, low] =>
      if [high, low].all fun part => decide (1 ≤ part.length) && decide (part.length ≤ 4) &&
          part.all isLowerHexDigit then some (high, low)
      else none
  | _ => none

/-- The IPv4 address behind `::ffff:`; `none` for any other text. -/
def mappedIPv4 (mapped : List Char) : Option (List Char) :=
  if isIPv4 mapped then some mapped
  else (matchMappedHex mapped).map fun hex =>
    let hi := ofHexDigits hex.1
    let lo := ofHexDigits hex.2
    dottedText [hi / 256 % 256, hi % 256, lo / 256 % 256, lo % 256]

/-- What an IPv6 address may start with to be private. -/
def privatePrefixes : List String :=
  ["fc", "fd", "fe8", "fe9", "fea", "feb", "fec", "fed", "fee", "fef", "64:ff9b:", "2002:", "ff"]

/-- `isPrivateAddress`. The address behind `::ffff:` is an IPv4 address, so the recursive call takes
the first branch. -/
def isPrivateAddress (address : List Char) : Bool :=
  if isIPv4 address then isPrivateIPv4 address
  else if isIPv6 address then
    let ip := address.map Char.toLower
    if "::ffff:".toList.isPrefixOf ip then
      match mappedIPv4 (ip.drop 7) with
      | some mapped => isPrivateIPv4 mapped
      | none => true
    else decide (ip = "::".toList) || decide (ip = "::1".toList) ||
      privatePrefixes.any fun start => start.toList.isPrefixOf ip
  else true

end OpenTogetherTube
