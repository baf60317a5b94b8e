import Mathlib.Algebra.Group.Nat.Defs
import Mathlib.Data.List.TakeWhile
import OpenTogetherTube.Media.Addresses

/-!
# Reserved addresses are private

The ranges that `isPrivateAddress` is about are blocks of numbers, and it tests texts. The texts are
those an address is written in: dotted octets, and groups in base sixteen with the first of the
longest runs of zeros left out. A block fixes the leading groups of an address, and leading groups
that are not zero stand at the start of its text.
-/

namespace OpenTogetherTube

open Lib

/-- A block of addresses: those that begin with the bits of its network. -/
structure AddressBlock (width : Nat) where
  network : BitVec width
  length : Nat
deriving DecidableEq

namespace AddressBlock

variable {width : Nat}

/-- The address lies in the block. -/
def Contains (block : AddressBlock width) (address : BitVec width) : Prop :=
  address >>> (width - block.length) = block.network >>> (width - block.length)

instance (block : AddressBlock width) (address : BitVec width) :
    Decidable (block.Contains address) :=
  inferInstanceAs (Decidable (_ = _))

/-- A block is a range of numbers. -/
theorem contains_iff {block : AddressBlock width} {address : BitVec width} :
    block.Contains address ↔ address.toNat / 2 ^ (width - block.length) =
      block.network.toNat / 2 ^ (width - block.length) := by
  unfold Contains
  rw [← BitVec.toNat_inj, BitVec.toNat_ushiftRight, BitVec.toNat_ushiftRight,
    Nat.shiftRight_eq_div_pow, Nat.shiftRight_eq_div_pow]

end AddressBlock

section Notation

/-- The octets of an IPv4 address. -/
def octets (address : BitVec 32) : List Nat :=
  [address.toNat / 0x1000000, address.toNat / 0x10000 % 256, address.toNat / 0x100 % 256,
    address.toNat % 256]

/-- An IPv4 address in dotted form. -/
def dotted (address : BitVec 32) : List Char := dottedText (octets address)

/-- The groups of an IPv6 address. -/
def groups (address : BitVec 128) : List Nat :=
  (List.range 8).map fun index => address.toNat / 0x10000 ^ (7 - index) % 0x10000

/-- Groups with colons between them, without leading zeros. -/
def hextets (groups : List Nat) : List Char := [':'].intercalate (groups.map (Nat.toDigits 16))

/-- The length of the run of zero groups that begins at a place. -/
def zeroRun (groups : List Nat) (start : Nat) : Nat :=
  ((groups.drop start).takeWhile fun group => decide (group = 0)).length

/-- Where the first of the longest runs begins. -/
def longestRun (groups : List Nat) : Nat :=
  (List.range groups.length).foldl (fun best start =>
    if zeroRun groups best < zeroRun groups start then start else best) 0

/-- Groups with the first of the longest runs of at least two zeros left out. -/
def compressed (groups : List Nat) : List Char :=
  let start := longestRun groups
  let length := zeroRun groups start
  if length < 2 then hextets groups
  else hextets (groups.take start) ++ [':', ':'] ++ hextets (groups.drop (start + length))

/-- An IPv6 address in canonical form (RFC 5952). -/
def canonical (address : BitVec 128) : List Char := compressed (groups address)

/-- The IPv6 address an IPv4 address is mapped to. -/
def mapped (address : BitVec 32) : BitVec 128 := BitVec.ofNat 128 (0xffff00000000 + address.toNat)

/-- Its other form, with the IPv4 address dotted. -/
def mappedDotted (address : BitVec 32) : List Char := "::ffff:".toList ++ dotted address

end Notation

/-- The IPv4 blocks that `isPrivateAddress` names. -/
def reservedIPv4 : List (AddressBlock 32) :=
  [⟨0, 8⟩, ⟨0x0a000000, 8⟩, ⟨0x7f000000, 8⟩, ⟨0x64400000, 10⟩, ⟨0xa9fe0000, 16⟩, ⟨0xac100000, 12⟩,
    ⟨0xc0a80000, 16⟩, ⟨0xc0000000, 24⟩, ⟨0xc6120000, 15⟩, ⟨0xe0000000, 3⟩]

/-- The IPv6 blocks that it names. -/
def reservedIPv6 : List (AddressBlock 128) :=
  [⟨0, 128⟩, ⟨1, 128⟩, ⟨0xfc00 <<< 112, 7⟩, ⟨0xfe80 <<< 112, 10⟩, ⟨0xfec0 <<< 112, 10⟩,
    ⟨0xff00 <<< 112, 8⟩, ⟨0x0064ff9b <<< 96, 96⟩, ⟨0x0064ff9b0001 <<< 80, 48⟩, ⟨0x2002 <<< 112, 16⟩]

/-- The address lies in one of the IPv4 blocks. -/
def ReservedIPv4 (address : BitVec 32) : Prop := ∃ block ∈ reservedIPv4, block.Contains address

/-- The address lies in one of the IPv6 blocks or is mapped from a reserved IPv4 address. -/
def ReservedIPv6 (address : BitVec 128) : Prop :=
  (∃ block ∈ reservedIPv6, block.Contains address) ∨
    ∃ inner, ReservedIPv4 inner ∧ address = mapped inner

section IPv4

/-- An octet is written as one. -/
theorem isOctet_toDigits : ∀ octet < 256, isOctet (Nat.toDigits 10 octet) = true := by
  decide +kernel

theorem splitOn_dottedText {octets : List Nat} (some : octets ≠ []) :
    (dottedText octets).splitOn '.' = octets.map (Nat.toDigits 10) := by
  refine List.splitOn_intercalate '.' (fun part among member => ?_) ?_
  · obtain ⟨octet, _, rfl⟩ := List.mem_map.mp among
    have digit := Nat.isDigit_of_mem_toDigits (by decide) (by decide) member
    exact absurd digit (by decide)
  · exact fun none => some (List.map_eq_nil_iff.mp none)

theorem isIPv4_dottedText {octets : List Nat} (four : octets.length = 4)
    (small : ∀ octet ∈ octets, octet < 256) : isIPv4 (dottedText octets) = true := by
  have some : octets ≠ [] := by
    rintro rfl
    cases four
  unfold isIPv4
  rw [splitOn_dottedText some, Bool.and_eq_true, decide_eq_true_eq, List.length_map]
  refine ⟨four, List.all_eq_true.mpr fun part among => ?_⟩
  obtain ⟨octet, member, rfl⟩ := List.mem_map.mp among
  exact isOctet_toDigits octet (small octet member)

/-- The octets are read back. -/
theorem numbers_dottedText {octets : List Nat} (some : octets ≠ []) :
    ((dottedText octets).splitOn '.').map (fun part => Nat.ofDigitChars 10 part 0) = octets := by
  rw [splitOn_dottedText some, List.map_map]
  refine (List.map_congr_left fun octet _ => ?_).trans (List.map_id octets)
  exact Nat.ofDigitChars_ten_toDigits

variable (address : BitVec 32)

theorem octets_lt : ∀ octet ∈ octets address, octet < 256 := by
  have bounded := address.isLt
  unfold octets
  simp only [List.mem_cons, List.not_mem_nil, or_false]
  rintro _ (rfl | rfl | rfl | rfl) <;> omega

theorem isIPv4_dotted : isIPv4 (dotted address) = true :=
  isIPv4_dottedText rfl (octets_lt address)

/-- On IPv4 addresses the test is exact. -/
theorem isPrivateIPv4_dotted_iff : isPrivateIPv4 (dotted address) = true ↔ ReservedIPv4 address := by
  have bounded := address.isLt
  have read : octets address ≠ [] := List.cons_ne_nil _ _
  unfold isPrivateIPv4 dotted
  rw [numbers_dottedText read]
  unfold octets ReservedIPv4 reservedIPv4
  simp only [AddressBlock.contains_iff, List.mem_cons, List.not_mem_nil, or_false, exists_eq_or_imp,
    exists_eq_left, Bool.or_eq_true, decide_eq_true_eq]
  simp only [Nat.reduceSub, Nat.reducePow, BitVec.reduceToNat, Nat.reduceDiv]
  omega

theorem isPrivateAddress_dotted :
    isPrivateAddress (dotted address) = isPrivateIPv4 (dotted address) :=
  if_pos (isIPv4_dotted address)

end IPv4

section Texts

/-- The characters of the texts: digits in lower case, dots and colons. -/
def isPlain (char : Char) : Bool :=
  isLowerHexDigit char || decide (char = '.') || decide (char = ':')

theorem toLower_of_isPlain {char : Char} (plain : isPlain char = true) : char.toLower = char := by
  refine dif_neg fun upper => ?_
  have low : 65 ≤ char.val.toNat := upper.1
  have high : char.val.toNat ≤ 90 := upper.2
  unfold isPlain isLowerHexDigit at plain
  simp only [Bool.or_eq_true, Bool.and_eq_true, decide_eq_true_eq, Char.isDigit] at plain
  rcases plain with (((⟨_, digit⟩ | ⟨letter, _⟩) | rfl) | rfl)
  · have digit : char.val.toNat ≤ 57 := digit
    omega
  · have letter : 97 ≤ char.val.toNat := letter
    omega
  · exact absurd low (by decide)
  · exact absurd low (by decide)

variable {text : List Char}

theorem map_toLower (plain : ∀ char ∈ text, isPlain char = true) :
    text.map Char.toLower = text :=
  (List.map_congr_left fun char member => toLower_of_isPlain (plain char member)).trans
    (List.map_id text)

theorem percent_of_isPlain : ∀ char ∈ text, isPlain char = true → decide (char ≠ '%') = true := by
  intro char _ plain
  refine decide_eq_true ?_
  rintro rfl
  exact absurd plain (by decide)

theorem isPlain_dottedText {octets : List Nat} :
    ∀ char ∈ dottedText octets, isPlain char = true := by
  intro char member
  rcases mem_intercalate member with rfl | ⟨part, among, inside⟩
  · rfl
  · obtain ⟨octet, _, rfl⟩ := List.mem_map.mp among
    have digit := Nat.isDigit_of_mem_toDigits (by decide) (by decide) inside
    unfold isPlain isLowerHexDigit
    rw [digit]
    rfl

theorem isPlain_hextets {groups : List Nat} : ∀ char ∈ hextets groups, isPlain char = true := by
  intro char member
  rcases mem_intercalate member with rfl | ⟨part, among, inside⟩
  · rfl
  · obtain ⟨group, _, rfl⟩ := List.mem_map.mp among
    unfold isPlain
    rw [isLowerHexDigit_of_mem_toDigits group inside]
    rfl

theorem isPlain_compressed {groups : List Nat} :
    ∀ char ∈ compressed groups, isPlain char = true := by
  intro char member
  unfold compressed at member
  dsimp only at member
  split at member
  · exact isPlain_hextets char member
  · rcases List.mem_append.mp member with leading | later
    · rcases List.mem_append.mp leading with before | between
      · exact isPlain_hextets char before
      · rcases List.mem_pair.mp between with rfl | rfl <;> rfl
    · exact isPlain_hextets char later

theorem isIPv4_of_colon (colon : ':' ∈ text) : isIPv4 text = false := by
  rw [← Bool.not_eq_true]
  intro accepted
  have whole : ['.'].intercalate (text.splitOn '.') = text := List.intercalate_splitOn '.'
  rw [← whole] at colon
  rcases mem_intercalate colon with dot | ⟨part, among, inside⟩
  · exact absurd dot (by decide)
  · unfold isIPv4 at accepted
    rw [Bool.and_eq_true] at accepted
    have octet := List.all_eq_true.mp accepted.2 part among
    unfold isOctet at octet
    simp only [Bool.and_eq_true] at octet
    exact absurd (List.all_eq_true.mp octet.1.1.2 ':' inside) (by decide)

/-- A group is no IPv4 address either. -/
theorem isIPv4_of_isHextet {part : List Char} (hextet : isHextet part = true) :
    isIPv4 part = false := by
  have digits : part.all isHexDigit = true := by
    unfold isHextet at hextet
    rw [Bool.and_eq_true] at hextet
    exact hextet.2
  have whole : part.splitOn '.' = [part] := by
    have split : (['.'].intercalate [part]).splitOn '.' = [part] := by
      refine List.splitOn_intercalate '.' (fun other among dot => ?_) (List.cons_ne_nil _ _)
      rw [List.mem_singleton.mp among] at dot
      exact absurd (List.all_eq_true.mp digits '.' dot) (by decide)
    rwa [List.intercalate_singleton] at split
  unfold isIPv4
  rw [whole]
  rfl

/-- A group is written as one. -/
theorem isHextet_toDigits {group : Nat} (small : group < 0x10000) :
    isHextet (Nat.toDigits 16 group) = true := by
  unfold isHextet
  rw [Bool.and_eq_true, Bool.and_eq_true, decide_eq_true_eq, decide_eq_true_eq,
    Nat.length_toDigits_le_iff (by decide) (by decide), List.all_eq_true]
  exact ⟨⟨Nat.length_toDigits_pos, small⟩, fun char member =>
    isHexDigit_of_lower (isLowerHexDigit_of_mem_toDigits group member)⟩

end Texts

section Mapped

theorem colon_of_isHextet {part : List Char} (hextet : isHextet part = true) : ':' ∉ part := by
  unfold isHextet at hextet
  rw [Bool.and_eq_true] at hextet
  intro member
  exact absurd (List.all_eq_true.mp hextet.2 ':' member) (by decide)

theorem groupCount_hextets {parts : List (List Char)} {last : List Char}
    (hextets : ∀ part ∈ parts ++ [last], isHextet part = true) :
    groupCount ([':'].intercalate (parts ++ [last])) = some (parts.length + 1) := by
  have split : ([':'].intercalate (parts ++ [last])).splitOn ':' = parts ++ [last] :=
    List.splitOn_intercalate ':' (fun part among => colon_of_isHextet (hextets part among))
      (List.append_ne_nil_of_right_ne_nil _ (List.cons_ne_nil _ _))
  have all : (parts ++ [last]).all isHextet = true := List.all_eq_true.mpr hextets
  have lastHextet : isHextet last = true :=
    hextets last (List.mem_append_right _ List.mem_cons_self)
  have filled : ([':'].intercalate (parts ++ [last])).isEmpty = false := by
    rw [← Bool.not_eq_true, List.isEmpty_iff]
    intro empty
    rw [empty] at split
    have same := congrArg List.getLast? split
    rw [List.getLast?_concat] at same
    obtain rfl : [] = last := Option.some.inj same
    cases lastHextet
  unfold groupCount leadingGroups
  rw [split, List.getLast?_concat]
  dsimp only
  rw [isIPv4_of_isHextet lastHextet, Bool.and_false, if_neg Bool.false_ne_true, filled,
    if_neg Bool.false_ne_true, if_pos all, List.length_append]
  rfl

/-- An IPv4 address at the end counts for two. -/
theorem groupCount_dotted {parts : List (List Char)} {last : List Char}
    (hextets : ∀ part ∈ parts, isHextet part = true) (accepted : isIPv4 last = true)
    (plain : ':' ∉ last) :
    groupCount ([':'].intercalate (parts ++ [last])) = some (parts.length + 2) := by
  have split : ([':'].intercalate (parts ++ [last])).splitOn ':' = parts ++ [last] := by
    refine List.splitOn_intercalate ':' (fun part among => ?_)
      (List.append_ne_nil_of_right_ne_nil _ (List.cons_ne_nil _ _))
    rcases List.mem_append.mp among with leading | only
    · exact colon_of_isHextet (hextets part leading)
    · rw [List.mem_singleton.mp only]
      exact plain
  unfold groupCount
  rw [split, List.getLast?_concat, List.dropLast_concat]
  dsimp only
  rw [accepted, List.all_eq_true.mpr hextets, Bool.and_true, if_pos rfl, List.length_append]
  rfl

/-- After `::` at most seven groups may follow. -/
theorem isIPv6_of_double {rest : List Char} {count : Nat}
    (plain : ∀ char ∈ rest, isPlain char = true) (counted : groupCount rest = some count)
    (few : count ≤ 7) : isIPv6 (':' :: ':' :: rest) = true := by
  have all : ∀ char ∈ ':' :: ':' :: rest, decide (char ≠ '%') = true := by
    intro char member
    refine percent_of_isPlain char member ?_
    rcases List.mem_cons.mp member with rfl | member
    · rfl
    · rcases List.mem_cons.mp member with rfl | member
      · rfl
      · exact plain char member
  have whole : (':' :: ':' :: rest).takeWhile (fun char => decide (char ≠ '%')) =
      ':' :: ':' :: rest := List.takeWhile_eq_self_iff.mpr all
  have zoneless : (':' :: ':' :: rest).dropWhile (fun char => decide (char ≠ '%')) = [] :=
    List.dropWhile_eq_nil_iff.mpr all
  have split : splitDouble (':' :: ':' :: rest) = some ([], rest) := rfl
  have leading : leadingGroups [] = some 0 := rfl
  unfold isIPv6
  rw [whole, zoneless, split]
  dsimp only
  rw [leading, counted]
  refine decide_eq_true ?_
  rw [Nat.zero_add]
  exact few

/-- An address after `::ffff:` is judged by the IPv4 address it stands for. -/
theorem isPrivateAddress_mapped {tail inner : List Char} {count : Nat}
    (plain : ∀ char ∈ tail, isPlain char = true)
    (counted : groupCount ("ffff:".toList ++ tail) = some count) (few : count ≤ 7)
    (read : mappedIPv4 tail = some inner) :
    isPrivateAddress ("::ffff:".toList ++ tail) = isPrivateIPv4 inner := by
  have plainRest : ∀ char ∈ "ffff:".toList ++ tail, isPlain char = true := fun char member =>
    (List.mem_append.mp member).elim
      (List.all_eq_true.mp (by decide : "ffff:".toList.all isPlain = true) char) (plain char)
  have plainText : ∀ char ∈ "::ffff:".toList ++ tail, isPlain char = true := fun char member =>
    (List.mem_append.mp member).elim
      (List.all_eq_true.mp (by decide : "::ffff:".toList.all isPlain = true) char) (plain char)
  have accepted : isIPv6 ("::ffff:".toList ++ tail) = true :=
    isIPv6_of_double plainRest counted few
  have prefixed : "::ffff:".toList.isPrefixOf ("::ffff:".toList ++ tail) = true :=
    List.isPrefixOf_iff_prefix.mpr (List.prefix_append _ _)
  have dropped : ("::ffff:".toList ++ tail).drop 7 = tail := rfl
  unfold isPrivateAddress
  rw [isIPv4_of_colon (List.mem_append_left _ (by decide)), if_neg Bool.false_ne_true, accepted,
    if_pos rfl, map_toLower plainText]
  dsimp only
  rw [prefixed, if_pos rfl, dropped, read]

variable (address : BitVec 32)

theorem plain_dotted : ':' ∉ dotted address := fun colon => by
  have never := isIPv4_of_colon colon
  rw [isIPv4_dotted] at never
  cases never

theorem isPrivateAddress_mappedDotted :
    isPrivateAddress (mappedDotted address) = isPrivateIPv4 (dotted address) := by
  have leading : ∀ part ∈ ["ffff".toList], isHextet part = true := by decide
  have counted : groupCount ([':'].intercalate ["ffff".toList, dotted address]) = some 3 :=
    groupCount_dotted leading (isIPv4_dotted address) (plain_dotted address)
  rw [List.intercalate_cons_cons, List.intercalate_singleton] at counted
  have read : mappedIPv4 (dotted address) = some (dotted address) := if_pos (isIPv4_dotted address)
  exact isPrivateAddress_mapped isPlain_dottedText counted (by decide) read

/-- The first run is the longest if it is at least as long as all others. -/
theorem longestRun_eq_zero {groups : List Nat}
    (longest : ∀ start, zeroRun groups start ≤ zeroRun groups 0) : longestRun groups = 0 := by
  unfold longestRun
  refine List.foldlRecOn (motive := fun best => best = 0) _ _ rfl ?_
  rintro _ rfl start _
  exact if_neg (Nat.not_lt_of_le (longest start))

theorem zeroRun_le (groups : List Nat) (start : Nat) :
    zeroRun groups start ≤ groups.length - start := by
  unfold zeroRun
  exact Nat.le_trans (List.takeWhile_sublist _).length_le (Nat.le_of_eq List.length_drop)

theorem groups_mapped : groups (mapped address) =
    [0, 0, 0, 0, 0, 0xffff, address.toNat / 0x10000, address.toNat % 0x10000] := by
  have bounded := address.isLt
  have value : (mapped address).toNat = 0xffff00000000 + address.toNat := by
    unfold mapped
    rw [BitVec.toNat_ofNat]
    omega
  unfold groups
  rw [value]
  simp only [List.range_succ, List.range_zero, List.nil_append, List.cons_append, List.map_cons,
    List.map_nil, List.cons.injEq, Nat.reduceSub, Nat.reducePow, and_true]
  omega

/-- The five leading zeros of a mapped address are left out. -/
theorem canonical_mapped : canonical (mapped address) = "::ffff:".toList ++
    hextets [address.toNat / 0x10000, address.toNat % 0x10000] := by
  unfold canonical
  rw [groups_mapped]
  generalize address.toNat / 0x10000 = high, address.toNat % 0x10000 = low
  have first : zeroRun [0, 0, 0, 0, 0, 0xffff, high, low] 0 = 5 := rfl
  have longest : longestRun [0, 0, 0, 0, 0, 0xffff, high, low] = 0 := by
    refine longestRun_eq_zero fun start => ?_
    have bound := zeroRun_le [0, 0, 0, 0, 0, 0xffff, high, low] start
    match start with
    | 0 => exact Nat.le_refl _
    | 1 => exact (by decide : 4 ≤ 5)
    | 2 => exact (by decide : 3 ≤ 5)
    | start + 3 =>
        rw [first]
        change _ ≤ 8 - (start + 3) at bound
        omega
  have dropped : hextets [0xffff, high, low] = "ffff:".toList ++ hextets [high, low] := rfl
  unfold compressed
  rw [longest]
  dsimp only
  rw [first]
  change [':', ':'] ++ hextets [0xffff, high, low] = _
  rw [dropped]
  rfl

/-- The two groups behind `::ffff:` are read as the octets they hold. -/
theorem mappedIPv4_hextets : mappedIPv4 (hextets [address.toNat / 0x10000, address.toNat % 0x10000]) =
    some (dotted address) := by
  have bounded := address.isLt
  have high : isHextet (Nat.toDigits 16 (address.toNat / 0x10000)) = true :=
    isHextet_toDigits (by omega)
  have low : isHextet (Nat.toDigits 16 (address.toNat % 0x10000)) = true :=
    isHextet_toDigits (Nat.mod_lt _ (by decide))
  have split : (hextets [address.toNat / 0x10000, address.toNat % 0x10000]).splitOn ':' =
      [Nat.toDigits 16 (address.toNat / 0x10000), Nat.toDigits 16 (address.toNat % 0x10000)] := by
    refine List.splitOn_intercalate ':' (fun part among => ?_) (List.cons_ne_nil _ _)
    rcases List.mem_pair.mp among with rfl | rfl
    · exact colon_of_isHextet high
    · exact colon_of_isHextet low
  have colon : ':' ∈ hextets [address.toNat / 0x10000, address.toNat % 0x10000] := by
    unfold hextets
    rw [List.map_cons, List.map_cons, List.intercalate_cons_cons]
    exact List.mem_append_left _ (List.mem_append_right _ List.mem_cons_self)
  have digits : ∀ number < 0x10000, (decide (1 ≤ (Nat.toDigits 16 number).length) &&
      decide ((Nat.toDigits 16 number).length ≤ 4) &&
        (Nat.toDigits 16 number).all isLowerHexDigit) = true := by
    intro number small
    rw [decide_eq_true (Nat.succ_le_of_lt Nat.length_toDigits_pos),
      decide_eq_true ((Nat.length_toDigits_le_iff (by decide) (by decide)).mpr small)]
    exact List.all_eq_true.mpr fun char => isLowerHexDigit_of_mem_toDigits number
  have matched : matchMappedHex (hextets [address.toNat / 0x10000, address.toNat % 0x10000]) =
      some (Nat.toDigits 16 (address.toNat / 0x10000), Nat.toDigits 16 (address.toNat % 0x10000)) := by
    unfold matchMappedHex
    rw [split]
    refine if_pos (List.all_eq_true.mpr fun part among => ?_)
    rcases List.mem_pair.mp among with rfl | rfl
    · exact digits _ (by omega)
    · exact digits _ (by omega)
  unfold mappedIPv4
  rw [isIPv4_of_colon colon, if_neg Bool.false_ne_true, matched]
  refine congrArg (fun octets => some (dottedText octets)) ?_
  rw [ofHexDigits_toDigits, ofHexDigits_toDigits]
  unfold octets
  simp only [List.cons.injEq, and_true, true_and]
  omega

/-- A mapped address is judged by its IPv4 address in the other form too. -/
theorem isPrivateAddress_canonical_mapped :
    isPrivateAddress (canonical (mapped address)) = isPrivateIPv4 (dotted address) := by
  have bounded := address.isLt
  have parts : ∀ part ∈ ["ffff".toList, Nat.toDigits 16 (address.toNat / 0x10000)] ++
      [Nat.toDigits 16 (address.toNat % 0x10000)], isHextet part = true := by
    intro part among
    simp only [List.cons_append, List.nil_append, List.mem_cons, List.not_mem_nil, or_false] at among
    rcases among with rfl | rfl | rfl
    · decide
    · exact isHextet_toDigits (by omega)
    · exact isHextet_toDigits (Nat.mod_lt _ (by decide))
  have counted := groupCount_hextets parts
  rw [List.cons_append, List.singleton_append, List.intercalate_cons_cons] at counted
  rw [canonical_mapped]
  exact isPrivateAddress_mapped isPlain_hextets counted (by decide : 3 ≤ 7) (mappedIPv4_hextets address)

end Mapped

section Leading

variable {lead rest : List Nat}

theorem hextets_append (some : lead ≠ []) (more : rest ≠ []) :
    hextets (lead ++ rest) = hextets lead ++ ':' :: hextets rest := by
  unfold hextets
  rw [List.map_append, intercalate_append (fun none => some (List.map_eq_nil_iff.mp none))
    (fun none => more (List.map_eq_nil_iff.mp none))]

/-- Leading groups that are not zero stand at the start of the text, with a colon after them. -/
theorem compressed_leading (some : lead ≠ []) (more : rest ≠ []) (filled : ∀ group ∈ lead, group ≠ 0) :
    ∃ tail, compressed (lead ++ rest) = hextets lead ++ ':' :: tail := by
  unfold compressed
  dsimp only
  split
  · exact ⟨hextets rest, hextets_append some more⟩
  · rename_i long
    generalize longestRun (lead ++ rest) = start at long ⊢
    -- A run of zeros begins after them.
    have after : lead.length ≤ start := by
      by_contra before
      have inside : start < lead.length := Nat.lt_of_not_le before
      have none : zeroRun (lead ++ rest) start = 0 := by
        unfold zeroRun
        rw [List.drop_append_of_le_length (Nat.le_of_lt inside), List.drop_eq_getElem_cons inside,
          List.cons_append, List.takeWhile_cons_of_neg]
        · rfl
        · exact fun zero => filled _ (List.getElem_mem inside) (of_decide_eq_true zero)
      omega
    rw [List.take_append, List.take_of_length_le after]
    by_cases empty : rest.take (start - lead.length) = []
    · rw [empty, List.append_nil, List.append_assoc]
      exact ⟨_, rfl⟩
    · rw [hextets_append some empty, List.append_assoc, List.append_assoc]
      exact ⟨_, rfl⟩

theorem isPrivateAddress_of_prefix {text : List Char} {start : String}
    (listed : start ∈ privatePrefixes) (starts : start.toList <+: text) (colon : ':' ∈ text)
    (plain : ∀ char ∈ text, isPlain char = true) : isPrivateAddress text = true := by
  have unmapped : "::ffff:".toList.isPrefixOf text = false := by
    obtain ⟨rest, rfl⟩ := starts
    unfold privatePrefixes at listed
    simp only [List.mem_cons, List.not_mem_nil, or_false] at listed
    rcases listed with rfl | rfl | rfl | rfl | rfl | rfl | rfl | rfl | rfl | rfl | rfl | rfl | rfl <;>
      rfl
  have found : (privatePrefixes.any fun start => start.toList.isPrefixOf text) = true :=
    List.any_eq_true.mpr ⟨start, listed, List.isPrefixOf_iff_prefix.mpr starts⟩
  unfold isPrivateAddress
  rw [isIPv4_of_colon colon, if_neg Bool.false_ne_true, map_toLower plain]
  dsimp only
  rw [unmapped, if_neg Bool.false_ne_true, found, Bool.or_true]
  split <;> rfl

variable {address : BitVec 128}

/-- So is an address whose leading groups are written like that. -/
theorem isPrivateAddress_of_groups {start : String} (same : groups address = lead ++ rest)
    (some : lead ≠ []) (more : rest ≠ []) (filled : ∀ group ∈ lead, group ≠ 0)
    (listed : start ∈ privatePrefixes) (starts : start.toList <+: hextets lead ++ [':']) :
    isPrivateAddress (canonical address) = true := by
  obtain ⟨tail, written⟩ := compressed_leading some more filled
  unfold canonical
  have plain : ∀ char ∈ compressed (lead ++ rest), isPlain char = true := isPlain_compressed
  rw [same]
  rw [written] at plain ⊢
  refine isPrivateAddress_of_prefix listed ?_ (List.mem_append_right _ List.mem_cons_self) plain
  rw [← List.singleton_append, ← List.append_assoc]
  exact starts.trans (List.prefix_append _ _)

/-- The groups of an address, the first two apart. -/
theorem groups_eq : groups address =
    [address.toNat / 2 ^ 112, address.toNat / 2 ^ 96 % 0x10000] ++ (groups address).drop 2 := by
  have bounded := address.isLt
  have first : address.toNat / 0x10000 ^ 7 % 0x10000 = address.toNat / 2 ^ 112 := by omega
  have second : address.toNat / 0x10000 ^ 6 % 0x10000 = address.toNat / 2 ^ 96 % 0x10000 := rfl
  rw [← first, ← second]
  rfl

/-- An address whose first group has four digits starts with them. -/
theorem isPrivateAddress_of_first {start : String} {first : Nat}
    (value : address.toNat / 2 ^ 112 = first) (least : 0x1000 ≤ first)
    (listed : start ∈ privatePrefixes)
    (starts : start.toList <+: [Nat.digitChar (first / 0x1000), Nat.digitChar (first / 0x100 % 16),
      Nat.digitChar (first / 0x10 % 16), Nat.digitChar (first % 16), ':']) :
    isPrivateAddress (canonical address) = true := by
  have bounded := address.isLt
  have most : first < 0x10000 := by omega
  have filled : ∀ group ∈ [first], group ≠ 0 := by
    intro group member
    rw [List.mem_singleton.mp member]
    omega
  have same : groups address =
      [first] ++ (address.toNat / 2 ^ 96 % 0x10000 :: (groups address).drop 2) := by
    rw [groups_eq, value]
    rfl
  refine isPrivateAddress_of_groups same (List.cons_ne_nil _ _) (List.cons_ne_nil _ _) filled listed ?_
  have digits : hextets [first] = Nat.toDigits 16 first := List.intercalate_singleton
  rw [digits, toDigits_four least most]
  exact starts

/-- The local addresses: the third digit decides. -/
theorem isPrivateAddress_of_third {start : String} {first third : Nat}
    (value : address.toNat / 2 ^ 112 = first) (top : first / 0x1000 = 15)
    (next : first / 0x100 % 16 = 14) (digit : first / 0x10 % 16 = third)
    (listed : start ∈ privatePrefixes) (starts : start.toList = ['f', 'e', Nat.digitChar third]) :
    isPrivateAddress (canonical address) = true := by
  refine isPrivateAddress_of_first value (by omega) listed ?_
  rw [top, next, digit, starts]
  exact List.prefix_append _ _

theorem isPrivateAddress_of_translated (first : address.toNat / 2 ^ 112 = 0x64)
    (second : address.toNat / 2 ^ 96 % 0x10000 = 0xff9b) :
    isPrivateAddress (canonical address) = true := by
  have same : groups address = _ := groups_eq
  rw [first, second] at same
  refine isPrivateAddress_of_groups same (List.cons_ne_nil _ _) (List.cons_ne_nil _ _) (by decide)
    (by decide : "64:ff9b:" ∈ privatePrefixes) ?_
  exact List.prefix_refl _

theorem isPrivateAddress_of_reserved {block : AddressBlock 128} (listed : block ∈ reservedIPv6)
    (inside : block.Contains address) : isPrivateAddress (canonical address) = true := by
  rw [AddressBlock.contains_iff] at inside
  unfold reservedIPv6 at listed
  simp only [List.mem_cons, List.not_mem_nil, or_false] at listed
  have bounded := address.isLt
  rcases listed with rfl | rfl | rfl | rfl | rfl | rfl | rfl | rfl | rfl
  · -- `::`
    have zero : address = 0 := BitVec.eq_of_toNat_eq (by simpa using inside)
    rw [zero]
    decide +kernel
  · -- `::1`
    have one : address = 1 := BitVec.eq_of_toNat_eq (by simpa using inside)
    rw [one]
    decide +kernel
  · -- `fc00::/7`
    have bits : address.toNat / 2 ^ 121 = 0x7e := inside
    obtain ⟨first, value⟩ : ∃ first, address.toNat / 2 ^ 112 = first := ⟨_, rfl⟩
    have top : first / 0x1000 = 15 := by omega
    have next : first / 0x100 % 16 = 12 ∨ first / 0x100 % 16 = 13 := by omega
    rcases next with next | next
    · refine isPrivateAddress_of_first value (by omega) (by decide : "fc" ∈ privatePrefixes) ?_
      rw [top, next]
      exact List.prefix_append _ _
    · refine isPrivateAddress_of_first value (by omega) (by decide : "fd" ∈ privatePrefixes) ?_
      rw [top, next]
      exact List.prefix_append _ _
  · -- `fe80::/10`
    have bits : address.toNat / 2 ^ 118 = 0x3fa := inside
    obtain ⟨first, value⟩ : ∃ first, address.toNat / 2 ^ 112 = first := ⟨_, rfl⟩
    have top : first / 0x1000 = 15 := by omega
    have next : first / 0x100 % 16 = 14 := by omega
    have third : first / 0x10 % 16 = 8 ∨ first / 0x10 % 16 = 9 ∨ first / 0x10 % 16 = 10 ∨
        first / 0x10 % 16 = 11 := by omega
    rcases third with third | third | third | third
    · exact isPrivateAddress_of_third value top next third (by decide : "fe8" ∈ privatePrefixes) rfl
    · exact isPrivateAddress_of_third value top next third (by decide : "fe9" ∈ privatePrefixes) rfl
    · exact isPrivateAddress_of_third value top next third (by decide : "fea" ∈ privatePrefixes) rfl
    · exact isPrivateAddress_of_third value top next third (by decide : "feb" ∈ privatePrefixes) rfl
  · -- `fec0::/10`
    have bits : address.toNat / 2 ^ 118 = 0x3fb := inside
    obtain ⟨first, value⟩ : ∃ first, address.toNat / 2 ^ 112 = first := ⟨_, rfl⟩
    have top : first / 0x1000 = 15 := by omega
    have next : first / 0x100 % 16 = 14 := by omega
    have third : first / 0x10 % 16 = 12 ∨ first / 0x10 % 16 = 13 ∨ first / 0x10 % 16 = 14 ∨
        first / 0x10 % 16 = 15 := by omega
    rcases third with third | third | third | third
    · exact isPrivateAddress_of_third value top next third (by decide : "fec" ∈ privatePrefixes) rfl
    · exact isPrivateAddress_of_third value top next third (by decide : "fed" ∈ privatePrefixes) rfl
    · exact isPrivateAddress_of_third value top next third (by decide : "fee" ∈ privatePrefixes) rfl
    · exact isPrivateAddress_of_third value top next third (by decide : "fef" ∈ privatePrefixes) rfl
  · -- `ff00::/8`
    have bits : address.toNat / 2 ^ 120 = 0xff := inside
    obtain ⟨first, value⟩ : ∃ first, address.toNat / 2 ^ 112 = first := ⟨_, rfl⟩
    have top : first / 0x1000 = 15 := by omega
    have next : first / 0x100 % 16 = 15 := by omega
    refine isPrivateAddress_of_first value (by omega) (by decide : "ff" ∈ privatePrefixes) ?_
    rw [top, next]
    exact List.prefix_append _ _
  · -- `64:ff9b::/96`
    have bits : address.toNat / 2 ^ 32 = 0x0064ff9b * 2 ^ 64 := inside
    exact isPrivateAddress_of_translated (by omega) (by omega)
  · -- `64:ff9b:1::/48`
    have bits : address.toNat / 2 ^ 80 = 0x0064ff9b0001 := inside
    exact isPrivateAddress_of_translated (by omega) (by omega)
  · -- `2002::/16`
    have bits : address.toNat / 2 ^ 112 = 0x2002 := inside
    refine isPrivateAddress_of_first bits (by decide) (by decide : "2002:" ∈ privatePrefixes) ?_
    exact List.prefix_refl _

end Leading

/-- `isPrivateAddress` has no false negatives: every address in the ranges it documents is private, in
each form it is written in, and the two forms of a mapped address are judged alike. -/
theorem reserved_addresses_private (ipv4 : BitVec 32) (ipv6 : BitVec 128) :
    (ReservedIPv4 ipv4 → isPrivateAddress (dotted ipv4) = true ∧
      isPrivateAddress (mappedDotted ipv4) = true) ∧
    (ReservedIPv6 ipv6 → isPrivateAddress (canonical ipv6) = true) ∧
    isPrivateAddress (mappedDotted ipv4) = isPrivateAddress (canonical (mapped ipv4)) := by
  refine ⟨fun reserved => ?_, fun reserved => ?_, ?_⟩
  · have judged := (isPrivateIPv4_dotted_iff ipv4).mpr reserved
    rw [isPrivateAddress_dotted, isPrivateAddress_mappedDotted]
    exact ⟨judged, judged⟩
  · rcases reserved with ⟨block, listed, inside⟩ | ⟨inner, reserved, rfl⟩
    · exact isPrivateAddress_of_reserved listed inside
    · rw [isPrivateAddress_canonical_mapped]
      exact (isPrivateIPv4_dotted_iff inner).mpr reserved
  · rw [isPrivateAddress_mappedDotted, isPrivateAddress_canonical_mapped]

/-- The metadata service, and a local address that ends in a run of zeros. -/
theorem reserved_addresses_private_local :
    isPrivateAddress "169.254.169.254".toList = true ∧
      isPrivateAddress "fd12:3456:789a:1::".toList = true := by
  have metadata : dotted 0xa9fea9fe = "169.254.169.254".toList := by decide +kernel
  have unique : canonical 0xfd123456789a00010000000000000000 = "fd12:3456:789a:1::".toList := by
    decide +kernel
  have judged := reserved_addresses_private 0xa9fea9fe 0xfd123456789a00010000000000000000
  rw [metadata, unique] at judged
  exact ⟨(judged.1 ⟨⟨0xa9fe0000, 16⟩, by decide, by decide⟩).1,
    judged.2.1 (.inl ⟨⟨0xfc00 <<< 112, 7⟩, by decide, by decide⟩)⟩

example : isPrivateAddress "8.8.8.8".toList = false ∧
    isPrivateAddress "2606:4700::1111".toList = false ∧
    isPrivateAddress "::ffff:808:808".toList = false := by
  decide +kernel

end OpenTogetherTube
