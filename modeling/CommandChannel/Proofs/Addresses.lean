import Mathlib.Tactic
import CommandChannel.Config
import CommandChannel.Proofs.Numerals

/-!
# Addresses read back

The text of an address is read back as the address. The digits of an octet or a group end where a
point or a colon stands, or the text does. A text with zero groups left out says how many groups are
missing by those that it still has, so it does not matter which of the runs of zero groups was left
out, as long as it holds nothing but zeros.

A configuration keeps the host of a socket address as a text and its port, and nothing else of it.
-/

namespace CommandChannel

/-! ## Digits -/

/-- What remains does not begin with a digit of the base. -/
def EndsDigits (base : Nat) (rest : List Char) : Prop :=
  ∀ c ∈ rest.head?, digitValue? base c = none

/-- Where nothing remains, no digit follows. This is how the text of an address ends. -/
theorem EndsDigits.nil (base : Nat) : EndsDigits base [] := by
  rintro c ⟨⟩

/-- Where what remains begins with another character than a digit, no digit follows. -/
theorem EndsDigits.cons {base : Nat} {c : Char} (h : digitValue? base c = none) (rest : List Char) :
    EndsDigits base (c :: rest) := by
  rintro _ ⟨⟩
  exact h

/-- The digit of a value has that value, in any base up to sixteen. -/
theorem digitValue?_digitChar {base d : Nat} (hbase : base ≤ 16) (hd : d < base) :
    digitValue? base (Nat.digitChar d) = some d := by
  have hsmall : d < 16 := Nat.lt_of_lt_of_le hd hbase
  interval_cases d <;> simp [digitValue?, Nat.digitChar, hd]

/-- Reading a digit takes it into the number and goes on behind it. -/
theorem readDigits_digitChar {base d : Nat} (hbase : base ≤ 16) (hd : d < base)
    (value count : Nat) (rest : List Char) :
    readDigits base value count (Nat.digitChar d :: rest) =
      readDigits base (value * base + d) (count + 1) rest := by
  rw [readDigits, digitValue?_digitChar hbase hd]

/-- Reading digits stops where none follows, and leaves the number read so far as it is. -/
theorem readDigits_of_ends {base : Nat} {rest : List Char} (h : EndsDigits base rest)
    (value count : Nat) : readDigits base value count rest = (value, count, rest) := by
  cases rest with
  | nil => rfl
  | cons c rest => rw [readDigits, h c rfl]

/-- Digits are gathered into the number that they stand for, and reading goes on behind them. The
induction is on the number, from its last digit to the ones before. -/
theorem readDigits_toDigits {base : Nat} (hone : 1 < base) (hbase : base ≤ 16) (n : Nat)
    (rest : List Char) :
    readDigits base 0 0 (Nat.toDigits base n ++ rest) =
      readDigits base n (Nat.toDigits base n).length rest := by
  induction n using Nat.strongRecOn generalizing rest with
  | ind n ih =>
    by_cases hsmall : n < base
    · rw [Nat.toDigits_of_lt_base hsmall, List.singleton_append,
        readDigits_digitChar hbase hsmall, Nat.zero_mul, Nat.zero_add, List.length_singleton]
    · have hlarge : base ≤ n := Nat.le_of_not_lt hsmall
      have hlast : n % base < base := Nat.mod_lt n (by omega)
      rw [Nat.toDigits_of_base_le hone hlarge, List.append_assoc, List.singleton_append,
        ih _ (Nat.div_lt_self (by omega) hone), readDigits_digitChar hbase hlast,
        Nat.div_add_mod', List.length_append, List.length_singleton]

/-- A number is read back from its digits where they end, together with how many there were. That
many is what readers of octets and groups set limits to. -/
theorem readDigits_toDigits_of_ends {base : Nat} (hone : 1 < base) (hbase : base ≤ 16) (n : Nat)
    {rest : List Char} (h : EndsDigits base rest) :
    readDigits base 0 0 (Nat.toDigits base n ++ rest) =
      (n, (Nat.toDigits base n).length, rest) := by
  rw [readDigits_toDigits hone hbase, readDigits_of_ends h]

/-- Digits are read off the front, so what remains is the end of what there was. -/
theorem suffix_readDigits (base value count : Nat) (cs : List Char) :
    (readDigits base value count cs).2.2 <:+ cs := by
  induction cs generalizing value count with
  | nil => exact List.suffix_rfl
  | cons c cs ih =>
    unfold readDigits
    split
    · exact (ih _ _).trans (List.suffix_cons c cs)
    · exact List.suffix_rfl

/-- The digits of a number begin with a zero only if there is no other. So the rule against leading
zeros never rejects a number that was written. -/
theorem length_toDigits_of_head_zero {n : Nat} (h : (Nat.toDigits 10 n).head? = some '0') :
    (Nat.toDigits 10 n).length = 1 := by
  rcases Nat.eq_zero_or_pos n with rfl | hpos
  · rfl
  · obtain ⟨d, cs, hd, hlt, heq⟩ := Json.exists_toDigits_eq_cons hpos
    rw [heq] at h
    have hzero : Nat.digitChar d = '0' := by simpa using h
    interval_cases d <;> simp [Nat.digitChar] at hzero

/-- All digits of a number are digits of the base. So none of them is mistaken for a colon or a
point. -/
theorem exists_digitChar_of_mem {base n : Nat} (hone : 1 < base) {c : Char}
    (h : c ∈ Nat.toDigits base n) : ∃ d < base, c = Nat.digitChar d := by
  induction n using Nat.strongRecOn with
  | ind n ih =>
    by_cases hsmall : n < base
    · rw [Nat.toDigits_of_lt_base hsmall] at h
      exact ⟨n, hsmall, List.mem_singleton.1 h⟩
    · have hlarge : base ≤ n := Nat.le_of_not_lt hsmall
      rw [Nat.toDigits_of_base_le hone hlarge, List.mem_append, List.mem_singleton] at h
      rcases h with h | h
      · exact ih _ (Nat.div_lt_self (by omega) hone) h
      · exact ⟨n % base, Nat.mod_lt n (by omega), h⟩

/-- A character that is expected is taken off where it comes next. -/
theorem readChar_self (c : Char) (cs : List Char) : readChar c (c :: cs) = some cs := by
  rw [readChar, if_pos rfl]

/-- A character that does not occur is not read, so that a text without points is not read in dotted
form. -/
theorem readChar_eq_none {c : Char} {cs : List Char} (h : c ∉ cs) : readChar c cs = none := by
  cases cs with
  | nil => rfl
  | cons b cs =>
    have hne : b ≠ c := by
      rintro rfl
      exact h List.mem_cons_self
    rw [readChar, if_neg hne]

/-! ## IPv4 addresses -/

/-- An octet is read back from its digits, where no further digit follows them. -/
theorem readOctet_decimalDigits (b : UInt8) {rest : List Char} (h : EndsDigits 10 rest) :
    readOctet (decimalDigits b.toNat ++ rest) = some (b, rest) := by
  have hbound : b.toNat < 256 := b.toNat_lt
  have hlength : (Nat.toDigits 10 b.toNat).length ≤ 3 :=
    (Nat.length_toDigits_le_iff (by decide) (by decide)).2 (by omega)
  have hhead : (Nat.toDigits 10 b.toNat ++ rest).head? = (Nat.toDigits 10 b.toNat).head? := by
    rw [List.head?_append_of_ne_nil _ Nat.toDigits_ne_nil]
  rw [readOctet, decimalDigits, readDigits_toDigits_of_ends (by decide) (by decide) _ h, hhead]
  dsimp only
  rw [if_pos ⟨Nat.length_toDigits_pos, hlength, length_toDigits_of_head_zero, hbound⟩,
    UInt8.ofNat_toNat]

/-- Without a digit there is no octet, and so no address in dotted form. -/
theorem readOctet_eq_none {cs : List Char} (h : EndsDigits 10 cs) : readOctet cs = none := by
  rw [readOctet, readDigits_of_ends h]
  rfl

/-- An octet is read off the front too. So a text without points stays without them. -/
theorem suffix_of_readOctet {cs rest : List Char} {b : UInt8} (h : readOctet cs = some (b, rest)) :
    rest <:+ cs := by
  have hsuffix := suffix_readDigits 10 0 0 cs
  unfold readOctet at h
  split at h
  rename_i heq
  rw [heq] at hsuffix
  split at h
  · cases h
    exact hsuffix
  · cases h

namespace Ipv4

/-- An address is read back from its text, up to where its last octet ends. -/
theorem read_text (addr : Ipv4) {rest : List Char} (h : EndsDigits 10 rest) :
    read (addr.text ++ rest) = some (addr, rest) := by
  have hpoint (cs : List Char) : EndsDigits 10 ('.' :: cs) := .cons (by decide) cs
  simp only [text, read, List.append_assoc, List.cons_append, readOctet_decimalDigits _ (hpoint _),
    readOctet_decimalDigits _ h, readChar_self, Option.bind_eq_bind, Option.bind_some,
    Option.pure_def]

/-- A text that does not begin with an octet holds no address. -/
theorem read_of_readOctet_none {cs : List Char} (h : readOctet cs = none) : read cs = none := by
  rw [read, h]
  rfl

/-- A text without points holds no address. So nothing written in groups is mistaken for one. -/
theorem read_eq_none {cs : List Char} (h : '.' ∉ cs) : read cs = none := by
  cases hoctet : readOctet cs with
  | none => exact read_of_readOctet_none hoctet
  | some octet =>
    obtain ⟨b, rest⟩ := octet
    have hrest : readChar '.' rest = none :=
      readChar_eq_none fun hmem => h ((suffix_of_readOctet hoctet).subset hmem)
    rw [read, hoctet]
    simp only [Option.bind_eq_bind, Option.bind_some, hrest, Option.bind_none]

end Ipv4

/-! ## IPv6 addresses -/

/-- A group is read back from its digits, where no further digit follows them. -/
theorem readGroup_hexDigits (g : UInt16) {rest : List Char} (h : EndsDigits 16 rest) :
    readGroup (hexDigits g.toNat ++ rest) = some (g, rest) := by
  have hlength : (Nat.toDigits 16 g.toNat).length ≤ 4 :=
    (Nat.length_toDigits_le_iff (by decide) (by decide)).2 g.toNat_lt
  rw [readGroup, hexDigits, readDigits_toDigits_of_ends (by decide) (by decide) _ h]
  dsimp only
  rw [if_pos ⟨Nat.length_toDigits_pos, hlength⟩, UInt16.ofNat_toNat]

/-- Without a digit there is no group, and the groups before are all that there are. -/
theorem readGroup_eq_none {cs : List Char} (h : EndsDigits 16 cs) : readGroup cs = none := by
  rw [readGroup, readDigits_of_ends h]
  rfl

namespace Ipv6

/-- Groups after others, each after a colon. -/
def laterText (groups : List UInt16) : List Char :=
  groups.flatMap fun g => ':' :: hexDigits g.toNat

/-- Groups in a row are the first one and then those after it, each of these behind a colon. -/
theorem groupsText_cons (g : UInt16) (groups : List UInt16) :
    groupsText (g :: groups) = hexDigits g.toNat ++ laterText groups := by
  induction groups generalizing g with
  | nil => simp [groupsText, laterText]
  | cons h groups ih =>
    have hlater : groupsText (g :: h :: groups) =
        hexDigits g.toNat ++ ':' :: groupsText (h :: groups) := by
      simp [groupsText]
    rw [hlater, ih, laterText, laterText, List.flatMap_cons, List.cons_append]

/-- No point is among the digits of a group, as these are letters and digits. -/
theorem point_notMem_hexDigits (n : Nat) : '.' ∉ hexDigits n := by
  intro hmem
  obtain ⟨d, hd, heq⟩ := exists_digitChar_of_mem (by decide) hmem
  have hvalue := digitValue?_digitChar (Nat.le_refl 16) hd
  rw [← heq] at hvalue
  cases hvalue

/-- No point is among groups after others: there are only their digits and the colons between
them. -/
theorem point_notMem_laterText (groups : List UInt16) : '.' ∉ laterText groups := by
  intro hmem
  obtain ⟨g, -, hg⟩ := List.mem_flatMap.1 hmem
  rcases List.mem_cons.1 hg with heq | hdigit
  · cases heq
  · exact point_notMem_hexDigits _ hdigit

/-- No point is among groups in a row, so that none of them is read in dotted form. -/
theorem point_notMem_groupsText (groups : List UInt16) : '.' ∉ groupsText groups := by
  cases groups with
  | nil => exact List.not_mem_nil
  | cons g groups =>
    rw [groupsText_cons, List.mem_append, not_or]
    exact ⟨point_notMem_hexDigits _, point_notMem_laterText groups⟩

/-- Neither a group nor more of one follows. -/
structure EndsGroups (rest : List Char) : Prop where
  ends : EndsDigits 16 rest
  stops : ∀ limit, readGroups false limit rest = ([], false, rest)

/-- At the end of a text no group follows, as there is no colon to begin one. -/
theorem EndsGroups.nil : EndsGroups [] where
  ends := .nil 16
  stops limit := by cases limit <;> rfl

/-- No groups are read where no group begins: there must be neither a digit of a group nor an octet
of the dotted form, and behind another group not even the colon that separates them. -/
theorem readGroups_of_none {first : Bool} {limit : Nat} {cs body : List Char}
    (hstart : (if first then some cs else readChar ':' cs) = some body)
    (hbody : EndsDigits 16 body) (hoctet : EndsDigits 10 body) :
    readGroups first limit cs = ([], false, cs) := by
  cases limit with
  | zero => rfl
  | succ limit =>
    have hread : (if limit = 0 then none else Ipv4.read body) = none := by
      rw [Ipv4.read_of_readOctet_none (readOctet_eq_none hoctet), ite_self]
    unfold readGroups
    dsimp only
    rw [hstart]
    dsimp only
    rw [hread]
    dsimp only
    rw [readGroup_eq_none hbody]

/-- One group after another is read, as long as the limit on their number allows it and what follows
does not read as the dotted form. -/
theorem readGroups_of_some {first : Bool} {limit : Nat} {cs body rest rest' : List Char}
    {g : UInt16} {groups : List UInt16} {dotted : Bool}
    (hstart : (if first then some cs else readChar ':' cs) = some body)
    (hdotted : Ipv4.read body = none) (hgroup : readGroup body = some (g, rest))
    (hlater : readGroups false limit rest = (groups, dotted, rest')) :
    readGroups first (limit + 1) cs = (g :: groups, dotted, rest') := by
  have hread : (if limit = 0 then none else Ipv4.read body) = none := by rw [hdotted, ite_self]
  rw [readGroups]
  dsimp only
  rw [hstart]
  dsimp only
  rw [hread]
  dsimp only
  rw [hgroup]
  dsimp only
  rw [hlater]

/-- A colon ends the digits of a group in any base. -/
theorem endsDigits_colon (base : Nat) (cs : List Char) : EndsDigits base (':' :: cs) := by
  apply EndsDigits.cons
  simp [digitValue?]

/-- Where groups are left out, none follows: two colons end the groups before them. -/
theorem EndsGroups.gap (cs : List Char) : EndsGroups (':' :: ':' :: cs) where
  ends := endsDigits_colon 16 _
  stops _ := readGroups_of_none (readChar_self ':' _) (endsDigits_colon 16 _)
    (endsDigits_colon 10 _)

/-- Groups after others do not go on with a digit, so that the group before them is read whole. -/
theorem endsDigits_laterText {rest : List Char} (h : EndsDigits 16 rest)
    (groups : List UInt16) : EndsDigits 16 (laterText groups ++ rest) := by
  cases groups with
  | nil => exact h
  | cons g groups => exact endsDigits_colon 16 _

/-- Groups after others are read back, as many as there are, up to where neither a group nor more of
one follows. -/
theorem readGroups_laterText {groups : List UInt16} {limit : Nat} (hlimit : groups.length ≤ limit)
    {rest : List Char} (hpoint : '.' ∉ rest) (hrest : EndsGroups rest) :
    readGroups false limit (laterText groups ++ rest) = (groups, false, rest) := by
  induction groups generalizing limit with
  | nil => exact hrest.stops limit
  | cons g groups ih =>
    obtain ⟨limit, rfl⟩ := Nat.exists_eq_add_one.2 (Nat.zero_lt_of_lt hlimit)
    have hlater := ih (Nat.le_of_succ_le_succ hlimit)
    have hbody : '.' ∉ hexDigits g.toNat ++ (laterText groups ++ rest) := by
      simp only [List.mem_append, not_or]
      exact ⟨point_notMem_hexDigits _, point_notMem_laterText groups, hpoint⟩
    rw [laterText, List.flatMap_cons, List.append_assoc, List.cons_append]
    exact readGroups_of_some (readChar_self ':' _) (Ipv4.read_eq_none hbody)
      (readGroup_hexDigits g (endsDigits_laterText hrest.ends groups)) hlater

/-- Groups are read back, none if there are none. What follows them holds no point and begins no
further group. -/
theorem readGroups_groupsText {groups : List UInt16} {limit : Nat} (hlimit : groups.length ≤ limit)
    {rest : List Char} (hpoint : '.' ∉ rest) (hrest : EndsGroups rest)
    (hnone : groups = [] → EndsDigits 10 rest) :
    readGroups true limit (groupsText groups ++ rest) = (groups, false, rest) := by
  cases groups with
  | nil => exact readGroups_of_none rfl hrest.ends (hnone rfl)
  | cons g groups =>
    obtain ⟨limit, rfl⟩ := Nat.exists_eq_add_one.2 (Nat.zero_lt_of_lt hlimit)
    have hbody : '.' ∉ hexDigits g.toNat ++ (laterText groups ++ rest) := by
      simp only [List.mem_append, not_or]
      exact ⟨point_notMem_hexDigits _, point_notMem_laterText groups, hpoint⟩
    rw [groupsText_cons, List.append_assoc]
    exact readGroups_of_some rfl (Ipv4.read_eq_none hbody)
      (readGroup_hexDigits g (endsDigits_laterText hrest.ends groups))
      (readGroups_laterText (Nat.le_of_succ_le_succ hlimit) hpoint hrest)

/-- Zeros that are counted at the front are zeros: with as many of them put back the groups are the
same. -/
theorem leadingZeros_eq (groups : List UInt16) :
    List.replicate (leadingZeros groups) 0 ++ groups.drop (leadingZeros groups) = groups := by
  induction groups with
  | nil => rfl
  | cons g groups ih =>
    by_cases hzero : g = 0
    · have hcount : leadingZeros (g :: groups) = leadingZeros groups + 1 := by
        simp [leadingZeros, hzero]
      rw [hcount, List.replicate_succ, List.drop_succ_cons, List.cons_append, ih, hzero]
    · have hcount : leadingZeros (g :: groups) = 0 := by simp [leadingZeros, hzero]
      rw [hcount]
      rfl

/-- The groups that are left out are zeros. So filling the gap with as many zeros gives all groups
again, wherever the gap was put. -/
theorem longestZeros_eq (groups : List UInt16) :
    groups.take (longestZeros groups).1 ++ List.replicate (longestZeros groups).2 0 ++
      groups.drop ((longestZeros groups).1 + (longestZeros groups).2) = groups := by
  induction groups with
  | nil => rfl
  | cons g groups ih =>
    unfold longestZeros
    dsimp only
    split
    · rw [List.take_zero, List.nil_append, Nat.zero_add]
      exact leadingZeros_eq (g :: groups)
    · rw [List.take_succ_cons, Nat.add_right_comm, List.drop_succ_cons, List.cons_append,
        List.cons_append, ih]

/-- The eight groups of an address make the address. An address carries with it that they are
eight. -/
theorem ofGroups?_groups (addr : Ipv6) : ofGroups? addr.groups = some addr := dif_pos addr.length_eq

/-- An address of which all groups are written is read as such, as there is no gap to fill. -/
theorem read_of_whole {addr : Ipv6} {cs rest : List Char} {dotted : Bool}
    (h : readGroups true 8 cs = (addr.groups, dotted, rest)) : read cs = some (addr, rest) := by
  rw [read, h]
  dsimp only
  rw [if_pos addr.length_eq, ofGroups?_groups]
  rfl

/-- An address of which some groups are left out is completed by zeros. The gap stands for one group
at least, and the groups on both sides of it are read with what is left of the eight. -/
theorem read_of_gap {addr : Ipv6} {cs later rest : List Char} {head tail : List UInt16}
    {dotted : Bool} {count : Nat} (hpos : 0 < count)
    (hgroups : head ++ List.replicate count 0 ++ tail = addr.groups)
    (hhead : readGroups true 8 cs = (head, false, ':' :: ':' :: later))
    (htail : readGroups true (7 - head.length) later = (tail, dotted, rest)) :
    read cs = some (addr, rest) := by
  have hlength := congrArg List.length hgroups
  simp only [List.length_append, List.length_replicate, addr.length_eq] at hlength
  have hshort : ¬ head.length = 8 := by omega
  have hcount : 8 - head.length - tail.length = count := by omega
  rw [read, hhead]
  dsimp only
  rw [if_neg hshort]
  simp only [readChar_self, htail, Option.bind_eq_bind, Option.bind_some, Option.pure_def,
    Bool.false_eq_true, if_false, hcount, hgroups, ofGroups?_groups]

/-- The two bytes of a group make the group, the higher one first. -/
theorem groupOfBytes_bytes (g : UInt16) :
    groupOfBytes (g >>> 8).toUInt8 g.toUInt8 = g := by
  have hbound : g.toNat < 2 ^ 16 := g.toNat_lt
  apply UInt16.toNat_inj.1
  simp only [groupOfBytes, UInt16.toNat_or, UInt16.toNat_shiftLeft, UInt16.toNat_shiftRight,
    UInt8.toNat_toUInt16, UInt16.toNat_toUInt8]
  have height : UInt16.toNat 8 % 16 = 8 := rfl
  have hhigh : g.toNat >>> 8 % 2 ^ 8 = g.toNat / 256 := by
    rw [Nat.shiftRight_eq_div_pow]
    omega
  have hshift : (g.toNat / 256) <<< 8 % 2 ^ 16 = (g.toNat / 256) <<< 8 := by
    rw [Nat.shiftLeft_eq]
    omega
  rw [height, hhigh, hshift, ← Nat.shiftLeft_add_eq_or_of_lt (by omega), Nat.shiftLeft_eq]
  omega

/-- An address that shows an IPv4 address has the groups of the embedding: five zeros, a mark and
the four bytes in pairs. -/
theorem embedded?_eq_some {addr : Ipv6} {inner : Ipv4} (h : addr.embedded? = some inner) :
    addr.groups = [0, 0, 0, 0, 0, 0xffff, groupOfBytes inner.a inner.b,
      groupOfBytes inner.c inner.d] := by
  unfold embedded? at h
  split at h
  · rename_i x y heq
    cases h
    rw [heq, groupOfBytes_bytes, groupOfBytes_bytes]
  · cases h

/-- The last two groups may be read as an IPv4 address. This is how the text of an address that
embeds one ends. -/
theorem readGroups_dotted (inner : Ipv4) :
    readGroups true 7 ("ffff:".toList ++ inner.text) =
      ([0xffff, groupOfBytes inner.a inner.b, groupOfBytes inner.c inner.d], true, []) := by
  have hinner : Ipv4.read inner.text = some (inner, []) := by
    have hread := inner.read_text (.nil 10)
    rwa [List.append_nil] at hread
  have hlater : readGroups false 6 (':' :: inner.text) =
      ([groupOfBytes inner.a inner.b, groupOfBytes inner.c inner.d], true, []) := by
    rw [readGroups]
    simp only [Bool.false_eq_true, if_false, readChar_self, OfNat.ofNat_ne_zero, hinner]
  have hdotted : Ipv4.read ("ffff:".toList ++ inner.text) = none :=
    Ipv4.read_of_readOctet_none (readOctet_eq_none (.cons (by decide) _))
  have hgroup : readGroup ("ffff:".toList ++ inner.text) = some (0xffff, ':' :: inner.text) :=
    readGroup_hexDigits 0xffff (endsDigits_colon 16 inner.text)
  exact readGroups_of_some rfl hdotted hgroup hlater

/-- An address is read back from its text, whichever of the three forms it is written in: with an
embedded address, with a gap, or with all its groups. -/
theorem read_text (addr : Ipv6) : read addr.text = some (addr, []) := by
  unfold text
  split
  · rename_i inner hinner
    have hgroups : [] ++ List.replicate 5 0 ++
        [0xffff, groupOfBytes inner.a inner.b, groupOfBytes inner.c inner.d] = addr.groups :=
      (embedded?_eq_some hinner).symm
    refine read_of_gap (by decide) hgroups ?_ (readGroups_dotted inner)
    exact readGroups_of_none rfl (endsDigits_colon 16 _) (endsDigits_colon 10 _)
  · have hgroups := longestZeros_eq addr.groups
    generalize longestZeros addr.groups = zeros at hgroups
    obtain ⟨start, count⟩ := zeros
    dsimp only at hgroups ⊢
    split
    · rename_i hcount
      have hlength := congrArg List.length hgroups
      simp only [List.length_append, List.length_replicate, addr.length_eq] at hlength
      have hlater (groups : List UInt16) : '.' ∉ ':' :: ':' :: groupsText groups := by
        simp only [List.mem_cons, not_or]
        exact ⟨by decide, by decide, point_notMem_groupsText groups⟩
      have hhead : (addr.groups.take start).length ≤ 8 := by omega
      have htail : (addr.groups.drop (start + count)).length ≤
          7 - (addr.groups.take start).length := by omega
      have hhead := readGroups_groupsText hhead (hlater (addr.groups.drop (start + count)))
        (.gap _) fun _ => endsDigits_colon 10 _
      have htail := readGroups_groupsText htail List.not_mem_nil .nil fun _ => .nil 10
      rw [List.append_nil] at htail
      rw [List.append_assoc]
      exact read_of_gap (Nat.zero_lt_of_lt hcount) hgroups hhead htail
    · have hread := readGroups_groupsText (Nat.le_of_eq addr.length_eq) List.not_mem_nil .nil
        fun _ => .nil 10
      rw [List.append_nil] at hread
      exact read_of_whole hread

/-- No text of an address is read in dotted form, also if it ends in an address of that form. -/
theorem read_text_dotted (addr : Ipv6) : Ipv4.read addr.text = none := by
  unfold text
  split
  · exact Ipv4.read_of_readOctet_none (readOctet_eq_none (endsDigits_colon 10 _))
  · dsimp only
    split
    · apply Ipv4.read_eq_none
      simp [point_notMem_groupsText]
    · exact Ipv4.read_eq_none (point_notMem_groupsText _)

end Ipv6

/-- The text of a host address names it. So a host that is given as an address is not looked up. -/
theorem IpAddr.ofText?_text (addr : IpAddr) : ofText? (String.ofList addr.text) = some addr := by
  cases addr with
  | v4 addr =>
    have hread := addr.read_text (.nil 10)
    rw [List.append_nil] at hread
    rw [ofText?, Ipv4.ofText?, String.toList_ofList, text, hread]
  | v6 addr =>
    rw [ofText?, Ipv4.ofText?, Ipv6.ofText?, String.toList_ofList, text, addr.read_text_dotted,
      addr.read_text]
    rfl

/-! ## Configurations -/

namespace Config

/-- A configuration whose host is the text of an address finds that address, with its own port and
without looking at any name. -/
theorem socketAddrs_of_text (names : NameTable) {config : Config} {addr : IpAddr}
    (h : config.host = String.ofList addr.text) :
    config.socketAddrs names = .ok [addr.withPort config.port] := by
  rw [socketAddrs, lookup, h, addr.ofText?_text]
  rfl

/-- A configuration that was given a socket address finds one address, made of the host and the port
of the one it was given. -/
theorem socketAddrs_withAddr_eq (names : NameTable) (config : Config) (addr : SocketAddr) :
    (config.withAddr addr).socketAddrs names = .ok [addr.ip.withPort addr.port] :=
  socketAddrs_of_text names rfl

/-- A configuration that was given a socket address finds the host and the port of that address and
nothing else, without looking at any name. It keeps neither flow label nor scope: an IPv4 address is
found as it was, an IPv6 address without a flow label and in the global scope, so that it is the
same address if and only if both were zero. -/
theorem socketAddrs_withAddr (names : NameTable) (config : Config) :
    (∀ addr port, (config.withAddr (.v4 addr port)).socketAddrs names = .ok [.v4 addr port]) ∧
    (∀ addr port flowLabel scope,
      (config.withAddr (.v6 addr port flowLabel scope)).socketAddrs names =
        .ok [.v6 addr port 0 0]) ∧
    ∀ addr port flowLabel scope,
      (config.withAddr (.v6 addr port flowLabel scope)).socketAddrs names =
          .ok [.v6 addr port flowLabel scope] ↔ flowLabel = 0 ∧ scope = 0 := by
  refine ⟨fun addr port => ?_, fun addr port flowLabel scope => ?_,
    fun addr port flowLabel scope => ?_⟩
  · exact socketAddrs_withAddr_eq names config (.v4 addr port)
  · exact socketAddrs_withAddr_eq names config (.v6 addr port flowLabel scope)
  · rw [socketAddrs_withAddr_eq]
    simp [SocketAddr.ip, SocketAddr.port, IpAddr.withPort, eq_comm]

/-- The address `fe80::1` in the scope of the third interface. -/
def linkLocal : SocketAddr := .v6 ⟨[0xfe80, 0, 0, 0, 0, 0, 0, 1], rfl⟩ 8 0 3

/-- An address that belongs to one interface only is found again without that interface. So it is
not the case that every address is found as it was given. -/
theorem socketAddrs_withAddr_scoped :
    ¬ ∀ (names : NameTable) (config : Config) (addr : SocketAddr),
      (config.withAddr addr).socketAddrs names = .ok [addr] := by
  intro h
  have hsame := h [] {} linkLocal
  rw [socketAddrs_withAddr_eq] at hsame
  simp [linkLocal, SocketAddr.ip, SocketAddr.port, IpAddr.withPort] at hsame

end Config

end CommandChannel
