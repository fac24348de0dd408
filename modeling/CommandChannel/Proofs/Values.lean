import Mathlib.Data.String.Basic
import CommandChannel.Json.Reader
import CommandChannel.Proofs.Numerals
import CommandChannel.Proofs.Quotations

/-!
# Values read back

The text of a value is read back as the value if it lies no deeper than the budget of the reader,
and refused if it lies deeper. Both go by induction on the value: within an array or an object one
level of the budget is left for each item, and the text of an item is followed by a comma, a bracket
or a blank, which closes a number. The layout of the text does not matter as long as it adds nothing
but blanks, since the reader skips blanks wherever a layout may put them.
-/

namespace CommandChannel

namespace Members

/-- The members stand in the order of their keys, each key once. -/
def Sorted (members : Members) : Prop := members.Pairwise fun a b => a.1 < b.1

instance (members : Members) : Decidable members.Sorted :=
  inferInstanceAs (Decidable (List.Pairwise _ _))

/-- A key above all others goes to the end. So sorted members may be inserted one after the
other. -/
theorem insert_of_forall_lt {key : String} (value : Json) {members : Members}
    (h : ∀ m ∈ members, m.1 < key) : insert key value members = members ++ [(key, value)] := by
  induction members with
  | nil => rfl
  | cons m members ih =>
    have hlt : m.1 < key := h m List.mem_cons_self
    rw [insert, if_neg (lt_asymm hlt), if_neg hlt.ne',
      ih fun x hx => h x (List.mem_cons_of_mem _ hx), List.cons_append]

/-- What holds of a new member and of all from before holds of all after the insertion. -/
theorem forall_mem_insert {p : String × Json → Prop} {key : String} {value : Json}
    {members : Members} (hnew : p (key, value)) (h : ∀ m ∈ members, p m) :
    ∀ m ∈ insert key value members, p m := by
  induction members with
  | nil => exact List.forall_mem_singleton.2 hnew
  | cons m members ih =>
    obtain ⟨hm, hmembers⟩ := List.forall_mem_cons.1 h
    unfold insert
    split
    · exact List.forall_mem_cons.2 ⟨hnew, h⟩
    · split
      · exact List.forall_mem_cons.2 ⟨hnew, hmembers⟩
      · exact List.forall_mem_cons.2 ⟨hm, ih hmembers⟩

/-- A member is inserted where the order of the keys has its place, so that sorted members stay
sorted. -/
theorem Sorted.insert {members : Members} (h : members.Sorted) (key : String) (value : Json) :
    (insert key value members).Sorted := by
  induction members with
  | nil => exact List.pairwise_singleton _ _
  | cons m members ih =>
    obtain ⟨hfirst, hrest⟩ := List.pairwise_cons.1 h
    unfold Members.insert
    split
    · rename_i hlt
      refine List.pairwise_cons.2 ⟨?_, h⟩
      exact List.forall_mem_cons.2 ⟨hlt, fun x hx => lt_trans hlt (hfirst x hx)⟩
    · split
      · rename_i heq
        exact List.pairwise_cons.2 ⟨fun x hx => heq ▸ hfirst x hx, hrest⟩
      · rename_i hge hne
        have hlt : m.1 < key := lt_of_le_of_ne (not_lt.1 hge) fun heq => hne heq.symm
        exact List.pairwise_cons.2 ⟨forall_mem_insert hlt hfirst, ih hrest⟩

/-- Whatever members are inserted, in whatever order, the result is sorted. So every object that is
read is. -/
theorem sorted_ofList (entries : List (String × Json)) : (ofList entries).Sorted := by
  unfold ofList
  induction entries using List.reverseRecOn with
  | nil => exact List.Pairwise.nil
  | append_singleton entries m ih =>
    rw [List.foldl_append]
    exact ih.insert m.1 m.2

/-- Members that are sorted stay as they are when they are inserted one after the other. This is how
an object is read back. -/
theorem ofList_of_sorted {members : Members} (h : Sorted members) : ofList members = members := by
  unfold ofList
  induction members using List.reverseRecOn with
  | nil => rfl
  | append_singleton members m ih =>
    obtain ⟨hmembers, -, hlast⟩ := List.pairwise_append.1 h
    rw [List.foldl_append, ih hmembers]
    exact insert_of_forall_lt m.2 fun x hx => hlast x hx m (List.mem_singleton_self m)

end Members

namespace Json

/-- A value whose text says exactly what it is: its integers fit in 64 bits, signed or unsigned, the
members of its objects are sorted, and no number in it is a floating-point number. -/
inductive Exact : Json → Prop where
  | null : Exact .null
  | bool (b : Bool) : Exact (.bool b)
  | int {n : Int} (hlow : -(2 ^ 63) ≤ n) (hhigh : n < 2 ^ 64) : Exact (.int n)
  | str (s : String) : Exact (.str s)
  | arr {items : List Json} (hitems : ∀ v ∈ items, Exact v) : Exact (.arr items)
  | obj {members : Members} (hsorted : members.Sorted) (hmembers : ∀ m ∈ members, Exact m.2) :
      Exact (.obj members)

/-- Items are within a depth if each of them is. Depths are compared item by item through it. -/
theorem depthItems_le_iff {items : List Json} {n : Nat} :
    depthItems items ≤ n ↔ ∀ v ∈ items, v.depth ≤ n := by
  induction items with
  | nil => simp [depthItems]
  | cons v items ih => simp [depthItems, ih]

/-- Members are within a depth if the value of each of them is. -/
theorem depthMembers_le_iff {members : Members} {n : Nat} :
    depthMembers members ≤ n ↔ ∀ m ∈ members, m.2.depth ≤ n := by
  induction members with
  | nil => simp [depthMembers]
  | cons m members ih => simp [depthMembers, ih]

/-! ## Blanks -/

/-- There is nothing but blanks. -/
def AllBlank (bytes : List UInt8) : Prop := ∀ b ∈ bytes, Byte.isBlank b = true

instance (bytes : List UInt8) : Decidable (AllBlank bytes) :=
  List.decidableBAll (fun b => Byte.isBlank b = true) bytes

/-- A layout that adds nothing but blanks to the text of a value. -/
class IsSpacing (layout : JsonLayout) : Prop where
  lineBreak : ∀ d, AllBlank (utf8 (layout.lineBreak d))
  colon : ∃ blanks, AllBlank blanks ∧ utf8 layout.colon = Byte.colon :: blanks

instance : IsSpacing .compact where
  lineBreak _ := List.forall_mem_nil _
  colon := ⟨[], by decide, rfl⟩

instance : IsSpacing .indented where
  lineBreak d := by
    intro b hb
    have hspaces : utf8 (List.replicate (2 * d) ' ') = List.replicate (2 * d) 0x20 := by
      induction 2 * d with
      | zero => rfl
      | succ n ih =>
        rw [List.replicate_succ, utf8_cons, ih]
        rfl
    rw [JsonLayout.indented, utf8_cons, hspaces] at hb
    rcases List.mem_cons.1 hb with rfl | hb
    · decide
    · rw [List.eq_of_mem_replicate hb]
      decide
  colon := ⟨[0x20], by decide, rfl⟩

/-- Blanks in front are skipped, however many there are, and so is what follows them if it is
blank. -/
theorem skipBlanks_append {blanks : List UInt8} (h : AllBlank blanks) (rest : List UInt8) :
    skipBlanks (blanks ++ rest) = skipBlanks rest :=
  List.dropWhile_append_of_pos h

/-! ## Texts as bytes -/

section Bytes

variable {layout : JsonLayout}

/-- A member without the quote that opens its key. -/
def memberBytes (layout : JsonLayout) (d : Nat) (m : String × Json) : List UInt8 :=
  utf8 (m.1.toList.flatMap escapeChar) ++
    Byte.quote :: (utf8 layout.colon ++ utf8 (m.2.format layout d))

/-- A text is written between quotes, its characters escaped where they must be. -/
theorem utf8_format_str (d : Nat) (s : String) (rest : List UInt8) :
    utf8 ((str s).format layout d) ++ rest =
      Byte.quote :: (utf8 (s.toList.flatMap escapeChar) ++ Byte.quote :: rest) := by
  rw [format, quoted, utf8_append, utf8_cons, List.append_assoc]
  rfl

/-- The items after the first one, each after a comma and what the layout puts behind it. -/
theorem utf8_formatItems (d : Nat) (items : List Json) :
    utf8 (formatItems layout d items) =
      items.flatMap fun v =>
        (Byte.comma :: utf8 (layout.lineBreak d)) ++ utf8 (v.format layout d) := by
  induction items with
  | nil => rfl
  | cons v items ih =>
    rw [List.flatMap_cons, ← ih, formatItems, utf8_append, utf8_append, utf8_cons]
    rfl

/-- The members after the first one, each after a comma, what the layout puts behind it, and a
quote. -/
theorem utf8_formatMembers (d : Nat) (members : Members) :
    utf8 (formatMembers layout d members) =
      members.flatMap fun m =>
        (Byte.comma :: (utf8 (layout.lineBreak d) ++ [Byte.quote])) ++ memberBytes layout d m := by
  induction members with
  | nil => rfl
  | cons m members ih =>
    obtain ⟨k, v⟩ := m
    rw [List.flatMap_cons, ← ih]
    simp only [formatMembers, quoted, memberBytes, utf8_cons, utf8_append, List.cons_append,
      List.append_assoc]
    rfl

/-- The items of an array that stands at a depth, as they are written after its opening bracket. -/
def arrayBytes (layout : JsonLayout) (d : Nat) : List Json → List UInt8
  | [] => [Byte.closeBracket]
  | v :: items =>
    utf8 (layout.lineBreak (d + 1)) ++ (utf8 (v.format layout (d + 1)) ++
      ((items.flatMap fun w =>
        (Byte.comma :: utf8 (layout.lineBreak (d + 1))) ++ utf8 (w.format layout (d + 1))) ++
        (utf8 (layout.lineBreak d) ++ [Byte.closeBracket])))

/-- The members of an object that stands at a depth, as they are written after its opening brace. -/
def objectBytes (layout : JsonLayout) (d : Nat) : Members → List UInt8
  | [] => [Byte.closeBrace]
  | m :: members =>
    utf8 (layout.lineBreak (d + 1)) ++ Byte.quote :: (memberBytes layout (d + 1) m ++
      ((members.flatMap fun m =>
        (Byte.comma :: (utf8 (layout.lineBreak (d + 1)) ++ [Byte.quote])) ++
          memberBytes layout (d + 1) m) ++
        (utf8 (layout.lineBreak d) ++ [Byte.closeBrace])))

/-- An array is written as its opening bracket and what comes after it. -/
theorem utf8_format_arr (d : Nat) (items : List Json) :
    utf8 ((arr items).format layout d) = Byte.openBracket :: arrayBytes layout d items := by
  cases items with
  | nil => rfl
  | cons v items =>
    rw [arrayBytes, ← utf8_formatItems]
    simp only [format, utf8_cons, utf8_append, List.cons_append, List.append_assoc]
    rfl

/-- An object is written as its opening brace and what comes after it. -/
theorem utf8_format_obj (d : Nat) (members : Members) :
    utf8 ((obj members).format layout d) = Byte.openBrace :: objectBytes layout d members := by
  cases members with
  | nil => rfl
  | cons m members =>
    rw [objectBytes, ← utf8_formatMembers]
    obtain ⟨k, v⟩ := m
    simp only [format, quoted, memberBytes, utf8_cons, utf8_append, List.cons_append,
      List.append_assoc]
    rfl

/-- The key of a member is read back after its opening quote, and reading goes on at the colon. -/
theorem readString_memberBytes (d : Nat) (m : String × Json) (rest : List UInt8) :
    readString (memberBytes layout d m ++ rest) =
      .ok (m.1, utf8 layout.colon ++ (utf8 (m.2.format layout d) ++ rest)) := by
  rw [memberBytes, List.append_assoc, List.cons_append, readString_quoted, List.append_assoc]

end Bytes

/-- The digits of a number begin with a digit below ten, as there is at least one of them. -/
theorem exists_decimalDigits_eq_cons (n : Nat) :
    ∃ d cs, d < 10 ∧ decimalDigits n = Nat.digitChar d :: cs := by
  rcases Nat.eq_zero_or_pos n with rfl | hpos
  · exact ⟨0, [], by decide, rfl⟩
  · obtain ⟨d, cs, -, hlt, heq⟩ := exists_toDigits_eq_cons hpos
    exact ⟨d, cs, hlt, heq⟩

/-- The digits of a number begin with a byte that is a digit. -/
theorem exists_utf8_decimalDigits_eq_cons (n : Nat) :
    ∃ b rest, utf8 (decimalDigits n) = b :: rest ∧ Byte.isDigit b = true := by
  obtain ⟨d, cs, hd, heq⟩ := exists_decimalDigits_eq_cons n
  obtain ⟨b, hb, hdigit⟩ := digit?_digitChar d hd
  refine ⟨b, utf8 cs, ?_, by simp [Byte.isDigit, hdigit]⟩
  rw [heq, utf8_cons, hb]
  rfl

/-- A digit is no blank, so that none is skipped before a number. -/
theorem isBlank_of_isDigit {b : UInt8} (h : Byte.isDigit b = true) : Byte.isBlank b = false := by
  by_contra hblank
  simp only [Bool.not_eq_false, Byte.isBlank, Bool.or_eq_true, beq_iff_eq] at hblank
  rcases hblank with ((rfl | rfl) | rfl) | rfl <;> revert h <;> decide

/-- The bytes begin like a value, and not like the end of an array. -/
def StartsValue (bytes : List UInt8) : Prop :=
  ∃ b rest, bytes = b :: rest ∧ Byte.isBlank b = false ∧ b ≠ Byte.closeBracket

/-- A digit starts a value: it is neither a blank nor the end of an array. -/
theorem startsValue_of_isDigit {b : UInt8} (h : Byte.isDigit b = true) (rest : List UInt8) :
    StartsValue (b :: rest) := by
  refine ⟨b, rest, rfl, isBlank_of_isDigit h, ?_⟩
  rintro rfl
  revert h
  decide

/-- The text of a value starts a value. So a reader that looks for the end of an array does not find
it there. -/
theorem startsValue_format {layout : JsonLayout} {v : Json} (hv : v.Exact) (d : Nat)
    (rest : List UInt8) : StartsValue (utf8 (v.format layout d) ++ rest) := by
  cases hv with
  | null => exact ⟨_, _, rfl, by decide, by decide⟩
  | bool b => cases b <;> exact ⟨_, _, rfl, by decide, by decide⟩
  | @int n hlow hhigh =>
    rw [format, integerDigits]
    split
    · exact ⟨_, _, rfl, by decide, by decide⟩
    · obtain ⟨b, bs, heq, hdigit⟩ := exists_utf8_decimalDigits_eq_cons n.natAbs
      rw [heq]
      exact startsValue_of_isDigit hdigit _
  | str s => exact ⟨_, _, rfl, by decide, by decide⟩
  | arr hitems =>
    rw [utf8_format_arr]
    exact ⟨_, _, rfl, by decide, by decide⟩
  | obj hsorted hmembers =>
    rw [utf8_format_obj]
    exact ⟨_, _, rfl, by decide, by decide⟩

/-- Where no blank comes next, none is skipped, and the bytes stay as they are. -/
theorem skipBlanks_cons {b : UInt8} (h : Byte.isBlank b = false) (rest : List UInt8) :
    skipBlanks (b :: rest) = b :: rest := by
  rw [skipBlanks, List.dropWhile_cons_of_neg]
  simp [h]

/-- Where a value starts, no blank is skipped. So skipping blanks finds the value at once. -/
theorem StartsValue.skipBlanks {bytes : List UInt8} (h : StartsValue bytes) :
    skipBlanks bytes = bytes := by
  obtain ⟨b, rest, rfl, hblank, -⟩ := h
  exact skipBlanks_cons hblank rest

/-- A blank closes a number as well, if there is one before what follows. -/
theorem Closes.append {blanks rest : List UInt8} (hblanks : AllBlank blanks) (h : Closes rest) :
    Closes (blanks ++ rest) := by
  cases blanks with
  | nil => exact h
  | cons b blanks =>
    have hblank : Byte.isBlank b = true := hblanks b List.mem_cons_self
    simp only [Byte.isBlank, Bool.or_eq_true, beq_iff_eq] at hblank
    rintro _ ⟨⟩
    rcases hblank with ((rfl | rfl) | rfl) | rfl <;> decide

/-- A comma closes a number, as between the items of an array. -/
theorem closes_comma (rest : List UInt8) : Closes (Byte.comma :: rest) := by
  rintro b ⟨⟩
  decide

/-- A closing bracket closes a number, as after the last item of an array. -/
theorem closes_closeBracket (rest : List UInt8) : Closes (Byte.closeBracket :: rest) := by
  rintro b ⟨⟩
  decide

/-- A closing brace closes a number, as after the last member of an object. -/
theorem closes_closeBrace (rest : List UInt8) : Closes (Byte.closeBrace :: rest) := by
  rintro b ⟨⟩
  decide

/-! ## Readers that may run out of their budget -/

/-- The result is the given one if the condition holds, and a fault if it does not. -/
def OkIff {α : Type} (p : Prop) (a : α) (result : Except JsonFault α) : Prop :=
  (p → result = .ok a) ∧ (¬ p → ∃ fault, result = .error fault)

namespace OkIff

variable {α β : Type} {p q : Prop} {a : α} {b : β} {x : Except JsonFault α}

/-- A result that is there although nothing else was asked for is the given one if the condition
holds. -/
theorem of_ok (h : x = .ok a) (hp : p) : OkIff p a x := ⟨fun _ => h, fun hnot => absurd hp hnot⟩

/-- A fault is what is asked for if the condition does not hold. -/
theorem of_error {fault : JsonFault} (h : x = .error fault) (hp : ¬ p) : OkIff p a x :=
  ⟨fun hp' => absurd hp' hp, fun _ => ⟨fault, h⟩⟩

/-- Conditions that hold together may be put for each other, as when depths are compared. -/
theorem congr (h : OkIff p a x) (hpq : p ↔ q) : OkIff q a x := by rwa [← propext hpq]

/-- A reader whose result is only completed by what follows is bound to the same condition. -/
theorem bind_ok {f : α → Except JsonFault β} (hx : OkIff p a x) (hf : f a = .ok b) :
    OkIff p b (x >>= f) := by
  refine ⟨fun hp => ?_, fun hp => ?_⟩
  · rw [hx.1 hp]
    exact hf
  · obtain ⟨fault, hfault⟩ := hx.2 hp
    exact ⟨fault, by rw [hfault]; rfl⟩

end OkIff

/-- The reader takes a text off the front, whatever follows it that closes a number, if the
condition holds. -/
def Takes {α : Type} (reader : JsonReader α) (p : Prop) (a : α) (text : List UInt8) : Prop :=
  ∀ rest, Closes rest → OkIff p (a, rest) (reader (text ++ rest))

/-- A loop over elements between which a separator stands, up to a mark that ends them: if each
element is read back where its condition holds, all of them are read back where all conditions
hold. -/
theorem okIff_loop {α : Type} {one : JsonReader α} {loop : List α → Nat → JsonReader (List α)}
    {text : α → List UInt8} {p : α → Prop} {separator stop : List UInt8}
    (hseparator : ∀ rest, Closes (separator ++ rest)) (hstop : ∀ rest, Closes (stop ++ rest))
    (hlast : ∀ {bytes rest a} acc fuel, one bytes = .ok (a, stop ++ rest) →
      loop acc (fuel + 1) bytes = .ok ((a :: acc).reverse, rest))
    (herror : ∀ {bytes fault} acc fuel, one bytes = .error fault →
      loop acc (fuel + 1) bytes = .error fault)
    {a : α} {later : List α}
    (hnext : ∀ {bytes rest a}, ∀ b ∈ later, ∀ acc fuel,
      one bytes = .ok (a, separator ++ (text b ++ rest)) →
        loop acc (fuel + 1) bytes = loop (a :: acc) fuel (text b ++ rest))
    (hone : ∀ b ∈ a :: later, Takes one (p b) b (text b))
    {fuel : Nat} (hfuel : later.length < fuel) (acc : List α) (rest : List UInt8) :
    OkIff (∀ b ∈ a :: later, p b) (acc.reverse ++ a :: later, rest)
      (loop acc fuel (text a ++
        ((later.flatMap fun b => separator ++ text b) ++ (stop ++ rest)))) := by
  induction later generalizing a acc fuel with
  | nil =>
    obtain ⟨fuel, rfl⟩ := Nat.exists_eq_add_one.2 hfuel
    have hread := hone a List.mem_cons_self _ (hstop rest)
    by_cases ha : p a
    · refine .of_ok ((hlast acc fuel (hread.1 ha)).trans ?_) (by simpa using ha)
      rw [List.reverse_cons]
    · obtain ⟨fault, hfault⟩ := hread.2 ha
      exact .of_error (herror acc fuel hfault) fun h => ha (h a List.mem_cons_self)
  | cons b later ih =>
    obtain ⟨fuel, rfl⟩ := Nat.exists_eq_add_one.2 (Nat.zero_lt_of_lt hfuel)
    have hbytes : ((b :: later).flatMap fun b => separator ++ text b) ++ (stop ++ rest) =
        separator ++ (text b ++ ((later.flatMap fun b => separator ++ text b) ++
          (stop ++ rest))) := by
      simp only [List.flatMap_cons, List.append_assoc]
    rw [hbytes]
    have hread := hone a List.mem_cons_self _ (hseparator (text b ++
      ((later.flatMap fun b => separator ++ text b) ++ (stop ++ rest))))
    have hlater := ih (a := b) (fun c hc => hnext c (List.mem_cons_of_mem _ hc))
      (fun c hc => hone c (List.mem_cons_of_mem _ hc)) (Nat.lt_of_succ_lt_succ hfuel) (a :: acc)
    by_cases ha : p a
    · rw [hnext b List.mem_cons_self acc fuel (hread.1 ha)]
      have hcond : (∀ c ∈ b :: later, p c) ↔ ∀ c ∈ a :: b :: later, p c := by
        simp [ha]
      have hresult : (a :: acc).reverse ++ b :: later = acc.reverse ++ a :: b :: later := by simp
      rw [hresult] at hlater
      exact hlater.congr hcond
    · obtain ⟨fault, hfault⟩ := hread.2 ha
      exact .of_error (herror acc fuel hfault) fun h => ha (h a List.mem_cons_self)

/-- There are no more texts than bytes in all of them, if none is empty. So a loop with a round for
each byte has enough rounds. -/
theorem length_le_length_flatMap {α : Type} (as : List α) {f : α → List UInt8}
    (hf : ∀ a, 0 < (f a).length) : as.length ≤ (as.flatMap f).length := by
  induction as with
  | nil => exact Nat.zero_le _
  | cons a as ih =>
    have ha := hf a
    rw [List.flatMap_cons, List.length_append, List.length_cons]
    omega

/-! ## Arrays -/

section Layouts

variable {layout : JsonLayout} [IsSpacing layout]

/-- An item before the closing bracket is the last one, whatever blanks stand between them. -/
theorem readItems_closeBracket {item : JsonReader Json} {v : Json} {bytes blanks rest : List UInt8}
    (hblanks : AllBlank blanks) (acc : List Json) (fuel : Nat)
    (h : item bytes = .ok (v, (blanks ++ [Byte.closeBracket]) ++ rest)) :
    readItems item acc (fuel + 1) bytes = .ok ((v :: acc).reverse, rest) := by
  have hskip : skipBlanks ((blanks ++ [Byte.closeBracket]) ++ rest) =
      Byte.closeBracket :: rest := by
    rw [List.append_assoc, skipBlanks_append hblanks]
    exact skipBlanks_cons (by decide) rest
  rw [readItems, h]
  dsimp only [bind, Except.bind]
  rw [hskip]
  rfl

/-- The fault of an item is the fault of the whole array. -/
theorem readItems_error {item : JsonReader Json} {fault : JsonFault} {bytes : List UInt8}
    (acc : List Json) (fuel : Nat) (h : item bytes = .error fault) :
    readItems item acc (fuel + 1) bytes = .error fault := by
  rw [readItems, h]
  rfl

/-- Where another item follows, the reader of an array goes on with it, past the comma and any
blanks. -/
theorem readItems_comma {item : JsonReader Json} {v : Json} {bytes blanks rest : List UInt8}
    (hblanks : AllBlank blanks) (acc : List Json) (fuel : Nat)
    (h : item bytes = .ok (v, (Byte.comma :: blanks) ++ rest)) (hrest : StartsValue rest) :
    readItems item acc (fuel + 1) bytes = readItems item (v :: acc) fuel rest := by
  have hskip : skipBlanks (blanks ++ rest) = rest := by
    rw [skipBlanks_append hblanks, hrest.skipBlanks]
  have hcomma : skipBlanks ((Byte.comma :: blanks) ++ rest) = Byte.comma :: (blanks ++ rest) :=
    skipBlanks_cons (by decide) (blanks ++ rest)
  obtain ⟨b, rest, rfl, -, hb⟩ := hrest
  rw [readItems, h]
  dsimp only [bind, Except.bind]
  rw [hcomma]
  split
  case h_1 heq => cases heq
  case h_2 heq => cases heq
  case h_3 heq =>
    injection heq with _ heq
    rw [← heq, hskip]
    split
    · cases ‹_›
    · rename_i heq
      injection heq with heq
      exact absurd heq hb
    · rfl
  case h_4 hother => exact absurd rfl (hother (blanks ++ b :: rest))

/-- An array that does not end at once has a first item, after any blanks. -/
theorem readArray_of_startsValue {item : JsonReader Json} {blanks bytes : List UInt8}
    (hblanks : AllBlank blanks) (h : StartsValue bytes) :
    readArray item (blanks ++ bytes) = readItems item [] bytes.length bytes := by
  have hskip : skipBlanks (blanks ++ bytes) = bytes := by
    rw [skipBlanks_append hblanks, h.skipBlanks]
  obtain ⟨b, rest, rfl, -, hb⟩ := h
  rw [readArray, hskip]
  split
  · cases ‹_›
  · rename_i heq
    injection heq with heq
    exact absurd heq hb
  · rfl

/-- An array is read back after its opening bracket, if its items are no deeper than the budget. -/
theorem takes_readArray {item : JsonReader Json} {budget d : Nat} {items : List Json}
    (hexact : ∀ v ∈ items, v.Exact)
    (hitem : ∀ v ∈ items, Takes item (v.depth ≤ budget) v (utf8 (v.format layout (d + 1)))) :
    Takes (readArray item) (depthItems items ≤ budget) items (arrayBytes layout d items) := by
  intro rest _
  cases items with
  | nil => exact .of_ok rfl (Nat.zero_le _)
  | cons v items =>
    have hstarts (w : Json) (hw : w ∈ v :: items) (rest : List UInt8) :
        StartsValue (utf8 (w.format layout (d + 1)) ++ rest) :=
      startsValue_format (hexact w hw) (d + 1) rest
    have hinner : AllBlank (utf8 (layout.lineBreak (d + 1))) := IsSpacing.lineBreak _
    have houter : AllBlank (utf8 (layout.lineBreak d)) := IsSpacing.lineBreak _
    have hstop (rest : List UInt8) :
        Closes (utf8 (layout.lineBreak d) ++ [Byte.closeBracket] ++ rest) := by
      rw [List.append_assoc]
      exact (closes_closeBracket rest).append houter
    rw [arrayBytes, List.append_assoc, List.append_assoc, List.append_assoc,
      readArray_of_startsValue hinner (hstarts v List.mem_cons_self _)]
    refine (okIff_loop (p := fun w => w.depth ≤ budget) (fun _ => closes_comma _) hstop
      (readItems_closeBracket houter) readItems_error (fun w hw acc fuel h =>
        readItems_comma hinner acc fuel h (hstarts w (List.mem_cons_of_mem _ hw) _))
      hitem ?_ [] rest).congr depthItems_le_iff.symm
    have hle := length_le_length_flatMap items
      (f := fun w => (Byte.comma :: utf8 (layout.lineBreak (d + 1))) ++
        utf8 (w.format layout (d + 1))) fun _ => Nat.succ_pos _
    simp only [List.length_append, List.length_cons] at hle ⊢
    omega

/-! ## Objects -/

/-- Reading a value begins with skipping blanks, so that blanks in front of it do not matter. -/
theorem readValue_append {blanks : List UInt8} (h : AllBlank blanks) (budget : Nat)
    (rest : List UInt8) : readValue budget (blanks ++ rest) = readValue budget rest := by
  unfold readValue
  rw [skipBlanks_append h]

/-- A member is read back after the opening quote of its key, under the condition of its value. -/
theorem takes_readMember {budget : Nat} {p : Prop} {d : Nat} {m : String × Json}
    (hvalue : Takes (readValue budget) p m.2 (utf8 (m.2.format layout d))) :
    Takes (readMember (readValue budget)) p m (memberBytes layout d m) := by
  intro rest hrest
  obtain ⟨blanks, hblanks, hcolon⟩ := ‹IsSpacing layout›.colon
  have hread := hvalue rest hrest
  rw [← readValue_append hblanks] at hread
  unfold readMember
  rw [readString_memberBytes, hcolon]
  exact hread.bind_ok rfl

/-- A member before the closing brace is the last one, whatever blanks stand between them. -/
theorem readMembersFrom_closeBrace {value : JsonReader Json} {m : String × Json}
    {bytes blanks rest : List UInt8} (hblanks : AllBlank blanks) (acc : Members) (fuel : Nat)
    (h : readMember value bytes = .ok (m, (blanks ++ [Byte.closeBrace]) ++ rest)) :
    readMembersFrom value acc (fuel + 1) bytes = .ok ((m :: acc).reverse, rest) := by
  have hskip : skipBlanks ((blanks ++ [Byte.closeBrace]) ++ rest) = Byte.closeBrace :: rest := by
    rw [List.append_assoc, skipBlanks_append hblanks]
    exact skipBlanks_cons (by decide) rest
  rw [readMembersFrom, h]
  dsimp only [bind, Except.bind]
  rw [hskip]
  rfl

/-- The fault of a member is the fault of the whole object. -/
theorem readMembersFrom_error {value : JsonReader Json} {fault : JsonFault} {bytes : List UInt8}
    (acc : Members) (fuel : Nat) (h : readMember value bytes = .error fault) :
    readMembersFrom value acc (fuel + 1) bytes = .error fault := by
  rw [readMembersFrom, h]
  rfl

/-- Where another member follows, the reader of an object goes on with it, past the comma, any
blanks and the quote of its key. -/
theorem readMembersFrom_comma {value : JsonReader Json} {m : String × Json}
    {bytes blanks rest : List UInt8} (hblanks : AllBlank blanks) (acc : Members) (fuel : Nat)
    (h : readMember value bytes = .ok (m, (Byte.comma :: (blanks ++ [Byte.quote])) ++ rest)) :
    readMembersFrom value acc (fuel + 1) bytes = readMembersFrom value (m :: acc) fuel rest := by
  have hcomma : skipBlanks ((Byte.comma :: (blanks ++ [Byte.quote])) ++ rest) =
      Byte.comma :: (blanks ++ ([Byte.quote] ++ rest)) := by
    rw [List.cons_append, List.append_assoc]
    exact skipBlanks_cons (by decide) _
  have hquote : skipBlanks (blanks ++ ([Byte.quote] ++ rest)) = Byte.quote :: rest := by
    rw [skipBlanks_append hblanks]
    exact skipBlanks_cons (by decide) rest
  rw [readMembersFrom, h]
  dsimp only [bind, Except.bind]
  rw [hcomma]
  split
  case h_1 heq => cases heq
  case h_2 heq => cases heq
  case h_3 heq =>
    injection heq with _ heq
    rw [← heq, hquote]
    rfl
  case h_4 hother => exact absurd rfl (hother _)

/-- An object is read back after its opening brace, its members in the order of their keys. -/
theorem takes_readObject {budget d : Nat} {members : Members}
    (hvalue : ∀ m ∈ members, Takes (readValue budget) (m.2.depth ≤ budget) m.2
      (utf8 (m.2.format layout (d + 1)))) :
    Takes (readObject (readValue budget)) (depthMembers members ≤ budget) (Members.ofList members)
      (objectBytes layout d members) := by
  intro rest _
  cases members with
  | nil => exact .of_ok rfl (Nat.zero_le _)
  | cons m members =>
    have hinner : AllBlank (utf8 (layout.lineBreak (d + 1))) := IsSpacing.lineBreak _
    have houter : AllBlank (utf8 (layout.lineBreak d)) := IsSpacing.lineBreak _
    have hstop (rest : List UInt8) :
        Closes (utf8 (layout.lineBreak d) ++ [Byte.closeBrace] ++ rest) := by
      rw [List.append_assoc]
      exact (closes_closeBrace rest).append houter
    have hquote (rest : List UInt8) :
        skipBlanks (utf8 (layout.lineBreak (d + 1)) ++ Byte.quote :: rest) =
          Byte.quote :: rest := by
      rw [skipBlanks_append hinner]
      exact skipBlanks_cons (by decide) rest
    rw [objectBytes, List.append_assoc, List.cons_append, List.append_assoc, List.append_assoc,
      readObject, hquote]
    refine ((okIff_loop (p := fun m => m.2.depth ≤ budget) (fun _ => closes_comma _) hstop
      (readMembersFrom_closeBrace houter) readMembersFrom_error
      (fun w _ acc fuel h => readMembersFrom_comma hinner acc fuel h)
      (fun w hw => takes_readMember (hvalue w hw)) ?_ [] rest).congr
        depthMembers_le_iff.symm).bind_ok rfl
    have hle := length_le_length_flatMap members
      (f := fun m => (Byte.comma :: (utf8 (layout.lineBreak (d + 1)) ++ [Byte.quote])) ++
        memberBytes layout (d + 1) m) fun _ => Nat.succ_pos _
    rw [List.length_append, List.length_append]
    omega

/-! ## Values -/

/-- Where a digit comes next, a number is read, and the digit is its first one. -/
theorem readValue_of_isDigit {b : UInt8} (h : Byte.isDigit b = true) (budget : Nat)
    (rest : List UInt8) : readValue budget (b :: rest) = readNumber false (b :: rest) := by
  have hne {c : UInt8} {cs : List UInt8} (hc : Byte.isDigit c = false) :
      b :: rest ≠ c :: cs := by
    rintro ⟨⟩
    rw [h] at hc
    cases hc
  unfold readValue
  rw [skipBlanks_cons (isBlank_of_isDigit h)]
  -- none of the other first bytes is a digit
  split
  case h_1 => cases ‹_›
  case h_9 heq =>
    cases heq
    rw [if_pos h]
  all_goals exact absurd ‹_› (hne (by decide))

/-- An integer of 64 bits is read back, with or without a sign. -/
theorem readValue_integerDigits {n : Int} (hlow : -(2 ^ 63) ≤ n) (hhigh : n < 2 ^ 64)
    (budget : Nat) {rest : List UInt8} (hrest : Closes rest) :
    readValue budget (utf8 (integerDigits n) ++ rest) = .ok (.int n, rest) := by
  have hbound : n.natAbs < significandBound := by
    have : significandBound = 2 ^ 64 := rfl
    omega
  unfold integerDigits
  split
  · rename_i hneg
    have hread := readNumber_decimalDigits hbound true hrest
    have hparts : integerOfParts true n.natAbs = .int n := by
      have : negativeBound = 2 ^ 63 := rfl
      rw [integerOfParts, if_pos rfl, if_pos (by omega)]
      congr 1
      omega
    rw [hparts] at hread
    refine Eq.trans ?_ hread
    unfold readValue
    rfl
  · rename_i hneg
    have hread := readNumber_decimalDigits hbound false hrest
    have hparts : integerOfParts false n.natAbs = .int n := by
      rw [integerOfParts, if_neg Bool.false_ne_true]
      congr 1
      omega
    rw [hparts] at hread
    obtain ⟨b, bs, heq, hdigit⟩ := exists_utf8_decimalDigits_eq_cons n.natAbs
    rw [heq] at hread ⊢
    rw [List.cons_append, readValue_of_isDigit hdigit]
    exact hread

/-- Where a quote comes next, a text is read, up to the quote that closes it. -/
theorem readValue_quote (budget : Nat) (rest : List UInt8) :
    readValue budget (Byte.quote :: rest) =
      (readString rest >>= fun r => .ok (.str r.1, r.2)) := by
  unfold readValue
  rfl

/-- Where an opening bracket comes next, an array is read, with one level less for its items. -/
theorem readValue_openBracket (budget : Nat) (rest : List UInt8) :
    readValue (budget + 1) (Byte.openBracket :: rest) =
      (readArray (readValue budget) rest >>= fun r => .ok (.arr r.1, r.2)) := rfl

/-- Where an opening brace comes next, an object is read, with one level less for its members. -/
theorem readValue_openBrace (budget : Nat) (rest : List UInt8) :
    readValue (budget + 1) (Byte.openBrace :: rest) =
      (readObject (readValue budget) rest >>= fun r => .ok (.obj r.1, r.2)) := rfl

/-- An object is read back with its members in the order of their keys, if each of their values is
read back. -/
theorem takes_readValue_obj {d : Nat} {members : Members}
    (hvalue : ∀ m ∈ members, ∀ budget,
      Takes (readValue budget) (m.2.depth ≤ budget) m.2 (utf8 (m.2.format layout (d + 1))))
    (budget : Nat) :
    Takes (readValue budget) ((obj members).depth ≤ budget) (obj (Members.ofList members))
      (utf8 ((obj members).format layout d)) := by
  intro rest hrest
  rw [utf8_format_obj, List.cons_append]
  cases budget with
  | zero => exact .of_error rfl (Nat.not_succ_le_zero _)
  | succ budget =>
    rw [readValue_openBrace]
    have hread := takes_readObject (fun m hm => hvalue m hm budget) rest hrest
    refine OkIff.congr ?_ Nat.succ_le_succ_iff.symm
    exact hread.bind_ok rfl

/-- A value is read back from its text if it lies no deeper than the budget, and refused if it lies
deeper. The induction is on the value, for all budgets at once. -/
theorem takes_readValue {v : Json} (hv : v.Exact) (budget d : Nat) :
    Takes (readValue budget) (v.depth ≤ budget) v (utf8 (v.format layout d)) := by
  induction hv generalizing budget d with
  | null =>
    intro rest _
    refine .of_ok ?_ (Nat.zero_le _)
    unfold readValue
    rfl
  | bool b =>
    intro rest _
    refine .of_ok ?_ (Nat.zero_le _)
    unfold readValue
    cases b <;> rfl
  | int hlow hhigh =>
    intro rest hrest
    rw [format]
    exact .of_ok (readValue_integerDigits hlow hhigh budget hrest) (Nat.zero_le _)
  | str s =>
    intro rest _
    refine .of_ok ?_ (Nat.zero_le _)
    rw [utf8_format_str, readValue_quote, readString_quoted]
    rfl
  | @arr items hitems ih =>
    intro rest hrest
    rw [utf8_format_arr, List.cons_append]
    cases budget with
    | zero => exact .of_error rfl (Nat.not_succ_le_zero _)
    | succ budget =>
      rw [readValue_openBracket]
      have hread := takes_readArray hitems (fun v hv => ih v hv budget (d + 1)) rest hrest
      refine OkIff.congr ?_ Nat.succ_le_succ_iff.symm
      exact hread.bind_ok rfl
  | @obj members hsorted hmembers ih =>
    have hread := takes_readValue_obj (fun m hm budget => ih m hm budget (d + 1)) budget
    rwa [Members.ofList_of_sorted hsorted] at hread

end Layouts

end Json

end CommandChannel
