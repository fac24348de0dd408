import CommandChannel.Message.Payload
import CommandChannel.Proofs.Messages

/-!
# Envelopes

What a caller sees of an outcome is its envelope. Data of a success stand beside the flag, but the
key of the flag is taken out of them first, so that a peer cannot speak for the channel. What can be
read off an envelope is the flag and the part of the outcome that the flag makes of interest, so
envelopes are compared by comparing these. Both layouts of the text of an envelope are read back as
the envelope.
-/

namespace CommandChannel

namespace Members

/-- The members but for those of one key. -/
def without (key : String) (members : Members) : Members := members.filter fun m => m.1 != key

/-- The members that are left are those of other keys, as many as there are of each. -/
theorem mem_without {key : String} {members : Members} {m : String × Json} :
    m ∈ members.without key ↔ m ∈ members ∧ m.1 ≠ key := by
  simp [without]

/-- Without the members of a key nothing is found under it, and under other keys what was found
before. -/
theorem find?_without (key k : String) (members : Members) :
    (members.without key).find? k = if k = key then none else members.find? k := by
  induction members with
  | nil => simp [without, find?]
  | cons m members ih =>
    unfold without at ih ⊢
    by_cases hkey : m.1 = key
    · rw [List.filter_cons_of_neg (by simp [hkey]), ih, find?, hkey]
      by_cases hk : k = key
      · rw [if_pos hk, if_pos hk]
      · rw [if_neg hk, if_neg hk, if_neg fun h => hk h.symm]
    · rw [List.filter_cons_of_pos (by simp [hkey]), find?, find?, ih]
      by_cases hk : k = key
      · rw [if_pos hk, if_pos hk, if_neg fun h => hkey (h.trans hk)]
      · rw [if_neg hk, if_neg hk]

/-- What was inserted under a key goes with the members of that key. So a member of the data with
the key of the flag leaves no trace in the envelope. -/
theorem without_insert (key : String) (value : Json) (members : Members) :
    (insert key value members).without key = members.without key := by
  unfold without
  induction members with
  | nil => simp [insert]
  | cons m members ih =>
    unfold insert
    split
    · rw [List.filter_cons_of_neg (by simp)]
    · split
      · rename_i heq
        rw [List.filter_cons_of_neg (by simp), List.filter_cons_of_neg (by simp [heq])]
      · rw [List.filter_cons, List.filter_cons, ih]

/-- Leaving out the members of a key once more changes nothing. -/
theorem without_without (key : String) (members : Members) :
    (members.without key).without key = members.without key := by
  simp [without]

/-- The keys after an insertion are the one that was inserted and those from before. -/
theorem mem_keys_insert {key k : String} {value : Json} {members : Members} :
    k ∈ (insert key value members).map Prod.fst ↔ k = key ∨ k ∈ members.map Prod.fst := by
  induction members with
  | nil => simp [insert]
  | cons m members ih =>
    unfold insert
    split
    · rw [List.map_cons, List.mem_cons]
    · split
      · rename_i heq
        rw [List.map_cons, List.map_cons, List.mem_cons, List.mem_cons, ← heq]
        exact ⟨fun h => .inr h, fun h => h.elim .inl id⟩
      · rw [List.map_cons, List.map_cons, List.mem_cons, List.mem_cons, ih]
        exact or_left_comm

/-- The keys that are left are all but the one that was left out. -/
theorem mem_keys_without {key k : String} {members : Members} :
    k ∈ (members.without key).map Prod.fst ↔ k ∈ members.map Prod.fst ∧ k ≠ key := by
  simp only [List.mem_map, mem_without]
  constructor
  · rintro ⟨m, ⟨hm, hkey⟩, rfl⟩
    exact ⟨⟨m, hm, rfl⟩, hkey⟩
  · rintro ⟨⟨m, hm, rfl⟩, hkey⟩
    exact ⟨m, ⟨hm, hkey⟩, rfl⟩

/-- Members in order stay in order when some are left out. -/
theorem Sorted.without {members : Members} (h : members.Sorted) (key : String) :
    (members.without key).Sorted :=
  h.filter _

/-! ## Two objects compared -/

section Alike

variable {same : Json → Json → Prop} {as bs : Members}

/-- The same keys in the same places, with values that count as the same. -/
def Alike (same : Json → Json → Prop) (as bs : Members) : Prop :=
  List.Forall₂ (fun a b => a.1 = b.1 ∧ same a.2 b.2) as bs

/-- Objects that are alike up to equality are the same. So likeness covers both ways to compare
envelopes. -/
theorem alike_eq_iff : Alike Eq as bs ↔ as = bs := by
  have hsame : (fun a b : String × Json => a.1 = b.1 ∧ a.2 = b.2) = Eq := by
    ext a b
    exact Prod.ext_iff.symm
  rw [Alike, hsame, List.forall₂_eq_eq_eq]

/-- Objects are alike up to the test of equality exactly if they pass it as values. This test does
not count a number as equal to itself if it is not one. -/
theorem alike_beq_iff : Alike (fun v w => v == w) as bs ↔ (Json.obj as == Json.obj bs) = true := by
  change List.Forall₂ _ as bs ↔ Json.beqMembers as bs = true
  induction as generalizing bs with
  | nil => cases bs <;> simp [Json.beqMembers]
  | cons a as ih =>
    cases bs with
    | nil => simp [Json.beqMembers]
    | cons b bs =>
      rw [List.forall₂_cons, ih, Json.beqMembers, Bool.and_eq_true, Bool.and_eq_true, beq_iff_eq]
      rfl

/-- Alike objects stay alike when values that count as the same are inserted under the same key. -/
theorem Alike.insert (h : Alike same as bs) (key : String) {v w : Json} (hvw : same v w) :
    Alike same (insert key v as) (insert key w bs) := by
  induction h with
  | nil => exact .cons ⟨rfl, hvw⟩ .nil
  | @cons a b as bs hab h ih =>
    unfold Members.insert
    rw [← hab.1]
    split
    · exact .cons ⟨rfl, hvw⟩ (.cons ⟨rfl, hab.2⟩ h)
    · split
      · exact .cons ⟨rfl, hvw⟩ h
      · exact .cons ⟨rfl, hab.2⟩ ih

/-- Alike objects stay alike when the members of a key are left out of both. -/
theorem Alike.without (h : Alike same as bs) (key : String) :
    Alike same (as.without key) (bs.without key) := by
  refine List.rel_filter (fun a b hab => ?_) h
  change (a.1 != key) = true ↔ (b.1 != key) = true
  rw [hab.1]

/-- Alike objects have the same value under every key, as far as both have one. -/
theorem Alike.find? (h : Alike same as bs) {key : String} {v w : Json}
    (hv : as.find? key = some v) (hw : bs.find? key = some w) : same v w := by
  induction h with
  | nil => cases hv
  | @cons a b as bs hab h ih =>
    rw [Members.find?] at hv hw
    rw [hab.1] at hv
    split at hv
    · rename_i hkey
      rw [if_pos hkey] at hw
      cases hv
      cases hw
      exact hab.2
    · rename_i hkey
      rw [if_neg hkey] at hw
      exact ih hv hw

end Alike

end Members

namespace Outcome

variable {o : Outcome}

/-- The error as the envelope shows it. -/
def shownError (o : Outcome) : Json := o.error.elim .null .str

/-- The members of a success are the flag among the data, from which a member of the same key was
left out. -/
theorem members_of_success (h : o.success = true) :
    o.members = Members.insert "success" (.bool true) (o.data.without "success") := if_pos h

/-- The members of a failure are its error, what it says of a later attempt, and the flag. -/
theorem members_of_failure (h : o.success = false) :
    o.members = [("error", o.shownError), ("recoverable", .bool o.recoverable),
      ("success", .bool false)] := by
  rw [members, h, if_neg Bool.false_ne_true, shownError]
  cases o.error <;> rfl

/-- Whatever the data hold, the flag of the envelope is that of the outcome. -/
theorem find?_success (o : Outcome) : o.members.find? "success" = some (.bool o.success) := by
  cases h : o.success with
  | true => rw [members_of_success h, Members.find?_insert, if_pos rfl]
  | false =>
    rw [members_of_failure h]
    rfl

/-- The other members of a success are its data, as they are found by their keys. -/
theorem find?_data (h : o.success = true) {key : String} (hkey : key ≠ "success") :
    o.members.find? key = o.data.find? key := by
  rw [members_of_success h, Members.find?_insert, if_neg hkey.symm, Members.find?_without,
    if_neg hkey]

/-- The keys of a success are those of its data and that of the flag. -/
theorem mem_keys_of_success (h : o.success = true) (key : String) :
    key ∈ o.members.map Prod.fst ↔ key = "success" ∨ key ∈ o.data.map Prod.fst := by
  rw [members_of_success h, Members.mem_keys_insert, Members.mem_keys_without]
  by_cases hkey : key = "success" <;> simp [hkey]

/-- But for the flag the members of a success are the data. -/
theorem without_members (h : o.success = true) :
    o.members.without "success" = o.data.without "success" := by
  rw [members_of_success h, Members.without_insert, Members.without_without]

/-- An envelope is sorted like the data that it shows. The members of a failure always are. -/
theorem sorted_members (h : o.success = true → o.data.Sorted) : o.members.Sorted := by
  cases hsuccess : o.success with
  | true =>
    rw [members_of_success hsuccess]
    exact ((h hsuccess).without "success").insert "success" (.bool true)
  | false =>
    rw [members_of_failure hsuccess]
    simp only [Members.Sorted, List.pairwise_cons, List.forall_mem_cons]
    exact ⟨⟨by decide, by decide, nofun⟩, ⟨by decide, nofun⟩, nofun, .nil⟩

/-- Envelopes are alike when the flags are equal and so is what they make of interest: the data of
successes, but for the key of the flag, or the errors of failures. -/
theorem alike_members_iff (same : Json → Json → Prop)
    (hbool : ∀ a b, same (.bool a) (.bool b) ↔ a = b)
    (herror : ∀ o p : Outcome, same o.shownError p.shownError ↔ o.error = p.error)
    (o p : Outcome) :
    Members.Alike same o.members p.members ↔
      o.success = p.success ∧
      (o.success = true →
        Members.Alike same (o.data.without "success") (p.data.without "success")) ∧
      (o.success = false → o.error = p.error ∧ o.recoverable = p.recoverable) := by
  constructor
  · intro h
    have hflag : o.success = p.success := (hbool _ _).1 (h.find? o.find?_success p.find?_success)
    refine ⟨hflag, fun hsuccess => ?_, fun hfailure => ?_⟩
    · have hdata := h.without "success"
      rwa [without_members hsuccess, without_members (hflag ▸ hsuccess)] at hdata
    · rw [members_of_failure hfailure, members_of_failure (hflag ▸ hfailure)] at h
      cases h with
      | cons hshown hrest =>
        cases hrest with
        | cons hrecoverable _ =>
          exact ⟨(herror o p).1 hshown.2, (hbool _ _).1 hrecoverable.2⟩
  · rintro ⟨hflag, hdata, hfail⟩
    cases hsuccess : o.success with
    | true =>
      rw [members_of_success hsuccess, members_of_success (hflag ▸ hsuccess)]
      exact (hdata hsuccess).insert "success" ((hbool _ _).2 rfl)
    | false =>
      obtain ⟨heq, hrecoverable⟩ := hfail hsuccess
      rw [members_of_failure hsuccess, members_of_failure (hflag ▸ hsuccess)]
      exact .cons ⟨rfl, (herror o p).2 heq⟩
        (.cons ⟨rfl, (hbool _ _).2 hrecoverable⟩ (.cons ⟨rfl, (hbool _ _).2 rfl⟩ .nil))

/-- Errors are shown as the same value only if they are the same, as no text is shown as null. -/
theorem shownError_eq_iff (o p : Outcome) : o.shownError = p.shownError ↔ o.error = p.error := by
  unfold shownError
  cases o.error <;> cases p.error <;> simp

/-- The test of equality tells errors apart as equality does, since none of them is shown as a
number. -/
theorem shownError_beq_iff (o p : Outcome) :
    (o.shownError == p.shownError) = true ↔ o.error = p.error := by
  unfold shownError
  cases o.error <;> cases p.error <;> simp [BEq.beq, Json.beq]

/-- When two envelopes are equal. This is likeness of their members up to equality. -/
theorem toJson_eq_iff (o p : Outcome) :
    o.toJson = p.toJson ↔
      o.success = p.success ∧
      (o.success = true → o.data.without "success" = p.data.without "success") ∧
      (o.success = false → o.error = p.error ∧ o.recoverable = p.recoverable) := by
  have hbool (a b : Bool) : Json.bool a = .bool b ↔ a = b := Json.bool.injEq a b ▸ Iff.rfl
  have halike := alike_members_iff Eq hbool shownError_eq_iff o p
  rw [Members.alike_eq_iff, Members.alike_eq_iff] at halike
  rw [← halike, toJson, toJson, Json.obj.injEq]

/-- When two envelopes pass the test of equality. This is likeness of their members up to that
test. -/
theorem toJson_beq_iff (o p : Outcome) :
    (o.toJson == p.toJson) = true ↔
      o.success = p.success ∧
      (o.success = true →
        (Json.obj (o.data.without "success") == .obj (p.data.without "success")) = true) ∧
      (o.success = false → o.error = p.error ∧ o.recoverable = p.recoverable) := by
  have hbool (a b : Bool) : (Json.bool a == Json.bool b) = true ↔ a = b := by
    simp [BEq.beq, Json.beq]
  have halike := alike_members_iff (fun v w => v == w) hbool shownError_beq_iff o p
  rw [Members.alike_beq_iff, Members.alike_beq_iff] at halike
  exact halike

/-! ## The text of an envelope -/

/-- An error is shown as a text or as null, either of which is read back as it is. -/
theorem exact_shownError (o : Outcome) : o.shownError.Exact ∧ o.shownError.depth = 0 := by
  unfold shownError
  cases o.error with
  | none => exact ⟨.null, rfl⟩
  | some text => exact ⟨.str text, rfl⟩

/-- An envelope can be read back if the data that it shows can. The object around them takes one of
the levels that a reader accepts. -/
theorem exact_toJson
    (h : o.success = true →
      o.data.Sorted ∧ ∀ m ∈ o.data, m.1 ≠ "success" → m.2.Exact ∧ m.2.depth ≤ 126) :
    o.toJson.Exact ∧ o.toJson.depth ≤ 127 := by
  have hvalues : ∀ m ∈ o.members, m.2.Exact ∧ m.2.depth ≤ 126 := by
    cases hsuccess : o.success with
    | true =>
      rw [members_of_success hsuccess]
      refine Members.forall_mem_insert ⟨.bool true, Nat.zero_le _⟩ fun m hm => ?_
      obtain ⟨hmem, hkey⟩ := Members.mem_without.1 hm
      exact (h hsuccess).2 m hmem hkey
    | false =>
      obtain ⟨hexact, hdepth⟩ := o.exact_shownError
      rw [members_of_failure hsuccess]
      simp only [List.forall_mem_cons]
      exact ⟨⟨hexact, hdepth ▸ Nat.zero_le _⟩, ⟨.bool _, Nat.zero_le _⟩, ⟨.bool _, Nat.zero_le _⟩,
        nofun⟩
  refine ⟨.obj (sorted_members fun hs => (h hs).1) fun m hm => (hvalues m hm).1, ?_⟩
  exact Nat.succ_le_succ (Json.depthMembers_le_iff.2 fun m hm => (hvalues m hm).2)

/-- Every layout that adds only blanks gives a text that is read back as the envelope. -/
theorem ofBytes_format (layout : JsonLayout) [Json.IsSpacing layout] (hexact : o.toJson.Exact)
    (hdepth : o.toJson.depth ≤ 127) :
    Json.ofBytes (utf8 (o.toJson.format layout 0)) = .ok o.toJson :=
  (Json.takes_readValue hexact Json.depthLimit 0).readWhole.1 hdepth

/-- The envelope of an outcome is an object with the flag of the outcome, also if the data have a
member of the same key. Of a success it shows the data beside the flag and nothing of the error, of
a failure the error, null if there is none, and whether a later attempt may succeed, and nothing of
the data. So the envelopes of two outcomes are equal exactly when their flags are and, after
successes, the data but for the key of the flag, or, after failures, the errors and what they say of
a later attempt; this holds of equality of values and of equality up to that of floating-point
numbers. Its texts in both layouts are read back as the envelope, unless it holds a floating-point
number or lies too deep. -/
theorem toJson_shows_outcome (o : Outcome) :
    (∃ envelope : Members, o.toJson = .obj envelope ∧
      (o.data.Sorted → envelope.Sorted) ∧
      envelope.find? "success" = some (.bool o.success) ∧
      (o.success = true →
        (∀ key, key ∈ envelope.map Prod.fst ↔ key = "success" ∨ key ∈ o.data.map Prod.fst) ∧
        (∀ key, key ≠ "success" → envelope.find? key = o.data.find? key) ∧
        ∀ error recoverable,
          Outcome.toJson { o with error := error, recoverable := recoverable } = o.toJson) ∧
      (o.success = false →
        envelope.map Prod.fst = ["error", "recoverable", "success"] ∧
        envelope.find? "error" = some (o.error.elim .null .str) ∧
        envelope.find? "recoverable" = some (.bool o.recoverable) ∧
        ∀ data, Outcome.toJson { o with data := data } = o.toJson)) ∧
    (∀ p : Outcome, o.toJson = p.toJson ↔
      o.success = p.success ∧
      (o.success = true → o.data.without "success" = p.data.without "success") ∧
      (o.success = false → o.error = p.error ∧ o.recoverable = p.recoverable)) ∧
    (∀ p : Outcome, (o.toJson == p.toJson) = true ↔
      o.success = p.success ∧
      (o.success = true →
        (Json.obj (o.data.without "success") == .obj (p.data.without "success")) = true) ∧
      (o.success = false → o.error = p.error ∧ o.recoverable = p.recoverable)) ∧
    (o.toJson.Exact → o.toJson.depth ≤ 127 →
      (∃ text, Payload.text (.outcome o) = .ok text ∧ Json.ofBytes (utf8 text) = .ok o.toJson) ∧
      Json.ofBytes (utf8Bytes o.toJson.indentedText) = .ok o.toJson) := by
  refine ⟨⟨o.members, rfl, fun h => sorted_members fun _ => h, o.find?_success, fun h => ?_,
    fun h => ?_⟩, o.toJson_eq_iff, o.toJson_beq_iff, fun hexact hdepth => ?_⟩
  · refine ⟨mem_keys_of_success h, fun key => find?_data h, fun error recoverable => ?_⟩
    refine (toJson_eq_iff _ _).2 ⟨rfl, fun _ => rfl, fun hfailure => ?_⟩
    cases h.symm.trans hfailure
  · have hsame (data : Members) : Outcome.toJson { o with data := data } = o.toJson := by
      refine (toJson_eq_iff _ _).2 ⟨rfl, fun hsuccess => ?_, fun _ => ⟨rfl, rfl⟩⟩
      cases h.symm.trans hsuccess
    rw [members_of_failure h]
    exact ⟨rfl, rfl, rfl, hsame⟩
  · refine ⟨⟨_, rfl, ofBytes_format .compact hexact hdepth⟩, ?_⟩
    rw [Json.indentedText, utf8Bytes_ofList]
    exact ofBytes_format .indented hexact hdepth

/-- The case of data with a member of the key of the flag. A success does not show it, and its error
does not matter; a failure shows none of the data. Both are read back from their indented text. -/
theorem toJson_shows_outcome_own_flag :
    let o : Outcome := ⟨true, [("items", .arr [.int 1, .null]), ("success", .bool false)],
      some "late", false⟩
    let p : Outcome := ⟨false, o.data, none, true⟩
    (o.toJson = .obj [("items", .arr [.int 1, .null]), ("success", .bool true)] ∧
      o.toJson = (succeed o.data).toJson ∧
      Json.ofBytes (utf8Bytes o.toJson.indentedText) = .ok o.toJson) ∧
    p.toJson = .obj [("error", .null), ("recoverable", .bool true), ("success", .bool false)] ∧
      p.toJson = Outcome.toJson ⟨false, [], none, true⟩ ∧
      Json.ofBytes (utf8Bytes p.toJson.indentedText) = .ok p.toJson := by
  intro o p
  have hitems : Json.Exact (.arr [.int 1, .null]) :=
    .arr (List.forall_mem_cons.2
      ⟨.int (by decide) (by decide), List.forall_mem_singleton.2 .null⟩)
  have hdata : ∀ m ∈ o.data, m.1 ≠ "success" → m.2.Exact ∧ m.2.depth ≤ 126 := by
    simp only [o, List.forall_mem_cons]
    exact ⟨fun _ => ⟨hitems, by decide⟩, fun h => absurd rfl h, nofun⟩
  obtain ⟨⟨_, -, -, -, hsuccess, -⟩, -, -, htext⟩ := o.toJson_shows_outcome
  obtain ⟨⟨_, -, -, -, -, hfailure⟩, -, -, htext'⟩ := p.toJson_shows_outcome
  obtain ⟨hexact, hdepth⟩ := exact_toJson (o := o) fun _ => ⟨by decide, hdata⟩
  obtain ⟨hexact', hdepth'⟩ := exact_toJson (o := p) nofun
  refine ⟨⟨by rfl, ((hsuccess rfl).2.2 none true).symm, (htext hexact hdepth).2⟩, by rfl, ?_, ?_⟩
  · exact ((hfailure rfl).2.2.2 []).symm
  · exact (htext' hexact' hdepth').2

end Outcome

end CommandChannel
