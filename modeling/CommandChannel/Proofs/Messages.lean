import CommandChannel.Proofs.Codec

/-!
# Messages read back

A command is read back as it was sent: parameters that are an empty object are left out, so that the
peer finds none. A reply is read as an object first, of which four members are looked up; those that
are absent were not written, and a null result is a member like any other.
-/

namespace CommandChannel

namespace Members

/-- What is found after a member has been inserted: its value under its key, and under other keys
what was found before. -/
theorem find?_insert (key k : String) (value : Json) (members : Members) :
    (insert k value members).find? key = if k = key then some value else members.find? key := by
  induction members with
  | nil => rfl
  | cons m members ih =>
    obtain ⟨l, v⟩ := m
    unfold insert
    split
    · rfl
    · split
      · rename_i heq
        subst heq
        simp only [find?]
        split <;> rfl
      · rename_i hne
        simp only [find?, ih]
        split
        · rename_i hkey
          rw [if_neg fun h => hne (h.trans hkey.symm)]
        · rfl

/-- What is found in members in a row is what is found in the first of them, or else in those
after. -/
theorem find?_append (key : String) (as bs : Members) :
    find? key (as ++ bs) = (find? key as).or (find? key bs) := by
  induction as with
  | nil => rfl
  | cons m as ih =>
    rw [List.cons_append, find?, find?]
    split
    · rfl
    · exact ih

/-- Nothing is found under a key that no member has. Members that are absent are found to be so. -/
theorem find?_eq_none {key : String} {members : Members} (h : key ∉ members.map Prod.fst) :
    find? key members = none := by
  induction members with
  | nil => rfl
  | cons m members ih =>
    rw [List.map_cons, List.mem_cons, not_or] at h
    rw [find?, if_neg fun heq => h.1 heq.symm, ih h.2]

/-- Members with different keys are found in whatever order they are inserted. So sorting an object
by its keys is of no consequence to its readers. -/
theorem find?_ofList {entries : List (String × Json)} (h : (entries.map Prod.fst).Nodup)
    (key : String) : (ofList entries).find? key = find? key entries := by
  induction entries using List.reverseRecOn with
  | nil => rfl
  | append_singleton entries m ih =>
    rw [List.map_append, List.nodup_append] at h
    obtain ⟨hentries, -, hlast⟩ := h
    have hinsert : ofList (entries ++ [m]) = insert m.1 m.2 (ofList entries) := by
      simp [ofList, List.foldl_append]
    rw [hinsert, find?_insert, ih hentries, find?_append]
    split
    · rename_i heq
      have hnone : find? key entries = none :=
        find?_eq_none fun hmem => hlast key hmem m.1 (List.mem_singleton_self _) heq.symm
      rw [hnone, find?, if_pos heq]
      rfl
    · rename_i hne
      rw [find?, if_neg hne, find?, Option.or_none]

end Members

namespace Json

/-- A text is read where a text is expected, and reading goes on behind its closing quote. -/
theorem readText_str (d : Nat) (s : String) (rest : List UInt8) :
    readText (utf8 ((str s).format .compact d) ++ rest) = .ok (s, rest) := by
  rw [utf8_format_str]
  exact readString_quoted s rest

/-- The compact layout breaks no lines, so that no blanks stand between the parts of a message. -/
theorem utf8_lineBreak_compact (d : Nat) : utf8 (JsonLayout.compact.lineBreak d) = [] := rfl

/-- The key of a member is read, and reading goes on at the colon behind it. -/
theorem readString_member (d : Nat) (m : String × Json) (rest : List UInt8) :
    readString (memberBytes .compact d m ++ rest) =
      .ok (m.1, Byte.colon :: (utf8 (m.2.format .compact d) ++ rest)) :=
  readString_memberBytes d m rest

/-- Where an object is expected, it is read like any value. Its depth must stay within what is left
of the limit. -/
theorem takes_readMembers {members : Members} (h : ∀ m ∈ members, m.2.Exact) (budget d : Nat) :
    Takes (readMembers budget) ((obj members).depth ≤ budget) (Members.ofList members)
      (utf8 ((obj members).format .compact d)) := by
  intro rest hrest
  rw [utf8_format_obj, List.cons_append]
  cases budget with
  | zero => exact .of_error rfl (Nat.not_succ_le_zero _)
  | succ budget =>
    refine OkIff.congr ?_ Nat.succ_le_succ_iff.symm
    exact takes_readObject (fun m hm => takes_readValue (h m hm) budget (d + 1)) rest hrest

end Json

namespace Command

open Json

/-- The command as its peer finds it: with the parameters that are sent. -/
def sent (c : Command) : Command := { c with params := c.sentParams }

/-- Parameters are read back, as long as they are not too deep. -/
theorem takes_readParams {params : Members} (h : (obj params).Exact) (budget d : Nat) :
    Takes (readParams budget) ((obj params).depth ≤ budget) (some params)
      (utf8 ((obj params).format .compact d)) := by
  intro rest hrest
  cases h with
  | obj hsorted hmembers =>
    have hread := takes_readMembers hmembers budget d rest hrest
    rw [Members.ofList_of_sorted hsorted] at hread
    rw [utf8_format_obj, List.cons_append] at hread ⊢
    exact hread.bind_ok rfl

/-- Reading the name of a command notes it down, and leaves what else was found as it is. -/
theorem readField_type (budget d : Nat) (name : String) (params : Option (Option Members))
    (rest : List UInt8) :
    readField budget ⟨none, params⟩ "type"
        (Byte.colon :: (utf8 ((str name).format .compact d) ++ rest)) =
      .ok (⟨some name, params⟩, rest) := by
  change (readText (utf8 ((str name).format .compact d) ++ rest) >>= fun r =>
    Except.ok ((⟨some r.1, params⟩ : Found), r.2)) = _
  rw [readText_str]
  rfl

/-- Reading the parameters of a command notes them down, if they are not too deep. -/
theorem okIff_readField_params {params : Members} (h : (obj params).Exact) (budget d : Nat)
    (name : Option String) {rest : List UInt8} (hrest : Closes rest) :
    OkIff ((obj params).depth ≤ budget) (⟨name, some (some params)⟩, rest)
      (readField budget ⟨name, none⟩ "params"
        (Byte.colon :: (utf8 ((obj params).format .compact d) ++ rest))) :=
  (takes_readParams h budget d rest hrest).bind_ok rfl

section Fields

variable {budget fuel d : Nat} {found found' : Found} {m : String × Json} {rest rest' : List UInt8}

/-- A field before the closing brace is the last one, and the command is made of what was found. -/
theorem readFields_closeBrace
    (h : readField budget found m.1 (Byte.colon :: (utf8 (m.2.format .compact d) ++ rest)) =
      .ok (found', Byte.closeBrace :: rest')) :
    readFields budget found (fuel + 1) (memberBytes .compact d m ++ rest) =
      ofFound found' rest' := by
  rw [readFields, readString_member]
  change (readField budget found m.1 _ >>= _) = _
  rw [h]
  rfl

/-- A field before a comma is followed by others, the next of which begins with a quote. -/
theorem readFields_comma
    (h : readField budget found m.1 (Byte.colon :: (utf8 (m.2.format .compact d) ++ rest)) =
      .ok (found', Byte.comma :: Byte.quote :: rest')) :
    readFields budget found (fuel + 1) (memberBytes .compact d m ++ rest) =
      readFields budget found' fuel rest' := by
  rw [readFields, readString_member]
  change (readField budget found m.1 _ >>= _) = _
  rw [h]
  rfl

/-- The fault of a field is the fault of the whole command. -/
theorem readFields_error {fault : JsonFault}
    (h : readField budget found m.1 (Byte.colon :: (utf8 (m.2.format .compact d) ++ rest)) =
      .error fault) :
    readFields budget found (fuel + 1) (memberBytes .compact d m ++ rest) = .error fault := by
  rw [readFields, readString_member]
  change (readField budget found m.1 _ >>= _) = _
  rw [h]
  rfl

end Fields

/-- The fields of a command end with its parameters, if they are not too deep. -/
theorem okIff_readFields_params {params : Members} (h : (obj params).Exact) (budget fuel d : Nat)
    (name : String) (rest : List UInt8) :
    OkIff ((obj params).depth ≤ budget) (⟨name, some params⟩, rest)
      (readFields budget ⟨some name, none⟩ (fuel + 1)
        (memberBytes .compact d ("params", .obj params) ++ Byte.closeBrace :: rest)) := by
  have hread := okIff_readField_params h budget d (some name) (closes_closeBrace rest)
  refine ⟨fun hle => ?_, fun hlt => ?_⟩
  · rw [readFields_closeBrace (hread.1 hle)]
    rfl
  · obtain ⟨fault, hfault⟩ := hread.2 hlt
    exact ⟨fault, readFields_error hfault⟩

/-- A command that begins with a key is read field by field, with one level of the limit taken by
the object itself. -/
theorem read_openBrace (budget : Nat) (rest : List UInt8) :
    read (budget + 1) (Byte.openBrace :: Byte.quote :: rest) =
      readFields budget ⟨none, none⟩ (rest.length + 1) rest := rfl

/-- A command is read back as it was sent, that is, without parameters if none were sent. The cases
are those of its fields: the name alone, or the name and the parameters. -/
theorem takes_read {c : Command} (h : ∀ m ∈ c.members, m.2.Exact) (budget d : Nat) :
    Takes (read budget) ((obj c.members).depth ≤ budget) c.sent
      (utf8 ((obj c.members).format .compact d)) := by
  intro rest hrest
  rw [utf8_format_obj, List.cons_append]
  cases budget with
  | zero => exact .of_error rfl (Nat.not_succ_le_zero _)
  | succ budget =>
    refine OkIff.congr (p := depthMembers c.members ≤ budget) ?_ Nat.succ_le_succ_iff.symm
    cases hsent : c.sentParams with
    | none =>
      have hmembers : c.members = [("type", .str c.name)] := by rw [members, hsent]
      have hresult : c.sent = ⟨c.name, none⟩ := by rw [sent, hsent]
      have hbytes : objectBytes .compact d c.members ++ rest =
          Byte.quote :: (memberBytes .compact (d + 1) ("type", .str c.name) ++
            Byte.closeBrace :: rest) := by
        rw [hmembers]
        simp [objectBytes, utf8_lineBreak_compact]
      rw [hbytes, hresult, read_openBrace,
        readFields_closeBrace (readField_type budget (d + 1) c.name none (Byte.closeBrace :: rest))]
      exact .of_ok rfl (hmembers ▸ Nat.zero_le _)
    | some params =>
      have hmembers : c.members = [("type", .str c.name), ("params", .obj params)] := by
        rw [members, hsent]
      have hresult : c.sent = ⟨c.name, some params⟩ := by rw [sent, hsent]
      have hparams : (obj params).Exact := by
        refine h ("params", .obj params) ?_
        rw [hmembers]
        exact List.mem_cons_of_mem _ (List.mem_singleton_self _)
      have hdepth : depthMembers c.members ≤ budget ↔ (obj params).depth ≤ budget := by
        rw [hmembers, depthMembers_le_iff]
        simp [depth]
      have hbytes : objectBytes .compact d c.members ++ rest =
          Byte.quote :: (memberBytes .compact (d + 1) ("type", .str c.name) ++ Byte.comma ::
            Byte.quote :: (memberBytes .compact (d + 1) ("params", .obj params) ++
              Byte.closeBrace :: rest)) := by
        rw [hmembers]
        simp [objectBytes, utf8_lineBreak_compact]
      refine OkIff.congr ?_ hdepth.symm
      rw [hbytes, hresult, read_openBrace,
        readFields_comma (readField_type budget (d + 1) c.name none
          (Byte.comma :: Byte.quote :: _))]
      -- a member takes more than one byte, so that rounds are left for the parameters
      obtain ⟨fuel, hfuel⟩ : ∃ fuel, (memberBytes .compact (d + 1) ("type", .str c.name) ++
          Byte.comma :: Byte.quote :: (memberBytes .compact (d + 1) ("params", .obj params) ++
            Byte.closeBrace :: rest)).length = fuel + 1 := by
        refine Nat.exists_eq_add_one.2 ?_
        simp
      rw [hfuel]
      exact okIff_readFields_params hparams budget fuel (d + 1) c.name rest

/-- Parameters are sent unless they are an empty object. In that case nothing is sent in their
place. -/
theorem sent_eq (c : Command) :
    (c.params = some [] → c.sent = ⟨c.name, none⟩) ∧ (c.params ≠ some [] → c.sent = c) := by
  obtain ⟨name, params⟩ := c
  match params with
  | none => exact ⟨nofun, fun _ => rfl⟩
  | some [] => exact ⟨fun _ => rfl, fun h => absurd rfl h⟩
  | some (m :: members) => exact ⟨nofun, fun _ => rfl⟩

/-- A command is sent as it is exactly if its parameters are not an empty object. -/
theorem sent_eq_self_iff (c : Command) : c.sent = c ↔ c.params ≠ some [] := by
  refine ⟨fun h hempty => ?_, c.sent_eq.2⟩
  have hparams := congrArg params (c.sent_eq.1 hempty)
  rw [h, hempty] at hparams
  cases hparams

/-- A command that was sent is sent as it is from then on. -/
theorem sent_sent (c : Command) : c.sent.sent = c.sent := by
  rw [sent_eq_self_iff]
  by_cases h : c.params = some []
  · rw [c.sent_eq.1 h]
    exact nofun
  · rwa [c.sent_eq.2 h]

/-- A command has the same members as what is sent of it, so that both have the same frame. -/
theorem members_sent (c : Command) : c.sent.members = c.members := by
  have h : c.sent.sentParams = c.sentParams := congrArg params c.sent_sent
  rw [members, members, h]
  rfl

/-- The member for the type of a command is its name. -/
theorem find?_type (c : Command) : c.members.find? "type" = some (.str c.name) := rfl

/-- Parameters are on their way exactly when there are some, and then as the object that they
are. -/
theorem find?_params (c : Command) (v : Json) :
    c.members.find? "params" = some v ↔
      ∃ params, c.params = some params ∧ params ≠ [] ∧ v = .obj params := by
  obtain ⟨name, params⟩ := c
  match params with
  | none => simp [members, sentParams, Members.find?]
  | some [] => simp [members, sentParams, Members.find?]
  | some (m :: params) => simp [members, sentParams, Members.find?, eq_comm]

/-- The members of a command have different keys. So none of them hides another one. -/
theorem nodup_members (c : Command) : (c.members.map Prod.fst).Nodup := by
  unfold members
  split <;> simp

end Command

namespace Response

/-- The members of a reply have different keys. So none of them hides another one. -/
theorem nodup_members (r : Response) : (r.members.map Prod.fst).Nodup := by
  obtain ⟨status, result, error, recoverable⟩ := r
  cases status <;> cases result <;> cases error <;> cases recoverable <;> simp [members]

/-- The object that is sent makes the reply that it was made from, with the same members absent. -/
theorem ofMembers_members (r : Response) : ofMembers r.members = r := by
  obtain ⟨status, result, error, recoverable⟩ := r
  cases status <;> cases result <;> cases error <;> cases recoverable <;>
    simp [ofMembers, members, Members.find?, shownText, Json.asBool?]

/-- The order in which the members are looked up does not matter. -/
theorem ofMembers_ofList (r : Response) : ofMembers (Members.ofList r.members) = r := by
  refine Eq.trans ?_ r.ofMembers_members
  simp only [ofMembers, Members.find?_ofList r.nodup_members]

/-- A reply is read back, as long as its object is not too deep. -/
theorem okIff_ofBytes {r : Response} (h : ∀ m ∈ r.members, m.2.Exact) :
    Json.OkIff ((Json.obj r.members).depth ≤ Json.depthLimit) r
      (ofBytes (utf8 ((Json.obj r.members).format .compact 0))) := by
  have hread := (Json.takes_readMembers h Json.depthLimit 0).readWhole
  have hmapped : Json.OkIff _ (ofMembers (Members.ofList r.members))
      (_ >>= fun members => Except.ok (ofMembers members)) := hread.bind_ok rfl
  rwa [r.ofMembers_ofList] at hmapped

end Response

/-- An object that can be sent and read back: without floating-point numbers, of at most 127 arrays
and objects within one another, itself included, and of a text within the limit. -/
structure Members.Portable (members : Members) : Prop where
  exact : ∀ m ∈ members, m.2.Exact
  depth_le : (Json.obj members).depth ≤ 127
  length_le : (utf8Bytes (Json.obj members).compactText).length ≤ Frame.sizeLimit

namespace Frame

/-- What is encoded of such an object is decoded by every reader that takes its text. -/
theorem decode_encode_of_portable {α : Type} {format : Format α} {payload : Payload}
    {members : Members} {a : α} (h : members.Portable)
    (htext : payload.text = .ok ((Json.obj members).format .compact 0))
    (hread : Json.OkIff ((Json.obj members).depth ≤ Json.depthLimit) a
      (format (utf8 ((Json.obj members).format .compact 0)))) :
    encode payload = .ok (ofBody (utf8 ((Json.obj members).format .compact 0))) ∧
      decode format (ofBody (utf8 ((Json.obj members).format .compact 0))) = .ok a := by
  refine decode_encode_of_okIff htext ?_ ?_ hread h.depth_le
  · rw [Json.utf8_format_obj]
    exact Nat.succ_pos _
  · have hle := h.length_le
    rwa [Json.compactText, utf8Bytes_ofList] at hle

/-- Messages survive the way over the wire. A command is read back as it was, but for parameters
that are an empty object, of which nothing is sent; so a command that was read back is read back as
it is from then on. A reply is read back as it was, whichever of its members are absent and whatever
its result is, and so is every reply that an object makes. -/
theorem decode_encode_message :
    (∀ c : Command, c.members.Portable →
      ∃ (frame : List UInt8) (wire : Members), encode (.command c) = .ok frame ∧
        decode Command.ofBytes frame = .ok c.sent ∧
        (c.params = some [] → c.sent = ⟨c.name, none⟩) ∧
        (c.sent = c ↔ c.params ≠ some []) ∧
        encode (.command c.sent) = .ok frame ∧ c.sent.sent = c.sent ∧
        decode Json.ofBytes frame = .ok (.obj wire) ∧
        wire.find? "type" = some (.str c.name) ∧
        ∀ v, wire.find? "params" = some v ↔
          ∃ params, c.params = some params ∧ params ≠ [] ∧ v = .obj params) ∧
    (∀ r : Response, r.members.Portable →
      ∃ frame, encode (.response r) = .ok frame ∧ decode Response.ofBytes frame = .ok r) ∧
    ∀ m : Members, (Response.ofMembers m).members.Portable →
      ∃ frame, encode (.response (.ofMembers m)) = .ok frame ∧
        decode Response.ofBytes frame = .ok (.ofMembers m) := by
  have hresponse (r : Response) (h : r.members.Portable) :
      ∃ frame, encode (.response r) = .ok frame ∧ decode Response.ofBytes frame = .ok r :=
    ⟨_, decode_encode_of_portable h rfl (Response.okIff_ofBytes h.exact)⟩
  refine ⟨fun c h => ?_, hresponse, fun m h => hresponse _ h⟩
  obtain ⟨hencode, hcommand⟩ :
      encode (.command c) = .ok (ofBody (utf8 ((Json.obj c.members).format .compact 0))) ∧
        decode Command.ofBytes _ = .ok c.sent :=
    decode_encode_of_portable h rfl (Command.takes_read h.exact Json.depthLimit 0).readWhole
  obtain ⟨-, hwire⟩ : encode (.command c) = .ok _ ∧
        decode Json.ofBytes _ = .ok (.obj (Members.ofList c.members)) :=
    decode_encode_of_portable h rfl (Json.takes_readValue_obj
      (fun m hm budget => Json.takes_readValue (h.exact m hm) budget 1) Json.depthLimit).readWhole
  have hsent : encode (.command c.sent) = encode (.command c) := by
    rw [encode, encode, Payload.text, Payload.text, c.members_sent]
  refine ⟨_, _, hencode, hcommand, c.sent_eq.1, c.sent_eq_self_iff, hsent.trans hencode,
    c.sent_sent, hwire, ?_, fun v => ?_⟩
  · rw [Members.find?_ofList c.nodup_members, c.find?_type]
  · rw [Members.find?_ofList c.nodup_members, c.find?_params]

/-- The case of messages with nothing or with null in them. Empty parameters are not sent, others
are read back with a null among them; a result that is null is kept apart from none, and a reply
made of an object keeps an error that is no text as the text of it. -/
theorem decode_encode_message_nulls :
    (∃ frame, encode (.command ⟨"run", some []⟩) = .ok frame ∧
      decode Command.ofBytes frame = .ok ⟨"run", none⟩) ∧
    (∃ frame, encode (.command ⟨"run", some [("on", .arr [.null, .int (-1)])]⟩) = .ok frame ∧
      decode Command.ofBytes frame = .ok ⟨"run", some [("on", .arr [.null, .int (-1)])]⟩) ∧
    (∃ frame, encode (.response ⟨some "success", some .null, none, none⟩) = .ok frame ∧
      decode Response.ofBytes frame = .ok ⟨some "success", some .null, none, none⟩) ∧
    ∃ frame, encode (.response (.ofMembers [("error", .int 5), ("status", .null)])) = .ok frame ∧
      decode Response.ofBytes frame = .ok ⟨none, none, some "5", none⟩ := by
  obtain ⟨hcommand, hresponse, hmade⟩ := decode_encode_message
  refine ⟨?_, ?_, ?_, ?_⟩
  · have h : Members.Portable (Command.members ⟨"run", some []⟩) := by
      refine ⟨List.forall_mem_singleton.2 (.str "run"), by decide, by decide⟩
    obtain ⟨frame, -, hencode, hdecode, -⟩ := hcommand _ h
    exact ⟨frame, hencode, hdecode⟩
  · have hparams : ∀ m ∈ [("on", Json.arr [.null, .int (-1)])], m.2.Exact := by
      refine List.forall_mem_singleton.2 (.arr (List.forall_mem_cons.2 ⟨.null, ?_⟩))
      exact List.forall_mem_singleton.2 (.int (by decide) (by decide))
    have h : Members.Portable
        (Command.members ⟨"run", some [("on", .arr [.null, .int (-1)])]⟩) := by
      refine ⟨List.forall_mem_cons.2 ⟨.str "run", ?_⟩, by decide, by decide⟩
      exact List.forall_mem_singleton.2 (.obj (List.pairwise_singleton _ _) hparams)
    obtain ⟨frame, -, hencode, hdecode, -⟩ := hcommand _ h
    exact ⟨frame, hencode, hdecode⟩
  · have h : Members.Portable (Response.members ⟨some "success", some .null, none, none⟩) := by
      refine ⟨List.forall_mem_cons.2 ⟨.str "success", ?_⟩, by decide, by decide⟩
      exact List.forall_mem_singleton.2 .null
    exact hresponse _ h
  · have h : Members.Portable
        (Response.ofMembers [("error", .int 5), ("status", .null)]).members := by
      refine ⟨List.forall_mem_singleton.2 (.str _), by decide, by decide⟩
    exact hmade _ h

end Frame

end CommandChannel
