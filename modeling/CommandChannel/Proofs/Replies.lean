import CommandChannel.Message.Response
import CommandChannel.Proofs.Values

/-!
# What replies mean

A reply may be any object, and its members may be of any type. Four of them decide on the outcome
of the command, each with a default of its own. Whether the reply reports a success depends on the
text of its status, and no value but a text is written like one.
-/

namespace CommandChannel

/-- A value may begin with the character: it is a digit, a minus sign, a quote, an opening bracket
or the first letter of a word. -/
def opensValue (c : Char) : Bool :=
  c.isDigit || ['-', '"', '[', '\x7b', 'n', 't', 'f'].contains c

/-- The digits of numbers may begin a value, each of the ten. -/
theorem opensValue_digitChar : ∀ n < 10, opensValue (Nat.digitChar n) = true := by decide

/-- The text begins like that of a value. -/
def Opens (cs : List Char) : Prop := ∃ c rest, cs = c :: rest ∧ opensValue c = true

/-- A text that begins with such a character begins like a value. -/
theorem opens_cons {c : Char} (h : opensValue c = true) (rest : List Char) : Opens (c :: rest) :=
  ⟨c, rest, rfl, h⟩

/-- What follows a text does not change how it begins, as the text is not empty. -/
theorem Opens.append {cs : List Char} (h : Opens cs) (rest : List Char) : Opens (cs ++ rest) := by
  obtain ⟨c, cs', rfl, hc⟩ := h
  exact opens_cons hc (cs' ++ rest)

/-- The beginning of a text begins as the text does, unless it is empty. -/
theorem Opens.take {cs : List Char} (h : Opens cs) {n : Nat} (hn : 0 < n) : Opens (cs.take n) := by
  obtain ⟨c, rest, rfl, hc⟩ := h
  obtain ⟨k, rfl⟩ := Nat.exists_eq_succ_of_ne_zero (Nat.ne_of_gt hn)
  exact opens_cons hc (rest.take k)

/-- The digits of a number begin like a value, as there is at least one of them. -/
theorem opens_decimalDigits (n : Nat) : Opens (decimalDigits n) := by
  obtain ⟨d, cs, hd, heq⟩ := Json.exists_decimalDigits_eq_cons n
  rw [heq]
  exact opens_cons (opensValue_digitChar d hd) cs

/-- An integer begins like a value, with a digit or a minus sign. -/
theorem opens_integerDigits (n : Int) : Opens (integerDigits n) := by
  unfold integerDigits
  split
  · exact opens_cons (by decide) _
  · exact opens_decimalDigits n.natAbs

namespace Decimal

/-- A decimal in positional form begins with a digit, be it before or after the point. -/
theorem opens_positional (mark : List Char) (d : Decimal) : Opens (d.positional mark) := by
  have hdigits := opens_decimalDigits d.digits
  unfold positional
  simp only
  split
  · exact (hdigits.append _).append _
  · split
    · exact (hdigits.take (by omega)).append _
    · exact opens_cons (by decide) _

/-- A decimal in scientific form begins with a digit, before its point and its exponent. -/
theorem opens_scientific (d : Decimal) : Opens d.scientific := by
  obtain ⟨c, cs, heq, hc⟩ := opens_decimalDigits d.digits
  unfold scientific
  rw [heq]
  cases cs <;> exact opens_cons hc _

/-- A decimal begins with a digit, in whatever form it is written. -/
theorem opens_format (style : DecimalStyle) (d : Decimal) : Opens (d.format style) := by
  unfold format
  split
  · exact d.opens_positional style.wholeMark
  · exact d.opens_scientific

end Decimal

/-- A floating-point number begins with a digit, after its sign, whichever number it is. Values that
are not numbers are written as null. -/
theorem opens_formatFloat (style : DecimalStyle) (x : Float) : Opens (formatFloat style x) := by
  unfold formatFloat
  simp only
  split
  · split
    · exact opens_cons (by decide) _
    · exact Decimal.opens_format style _
  · exact opens_cons (by decide) _

namespace Json

/-- The text of a value begins like one in every layout. What is written as a word is null, true or
false. -/
theorem opens_format (layout : JsonLayout) (depth : Nat) (v : Json) :
    Opens (v.format layout depth) := by
  cases v with
  | null => exact opens_cons (by decide) _
  | bool b => cases b <;> exact opens_cons (by decide) _
  | int n => exact opens_integerDigits n
  | float x => exact opens_formatFloat .json x
  | str s => exact opens_cons (by decide) _
  | arr items => cases items <;> exact opens_cons (by decide) _
  | obj members => cases members <;> exact opens_cons (by decide) _

/-- No value is written without quotes like the status of a success. So only a text can be taken for
it. -/
theorem compactText_ne_successStatus (v : Json) : v.compactText ≠ Response.successStatus := by
  intro h
  obtain ⟨c, rest, heq, hc⟩ := v.opens_format .compact 0
  rw [compactText, heq] at h
  have hlist : c :: rest = Response.successStatus.toList := by rw [← h, String.toList_ofList]
  have hs : c = 's' := (List.cons.inj hlist).1
  rw [hs] at hc
  revert hc
  decide

end Json

/-- An object gives no value to a key, or null. -/
def Members.Lacks (key : String) (m : Members) : Prop :=
  m.find? key = none ∨ m.find? key = some .null

namespace Response

/-- The keys of a reply that matter. -/
def keys : List String := ["status", "result", "error", "recoverable"]

/-- The outcome of a reply that reports a success. -/
structure Grants (m : Members) (o : Outcome) : Prop where
  /-- A success has no error. -/
  error_eq : o.error = none
  /-- An object as the result is the data. -/
  of_object : ∀ r, m.find? "result" = some (.obj r) → o.data = r
  /-- Without a result there are no data. -/
  of_lacks : m.Lacks "result" → o.data = []
  /-- Any other result is the only member of the data. -/
  of_other : ∀ v, m.find? "result" = some v → v ≠ .null → (∀ r, v ≠ .obj r) →
    o.data = [("result", v)]

/-- The outcome of a reply that reports no success. -/
structure Denies (m : Members) (o : Outcome) : Prop where
  /-- A failure has no data. -/
  data_eq : o.data = []
  /-- A text as the error is taken as it is. -/
  error_of_text : ∀ text, m.find? "error" = some (.str text) → o.error = some text
  /-- Without an error a standard one is given. -/
  error_of_lacks : m.Lacks "error" → o.error = some "Unknown error"
  /-- Any other error is shown as it is written in JSON. -/
  error_of_other : ∀ v, m.find? "error" = some v → v ≠ .null → (∀ text, v ≠ .str text) →
    o.error = some v.compactText
  /-- What the peer says about recovery is kept. -/
  recoverable_of_bool : ∀ b, m.find? "recoverable" = some (.bool b) → o.recoverable = b
  /-- Where it says nothing, recovery is possible. -/
  recoverable_of_other : (∀ b, m.find? "recoverable" ≠ some (.bool b)) → o.recoverable = true

/-- A value that is neither null nor a text is shown as it is written in JSON. -/
theorem shownText_of_other {v : Json} (hnull : v ≠ .null) (hstr : ∀ text, v ≠ .str text) :
    shownText v = some v.compactText := by
  cases v with
  | null => exact absurd rfl hnull
  | str text => exact absurd rfl (hstr text)
  | bool | int | float | arr | obj => rfl

/-- Only the text itself is shown as the status of a success. -/
theorem shownText_eq_successStatus {v : Json} :
    shownText v = some successStatus ↔ v = .str successStatus := by
  refine ⟨fun h => ?_, fun h => by rw [h]; rfl⟩
  by_cases hnull : v = .null
  · rw [hnull] at h
    cases h
  · by_cases hstr : ∃ text, v = .str text
    · obtain ⟨text, rfl⟩ := hstr
      rw [Option.some.inj h]
    · have hshown := shownText_of_other hnull fun text heq => hstr ⟨text, heq⟩
      exact absurd (Option.some.inj (hshown.symm.trans h)) v.compactText_ne_successStatus

/-- The reply of an object reports a success exactly if the status of the object is the text that
says so. -/
theorem isSuccess_ofMembers (m : Members) :
    (ofMembers m).isSuccess = true ↔ m.find? "status" = some (.str "success") := by
  rw [isSuccess, beq_iff_eq, ofMembers]
  simp only [Option.bind_eq_some_iff, shownText_eq_successStatus, exists_eq_right]
  rfl

/-- A success has for its data the result of the object, or an object that holds it. -/
theorem grants_data (m : Members) : Grants m (.succeed (ofMembers m).data) where
  error_eq := rfl
  of_object r h := by
    rw [ofMembers, h]
    rfl
  of_lacks h := by
    rcases h with h | h <;>
    · rw [ofMembers, h]
      rfl
  of_other v h hnull hobj := by
    rw [ofMembers, h]
    cases v with
    | null => exact absurd rfl hnull
    | obj r => exact absurd rfl (hobj r)
    | bool | int | float | str | arr => rfl

/-- A failure has for its error the one of the object, or the default, and may be tried again unless
the object says otherwise. -/
theorem denies_fail (m : Members) :
    Denies m (.fail ((ofMembers m).error.getD unknownError)
      ((ofMembers m).recoverable.getD true)) where
  data_eq := rfl
  error_of_text text h := by
    rw [ofMembers, h]
    rfl
  error_of_lacks h := by
    rcases h with h | h <;>
    · rw [ofMembers, h]
      rfl
  error_of_other v h hnull hstr := by
    rw [ofMembers, h]
    change some (((shownText v).getD unknownError)) = _
    rw [shownText_of_other hnull hstr]
    rfl
  recoverable_of_bool b h := by
    rw [ofMembers, h]
    rfl
  recoverable_of_other h := by
    rw [ofMembers]
    cases hfind : m.find? "recoverable" with
    | none => rfl
    | some v =>
      cases v with
      | bool b => exact absurd hfind (h b)
      | null | int | float | str | arr | obj => rfl

/-- Objects that agree on the keys that matter make the same reply, so that no other key has any
influence. -/
theorem ofMembers_congr {m m' : Members} (h : ∀ key ∈ keys, m'.find? key = m.find? key) :
    ofMembers m' = ofMembers m := by
  have hkeys : m'.find? "status" = m.find? "status" ∧ m'.find? "result" = m.find? "result" ∧
      m'.find? "error" = m.find? "error" ∧ m'.find? "recoverable" = m.find? "recoverable" := by
    simpa [keys] using h
  obtain ⟨hstatus, hresult, herror, hrecoverable⟩ := hkeys
  unfold ofMembers
  rw [hstatus, hresult, herror, hrecoverable]

/-- Any object makes a reply. The reply reports a success exactly if its status is the text that
says so; no other value is taken for it. What it reports then is its result, or what holds it.
Otherwise it reports its error, with a default, and that a later attempt may succeed unless it says
otherwise. No other key has any influence. -/
theorem toOutcome_success_iff_status (m : Members) :
    let o := (ofMembers m).toOutcome
    (o.success = true ↔ m.find? "status" = some (.str "success")) ∧
      (o.success = true → Grants m o) ∧ (o.success = false → Denies m o) ∧
      ∀ m' : Members, (∀ key ∈ keys, m'.find? key = m.find? key) →
        (ofMembers m').toOutcome = o := by
  intro o
  have hindependent (m' : Members) (h : ∀ key ∈ keys, m'.find? key = m.find? key) :
      (ofMembers m').toOutcome = o := congrArg toOutcome (ofMembers_congr h)
  rw [← isSuccess_ofMembers]
  cases hstatus : (ofMembers m).isSuccess with
  | true =>
    have ho : o = .succeed (ofMembers m).data := if_pos hstatus
    rw [ho]
    exact ⟨Iff.rfl, fun _ => grants_data m, nofun, ho ▸ hindependent⟩
  | false =>
    have ho : o = .fail ((ofMembers m).error.getD unknownError)
        ((ofMembers m).recoverable.getD true) := if_neg (by rw [hstatus]; nofun)
    rw [ho]
    exact ⟨Iff.rfl, nofun, fun _ => denies_fail m, ho ▸ hindependent⟩

end Response

end CommandChannel
