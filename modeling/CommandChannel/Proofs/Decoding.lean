import CommandChannel.Proofs.Receipts

/-!
# Frames given as a whole

Bytes that are given as a whole and bytes that arrive from a stream are checked in a different
order, and yet by the same law: they hold a frame exactly if a reader finds it and nothing is left
behind it. Where they hold none, both agree on a header that is not accepted and on a body that
cannot be parsed. Bytes that are too few or too many for their header are malformed; a reader waits
in vain for those that are missing, and takes no notice of those that follow.
-/

namespace CommandChannel

namespace Frame

variable {α : Type} {format : Format α} {bytes : List UInt8} {s : Inbound}

/-- What a blocking reader reports of bytes behind which the stream ends, and what it leaves of
them. -/
def readFrom (format : Format α) (bytes : List UInt8) :
    Except ChannelError (α × Nat) × List UInt8 :=
  let rest := bytes.drop headerSize
  if bytes.length < headerSize then
    (.error (.lost "peer closed the connection"), [])
  else
    match bodyLength (bytes.take headerSize) with
    | .error e => (.error e, rest)
    | .ok length =>
      if rest.length < length then
        (.error (.lost "peer closed the connection"), [])
      else
        ((parse format (rest.take length)).map fun v => (v, headerSize + length), rest.drop length)

/-- However the bytes are cut, a reader reports and leaves the same. So what a reader makes of a
stream may be computed from its bytes alone. -/
theorem read_of_delivers_cases (format : Format α) (h : s.Delivers bytes) :
    ∃ t, read .blocking format s = ((readFrom format bytes).1, t) ∧
      t.Delivers (readFrom format bytes).2 := by
  obtain ⟨hheader, hended⟩ := h.fill headerSize
  unfold readFrom
  dsimp only
  split
  · rename_i hshort
    obtain ⟨t, hfill, ht⟩ := hended hshort
    exact ⟨t, by rw [read, readBody, readExactly, hfill]; rfl, ht⟩
  · rename_i hlong
    obtain ⟨t, hfill, ht⟩ := hheader (Nat.le_of_not_lt hlong)
    cases hlength : bodyLength (bytes.take headerSize) with
    | error e => exact ⟨t, read_of_refused format hfill hlength, ht⟩
    | ok length =>
      have hread : readBody .blocking s = readExactly .blocking length headerSize t :=
        readBody_of_accepted hfill hlength
      obtain ⟨hbody, hended⟩ := ht.fill length
      dsimp only
      by_cases hshort : (bytes.drop headerSize).length < length
      · obtain ⟨u, hfill, hu⟩ := hended hshort
        rw [if_pos hshort]
        exact ⟨u, by rw [read, hread, readExactly, hfill]; rfl, hu⟩
      · obtain ⟨u, hfill, hu⟩ := hbody (Nat.le_of_not_lt hshort)
        rw [if_neg hshort]
        refine ⟨u, ?_, hu⟩
        rw [read, hread, readExactly, hfill]
        dsimp only
        rw [List.length_take_of_le (Nat.le_of_not_lt hshort)]

section

variable {length : Nat} {e : ChannelError}

/-- Bytes that end within the header are taken for a lost connection, and all of them are used
up. -/
theorem readFrom_of_short (hshort : bytes.length < headerSize) :
    readFrom format bytes = (.error (.lost "peer closed the connection"), []) :=
  if_pos hshort

/-- A header that is not accepted is reported as what it is, and the reader leaves what follows
it. -/
theorem readFrom_of_header_error (hlong : headerSize ≤ bytes.length)
    (he : bodyLength (bytes.take headerSize) = .error e) :
    readFrom format bytes = (.error e, bytes.drop headerSize) := by
  unfold readFrom
  dsimp only
  rw [if_neg (Nat.not_lt.2 hlong), he]

/-- Bytes that end within the body are taken for a lost connection, and all of them are used up. -/
theorem readFrom_of_missing (hlong : headerSize ≤ bytes.length)
    (hlength : bodyLength (bytes.take headerSize) = .ok length)
    (hmissing : bytes.length < headerSize + length) :
    readFrom format bytes = (.error (.lost "peer closed the connection"), []) := by
  have hrest : (bytes.drop headerSize).length < length := by
    rw [List.length_drop]
    omega
  unfold readFrom
  dsimp only
  rw [if_neg (Nat.not_lt.2 hlong), hlength]
  exact if_pos hrest

/-- Of bytes that hold the whole body the reader parses just the body, and leaves what follows
it. -/
theorem readFrom_of_enough (hlength : bodyLength (bytes.take headerSize) = .ok length)
    (henough : headerSize + length ≤ bytes.length) :
    readFrom format bytes =
      ((parse format ((bytes.drop headerSize).take length)).map fun v => (v, headerSize + length),
        (bytes.drop headerSize).drop length) := by
  have hlong : ¬ bytes.length < headerSize := by omega
  have hrest : ¬ (bytes.drop headerSize).length < length := by
    rw [List.length_drop]
    omega
  unfold readFrom
  dsimp only
  rw [if_neg hlong, hlength]
  exact if_neg hrest

/-- Bytes that end within the header are malformed as a whole. -/
theorem decode_of_short (format : Format α) (hshort : bytes.length < headerSize) :
    ∃ reason, decode format bytes = .error (.malformed reason) := by
  rw [decode, if_pos hshort]
  exact ⟨_, rfl⟩

/-- A header that is not accepted is reported as what it is, and this before the number of bytes
behind it is looked at. -/
theorem decode_of_header_error (format : Format α) (hlong : headerSize ≤ bytes.length)
    (he : bodyLength (bytes.take headerSize) = .error e) :
    decode format bytes = .error e := by
  rw [decode, if_neg (Nat.not_lt.2 hlong), he]
  rfl

/-- Bytes that are exactly as long as announced are parsed from the header on. -/
theorem decode_of_length_eq (format : Format α)
    (hlength : bodyLength (bytes.take headerSize) = .ok length)
    (heq : bytes.length = headerSize + length) :
    decode format bytes = parse format (bytes.drop headerSize) := by
  have hlong : ¬ bytes.length < headerSize := by omega
  have hrest : (bytes.drop headerSize).length = length := by
    rw [List.length_drop]
    omega
  rw [decode, if_neg hlong, hlength]
  exact if_pos hrest

/-- Bytes that are shorter or longer than announced are malformed, whatever they hold. -/
theorem decode_of_length_ne (format : Format α) (hlong : headerSize ≤ bytes.length)
    (hlength : bodyLength (bytes.take headerSize) = .ok length)
    (hne : bytes.length ≠ headerSize + length) :
    ∃ reason, decode format bytes = .error (.malformed reason) := by
  have hrest : (bytes.drop headerSize).length ≠ length := by
    rw [List.length_drop]
    omega
  rw [decode, if_neg (Nat.not_lt.2 hlong), hlength]
  exact ⟨_, if_neg hrest⟩

end

/-- Of bytes that are exactly a frame the reader sees the same body. The size it reports is that of
all the bytes. -/
theorem readFrom_of_length_eq {length : Nat}
    (hlength : bodyLength (bytes.take headerSize) = .ok length)
    (heq : bytes.length = headerSize + length) :
    (readFrom format bytes).1 = (decode format bytes).map fun v => (v, bytes.length) := by
  have hrest : (bytes.drop headerSize).length = length := by
    rw [List.length_drop]
    omega
  rw [readFrom_of_enough hlength heq.ge, decode_of_length_eq format hlength heq, heq,
    List.take_of_length_le hrest.le]

/-- What is left behind a frame are the bytes beyond its size, so that the next frame begins where
this one ends. -/
theorem readFrom_rest {v : α} {size : Nat} (h : (readFrom format bytes).1 = .ok (v, size)) :
    (readFrom format bytes).2 = bytes.drop size := by
  by_cases hshort : bytes.length < headerSize
  · rw [readFrom_of_short hshort] at h
    cases h
  have hlong := Nat.le_of_not_lt hshort
  cases hlength : bodyLength (bytes.take headerSize) with
  | error e =>
    rw [readFrom_of_header_error hlong hlength] at h
    cases h
  | ok length =>
    by_cases hmissing : bytes.length < headerSize + length
    · rw [readFrom_of_missing hlong hlength hmissing] at h
      cases h
    · rw [readFrom_of_enough hlength (Nat.le_of_not_lt hmissing)] at h ⊢
      have hsize : size = headerSize + length := by
        rcases whole_cases format ((bytes.drop headerSize).take length) (headerSize + length) with
          ⟨w, hw⟩ | ⟨fault, -, hfault⟩
        · rw [hw] at h
          cases h
          rfl
        · rw [hfault] at h
          cases h
      rw [List.drop_drop, hsize]

/-- Bytes behind the announced length do not count: two streams that agree up to there are read to
the same result. -/
theorem readFrom_congr {bytes' : List UInt8} {length : Nat}
    (hlength : bodyLength (bytes.take headerSize) = .ok length)
    (henough : headerSize + length ≤ bytes.length)
    (hsame : bytes'.take (headerSize + length) = bytes.take (headerSize + length)) :
    (readFrom format bytes').1 = (readFrom format bytes).1 := by
  have henough' : headerSize + length ≤ bytes'.length := by
    have hcount := congrArg List.length hsame
    rw [List.length_take, List.length_take] at hcount
    omega
  have hheader : bytes'.take headerSize = bytes.take headerSize := by
    have htake := congrArg (List.take headerSize) hsame
    rwa [List.take_take, List.take_take, Nat.min_eq_left (Nat.le_add_right _ _)] at htake
  have hbody : (bytes'.drop headerSize).take length = (bytes.drop headerSize).take length := by
    have hdrop := congrArg (List.drop headerSize) hsame
    rwa [List.drop_take, List.drop_take, Nat.add_sub_cancel_left] at hdrop
  rw [readFrom_of_enough hlength henough, readFrom_of_enough (by rw [hheader, hlength]) henough',
    hbody]

/-- Bytes are decoded to a value exactly if a reader gets this value from all of them. If any are
left over, the size that the reader reports falls short of them. -/
theorem decode_eq_ok_iff (format : Format α) (bytes : List UInt8) (v : α) :
    decode format bytes = .ok v ↔ (readFrom format bytes).1 = .ok (v, bytes.length) := by
  by_cases hshort : bytes.length < headerSize
  · obtain ⟨reason, hdecode⟩ := decode_of_short format hshort
    rw [hdecode, readFrom_of_short hshort]
    simp
  have hlong := Nat.le_of_not_lt hshort
  cases hlength : bodyLength (bytes.take headerSize) with
  | error e =>
    rw [decode_of_header_error format hlong hlength, readFrom_of_header_error hlong hlength]
    simp
  | ok length =>
    rcases Nat.lt_trichotomy bytes.length (headerSize + length) with hlt | heq | hgt
    · obtain ⟨reason, hdecode⟩ := decode_of_length_ne format hlong hlength hlt.ne
      rw [hdecode, readFrom_of_missing hlong hlength hlt]
      simp
    · rw [readFrom_of_length_eq hlength heq]
      cases decode format bytes <;> simp [Except.map]
    · obtain ⟨reason, hdecode⟩ := decode_of_length_ne format hlong hlength hgt.ne'
      rw [hdecode, readFrom_of_enough hlength hgt.le]
      rcases whole_cases format ((bytes.drop headerSize).take length) (headerSize + length) with
        ⟨w, hw⟩ | ⟨fault, -, hfault⟩
      · rw [hw]
        simp [hgt.ne]
      · rw [hfault]
        simp

/-- Bytes given as a whole are decoded to a value exactly if a reader that gets them and then the
end of the stream reads this value and nothing is left, however they are cut. A header that is not
accepted and a body that cannot be parsed are reported alike to both. Bytes that are missing make
the whole malformed, while the reader finds the stream at its end; bytes beyond the announced length
make the whole malformed, while the reader takes no notice of them. -/
theorem decode_agrees (format : Format α) (h : s.Delivers bytes) :
    let length := headerValue (bytes.take 4)
    let result := (read .blocking format s).1
    (∀ v, decode format bytes = .ok v ↔ result = .ok (v, bytes.length)) ∧
    (∀ v, result = .ok (v, bytes.length) → (read .blocking format s).2.Delivers []) ∧
    (4 ≤ bytes.length → length = 0 →
      decode format bytes = .error (.malformed "empty frame") ∧
        result = .error (.malformed "empty frame")) ∧
    (4 ≤ bytes.length → sizeLimit < length →
      decode format bytes = .error (.oversized length sizeLimit) ∧
        result = .error (.oversized length sizeLimit)) ∧
    (∀ fault, 0 < length → length ≤ sizeLimit → bytes.length = 4 + length →
      format (bytes.drop 4) = .error fault →
      let e := .malformed ("invalid JSON: " ++ fault.report (bytes.drop 4))
      decode format bytes = .error e ∧ result = .error e) ∧
    (bytes.length < 4 ∨ (0 < length ∧ length ≤ sizeLimit ∧ bytes.length < 4 + length) →
      (∃ reason, decode format bytes = .error (.malformed reason)) ∧
        ∃ reason, result = .error (.lost reason)) ∧
    (0 < length → length ≤ sizeLimit → 4 + length < bytes.length →
      (∃ reason, decode format bytes = .error (.malformed reason)) ∧
        ∀ (bytes' : List UInt8) (s' : Inbound), s'.Delivers bytes' →
          bytes'.take (4 + length) = bytes.take (4 + length) →
          (read .blocking format s').1 = result) := by
  intro length result
  obtain ⟨t, hread, ht⟩ := read_of_delivers_cases format h
  have hresult : result = (readFrom format bytes).1 := congrArg Prod.fst hread
  have hrest : (read .blocking format s).2 = t := congrArg Prod.snd hread
  have hlength := bodyLength_cases (bytes.take headerSize)
  have haccepted (hpos : 0 < length) (hle : length ≤ sizeLimit) :
      bodyLength (bytes.take headerSize) = .ok length := by
    rcases hlength with ⟨hzero, -⟩ | ⟨hlarge, -⟩ | ⟨-, -, hok⟩
    · exact absurd hzero hpos.ne'
    · exact absurd hlarge (Nat.not_lt.2 hle)
    · exact hok
  have hrefused {e : ChannelError} (hlong : headerSize ≤ bytes.length)
      (he : bodyLength (bytes.take headerSize) = .error e) :
      decode format bytes = .error e ∧ result = .error e := by
    rw [hresult, readFrom_of_header_error hlong he]
    exact ⟨decode_of_header_error format hlong he, rfl⟩
  refine ⟨?_, ?_, ?_, ?_, ?_, ?_, ?_⟩
  · intro v
    rw [hresult]
    exact decode_eq_ok_iff format bytes v
  · intro v hv
    rw [hresult] at hv
    rw [readFrom_rest hv, List.drop_length] at ht
    rwa [hrest]
  · intro hlong hzero
    exact hrefused hlong (if_pos hzero)
  · intro hlong hlarge
    have hne : headerValue (bytes.take headerSize) ≠ 0 := (Nat.zero_le _).trans_lt hlarge |>.ne'
    exact hrefused hlong ((if_neg hne).trans (if_pos hlarge))
  · intro fault hpos hle heq hfault e
    have hdecode := decode_of_length_eq format (haccepted hpos hle) heq
    have hparse : parse format (bytes.drop headerSize) = .error e := by
      rw [parse, show format (bytes.drop headerSize) = .error fault from hfault]
      rfl
    rw [hresult, readFrom_of_length_eq (haccepted hpos hle) heq, hdecode, hparse]
    exact ⟨rfl, rfl⟩
  · rintro (hshort | ⟨hpos, hle, hmissing⟩)
    · rw [hresult, readFrom_of_short hshort]
      exact ⟨decode_of_short format hshort, _, rfl⟩
    · by_cases hshort : bytes.length < headerSize
      · rw [hresult, readFrom_of_short hshort]
        exact ⟨decode_of_short format hshort, _, rfl⟩
      · have hlong := Nat.le_of_not_lt hshort
        rw [hresult, readFrom_of_missing hlong (haccepted hpos hle) hmissing]
        exact ⟨decode_of_length_ne format hlong (haccepted hpos hle) hmissing.ne, _, rfl⟩
  · intro hpos hle hextra
    have hlong : headerSize ≤ bytes.length := (Nat.le_add_right _ _).trans hextra.le
    refine ⟨decode_of_length_ne format hlong (haccepted hpos hle) hextra.ne', ?_⟩
    intro bytes' s' h' hsame
    obtain ⟨t', hread', -⟩ := read_of_delivers_cases format h'
    rw [hread', hresult]
    exact readFrom_congr (haccepted hpos hle) hextra.le hsame

/-- The case of the frame of an empty object that arrives in three pieces, cut in the header and
behind it. -/
theorem decode_agrees_cut :
    let bytes := ofBody [0x7b, 0x7d]
    let s : Inbound :=
      { events := [.data .zero [0, 0], .fail IoKind.interrupted.error,
          .data (.ofMillis 1) [0, 2, 0x7b], .data .zero [0x7d]]
        capacity := 4
        timeout := some (.ofMillis 2) }
    s.Delivers bytes ∧ decode Json.ofBytes bytes = .ok (.obj []) ∧
      (read .blocking Json.ofBytes s).1 = .ok (.obj [], 6) := by
  intro bytes s
  have hs : s.Delivers bytes := by
    refine ⟨rfl, rfl, ?_, by decide⟩
    simp only [s, List.forall_mem_cons, ReadEvent.Arrives, Option.mem_some_iff, forall_eq',
      List.not_mem_nil, false_imp_iff, implies_true, and_true]
    decide
  have hdecode : decode Json.ofBytes bytes = .ok (.obj []) := rfl
  exact ⟨hs, hdecode, ((decode_agrees Json.ofBytes hs).1 _).1 hdecode⟩

end Frame

end CommandChannel
