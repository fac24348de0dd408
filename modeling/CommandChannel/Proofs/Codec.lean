import CommandChannel.Frame.Basic
import CommandChannel.Proofs.Values

/-!
# Frames of values

The length in front of a body is read back as the length of the body, and every body that is neither
empty nor above the limit passes the checks of the reader. A payload is refused for its size alone,
so that what is encoded can be decoded unless the reader refuses the body itself. A value is read
back as it was, and refused only for lying too deep.
-/

namespace CommandChannel

/-- At the end of the bytes nothing follows that could continue a number. So the whole body is the
text. -/
theorem Json.Closes.nil : Json.Closes [] := by
  rintro b ⟨⟩

/-- A text that the reader takes is read as a whole, if nothing but blanks follows it. So the reader
of a frame decides as the reader of the text does. -/
theorem Json.Takes.readWhole {α : Type} {reader : JsonReader α} {p : Prop} {a : α}
    {text : List UInt8} (h : Takes reader p a text) : OkIff p a (Json.readWhole reader text) := by
  have hread := h [] .nil
  rw [List.append_nil] at hread
  exact hread.bind_ok rfl

namespace Frame

/-- The four bytes of a length, the most significant first, stand for it, as long as it fits in
them. -/
theorem headerValue_header {n : Nat} (hn : n < 2 ^ 32) : headerValue (header n) = n := by
  simp only [headerValue, header, List.foldl_cons, List.foldl_nil, UInt8.toNat_ofNat']
  omega

/-- A body within the limit has a length that fits in the four bytes before it. -/
theorem sizeLimit_lt : sizeLimit < 2 ^ 32 := by decide

/-- The length of a body that is neither empty nor above the limit is accepted. -/
theorem bodyLength_header {n : Nat} (hpos : 0 < n) (hn : n ≤ sizeLimit) :
    bodyLength (header n) = .ok n := by
  rw [bodyLength, headerValue_header (Nat.lt_of_le_of_lt hn sizeLimit_lt)]
  simp only [if_neg hpos.ne', if_neg (Nat.not_lt.2 hn)]

/-- The frame of such a body holds what the body holds: none of the checks on its length rejects
it. -/
theorem decode_ofBody {α : Type} {format : Format α} {body : List UInt8} (hpos : 0 < body.length)
    (hlimit : body.length ≤ sizeLimit) : decode format (ofBody body) = parse format body := by
  have hlong : ¬ (ofBody body).length < headerSize := by
    rw [ofBody, List.length_append]
    exact Nat.not_lt.2 (Nat.le_add_right _ _)
  have htake : (ofBody body).take headerSize = header body.length := rfl
  have hdrop : (ofBody body).drop headerSize = body := rfl
  rw [decode, if_neg hlong, htake, hdrop, bodyLength_header hpos hlimit]
  exact if_pos rfl

/-- A payload with a text is refused for its size alone. The size is counted in bytes, not in
characters. -/
theorem encode_of_text {payload : Payload} {cs : List Char} (h : payload.text = .ok cs) :
    encode payload =
      if sizeLimit < (utf8 cs).length then .error (.oversized (utf8 cs).length sizeLimit)
      else .ok (ofBody (utf8 cs)) := by
  rw [encode, h]
  rfl

/-- What can be parsed of a body that a reader takes if a condition holds. Where the condition
fails, the body is malformed, and no other failure is reported. -/
theorem parse_of_okIff {α : Type} {format : Format α} {p : Prop} {a : α} {body : List UInt8}
    (h : Json.OkIff p a (format body)) :
    (p → parse format body = .ok a) ∧
      (¬ p → ∃ reason, parse format body = .error (.malformed reason)) := by
  refine ⟨fun hp => ?_, fun hp => ?_⟩
  · rw [parse, h.1 hp]
  · obtain ⟨fault, hfault⟩ := h.2 hp
    exact ⟨_, by rw [parse, hfault]⟩

/-- What is encoded of a payload is decoded by every reader that takes its text. The reader need not
be the one for payloads of that kind. -/
theorem decode_encode_of_okIff {α : Type} {format : Format α} {payload : Payload} {cs : List Char}
    {p : Prop} {a : α} (htext : payload.text = .ok cs) (hpos : 0 < (utf8 cs).length)
    (hlimit : (utf8 cs).length ≤ sizeLimit) (hread : Json.OkIff p a (format (utf8 cs))) (hp : p) :
    encode payload = .ok (ofBody (utf8 cs)) ∧ decode format (ofBody (utf8 cs)) = .ok a := by
  refine ⟨?_, ?_⟩
  · rw [encode_of_text htext, if_neg (Nat.not_lt.2 hlimit)]
  · rw [decode_ofBody hpos hlimit]
    exact (parse_of_okIff hread).1 hp

/-- A value survives the way over the wire. Its frame is made unless the text is above the limit,
and is then its text after the length of the text, which is neither zero nor cut short by its four
bytes and passes the checks of the reader. A value of at most 127 arrays and objects within one
another is read back as it was, any other that has a frame is refused as malformed. -/
theorem decode_encode_value {v : Json} (hv : v.Exact) :
    let body := utf8Bytes v.compactText
    ((∃ frame, encode (.value v) = .ok frame) ↔ body.length ≤ sizeLimit) ∧
    (sizeLimit < body.length →
      encode (.value v) = .error (.oversized body.length sizeLimit)) ∧
    ∀ frame, encode (.value v) = .ok frame →
      (frame = header body.length ++ body ∧ (header body.length).length = 4 ∧
        headerValue (header body.length) = body.length ∧
        0 < body.length ∧ body.length < 2 ^ 32 ∧
        bodyLength (frame.take 4) = .ok body.length) ∧
      (v.depth ≤ 127 → decode Json.ofBytes frame = .ok v) ∧
      (127 < v.depth → ∃ reason, decode Json.ofBytes frame = .error (.malformed reason)) := by
  intro body
  have hbody : body = utf8 (v.format .compact 0) := utf8Bytes_ofList _
  have hencode : encode (.value v) =
      if sizeLimit < body.length then .error (.oversized body.length sizeLimit)
      else .ok (ofBody body) := by
    rw [hbody]
    exact encode_of_text rfl
  have hpos : 0 < body.length := by
    obtain ⟨b, rest, heq, -, -⟩ := Json.startsValue_format hv 0 []
    rw [List.append_nil, ← hbody] at heq
    rw [heq]
    exact Nat.succ_pos _
  have hread : Json.OkIff (v.depth ≤ 127) v (Json.ofBytes body) := by
    rw [hbody]
    exact (Json.takes_readValue hv Json.depthLimit 0).readWhole
  obtain ⟨hparsed, hrefused⟩ := parse_of_okIff hread
  refine ⟨⟨?_, fun hle => ⟨ofBody body, ?_⟩⟩, fun hlt => ?_, fun frame hframe => ?_⟩
  · rintro ⟨frame, hframe⟩
    rw [hencode] at hframe
    split at hframe
    · cases hframe
    · exact Nat.not_lt.1 ‹_›
  · rw [hencode, if_neg (Nat.not_lt.2 hle)]
  · rw [hencode, if_pos hlt]
  · rw [hencode] at hframe
    split at hframe
    · cases hframe
    · cases hframe
      have hle : body.length ≤ sizeLimit := Nat.not_lt.1 ‹_›
      have hbound := Nat.lt_of_le_of_lt hle sizeLimit_lt
      rw [decode_ofBody hpos hle]
      exact ⟨⟨rfl, rfl, headerValue_header hbound, hpos, hbound, bodyLength_header hpos hle⟩,
        hparsed, fun hdeep => hrefused (Nat.not_le.2 hdeep)⟩

/-- The case of an object with an empty object and an array in it, the least and the greatest
integer, and characters that are escaped, outside ASCII or of four bytes. It has a frame, and comes
back from it as it was. -/
theorem decode_encode_value_nested :
    let v : Json := .obj
      [("a", .obj []),
        ("β\n", .arr [.null, .bool true, .int (-(2 ^ 63)), .int (2 ^ 64 - 1), .str "😀\"\\\x01"])]
    v.Exact ∧ ∃ frame, encode (.value v) = .ok frame ∧ decode Json.ofBytes frame = .ok v := by
  intro v
  have hitems : ∀ w ∈ [.null, .bool true, .int (-(2 ^ 63)), .int (2 ^ 64 - 1), .str "😀\"\\\x01"],
      Json.Exact w := by
    simp only [List.forall_mem_cons]
    exact ⟨.null, .bool true, .int (by decide) (by decide), .int (by decide) (by decide), .str _,
      nofun⟩
  have hv : v.Exact := by
    refine .obj (by decide) (List.forall_mem_cons.2 ⟨.obj .nil nofun, ?_⟩)
    exact List.forall_mem_singleton.2 (.arr hitems)
  obtain ⟨hencodes, -, hframe⟩ := decode_encode_value hv
  obtain ⟨frame, heq⟩ := hencodes.2 (by decide)
  exact ⟨hv, frame, heq, (hframe frame heq).2.1 (by decide)⟩

end Frame

end CommandChannel
