import CommandChannel.Frame.Transfer
import CommandChannel.Proofs.Codec

/-!
# Frames from streams

A stream delivers bytes in chunks of any size, and reads may be interrupted between them. However
the bytes are cut, filling a number of bytes takes exactly that many off the front; so each frame is
read from its own bytes and the next one starts where it ends, whether or not its body could be
parsed.
-/

namespace CommandChannel

namespace ReadEvent

/-- The bytes that a reader gets from an event. -/
def bytes : ReadEvent → List UInt8
  | data _ bytes => bytes
  | _ => []

/-- The event brings bytes before time is up, or lets the reader ask again at once. -/
def Arrives (timeout : Option Duration) : ReadEvent → Prop
  | data delay bytes => bytes ≠ [] ∧ ∀ limit ∈ timeout, ¬ (.zero < delay ∧ limit ≤ delay)
  | event => event.isRetried = true

end ReadEvent

namespace Inbound

/-- The stream delivers the given bytes in chunks that are not empty, and then ends. Reads may be
interrupted at any place between the chunks. -/
structure Delivers (s : Inbound) (bytes : List UInt8) : Prop where
  /-- The connection was not shut down. -/
  isOpen : s.closed = false
  /-- The stream ends properly, and not with an error. -/
  ends : s.finish = .eof
  /-- Every event brings bytes in time or is an interruption. -/
  arrives : ∀ event ∈ s.events, event.Arrives s.timeout
  /-- The bytes are those in the buffer and those that the events bring. -/
  bytes_eq : bytes = s.buffered ++ s.events.flatMap ReadEvent.bytes

/-- The result of a read from a stream that still delivers `bytes`. -/
inductive Serves (want : Nat) (bytes : List UInt8) : Except IoError (List UInt8) × Inbound → Prop
  /-- Nothing is left. -/
  | ended {t : Inbound} (hbytes : bytes = []) (ht : t.Delivers []) : Serves want bytes (.ok [], t)
  /-- Some bytes are taken off the front. -/
  | chunk {chunk rest : List UInt8} {t : Inbound} (hne : chunk ≠ []) (hle : chunk.length ≤ want)
      (hbytes : bytes = chunk ++ rest) (ht : t.Delivers rest) : Serves want bytes (.ok chunk, t)
  /-- The read is to be repeated. -/
  | interrupted {error : IoError} {t : Inbound} (hkind : error.kind = .interrupted)
      (ht : t.Delivers bytes) : Serves want bytes (.error error, t)

variable {s : Inbound} {bytes : List UInt8} {want : Nat}

/-- What is met after the events for which nothing is ready is another event, or nothing. The bytes
of the stream are those from there on. -/
theorem dropWhile_pending_cases (events : List ReadEvent) :
    (events.dropWhile (· == .pending) = [] ∧ events.flatMap ReadEvent.bytes = []) ∨
      ∃ event rest, events.dropWhile (· == .pending) = event :: rest ∧ event ≠ .pending ∧
        event :: rest <:+ events ∧
        events.flatMap ReadEvent.bytes = event.bytes ++ rest.flatMap ReadEvent.bytes := by
  induction events with
  | nil => exact .inl ⟨rfl, rfl⟩
  | cons e events ih =>
    by_cases he : e = .pending
    · subst he
      rw [List.dropWhile_cons_of_pos (by rfl), List.flatMap_cons]
      rcases ih with h | ⟨event, rest, heq, hne, hsuffix, hbytes⟩
      · exact .inl h
      · exact .inr ⟨event, rest, heq, hne, hsuffix.trans (List.suffix_cons _ _), hbytes⟩
    · rw [List.dropWhile_cons_of_neg (by simpa using he)]
      exact .inr ⟨e, events, rfl, he, List.suffix_rfl, List.flatMap_cons⟩

/-- Bytes that are asked for of a chunk are taken, as long as there are any and some are asked
for. -/
theorem take_ne_nil {chunk : List UInt8} (hchunk : chunk ≠ []) (hwant : 0 < want) :
    chunk.take want ≠ [] := by
  rw [Ne, List.take_eq_nil_iff, not_or]
  exact ⟨hwant.ne', hchunk⟩

/-- What does not fit stays in front of the later events, to be taken by the next read. -/
theorem serves_take {t : Inbound} {chunk : List UInt8} {rest : List ReadEvent}
    (hopen : t.closed = false) (hends : t.finish = .eof) (hbuffered : t.buffered = [])
    (hchunk : chunk ≠ []) (hrest : ∀ event ∈ rest, event.Arrives t.timeout) (hwant : 0 < want) :
    Serves want (chunk ++ rest.flatMap ReadEvent.bytes) (t.take want chunk rest) := by
  have hbytes : chunk ++ rest.flatMap ReadEvent.bytes =
      chunk.take want ++ (chunk.drop want ++ rest.flatMap ReadEvent.bytes) := by
    rw [← List.append_assoc, List.take_append_drop]
  refine .chunk (take_ne_nil hchunk hwant) (List.length_take_le _ _) hbytes ⟨hopen, hends, ?_, ?_⟩
  · intro event hevent
    dsimp only at hevent
    split at hevent
    · exact hrest event hevent
    · rename_i hleft
      rcases List.mem_cons.1 hevent with rfl | hevent
      · refine ⟨by simpa using hleft, fun limit _ h => ?_⟩
        exact Nat.lt_irrefl _ (Duration.lt_iff.1 h.1)
      · exact hrest event hevent
  · rw [hbuffered, List.nil_append]
    split
    · rename_i hleft
      rw [List.isEmpty_iff.1 hleft, List.nil_append]
    · rw [List.flatMap_cons]
      rfl

/-- A read past an empty buffer takes bytes off the front, is interrupted, or finds the end. -/
theorem Delivers.serves_fetch (h : s.Delivers bytes) (hempty : s.buffered = [])
    (hwant : 0 < want) : Serves want bytes (s.fetch want) := by
  obtain ⟨hopen, hends, harrives, hbytes⟩ := h
  rw [hempty, List.nil_append] at hbytes
  rw [fetch, if_neg (by simp [hopen]), next]
  rcases dropWhile_pending_cases s.events with
    ⟨hnil, hnone⟩ | ⟨event, rest, hcons, hne, hsuffix, hsplit⟩
  · have hevent : s.finish.event = .eof := by rw [hends]; rfl
    rw [hnil, hevent]
    rw [hnone] at hbytes
    exact .ended hbytes ⟨hopen, hends, nofun, by rw [hempty]; rfl⟩
  · rw [hcons]
    have harrive := harrives event (hsuffix.subset List.mem_cons_self)
    have hrest (e : ReadEvent) (he : e ∈ rest) : e.Arrives s.timeout :=
      harrives e (hsuffix.subset (List.mem_cons_of_mem _ he))
    rw [hsplit] at hbytes
    cases event with
    | data delay chunk =>
      obtain ⟨hchunk, hintime⟩ := harrive
      have htake := serves_take (t := { s with now := s.now + delay }) hopen hends hempty hchunk
        hrest hwant
      rw [hbytes]
      dsimp only
      split
      · exact htake
      · rename_i limit hlimit
        rw [if_neg (hintime limit hlimit)]
        exact htake
    | fail error =>
      refine .interrupted (by simpa [ReadEvent.Arrives, ReadEvent.isRetried] using harrive) ?_
      exact ⟨hopen, hends, hrest, by rw [hbytes, hempty]; rfl⟩
    | timeout => cases harrive
    | eof => cases harrive
    | pending => exact absurd rfl hne

/-- A fetch leaves the buffer alone. It is the read around it that fills the buffer. -/
theorem buffered_fetch (s : Inbound) (want : Nat) : (s.fetch want).2.buffered = s.buffered := by
  unfold fetch take
  split
  · rfl
  · split
    · split
      · rfl
      · split <;> rfl
    all_goals rfl

/-- What does not fit stays in the buffer, to be taken by the next read. -/
theorem serves_buffer {t : Inbound} {chunk : List UInt8} (hopen : t.closed = false)
    (hends : t.finish = .eof) (harrives : ∀ event ∈ t.events, event.Arrives t.timeout)
    (hchunk : chunk ≠ []) (hwant : 0 < want) :
    Serves want (chunk ++ t.events.flatMap ReadEvent.bytes)
      (.ok (chunk.take want), { t with buffered := chunk.drop want }) := by
  have hbytes : chunk ++ t.events.flatMap ReadEvent.bytes =
      chunk.take want ++ (chunk.drop want ++ t.events.flatMap ReadEvent.bytes) := by
    rw [← List.append_assoc, List.take_append_drop]
  exact .chunk (take_ne_nil hchunk hwant) (List.length_take_le _ _) hbytes
    ⟨hopen, hends, harrives, rfl⟩

/-- A read from a stream that delivers bytes, buffered or not, takes bytes off the front, is
interrupted, or finds the end. -/
theorem Delivers.serves_read (h : s.Delivers bytes) (hwant : 0 < want) :
    Serves want bytes (s.read want) := by
  unfold read
  split
  · rename_i hbuffered
    rw [h.bytes_eq]
    exact serves_buffer h.isOpen h.ends h.arrives (by simpa using hbuffered) hwant
  · rename_i hbuffered
    have hempty : s.buffered = [] := by simpa using hbuffered
    split
    · exact h.serves_fetch hempty hwant
    · rename_i hcapacity
      have hfetch := h.serves_fetch hempty (Nat.lt_trans hwant (Nat.not_le.1 hcapacity))
      have hbuffer := s.buffered_fetch s.capacity
      split
      · rename_i chunk t heq
        rw [heq] at hfetch hbuffer
        rw [hempty] at hbuffer
        cases hfetch with
        | ended hbytes ht =>
          have hnone := ht.bytes_eq
          rw [hbuffer] at hnone
          rw [List.take_nil, List.drop_nil]
          exact .ended hbytes ⟨ht.isOpen, ht.ends, ht.arrives, hnone⟩
        | @chunk _ rest _ hne hle hbytes ht =>
          have hrest : rest = t.events.flatMap ReadEvent.bytes := by
            rw [ht.bytes_eq, hbuffer, List.nil_append]
          rw [hbytes, hrest]
          exact serves_buffer ht.isOpen ht.ends ht.arrives hne hwant
      · rename_i error t heq
        rw [heq] at hfetch
        cases hfetch with
        | interrupted hkind ht => exact .interrupted hkind ht

/-- A number of bytes is filled off the front, or the stream ends before they are there. -/
theorem Delivers.fill (h : s.Delivers bytes) (want : Nat) :
    (want ≤ bytes.length →
      ∃ t, s.fill want = (.full (bytes.take want), t) ∧ t.Delivers (bytes.drop want)) ∧
    (bytes.length < want → ∃ t, s.fill want = (.ended bytes.length, t) ∧ t.Delivers []) := by
  -- every read takes bytes off, and an interrupted one takes an event off
  induction hmeasure : 2 * want + s.events.length using Nat.strongRecOn
    generalizing s bytes want with
  | ind n ih =>
    rw [fill_eq]
    split
    · rename_i hzero
      subst hzero
      exact ⟨fun _ => ⟨s, rfl, h⟩, fun hlt => absurd hlt (Nat.not_lt_zero _)⟩
    · rename_i hwant
      have hread := h.serves_read (Nat.pos_of_ne_zero hwant)
      have hle := s.length_read_le want
      split
      · rename_i t heq
        rw [heq] at hread
        cases hread with
        | ended hbytes ht =>
          subst hbytes
          exact ⟨fun hle => absurd (Nat.le_zero.1 hle) hwant, fun _ => ⟨t, rfl, ht⟩⟩
        | chunk hne => exact absurd rfl hne
      · rename_i b chunk t heq
        rw [heq] at hread hle
        dsimp only at hle
        cases hread with
        | @chunk _ rest _ _ hchunk hbytes ht =>
          have hlength : bytes.length = chunk.length + 1 + rest.length := by
            rw [hbytes, List.length_append, List.length_cons]
          rw [List.length_cons] at hchunk
          obtain ⟨hfull, hended⟩ := ih _ (by omega) ht (want - (chunk.length + 1)) rfl
          refine ⟨fun hwhole => ?_, fun hshort => ?_⟩
          · obtain ⟨u, hfill, hu⟩ := hfull (by omega)
            have htake : bytes.take want = b :: chunk ++ rest.take (want - (chunk.length + 1)) := by
              rw [hbytes, List.take_append, List.length_cons, List.take_of_length_le]
              rwa [List.length_cons]
            have hdrop : bytes.drop want = rest.drop (want - (chunk.length + 1)) := by
              rw [hbytes, List.drop_append, List.length_cons, List.drop_of_length_le,
                List.nil_append]
              rwa [List.length_cons]
            rw [hfill, htake, hdrop]
            exact ⟨u, rfl, hu⟩
          · obtain ⟨u, hfill, hu⟩ := hended (by omega)
            rw [hfill, hlength]
            exact ⟨u, rfl, hu⟩
      · rename_i error t heq
        rw [heq] at hread
        cases hread with
        | interrupted hkind ht =>
          have hlt := length_read_of_interrupted heq hkind
          rw [if_pos hkind]
          exact ih _ (by omega) ht want rfl

end Inbound

namespace Frame

variable {α : Type} {s : Inbound} {body bytes : List UInt8}

/-- Frames of bodies that are neither empty nor above the limit, read one after the other. -/
def readMany (report : ReadReport) (format : Format α) :
    Nat → Inbound → List (Except ChannelError (α × Nat)) × Inbound
  | 0, s => ([], s)
  | count + 1, s =>
    let (result, s) := read report format s
    let (results, s) := readMany report format count s
    (result :: results, s)

/-- What is reported of a frame with a body, whole as it is. -/
def reported (format : Format α) (body : List UInt8) : Except ChannelError (α × Nat) :=
  match format body with
  | .ok v => .ok (v, 4 + body.length)
  | .error fault => .error (.malformed ("invalid JSON: " ++ fault.report body))

/-- A body that is delivered is read as it is, whatever was read before. -/
theorem readExactly_of_delivers (report : ReadReport) (before : Nat)
    (h : s.Delivers (body ++ bytes)) :
    ∃ t, readExactly report body.length before s = (.ok body, t) ∧ t.Delivers bytes := by
  obtain ⟨t, hfill, ht⟩ := (h.fill body.length).1 (by simp)
  rw [List.take_left] at hfill
  rw [List.drop_left] at ht
  exact ⟨t, by rw [readExactly, hfill], ht⟩

/-- A frame takes exactly its own bytes off the stream, whatever its body is. So a malformed body
does no harm to later frames. -/
theorem read_of_delivers (report : ReadReport) (format : Format α) (hpos : 0 < body.length)
    (hlimit : body.length ≤ sizeLimit) (h : s.Delivers (ofBody body ++ bytes)) :
    ∃ t, read report format s = (reported format body, t) ∧ t.Delivers bytes := by
  rw [ofBody, List.append_assoc] at h
  obtain ⟨t, hheader, ht⟩ : ∃ t, readExactly report headerSize 0 s = (.ok (header body.length), t) ∧
      t.Delivers (body ++ bytes) := readExactly_of_delivers report 0 h
  obtain ⟨u, hbody, hu⟩ := readExactly_of_delivers report headerSize ht
  refine ⟨u, ?_, hu⟩
  have hread : readBody report s = (.ok body, u) := by
    rw [readBody, hheader]
    dsimp only
    rw [bodyLength_header hpos hlimit]
    exact hbody
  rw [read, hread]
  dsimp only [parse, reported]
  cases format body <;> rfl

/-- After the last frame the stream is at its end, which is reported as a loss of the connection. -/
theorem read_of_delivers_nil (format : Format α) (h : s.Delivers []) :
    ∃ t, read .blocking format s = (.error (.lost "peer closed the connection"), t) ∧
      t.Delivers [] := by
  obtain ⟨t, hfill, ht⟩ := (h.fill headerSize).2 (by decide)
  refine ⟨t, ?_, ht⟩
  rw [read, readBody, readExactly, hfill]
  rfl

/-- As many frames as there are bodies are read from their bytes, in order, by induction on the
bodies. -/
theorem readMany_of_delivers (report : ReadReport) (format : Format α) {bodies : List (List UInt8)}
    (hbodies : ∀ body ∈ bodies, 0 < body.length ∧ body.length ≤ sizeLimit)
    (h : s.Delivers (bodies.flatMap ofBody ++ bytes)) :
    ∃ t, readMany report format bodies.length s = (bodies.map (reported format), t) ∧
      t.Delivers bytes := by
  induction bodies generalizing s with
  | nil => exact ⟨s, rfl, h⟩
  | cons body bodies ih =>
    obtain ⟨hbody, hlater⟩ := List.forall_mem_cons.1 hbodies
    rw [List.flatMap_cons, List.append_assoc] at h
    obtain ⟨t, hread, ht⟩ := read_of_delivers report format hbody.1 hbody.2 h
    obtain ⟨u, hmany, hu⟩ := ih hlater ht
    refine ⟨u, ?_, hu⟩
    rw [List.length_cons, readMany, hread]
    dsimp only
    rw [hmany]
    rfl

/-- Frames are read back from a stream however their bytes are cut into chunks and wherever reads
are interrupted. Each read reports the value of its own body with the size of its frame, or that the
body is malformed; after any number of reads exactly the later frames are left, and after all of
them the stream is at its end. -/
theorem readMany_frames (format : Format α) {bodies : List (List UInt8)}
    (hbodies : ∀ body ∈ bodies, 1 ≤ body.length ∧ body.length ≤ sizeLimit)
    (h : s.Delivers (bodies.flatMap ofBody)) :
    (readMany .blocking format bodies.length s).1 = bodies.map (fun body =>
      match format body with
      | .ok v => .ok (v, 4 + body.length)
      | .error fault => .error (.malformed ("invalid JSON: " ++ fault.report body))) ∧
    (∀ count ≤ bodies.length, (readMany .blocking format count s).2.Delivers
      ((bodies.drop count).flatMap ofBody)) ∧
    (read .blocking format (readMany .blocking format bodies.length s).2).1 =
      .error (.lost "peer closed the connection") := by
  have hpart (count : Nat) (hcount : count ≤ bodies.length) :
      ∃ t, readMany .blocking format count s = ((bodies.take count).map (reported format), t) ∧
        t.Delivers ((bodies.drop count).flatMap ofBody) := by
    rw [← List.take_append_drop count bodies, List.flatMap_append] at h
    have hmany := readMany_of_delivers .blocking format
      (fun body hbody => hbodies body (List.mem_of_mem_take hbody)) h
    rwa [List.length_take_of_le hcount] at hmany
  obtain ⟨t, hmany, ht⟩ := hpart bodies.length (Nat.le_refl _)
  rw [List.drop_length] at ht
  refine ⟨?_, fun count hcount => ?_, ?_⟩
  · rw [hmany, List.take_length]
    rfl
  · obtain ⟨u, hpartial, hu⟩ := hpart count hcount
    rw [hpartial]
    exact hu
  · obtain ⟨u, hend, -⟩ := read_of_delivers_nil format ht
    rw [hmany, hend]

/-- The case of three frames in four pieces, which cut headers and bodies, with interruptions
between them and a body in the middle that is malformed. The frames on both sides of it are read all
the same. -/
theorem readMany_frames_cut :
    let s : Inbound :=
      { events := [.data .zero [0, 0], .fail IoKind.interrupted.error, .pending,
          .data (.ofMillis 1) [0, 2, 0x7b], .data .zero [0x7d, 0, 0, 0, 1, 0x78, 0, 0, 0],
          .fail IoKind.interrupted.error, .data .zero [1, 0x37]]
        capacity := 4
        timeout := some (.ofMillis 2) }
    s.Delivers ([[0x7b, 0x7d], [0x78], [0x37]].flatMap ofBody) ∧
      (readMany .blocking Json.ofBytes 3 s).1 =
        [.ok (.obj [], 6),
          .error (.malformed "invalid JSON: expected value at line 1 column 1"),
          .ok (.int 7, 5)] := by
  intro s
  have hs : s.Delivers ([[0x7b, 0x7d], [0x78], [0x37]].flatMap ofBody) := by
    refine ⟨rfl, rfl, ?_, by decide⟩
    simp only [s, List.forall_mem_cons, ReadEvent.Arrives, Option.mem_some_iff, forall_eq',
      List.not_mem_nil, false_imp_iff, implies_true, and_true]
    decide
  exact ⟨hs, (readMany_frames Json.ofBytes (by decide) hs).1⟩

end Frame

end CommandChannel
