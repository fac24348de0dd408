import CommandChannel.Frame.Carrier
import CommandChannel.Proofs.Interruptions

/-!
# Carriers on steady streams

A carrier is known only by what is documented of it. That determines its transfers on steady
streams, on which nobody is interrupted or waits in vain: it reads what repeated reads fill and
writes what repeated writes drain, and only the text of some failures is its own.
-/

namespace CommandChannel

/-- A failure that is neither an interruption nor a matter of time. -/
def IoKind.isLasting (kind : IoKind) : Bool := kind != .interrupted && !kind.isTimeout

/-- A failure that lasts is neither an interruption nor a matter of time. -/
theorem IoKind.isLasting_iff {kind : IoKind} :
    kind.isLasting = true ↔ kind ≠ .interrupted ∧ kind.isTimeout = false := by
  simp [isLasting]

/-- What a carrier is documented to do. It says nothing of reads and writes that are interrupted. -/
structure Carrier.Lawful (carrier : Carrier) : Prop where
  /-- Nothing is to be read. -/
  readExact_zero (s : Inbound) : carrier.readExact 0 s = (.ok [], s)
  /-- After a chunk the bytes that are missing are read. -/
  readExact_chunk {s t : Inbound} {want : Nat} {chunk : List UInt8} (hwant : 0 < want)
    (hread : s.read want = (.ok chunk, t)) (hne : chunk ≠ []) :
    carrier.readExact want s =
      ((carrier.readExact (want - chunk.length) t).1.map (chunk ++ ·),
        (carrier.readExact (want - chunk.length) t).2)
  /-- An early end of the stream is a failure of its own kind. -/
  readExact_ended {s t : Inbound} {want : Nat} (hwant : 0 < want)
    (hread : s.read want = (.ok [], t)) :
    ∃ text, carrier.readExact want s = (.error ⟨.unexpectedEof, text⟩, t)
  /-- Any other failure is passed on at once. -/
  readExact_failed {s t : Inbound} {want : Nat} {error : IoError} (hwant : 0 < want)
    (hread : s.read want = (.error error, t)) (hkind : error.kind ≠ .interrupted) :
    carrier.readExact want s = (.error error, t)
  /-- Nothing is to be written. -/
  writeAll_nil (s : Outbound) : carrier.writeAll [] s = (.ok (), s)
  /-- After a write the bytes that are left are written. -/
  writeAll_accepted {s t : Outbound} {bytes : List UInt8} {count : Nat} (hne : bytes ≠ [])
    (hwrite : s.write bytes = (.ok count, t)) (hpos : 0 < count) :
    carrier.writeAll bytes s = carrier.writeAll (bytes.drop count) t
  /-- A write that takes nothing is a failure of its own kind. -/
  writeAll_refused {s t : Outbound} {bytes : List UInt8} (hne : bytes ≠ [])
    (hwrite : s.write bytes = (.ok 0, t)) :
    ∃ text, carrier.writeAll bytes s = (.error ⟨.writeZero, text⟩, t)
  /-- Any other failure is passed on at once. -/
  writeAll_failed {s t : Outbound} {bytes : List UInt8} {error : IoError} (hne : bytes ≠ [])
    (hwrite : s.write bytes = (.error error, t)) (hkind : error.kind ≠ .interrupted) :
    carrier.writeAll bytes s = (.error error, t)
  /-- A flush is one flush of the stream. -/
  flush_eq (s : Outbound) : carrier.flush s = s.flush

/-- Bytes that were read before are put in front of those that a carrier reads after them. -/
theorem Inbound.Fill.awaited_after (text : String) (chunk : List UInt8) (outcome : Fill) :
    (outcome.after chunk).awaited text = (outcome.awaited text).map (chunk ++ ·) := by
  cases outcome <;> rfl

/-- How many bytes were written before makes no difference to what a carrier reports of the
others. -/
theorem Outbound.Drain.awaited_after (text : String) (count : Nat) (outcome : Drain) :
    (outcome.after count).awaited text = outcome.awaited text := by
  cases outcome <;> rfl

/-- The carrier that repeats reads and writes does what is documented. So the laws can be met, and
the carrier that is run is among those that meet them. -/
theorem Carrier.lawful_repeating : Carrier.repeating.Lawful where
  readExact_zero s := by
    dsimp only [repeating]
    rw [Inbound.fill_eq, if_pos rfl]
    rfl
  readExact_chunk {s t want chunk} hwant hread hne := by
    obtain ⟨b, bytes, rfl⟩ := List.exists_cons_of_ne_nil hne
    dsimp only [repeating]
    rw [Inbound.fill_eq, if_neg hwant.ne', hread]
    dsimp only
    rw [Inbound.Fill.awaited_after, List.length_cons]
  readExact_ended hwant hread := by
    refine ⟨"early eof", ?_⟩
    dsimp only [repeating]
    rw [Inbound.fill_eq, if_neg hwant.ne', hread]
    rfl
  readExact_failed hwant hread hkind := by
    dsimp only [repeating]
    rw [Inbound.fill_eq, if_neg hwant.ne', hread]
    dsimp only
    rw [if_neg hkind]
    rfl
  writeAll_nil s := by
    dsimp only [repeating]
    rw [Outbound.drain_eq, if_pos rfl]
    rfl
  writeAll_accepted {s t bytes count} hne hwrite hpos := by
    obtain ⟨count, rfl⟩ := Nat.exists_eq_succ_of_ne_zero hpos.ne'
    dsimp only [repeating]
    rw [Outbound.drain_eq, if_neg hne, hwrite]
    dsimp only
    rw [Outbound.Drain.awaited_after]
  writeAll_refused hne hwrite := by
    refine ⟨IoKind.writeZero.description, ?_⟩
    dsimp only [repeating]
    rw [Outbound.drain_eq, if_neg hne, hwrite]
    rfl
  writeAll_failed hne hwrite hkind := by
    dsimp only [repeating]
    rw [Outbound.drain_eq, if_neg hne, hwrite]
    dsimp only
    rw [if_neg hkind]
    rfl
  flush_eq _ := rfl

/-- The event lets a reader go on, ends the stream or fails for good. -/
def ReadEvent.isSteady : ReadEvent → Bool
  | timeout => false
  | fail error => error.kind.isLasting
  | _ => true

/-- The event takes bytes or fails for good. -/
def WriteEvent.isSteady : WriteEvent → Bool
  | accept _ => true
  | timeout => false
  | fail error => error.kind.isLasting

/-- The event lets a writer go on or fails for good. -/
def FlushEvent.isSteady : FlushEvent → Bool
  | done => true
  | timeout => false
  | fail error => error.kind.isLasting

namespace Inbound

/-- No read is interrupted and none waits in vain. -/
structure Steady (s : Inbound) : Prop where
  patient : s.timeout = none
  lasts : s.finish.event.isSteady = true
  steady : ∀ e ∈ s.events, e.isSteady = true

variable {s t : Inbound} {want : Nat}

/-- What a reader of a steady stream meets is steady, and so is what comes after it. -/
theorem Meets.isSteady {before rest : List ReadEvent} {event : ReadEvent}
    (hmeets : s.Meets before event rest) (h : s.Steady) :
    event.isSteady = true ∧ ∀ e ∈ rest, e.isSteady = true := by
  rcases hmeets with ⟨-, hevents | ⟨-, rfl, rfl⟩⟩
  · have hsteady := h.steady
    rw [hevents, List.forall_mem_append, List.forall_mem_cons] at hsteady
    exact hsteady.2
  · exact ⟨h.lasts, nofun⟩

/-- A result of a read that is not an interruption and not a matter of time. -/
def IsLasting (r : Except IoError (List UInt8)) : Prop :=
  ∀ error, r = .error error → error.kind.isLasting = true

/-- A read past the buffer leaves a steady stream steady, and fails for good if it fails. -/
theorem Steady.fetch (h : s.Steady) {r : Except IoError (List UInt8)}
    (hfetch : s.fetch want = (r, t)) : t.Steady ∧ IsLasting r := by
  rcases fetch_cases hfetch with heq | ⟨before, event, rest, hmeets, hfetches⟩
  · cases heq
    exact ⟨h, nofun⟩
  · obtain ⟨hevent, hrest⟩ := hmeets.isSteady h
    cases hfetches with
    | chunk =>
      refine ⟨⟨h.patient, h.lasts, ?_⟩, nofun⟩
      dsimp only
      split
      · exact hrest
      · exact List.forall_mem_cons.2 ⟨rfl, hrest⟩
    | late hlimit =>
      rw [h.patient] at hlimit
      cases hlimit
    | timeout => cases hevent
    | eof => exact ⟨⟨h.patient, h.lasts, hrest⟩, nofun⟩
    | fail =>
      refine ⟨⟨h.patient, h.lasts, hrest⟩, ?_⟩
      rintro _ ⟨⟩
      exact hevent

/-- A read leaves a steady stream steady, buffered or not, and fails for good if it fails. -/
theorem Steady.read (h : s.Steady) {r : Except IoError (List UInt8)}
    (hread : s.read want = (r, t)) : t.Steady ∧ IsLasting r := by
  cases draws_of_read hread with
  | buffered => exact ⟨⟨h.patient, h.lasts, h.steady⟩, nofun⟩
  | direct _ hfetch => exact h.fetch hfetch
  | refilled _ hfetch =>
    obtain ⟨ht, -⟩ := h.fetch hfetch
    exact ⟨⟨ht.patient, ht.lasts, ht.steady⟩, nofun⟩
  | failed _ hfetch => exact h.fetch hfetch

/-- Reads that take bytes leave a steady stream steady, by induction on these reads. -/
theorem Steady.passes (h : s.Steady) {taken : List UInt8} (hpasses : s.Passes taken t) :
    t.Steady := by
  induction hpasses with
  | refl => exact h
  | chunk hread _ _ ih => exact ih (h.read hread).1
  | interrupted hread _ _ ih => exact ih (h.read hread).1

/-- A series of reads leaves a steady stream steady and fails for good if it fails. -/
theorem Steady.reads (h : s.Steady) {taken : List UInt8} {stop : Stop}
    (hreads : s.Reads taken stop t) :
    t.Steady ∧ ∀ error, stop = .failed error → error.kind.isLasting = true := by
  obtain ⟨u, hpasses, hstops⟩ := hreads
  have hu := h.passes hpasses
  cases hstops with
  | complete => exact ⟨hu, nofun⟩
  | ended _ hread => exact ⟨(hu.read hread).1, nofun⟩
  | failed _ hread _ =>
    obtain ⟨ht, hlasting⟩ := hu.read hread
    refine ⟨ht, ?_⟩
    rintro _ ⟨⟩
    exact hlasting _ rfl

/-- Of a steady stream a carrier reads what repeated reads fill. The induction is on the number of
bytes that are missing; every chunk takes some of them. -/
theorem Steady.readExact_eq {carrier : Carrier} (hlaws : carrier.Lawful) (h : s.Steady)
    (want : Nat) :
    ∃ text, carrier.readExact want s = ((s.fill want).1.awaited text, (s.fill want).2) := by
  fun_induction fill s want with
  | case1 s => exact ⟨"", hlaws.readExact_zero s⟩
  | case2 s want hwant t hread => exact hlaws.readExact_ended (Nat.pos_of_ne_zero hwant) hread
  | case3 s want hwant b bytes t hread outcome u hfill ih =>
    obtain ⟨text, hrest⟩ := ih (h.read hread).1
    rw [hfill] at hrest
    refine ⟨text, ?_⟩
    rw [hlaws.readExact_chunk (Nat.pos_of_ne_zero hwant) hread (List.cons_ne_nil b bytes),
      List.length_cons, hrest, Fill.awaited_after]
  | case4 s want hwant error t hread hkind ih =>
    have hlasting := (h.read hread).2 error rfl
    exact absurd hkind (IoKind.isLasting_iff.1 hlasting).1
  | case5 s want hwant error t hread hkind =>
    exact ⟨"", hlaws.readExact_failed (Nat.pos_of_ne_zero hwant) hread hkind⟩

/-- Without interruptions the events that are retried are those for which nothing is ready. -/
theorem Steady.quiet_eq (h : s.Steady) :
    s.quiet = { s with events := s.events.filter (· != .pending) } := by
  unfold quiet
  congr 1
  apply List.filter_congr
  intro e he
  have hsteady := h.steady e he
  cases e with
  | fail error =>
    have hkind : (error.kind == .interrupted) = false := by
      simpa using (IoKind.isLasting_iff.1 hsteady).1
    rw [ReadEvent.isRetried, hkind]
    rfl
  | timeout => cases hsteady
  | _ => rfl

end Inbound

namespace Outbound

/-- No write and no flush is interrupted and none waits in vain. -/
structure Steady (s : Outbound) : Prop where
  events : ∀ e ∈ s.events, e.isSteady = true
  flushes : ∀ e ∈ s.flushes, e.isSteady = true

variable {s t : Outbound} {bytes : List UInt8}

/-- A write leaves a steady stream steady, and fails for good if it fails. -/
theorem Steady.write (h : s.Steady) {r : Except IoError Nat} (hwrite : s.write bytes = (r, t)) :
    t.Steady ∧ ∀ error, r = .error error → error.kind.isLasting = true := by
  have hevents := h.events
  unfold Outbound.write at hwrite
  split at hwrite
  · cases hwrite
    refine ⟨h, ?_⟩
    rintro _ ⟨⟩
    rfl
  · split at hwrite <;> rename_i heq <;> cases hwrite <;>
      simp only [heq, List.forall_mem_cons] at hevents
    · exact ⟨⟨h.events, h.flushes⟩, nofun⟩
    · exact ⟨⟨hevents.2, h.flushes⟩, nofun⟩
    · cases hevents.1
    · refine ⟨⟨hevents.2, h.flushes⟩, ?_⟩
      rintro _ ⟨⟩
      exact hevents.1

/-- A flush of a steady stream fails for good if it fails. -/
theorem Steady.flush {error : IoError} (h : s.Steady) (hflush : s.flush = (.error error, t)) :
    error.kind.isLasting = true := by
  have hflushes := h.flushes
  unfold Outbound.flush at hflush
  split at hflush <;> rename_i heq <;> cases hflush <;>
    simp only [heq, List.forall_mem_cons] at hflushes
  · cases hflushes.1
  · exact hflushes.1

/-- Writing all bytes leaves a steady stream steady and fails for good if it fails. -/
theorem Steady.drain (h : s.Steady) (bytes : List UInt8) :
    (s.drain bytes).2.Steady ∧
      ∀ error count, (s.drain bytes).1 = .failed error count → error.kind.isLasting = true := by
  fun_induction Outbound.drain s bytes with
  | case1 s => exact ⟨h, nofun⟩
  | case2 s bytes hne t hwrite => exact ⟨(h.write hwrite).1, nofun⟩
  | case3 s bytes hne count t hwrite outcome u hdrain ih =>
    have hrest := ih (h.write hwrite).1
    rw [hdrain] at hrest
    refine ⟨hrest.1, ?_⟩
    intro error total hfailed
    cases outcome with
    | whole => cases hfailed
    | refused => cases hfailed
    | failed =>
      cases hfailed
      exact hrest.2 error _ rfl
  | case4 s bytes hne error t hwrite hkind ih => exact ih (h.write hwrite).1
  | case5 s bytes hne error t hwrite hkind =>
    obtain ⟨ht, hlasting⟩ := h.write hwrite
    refine ⟨ht, ?_⟩
    rintro _ _ ⟨⟩
    exact hlasting error rfl

/-- A carrier writes to a steady stream what repeated writes drain. The induction is on the bytes
that are left; every write takes some of them. -/
theorem Steady.writeAll_eq {carrier : Carrier} (hlaws : carrier.Lawful) (h : s.Steady)
    (bytes : List UInt8) :
    ∃ text, carrier.writeAll bytes s = ((s.drain bytes).1.awaited text, (s.drain bytes).2) := by
  fun_induction Outbound.drain s bytes with
  | case1 s => exact ⟨"", hlaws.writeAll_nil s⟩
  | case2 s bytes hne t hwrite => exact hlaws.writeAll_refused hne hwrite
  | case3 s bytes hne count t hwrite outcome u hdrain ih =>
    obtain ⟨text, hrest⟩ := ih (h.write hwrite).1
    rw [hdrain] at hrest
    refine ⟨text, ?_⟩
    rw [hlaws.writeAll_accepted hne hwrite (Nat.succ_pos count), hrest, Drain.awaited_after]
  | case4 s bytes hne error t hwrite hkind ih =>
    have hlasting := (h.write hwrite).2 error rfl
    exact absurd hkind (IoKind.isLasting_iff.1 hlasting).1
  | case5 s bytes hne error t hwrite hkind =>
    exact ⟨"", hlaws.writeAll_failed hne hwrite hkind⟩

end Outbound

end CommandChannel
