import CommandChannel.Proofs.Requests

/-!
# Falling back to further addresses

The addresses of a peer are tried one after the other. What becomes of the attempts is settled by
the world before the first of them: each takes the next outcome that the world holds. From these
outcomes it follows which addresses are tried, which connection is made and which failure is
reported.
-/

namespace CommandChannel

namespace DialOutcome

/-- What an attempt to connect comes to within a limit. -/
def verdict (limit : Duration) : DialOutcome → Except IoError PeerScript
  | refused delay error => .error (if limit ≤ delay then Link.tooLate else error)
  | accepted delay script => if limit ≤ delay then .error Link.tooLate else .ok script

/-- The time that an attempt to connect takes, which is within the limit. -/
def duration (limit : Duration) : DialOutcome → Duration
  | refused delay _ | accepted delay _ => min limit delay

end DialOutcome

/-- The first call on a socket that fails while it is set up. -/
def SocketFaults.setUp? (faults : SocketFaults) : Option IoError :=
  faults.setReadTimeout <|> faults.setWriteTimeout <|> faults.setNodelay <|> faults.peerAddr <|>
    faults.duplicate

namespace World

/-- What an attempt to connect comes to if it is made after so many others. -/
def prospect (limit : Duration) (w : World) (earlier : Nat) : Except IoError PeerScript :=
  if limit.isZero then
    .error Link.noTime
  else
    match w.dials[earlier]? with
    | some outcome => outcome.verdict limit
    | none => .error IoKind.connectionRefused.error

/-- The next attempts to connect fail, so many of them. -/
def Refuses (limit : Duration) (w : World) (count : Nat) : Prop :=
  ∀ k < count, ∃ error, w.prospect limit k = .error error

/-- Of no attempts at all none succeeds. With this the search for an address that accepts begins. -/
theorem refuses_zero (limit : Duration) (w : World) : w.Refuses limit 0 :=
  fun _ hk => absurd hk (Nat.not_lt_zero _)

/-- Addresses were tried in turn between two worlds, each within the limit, and nothing else was
done. Each attempt took an outcome from the world, unless it had no time at all. -/
structure Dials (limit : Duration) (tried : List SocketAddr) (w w' : World) : Prop where
  /-- Nothing but the attempts was done towards peers. -/
  tries : w.Tries limit tried w'
  /-- As many outcomes are used up as there were attempts, if there was time for any. -/
  dials_eq : w'.dials = if limit.isZero then w.dials else w.dials.drop tried.length
  /-- The attempts take their time one after the other. -/
  now_eq : w'.now = if limit.isZero then w.now else
    ((w.dials.take tried.length).map (DialOutcome.duration limit)).foldl (· + ·) w.now

/-- The world after an attempt to connect by which no connection was made. -/
def dialed (addr : SocketAddr) (limit : Duration) (w : World) : World :=
  let w' := w.record (.dial addr limit)
  if limit.isZero then
    w'
  else
    { w' with
      dials := w.dials.drop 1
      now := ((w.dials.take 1).map (DialOutcome.duration limit)).foldl (· + ·) w.now }

section Dials

variable {limit : Duration} {first second : List SocketAddr} {u v w : World}

/-- Between a world and itself no address was tried, no outcome was taken and no time passed. -/
theorem Dials.refl (limit : Duration) (w : World) : w.Dials limit [] w where
  tries := .refl limit w
  dials_eq := (ite_self _).symm
  now_eq := (ite_self _).symm

/-- Addresses may be tried after others. Their outcomes are taken one after the other, and the times
that they take add up. -/
theorem Dials.trans (huv : u.Dials limit first v) (hvw : v.Dials limit second w) :
    u.Dials limit (first ++ second) w where
  tries := huv.tries.trans hvw.tries
  dials_eq := by
    rw [hvw.dials_eq, huv.dials_eq, List.length_append]
    split
    · rfl
    · rw [List.drop_drop]
  now_eq := by
    rw [hvw.now_eq, huv.now_eq, huv.dials_eq, List.length_append]
    split
    · rfl
    · rw [List.take_add, List.map_append, List.foldl_append]

/-- Noting down what is not done towards a peer takes no time and no outcome. -/
theorem Dials.record (h : u.Dials limit first v) {event : Event} (hquiet : event.isAction = false) :
    u.Dials limit first (v.record event) where
  tries := by
    refine ⟨?_, h.tries.threads_eq, h.tries.spawns_eq⟩
    rw [← h.tries.actions_eq]
    exact List.filter_cons_of_neg (by rw [hquiet]; nofun)
  dials_eq := h.dials_eq
  now_eq := h.now_eq

/-- After one attempt, the second outcome is the next one. Where there is no time at all, all of
them are the same. -/
theorem Dials.prospect_eq {addr : SocketAddr} (h : u.Dials limit [addr] v) (earlier : Nat) :
    v.prospect limit earlier = u.prospect limit (earlier + 1) := by
  unfold prospect
  rw [h.dials_eq]
  split
  · rfl
  · rw [List.length_singleton, List.getElem?_drop, Nat.add_comm 1 earlier]

/-- An attempt that fails, and others that fail after it, are one more attempt that fails. -/
theorem Dials.refuses_succ {addr : SocketAddr} (h : u.Dials limit [addr] v) {error : IoError}
    (hfirst : u.prospect limit 0 = .error error) {count : Nat} (hrest : v.Refuses limit count) :
    u.Refuses limit (count + 1) := by
  rintro (_ | k) hk
  · exact ⟨error, hfirst⟩
  · obtain ⟨failure, hfailure⟩ := hrest k (Nat.lt_of_succ_lt_succ hk)
    exact ⟨failure, by rw [← h.prospect_eq, hfailure]⟩

end Dials

variable (addr : SocketAddr) (limit : Duration) (w : World)

/-- An attempt by which no connection was made tried its address and took an outcome. -/
theorem dials_dialed : w.Dials limit [addr] (w.dialed addr limit) := by
  unfold dialed
  by_cases hzero : limit.isZero = true
  · simp only [if_pos hzero]
    exact ⟨⟨rfl, rfl, rfl⟩, (if_pos hzero).symm, (if_pos hzero).symm⟩
  · simp only [if_neg hzero]
    exact ⟨⟨rfl, rfl, rfl⟩, (if_neg hzero).symm, (if_neg hzero).symm⟩

/-- An attempt by which no connection was made concerns no connection. -/
theorem sameTraffic_dialed : w.SameTraffic (w.dialed addr limit) := by
  unfold dialed
  simp only
  split <;> exact ⟨rfl, fun _ => rfl, rfl⟩

end World

namespace Link

/-- The connection with limits on reads and on writes. -/
def limited (limit : Duration) (link : Link) : Link :=
  { link with
    inbound := { link.inbound with timeout := some limit }
    outbound := { link.outbound with timeout := some limit } }

/-- Setting a connection up fails with the first call on its socket that fails, and gives it its
limits if none does. -/
theorem setUp_eq (limit : Duration) (link : Link) :
    link.setUp limit =
      match link.faults.setUp? with
      | some error => .error error
      | none => .ok (link.limited limit) := by
  obtain ⟨number, inbound, outbound, faults, peerAddr, localAddr⟩ := link
  obtain ⟨read, write, nodelay, peer, duplicate, own, shutdown⟩ := faults
  cases read <;> cases write <;> cases nodelay <;> cases peer <;> cases duplicate <;> rfl

/-- The connection to an address that a world makes next. -/
def next (w : World) (addr : SocketAddr) (script : PeerScript) : Link :=
  ofScript w.made script addr (ownEnd w.made addr)

/-- The calls that fail on a connection are those of its script. -/
theorem faults_next (w : World) (addr : SocketAddr) (script : PeerScript) :
    (next w addr script).faults = script.faults := rfl

/-- One attempt to connect comes to what the world holds for it. If that is a failure, no
connection is made. -/
theorem dial_eq (addr : SocketAddr) (limit : Duration) (w : World) :
    dial addr limit w =
      match w.prospect limit 0 with
      | .error error => (.error error, w.dialed addr limit)
      | .ok script => (.ok (next w addr script),
          { w.dialed addr limit with made := w.made + 1 }.record (.opened w.made)) := by
  obtain ⟨now, names, lookups, dials, spawns, made, threads, history⟩ := w
  unfold dial World.prospect World.dialed
  by_cases hzero : limit.isZero = true
  · simp only [if_pos hzero]
  · simp only [if_neg hzero]
    rcases dials with - | ⟨⟨delay, error⟩ | ⟨delay, script⟩, rest⟩
    · rfl
    all_goals
      have hspan : min limit delay = if limit ≤ delay then limit else delay := rfl
      by_cases hlate : limit ≤ delay <;>
        simp [World.record, World.wait, DialOutcome.verdict, DialOutcome.duration, next, ofScript,
          hspan, hlate]

/-- One attempt to connect fails as the world holds it, and no connection is made, or it makes the
connection that the world holds. -/
theorem dial_settles (addr : SocketAddr) (limit : Duration) (w : World) :
    ∃ u, w.Dials limit [addr] u ∧
      ((∃ error, w.prospect limit 0 = .error error ∧
          dial addr limit w = (.error error, u) ∧ w.SameTraffic u) ∨
        ∃ script, w.prospect limit 0 = .ok script ∧
          dial addr limit w = (.ok (next w addr script), u) ∧
          w.Makes (next w addr script) u) := by
  have hdials := w.dials_dialed addr limit
  have hsame := w.sameTraffic_dialed addr limit
  rw [dial_eq]
  cases w.prospect limit 0 with
  | error error => exact ⟨_, hdials, .inl ⟨error, rfl, rfl, hsame⟩⟩
  | ok script =>
    let made : World := { w.dialed addr limit with made := w.made + 1 }
    have htries : w.Tries limit [addr] made :=
      ⟨hdials.tries.actions_eq, hdials.tries.threads_eq, hdials.tries.spawns_eq⟩
    have hmade : w.Dials limit [addr] made := ⟨htries, hdials.dials_eq, hdials.now_eq⟩
    refine ⟨_, hmade.record rfl, .inr ⟨script, rfl, rfl, ?_⟩⟩
    refine ⟨rfl, rfl, rfl, fun c => ?_, hsame.tally_eq⟩
    change ((w.dialed addr limit).account c).note c (.opened w.made) = _
    rw [hsame.account_eq]
    rfl

/-- How trying addresses in turn ends, given the failure that is reported for none of them: which
were tried, and what is returned. -/
inductive Settles (failure : ChannelError) (limit : Duration) (w : World) :
    List SocketAddr → List SocketAddr → Except ChannelError Link → Prop
  /-- The first address that accepts is connected to. -/
  | connected {before after : List SocketAddr} {addr : SocketAddr} {script : PeerScript}
      (hrefused : w.Refuses limit before.length)
      (haccepted : w.prospect limit before.length = .ok script)
      (hsound : script.faults.setUp? = none) :
      Settles failure limit w (before ++ addr :: after) (before ++ [addr])
        (.ok ((next w addr script).limited limit))
  /-- The first address that accepts makes a connection that cannot be set up. -/
  | spoiled {before after : List SocketAddr} {addr : SocketAddr} {script : PeerScript}
      {error : IoError} (hrefused : w.Refuses limit before.length)
      (haccepted : w.prospect limit before.length = .ok script)
      (hfault : script.faults.setUp? = some error) :
      Settles failure limit w (before ++ addr :: after) (before ++ [addr]) (.error (.io error))
  /-- No address accepts. The last one is reported, with its own failure. -/
  | refused {before : List SocketAddr} {last : SocketAddr} {error : IoError}
      (hrefused : w.Refuses limit before.length)
      (hlast : w.prospect limit before.length = .error error) :
      Settles failure limit w (before ++ [last]) (before ++ [last])
        (.error (.connectFailed last error))
  /-- There is no address. -/
  | none : Settles failure limit w [] [] (.error failure)

/-- One more address is refused before the others. The failure that it would have been reported with
is replaced by that of a later address. -/
theorem Settles.cons {failure : ChannelError} {limit : Duration} {w u : World} {addr : SocketAddr}
    {addrs tried : List SocketAddr} {error : IoError} {result : Except ChannelError Link}
    (hdials : w.Dials limit [addr] u) (hfirst : w.prospect limit 0 = .error error)
    (hmade : u.made = w.made)
    (h : Settles (.connectFailed addr error) limit u addrs tried result) :
    Settles failure limit w (addr :: addrs) (addr :: tried) result := by
  have hnext (addr : SocketAddr) (script : PeerScript) :
      next u addr script = next w addr script := by
    unfold next
    rw [hmade]
  cases h with
  | connected hrefused haccepted hsound =>
    rw [hdials.prospect_eq] at haccepted
    rw [hnext, ← List.cons_append, ← List.cons_append]
    exact .connected (hdials.refuses_succ hfirst hrefused) haccepted hsound
  | spoiled hrefused haccepted hfault =>
    rw [hdials.prospect_eq] at haccepted
    rw [← List.cons_append, ← List.cons_append]
    exact .spoiled (hdials.refuses_succ hfirst hrefused) haccepted hfault
  | refused hrefused hlast =>
    rw [hdials.prospect_eq] at hlast
    rw [← List.cons_append]
    exact .refused (hdials.refuses_succ hfirst hrefused) hlast
  | none =>
    rw [← List.nil_append [addr]]
    exact .refused (w.refuses_zero limit) hfirst

/-- Trying addresses in turn settles what is reported. Connections that were made meanwhile are not
in use afterwards, other than the one that is returned. The induction is on the addresses, with the
failure to be reported taken along. -/
theorem settles_connectAfter (failure : ChannelError) (limit : Duration) (addrs : List SocketAddr)
    (w : World) :
    ∃ tried result u, connectAfter failure limit addrs w = (result, u) ∧
      w.Dials limit tried u ∧ Settles failure limit w addrs tried result ∧
      ((∃ e, result = .error e ∧ w.Seeks 0 u) ∨ ∃ link, result = .ok link ∧ w.Makes link u) := by
  induction addrs generalizing failure w with
  | nil =>
    exact ⟨[], _, w, rfl, .refl limit w, .none, .inl ⟨failure, rfl, .refl w⟩⟩
  | cons addr addrs ih =>
    unfold connectAfter
    obtain ⟨u, hdials, ⟨error, hfirst, hdial, hsame⟩ | ⟨script, hfirst, hdial, hmakes⟩⟩ :=
      dial_settles addr limit w
    · rw [hdial]
      obtain ⟨tried, result, v, hrest, hdials', hsettles, htraffic⟩ :=
        ih (.connectFailed addr error) u
      refine ⟨addr :: tried, result, v, hrest, hdials.trans hdials',
        hsettles.cons hdials hfirst hsame.made_eq, ?_⟩
      have hseeks : w.Seeks 0 u := .of_unchanged hsame.made_eq hsame.account_eq hsame.tally_eq
      rcases htraffic with ⟨e, he, hseeks'⟩ | ⟨link, hlink, hmakes⟩
      · exact .inl ⟨e, he, hseeks.trans hseeks'⟩
      · refine .inr ⟨link, hlink, hmakes.number_eq.trans hsame.made_eq, hmakes.unused, ?_, ?_, ?_⟩
        · rw [hmakes.made_eq, hsame.made_eq]
        · intro c
          rw [hmakes.account_eq, hsame.account_eq]
        · rw [hmakes.tally_eq, hsame.tally_eq]
    · have hsetUp := setUp_eq limit (next w addr script)
      rw [faults_next] at hsetUp
      rw [hdial]
      cases hfault : script.faults.setUp? with
      | some error =>
        rw [hfault] at hsetUp
        simp only [hsetUp]
        refine ⟨[addr], _, _, rfl, hdials.record rfl, ?_, .inl ⟨_, rfl, hmakes.seeks_closed⟩⟩
        rw [← List.nil_append (addr :: addrs), ← List.nil_append [addr]]
        exact .spoiled (w.refuses_zero limit) hfirst hfault
      | none =>
        rw [hfault] at hsetUp
        simp only [hsetUp]
        refine ⟨[addr], _, u, rfl, hdials, ?_, .inr ⟨_, rfl, ?_⟩⟩
        · rw [← List.nil_append (addr :: addrs), ← List.nil_append [addr]]
          exact .connected (w.refuses_zero limit) hfirst hfault
        · exact ⟨hmakes.number_eq, hmakes.unused, hmakes.made_eq, hmakes.account_eq,
            hmakes.tally_eq⟩

/-- The connection that is returned is one to the address that was tried last. -/
theorem Settles.getLast?_eq {failure : ChannelError} {limit : Duration} {w : World}
    {addrs tried : List SocketAddr} {result : Except ChannelError Link}
    (h : Settles failure limit w addrs tried result) {link : Link} (hlink : result = .ok link) :
    tried.getLast? = some link.peerAddr := by
  cases h with
  | connected =>
    cases hlink
    exact List.getLast?_concat
  | spoiled | refused | none => cases hlink

/-- Addresses are tried strictly in order, each of them once, and none after the first one that
accepts. A connection that is made is one to that address, with its limits set. If it cannot be set
up, the failure is that of the first call on its socket that fails. If no address accepts, the
failure names the last of them together with its own error. Without any address nothing is tried.
Of the connections that were made meanwhile, only the one that is returned is still in use, and
earlier ones are left alone. -/
theorem connect_takes_first_accepting (addrs : List SocketAddr) (limit : Duration) (w : World) :
    ∃ tried result u, connect addrs limit w = (result, u) ∧ tried <+: addrs ∧
      w.Dials limit tried u ∧ Settles (.io noAddress) limit w addrs tried result ∧
      (∀ link, result = .ok link → tried.getLast? = some link.peerAddr) ∧
      (∀ c, w.made ≤ c → c < u.made → (u.account c).isOpen = true →
        ∃ link, result = .ok link ∧ link.number = c) ∧
      ∀ c < w.made, u.account c = w.account c := by
  obtain ⟨tried, result, u, hconnect, hdials, hsettles, htraffic⟩ :=
    settles_connectAfter (.io noAddress) limit addrs w
  have hprefix : tried <+: addrs := by
    cases hsettles with
    | connected | spoiled => exact (List.prefix_append_right_inj _).2 (List.prefix_append [_] _)
    | refused | none => exact List.prefix_rfl
  refine ⟨tried, result, u, hconnect, hprefix, hdials, hsettles,
    fun link => hsettles.getLast?_eq, ?_⟩
  rcases htraffic with ⟨e, rfl, hseeks⟩ | ⟨link, rfl, hmakes⟩
  · refine ⟨fun c hle hlt hopen => ?_, fun c hlt => ?_⟩
    · rw [hseeks.account_eq, if_pos ⟨hle, hlt⟩] at hopen
      simp [Account.isOpen, Account.finish] at hopen
    · rw [hseeks.account_eq, if_neg (by omega)]
  · have hnumber := hmakes.number_eq
    have hmade := hmakes.made_eq
    refine ⟨fun c hle hlt _ => ⟨link, rfl, by omega⟩, fun c hlt => ?_⟩
    rw [hmakes.account_eq, if_neg (by omega)]

end Link

end CommandChannel
