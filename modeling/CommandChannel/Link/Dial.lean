import CommandChannel.Error
import CommandChannel.Link.Basic

/-!
# Making a connection

A connection is made to the first of several addresses that accepts. Each attempt has the whole
limit to itself.
-/

namespace CommandChannel

namespace Link

/-- The failure of an attempt to connect within no time. -/
def noTime : IoError := ⟨.invalidInput, "cannot set a 0 duration timeout"⟩

/-- The failure of an attempt to connect that takes too long. -/
def tooLate : IoError := ⟨.timedOut, "connection timed out"⟩

/-- The failure of a connection to one of no addresses. -/
def noAddress : IoError := ⟨.invalidInput, "No address provided"⟩

/-- One attempt to connect. Time passes until it is decided, but no more than the limit. -/
def dial (addr : SocketAddr) (limit : Duration) (w : World) : Except IoError Link × World :=
  let w := w.record (.dial addr limit)
  if limit.isZero then
    (.error noTime, w)
  else
    match w.dials with
    | [] => (.error IoKind.connectionRefused.error, w)
    | .refused delay error :: rest =>
      let w := { w with dials := rest }
      if limit ≤ delay then (.error tooLate, w.wait limit) else (.error error, w.wait delay)
    | .accepted delay script :: rest =>
      let w := { w with dials := rest }
      if limit ≤ delay then
        (.error tooLate, w.wait limit)
      else
        let link := ofScript w.made script addr (ownEnd w.made addr)
        (.ok link, ({ w with made := w.made + 1 }.wait delay).record (.opened link.number))

/-- Connect to the first address that accepts. Where none does, the failure is that of the last;
where the connection that was made cannot be set up, no further address is tried. -/
def connectAfter (failure : ChannelError) (limit : Duration) :
    List SocketAddr → World → Except ChannelError Link × World
  | [], w => (.error failure, w)
  | addr :: addrs, w =>
    match dial addr limit w with
    | (.error error, w) => connectAfter (.connectFailed addr error) limit addrs w
    | (.ok link, w) =>
      match link.setUp limit with
      | .ok link => (.ok link, w)
      | .error error => (.error (.io error), w.record (.closed link.number))

/-- Connect to the first of the addresses that accepts. -/
def connect (addrs : List SocketAddr) (limit : Duration) (w : World) :
    Except ChannelError Link × World :=
  connectAfter (.io noAddress) limit addrs w

end Link

end CommandChannel
