import CraftIP.Client.Reader
import CraftIP.Client.Writer
import CraftIP.ProxyHandler.Writer

/-!
# The measured ping

Twice the client cuts the milliseconds of a session to 16 bits: when it sends a ping, and when the pong with
the same number comes back. The difference, which does not go below 0, is the time between as long as the
16-bit clock was not turned over in between (`reportsRoundTrip_iff`).
-/

namespace CraftIP

/-- `start.elapsed().as_millis() as u16` -/
def elapsedMillis (millis : Nat) : PingPacket := UInt16.ofNat millis

/-- What `reader_handler` sends to `to_proxy_tx` when it is time for a ping. -/
def keepalive (millis : Nat) : BackendToProxy := .ping (elapsedMillis millis)

namespace ProxyHandler
variable {IdTx Tx : Type}

/-- What the server's `handle_reader` passes on for a ping. -/
def handleReaderPing : SocketPacket → Option (ClientToProxy IdTx Tx)
  | .proxyPing packet => some (.answerPingPacket packet)
  | _ => none

/-- The server's answer to a packet, if it is a ping. -/
def pong (distributor : Distributor Tx) (packet : SocketPacket) : Option SocketPacket := do
  let m : ClientToProxy Tx Tx ← handleReaderPing packet
  let resp ← (HandleWriter.respond distributor true m).2
  resp

end ProxyHandler

/-- The ping that is sent at the time `s`, and whose pong is handled at the time `r`, is reported as `r - s`,
whatever the client and the server have done before. -/
def ReportsRoundTrip (s r : Nat) : Prop :=
  ∀ (Tx : Type) (distributor : Distributor Tx) (client : Client Tx) (clientTx : Tx) (sent : Bool),
    ∃ packet answer, WriterHandler.respond true (keepalive s) = some packet ∧
      ProxyHandler.pong distributor packet = some answer ∧
      ∃ ping : UInt16, ping.toNat = r - s ∧
        client.readerHandler (.next (some (.ok answer)) clientTx sent (elapsedMillis r)) =
          ({ client with stats := client.stats ++ [.ping ping] }, none)

theorem pong_keepalive {Tx : Type} (distributor : Distributor Tx) (s : Nat) :
    WriterHandler.respond true (keepalive s) = some (.proxyPing (elapsedMillis s)) ∧
      ProxyHandler.pong distributor (.proxyPing (elapsedMillis s)) = some (.proxyPong (elapsedMillis s)) :=
  ⟨rfl, rfl⟩

theorem toNat_elapsedMillis (millis : Nat) : (elapsedMillis millis).toNat = millis % 65536 :=
  UInt16.toNat_ofNat'

/-- The difference of two readings of the 16-bit clock. -/
theorem toNat_saturatingSub (ping time : UInt16) :
    (if ping ≤ time then time - ping else 0).toNat = time.toNat - ping.toNat := by
  split
  · next hle => exact UInt16.toNat_sub_of_le _ _ hle
  · next hlt =>
    rw [UInt16.le_iff_toNat_le] at hlt
    rw [UInt16.toNat_zero]
    omega

theorem reportsRoundTrip_iff_sub {s r : Nat} : ReportsRoundTrip s r ↔ r % 65536 - s % 65536 = r - s := by
  constructor
  · intro h
    obtain ⟨packet, answer, hpacket, hanswer, ping, hping, hreport⟩ := h Unit .default .new () true
    cases hpacket.symm.trans (pong_keepalive (.default : Distributor Unit) s).1
    cases hanswer.symm.trans (pong_keepalive (.default : Distributor Unit) s).2
    cases hreport
    rw [toNat_saturatingSub, toNat_elapsedMillis, toNat_elapsedMillis] at hping
    exact hping
  · intro h Tx distributor client clientTx sent
    refine ⟨_, _, (pong_keepalive distributor s).1, (pong_keepalive distributor s).2, _, ?_, rfl⟩
    rw [toNat_saturatingSub, toNat_elapsedMillis, toNat_elapsedMillis]
    exact h

/-- For all times of sending and of handling less than 65536 milliseconds apart: the report is the time between
if and only if no multiple of 65536 came in between. -/
theorem reportsRoundTrip_iff {s r : Nat} (hsr : s ≤ r) (hlt : r - s < 65536) :
    ReportsRoundTrip s r ↔ s / 65536 = r / 65536 := by
  rw [reportsRoundTrip_iff_sub]
  omega

/-- Some seventy seconds after the start. -/
theorem reportsRoundTrip_seventy : ReportsRoundTrip 70000 70120 :=
  (reportsRoundTrip_iff (by decide) (by decide)).2 (by decide)

/-- The pong comes a millisecond later, and the clock is turned over in between: 0 is reported. -/
theorem not_reportsRoundTrip :
    ¬ ∀ s r : Nat, s ≤ r → r - s < 65536 → ReportsRoundTrip s r := by
  intro h
  have hsub := reportsRoundTrip_iff_sub.1 (h 65535 65536 (by decide) (by decide))
  exact absurd hsub (by decide)

end CraftIP
