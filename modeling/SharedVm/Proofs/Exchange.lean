import SharedVm.Exchange
import SharedVm.Proofs.Request.Build
import SharedVm.Proofs.Text.Utf8
import SharedVm.Proofs.Trace

/-!
# One exchange

What a request leaves behind: nothing, if it is refused before anything is sent, or one connection
to the next peer. Only that the peer is not reached, or that the connection fails before the reply
is there, counts as a failure to connect.
-/

namespace SharedVm

open Act

namespace Peer

/-- What follows in the trace once a connection to the peer has been asked for. -/
def talk (payload : Bytes) : Peer → List Event
  | unreachable _ => []
  | deaf _ => [.closed]
  | answering .. => [.send payload, .closed]

def reply : Peer → Except Report Bytes
  | unreachable r => .error r
  | deaf r => .error r
  | answering pieces ending => Exchange.readLine ending [] (Exchange.received pieces)

/-- The request gets through to the peer. -/
def hears : Peer → Bool
  | answering .. => true
  | _ => false

/-- What fails is the connection, whether or not the request got through. -/
def breaksOff (p : Peer) : Bool :=
  match p.reply with
  | .ok _ => false
  | .error r => r.isSystem

/-- The request gets through to the peer, but the connection fails before its reply is there. -/
def losesReply (p : Peer) : Bool := p.hears && p.breaksOff

end Peer

namespace World

/-- Whom the next connection meets. -/
def peer (w : World) : Peer := w.peers.headD (.unreachable .refused)

/-- After one connection to the next peer. -/
def talked (w : World) (host : Text) (port : Int) (timeout : Option Value) (payload : Bytes) :
    World :=
  { w with
    peers := w.peers.tail
    events := w.events ++ .connect host port timeout :: w.peer.talk payload }

lemma Local.peer {w v : World} (h : w.Local v) : v.peer = w.peer := by
  rw [h]
  rfl

lemma Local.talked {w v : World} (h : w.Local v) (host : Text) (port : Int)
    (timeout : Option Value) (payload : Bytes) :
    (w.talked host port timeout payload).Local (v.talked host port timeout payload) := by
  unfold World.Local
  rw [World.talked, World.talked, h.peer, h]

end World

namespace Exchange

variable {w : World}

lemma run_nextPeer (w : World) : nextPeer.run w = (.ok w.peer, { w with peers := w.peers.tail }) := by
  rcases w with ⟨_, _, _, _, _, _ | ⟨p, rest⟩, _, _, _⟩
  · rfl
  · rfl

lemma run_converse (host : Text) (port : Int) (timeout : Option Value) (payload : Bytes)
    (w : World) : (converse host port timeout payload).run w =
      (w.peer.reply.mapError .report, w.talked host port timeout payload) := by
  unfold converse World.talked
  rw [run_bind_of_ok (run_event _ w), run_bind_of_ok (run_nextPeer _),
    show ({ w with events := w.events ++ [.connect host port timeout] } : World).peer = w.peer from
      rfl]
  cases w.peer with
  | unreachable r => rfl
  | deaf r =>
    dsimp only
    rw [run_bind_of_ok (run_event _ _)]
    simp only [Peer.talk, Peer.reply, List.append_assoc]
    rfl
  | answering pieces ending =>
    dsimp only
    rw [run_bind_of_ok (run_event _ _), run_bind_of_ok (run_event _ _)]
    simp only [Peer.talk, Peer.reply, List.append_assoc]
    cases readLine ending [] (received pieces) with
    | ok line => rfl
    | error r => rfl

/-- No line but `OK`, with or without a carriage return, is read as the text that accepts. -/
lemma replyText_eq_accepted_iff (line : Bytes) :
    replyText line = accepted ↔ line = [0x4F, 0x4B] ∨ line = [0x4F, 0x4B, 0x0D] := by
  have hplain : Utf8.decode line = accepted ↔ line = [0x4F, 0x4B] :=
    Utf8.decode_eq_iff (by decide)
  have hreturn : Utf8.decode line = accepted ++ [.char '\r'] ↔ line = [0x4F, 0x4B, 0x0D] :=
    Utf8.decode_eq_iff (by decide)
  rw [← hplain, ← hreturn]
  unfold replyText
  dsimp only
  split
  · rename_i hlast
    obtain ⟨front, hfront⟩ := List.getLast?_eq_some_iff.1 hlast
    rw [hfront, List.dropLast_concat, List.append_left_inj]
    refine ⟨.inr, fun h => h.resolve_left fun he => ?_⟩
    rw [hfront, he] at hlast
    cases hlast
  · rename_i hlast
    refine ⟨.inl, fun h => h.resolve_right fun he => hlast ?_⟩
    rw [he]
    rfl

/-- What the line that was read means for a request to a port. -/
def verdict (port : Value) (line : Bytes) : Except Failure Unit :=
  if line = [0x4F, 0x4B] ∨ line = [0x4F, 0x4B, 0x0D] then .ok ()
  else .error (.launch (.server (replyText line) (some port)))

/-- What becomes of a request to a port once the reading is over. -/
def outcome (port : Value) : Except Report Bytes → Except Failure Unit
  | .ok line => verdict port line
  | .error r => .error (if r.isSystem then .launch (.connection r (some port)) else .report r)

/-- Only a connection that the operating system has broken off counts as a failure to connect. -/
lemma outcome_connection {port : Value} {s : Except Report Bytes} {e : LaunchError}
    (h : outcome port s = .error (.launch e)) (hk : e.kind = .connection) :
    ∃ r, s = .error r ∧ r.isSystem = true := by
  cases s with
  | ok line =>
    unfold outcome verdict at h
    dsimp only at h
    split at h
    · cases h
    · cases h
      cases hk
  | error r =>
    unfold outcome at h
    dsimp only at h
    split at h
    · rename_i hr
      exact ⟨r, rfl, hr⟩
    · cases h

lemma run_send_of_not_whole {port : Value} {e : WholeError} (hn : port.whole = .error e)
    (payload : Bytes) (host : Text) (timeout : Option Value) (w : World) :
    (send port (.ok payload) host timeout).run w = (.error (.notWhole e), w) := by
  unfold send
  dsimp only
  rw [run_bind_of_error (run_whole hn w)]

lemma exists_run_send {port : Value} {number : Int} (hn : port.whole = .ok number)
    (payload : Bytes) (host : Text) (timeout : Option Value) (w : World) :
    ∃ v, (send port (.ok payload) host timeout).run w = (outcome port w.peer.reply, v) ∧
      (w.talked host number timeout payload).Local v := by
  have hc := run_converse host number timeout payload w
  unfold send
  dsimp only
  rw [run_bind_of_ok (run_whole_of_ok hn w), run_bind, orReport]
  cases hp : w.peer.reply with
  | ok line =>
    rw [hp] at hc
    rw [run_tryCatch_of_ok hc]
    have hiff := replyText_eq_accepted_iff line
    refine ⟨_, ?_, refl_of World.Local _⟩
    unfold outcome verdict
    dsimp only
    by_cases ht : replyText line = accepted
    · rw [if_neg (absurd ht), if_pos (hiff.1 ht)]
      rfl
    · rw [if_pos ht, if_neg (mt hiff.2 ht)]
      rfl
  | error r =>
    rw [hp] at hc
    rw [run_tryCatch_of_error hc]
    unfold outcome
    dsimp only
    by_cases hr : r.isSystem = true
    · rw [if_pos hr, if_pos hr, run_bind_of_ok (run_note _ _)]
      exact ⟨_, rfl, Within.local_note _ _⟩
    · rw [if_neg hr, if_neg hr]
      exact ⟨_, rfl, refl_of World.Local _⟩

/-- A request to a port was refused before anything was sent, or made one connection to the next
peer. -/
inductive Asks (port : Value) (w : World) : Except Failure Unit → World → Prop
  | unsent {f : Failure} {v : World} (hv : w.Local v)
      (hf : ∀ e, f = .launch e → e.kind ≠ .connection) : Asks port w (.error f) v
  | talked {r : Except Failure Unit} {v : World} {number : Int} (host : Text)
      (timeout : Option Value) (payload : Bytes) (hn : port.whole = .ok number)
      (hv : (w.talked host number timeout payload).Local v)
      (hr : ∀ e, r = .error (.launch e) → e.kind = .connection → w.peer.breaksOff = true) :
      Asks port w r v

variable {port : Value}

lemma Asks.after_local {u v : World} {r : Except Failure Unit} (hu : w.Local u)
    (h : Asks port u r v) : Asks port w r v := by
  cases h with
  | unsent hv hf => exact .unsent (trans_of World.Local hu hv) hf
  | talked host timeout payload hn hv hr =>
    exact .talked host timeout payload hn (trans_of World.Local (hu.talked _ _ _ _) hv)
      (hu.peer ▸ hr)

/-- An exchange has nothing to do with relays. -/
lemma Asks.unrelayed {v : World} {r : Except Failure Unit} (h : Asks port w r v) :
    w.Unrelayed v := by
  cases h with
  | unsent hv _ => exact hv.unrelayed
  | @talked _ _ number host timeout payload _ hv _ =>
    have hnone : ∀ e ∈ Event.connect host number timeout :: w.peer.talk payload,
        e.isOfRelay = false := by
      cases w.peer <;> simp [Peer.talk, Event.isOfRelay]
    have htalked : w.Unrelayed (w.talked host number timeout payload) := ⟨rfl, _, rfl, hnone⟩
    exact trans_of World.Unrelayed htalked hv.unrelayed

lemma Asks.connectsTo {number : Int} {v : World} {r : Except Failure Unit}
    (h : Asks (.int number) w r v) : w.ConnectsTo number v := by
  cases h with
  | unsent hv _ => exact hv.offline.connectsTo number
  | talked host timeout payload hn hv _ =>
    cases hn
    have htalked : w.ConnectsTo number (w.talked host number timeout payload) := by
      refine ⟨_, rfl, fun host' number' timeout' hm => ?_⟩
      cases hp : w.peer <;> rw [hp] at hm <;> simp [Peer.talk] at hm <;> exact hm.2.1
    exact trans_of (World.ConnectsTo number) htalked (hv.offline.connectsTo number)

lemma send_asks (port : Value) (wire : Except Failure Bytes) (host : Text)
    (timeout : Option Value) (w : World) :
    Asks port w ((send port wire host timeout).run w).1 ((send port wire host timeout).run w).2 := by
  cases wire with
  | error f =>
    refine .unsent (refl_of World.Local w) fun e he => ?_
    cases he
    exact nofun
  | ok payload =>
    cases hn : port.whole with
    | error e =>
      rw [run_send_of_not_whole hn]
      exact .unsent (refl_of World.Local w) (fun _ => nofun)
    | ok number =>
      obtain ⟨v, hrun, hv⟩ := exists_run_send hn payload host timeout w
      rw [hrun]
      refine .talked host timeout payload hn hv fun e he hk => ?_
      obtain ⟨r, hreply, hr⟩ := outcome_connection he hk
      rw [Peer.breaksOff, hreply]
      exact hr

end Exchange

lemma Exchange.request_asks (port command args env : Value) (host : Text)
    (timeout : Option Value) (w : World) :
    Asks port w ((request port command args env host timeout).run w).1
      ((request port command args env host timeout).run w).2 := by
  unfold request
  cases hb : Request.build command args env with
  | error f =>
    refine .unsent (refl_of World.Local w) fun e he => ?_
    subst he
    rw [Request.kind_of_build hb]
    exact nofun
  | ok r =>
    rw [run_bind_of_ok (run_ofExcept (.ok r) w), run_bind_of_ok (run_note _ w)]
    exact (send_asks port r.wire host timeout _).after_local (Within.local_note _ w)

end SharedVm
