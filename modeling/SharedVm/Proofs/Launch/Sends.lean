import SharedVm.Proofs.Launch.Delivery

/-!
# How often a request gets through

A launch makes another request when the one before it failed to connect. That a connection fails
while the reply is read counts as a failure to connect, so a request can get through twice; every
server that heard it, except for the last one that was met, lost its reply on the way.
-/

namespace SharedVm

open Act

/-- Servers that were met between two worlds, and what happened meanwhile. -/
structure World.Meets (used : List Peer) (es : List Event) (w v : World) : Prop where
  peers : w.peers = used ++ v.peers
  events : v.events = w.events ++ es

namespace World.Meets

variable {used used' : List Peer} {es es' : List Event} {w v u : World}

lemma trans (h : w.Meets used es v) (k : v.Meets used' es' u) :
    w.Meets (used ++ used') (es ++ es') u where
  peers := by rw [h.peers, k.peers, List.append_assoc]
  events := by rw [k.events, h.events, List.append_assoc]

lemma of_local (h : w.Local v) : w.Meets [] [] v where
  peers := h.offline.tape.symm
  events := by rw [h.events, List.append_nil]

/-- One connection meets the next server of the tape, if there is one. -/
lemma of_talked {host : Text} {port : Int} {timeout : Option Value} {payload : Bytes}
    (h : (w.talked host port timeout payload).Local v) :
    w.Meets (w.peers.take 1) (.connect host port timeout :: w.peer.talk payload) v where
  peers := by rw [h.offline.tape, World.talked, ← List.drop_one, List.take_append_drop]
  events := h.events

lemma doing (w : World) (es : List Event) : w.Meets [] es { w with events := w.events ++ es } :=
  ⟨rfl, rfl⟩

lemma and_local {es : List Event} (h : w.Meets used es v) (hu : v.Local u) : w.Meets used es u where
  peers := by rw [hu.offline.tape, h.peers]
  events := by rw [hu.events, h.events]

lemma of_offline (h : w.Offline v) : ∃ es, w.Meets [] es v ∧ ∀ e ∈ es, e.isTalk = false := by
  obtain ⟨ht, es, he, hes⟩ := h
  exact ⟨es, ⟨ht.symm, he⟩, hes⟩

end World.Meets

/-- No connection is asked for once a request has been sent. -/
def SendsLast (es : List Event) : Prop :=
  es.Pairwise fun a b => a.isSend = true → b.isConnect = false

namespace SendsLast

variable {a b es : List Event}

lemma append (ha : SendsLast a) (hb : SendsLast b)
    (h : (∀ e ∈ a, e.isSend = false) ∨ ∀ e ∈ b, e.isConnect = false) : SendsLast (a ++ b) := by
  refine List.pairwise_append.2 ⟨ha, hb, fun x hx y hy hs => ?_⟩
  rcases h with h | h
  · exact absurd hs (Bool.eq_false_iff.1 (h x hx))
  · exact h y hy

lemma of_no_send (h : ∀ e ∈ es, e.isSend = false) : SendsLast es :=
  List.pairwise_iff_forall_sublist.2 fun hab hs =>
    absurd hs (Bool.eq_false_iff.1 (h _ (hab.subset List.mem_cons_self)))

end SendsLast

lemma Event.isSend_eq_false {e : Event} (h : e.isTalk = false) : e.isSend = false :=
  Bool.eq_false_iff.2 fun hs => Bool.eq_false_iff.1 h (isTalk_of_isSend hs)

lemma Event.isConnect_eq_false {e : Event} (h : e.isTalk = false) : e.isConnect = false :=
  Bool.eq_false_iff.2 fun hs => Bool.eq_false_iff.1 h (isTalk_of_isConnect hs)

namespace Launch

/-- What passes between a launch and servers while one request is made, at most. -/
structure Passes (used : List Peer) (es : List Event) (r : Except Failure Unit) : Prop where
  once : used.length ≤ 1
  heard : es.countP Event.isSend = used.countP Peer.hears
  last : SendsLast es
  lost : FailsToConnect r → ∀ p ∈ used, p.hears = true → p.losesReply = true

namespace Passes

variable {used : List Peer} {es before after : List Event} {r : Except Failure Unit}

lemma nothing (h : ∀ e ∈ es, e.isTalk = false) : Passes [] es r where
  once := Nat.zero_le 1
  heard := Event.countP_eq_zero h fun _ => Event.isTalk_of_isSend
  last := .of_no_send fun e he => Event.isSend_eq_false (h e he)
  lost _ _ hp := nomatch hp

/-- What is done around a request is no talk with servers. -/
lemma surround (h : Passes used es r) (hb : ∀ e ∈ before, e.isTalk = false)
    (ha : ∀ e ∈ after, e.isTalk = false) : Passes used (before ++ es ++ after) r where
  once := h.once
  heard := by
    rw [List.countP_append, List.countP_append, h.heard,
      Event.countP_eq_zero hb fun _ => Event.isTalk_of_isSend,
      Event.countP_eq_zero ha fun _ => Event.isTalk_of_isSend, Nat.zero_add, Nat.add_zero]
  last := by
    have hbefore : SendsLast before := .of_no_send fun e he => Event.isSend_eq_false (hb e he)
    have hafter : SendsLast after := .of_no_send fun e he => Event.isSend_eq_false (ha e he)
    exact (hbefore.append h.last (.inl fun e he => Event.isSend_eq_false (hb e he))).append hafter
      (.inr fun e he => Event.isConnect_eq_false (ha e he))
  lost := h.lost

lemma of_talked {w : World} (host : Text) (port : Int) (timeout : Option Value) (payload : Bytes)
    (h : FailsToConnect r → w.peer.breaksOff = true) :
    Passes (w.peers.take 1) (.connect host port timeout :: w.peer.talk payload) r where
  once := List.length_take_le 1 _
  heard := by
    rw [World.peer]
    rcases w.peers with _ | ⟨⟨⟩ | ⟨⟩ | ⟨⟩, rest⟩ <;> rfl
  last := by cases w.peer <;> simp [SendsLast, Peer.talk, Event.isSend, Event.isConnect]
  lost hf p hp hh := by
    have hpeer : w.peer = p := by
      rw [World.peer]
      cases htape : w.peers with
      | nil =>
        rw [htape] at hp
        cases hp
      | cons q rest =>
        rw [htape] at hp
        exact (List.mem_singleton.1 hp).symm
    rw [Peer.losesReply, hh, ← hpeer, h hf]
    rfl

end Passes

variable {α : Type} {l : Launch α} {base : Option Path} {port : Int} {command : Value}
  {args : List Value} {env : Value}

lemma passes_of_asks {target : Value} {w v : World} {r : Except Failure Unit}
    (h : Exchange.Asks target w r v) :
    ∃ used es, w.Meets used es v ∧ Passes used es r := by
  cases h with
  | unsent hv _ => exact ⟨[], [], .of_local hv, .nothing (List.forall_mem_nil _)⟩
  | talked host timeout payload _ hv hr =>
    refine ⟨_, _, .of_talked hv, .of_talked host _ timeout payload ?_⟩
    rintro ⟨e, he, hk⟩
    exact hr e he hk

lemma Delivers.passes {w v : World} {r : Except Failure Unit}
    (h : l.Delivers byExchange base port command args env w r v) :
    ∃ used es, w.Meets used es v ∧ Passes used es r := by
  have hstart := (Relay.start_starts base none w.environ w).offline
  cases h with
  | plain _ hr =>
    have hasks := Exchange.request_asks (.int port) command (.list args) env Exchange.loopback none w
    rw [byExchange] at hr
    rw [hr] at hasks
    exact passes_of_asks hasks
  | unopened _ hs | unwrapped _ hs _ =>
    rw [hs] at hstart
    obtain ⟨es, hmeets, hes⟩ := World.Meets.of_offline hstart
    exact ⟨[], es, hmeets, .nothing hes⟩
  | @relayed relay wrapped _ v u _ _ hs _ hr hx =>
    rw [hs] at hstart
    obtain ⟨before, hbefore, hquietBefore⟩ := World.Meets.of_offline hstart
    have hasks := Exchange.request_asks (.int port) (.text wrapped.1)
      (.list (wrapped.2.map .text)) env Exchange.loopback none v
    rw [byExchange] at hr
    rw [hr] at hasks
    obtain ⟨used, es, hmeets, hpasses⟩ := passes_of_asks hasks
    have hafter := (World.Meets.doing u (Relay.seenOff relay.process r)).and_local hx
    have hquietAfter : ∀ e ∈ Relay.seenOff relay.process r, e.isTalk = false := by
      unfold Relay.seenOff Relay.ended
      cases r with
      | ok x => simp [Event.isTalk]
      | error f => cases relay.process.poll <;> simp [Event.isTalk]
    have hall := (hbefore.trans hmeets).trans hafter
    rw [List.nil_append, List.append_nil] at hall
    exact ⟨used, _, hall, hpasses.surround hquietBefore hquietAfter⟩

lemma Retries.passes {delay : Value} {n m : Nat} {w u : World}
    (h : Retries (l.deliver byExchange base port command args env) port delay n w m u) :
    ∃ used es, w.Meets used es u ∧ n + used.length ≤ m ∧
      es.countP Event.isSend = used.countP Peer.hears ∧
      ∀ p ∈ used, p.hears = true → p.losesReply = true := by
  induction h with
  | none n w =>
    exact ⟨[], [], .of_local (refl_of World.Local w), Nat.le_refl n, rfl, List.forall_mem_nil _⟩
  | @next n m w v u e hs hk _ _ ih =>
    have hd := deliver_delivers l byExchange base port command args env w
    rw [hs] at hd
    obtain ⟨used, es, hmeets, hpasses⟩ := hd.passes
    obtain ⟨used', es', hmeets', hle, hheard, hlost⟩ := ih
    have hgap : (gap delay).countP Event.isSend = 0 := by
      unfold gap
      split <;> rfl
    have hbetween : v.Meets [] (gap delay) (between port delay (n + 1) (some e) v) := ⟨rfl, rfl⟩
    refine ⟨_, _, (hmeets.trans hbetween).trans hmeets', ?_, ?_, fun p hp => ?_⟩
    · have honce := hpasses.once
      rw [List.append_nil, List.length_append]
      omega
    · rw [List.append_nil, List.countP_append, List.countP_append, List.countP_append, hgap,
        hpasses.heard, hheard, Nat.add_zero]
    · rw [List.append_nil] at hp
      rcases List.mem_append.1 hp with hp | hp
      · exact hpasses.lost ⟨e, rfl, hk⟩ p hp
      · exact hlost p hp

/-- The servers that a launch met, and what it did: it was heard as often as it sent, and whoever
heard it, the last one that was met apart, lost its reply. -/
structure Reaches (used : List Peer) (es : List Event) : Prop where
  heard : es.countP Event.isSend = used.countP Peer.hears
  lost : ∀ p ∈ used.dropLast, p.hears = true → p.losesReply = true
  once : (∀ p ∈ used, p.losesReply = false) → es.countP Event.isSend ≤ 1 ∧ SendsLast es

namespace Reaches

variable {used used' : List Peer} {es es' : List Event} {r : Except Failure Unit}

/-- Requests whose replies were lost, and one more. -/
lemma of_passes (hheard : es.countP Event.isSend = used.countP Peer.hears)
    (hlost : ∀ p ∈ used, p.hears = true → p.losesReply = true) (h : Passes used' es' r) :
    Reaches (used ++ used') (es ++ es') where
  heard := by rw [List.countP_append, List.countP_append, hheard, h.heard]
  lost p hp hh := by
    refine hlost p ?_ hh
    have honce := h.once
    rcases used' with _ | ⟨q, _ | ⟨q', rest⟩⟩
    · rw [List.append_nil] at hp
      exact (List.dropLast_sublist used).subset hp
    · rwa [List.dropLast_concat] at hp
    · simp only [List.length_cons] at honce
      omega
  once hnone := by
    have hdeaf : used.countP Peer.hears = 0 := by
      refine List.countP_eq_zero.2 fun p hp hh => ?_
      have := hlost p hp hh
      rw [hnone p (List.mem_append_left used' hp)] at this
      cases this
    have hsilent : ∀ e ∈ es, e.isSend = false := fun e he =>
      Bool.eq_false_iff.2 (List.countP_eq_zero.1 (hheard.trans hdeaf) e he)
    refine ⟨?_, SendsLast.append (.of_no_send hsilent) h.last (.inl hsilent)⟩
    rw [List.countP_append, hheard, hdeaf, h.heard, Nat.zero_add]
    exact Nat.le_trans List.countP_le_length h.once

lemma of_one (h : Passes used es r) : Reaches used es := by
  have hall : Reaches ([] ++ used) ([] ++ es) := of_passes rfl (List.forall_mem_nil _) h
  exact hall

lemma after_quiet {before : List Event} (h : Reaches used es)
    (hb : ∀ e ∈ before, e.isTalk = false) : Reaches used (before ++ es) where
  heard := by
    rw [List.countP_append, h.heard, Event.countP_eq_zero hb fun _ => Event.isTalk_of_isSend,
      Nat.zero_add]
  lost := h.lost
  once hnone := by
    have hsilent : ∀ e ∈ before, e.isSend = false := fun e he => Event.isSend_eq_false (hb e he)
    obtain ⟨hle, hlast⟩ := h.once hnone
    refine ⟨?_, SendsLast.append (.of_no_send hsilent) hlast (.inl hsilent)⟩
    rwa [List.countP_append, Event.countP_eq_zero hb fun _ => Event.isTalk_of_isSend, Nat.zero_add]

end Reaches

/-- However the attempts end, what matters is the world `u` that the last one begins in. -/
lemma Retries.reaches {delay : Value} {limit m : Nat} {w x u v : World} {made : List Event}
    (hmade : w.Meets [] made x) (hquiet : ∀ e ∈ made, e.isTalk = false)
    (h : Retries (l.deliver byExchange base port command args env) port delay 0 x m u)
    (hm : m < limit) (hv : ((l.deliver byExchange base port command args env).run u).2.Local v) :
    ∃ used es, w.Meets used es v ∧ used.length ≤ limit ∧ Reaches used es := by
  obtain ⟨used, es, hmeets, hle, hheard, hlost⟩ := h.passes
  obtain ⟨used', es', hmeets', hpasses⟩ :=
    (deliver_delivers l byExchange base port command args env u).passes
  have hall := hmade.trans (hmeets.trans (hmeets'.and_local hv))
  have hlen : ([] ++ (used ++ used')).length ≤ limit := by
    have honce := hpasses.once
    rw [List.nil_append, List.length_append]
    omega
  exact ⟨_, _, hall, hlen, (Reaches.of_passes hheard hlost hpasses).after_quiet hquiet⟩

lemma Makes.reaches {prepare : List α → Act Value} {port limit : Nat} {w v : World}
    {r : Except Failure (Launched α)} (hp : Within World.Offline (prepare l.overrides))
    (h : l.Makes prepare (l.deliver byExchange base port command args) port limit w r v) :
    ∃ used es, w.Meets used es v ∧ used.length ≤ limit ∧ Reaches used es := by
  obtain ⟨made, hmade, hquiet⟩ := World.Meets.of_offline (hp w)
  cases h with
  | unprepared hx =>
    rw [hx] at hmade
    exact ⟨[], made, hmade, Nat.zero_le _, .of_one (.nothing (r := .ok ()) hquiet)⟩
  | made hx hretries hm _ =>
    rw [hx] at hmade
    exact hretries.reaches hmade hquiet hm (refl_of World.Local _)
  | unpaused hx hretries hm hg =>
    rw [hx] at hmade
    exact hretries.reaches hmade hquiet (Nat.lt_of_succ_lt hm) hg.local

/-- A launch sends its request to every server that hears it, and whoever hears it before the last
server that is met has lost its reply. So while no reply is lost, the request gets through once at
most and no connection is made after that. A launch to a leader that the host announces meets one
server at most. -/
theorem run_reaches (l : Launch α) (prepare : List α → Act Value) (w : World)
    (hp : Within World.Offline (prepare l.overrides)) :
    ∃ used es, w.Meets used es ((l.run prepare).run w).2 ∧ used.length ≤ attemptLimit ∧
      (∀ port, (l.host.getD w.environ).serverPort = .ok (some port) → used.length ≤ 1) ∧
      es.countP Event.isSend = used.countP Peer.hears ∧
      (∀ p ∈ used.dropLast, p.hears = true → p.losesReply = true) ∧
      ((∀ p ∈ used, p.losesReply = false) → es.countP Event.isSend ≤ 1 ∧ SendsLast es) := by
  have hcourse := l.run_courses prepare byExchange w
  rcases hrun : (l.run prepare).run w with ⟨r, u⟩
  rw [hrun] at hcourse
  cases hcourse with
  | settled hv _ =>
    exact ⟨[], [], .of_local hv, Nat.zero_le _, fun _ _ => Nat.zero_le 1, rfl,
      List.forall_mem_nil _, fun _ => ⟨Nat.zero_le 1, .nil⟩⟩
  | @asks _ _ _ _ limit _ _ _ _ _ hport hv hmakes =>
    obtain ⟨used, es, hmeets, hlen, hreaches⟩ := hmakes.reaches hp
    refine ⟨used, es, (World.Meets.of_local hv).trans hmeets, ?_, fun port hknown => ?_,
      hreaches.heard, hreaches.lost, hreaches.once⟩
    · rcases hport with ⟨-, rfl⟩ | ⟨-, rfl⟩
      · exact Nat.le_trans hlen (by decide)
      · exact hlen
    · rcases hport with ⟨-, rfl⟩ | ⟨hnone, -⟩
      · exact hlen
      · rw [hnone] at hknown
        cases hknown

/-- A leader that takes the request and then breaks off, and that answers the next time. -/
def forgetfulLeader : World where
  disk := {
    workDir := ["work"]
    entries := [(["work"], .directory), (["work", "krun.lock"], .file 0)]
    inodes := [{ content := Utf8.encode "3333", holder := some 0 }]
    handles := [{ inode := 0 }] }
  peers := [.answering [] (some (.ofNumber 104 "Connection reset by peer")), .answering [] none]

/-- The launch that loses the election to that leader. -/
def latecomer : Launch Unit :=
  { serverPort := .int 4444, command := .text "c", lock := some "krun.lock" }

theorem run_reaches_broken_off : ∃ used es,
    forgetfulLeader.Meets used es ((latecomer.run fun _ => pure (.mapping [])).run forgetfulLeader).2 ∧
      es.countP Event.isSend = used.countP Peer.hears := by
  obtain ⟨used, es, hmeets, -, -, hheard, -⟩ :=
    run_reaches latecomer (fun _ => pure (.mapping [])) forgetfulLeader (Within.pure _)
  exact ⟨used, es, hmeets, hheard⟩

/-- A request can get through twice. -/
theorem run_sends_twice :
    ((latecomer.run fun _ => pure (.mapping [])).run forgetfulLeader).2.events.countP
      Event.isSend = 2 := by
  let send : Act Unit :=
    latecomer.deliver byExchange none 3333 (.text "c") [] (.mapping [])
  let led := (Election.stand (.int 4444) (pure "krun.lock")).run forgetfulLeader
  let x : World := { led.2 with notices := led.2.notices ++ [.forwarding (.text "c") 3333] }
  let e : LaunchError := .connection (.ofNumber 104 "Connection reset by peer") (some (.int 3333))
  let u := between 3333 (.int 0) 1 (some e) (send.run x).2
  have hrun : (latecomer.run fun _ => pure (.mapping [])).run forgetfulLeader =
      (do
        let attempts ← retry send 3333 (.int 0) (attemptLimit - 1) 1
        return .requested 3333 attempts : Act (Launched Unit)).run x := rfl
  have hbroken : send.run x = (.error (.launch e), (send.run x).2) := rfl
  have hfirst : (retry send 3333 (.int 0) (attemptLimit - 1) 1).run x =
      (retry send 3333 (.int 0) (attemptLimit - 2) 2).run u :=
    run_retry_of_error 3333 (.int 0) hbroken rfl 2 0
  have hlast : ¬ FailsToConnect (send.run u).1 := by
    rintro ⟨e, he, hk⟩
    cases he
    cases hk
  rw [hrun, run_bind, hfirst, run_retry_of_last (.inr hlast) 1]
  rfl

end Launch

end SharedVm
