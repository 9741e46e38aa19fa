import SharedVm.Proofs.Launch.Delivery

/-!
# No relay is left behind

What an interactive launch does with its relays, whatever they do and whatever becomes of the
requests that go with them. Its trace is one attempt after the other, and each attempt ends by
waiting for the relay that it began with.
-/

namespace SharedVm

open Act

/-! ### Traces in which relays are waited for -/

/-- Wherever the trace is cut, at most one relay has not been waited for. -/
def Attended (es : List Event) : Prop :=
  ∀ p, p <+: es → p.countP Event.isWait ≤ p.countP Event.isSpawn ∧
    p.countP Event.isSpawn ≤ p.countP Event.isWait + 1

/-- In the end all relays have been waited for. -/
def Cleared (es : List Event) : Prop := es.countP Event.isSpawn = es.countP Event.isWait

section Attended

variable {a b es : List Event}

lemma Cleared.append (ha : Cleared a) (hb : Cleared b) : Cleared (a ++ b) := by
  unfold Cleared at ha hb ⊢
  rw [List.countP_append, List.countP_append, ha, hb]

lemma Attended.append (ha : Attended a) (hc : Cleared a) (hb : Attended b) : Attended (a ++ b) := by
  intro p hp
  rcases List.prefix_or_prefix_of_prefix hp (List.prefix_append a b) with h | ⟨q, rfl⟩
  · exact ha p h
  · have hq := hb q ((List.prefix_append_right_inj a).1 hp)
    unfold Cleared at hc
    rw [List.countP_append, List.countP_append]
    omega

lemma cleared_of_no_relay (h : ∀ e ∈ es, e.isOfRelay = false) : Cleared es := by
  have hs := Event.countP_eq_zero h fun _ => Event.isOfRelay_of_isSpawn
  have hw := Event.countP_eq_zero h fun _ => Event.isOfRelay_of_isWait
  rw [Cleared, hs, hw]

lemma attended_of_no_relay (h : ∀ e ∈ es, e.isOfRelay = false) : Attended es := by
  intro p hp
  have hc := cleared_of_no_relay fun e he => h e (hp.subset he)
  unfold Cleared at hc
  omega

lemma count_spawn {argv : List Text} :
    (Event.spawn argv :: es).countP Event.isSpawn = es.countP Event.isSpawn + 1 ∧
      (Event.spawn argv :: es).countP Event.isWait = es.countP Event.isWait :=
  ⟨List.countP_cons_of_pos rfl, List.countP_cons_of_neg Bool.false_ne_true⟩

lemma attended_spawn (argv : List Text) (hs : es.countP Event.isSpawn = 0)
    (hw : es.countP Event.isWait ≤ 1) : Attended (.spawn argv :: es) := by
  intro p hp
  rcases List.prefix_cons_iff.1 hp with rfl | ⟨q, rfl, hq⟩
  · exact ⟨Nat.le_refl 0, Nat.zero_le 1⟩
  · have hqs := hq.sublist.countP_le (p := Event.isSpawn)
    have hqw := hq.sublist.countP_le (p := Event.isWait)
    rw [count_spawn.1, count_spawn.2]
    omega

end Attended

namespace Launch

/-! ### One attempt -/

/-- A relay is started, a request is made, and the relay is seen off. -/
structure Attempt where
  argv : List Text
  process : RelayProcess
  /-- What the request did. -/
  asked : List Event
  outcome : Except Failure Unit

namespace Attempt

variable {request : Asking} {port : Int} {p : RelayProcess} {a : Attempt}

def events (a : Attempt) : List Event :=
  .spawn a.argv :: a.asked ++ Relay.seenOff a.process a.outcome

/-- The attempt was made with a relay and a request to a port. -/
structure MadeBy (request : Asking) (port : Int) (p : RelayProcess) (a : Attempt) : Prop where
  process : a.process = p
  started : p.spawnFails = none
  request : ∃ command args env u v,
    (request (.int port) command args env).run u = (a.outcome, v) ∧ v.events = u.events ++ a.asked
  asked : ∀ e ∈ a.asked, e.isOfRelay = false

lemma count_seenOff (p : RelayProcess) (r : Except Failure Unit) :
    (Relay.seenOff p r).countP Event.isSpawn = 0 ∧ (Relay.seenOff p r).countP Event.isWait = 1 := by
  unfold Relay.seenOff Relay.ended
  cases r with
  | ok x => exact ⟨rfl, rfl⟩
  | error f => cases p.poll <;> exact ⟨rfl, rfl⟩

lemma MadeBy.count (h : a.MadeBy request port p) :
    (a.asked ++ Relay.seenOff a.process a.outcome).countP Event.isSpawn = 0 ∧
      (a.asked ++ Relay.seenOff a.process a.outcome).countP Event.isWait = 1 := by
  obtain ⟨hspawn, hwait⟩ := count_seenOff a.process a.outcome
  rw [List.countP_append, List.countP_append, hspawn, hwait,
    Event.countP_eq_zero h.asked fun _ => Event.isOfRelay_of_isSpawn,
    Event.countP_eq_zero h.asked fun _ => Event.isOfRelay_of_isWait]
  exact ⟨rfl, rfl⟩

lemma MadeBy.attended (h : a.MadeBy request port p) : Attended a.events :=
  attended_spawn a.argv h.count.1 (Nat.le_of_eq h.count.2)

lemma MadeBy.cleared (h : a.MadeBy request port p) : Cleared a.events := by
  rw [Cleared, events, List.cons_append, count_spawn.1, count_spawn.2, h.count.1, h.count.2]

end Attempt

variable {α : Type} {l : Launch α} {request : Asking} {base : Option Path} {port : Int}
  {c : Text} {args : List Text} {env : Value}

/-- The relay of the attempt could not be opened, or the attempt was made. -/
lemma delivers_cases (hi : l.interactive = true)
    (hr : ∀ port command args env, Within World.Unrelayed (request port command args env))
    {w v : World} {r : Except Failure Unit}
    (h : l.Delivers request base port (.text c) (args.map .text) env w r v) :
    (∃ f, r = .error f ∧ (Relay.start base none w.environ).run w = (.error f, v)) ∨
      ∃ a : Attempt, a.MadeBy request port w.relay ∧ a.outcome = r ∧
        v.events = w.events ++ a.events ∧ v.relays = w.relays.tail ∧ v.system = w.system := by
  cases h with
  | plain hl _ =>
    rw [hi] at hl
    cases hl
  | unopened _ hs => exact .inl ⟨_, rfl, hs⟩
  | unwrapped _ _ hw =>
    rw [Relay.wrap_texts] at hw
    cases hw
  | @relayed relay wrapped _ v u _ _ hs hw hrun hx =>
    have hst := Relay.start_starts base none w.environ w
    rw [hs] at hst
    cases hst with
    | running argv hv hp hproc =>
      obtain ⟨hsame, asked, hasked, hnone⟩ :=
        hr (.int port) (.text wrapped.1) (.list (wrapped.2.map .text)) env v
      rw [hrun] at hsame hasked
      obtain ⟨htape, hsystem⟩ := Prod.mk.inj hsame
      dsimp only at htape hsystem hasked hv
      refine .inr ⟨⟨argv, relay.process, asked, r⟩, ⟨hproc, hp, ⟨_, _, _, v, u, hrun, hasked⟩, hnone⟩,
        rfl, ?_, ?_, ?_⟩
      · rw [hx.events, hasked, hv.events]
        simp [Attempt.events, World.spawned]
      · rw [hx, htape, hv]
        rfl
      · rw [hx, hsystem, hv]
        rfl

/-! ### All attempts -/

/-- The first attempts of a launch: each has the next relay of the tape and fails to connect. -/
structure Failed (request : Asking) (port : Int) (tape : List RelayProcess) (as : List Attempt) :
    Prop where
  made : ∀ (i : Nat) (a : Attempt), as[i]? = some a → a.MadeBy request port (tape[i]?.getD {})
  unconnected : ∀ a ∈ as, FailsToConnect a.outcome

lemma Failed.cons {tape : List RelayProcess} {as : List Attempt} {a : Attempt}
    (ha : a.MadeBy request port (tape.headD {})) (hc : FailsToConnect a.outcome)
    (h : Failed request port tape.tail as) : Failed request port tape (a :: as) where
  made i b hb := by
    cases i with
    | zero =>
      cases hb
      cases tape <;> exact ha
    | succ i =>
      have := h.made i b hb
      rwa [List.getElem?_tail] at this
  unconnected b hb := by
    rcases List.mem_cons.1 hb with rfl | hb
    · exact hc
    · exact h.unconnected b hb

def failedEvents (delay : Value) (as : List Attempt) : List Event :=
  as.flatMap fun a => a.events ++ gap delay

lemma no_relay_gap (delay : Value) : ∀ e ∈ gap delay, e.isOfRelay = false := by
  unfold gap
  intro e he
  split at he
  · cases List.mem_singleton.1 he
    rfl
  · cases he

lemma Failed.attended {tape : List RelayProcess} {as : List Attempt} (delay : Value)
    (h : Failed request port tape as) :
    Attended (failedEvents delay as) ∧ Cleared (failedEvents delay as) := by
  have hall : ∀ a ∈ as, Attended a.events ∧ Cleared a.events := by
    intro a ha
    obtain ⟨i, hi⟩ := List.mem_iff_getElem?.1 ha
    exact ⟨(h.made i a hi).attended, (h.made i a hi).cleared⟩
  clear h
  have hgap := no_relay_gap delay
  induction as with
  | nil => exact ⟨attended_of_no_relay (List.forall_mem_nil _), rfl⟩
  | cons a as ih =>
    obtain ⟨hatt, hclear⟩ := hall a List.mem_cons_self
    obtain ⟨hrest, hrestClear⟩ := ih fun b hb => hall b (List.mem_cons_of_mem a hb)
    have hone : Attended (a.events ++ gap delay) := hatt.append hclear (attended_of_no_relay hgap)
    have honeClear : Cleared (a.events ++ gap delay) := hclear.append (cleared_of_no_relay hgap)
    rw [failedEvents, List.flatMap_cons]
    exact ⟨hone.append honeClear hrest, honeClear.append hrestClear⟩

lemma start_ne_launch {host : Environ} {w v : World} {e : LaunchError}
    (h : (Relay.start base none host).run w = (.error (.launch e), v)) : False := by
  have hs := Relay.start_starts base none host w
  rw [h] at hs
  cases hs with
  | unasked _ hf => exact hf e rfl
  | unborn _ _ _ hf => exact hf e rfl

lemma Retries.failed (hi : l.interactive = true)
    (hr : ∀ port command args env, Within World.Unrelayed (request port command args env))
    {delay : Value} {n m : Nat} {w u : World}
    (h : Retries (l.deliver request base port (.text c) (args.map .text) env) port delay n w m u) :
    ∃ as, n + as.length = m ∧ Failed request port w.relays as ∧
      u.events = w.events ++ failedEvents delay as ∧ u.relays = w.relays.drop as.length ∧
      u.system = w.system := by
  induction h with
  | none n w =>
    exact ⟨[], rfl, ⟨fun _ _ h => (nomatch h), fun _ h => (nomatch h)⟩, (List.append_nil _).symm,
      rfl, rfl⟩
  | @next n m w v u e hs hk _ _ ih =>
    have hd := deliver_delivers l request base port (.text c) (args.map .text) env w
    rw [hs] at hd
    rcases delivers_cases hi hr hd with ⟨f, hf, hstart⟩ | ⟨a, ha, hout, hev, htape, hsystem⟩
    · cases hf
      exact (start_ne_launch hstart).elim
    · -- this attempt has taken the first relay of the tape, and `ih` is about the others
      obtain ⟨as, hlen, hfail, hevents, htapes, hsystems⟩ := ih
      rw [between] at hfail hevents htapes hsystems
      dsimp only at hfail hevents htapes hsystems
      rw [htape] at hfail htapes
      refine ⟨a :: as, ?_, hfail.cons ha ⟨e, hout, hk⟩, ?_, ?_, hsystems.trans hsystem⟩
      · rw [List.length_cons]
        omega
      · rw [hevents, hev]
        simp [failedEvents]
      · rw [htapes, List.drop_tail, List.length_cons]

/-- What was done to prepare the variables, if it came to that. -/
def Prepared (l : Launch α) (prepare : List α → Act Value) (made : List Event) : Prop :=
  made = [] ∨ ∃ u, ((prepare l.overrides).run u).2.events = u.events ++ made

/-- How the relays of a launch come to their end: with an attempt that decides, with one that fails to
connect where the delay after it cannot be waited for, or with a relay that cannot be opened. `n`
attempts were made before. -/
inductive Last (request : Asking) (port limit : Nat) (unwaited : Option Failure) (p : RelayProcess)
    (n : Nat) : Except Failure (Launched α) → List Event → Prop
  | attempted (a : Attempt) (ha : a.MadeBy request port p)
      (hl : n + 1 = limit ∨ ¬ FailsToConnect a.outcome) :
      Last request port limit unwaited p n
        (concluded (.requested port (n + 1)) (n + 1) a.outcome) a.events
  | unpaused (a : Attempt) (ha : a.MadeBy request port p) (hl : n + 1 < limit)
      (hc : FailsToConnect a.outcome) {f : Failure} (hf : unwaited = some f) :
      Last request port limit unwaited p n (.error f) a.events
  | unopened {base : Option Path} {f : Failure} {u v : World} {es : List Event}
      (hs : (Relay.start base none u.environ).run u = (.error f, v))
      (hf : ∀ e, f ≠ .launch e) (hv : v.events = u.events ++ es)
      (hes : es = [] ∨ p.spawnFails ≠ none ∧ ∃ argv, es = [.spawn argv]) :
      Last request port limit unwaited p n (.error f) es

lemma concluded_of_ne_launch {β : Type} (x : β) (n : Nat) {f : Failure} (hf : ∀ e, f ≠ .launch e) :
    concluded x n (.error f) = .error f := by
  cases f with
  | launch e => exact (hf e rfl).elim
  | _ => rfl

section Makes

variable {prepare : List α → Act Value} {port limit : Nat} {w v : World}
  {r : Except Failure (Launched α)} (hi : l.interactive = true)
  (hr : ∀ port command args env, Within World.Unrelayed (request port command args env))

include hi hr

lemma Last.of_delivers {n : Nat} {r : Except Failure Unit} (unwaited : Option Failure)
    (h : l.Delivers request base port (.text c) (args.map .text) env w r v)
    (hl : n + 1 = limit ∨ ¬ FailsToConnect r) :
    ∃ es, v.events = w.events ++ es ∧ Last (α := α) request port limit unwaited w.relay n
      (concluded (.requested port (n + 1)) (n + 1) r) es ∧ Attended es := by
  rcases delivers_cases hi hr h with ⟨f, rfl, hs⟩ | ⟨a, ha, rfl, hev, -⟩
  · have hst := Relay.start_starts base none w.environ w
    rw [hs] at hst
    cases hst with
    | unasked hv hf =>
      rw [concluded_of_ne_launch _ _ hf]
      have hev : v.events = w.events ++ [] := by rw [List.append_nil, hv.events]
      exact ⟨[], hev, .unopened hs hf hev (.inl rfl), attended_of_no_relay (List.forall_mem_nil _)⟩
    | unborn argv hv hp hf =>
      rw [concluded_of_ne_launch _ _ hf]
      have hev : v.events = w.events ++ [.spawn argv] := hv.events
      exact ⟨_, hev, .unopened hs hf hev (.inr ⟨hp, argv, rfl⟩),
        attended_spawn argv rfl (Nat.zero_le 1)⟩
  · exact ⟨a.events, hev, .attempted a ha hl, ha.attended⟩

/-- An attempt after which the launch gives up has a relay that has been waited for. -/
lemma Last.of_givesUp {n : Nat} {f : Failure} (hn : n + 1 < limit)
    (h : GivesUp (l.deliver request base port (.text c) (args.map .text) env) port l.retryDelay n w
      f v) :
    ∃ es, v.events = w.events ++ es ∧
      Last (α := α) request port limit (impatience? w.system l.retryDelay) w.relay n (.error f) es ∧
        Attended es := by
  have hd := deliver_delivers l request base port (.text c) (args.map .text) env w
  have hlocal := h.local
  have himpatient := h.impatient
  obtain ⟨e, he, hk⟩ := h.unconnected
  rcases delivers_cases hi hr hd with ⟨g, hg, hstart⟩ | ⟨a, ha, hout, hev, -, hsystem⟩
  · rw [he] at hg
    cases hg
    exact (start_ne_launch hstart).elim
  · rw [hsystem] at himpatient
    exact ⟨a.events, hlocal.events.trans hev, .unpaused a ha hn ⟨e, hout.trans he, hk⟩ himpatient,
      ha.attended⟩

/-- However the attempts end, what matters is the world `u` that the last one begins in. -/
lemma Retries.seesOff {env : Value} {x u : World} {m : Nat}
    (hp : Within World.Unrelayed (prepare l.overrides))
    (hx : (prepare l.overrides).run w = (.ok env, x))
    (hretries : Retries (l.deliver request base port (.text c) (args.map .text) env) port
      l.retryDelay 0 x m u) (hm : m < limit)
    (hlast : ∃ last, v.events = u.events ++ last ∧
      Last request port limit (impatience? u.system l.retryDelay) u.relay m r last ∧
        Attended last) :
    ∃ made as last, v.events = w.events ++ made ++ (failedEvents l.retryDelay as ++ last) ∧
      l.Prepared prepare made ∧ Attended (made ++ (failedEvents l.retryDelay as ++ last)) ∧
      as.length < limit ∧ Failed request port w.relays as ∧
      Last request port limit (impatience? w.system l.retryDelay)
        (w.relays[as.length]?.getD {}) as.length r last := by
  have hprep := hp w
  rw [hx] at hprep
  obtain ⟨hsame, made, hmade, hnone⟩ := hprep
  obtain ⟨htape, hsystem⟩ := Prod.mk.inj hsame
  obtain ⟨as, rfl, hfail, hevents, htapes, hsystems⟩ := Retries.failed hi hr hretries
  obtain ⟨last, hev, hlastRelay, hatt⟩ := hlast
  rw [Nat.zero_add] at hm hlastRelay
  have hrelay : u.relay = w.relays[as.length]?.getD {} := by
    rw [World.relay, htapes, htape, List.headD_eq_head?_getD, List.head?_drop]
  rw [hrelay, hsystems, hsystem] at hlastRelay
  rw [htape] at hfail
  obtain ⟨hbefore, hcleared⟩ := hfail.attended l.retryDelay
  have hprepared : ((prepare l.overrides).run w).2.events = w.events ++ made := by rw [hx, hmade]
  refine ⟨made, as, last, ?_, .inr ⟨w, hprepared⟩, ?_, hm, hfail, hlastRelay⟩
  · rw [hev, hevents, hmade]
    simp
  · exact (attended_of_no_relay hnone).append (cleared_of_no_relay hnone)
      (hbefore.append hcleared hatt)

/-- The trace of a launch that asks a leader: what preparing the variables did, the attempts that
failed to connect, and the last one. -/
lemma Makes.relays (hp : Within World.Unrelayed (prepare l.overrides))
    (h : l.Makes prepare (l.deliver request base port (.text c) (args.map .text)) port limit w r v) :
    ∃ made es, v.events = w.events ++ made ++ es ∧ l.Prepared prepare made ∧
      Attended (made ++ es) ∧
      ((es = [] ∧ ∀ port attempts, r ≠ .ok (.requested port attempts)) ∨
        ∃ as last, es = failedEvents l.retryDelay as ++ last ∧ as.length < limit ∧
          Failed request port w.relays as ∧
          Last request port limit (impatience? w.system l.retryDelay)
            (w.relays[as.length]?.getD {}) as.length r last) := by
  cases h with
  | @unprepared f _ hf =>
    obtain ⟨-, made, hmade, hnone⟩ := hp w
    have hprepared : l.Prepared prepare made := .inr ⟨w, hmade⟩
    rw [hf] at hmade
    refine ⟨made, [], by rw [List.append_nil, hmade], hprepared, ?_, .inl ⟨rfl, fun _ _ => nofun⟩⟩
    rw [List.append_nil]
    exact attended_of_no_relay hnone
  | @made env x u m hx hretries hm hlast =>
    have hdelivers := deliver_delivers l request base port (.text c) (args.map .text) env u
    obtain ⟨made, as, last, hev, hprepared, hatt, hrest⟩ :=
      hretries.seesOff hi hr hp hx hm (Last.of_delivers hi hr _ hdelivers hlast)
    exact ⟨made, _, hev, hprepared, hatt, .inr ⟨as, last, rfl, hrest⟩⟩
  | @unpaused env x u _ m f hx hretries hm hg =>
    obtain ⟨made, as, last, hev, hprepared, hatt, hrest⟩ :=
      hretries.seesOff hi hr hp hx (Nat.lt_of_succ_lt hm) (Last.of_givesUp hi hr hm hg)
    exact ⟨made, _, hev, hprepared, hatt, .inr ⟨as, last, rfl, hrest⟩⟩

end Makes

lemma unrelayed_byExchange (port command args env : Value) :
    Within World.Unrelayed (byExchange port command args env) :=
  fun w => (Exchange.request_asks port command args env Exchange.loopback none w).unrelayed

/-- Every interactive launch waits for each of its relays before it starts the next one and before it
is over. Its trace is one attempt after the other: a relay is started, a request is made, and then
the relay is waited for, after it has been told to end if the request failed and it is still there.
The outcome of the last request decides. A relay that cannot be opened ends the launch with that
failure itself, and so does a delay that cannot be waited for, after an attempt that failed to connect
and was not the last one. -/
theorem run_relays (l : Launch α) (prepare : List α → Act Value) (request : Asking) (w : World)
    {c : Text} {args : List Text} (hi : l.interactive = true)
    (hc : Request.commandName l.command = .ok (.text c))
    (ha : Request.itemsOf l.args = .ok (args.map .text))
    (hp : Within World.Unrelayed (prepare l.overrides))
    (hr : ∀ port command args env, Within World.Unrelayed (request port command args env)) :
    ∃ made es, ((l.run prepare request).run w).2.events = w.events ++ made ++ es ∧
      l.Prepared prepare made ∧ Attended (made ++ es) ∧
      ((es = [] ∧ ∀ port attempts,
          ((l.run prepare request).run w).1 ≠ .ok (.requested port attempts)) ∨
        ∃ (port limit : Nat) (as : List Attempt) (last : List Event),
          ((l.host.getD w.environ).serverPort = .ok (some port) ∧ limit = 1 ∨
            (l.host.getD w.environ).serverPort = .ok none ∧ limit = attemptLimit) ∧
          es = failedEvents l.retryDelay as ++ last ∧ as.length < limit ∧
          Failed request port w.relays as ∧
          Last request port limit (impatience? w.system l.retryDelay)
            (w.relays[as.length]?.getD {}) as.length ((l.run prepare request).run w).1 last) := by
  have hcourse := l.run_courses prepare request w
  rcases hrun : (l.run prepare request).run w with ⟨r, u⟩
  rw [hrun] at hcourse
  cases hcourse with
  | settled hv hnone =>
    refine ⟨[], [], by rw [List.append_nil, List.append_nil, hv.events], .inl rfl,
      attended_of_no_relay (List.forall_mem_nil _), .inl ⟨rfl, hnone⟩⟩
  | @asks command args' base port limit _ v _ hc' ha' hport hv hmakes =>
    obtain rfl : Value.text c = command := Except.ok.inj (hc.symm.trans hc')
    obtain rfl : args.map .text = args' := Except.ok.inj (ha.symm.trans ha')
    obtain ⟨made, es, hev, hprepared, hatt, hends⟩ := hmakes.relays hi hr hp
    obtain ⟨htape, hsystem⟩ := Prod.mk.inj hv.unrelayed.tape
    rw [hv.events] at hev
    rw [htape, hsystem] at hends
    refine ⟨made, es, hev, hprepared, hatt, hends.imp_right ?_⟩
    rintro ⟨as, last, hes, hlen, hfail, hlast⟩
    exact ⟨port, limit, as, last, hport, hes, hlen, hfail, hlast⟩

/-- A host that announces a leader nobody reaches. Its next relay is gone when it is told to end. -/
def silentLeader : World where
  disk := {
    workDir := ["work"]
    entries := [(["work"], .directory), (["work", "socat"], .file 0)]
    inodes := [{ executable := true }] }
  environ := [("PATH", .text "/work"), ("KRUN_SERVER_PORT", .text "3333")]
  relays := [{ gone := true }]

theorem run_relays_gone :
    let l : Launch Unit :=
      { serverPort := .int 4444, command := .text "c", interactive := true, runtimeDir := some "run" }
    let events := ((l.run fun _ => pure (.mapping [])).run silentLeader).2.events
    Attended events ∧ events =
      [.spawn ["/work/socat", "unix-l:run/krun/socket/port-50000", "-,raw,echo=0"],
        .connect "127.0.0.1" 3333 none, .poll, .terminate, .wait] := by
  intro l events
  have hc : Request.commandName l.command = .ok (.text "c") := rfl
  have ha : Request.itemsOf l.args = .ok (([] : List Text).map .text) := rfl
  obtain ⟨made, es, hev, -, hatt, -⟩ := run_relays l (fun _ => pure (.mapping [])) byExchange
    silentLeader rfl hc ha (Within.pure _) unrelayed_byExchange
  constructor
  · have hevents : events = made ++ es := hev
    rw [hevents]
    exact hatt
  · rfl

end Launch

end SharedVm
