import SharedVm.Proofs.Environ
import SharedVm.Proofs.Grows
import SharedVm.Proofs.Launch.Delivery

/-!
# Launches that know whom to ask

A launch whose host announces a server asks that server, once, and stays away from lock files: it
opens none, makes none and never leads.
-/

namespace SharedVm

open Act Act.Within

namespace World

/-- At most one connection was made, and it goes to this port. -/
structure CallsOnce (port : Int) (w v : World) : Prop where
  only : w.ConnectsTo port v
  once : v.events.countP Event.isConnect ≤ w.events.countP Event.isConnect + 1

variable {port : Int} {u v w : World}

lemma Refrains.countP_isConnect (h : w.Offline v) :
    v.events.countP Event.isConnect = w.events.countP Event.isConnect := by
  obtain ⟨es, he, hes⟩ := h.events
  rw [he, List.countP_append, Event.countP_eq_zero hes fun _ => Event.isTalk_of_isConnect,
    Nat.add_zero]

namespace CallsOnce

lemma of_offline (h : w.Offline v) : w.CallsOnce port v where
  only := h.connectsTo port
  once := by
    rw [h.countP_isConnect]
    exact Nat.le_add_right _ 1

lemma after (hu : w.Offline u) (h : u.CallsOnce port v) : w.CallsOnce port v where
  only := trans_of (ConnectsTo port) (hu.connectsTo port) h.only
  once := by
    rw [← hu.countP_isConnect]
    exact h.once

lemma before (h : w.CallsOnce port u) (hv : u.Offline v) : w.CallsOnce port v where
  only := trans_of (ConnectsTo port) h.only (hv.connectsTo port)
  once := by
    rw [hv.countP_isConnect]
    exact h.once

end CallsOnce

/-- The disk is as it was. -/
def SameDisk (w v : World) : Prop := v.disk = w.disk

instance : IsPreorder World SameDisk where
  refl _ := rfl
  trans _ _ _ h k := k.trans h

lemma sameDisk_talks : Talks SameDisk where
  note _ _ := rfl
  event _ _ := rfl
  nextPeer w := by
    rw [Exchange.run_nextPeer]
    rfl

end World

lemma Exchange.Asks.callsOnce {number : Int} {w v : World} {r : Except Failure Unit}
    (h : Asks (.int number) w r v) : w.CallsOnce number v where
  only := h.connectsTo
  once := by
    cases h with
    | unsent hv _ =>
      rw [hv.events]
      exact Nat.le_add_right _ 1
    | talked host timeout payload hn hv _ =>
      have htalk : (w.peer.talk payload).countP Event.isConnect = 0 := by
        cases w.peer <;> rfl
      rw [hv.events, World.talked, List.countP_append, List.countP_cons, htalk]
      exact Nat.le_refl _

lemma Relay.offline_seenOff (w : World) (p : RelayProcess) (r : Except Failure Unit) :
    w.Offline { w with events := w.events ++ seenOff p r } := by
  refine ⟨rfl, _, rfl, ?_⟩
  unfold seenOff ended
  cases r with
  | ok x => simp [Event.isTalk]
  | error f => cases p.poll <;> simp [Event.isTalk]

namespace Launch

variable {α : Type} {l : Launch α} {prepare : List α → Act Value} {w : World} {base : Option Path}
  {command : Value} {args : List Value}

lemma Delivers.callsOnce {port : Int} {env : Value} {v : World} {r : Except Failure Unit}
    (h : l.Delivers byExchange base port command args env w r v) : w.CallsOnce port v := by
  have hstart := (Relay.start_starts base none w.environ w).offline
  cases h with
  | plain _ hr =>
    have hasks := Exchange.request_asks (.int port) command (.list args) env Exchange.loopback none w
    rw [byExchange] at hr
    rw [hr] at hasks
    exact hasks.callsOnce
  | unopened _ hs | unwrapped _ hs _ =>
    rw [hs] at hstart
    exact .of_offline hstart
  | @relayed relay wrapped _ v u _ _ hs _ hr hx =>
    rw [hs] at hstart
    have hasks := Exchange.request_asks (.int port) (.text wrapped.1)
      (.list (wrapped.2.map .text)) env Exchange.loopback none v
    rw [byExchange] at hr
    rw [hr] at hasks
    have hoff := trans_of World.Offline (Relay.offline_seenOff u relay.process r) hx.offline
    exact (hasks.callsOnce.before hoff).after hstart

lemma callsOnce_askOnce (hp : Within World.Offline (prepare l.overrides)) (port : Nat) (w : World) :
    w.CallsOnce port
      ((l.askOnce prepare (l.deliver byExchange base port command args) port).run w).2 := by
  have hprep := hp w
  rcases hr : (prepare l.overrides).run w with ⟨f | env, x⟩ <;> rw [hr] at hprep
  · unfold askOnce
    rw [run_bind_of_error hr]
    exact .of_offline hprep
  · rw [run_askOnce hr]
    exact (deliver_delivers l byExchange base port command args env x).callsOnce.after hprep

lemma requested_of_makes {send : Value → Act Unit} {port : Nat} {v : World} {target : Int}
    {attempts : Nat}
    (h : l.Makes prepare send port 1 w (.ok (.requested target attempts)) v) :
    target = port ∧ attempts = 1 := by
  generalize hr : (Except.ok (.requested target attempts) : Except Failure (Launched α)) = r at h
  cases h with
  | unprepared _ => cases hr
  | unpaused _ _ _ => cases hr
  | @made env x u m _ _ hm _ =>
    obtain rfl : m = 0 := Nat.lt_one_iff.1 hm
    cases hs : ((send env).run u).1 with
    | ok y =>
      rw [hs] at hr
      cases hr
      exact ⟨rfl, rfl⟩
    | error f =>
      rw [hs] at hr
      cases f <;> cases hr

lemma sameDisk_deliver (hl : l.interactive = false) (port : Int) (env : Value) :
    Within World.SameDisk (l.deliver byExchange base port command args env) := by
  refine within_deliver_of_start World.sameDisk_talks l (fun hi => ?_) port command args env
  rw [hl] at hi
  cases hi

/-- What becomes of a launch that asks one server and no one else. -/
structure AsksOnly (l : Launch α) (prepare : List α → Act Value) (w : World) (port : Nat) :
    Prop where
  follows : ∀ leader, ((l.run prepare).run w).1 ≠ .ok (.leading leader)
  returns : ∀ target attempts, ((l.run prepare).run w).1 = .ok (.requested target attempts) →
    target = port ∧ attempts = 1
  calls : w.CallsOnce port ((l.run prepare).run w).2
  grows : w.Grows ((l.run prepare).run w).2
  sameDisk : l.interactive = false → ((l.run prepare).run w).2.disk = w.disk

lemma asksOnly_of_known {port : Nat} (hk : (l.host.getD w.environ).serverPort = .ok (some port))
    (ho : Within World.Offline (prepare l.overrides)) (hg : Within World.Grows (prepare l.overrides))
    (hd : Within World.SameDisk (prepare l.overrides)) : l.AsksOnly prepare w port := by
  rcases l.run_proceeds prepare byExchange w with ⟨f, hrun⟩ | ⟨command, args, base, -, -, hrest⟩
  · have hsame : (l.run prepare).run w = (.error f, w) := hrun
    constructor <;> rw [hsame]
    · exact nofun
    · exact nofun
    · exact .of_offline (refl_of World.Offline w)
    · exact refl_of World.Grows w
    · exact fun _ => rfl
  · rcases hrest with ⟨known, hknown, hrun⟩ | ⟨hnone, -⟩
    · obtain rfl : known = port := by
        rw [hk] at hknown
        exact (Option.some.inj (Except.ok.inj hknown)).symm
      have hmakes : l.Makes prepare (l.deliver byExchange base known command args) known 1 w _ _ :=
        askOnce_makes w
      have hsame : (l.run prepare).run w = _ := hrun
      constructor <;> rw [hsame]
      · exact hmakes.ne_leading
      · intro target attempts hr
        rw [hr] at hmakes
        exact requested_of_makes hmakes
      · exact callsOnce_askOnce ho known w
      · exact within_askOnce hg (fun env => within_deliver grows_edges l base known command args env)
          known w
      · exact fun hl => within_askOnce hd (sameDisk_deliver hl known) known w
    · rw [hk] at hnone
      cases hnone

/-- A launch that is not interactive leaves the disk alone if the host announces anything at all, also
what is no port. -/
lemma sameDisk_of_announced (hi : l.interactive = false)
    (hk : (l.host.getD w.environ).var? Environ.serverPortVar ≠ none)
    (hp : Within World.SameDisk (prepare l.overrides)) :
    ((l.run prepare).run w).2.disk = w.disk ∧
      ∀ leader, ((l.run prepare).run w).1 ≠ .ok (.leading leader) := by
  rcases l.run_proceeds prepare byExchange w with ⟨f, hrun⟩ | ⟨command, args, base, -, -, hrest⟩
  · have hsame : (l.run prepare).run w = (.error f, w) := hrun
    rw [hsame]
    exact ⟨rfl, fun _ => nofun⟩
  · rcases hrest with ⟨port, -, hrun⟩ | ⟨hnone, -⟩
    · have hmakes : l.Makes prepare (l.deliver byExchange base port command args) port 1 w _ _ :=
        askOnce_makes w
      have hsame : (l.run prepare).run w = _ := hrun
      rw [hsame]
      exact ⟨within_askOnce hp (sameDisk_deliver hi port) port w, hmakes.ne_leading⟩
    · exact absurd (Environ.serverPort_eq_none_iff.1 hnone) hk

/-! ### Launches that are refused at once -/

/-- Without a runtime directory nothing happens: an interactive launch has no place for relays. -/
lemma run_of_unset (hi : l.interactive = true) (hd : l.runtimeDir = none)
    (hu : (l.host.getD w.environ).stripped Environ.runtimeDirVar = []) :
    ∃ f, (∀ prepare request, (l.run prepare request).run w = (.error f, w)) ∧
      ∀ command args, Request.commandName l.command = .ok command →
        Request.itemsOf l.args = .ok args → f = .misconfigured .runtimeDirUnset := by
  have hunset : (l.host.getD w.environ).runtimeDir w.environ w.system.users =
      .error (.misconfigured .runtimeDirUnset) := by
    rw [Environ.runtimeDir, hu]
  have hbase : l.relayBase (l.host.getD w.environ) w.environ w.system.users =
      .error (.misconfigured .runtimeDirUnset) := by
    rw [relayBase, hd, hi, hunset]
    rfl
  cases ho : l.opening (l.host.getD w.environ) w.environ w.system.users with
  | ok o =>
    obtain ⟨-, -, hok, -⟩ := opening_eq_ok_iff.1 ho
    rw [hbase] at hok
    cases hok
  | error f =>
    refine ⟨f, fun prepare request => ?_, fun command args hc ha => ?_⟩
    · rw [run_opens, ho]
      rfl
    · rw [opening, hc, ha, hbase] at ho
      exact (Except.error.inj ho).symm

end Launch

end SharedVm
