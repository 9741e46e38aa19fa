import SharedVm.Launch
import SharedVm.Proofs.Local

/-!
# Attempts

How a launch goes on once its values are read, and how often it makes a request. Any request will
do: what it does at the edges and what becomes of it are left open. A run of attempts is a path of
worlds, from each of which a request failed to connect, and one last attempt that decides.
-/

namespace SharedVm.Launch

open Act

variable {α : Type}

/-! ### One request -/

/-- The request failed to connect, so it may be made again. -/
def FailsToConnect (r : Except Failure Unit) : Prop :=
  ∃ e, r = .error (.launch e) ∧ e.kind = .connection

/-- What a launch comes to whose request number `attempts` is the last one. -/
def concluded {β : Type} (x : β) (attempts : Nat) : Except Failure Unit → Except Failure β
  | .ok () => .ok x
  | .error (.launch e) => .error (.forwarding e attempts)
  | .error f => .error f

/-- The part of a failure that a launch looks at: the error of a request. -/
def asked : Except Failure Unit → Except Failure (Option LaunchError)
  | .ok () => .ok none
  | .error (.launch e) => .ok (some e)
  | .error f => .error f

lemma run_launchError?_eq (a : Act Unit) (w : World) :
    (launchError? a).run w = (asked (a.run w).1, (a.run w).2) := by
  unfold launchError?
  rw [run_tryCatch, run_bind]
  rcases a.run w with ⟨f | x, v⟩
  · cases f with
    | launch e => rfl
    | _ => rfl
  · rfl

/-! ### Requests that are made again -/

/-- What passes between two attempts in the trace: a delay, if there is one. -/
def gap (delay : Value) : List Event :=
  if delay.isPositive? = some true then [.sleep delay] else []

def between (port : Int) (delay : Value) (attempt : Nat) (o : Option LaunchError) (w : World) :
    World :=
  match o with
  | none => w
  | some e => { w with
      notices := w.notices ++ [.attemptFailed attempt port e.message]
      events := w.events ++ gap delay }

/-- Why a process cannot wait as long as it is told to between two attempts. -/
def impatience? (system : System) (delay : Value) : Option Failure :=
  match delay.isPositive? with
  | some true => system.sleeping delay
  | some false => none
  | none => some (.notComparable delay.kindName)

lemma run_pause (delay : Value) (w : World) :
    (pause delay).run w = match impatience? w.system delay with
      | some f => (.error f, w)
      | none => (.ok (), { w with events := w.events ++ gap delay }) := by
  unfold pause gap impatience?
  cases delay.isPositive? with
  | none => rfl
  | some b =>
    cases b with
    | false => simp
    | true =>
      dsimp only
      rw [if_pos rfl]
      exact run_sleep delay w

/-- With `n` attempts made, the next one begins in `w`; with `m` attempts made, the next one begins
in `u`. Those in between failed to connect, and the delay passed after each of them. -/
inductive Retries (send : Act Unit) (port : Int) (delay : Value) : Nat → World → Nat → World → Prop
  | none (n : Nat) (w : World) : Retries send port delay n w n w
  | next {n m : Nat} {w v u : World} {e : LaunchError} (hs : send.run w = (.error (.launch e), v))
      (hk : e.kind = .connection) (hd : impatience? v.system delay = .none)
      (h : Retries send port delay (n + 1) (between port delay (n + 1) (some e) v) m u) :
      Retries send port delay n w m u

section Retry

variable {send : Act Unit} {port : Int} {delay : Value}

variable (port delay) in
lemma run_retry_of_error {e : LaunchError} {v w : World}
    (hs : send.run w = (.error (.launch e), v)) (hk : e.kind = .connection) (left n : Nat) :
    (retry send port delay (left + 1) (n + 1)).run w =
      match impatience? v.system delay with
      | some f => (.error f, { v with
          notices := v.notices ++ [.attemptFailed (n + 1) port e.message] })
      | none =>
        (retry send port delay left (n + 1 + 1)).run (between port delay (n + 1) (some e) v) := by
  have ha : (launchError? send).run w = (.ok (some e), v) := by
    rw [run_launchError?_eq, hs]
    rfl
  rw [retry, run_bind_of_ok ha]
  dsimp only
  have hr : e.retryable = true := decide_eq_true hk
  rw [if_pos hr, run_bind_of_ok (run_note _ _), run_bind, run_pause]
  dsimp only
  cases impatience? v.system delay <;> rfl

lemma run_retry_of_last {left : Nat} {w : World}
    (hl : left = 0 ∨ ¬ FailsToConnect (send.run w).1) (n : Nat) :
    (retry send port delay left (n + 1)).run w =
      (concluded (n + 1) (n + 1) (send.run w).1, (send.run w).2) := by
  rw [retry, run_bind, run_launchError?_eq]
  rcases hs : send.run w with ⟨f | x, v⟩
  · cases f with
    | launch e =>
      cases left with
      | zero => rfl
      | succ left =>
        rw [hs] at hl
        have hr : e.retryable = false :=
          decide_eq_false fun hk => hl.resolve_left (Nat.succ_ne_zero left) ⟨e, rfl, hk⟩
        dsimp only [asked, concluded]
        rw [hr, if_neg Bool.false_ne_true]
        rfl
    | _ => rfl
  · rfl

/-- The attempt after `m` others failed to connect, and the delay after it cannot be waited for, so
`f` is what leaves. -/
structure GivesUp (send : Act Unit) (port : Int) (delay : Value) (m : Nat) (u : World) (f : Failure)
    (v : World) : Prop where
  impatient : impatience? (send.run u).2.system delay = some f
  failed : ∃ e, (send.run u).1 = .error (.launch e) ∧ e.kind = .connection ∧
    v = { (send.run u).2 with
      notices := (send.run u).2.notices ++ [.attemptFailed (m + 1) port e.message] }

lemma GivesUp.unconnected {m : Nat} {u v : World} {f : Failure}
    (h : GivesUp send port delay m u f v) : FailsToConnect (send.run u).1 := by
  obtain ⟨e, he, hk, -⟩ := h.failed
  exact ⟨e, he, hk⟩

lemma GivesUp.local {m : Nat} {u v : World} {f : Failure}
    (h : GivesUp send port delay m u f v) : (send.run u).2.Local v := by
  obtain ⟨e, -, -, hv⟩ := h.failed
  rw [hv]
  exact Within.local_note _ _

/-- Attempts are made until one does anything but fail to connect, until none is left, or until the
delay cannot be waited for. -/
lemma run_retry_cases (send : Act Unit) (port : Int) (delay : Value) (left n : Nat) (w : World) :
    ∃ m u, Retries send port delay n w m u ∧ m ≤ n + left ∧
      ((m = n + left ∨ ¬ FailsToConnect (send.run u).1) ∧
        (retry send port delay left (n + 1)).run w =
          (concluded (m + 1) (m + 1) (send.run u).1, (send.run u).2) ∨
      m < n + left ∧ ∃ f v, GivesUp send port delay m u f v ∧
        (retry send port delay left (n + 1)).run w = (.error f, v)) := by
  -- each attempt that fails to connect makes one fewer that is left, from another world
  induction left generalizing n w with
  | zero =>
    exact ⟨n, w, .none n w, Nat.le_refl n, .inl ⟨.inl rfl, run_retry_of_last (.inl rfl) n⟩⟩
  | succ left ih =>
    by_cases hc : FailsToConnect (send.run w).1
    · obtain ⟨e, he, hk⟩ := hc
      have hs : send.run w = (.error (.launch e), (send.run w).2) := Prod.ext he rfl
      have hagain := run_retry_of_error port delay hs hk left n
      cases hd : impatience? (send.run w).2.system delay with
      | some f =>
        rw [hd] at hagain
        exact ⟨n, w, .none n w, Nat.le_add_right n _,
          .inr ⟨by omega, f, _, ⟨hd, e, he, hk, rfl⟩, hagain⟩⟩
      | none =>
        rw [hd] at hagain
        obtain ⟨m, u, hr, hm, hends⟩ :=
          ih (n + 1) (between port delay (n + 1) (some e) (send.run w).2)
        refine ⟨m, u, .next hs hk hd hr, by omega, ?_⟩
        rw [hagain]
        exact hends.imp (And.imp_left fun h => h.imp_left (by omega)) (And.imp_left (by omega))
    · exact ⟨n, w, .none n w, Nat.le_add_right n _, .inl ⟨.inr hc, run_retry_of_last (.inr hc) n⟩⟩

lemma Retries.le {n m : Nat} {w u : World} (h : Retries send port delay n w m u) : n ≤ m := by
  induction h with
  | none n w => exact Nat.le_refl n
  | next hs hk hd h ih => omega

end Retry

/-! ### The course of a launch -/

/-- A launch that knows the port of a leader makes one request. -/
def askOnce (l : Launch α) (prepare : List α → Act Value) (send : Value → Act Unit) (port : Nat) :
    Act (Launched α) := do
  let env ← prepare l.overrides
  match ← launchError? (send env) with
  | none => return .requested port 1
  | some e => throw (.forwarding e 1)

/-- A launch that lost the election makes requests to the port that the leader published. -/
def askLeader (l : Launch α) (prepare : List α → Act Value) (send : Value → Act Unit) (port : Nat) :
    Act (Launched α) := do
  let env ← prepare l.overrides
  let attempts ← retry (send env) port l.retryDelay (attemptLimit - 1) 1
  return .requested port attempts

/-- A launch that knows of no leader stands for election. -/
def compete (l : Launch α) (prepare : List α → Act Value) (send : Int → Value → Act Unit)
    (command : Value) (args : List Value) (lock : Path) : Act (Launched α) := do
  match ← Election.stand l.serverPort (pure lock) with
  | .elected handle lock port =>
    Act.note (.elected lock port)
    return .leading { handle, lock, port, command, args, overrides := l.overrides }
  | .led lock none => throw (.leaderWithoutPort lock)
  | .led _ (some port) =>
    Act.note (.forwarding command port)
    l.askLeader prepare (send port) port

/-- The lock file of a launch in a world: its own, or the one of the host's runtime directory. -/
def StandsAt (l : Launch α) (w : World) (lock : Path) : Prop :=
  l.lock = some lock ∨
    l.lock = none ∧ (Election.lockOf (l.host.getD w.environ)).run w = (.ok lock, w)

/-- What a launch finds out before anything happens: its command and arguments, the directory for
relays, and the port of a server that is announced. -/
structure Opening where
  command : Value
  args : List Value
  base : Option Path
  known : Option Nat

/-- The directory for the relays of a launch, if it has any. -/
def relayBase (l : Launch α) (host process : Environ) (users : Users) :
    Except Failure (Option Path) :=
  match l.runtimeDir with
  | some base => .ok (some base)
  | none => if l.interactive then (host.runtimeDir process users).map some else .ok none

lemma relayBase_of_direct {l : Launch α} (hl : l.interactive = false) (host process : Environ)
    (users : Users) : l.relayBase host process users = .ok l.runtimeDir := by
  unfold relayBase
  cases l.runtimeDir with
  | some base => rfl
  | none =>
    rw [hl]
    rfl

def opening (l : Launch α) (host process : Environ) (users : Users) : Except Failure Opening := do
  let command ← Request.commandName l.command
  let args ← Request.itemsOf l.args
  let base ← l.relayBase host process users
  let known ← host.serverPort
  return { command, args, base, known }

lemma opening_eq_ok_iff {l : Launch α} {host process : Environ} {users : Users} {o : Opening} :
    l.opening host process users = .ok o ↔ Request.commandName l.command = .ok o.command ∧
      Request.itemsOf l.args = .ok o.args ∧ l.relayBase host process users = .ok o.base ∧
      host.serverPort = .ok o.known := by
  unfold opening
  obtain ⟨command, args, base, known⟩ := o
  cases Request.commandName l.command <;> cases Request.itemsOf l.args <;>
    cases l.relayBase host process users <;> cases host.serverPort <;>
    simp [bind, Except.bind, pure, Except.pure]

section Course

variable (l : Launch α) (prepare : List α → Act Value) (request : Asking) (w : World)

/-- What a launch does with what it has found out. -/
def goOn (host : Environ) (o : Opening) : Act (Launched α) :=
  let send (port : Int) : Value → Act Unit := l.deliver request o.base port o.command o.args
  match o.known with
  | some port => l.askOnce prepare (send port) port
  | none => do
    let lock ← match l.lock with
      | some lock => pure lock
      | none => Election.lockOf host
    l.compete prepare send o.command o.args lock

lemma run_opens : (l.run prepare request).run w =
    (Act.ofExcept (l.opening (l.host.getD w.environ) w.environ w.system.users) >>=
      l.goOn prepare request (l.host.getD w.environ)).run w := by
  unfold run
  extract_lets withHost
  have hhost : ∀ host, (withHost host).run w =
      (Act.ofExcept (l.opening host w.environ w.system.users) >>=
        l.goOn prepare request host).run w := by
    intro host
    unfold withHost opening relayBase
    cases Request.commandName l.command with
    | error f => rfl
    | ok command =>
      refine (run_bind_of_ok (run_ofExcept (.ok command) w) _).trans ?_
      cases Request.itemsOf l.args with
      | error f => rfl
      | ok args =>
        refine (run_bind_of_ok (run_ofExcept (.ok args) w) _).trans ?_
        cases l.runtimeDir with
        | some base => cases host.serverPort <;> rfl
        | none =>
          cases l.interactive with
          | false => cases host.serverPort <;> rfl
          | true =>
            refine (run_bind_of_ok (run_environ w) _).trans ?_
            refine (run_bind_of_ok (run_users w) _).trans ?_
            cases host.runtimeDir w.environ w.system.users with
            | error f => rfl
            | ok base => cases host.serverPort <;> rfl
  cases l.host with
  | some host => exact hhost host
  | none => exact (run_bind_of_ok (run_environ w) withHost).trans (hhost w.environ)

/-- What is left of the launch in `w` fails before anything has happened, or asks the leader that the
host announces, or stands for election. -/
def Proceeds (a : Act (Launched α)) : Prop :=
  (∃ f, a.run w = (.error f, w)) ∨
    ∃ command args base, Request.commandName l.command = .ok command ∧
      Request.itemsOf l.args = .ok args ∧
      let send (port : Int) : Value → Act Unit := l.deliver request base port command args
      ((∃ port, (l.host.getD w.environ).serverPort = .ok (some port) ∧
          a.run w = (l.askOnce prepare (send port) port).run w) ∨
        (l.host.getD w.environ).serverPort = .ok none ∧ ∃ lock, l.StandsAt w lock ∧
          a.run w = (l.compete prepare send command args lock).run w)

lemma run_proceeds : l.Proceeds prepare request w (l.run prepare request) := by
  have hopens := l.run_opens prepare request w
  cases ho : l.opening (l.host.getD w.environ) w.environ w.system.users with
  | error f =>
    rw [ho] at hopens
    exact .inl ⟨f, hopens⟩
  | ok o =>
    obtain ⟨hc, ha, -, hk⟩ := opening_eq_ok_iff.1 ho
    rw [ho, run_bind_of_ok (run_ofExcept (.ok o) w)] at hopens
    unfold Proceeds
    rw [hopens]
    unfold goOn
    cases hknown : o.known with
    | some port => exact .inr ⟨_, _, o.base, hc, ha, .inl ⟨port, hk.trans (by rw [hknown]), rfl⟩⟩
    | none =>
      rw [hknown] at hk
      cases hl : l.lock with
      | some lock => exact .inr ⟨_, _, o.base, hc, ha, .inr ⟨hk, lock, .inl hl, rfl⟩⟩
      | none =>
        have hlock := Election.run_lockOf (l.host.getD w.environ) w
        cases hp : (l.host.getD w.environ).lockPath w.environ w.system.users with
        | error f =>
          rw [hp] at hlock
          exact .inl ⟨f, run_bind_of_error hlock _⟩
        | ok lock =>
          rw [hp] at hlock
          exact .inr ⟨_, _, o.base, hc, ha, .inr ⟨hk, lock, .inr ⟨hl, hlock⟩, run_bind_of_ok hlock _⟩⟩

variable {l prepare request w} {port : Nat} {command : Value} {args : List Value} {base : Option Path}

lemma run_known (hk : (l.host.getD w.environ).serverPort = .ok (some port))
    (hc : Request.commandName l.command = .ok command) (ha : Request.itemsOf l.args = .ok args)
    (hb : l.relayBase (l.host.getD w.environ) w.environ w.system.users = .ok base) :
    (l.run prepare request).run w =
      (l.askOnce prepare (l.deliver request base port command args) port).run w := by
  have ho : l.opening (l.host.getD w.environ) w.environ w.system.users =
      .ok ⟨command, args, base, some port⟩ :=
    opening_eq_ok_iff.2 ⟨hc, ha, hb, hk⟩
  rw [run_opens, ho, run_bind_of_ok (run_ofExcept (.ok _) w)]
  rfl

end Course

/-! ### What all attempts keep to -/

section Within

variable {R : World → World → Prop} [IsPreorder World R]

lemma within_launchError? {a : Act Unit} (ha : Within R a) : Within R (launchError? a) := by
  refine Within.tryCatch (Within.bind ha fun _ => Within.pure _) fun f => ?_
  split
  · exact Within.pure _
  · exact Within.throw _

lemma within_askOnce {l : Launch α} {prepare : List α → Act Value} {send : Value → Act Unit}
    (hp : Within R (prepare l.overrides)) (hs : ∀ env, Within R (send env)) (port : Nat) :
    Within R (l.askOnce prepare send port) := by
  refine Within.bind hp fun env => Within.bind (within_launchError? (hs env)) fun o => ?_
  split
  · exact Within.pure _
  · exact Within.throw _

section Told

variable (hn : ∀ n, Within R (Act.note n)) (he : ∀ d, Within R (Act.event (.sleep d)))

include he

lemma within_pause (delay : Value) : Within R (pause delay) := by
  unfold pause
  split
  · exact Within.bind (Within.unlessRefused _) fun _ => he _
  · exact Within.pure _
  · exact Within.throw _

include hn

lemma within_retry {send : Act Unit} (hs : Within R send) (port : Int) (delay : Value)
    (left attempt : Nat) : Within R (retry send port delay left attempt) := by
  induction left generalizing attempt with
  | zero =>
    unfold retry
    refine Within.bind (within_launchError? hs) fun o => ?_
    split
    · exact Within.pure _
    · exact Within.throw _
  | succ left ih =>
    unfold retry
    refine Within.bind (within_launchError? hs) fun o => ?_
    split
    · exact Within.pure _
    · dsimp only
      split
      · exact Within.bind (hn _) fun _ => Within.bind (within_pause he _) fun _ => ih _
      · exact Within.throw _

lemma within_askLeader {l : Launch α} {prepare : List α → Act Value} {send : Value → Act Unit}
    (hp : Within R (prepare l.overrides)) (hs : ∀ env, Within R (send env)) (port : Nat) :
    Within R (l.askLeader prepare send port) :=
  Within.bind hp fun env => Within.bind (within_retry hn he (hs env) _ _ _ _) fun _ => Within.pure _

end Told

end Within

/-! ### The requests of a launch -/

section Requests

variable (l : Launch α) (prepare : List α → Act Value) (send : Value → Act Unit) (port limit : Nat)

/-- The variables are made once, and then at most `limit` requests; the last of them decides, unless
the delay before the next one cannot be waited for. -/
inductive Makes (w : World) : Except Failure (Launched α) → World → Prop
  | unprepared {f : Failure} {v : World} (hp : (prepare l.overrides).run w = (.error f, v)) :
      Makes w (.error f) v
  | made {env : Value} {x u : World} {m : Nat} (hp : (prepare l.overrides).run w = (.ok env, x))
      (hr : Retries (send env) port l.retryDelay 0 x m u) (hm : m < limit)
      (hlast : m + 1 = limit ∨ ¬ FailsToConnect ((send env).run u).1) :
      Makes w (concluded (.requested port (m + 1)) (m + 1) ((send env).run u).1)
        ((send env).run u).2
  | unpaused {env : Value} {x u v : World} {m : Nat} {f : Failure}
      (hp : (prepare l.overrides).run w = (.ok env, x))
      (hr : Retries (send env) port l.retryDelay 0 x m u) (hm : m + 1 < limit)
      (hg : GivesUp (send env) port l.retryDelay m u f v) : Makes w (.error f) v

variable {l prepare send port}

lemma concluded_bind {β γ : Type} (x : β) (f : β → Act γ) (y : γ) (n : Nat)
    (hf : ∀ w, (f x).run w = (.ok y, w)) {r : Except Failure Unit} {a : Act β} {w v : World}
    (ha : a.run w = (concluded x n r, v)) : (a >>= f).run w = (concluded y n r, v) := by
  rw [run_bind, ha]
  cases r with
  | ok u => exact hf v
  | error e => cases e <;> rfl

lemma run_askOnce {env : Value} {w x : World} (hp : (prepare l.overrides).run w = (.ok env, x)) :
    (l.askOnce prepare send port).run w =
      (concluded (.requested port 1) 1 ((send env).run x).1, ((send env).run x).2) := by
  unfold askOnce
  rw [run_bind_of_ok hp, run_bind, run_launchError?_eq]
  rcases (send env).run x with ⟨f | u, v⟩
  · cases f <;> rfl
  · rfl

lemma askOnce_makes (w : World) : l.Makes prepare send port 1 w
    ((l.askOnce prepare send port).run w).1 ((l.askOnce prepare send port).run w).2 := by
  rcases hp : (prepare l.overrides).run w with ⟨f | env, x⟩
  · unfold askOnce
    rw [run_bind_of_error hp]
    exact .unprepared hp
  · rw [run_askOnce hp]
    exact .made hp (.none 0 x) Nat.one_pos (.inl rfl)

lemma askLeader_makes (w : World) : l.Makes prepare send port attemptLimit w
    ((l.askLeader prepare send port).run w).1 ((l.askLeader prepare send port).run w).2 := by
  unfold askLeader
  rw [run_bind]
  rcases hp : (prepare l.overrides).run w with ⟨f | env, x⟩
  · exact .unprepared hp
  · obtain ⟨m, u, hr, hm, ⟨hlast, hrun⟩ | ⟨hlt, f, v, hg, hrun⟩⟩ :=
      run_retry_cases (send env) port l.retryDelay (attemptLimit - 1) 0 x
    · dsimp only
      rw [concluded_bind (m + 1) _ (Launched.requested port (m + 1)) (m + 1) (fun _ => rfl) hrun]
      refine .made hp hr (Nat.lt_of_le_of_lt hm (by decide)) (hlast.imp_left fun h => ?_)
      rw [h]
      rfl
    · dsimp only
      rw [run_bind_of_error hrun]
      exact .unpaused hp hr (by unfold attemptLimit at hlt ⊢; omega) hg

end Requests

/-- Who asks a leader does not become one. -/
lemma Makes.ne_leading {l : Launch α} {prepare : List α → Act Value} {send : Value → Act Unit}
    {port limit : Nat} {w v : World} {r : Except Failure (Launched α)}
    (h : l.Makes prepare send port limit w r v) (leader : Leader α) : r ≠ .ok (.leading leader) := by
  cases h with
  | unprepared hp => exact nofun
  | @made env x u m hp hr hm hlast =>
    cases ((send env).run u).1 with
    | ok _ => exact nofun
    | error f => cases f <;> exact nofun
  | unpaused hp hr hm hg => exact nofun

/-- What a launch comes to: no leader is asked, or one is, which the host announces or to which the
election was lost. -/
inductive Courses (l : Launch α) (prepare : List α → Act Value) (request : Asking) (w : World) :
    Except Failure (Launched α) → World → Prop
  | settled {r : Except Failure (Launched α)} {v : World} (hv : w.Local v)
      (hr : ∀ port attempts, r ≠ .ok (.requested port attempts)) : Courses l prepare request w r v
  | asks {command : Value} {args : List Value} {base : Option Path} {port limit : Nat}
      {r : Except Failure (Launched α)} {v u : World}
      (hc : Request.commandName l.command = .ok command) (ha : Request.itemsOf l.args = .ok args)
      (hport : (l.host.getD w.environ).serverPort = .ok (some port) ∧ limit = 1 ∨
        (l.host.getD w.environ).serverPort = .ok none ∧ limit = attemptLimit)
      (hv : w.Local v)
      (h : l.Makes prepare (l.deliver request base port command args) port limit v r u) :
      Courses l prepare request w r u

lemma run_courses (l : Launch α) (prepare : List α → Act Value) (request : Asking) (w : World) :
    l.Courses prepare request w ((l.run prepare request).run w).1
      ((l.run prepare request).run w).2 := by
  rcases l.run_proceeds prepare request w with ⟨f, hrun⟩ | ⟨command, args, base, hc, ha, hrest⟩
  · rw [hrun]
    exact .settled (refl_of World.Local w) fun _ _ => nofun
  · rcases hrest with ⟨port, hk, hrun⟩ | ⟨hk, lock, -, hrun⟩
    · rw [hrun]
      exact .asks hc ha (.inl ⟨hk, rfl⟩) (refl_of World.Local w) (askOnce_makes w)
    · rw [hrun, compete, run_bind]
      have hlocal := Election.local_stand l.serverPort (Within.pure lock) w
      rcases hs : (Election.stand l.serverPort (pure lock)).run w with ⟨f | s, v⟩ <;>
        rw [hs] at hlocal
      · exact .settled hlocal fun _ _ => nofun
      · cases s with
        | elected handle lock port =>
          exact .settled (trans_of World.Local hlocal (Within.local_note _ v)) fun _ _ => nofun
        | led lock port =>
          cases port with
          | none => exact .settled hlocal fun _ _ => nofun
          | some port =>
            dsimp only
            rw [run_bind_of_ok (run_note _ v)]
            exact .asks hc ha (.inr ⟨hk, rfl⟩) (trans_of World.Local hlocal (Within.local_note _ v))
              (askLeader_makes _)

end SharedVm.Launch
