import SharedVm.Proofs.Launch.Attempts
import SharedVm.Proofs.Local

/-!
# How often a leader is asked

A launch that lost the election asks the leader until a request does anything but fail to connect,
at most `attemptLimit` times. The worlds before each request follow from the outcomes of those
before it, so the run of the launch is known from the sequence of outcomes alone, as long as the
delay between two requests can be waited for.
-/

namespace SharedVm.Launch

/-- What a request comes to: nothing is wrong, or the error of a launch. -/
def outcome : Option LaunchError → Except Failure Unit
  | none => .ok ()
  | some e => .error (.launch e)

def IsUnconnected : Option LaunchError → Prop
  | none => False
  | some e => e.kind = .connection

/-- What a launch comes to whose last attempt has this number and this outcome. -/
def verdict {α : Type} (port : Int) (attempts : Nat) :
    Option LaunchError → Except Failure (Launched α)
  | none => .ok (.requested port attempts)
  | some e => .error (.forwarding e attempts)

/-- The world before each request, the first of which is made in `w`; `o` has their outcomes. -/
def before (send : Act Unit) (port : Int) (delay : Value) (o : Nat → Option LaunchError)
    (w : World) : Nat → World
  | 0 => w
  | n + 1 =>
    between port delay (n + 1) (o n) (send.run (before send port delay o w n)).2

def after (send : Act Unit) (port : Int) (delay : Value) (o : Nat → Option LaunchError) (w : World)
    (n : Nat) : World :=
  (send.run (before send port delay o w n)).2

lemma run_launchError? {a : Act Unit} {w : World} {o : Option LaunchError}
    (h : (a.run w).1 = outcome o) : (launchError? a).run w = (.ok o, (a.run w).2) := by
  rw [run_launchError?_eq, h]
  cases o <;> rfl

/-- The number of attempts that have been made, or the error of the last one. -/
def tried (attempts : Nat) : Option LaunchError → Except Failure Nat
  | none => .ok attempts
  | some e => .error (.forwarding e attempts)

section Retry

variable {send : Act Unit} {port : Int} {delay : Value} {o : Nat → Option LaunchError} {w : World}

lemma failsToConnect_outcome (x : Option LaunchError) :
    FailsToConnect (outcome x) ↔ IsUnconnected x := by
  cases x with
  | none => exact ⟨fun ⟨_, h, _⟩ => (nomatch h), False.elim⟩
  | some e =>
    constructor
    · rintro ⟨_, h, hk⟩
      cases h
      exact hk
    · exact fun hk => ⟨e, rfl, hk⟩

lemma concluded_outcome (attempts : Nat) (x : Option LaunchError) :
    concluded attempts attempts (outcome x) = tried attempts x := by
  cases x <;> rfl

/-- Worlds from which requests failed to connect are those that follow from the outcomes. -/
lemma Retries.eq_before {n k m : Nat} {v u : World} (h : Retries send port delay k v m u)
    (hv : v = before send port delay o w k)
    (hs : ∀ j, n ≤ j → j ≤ m → (∀ i, n ≤ i → i < j → IsUnconnected (o i)) →
      (send.run (before send port delay o w j)).1 = outcome (o j))
    (hk : n ≤ k) (hall : ∀ i, n ≤ i → i < k → IsUnconnected (o i)) :
    u = before send port delay o w m ∧ ∀ i, n ≤ i → i < m → IsUnconnected (o i) := by
  induction h with
  | none k v => exact ⟨hv, hall⟩
  | @next k m v v' u e hsend hkind hdelay hrest ih =>
    have hle := hrest.le
    have ho := hs k hk (by omega) hall
    rw [← hv, hsend] at ho
    have hsome : o k = some e := by
      cases hok : o k with
      | none =>
        rw [hok] at ho
        cases ho
      | some e' =>
        rw [hok] at ho
        cases ho
        rfl
    have hk' : IsUnconnected (o k) := by
      rw [hsome]
      exact hkind
    refine ih ?_ hs (by omega) fun i hi hlt => ?_
    · rw [before, hsome, ← hv, hsend]
    · rcases Nat.lt_succ_iff_lt_or_eq.1 hlt with hlt | rfl
      · exact hall i hi hlt
      · exact hk'

/-- The loop stops at the first attempt that does not fail to connect, or at the last one. -/
lemma run_retry (left n : Nat)
    (h : ∀ m, n ≤ m → m ≤ n + left → (∀ i, n ≤ i → i < m → IsUnconnected (o i)) →
      (send.run (before send port delay o w m)).1 = outcome (o m))
    (hd : ∀ m, n ≤ m → m < n + left → (∀ i, n ≤ i → i ≤ m → IsUnconnected (o i)) →
      impatience? (after send port delay o w m).system delay = none) :
    ∃ m, n ≤ m ∧ m ≤ n + left ∧ (∀ i, n ≤ i → i < m → IsUnconnected (o i)) ∧
      (m = n + left ∨ ¬ IsUnconnected (o m)) ∧
      (retry send port delay left (n + 1)).run (before send port delay o w n) =
        (tried (m + 1) (o m), after send port delay o w m) := by
  obtain ⟨m, u, hr, hm, hends⟩ :=
    run_retry_cases send port delay left n (before send port delay o w n)
  obtain ⟨rfl, hall⟩ := hr.eq_before rfl (fun j hj hle => h j hj (Nat.le_trans hle hm))
    (Nat.le_refl n) fun i hi hlt => absurd hi (Nat.not_le.2 hlt)
  have hsend := h m hr.le hm hall
  rcases hends with ⟨hlast, hrun⟩ | ⟨hlt, f, v, hg, -⟩
  · rw [hsend, failsToConnect_outcome] at hlast
    rw [hsend, concluded_outcome] at hrun
    exact ⟨m, hr.le, hm, hall, hlast, hrun⟩
  · have hm' : IsUnconnected (o m) := by
      rw [← failsToConnect_outcome, ← hsend]
      exact hg.unconnected
    have hwaits := hd m hr.le hlt fun i hi hle =>
      (Nat.lt_or_eq_of_le hle).elim (hall i hi) fun he => he ▸ hm'
    rw [after, hg.impatient] at hwaits
    cases hwaits

/-- What a run of attempts leaves in the trace: the marks of each, and a delay between two. -/
lemma events_after {n : Nat} (hall : ∀ i < n, IsUnconnected (o i)) {marks : Nat → List Event}
    (hm : ∀ i ≤ n, (after send port delay o w i).events =
      (before send port delay o w i).events ++ marks i) :
    (after send port delay o w n).events =
      w.events ++ (List.range n).flatMap (fun i => marks i ++ gap delay) ++ marks n := by
  induction n with
  | zero => simpa [before] using hm 0 (Nat.le_refl 0)
  | succ n ih =>
    have hn := ih (fun i hi => hall i (Nat.lt_succ_of_lt hi)) fun i hi => hm i (Nat.le_succ_of_le hi)
    have hb : (before send port delay o w (n + 1)).events =
        (after send port delay o w n).events ++ gap delay := by
      have hc := hall n (Nat.lt_succ_self n)
      rw [before]
      cases ho : o n with
      | none =>
        rw [ho] at hc
        exact hc.elim
      | some e => rfl
    rw [hm (n + 1) (Nat.le_refl _), hb, hn, List.range_succ, List.flatMap_append]
    simp

end Retry

/-! ### Launches -/

variable {α : Type}

/-- A launch that is not interactive, with a command and arguments that are usable. -/
structure Plain (l : Launch α) (command : Value) (args : List Value) : Prop where
  interactive : l.interactive = false
  command : Request.commandName l.command = .ok command
  args : Request.itemsOf l.args = .ok args

/-- The launch knows of no leader and loses the election to one that has published a port. -/
structure Loses (l : Launch α) (w : World) (lock : Path) (port : Nat) (v : World) : Prop where
  unknown : (l.host.getD w.environ).serverPort = .ok none
  path : l.lock = some lock ∨
    l.lock = none ∧ (Election.lockOf (l.host.getD w.environ)).run w = (.ok lock, w)
  led : (Election.stand l.serverPort (pure lock)).run w = (.ok (.led lock (some port)), v)

/-- `o` has the outcome of each request, the first of which is made in `w`. -/
def Answers (send : Act Unit) (port : Int) (delay : Value) (o : Nat → Option LaunchError)
    (w : World) : Prop :=
  ∀ n < attemptLimit, (∀ i < n, IsUnconnected (o i)) →
    (send.run (before send port delay o w n)).1 = outcome (o n)

/-- Wherever a request failed to connect and another one may follow, the delay can be waited for. -/
def Waits (send : Act Unit) (port : Int) (delay : Value) (o : Nat → Option LaunchError)
    (w : World) : Prop :=
  ∀ n, n + 1 < attemptLimit → (∀ i ≤ n, IsUnconnected (o i)) →
    impatience? (after send port delay o w n).system delay = none

section Runs

variable {l : Launch α} {prepare : List α → Act Value} {request : Asking} {w v x : World}
  {command env : Value} {args : List Value}

section Plain

variable (h : l.Plain command args)

include h

lemma deliver_of_plain (base : Option Path) (port : Int) :
    l.deliver request base port command args = request (.int port) command (.list args) := by
  unfold deliver
  rw [h.interactive]
  rfl

lemma opening_of_plain {host : Environ} {known : Option Nat} (hk : host.serverPort = .ok known)
    (process : Environ) (users : Users) :
    l.opening host process users = .ok { command, args, base := l.runtimeDir, known } :=
  opening_eq_ok_iff.2 ⟨h.command, h.args, relayBase_of_direct h.interactive host process users, hk⟩

lemma run_of_known {port : Nat} (hk : (l.host.getD w.environ).serverPort = .ok (some port)) :
    (l.run prepare request).run w =
      (l.askOnce prepare (request (.int port) command (.list args)) port).run w := by
  rw [run_known hk h.command h.args (relayBase_of_direct h.interactive _ _ _), deliver_of_plain h]

lemma run_of_loses {lock : Path} {port : Nat} (hl : l.Loses w lock port v) :
    (l.run prepare request).run w =
      (l.askLeader prepare (request (.int port) command (.list args)) port).run
        { v with notices := v.notices ++ [.forwarding command port] } := by
  let send : Int → Value → Act Unit := fun port =>
    l.deliver request l.runtimeDir port command args
  have hcompete : (l.compete prepare send command args lock).run w =
      (l.askLeader prepare (send port) port).run
        { v with notices := v.notices ++ [.forwarding command port] } := by
    rw [compete, Act.run_bind_of_ok hl.led]
    exact Act.run_bind_of_ok (Act.run_note _ _) _
  have hsend : request (.int port) command (.list args) = send port := (deliver_of_plain h _ _).symm
  rw [run_opens, opening_of_plain h hl.unknown, Act.run_bind_of_ok (Act.run_ofExcept (.ok _) w), goOn,
    hsend]
  rcases hl.path with hp | ⟨hp, hlock⟩
  · rw [hp]
    exact hcompete
  · rw [hp]
    exact (Act.run_bind_of_ok hlock _).trans hcompete

end Plain

end Runs

/-- A launch that loses the election makes requests until one does anything but fail to connect, at
most `attemptLimit`; all are the same, they begin in the world that preparing the variables once
leaves, the delay passes between two of them and nowhere else, and the last one decides. Any delay
will do that can be waited for where it comes to that. A launch that knows of a leader makes one
request whatever becomes of it. -/
theorem run_asks (l : Launch α) (prepare : List α → Act Value) (request : Asking) (w : World)
    {command : Value} {args : List Value} (h : l.Plain command args) :
    (∀ {lock : Path} {port : Nat} {v x : World} {env : Value} {o : Nat → Option LaunchError},
      l.Loses w lock port v →
      (prepare l.overrides).run { v with notices := v.notices ++ [.forwarding command port] } =
        (.ok env, x) →
      Answers (request (.int port) command (.list args) env) port l.retryDelay o x →
      Waits (request (.int port) command (.list args) env) port l.retryDelay o x →
      let send := request (.int port) command (.list args) env
      ∃ n < attemptLimit, (∀ i < n, IsUnconnected (o i)) ∧
        (n + 1 = attemptLimit ∨ ¬ IsUnconnected (o n)) ∧
        (l.run prepare request).run w =
          (verdict port (n + 1) (o n), after send port l.retryDelay o x n) ∧
        ∀ (made : List Event) (marks : Nat → List Event), x.events = v.events ++ made →
          (∀ i ≤ n, (after send port l.retryDelay o x i).events =
            (before send port l.retryDelay o x i).events ++ marks i) →
          (after send port l.retryDelay o x n).events = w.events ++ made ++
            (List.range n).flatMap (fun i => marks i ++ gap l.retryDelay) ++ marks n) ∧
    (∀ {port : Nat} {x : World} {env : Value} {o : Option LaunchError},
      (l.host.getD w.environ).serverPort = .ok (some port) →
      (prepare l.overrides).run w = (.ok env, x) →
      ((request (.int port) command (.list args) env).run x).1 = outcome o →
      (l.run prepare request).run w =
        (verdict port 1 o, ((request (.int port) command (.list args) env).run x).2)) := by
  constructor
  · intro lock port v x env o hl hp ho hd
    obtain ⟨n, -, hle, hall, hstop, hrun⟩ := run_retry (o := o) (w := x) (attemptLimit - 1) 0
      (fun m _ hm hall =>
        ho m (Nat.lt_of_le_of_lt hm (by decide)) fun i hi => hall i i.zero_le hi)
      fun m _ hm hall =>
        hd m (by unfold attemptLimit at hm ⊢; omega) fun i hi => hall i i.zero_le hi
    have hall : ∀ i < n, IsUnconnected (o i) := fun i hi => hall i i.zero_le hi
    rw [Nat.zero_add] at hle hstop hrun
    rw [before] at hrun
    refine ⟨n, Nat.lt_of_le_of_lt hle (by decide), hall, ?_, ?_, ?_⟩
    · rcases hstop with hn | hn
      · left
        rw [hn]
        rfl
      · exact .inr hn
    · rw [run_of_loses h hl, askLeader, Act.run_bind_of_ok hp, Act.run_bind, hrun]
      cases o n with
      | none => rfl
      | some e => rfl
    · intro made marks hx hm
      have hlocal := Election.local_stand l.serverPort (Act.Within.pure lock) w
      rw [hl.led] at hlocal
      rw [events_after hall hm, hx, hlocal.events]
  · intro port x env o hk hp ho
    rw [run_of_known h hk, askOnce, Act.run_bind_of_ok hp, Act.run_bind_of_ok (run_launchError? ho)]
    cases o with
    | none => rfl
    | some e => rfl

/-- A working directory with a lock file that a leader holds, and a leader that listens late. -/
def lateLeader : World where
  disk := {
    workDir := ["work"]
    entries := [(["work"], .directory), (["work", "krun.lock"], .file 0)]
    inodes := [{ content := Utf8.encode "3333", holder := some 0 }]
    handles := [{ inode := 0 }] }
  peers := [.unreachable .refused, .answering [] none]

def byPeer : Asking := fun port _ _ _ => do
  match ← Exchange.nextPeer with
  | .unreachable r => throw (.launch (.connection r (some port)))
  | _ => pure ()

/-- A launch that loses the election to that leader. -/
def challenger (delay : Value) : Launch Unit :=
  { serverPort := .int 4444, command := .text "c", lock := some "krun.lock", retryDelay := delay }

def lateLeader.led : World := ((Election.stand (.int 4444) (pure "krun.lock")).run lateLeader).2

/-- The world in which it makes its first request. -/
def lateLeader.found : World :=
  { lateLeader.led with notices := lateLeader.led.notices ++ [.forwarding (.text "c") 3333] }

lemma plain_challenger (delay : Value) : (challenger delay).Plain (.text "c") [] := ⟨rfl, rfl, rfl⟩

lemma loses_challenger (delay : Value) :
    (challenger delay).Loses lateLeader "krun.lock" 3333 lateLeader.led :=
  ⟨rfl, .inl rfl, Prod.ext rfl rfl⟩

theorem run_asks_late :
    (((challenger (.int 1)).run (fun _ => pure .null) byPeer).run lateLeader).1 =
      .ok (.requested 3333 2) := by
  let o : Nat → Option LaunchError := fun n =>
    if n = 0 then some (.connection .refused (some (.int 3333))) else none
  have hanswers : Answers (byPeer (.int 3333) (.text "c") (.list []) .null) 3333 (.int 1) o
      lateLeader.found := by
    intro n _ hall
    match n with
    | 0 => rfl
    | 1 => rfl
    | n + 2 => exact (hall 1 (by omega)).elim
  have hwaits : Waits (byPeer (.int 3333) (.text "c") (.list []) .null) 3333 (.int 1) o
      lateLeader.found := by
    intro n _ hall
    match n with
    | 0 => rfl
    | n + 1 => exact (hall 1 (by omega)).elim
  obtain ⟨n, hn, hall, hstop, hrun, -⟩ :=
    (run_asks (challenger (.int 1)) (fun _ => pure .null) byPeer lateLeader (plain_challenger _)).1
      (loses_challenger _) rfl hanswers hwaits
  have h1 : n = 1 := by
    rcases Nat.lt_trichotomy n 1 with h | h | h
    · obtain rfl : n = 0 := by omega
      rcases hstop with h | h
      · cases h
      · exact absurd rfl h
    · exact h
    · exact (hall 1 h).elim
  subst h1
  rw [hrun]
  rfl

lemma run_challenger {delay : Value} {f : Failure} (h : impatience? {} delay = some f) :
    let ran := ((challenger delay).run (fun _ => pure .null) byPeer).run lateLeader
    ran.1 = .error f ∧ ran.2.peers = [.answering [] none] := by
  let send : Act Unit := byPeer (.int 3333) (.text "c") (.list []) .null
  have hfailed : send.run lateLeader.found =
      (.error (.launch (.connection .refused (some (.int 3333)))),
        (send.run lateLeader.found).2) := rfl
  have hsystem : (send.run lateLeader.found).2.system = {} := rfl
  have hfirst := run_retry_of_error 3333 delay hfailed rfl 2 0
  rw [hsystem, h] at hfirst
  intro ran
  have hran : ran = (.error f, _) :=
    (run_of_loses (plain_challenger delay) (loses_challenger delay)).trans
      (Act.run_bind_of_error hfirst _)
  rw [hran]
  exact ⟨rfl, rfl⟩

/-- The leader answers the second request, which is never made: an infinite delay cannot be slept, and
a text is no delay. -/
theorem run_asks_no_more :
    let ran (delay : Value) := ((challenger delay).run (fun _ => pure .null) byPeer).run lateLeader
    ((ran (.real (.infinite false))).1 = .error (.delayTooLong false) ∧
      (ran (.real (.infinite false))).2.peers = [.answering [] none]) ∧
    (ran (.text "1")).1 = .error (.notComparable "str") ∧
      (ran (.text "1")).2.peers = [.answering [] none] :=
  ⟨run_challenger rfl, run_challenger rfl⟩

end SharedVm.Launch
