import SharedVm.Relay
import SharedVm.Proofs.Trace

/-!
# One relay

Starting a relay fails before there is a process, fails with the process, or leaves one running that
is the next of the tape. No way of failing looks like that of a request. Ending a relay never fails,
and tells it to end only if it is found running.
-/

namespace SharedVm

lemma Failure.ofName?_ne_launch (t : Text) (e : LaunchError) :
    Failure.ofName? t ≠ some (.launch e) := by
  unfold Failure.ofName?
  split
  · exact nofun
  · split
    · exact nofun
    · exact nofun

/-- An operation that stays on the disk and in the log, and that does not fail as a request does. -/
structure Act.Aside {α : Type} (a : Act α) : Prop where
  within : Act.Within World.Local a
  failure : ∀ w e, (a.run w).1 ≠ .error (.launch e)

namespace Act.Aside

variable {α β : Type}

lemma of_ok {a : Act α} (hw : Within World.Local a) (h : ∀ w, ∃ x, (a.run w).1 = .ok x) :
    Aside a where
  within := hw
  failure w e he := by
    obtain ⟨x, hx⟩ := h w
    rw [hx] at he
    cases he

lemma pure (x : α) : Aside (Pure.pure x : Act α) := of_ok (Within.pure x) fun _ => ⟨x, rfl⟩

lemma throw {f : Failure} (hf : ∀ e, f ≠ .launch e) : Aside (MonadExcept.throw f : Act α) where
  within := Within.throw f
  failure _ e he := hf e (Except.error.inj he)

lemma misconfigured (m : Misconfiguration) : Aside (Act.misconfigured m : Act α) :=
  throw fun _ => nofun

lemma get : Aside (MonadState.get : Act World) := of_ok Within.get fun w => ⟨w, rfl⟩

lemma disk : Aside Act.disk := of_ok Within.disk fun w => ⟨w.disk, rfl⟩

lemma environ : Aside Act.environ := of_ok Within.environ fun w => ⟨w.environ, rfl⟩

lemma users : Aside Act.users := of_ok Within.users fun w => ⟨w.system.users, rfl⟩

lemma setDisk (d : Disk) : Aside (Act.setDisk d) := of_ok (Within.local_setDisk d) fun _ => ⟨(), rfl⟩

lemma ofExcept {r : Except Failure α} (hr : ∀ e, r ≠ .error (.launch e)) : Aside (Act.ofExcept r) where
  within := Within.ofExcept r
  failure w e he := hr e (by rwa [run_ofExcept] at he)

lemma bind {a : Act α} {f : α → Act β} (ha : Aside a) (hf : ∀ x, Aside (f x)) :
    Aside (a >>= f) where
  within := Within.bind ha.within fun x => (hf x).within
  failure w e he := by
    have hfail := ha.failure w e
    rw [run_bind] at he
    rcases hr : a.run w with ⟨g | x, v⟩ <;> rw [hr] at he hfail
    · cases he
      exact hfail rfl
    · exact (hf x).failure v e he

lemma checkPath (t : Text) : Aside (Act.checkPath t) := by
  unfold Act.checkPath
  cases h : Failure.ofName? t with
  | some f => exact throw fun e he => Failure.ofName?_ne_launch t e (he ▸ h)
  | none => exact pure _

lemma absent (r : Report) : Aside (Act.absent r) := by
  unfold Act.absent
  split
  · exact pure _
  · exact throw fun _ => nofun

lemma isThere (p : Path) : Aside (Act.isThere p) := by
  unfold Act.isThere
  split
  · exact pure _
  · refine bind get fun w => ?_
    split
    · exact absent _
    · refine bind disk fun d => ?_
      split
      · exact pure _
      · exact throw fun _ => nofun
      · exact pure _

lemma settleDirectory (p : Path) (r : Report) : Aside (Act.settleDirectory p r) := by
  have hthere : ∀ b : Bool, Aside
      (if !b then MonadExcept.throw (Failure.report r) else Pure.pure () : Act Unit) := by
    intro b
    split
    · exact throw fun _ => nofun
    · exact pure _
  unfold Act.settleDirectory
  split
  · exact throw fun _ => nofun
  · refine bind get fun w => ?_
    split
    · exact bind (absent _) hthere
    · exact bind disk fun d => hthere _

lemma makeDirectories (p : Path) : Aside (Act.makeDirectories p) := by
  refine bind (checkPath _) fun _ => bind get fun w => ?_
  split
  · exact settleDirectory _ _
  · refine bind disk fun d => bind (setDisk _) fun _ => ?_
    split
    · exact pure _
    · exact throw fun _ => nofun

end Act.Aside

open Act

namespace Program

lemma find?_ne_launch (d : Disk) (host process : Environ) (program : Text) (e : LaunchError) :
    find? d host process program ≠ .error (.launch e) := by
  unfold find?
  split
  · exact nofun
  · dsimp only
    split
    · unfold pathText
      split <;> exact nofun
    · exact nofun

lemma aside_find (host : Environ) (program : Text) : Aside (find host program) :=
  .bind .disk fun d => .bind .environ fun process => .ofExcept (find?_ne_launch d host process program)

end Program

lemma Environ.runtimeDir_ne_launch (env process : Environ) (users : Users) (e : LaunchError) :
    env.runtimeDir process users ≠ .error (.launch e) := by
  unfold Environ.runtimeDir Environ.expandHome
  split
  · exact nofun
  · split
    · rename_i user rest _ _
      unfold Environ.homeOf
      cases hn : Failure.ofName? user with
      | some f => exact fun h => Failure.ofName?_ne_launch user e (Except.error.inj h ▸ hn)
      | none =>
        cases process.homeOnRecord? users user with
        | none => exact nofun
        | some home =>
          dsimp only
          split
          · exact nofun
          · exact nofun
    · exact nofun

namespace World

/-- The relay that is started next. -/
def relay (w : World) : RelayProcess := w.relays.headD {}

/-- After an attempt to start the next relay. -/
def spawned (w : World) (argv : List Text) : World :=
  { w with relays := w.relays.tail, events := w.events ++ [.spawn argv] }

end World

namespace Relay

/-- What starting a relay comes to. -/
inductive Starts (w : World) : Except Failure Relay → World → Prop
  /-- It fails before there is anything to start. -/
  | unasked {f : Failure} {v : World} (hv : w.Local v) (hf : ∀ e, f ≠ .launch e) :
      Starts w (.error f) v
  /-- The process cannot be started. -/
  | unborn {f : Failure} {v : World} (argv : List Text) (hv : (w.spawned argv).Local v)
      (hp : w.relay.spawnFails ≠ none) (hf : ∀ e, f ≠ .launch e) : Starts w (.error f) v
  | running {r : Relay} {v : World} (argv : List Text) (hv : (w.spawned argv).Local v)
      (hp : w.relay.spawnFails = none) (hr : r.process = w.relay) : Starts w (.ok r) v

lemma Starts.offline {w v : World} {r : Except Failure Relay} (h : Starts w r v) :
    w.Offline v := by
  have hspawned : ∀ argv, w.Offline (w.spawned argv) := fun argv =>
    ⟨rfl, _, rfl, fun e he => by rw [List.mem_singleton.1 he]; rfl⟩
  cases h with
  | unasked hv _ => exact hv.offline
  | unborn argv hv _ _ => exact trans_of World.Offline (hspawned argv) hv.offline
  | running argv hv _ _ => exact trans_of World.Offline (hspawned argv) hv.offline

lemma aside_freePort {α : Type} (text : α → Text) (base : Path) (ports : List α) :
    Aside (freePort text base ports) := by
  induction ports with
  | nil => exact .misconfigured _
  | cons port rest ih =>
    refine .bind (.isThere _) fun b => ?_
    split
    · exact ih
    · exact .pure _

lemma aside_binaryOr (binary : Option Text) (host : Environ) : Aside (binaryOr binary host) := by
  unfold binaryOr
  split
  · split
    · exact Program.aside_find _ _
    · exact .pure _
  · exact Program.aside_find _ _

lemma run_nextProcess (w : World) :
    nextProcess.run w = (.ok w.relay, { w with relays := w.relays.tail }) := by
  rcases w with ⟨_, _, _, _, _, _, _ | ⟨p, rest⟩, _, _⟩
  · rfl
  · rfl

def argv (binary : Text) (socket : Path) : List Text :=
  [binary, "unix-l:" ++ socket.text, "-,raw,echo=0"]

end Relay

/-- After the next relay has been started. -/
def World.listening (w : World) (binary : Text) (socket : Path) : World :=
  { w.spawned (Relay.argv binary socket) with
    disk := if w.relay.touches then
      match w.disk.touch socket with
        | .ok (_, d) => d
        | .error _ => w.disk
    else w.disk }

lemma World.disk_listening (w : World) (binary : Text) (socket : Path) :
    (w.listening binary socket).disk = w.disk ∨ w.relay.touches = true ∧
      ∃ i, w.disk.touch socket = .ok (i, (w.listening binary socket).disk) := by
  unfold listening
  dsimp only
  split
  · rename_i htouches
    cases ht : w.disk.touch socket with
    | error x => exact .inl rfl
    | ok found => exact .inr ⟨htouches, found.1, rfl⟩
  · exact .inl rfl

namespace Relay

lemma run_spawn (binary : Text) (socket : Path) (w : World) :
    (spawn binary socket).run w = match w.relay.spawnFails with
      | some r => (.error (.report r), w.spawned (argv binary socket))
      | none => (.ok w.relay, w.listening binary socket) := by
  have hspawned : (spawn binary socket).run w =
      (match w.relay.spawnFails with
        | some r => throw (.report r)
        | none => do
          if w.relay.touches then
            match (← Act.disk).touch socket with
            | .ok (_, d) => Act.setDisk d
            | .error _ => pure ()
          return w.relay : Act RelayProcess).run (w.spawned (argv binary socket)) := by
    unfold spawn
    rw [run_bind_of_ok (run_event _ w), run_bind_of_ok (run_nextProcess _)]
    rfl
  rw [hspawned]
  cases w.relay.spawnFails with
  | some r => rfl
  | none =>
    unfold World.listening
    cases w.relay.touches with
    | false => rfl
    | true =>
      have hdisk : (w.spawned (argv binary socket)).disk = w.disk := rfl
      dsimp only
      rw [if_pos rfl, if_pos rfl, run_bind_of_ok (run_disk _), hdisk]
      cases w.disk.touch socket with
      | error x => rfl
      | ok found => rfl

lemma Starts.after_local {u v w : World} {r : Except Failure Relay} (hu : w.Local u)
    (h : Starts u r v) : Starts w r v := by
  have hrelay : u.relay = w.relay := by rw [hu]; rfl
  have hspawned : ∀ argv, (w.spawned argv).Local (u.spawned argv) := by
    intro argv
    rw [hu]
    rfl
  cases h with
  | unasked hv hf => exact .unasked (trans_of World.Local hu hv) hf
  | unborn argv hv hp hf =>
    exact .unborn argv (trans_of World.Local (hspawned argv) hv) (hrelay ▸ hp) hf
  | running argv hv hp hr =>
    exact .running argv (trans_of World.Local (hspawned argv) hv) (hrelay ▸ hp) (hrelay ▸ hr)

/-- What comes before a relay is started stays aside. -/
lemma starts_bind {β : Type} {a : Act β} {f : β → Act Relay} (ha : Aside a)
    (hf : ∀ x v, Starts v ((f x).run v).1 ((f x).run v).2) (w : World) :
    Starts w ((a >>= f).run w).1 ((a >>= f).run w).2 := by
  have hlocal := ha.within w
  have hfail := ha.failure w
  rw [run_bind]
  rcases hr : a.run w with ⟨g | x, v⟩ <;> rw [hr] at hlocal hfail
  · exact .unasked hlocal fun e he => hfail e (congrArg Except.error he)
  · exact (hf x v).after_local hlocal

lemma listen_starts (base : Path) (binary : Text) (w : World) :
    Starts w ((listen base binary).run w).1 ((listen base binary).run w).2 := by
  refine starts_bind (aside_freePort _ _ _) (fun port v => ?_) w
  refine starts_bind (.makeDirectories _) (fun _ u => ?_) v
  generalize socketPath base (Decimal.ofInt port) = socket
  cases hp : u.relay.spawnFails with
  | some r =>
    have hs := run_spawn binary socket u
    rw [hp] at hs
    rw [run_bind, Act.orReport, run_tryCatch_of_error hs]
    have hfails : u.relay.spawnFails ≠ none := Option.ne_none_iff_exists'.2 ⟨r, hp⟩
    dsimp only
    by_cases hr : r.isSystem = true
    · rw [if_pos hr]
      exact .unborn _ (refl_of World.Local _) hfails fun _ => nofun
    · rw [if_neg hr]
      exact .unborn _ (refl_of World.Local _) hfails fun _ => nofun
  | none =>
    have hs := run_spawn binary socket u
    rw [hp] at hs
    rw [run_bind, Act.orReport, run_tryCatch_of_ok hs]
    dsimp only
    rw [run_bind_of_ok (run_note _ _)]
    exact .running (argv binary socket) rfl hp rfl

lemma start_starts (base : Option Path) (binary : Option Text) (host : Environ) (w : World) :
    Starts w ((start base binary host).run w).1 ((start base binary host).run w).2 := by
  unfold start
  extract_lets below
  have hbelow : ∀ base v, Starts v ((below base).run v).1 ((below base).run v).2 := by
    intro base
    refine starts_bind (aside_binaryOr _ _) fun found v => ?_
    cases found with
    | none => exact .unasked (refl_of World.Local v) fun _ => nofun
    | some binary => exact listen_starts base binary v
  cases base with
  | some base => exact hbelow base w
  | none =>
    refine starts_bind .environ (fun process => ?_) w
    exact starts_bind .users fun users =>
      starts_bind (.ofExcept (Environ.runtimeDir_ne_launch host process users)) hbelow

/-! ### The end of a relay -/

lemma run_wait (r : Relay) (w : World) :
    r.wait.run w = (.ok r.process.exitCode, { w with events := w.events ++ [.wait] }) := rfl

/-- What ending a relay leaves in the trace. -/
def ended (p : RelayProcess) : List Event := if p.poll.isNone then [.poll, .terminate] else [.poll]

lemma run_terminate (r : Relay) (w : World) :
    r.terminate.run w = (.ok (), { w with events := w.events ++ ended r.process }) := by
  unfold terminate ended
  rw [run_bind_of_ok (run_event _ w)]
  split
  · rw [run_tryCatch, signal, run_bind_of_ok (run_event _ _)]
    cases r.process.gone with
    | false => simp
    | true => simp [Report.ofNumber, SystemKind.ofNumber]
  · rfl

/-! ### Commands that go through a relay -/

lemma textsFrom_map (i : Nat) (ts : List Text) : textsFrom i (ts.map .text) = .ok ts := by
  induction ts generalizing i with
  | nil => rfl
  | cons t rest ih =>
    rw [List.map_cons, textsFrom, ih]
    rfl

lemma wrap_texts (command : Text) (args : List Text) (port : Value) :
    wrap (.text command) (.list (args.map .text)) port =
      .ok (program, [socketAddress port, commandAddress (Text.join " " (command :: args))]) := by
  unfold wrap texts
  rw [Value.items?]
  dsimp only
  rw [← List.map_cons, textsFrom_map]
  rfl

end Relay

end SharedVm
