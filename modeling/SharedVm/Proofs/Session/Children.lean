import SharedVm.Proofs.Environ
import SharedVm.Proofs.Launch.Known

/-!
# What the leader's command launches

The command of a leader finds the leader's port among its variables and no runtime directory. So
whatever it launches goes back to that leader, and no interactive launch gets anywhere.
-/

namespace SharedVm

open Act

namespace CommandLine

lemma get?_leaderVars (process : Environ) (overrides : List Override) (port : Int) (name : Text) :
    (leaderVars process overrides port).get? name =
      if name = Environ.serverPortVar then some (.text (Decimal.ofInt port))
      else if name ∈ Environ.sessionVars then none
      else (Environ.lastGiven? overrides name).or
        ((process.get? name).map fun v => .text v.display) := by
  rw [leaderVars, Bindings.get?_set, Environ.get?_forProcess]
  by_cases h : Environ.serverPortVar = name
  · rw [if_pos h, if_pos h.symm]
  · rw [if_neg h, if_neg (Ne.symm h)]

lemma filled_map_some (overrides : List Override) :
    filled (overrides.map some) = (overrides, false) := by
  induction overrides with
  | nil => rfl
  | cons o rest ih =>
    rw [List.map_cons, filled, ih]
    rfl

/-- Variables that lead a command back to the leader which started it. -/
structure LeadsBack (vars : Environ) (port : Nat) : Prop where
  announces : vars.serverPort = .ok (some port)
  unset : vars.stripped Environ.runtimeDirVar = []

lemma leadsBack_of_get? {vars : Environ} {port : Nat} {given : Text → Option Value}
    (hp : Port.isPublishable port = true)
    (hv : ∀ name, vars.get? name =
      if name = Environ.serverPortVar then some (.text (Decimal.ofInt port))
      else if name ∈ Environ.sessionVars then none else given name) : LeadsBack vars port where
  announces := by
    have hget : vars.get? Environ.serverPortVar = some (.text (Decimal.ofInt port)) := by
      rw [hv, if_pos rfl]
    rw [Environ.serverPort_of_get? hget, Port.announced?_ofInt hp]
    rfl
  unset := by
    have hget : vars.get? Environ.runtimeDirVar = none := by
      rw [hv, if_neg (by decide), if_pos (by decide)]
    rw [Environ.stripped, hget]

end CommandLine

namespace Session

open CommandLine

lemma offline_prepare (preparation : Preparation) (overrides : List Override) :
    Act.Within World.Offline (prepare preparation overrides) := by
  refine within_prepare (fun n w => (Act.Within.local_note n w).offline) (fun _ w => ?_) _ _
  exact ⟨rfl, _, rfl, fun e he => by rw [List.mem_singleton.1 he]; rfl⟩

lemma asksOnly_of_known {l : Launch Override} {x : World} {port : Nat}
    (hk : (l.host.getD x.environ).serverPort = .ok (some port)) (preparation : Preparation) :
    l.AsksOnly (prepare preparation) x port := by
  refine Launch.asksOnly_of_known hk (offline_prepare _ _) ?_ ?_
  · exact within_prepare grows_talks.note (fun _ => grows_talks.event _) _ _
  · exact within_prepare World.sameDisk_talks.note (fun _ => World.sameDisk_talks.event _) _ _

/-- A leader starts its command with its port among the variables, whatever the overrides say of it:
each other name has the value of its last override with a value, else the host's, and the variables
of the session are gone. Every launch with these variables asks that port, at most once, changes no
file, opens no lock file and does not lead. One that is interactive and not told where to put its
relay ends before anything has happened. -/
theorem command_asks_back (leader : Leader (Option Override)) (overrides : List Override)
    (ho : leader.overrides = overrides.map some) (hp : Port.isPublishable leader.port = true)
    (w : World) :
    ∃ (vars : Environ) (port : Nat), leader.port = port ∧
      (startCommand leader).run w =
        (.ok (), { w with events := w.events ++ [.run (leader.command :: leader.args) vars] }) ∧
      (∀ name, vars.get? name =
        if name = Environ.serverPortVar then some (.text (Decimal.ofInt port))
        else if name ∈ Environ.sessionVars then none
        else (Environ.lastGiven? overrides name).or
          ((w.environ.get? name).map fun v => .text v.display)) ∧
      (w.environ.Distinct → vars.Distinct) ∧
      ∀ (l : Launch Override) (x : World), l.host.getD x.environ = vars →
        (∀ preparation, l.AsksOnly (prepare preparation) x port) ∧
        (l.interactive = true → l.runtimeDir = none →
          ∃ f, (∀ prepare request, (l.run prepare request).run x = (.error f, x)) ∧
            ∀ command args, Request.commandName l.command = .ok command →
              Request.itemsOf l.args = .ok args → f = .misconfigured .runtimeDirUnset) := by
  obtain ⟨port, hport, -⟩ := Port.exists_usable? hp
  let vars := (leaderVars w.environ overrides port).sorted
  have hget := fun name =>
    (Bindings.get?_sorted _ name).trans (get?_leaderVars w.environ overrides port name)
  have hback : LeadsBack vars port := leadsBack_of_get? (hport ▸ hp) hget
  refine ⟨vars, port, hport, ?_, hget, fun hd => ?_, fun l x hx => ⟨?_, fun hi hb => ?_⟩⟩
  · rw [startCommand, ho, filled_map_some, hport]
    rfl
  · exact ((Environ.distinct_forProcess hd overrides).set _ _).sorted
  · exact asksOnly_of_known (hx ▸ hback.announces)
  · exact Launch.run_of_unset hi hb (hx ▸ hback.unset)

/-- A leader whose overrides set its own port, inherit the runtime directory and set a variable
twice. -/
def overridingLeader : Leader (Option Override) where
  handle := 0
  lock := "/run/krun.lock"
  port := 3333
  command := .text "sh"
  args := []
  overrides := [
    some ("KRUN_SERVER_PORT", .text "9"), some ("XDG_RUNTIME_DIR", .null), some ("A", .text "1"),
    some ("A", .text "2")]

def sessionHost : World where
  environ := [
    ("XDG_RUNTIME_DIR", .text "/run"), ("KRUN_SERVER_PORT", .text "5"), ("HOME", .text "/root")]

theorem command_asks_back_overridden :
    overridingLeader.port = 3333 ∧ ∃ vars : Environ,
      (startCommand overridingLeader).run sessionHost =
        (.ok (), { sessionHost with events := [.run [.text "sh"] vars] }) ∧
      vars.get? "KRUN_SERVER_PORT" = some (.text "3333") ∧ vars.get? "XDG_RUNTIME_DIR" = none ∧
      vars.get? "A" = some (.text "2") ∧ vars.get? "HOME" = some (.text "/root") ∧
      ∀ l : Launch Override, l.host = none →
        l.AsksOnly (prepare .real) { sessionHost with environ := vars } 3333 := by
  let overrides : List Override := [
    ("KRUN_SERVER_PORT", .text "9"), ("XDG_RUNTIME_DIR", .null), ("A", .text "1"), ("A", .text "2")]
  obtain ⟨vars, port, hport, hrun, hget, -, hback⟩ :=
    command_asks_back overridingLeader overrides rfl rfl sessionHost
  obtain rfl : 3333 = port := Int.ofNat.inj hport
  refine ⟨rfl, vars, hrun, hget _, hget _, hget _, hget _, fun l hl => ?_⟩
  have hvars : l.host.getD ({ sessionHost with environ := vars } : World).environ = vars := by
    rw [hl]
    rfl
  exact (hback l _ hvars).1 .real

end Session

end SharedVm
