import SharedVm.Proofs.Launch.Retry
import SharedVm.Proofs.Launch.Twin

/-!
# What launches keep to themselves

Elections look at no variable but those that say where the lock file is. So two launches of which
nothing differs but variables that are never looked up are the same to everybody else: the same is
sent, the same relays are started, and the same is left behind.
-/

namespace SharedVm

open Act Act.Alike

/-- Nothing but the variables of the process is different. -/
def World.EnvironOnly (w v : World) : Prop := v = { w with environ := v.environ }

lemma World.Twin.environOnly {known : Text → Prop} {w v : World} (h : w.Twin Eq known v) :
    w.EnvironOnly v := by
  obtain ⟨d, e, rfl, he⟩ := h
  rfl

section Veiled

variable {known : Text → Prop} {α : Type}

/-! ### Lock files -/

namespace Act.Alike

lemma bind_disk {f g : Disk → Act α} (h : ∀ d, Alike (World.Twin Eq known) (f d) (g d)) :
    Alike (World.Twin Eq known) (Act.disk >>= f) (Act.disk >>= g) :=
  bind_look run_disk fun w v hw => by
    rw [← hw.disk]
    exact h _ w v hw

lemma setDisk (d : Disk) : Alike (World.Twin Eq known) (Act.setDisk d) (Act.setDisk d) := by
  rintro w _ ⟨_, e, rfl, he⟩
  exact ⟨rfl, .of d e rfl he⟩

lemma mayFail (fault : Faults → Option Report) :
    Alike (World.Twin Eq known) (Act.mayFail fault) (Act.mayFail fault) := by
  refine bind_look run_get fun w v hw => ?_
  rw [hw.faults]
  split
  · exact throw _ w v hw
  · exact pure _ w v hw

end Act.Alike

namespace LockFile

lemma alike_openAt (lock : Path) :
    Alike (World.Twin Eq known) (openAt lock) (openAt lock) := by
  refine bind (Act.Alike.makeDirectories Disk.kin_eq _) fun _ => bind (checkPath _) fun _ =>
    bind (mayFail _) fun _ => bind_disk fun d => ?_
  split
  · exact throw _
  · exact bind (setDisk _) fun _ => pure _

lemma alike_close (h : Nat) : Alike (World.Twin Eq known) (close h) (close h) :=
  bind_disk fun _ => setDisk _

lemma alike_take (h : Nat) (blocking : Bool) :
    Alike (World.Twin Eq known) (take h blocking) (take h blocking) := by
  let refuse (r : Report) : Act Unit :=
    if r.isRefusal && !blocking then throw (.lockUnavailable r.message) else throw (.report r)
  have hrefuse : ∀ r, Alike (World.Twin Eq known) (refuse r) (refuse r) := by
    intro r
    unfold refuse
    split
    · exact Act.Alike.throw _
    · exact Act.Alike.throw _
  refine bind_disk fun d => guard (Act.Alike.throw _) fun _ => bind_look run_get fun w v hw => ?_
  rw [hw.faults]
  split
  · exact hrefuse _ w v hw
  · refine bind_disk (fun d => ?_) w v hw
    split
    · exact setDisk _
    · exact hrefuse _

lemma alike_publish (h : Nat) (port : Value) :
    Alike (World.Twin Eq known) (publish h port) (publish h port) := by
  refine bind_disk fun d => guard (Act.Alike.throw _) fun _ => bind_disk fun d =>
    bind (setDisk _) fun _ => bind (ofExcept _) fun n => ?_
  split
  · exact Act.Alike.throw _
  · exact bind_disk fun _ => bind (setDisk _) fun _ => mayFail _

lemma alike_contents (h : Nat) : Alike (World.Twin Eq known) (contents h) (contents h) :=
  bind_disk fun _ => pure _

lemma alike_port (bs : Bytes) : Alike (World.Twin Eq known) (port bs) (port bs) := by
  unfold port
  split
  · exact Act.Alike.throw _
  · exact pure _
  · dsimp only
    split
    · exact bind (note _) fun _ => pure _
    · exact bind (note _) fun _ => pure _
    · exact bind (note _) fun _ => pure _
    · exact pure _
    · exact pure _

lemma alike_tolerant {a : Act Unit} (ha : Alike (World.Twin Eq known) a a) :
    Alike (World.Twin Eq known) (tolerant a) (tolerant a) := by
  refine tryCatch ha fun f => ?_
  split
  · exact Act.Alike.throw _
  · exact pure _

lemma alike_release (h : Nat) (closeFails : Option Report) :
    Alike (World.Twin Eq known) (release h closeFails) (release h closeFails) := by
  refine bind (alike_tolerant ?_) fun _ => alike_tolerant ?_
  · exact bind_disk fun d => guard (Act.Alike.throw _) fun _ => bind (mayFail _) fun _ =>
      bind_disk fun _ => setDisk _
  · split
    · exact Act.Alike.throw _
    · exact alike_close h

end LockFile

/-! ### Elections -/

namespace Election

open LockFile

lemma alike_seek (h : Nat) (lock : Path) :
    Alike (World.Twin Eq known) (seek h lock) (seek h lock) := by
  refine tryCatch (bind (alike_take h false) fun _ => pure _) fun f => ?_
  split
  · exact pure _
  · refine bind (alike_close h) fun _ => ?_
    split
    · split
      · exact misconfigured _
      · exact throw _
    · exact throw _

lemma alike_lead (h : Nat) (lock : Path) (candidate : Value) :
    Alike (World.Twin Eq known) (lead h lock candidate) (lead h lock candidate) := by
  refine tryCatch (alike_publish h candidate) fun f => ?_
  split
  · split
    · exact bind (alike_release h none) fun _ => misconfigured _
    · exact bind (alike_close h) fun _ => throw _
  · exact bind (alike_close h) fun _ => throw _

lemma alike_follow (h : Nat) (lock : Path) :
    Alike (World.Twin Eq known) (follow h lock) (follow h lock) := by
  refine bind (ensuring (orReport ?_ fun r => misconfigured _) (alike_close h)) alike_port
  exact bind (mayFail _) fun _ => alike_contents h

lemma alike_stand (candidate : Value) (lock : Path) :
    Alike (World.Twin Eq known) (stand candidate (pure lock)) (stand candidate (pure lock)) := by
  refine bind (ofExcept _) fun port => guard (misconfigured _) fun _ => bind (pure _) fun p =>
    bind (orReport (alike_openAt p) fun _ => misconfigured _) fun h =>
      bind (alike_seek h p) fun b => ?_
  split
  · exact bind (alike_lead h p candidate) fun _ => guard (note _) fun _ => pure _
  · exact bind (alike_follow h p) fun _ => bind (note _) fun _ => pure _

end Election

/-! ### Launches -/

namespace Launch

variable {l : Launch α}

lemma alike_askLeader {prepare : List α → Act Value} {send : Value → Act Unit}
    (hp : Alike (World.Twin Eq known) (prepare l.overrides) (prepare l.overrides))
    (hs : ∀ env, Alike (World.Twin Eq known) (send env) (send env)) (port : Nat) :
    Alike (World.Twin Eq known) (l.askLeader prepare send port) (l.askLeader prepare send port) :=
  bind hp fun env => bind (alike_retry (hs env) _ _ _ _) fun _ => pure _

lemma alike_compete {prepare : List α → Act Value} {send : Int → Value → Act Unit}
    (hp : Alike (World.Twin Eq known) (prepare l.overrides) (prepare l.overrides))
    (hs : ∀ port env, Alike (World.Twin Eq known) (send port env) (send port env))
    (command : Value) (args : List Value) (lock : Path) :
    Alike (World.Twin Eq known) (l.compete prepare send command args lock)
      (l.compete prepare send command args lock) := by
  refine bind (Election.alike_stand _ _) fun s => ?_
  split
  · exact bind (note _) fun _ => pure _
  · exact Act.Alike.throw _
  · exact bind (note _) fun _ => alike_askLeader hp (hs _) _

section Looks

variable (hk : ∀ name ∈ Environ.launchVars, known name) {host host' : Environ}
  (hh : Environ.Agree known host host')

include hk hh

lemma opening_agree (l : Launch α) {process process' : Environ}
    (hp : Environ.Agree known process process') (users : Users) :
    l.opening host' process' users = l.opening host process users := by
  unfold opening relayBase
  rw [Environ.runtimeDir_agree hk hh hp, Environ.serverPort_congr (hh _ (hk _ (by decide)))]

lemma alike_goOn {prepare : List α → Act Value}
    (hp : Alike (World.Twin Eq known) (prepare l.overrides) (prepare l.overrides)) (o : Opening) :
    Alike (World.Twin Eq known) (l.goOn prepare byExchange host o)
      (l.goOn prepare byExchange host' o) := by
  have hs := fun port env => alike_deliver Disk.kin_eq hk l o.base port o.command o.args env
  unfold goOn
  dsimp only
  split
  · exact fun w v h => alikeAt_askOnce (hp w v h) (hs _) _
  · split
    · exact bind (pure _) fun lock => alike_compete hp hs _ _ lock
    · refine bind (bind_environ fun process process' hprocess => bind_users fun users => ?_)
        fun lock => alike_compete hp hs _ _ lock
      rw [Environ.lockPath_congr (hh _ (hk _ (by decide))) (hprocess _ (hk _ (by decide)))]
      exact ofExcept _

end Looks

end Launch

end Veiled

namespace Session

variable {known : Text → Prop} (hk : ∀ name ∈ Environ.launchVars, known name)
  {overrides : List Override} (ho : ∀ name, (name, .null) ∈ overrides → known name)

include hk ho

lemma alike_prepare (preparation : Preparation) :
    Alike (World.Twin Eq known) (prepare preparation overrides) (prepare preparation overrides) := by
  intro w v h
  refine alikeAt_prepare Disk.kin_eq hk ho h (fun i _ => ?_) preparation
  rw [h.disk]

end Session

/-- The variables that a launch with these overrides looks up. -/
def Environ.LookedUp (overrides : List Override) (name : Text) : Prop :=
  name ∈ launchVars ∨ (name, .null) ∈ overrides

/-- Two launches that differ in nothing but variables which are not looked up, of the host they are
given or of the process, come to the same, do the same at the edges, tell the log the same and leave
the same disk. -/
theorem Session.launch_keeps_secrets (l : Launch Override) (preparation : Preparation)
    (w : World) (host : Option Environ) (process : Environ)
    (hprocess : Environ.Agree (Environ.LookedUp l.overrides) w.environ process)
    (hhost : Environ.Agree (Environ.LookedUp l.overrides) (l.host.getD w.environ)
      (host.getD process)) :
    let ran := (l.run (prepare preparation)).run w
    let ran' := ({ l with host } : Launch Override).run (prepare preparation) |>.run
      { w with environ := process }
    ran'.1 = ran.1 ∧ ran.2.EnvironOnly ran'.2 := by
  intro ran ran'
  have hk : ∀ name ∈ Environ.launchVars, Environ.LookedUp l.overrides name := fun _ => .inl
  have htwin : w.Twin Eq (Environ.LookedUp l.overrides) { w with environ := process } :=
    .of w.disk process rfl hprocess
  have halike : AlikeAt (World.Twin Eq (Environ.LookedUp l.overrides)) (l.run (prepare preparation))
      (({ l with host } : Launch Override).run (prepare preparation)) w
      { w with environ := process } := by
    refine .congr_run (Launch.run_opens _ _ _ _) (Launch.run_opens _ _ _ _) (AlikeAt.bind ?_
      (Launch.alike_goOn hk hhost (alike_prepare hk (fun _ => .inr) preparation)))
    change AlikeAt _ _ (Act.ofExcept (l.opening (host.getD process) process w.system.users)) _ _
    rw [Launch.opening_agree hk hhost l hprocess]
    exact Act.Alike.ofExcept _ _ _ htwin
  exact ⟨halike.result.symm, halike.world.environOnly⟩

/-- A launch that inherits a variable and sends to a leader which listens late and accepts nothing,
while its host has a token that is none of the leader's business. -/
theorem Session.launch_keeps_secrets_late :
    let l : Launch Override := {
      serverPort := .int 4444
      command := .text "c"
      overrides := [("A", .null)]
      lock := some "krun.lock" }
    let w : World := { Launch.lateLeader with environ := [("A", .text "1")] }
    let process : Environ := [("A", .text "1"), ("TOKEN", .text "x")]
    let ran := (l.run (prepare .real)).run w
    let ran' := (l.run (prepare .real)).run { w with environ := process }
    process.get? "TOKEN" ≠ w.environ.get? "TOKEN" ∧ ran'.1 = ran.1 ∧
      ran.2.EnvironOnly ran'.2 ∧
      ran'.2.events.countP Event.isConnect = 2 ∧ ran'.2.events.countP Event.isSend = 1 := by
  intro l w process ran ran'
  have hunseen : ¬ Environ.LookedUp l.overrides "TOKEN" := by
    rintro (h | h)
    · exact absurd h (by decide)
    · cases List.mem_singleton.1 h
  have hagree : Environ.Agree (Environ.LookedUp l.overrides) w.environ process :=
    Environ.agree_set hunseen w.environ (.text "x")
  obtain ⟨hresult, hworld⟩ := launch_keeps_secrets l .real w none process hagree hagree
  have htokens : process.get? "TOKEN" ≠ w.environ.get? "TOKEN" := nofun
  have hevents : ran'.2.events.countP Event.isConnect = 2 ∧ ran'.2.events.countP Event.isSend = 1 := by
    decide +kernel
  exact ⟨htokens, hresult, hworld, hevents⟩

end SharedVm
