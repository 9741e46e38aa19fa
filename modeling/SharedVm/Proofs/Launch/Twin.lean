import SharedVm.Proofs.Launch.Attempts
import SharedVm.Proofs.Twin

/-!
# Launches in twin worlds

What a launch prepares, asks and comes to is the same in twin worlds, as long as the device tree
says the same in both.
-/

namespace SharedVm

open Act Act.Alike

/-- The file at the path says the same on both disks, if it is there. -/
def Disk.ReadAlike (p : Path) (d e : Disk) : Prop :=
  ∀ i, d.file p = .ok i → e.content i = d.content i

section Twin

variable {D : Disk → Disk → Prop} (hD : Disk.Kin D) {known : Text → Prop} {w v : World}

include hD

lemma Act.alikeAt_readFile (h : w.Twin D known v) {p : Path} (hp : w.disk.ReadAlike p v.disk) :
    AlikeAt (World.Twin D known) (readFile p) (readFile p) w v := by
  refine .of_run (run_readFile p w) ?_ h
  rw [run_readFile, hD.file h.disk, h.faults]
  cases Failure.ofName? p.text with
  | some f => rfl
  | none =>
    cases w.faults.opening p with
    | some r => rfl
    | none =>
      dsimp only
      cases hf : w.disk.file p with
      | error x => rfl
      | ok i =>
        dsimp only
        rw [hp i hf]

section Looks

variable (hk : ∀ name ∈ Environ.launchVars, known name) {overrides : List Override}
  (ho : ∀ name, (name, .null) ∈ overrides → known name)

include hk

/-! ### Variables of guests -/

omit hD in
include ho in
lemma Environ.forVm_agree {host host' : Environ} (hh : Agree known host host') (asahi : Bool) :
    host'.forVm asahi overrides = host.forVm asahi overrides := by
  have hwell : ∀ name ∈ wellKnownVars, known name := fun name hm =>
    hk name (by revert hm; revert name; decide)
  have hshown : host'.withDisplay = host.withDisplay :=
    funext (withDisplay_congr (hh _ (hk _ (by decide))) (hh _ (hk _ (by decide))))
  unfold forVm
  rw [hostVars_congr fun name hm => hh name (hwell name hm),
    withOverrides_congr fun name hm => hh name (ho name hm), hshown]

namespace Guest

include ho

lemma alikeAt_gather (h : w.Twin D known v) {host host' : Environ}
    (hh : Environ.Agree known host host') {p : Path} (hp : w.disk.ReadAlike p v.disk) :
    AlikeAt (World.Twin D known) (gather host p overrides) (gather host' p overrides) w v := by
  have hasks : host'.asksDeviceTree = host.asksDeviceTree := by
    rw [Environ.asksDeviceTree, Environ.asksDeviceTree, Environ.var?_congr (hh _ (hk _ (by decide)))]
  have hrest : ∀ asahi, Alike (World.Twin D known) (Act.ofExcept (host.forVm asahi overrides))
      (Act.ofExcept (host'.forVm asahi overrides)) := by
    intro asahi
    rw [Environ.forVm_agree hk ho hh]
    exact ofExcept _
  unfold gather
  rw [hasks]
  dsimp only
  split
  · refine AlikeAt.bind (.tryCatch (.map _ (alikeAt_readFile hD h hp)) fun f => ?_) hrest
    split
    · split
      · exact pure _
      · split
        · exact misconfigured _
        · exact throw _
    · exact throw _
  · exact AlikeAt.bind (pure _ w v h) hrest

lemma alikeAt_ownVars (h : w.Twin D known v) (hp : w.disk.ReadAlike w.deviceTree v.disk) :
    AlikeAt (World.Twin D known) (ownVars overrides) (ownVars overrides) w v := by
  refine .congr_run (run_bind_of_ok (run_environ w) _) (run_bind_of_ok (run_environ v) _) ?_
  refine .congr_run (run_bind_of_ok (run_get w) _) (run_bind_of_ok (run_get v) _) ?_
  rw [h.deviceTree]
  exact (alikeAt_gather hD hk ho h h.environ hp).bind fun _ => Alike.bind (note _) fun _ => pure _

end Guest

include ho in
lemma Session.alikeAt_prepare (h : w.Twin D known v) (hp : w.disk.ReadAlike w.deviceTree v.disk)
    (preparation : Preparation) :
    AlikeAt (World.Twin D known) (prepare preparation overrides) (prepare preparation overrides) w v := by
  cases preparation with
  | real => exact (Guest.alikeAt_ownVars hD hk ho h hp).bind fun _ => pure _
  | fails message => exact Alike.bind (event _) (fun _ => misconfigured _) w v h
  | gives vars => exact Alike.bind (event _) (fun _ => pure _) w v h

/-! ### Launches -/

namespace Launch

variable {α : Type} (l : Launch α)

lemma alike_deliver (base : Option Path) (port : Int) (command : Value) (args : List Value)
    (env : Value) : Alike (World.Twin D known) (l.deliver byExchange base port command args env)
      (l.deliver byExchange base port command args env) := by
  unfold deliver
  split
  · exact Exchange.alike_request _ _ _ _ _ _
  · refine bind_environ fun host host' hh => bind (Relay.alike_start hD hk _ _ hh) fun relay =>
      bind (ofExcept _) fun wrapped => bind (tryCatch (Exchange.alike_request _ _ _ _ _ _) fun f => ?_)
        fun _ => bind (Relay.alike_wait _) fun code => note _
    exact bind (Relay.alike_terminate _) fun _ => bind (Relay.alike_wait _) fun _ => throw _

end Launch

end Looks

omit hD

namespace Launch

variable {α : Type} {l : Launch α} {a b : Act Unit}

lemma alike_launchError? (h : Alike (World.Twin D known) a b) :
    Alike (World.Twin D known) (launchError? a) (launchError? b) := by
  refine tryCatch (bind h fun _ => pure _) fun f => ?_
  split
  · exact pure _
  · exact throw _

lemma alike_pause (delay : Value) : Alike (World.Twin D known) (pause delay) (pause delay) := by
  unfold pause
  split
  · exact bind (unlessRefused _) fun _ => event _
  · exact pure _
  · exact throw _

lemma alike_retry (h : Alike (World.Twin D known) a b) (port : Int) (delay : Value)
    (left attempt : Nat) :
    Alike (World.Twin D known) (retry a port delay left attempt) (retry b port delay left attempt) := by
  induction left generalizing attempt with
  | zero =>
    unfold retry
    refine bind (alike_launchError? h) fun o => ?_
    split
    · exact pure _
    · exact throw _
  | succ left ih =>
    unfold retry
    refine bind (alike_launchError? h) fun o => ?_
    split
    · exact pure _
    · dsimp only
      split
      · exact bind (note _) fun _ => bind (alike_pause _) fun _ => ih _
      · exact throw _

lemma alikeAt_askOnce {prepare : List α → Act Value} {send : Value → Act Unit}
    (hp : AlikeAt (World.Twin D known) (prepare l.overrides) (prepare l.overrides) w v)
    (hs : ∀ env, Alike (World.Twin D known) (send env) (send env)) (port : Nat) :
    AlikeAt (World.Twin D known) (l.askOnce prepare send port) (l.askOnce prepare send port) w v := by
  refine hp.bind fun env => bind (alike_launchError? (hs env)) fun o => ?_
  split
  · exact pure _
  · exact throw _

end Launch

end Twin

end SharedVm
