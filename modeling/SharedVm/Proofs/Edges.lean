import SharedVm.Proofs.Launch.Attempts
import SharedVm.Session

/-!
# Operations at the edges of the process

Requests, relays and the variables of guests are made up of a few operations that touch anything at
all. What those few keep to, everything that is made up of them keeps to as well.
-/

namespace SharedVm

open Act Act.Within

/-- What everything that is done to talk to a server keeps to. -/
structure Act.Talks (R : World → World → Prop) : Prop where
  note : ∀ n, Within R (Act.note n)
  event : ∀ e, Within R (Act.event e)
  nextPeer : Within R Exchange.nextPeer

/-- What everything that is done to start relays below one runtime directory keeps to. -/
structure Act.EdgesAt (R : World → World → Prop) (base : Path) : Prop extends Talks R where
  makeDirectories : ∀ port,
    Within R (Act.makeDirectories (Relay.socketPath base (Decimal.ofInt port)).parent)
  spawn : ∀ binary port,
    Within R (Relay.spawn binary (Relay.socketPath base (Decimal.ofInt port)))

/-- What everything that is done at the edges of the process keeps to. -/
structure Act.Edges (R : World → World → Prop) : Prop extends Talks R where
  makeDirectories : ∀ p, Within R (Act.makeDirectories p)
  spawn : ∀ binary base port,
    Within R (Relay.spawn binary (Relay.socketPath base (Decimal.ofInt port)))

lemma Act.Edges.below {R : World → World → Prop} (hR : Edges R) (base : Path) : EdgesAt R base where
  toTalks := hR.toTalks
  makeDirectories _ := hR.makeDirectories _
  spawn binary := hR.spawn binary base

section Looking

/-! ### Operations that only look -/

variable {R : World → World → Prop} [IsPreorder World R]

lemma Election.within_lockOf (env : Environ) : Within R (lockOf env) :=
  bind environ fun _ => bind users fun _ => ofExcept _

lemma Session.within_lockOr (lock : Option Path) : Within R (lockOr lock) := by
  unfold lockOr
  split
  · exact pure _
  · exact bind environ fun _ => Election.within_lockOf _

lemma Session.within_hostOr (host : Option Environ) : Within R (hostOr host) := by
  unfold hostOr
  split
  · exact pure _
  · exact environ

lemma Program.within_find (host : Environ) (program : Text) : Within R (find host program) :=
  bind disk fun _ => bind environ fun _ => ofExcept _

lemma Program.within_companion (host : Environ) (program running : Text) :
    Within R (companion host program running) := by
  refine bind (within_find _ _) fun found => ?_
  split
  · exact pure _
  · refine bind (orReport (bind (mayFail _) fun _ => ?_) fun _ => misconfigured _) fun _ =>
      ofExcept _
    split
    · exact throw _
    · exact bind disk fun _ => pure _

lemma Relay.within_freePort {α : Type} (text : α → Text) (base : Path) (ports : List α) :
    Within R (freePort text base ports) := by
  induction ports with
  | nil => exact misconfigured _
  | cons port rest ih =>
    refine bind (isThere _) fun b => ?_
    split
    · exact ih
    · exact pure _

lemma Relay.within_binaryOr (binary : Option Text) (host : Environ) :
    Within R (binaryOr binary host) := by
  unfold binaryOr
  split
  · split
    · exact Program.within_find _ _
    · exact pure _
  · exact Program.within_find _ _

lemma Guest.within_isAsahi (compatible : Path) : Within R (isAsahi compatible) := by
  refine tryCatch (map _ (readFile _)) fun f => ?_
  split
  · split
    · exact pure _
    · split
      · exact misconfigured _
      · exact throw _
  · exact throw _

lemma Guest.within_gather (host : Environ) (compatible : Path) (overrides : List Override) :
    Within R (gather host compatible overrides) := by
  unfold gather
  dsimp only
  split
  · exact bind (within_isAsahi _) fun _ => ofExcept _
  · exact bind (pure _) fun _ => ofExcept _

end Looking

section Noting

/-! ### Operations that look and tell the log -/

variable {R : World → World → Prop} [IsPreorder World R] (hn : ∀ n, Within R (Act.note n))

include hn

lemma LockFile.within_readPort (lock : Path) : Within R (readPort lock) := by
  refine bind (tryCatch (map _ (readFile lock)) fun f => ?_) fun found => ?_
  · split
    · split
      · exact pure _
      · exact throw _
    · exact throw _
  · split
    · exact within_port hn _
    · exact pure _

lemma Guest.within_vars (host : Environ) (compatible : Path) (overrides : List Override) :
    Within R (vars host compatible overrides) :=
  bind (within_gather _ _ _) fun _ => bind (hn _) fun _ => pure _

lemma Guest.within_ownVars (overrides : List Override) : Within R (ownVars overrides) :=
  bind environ fun _ => bind get fun _ => within_vars hn _ _ _

lemma CommandLine.within_prepare (overrides : List (Option Override)) :
    Within R (CommandLine.prepare overrides) := by
  unfold CommandLine.prepare
  dsimp only
  split
  · exact bind environ fun _ => bind get fun _ => bind (Guest.within_gather _ _ _) fun _ => throw _
  · exact bind (Guest.within_ownVars hn _) fun _ => pure _

lemma Session.within_prepare (he : ∀ overrides, Within R (Act.event (.prepare overrides)))
    (p : Preparation) (overrides : List Override) : Within R (prepare p overrides) := by
  unfold prepare
  split
  · exact bind (Guest.within_ownVars hn _) fun _ => pure _
  · exact bind (he _) fun _ => misconfigured _
  · exact bind (he _) fun _ => pure _

end Noting

section Talks

variable {R : World → World → Prop} [IsPreorder World R] (hR : Talks R)

include hR

/-! ### Requests -/

namespace Exchange

lemma within_converse (host : Text) (port : Int) (timeout : Option Value) (payload : Bytes) :
    Within R (converse host port timeout payload) := by
  refine bind (hR.event _) fun _ => bind hR.nextPeer fun p => ?_
  split
  · exact throw _
  · exact bind (hR.event _) fun _ => throw _
  · refine bind (hR.event _) fun _ => bind (hR.event _) fun _ => ?_
    split
    · exact pure _
    · exact throw _

lemma within_send (port : Value) (wire : Except Failure Bytes) (host : Text)
    (timeout : Option Value) : Within R (send port wire host timeout) := by
  unfold send
  split
  · exact throw _
  · refine bind (ofExcept _) fun n => bind (orReport (within_converse hR _ _ _ _) fun e =>
      bind (hR.note _) fun _ => throw _) fun line => ?_
    dsimp only
    split
    · exact throw _
    · exact pure _

lemma within_request (port command args env : Value) (host : Text) (timeout : Option Value) :
    Within R (request port command args env host timeout) :=
  bind (ofExcept _) fun _ => bind (hR.note _) fun _ => within_send hR _ _ _ _

end Exchange

lemma Launch.within_byExchange (port command args env : Value) :
    Within R (byExchange port command args env) := Exchange.within_request hR _ _ _ _ _ _

/-! ### Relays -/

namespace Relay

lemma within_wait (r : Relay) : Within R r.wait :=
  bind (hR.event _) fun _ => pure _

lemma within_terminate (r : Relay) : Within R r.terminate := by
  refine bind (hR.event _) fun _ => ?_
  split
  · refine tryCatch (bind (hR.event _) fun _ => ?_) fun f => ?_
    · split
      · exact throw _
      · exact pure _
    · split
      · split
        · exact pure _
        · exact throw _
      · exact throw _
  · exact pure _

end Relay

lemma Launch.within_deliver_of_start {α : Type} (l : Launch α) {runtimeDir : Option Path}
    (hstart : l.interactive = true → ∀ host, Within R (Relay.start runtimeDir none host)) (port : Int)
    (command : Value) (args : List Value) (env : Value) :
    Within R (l.deliver byExchange runtimeDir port command args env) := by
  unfold deliver
  cases hi : l.interactive with
  | false => exact within_byExchange hR _ _ _ _
  | true =>
    refine bind environ fun host => bind (hstart hi host) fun relay =>
      bind (ofExcept _) fun wrapped =>
        bind (tryCatch (within_byExchange hR _ _ _ _) fun f => ?_) fun _ =>
          bind (Relay.within_wait hR _) fun code => hR.note _
    exact bind (Relay.within_terminate hR _) fun _ => bind (Relay.within_wait hR _) fun _ => throw _

end Talks

lemma Relay.within_listen {R : World → World → Prop} [IsPreorder World R] {base : Path}
    (hR : EdgesAt R base) (binary : Text) : Within R (listen base binary) :=
  bind (within_freePort _ _ _) fun _ => bind (hR.makeDirectories _) fun _ =>
    bind (orReport (hR.spawn _ _) fun _ => misconfigured _) fun _ =>
      bind (hR.note _) fun _ => pure _

section Edges

variable {R : World → World → Prop} [IsPreorder World R] (hR : Edges R)

include hR

lemma Relay.within_start (base : Option Path) (binary : Option Text) (host : Environ) :
    Within R (start base binary host) := by
  unfold start
  extract_lets below
  have hbelow : ∀ base, Within R (below base) := by
    refine fun base => bind (within_binaryOr _ _) fun found => ?_
    split
    · exact misconfigured _
    · exact within_listen (hR.below base) _
  cases base with
  | some base => exact bind (pure _) hbelow
  | none => exact bind environ fun _ => bind users fun _ => bind (ofExcept _) hbelow

lemma Launch.within_deliver {α : Type} (l : Launch α) (runtimeDir : Option Path) (port : Int)
    (command : Value) (args : List Value) (env : Value) :
    Within R (l.deliver byExchange runtimeDir port command args env) :=
  within_deliver_of_start hR.toTalks l (fun _ => Relay.within_start hR runtimeDir none) port command
    args env

end Edges

section Parts

variable {R : World → World → Prop} [IsPreorder World R]

/-! ### Runs of the command line -/

namespace CommandLine

lemma within_startCommand (hevent : ∀ e, Within R (Act.event e))
    (hclose : ∀ h, Within R (LockFile.close h)) (leader : Leader (Option Override)) :
    Within R (startCommand leader) := by
  unfold startCommand
  dsimp only
  split
  · exact bind (hclose _) fun _ => bind (throw _) fun _ => bind environ fun _ => hevent _
  · exact bind environ fun _ => hevent _

/-- What launches without a host, a lock file and a runtime directory of their own keep to, launches
by the command line keep to. -/
lemma within_beginLaunch (hevent : ∀ e, Within R (Act.event e))
    (hclose : ∀ h, Within R (LockFile.close h))
    (hlaunch : ∀ l : Launch (Option Override), l.host = none → l.lock = none → l.runtimeDir = none →
      Within R (l.run prepare)) (s : Settings) : Within R (beginLaunch s) := by
  unfold beginLaunch
  split
  · exact pure _
  · cases s.port with
    | none => exact throw _
    | some port =>
      cases s.retryDelay with
      | none => exact throw _
      | some delay =>
        dsimp only
        rw [pure_bind, pure_bind]
        refine Within.bind (tryCatch (map _ (hlaunch _ rfl rfl rfl)) fun f => ?_) fun launched => ?_
        · split
          · exact pure _
          · exact throw _
        · split
          · exact pure _
          · exact pure _
          · exact Within.bind (within_startCommand hevent hclose _) fun _ => pure _

lemma within_status (hR : LockFile.Looks R) : Within R status := by
  refine bind (tryCatch (map _ ?_) fun f => ?_) fun found => ?_
  · exact Election.within_inspect hR (bind environ fun _ => Election.within_lockOf _)
  · split
    · exact pure _
    · exact throw _
  · split
    · exact pure _
    · exact bind (unlessRefused _) fun _ => pure _

lemma within_start (hR : LockFile.Looks R) {args : List Text}
    (hbegin : ∀ s, read args = .ok (.launch s) → Within R (beginLaunch s)) : Within R (start args) := by
  unfold start
  split
  · exact pure _
  · exact bind (within_status hR) fun _ => pure _
  · exact hbegin _ ‹_›

lemma within_finish (hrelease : ∀ h closeFails, Within R (LockFile.release h closeFails))
    (leader : Leader (Option Override)) (ending : Ending) : Within R (finish leader ending) := by
  refine bind (hrelease _ _) fun _ => ?_
  split
  · exact pure _
  · split
    · exact pure _
    · exact throw _

end CommandLine

/-! ### What is done with what has a name -/

namespace Session

lemma within_withHandle (s : State) (name : Text) {f : Nat → Act Result}
    (hf : ∀ h, s.handles.get? name = some h → Within R (f h)) : Within R (withHandle s name f) := by
  unfold withHandle
  split
  · exact hf _ ‹_›
  · exact throw _

lemma within_withRelay (s : State) (name : Text) {f : Relay → Act Result}
    (hf : ∀ r, Within R (f r)) : Within R (withRelay s name f) := by
  unfold withRelay
  split
  · exact hf _
  · exact throw _

end Session

end Parts

end SharedVm
