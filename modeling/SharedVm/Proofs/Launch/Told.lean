import SharedVm.CommandLine.Run
import SharedVm.Proofs.Candidate
import SharedVm.Proofs.Launch.Delivery

/-!
# Failures of launches that are told

A launch from an ordinary process is told of what stopped it, with few exceptions: a home that is not
known, a place for a relay that cannot be reached, and a number of too many digits in the lock file.
-/

namespace SharedVm

open Act

/-- The failure is one that the user is told of. -/
def Failure.IsTold (f : Failure) : Prop := CommandLine.isTold f = true

lemma Failure.IsMisconfigured.isTold {f : Failure} (h : f.IsMisconfigured) : f.IsTold := by
  obtain ⟨m, rfl⟩ := h
  rfl

namespace Relay

variable {w : World} {P : Failure → Prop} (r : Relay)

lemma only_wait : Only w.Onward P r.wait := .bind (.event _) fun _ => .pure _

lemma only_terminate : Only w.Onward P r.terminate := by
  refine .of_onward (within_terminate onward_talks r) fun v f _ hf => ?_
  rw [run_terminate] at hf
  cases hf

end Relay

namespace Launch

variable {α : Type}

/-- A launch of a command in texts, on behalf of the process itself, with numbers for the port and
the delay. -/
structure IsOwn (l : Launch α) : Prop where
  command : ∃ t, l.command = .text t
  args : ∃ ts : List Text, l.args = .list (ts.map .text)
  serverPort : ∃ n, l.serverPort = .int n
  retryDelay : ∃ d, l.retryDelay = .real d
  host : l.host = none
  lock : l.lock = none
  runtimeDir : l.runtimeDir = none

/-- What an own launch of an ordinary process fails with and is not told of. -/
inductive Untold (l : Launch α) (w : World) : Failure → Prop where
  | home (needed : l.interactive = true ∨ w.environ.serverPort = .ok none)
      (unknown : w.environ.runtimeDir w.environ w.system.users = .error .homeUnknown) :
      Untold l w .homeUnknown
  | unplaced {base : Path} {f : Failure} (needed : l.interactive = true)
      (named : w.environ.runtimeDir w.environ w.system.users = .ok base)
      (unplaced : Relay.IsUnplaced w base f) : Untold l w f
  | digits {f : Failure} (needed : w.environ.serverPort = .ok none) (tooMany : f.IsOfDigits) :
      Untold l w f
  /-- A connection failed, and the delay before the next one cannot be slept. -/
  | impatient {f : Failure} (needed : w.environ.serverPort = .ok none)
      (positive : l.retryDelay.isPositive? = some true)
      (refused : w.system.sleeping l.retryDelay = some f) : Untold l w f

/-- What an own launch finds out: texts, and the runtime directory if it is interactive. -/
structure IsFound (l : Launch α) (w : World) (o : Opening) : Prop where
  command : ∃ t, o.command = .text t
  args : ∃ ts : List Text, o.args = ts.map .text
  base : l.interactive = true →
    ∃ b, o.base = some b ∧ w.environ.runtimeDir w.environ w.system.users = .ok b
  known : w.environ.serverPort = .ok o.known

lemma IsOwn.relayBase {l : Launch α} (hl : l.IsOwn) (env : Environ) (users : Users) :
    l.relayBase env env users =
      if l.interactive then (env.runtimeDir env users).map some else .ok none := by
  unfold Launch.relayBase
  rw [hl.runtimeDir]

lemma IsOwn.isFound {l : Launch α} (hl : l.IsOwn) {w : World} {o : Opening}
    (ho : l.opening w.environ w.environ w.system.users = .ok o) : l.IsFound w o := by
  obtain ⟨hcommand, hargs, hbase, hknown⟩ := opening_eq_ok_iff.1 ho
  obtain ⟨t, ht⟩ := hl.command
  obtain ⟨ts, hts⟩ := hl.args
  rw [ht] at hcommand
  rw [hts] at hargs
  refine ⟨⟨t, (Except.ok.inj hcommand).symm⟩, ⟨ts, (Except.ok.inj hargs).symm⟩, fun hi => ?_, hknown⟩
  rw [hl.relayBase, if_pos hi] at hbase
  cases hr : w.environ.runtimeDir w.environ w.system.users with
  | error f =>
    rw [hr] at hbase
    cases hbase
  | ok b =>
    rw [hr] at hbase
    exact ⟨b, (Except.ok.inj hbase).symm, rfl⟩

lemma IsOwn.untold_of_impatient {l : Launch α} (hl : l.IsOwn) {w : World} {f : Failure}
    (hk : w.environ.serverPort = .ok none) (hf : impatience? w.system l.retryDelay = some f) :
    l.Untold w f := by
  obtain ⟨d, hd⟩ := hl.retryDelay
  have hpositive : l.retryDelay.isPositive? = some d.isPositive := by
    rw [hd]
    rfl
  unfold impatience? at hf
  rw [hpositive] at hf
  cases hp : d.isPositive with
  | false =>
    rw [hp] at hf
    cases hf
  | true =>
    rw [hp] at hpositive hf
    exact .impatient hk hpositive hf

section Ordinary

variable {l : Launch α} {w : World} {P : Failure → Prop} {send : Act Unit}

lemma only_launchError? (hs : Only w.Onward (fun f => f.IsOfRequest ∨ P f) send) :
    Only w.Onward P (launchError? send) := by
  refine .tryCatch (.bind hs fun _ => .pure _) ?_
  rintro f (⟨e, rfl⟩ | hf)
  · exact .pure _
  · cases f with
    | launch e => exact .pure _
    | _ => exact .throw hf

variable (ht : ∀ f : Failure, f.IsTold → P f)

include ht

lemma only_retry (hs : Only w.Onward (fun f => f.IsOfRequest ∨ P f) send) (port : Int)
    {delay : Value} (hd : ∀ f, impatience? w.system delay = some f → P f) (left n : Nat) :
    Only w.Onward P (retry send port delay left n) := by
  have hpause : Only w.Onward P (pause delay) := by
    refine .of_onward (within_pause (fun _ => onward_talks.event _) delay) fun v f hv hf => ?_
    rw [run_pause, hv.system] at hf
    cases hi : impatience? w.system delay with
    | none =>
      rw [hi] at hf
      cases hf
    | some g =>
      rw [hi] at hf
      exact Except.error.inj hf ▸ hd g hi
  -- on the attempts that are left: each one that fails is told of, or the next one decides
  induction left generalizing n with
  | zero =>
    rw [retry]
    refine .bind (only_launchError? hs) fun o => ?_
    cases o with
    | none => exact .pure _
    | some e => exact .throw (ht _ rfl)
  | succ left ih =>
    rw [retry]
    refine .bind (only_launchError? hs) fun o => ?_
    cases o with
    | none => exact .pure _
    | some e =>
      dsimp only
      split
      · exact .bind (.note _) fun _ => .bind hpause fun _ => ih (n + 1)
      · exact .throw (ht _ rfl)

variable (hw : w.Ordinary) (hu : ∀ f, l.Untold w f → P f)

include hw hu

section Opened

variable {o : Opening} (ho : l.IsFound w o)

include ho

/-- A delivery fails as a request, or because its relay could not be started. -/
lemma only_deliver (port : Int) (entries : List (Value × Value)) :
    Only w.Onward (fun f => f.IsOfRequest ∨ P f)
      (l.deliver byExchange o.base port o.command o.args (.mapping entries)) := by
  have hrequest : ∀ command args : Value, Only w.Onward (fun f => f.IsOfRequest ∨ P f)
      (byExchange (.int port) command args (.mapping entries)) := fun command args =>
    (Exchange.only_request hw port command args entries Exchange.loopback none).mono fun _ => .inl
  unfold deliver
  split
  · exact hrequest _ _
  · rename_i hi
    rw [Bool.not_eq_true', Bool.not_eq_false] at hi
    obtain ⟨command, hcommand⟩ := ho.command
    obtain ⟨args, hargs⟩ := ho.args
    obtain ⟨b, hb, hnamed⟩ := ho.base hi
    have hnative : b.Native := hw.environ.of_runtimeDir hw.environ hw.homes hnamed
    have hstart : Only w.Onward (fun f => f.IsOfRequest ∨ P f)
        (Relay.start o.base none w.environ) := by
      rw [hb]
      refine (Relay.only_start hw hnative).mono fun f hf => .inr ?_
      rcases hf with hf | hf
      · exact ht f hf.isTold
      · exact hu f (.unplaced hi hnamed hf)
    refine .bind_environ (.bind hstart fun relay => ?_)
    -- texts can always be put into the address of a relay
    rw [hcommand, hargs, Relay.wrap_texts]
    refine .bind (.pure _) fun wrapped => .bind (.tryCatch (hrequest _ _) fun f hf => ?_) fun _ =>
      .bind relay.only_wait fun _ => .note _
    exact .bind relay.only_terminate fun _ => .bind relay.only_wait fun _ => .throw hf

variable {prepare : List α → Act Value} (hp : Ends w.Onward
  (fun env v => w.Onward v ∧ ∃ entries, env = .mapping entries) (fun f v => w.Onward v ∧ P f)
  (prepare l.overrides))

include hp

lemma only_askOnce (port : Nat) : Only w.Onward P
    (l.askOnce prepare (l.deliver byExchange o.base port o.command o.args) port) := by
  refine Ends.bind hp fun env => Ends.assume fun ⟨entries, henv⟩ => ?_
  rw [henv]
  refine Only.bind (only_launchError? (only_deliver ht hw hu ho port entries)) fun e => ?_
  cases e with
  | none => exact .pure _
  | some e => exact .throw (ht _ rfl)

variable (hl : l.IsOwn)

include hl

lemma only_compete (hk : w.environ.serverPort = .ok none) {lock : Path} (hlock : lock.Native) :
    Only w.Onward P (l.compete prepare (fun port => l.deliver byExchange o.base port o.command o.args)
      o.command o.args lock) := by
  have hstand : Only w.Onward P (Election.stand l.serverPort (Pure.pure lock)) := by
    obtain ⟨n, hn⟩ := hl.serverPort
    rw [hn]
    refine (Election.only_stand hw hlock n).mono fun f hf => ?_
    rcases hf with hf | hf
    · exact ht f hf.isTold
    · exact hu f (.digits hk hf)
  refine .bind hstand fun s => ?_
  cases s with
  | elected handle path port => exact .bind (.note _) fun _ => .pure _
  | led path port =>
    cases port with
    | none => exact .throw (ht _ rfl)
    | some port =>
      refine .bind (.note _) fun _ => Ends.bind hp fun env => Ends.assume fun ⟨entries, henv⟩ => ?_
      rw [henv]
      exact Only.bind (only_retry ht (only_deliver ht hw hu ho port entries) _
        (fun f hf => hu f (hl.untold_of_impatient hk hf)) _ _) fun _ => .pure _

/-- What a launch does once it has found out what it needs. -/
lemma only_goOn : Only w.Onward P (l.goOn prepare byExchange w.environ o) := by
  have hknown := ho.known
  unfold goOn
  dsimp only
  cases hk : o.known with
  | some port => exact only_askOnce ht hw hu ho hp port
  | none =>
    rw [hk] at hknown
    rw [hl.lock]
    have hlock : Ends w.Onward (fun lock v => w.Onward v ∧ lock.Native) (fun f v => w.Onward v ∧ P f)
        (Election.lockOf w.environ) := by
      intro v hv
      rw [Election.run_lockOf, hv.environ, hv.system]
      rcases hw.environ.lockPath hw.environ hw.homes with he | ⟨hr, he⟩ | ⟨lock, he, hlock⟩
      · rw [he]
        exact ⟨hv, ht _ rfl⟩
      · rw [he]
        exact ⟨hv, hu _ (.home (.inr hknown) hr)⟩
      · rw [he]
        exact ⟨hv, hlock⟩
    exact Ends.bind hlock fun lock => Ends.assume (only_compete ht hw hu ho hp hl hknown)

end Opened

variable (hl : l.IsOwn)

include hl

/-- What an own launch cannot find out. -/
lemma opening_failed {f : Failure}
    (ho : l.opening w.environ w.environ w.system.users = .error f) : P f := by
  obtain ⟨t, hcommand⟩ := hl.command
  obtain ⟨ts, hargs⟩ := hl.args
  have hc : Request.commandName (.text t) = .ok (.text t) := rfl
  have ha : Request.itemsOf (.list (ts.map .text)) = .ok (ts.map .text) := rfl
  have hknown : ∀ g, w.environ.serverPort = .error g → P g := by
    intro g hg
    unfold Environ.serverPort at hg
    split at hg
    · cases hg
    · split at hg
      · cases hg
      · rw [← Except.error.inj hg]
        exact ht _ rfl
  have hbase : ∀ g, l.relayBase w.environ w.environ w.system.users = .error g → P g := by
    intro g hg
    rw [hl.relayBase] at hg
    split at hg
    · rename_i hi
      rcases hw.environ.runtimeDir hw.environ hw.homes with hr | hr | ⟨b, hr, -⟩
      · rw [hr] at hg
        rw [← Except.error.inj hg]
        exact ht _ rfl
      · rw [hr] at hg
        rw [← Except.error.inj hg]
        exact hu _ (.home (.inl hi) hr)
      · rw [hr] at hg
        cases hg
    · cases hg
  rw [opening, hcommand, hargs, hc, ha] at ho
  cases hb : l.relayBase w.environ w.environ w.system.users with
  | error g =>
    rw [hb] at ho
    rw [← Except.error.inj ho]
    exact hbase g hb
  | ok b =>
    cases hk : w.environ.serverPort with
    | error g =>
      rw [hb, hk] at ho
      rw [← Except.error.inj ho]
      exact hknown g hk
    | ok known =>
      rw [hb, hk] at ho
      cases ho

/-- An own launch of an ordinary process is told of what stopped it, unless it is one of the few
things that it is not told of, or it is its variables. -/
theorem only_run {prepare : List α → Act Value} (hp : Ends w.Onward
      (fun env v => w.Onward v ∧ ∃ entries, env = .mapping entries) (fun f v => w.Onward v ∧ P f)
      (prepare l.overrides)) : Only w.Onward P (l.run prepare) := by
  intro v hv
  rw [run_opens, hl.host, Option.getD_none, hv.environ, hv.system]
  cases ho : l.opening w.environ w.environ w.system.users with
  | error f => exact ⟨hv, opening_failed ht hw hu hl ho⟩
  | ok o =>
    rw [run_bind_of_ok (run_ofExcept (.ok o) v)]
    exact only_goOn ht hw hu (hl.isFound ho) hp hl v hv

end Ordinary

end Launch

end SharedVm
