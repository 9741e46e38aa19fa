import SharedVm.Proofs.Disk.Way
import SharedVm.Proofs.Edges
import SharedVm.Proofs.Ends
import SharedVm.Proofs.Guest
import SharedVm.Proofs.Native
import SharedVm.Proofs.Relay
import SharedVm.Proofs.Reply

/-!
# Failures that the operating system reports

Around an ordinary process nothing fails but what the operating system reports, and its variables
are texts that the operating system has handed over. What can be wrong there with a request, a
relay, an election and the variables for a guest is little.
-/

namespace SharedVm

open Act

/-- What the operating system reports about a connection to the peer, if anything. -/
def Peer.report? : Peer → Option Report
  | unreachable r => some r
  | deaf r => some r
  | answering _ ending => ending

/-- Calls fail because of the operating system only. -/
structure Faults.OfSystem (faults : Faults) : Prop where
  lock : ∀ r, faults.lock = some r → r.isSystem = true
  sync : ∀ r, faults.sync = some r → r.isSystem = true
  read : ∀ r, faults.read = some r → r.isSystem = true
  inspect : ∀ r, faults.inspect = some r → r.isSystem = true
  stat : ∀ p r, faults.stat p = some r → r.isSystem = true
  opening : ∀ p r, faults.opening p = some r → r.isSystem = true
  making : ∀ p r, faults.making p = some r → r.isSystem = true

lemma Faults.ofSystem_empty : ({} : Faults).OfSystem :=
  ⟨nofun, nofun, nofun, nofun, fun _ => nofun, fun _ => nofun, fun _ => nofun⟩

/-- Whatever is going to fail around the process is reported by the operating system, which also has
handed over the variables and the homes of the users. -/
structure World.Ordinary (w : World) : Prop where
  homes : Environ.NativeHomes w.system.users
  environ : Environ.Native w.environ
  deviceTree : w.deviceTree.Native
  faults : w.faults.OfSystem
  peers : ∀ p ∈ w.peers, ∀ r, p.report? = some r → r.isSystem = true
  relays : ∀ p ∈ w.relays, ∀ r, p.spawnFails = some r → r.isSystem = true

/-- The same system, variables and faults are there, and of the tapes no more than before. -/
structure World.Onward (w v : World) : Prop where
  system : v.system = w.system
  environ : v.environ = w.environ
  deviceTree : v.deviceTree = w.deviceTree
  faults : v.faults = w.faults
  peers : v.peers <:+ w.peers
  relays : v.relays <:+ w.relays

namespace World.Onward

variable {u v w : World}

instance : IsPreorder World World.Onward where
  refl _ := ⟨rfl, rfl, rfl, rfl, List.suffix_refl _, List.suffix_refl _⟩
  trans _ _ _ h k := ⟨k.system.trans h.system, k.environ.trans h.environ,
    k.deviceTree.trans h.deviceTree, k.faults.trans h.faults, k.peers.trans h.peers,
    k.relays.trans h.relays⟩

lemma of_local (h : w.Local v) : w.Onward v := by
  rw [h]
  exact ⟨rfl, rfl, rfl, rfl, List.suffix_refl _, List.suffix_refl _⟩

lemma ordinary (h : w.Onward v) (hw : w.Ordinary) : v.Ordinary where
  homes := h.system ▸ hw.homes
  environ := h.environ ▸ hw.environ
  deviceTree := h.deviceTree ▸ hw.deviceTree
  faults := h.faults ▸ hw.faults
  peers p hp := hw.peers p (h.peers.subset hp)
  relays p hp := hw.relays p (h.relays.subset hp)

end World.Onward

lemma Act.onward_talks : Talks World.Onward where
  note n w := .of_local (Within.local_note n w)
  event _ _ := ⟨rfl, rfl, rfl, rfl, List.suffix_refl _, List.suffix_refl _⟩
  nextPeer w := by
    rw [Exchange.run_nextPeer]
    exact ⟨rfl, rfl, rfl, rfl, List.tail_suffix _, List.suffix_refl _⟩

lemma Act.onward_edges : Edges World.Onward where
  toTalks := onward_talks
  makeDirectories p w := .of_local (Within.local_makeDirectories p w)
  spawn binary base port w := by
    rw [Relay.run_spawn]
    cases w.relay.spawnFails with
    | some r => exact ⟨rfl, rfl, rfl, rfl, List.suffix_refl _, List.tail_suffix _⟩
    | none =>
      unfold World.listening
      dsimp only
      split
      · split
        · exact ⟨rfl, rfl, rfl, rfl, List.suffix_refl _, List.tail_suffix _⟩
        · exact ⟨rfl, rfl, rfl, rfl, List.suffix_refl _, List.tail_suffix _⟩
      · exact ⟨rfl, rfl, rfl, rfl, List.suffix_refl _, List.tail_suffix _⟩

/-! ### Places -/

/-- What is said of a path that cannot be followed. -/
def Failure.IsOfDisk (p : Path) (f : Failure) : Prop := ∃ x : DiskError, f = .report (x.report p.text)

lemma Failure.IsOfDisk.isSystem {p : Path} {f : Failure} (h : f.IsOfDisk p) : f.IsSystem := by
  obtain ⟨x, rfl⟩ := h
  exact ⟨_, rfl, rfl⟩

lemma Disk.makeDirectoriesFrom_failed {start : PathRoot} {names : List Text} {d : Disk}
    {x : DiskError} {q : Path} (h : (d.makeDirectoriesFrom start names).1 = some (x, q)) :
    q.start = start ∧ q.names <+: names.reverse := by
  have hsettle : ∀ {d : Disk} {y : DiskError} {p : Path},
      (if d.isDirectory p then ((none : Option (DiskError × Path)), d) else (some (y, p), d)).1 =
        some (x, q) → q = p := by
    intro d y p h
    split at h
    · cases h
    · exact (Prod.mk.inj (Option.some.inj h)).2.symm
  induction names generalizing d with
  | nil => cases h
  | cons name above ih =>
    have hself : q = ⟨start, (name :: above).reverse⟩ →
        q.start = start ∧ q.names <+: (name :: above).reverse := by
      rintro rfl
      exact ⟨rfl, List.prefix_refl _⟩
    rw [makeDirectoriesFrom] at h
    dsimp only at h
    split at h
    · cases h
    · split at h
      · rename_i e d' habove
        obtain rfl : e = (x, q) := Option.some.inj h
        obtain ⟨hs, hn⟩ := ih (congrArg Prod.fst habove)
        rw [List.reverse_cons]
        exact ⟨hs, hn.trans (List.prefix_append _ _)⟩
      · split at h
        · cases h
        · exact hself (Prod.mk.inj (Option.some.inj h)).2.symm
        · exact hself (hsettle h)
    · exact hself (hsettle h)

lemma Disk.makeDirectories_failed {d : Disk} {p q : Path} {x : DiskError}
    (h : (d.makeDirectories p).1 = some (x, q)) : q.OnWay p := by
  obtain ⟨hs, hn⟩ := makeDirectoriesFrom_failed h
  rw [List.reverse_reverse] at hn
  exact ⟨hs, hn⟩

section Onward

variable {w : World} {P : Failure → Prop}

/-! ### Looking at the disk and changing it -/

namespace Act.Only

lemma of_onward {α : Type} {a : Act α} (ha : Within World.Onward a)
    (h : ∀ v f, w.Onward v → (a.run v).1 = .error f → P f) : Only w.Onward P a :=
  of_within ha (fun _ _ hv hu => trans_of World.Onward hv hu) h

lemma note (n : Notice) : Only w.Onward P (Act.note n) :=
  of_onward (onward_talks.note n) fun _ _ _ => nofun

lemma event (e : Event) : Only w.Onward P (Act.event e) :=
  of_onward (onward_talks.event e) fun _ _ _ => nofun

lemma bind_look {α β : Type} {look : Act α} {seen : World → α} {f : α → Act β}
    (hl : ∀ v, look.run v = (.ok (seen v), v)) (h : ∀ v, w.Onward v → Only w.Onward P (f (seen v))) :
    Only w.Onward P (look >>= f) := Ends.bind_look hl h

lemma bind_environ {α : Type} {f : Environ → Act α} (h : Only w.Onward P (f w.environ)) :
    Only w.Onward P (Act.environ >>= f) :=
  Ends.bind_look run_environ fun v hv => by
    rw [hv.environ]
    exact h

lemma mayFail {fault : Faults → Option Report}
    (h : ∀ r, fault w.faults = some r → P (.report r)) : Only w.Onward P (Act.mayFail fault) := by
  refine of_onward (Within.mayFail fault) fun v f hv hf => ?_
  cases hr : fault v.faults with
  | none =>
    rw [run_mayFail_of_none hr] at hf
    cases hf
  | some r =>
    rw [run_mayFail_of_some hr] at hf
    rw [hv.faults] at hr
    exact Except.error.inj hf ▸ h r hr

lemma unlessRefused {refusal : System → Option Failure}
    (h : ∀ f, refusal w.system = some f → P f) : Only w.Onward P (Act.unlessRefused refusal) := by
  refine of_onward (Within.unlessRefused refusal) fun v f hv hf => ?_
  rw [run_unlessRefused, hv.system] at hf
  cases hr : refusal w.system with
  | none =>
    rw [hr] at hf
    cases hf
  | some g =>
    rw [hr] at hf
    exact Except.error.inj hf ▸ h g hr

lemma isThere {p : Path} (h : ∀ f : Failure, f.IsOfDisk p → P f)
    (hs : ∀ r, w.faults.stat p = some r → P (.report r)) : Only w.Onward P (Act.isThere p) := by
  refine of_onward (Within.isThere p) fun v f hv hf => ?_
  rw [run_isThere, hv.faults] at hf
  cases hn : Failure.ofName? p.text with
  | some g =>
    rw [hn] at hf
    cases hf
  | none =>
    cases hr : w.faults.stat p with
    | some r =>
      rw [hn, hr] at hf
      dsimp only at hf
      split at hf
      · cases hf
      · exact Except.error.inj hf ▸ hs r hr
    | none =>
      rw [hn, hr] at hf
      dsimp only at hf
      split at hf
      · cases hf
      · exact Except.error.inj hf ▸ h _ ⟨_, rfl⟩
      · cases hf

lemma readFile {p : Path} (hp : p.Native) (h : ∀ f : Failure, f.IsOfDisk p → P f)
    (ho : ∀ r, w.faults.opening p = some r → P (.report r)) : Only w.Onward P (Act.readFile p) := by
  refine of_onward (Within.readFile p) fun v f hv hf => ?_
  rw [run_readFile, hp.ofName?, hv.faults] at hf
  cases hr : w.faults.opening p with
  | some r =>
    rw [hr] at hf
    exact Except.error.inj hf ▸ ho r hr
  | none =>
    rw [hr] at hf
    dsimp only at hf
    cases hd : v.disk.file p with
    | ok i =>
      rw [hd] at hf
      cases hf
    | error x =>
      rw [hd] at hf
      exact Except.error.inj hf ▸ h _ ⟨x, rfl⟩

lemma makeDirectories {p : Path} (hp : p.Native)
    (h : ∀ (q : Path) (f : Failure), q.OnWay p → f.IsOfDisk q → P f)
    (hs : ∀ r, w.faults.stat p = some r ∨ w.faults.making p = some r → P (.report r)) :
    Only w.Onward P (Act.makeDirectories p) := by
  refine of_onward (onward_edges.makeDirectories p) fun v f hv hf => ?_
  unfold Act.makeDirectories Act.checkPath at hf
  rw [hp.ofName?, run_bind_of_ok (run_pure _ v), run_bind_of_ok (run_get v), hv.faults] at hf
  cases hr : w.faults.making p with
  | some r =>
    rw [hr] at hf
    rcases run_settleDirectory p r v with hrun | ⟨r', hfault, hrun⟩ | ⟨-, hrun⟩
    · rw [hrun] at hf
      exact Except.error.inj hf ▸ hs r (.inr hr)
    · rw [hrun] at hf
      rw [hv.faults] at hfault
      exact Except.error.inj hf ▸ hs r' (.inl hfault)
    · rw [hrun] at hf
      cases hf
  | none =>
    rw [hr] at hf
    dsimp only at hf
    rw [run_bind_of_ok (run_disk v)] at hf
    rcases hm : v.disk.makeDirectories p with ⟨failed, d⟩
    rw [hm] at hf
    cases failed with
    | none => cases hf
    | some x =>
      cases hf
      exact h x.2 _ (Disk.makeDirectories_failed (congrArg Prod.fst hm)) ⟨x.1, rfl⟩

end Act.Only

/-! ### Requests -/

/-- A request failed, and it is known why. -/
def Failure.IsOfRequest (f : Failure) : Prop := ∃ e, f = .launch e

lemma Peer.FailsWith.report?_eq {p : Peer} {r : Report} (h : p.FailsWith r) :
    p.report? = some r := by
  cases h <;> rfl

namespace Exchange

variable (hw : w.Ordinary)

include hw

lemma only_converse (host : Text) (port : Int) (timeout : Option Value) (payload : Bytes) :
    Only w.Onward Failure.IsSystem (converse host port timeout payload) := by
  refine .of_onward (within_converse onward_talks _ _ _ _) fun v f hv hf => ?_
  rw [run_converse] at hf
  cases hr : v.peer.reply with
  | ok line =>
    rw [hr] at hf
    cases hf
  | error r =>
    rw [hr] at hf
    refine ⟨r, (Except.error.inj hf).symm, ?_⟩
    have hreport := (Peer.reply_eq_error_iff.1 hr).report?_eq
    have hpeers := (hv.ordinary hw).peers
    unfold World.peer at hreport
    cases hp : v.peers with
    | nil =>
      rw [hp] at hreport
      rw [← Option.some.inj hreport]
      rfl
    | cons p rest =>
      rw [hp] at hreport hpeers
      exact hpeers p List.mem_cons_self r hreport

/-- A request whose variables are a mapping fails as a request. -/
lemma only_request (port : Int) (command args : Value) (entries : List (Value × Value))
    (host : Text) (timeout : Option Value) : Only w.Onward Failure.IsOfRequest
      (request (.int port) command args (.mapping entries) host timeout) := by
  refine .bind (.ofExcept fun f hf => Request.launch_of_build hf) fun r =>
    .bind (.note _) fun _ => ?_
  unfold send
  cases r.wire with
  | error f => exact .throw ⟨_, rfl⟩
  | ok payload =>
    refine .bind (.pure _) fun n => .bind (.orReport (only_converse hw _ _ _ _) fun e =>
      .bind (.note _) fun _ => .throw ⟨_, rfl⟩) fun line => ?_
    dsimp only
    split
    · exact .throw ⟨_, rfl⟩
    · exact .pure _

end Exchange

/-! ### Variables for guests -/

def Failure.IsMisconfigured (f : Failure) : Prop := ∃ m, f = .misconfigured m

lemma Environ.isMisconfigured_of_forVm {host : Environ} {asahi : Bool} {overrides : List Override}
    {f : Failure} (h : host.forVm asahi overrides = .error f) : f.IsMisconfigured := by
  obtain ⟨name, -, hf⟩ := forVm_furnishes.told f h
  exact ⟨_, hf⟩

namespace Guest

lemma only_gather (hw : w.Ordinary) (host : Environ) {p : Path} (hp : p.Native)
    (overrides : List Override) :
    Only w.Onward Failure.IsMisconfigured (gather host p overrides) := by
  have hasahi : Only w.Onward Failure.IsMisconfigured (isAsahi p) := by
    refine .tryCatch (.map _ (.readFile hp (fun f hf => hf.isSystem) fun r hr =>
      ⟨r, rfl, hw.faults.opening p r hr⟩)) ?_
    rintro _ ⟨r, rfl, hr⟩
    dsimp only
    rw [hr]
    split
    · exact .pure _
    · exact .throw ⟨_, rfl⟩
  unfold gather
  dsimp only
  split
  · exact .bind hasahi fun _ => .ofExcept fun f => Environ.isMisconfigured_of_forVm
  · exact .bind (.pure _) fun _ => .ofExcept fun f => Environ.isMisconfigured_of_forVm

end Guest

/-! ### Relays -/

/-- What is said of a place on the way to the socket of a relay, or of that socket itself: it cannot
be followed, or asking for it or making it fails. -/
inductive Relay.IsUnplaced (w : World) (base : Path) : Failure → Prop where
  | blocked {port : Int} {q : Path} {f : Failure}
      (way : q.OnWay (socketPath base (Decimal.ofInt port))) (disk : f.IsOfDisk q) :
      IsUnplaced w base f
  | refused {port : Int} {q : Path} {r : Report}
      (way : q.OnWay (socketPath base (Decimal.ofInt port)))
      (fault : w.faults.stat q = some r ∨ w.faults.making q = some r) :
      IsUnplaced w base (.report r)

/-- A search path that is text can be searched. -/
lemma Program.exists_find? {host process : Environ} (hh : Environ.Native host)
    (hp : Environ.Native process) (d : Disk) (program : Text) :
    ∃ found, find? d host process program = .ok found := by
  have hpath : ∃ t, ((host.var? "PATH").orElse fun _ => process.var? "PATH").getD
      (.text standardPath) = .text t := by
    cases hv : host.var? "PATH" with
    | some v =>
      obtain ⟨t, rfl, -⟩ := hh.var? hv
      exact ⟨t, rfl⟩
    | none =>
      cases hv : process.var? "PATH" with
      | some v =>
        obtain ⟨t, rfl, -⟩ := hp.var? hv
        exact ⟨t, by rw [Option.orElse_none]; rfl⟩
      | none => exact ⟨standardPath, rfl⟩
  obtain ⟨t, ht⟩ := hpath
  unfold find?
  dsimp only
  rw [ht]
  split
  · exact ⟨_, rfl⟩
  · split
    · exact ⟨_, rfl⟩
    · exact ⟨_, rfl⟩

section Ordinary

variable (hw : w.Ordinary)

include hw

lemma Program.only_find (program : Text) : Only w.Onward P (find w.environ program) := by
  refine .bind_look run_disk fun v _ => .bind_environ (.ofExcept fun f hf => ?_)
  obtain ⟨found, hfound⟩ := exists_find? hw.environ hw.environ v.disk program
  rw [hfound] at hf
  cases hf

namespace Relay

lemma only_spawn (binary : Text) (base : Path) (port : Int) :
    Only w.Onward Failure.IsSystem (spawn binary (socketPath base (Decimal.ofInt port))) := by
  refine .of_onward (onward_edges.spawn _ _ _) fun v f hv hf => ?_
  rw [run_spawn] at hf
  cases hs : v.relay.spawnFails with
  | none =>
    rw [hs] at hf
    cases hf
  | some r =>
    rw [hs] at hf
    cases hf
    refine ⟨r, rfl, ?_⟩
    have hrelays := (hv.ordinary hw).relays
    unfold World.relay at hs
    cases hp : v.relays with
    | nil =>
      rw [hp] at hs
      cases hs
    | cons p rest =>
      rw [hp] at hs hrelays
      exact hrelays p List.mem_cons_self r hs

/-- A relay that cannot be started is told of, unless there is no way to the place of its socket. -/
lemma only_start {base : Path} (hb : base.Native) : Only w.Onward
    (fun f => f.IsMisconfigured ∨ IsUnplaced w base f) (start (some base) none w.environ) := by
  have hfree : ∀ ports : List Int, Only w.Onward (fun f => f.IsMisconfigured ∨ IsUnplaced w base f)
      (freePort Decimal.ofInt base ports) := by
    intro ports
    induction ports with
    | nil => exact .throw (.inl ⟨_, rfl⟩)
    | cons port rest ih =>
      have hself : (socketPath base (Decimal.ofInt port)).OnWay
          (socketPath base (Decimal.ofInt port)) := ⟨rfl, List.prefix_refl _⟩
      refine .bind (.isThere (fun f hf => .inr (.blocked hself hf)) fun r hr =>
        .inr (.refused hself (.inl hr))) fun b => ?_
      split
      · exact ih
      · exact .pure _
  have hdirectories : ∀ port : Int, Only w.Onward
      (fun f => f.IsMisconfigured ∨ IsUnplaced w base f)
      (Act.makeDirectories (socketPath base (Decimal.ofInt port)).parent) := by
    intro port
    have hparent : (socketPath base (Decimal.ofInt port)).parent.OnWay
        (socketPath base (Decimal.ofInt port)) := ⟨rfl, List.dropLast_prefix _⟩
    exact .makeDirectories (native_socketPath hb port).parent
      (fun q f hq hf => .inr (.blocked ⟨hq.1, hq.2.trans hparent.2⟩ hf))
      fun r hr => .inr (.refused hparent hr)
  unfold start
  dsimp only
  rw [pure_bind]
  refine .bind (Program.only_find hw _) fun found => ?_
  cases found with
  | none => exact .throw (.inl ⟨_, rfl⟩)
  | some binary =>
    exact .bind (hfree _) fun port => .bind (hdirectories port) fun _ =>
      .bind (.orReport (only_spawn hw _ _ _) fun _ => .throw (.inl ⟨_, rfl⟩)) fun _ =>
        .bind (.note _) fun _ => .pure _

end Relay

end Ordinary

end Onward

end SharedVm
