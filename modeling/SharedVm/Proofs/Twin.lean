import SharedVm.Proofs.Alike
import SharedVm.Proofs.Environ
import SharedVm.Proofs.Exchange
import SharedVm.Proofs.Relay
import SharedVm.Session

/-!
# Worlds that differ where nothing looks

Two worlds are twins if they differ in variables that are not known, and in their disks in a way
that nobody notices who looks for places, makes directories and starts relays. Requests, relays and
the variables of guests come to the same in both.
-/

namespace SharedVm

open Act

/-- A way in which disks differ that nobody notices who does not read files or take locks. -/
structure Disk.Kin (D : Disk → Disk → Prop) : Prop where
  stat : ∀ {d e}, D d e → ∀ p, e.stat p = d.stat p
  isRunnable : ∀ {d e}, D d e → ∀ t, Program.isRunnable e t = Program.isRunnable d t
  makeDirectories : ∀ {d e}, D d e → ∀ p, (e.makeDirectories p).1 = (d.makeDirectories p).1 ∧
    D (d.makeDirectories p).2 (e.makeDirectories p).2
  touch : ∀ {d e}, D d e → ∀ p, (∃ x, d.touch p = .error x ∧ e.touch p = .error x) ∨
    ∃ i d' e', d.touch p = .ok (i, d') ∧ e.touch p = .ok (i, e') ∧ D d' e'

lemma Disk.kin_eq : Disk.Kin Eq where
  stat := by
    rintro d _ rfl p
    rfl
  isRunnable := by
    rintro d _ rfl t
    rfl
  makeDirectories := by
    rintro d _ rfl p
    exact ⟨rfl, rfl⟩
  touch := by
    rintro d _ rfl p
    cases ht : d.touch p with
    | error x => exact .inl ⟨x, rfl, rfl⟩
    | ok found => exact .inr ⟨found.1, found.2, found.2, rfl, rfl, rfl⟩

lemma Disk.Kin.file {D : Disk → Disk → Prop} (hD : Disk.Kin D) {d e : Disk} (h : D d e) (p : Path) :
    e.file p = d.file p := by
  rw [Disk.file, Disk.file, hD.stat h]

/-- The other world has another disk and binds the known variables alike. -/
inductive World.Twin (D : Disk → Disk → Prop) (known : Text → Prop) (w : World) : World → Prop
  | of (d : Disk) (e : Environ) (hd : D w.disk d) (he : Environ.Agree known w.environ e) :
    Twin D known w { w with disk := d, environ := e }

/-- What a launch looks up in the environments of its host and of its process. -/
def Environ.launchVars : List Text := [
  "KRUN_SERVER_PORT", "XDG_RUNTIME_DIR", "HOME", "LD_LIBRARY_PATH", "LIBGL_DRIVERS_PATH",
  "MESA_LOADER_DRIVER_OVERRIDE", "PATH", "RUST_LOG", "DISPLAY", "XAUTHORITY"]

namespace World.Twin

variable {D : Disk → Disk → Prop} {known : Text → Prop} {w v : World}

lemma disk (h : w.Twin D known v) : D w.disk v.disk := by
  obtain ⟨d, e, hd, he⟩ := h
  exact hd

lemma environ (h : w.Twin D known v) : Environ.Agree known w.environ v.environ := by
  obtain ⟨d, e, hd, he⟩ := h
  exact he

lemma system (h : w.Twin D known v) : v.system = w.system := by
  obtain ⟨d, e, hd, he⟩ := h
  rfl

lemma deviceTree (h : w.Twin D known v) : v.deviceTree = w.deviceTree := by
  obtain ⟨d, e, hd, he⟩ := h
  rfl

lemma faults (h : w.Twin D known v) : v.faults = w.faults := by
  obtain ⟨d, e, hd, he⟩ := h
  rfl

lemma events (h : w.Twin D known v) : v.events = w.events := by
  obtain ⟨d, e, hd, he⟩ := h
  rfl

lemma notices (h : w.Twin D known v) : v.notices = w.notices := by
  obtain ⟨d, e, hd, he⟩ := h
  rfl

end World.Twin

section Twin

variable {D : Disk → Disk → Prop} {known : Text → Prop}

namespace Act.Alike

lemma note (n : Notice) : Alike (World.Twin D known) (Act.note n) (Act.note n) := by
  rintro w _ ⟨d, e, hd, he⟩
  exact ⟨rfl, .of d e hd he⟩

lemma event (x : Event) : Alike (World.Twin D known) (Act.event x) (Act.event x) := by
  rintro w _ ⟨d, e, hd, he⟩
  exact ⟨rfl, .of d e hd he⟩

lemma bind_environ {α : Type} {f g : Environ → Act α}
    (h : ∀ e e', Environ.Agree known e e' → Alike (World.Twin D known) (f e) (g e')) :
    Alike (World.Twin D known) (Act.environ >>= f) (Act.environ >>= g) :=
  bind_look run_environ fun w v hw => h _ _ hw.environ w v hw

lemma bind_users {α : Type} {f g : Users → Act α}
    (h : ∀ u, Alike (World.Twin D known) (f u) (g u)) :
    Alike (World.Twin D known) (Act.users >>= f) (Act.users >>= g) :=
  bind_look run_users fun w v hw => by
    rw [hw.system]
    exact h _ w v hw

lemma unlessRefused (refusal : System → Option Failure) :
    Alike (World.Twin D known) (Act.unlessRefused refusal) (Act.unlessRefused refusal) := by
  intro w v h
  refine .of_run (run_unlessRefused refusal w) ?_ h
  rw [run_unlessRefused, h.system]

end Act.Alike

open Act.Alike

/-! ### Requests -/

namespace Exchange

lemma alike_nextPeer : Alike (World.Twin D known) nextPeer nextPeer := by
  rintro w _ ⟨d, e, hd, he⟩
  refine .of_run (run_nextPeer _) ?_ (.of d e hd he)
  exact run_nextPeer _

lemma alike_converse (host : Text) (port : Int) (timeout : Option Value) (payload : Bytes) :
    Alike (World.Twin D known) (converse host port timeout payload)
      (converse host port timeout payload) := by
  refine bind (event _) fun _ => bind alike_nextPeer fun p => ?_
  cases p with
  | unreachable r => exact throw _
  | deaf r => exact bind (event _) fun _ => throw _
  | answering pieces ending =>
    refine bind (event _) fun _ => bind (event _) fun _ => ?_
    split
    · exact pure _
    · exact throw _

lemma alike_send (port : Value) (wire : Except Failure Bytes) (host : Text)
    (timeout : Option Value) : Alike (World.Twin D known) (send port wire host timeout)
      (send port wire host timeout) := by
  unfold send
  cases wire with
  | error f => exact throw _
  | ok payload =>
    refine bind (ofExcept _) fun n => bind (orReport (alike_converse _ _ _ _) fun e =>
      bind (note _) fun _ => throw _) fun line => ?_
    dsimp only
    split
    · exact throw _
    · exact pure _

lemma alike_request (port command args env : Value) (host : Text) (timeout : Option Value) :
    Alike (World.Twin D known) (request port command args env host timeout)
      (request port command args env host timeout) :=
  bind (ofExcept _) fun _ => bind (note _) fun _ => alike_send _ _ _ _

end Exchange

/-! ### Relays -/

section Kin

variable (hD : Disk.Kin D)

include hD

lemma Act.Alike.isThere (p : Path) :
    Alike (World.Twin D known) (Act.isThere p) (Act.isThere p) := by
  intro w v h
  refine .of_run (run_isThere p w) ?_ h
  rw [run_isThere, hD.stat h.disk, h.faults]

lemma Act.Alike.settleDirectory (p : Path) (r : Report) :
    Alike (World.Twin D known) (Act.settleDirectory p r) (Act.settleDirectory p r) := by
  have hthere : ∀ b : Bool, Alike (World.Twin D known)
      (if !b then MonadExcept.throw (Failure.report r) else Pure.pure () : Act Unit)
      (if !b then MonadExcept.throw (Failure.report r) else Pure.pure ()) := by
    intro b
    split
    · exact throw _
    · exact pure _
  unfold Act.settleDirectory
  split
  · exact throw _
  · refine bind_look run_get fun w v h => ?_
    rw [h.faults]
    cases w.faults.stat p with
    | some r' => exact bind (absent r') hthere w v h
    | none =>
      have hsame : v.disk.isDirectory p = w.disk.isDirectory p := by
        rw [Disk.isDirectory, Disk.isDirectory, hD.stat h.disk]
      refine .congr_run (run_bind_of_ok (run_disk w) _) (run_bind_of_ok (run_disk v) _) ?_
      dsimp only
      rw [hsame]
      exact hthere _ w v h

lemma Act.Alike.makeDirectories (p : Path) :
    Alike (World.Twin D known) (Act.makeDirectories p) (Act.makeDirectories p) := by
  refine bind (checkPath _) fun _ => bind_look run_get fun w v h => ?_
  rw [h.faults]
  cases w.faults.making p with
  | some r => exact Act.Alike.settleDirectory hD p r w v h
  | none =>
    refine .congr_run (run_bind_of_ok (run_disk w) _) (run_bind_of_ok (run_disk v) _) ?_
    obtain ⟨d, e, hd, he⟩ := h
    obtain ⟨hfailed, hafter⟩ := hD.makeDirectories hd p
    dsimp only
    rcases hm : w.disk.makeDirectories p with ⟨failed, d₁⟩
    rcases hm' : d.makeDirectories p with ⟨failed', d₂⟩
    rw [hm, hm'] at hfailed hafter
    obtain rfl : failed' = failed := hfailed
    cases failed' with
    | none => exact ⟨rfl, .of d₂ e hafter he⟩
    | some x => exact ⟨rfl, .of d₂ e hafter he⟩

namespace Relay

lemma alike_freePort {α : Type} (text : α → Text) (base : Path) (ports : List α) :
    Alike (World.Twin D known) (freePort text base ports) (freePort text base ports) := by
  induction ports with
  | nil => exact misconfigured _
  | cons port rest ih =>
    refine bind (Act.Alike.isThere hD _) fun b => ?_
    split
    · exact ih
    · exact pure _

lemma disk_listening_twin {w : World} {d : Disk} (hd : D w.disk d) (e : Environ) (binary : Text)
    (socket : Path) : D (w.listening binary socket).disk
      (World.listening { w with disk := d, environ := e } binary socket).disk := by
  unfold World.listening World.relay
  dsimp only
  split
  · rcases hD.touch hd socket with ⟨x, ht, ht'⟩ | ⟨i, d₁, d₂, ht, ht', h⟩
    · rw [ht, ht']
      exact hd
    · rw [ht, ht']
      exact h
  · exact hd

lemma alike_spawn (binary : Text) (socket : Path) :
    Alike (World.Twin D known) (spawn binary socket) (spawn binary socket) := by
  rintro w _ ⟨d, e, hd, he⟩
  have hw := run_spawn binary socket w
  have hv := run_spawn binary socket { w with disk := d, environ := e }
  have hsame : World.relay { w with disk := d, environ := e } = w.relay := rfl
  rw [hsame] at hv
  cases hp : w.relay.spawnFails with
  | some r =>
    rw [hp] at hw hv
    exact .of_run hw hv (.of d e hd he)
  | none =>
    rw [hp] at hw hv
    exact .of_run hw hv (.of _ e (disk_listening_twin hD hd e binary socket) he)

lemma alike_listen (base : Path) (binary : Text) :
    Alike (World.Twin D known) (listen base binary) (listen base binary) :=
  bind (alike_freePort hD _ _ _) fun _ => bind (Act.Alike.makeDirectories hD _) fun _ =>
    bind (orReport (alike_spawn hD _ _) fun _ => misconfigured _) fun _ =>
      bind (note _) fun _ => pure _

end Relay

/-! ### Programs and runtime directories -/

section Looks

variable (hk : ∀ name ∈ Environ.launchVars, known name)

include hk

lemma Program.find?_congr {d d' : Disk} (hd : D d d') {host host' process process' : Environ}
    (hh : Environ.Agree known host host') (hp : Environ.Agree known process process')
    (program : Text) : find? d' host' process' program = find? d host process program := by
  have hpath : known "PATH" := hk _ (by decide)
  have hrun : isRunnable d' = isRunnable d := funext (hD.isRunnable hd)
  unfold find? search
  rw [hrun, Environ.var?_congr (hh _ hpath), Environ.var?_congr (hp _ hpath)]

lemma Program.alike_find {host host' : Environ} (hh : Environ.Agree known host host')
    (program : Text) : Alike (World.Twin D known) (find host program) (find host' program) := by
  refine bind_look run_disk fun w v h => ?_
  refine .congr_run (run_bind_of_ok (run_environ w) _) (run_bind_of_ok (run_environ v) _) ?_
  rw [find?_congr hD hk h.disk hh h.environ]
  exact ofExcept _ w v h

lemma Relay.alike_binaryOr (binary : Option Text) {host host' : Environ}
    (hh : Environ.Agree known host host') :
    Alike (World.Twin D known) (binaryOr binary host) (binaryOr binary host') := by
  unfold binaryOr
  cases binary with
  | none => exact Program.alike_find hD hk hh _
  | some binary =>
    dsimp only
    split
    · exact Program.alike_find hD hk hh _
    · exact pure _

omit hD in
lemma Environ.runtimeDir_agree {e e' f f' : Environ} (he : Agree known e e')
    (hf : Agree known f f') (users : Users) : e'.runtimeDir f' users = e.runtimeDir f users :=
  runtimeDir_congr (he _ (hk _ (by decide))) (hf _ (hk _ (by decide))) users

lemma Relay.alike_start (base : Option Path) (binary : Option Text) {host host' : Environ}
    (hh : Environ.Agree known host host') :
    Alike (World.Twin D known) (start base binary host) (start base binary host') := by
  unfold start
  extract_lets below below'
  have hbelow : ∀ base, Alike (World.Twin D known) (below base) (below' base) := by
    refine fun base => bind (alike_binaryOr hD hk binary hh) fun found => ?_
    cases found with
    | none => exact misconfigured _
    | some binary => exact alike_listen hD _ _
  cases base with
  | some base => exact bind (pure _) hbelow
  | none =>
    refine bind_environ fun process process' hp => bind_users fun users => ?_
    rw [Environ.runtimeDir_agree hk hh hp]
    exact bind (ofExcept _) hbelow

end Looks

end Kin

lemma Relay.alike_wait (r : Relay) : Alike (World.Twin D known) r.wait r.wait :=
  bind (event _) fun _ => pure _

lemma Relay.alike_terminate (r : Relay) : Alike (World.Twin D known) r.terminate r.terminate := by
  refine bind (event _) fun _ => ?_
  split
  · refine tryCatch (bind (event _) fun _ => ?_) fun f => ?_
    · split
      · exact throw _
      · exact pure _
    · split
      · split
        · exact pure _
        · exact throw _
      · exact throw _
  · exact pure _

end Twin

end SharedVm
