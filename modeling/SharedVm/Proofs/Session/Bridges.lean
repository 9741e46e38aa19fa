import SharedVm.Proofs.RelayPort
import SharedVm.Proofs.Session.Perform

/-!
# Relays below one runtime directory

In any order, relays are started below a runtime directory and files are written and removed. Two
relays whose sockets are still there never have the same port.
-/

namespace SharedVm.Session

open Act Act.Within

lemma run_hostOr (host : Option Environ) (w : World) :
    (hostOr host).run w = (.ok (host.getD w.environ), w) := by
  cases host <;> rfl

/-- What may happen around the sockets below a runtime directory: a relay is started, with only
directories on the way to its socket, or a file is written or removed. `Touching` says that every
relay makes its socket as it starts. -/
inductive Around (base : Path) (Touching : Prop) (s : State) (setting : Setting) : Operation → Prop
  | start {given : Option Path} {host : Option Environ} (binary : Option Text)
      (hbase : Relay.Names base given (host.getD s.world.environ) s.world)
      (hclear : s.world.disk.Clear (Relay.socketDir base))
      (hunhindered : Relay.Unhindered base (enter s.world setting).faults)
      (htouches : Touching → (enter s.world setting).relay.touches = true) :
      Around base Touching s setting (.startRelay given binary host)
  | write (file : Path) (content : Bytes) (executable : Bool) :
      Around base Touching s setting (.write file content executable)
  | remove (file : Path) : Around base Touching s setting (.remove file)

/-- The relays whose sockets have not been removed, after one more operation. -/
def liveAfter (s : State) (live : List Relay) : Operation → Except Failure Result → List Relay
  | .startRelay .., .ok (.relay r) => live ++ [r]
  | .remove file, .ok _ =>
    live.filter fun r => s.world.disk.locate r.socket ≠ s.world.disk.locate file
  | _, _ => live

/-- A run around the sockets below a runtime directory, with the relays that it started and whose
sockets it has not removed. -/
inductive Bridging (base : Path) (Touching : Prop) (s₀ : State) : State → List Relay → Prop
  | refl : Bridging base Touching s₀ s₀ []
  | step {s : State} {live : List Relay} (setting : Setting) (o : Operation)
      (h : Bridging base Touching s₀ s live) (ho : Around base Touching s setting o) :
      Bridging base Touching s₀ (runOne s setting o).state
        (liveAfter s live o ((perform s o).run (enter s.world setting)).1)

/-- Relays that have ports of their own and whose sockets are there. -/
structure Apart (base : Path) (d : Disk) (live : List Relay) : Prop where
  mem : ∀ r ∈ live, r.port ∈ Relay.ports
  socket : ∀ r ∈ live, r.socket = Relay.socketPath base (Decimal.ofInt r.port)
  taken : ∀ r ∈ live, Relay.Taken base d r.port
  distinct : (live.map (·.port)).Nodup

namespace Apart

variable {base : Path} {d e : Disk} {live : List Relay}

lemma nil (base : Path) (d : Disk) : Apart base d [] where
  mem := List.forall_mem_nil _
  socket := List.forall_mem_nil _
  taken := List.forall_mem_nil _
  distinct := .nil

lemma steady (h : Apart base d live) (he : d.Steady e) : Apart base e live :=
  { h with taken := fun r hr => he.entry.isThere he.workDir (h.taken r hr) }

/-- A relay on the least free port has a port of its own. -/
lemma concat (h : Apart base d live) {r : Relay} (hr : Relay.LeastFree base d r.port)
    (hsocket : r.socket = Relay.socketPath base (Decimal.ofInt r.port)) (he : d.Steady e)
    (ht : Relay.Taken base e r.port) : Apart base e (live ++ [r]) where
  mem := List.forall_mem_append.2 ⟨h.mem, List.forall_mem_singleton.2 hr.mem⟩
  socket := List.forall_mem_append.2 ⟨h.socket, List.forall_mem_singleton.2 hsocket⟩
  taken := List.forall_mem_append.2 ⟨(h.steady he).taken, List.forall_mem_singleton.2 ht⟩
  distinct := by
    rw [List.map_append, List.nodup_append]
    refine ⟨h.distinct, List.nodup_singleton _, fun port hport other hother hsame => ?_⟩
    obtain ⟨r', hr', rfl⟩ := List.mem_map.1 hport
    obtain rfl := List.mem_singleton.1 hother
    have htaken := h.taken r' hr'
    rw [hsame] at htaken
    exact hr.free htaken

/-- Relays whose sockets are elsewhere keep them when a file is removed. -/
lemma removes {w v : World} (h : Apart base w.disk live) {place : Location}
    (hv : w.Removes v place) :
    Apart base v.disk (live.filter fun r => w.disk.locate r.socket ≠ .ok place) where
  mem r hr := h.mem r (List.mem_filter.1 hr).1
  socket r hr := h.socket r (List.mem_filter.1 hr).1
  taken r hr := by
    obtain ⟨hmem, haway⟩ := List.mem_filter.1 hr
    obtain ⟨place', x, hl, hp⟩ := Disk.isThere_iff.1 (h.taken r hmem)
    have hne : place' ≠ place := by
      rintro rfl
      rw [h.socket r hmem, hl] at haway
      simp at haway
    refine Disk.isThere_iff.2 ⟨place', x, ?_, (hv.entry place' hne).trans hp⟩
    exact Disk.locate_of_directories hv.disk.workDir hv.directory hl
  distinct := h.distinct.sublist (List.filter_sublist.map _)

end Apart

variable {base : Path} {Touching : Prop} {s₀ s : State} {live : List Relay}

lemma run_startRelay (s : State) (given : Option Path) (binary : Option Text)
    (host : Option Environ) (w : World) :
    (perform s (.startRelay given binary host)).run w =
      (((Relay.start given binary (host.getD w.environ)).run w).1.map .relay,
        ((Relay.start given binary (host.getD w.environ)).run w).2) := by
  unfold perform
  rw [run_bind_of_ok (run_hostOr host w), run_bind]
  rcases (Relay.start given binary (host.getD w.environ)).run w with ⟨_ | _, v⟩ <;> rfl

lemma steady_perform {setting : Setting} {o : Operation} (ho : Around base Touching s setting o)
    (hr : ∀ file, o ≠ .remove file) :
    s.world.disk.Steady ((perform s o).run (enter s.world setting)).2.disk := by
  cases ho with
  | start binary hbase hclear hunhindered htouches =>
    rw [run_startRelay]
    exact (Relay.within_start quiet_edges _ _ _ (enter s.world setting)).disk.steady
  | write file content executable =>
    exact (bind (rewrites_writeFile file content executable) (fun _ => pure _)
      (enter s.world setting)).disk
  | remove file => exact absurd rfl (hr file)

lemma wellFormed_runOne {setting : Setting} {o : Operation} (ho : Around base Touching s setting o)
    (hd : s.world.disk.WellFormed) : (runOne s setting o).state.world.disk.WellFormed := by
  by_cases hr : ∀ file, o ≠ .remove file
  · exact (steady_perform ho hr).wellFormed hd
  · obtain ⟨file, rfl⟩ : ∃ file, o = .remove file := by simpa using hr
    change ((perform s (.remove file)).run (enter s.world setting)).2.disk.WellFormed
    unfold perform
    rcases run_removeFile_cases file (enter s.world setting) with ⟨f, hrun⟩ | ⟨place, v, -, hrun, hv⟩
    · rw [run_bind_of_error hrun]
      exact hd
    · rw [run_bind_of_ok hrun]
      exact hv.disk.wellFormed hd

/-- One more operation leaves the relays apart, if every relay makes its socket as it starts. -/
lemma Apart.runOne (hp : Relay.Placeable base) (h : Apart base s.world.disk live)
    (hd : s.world.disk.WellFormed) {setting : Setting} {o : Operation}
    (ho : Around base Touching s setting o) (ht : Touching) :
    Apart base (Session.runOne s setting o).state.world.disk
      (liveAfter s live o ((perform s o).run (enter s.world setting)).1) := by
  change Apart base ((perform s o).run (enter s.world setting)).2.disk _
  have hkept := steady_perform ho
  cases ho with
  | @start given host binary hbase hclear hunhindered htouches =>
    have hsteady := hkept nofun
    rw [run_startRelay] at hsteady ⊢
    dsimp only at hsteady ⊢
    rcases hr : (Relay.start given binary (host.getD (enter s.world setting).environ)).run
      (enter s.world setting) with ⟨f | r, v⟩ <;> rw [hr] at hsteady
    · exact h.steady hsteady
    · have hbase' : Relay.Names base given (host.getD s.world.environ) (enter s.world setting) := hbase
      obtain ⟨found, hfound⟩ := Relay.exists_found hbase' hr
      have hopens := Relay.start_opens (w := enter s.world setting) hp hunhindered hd hclear hbase'
        hfound
      have hr' : (Relay.start given binary (host.getD s.world.environ)).run (enter s.world setting) =
        (.ok r, v) := hr
      rw [hr'] at hopens
      obtain ⟨hleast, hsocket, -⟩ := hopens.opened r rfl
      exact h.concat hleast hsocket hsteady (hopens.listens r rfl (htouches ht))
  | write file content executable => exact h.steady (hkept nofun)
  | remove file =>
    unfold perform
    rcases run_removeFile_cases file (enter s.world setting) with ⟨f, hrun⟩ | ⟨place, v, hl, hrun, hv⟩
    · rw [run_bind_of_error hrun]
      exact h
    · rw [run_bind_of_ok hrun]
      have hl' : s.world.disk.locate file = .ok place := hl
      unfold liveAfter
      dsimp only [run_pure]
      rw [hl']
      exact Apart.removes (w := enter s.world setting) h hv

lemma Bridging.wellFormed (h : Bridging base Touching s₀ s live)
    (hd : s₀.world.disk.WellFormed) : s.world.disk.WellFormed := by
  induction h with
  | refl => exact hd
  | step setting o _ ho ih => exact wellFormed_runOne ho ih

lemma Bridging.apart (hp : Relay.Placeable base) (h : Bridging base Touching s₀ s live)
    (hd : s₀.world.disk.WellFormed) (ht : Touching) : Apart base s.world.disk live := by
  induction h with
  | refl => exact .nil base _
  | step setting o h ho ih => exact ih.runOne hp (h.wellFormed hd) ho ht

/-- Wherever a run around the sockets below a runtime directory has come to, a relay that is started
there gets the least free port, or it is not started for one of the reasons of `Opens`, or because
its program cannot be looked for. If every relay makes its socket as it starts, the relays whose
sockets have not been removed have ports of their own. -/
theorem relays_apart (hp : Relay.Placeable base) (hd : s₀.world.disk.WellFormed)
    (h : Bridging base Touching s₀ s live) :
    (∀ setting given binary host r v, Relay.Names base given host (enter s.world setting) →
      s.world.disk.Clear (Relay.socketDir base) →
      Relay.Unhindered base (enter s.world setting).faults →
      (Relay.start given binary host).run (enter s.world setting) = (r, v) →
      let looked := (Relay.binaryOr binary host).run (enter s.world setting)
      (∃ found, looked = (.ok found, enter s.world setting) ∧
        Relay.Opens base found (enter s.world setting) r v) ∨
        ∃ f, looked = (.error f, enter s.world setting) ∧ r = .error f ∧ v = enter s.world setting) ∧
    (Touching → (live.map (·.port)).Nodup ∧ ∀ r ∈ live, 50000 ≤ r.port ∧ r.port ≤ 50199) := by
  refine ⟨fun setting given binary host r v hbase hclear hunhindered hrun => ?_, fun ht => ?_⟩
  · obtain ⟨looked, hlooked⟩ := Relay.run_binaryOr binary host (enter s.world setting)
    cases looked with
    | ok found =>
      have hopens := Relay.start_opens (w := enter s.world setting) hp hunhindered (h.wellFormed hd)
        hclear hbase hlooked
      rw [hrun] at hopens
      exact .inl ⟨found, hlooked, hopens⟩
    | error f =>
      rw [Relay.run_start hbase, hlooked] at hrun
      obtain ⟨rfl, rfl⟩ := Prod.mk.inj hrun
      exact .inr ⟨f, hlooked, rfl, rfl⟩
  · have hapart := h.apart hp hd ht
    exact ⟨hapart.distinct, fun r hr => Relay.mem_ports.1 (hapart.mem r hr)⟩

lemma placeable_run : Relay.Placeable ("run" : Path) :=
  Relay.placeable_of_short ⟨by decide, by decide +kernel, by decide +kernel⟩ (by decide)
    (by decide +kernel)

/-- Two relays are started one after the other, with ports of their own. -/
theorem relays_apart_twice :
    ∃ s live, Bridging "run" True (initial []) s live ∧
      live.map (·.port) = [50000, 50001] ∧ (live.map (·.port)).Nodup := by
  let setting : Setting := { relays := [{ touches := true }] }
  let start : Operation := .startRelay (some "run") (some "socat") none
  have hfirst : Bridging "run" True (initial []) _ _ :=
    .step setting start .refl
      (.start _ (.inl rfl) (by decide +kernel) (Relay.unhindered_empty _) fun _ => rfl)
  have hsecond : Bridging "run" True (initial []) _ _ :=
    .step setting start hfirst
      (.start _ (.inl rfl) (by decide +kernel) (Relay.unhindered_empty _) fun _ => rfl)
  exact ⟨_, _, hsecond, by decide +kernel,
    ((relays_apart placeable_run Disk.wellFormed_empty hsecond).2 trivial).1⟩

/-! ### A runtime directory whose sockets have no names

The operating system takes a path of at most `Disk.pathLimit` bytes for a name. A path that goes down
and back up again is longer than it has to be, so a directory may have a path that is short enough
while those of its sockets are not.
-/

def down : Text := "run"

/-- The path that goes down to `run` and back up `n` times before it goes down for good. -/
def detour (n : Nat) : Path := ⟨.here, (List.replicate n [down, Path.back]).flatten ++ [down]⟩

lemma names_detour_succ (n : Nat) :
    (detour (n + 1)).names = down :: Path.back :: (detour n).names := by
  simp [detour, List.replicate_succ]

lemma names_detour_ne_nil (n : Nat) : (detour n).names ≠ [] := by simp [detour]

lemma text_detour_succ (n : Nat) : (detour (n + 1)).text = "run/../" ++ (detour n).text := by
  have htext : ∀ n, (detour n).text = Text.join "/" (detour n).names := fun n => by
    rw [Path.text, if_neg (by simp [detour])]
    rfl
  obtain ⟨name, rest, hnames⟩ := List.exists_cons_of_ne_nil (names_detour_ne_nil n)
  rw [htext, htext, names_detour_succ, hnames]
  rfl

lemma native_detour (n : Nat) : (detour n).Native := by
  have hnames : down.Native ∧ Path.back.Native := by
    rw [Text.native_iff, Text.native_iff]
    decide
  induction n with
  | zero => exact List.forall_mem_singleton.2 hnames.1
  | succ n ih =>
    rw [Path.Native, names_detour_succ]
    exact List.forall_mem_cons.2 ⟨hnames.1, List.forall_mem_cons.2 ⟨hnames.2, ih⟩⟩

lemma nameLength_detour (n : Nat) : Disk.nameLength (detour n).text = 7 * n + 3 := by
  induction n with
  | zero => decide +kernel
  | succ n ih =>
    have hnative := (native_detour (n + 1)).ofName?
    have hstep : Disk.nameLength ("run/../" : Text) = 7 := by decide +kernel
    rw [text_detour_succ] at hnative ⊢
    rw [Disk.nameLength_append hnative, ih, hstep]
    omega

lemma follow_detour {d : Disk} {here : Location} (hhere : d.entryAt? here = some .directory)
    (hrun : d.entryAt? (here ++ [down]) = some .directory) (n : Nat) :
    d.follow here (detour n).names = .ok (here ++ [down]) := by
  have hlength : ¬ Disk.nameLength down > Disk.nameLimit ∧
      ¬ Disk.nameLength Path.back > Disk.nameLimit := by decide +kernel
  have hdown : Disk.next here down = here ++ [down] := by
    rw [Disk.next, if_neg (by decide), if_neg (by decide)]
  have hback : Disk.next (here ++ [down]) Path.back = here := by
    rw [Disk.next, if_pos rfl, List.dropLast_concat]
  have hlast : d.follow here [down] = .ok (here ++ [down]) := by
    rw [Disk.follow, hhere]
    dsimp only
    rw [if_neg hlength.1, hdown, Disk.follow]
  induction n with
  | zero => exact hlast
  | succ n ih =>
    rw [names_detour_succ, Disk.follow, hhere]
    dsimp only
    rw [if_neg hlength.1, hdown, Disk.follow, hrun]
    dsimp only
    rw [if_neg hlength.2, hback, ih]

/-- A directory `run`, in the working directory. -/
def prepared : World := { disk := (Disk.empty.makeDirectories "run").2 }

lemma wellFormed_prepared : prepared.disk.WellFormed :=
  (Disk.quiet_makeDirectories _ _).wellFormed Disk.wellFormed_empty

lemma leads_detour {n : Nat} (hn : Disk.nameLength (detour n).text ≤ Disk.pathLimit) :
    prepared.disk.Leads (detour n) := by
  refine ⟨prepared.disk.workDir ++ [down], ?_, by decide +kernel⟩
  have hdirs : prepared.disk.entryAt? prepared.disk.workDir = some .directory ∧
      prepared.disk.entryAt? (prepared.disk.workDir ++ [down]) = some .directory := by decide +kernel
  rw [Disk.locate_of_length hn]
  exact follow_detour hdirs.1 hdirs.2 n

lemma clear_prepared (p : Path) : prepared.disk.Clear p := by
  intro q i _ hf
  obtain ⟨place, -, hp⟩ := Disk.file_eq_ok_iff.1 hf
  exact nomatch (Disk.entryAt?_empty (Disk.file_of_makeDirectories _ (Disk.file_of_makeDirectories _ hp))).2

/-- A relay is not started below a directory that is there, with no socket in it, if the sockets
would have paths that are too long. What the operating system says about the first one is passed on. -/
theorem start_detour_fails :
    let base := detour 582
    let first := Relay.socketPath base (Decimal.ofInt 50000)
    let ran := (Relay.start (some base) (some "socat") []).run prepared
    prepared.disk.WellFormed ∧ prepared.disk.Leads base ∧
      prepared.disk.Clear (Relay.socketDir base) ∧
      (Relay.binaryOr (some "socat") []).run prepared = (.ok (some "socat"), prepared) ∧
      (∀ port ∈ Relay.ports, ¬ Relay.Taken base prepared.disk port) ∧
      ran = (.error (.report (DiskError.nameTooLong.report first.text)), prepared) ∧
      ¬ Relay.Opens base (some "socat") prepared ran.1 ran.2 := by
  intro base first ran
  have hlength : Disk.nameLength base.text = 4077 := nameLength_detour 582
  have hlong : ∀ port ∈ Relay.ports,
      Failure.ofName? (Relay.socketPath base (Decimal.ofInt port)).text = none ∧
        Disk.pathLimit < Disk.nameLength (Relay.socketPath base (Decimal.ofInt port)).text := by
    intro port hport
    obtain ⟨hnative, hsame⟩ :=
      Relay.nameLength_socketPath (native_detour 582).text (names_detour_ne_nil 582) hport
    refine ⟨hnative, ?_⟩
    rw [hsame, hlength]
    decide
  have hfree : ∀ port ∈ Relay.ports, ¬ Relay.Taken base prepared.disk port := by
    rintro port hport ⟨x, hx⟩
    rw [Disk.stat_of_length (hlong port hport).2] at hx
    cases hx
  have hmem : (50000 : Int) ∈ Relay.ports := Relay.mem_ports.2 (by decide)
  have hran : ran = (.error (.report (DiskError.nameTooLong.report first.text)), prepared) := by
    obtain ⟨rest, hports⟩ : ∃ rest, Relay.ports = 50000 :: rest := ⟨_, rfl⟩
    have hlisten : (Relay.listen base "socat").run prepared =
        (.error (.report (DiskError.nameTooLong.report first.text)), prepared) := by
      have hfirst :=
        run_isThere_of_length (w := prepared) rfl (hlong 50000 hmem).1 (hlong 50000 hmem).2
      refine run_bind_of_error ?_ _
      rw [hports]
      exact run_bind_of_error hfirst _
    exact (Relay.run_start (.inl rfl)).trans hlisten
  refine ⟨wellFormed_prepared, leads_detour (by rw [hlength]; decide), clear_prepared _, rfl, hfree,
    hran, fun h => ?_⟩
  rw [hran] at h
  exact hfree _ hmem ((h.unspawned nofun).1 ⟨⟨_, rfl⟩, rfl⟩ _ hmem)

end SharedVm.Session
