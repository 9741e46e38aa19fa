import SharedVm.Proofs.Disk.Way
import SharedVm.Proofs.Grows
import SharedVm.Proofs.LockFile
import SharedVm.Proofs.Native

/-!
# The port of a relay

A relay gets the least port whose socket is not there, and it is started only once that port is
found and the directory for its socket is there.
-/

namespace SharedVm

open Act

section Asking

variable {p : Path} {w : World} (hs : w.faults.stat p = none)

include hs

lemma Act.run_isThere_of_nameable (hn : p.Nameable) :
    w.disk.IsThere p ∧ (isThere p).run w = (.ok true, w) ∨
      ¬ w.disk.IsThere p ∧ (isThere p).run w = (.ok false, w) := by
  rw [run_isThere, hn.native, hs]
  unfold Disk.IsThere
  cases hd : w.disk.stat p with
  | ok e => exact .inl ⟨⟨e, rfl⟩, rfl⟩
  | error x =>
    refine .inr ⟨by simp, ?_⟩
    cases x with
    | nameTooLong => exact absurd hd (Disk.stat_ne_nameTooLong hn)
    | _ => rfl

lemma Act.run_isThere_of_length (hn : Failure.ofName? p.text = none)
    (h : Disk.pathLimit < Disk.nameLength p.text) :
    (isThere p).run w = (.error (.report (DiskError.nameTooLong.report p.text)), w) := by
  rw [run_isThere, hn, hs]
  dsimp only
  rw [Disk.stat_of_length h]

end Asking

namespace Relay

variable {base : Path} {w : World}

/-! ### Sockets -/

lemma parent_socketPath (base : Path) (port : Int) :
    (socketPath base (Decimal.ofInt port)).parent = socketDir base := by
  have hstart : (socketPath base (Decimal.ofInt port)).start = (socketDir base).start := rfl
  rw [Path.parent, hstart, names_socketPath, List.dropLast_concat]

/-- Each socket below the directory has a path that the operating system takes for a name. -/
def Placeable (base : Path) : Prop :=
  ∀ port ∈ ports, (socketPath base (Decimal.ofInt port)).Nameable

/-- Neither asking for a socket below the directory nor making the directory for them fails of
itself. -/
structure Unhindered (base : Path) (faults : Faults) : Prop where
  stat : ∀ port ∈ ports, faults.stat (socketPath base (Decimal.ofInt port)) = none
  making : faults.making (socketDir base) = none

lemma unhindered_empty (base : Path) : Unhindered base {} := ⟨fun _ _ => rfl, rfl⟩

/-- There is something at the path of the port's socket. -/
def Taken (base : Path) (d : Disk) (port : Int) : Prop :=
  d.IsThere (socketPath base (Decimal.ofInt port))

/-- The port is the least one whose socket is not there. -/
structure LeastFree (base : Path) (d : Disk) (port : Int) : Prop where
  mem : port ∈ ports
  free : ¬ Taken base d port
  least : ∀ other ∈ ports, other < port → Taken base d other

lemma pairwise_ports : ports.Pairwise (· < ·) := by
  unfold ports
  rw [List.pairwise_map]
  exact List.pairwise_lt_range.imp fun h => by omega

lemma mem_ports {port : Int} : port ∈ ports ↔ 50000 ≤ port ∧ port ≤ 50199 := by
  unfold ports
  rw [List.mem_map]
  constructor
  · rintro ⟨i, hi, rfl⟩
    have hlt := List.mem_range.1 hi
    omega
  · intro h
    refine ⟨(port - 50000).toNat, List.mem_range.2 ?_, ?_⟩ <;> omega

lemma LeastFree.of_append {d : Disk} {front rest : List Int} {port : Int}
    (hports : ports = front ++ port :: rest) (hfront : ∀ other ∈ front, Taken base d other)
    (hfree : ¬ Taken base d port) : LeastFree base d port where
  mem := by simp [hports]
  free := hfree
  least other hother hlt := by
    have hsorted := pairwise_ports
    rw [hports, List.pairwise_append, List.pairwise_cons] at hsorted
    rw [hports] at hother
    rcases List.mem_append.1 hother with hm | hm
    · exact hfront other hm
    · rcases List.mem_cons.1 hm with rfl | hm
      · omega
      · have hgt := hsorted.2.1.1 other hm
        omega

/-! ### Short runtime directories -/

lemma names_socketDir (base : Path) :
    (socketDir base).names = (base.names ++ [("krun" : Text)]) ++ [("socket" : Text)] := by
  have hnames : Path.namesOf "krun" = [("krun" : Text)] ∧ Path.namesOf "socket" = [("socket" : Text)] := by
    decide
  change (base.names ++ Path.namesOf "krun") ++ Path.namesOf "socket" = _
  rw [hnames.1, hnames.2]

lemma text_socketPath (h : base.names ≠ []) (port : Int) :
    (socketPath base (Decimal.ofInt port)).text =
      base.text ++ ("/krun/socket/" ++ socketName port) := by
  have hpath : socketPath base (Decimal.ofInt port) =
      ⟨base.start, (base.names ++ [("krun" : Text)]) ++ [("socket" : Text)] ++ [socketName port]⟩ := by
    have hnames := names_socketPath base port
    rw [names_socketDir] at hnames
    exact congrArg (Path.mk base.start) hnames
  have hbase : (⟨base.start, base.names⟩ : Path) = base := rfl
  rw [hpath, Path.text_concat _ (by simp), Path.text_concat _ (by simp), Path.text_concat _ h, hbase]
  simp only [List.append_assoc]
  rfl

lemma nameLength_socketName : ∀ port ∈ ports, Disk.nameLength (socketName port) = 10 := by
  decide +kernel

/-- A socket has 23 bytes more in its path than the runtime directory. -/
lemma nameLength_socketPath (hn : base.text.Native) (h : base.names ≠ []) {port : Int}
    (hport : port ∈ ports) :
    Failure.ofName? (socketPath base (Decimal.ofInt port)).text = none ∧
      Disk.nameLength (socketPath base (Decimal.ofInt port)).text = Disk.nameLength base.text + 23 := by
  have hbelow : Text.Native ("/krun/socket/" ++ socketName port) := by
    refine .append ?_ (native_socketName port)
    rw [Text.native_iff]
    decide
  have hnative := Text.native_iff.1 (hn.append hbelow)
  have hlength : Disk.nameLength ("/krun/socket/" ++ socketName port) = 23 := by
    rw [Disk.nameLength_append (Text.native_iff.1 hbelow), nameLength_socketName port hport]
    decide +kernel
  rw [text_socketPath h]
  exact ⟨hnative, by rw [Disk.nameLength_append hnative, hlength]⟩

/-- Sockets can be made below a runtime directory whose path is not too long for them. -/
lemma placeable_of_short (hn : base.Nameable) (h : base.names ≠ [])
    (hlength : Disk.nameLength base.text + 23 ≤ Disk.pathLimit) : Placeable base := by
  intro port hport
  obtain ⟨hnative, hsame⟩ := nameLength_socketPath (Text.native_iff.2 hn.native) h hport
  refine ⟨hnative, hsame ▸ hlength, ?_⟩
  rw [names_socketPath, names_socketDir]
  refine List.forall_mem_append.2 ⟨List.forall_mem_append.2 ⟨List.forall_mem_append.2
    ⟨hn.names, by decide +kernel⟩, by decide +kernel⟩, List.forall_mem_singleton.2 ?_⟩
  rw [nameLength_socketName port hport]
  decide

/-! ### Looking for a port -/

lemma run_freePort {list : List Int}
    (hn : ∀ port ∈ list, (socketPath base (Decimal.ofInt port)).Nameable)
    (hs : ∀ port ∈ list, w.faults.stat (socketPath base (Decimal.ofInt port)) = none) :
    (∀ port ∈ list, Taken base w.disk port) ∧ (freePort Decimal.ofInt base list).run w =
        (.error (.misconfigured (.relayPortsUsedUp (socketDir base))), w) ∨
      ∃ front port rest, list = front ++ port :: rest ∧ (∀ other ∈ front, Taken base w.disk other) ∧
        ¬ Taken base w.disk port ∧ (freePort Decimal.ofInt base list).run w = (.ok port, w) := by
  induction list with
  | nil => exact .inl ⟨fun _ => nofun, rfl⟩
  | cons port rest ih =>
    unfold freePort
    rcases run_isThere_of_nameable (hs port List.mem_cons_self) (hn port List.mem_cons_self) with
      ⟨ht, hrun⟩ | ⟨ht, hrun⟩
    · rw [run_bind_of_ok hrun]
      rcases ih (fun p hp => hn p (List.mem_cons_of_mem _ hp))
          fun p hp => hs p (List.mem_cons_of_mem _ hp) with
        ⟨hall, hrest⟩ | ⟨front, free, more, rfl, hfront, hfree, hrest⟩
      · exact .inl ⟨List.forall_mem_cons.2 ⟨ht, hall⟩, hrest⟩
      · exact .inr ⟨port :: front, free, more, rfl, List.forall_mem_cons.2 ⟨ht, hfront⟩, hfree, hrest⟩
    · rw [run_bind_of_ok hrun]
      exact .inr ⟨[], port, rest, rfl, fun _ => nofun, ht, rfl⟩

/-! ### Starting a relay -/

/-- The world in which a relay for the port is started: the directory for its socket has been made. -/
def paved (base : Path) (w : World) : World :=
  { w with disk := (w.disk.makeDirectories (socketDir base)).2 }

/-- What becomes of the start of a relay once a port has been found. -/
def born (base : Path) (binary : Text) (port : Int) (w : World) : Except Failure Relay × World :=
  let socket := socketPath base (Decimal.ofInt port)
  match w.relay.spawnFails with
  | some r =>
    (.error (if r.isSystem then .misconfigured (.relayNotStarted binary r) else .report r),
      (paved base w).spawned (argv binary socket))
  | none =>
    let v := (paved base w).listening binary socket
    (.ok ⟨w.relay, port, socket⟩,
      { v with notices := v.notices ++ [.relayListening w.relay.pid socket] })

lemma run_makeDirectories_of_clear {p : Path} (hd : w.disk.WellFormed) (hn : p.Nameable)
    (hc : w.disk.Clear p) (hm : w.faults.making p = none) :
    (makeDirectories p).run w = (.ok (), { w with disk := (w.disk.makeDirectories p).2 }) := by
  unfold makeDirectories
  rw [run_bind_of_ok (run_checkPath_of_name hn.native w), run_bind_of_ok (run_get w), hm]
  dsimp only
  rw [run_bind_of_ok (run_disk w), (Disk.makeDirectories_of_clear hd hn hc).1]
  rfl

lemma nameable_socketDir (hp : Placeable base) : (socketDir base).Nameable := by
  rw [← parent_socketPath base 50000]
  exact (hp 50000 (mem_ports.2 (by decide))).parent

lemma run_listen (hp : Placeable base) (hu : Unhindered base w.faults) (hd : w.disk.WellFormed)
    (hc : w.disk.Clear (socketDir base)) (binary : Text) :
    (∀ port ∈ ports, Taken base w.disk port) ∧ (listen base binary).run w =
        (.error (.misconfigured (.relayPortsUsedUp (socketDir base))), w) ∨
      ∃ port, LeastFree base w.disk port ∧ (listen base binary).run w = born base binary port w := by
  unfold listen
  rcases run_freePort hp hu.stat with
    ⟨hall, hrun⟩ | ⟨front, port, rest, hports, hfront, hfree, hrun⟩
  · exact .inl ⟨hall, run_bind_of_error hrun _⟩
  · refine .inr ⟨port, .of_append hports hfront hfree, ?_⟩
    have hmake := run_makeDirectories_of_clear hd (nameable_socketDir hp) hc hu.making
    rw [run_bind_of_ok hrun]
    dsimp only
    rw [parent_socketPath, run_bind_of_ok hmake, run_bind, orReport]
    have hspawn := run_spawn binary (socketPath base (Decimal.ofInt port)) (paved base w)
    have hrelay : (paved base w).relay = w.relay := rfl
    rw [hrelay] at hspawn
    unfold born
    cases hs : w.relay.spawnFails with
    | some r =>
      rw [hs] at hspawn
      rw [← paved, run_tryCatch_of_error hspawn]
      dsimp only
      by_cases hr : r.isSystem = true
      · rw [if_pos hr, if_pos hr]
        rfl
      · rw [if_neg hr, if_neg hr]
        rfl
    | none =>
      rw [hs] at hspawn
      rw [← paved, run_tryCatch_of_ok hspawn]
      rfl

/-- The call is given the runtime directory, or its host names it. -/
def Names (base : Path) (given : Option Path) (host : Environ) (w : World) : Prop :=
  given = some base ∨ given = none ∧ host.runtimeDir w.environ w.system.users = .ok base

lemma run_start {given : Option Path} {binary : Option Text} {host : Environ}
    (hbase : Names base given host w) :
    (start given binary host).run w = match (binaryOr binary host).run w with
      | (.ok none, v) => (.error (.misconfigured .relayNotFound), v)
      | (.ok (some binary), v) => (listen base binary).run v
      | (.error f, v) => (.error f, v) := by
  unfold start
  extract_lets below
  have hbelow : (below base).run w = match (binaryOr binary host).run w with
      | (.ok none, v) => (.error (.misconfigured .relayNotFound), v)
      | (.ok (some binary), v) => (listen base binary).run v
      | (.error f, v) => (.error f, v) := by
    refine (run_bind _ _ _).trans ?_
    rcases (binaryOr binary host).run w with ⟨f | _ | binary, v⟩ <;> rfl
  rcases hbase with rfl | ⟨rfl, hdir⟩
  · exact hbelow
  · refine (run_bind_of_ok (run_environ w) _).trans ((run_bind_of_ok (run_users w) _).trans ?_)
    rw [hdir]
    exact hbelow

lemma run_binaryOr (binary : Option Text) (host : Environ) (w : World) :
    ∃ r, (binaryOr binary host).run w = (r, w) := by
  have hfind : ∃ r, (Program.find host program).run w = (r, w) := by
    unfold Program.find
    rw [run_bind_of_ok (run_disk w), run_bind_of_ok (run_environ w), run_ofExcept]
    exact ⟨_, rfl⟩
  unfold binaryOr
  split
  · split
    · exact hfind
    · exact ⟨_, rfl⟩
  · exact hfind

/-- A relay is started only if its program was looked for without failure. -/
lemma exists_found {given : Option Path} {binary : Option Text} {host : Environ} {v : World}
    {relay : Relay} (hbase : Names base given host w)
    (h : (start given binary host).run w = (.ok relay, v)) :
    ∃ found, (binaryOr binary host).run w = (.ok found, w) := by
  obtain ⟨r, hr⟩ := run_binaryOr binary host w
  cases r with
  | ok found => exact ⟨found, hr⟩
  | error f =>
    rw [run_start hbase, hr] at h
    cases h

lemma isThere_of_touch {d : Disk} {p : Path} {place : Location} (hl : d.locate p = .ok place) :
    (match d.touch p with
      | .ok (_, e) => e
      | .error _ => d : Disk).IsThere p := by
  cases ht : d.touch p with
  | ok found =>
    obtain ⟨place', hl', hfile, hquiet, -⟩ := Disk.touch_cases (i := found.1) (e := found.2) ht
    exact Disk.isThere_iff.2 ⟨place', _, hquiet.entry.locate hquiet.workDir hl', hfile⟩
  | error x =>
    unfold Disk.touch at ht
    rw [hl] at ht
    refine Disk.isThere_iff.2 ⟨place, .directory, hl, ?_⟩
    cases hp : d.entryAt? place with
    | none => simp [hp, bind, Except.bind] at ht
    | some entry => cases entry <;> simp [hp, bind, Except.bind] at ht ⊢

/-- What a call that starts a relay comes to, by the relay program that was found for it. -/
structure Opens (base : Path) (found : Option Text) (w : World) (r : Except Failure Relay)
    (v : World) : Prop where
  opened : ∀ relay, r = .ok relay → LeastFree base w.disk relay.port ∧
    relay.socket = socketPath base (Decimal.ofInt relay.port) ∧
    ∃ binary, found = some binary ∧
      v.events = w.events ++ [.spawn [binary, "unix-l:" ++ relay.socket.text, "-,raw,echo=0"]]
  /-- A process that makes its socket as it starts has it there once it is started. -/
  listens : ∀ relay, r = .ok relay → w.relay.touches = true → Taken base v.disk relay.port
  succeeds : found ≠ none → (∃ port ∈ ports, ¬ Taken base w.disk port) →
    w.relay.spawnFails = none → ∃ relay, r = .ok relay
  unspawned : found ≠ none →
    ((∃ f, r = .error f) ∧ v.events = w.events ↔ ∀ port ∈ ports, Taken base w.disk port)
  usedUp : found ≠ none → (∀ port ∈ ports, Taken base w.disk port) →
    r = .error (.misconfigured (.relayPortsUsedUp (socketDir base))) ∧ v = w
  unfound : found = none → r = .error (.misconfigured .relayNotFound) ∧ v = w
  unborn : ∀ binary cause, found = some binary → (∃ port ∈ ports, ¬ Taken base w.disk port) →
    w.relay.spawnFails = some cause → cause.isSystem = true →
    r = .error (.misconfigured (.relayNotStarted binary cause)) ∧
      Disk.Paves (socketDir base) w.disk v.disk ∧ v.disk.Leads (socketDir base)

lemma born_eq_ok {binary : Text} {port : Int} {relay : Relay}
    (h : (born base binary port w).1 = .ok relay) :
    w.relay.spawnFails = none ∧ relay.port = port ∧
      relay.socket = socketPath base (Decimal.ofInt port) := by
  unfold born at h
  cases hs : w.relay.spawnFails with
  | some cause =>
    rw [hs] at h
    cases h
  | none =>
    rw [hs] at h
    cases h
    exact ⟨rfl, rfl, rfl⟩

/-- The directory for sockets has been made, so there is room for the socket of a relay in it. -/
lemma taken_born (hp : Placeable base) (hd : w.disk.WellFormed) (hc : w.disk.Clear (socketDir base))
    {port : Int} (hport : port ∈ ports) (binary : Text) (hs : w.relay.spawnFails = none)
    (ht : w.relay.touches = true) : Taken base (born base binary port w).2.disk port := by
  obtain ⟨-, place, hl, hdir⟩ := Disk.makeDirectories_of_clear hd (nameable_socketDir hp) hc
  rw [← parent_socketPath base port] at hl
  obtain ⟨place', hl'⟩ := Disk.exists_locate_of_parent (hp port hport)
    (by rwa [parent_socketPath] at hl ⊢) hdir
  have hrelay : (paved base w).relay = w.relay := rfl
  unfold born Taken
  rw [hs]
  unfold World.listening
  dsimp only
  rw [hrelay, if_pos ht]
  exact isThere_of_touch hl'

lemma opens_born (hp : Placeable base) (hd : w.disk.WellFormed) (hc : w.disk.Clear (socketDir base))
    {port : Int} (hport : LeastFree base w.disk port) (binary : Text) :
    Opens base (some binary) w (born base binary port w).1 (born base binary port w).2 := by
  have hsome : ¬ ∀ port ∈ ports, Taken base w.disk port := fun hall =>
    hport.free (hall port hport.mem)
  have hevents : (born base binary port w).2.events = w.events ++
      [.spawn (argv binary (socketPath base (Decimal.ofInt port)))] := by
    unfold born
    cases w.relay.spawnFails <;> rfl
  constructor
  case opened =>
    intro relay hr
    obtain ⟨-, hrelay, hsocket⟩ := born_eq_ok hr
    rw [hrelay, hsocket]
    exact ⟨hport, rfl, binary, rfl, hevents⟩
  case listens =>
    intro relay hr ht
    obtain ⟨hs, hrelay, -⟩ := born_eq_ok hr
    rw [hrelay]
    exact taken_born hp hd hc hport.mem binary hs ht
  case succeeds =>
    intro _ _ hs
    unfold born
    rw [hs]
    exact ⟨_, rfl⟩
  case unspawned =>
    refine fun _ => iff_of_false ?_ hsome
    rw [hevents]
    simp
  case usedUp => exact fun _ hall => absurd hall hsome
  case unfound =>
    intro h
    cases h
  case unborn =>
    intro binary' cause hb _ hs hsys
    cases hb
    unfold born
    rw [hs]
    dsimp only
    rw [if_pos hsys]
    exact ⟨rfl, Disk.paves_makeDirectories w.disk (socketDir base),
      (Disk.makeDirectories_of_clear hd (nameable_socketDir hp) hc).2⟩

/-- A call that starts a relay below a runtime directory with only directories on the way to its
sockets gets the least port whose socket is not there, or fails and says why. -/
lemma start_opens (hp : Placeable base) (hu : Unhindered base w.faults) (hd : w.disk.WellFormed)
    (hc : w.disk.Clear (socketDir base)) {given : Option Path} {binary found : Option Text}
    {host : Environ} (hbase : Names base given host w)
    (hfound : (binaryOr binary host).run w = (.ok found, w)) :
    Opens base found w ((start given binary host).run w).1 ((start given binary host).run w).2 := by
  rw [run_start hbase, hfound]
  cases found with
  | none =>
    exact ⟨fun _ => nofun, fun _ => nofun, fun h => absurd rfl h, fun h => absurd rfl h,
      fun h => absurd rfl h, fun _ => ⟨rfl, rfl⟩, fun _ _ => nofun⟩
  | some binary =>
    dsimp only
    rcases run_listen hp hu hd hc binary with ⟨hall, hrun⟩ | ⟨port, hport, hrun⟩
    · rw [hrun]
      have hnone : ¬ ∃ port ∈ ports, ¬ Taken base w.disk port := fun ⟨port, hm, hfree⟩ =>
        hfree (hall port hm)
      exact ⟨fun _ => nofun, fun _ => nofun, fun _ h => absurd h hnone,
        fun _ => iff_of_true ⟨⟨_, rfl⟩, rfl⟩ hall, fun _ _ => ⟨rfl, rfl⟩, nofun,
        fun _ _ _ h => absurd h hnone⟩
    · rw [hrun]
      exact opens_born hp hd hc hport binary

end Relay

end SharedVm
