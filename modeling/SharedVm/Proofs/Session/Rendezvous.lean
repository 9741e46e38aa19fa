import SharedVm.Proofs.Inspection
import SharedVm.Proofs.Session.Exclusion

/-!
# The port in a held lock file

As long as nothing is written to held files from outside, a file whose lock is held says the port
that its holder published last. So everybody who asks at a path that leads to it learns that port.
-/

namespace SharedVm

open Act

namespace Session

variable {m : Moment} {lock : Path} {path : Act Path} {i : Nat}

/-- Whoever looks at a held lock file learns what it says. -/
lemma inspect_of_held (hr : Ruled m.world m.tenures) (hl : path.run m.world = (.ok lock, m.world))
    (hn : Failure.ofName? lock.text = none) (hi : m.world.disk.file lock = .ok i)
    (hheld : m.IsHeld i) :
    ∃ w, (Election.inspect path).run m.world =
      ((LockFile.portOf (m.world.disk.content i)).map (⟨true, ·, lock⟩), w) := by
  obtain ⟨v, hrun, -⟩ := Election.inspect_faithful hr.faults hr.wellFormed hl ⟨hn, .inl ⟨i, hi⟩⟩
  rw [Disk.leadership, hi] at hrun
  dsimp only at hrun
  rw [if_neg fun hnone => (holder?_eq_none_iff hr i).1 hnone hheld] at hrun
  exact ⟨v, hrun⟩

lemma isCareful_write {s : State} {file : Path} (content : Bytes) (executable : Bool)
    (hfree : ∀ i, s.world.disk.lockFile? file = some i → s.world.disk.holder? i = none) :
    (Operation.write file content executable).IsCareful s := by
  intro j hj
  have hrun := run_writeFile_cases file content executable s.world
  unfold perform
  dsimp only
  rcases hrun with ⟨f, v, hrun, hv⟩ | ⟨i, e, ht, hrun⟩
  · rw [run_bind_of_error hrun, hv.disk.content]
  · have hne : ¬ i = j := by
      rintro rfl
      rw [ht.holder?] at hj
      cases hi : s.world.disk.lockFile? file with
      | none => exact hj (by rw [hi]; rfl)
      | some k => exact hj (by rw [hi, Option.bind_some, hfree k hi])
    rw [run_bind_of_ok hrun, run_pure]
    dsimp only
    rw [Disk.content_modifyInode, if_neg hne, ht.quiet.content]

/-- Operations that write nothing to held files from outside, and publish decimal texts. -/
def IsFaithful (s : State) (o : Operation) : Prop := o.IsOrdinary ∧ o.IsCareful s

/-- In every run in which nothing is written to held files from outside, the file whose lock is held
says the port that its holder published last. A candidate and an inspection whose paths lead to the
file learn that port, if it is a usable one, and no port otherwise. -/
theorem rendezvous {m : Moment} (hm : m.IsFresh) :
    (∀ n, Runs IsFaithful m n → ∀ i h, n.world.disk.holder? i = some h →
      ∃ t ∈ n.tenures, t.handle = h ∧
        n.world.disk.content i = Utf8.encode (Decimal.ofInt t.port) ∧
        (∀ (candidate : Value) (port : Int) (lock : Path) (path : Act Path),
          candidate.whole = .ok port → Port.isPublishable port = true →
          path.run n.world = (.ok lock, n.world) → n.Opens lock →
          n.world.disk.lockFile? lock = some i →
          ∃ w, (Election.stand candidate path).run n.world =
            (.ok (.led lock (Port.usable? t.port)), w)) ∧
        ∀ (lock : Path) (path : Act Path), path.run n.world = (.ok lock, n.world) →
          Failure.ofName? lock.text = none → n.world.disk.file lock = .ok i →
          ∃ w, (Election.inspect path).run n.world =
            (.ok ⟨true, Port.usable? t.port, lock⟩, w)) ∧
    ∀ steps : List Step,
      (∀ step ∈ steps, step.Has fun o => o.IsOrdinary ∧ ∀ s, o.IsCareful s) →
      ∃ ts, Runs IsFaithful m ⟨(runAll m.state steps).2.1, ts⟩ := by
  constructor
  · intro n hruns i h hheld
    have hord : ∀ s o, IsFaithful s o → o.IsOrdinary := fun _ _ ho => ho.1
    have hr := Runs.ruled hruns hord hm.ruled
    have hstart : Truthful m.world m.tenures := by
      rw [hm.tenures]
      exact fun _ ht => nomatch ht
    have htruth := Runs.truthful hruns hord (fun _ _ ho => ho.2) hm.ruled hstart
    obtain ⟨t, ht, hth, hti⟩ := exists_of_holder? hr hheld
    have hcontent := (htruth t ht).2 i hti.1
    have hport := LockFile.portOf_encode (htruth t ht).1
    refine ⟨t, ht, hth, hcontent, ?_, ?_⟩
    · intro candidate port lock path hc hp hl ho hi
      obtain ⟨w, hrun⟩ := stand_of_held hr hc hp hl ho hi ⟨t, ht, hti⟩
      rw [hcontent, hport] at hrun
      exact ⟨w, hrun⟩
    · intro lock path hl hn hi
      obtain ⟨w, hrun⟩ := inspect_of_held hr hl hn hi ⟨t, ht, hti⟩
      rw [hcontent, hport] at hrun
      exact ⟨w, hrun⟩
  · intro steps hsteps
    obtain ⟨ts, hruns⟩ := session_runs (fun o ho => ho.1) hsteps hm.ruled
    have hmono : ∀ a b, Move (fun _ o => o.IsOrdinary ∧ ∀ s, o.IsCareful s) a b →
        Move IsFaithful a b := fun _ _ => Move.mono fun s _ ho => ⟨ho.1, ho.2 s⟩
    exact ⟨ts, Relation.ReflTransGen.mono hmono _ _ hruns⟩

/-- A session that finds a lock file with something else in it, elects a leader there, and has the
leader publish another port. -/
def staleFile : Moment :=
  Moment.perform ⟨initial [], []⟩ none
    (.write "run/krun.lock" (Utf8.encode "99999999 stale") false)

def staleElection : Moment :=
  staleFile.perform (some "leader") (.stand (.int 33333) (some "run/krun.lock"))

def secondPort : Moment := staleElection.perform none (.publish "leader" (.int 5000))

theorem rendezvous_second_port :
    (⟨initial [], []⟩ : Moment).IsFresh ∧ secondPort.world.disk.content 0 = Utf8.encode "5000" ∧
      ∃ w, (Election.stand (.int 4444) (pure ("run/krun.lock" : Path))).run secondPort.world =
        (.ok (.led "run/krun.lock" (some 5000)), w) := by
  have hfile : Runs IsFaithful ⟨initial [], []⟩ staleFile :=
    .single (.performs none _ ⟨trivial, isCareful_write _ _ fun _ _ => rfl⟩)
  have helection : Runs IsFaithful ⟨initial [], []⟩ staleElection :=
    hfile.tail (.performs (some "leader") _ ⟨trivial, trivial⟩)
  have hsecond : Runs IsFaithful ⟨initial [], []⟩ secondPort :=
    helection.tail (.performs none _ ⟨trivial, 5000, rfl, by decide⟩)
  obtain ⟨t, ht, -, hcontent, hstand, -⟩ :=
    (rendezvous (isFresh_initial [])).1 secondPort hsecond 0 0 rfl
  have htenure : t = ⟨0, "run/krun.lock", 5000⟩ := List.mem_singleton.1 ht
  subst htenure
  exact ⟨isFresh_initial [], hcontent,
    hstand (.int 4444) 4444 "run/krun.lock" (pure ("run/krun.lock" : Path)) rfl rfl rfl ⟨_, _, rfl⟩ rfl⟩

end Session

end SharedVm
