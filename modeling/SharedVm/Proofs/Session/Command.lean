import SharedVm.Proofs.Session.Names
import SharedVm.Proofs.Session.Rendezvous

/-!
# While the command of a leader runs

A run of the command line that wins an election holds the lock from then on until its command has
ended, however it ends, and not longer. Meanwhile there may be other sessions, with leaders of their
own: everybody who asks at the lock file learns the port of the leader.
-/

namespace SharedVm

open Act

/-- The path of a tenure leads to the file that its handle is open on, which says its port. -/
structure Reigns (t : Tenure) (i : Nat) (w : World) : Prop where
  file : w.disk.file t.lock = .ok i
  openOn : w.disk.openOn? t.handle = some i
  content : w.disk.content i = Utf8.encode (Decimal.ofInt t.port)

lemma World.Elects.reigns {w v : World} {t : Tenure} {i : Nat} (h : w.Elects v t i) :
    Reigns t i v where
  file := h.file
  openOn := by rw [h.disk.openOn, Function.update_self]
  content := by rw [h.disk.content, Function.update_self]

lemma Reigns.turn {gone : Location → Prop} {w v : World} {ts us : List Tenure} {t : Tenure} {i : Nat}
    (ht : Reigns t i w) (hr : Ruled w ts) (h : Turn gone False w v ts us)
    (hg : ∀ place, gone place → w.disk.locate t.lock ≠ .ok place) (hmem : t ∈ us) :
    Reigns t i v where
  file := h.file ht.file hg
  openOn := h.openOn ht.openOn ⟨t, hmem, rfl⟩
  content := h.content hr hmem ht.openOn ht.content

namespace Session

/-- Operations that leave the file where it is that a path leads to, and write nothing to held files
from outside. -/
def LeavesLock (lock : Path) (s : State) (o : Operation) : Prop := IsFaithful s o ∧ KeepsFile lock s o

/-- A move of others: the leader goes on, its lock file stays where it is, and nothing is written
to held files from outside. -/
def Beside (t : Tenure) (m n : Moment) : Prop := Move (LeavesLock t.lock) m n ∧ t ∈ n.tenures

/-- Operations that never take a file away, nor write to a held file from outside. -/
def Operation.IsGentle (o : Operation) : Prop :=
  o.IsOrdinary ∧ (∀ s, o.IsCareful s) ∧ ∀ s place, ¬ o.Unlinks s place

/-- What candidates, those who look, and leaders do is gentle. -/
lemma Operation.isGentle_of_locks {o : Operation} (h : match o with
    | .stand .. | .inspect _ | .launch .. | .release _ none => True
    | _ => False) : o.IsGentle := by
  have hremove : ∀ file, o ≠ .remove file := by
    rintro file rfl
    exact h
  have hunlinks : ∀ s place, ¬ o.Unlinks s place := fun _ _ ⟨file, ho, _⟩ => hremove file ho
  cases o with
  | stand port lock => exact ⟨trivial, fun _ => trivial, hunlinks⟩
  | inspect lock => exact ⟨trivial, fun _ => trivial, hunlinks⟩
  | launch l preparation => exact ⟨trivial, fun _ => trivial, hunlinks⟩
  | release handle closeFails =>
    cases closeFails with
    | none => exact ⟨trivial, fun _ => trivial, hunlinks⟩
    | some r => exact h.elim
  | _ => exact h.elim

lemma Operation.IsGentle.leavesLock {o : Operation} (h : o.IsGentle) (lock : Path) (s : State) :
    LeavesLock lock s o :=
  ⟨⟨h.1, h.2.1 s⟩, h.1, fun place hu => (h.2.2 s place hu).elim⟩

section Reigning

variable {t : Tenure} {i : Nat} {m n : Moment}

lemma Beside.ruled (h : Beside t m n) (hr : Ruled m.world m.tenures) : Ruled n.world n.tenures :=
  hr.turn (h.1.turn hr.toSound fun _ _ ho => ho.1.1)

/-- The leader reigns on while others move. -/
lemma Beside.reigns (h : Beside t m n) (hr : Ruled m.world m.tenures) (ht : Reigns t i m.world) :
    Reigns t i n.world := by
  have hturn := h.1.turn hr.toSound fun _ _ ho => ho.1.1
  refine ht.turn hr (hturn.mono (fun _ => id) ?_) ?_ h.2
  · rintro ⟨o, ho, hc⟩
    exact hc ho.1.2
  · rintro place ⟨o, ho, hu⟩
    exact ho.2.2 place hu

/-- What is true of a leader for as long as its command runs. -/
structure Lasts (t : Tenure) (i : Nat) (m : Moment) : Prop where
  ruled : Ruled m.world m.tenures
  reigns : Reigns t i m.world
  mem : t ∈ m.tenures

lemma Lasts.run (h : Lasts t i m) (hruns : Relation.ReflTransGen (Beside t) m n) : Lasts t i n := by
  induction hruns with
  | refl => exact h
  | tail _ hmove ih => exact ⟨hmove.ruled ih.ruled, hmove.reigns ih.ruled ih.reigns, hmove.2⟩

namespace Lasts

variable (h : Lasts t i m) {candidate : Value} {number : Int} {path : Act Path}

include h

lemma isHeld : m.IsHeld i := ⟨t, h.mem, h.reigns.openOn, (h.ruled.settled i t.handle).2 h.reigns.openOn⟩

variable (hn : Failure.ofName? t.lock.text = none)

include hn

/-- Whoever stands for election at the lock file of a leader learns the leader's port. -/
lemma stand (hw : Decimal.write? t.port = some (Decimal.ofInt t.port))
    (hc : candidate.whole = .ok number) (hp : Port.isPublishable number = true)
    (hl : path.run m.world = (.ok t.lock, m.world)) :
    ∃ v, (Election.stand candidate path).run m.world =
      (.ok (.led t.lock (Port.usable? t.port)), v) := by
  have hopens : m.Opens t.lock :=
    ⟨_, _, LockFile.run_openAt_of_file h.ruled.faults h.ruled.wellFormed hn h.reigns.file⟩
  obtain ⟨v, hrun⟩ := stand_of_held h.ruled hc hp hl hopens (Disk.lockFile?_of_file h.reigns.file)
    h.isHeld
  rw [h.reigns.content, LockFile.portOf_encode hw] at hrun
  exact ⟨v, hrun⟩

lemma inspect (hw : Decimal.write? t.port = some (Decimal.ofInt t.port))
    (hl : path.run m.world = (.ok t.lock, m.world)) :
    ∃ v, (Election.inspect path).run m.world =
      (.ok ⟨true, Port.usable? t.port, t.lock⟩, v) := by
  obtain ⟨v, hrun⟩ := inspect_of_held h.ruled hl hn h.reigns.file h.isHeld
  rw [h.reigns.content, LockFile.portOf_encode hw] at hrun
  exact ⟨v, hrun⟩

/-- Once a leader has given up, the next candidate at its lock file is elected. -/
lemma vacated {v : World} (hv : m.world.Vacates v t.handle) (hc : candidate.whole = .ok number)
    (hp : Port.isPublishable number = true) (hl : path.run v = (.ok t.lock, v)) :
    ∃ k u, (Election.stand candidate path).run v = (.ok (.elected k t.lock number), u) := by
  have hd : v.disk.WellFormed := hv.disk.wellFormed h.ruled.wellFormed
  have hfile : v.disk.file t.lock = .ok i :=
    Disk.Keeps.file hv.entry hv.disk.workDir h.reigns.file
  have hf : v.faults = {} := hv.faults.trans h.ruled.faults
  have hopen := LockFile.run_openAt_of_file hf hd hn hfile
  refine Election.stand_of_unheld hc hp hl hf hd hopen ?_
  rw [Disk.lockFile?_of_file hfile, Option.bind_some, hv.disk.holder]
  exact if_pos h.reigns.openOn

end Lasts

end Reigning

/-! ### Sessions while the command runs -/

section Sessions

variable {t : Tenure} {s : State} {ts : List Tenure}

lemma mem_tenuresAfter (ht : t ∈ ts) (hs : ∀ name, s.handles.get? name ≠ some t.handle)
    (o : Operation) (r : Except Failure Result) : t ∈ tenuresAfter s ts o r := by
  have hwith : t ∈ tenuresWith ts r := by
    cases r with
    | error f => exact ht
    | ok r => exact List.mem_append_left _ ht
  cases o with
  | release name closeFails =>
    unfold tenuresAfter
    dsimp only
    cases hk : s.handles.get? name with
    | none => exact ht
    | some k =>
      have hne : t.handle ≠ k := fun he => hs name (by rw [hk, he])
      exact List.mem_filter.2 ⟨ht, decide_eq_true hne⟩
  | publish name port =>
    unfold tenuresAfter
    cases r with
    | error f => exact ht
    | ok r =>
      dsimp only
      cases hk : s.handles.get? name with
      | none => exact ht
      | some k =>
        cases port.whole with
        | error x => exact ht
        | ok n =>
          have hne : ¬ t.handle = k := fun he => hs name (by rw [hk, he])
          exact List.mem_map.2 ⟨t, ht, if_neg hne⟩
  | _ => exact hwith

/-- The leader goes on, and no name stands for its handle. -/
structure Unnamed (t : Tenure) (m : Moment) : Prop where
  ruled : Ruled m.world m.tenures
  mem : t ∈ m.tenures
  names : ∀ name, m.state.handles.get? name ≠ some t.handle

lemma Unnamed.beside {m n : Moment} (hm : Unnamed t m) (h : Beside t m n) : Unnamed t n where
  ruled := h.ruled hm.ruled
  mem := h.2
  names name hk := by
    rcases h.1.get? hk with hk | ⟨u, hts, hu⟩
    · exact hm.names name hk
    · -- the tenure that begins has a handle of its own
      have hd := (h.ruled hm.ruled).distinct
      rw [hts, List.map_append, List.nodup_append] at hd
      exact hd.2.2 _ (List.mem_map_of_mem hm.mem) _ List.mem_cons_self hu.symm

/-- Steps of gentle operations are moves of others: they have no name for the leader's handle, and
the leaders of their own have other handles. -/
lemma MovesBy.beside (t : Tenure) :
    MovesBy Operation.IsGentle (Beside t) (Unnamed t) fun leader => leader.handle ≠ t.handle where
  ordinary ho := ho.1
  ruled hm := hm.ruled
  keeps hm h := hm.beside h
  surrounds peers relays events notices hm :=
    ⟨.surrounds peers relays events notices, hm.mem⟩
  performs name hm ho :=
    ⟨.performs name _ (ho.leavesLock _ _), mem_tenuresAfter hm.mem hm.names _ _⟩
  starts {m} args hm := by
    refine ⟨.starts args, ?_⟩
    unfold Moment.start tenuresBegun
    dsimp only
    split
    · exact List.mem_append_left _ hm.mem
    · exact hm.mem
  running {m args leader w} hm hs := by
    have hb := CommandLine.start_begins args m.world hm.ruled.toSound
    rw [hs] at hb
    obtain ⟨i, hi⟩ := hb
    exact fun he => (hm.ruled.handles t.handle).2 ⟨t, hm.mem, rfl⟩ (he ▸ hi.fresh)
  finishes ending hm hl :=
    ⟨.finishes _ ending, List.mem_filter.2 ⟨hm.mem, decide_eq_true fun he => hl he.symm⟩⟩

end Sessions

/-- A run of the command line that wins an election holds the lock for just as long as its command
runs: until then, whatever others do meanwhile, everybody who asks at the lock file learns the
leader's port; and then, however the command has ended, the next candidate at the lock file is
elected. A run that fails holds no lock. Every session of gentle steps is something that others may
do meanwhile. -/
theorem lock_spans_command {m : Moment} (hm : m.IsFresh) (hs : m.state.Knows) :
    ∀ n, Runs (fun _ => Operation.IsOrdinary) m n → ∀ args : List Text,
      (∀ f w, (CommandLine.start args).run n.world = (.error f, w) →
        w.disk.holder? = n.world.disk.holder? ∧ w.disk.openOn? = n.world.disk.openOn?) ∧
      ∀ leader w, (CommandLine.start args).run n.world = (.ok (.running leader), w) →
        ∃ port : Nat, leader.port = port ∧
          ∀ k, Relation.ReflTransGen (Beside leader.tenure) (n.start args) k →
            (∀ (candidate : Value) (number : Int) (path : Act Path), candidate.whole = .ok number →
              Port.isPublishable number = true → path.run k.world = (.ok leader.lock, k.world) →
              ∃ v, (Election.stand candidate path).run k.world =
                (.ok (.led leader.lock (some port)), v)) ∧
            (∀ path : Act Path, path.run k.world = (.ok leader.lock, k.world) →
              ∃ v, (Election.inspect path).run k.world =
                (.ok ⟨true, some port, leader.lock⟩, v)) ∧
            (∀ ending, ∃ r v, (CommandLine.finish leader ending).run k.world = (r, v) ∧
              CommandLine.Concludes leader ending r ∧
              ∀ (candidate : Value) (number : Int) (path : Act Path),
                candidate.whole = .ok number → Port.isPublishable number = true →
                path.run v = (.ok leader.lock, v) →
                ∃ h u, (Election.stand candidate path).run v =
                  (.ok (.elected h leader.lock number), u)) ∧
            ∀ steps : List Step, (∀ step ∈ steps, step.Has Operation.IsGentle) →
              ∃ us, Relation.ReflTransGen (Beside leader.tenure) k
                ⟨(runAll k.state steps).2.1, us⟩ := by
  intro n hruns args
  have hr := Runs.ruled hruns (fun _ _ => id) hm.ruled
  have hk := Runs.knows hruns (fun _ _ => id) hm.ruled hs
  have hbegins := CommandLine.start_begins args n.world hr.toSound
  constructor
  · intro f w hstart
    rw [hstart] at hbegins
    exact ⟨hbegins.disk.holder, hbegins.disk.openOn⟩
  · intro leader w hstart
    rw [hstart] at hbegins
    obtain ⟨i, hi⟩ := hbegins
    have hworld : (n.start args).world = w := by
      unfold Moment.start
      dsimp only [Moment.world] at hstart ⊢
      rw [hstart]
    have htenures : (n.start args).tenures = n.tenures ++ [leader.tenure] := by
      unfold Moment.start
      dsimp only [Moment.world] at hstart ⊢
      rw [hstart]
      rfl
    have hmem : leader.tenure ∈ (n.start args).tenures := by
      rw [htenures]
      exact List.mem_append_right _ List.mem_cons_self
    have hruled : Ruled (n.start args).world (n.start args).tenures := by
      rw [hworld, htenures]
      exact hr.of_elects hi
    have hlasts : Lasts leader.tenure i (n.start args) := ⟨hruled, hworld ▸ hi.reigns, hmem⟩
    -- all handles that have names were open before the election
    have hunnamed : Unnamed leader.tenure (n.start args) :=
      ⟨hruled, hmem, fun name hh => absurd (hk name _ hh) (Nat.not_lt.2 hi.new)⟩
    obtain ⟨port, hport, husable⟩ := Port.exists_usable? hi.usable
    refine ⟨port, hport, fun k hbeside => ?_⟩
    have hl := hlasts.run hbeside
    refine ⟨?_, ?_, ?_, ?_⟩
    · intro candidate number path hc hp hpath
      rw [← husable]
      exact hl.stand hi.name hi.written hc hp hpath
    · intro path hpath
      rw [← husable]
      exact hl.inspect hi.name hi.written hpath
    · intro ending
      obtain ⟨r, hconcludes, hrun⟩ := run_finish hl.ruled.toSound leader ending
      refine ⟨r, _, hrun, hconcludes, ?_⟩
      intro candidate number path hc hp hpath
      exact hl.vacated hi.name (vacates_release hl.ruled.toSound leader.handle).2 hc hp hpath
    · intro steps hsteps
      exact (MovesBy.beside leader.tenure).session hsteps
        ((MovesBy.beside leader.tenure).keeps_run hunnamed hbeside)

/-- A run of the command line that wins an election, and another candidate that wins one elsewhere
and gives up while the command of the first runs. -/
def aloneRun : Moment :=
  Moment.start ⟨initial [("XDG_RUNTIME_DIR", .text "run")], []⟩ ["launch", "c"]

def otherSteps : List Step :=
  [.one { name := some "b" } (.stand (.int 4444) (some "other.lock")), .one {} (.release "b" none)]

def interrupted : Report := ⟨.interrupt, none, [], none⟩

theorem lock_spans_command_interrupted :
    ∃ (leader : Leader (Option Override)) (v : World),
      (∃ u, (Election.stand (.int 5555) (pure ("run/krun.lock" : Path))).run
        (runAll aloneRun.state otherSteps).2.1.world = (.ok (.led "run/krun.lock" (some 3333)), u)) ∧
      (CommandLine.finish leader (.failed interrupted)).run
        (runAll aloneRun.state otherSteps).2.1.world = (.error (.report interrupted), v) ∧
      ∃ h u, (Election.stand (.int 5555) (pure ("run/krun.lock" : Path))).run v =
        (.ok (.elected h "run/krun.lock" 5555), u) := by
  let env : Environ := [("XDG_RUNTIME_DIR", .text "run")]
  have hstart : ∃ leader w, (CommandLine.start ["launch", "c"]).run (initial env).world =
      (.ok (.running leader), w) ∧ leader.lock = "run/krun.lock" ∧ leader.port = 3333 :=
    ⟨_, _, rfl, rfl, rfl⟩
  obtain ⟨leader, w, hrun, hlock, hport⟩ := hstart
  obtain ⟨port, hp, hlasts⟩ :=
    (lock_spans_command (isFresh_initial env) (knows_initial env) _ .refl ["launch", "c"]).2 leader w
      hrun
  obtain rfl : port = 3333 := by omega
  have hsteps : ∀ step ∈ otherSteps, step.Has Operation.IsGentle := by
    intro step hstep
    simp only [otherSteps, List.mem_cons, List.not_mem_nil, or_false] at hstep
    rcases hstep with rfl | rfl
    · exact .one _ _ rfl (Operation.isGentle_of_locks trivial)
    · exact .one _ _ rfl (Operation.isGentle_of_locks trivial)
  obtain ⟨us, hbeside⟩ := (hlasts aloneRun .refl).2.2.2 otherSteps hsteps
  obtain ⟨hbusy, -, hends, -⟩ := hlasts _ hbeside
  obtain ⟨r, v, hfinish, hconcludes, hnext⟩ := hends (.failed interrupted)
  obtain rfl : r = .error (.report interrupted) := by
    cases hconcludes with
    | missing h => cases h
    | failed h => rfl
  rw [hlock] at hbusy hnext
  exact ⟨leader, v, hbusy (.int 5555) 5555 (pure ("run/krun.lock" : Path)) rfl rfl rfl, hfinish,
    hnext (.int 5555) 5555 (pure ("run/krun.lock" : Path)) rfl rfl rfl⟩

end Session

end SharedVm
