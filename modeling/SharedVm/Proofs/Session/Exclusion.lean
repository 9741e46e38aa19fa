import SharedVm.Proofs.Session.Run

/-!
# At most one leader for each lock

In every run that starts without locks, each tenure holds the lock of the file that its handle is
open on, and no file has two of them. A candidate is elected just when nobody holds the lock of the
file that its path leads to once the directories above it have been made.
-/

namespace SharedVm.Session

open Act

namespace Moment

/-- A tenure holds the lock of the file that its handle is open on. -/
def Holds (m : Moment) (t : Tenure) (i : Nat) : Prop :=
  m.world.disk.openOn? t.handle = some i ∧ m.world.disk.holder? i = some t.handle

def IsHeld (m : Moment) (i : Nat) : Prop := ∃ t ∈ m.tenures, m.Holds t i

/-- A lock file can be opened at a path. -/
def Opens (m : Moment) (lock : Path) : Prop :=
  ∃ h w, (LockFile.openAt lock).run m.world = (.ok h, w)

end Moment

section Ruled

variable {m : Moment} (hr : Ruled m.world m.tenures)

include hr

lemma exists_holds {t : Tenure} (ht : t ∈ m.tenures) : ∃ i, m.Holds t i := by
  obtain ⟨i, hi⟩ := Option.ne_none_iff_exists'.1 ((hr.handles t.handle).2 ⟨t, ht, rfl⟩)
  exact ⟨i, hi, (hr.settled i t.handle).2 hi⟩

lemma eq_of_holds {t u : Tenure} {i : Nat} (ht : t ∈ m.tenures) (hu : u ∈ m.tenures)
    (hti : m.Holds t i) (hui : m.Holds u i) : t = u := by
  have hh : t.handle = u.handle := Option.some.inj (hti.2.symm.trans hui.2)
  exact List.inj_on_of_nodup_map hr.distinct ht hu hh

lemma exists_of_holder? {i h : Nat} (hh : m.world.disk.holder? i = some h) :
    ∃ t ∈ m.tenures, t.handle = h ∧ m.Holds t i := by
  have hopen := (hr.settled i h).1 hh
  obtain ⟨t, ht, rfl⟩ := (hr.handles h).1 (by rw [hopen]; exact Option.some_ne_none i)
  exact ⟨t, ht, rfl, hopen, hh⟩

lemma holder?_eq_none_iff (i : Nat) : m.world.disk.holder? i = none ↔ ¬ m.IsHeld i := by
  constructor
  · rintro hn ⟨t, -, ht⟩
    rw [ht.2] at hn
    cases hn
  · intro hn
    rw [Option.eq_none_iff_forall_ne_some]
    intro h hh
    obtain ⟨t, ht, -, hi⟩ := exists_of_holder? hr hh
    exact hn ⟨t, ht, hi⟩

section Stand

variable {candidate : Value} {port : Int} {lock : Path} {path : Act Path}
  (hc : candidate.whole = .ok port) (hp : Port.isPublishable port = true)
  (hl : path.run m.world = (.ok lock, m.world)) (ho : m.Opens lock)

include hc hp hl ho

lemma stand_of_free (hfree : ∀ i, m.world.disk.lockFile? lock = some i → ¬ m.IsHeld i) :
    ∃ h w, (Election.stand candidate path).run m.world = (.ok (.elected h lock port), w) := by
  obtain ⟨h, v, hrun⟩ := ho
  refine Election.stand_of_unheld hc hp hl hr.faults hr.wellFormed hrun ?_
  cases hi : m.world.disk.lockFile? lock with
  | none => rfl
  | some j => exact (holder?_eq_none_iff hr j).2 (hfree j hi)

lemma stand_of_held {i : Nat} (hi : m.world.disk.lockFile? lock = some i) (hheld : m.IsHeld i) :
    ∃ w, (Election.stand candidate path).run m.world =
      ((LockFile.portOf (m.world.disk.content i)).map (.led lock), w) := by
  obtain ⟨h, v, hrun⟩ := ho
  exact Election.stand_of_held hc hp hl hr.faults hr.wellFormed hrun hi
    fun hn => (holder?_eq_none_iff hr i).1 hn hheld

/-- A candidate is elected just when nobody holds the lock of the file that its path leads to. -/
lemma stand_elected_iff :
    (∃ h w, (Election.stand candidate path).run m.world = (.ok (.elected h lock port), w)) ↔
      ∀ i, m.world.disk.lockFile? lock = some i → ¬ m.IsHeld i := by
  refine ⟨?_, stand_of_free hr hc hp hl ho⟩
  rintro ⟨h, w, hrun⟩ i hi hheld
  obtain ⟨v, hled⟩ := stand_of_held hr hc hp hl ho hi hheld
  rw [hrun] at hled
  cases hport : LockFile.portOf (m.world.disk.content i) with
  | error f =>
    rw [hport] at hled
    cases hled
  | ok found =>
    rw [hport] at hled
    cases hled

end Stand

end Ruled

/-- Operations that leave the file where it is that a path leads to. -/
def KeepsFile (lock : Path) (s : State) (o : Operation) : Prop :=
  o.IsOrdinary ∧ ∀ place, o.Unlinks s place → s.world.disk.locate lock ≠ .ok place

/-- In every run each file has at most one leader: every tenure holds the lock of the file that its
handle is open on, no two hold the same, and whoever holds a lock has a tenure. A candidate whose
lock file can be opened is elected if nobody holds the lock of the file its path leads to, and led
otherwise; that is the file at the path, if the path does not lead back. Where no file is taken away,
a path has at most one leader. Every session of ordinary steps is such a run. -/
theorem mutual_exclusion {m : Moment} (hm : m.IsFresh) :
    (∀ n, Runs (fun _ => Operation.IsOrdinary) m n →
      (∀ t ∈ n.tenures, ∃ i, n.Holds t i) ∧
      (∀ i, ∀ t ∈ n.tenures, ∀ u ∈ n.tenures, n.Holds t i → n.Holds u i → t = u) ∧
      (∀ i h, n.world.disk.holder? i = some h → ∃ t ∈ n.tenures, t.handle = h ∧ n.Holds t i) ∧
      (∀ (candidate : Value) (port : Int) (lock : Path) (path : Act Path),
        candidate.whole = .ok port → Port.isPublishable port = true →
        path.run n.world = (.ok lock, n.world) → n.Opens lock →
        ((∃ h w, (Election.stand candidate path).run n.world = (.ok (.elected h lock port), w)) ↔
          ∀ i, n.world.disk.lockFile? lock = some i → ¬ n.IsHeld i) ∧
        ∀ i found, n.world.disk.lockFile? lock = some i → n.IsHeld i →
          LockFile.portOf (n.world.disk.content i) = .ok found →
          ∃ w, (Election.stand candidate path).run n.world = (.ok (.led lock found), w)) ∧
      ∀ lock : Path, (∀ name ∈ lock.names, name ≠ Path.back) →
        n.world.disk.lockFile? lock = (n.world.disk.file lock).toOption) ∧
    (∀ lock n, Runs (KeepsFile lock) m n →
      ∀ t ∈ n.tenures, ∀ u ∈ n.tenures, t.lock = lock → u.lock = lock → t = u) ∧
    ∀ steps : List Step, (∀ step ∈ steps, step.Has Operation.IsOrdinary) →
      ∃ ts, Runs (fun _ => Operation.IsOrdinary) m ⟨(runAll m.state steps).2.1, ts⟩ := by
  refine ⟨?_, ?_, ?_⟩
  · intro n h
    have hr := Runs.ruled h (fun _ _ => id) hm.ruled
    refine ⟨fun t => exists_holds hr, fun i t ht u hu => eq_of_holds hr ht hu,
      fun i k => exists_of_holder? hr, ?_, fun lock hn => Disk.lockFile?_eq_file hr.wellFormed hn⟩
    intro candidate port lock path hc hp hl ho
    constructor
    · exact stand_elected_iff hr hc hp hl ho
    · intro i found hi hheld hfound
      obtain ⟨w, hrun⟩ := stand_of_held hr hc hp hl ho hi hheld
      rw [hfound] at hrun
      exact ⟨w, hrun⟩
  · intro lock n h t ht u hu htl hul
    have hord : ∀ s o, KeepsFile lock s o → o.IsOrdinary := fun _ _ ho => ho.1
    have hr := Runs.ruled h hord hm.ruled
    have hs := Runs.seated h hord (p := lock) (fun _ _ ho => ho.2) hm.ruled
      (by rw [hm.tenures]; exact fun _ ht => nomatch ht)
    obtain ⟨i, hi, hti⟩ := hs t ht htl
    obtain ⟨j, hj, huj⟩ := hs u hu hul
    obtain rfl : i = j := Except.ok.inj (hi.symm.trans hj)
    exact eq_of_holds hr ht hu ⟨hti, (hr.settled i _).2 hti⟩ ⟨huj, (hr.settled i _).2 huj⟩
  · intro steps h
    exact session_runs (fun _ => id) h hm.ruled

def firstElection : Moment :=
  Moment.perform ⟨initial [], []⟩ (some "leader") (.stand (.int 3333) (some "run/krun.lock"))

theorem mutual_exclusion_after_election :
    (⟨initial [], []⟩ : Moment).IsFresh ∧
      firstElection.tenures = [⟨0, "run/krun.lock", 3333⟩] ∧
      ∃ w, (Election.stand (.int 4444) (pure ("run/krun.lock" : Path))).run firstElection.world =
        (.ok (.led "run/krun.lock" (some 3333)), w) := by
  have hruns : Runs (fun _ => Operation.IsOrdinary) ⟨initial [], []⟩ firstElection :=
    .single (.performs (some "leader") _ trivial)
  have hall := (mutual_exclusion (isFresh_initial [])).1 firstElection hruns
  have hheld : firstElection.IsHeld 0 := ⟨⟨0, "run/krun.lock", 3333⟩, by decide +kernel, rfl, rfl⟩
  have hstand := hall.2.2.2.1 (.int 4444) 4444 "run/krun.lock" (pure ("run/krun.lock" : Path))
    rfl rfl rfl ⟨_, _, rfl⟩
  exact ⟨isFresh_initial [], rfl, hstand.2 0 (some 3333) rfl hheld rfl⟩

/-- There is no file at a path that leads out of a directory that is not there. But a candidate
makes that directory before it opens its lock file, which then is there and held. -/
theorem led_where_no_file_is :
    Runs (fun _ => Operation.IsOrdinary) ⟨initial [], []⟩ firstElection ∧
      firstElection.world.disk.file "x/../run/krun.lock" = .error .notFound ∧
      firstElection.Opens "x/../run/krun.lock" ∧
      ((Election.stand (.int 4444) (pure ("x/../run/krun.lock" : Path))).run
        firstElection.world).1 = .ok (.led "x/../run/krun.lock" (some 3333)) :=
  ⟨.single (.performs (some "leader") _ trivial), rfl, ⟨_, _, rfl⟩, rfl⟩

end SharedVm.Session
