import SharedVm.Proofs.Candidacy
import SharedVm.Proofs.Session.Prediction

/-!
# Candidates that are not elected

In every state of a session, and whichever calls fail of themselves, standing for election is
accounted for: a candidate that is not elected has no handle open and no lock, and the only trace it
may leave in a file is a port that it could publish but not make to last.
-/

namespace SharedVm.Session

open Act

/-- A candidate without a usable port does nothing at all. One that is not elected leaves locks and
open handles as they were, and the contents of files too, unless it got the lock and could not make
its port last: then the file says that port and the lock is free again. What is new on the disk are
at most directories above the lock file and the lock file, which is empty if nothing was written. One
that is elected has a new handle, which alone is a new holder, and its port is all that the file
says. -/
theorem candidates_accounted :
    (∀ s, Reached s → s.world.disk.WellFormed) ∧
    ∀ (w : World) (candidate : Value) (path : Act Path), w.disk.WellFormed → (path.run w).2 = w →
      Election.Accounts candidate path w ((Election.stand candidate path).run w).1
        ((Election.stand candidate path).run w).2 :=
  ⟨fun _ => Reached.wellFormed, fun _ _ _ hd hw => Election.stand_accounts hd hw⟩

def unsynced : World :=
  { formerLeader.world with faults := { sync := some (.ofNumber 5 "Input/output error") } }

theorem candidates_accounted_unsynced :
    unsynced.disk.content 0 = Utf8.encode "3333" ∧ ∃ v,
      (Election.stand (.int 4444) (pure ("run/krun.lock" : Path))).run unsynced =
        (.error (.misconfigured (.portNotPublished "run/krun.lock"
          (.ofNumber 5 "Input/output error"))), v) ∧
      v.disk.content 0 = Utf8.encode "4444" ∧ v.disk.holder? 0 = none ∧
      ∀ h, v.disk.openOn? h = none := by
  have hreached : Reached formerLeader := .step _ (.step _ (.initial [] {}))
  have haccounts := candidates_accounted.2 unsynced (.int 4444) (pure "run/krun.lock")
    (candidates_accounted.1 _ hreached) rfl
  have hwins : Election.Wins (.int 4444) (pure ("run/krun.lock" : Path)) unsynced 4444
      "run/krun.lock" 0 := ⟨rfl, by decide, rfl, _, _, _, rfl, rfl, rfl⟩
  rcases hrun : (Election.stand (.int 4444) (pure ("run/krun.lock" : Path))).run unsynced with ⟨r, v⟩
  rw [hrun] at haccounts
  have hfruitless : Election.Fruitless r := by
    rintro s rfl
    cases s with
    | elected h lock n => cases (haccounts.elected h lock n rfl).1
    | led lock port => rfl
  obtain ⟨-, hcontent, report, hreport, rfl⟩ := haccounts.unpublished hfruitless _ _ _ hwins
  have hsteady := haccounts.steady hfruitless
  refine ⟨rfl, v, ?_, ?_, ?_, fun h => ?_⟩
  · obtain rfl := Option.some.inj hreport
    rfl
  · rw [hcontent]
    rfl
  · rw [hsteady.holder]
    rfl
  · rw [hsteady.openOn]
    cases h <;> rfl

end SharedVm.Session
