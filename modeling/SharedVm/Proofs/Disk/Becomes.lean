import SharedVm.Proofs.Disk
import Mathlib.Logic.Function.Basic

/-!
# Disks that become other disks

`Becomes` says which holders, open handles and contents a disk has after an operation. A disk is
`Settled` if a handle is open on a file just when it holds the file's lock: so it is between
operations, and `Becomes` says whether it is so again afterwards. `Quiet` operations change nothing
that was there, though they may make directories, empty files and handles that are closed.
-/

namespace SharedVm.Disk

/-- Every name leads through directories, and every number is that of something. -/
structure WellFormed (d : Disk) : Prop where
  workDir : d.entryAt? d.workDir = some .directory
  above : ∀ {place e}, d.entryAt? place = some e → d.entryAt? place.dropLast = some .directory
  file : ∀ {place i}, d.entryAt? place = some (.file i) → i < d.inodes.length
  handle : ∀ {h x}, d.handle? h = some x → x.inode < d.inodes.length
  holder : ∀ {i h}, d.holder? i = some h → h < d.handles.length

/-- The disk `e` comes after `d` and has these holders, open handles and contents. -/
structure Becomes (d e : Disk) (holder openOn : Nat → Option Nat) (content : Nat → Bytes) :
    Prop where
  workDir : e.workDir = d.workDir
  inodes : d.inodes.length ≤ e.inodes.length
  handles : d.handles.length ≤ e.handles.length
  holder : e.holder? = holder
  openOn : e.openOn? = openOn
  content : e.content = content
  wellFormed : d.WellFormed → e.WellFormed

def Keeps (d e : Disk) : Prop := ∀ ⦃place x⦄, d.entryAt? place = some x → e.entryAt? place = some x

/-- Locks and open handles are as they were, and every entry is still there. -/
structure Steady (d e : Disk) : Prop extends Becomes d e d.holder? d.openOn? e.content where
  entry : d.Keeps e

/-- Nothing that was there is different. -/
structure Quiet (d e : Disk) : Prop extends Becomes d e d.holder? d.openOn? d.content where
  entry : d.Keeps e

/-- A handle holds the lock of a file just when it is open on it. -/
def Settled (d : Disk) : Prop := ∀ i h, d.holder? i = some h ↔ d.openOn? h = some i

variable {d e f : Disk} {holder openOn : Nat → Option Nat} {content : Nat → Bytes}

lemma Keeps.refl (d : Disk) : d.Keeps d := fun _ _ h => h

lemma Keeps.trans (hd : d.Keeps e) (he : e.Keeps f) : d.Keeps f :=
  fun _ _ h => he (hd h)

lemma Becomes.trans_quiet (hd : d.Becomes e holder openOn content) (he : e.Quiet f) :
    d.Becomes f holder openOn content where
  workDir := he.workDir.trans hd.workDir
  inodes := Nat.le_trans hd.inodes he.inodes
  handles := Nat.le_trans hd.handles he.handles
  holder := he.holder.trans hd.holder
  openOn := he.openOn.trans hd.openOn
  content := he.content.trans hd.content
  wellFormed := he.wellFormed ∘ hd.wellFormed

instance : IsPreorder Disk Steady where
  refl d := ⟨⟨rfl, Nat.le_refl _, Nat.le_refl _, rfl, rfl, rfl, id⟩, Keeps.refl d⟩
  trans _ _ _ hd he := {
    workDir := he.workDir.trans hd.workDir
    inodes := Nat.le_trans hd.inodes he.inodes
    handles := Nat.le_trans hd.handles he.handles
    holder := he.holder.trans hd.holder
    openOn := he.openOn.trans hd.openOn
    content := rfl
    wellFormed := he.wellFormed ∘ hd.wellFormed
    entry := Keeps.trans hd.entry he.entry }

namespace Quiet

lemma refl (d : Disk) : d.Quiet d :=
  ⟨⟨rfl, Nat.le_refl _, Nat.le_refl _, rfl, rfl, rfl, id⟩, Keeps.refl d⟩

lemma trans (hd : d.Quiet e) (he : e.Quiet f) : d.Quiet f :=
  ⟨hd.toBecomes.trans_quiet he, Keeps.trans hd.entry he.entry⟩

lemma steady (h : d.Quiet e) : d.Steady e := by
  have hb := h.toBecomes
  rw [← h.content] at hb
  exact ⟨hb, h.entry⟩

/-- What comes after a quiet change is seen as if it came at once. -/
lemma trans_becomes (hd : d.Quiet e) (he : e.Becomes f holder openOn content) :
    d.Becomes f holder openOn content where
  workDir := he.workDir.trans hd.workDir
  inodes := Nat.le_trans hd.inodes he.inodes
  handles := Nat.le_trans hd.handles he.handles
  holder := he.holder
  openOn := he.openOn
  content := he.content
  wellFormed := he.wellFormed ∘ hd.wellFormed

instance : IsPreorder Disk Quiet where
  refl := refl
  trans _ _ _ := trans

end Quiet

/-! ### Settled disks -/

namespace Becomes

lemma settled (h : d.Becomes e d.holder? d.openOn? content) (hd : d.Settled) : e.Settled := by
  intro i k
  rw [h.holder, h.openOn]
  exact hd i k

/-- A handle that was not open is open on a file whose lock was free, and holds it. -/
lemma settled_of_elect {h i : Nat}
    (hb : d.Becomes e (Function.update d.holder? i (some h)) (Function.update d.openOn? h (some i))
      content) (hd : d.Settled) (hi : d.holder? i = none) (hh : d.openOn? h = none) :
    e.Settled := by
  intro j k
  rw [hb.holder, hb.openOn]
  by_cases hj : j = i <;> by_cases hk : k = h
  · subst hj hk
    simp
  · subst hj
    have hn : ¬ d.openOn? k = some j := fun ho => by
      rw [← hd j k, hi] at ho
      cases ho
    have hs : ¬ h = k := fun he => hk he.symm
    simp [hk, hs, hn]
  · subst hk
    have hn : ¬ d.holder? j = some k := fun ho => by
      rw [hd j k, hh] at ho
      cases ho
    have hs : ¬ i = j := fun he => hj he.symm
    simp [hj, hs, hn]
  · simp [hj, hk, hd j k]

/-- A handle is closed and its lock is free. -/
lemma settled_of_vacate {h : Nat}
    (hb : d.Becomes e (fun j => if d.openOn? h = some j then none else d.holder? j)
      (Function.update d.openOn? h none) content) (hd : d.Settled) : e.Settled := by
  intro j k
  rw [hb.holder, hb.openOn]
  by_cases hk : k = h
  · subst hk
    by_cases hj : d.openOn? k = some j <;> simp [hj, hd j k]
  · rw [Function.update_of_ne hk]
    by_cases hj : d.openOn? h = some j
    · have hn : ¬ d.openOn? k = some j := fun ho => by
        rw [← hd j k, (hd j h).2 hj] at ho
        exact hk (Option.some.inj ho).symm
      simp [hj, hn]
    · simp [hj, hd j k]

end Becomes

lemma Settled.eq_of_openOn? (hd : d.Settled) {h k i : Nat} (hh : d.openOn? h = some i)
    (hk : d.openOn? k = some i) : h = k :=
  Option.some.inj (((hd i h).2 hh).symm.trans ((hd i k).2 hk))

end SharedVm.Disk
