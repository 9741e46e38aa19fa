import SharedVm.Disk
import Mathlib.Order.Defs.Unbundled
import Mathlib.Tactic.Lemma

/-!
# What disk operations do to locks, handles, contents and entries

A disk is seen through four views: the holder of each inode's lock, the inode that each open handle
is open on, the contents of each inode, and the entry at each location. Each operation has one
equation for each view. `Quiet` relates two disks that differ in nothing that was there before.
-/

namespace SharedVm.Disk

def openOn? (d : Disk) (h : Nat) : Option Nat :=
  (d.handle? h).bind fun x => if x.isOpen then some x.inode else none

lemma isOpen_iff {d : Disk} {h : Nat} : d.isOpen h = true ↔ ∃ i, d.openOn? h = some i := by
  unfold isOpen openOn?
  cases d.handle? h with
  | none => simp
  | some x => cases x.isOpen <;> simp

lemma handle?_of_openOn? {d : Disk} {h i : Nat} (ho : d.openOn? h = some i) :
    ∃ x, d.handle? h = some x ∧ x.isOpen = true ∧ x.inode = i := by
  unfold openOn? at ho
  cases hx : d.handle? h with
  | none => simp [hx] at ho
  | some x =>
    simp only [hx, Option.bind_some, Option.ite_none_right_eq_some, Option.some.injEq] at ho
    exact ⟨x, rfl, ho⟩

lemma inode?_of_lt {d : Disk} {i : Nat} (hi : i < d.inodes.length) : ∃ x, d.inode? i = some x :=
  ⟨_, List.getElem?_eq_getElem hi⟩

/-! ### The views after a change of an inode or a handle -/

variable (d : Disk)

lemma inode?_modifyInode (i j : Nat) (f : Inode → Inode) :
    (d.modifyInode i f).inode? j = if i = j then (d.inode? j).map f else d.inode? j := by
  unfold modifyInode inode?
  rw [List.getElem?_modify]
  split <;> cases d.inodes[j]? <;> rfl

lemma holder?_modifyInode (i j : Nat) (f : Inode → Inode) :
    (d.modifyInode i f).holder? j =
      if i = j then (d.inode? j).bind fun x => (f x).holder else d.holder? j := by
  unfold holder?
  rw [inode?_modifyInode]
  split <;> cases d.inode? j <;> rfl

lemma content_modifyInode (i j : Nat) (f : Inode → Inode) :
    (d.modifyInode i f).content j =
      if i = j then ((d.inode? j).map fun x => (f x).content).getD [] else d.content j := by
  unfold content
  rw [inode?_modifyInode]
  split <;> cases d.inode? j <;> rfl

lemma holder?_modifyInode_of_same (i : Nat) {f : Inode → Inode}
    (hf : ∀ x, (f x).holder = x.holder) : (d.modifyInode i f).holder? = d.holder? := by
  funext j
  rw [holder?_modifyInode]
  split
  · unfold holder?
    cases d.inode? j <;> simp [hf]
  · rfl

lemma content_modifyInode_of_same (i : Nat) {f : Inode → Inode}
    (hf : ∀ x, (f x).content = x.content) : (d.modifyInode i f).content = d.content := by
  funext j
  rw [content_modifyInode]
  split
  · unfold content
    cases d.inode? j <;> simp [hf]
  · rfl

@[simp] lemma openOn?_modifyInode (i h : Nat) (f : Inode → Inode) :
    (d.modifyInode i f).openOn? h = d.openOn? h := rfl

@[simp] lemma length_inodes_modifyInode (i : Nat) (f : Inode → Inode) :
    (d.modifyInode i f).inodes.length = d.inodes.length := List.length_modify ..

@[simp] lemma length_handles_modifyHandle (h : Nat) (f : Handle → Handle) :
    (d.modifyHandle h f).handles.length = d.handles.length := List.length_modify ..

lemma handle?_modifyHandle (h k : Nat) (f : Handle → Handle) :
    (d.modifyHandle h f).handle? k = if h = k then (d.handle? k).map f else d.handle? k := by
  unfold modifyHandle handle?
  rw [List.getElem?_modify]
  split <;> cases d.handles[k]? <;> rfl

@[simp] lemma holder?_modifyHandle (h i : Nat) (f : Handle → Handle) :
    (d.modifyHandle h f).holder? i = d.holder? i := rfl

@[simp] lemma content_modifyHandle (h i : Nat) (f : Handle → Handle) :
    (d.modifyHandle h f).content i = d.content i := rfl

@[simp] lemma entryAt?_modifyHandle (h : Nat) (f : Handle → Handle) (place : Location) :
    (d.modifyHandle h f).entryAt? place = d.entryAt? place := rfl

/-- A change of a handle that moves no handle to another inode and opens or closes none. -/
lemma openOn?_modifyHandle_of_same (h k : Nat) {f : Handle → Handle}
    (hi : ∀ x, (f x).inode = x.inode) (ho : ∀ x, (f x).isOpen = x.isOpen) :
    (d.modifyHandle h f).openOn? k = d.openOn? k := by
  unfold openOn?
  rw [handle?_modifyHandle]
  split
  · cases d.handle? k with
    | none => rfl
    | some x => simp [hi x, ho x]
  · rfl

/-! ### Entries -/

lemma entryAt?_append {place : Location} (hn : d.entryAt? place = none) (e : Entry)
    (is : List Inode) (q : Location) :
    ({ d with entries := d.entries ++ [(place, e)], inodes := is } : Disk).entryAt? q =
      if q = place then some e else d.entryAt? q := by
  unfold entryAt? at hn ⊢
  by_cases hq : q = place
  · subst hq
    simp only [if_true]
    split at hn
    · cases hn
    · rename_i hne
      rw [Option.map_eq_none_iff] at hn
      simp [hne, List.find?_append, hn]
  · have hp : ¬ place = q := fun h => hq h.symm
    simp [hq, hp, List.find?_append]

lemma entryAt?_filter {place : Location} (hp : place ≠ []) (q : Location) :
    ({ d with entries := d.entries.filter (·.1 ≠ place) } : Disk).entryAt? q =
      if q = place then none else d.entryAt? q := by
  unfold entryAt?
  by_cases hq : q = place
  · subst hq
    simp [hp, List.find?_filter]
  · simp only [hq, if_false]
    split
    · rfl
    · rw [List.find?_filter]
      congr 2
      funext x
      by_cases hx : x.1 = q
      · simp [hx, hq]
      · simp [hx]

end SharedVm.Disk
