import SharedVm.Proofs.Leading
import Mathlib.Data.List.Nodup

/-!
# What one move changes

Between two moments of a session the locks change in one of six ways. Each way keeps the handles of
the tenures just those that are open; each but the removal of an entry keeps the lock files where
they were, and each but a write from outside keeps the ports in them.
-/

namespace SharedVm

namespace World

/-- Locks and open handles are as they were; what files say may be different. -/
structure Rewrites (w v : World) : Prop where
  faults : v.faults = w.faults
  disk : w.disk.Steady v.disk

instance : IsPreorder World World.Rewrites where
  refl w := ⟨rfl, refl_of Disk.Steady w.disk⟩
  trans _ _ _ h k := ⟨k.faults.trans h.faults, trans_of Disk.Steady h.disk k.disk⟩

lemma Spares.rewrites {w v : World} (h : w.Spares v) : w.Rewrites v := ⟨h.faults, h.disk⟩

/-- The file at a place is no longer there. Its inode stays. -/
structure Removes (w v : World) (place : Location) : Prop where
  faults : v.faults = w.faults
  disk : w.disk.Becomes v.disk w.disk.holder? w.disk.openOn? w.disk.content
  directory : ∀ q, w.disk.entryAt? q = some .directory → v.disk.entryAt? q = some .directory
  entry : ∀ q, q ≠ place → v.disk.entryAt? q = w.disk.entryAt? q

/-- A handle is closed, and the lock that it held is free. -/
structure Vacates (w v : World) (h : Nat) : Prop where
  faults : v.faults = w.faults
  disk : w.disk.Becomes v.disk
    (fun j => if w.disk.openOn? h = some j then none else w.disk.holder? j)
    (Function.update w.disk.openOn? h none) w.disk.content
  entry : w.disk.Keeps v.disk

/-- The file that a handle is open on says another port. -/
structure Publishes (w v : World) (h i : Nat) (n : Int) : Prop where
  faults : v.faults = w.faults
  written : Decimal.write? n = some (Decimal.ofInt n)
  openOn : w.disk.openOn? h = some i
  disk : w.disk.Becomes v.disk w.disk.holder? w.disk.openOn?
    (Function.update w.disk.content i (Utf8.encode (Decimal.ofInt n)))
  entry : w.disk.Keeps v.disk

end World

def Tenure.republish (t : Tenure) (h : Nat) (n : Int) : Tenure :=
  if t.handle = h then { t with port := n } else t

@[simp] lemma Tenure.handle_republish (t : Tenure) (h : Nat) (n : Int) :
    (t.republish h n).handle = t.handle := by
  unfold republish
  split <;> rfl

/-- What a move does to the tenures and the world. `gone` says which places may lose their file, and
`outside` whether held files may be written from outside. -/
inductive Turn (gone : Location → Prop) (outside : Prop) (w v : World) (ts : List Tenure) :
    List Tenure → Prop
  | spares (h : w.Spares v) : Turn gone outside w v ts ts
  | rewrites (ho : outside) (h : w.Rewrites v) : Turn gone outside w v ts ts
  | removes (place : Location) (hg : gone place) (h : w.Removes v place) : Turn gone outside w v ts ts
  | elects (t : Tenure) (i : Nat) (h : w.Elects v t i) : Turn gone outside w v ts (ts ++ [t])
  | vacates (k : Nat) (h : w.Vacates v k) : Turn gone outside w v ts (ts.filter (·.handle ≠ k))
  | publishes (k i : Nat) (n : Int) (h : w.Publishes v k i n) :
    Turn gone outside w v ts (ts.map (·.republish k n))

/-- The handles that are open are those of the tenures, each of which has its own. -/
structure Ruled (w : World) (ts : List Tenure) : Prop extends w.Sound where
  handles : ∀ h, w.disk.openOn? h ≠ none ↔ ∃ t ∈ ts, t.handle = h
  distinct : (ts.map (·.handle)).Nodup

/-- Whoever was elected at a path holds the lock of the file that the path leads to. -/
def Seated (p : Path) (w : World) (ts : List Tenure) : Prop :=
  ∀ t ∈ ts, t.lock = p → ∃ i, w.disk.file p = .ok i ∧ w.disk.openOn? t.handle = some i

/-- The file that the handle of a tenure is open on says the port of the tenure. -/
def Truthful (w : World) (ts : List Tenure) : Prop :=
  ∀ t ∈ ts, Decimal.write? t.port = some (Decimal.ofInt t.port) ∧
    ∀ i, w.disk.openOn? t.handle = some i →
      w.disk.content i = Utf8.encode (Decimal.ofInt t.port)

namespace Turn

variable {gone : Location → Prop} {outside : Prop} {w v : World} {ts us : List Tenure}

lemma mono {gone' : Location → Prop} {outside' : Prop} (h : Turn gone outside w v ts us)
    (hg : ∀ place, gone place → gone' place) (ho : outside → outside') :
    Turn gone' outside' w v ts us := by
  cases h with
  | spares h => exact .spares h
  | rewrites hout h => exact .rewrites (ho hout) h
  | removes place hp h => exact .removes place (hg place hp) h
  | elects t i h => exact .elects t i h
  | vacates k h => exact .vacates k h
  | publishes k i n h => exact .publishes k i n h

end Turn

namespace Ruled

variable {w v : World} {ts us : List Tenure}

lemma of_same (hr : Ruled w ts) (hf : v.faults = w.faults) {content : Nat → Bytes}
    (hd : w.disk.Becomes v.disk w.disk.holder? w.disk.openOn? content) : Ruled v ts where
  faults := hf.trans hr.faults
  wellFormed := hd.wellFormed hr.wellFormed
  settled := hd.settled hr.settled
  handles := by
    rw [hd.openOn]
    exact hr.handles
  distinct := hr.distinct

lemma of_elects (hr : Ruled w ts) {t : Tenure} {i : Nat} (h : w.Elects v t i) :
    Ruled v (ts ++ [t]) where
  toSound := h.sound hr.toSound
  handles k := by
    rw [h.disk.openOn]
    by_cases hk : k = t.handle
    · simp [hk]
    · have hs : ¬ t.handle = k := fun he => hk he.symm
      rw [Function.update_of_ne hk, hr.handles k]
      simp [hs]
  distinct := by
    -- the handle was not open, so it is none of those before
    have hfresh : ¬ ∃ s ∈ ts, s.handle = t.handle := by
      rw [← hr.handles, h.fresh]
      exact fun hn => hn rfl
    rw [List.map_append, List.nodup_append]
    refine ⟨hr.distinct, List.nodup_singleton _, ?_⟩
    intro a ha b hb he
    obtain ⟨s, hs, rfl⟩ := List.mem_map.1 ha
    obtain rfl := List.mem_singleton.1 hb
    exact hfresh ⟨s, hs, he⟩

lemma of_vacates (hr : Ruled w ts) {k : Nat} (h : w.Vacates v k) :
    Ruled v (ts.filter (·.handle ≠ k)) where
  faults := h.faults.trans hr.faults
  wellFormed := h.disk.wellFormed hr.wellFormed
  settled := h.disk.settled_of_vacate hr.settled
  handles j := by
    rw [h.disk.openOn]
    by_cases hj : j = k
    · subst hj
      simp
    · rw [Function.update_of_ne hj, hr.handles j]
      constructor
      · rintro ⟨t, ht, rfl⟩
        exact ⟨t, List.mem_filter.2 ⟨ht, decide_eq_true hj⟩, rfl⟩
      · rintro ⟨t, ht, rfl⟩
        exact ⟨t, (List.mem_filter.1 ht).1, rfl⟩
  distinct := hr.distinct.sublist ((List.filter_sublist).map _)

lemma of_publishes (hr : Ruled w ts) {k i : Nat} {n : Int} (h : w.Publishes v k i n) :
    Ruled v (ts.map (·.republish k n)) := by
  have hv := hr.of_same h.faults h.disk
  have hsame : (ts.map (·.republish k n)).map (·.handle) = ts.map (·.handle) := by
    rw [List.map_map]
    exact List.map_congr_left fun t _ => t.handle_republish k n
  refine ⟨hv.toSound, ?_, hsame ▸ hr.distinct⟩
  intro j
  rw [hv.handles j, ← List.mem_map, ← List.mem_map, hsame]

lemma lt_of_mem (hr : Ruled w ts) {t : Tenure} (ht : t ∈ ts) :
    t.handle < w.disk.handles.length := by
  by_contra hn
  exact (hr.handles t.handle).2 ⟨t, ht, rfl⟩ (Disk.openOn?_of_ge (Nat.not_lt.1 hn))

/-- Every move keeps the open handles those of the tenures. -/
theorem turn {gone : Location → Prop} {outside : Prop} (hr : Ruled w ts)
    (h : Turn gone outside w v ts us) : Ruled v us := by
  cases h with
  | spares h => exact hr.of_same h.faults h.disk.toBecomes
  | rewrites _ h => exact hr.of_same h.faults h.disk.toBecomes
  | removes place _ h => exact hr.of_same h.faults h.disk
  | elects t i h => exact hr.of_elects h
  | vacates k h => exact hr.of_vacates h
  | publishes k i n h => exact hr.of_publishes h

end Ruled

namespace Turn

variable {gone : Location → Prop} {outside : Prop} {w v : World} {ts us : List Tenure}

lemma handles (h : Turn gone outside w v ts us) :
    w.disk.handles.length ≤ v.disk.handles.length := by
  cases h with
  | spares h => exact h.disk.handles
  | rewrites _ h => exact h.disk.handles
  | removes _ _ h => exact h.disk.handles
  | elects _ _ h => exact h.disk.handles
  | vacates _ h => exact h.disk.handles
  | publishes _ _ _ h => exact h.disk.handles

/-- A tenure was there before, or has been won, or has another port now. -/
lemma origin (h : Turn gone outside w v ts us) {t : Tenure} (ht : t ∈ us) :
    t ∈ ts ∨ (∃ i, w.Elects v t i) ∨
      ∃ s ∈ ts, s.handle = t.handle ∧ s.lock = t.lock ∧ ∃ i, w.Publishes v t.handle i t.port := by
  cases h with
  | spares _ => exact .inl ht
  | rewrites _ _ => exact .inl ht
  | removes _ _ _ => exact .inl ht
  | elects t' i h =>
    rcases List.mem_append.1 ht with ht | ht
    · exact .inl ht
    · obtain rfl := List.mem_singleton.1 ht
      exact .inr (.inl ⟨i, h⟩)
  | vacates k _ => exact .inl (List.mem_filter.1 ht).1
  | publishes k i n h =>
    obtain ⟨s, hs, rfl⟩ := List.mem_map.1 ht
    unfold Tenure.republish
    by_cases hk : s.handle = k
    · rw [if_pos hk]
      exact .inr (.inr ⟨s, hs, rfl, rfl, i, hk ▸ h⟩)
    · rw [if_neg hk]
      exact .inl hs

/-- The handle of a tenure that goes on stays open on the same file. -/
lemma openOn (h : Turn gone outside w v ts us) {k i : Nat} (hopen : w.disk.openOn? k = some i)
    (hk : ∃ t ∈ us, t.handle = k) : v.disk.openOn? k = some i := by
  cases h with
  | spares h => rw [h.disk.openOn, hopen]
  | rewrites _ h => rw [h.disk.openOn, hopen]
  | removes place _ h => rw [h.disk.openOn, hopen]
  | elects t j h =>
    have hne : k ≠ t.handle := fun he => by
      rw [he, h.fresh] at hopen
      cases hopen
    rw [h.disk.openOn, Function.update_of_ne hne, hopen]
  | vacates j h =>
    obtain ⟨t, ht, rfl⟩ := hk
    rw [h.disk.openOn, Function.update_of_ne (of_decide_eq_true (List.mem_filter.1 ht).2), hopen]
  | publishes j i n h => rw [h.disk.openOn, hopen]

/-- A file stays where a path leads unless it is taken away from there. -/
lemma file (h : Turn gone outside w v ts us) {p : Path} {i : Nat} (hf : w.disk.file p = .ok i)
    (hg : ∀ place, gone place → w.disk.locate p ≠ .ok place) : v.disk.file p = .ok i := by
  cases h with
  | spares h => exact Disk.Keeps.file h.disk.entry h.disk.workDir hf
  | rewrites _ h => exact Disk.Keeps.file h.disk.entry h.disk.workDir hf
  | removes place hgone h =>
    obtain ⟨q, hl, hq⟩ := Disk.file_eq_ok_iff.1 hf
    have hne : q ≠ place := fun he => hg place hgone (he ▸ hl)
    refine Disk.file_eq_ok_iff.2 ⟨q, ?_, ?_⟩
    · exact Disk.locate_of_directories h.disk.workDir h.directory hl
    · rw [h.entry q hne, hq]
  | elects t j h => exact Disk.Keeps.file h.entry h.disk.workDir hf
  | vacates j h => exact Disk.Keeps.file h.entry h.disk.workDir hf
  | publishes j i n h => exact Disk.Keeps.file h.entry h.disk.workDir hf

/-- Without writes from outside, the file of a tenure that goes on says its port as before. -/
lemma content (h : Turn gone False w v ts us) (hr : Ruled w ts) {t : Tenure} (ht : t ∈ us) {i : Nat}
    (hopen : w.disk.openOn? t.handle = some i)
    (hc : w.disk.content i = Utf8.encode (Decimal.ofInt t.port)) :
    v.disk.content i = Utf8.encode (Decimal.ofInt t.port) := by
  have hheld : w.disk.holder? i = some t.handle := (hr.settled i t.handle).2 hopen
  cases h with
  | spares h => rw [h.held i (by rw [hheld]; exact Option.some_ne_none _), hc]
  | rewrites ho _ => exact ho.elim
  | removes place _ h => rw [h.disk.content, hc]
  | elects t' j h =>
    -- the tenure holds the lock of its file, and the one just won was free
    have hj : i ≠ j := fun he => by
      rw [he, h.free] at hheld
      cases hheld
    rw [h.disk.content, Function.update_of_ne hj, hc]
  | vacates k h => rw [h.disk.content, hc]
  | publishes k j n h =>
    rw [h.disk.content]
    obtain ⟨s, -, rfl⟩ := List.mem_map.1 ht
    rw [Tenure.handle_republish] at hopen
    by_cases hk : s.handle = k
    · rw [hk] at hopen
      obtain rfl : i = j := Option.some.inj (hopen.symm.trans h.openOn)
      rw [Function.update_self, Tenure.republish, if_pos hk]
    · -- two handles open on one file would both hold its lock
      have hj : i ≠ j := fun he => by
        rw [he] at hopen
        exact hk (hr.settled.eq_of_openOn? hopen h.openOn)
      rw [Function.update_of_ne hj, hc]

end Turn

/-- A move that does not remove the file at a path keeps those who were elected there in the file
that the path leads to. -/
theorem Seated.turn {p : Path} {gone : Location → Prop} {outside : Prop} {w v : World}
    {ts us : List Tenure} (hs : Seated p w ts) (h : Turn gone outside w v ts us)
    (hg : ∀ place, gone place → w.disk.locate p ≠ .ok place) : Seated p v us := by
  intro t ht hp
  have hkept : ∀ s ∈ ts, s.handle = t.handle → s.lock = t.lock →
      ∃ i, v.disk.file p = .ok i ∧ v.disk.openOn? t.handle = some i := by
    intro s hmem hhandle hlock
    obtain ⟨i, hfile, hopen⟩ := hs s hmem (hlock.trans hp)
    exact ⟨i, h.file hfile hg, h.openOn (hhandle ▸ hopen) ⟨t, ht, rfl⟩⟩
  rcases h.origin ht with hmem | ⟨i, he⟩ | ⟨s, hmem, hhandle, hlock, -⟩
  · exact hkept t hmem rfl rfl
  · exact ⟨i, hp ▸ he.file, by rw [he.disk.openOn, Function.update_self]⟩
  · exact hkept s hmem hhandle hlock

/-- Without writes from outside, a move keeps the published ports in the files. -/
theorem Truthful.turn {gone : Location → Prop} {w v : World} {ts us : List Tenure}
    (ht : Truthful w ts) (hr : Ruled w ts) (h : Turn gone False w v ts us) : Truthful v us := by
  intro t hmem
  rcases h.origin hmem with hold | ⟨j, he⟩ | ⟨s, hs, hhandle, -, j, hp⟩
  · obtain ⟨i, hi⟩ := Option.ne_none_iff_exists'.1 ((hr.handles t.handle).2 ⟨t, hold, rfl⟩)
    refine ⟨(ht t hold).1, fun j hj => ?_⟩
    obtain rfl : i = j := Option.some.inj ((h.openOn hi ⟨t, hmem, rfl⟩).symm.trans hj)
    exact h.content hr hmem hi ((ht t hold).2 i hi)
  · refine ⟨he.written, fun i hi => ?_⟩
    rw [he.disk.openOn, Function.update_self] at hi
    obtain rfl := Option.some.inj hi
    rw [he.disk.content, Function.update_self]
  · refine ⟨hp.written, fun i hi => ?_⟩
    rw [hp.disk.openOn, hp.openOn] at hi
    obtain rfl := Option.some.inj hi
    rw [hp.disk.content, Function.update_self]

end SharedVm
