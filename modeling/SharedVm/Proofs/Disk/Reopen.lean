import SharedVm.Proofs.Disk.Lookup
import SharedVm.Proofs.Text.Utf8
import SharedVm.World

/-!
# Files that are there can be opened again

A path at which there is a file leads through directories, so making the directories above it finds
them there, and what is opened is that file. The text of the directory above is a part of the text
of the path, so it is a name for the operating system if the path is one.
-/

namespace SharedVm

/-! ### Names for the operating system -/

namespace Failure

lemma ofName?_eq_none_iff (t : Text) :
    ofName? t = none ↔ t.any Utf8.isStray = false ∧ t.contains (.char '\x00') = false := by
  have hlone := Utf8.firstLone?_eq_none_iff (fun _ => Utf8.isLone_of_isStray) t
  rw [← hlone]
  unfold ofName?
  cases Utf8.firstLone? Utf8.isStray t with
  | some x => simp
  | none => simp

lemma ofName?_of_append {a b : Text} (h : ofName? (a ++ b) = none) : ofName? a = none := by
  rw [ofName?_eq_none_iff] at h ⊢
  rw [List.any_append, Bool.or_eq_false_iff] at h
  refine ⟨h.1.1, ?_⟩
  have hc := h.2
  rw [List.contains_eq_any_beq, List.any_append, Bool.or_eq_false_iff] at hc
  rw [List.contains_eq_any_beq]
  exact hc.1

end Failure

namespace Utf8

lemma encodeOs?_char (c : Char) (t : Text) :
    encodeOs? (.char c :: t) = (encodeOs? t).map (String.utf8EncodeChar c ++ ·) := by
  rw [Option.map_eq_bind]
  rfl

lemma encodeOs?_lone (k : Fin 0x800) (t : Text) :
    encodeOs? (.lone k :: t) = (encodeOs? t).bind fun out =>
      if isStray (.lone k) then none else some (.ofNat (k.val - 0x400) :: out) :=
  rfl

lemma encodeOs?_append (a b : Text) :
    encodeOs? (a ++ b) = (encodeOs? b).bind fun y => (encodeOs? a).map (· ++ y) := by
  induction a with
  | nil => simp [encodeOs?]
  | cons s a ih =>
    cases s with
    | char c =>
      rw [List.cons_append, encodeOs?_char, encodeOs?_char, ih]
      cases encodeOs? b <;> cases encodeOs? a <;> simp
    | lone k =>
      rw [List.cons_append, encodeOs?_lone, encodeOs?_lone, ih]
      by_cases hs : isStray (.lone k) = true <;>
        cases encodeOs? b <;> cases encodeOs? a <;> simp [hs]

lemma exists_encodeOs? {t : Text} (h : t.any isStray = false) : ∃ bs, encodeOs? t = some bs := by
  induction t with
  | nil => exact ⟨[], rfl⟩
  | cons s t ih =>
    rw [List.any_cons, Bool.or_eq_false_iff] at h
    obtain ⟨bs, hbs⟩ := ih h.2
    have hsplit := encodeOs?_append [s] t
    rw [List.singleton_append, hbs, Option.bind_some] at hsplit
    rw [hsplit]
    cases s with
    | char c => exact ⟨_, rfl⟩
    | lone k => exact ⟨_, by rw [encodeOs?]; simp [h.1]; rfl⟩

end Utf8

/-! ### The directory above a path -/

namespace Text

lemma join_concat (sep : Text) {ts : List Text} (h : ts ≠ []) (t : Text) :
    join sep (ts ++ [t]) = join sep ts ++ (sep ++ t) := by
  induction ts with
  | nil => exact absurd rfl h
  | cons a rest ih =>
    cases rest with
    | nil => exact List.append_assoc a sep t
    | cons b rest =>
      have hstep : ∀ x, x ≠ [] → join sep (a :: x) = a ++ sep ++ join sep x := by
        intro x hx
        cases x with
        | nil => exact absurd rfl hx
        | cons c x => rfl
      rw [List.cons_append, hstep _ (by simp), ih (by simp), hstep _ (by simp)]
      simp only [List.append_assoc]

end Text

namespace Path

lemma text_concat (start : PathRoot) {names : List Text} (h : names ≠ []) (name : Text) :
    text ⟨start, names ++ [name]⟩ = text ⟨start, names⟩ ++ ("/" ++ name) := by
  have hne : ¬ (names ++ [name]).isEmpty = true := by simp
  have hne' : ¬ names.isEmpty = true := by simpa using h
  unfold text
  dsimp only
  rw [if_neg (by simp [hne]), if_neg (by simp [hne']), Text.join_concat _ h, List.append_assoc]

/-- The directory above a path is the working directory, or its text is the front of the path's. -/
lemma text_parent (p : Path) : p.parent.text = "." ∨ ∃ rest, p.text = p.parent.text ++ rest := by
  obtain ⟨start, names⟩ := p
  rcases List.eq_nil_or_concat names with rfl | ⟨init, last, rfl⟩
  · exact .inr ⟨[], (List.append_nil _).symm⟩
  · unfold parent
    dsimp only
    rw [List.concat_eq_append, List.dropLast_concat]
    by_cases hinit : init = []
    · subst hinit
      cases start with
      | here => exact .inl rfl
      | root => exact .inr ⟨last, rfl⟩
      | doubleRoot => exact .inr ⟨last, rfl⟩
    · exact .inr ⟨"/" ++ last, text_concat start hinit last⟩

lemma ofName?_parent {p : Path} (h : Failure.ofName? p.text = none) :
    Failure.ofName? p.parent.text = none := by
  rcases p.text_parent with hp | ⟨rest, hp⟩
  · rw [hp]
    rfl
  · rw [hp] at h
    exact Failure.ofName?_of_append h

end Path

namespace Disk

variable {d : Disk} {p : Path} {i : Nat}

lemma nameLength_append {a b : Text} (h : Failure.ofName? (a ++ b) = none) :
    nameLength (a ++ b) = nameLength a + nameLength b := by
  have hstray := ((Failure.ofName?_eq_none_iff _).1 h).1
  rw [List.any_append, Bool.or_eq_false_iff] at hstray
  obtain ⟨x, hx⟩ := Utf8.exists_encodeOs? hstray.1
  obtain ⟨y, hy⟩ := Utf8.exists_encodeOs? hstray.2
  unfold nameLength
  rw [Utf8.encodeOs?_append, hx, hy]
  simp

lemma nameLength_le_of_append {a b : Text} (h : Failure.ofName? (a ++ b) = none) :
    nameLength a ≤ nameLength (a ++ b) := nameLength_append h ▸ Nat.le_add_right _ _

lemma nameLength_parent (h : Failure.ofName? p.text = none) (hl : nameLength p.text ≤ pathLimit) :
    nameLength p.parent.text ≤ pathLimit := by
  rcases p.text_parent with hp | ⟨rest, hp⟩
  · rw [hp]
    decide
  · rw [hp] at h hl
    exact Nat.le_trans (nameLength_le_of_append h) hl

/-! ### Opening a file again -/

lemma follow_concat {here place : Location} {names : List Text} {last : Text}
    (h : d.follow here (names ++ [last]) = .ok place) :
    ∃ q, d.follow here names = .ok q ∧ d.entryAt? q = some .directory ∧ place = next q last := by
  induction names generalizing here with
  | nil =>
    rw [List.nil_append, follow] at h
    split at h
    · cases h
    · cases h
    · rename_i hdir
      split at h
      · cases h
      · exact ⟨here, rfl, hdir, (Except.ok.inj h).symm⟩
  | cons name rest ih =>
    rw [List.cons_append, follow] at h
    rw [follow]
    split at h
    · cases h
    · cases h
    · split at h
      · cases h
      · rename_i hlen
        rw [if_neg hlen]
        exact ih h

/-- A file lies in a directory that the path above leads to. -/
lemma directory_of_file (hd : d.WellFormed) (hn : Failure.ofName? p.text = none)
    (h : d.file p = .ok i) :
    ∃ q, d.locate p.parent = .ok q ∧ d.entryAt? q = some .directory := by
  obtain ⟨place, hl, hp⟩ := file_eq_ok_iff.1 h
  obtain ⟨start, names⟩ := p
  have hlen : nameLength (Path.text ⟨start, names⟩) ≤ pathLimit := by
    unfold locate at hl
    split at hl
    · cases hl
    · exact Nat.not_lt.1 ‹_›
  unfold locate at hl ⊢
  rw [if_neg (Nat.not_lt.2 hlen)] at hl
  rw [if_neg (Nat.not_lt.2 (nameLength_parent hn hlen))]
  unfold Path.parent
  dsimp only at hl ⊢
  rcases List.eq_nil_or_concat names with rfl | ⟨init, last, rfl⟩
  · rw [follow, Except.ok.injEq] at hl
    rw [← hl, entryAt?_origin hd] at hp
    cases hp
  · rw [List.concat_eq_append] at hl ⊢
    rw [List.dropLast_concat]
    obtain ⟨q, hq, hdir, -⟩ := follow_concat hl
    exact ⟨q, hq, hdir⟩

lemma makeDirectories_of_directory {q : Location} (hl : d.locate p = .ok q)
    (hq : d.entryAt? q = some .directory) : d.makeDirectories p = (none, d) := by
  have hmake : d.makeDirectory p = .error .fileExists := by
    simp [makeDirectory, hl, hq, bind, Except.bind]
  have hdir : d.isDirectory p = true := by
    simp [isDirectory, stat, hl, look, hq, bind, Except.bind]
  unfold makeDirectories
  cases hnames : p.names.reverse with
  | nil => rfl
  | cons name above =>
    have hsame : (⟨p.start, (name :: above).reverse⟩ : Path) = p := by
      rw [← hnames, List.reverse_reverse]
    rw [makeDirectoriesFrom]
    dsimp only
    rw [hsame, hmake]
    dsimp only
    rw [if_pos hdir]

lemma makeDirectories_of_isDirectory (h : d.isDirectory p = true) :
    d.makeDirectories p = (none, d) := by
  unfold isDirectory stat at h
  cases hl : d.locate p with
  | error x => simp [hl, bind, Except.bind] at h
  | ok q =>
    refine makeDirectories_of_directory hl ?_
    cases hq : d.entryAt? q with
    | none => simp [hl, hq, look, bind, Except.bind] at h
    | some x => cases x <;> simp_all [look, bind, Except.bind]

lemma touch_of_file (h : d.file p = .ok i) : d.touch p = .ok (i, d) := by
  obtain ⟨place, hl, hp⟩ := file_eq_ok_iff.1 h
  simp [touch, hl, hp, bind, Except.bind]

end Disk

end SharedVm
