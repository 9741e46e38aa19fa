import SharedVm.Proofs.Disk.Becomes

/-!
# Effects of disk operations

Making directories, files and handles, taking and giving up a lock, and writing a file anew, each as
a change of the four views of a disk. A handle that is opened and closed again leaves the disk quiet,
whether it held the lock in between or not.
-/

namespace SharedVm.Disk

variable {d e : Disk}

/-! ### What keeps a disk well-formed -/

lemma WellFormed.modifyInode (hd : d.WellFormed) (i : Nat) {f : Inode → Inode}
    (hf : ∀ x h, (f x).holder = some h → x.holder = some h ∨ h < d.handles.length) :
    (d.modifyInode i f).WellFormed where
  workDir := hd.workDir
  above := hd.above
  file hp := by
    rw [length_inodes_modifyInode]
    exact hd.file hp
  handle hx := by
    rw [length_inodes_modifyInode]
    exact hd.handle hx
  holder {j h} hh := by
    rw [holder?_modifyInode] at hh
    split at hh
    · obtain ⟨x, hx, hfx⟩ := Option.bind_eq_some_iff.1 hh
      rcases hf x h hfx with hxh | hlt
      · exact hd.holder (i := j) (by rw [holder?, hx, Option.bind_some, hxh])
      · exact hlt
    · exact hd.holder hh

lemma WellFormed.modifyHandle (hd : d.WellFormed) (h : Nat) {f : Handle → Handle}
    (hf : ∀ x, (f x).inode = x.inode) : (d.modifyHandle h f).WellFormed where
  workDir := hd.workDir
  above := hd.above
  file := hd.file
  handle {k x} hx := by
    rw [handle?_modifyHandle] at hx
    split at hx
    · obtain ⟨y, hy, rfl⟩ := Option.map_eq_some_iff.1 hx
      rw [hf]
      exact hd.handle hy
    · exact hd.handle hx
  holder hh := by
    rw [length_handles_modifyHandle]
    exact hd.holder hh

lemma entryAt?_empty {place : Location} {x : Entry} (h : empty.entryAt? place = some x) :
    (place = [] ∨ place = [("work" : Text)]) ∧ x = .directory := by
  unfold entryAt? empty at h
  split at h
  · exact ⟨.inl (List.isEmpty_iff.1 ‹_›), (Option.some.inj h).symm⟩
  · by_cases hp : [("work" : Text)] = place
    · simp only [hp, List.find?_cons_of_pos, decide_true, Option.map_some, Option.some.injEq] at h
      exact ⟨.inr hp.symm, h.symm⟩
    · simp [hp] at h

lemma wellFormed_empty : empty.WellFormed where
  workDir := by decide
  above h := by
    obtain ⟨rfl | rfl, -⟩ := entryAt?_empty h
    · rfl
    · rfl
  file h := nomatch (entryAt?_empty h).2
  handle h := nomatch h
  holder h := nomatch h

lemma WellFormed.openOn?_lt (hd : d.WellFormed) {h i : Nat} (ho : d.openOn? h = some i) :
    i < d.inodes.length := by
  obtain ⟨x, hx, -, rfl⟩ := handle?_of_openOn? ho
  exact hd.handle hx

lemma openOn?_of_ge {h : Nat} (hh : d.handles.length ≤ h) : d.openOn? h = none := by
  unfold openOn? handle?
  rw [List.getElem?_eq_none hh]
  rfl

lemma holder?_of_ge {i : Nat} (hi : d.inodes.length ≤ i) : d.holder? i = none := by
  unfold holder? inode?
  rw [List.getElem?_eq_none hi]
  rfl

/-! ### Directories and files -/

section Add

variable {is : List Inode} (hi : is = d.inodes ∨ is = d.inodes ++ [{ content := [] }])

include hi

lemma length_le_of_add : d.inodes.length ≤ is.length := by
  rcases hi with rfl | rfl
  · exact Nat.le_refl _
  · rw [List.length_append]
    exact Nat.le_add_right _ _

lemma getElem?_of_add (i : Nat) :
    is[i]? = d.inodes[i]? ∨ d.inodes[i]? = none ∧ is[i]? = some { content := [] } := by
  rcases hi with rfl | rfl
  · exact .inl rfl
  · rcases Nat.lt_trichotomy i d.inodes.length with hlt | rfl | hlt
    · exact .inl (List.getElem?_append_left hlt)
    · exact .inr ⟨List.getElem?_eq_none (Nat.le_refl _), List.getElem?_concat_length⟩
    · have hlen : (d.inodes ++ [({ content := [] } : Inode)]).length ≤ i := by
        rw [List.length_append, List.length_singleton]
        exact Nat.succ_le_of_lt hlt
      exact .inl (by rw [List.getElem?_eq_none hlen, List.getElem?_eq_none (Nat.le_of_lt hlt)])

lemma holder?_of_add (es : List (Location × Entry)) :
    ({ d with entries := es, inodes := is } : Disk).holder? = d.holder? := by
  funext i
  unfold holder? inode?
  rcases getElem?_of_add hi i with h | ⟨h, h'⟩
  · rw [h]
  · rw [h, h']
    rfl

lemma content_of_add (es : List (Location × Entry)) :
    ({ d with entries := es, inodes := is } : Disk).content = d.content := by
  funext i
  unfold content inode?
  rcases getElem?_of_add hi i with h | ⟨h, h'⟩
  · rw [h]
  · rw [h, h']
    rfl

end Add

lemma quiet_add {place : Location} (hn : d.entryAt? place = none)
    (ha : d.WellFormed → d.entryAt? place.dropLast = some .directory) {x : Entry} {is : List Inode}
    (hx : x = .directory ∧ is = d.inodes ∨
      x = .file d.inodes.length ∧ is = d.inodes ++ [{ content := [] }]) :
    d.Quiet { d with entries := d.entries ++ [(place, x)], inodes := is } := by
  have hi : is = d.inodes ∨ is = d.inodes ++ [{ content := [] }] := hx.imp And.right And.right
  have hlen : d.inodes.length ≤ is.length := length_le_of_add hi
  have hholder := holder?_of_add hi (d.entries ++ [(place, x)])
  have hkeep : d.Keeps { d with entries := d.entries ++ [(place, x)], inodes := is } := by
    intro q y hq
    have hne : q ≠ place := by
      rintro rfl
      rw [hn] at hq
      cases hq
    rw [entryAt?_append d hn, if_neg hne]
    exact hq
  refine ⟨⟨rfl, hlen, Nat.le_refl _, hholder, rfl, content_of_add hi _, ?_⟩, hkeep⟩
  intro hd
  refine ⟨hkeep hd.workDir, ?_, ?_, ?_, ?_⟩
  · intro q y hq
    rw [entryAt?_append d hn] at hq
    split at hq
    · rename_i he
      exact hkeep (he ▸ ha hd)
    · exact hkeep (hd.above hq)
  · intro q i hq
    rw [entryAt?_append d hn] at hq
    split at hq
    · obtain rfl := Option.some.inj hq
      rcases hx with ⟨hf, -⟩ | ⟨hf, rfl⟩
      · cases hf
      · cases hf
        rw [List.length_append, List.length_singleton]
        exact Nat.lt_succ_self _
    · exact Nat.lt_of_lt_of_le (hd.file hq) hlen
  · intro h y hy
    exact Nat.lt_of_lt_of_le (hd.handle hy) hlen
  · intro i h hh
    rw [hholder] at hh
    exact hd.holder hh

/-- Names lead to something that is there, or to a place in a directory that is there. -/
lemma above_of_follow (hd : d.WellFormed) {names : List Text} {here place : Location}
    (hh : d.entryAt? here = none → d.entryAt? here.dropLast = some .directory)
    (hf : d.follow here names = .ok place) (hn : d.entryAt? place = none) :
    d.entryAt? place.dropLast = some .directory := by
  induction names generalizing here with
  | nil =>
    rw [follow, Except.ok.injEq] at hf
    subst hf
    exact hh hn
  | cons name rest ih =>
    rw [follow] at hf
    split at hf
    · cases hf
    · cases hf
    · rename_i hdir
      split at hf
      · cases hf
      · apply ih _ hf
        intro hnext
        unfold next at hnext ⊢
        split at hnext
        · rw [hd.above hdir] at hnext
          cases hnext
        · split at hnext
          · rw [hdir] at hnext
            cases hnext
          · rename_i h₁ h₂
            rw [if_neg h₁, if_neg h₂, List.dropLast_concat]
            exact hdir

lemma entryAt?_origin (hd : d.WellFormed) (r : PathRoot) :
    d.entryAt? (d.origin r) = some .directory := by
  cases r
  · exact hd.workDir
  · rfl
  · rfl

lemma above_of_locate (hd : d.WellFormed) {p : Path} {place : Location}
    (hl : d.locate p = .ok place) (hn : d.entryAt? place = none) :
    d.entryAt? place.dropLast = some .directory := by
  unfold locate at hl
  split at hl
  · cases hl
  · apply above_of_follow hd _ hl hn
    intro ho
    rw [entryAt?_origin hd] at ho
    cases ho

lemma makeDirectory_cases {p : Path} (h : d.makeDirectory p = .ok e) :
    ∃ place, d.locate p = .ok place ∧ d.entryAt? place = none ∧
      e = { d with entries := d.entries ++ [(place, .directory)] } := by
  unfold makeDirectory at h
  cases hl : d.locate p with
  | error x => simp [hl, bind, Except.bind] at h
  | ok place =>
    simp only [hl, bind, Except.bind] at h
    split at h
    · cases h
    · rename_i hn
      exact ⟨place, rfl, hn, (Except.ok.inj h).symm⟩

lemma quiet_makeDirectory {p : Path} (h : d.makeDirectory p = .ok e) : d.Quiet e := by
  obtain ⟨place, hl, hn, rfl⟩ := makeDirectory_cases h
  exact quiet_add hn (fun hd => above_of_locate hd hl hn) (.inl ⟨rfl, rfl⟩)

/-- What making one directory keeps to, making all those above it keeps to as well. -/
lemma makeDirectoriesFrom_within {R : Disk → Disk → Prop} [IsPreorder Disk R] {start : PathRoot}
    {names : List Text}
    (hR : ∀ {d e front}, front <+: names.reverse → d.makeDirectory ⟨start, front⟩ = .ok e → R d e)
    (d : Disk) : R d (d.makeDirectoriesFrom start names).2 := by
  induction names generalizing d with
  | nil => exact refl_of R d
  | cons name above ih =>
    have settle : ∀ (d : Disk) (x : DiskError) (p : Path),
        (if d.isDirectory p then ((none : Option (DiskError × Path)), d)
          else (some (x, p), d)).2 = d := by
      intro d x p
      split <;> rfl
    have hself := fun {d e} => hR (d := d) (e := e) (List.prefix_refl _)
    rw [makeDirectoriesFrom]
    dsimp only
    split
    · exact hself ‹_›
    · have hup := ih (fun hfront => hR (hfront.trans (by simp))) d
      split
      · rename_i hm
        rw [hm] at hup
        exact hup
      · rename_i hm
        rw [hm] at hup
        split
        · exact trans_of R hup (hself ‹_›)
        · exact hup
        · rw [settle]
          exact hup
    · rw [settle]
      exact refl_of R d

lemma quiet_makeDirectories (d : Disk) (p : Path) : d.Quiet (d.makeDirectories p).2 :=
  makeDirectoriesFrom_within (fun _ => quiet_makeDirectory) d

lemma file_of_makeDirectories (p : Path) {place : Location} {i : Nat}
    (h : (d.makeDirectories p).2.entryAt? place = some (.file i)) :
    d.entryAt? place = some (.file i) := by
  let R : Disk → Disk → Prop := fun d e =>
    ∀ place i, e.entryAt? place = some (.file i) → d.entryAt? place = some (.file i)
  have hR : IsPreorder Disk R := {
    refl := fun _ _ _ h => h
    trans := fun _ _ _ h₁ h₂ place i h => h₁ place i (h₂ place i h) }
  refine makeDirectoriesFrom_within (R := R) ?_ d place i h
  intro d e q _ hm place i he
  obtain ⟨at', -, hn, rfl⟩ := makeDirectory_cases hm
  rw [entryAt?_append d hn] at he
  split at he
  · cases he
  · exact he

/-- A file that is touched is there afterwards, as it was or as a new one without contents. -/
lemma touch_of_none {p : Path} {place : Location} (hl : d.locate p = .ok place)
    (hn : d.entryAt? place = none) : d.touch p = .ok (d.addFile place) := by
  simp only [touch, hl, hn, bind, Except.bind]

lemma touch_cases {p : Path} {i : Nat} (h : d.touch p = .ok (i, e)) :
    ∃ place, d.locate p = .ok place ∧ e.entryAt? place = some (.file i) ∧ d.Quiet e ∧
      (d.entryAt? place = some (.file i) ∧ e = d ∨
        d.entryAt? place = none ∧ i = d.inodes.length) := by
  unfold touch at h
  cases hl : d.locate p with
  | error x => simp [hl, bind, Except.bind] at h
  | ok place =>
    simp only [hl, bind, Except.bind] at h
    split at h
    · rename_i hn
      obtain ⟨rfl, rfl⟩ := Prod.mk.inj (Except.ok.inj h)
      refine ⟨place, rfl, ?_, ?_, .inr ⟨hn, rfl⟩⟩
      · rw [entryAt?_append d hn, if_pos rfl]
      · exact quiet_add hn (fun hd => above_of_locate hd hl hn) (.inr ⟨rfl, rfl⟩)
    · rename_i hf
      obtain ⟨rfl, rfl⟩ := Prod.mk.inj (Except.ok.inj h)
      exact ⟨place, rfl, hf, Quiet.refl d, .inl ⟨hf, rfl⟩⟩
    · cases h

/-- A file that has been removed is gone from its place, and only from there. -/
lemma remove_cases {p : Path} (h : d.remove p = .ok e) :
    ∃ place i, d.locate p = .ok place ∧ d.entryAt? place = some (.file i) ∧
      (∀ q, e.entryAt? q = if q = place then none else d.entryAt? q) ∧
      d.Becomes e d.holder? d.openOn? d.content := by
  unfold remove at h
  cases hl : d.locate p with
  | error x => simp [hl, bind, Except.bind] at h
  | ok place =>
    simp only [hl, bind, Except.bind] at h
    unfold look at h
    cases hp : d.entryAt? place with
    | none => simp [hp] at h
    | some x =>
      cases x with
      | directory => simp [hp] at h
      | file i =>
        simp only [hp, Except.ok.injEq] at h
        subst h
        have hne : place ≠ [] := fun he => by
          rw [he] at hp
          cases hp
        have hentry := entryAt?_filter d hne
        -- The entry that is gone is a file, so every directory stays.
        have hdir : ∀ q, d.entryAt? q = some .directory → ({ d with
            entries := d.entries.filter (·.1 ≠ place) } : Disk).entryAt? q = some .directory := by
          intro q hq
          have hqp : q ≠ place := fun he => by
            rw [he, hp] at hq
            cases hq
          rw [hentry, if_neg hqp, hq]
        have hback : ∀ q x, ({ d with
            entries := d.entries.filter (·.1 ≠ place) } : Disk).entryAt? q = some x →
            d.entryAt? q = some x := by
          intro q x hq
          rw [hentry] at hq
          split at hq
          · cases hq
          · exact hq
        exact ⟨place, i, rfl, hp, hentry, rfl, Nat.le_refl _, Nat.le_refl _, rfl, rfl, rfl, fun hd =>
          ⟨hdir _ hd.workDir, fun hq => hdir _ (hd.above (hback _ _ hq)),
            fun hq => hd.file (hback _ _ hq), hd.handle, hd.holder⟩⟩

/-! ### Handles and locks -/

lemma openOn?_openInode (d : Disk) (i h : Nat) :
    (d.openInode i).2.openOn? h = if h = d.handles.length then some i else d.openOn? h := by
  unfold openOn? handle? openInode
  rcases Nat.lt_trichotomy h d.handles.length with hh | rfl | hh
  · rw [List.getElem?_append_left hh, if_neg (Nat.ne_of_lt hh)]
  · simp
  · have hlen : (d.handles ++ [({ inode := i } : Handle)]).length ≤ h := by
      rw [List.length_append, List.length_singleton]
      exact Nat.succ_le_of_lt hh
    rw [List.getElem?_eq_none hlen, List.getElem?_eq_none (Nat.le_of_lt hh),
      if_neg (Nat.ne_of_gt hh)]

lemma WellFormed.openInode (hd : d.WellFormed) {i : Nat} (hi : i < d.inodes.length) :
    (d.openInode i).2.WellFormed where
  workDir := hd.workDir
  above := hd.above
  file := hd.file
  handle {h x} hx := by
    unfold Disk.openInode handle? at hx
    rw [List.getElem?_append] at hx
    split at hx
    · exact hd.handle hx
    · rw [List.getElem?_singleton, Option.ite_none_right_eq_some] at hx
      obtain rfl := Option.some.inj hx.2
      exact hi
  holder hh := by
    unfold Disk.openInode
    rw [List.length_append]
    exact Nat.lt_add_right 1 (hd.holder hh)

lemma lock_openInode (hd : d.WellFormed) (i : Nat) :
    (d.openInode i).2.lock d.handles.length =
      if d.holder? i = none then
        some ((d.openInode i).2.modifyInode i ({ · with holder := some d.handles.length }))
      else none := by
  have hx : (d.openInode i).2.handle? d.handles.length = some { inode := i } := by
    simp [openInode, handle?]
  have hsame : (d.openInode i).2.holder? i = d.holder? i := rfl
  unfold lock
  rw [hx]
  dsimp only
  rw [hsame]
  cases hh : d.holder? i with
  | none => rfl
  | some other => simp [Nat.ne_of_lt (hd.holder hh)]

lemma holder?_close (d : Disk) (h j : Nat) :
    (d.close h).holder? j =
      if (d.handle? h).map (·.inode) = some j ∧ d.holder? j = some h then none
      else d.holder? j := by
  unfold close unlock
  rw [holder?_modifyHandle]
  cases hx : d.handle? h with
  | none => simp
  | some x =>
    simp only [Option.map_some, Option.some.injEq]
    split
    · rename_i hh
      rw [holder?_modifyInode]
      by_cases hj : x.inode = j
      · subst hj
        cases d.inode? x.inode <;> simp [hh]
      · simp [hj]
    · rename_i hh
      by_cases hj : x.inode = j
      · subst hj
        simp [hh]
      · simp [hj]

lemma openOn?_close (d : Disk) (h k : Nat) :
    (d.close h).openOn? k = if k = h then none else d.openOn? k := by
  unfold close openOn?
  rw [handle?_modifyHandle, handle?_unlock]
  by_cases hk : h = k
  · subst hk
    cases d.handle? h <;> simp
  · have hs : ¬ k = h := fun he => hk he.symm
    simp [hk, hs]

lemma content_close (d : Disk) (h i : Nat) : (d.close h).content i = d.content i := by
  unfold close unlock
  rw [content_modifyHandle]
  split
  · rfl
  · split
    · simp only [content_modifyInode_of_same, implies_true]
    · rfl

lemma WellFormed.unlock (hd : d.WellFormed) (h : Nat) : (d.unlock h).WellFormed := by
  unfold Disk.unlock
  split
  · exact hd
  · split
    · apply hd.modifyInode
      intro x k hk
      cases hk
    · exact hd

lemma WellFormed.close (hd : d.WellFormed) (h : Nat) : (d.close h).WellFormed :=
  (hd.unlock h).modifyHandle h fun _ => rfl

lemma inodes_close (d : Disk) (h : Nat) : (d.close h).inodes.length = d.inodes.length := by
  unfold close unlock modifyHandle
  split
  · rfl
  · split
    · exact length_inodes_modifyInode ..
    · rfl

lemma handles_close (d : Disk) (h : Nat) : (d.close h).handles.length = d.handles.length := by
  unfold close unlock
  rw [length_handles_modifyHandle]
  split
  · rfl
  · split <;> rfl

lemma keeps_close (d : Disk) (h : Nat) : d.Keeps (d.close h) := by
  intro place x hx
  unfold close unlock
  rw [entryAt?_modifyHandle]
  split
  · exact hx
  · split <;> exact hx

lemma workDir_close (d : Disk) (h : Nat) : (d.close h).workDir = d.workDir := by
  unfold close unlock modifyHandle
  split
  · rfl
  · split <;> rfl

lemma becomes_close (hs : d.Settled) (h : Nat) :
    d.Becomes (d.close h) (fun j => if d.openOn? h = some j then none else d.holder? j)
      (Function.update d.openOn? h none) d.content where
  workDir := workDir_close d h
  inodes := Nat.le_of_eq (inodes_close d h).symm
  handles := Nat.le_of_eq (handles_close d h).symm
  holder := by
    funext j
    rw [holder?_close]
    by_cases ho : d.openOn? h = some j
    · obtain ⟨x, hx, -, rfl⟩ := handle?_of_openOn? ho
      rw [hx, if_pos ho, if_pos ⟨rfl, (hs _ h).2 ho⟩]
    · rw [if_neg ho, if_neg fun hj => ho ((hs j h).1 hj.2)]
  openOn := by
    funext k
    rw [openOn?_close, Function.update_apply]
  content := funext (content_close d h)
  wellFormed hd := hd.close h

/-- A new handle that has taken a free lock gives it up again when it is closed. -/
lemma Becomes.steady_close {h i : Nat} {c : Nat → Bytes}
    (hb : d.Becomes e (Function.update d.holder? i (some h)) (Function.update d.openOn? h (some i)) c)
    (hk : d.Keeps e) (hh : d.handles.length ≤ h) (hi : d.holder? i = none) :
    d.Steady (e.close h) ∧ (e.close h).content = c := by
  have hopen : e.openOn? h = some i := by rw [hb.openOn, Function.update_self]
  obtain ⟨x, hx, -, hxi⟩ := handle?_of_openOn? hopen
  have hcontent : (e.close h).content = e.content := funext fun j => content_close e h j
  have hholder : (e.close h).holder? = d.holder? := by
    funext j
    rw [holder?_close, hx, Option.map_some, hxi, hb.holder]
    by_cases hj : j = i
    · rw [hj, if_pos ⟨rfl, Function.update_self ..⟩, hi]
    · rw [if_neg fun hc => hj (Option.some.inj hc.1).symm, Function.update_of_ne hj]
  have hclosed : (e.close h).openOn? = d.openOn? := by
    funext k
    rw [openOn?_close, hb.openOn, Function.update_apply]
    split
    · rename_i hk
      rw [hk, openOn?_of_ge hh]
    · rfl
  refine ⟨⟨⟨?_, ?_, ?_, hholder, hclosed, rfl, fun hd => (hb.wellFormed hd).close h⟩, ?_⟩, ?_⟩
  · exact (workDir_close e h).trans hb.workDir
  · exact inodes_close e h ▸ hb.inodes
  · exact handles_close e h ▸ hb.handles
  · exact hk.trans (keeps_close e h)
  · exact hcontent.trans hb.content

/-! ### Contents -/

lemma steady_modifyInode (d : Disk) (i : Nat) {f : Inode → Inode}
    (hf : ∀ x, (f x).holder = x.holder) : d.Steady (d.modifyInode i f) where
  workDir := rfl
  inodes := Nat.le_of_eq (length_inodes_modifyInode ..).symm
  handles := Nat.le_refl _
  holder := holder?_modifyInode_of_same d i hf
  openOn := rfl
  content := rfl
  wellFormed hd := hd.modifyInode i fun x h hk => .inl (by rwa [hf] at hk)
  entry _ _ hp := hp

lemma steady_modifyHandle (d : Disk) (h : Nat) {f : Handle → Handle}
    (hi : ∀ x, (f x).inode = x.inode) (ho : ∀ x, (f x).isOpen = x.isOpen) :
    d.Steady (d.modifyHandle h f) where
  workDir := rfl
  inodes := Nat.le_refl _
  handles := Nat.le_of_eq (length_handles_modifyHandle ..).symm
  holder := rfl
  openOn := funext fun k => openOn?_modifyHandle_of_same d h k hi ho
  content := rfl
  wellFormed hd := hd.modifyHandle h hi
  entry _ _ hp := hp

lemma steady_rewind (d : Disk) (h : Nat) : d.Steady (d.rewind h) :=
  steady_modifyHandle d h (fun _ => rfl) fun _ => rfl

lemma steady_truncate (d : Disk) (h : Nat) : d.Steady (d.truncate h) := by
  unfold truncate
  split
  · exact refl_of Steady d
  · exact steady_modifyInode d _ fun _ => rfl

lemma steady_write (d : Disk) (h : Nat) (bs : Bytes) : d.Steady (d.write h bs) := by
  unfold write
  split
  · exact refl_of Steady d
  · refine trans_of Steady (steady_modifyInode d _ ?_) (steady_modifyHandle _ h ?_ ?_)
    · exact fun _ => rfl
    · exact fun _ => rfl
    · exact fun _ => rfl

lemma steady_refill (d : Disk) (h : Nat) (bs : Bytes) :
    d.Steady (((d.rewind h).truncate h).write h bs) :=
  trans_of Steady (trans_of Steady (steady_rewind d h) (steady_truncate _ h)) (steady_write _ h bs)

/-- A file written anew through a handle says what was written. -/
lemma content_refill {h : Nat} {x : Handle} (hx : d.handle? h = some x)
    (hi : x.inode < d.inodes.length) (bs : Bytes) :
    (((d.rewind h).truncate h).write h bs).content = Function.update d.content x.inode bs := by
  have hr : (d.rewind h).handle? h = some { x with position := 0 } := by
    rw [rewind, handle?_modifyHandle, if_pos rfl, hx]
    rfl
  have ht : (d.rewind h).truncate h = (d.rewind h).modifyInode x.inode ({ · with content := [] }) := by
    rw [truncate, hr]
  have hth : ((d.rewind h).truncate h).handle? h = some { x with position := 0 } := by
    rw [ht, handle?_modifyInode, hr]
  unfold write
  rw [hth, ht]
  funext j
  dsimp only
  rw [content_modifyHandle, content_modifyInode, inode?_modifyInode, content_modifyInode,
    Function.update_apply]
  by_cases hj : x.inode = j
  · subst hj
    obtain ⟨y, hy⟩ := inode?_of_lt hi
    have hy' : (d.rewind h).inode? x.inode = some y := hy
    simp [hy', overwrite]
  · have hs : ¬ j = x.inode := fun he => hj he.symm
    rw [if_neg hj, if_neg hj, if_neg hs]
    rfl

lemma becomes_refill {h : Nat} {x : Handle} (hx : d.handle? h = some x)
    (hi : x.inode < d.inodes.length) (bs : Bytes) :
    d.Becomes (((d.rewind h).truncate h).write h bs) d.holder? d.openOn?
      (Function.update d.content x.inode bs) := by
  rw [← content_refill hx hi bs]
  exact (steady_refill d h bs).toBecomes

/-! ### Handles that do not stay -/

variable {i : Nat}

/-- A handle that is opened and closed without a lock leaves nothing behind. -/
lemma quiet_openInode_close (hd : d.WellFormed) (hi : i < d.inodes.length) :
    d.Quiet ((d.openInode i).2.close d.handles.length) where
  workDir := workDir_close _ _
  inodes := by
    rw [inodes_close]
    exact Nat.le_refl _
  handles := by
    rw [handles_close]
    simp [openInode]
  holder := by
    funext j
    rw [holder?_close, if_neg fun hj => Nat.lt_irrefl _ (hd.holder (i := j) hj.2)]
    rfl
  openOn := by
    funext k
    rw [openOn?_close, openOn?_openInode]
    split
    · rename_i hk
      rw [hk, openOn?_of_ge (Nat.le_refl _)]
    · rfl
  content := funext fun j => content_close _ _ j
  wellFormed _ := (hd.openInode hi).close _
  entry := keeps_close (d.openInode i).2 _

lemma quiet_openInode_lock_close (hd : d.WellFormed) (hi : i < d.inodes.length)
    (hf : d.holder? i = none) :
    d.Quiet (((d.openInode i).2.modifyInode i ({ · with holder := some d.handles.length })).close
      d.handles.length) where
  workDir := workDir_close _ _
  inodes := by
    rw [inodes_close, length_inodes_modifyInode]
    exact Nat.le_refl _
  handles := by
    rw [handles_close]
    simp [openInode, modifyInode]
  holder := by
    funext j
    have hx : (d.openInode i).2.handle? d.handles.length = some { inode := i } := by
      simp [openInode, handle?]
    obtain ⟨y, hy⟩ := inode?_of_lt hi
    rw [holder?_close, handle?_modifyInode, hx, holder?_modifyInode]
    by_cases hj : i = j
    · subst hj
      change (if _ ∧ (if i = i then (d.inode? i).bind _ else _) = _ then none else _) = _
      simp [hy, hf]
    · simp only [Option.map_some, Option.some.injEq, hj, false_and, if_false]
      rfl
  openOn := by
    funext k
    rw [openOn?_close, openOn?_modifyInode, openOn?_openInode]
    split
    · rename_i hk
      rw [hk, openOn?_of_ge (Nat.le_refl _)]
    · rfl
  content := by
    funext j
    rw [content_close]
    simp only [content_modifyInode_of_same, implies_true]
    rfl
  wellFormed _ := by
    refine ((hd.openInode hi).modifyInode i fun x k hk => .inr ?_).close _
    obtain rfl := Option.some.inj hk
    simp [openInode]
  entry := keeps_close ((d.openInode i).2.modifyInode i _) _

lemma becomes_openInode_lock_refill (hd : d.WellFormed) (hi : i < d.inodes.length) (bs : Bytes) :
    let e := (d.openInode i).2.modifyInode i ({ · with holder := some d.handles.length })
    let f := ((e.rewind d.handles.length).truncate d.handles.length).write d.handles.length bs
    d.Becomes f (Function.update d.holder? i (some d.handles.length))
        (Function.update d.openOn? d.handles.length (some i)) (Function.update d.content i bs) ∧
      d.Keeps f := by
  intro e f
  have hx : e.handle? d.handles.length = some { inode := i } := by
    simp [e, openInode, handle?, modifyInode]
  have hlen : e.inodes.length = d.inodes.length := length_inodes_modifyInode ..
  have hsame : e.handles.length = d.handles.length + 1 := by
    simp [e, openInode, modifyInode]
  have hb := becomes_refill hx (Nat.lt_of_lt_of_eq hi hlen.symm) bs
  have hk := (steady_refill e d.handles.length bs).entry
  have hh : e.holder? = Function.update d.holder? i (some d.handles.length) := by
    obtain ⟨y, hy⟩ := inode?_of_lt hi
    funext j
    rw [holder?_modifyInode, Function.update_apply]
    by_cases hj : i = j
    · subst hj
      change (if i = i then (d.inode? i).bind _ else _) = _
      simp [hy]
    · have hs : ¬ j = i := fun he => hj he.symm
      rw [if_neg hj, if_neg hs]
      rfl
  have ho : e.openOn? = Function.update d.openOn? d.handles.length (some i) := by
    funext k
    rw [openOn?_modifyInode, openOn?_openInode, Function.update_apply]
  have hc : e.content = d.content := by
    simp only [e, content_modifyInode_of_same, implies_true]
    rfl
  refine ⟨⟨hb.workDir, ?_, ?_, hb.holder.trans hh, hb.openOn.trans ho, ?_, ?_⟩, hk⟩
  · exact hlen ▸ hb.inodes
  · exact Nat.le_trans (hsame ▸ Nat.le_succ _) hb.handles
  · rw [hb.content, hc]
  · intro _
    apply hb.wellFormed
    apply (hd.openInode hi).modifyInode i
    intro x k hk
    right
    obtain rfl := Option.some.inj hk
    simp [openInode]

end SharedVm.Disk
