import SharedVm.Proofs.Session.Turn
import SharedVm.Session

/-!
# What an operation of a session changes

Every operation that leaves the locks to elections and to giving up is one of the turns: what it
answers says which tenure it begins, and its handle which tenure it ends or publishes for.
-/

namespace SharedVm.Session

open Act Act.Within

/-! ### Operations from outside -/

lemma rewrites_of_quiet {α : Type} {a : Act α} (ha : Within World.Quiet a) :
    Within World.Rewrites a := fun w => (ha w).spares.rewrites

lemma run_writeFile_cases (file : Path) (content : Bytes) (executable : Bool) (w : World) :
    (∃ f v, (writeFile file content executable).run w = (.error f, v) ∧ w.Quiet v) ∨
      ∃ i e, w.disk.Touched e file i ∧ (writeFile file content executable).run w =
        (.ok (), { w with disk := e.modifyInode i ({ · with content, executable }) }) := by
  unfold writeFile
  rcases run_makeDirectories_cases file.parent w with ⟨f, v, hm, hv⟩ | ⟨-, hm⟩
  · exact .inl ⟨f, v, run_bind_of_error hm _, hv⟩
  · have hq : w.Quiet { w with disk := (w.disk.makeDirectories file.parent).2 } :=
      ⟨Disk.quiet_makeDirectories w.disk file.parent, rfl⟩
    rw [run_bind_of_ok hm]
    rcases run_checkPath_cases file.text _ with ⟨f, hc⟩ | hc
    · exact .inl ⟨f, _, run_bind_of_error hc _, hq⟩
    · rw [run_bind_of_ok hc, run_bind_of_ok (run_disk _)]
      cases ht : (w.disk.makeDirectories file.parent).2.touch file with
      | error x => exact .inl ⟨_, _, rfl, hq⟩
      | ok found => exact .inr ⟨found.1, found.2, Disk.touched_of_touch ht, rfl⟩

lemma rewrites_writeFile (file : Path) (content : Bytes) (executable : Bool) :
    Within World.Rewrites (writeFile file content executable) := by
  intro w
  rcases run_writeFile_cases file content executable w with ⟨f, v, hrun, hv⟩ | ⟨i, e, ht, hrun⟩
  · rw [hrun]
    exact hv.spares.rewrites
  · have hm := Disk.steady_modifyInode e i (f := fun x => { x with content, executable }) fun _ => rfl
    rw [hrun]
    exact ⟨rfl, trans_of Disk.Steady ht.quiet.steady hm⟩

lemma rewrites_fill (directory : Path) (names : List Text) :
    Within World.Rewrites (do
      Act.makeDirectories directory
      for name in names do writeFile (directory.child name) [] false
      return .nothing : Act Result) := by
  refine bind (rewrites_of_quiet (quiet_makeDirectories _)) fun _ => bind ?_ fun _ => pure _
  induction names with
  | nil => exact pure _
  | cons name rest ih =>
    rw [List.forIn_cons]
    simp only [bind_assoc, pure_bind]
    exact bind (rewrites_writeFile _ _ _) fun _ => ih

lemma run_removeFile_cases (file : Path) (w : World) :
    (∃ f, (removeFile file).run w = (.error f, w)) ∨
      ∃ place v, w.disk.locate file = .ok place ∧ (removeFile file).run w = (.ok (), v) ∧
        w.Removes v place := by
  unfold removeFile
  rw [run_bind, run_ask]
  cases Failure.ofName? file.text with
  | some f => exact .inl ⟨f, rfl⟩
  | none =>
    cases hd : w.disk.remove file with
    | error x => exact .inl ⟨_, rfl⟩
    | ok d =>
      obtain ⟨place, i, hl, hp, hentry, hb⟩ := Disk.remove_cases hd
      refine .inr ⟨place, { w with disk := d }, hl, rfl, rfl, hb, ?_, ?_⟩
      · intro q hq
        have hne : q ≠ place := by
          rintro rfl
          rw [hp] at hq
          cases hq
        rw [hentry, if_neg hne, hq]
      · intro q hq
        rw [hentry, if_neg hq]

/-! ### Operations with a handle -/

/-- A port that has a decimal text of no more digits than a number may have. -/
def IsDecimal (port : Value) : Prop :=
  ∃ n, port.whole = .ok n ∧ (Decimal.ofNat n.natAbs).length ≤ Decimal.limit

lemma run_publish_cases {w : World} (hw : w.Sound) (h : Nat) (port : Value) :
    (∃ f, (LockFile.publish h port).run w = (.error f, w)) ∨
      (∃ f v, (LockFile.publish h port).run w = (.error f, v) ∧ w.Rewrites v ∧ ¬ IsDecimal port) ∨
      ∃ i n v, port.whole = .ok n ∧ (LockFile.publish h port).run w = (.ok (), v) ∧
        w.Publishes v h i n := by
  cases ho : w.disk.isOpen h with
  | false => exact .inl ⟨.seekClosed, LockFile.run_publish_closed ho port⟩
  | true =>
    have hcut : w.Rewrites { w with disk := (w.disk.rewind h).truncate h } :=
      ⟨rfl, trans_of Disk.Steady (Disk.steady_rewind _ h) (Disk.steady_truncate _ h)⟩
    cases hn : port.whole with
    | error x =>
      refine .inr (.inl ⟨_, _, LockFile.run_publish_of_error ho hn, hcut, ?_⟩)
      rintro ⟨m, hm, -⟩
      rw [hn] at hm
      cases hm
    | ok n =>
      by_cases hl : (Decimal.ofNat n.natAbs).length ≤ Decimal.limit
      · obtain ⟨i, hi⟩ := Disk.isOpen_iff.1 ho
        obtain ⟨x, hx, -, rfl⟩ := Disk.handle?_of_openOn? hi
        have hwritten := (Decimal.write?_eq_some_iff n).2 hl
        have hrun := LockFile.run_publish ho hn hwritten (by rw [hw.faults])
        refine .inr (.inr ⟨x.inode, n, _, rfl, hrun, rfl, hwritten, hi, ?_, ?_⟩)
        · exact Disk.becomes_refill hx (hw.wellFormed.openOn?_lt hi) _
        · exact (Disk.steady_refill w.disk h _).entry
      · have hnone : Decimal.write? n = none := if_neg hl
        refine .inr (.inl ⟨_, _, LockFile.run_publish_of_none ho hn hnone, hcut, ?_⟩)
        rintro ⟨m, hm, hlen⟩
        rw [hn, Except.ok.injEq] at hm
        exact hl (hm ▸ hlen)

lemma rewrites_replace (h : Nat) (bs : Bytes) : Within World.Rewrites (LockFile.replace h bs) := by
  intro w
  cases ho : w.disk.isOpen h with
  | false =>
    unfold LockFile.replace
    rw [run_bind_of_ok (run_disk w), ho]
    exact refl_of World.Rewrites w
  | true =>
    unfold LockFile.replace
    rw [run_bind_of_ok (run_disk w), ho]
    exact ⟨rfl, Disk.steady_refill w.disk h bs⟩

lemma vacates_release {w : World} (hw : w.Sound) (h : Nat) :
    (LockFile.release h).run w = (.ok (), { w with disk := w.disk.close h }) ∧
      w.Vacates { w with disk := w.disk.close h } h :=
  ⟨LockFile.run_release (by rw [hw.faults]) h, rfl, Disk.becomes_close hw.settled h,
    Disk.keeps_close w.disk h⟩

/-! ### Every operation -/

def Result.tenure? : Result → Option Tenure
  | .standing s => s.tenure?
  | .launched l => l.tenure?
  | _ => none

def tenuresWith (ts : List Tenure) : Except Failure Result → List Tenure
  | .ok r => ts ++ r.tenure?.toList
  | .error _ => ts

/-- The tenures after an operation with this result. -/
def tenuresAfter (s : State) (ts : List Tenure) (o : Operation) (r : Except Failure Result) :
    List Tenure :=
  match o, r with
  | .release name _, _ => match s.handles.get? name with
    | some h => ts.filter (·.handle ≠ h)
    | none => ts
  | .publish name port, .ok _ => match s.handles.get? name, port.whole with
    | some h, .ok n => ts.map (·.republish h n)
    | _, _ => ts
  | .publish _ _, .error _ => ts
  | _, r => tenuresWith ts r

/-- Operations of the program itself, and what others may do to its files and variables. Locks are
taken by elections only, and handles are closed by giving them up. -/
def Operation.IsOrdinary : Operation → Prop
  | .close _ | .openAt _ | .take _ _ | .release _ (some _) => False
  | _ => True

/-- Ports that are published have a decimal text, and nothing is written to held files from
outside. -/
def Operation.IsCareful (s : State) (o : Operation) : Prop :=
  match o with
  | .publish _ port => IsDecimal port
  | .write .. | .fill .. | .replace .. => ∀ i, s.world.disk.holder? i ≠ none →
    ((perform s o).run s.world).2.disk.content i = s.world.disk.content i
  | _ => True

/-- The places that an operation takes a file away from. -/
def Operation.Unlinks (s : State) (o : Operation) (place : Location) : Prop :=
  ∃ file, o = .remove file ∧ s.world.disk.locate file = .ok place

section Perform

variable {gone : Location → Prop} {outside : Prop} {s : State} {ts : List Tenure}

lemma turn_of_leads {a : Act Result} (ha : Leads Result.tenure? a) (hs : s.world.Sound) :
    Turn gone outside s.world (a.run s.world).2 ts (tenuresWith ts (a.run s.world).1) := by
  have h := ha s.world hs
  rcases hr : a.run s.world with ⟨f | r, v⟩ <;> rw [hr] at h
  · exact .spares (World.Quiet.spares h)
  · dsimp only [tenuresWith] at h ⊢
    cases ht : r.tenure? with
    | none =>
      rw [ht] at h
      rw [Option.toList_none, List.append_nil]
      exact .spares h.spares
    | some t =>
      rw [ht] at h
      obtain ⟨i, hi⟩ := h
      exact .elects t i hi

lemma tenuresWith_nothing {α : Type} (a : Act α) (w : World) :
    tenuresWith ts ((do let _ ← a; return .nothing : Act Result).run w).1 = ts := by
  rw [run_bind]
  rcases a.run w with ⟨f | x, v⟩
  · rfl
  · exact List.append_nil ts

/-- An operation from outside that is careful leaves held files alone. -/
lemma turn_of_rewrites {o : Operation} {a : Act Result} (ha : Within World.Rewrites a)
    (ht : tenuresWith ts (a.run s.world).1 = ts)
    (ho : o.IsCareful s → ∀ i, s.world.disk.holder? i ≠ none →
      (a.run s.world).2.disk.content i = s.world.disk.content i) :
    Turn gone (¬ o.IsCareful s) s.world (a.run s.world).2 ts (tenuresWith ts (a.run s.world).1) := by
  rw [ht]
  by_cases hc : o.IsCareful s
  · exact .spares ⟨(ha s.world).faults, (ha s.world).disk, ho hc⟩
  · exact .rewrites hc (ha s.world)

lemma turn_of_asking {α : Type} {a : Act α} {f : α → Result} (ha : Within World.Quiet a)
    (hs : s.world.Sound) (hf : ∀ x, (f x).tenure? = none) :
    Turn gone outside s.world ((do return f (← a) : Act Result).run s.world).2 ts
      (tenuresWith ts ((do return f (← a) : Act Result).run s.world).1) :=
  turn_of_leads (Act.Leads.bind_of_quiet ha fun x => Act.Leads.pure (hf x)) hs

lemma turn_publish (hs : s.world.Sound) (name : Text) (port : Value) :
    Turn gone (¬ IsDecimal port) s.world ((perform s (.publish name port)).run s.world).2 ts
      (tenuresAfter s ts (.publish name port) ((perform s (.publish name port)).run s.world).1) := by
  have hspares := (refl_of World.Quiet s.world).spares
  unfold perform withHandle
  dsimp only
  cases hh : s.handles.get? name with
  | none => exact .spares hspares
  | some h =>
    dsimp only
    rcases run_publish_cases hs h port with ⟨f, hr⟩ | ⟨f, v, hr, hv, hd⟩ | ⟨i, n, v, hn, hr, hv⟩
    · rw [run_bind_of_error hr]
      exact .spares hspares
    · rw [run_bind_of_error hr]
      exact .rewrites hd hv
    · rw [run_bind_of_ok hr, run_pure, tenuresAfter, hh, hn]
      exact .publishes h i n hv

lemma turn_release (hs : s.world.Sound) (name : Text) :
    Turn gone outside s.world ((perform s (.release name none)).run s.world).2 ts
      (tenuresAfter s ts (.release name none) ((perform s (.release name none)).run s.world).1) := by
  unfold perform withHandle tenuresAfter
  dsimp only
  cases s.handles.get? name with
  | none => exact .spares (refl_of World.Quiet s.world).spares
  | some h =>
    obtain ⟨hrun, hv⟩ := vacates_release hs h
    dsimp only
    rw [run_bind_of_ok hrun, run_bind_of_ok (run_disk _), run_pure]
    exact .vacates h hv

lemma turn_remove (file : Path) :
    Turn ((Operation.remove file).Unlinks s) outside s.world
      ((perform s (.remove file)).run s.world).2 ts
      (tenuresAfter s ts (.remove file) ((perform s (.remove file)).run s.world).1) := by
  unfold perform
  dsimp only
  rcases run_removeFile_cases file s.world with ⟨f, hr⟩ | ⟨place, v, hl, hr, hv⟩
  · rw [run_bind_of_error hr]
    exact .spares (refl_of World.Quiet s.world).spares
  · rw [run_bind_of_ok hr, run_pure]
    change Turn _ _ _ _ ts (ts ++ [])
    rw [List.append_nil]
    exact .removes place ⟨file, rfl, hl⟩ hv

lemma turn_fill (directory : Path) (names : List Text) :
    Turn gone (¬ (Operation.fill directory names).IsCareful s) s.world
      ((perform s (.fill directory names)).run s.world).2 ts
      (tenuresWith ts ((perform s (.fill directory names)).run s.world).1) := by
  refine turn_of_rewrites (rewrites_fill directory names) ?_ id
  rw [perform, run_bind]
  rcases (Act.makeDirectories directory).run s.world with ⟨f | x, v⟩
  · rfl
  · exact tenuresWith_nothing _ v

lemma turn_replace (name : Text) (content : Bytes) :
    Turn gone (¬ (Operation.replace name content).IsCareful s) s.world
      ((perform s (.replace name content)).run s.world).2 ts
      (tenuresWith ts ((perform s (.replace name content)).run s.world).1) := by
  cases hh : s.handles.get? name with
  | none =>
    have hp : perform s (.replace name content) = MonadExcept.throw (.nameUnknown name) := by
      unfold perform withHandle
      dsimp only
      rw [hh]
    rw [hp]
    exact .spares (refl_of World.Quiet s.world).spares
  | some h =>
    have hp : perform s (.replace name content) = do
        LockFile.replace h content
        return .nothing := by
      unfold perform withHandle
      dsimp only
      rw [hh]
    refine turn_of_rewrites ?_ ?_ id
    · rw [hp]
      exact bind (rewrites_replace h content) fun _ => pure _
    · rw [hp]
      exact tenuresWith_nothing _ _

lemma turn_withRelay (hs : s.world.Sound) (name : Text) {f : Relay → Act Result}
    (hf : ∀ r, Act.Leads Result.tenure? (f r)) :
    Turn gone outside s.world ((withRelay s name f).run s.world).2 ts
      (tenuresWith ts ((withRelay s name f).run s.world).1) := by
  refine turn_of_leads ?_ hs
  unfold withRelay
  split
  · exact hf _
  · exact Act.Leads.throw _

/-- Every ordinary operation is a turn. -/
theorem perform_turn (ts : List Tenure) (hs : s.world.Sound) {o : Operation} (ho : o.IsOrdinary) :
    Turn (o.Unlinks s) (¬ o.IsCareful s) s.world ((perform s o).run s.world).2 ts
      (tenuresAfter s ts o ((perform s o).run s.world).1) := by
  cases o with
  | close handle => exact ho.elim
  | openAt lock => exact ho.elim
  | take handle blocking => exact ho.elim
  | stand port lock =>
    exact turn_of_leads (Act.Leads.map Result.standing
      (Election.stand_leads port (within_lockOr lock))) hs
  | inspect lock =>
    exact turn_of_leads (Act.Leads.bind_of_none (Election.inspect_leads (within_lockOr lock))
      fun _ => Act.Leads.pure rfl) hs
  | launch l preparation =>
    have hp := within_prepare quiet_note (fun _ => quiet_event _) preparation
    exact turn_of_leads (Act.Leads.map Result.launched (l.run_leads hp)) hs
  | publish name port => exact turn_publish hs name port
  | release name closeFails =>
    cases closeFails with
    | none => exact turn_release hs name
    | some r => exact ho.elim
  | remove file => exact turn_remove file
  | write file content executable =>
    exact turn_of_rewrites (bind (rewrites_writeFile file content executable) fun _ => pure _)
      (tenuresWith_nothing _ _) id
  | fill directory names => exact turn_fill directory names
  | replace name content => exact turn_replace name content
  | setEnviron env =>
    exact turn_of_leads (Act.Leads.bind_of_quiet (fun _ => .of_disk rfl rfl)
      fun _ => Act.Leads.pure rfl) hs
  | makeDirectory directory =>
    exact turn_of_leads (Act.Leads.bind_of_quiet (quiet_makeDirectories directory)
      fun _ => Act.Leads.pure rfl) hs
  | readPort lock => exact turn_of_asking (LockFile.within_readPort quiet_note lock) hs fun _ => rfl
  | freePort base ports =>
    exact turn_of_leads (Act.Leads.bind_of_quiet (ofExcept _) fun ports =>
      Act.Leads.bind_of_quiet (Relay.within_freePort Value.display base ports)
        fun _ => Act.Leads.pure rfl) hs
  | startRelay base binary host =>
    exact turn_of_leads (Act.Leads.bind_of_quiet (within_hostOr host) fun env =>
      Act.Leads.bind_of_quiet (Relay.within_start quiet_edges base binary env) fun _ => Act.Leads.pure rfl) hs
  | waitRelay relay =>
    exact turn_withRelay hs relay fun r =>
      Act.Leads.bind_of_quiet (r.within_wait quiet_talks) fun _ => Act.Leads.pure rfl
  | endRelay relay =>
    exact turn_withRelay hs relay fun r =>
      Act.Leads.bind_of_quiet (r.within_terminate quiet_talks) fun _ => Act.Leads.pure rfl
  | findProgram program host =>
    exact turn_of_leads (Act.Leads.bind_of_quiet (within_hostOr host) fun env =>
      Act.Leads.bind_of_quiet (Program.within_find env program) fun _ => Act.Leads.pure rfl) hs
  | findCompanion program running host =>
    exact turn_of_leads (Act.Leads.bind_of_quiet (within_hostOr host) fun env =>
      Act.Leads.bind_of_quiet (Program.within_companion env program running)
        fun _ => Act.Leads.pure rfl) hs
  | guestVars overrides host compatible =>
    exact turn_of_leads (Act.Leads.bind_of_quiet get fun w =>
      Act.Leads.bind_of_quiet (within_hostOr host) fun env =>
        Act.Leads.bind_of_quiet (Guest.within_vars quiet_note env _ overrides) fun _ => Act.Leads.pure rfl) hs
  | processVars overrides host =>
    exact turn_of_asking (f := fun env => .processVars (env.forProcess overrides))
      (within_hostOr host) hs fun _ => rfl

end Perform

end SharedVm.Session
