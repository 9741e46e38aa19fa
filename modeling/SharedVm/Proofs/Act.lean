import SharedVm.World
import Mathlib.Order.Defs.Unbundled
import Mathlib.Tactic.Lemma

/-!
# Runs of operations

How each way to build an operation runs, as equations, and operations that stay within a relation
between the world before and the world after, whether they fail or not. A preorder passes from the
parts of an operation to the whole.
-/

namespace SharedVm.Act

variable {α β : Type}

@[simp] lemma run_pure (a : α) (w : World) : (pure a : Act α).run w = (.ok a, w) := rfl

@[simp] lemma run_throw (f : Failure) (w : World) : (throw f : Act α).run w = (.error f, w) := rfl

@[simp] lemma run_fail (f : Failure) (w : World) : (fail f : Act α).run w = (.error f, w) := rfl

@[simp] lemma run_misconfigured (m : Misconfiguration) (w : World) :
    (misconfigured m : Act α).run w = (.error (.misconfigured m), w) := rfl

@[simp] lemma run_get (w : World) : (get : Act World).run w = (.ok w, w) := rfl

@[simp] lemma run_set (v w : World) : (set v : Act Unit).run w = (.ok (), v) := rfl

@[simp] lemma run_modify (f : World → World) (w : World) :
    (modify f : Act Unit).run w = (.ok (), f w) := rfl

@[simp] lemma run_event (e : Event) (w : World) :
    (event e).run w = (.ok (), { w with events := w.events ++ [e] }) := rfl

@[simp] lemma run_note (n : Notice) (w : World) :
    (note n).run w = (.ok (), { w with notices := w.notices ++ [n] }) := rfl

@[simp] lemma run_disk (w : World) : disk.run w = (.ok w.disk, w) := rfl

@[simp] lemma run_environ (w : World) : environ.run w = (.ok w.environ, w) := rfl

@[simp] lemma run_users (w : World) : users.run w = (.ok w.system.users, w) := rfl

@[simp] lemma run_setDisk (d : Disk) (w : World) :
    (setDisk d).run w = (.ok (), { w with disk := d }) := rfl

@[simp] lemma run_ofExcept (r : Except Failure α) (w : World) : (ofExcept r).run w = (r, w) := by
  cases r <;> rfl

lemma run_whole {v : Value} {r : Except WholeError Int} (h : v.whole = r) (w : World) :
    (whole v).run w = (r.mapError .notWhole, w) := by
  rw [whole, run_ofExcept, h]

lemma run_whole_of_ok {v : Value} {n : Int} (h : v.whole = .ok n) (w : World) :
    (whole v).run w = (.ok n, w) := run_whole h w

lemma run_bind (a : Act α) (f : α → Act β) (w : World) :
    (a >>= f).run w = match a.run w with
      | (.ok x, v) => (f x).run v
      | (.error e, v) => (.error e, v) := by
  have h : (a >>= f).run w = (ExceptT.bindCont f (a w).1) (a w).2 := rfl
  rw [h, run]
  rcases a w with ⟨_ | _, v⟩ <;> rfl

lemma run_bind_of_ok {a : Act α} {w v : World} {x : α} (h : a.run w = (.ok x, v)) (f : α → Act β) :
    (a >>= f).run w = (f x).run v := by
  rw [run_bind, h]

lemma run_bind_of_error {a : Act α} {w v : World} {e : Failure} (h : a.run w = (.error e, v))
    (f : α → Act β) : (a >>= f).run w = (.error e, v) := by
  rw [run_bind, h]

lemma run_tryCatch (a : Act α) (f : Failure → Act α) (w : World) :
    (tryCatch a f).run w = match a.run w with
      | (.ok x, v) => (.ok x, v)
      | (.error e, v) => (f e).run v := by
  change ExceptT.tryCatch a f w = _
  unfold ExceptT.tryCatch ExceptT.mk run
  rw [show ∀ g : Except Failure α → StateM World (Except Failure α),
    (bind (m := StateM World) a g) w = g (a w).1 (a w).2 from fun _ => rfl]
  rcases a w with ⟨_ | _, v⟩ <;> rfl

lemma run_tryCatch_of_ok {a : Act α} {w v : World} {x : α} (h : a.run w = (.ok x, v))
    (f : Failure → Act α) : (tryCatch a f).run w = (.ok x, v) := by
  rw [run_tryCatch, h]

lemma run_tryCatch_of_error {a : Act α} {w v : World} {e : Failure} (h : a.run w = (.error e, v))
    (f : Failure → Act α) : (tryCatch a f).run w = (f e).run v := by
  rw [run_tryCatch, h]

@[simp] lemma run_map (f : α → β) (a : Act α) (w : World) :
    (f <$> a).run w = ((a.run w).1.map f, (a.run w).2) := by
  rw [map_eq_pure_bind, run_bind]
  rcases a.run w with ⟨_ | _, v⟩ <;> rfl

lemma run_ensuring (a : Act α) (c : Act Unit) (w : World) :
    (ensuring a c).run w = match c.run (a.run w).2 with
      | (.ok _, v) => ((a.run w).1, v)
      | (.error e, v) => (.error e, v) := by
  have h : (tryCatch (Except.ok <$> a) fun f => pure (.error f)).run w =
      (.ok (a.run w).1, (a.run w).2) := by
    rw [run_tryCatch, run_map]
    rcases a.run w with ⟨_ | _, v⟩ <;> rfl
  unfold ensuring
  rw [run_bind_of_ok h, run_bind]
  rcases c.run (a.run w).2 with ⟨_ | _, v⟩
  · rfl
  · exact run_ofExcept _ _

lemma run_mayFail_of_none {fault : Faults → Option Report} {w : World} (h : fault w.faults = none) :
    (mayFail fault).run w = (.ok (), w) := by
  unfold mayFail
  rw [run_bind_of_ok (run_get w), h]
  rfl

lemma run_mayFail_of_some {fault : Faults → Option Report} {w : World} {r : Report}
    (h : fault w.faults = some r) : (mayFail fault).run w = (.error (.report r), w) := by
  unfold mayFail
  rw [run_bind_of_ok (run_get w), h]
  rfl

lemma run_unlessRefused (refusal : System → Option Failure) (w : World) :
    (unlessRefused refusal).run w = (match refusal w.system with
      | some f => .error f
      | none => .ok (), w) := by
  unfold unlessRefused
  rw [run_bind_of_ok (run_get w)]
  cases refusal w.system <;> rfl

lemma run_sleep (delay : Value) (w : World) :
    (sleep delay).run w = match w.system.sleeping delay with
      | some f => (.error f, w)
      | none => (.ok (), { w with events := w.events ++ [.sleep delay] }) := by
  unfold sleep
  rw [run_bind, run_unlessRefused]
  cases w.system.sleeping delay <;> rfl

lemma run_ask (p : Path) (fault : Faults → Option Report) (f : Disk → Except DiskError α)
    (w : World) : (ask p fault f).run w =
      (match Failure.ofName? p.text, fault w.faults with
        | some e, _ => .error e
        | none, some r => .error (.report r)
        | none, none => (f w.disk).mapError fun x => .report (x.report p.text), w) := by
  unfold ask checkPath
  cases Failure.ofName? p.text with
  | some e => rfl
  | none =>
    rw [run_bind_of_ok (run_pure _ w)]
    cases hr : fault w.faults with
    | some r => exact run_bind_of_error (run_mayFail_of_some hr) _
    | none =>
      rw [run_bind_of_ok (run_mayFail_of_none hr), run_bind_of_ok (run_disk w)]
      dsimp only
      cases f w.disk <;> rfl

lemma run_readFile (p : Path) (w : World) : (readFile p).run w =
    (match Failure.ofName? p.text, w.faults.opening p with
      | some f, _ => .error f
      | none, some r => .error (.report r)
      | none, none => match w.disk.file p with
        | .ok i => .ok (w.disk.content i)
        | .error x => .error (.report (x.report p.text)), w) := by
  unfold readFile
  rw [run_bind, run_ask]
  cases Failure.ofName? p.text with
  | some f => rfl
  | none =>
    cases w.faults.opening p with
    | some r => rfl
    | none => cases w.disk.file p <;> rfl

lemma run_openFile (p : Path) (w : World) : (openFile p).run w =
    match Failure.ofName? p.text, w.faults.opening p with
      | some f, _ => (.error f, w)
      | none, some r => (.error (.report r), w)
      | none, none => match w.disk.file p with
        | .ok i => (.ok w.disk.handles.length, { w with disk := (w.disk.openInode i).2 })
        | .error x => (.error (.report (x.report p.text)), w) := by
  unfold openFile
  rw [run_bind, run_ask]
  cases Failure.ofName? p.text with
  | some f => rfl
  | none =>
    cases w.faults.opening p with
    | some r => rfl
    | none => cases w.disk.file p <;> rfl

lemma run_absent (r : Report) (w : World) :
    (absent r).run w = (if r.isAbsence then .ok false else .error (.report r), w) := by
  unfold absent
  split <;> rfl

lemma run_isThere (p : Path) (w : World) : (isThere p).run w =
    (match Failure.ofName? p.text, w.faults.stat p with
      | some _, _ => .ok false
      | none, some r => if r.isAbsence then .ok false else .error (.report r)
      | none, none => match w.disk.stat p with
        | .ok _ => .ok true
        | .error .nameTooLong => .error (.report (DiskError.nameTooLong.report p.text))
        | .error _ => .ok false, w) := by
  unfold isThere
  cases Failure.ofName? p.text with
  | some f => rfl
  | none =>
    rw [if_neg (by decide), run_bind_of_ok (run_get w)]
    cases w.faults.stat p with
    | some r => exact run_absent r w
    | none =>
      refine (run_bind_of_ok (run_disk w) _).trans ?_
      cases w.disk.stat p with
      | ok n => rfl
      | error x => cases x <;> rfl

/-- That a directory could not be made is no failure if it is there. -/
lemma run_settleDirectory (p : Path) (r : Report) (w : World) :
    (settleDirectory p r).run w = (.error (.report r), w) ∨
      (∃ r', w.faults.stat p = some r' ∧ (settleDirectory p r).run w = (.error (.report r'), w)) ∨
      w.disk.isDirectory p = true ∧ (settleDirectory p r).run w = (.ok (), w) := by
  unfold settleDirectory
  split
  · exact .inl rfl
  · rw [run_bind_of_ok (run_get w)]
    cases w.faults.stat p with
    | some r' =>
      dsimp only
      unfold absent
      split
      · exact .inl rfl
      · exact .inr (.inl ⟨r', rfl, rfl⟩)
    | none =>
      dsimp only
      rw [run_bind_of_ok (run_disk w)]
      cases hd : w.disk.isDirectory p with
      | false => exact .inl rfl
      | true => exact .inr (.inr ⟨rfl, rfl⟩)

/-- Whatever becomes of the operation, the world after it is related to the world before it. -/
def Within (R : World → World → Prop) (a : Act α) : Prop := ∀ w, R w (a.run w).2

namespace Within

variable {R : World → World → Prop} [IsPreorder World R]

lemma pure (a : α) : Within R (Pure.pure a : Act α) := fun w => refl_of R w

lemma throw (f : Failure) : Within R (MonadExcept.throw f : Act α) := fun w => refl_of R w

lemma misconfigured (m : Misconfiguration) : Within R (Act.misconfigured m : Act α) :=
  fun w => refl_of R w

lemma get : Within R (MonadState.get : Act World) := fun w => refl_of R w

lemma disk : Within R Act.disk := fun w => refl_of R w

lemma environ : Within R Act.environ := fun w => refl_of R w

lemma users : Within R Act.users := fun w => refl_of R w

lemma ofExcept (r : Except Failure α) : Within R (Act.ofExcept r) := by
  intro w
  rw [run_ofExcept]
  exact refl_of R w

lemma bind {a : Act α} {f : α → Act β} (ha : Within R a) (hf : ∀ x, Within R (f x)) :
    Within R (a >>= f) := by
  intro w
  have h := ha w
  rw [run_bind]
  rcases hr : a.run w with ⟨e | x, v⟩ <;> rw [hr] at h
  · exact h
  · exact trans_of R h (hf x v)

lemma tryCatch {a : Act α} {f : Failure → Act α} (ha : Within R a) (hf : ∀ e, Within R (f e)) :
    Within R (MonadExcept.tryCatch a f) := by
  intro w
  have h := ha w
  have ht : (MonadExcept.tryCatch a f).run w = _ := run_tryCatch a f w
  rw [ht]
  rcases hr : a.run w with ⟨e | x, v⟩ <;> rw [hr] at h
  · exact trans_of R h (hf e v)
  · exact h

omit [IsPreorder World R] in
lemma map {a : Act α} (f : α → β) (ha : Within R a) : Within R (f <$> a) := by
  intro w
  rw [run_map]
  exact ha w

lemma ensuring {a : Act α} {c : Act Unit} (ha : Within R a) (hc : Within R c) :
    Within R (Act.ensuring a c) := by
  intro w
  have h := trans_of R (ha w) (hc (a.run w).2)
  rw [run_ensuring]
  rcases hr : c.run (a.run w).2 with ⟨_ | _, v⟩ <;> rw [hr] at h <;> exact h

lemma orReport {a : Act α} {cause : Report → Act α} (ha : Within R a)
    (hc : ∀ r, Within R (cause r)) : Within R (Act.orReport a cause) := by
  refine tryCatch ha fun f => ?_
  split
  · split
    · exact hc _
    · exact throw _
  · exact throw _

lemma guard {c : Prop} [Decidable c] {a : Act Unit} {f : Unit → Act α} (ha : Within R a)
    (hf : ∀ x, Within R (f x)) : Within R (if c then a >>= f else f ()) := by
  split
  · exact bind ha hf
  · exact hf ()

lemma mayFail (fault : Faults → Option Report) : Within R (Act.mayFail fault) := by
  refine bind get fun w => ?_
  split
  · exact throw _
  · exact pure _

lemma checkPath (t : Text) : Within R (Act.checkPath t) := by
  unfold Act.checkPath
  split
  · exact throw _
  · exact pure _

lemma unlessRefused (refusal : System → Option Failure) : Within R (Act.unlessRefused refusal) := by
  intro w
  rw [run_unlessRefused]
  exact refl_of R w

lemma ask (p : Path) (fault : Faults → Option Report) (f : Disk → Except DiskError α) :
    Within R (Act.ask p fault f) := by
  intro w
  rw [run_ask]
  exact refl_of R w

lemma absent (r : Report) : Within R (Act.absent r) := by
  unfold Act.absent
  split
  · exact pure _
  · exact throw _

lemma isThere (p : Path) : Within R (Act.isThere p) := by
  unfold Act.isThere
  split
  · exact pure _
  · refine bind get fun w => ?_
    split
    · exact absent _
    · refine bind disk fun d => ?_
      split
      · exact pure _
      · exact throw _
      · exact pure _

lemma settleDirectory (p : Path) (r : Report) : Within R (Act.settleDirectory p r) := by
  have hthere : ∀ b : Bool, Within R
      (if !b then MonadExcept.throw (Failure.report r) else Pure.pure () : Act Unit) := by
    intro b
    split
    · exact throw _
    · exact pure _
  unfold Act.settleDirectory
  split
  · exact throw _
  · refine bind get fun w => ?_
    split
    · exact bind (absent _) hthere
    · exact bind disk fun d => hthere _

lemma makeDirectories {p : Path}
    (h : ∀ w, R w { w with disk := (w.disk.makeDirectories p).2 }) :
    Within R (Act.makeDirectories p) := by
  refine bind (checkPath _) fun _ => bind get fun v => ?_
  split
  · exact settleDirectory _ _
  · intro w
    have hw := h w
    rw [run_bind_of_ok (run_disk w)]
    rcases hm : w.disk.makeDirectories p with ⟨failed, d⟩
    rw [hm] at hw
    rcases failed with _ | ⟨e, at'⟩ <;> exact hw

/-- A change of the disk, and then something else. -/
lemma update {f : Disk → Disk} (hf : ∀ w, R w { w with disk := f w.disk }) {g : Unit → Act α}
    (hg : ∀ x, Within R (g x)) : Within R (Act.disk >>= fun d => setDisk (f d) >>= g) := by
  intro w
  rw [run_bind_of_ok (run_disk w), run_bind_of_ok (run_setDisk _ w)]
  exact trans_of R (hf w) (hg () _)

lemma readFile (p : Path) : Within R (Act.readFile p) :=
  bind (ask _ _ _) fun _ => bind disk fun _ => pure _

end Within

end SharedVm.Act
