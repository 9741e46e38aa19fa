import SharedVm.Proofs.Election

/-!
# Operations that may begin to lead

An operation that ends with a new leader has changed the disk as one election does, and one that
ends without has left the locks, the handles and the contents of held files alone. Elections,
inspections, launches and both halves of a run of the command line are such operations.
-/

namespace SharedVm

open Act

/-- No lock and no open handle is different, every entry is there, and held files say what they
said. -/
structure World.Spares (w v : World) : Prop where
  faults : v.faults = w.faults
  disk : w.disk.Steady v.disk
  held : ∀ i, w.disk.holder? i ≠ none → v.disk.content i = w.disk.content i

lemma World.Quiet.spares {w v : World} (h : w.Quiet v) : w.Spares v where
  faults := h.faults
  disk := h.disk.steady
  held i _ := by rw [h.disk.content]

namespace World.Spares

variable {w v : World}

lemma of_elects_close {t : Tenure} {i : Nat} (h : w.Elects v t i) :
    w.Spares { v with disk := v.disk.close t.handle } := by
  obtain ⟨hsteady, hcontent⟩ := h.disk.steady_close h.entry h.new h.free
  refine ⟨h.faults, hsteady, fun j hj => ?_⟩
  have hne : j ≠ i := fun he => hj (he ▸ h.free)
  exact (congrFun hcontent j).trans (Function.update_of_ne hne _ _)

end World.Spares

/-- Either the result begins a tenure, which an election has won, or nothing that was there is
different. -/
def Act.Leads {α : Type} (begun : α → Option Tenure) (a : Act α) : Prop :=
  ∀ w : World, w.Sound → match a.run w with
    | (.error _, v) => w.Quiet v
    | (.ok x, v) => match begun x with
      | none => w.Quiet v
      | some t => ∃ i, w.Elects v t i

namespace Act.Leads

variable {α β : Type} {begun : α → Option Tenure} {told : β → Option Tenure} {a : Act α}

lemma of_quiet_run {w v : World} (ha : Leads begun a) (hw : w.Sound) (hq : w.Quiet v) :
    match a.run v with
    | (.error _, u) => w.Quiet u
    | (.ok x, u) => match begun x with
      | none => w.Quiet u
      | some t => ∃ i, w.Elects u t i := by
  have h := ha v (hw.quiet hq)
  rcases hr : a.run v with ⟨e | x, u⟩ <;> rw [hr] at h
  · exact trans_of World.Quiet hq h
  · dsimp only at h ⊢
    cases hx : begun x with
    | none =>
      rw [hx] at h
      exact trans_of World.Quiet hq h
    | some t =>
      rw [hx] at h
      obtain ⟨i, hi⟩ := h
      exact ⟨i, hi.of_quiet hq⟩

lemma pure {x : α} (hx : begun x = none) : Leads begun (Pure.pure x : Act α) := by
  intro w _
  rw [run_pure]
  dsimp only
  rw [hx]
  exact refl_of World.Quiet w

lemma throw (f : Failure) : Leads begun (MonadExcept.throw f : Act α) :=
  fun w _ => refl_of World.Quiet w

lemma bind_of_quiet {b : Act β} {f : β → Act α} (hb : Within World.Quiet b)
    (hf : ∀ x, Leads begun (f x)) : Leads begun (b >>= f) := by
  intro w hw
  have h := hb w
  rw [run_bind]
  rcases hr : b.run w with ⟨e | x, v⟩ <;> rw [hr] at h
  · exact h
  · exact (hf x).of_quiet_run hw h

/-- An election is followed by something that cannot fail and hands the tenure on. -/
lemma bind {f : α → Act β} (ha : Leads begun a) (hnone : ∀ x, begun x = none → Leads told (f x))
    (hsome : ∀ x t, begun x = some t → ∀ v, ∃ y u, (f x).run v = (.ok y, u) ∧ told y = some t ∧
      v.Quiet u) : Leads told (a >>= f) := by
  intro w hw
  have h := ha w hw
  rw [run_bind]
  rcases hr : a.run w with ⟨e | x, v⟩ <;> rw [hr] at h
  · exact h
  · dsimp only at h ⊢
    cases hx : begun x with
    | none =>
      rw [hx] at h
      exact (hnone x hx).of_quiet_run hw h
    | some t =>
      rw [hx] at h
      obtain ⟨i, hi⟩ := h
      obtain ⟨y, u, hrun, hy, hq⟩ := hsome x t hx v
      rw [hrun]
      dsimp only
      rw [hy]
      exact ⟨i, hi.trans_quiet hq⟩

lemma bind_of_none {f : α → Act β} (ha : Leads (fun _ => none) a) (hf : ∀ x, Leads told (f x)) :
    Leads told (a >>= f) := ha.bind (fun x _ => hf x) fun _ _ h => nomatch h

lemma map (g : α → β) (ha : Leads (told ∘ g) a) : Leads told (g <$> a) := by
  intro w hw
  have h := ha w hw
  rw [run_map]
  rcases hr : a.run w with ⟨e | x, v⟩ <;> rw [hr] at h <;> exact h

lemma tryCatch {f : Failure → Act α} (ha : Leads begun a) (hf : ∀ e, Leads begun (f e)) :
    Leads begun (MonadExcept.tryCatch a f) := by
  intro w hw
  have h := ha w hw
  have ht : (MonadExcept.tryCatch a f).run w = _ := run_tryCatch a f w
  rw [ht]
  rcases hr : a.run w with ⟨e | x, v⟩ <;> rw [hr] at h
  · exact (hf e).of_quiet_run hw h
  · exact h

end Act.Leads

open Act.Leads

/-! ### Elections and inspections -/

def Standing.tenure? : Standing → Option Tenure
  | .elected handle lock port => some { handle, lock, port }
  | .led _ _ => none

namespace Election

variable {lock : Path} {u w : World}

lemma lt_of_touched {d e : Disk} {i : Nat} (ht : d.Touched e lock i) (hd : d.WellFormed) :
    i < e.inodes.length := by
  obtain ⟨place, -, hp⟩ := Disk.file_eq_ok_iff.1 ht.file
  exact (ht.quiet.wellFormed hd).file hp

/-- A new handle on a file that has been touched is elected if nobody holds the lock. -/
lemma elects {e : Disk} {i : Nat} {n : Int} {ns : List Notice} (hu : u.disk.Touched e lock i)
    (hd : u.disk.WellFormed) (hh : e.holder? i = none) (hp : Port.isPublishable n = true)
    (hn : Failure.ofName? lock.text = none) :
    u.Elects { u with disk := published e i n, notices := ns } ⟨e.handles.length, lock, n⟩ i := by
  have he : e.WellFormed := hu.quiet.wellFormed hd
  have hi : i < e.inodes.length := lt_of_touched hu hd
  obtain ⟨hb, hk⟩ := Disk.becomes_openInode_lock_refill he hi (Utf8.encode (Decimal.ofInt n))
  have helects : World.Elects { u with disk := e } { u with disk := published e i n, notices := ns }
      ⟨e.handles.length, lock, n⟩ i := {
    faults := rfl
    usable := hp
    name := hn
    free := hh
    new := Nat.le_refl _
    disk := hb
    entry := hk
    file := Disk.Keeps.file hk hb.workDir hu.file }
  exact World.Elects.of_quiet (w := { u with disk := e }) ⟨hu.quiet, rfl⟩ helects

/-- A candidate is elected or leaves everything as it was, whatever other handles are open. -/
lemma stand_changes (candidate : Value) {lockAct : Act Path}
    (hl : Act.Within World.Quiet lockAct) (hf : w.faults = {}) (hd : w.disk.WellFormed) :
    match (stand candidate lockAct).run w with
    | (.error _, v) => w.Quiet v
    | (.ok s, v) => match s.tenure? with
      | none => w.Quiet v
      | some t => ∃ i, w.Elects v t i := by
  by_cases hr : ∀ n, candidate.whole = .ok n → Port.isPublishable n = false
  · obtain ⟨f, hrun⟩ := run_stand_rejected hr lockAct w
    rw [hrun]
    exact refl_of World.Quiet w
  · push Not at hr
    obtain ⟨n, hn, hp⟩ := hr
    rw [ne_eq, Bool.not_eq_false] at hp
    have hquiet := hl w
    rcases hr : lockAct.run w with ⟨f | lock, u⟩ <;> rw [hr] at hquiet
    · rw [run_stand_unplaced hn hp hr]
      exact hquiet
    · have huf : u.faults = {} := hquiet.faults.trans hf
      have hud : u.disk.WellFormed := hquiet.disk.wellFormed hd
      -- with a port and a path, what becomes of the candidate depends on the lock file alone
      rcases LockFile.run_openAt_cases lock u with ⟨f, v, ho, hv⟩ | ⟨i, e, ht, ho⟩
      · obtain ⟨g, hrun⟩ := run_stand_unopened hn hp hr ho
        rw [hrun]
        exact trans_of World.Quiet hquiet hv
      · have he : e.WellFormed := ht.quiet.wellFormed hud
        have hi : i < e.inodes.length := lt_of_touched ht hud
        by_cases hh : e.holder? i = none
        · rw [run_stand_free hn hp hr ho (by rw [huf]) he hh (by rw [huf])]
          have hname := LockFile.name_of_openAt ho
          exact ⟨i, (elects ht hud hh hp hname).of_quiet hquiet⟩
        · obtain ⟨ns, hrun⟩ :=
            run_stand_held hn hp hr ho (by rw [huf]) (by rw [huf]) he hh
          have hv : w.Quiet { u with
              disk := (e.openInode i).2.close e.handles.length
              notices := u.notices ++ ns } :=
            ⟨hquiet.disk.trans (ht.quiet.trans (Disk.quiet_openInode_close he hi)), hquiet.faults⟩
          rw [hrun]
          cases LockFile.portOf (e.content i) with
          | error f => exact hv
          | ok port => exact hv

theorem stand_leads (candidate : Value) {lockAct : Act Path}
    (hl : Act.Within World.Quiet lockAct) :
    Act.Leads Standing.tenure? (stand candidate lockAct) := by
  intro w hw
  have h := stand_changes candidate hl hw.faults hw.wellFormed
  rcases hrun : (stand candidate lockAct).run w with ⟨f | s, v⟩ <;> rw [hrun] at h
  · exact h
  · cases s with
    | elected handle lock port => exact h
    | led lock port => exact h

theorem inspect_leads {lockAct : Act Path} (hl : Act.Within World.Quiet lockAct) :
    Act.Leads (fun _ => none) (inspect lockAct) := by
  intro w hw
  have hquiet := hl w
  rcases hr : lockAct.run w with ⟨f | lock, u⟩ <;> rw [hr] at hquiet
  · rw [inspect, run_bind_of_error hr]
    exact hquiet
  · have hu : u.Sound := hw.quiet hquiet
    obtain ⟨r, hthere⟩ : ∃ r, (isThere lock).run u = (r, u) := ⟨_, run_isThere lock u⟩
    rcases r with f | there
    · rw [inspect, run_bind_of_ok hr, run_bind_of_error hthere]
      exact hquiet
    · cases there with
      | false =>
        rw [inspect, run_bind_of_ok hr, run_bind_of_ok hthere]
        exact hquiet
      | true =>
        rcases run_openFile_cases lock u with ⟨f, ho⟩ | ⟨i, hfile, ho⟩
        · rw [inspect, run_bind_of_ok hr, run_bind_of_ok hthere, if_neg (by decide),
            run_bind_of_error ho]
          exact hquiet
        · have hi : i < u.disk.inodes.length := by
            obtain ⟨place, -, hp⟩ := Disk.file_eq_ok_iff.1 hfile
            exact hu.wellFormed.file hp
          obtain ⟨hfree, hheld⟩ := run_inspect hr hthere ho hu.faults hu.wellFormed
          by_cases hh : u.disk.holder? i = none
          · rw [hfree hh]
            have hclose := Disk.quiet_openInode_lock_close hu.wellFormed hi hh
            exact ⟨hquiet.disk.trans hclose, hquiet.faults⟩
          · obtain ⟨ns, hrun⟩ := hheld hh
            have hclose := Disk.quiet_openInode_close hu.wellFormed hi
            have hv : w.Quiet { u with
                disk := (u.disk.openInode i).2.close u.disk.handles.length
                notices := u.notices ++ ns } := ⟨hquiet.disk.trans hclose, hquiet.faults⟩
            rw [hrun]
            cases LockFile.portOf (u.disk.content i) with
            | error f => exact hv
            | ok port => exact hv

end Election

/-! ### Launches -/

def Leader.tenure {α : Type} (l : Leader α) : Tenure :=
  { handle := l.handle, lock := l.lock, port := l.port }

def Launched.tenure? {α : Type} : Launched α → Option Tenure
  | .requested _ _ => none
  | .leading leader => some leader.tenure

/-- A launch becomes the leader by an election or leaves everything as it was, whatever other handles
are open. -/
lemma Launch.run_changes {α : Type} (l : Launch α) {prepare : List α → Act Value}
    (hp : Act.Within World.Quiet (prepare l.overrides)) {w : World} (hf : w.faults = {})
    (hd : w.disk.WellFormed) :
    ((∀ leader, ((l.run prepare).run w).1 ≠ .ok (.leading leader)) →
      w.Quiet ((l.run prepare).run w).2) ∧
    ∀ leader, ((l.run prepare).run w).1 = .ok (.leading leader) →
      ∃ i, w.Elects ((l.run prepare).run w).2 leader.tenure i := by
  rcases l.run_proceeds prepare byExchange w with ⟨f, hrun⟩ | ⟨command, args, base, -, -, hrest⟩
  · rw [hrun]
    exact ⟨fun _ => refl_of World.Quiet w, fun _ h => by cases h⟩
  · have hdeliver := fun port env => within_deliver quiet_edges l base port command args env
    rcases hrest with ⟨port, -, hrun⟩ | ⟨-, lock, -, hrun⟩
    · rw [hrun]
      exact ⟨fun _ => within_askOnce hp (hdeliver _) port w,
        fun leader h => absurd h ((askOnce_makes w).ne_leading leader)⟩
    · have hstand := Election.stand_changes l.serverPort (Act.Within.pure lock) hf hd
      rw [hrun, compete, run_bind]
      rcases hs : (Election.stand l.serverPort (pure lock)).run w with ⟨f | s, v⟩ <;> rw [hs] at hstand
      · exact ⟨fun _ => hstand, fun _ h => by cases h⟩
      · cases s with
        | elected handle path port =>
          obtain ⟨i, hi⟩ := hstand
          refine ⟨fun h => absurd rfl (h _), ?_⟩
          rintro leader ⟨⟩
          exact ⟨i, hi.trans_quiet (Act.Within.quiet_note (.elected path port) v)⟩
        | led path port =>
          cases port with
          | none => exact ⟨fun _ => hstand, fun _ h => by cases h⟩
          | some port =>
            dsimp only
            rw [run_bind_of_ok (run_note _ _)]
            refine ⟨fun _ => trans_of World.Quiet hstand (trans_of World.Quiet
              (Act.Within.quiet_note (.forwarding command port) v) ?_),
              fun leader h => absurd h ((askLeader_makes _).ne_leading leader)⟩
            exact within_askLeader Act.Within.quiet_note (fun _ => Act.Within.quiet_event _) hp
              (hdeliver _) port _

theorem Launch.run_leads {α : Type} (l : Launch α) {prepare : List α → Act Value}
    (hp : ∀ overrides, Act.Within World.Quiet (prepare overrides)) :
    Act.Leads Launched.tenure? (l.run prepare) := by
  intro w hw
  obtain ⟨hquiet, helects⟩ := l.run_changes (hp l.overrides) hw.faults hw.wellFormed
  rcases hrun : (l.run prepare).run w with ⟨f | x, v⟩ <;> rw [hrun] at hquiet helects
  · exact hquiet nofun
  · cases x with
    | requested port attempts => exact hquiet nofun
    | leading leader => exact helects leader rfl

/-! ### Runs of the command line -/

namespace CommandLine

lemma status_leads : Act.Leads (fun _ => none) status := by
  refine Act.Leads.bind_of_none (Act.Leads.tryCatch (Act.Leads.map _ ?_) fun f => ?_) fun found => ?_
  · exact Election.inspect_leads (Act.Within.bind Act.Within.environ Election.within_lockOf)
  · split
    · exact Act.Leads.pure rfl
    · exact Act.Leads.throw _
  · split
    · exact Act.Leads.pure rfl
    · exact Act.Leads.bind_of_quiet (Act.Within.unlessRefused _) fun _ => Act.Leads.pure rfl

lemma filled_short {overrides : List (Option Override)} :
    (filled overrides).2 = true ↔ none ∈ overrides := by
  induction overrides with
  | nil => simp [filled]
  | cons o rest ih =>
    cases o with
    | none => simp [filled]
    | some v => simpa [filled] using ih

lemma run_startCommand (leader : Leader (Option Override)) (w : World) :
    (none ∈ leader.overrides ∧ (startCommand leader).run w =
        (.error .emptyOverride, { w with disk := w.disk.close leader.handle })) ∨
      ∃ es, (startCommand leader).run w = (.ok (), { w with events := es }) := by
  unfold startCommand
  dsimp only
  split
  · rename_i hshort
    exact .inl ⟨filled_short.1 hshort, rfl⟩
  · exact .inr ⟨_, rfl⟩

/-- What the first half of a run does: a run that is over changes nothing that was there, and one
whose command runs has won an election. A run that fails may have held the lock for a moment. -/
def Begins (a : Act Begun) : Prop :=
  ∀ w : World, w.Sound → match a.run w with
    | (.error _, v) => w.Spares v
    | (.ok (.done _), v) => w.Quiet v
    | (.ok (.running leader), v) => ∃ i, w.Elects v leader.tenure i

lemma Begins.throw (f : Failure) : Begins (MonadExcept.throw f : Act Begun) :=
  fun w _ => (refl_of World.Quiet w).spares

/-- Without a tenure the run is over, and with one the command of the leader is started. -/
lemma Begins.of_leads {α : Type} {begun : α → Option Tenure} {a : Act α} {f : α → Act Begun}
    (ha : Act.Leads begun a) (hnone : ∀ x, begun x = none → ∃ o, f x = return .done o)
    (hsome : ∀ x t, begun x = some t → ∃ leader : Leader (Option Override), leader.tenure = t ∧
      f x = (do startCommand leader; return .running leader)) : Begins (a >>= f) := by
  intro w hw
  have h := ha w hw
  rw [run_bind]
  rcases hr : a.run w with ⟨e | x, v⟩ <;> rw [hr] at h
  · exact World.Quiet.spares h
  · dsimp only at h ⊢
    cases hx : begun x with
    | none =>
      obtain ⟨o, ho⟩ := hnone x hx
      rw [hx] at h
      rw [ho]
      exact h
    | some t =>
      obtain ⟨leader, rfl, hf⟩ := hsome x t hx
      rw [hx] at h
      obtain ⟨i, hi⟩ := h
      rw [hf]
      rcases run_startCommand leader v with ⟨-, hs⟩ | ⟨es, hs⟩
      · rw [run_bind_of_error hs]
        exact World.Spares.of_elects_close hi
      · rw [run_bind_of_ok hs]
        exact ⟨i, hi.trans_quiet (.of_disk rfl rfl)⟩

lemma beginLaunch_begins (s : Settings) : Begins (beginLaunch s) := by
  have hlaunch : ∀ launch : Launch (Option Override),
      Act.Leads (fun r : Except Failure (Launched (Option Override)) =>
        r.toOption.bind Launched.tenure?) (Except.ok <$> launch.run prepare) :=
    fun launch => Act.Leads.map Except.ok (launch.run_leads (within_prepare Act.Within.quiet_note))
  unfold beginLaunch
  split
  · exact fun w _ => refl_of World.Quiet w
  · cases s.port with
    | none => exact Begins.throw _
    | some port =>
      cases s.retryDelay with
      | none => exact Begins.throw _
      | some delay =>
        dsimp only
        rw [pure_bind, pure_bind]
        refine Begins.of_leads (Act.Leads.tryCatch (hlaunch _) fun f => ?_) ?_ ?_
        · split
          · exact Act.Leads.pure rfl
          · exact Act.Leads.throw _
        · intro launched hx
          cases launched with
          | error f => exact ⟨_, rfl⟩
          | ok l =>
            cases l with
            | requested port attempts => exact ⟨_, rfl⟩
            | leading leader => cases hx
        · intro launched t hx
          cases launched with
          | error f => cases hx
          | ok l =>
            cases l with
            | requested port attempts => cases hx
            | leading leader => exact ⟨leader, Option.some.inj hx, rfl⟩

/-- What a run comes to whose command has ended. -/
inductive Concludes (leader : Leader (Option Override)) :
    Ending → Except Failure Outcome → Prop
  | exited (code : Int) : Concludes leader (.exited code) (.ok { code })
  | missing {r : Report} (h : r.isNotFound = true) : Concludes leader (.failed r)
    (.ok { code := 127, err := message ("command not found: " ++ leader.command.display) })
  | failed {r : Report} (h : r.isNotFound = false) :
    Concludes leader (.failed r) (.error (.report r))

lemma finish_concludes {leader : Leader (Option Override)} {w v : World}
    (h : (LockFile.release leader.handle).run w = (.ok (), v)) (ending : Ending) :
    ∃ r, Concludes leader ending r ∧ (finish leader ending).run w = (r, v) := by
  unfold finish
  rw [run_bind_of_ok h]
  cases ending with
  | exited code => exact ⟨_, .exited code, rfl⟩
  | failed r =>
    cases hr : r.isNotFound with
    | true => exact ⟨_, .missing hr, by dsimp only; rw [if_pos hr]; rfl⟩
    | false => exact ⟨_, .failed hr, by dsimp only; rw [hr]; rfl⟩

theorem start_begins (args : List Text) : Begins (start args) := by
  unfold start
  cases read args with
  | error stop => exact fun w _ => refl_of World.Quiet w
  | ok c =>
    cases c with
    | status =>
      intro w hw
      have h := status_leads w hw
      dsimp only
      rw [run_bind]
      rcases hr : status.run w with ⟨f | o, v⟩ <;> rw [hr] at h
      · exact h.spares
      · exact h
    | launch settings => exact beginLaunch_begins settings

end CommandLine

end SharedVm
