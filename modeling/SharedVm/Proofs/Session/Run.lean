import SharedVm.Proofs.Session.Perform
import Mathlib.Logic.Relation

/-!
# Runs of a session

A session moves from moment to moment: an operation is performed, a run of the command line is
started or finished, or what surrounds the session changes. So the operations that take place while
the command of a leader runs are moves like any other. Every session of ordinary steps is such a
run, and each move is one of the turns.
-/

namespace SharedVm.Session

open Act

/-- A state, and the tenures of those who were elected and have not given up. -/
structure Moment where
  state : State
  tenures : List Tenure

def State.named (s : State) (name : Option Text) : Except Failure Result → State
  | .ok r => s.remember name r
  | .error _ => s

def tenuresBegun (ts : List Tenure) : Except Failure CommandLine.Begun → List Tenure
  | .ok (.running leader) => ts ++ [leader.tenure]
  | _ => ts

namespace Moment

abbrev world (m : Moment) : World := m.state.world

def perform (m : Moment) (name : Option Text) (o : Operation) : Moment :=
  let ran := (Session.perform m.state o).run m.world
  { state := { m.state.named name ran.1 with world := ran.2 }
    tenures := tenuresAfter m.state m.tenures o ran.1 }

def start (m : Moment) (args : List Text) : Moment :=
  let ran := (CommandLine.start args).run m.world
  { state := { m.state with world := ran.2 }, tenures := tenuresBegun m.tenures ran.1 }

def finish (m : Moment) (leader : Leader (Option Override)) (ending : CommandLine.Ending) : Moment :=
  let ran := (CommandLine.finish leader ending).run m.world
  { state := { m.state with world := ran.2 }
    tenures := m.tenures.filter (·.handle ≠ leader.handle) }

/-- The moment with other tapes, another trace and another log. -/
def surround (m : Moment) (peers : List Peer) (relays : List RelayProcess) (events : List Event)
    (notices : List Notice) : Moment :=
  { m with state := { m.state with world := { m.world with peers, relays, events, notices } } }

end Moment

/-- One move of a session that performs allowed operations only. -/
inductive Move (allowed : State → Operation → Prop) (m : Moment) : Moment → Prop
  | performs (name : Option Text) (o : Operation) (ho : allowed m.state o) :
    Move allowed m (m.perform name o)
  | starts (args : List Text) : Move allowed m (m.start args)
  | finishes (leader : Leader (Option Override)) (ending : CommandLine.Ending) :
    Move allowed m (m.finish leader ending)
  | surrounds (peers : List Peer) (relays : List RelayProcess) (events : List Event)
      (notices : List Notice) : Move allowed m (m.surround peers relays events notices)

lemma Move.mono {allowed allowed' : State → Operation → Prop} {m n : Moment}
    (ha : ∀ s o, allowed s o → allowed' s o) (h : Move allowed m n) : Move allowed' m n := by
  cases h with
  | performs name o ho => exact .performs name o (ha _ o ho)
  | starts args => exact .starts args
  | finishes leader ending => exact .finishes leader ending
  | surrounds peers relays events notices => exact .surrounds peers relays events notices

abbrev Runs (allowed : State → Operation → Prop) : Moment → Moment → Prop :=
  Relation.ReflTransGen (Move allowed)

section Turns

variable {allowed : State → Operation → Prop} {m n : Moment}

lemma run_finish {w : World} (hw : w.Sound) (leader : Leader (Option Override))
    (ending : CommandLine.Ending) :
    ∃ r, CommandLine.Concludes leader ending r ∧ (CommandLine.finish leader ending).run w =
      (r, { w with disk := w.disk.close leader.handle }) :=
  CommandLine.finish_concludes (vacates_release hw leader.handle).1 ending

/-- Every move is a turn, which takes away no file and writes nothing from outside but what an
allowed operation does. -/
theorem Move.turn (h : Move allowed m n) (hm : m.world.Sound)
    (ho : ∀ s o, allowed s o → o.IsOrdinary) :
    Turn (fun place => ∃ o, allowed m.state o ∧ o.Unlinks m.state place)
      (∃ o, allowed m.state o ∧ ¬ o.IsCareful m.state) m.world n.world m.tenures n.tenures := by
  cases h with
  | surrounds peers relays events notices =>
    have hq : m.world.Quiet (m.surround peers relays events notices).world := .of_disk rfl rfl
    exact .spares hq.spares
  | performs name o hallowed =>
    have ht := perform_turn m.tenures hm (ho _ o hallowed)
    exact ht.mono (fun place hp => ⟨o, hallowed, hp⟩) fun hc => ⟨o, hallowed, hc⟩
  | starts args =>
    have hb := CommandLine.start_begins args m.world hm
    unfold Moment.start Moment.world at *
    dsimp only
    rcases hr : (CommandLine.start args).run m.world with ⟨f | b, v⟩ <;> rw [hr] at hb
    · exact .spares hb
    · cases b with
      | done outcome => exact .spares (World.Quiet.spares hb)
      | running leader =>
        obtain ⟨i, hi⟩ := hb
        exact .elects leader.tenure i hi
  | finishes leader ending =>
    obtain ⟨r, -, hr⟩ := run_finish hm leader ending
    unfold Moment.finish
    dsimp only [Moment.world]
    rw [hr]
    exact .vacates leader.handle (vacates_release hm leader.handle).2

/-- A moment in which nobody holds a lock and no handle is open; files may say anything. -/
structure Moment.IsFresh (m : Moment) : Prop where
  tenures : m.tenures = []
  faults : m.world.faults = {}
  wellFormed : m.world.disk.WellFormed
  free : ∀ i, m.world.disk.holder? i = none
  closed : ∀ h, m.world.disk.openOn? h = none

lemma Moment.IsFresh.ruled (h : m.IsFresh) : Ruled m.world m.tenures where
  faults := h.faults
  wellFormed := h.wellFormed
  settled i k := by simp [h.free, h.closed]
  handles k := by simp [h.tenures, h.closed]
  distinct := by simp [h.tenures]

lemma isFresh_initial (env : Environ) : (⟨initial env, []⟩ : Moment).IsFresh where
  tenures := rfl
  faults := rfl
  wellFormed := Disk.wellFormed_empty
  free _ := rfl
  closed _ := rfl

/-- In every run the open handles are those of the tenures. -/
theorem Runs.ruled (h : Runs allowed m n) (ho : ∀ s o, allowed s o → o.IsOrdinary)
    (hm : Ruled m.world m.tenures) : Ruled n.world n.tenures := by
  induction h with
  | refl => exact hm
  | tail _ hmove ih => exact ih.turn (hmove.turn ih.toSound ho)

/-- In a run that takes no file away from where a path leads, whoever was elected there keeps the
lock of the file there. -/
theorem Runs.seated (h : Runs allowed m n) (ho : ∀ s o, allowed s o → o.IsOrdinary) {p : Path}
    (hp : ∀ s o, allowed s o → ∀ place, o.Unlinks s place → s.world.disk.locate p ≠ .ok place)
    (hm : Ruled m.world m.tenures) (hs : Seated p m.world m.tenures) :
    Seated p n.world n.tenures := by
  induction h with
  | refl => exact hs
  | tail hruns hmove ih =>
    have hr := Runs.ruled hruns ho hm
    exact ih.turn (hmove.turn hr.toSound ho) fun place ⟨o, hallowed, hu⟩ => hp _ o hallowed place hu

/-- In a careful run the files of the tenures say their ports. -/
theorem Runs.truthful (h : Runs allowed m n) (ho : ∀ s o, allowed s o → o.IsOrdinary)
    (hc : ∀ s o, allowed s o → o.IsCareful s) (hm : Ruled m.world m.tenures)
    (ht : Truthful m.world m.tenures) : Truthful n.world n.tenures := by
  induction h with
  | refl => exact ht
  | tail hruns hmove ih =>
    have hr := Runs.ruled hruns ho hm
    have hturn := (hmove.turn hr.toSound ho).mono (fun _ => id) fun ⟨o, hallowed, hn⟩ =>
      hn (hc _ o hallowed)
    exact ih.turn hr hturn

end Turns

/-! ### Sessions are runs -/

/-- Steps with these operations, also while the command of a leader runs, in which no call fails of
itself. -/
inductive Step.Has (p : Operation → Prop) : Step → Prop
  | one (setting : Setting) (o : Operation) (hf : setting.faults = {}) (ho : p o) :
    Step.Has p (.one setting o)
  | commandLine (setting : Setting) (args : List Text) (ending : CommandLine.Ending)
      (meanwhile : Option (List Step)) (hf : setting.faults = {})
      (hm : ∀ steps ∈ meanwhile, ∀ step ∈ steps, Step.Has p step) :
    Step.Has p (.commandLine setting args ending meanwhile)

lemma enter_eq {w : World} {setting : Setting} (hw : w.faults = {}) (hs : setting.faults = {}) :
    enter w setting = { w with
      peers := setting.peers, relays := setting.relays, events := [], notices := [] } := by
  unfold enter
  rw [hw, hs]
  rfl

lemma leave_eq {w v : World} (hw : w.faults = {}) (hv : v.faults = {}) :
    leave w v = { v with
      peers := w.peers, relays := w.relays, events := w.events, notices := w.notices } := by
  unfold leave
  rw [hw, ← hv]

/-- What a name is given for does not depend on the world. -/
lemma named_withWorld (s : State) (w v : World) (name : Option Text) (r : Except Failure Result) :
    ({ State.named { s with world := w } name r with world := v } : State) =
      { s.named name r with world := v } := by
  cases r with
  | error f => rfl
  | ok r =>
    cases r with
    | standing x => cases x <;> cases name <;> rfl
    | launched l => cases l <;> cases name <;> rfl
    | relay r => cases name <;> rfl
    | _ => rfl

lemma perform_withWorld (s : State) (w : World) (o : Operation) :
    perform { s with world := w } o = perform s o := by
  cases o <;> rfl

lemma perform_moment (s : State) (w : World) (ts : List Tenure) (name : Option Text)
    (o : Operation) :
    Moment.perform ⟨{ s with world := w }, ts⟩ name o =
      ⟨{ s.named name ((perform s o).run w).1 with world := ((perform s o).run w).2 },
        tenuresAfter { s with world := w } ts o ((perform s o).run w).1⟩ := by
  unfold Moment.perform
  dsimp only [Moment.world]
  rw [perform_withWorld, named_withWorld]

lemma state_runOne (s : State) (setting : Setting) {o : Operation}
    (ho : ∀ lock, o ≠ .openAt lock) :
    (runOne s setting o).state =
      { s.named setting.name ((perform s o).run (enter s.world setting)).1 with
        world := leave s.world ((perform s o).run (enter s.world setting)).2 } := by
  unfold runOne State.named
  dsimp only
  rcases (perform s o).run (enter s.world setting) with ⟨f | r, w⟩
  · rfl
  · cases o with
    | openAt lock => exact absurd rfl (ho lock)
    | _ => rfl

/-- Moves that make up steps with operations of a kind: from moments of the kind `I`, an operation,
the two halves of a run of the command line, and a change of what surrounds the session are each a
move. `mine` are the leaders whose command may be over. -/
structure MovesBy (p : Operation → Prop) (R : Moment → Moment → Prop) (I : Moment → Prop)
    (mine : Leader (Option Override) → Prop) : Prop where
  ordinary : ∀ {o}, p o → o.IsOrdinary
  ruled : ∀ {m}, I m → Ruled m.world m.tenures
  keeps : ∀ {m n}, I m → R m n → I n
  surrounds : ∀ {m} (peers : List Peer) (relays : List RelayProcess) (events : List Event)
    (notices : List Notice), I m → R m (m.surround peers relays events notices)
  performs : ∀ {m o} (name : Option Text), I m → p o → R m (m.perform name o)
  starts : ∀ {m} (args : List Text), I m → R m (m.start args)
  running : ∀ {m args leader w}, I m →
    (CommandLine.start args).run m.world = (.ok (.running leader), w) → mine leader
  finishes : ∀ {m leader} (ending : CommandLine.Ending), I m → mine leader →
    R m (m.finish leader ending)

namespace MovesBy

variable {p : Operation → Prop} {R : Moment → Moment → Prop} {I : Moment → Prop}
  {mine : Leader (Option Override) → Prop} {s : State} {ts : List Tenure}

section Run

variable (hR : MovesBy p R I mine)

include hR

lemma keeps_run {m n : Moment} (hI : I m) (h : Relation.ReflTransGen R m n) : I n := by
  induction h with
  | refl => exact hI
  | tail _ hmove ih => exact hR.keeps ih hmove

lemma enter (hI : I ⟨s, ts⟩) {setting : Setting} (hf : setting.faults = {}) :
    R ⟨s, ts⟩ ⟨{ s with world := Session.enter s.world setting }, ts⟩ := by
  rw [enter_eq (hR.ruled hI).faults hf]
  exact hR.surrounds setting.peers setting.relays [] [] hI

lemma leave {w : World} (hw : w.faults = {}) (hI : I ⟨s, ts⟩) :
    R ⟨s, ts⟩ ⟨{ s with world := Session.leave w s.world }, ts⟩ := by
  rw [leave_eq hw (hR.ruled hI).faults]
  exact hR.surrounds w.peers w.relays w.events w.notices hI

lemma runOne {setting : Setting} {o : Operation} (hf : setting.faults = {}) (ho : p o)
    (hI : I ⟨s, ts⟩) :
    ∃ us, Relation.ReflTransGen R ⟨s, ts⟩ ⟨(Session.runOne s setting o).state, us⟩ := by
  have henter := hR.enter hI hf
  have hperform := hR.performs setting.name (hR.keeps hI henter) ho
  have hrun := (Relation.ReflTransGen.single henter).tail hperform
  rw [perform_moment] at hrun
  have hleave := hR.leave (hR.ruled hI).faults (hR.keeps_run hI hrun)
  have hopen : ∀ lock, o ≠ .openAt lock := fun lock he => by
    have hord := hR.ordinary ho
    rw [he] at hord
    exact hord
  rw [state_runOne s setting hopen]
  exact ⟨_, hrun.tail hleave⟩

lemma runAll {steps : List Step}
    (h : ∀ step ∈ steps, ∀ s ts, I ⟨s, ts⟩ →
      ∃ us, Relation.ReflTransGen R ⟨s, ts⟩ ⟨(step.run s).state, us⟩) (hI : I ⟨s, ts⟩) :
    ∃ us, Relation.ReflTransGen R ⟨s, ts⟩ ⟨(Session.runAll s steps).2.1, us⟩ := by
  induction steps generalizing s ts with
  | nil =>
    rw [Session.runAll]
    exact ⟨ts, .refl⟩
  | cons step rest ih =>
    obtain ⟨us, hstep⟩ := h step List.mem_cons_self s ts hI
    obtain ⟨vs, hrest⟩ :=
      ih (fun x hx => h x (List.mem_cons_of_mem _ hx)) (hR.keeps_run hI hstep)
    rw [Session.runAll]
    exact ⟨vs, hstep.trans hrest⟩

lemma finish {w : World} (hw : w.faults = {}) (hI : I ⟨s, ts⟩) {leader : Leader (Option Override)}
    (hl : mine leader) (ending : CommandLine.Ending) :
    Relation.ReflTransGen R ⟨s, ts⟩
      ⟨{ s with world := Session.leave w ((CommandLine.finish leader ending).run s.world).2 },
        ts.filter (·.handle ≠ leader.handle)⟩ := by
  have hfinish := hR.finishes ending hI hl
  exact (Relation.ReflTransGen.single hfinish).tail (hR.leave hw (hR.keeps hI hfinish))

/-- One step, with everything that takes place in it, is made up of moves. -/
lemma step {step : Step} (h : step.Has p) : ∀ s ts, I ⟨s, ts⟩ →
    ∃ us, Relation.ReflTransGen R ⟨s, ts⟩ ⟨(step.run s).state, us⟩ := by
  induction h with
  | one setting o hf ho =>
    intro s ts hI
    rw [Step.run]
    exact hR.runOne hf ho hI
  | commandLine setting args ending meanwhile hf hm ih =>
    intro s ts hI
    have hw := (hR.ruled hI).faults
    have henter := hR.enter hI hf
    have hentered := hR.keeps hI henter
    have hstart := (Relation.ReflTransGen.single henter).tail (hR.starts args hentered)
    have hI' := hR.keeps_run hI hstart
    rw [Step.run]
    unfold Moment.start at hstart hI'
    dsimp only [Moment.world] at hstart hI' ⊢
    rcases hb : (CommandLine.start args).run (Session.enter s.world setting) with ⟨f | b, w⟩ <;>
      rw [hb] at hstart hI'
    · exact ⟨_, hstart.tail (hR.leave hw hI')⟩
    · cases b with
      | done outcome => exact ⟨_, hstart.tail (hR.leave hw hI')⟩
      | running leader =>
        have hmine := hR.running hentered hb
        -- nothing happens meanwhile unless there are steps and the command has been started
        have hdirect := hstart.trans (hR.finish hw hI' hmine ending)
        cases meanwhile with
        | none => exact ⟨_, hdirect⟩
        | some steps =>
          cases hexit : ending.isExit with
          | false => exact ⟨_, hdirect⟩
          | true =>
            -- the steps meanwhile find the log empty and leave a run that the command's end goes on
            have hsilent := hstart.tail (hR.surrounds w.peers w.relays w.events [] hI')
            obtain ⟨us, hsteps⟩ := hR.runAll (ih steps rfl) (hR.keeps_run hI hsilent)
            have hall := hsilent.trans hsteps
            exact ⟨_, hall.trans (hR.finish hw (hR.keeps_run hI hall) hmine ending)⟩

/-- Every session of steps with operations of a kind is made up of moves. -/
theorem session {steps : List Step} (h : ∀ step ∈ steps, step.Has p) (hI : I ⟨s, ts⟩) :
    ∃ us, Relation.ReflTransGen R ⟨s, ts⟩ ⟨(Session.runAll s steps).2.1, us⟩ :=
  hR.runAll (fun step hstep => hR.step (h step hstep)) hI

end Run

lemma move (hp : ∀ o, p o → o.IsOrdinary) :
    MovesBy p (Move fun _ => p) (fun m => Ruled m.world m.tenures) fun _ => True where
  ordinary := hp _
  ruled := id
  keeps hr h := hr.turn (h.turn hr.toSound fun _ => hp)
  surrounds peers relays events notices _ := .surrounds peers relays events notices
  performs name _ ho := .performs name _ ho
  starts args _ := .starts args
  running _ _ := trivial
  finishes ending _ _ := .finishes _ ending

end MovesBy

/-- Every session of steps with operations of a kind is a run with operations of that kind. -/
theorem session_runs {p : Operation → Prop} {s : State} {ts : List Tenure}
    (hp : ∀ o, p o → o.IsOrdinary) {steps : List Step} (h : ∀ step ∈ steps, step.Has p)
    (hr : Ruled s.world ts) : ∃ us, Runs (fun _ => p) ⟨s, ts⟩ ⟨(runAll s steps).2.1, us⟩ :=
  (MovesBy.move hp).session h hr

end SharedVm.Session
