import SharedVm.Environ
import SharedVm.Proofs.Bindings
import SharedVm.Proofs.Decimal

/-!
# What environments mean

The variables of a command beside the virtual machine, name by name, and what is the same in two
environments that agree on the names which are looked up there.
-/

namespace SharedVm.Environ

/-! ### Overrides -/

/-- The value that an override gives to a name, if it gives it one. -/
def given? (name : Text) : Override → Option Value
  | (_, .null) => none
  | (key, v) => if key = name then some v else none

/-- The value of the last override that gives a name one. -/
def lastGiven? (overrides : List Override) (name : Text) : Option Value :=
  overrides.reverse.findSome? (given? name)

lemma lastGiven?_cons (o : Override) (rest : List Override) (name : Text) :
    lastGiven? (o :: rest) name = (lastGiven? rest name).or (given? name o) := by
  unfold lastGiven?
  rw [List.reverse_cons, List.findSome?_append, List.findSome?_singleton]

/-- Bindings with an override that has a value. -/
def overridden (b : Bindings Value) : Override → Bindings Value
  | (_, .null) => b
  | (name, v) => b.set name v

lemma get?_overridden (b : Bindings Value) (o : Override) (name : Text) :
    (overridden b o).get? name = (given? name o).or (b.get? name) := by
  obtain ⟨key, v⟩ := o
  cases v with
  | null => rfl
  | _ =>
    simp only [overridden, given?, Bindings.get?_set]
    split <;> rfl

lemma get?_foldl_overridden (overrides : List Override) (b : Bindings Value) (name : Text) :
    (overrides.foldl overridden b).get? name = (lastGiven? overrides name).or (b.get? name) := by
  induction overrides generalizing b with
  | nil => rfl
  | cons o rest ih =>
    rw [List.foldl_cons, ih, get?_overridden, lastGiven?_cons, Option.or_assoc]

lemma distinct_foldl_overridden (overrides : List Override) {b : Bindings Value}
    (h : b.Distinct) : (overrides.foldl overridden b).Distinct := by
  induction overrides generalizing b with
  | nil => exact h
  | cons o rest ih =>
    refine ih ?_
    obtain ⟨key, v⟩ := o
    cases v with
    | null => exact h
    | _ => exact h.set key _

lemma forProcess_eq (host : Environ) (overrides : List Override) :
    host.forProcess overrides =
      (overrides.foldl overridden (host.map fun p => (p.1, .text p.2.display))).filter
        fun p => !sessionVars.contains p.1 := by
  unfold forProcess
  dsimp only
  congr 2
  funext b o
  obtain ⟨key, v⟩ := o
  cases v <;> rfl

/-- Beside the virtual machine a name has the value of its last override with a value, else the
host's as text, unless it is the name of a variable of the session. -/
theorem get?_forProcess (host : Environ) (overrides : List Override) (name : Text) :
    (host.forProcess overrides).get? name =
      if name ∈ sessionVars then none
      else (lastGiven? overrides name).or ((host.get? name).map fun v => .text v.display) := by
  rw [forProcess_eq, Bindings.get?_filter _ name fun name => !sessionVars.contains name,
    get?_foldl_overridden, Bindings.get?_map _ _ fun v : Value => Value.text v.display]
  by_cases h : name ∈ sessionVars
  · simp [h]
  · simp [h]

lemma distinct_forProcess {host : Environ} (h : host.Distinct) (overrides : List Override) :
    (host.forProcess overrides).Distinct := by
  have hcopied : Bindings.Distinct (host.map fun p => (p.1, Value.text p.2.display)) := by
    unfold Bindings.Distinct at h ⊢
    rwa [List.map_map]
  rw [forProcess_eq]
  exact (distinct_foldl_overridden overrides hcopied).filter _

/-! ### Environments that agree -/

lemma serverPort_eq_none_iff {e : Environ} : e.serverPort = .ok none ↔ e.var? serverPortVar = none := by
  unfold serverPort
  split
  · simp [*]
  · split <;> simp [*]

lemma serverPort_of_get? {vars : Environ} {t : Text} (h : vars.get? serverPortVar = some (.text t)) :
    vars.serverPort = match Port.announced? t with
      | some p => .ok (some p)
      | none => .error (.misconfigured (.serverPortInvalid (.text t))) := by
  rw [serverPort, var?, h]
  rfl

/-- The environments bind each of these names alike. -/
def Agree (known : Text → Prop) (e f : Environ) : Prop :=
  ∀ name, known name → f.get? name = e.get? name

lemma agree_set {known : Text → Prop} {name : Text} (h : ¬ known name) (e : Environ) (v : Value) :
    Agree known e (e.set name v) := by
  intro other ho
  rw [Bindings.get?_set, if_neg]
  rintro rfl
  exact h ho

section Agree

variable {e f e' f' : Environ} {name : Text}

lemma var?_congr (h : f.get? name = e.get? name) : f.var? name = e.var? name := by
  rw [var?, var?, h]

lemma serverPort_congr (h : f.get? serverPortVar = e.get? serverPortVar) :
    f.serverPort = e.serverPort := by
  rw [serverPort, serverPort, var?_congr h]

lemma expandHome_congr (h : f.get? "HOME" = e.get? "HOME") (users : Users) (p : Path) :
    f.expandHome users p = e.expandHome users p := by
  have hof : f.homeOf users = e.homeOf users := by
    funext user
    rw [homeOf, homeOf, homeOnRecord?, homeOnRecord?, h]
  rw [expandHome, expandHome, hof]

lemma runtimeDir_congr (h : f.get? runtimeDirVar = e.get? runtimeDirVar)
    (h' : f'.get? "HOME" = e'.get? "HOME") (users : Users) :
    f.runtimeDir f' users = e.runtimeDir e' users := by
  have hraw : f.stripped runtimeDirVar = e.stripped runtimeDirVar := by rw [stripped, stripped, h]
  rw [runtimeDir, runtimeDir, hraw]
  cases e.stripped runtimeDirVar with
  | nil => rfl
  | cons => exact expandHome_congr h' _ _

lemma lockPath_congr (h : f.get? runtimeDirVar = e.get? runtimeDirVar)
    (h' : f'.get? "HOME" = e'.get? "HOME") (users : Users) :
    f.lockPath f' users = e.lockPath e' users := by
  rw [lockPath, lockPath, runtimeDir_congr h h']

lemma withOverrides_congr {overrides : List Override}
    (h : ∀ name, (name, .null) ∈ overrides → f.get? name = e.get? name) (b : Bindings Value) :
    f.withOverrides b overrides = e.withOverrides b overrides := by
  induction overrides generalizing b with
  | nil => rfl
  | cons o rest ih =>
    have hrest := ih fun name hm => h name (List.mem_cons_of_mem o hm)
    obtain ⟨key, v⟩ := o
    cases v with
    | null =>
      rw [withOverrides, withOverrides, var?_congr (h key List.mem_cons_self)]
      cases e.var? key with
      | none => rfl
      | some v => exact hrest _
    | _ => exact hrest _

lemma hostVars_congr (h : ∀ name ∈ wellKnownVars, f.get? name = e.get? name) (asahi : Bool) :
    f.hostVars asahi = e.hostVars asahi := by
  refine List.filterMap_congr fun name hm => ?_
  rw [var?_congr (h name hm)]

lemma withDisplay_congr (hd : f.get? "DISPLAY" = e.get? "DISPLAY")
    (ha : f.get? "XAUTHORITY" = e.get? "XAUTHORITY") (b : Bindings Value) :
    f.withDisplay b = e.withDisplay b := by
  rw [withDisplay, withDisplay, var?_congr hd, var?_congr ha]

end Agree

end SharedVm.Environ
