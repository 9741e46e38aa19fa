import SharedVm.Proofs.Edges
import SharedVm.Proofs.Environ

/-!
# The variables of a guest

A variable in the virtual machine comes from the first of these that has it: the display of the
host, the last override of its name, the host's variables that are always passed on, and the driver
that the device needs. An override that has nothing to take from the host stops it all, whatever else
is given for its name. The device tree counts just where the host does not choose the driver.
-/

namespace SharedVm

namespace Environ

/-! ### Where a variable comes from -/

/-- The override is to have the host's value, and the host has none. -/
def Lacks (host : Environ) (o : Override) : Prop := o.2 = .null ∧ host.var? o.1 = none

/-- The name is that of the first override that the host has no value for. -/
def FirstLacking (host : Environ) (overrides : List Override) (name : Text) : Prop :=
  ∃ before after, overrides = before ++ (name, .null) :: after ∧ host.var? name = none ∧
    ∀ o ∈ before, ¬ host.Lacks o

/-- The value of an override, which is the host's if it has none of its own. -/
def valueOf? (host : Environ) : Override → Option Value
  | (name, .null) => host.var? name
  | (_, v) => some v

def lastOverride? (overrides : List Override) (name : Text) : Option Override :=
  overrides.reverse.find? (·.1 = name)

/-- The host's display, and the authority file for it, under the names that the guest knows. -/
def forwarded? (host : Environ) (name : Text) : Option Value :=
  if name = "HOST_DISPLAY" then host.var? "DISPLAY"
  else if name = "XAUTHORITY" ∧ (host.var? "DISPLAY").isSome then host.var? "XAUTHORITY"
  else none

/-- What a variable is where no override names it. -/
def passed? (host : Environ) (asahi : Bool) (name : Text) : Option Value :=
  (if name ∈ wellKnownVars then host.var? name else none).or
    (if name = driverVar ∧ asahi = true then some (.text "asahi") else none)

/-- What a variable is in the virtual machine. -/
def guestVar? (host : Environ) (asahi : Bool) (overrides : List Override) (name : Text) :
    Option Value :=
  (host.forwarded? name).or <| match lastOverride? overrides name with
    | some o => host.valueOf? o
    | none => host.passed? asahi name

/-- These are the variables of the guest, or why it gets none. -/
structure Furnishes (host : Environ) (asahi : Bool) (overrides : List Override)
    (result : Except Failure (Bindings Value)) : Prop where
  fails : (∃ f, result = .error f) ↔ ∃ name, (name, .null) ∈ overrides ∧ host.var? name = none
  told : ∀ f, result = .error f →
    ∃ name, host.FirstLacking overrides name ∧ f = .misconfigured (.variableMissing name)
  distinct : ∀ vars, result = .ok vars → vars.Distinct
  named : ∀ vars, result = .ok vars →
    ∀ name, vars.get? name = host.guestVar? asahi overrides name

/-! ### The host's variables -/

section Layers

variable {host : Environ} {asahi : Bool} {b vars : Bindings Value} {overrides : List Override}
  {name : Text}

lemma hostVars_eq : host.hostVars asahi =
    wellKnownVars.filterMap fun name => (host.passed? asahi name).map fun v => (name, v) := by
  refine List.filterMap_congr fun name hm => ?_
  unfold passed?
  rw [if_pos hm]
  cases host.var? name with
  | some v => rfl
  | none => by_cases hn : name = driverVar ∧ asahi = true <;> simp [hn]

lemma get?_hostVars : (host.hostVars asahi).get? name = host.passed? asahi name := by
  rw [hostVars_eq, Bindings.get?_filterMap]
  split
  · rfl
  · rename_i hm
    have hdriver : ¬ name = driverVar := by
      rintro rfl
      exact hm (by decide)
    simp [passed?, hm, hdriver]

lemma distinct_hostVars : (host.hostVars asahi).Distinct := by
  rw [hostVars_eq]
  exact Bindings.distinct_filterMap (by decide) _

lemma get?_withDisplay :
    (host.withDisplay b).get? name = (host.forwarded? name).or (b.get? name) := by
  unfold withDisplay forwarded?
  cases hd : host.var? "DISPLAY" with
  | none => by_cases hn : name = "HOST_DISPLAY" <;> simp [hn]
  | some display =>
    have hnames : ("HOST_DISPLAY" : Text) ≠ "XAUTHORITY" := by decide
    by_cases hn : name = "HOST_DISPLAY"
    · subst hn
      cases host.var? "XAUTHORITY" <;> simp [Bindings.get?_set, hnames.symm]
    · have hne : ¬ ("HOST_DISPLAY" : Text) = name := fun h => hn h.symm
      by_cases hx : name = "XAUTHORITY"
      · subst hx
        cases host.var? "XAUTHORITY" <;> simp [Bindings.get?_set, hn, hne]
      · have hne' : ¬ ("XAUTHORITY" : Text) = name := fun h => hx h.symm
        cases host.var? "XAUTHORITY" <;> simp [Bindings.get?_set, hn, hne, hx, hne']

lemma distinct_withDisplay (hb : b.Distinct) : (host.withDisplay b).Distinct := by
  unfold withDisplay
  split
  · exact hb
  · dsimp only
    split
    · exact (hb.set _ _).set _ _
    · exact hb.set _ _

/-! ### Overrides -/

lemma lacks_iff {o : Override} : host.Lacks o ↔ host.valueOf? o = none := by
  obtain ⟨key, v⟩ := o
  cases v <;> simp [Lacks, valueOf?]

lemma not_lacks_of_value {o : Override} {v : Value} (h : host.valueOf? o = some v) :
    ¬ host.Lacks o := fun hl => by
  rw [lacks_iff.1 hl] at h
  cases h

lemma withOverrides_cons (o : Override) (rest : List Override) :
    host.withOverrides b (o :: rest) = match host.valueOf? o with
      | some v => host.withOverrides (b.set o.1 v) rest
      | none => .error (.misconfigured (.variableMissing o.1)) := by
  obtain ⟨key, v⟩ := o
  cases v with
  | null =>
    rw [withOverrides]
    cases hk : host.var? key <;> simp [valueOf?, hk]
  | _ => rfl

lemma lastOverride?_cons (o : Override) (rest : List Override) (name : Text) :
    lastOverride? (o :: rest) name =
      (lastOverride? rest name).or (if o.1 = name then some o else none) := by
  unfold lastOverride?
  rw [List.reverse_cons, List.find?_append]
  by_cases hn : o.1 = name <;> simp [hn]

lemma FirstLacking.cons {o : Override} (ho : ¬ host.Lacks o)
    (h : host.FirstLacking overrides name) : host.FirstLacking (o :: overrides) name := by
  obtain ⟨before, after, rfl, hname, hbefore⟩ := h
  exact ⟨o :: before, after, rfl, hname, List.forall_mem_cons.2 ⟨ho, hbefore⟩⟩

lemma withOverrides_eq_error {f : Failure} (h : host.withOverrides b overrides = .error f) :
    ∃ name, host.FirstLacking overrides name ∧ f = .misconfigured (.variableMissing name) := by
  induction overrides generalizing b with
  | nil => cases h
  | cons o rest ih =>
    rw [withOverrides_cons] at h
    cases ho : host.valueOf? o with
    | none =>
      rw [ho] at h
      obtain ⟨hv, hhost⟩ := lacks_iff.2 ho
      refine ⟨o.1, ⟨[], rest, ?_, hhost, nofun⟩, (Except.error.inj h).symm⟩
      rw [List.nil_append, ← hv]
    | some v =>
      rw [ho] at h
      obtain ⟨name, hname, hf⟩ := ih h
      exact ⟨name, hname.cons (not_lacks_of_value ho), hf⟩

/-- All overrides have a value, and the last one of each name counts. -/
lemma withOverrides_eq_ok (h : host.withOverrides b overrides = .ok vars) :
    (∀ o ∈ overrides, ¬ host.Lacks o) ∧ (b.Distinct → vars.Distinct) ∧
      ∀ name, vars.get? name = match lastOverride? overrides name with
        | some o => host.valueOf? o
        | none => b.get? name := by
  induction overrides generalizing b with
  | nil =>
    cases h
    exact ⟨nofun, id, fun _ => rfl⟩
  | cons o rest ih =>
    rw [withOverrides_cons] at h
    cases ho : host.valueOf? o with
    | none =>
      rw [ho] at h
      cases h
    | some v =>
      rw [ho] at h
      obtain ⟨hrest, hdistinct, hnamed⟩ := ih h
      refine ⟨List.forall_mem_cons.2 ⟨not_lacks_of_value ho, hrest⟩,
        fun hb => hdistinct (hb.set _ _), fun name => ?_⟩
      rw [hnamed, lastOverride?_cons, Bindings.get?_set]
      cases lastOverride? rest name with
      | some o' => rfl
      | none => by_cases hn : o.1 = name <;> simp [hn, ho]

/-! ### All variables -/

lemma forVm_furnishes : host.Furnishes asahi overrides (host.forVm asahi overrides) := by
  unfold forVm
  cases h : host.withOverrides (host.hostVars asahi) overrides with
  | error f =>
    change host.Furnishes asahi overrides (.error f)
    obtain ⟨name, hname, rfl⟩ := withOverrides_eq_error h
    refine ⟨iff_of_true ⟨_, rfl⟩ ?_, fun f hf => ⟨name, hname, ?_⟩, nofun, nofun⟩
    · obtain ⟨before, after, rfl, hhost, -⟩ := hname
      exact ⟨name, List.mem_append_right _ List.mem_cons_self, hhost⟩
    · exact (Except.error.inj hf).symm
  | ok b =>
    change host.Furnishes asahi overrides (.ok (host.withDisplay b))
    obtain ⟨hall, hdistinct, hnamed⟩ := withOverrides_eq_ok h
    refine ⟨iff_of_false ?_ ?_, ?_, ?_, ?_⟩
    · rintro ⟨f, hf⟩
      cases hf
    · rintro ⟨name, hm, hhost⟩
      exact hall _ hm ⟨rfl, hhost⟩
    · intro f hf
      cases hf
    · rintro _ ⟨⟩
      exact distinct_withDisplay (hdistinct distinct_hostVars)
    · rintro _ ⟨⟩ name
      rw [get?_withDisplay, hnamed, get?_hostVars, guestVar?]

lemma forVm_of_chosen (h : host.var? driverVar ≠ none) (asahi other : Bool) :
    host.forVm asahi overrides = host.forVm other overrides := by
  have hpassed : ∀ b name, host.passed? b name = host.passed? false name := by
    intro b name
    unfold passed?
    by_cases hn : name = driverVar
    · subst hn
      obtain ⟨v, hv⟩ := Option.ne_none_iff_exists'.1 h
      have hm : driverVar ∈ wellKnownVars := by decide
      rw [if_pos hm, hv, Option.some_or, Option.some_or]
    · have hdriver : ∀ c : Bool, ¬ (name = driverVar ∧ c = true) := fun c hd => hn hd.1
      rw [if_neg (hdriver b), if_neg (hdriver false)]
  unfold forVm
  rw [hostVars_eq, hostVars_eq]
  simp only [hpassed]

end Layers

end Environ

namespace Guest

open Act

/-! ### The device tree -/

/-- Whether it matters what device tree there is. -/
def ReadsDeviceTree (host : Environ) (overrides : List Override) : Prop :=
  ∃ (p : Path) (w : World) (d : Disk),
    ((vars host p overrides).run { w with disk := d }).1 ≠ ((vars host p overrides).run w).1

variable {host : Environ} {p : Path} {overrides : List Override} {w : World}

lemma asksDeviceTree_iff : host.asksDeviceTree = true ↔ host.var? Environ.driverVar = none := by
  rw [Environ.asksDeviceTree, Option.isNone_iff_eq_none]

lemma run_isAsahi (p : Path) (w : World) : (isAsahi p).run w = (((isAsahi p).run w).1, w) :=
  Prod.ext rfl (within_isAsahi (R := Eq) p w).symm

lemma run_gather {r : Except Failure Bool}
    (h : (if host.asksDeviceTree then isAsahi p else pure false).run w = (r, w)) :
    (gather host p overrides).run w = (r.bind (host.forVm · overrides), w) := by
  have hbind : ∀ {check : Act Bool}, check.run w = (r, w) →
      (check >>= fun asahi => Act.ofExcept (host.forVm asahi overrides)).run w =
        (r.bind (host.forVm · overrides), w) := by
    intro check hc
    rw [run_bind, hc]
    cases r with
    | error f => rfl
    | ok asahi => exact run_ofExcept _ w
  unfold gather
  dsimp only
  split at h
  · rw [if_pos ‹_›]
    exact hbind h
  · rw [if_neg ‹_›]
    exact hbind h

lemma run_vars {r : Except Failure Bool}
    (h : (if host.asksDeviceTree then isAsahi p else pure false).run w = (r, w))
    (overrides : List Override) :
    ∃ ns, (vars host p overrides).run w =
      (r.bind (host.forVm · overrides), { w with notices := w.notices ++ ns }) := by
  unfold vars
  rw [run_bind, run_gather h]
  cases r.bind (host.forVm · overrides) with
  | error f => exact ⟨[], by rw [List.append_nil]⟩
  | ok found => exact ⟨_, rfl⟩

lemma run_vars_of_chosen (h : host.var? Environ.driverVar ≠ none) (p : Path)
    (overrides : List Override) (w : World) :
    ∃ ns, (vars host p overrides).run w =
      (host.forVm false overrides, { w with notices := w.notices ++ ns }) := by
  have hasks : ¬ host.asksDeviceTree = true := fun ha => h (asksDeviceTree_iff.1 ha)
  exact run_vars (r := .ok false) (by rw [if_neg hasks]; rfl) overrides

lemma run_vars_of_unchosen (h : host.var? Environ.driverVar = none) (p : Path)
    (overrides : List Override) (w : World) :
    ∃ ns, (vars host p overrides).run w =
      (((isAsahi p).run w).1.bind (host.forVm · overrides),
        { w with notices := w.notices ++ ns }) :=
  run_vars (by rw [if_pos (asksDeviceTree_iff.2 h)]; exact run_isAsahi p w) overrides

/-- A directory in the place of the device tree stops it, and one that is not there does not. -/
lemma readsDeviceTree_iff :
    ReadsDeviceTree host overrides ↔ host.var? Environ.driverVar = none := by
  constructor
  · rintro ⟨p, w, d, hne⟩
    by_contra h
    obtain ⟨ns, hw⟩ := run_vars_of_chosen h p overrides w
    obtain ⟨ns', hd⟩ := run_vars_of_chosen h p overrides { w with disk := d }
    rw [hw, hd] at hne
    exact hne rfl
  · intro h
    let bare : World := { disk := { Disk.empty with entries := [] } }
    let place : Path := ⟨.root, ["work"]⟩
    refine ⟨place, {}, bare.disk, ?_⟩
    obtain ⟨ns, hw⟩ := run_vars_of_unchosen h place overrides {}
    obtain ⟨ns', hd⟩ := run_vars_of_unchosen h place overrides bare
    have hdirectory : ((isAsahi place).run {}).1 =
      .error (.misconfigured (.deviceTreeNotRead place (DiskError.isDirectory.report "/work"))) := rfl
    have hmissing : ((isAsahi place).run bare).1 = .ok false := rfl
    have hbare : { ({} : World) with disk := bare.disk } = bare := rfl
    rw [hbare, hw, hd, hdirectory, hmissing]
    change host.forVm false overrides ≠ .error _
    intro he
    have hfurnishes : host.Furnishes false overrides (host.forVm false overrides) :=
      Environ.forVm_furnishes
    obtain ⟨name, -, hf⟩ := hfurnishes.told _ he
    cases hf

/-- The variables of a guest are those that the layers say, in the order of the layers. Where the
host leaves the driver open they depend on the device tree, which may also be what stops it all, and
nowhere else. -/
theorem vars_layered (host : Environ) (overrides : List Override) :
    (ReadsDeviceTree host overrides ↔ host.var? Environ.driverVar = none) ∧
    ∀ (compatible : Path) (w : World), ∃ result v,
      (vars host compatible overrides).run w = (result, v) ∧ v = { w with notices := v.notices } ∧
      (∀ asahi, (host.var? Environ.driverVar = none → ((isAsahi compatible).run w).1 = .ok asahi) →
        host.Furnishes asahi overrides result) ∧
      ∀ f, host.var? Environ.driverVar = none → ((isAsahi compatible).run w).1 = .error f →
        result = .error f := by
  refine ⟨readsDeviceTree_iff, fun compatible w => ?_⟩
  by_cases h : host.var? Environ.driverVar = none
  · obtain ⟨ns, hrun⟩ := run_vars_of_unchosen h compatible overrides w
    refine ⟨_, _, hrun, rfl, fun asahi ha => ?_, fun f _ hf => ?_⟩
    · rw [ha h]
      exact Environ.forVm_furnishes
    · rw [hf]
      rfl
  · obtain ⟨ns, hrun⟩ := run_vars_of_chosen h compatible overrides w
    refine ⟨_, _, hrun, rfl, fun asahi _ => ?_, fun f hnone => absurd hnone h⟩
    rw [Environ.forVm_of_chosen h false asahi]
    exact Environ.forVm_furnishes

/-- A host with a display, on a device that needs a driver. -/
def asahiHost : Environ :=
  [("DISPLAY", .text ":0"), ("XAUTHORITY", .text "/x"), ("RUST_LOG", .text "debug")]

def asahiWorld : World where
  disk := (Disk.empty.addFile ["work", "compatible"]).2.modifyInode 0
    ({ · with content := Utf8.encode "apple,j316s\x00apple,arm-platform" })

/-- Names that the host has as well, and names that come again. -/
def contested : List Override :=
  [("HOST_DISPLAY", .text ":7"), ("K", .text "1"), ("K", .text "2"), ("RUST_LOG", .text "info"),
    ("RUST_LOG", .null)]

theorem vars_layered_contested :
    asahiHost.var? Environ.driverVar = none ∧ ReadsDeviceTree asahiHost contested ∧
    ((isAsahi "compatible").run asahiWorld).1 = .ok true ∧
    (∃ found v, (vars asahiHost "compatible" contested).run asahiWorld = (.ok found, v) ∧
      found.get? "HOST_DISPLAY" = some (.text ":0") ∧ found.get? "K" = some (.text "2") ∧
      found.get? "RUST_LOG" = some (.text "debug") ∧
      found.get? Environ.driverVar = some (.text "asahi") ∧ found.get? "DISPLAY" = none) ∧
    ∃ v, (vars asahiHost "compatible" [("K", .text "1"), ("L", .null), ("L", .text "2")]).run
      asahiWorld = (.error (.misconfigured (.variableMissing "L")), v) := by
  have hasahi : ((isAsahi "compatible").run asahiWorld).1 = .ok true := rfl
  have hreads := (vars_layered asahiHost contested).1.2 rfl
  refine ⟨rfl, hreads, hasahi, ?_, ?_⟩
  · obtain ⟨result, v, hrun, -, hof, -⟩ :=
      (vars_layered asahiHost contested).2 "compatible" asahiWorld
    have hfurnishes := hof true fun _ => hasahi
    cases result with
    | error f =>
      obtain ⟨name, hm, hnone⟩ := hfurnishes.fails.1 ⟨f, rfl⟩
      have hname : name = "RUST_LOG" := by simpa [contested] using hm
      subst hname
      cases hnone
    | ok found =>
      have hnamed := hfurnishes.named found rfl
      exact ⟨found, v, hrun, hnamed _, hnamed _, hnamed _, hnamed _, hnamed _⟩
  · obtain ⟨result, v, hrun, -, hof, -⟩ := (vars_layered asahiHost
      [("K", .text "1"), ("L", .null), ("L", .text "2")]).2 "compatible" asahiWorld
    have hfurnishes := hof true fun _ => hasahi
    obtain ⟨f, rfl⟩ := hfurnishes.fails.2 ⟨"L", by simp, rfl⟩
    obtain ⟨name, ⟨before, after, hsplit, hnone, hbefore⟩, rfl⟩ := hfurnishes.told f rfl
    have hname : name = "L" := by
      have hm : (name, .null) ∈ before ++ (name, Value.null) :: after := by simp
      rw [← hsplit] at hm
      simpa using hm
    subst hname
    exact ⟨v, hrun⟩

end Guest

end SharedVm
