import SharedVm.Proofs.Environ
import SharedVm.Proofs.Grows

/-!
# Names that the operating system takes

Texts that come from the operating system have no zero and no stray surrogate in them. A path that is
made out of such texts has a text that the operating system takes as a name.
-/

namespace SharedVm

/-- The operating system takes the text, or any part of it, as a name. -/
def Text.Native (t : Text) : Prop := ∀ s ∈ t, Utf8.isStray s = false ∧ s ≠ .char '\x00'

namespace Text

variable {t u : Text}

lemma native_iff : t.Native ↔ Failure.ofName? t = none := by
  rw [Failure.ofName?_eq_none_iff]
  constructor
  · intro h
    refine ⟨List.any_eq_false.2 fun s hs => Bool.eq_false_iff.1 (h s hs).1, ?_⟩
    rw [List.contains_eq_mem, decide_eq_false_iff_not]
    exact fun hm => (h _ hm).2 rfl
  · rintro ⟨hstray, hzero⟩ s hs
    refine ⟨Bool.eq_false_iff.2 (List.any_eq_false.1 hstray s hs), ?_⟩
    rintro rfl
    rw [List.contains_eq_mem, decide_eq_false_iff_not] at hzero
    exact hzero hs

namespace Native

lemma nil : Native [] := fun _ => nofun

lemma of_subset (h : t.Native) (hs : u ⊆ t) : u.Native := fun s hm => h s (hs hm)

lemma append (ht : t.Native) (hu : u.Native) : (t ++ u).Native := fun s hm =>
  (List.mem_append.1 hm).elim (ht s) (hu s)

lemma trim (h : t.Native) (p : Symbol → Bool) : (t.trim p).Native := by
  refine h.of_subset fun s hs => ?_
  have hs := (List.dropWhile_sublist p).subset (List.mem_reverse.1 hs)
  exact (List.dropWhile_sublist p).subset (List.mem_reverse.1 hs)

lemma splitOn (h : t.Native) (sep : Symbol) : ∀ u ∈ t.splitOn sep, Native u := by
  unfold Text.splitOn
  induction t with
  | nil =>
    intro u hu
    rw [List.mem_singleton.1 hu]
    exact nil
  | cons s rest ih =>
    have hrest := ih fun x hx => h x (List.mem_cons_of_mem s hx)
    rw [List.foldr_cons]
    split
    · exact List.forall_mem_cons.2 ⟨nil, hrest⟩
    · split
      · rename_i hparts
        exact List.forall_mem_singleton.2 (h.of_subset (List.cons_subset_cons s (List.nil_subset _)))
      · rename_i p parts hparts
        rw [hparts] at hrest
        obtain ⟨hp, hparts⟩ := List.forall_mem_cons.1 hrest
        refine List.forall_mem_cons.2 ⟨?_, hparts⟩
        exact List.forall_mem_cons.2 ⟨h s List.mem_cons_self, hp⟩

lemma join {sep : Text} (hs : sep.Native) {ts : List Text} (h : ∀ t ∈ ts, Native t) :
    (Text.join sep ts).Native := by
  induction ts with
  | nil => exact nil
  | cons t rest ih =>
    obtain ⟨ht, hrest⟩ := List.forall_mem_cons.1 h
    cases rest with
    | nil => exact ht
    | cons u rest => exact (ht.append hs).append (ih hrest)

end Native

end Text

namespace Path

/-- Each name of the path is one for the operating system. -/
def Native (p : Path) : Prop := ∀ name ∈ p.names, name.Native

variable {p : Path} {t : Text}

lemma native_namesOf (h : t.Native) : ∀ name ∈ namesOf t, name.Native :=
  fun name hm => h.splitOn _ name (List.mem_of_mem_filter hm)

lemma native_ofText (h : t.Native) : (ofText t).Native := native_namesOf h

lemma Native.text (h : p.Native) : p.text.Native := by
  have hroot : ∀ r, (rootText r).Native := by
    intro r
    rw [Text.native_iff]
    cases r <;> decide
  have hslash : Text.Native "/" := by
    rw [Text.native_iff]
    decide
  unfold Path.text
  split
  · rw [Text.native_iff]
    decide
  · exact (hroot _).append (hslash.join h)

lemma Native.child (h : p.Native) (ht : t.Native) : (p.child t).Native := by
  unfold Path.child
  split
  · exact List.forall_mem_append.2 ⟨h, native_namesOf ht⟩
  · exact native_ofText ht

lemma Native.parent (h : p.Native) : p.parent.Native :=
  fun name hm => h name (List.dropLast_subset _ hm)

lemma Native.ofName? (h : p.Native) : Failure.ofName? p.text = none := Text.native_iff.1 h.text

end Path

namespace Relay

lemma native_socketName (port : Int) : (socketName port).Native := by
  have hprefix : Text.Native "port-" := by
    rw [Text.native_iff]
    decide
  exact hprefix.append (Decimal.forall_mem_ofInt (by decide) (by decide) port)

variable {base : Path}

lemma native_socketDir (h : base.Native) : (socketDir base).Native := by
  have hnames : Text.Native "krun" ∧ Text.Native "socket" := by
    rw [Text.native_iff, Text.native_iff]
    decide
  exact (h.child hnames.1).child hnames.2

lemma native_socketPath (h : base.Native) (port : Int) :
    (socketPath base (Decimal.ofInt port)).Native :=
  (native_socketDir h).child (native_socketName port)

end Relay

/-! ### Variables -/

namespace Environ

/-- The variables are texts that the operating system can hand over. -/
def Native (env : Environ) : Prop := ∀ b ∈ env, ∃ t, b.2 = .text t ∧ t.Native

variable {env process : Environ} {name : Text}

lemma Native.get? (h : env.Native) {v : Value} (hv : Bindings.get? env name = some v) :
    ∃ t, v = .text t ∧ t.Native := by
  induction env with
  | nil => cases hv
  | cons b rest ih =>
    rw [Bindings.get?] at hv
    split at hv
    · rw [← Option.some.inj hv]
      exact h b List.mem_cons_self
    · exact ih (fun c hc => h c (List.mem_cons_of_mem b hc)) hv

lemma Native.var? (h : env.Native) {v : Value} (hv : env.var? name = some v) :
    ∃ t, v = .text t ∧ t.Native := by
  unfold Environ.var? at hv
  split at hv
  · cases hv
  · exact h.get? hv

lemma Native.stripped (h : env.Native) (name : Text) : (env.stripped name).Native := by
  unfold Environ.stripped
  cases hv : Bindings.get? env name with
  | none => exact Text.Native.nil
  | some v =>
    obtain ⟨t, rfl, ht⟩ := h.get? hv
    dsimp only
    split
    · exact ht.trim _
    · exact Text.Native.nil

/-- The homes that are on record are names of the operating system. -/
structure NativeHomes (users : Users) : Prop where
  own : ∀ t ∈ users.own, t.Native
  named : ∀ user, ∀ t ∈ users.named user, t.Native

variable {users : Users}

lemma Native.homeOnRecord? (h : env.Native) (hu : NativeHomes users) {user home : Text}
    (hr : env.homeOnRecord? users user = some home) : home.Native := by
  unfold Environ.homeOnRecord? at hr
  split at hr
  · cases hv : Bindings.get? env "HOME" with
    | none =>
      rw [hv] at hr
      exact hu.own home hr
    | some v =>
      obtain ⟨t, rfl, ht⟩ := h.get? hv
      rw [hv] at hr
      exact Option.some.inj hr ▸ ht
  · exact hu.named user home hr

lemma native_trimHome {home : Text} (h : home.Native) : (trimHome home).Native := by
  unfold trimHome
  split
  · rw [Text.native_iff]
    decide
  · refine h.of_subset fun s hs => ?_
    exact List.mem_reverse.1 ((List.dropWhile_sublist _).subset (List.mem_reverse.1 hs))

/-- A path is expanded, or the home is not known that it starts with. -/
lemma Native.expandHome (h : env.Native) (hu : NativeHomes users) {p : Path} (hp : p.Native) :
    env.expandHome users p = .error .homeUnknown ∨
      ∃ q, env.expandHome users p = .ok q ∧ q.Native := by
  unfold Environ.expandHome
  split
  · rename_i user rest _ hnames
    rw [Path.Native, hnames] at hp
    obtain ⟨huser, hrest⟩ := List.forall_mem_cons.1 hp
    have hname : Failure.ofName? user = none :=
      Text.native_iff.1 (huser.of_subset (List.subset_cons_self _ _))
    unfold Environ.homeOf
    rw [hname]
    cases hr : env.homeOnRecord? users user with
    | none => exact .inl rfl
    | some home =>
      dsimp only
      split
      · exact .inl rfl
      · exact .inr ⟨_, rfl, List.forall_mem_append.2
          ⟨Path.native_ofText (native_trimHome (h.homeOnRecord? hu hr)), hrest⟩⟩
  · exact .inr ⟨p, rfl, hp⟩

/-- What can be wrong with a runtime directory. -/
lemma Native.runtimeDir (h : env.Native) (hp : process.Native) (hu : NativeHomes users) :
    env.runtimeDir process users = .error (.misconfigured .runtimeDirUnset) ∨
      env.runtimeDir process users = .error .homeUnknown ∨
      ∃ base, env.runtimeDir process users = .ok base ∧ base.Native := by
  have hraw := h.stripped runtimeDirVar
  unfold Environ.runtimeDir
  cases hs : env.stripped runtimeDirVar with
  | nil => exact .inl rfl
  | cons s rest =>
    rw [hs] at hraw
    exact .inr (hp.expandHome hu (Path.native_ofText hraw))

lemma Native.of_runtimeDir (h : env.Native) (hp : process.Native) (hu : NativeHomes users)
    {base : Path} (hb : env.runtimeDir process users = .ok base) : base.Native := by
  rcases h.runtimeDir hp hu with he | he | ⟨base', he, hbase⟩ <;> rw [he] at hb
  · cases hb
  · cases hb
  · rwa [← Except.ok.inj hb]

lemma Native.lockPath (h : env.Native) (hp : process.Native) (hu : NativeHomes users) :
    env.lockPath process users = .error (.misconfigured .runtimeDirUnset) ∨
      env.runtimeDir process users = .error .homeUnknown ∧
        env.lockPath process users = .error .homeUnknown ∨
      ∃ lock, env.lockPath process users = .ok lock ∧ lock.Native := by
  have hname : Text.Native "krun.lock" := by
    rw [Text.native_iff]
    decide
  unfold Environ.lockPath
  rcases h.runtimeDir hp hu with he | he | ⟨base, he, hbase⟩
  · rw [he]
    exact .inl rfl
  · rw [he]
    exact .inr (.inl ⟨rfl, rfl⟩)
  · rw [he]
    exact .inr (.inr ⟨_, rfl, hbase.child hname⟩)

end Environ

end SharedVm
