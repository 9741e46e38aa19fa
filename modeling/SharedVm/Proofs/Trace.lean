import SharedVm.Proofs.Local

/-!
# What an operation refrains from

What happens at the edges of the process is of different kinds, and for each kind a tape says what
the surroundings do next. An operation that refrains from a kind does nothing of that kind and takes
nothing from the tape.
-/

namespace SharedVm

namespace Event

def isConnect : Event → Bool
  | .connect .. => true
  | _ => false

def isSend : Event → Bool
  | .send _ => true
  | _ => false

/-- It happens between the process and a server. -/
def isTalk : Event → Bool
  | .connect .. | .send _ | .closed => true
  | _ => false

def isSpawn : Event → Bool
  | .spawn _ => true
  | _ => false

def isWait : Event → Bool
  | .wait => true
  | _ => false

/-- It happens between the process and a relay. -/
def isOfRelay : Event → Bool
  | .spawn _ | .poll | .terminate | .wait => true
  | _ => false

lemma isTalk_of_isConnect {e : Event} (h : e.isConnect = true) : e.isTalk = true := by
  cases e with
  | connect => rfl
  | _ => cases h

lemma isTalk_of_isSend {e : Event} (h : e.isSend = true) : e.isTalk = true := by
  cases e with
  | send => rfl
  | _ => cases h

lemma isOfRelay_of_isSpawn {e : Event} (h : e.isSpawn = true) : e.isOfRelay = true := by
  cases e with
  | spawn => rfl
  | _ => cases h

lemma isOfRelay_of_isWait {e : Event} (h : e.isWait = true) : e.isOfRelay = true := by
  cases e with
  | wait => rfl
  | _ => cases h

lemma countP_eq_zero {es : List Event} {kind p : Event → Bool} (h : ∀ e ∈ es, kind e = false)
    (hp : ∀ e, p e = true → kind e = true) : es.countP p = 0 :=
  List.countP_eq_zero.2 fun e he hpe => Bool.false_ne_true ((h e he).symm.trans (hp e hpe))

end Event

namespace World

variable {τ : Type}

/-- Nothing of a kind has happened, and its tape is as it was. -/
structure Refrains (tape : World → τ) (kind : Event → Bool) (w v : World) : Prop where
  tape : tape v = tape w
  events : ∃ es, v.events = w.events ++ es ∧ ∀ e ∈ es, kind e = false

instance (tape : World → τ) (kind : Event → Bool) : IsPreorder World (Refrains tape kind) where
  refl w := ⟨rfl, [], (List.append_nil _).symm, fun _ he => nomatch he⟩
  trans := by
    rintro w v u ⟨ht, es, he, hes⟩ ⟨ht', es', he', hes'⟩
    refine ⟨ht'.trans ht, es ++ es', by rw [he', he, List.append_assoc], fun e hm => ?_⟩
    exact (List.mem_append.1 hm).elim (hes e) (hes' e)

/-- No server was talked to. -/
abbrev Offline : World → World → Prop := Refrains World.peers Event.isTalk

/-- No relay was touched, and the system is as it was. -/
abbrev Unrelayed : World → World → Prop := Refrains (fun w => (w.relays, w.system)) Event.isOfRelay

/-- Every connection that was made goes to this port. -/
def ConnectsTo (port : Int) (w v : World) : Prop :=
  ∃ es, v.events = w.events ++ es ∧
    ∀ host number timeout, .connect host number timeout ∈ es → number = port

instance (port : Int) : IsPreorder World (ConnectsTo port) where
  refl w := ⟨[], (List.append_nil _).symm, fun _ _ _ he => nomatch he⟩
  trans := by
    rintro w v u ⟨es, he, hes⟩ ⟨es', he', hes'⟩
    refine ⟨es ++ es', by rw [he', he, List.append_assoc], fun host number timeout hm => ?_⟩
    exact (List.mem_append.1 hm).elim (hes host number timeout) (hes' host number timeout)

lemma Refrains.connectsTo {w v : World} (h : w.Offline v) (port : Int) : w.ConnectsTo port v := by
  obtain ⟨es, he, hes⟩ := h.events
  refine ⟨es, he, fun host number timeout hm => ?_⟩
  cases hes _ hm

lemma Local.refrains {tape : World → τ} {kind : Event → Bool} {w v : World} (h : w.Local v)
    (ht : tape v = tape w) : w.Refrains tape kind v :=
  ⟨ht, [], by rw [h.events, List.append_nil], fun _ he => nomatch he⟩

lemma Local.offline {w v : World} (h : w.Local v) : w.Offline v :=
  h.refrains (by rw [h])

lemma Local.unrelayed {w v : World} (h : w.Local v) : w.Unrelayed v :=
  h.refrains (by rw [h])

end World

end SharedVm
