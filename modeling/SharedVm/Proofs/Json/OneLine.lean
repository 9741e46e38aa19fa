import SharedVm.Proofs.Json.Scalar

/-!
# JSON on one line

In a style that breaks no lines, each symbol that is written is printable ASCII or comes from one of
the texts of the value and is no control character. So a written value is one line, no part of it
can be taken for the end of a message, and it holds lone surrogates only if its texts do.
-/

namespace SharedVm.Json

/-- Parts stand on one line, with printable ASCII between them. -/
structure Style.OneLine (style : Style) : Prop where
  indent : style.indent = none
  comma : ∀ s ∈ style.comma, 0x20 ≤ s.code ∧ s.code < 0x80
  colon : ∀ s ∈ style.colon, 0x20 ≤ s.code ∧ s.code < 0x80

lemma oneLine_compact : compact.OneLine := ⟨rfl, by decide, by decide⟩

lemma oneLine_spaced : spaced.OneLine := ⟨rfl, by decide, by decide⟩

mutual

def texts : Json → List Text
  | text t => [t]
  | array items => itemTexts items
  | object members => memberTexts members
  | _ => []

def itemTexts : List Json → List Text
  | [] => []
  | v :: rest => texts v ++ itemTexts rest

def memberTexts : List (Text × Json) → List Text
  | [] => []
  | (k, v) :: rest => k :: texts v ++ memberTexts rest

end

variable {P : Symbol → Prop}

lemma forall_mem_append {t u : Text} (ht : ∀ s ∈ t, P s) (hu : ∀ s ∈ u, P s) :
    ∀ s ∈ t ++ u, P s := by
  intro s hs
  rcases List.mem_append.1 hs with hs | hs
  · exact ht s hs
  · exact hu s hs

lemma forall_mem_join {sep : Text} (hsep : ∀ s ∈ sep, P s) {ts : List Text}
    (hts : ∀ t ∈ ts, ∀ s ∈ t, P s) : ∀ s ∈ Text.join sep ts, P s := by
  induction ts with
  | nil => exact fun s hs => by cases hs
  | cons t ts ih =>
    have ht := hts t List.mem_cons_self
    have hrest := ih fun u hu => hts u (List.mem_cons_of_mem _ hu)
    cases ts with
    | nil => exact ht
    | cons u us => exact forall_mem_append (forall_mem_append ht hsep) hrest

def Ascii (P : Symbol → Prop) : Prop := ∀ s : Symbol, 0x20 ≤ s.code ∧ s.code < 0x80 → P s

section Parts

variable (hP : Ascii P)

include hP

lemma forall_mem_ofInt (n : Int) : ∀ s ∈ Decimal.ofInt n, P s := by
  have hnat : ∀ m : Nat, ∀ s ∈ Decimal.ofNat m, P s := by
    intro m s hs
    obtain ⟨ds, hds, hd, -⟩ := Decimal.ofNat_digits m
    rw [hds] at hs
    obtain ⟨d, hm, rfl⟩ := List.mem_map.1 hs
    have hcode : ∀ d < 10, 0x20 ≤ (Decimal.digit d).code ∧ (Decimal.digit d).code < 0x80 := by
      decide
    exact hP _ (hcode d (hd d hm))
  cases n with
  | ofNat m => exact hnat m
  | negSucc m =>
    intro s hs
    rcases List.mem_cons.1 hs with rfl | hs
    · exact hP _ (by decide)
    · exact hnat (m + 1) s hs

lemma forall_mem_quote {t : Text} (ht : ∀ s ∈ t, 0x20 ≤ s.code → P s) : ∀ s ∈ quote t, P s := by
  have hq : ∀ s ∈ ([.char '"'] : Text), P s := fun s hs => by
    rw [List.mem_singleton.1 hs]
    exact hP _ (by decide)
  refine forall_mem_append (forall_mem_append hq fun u hu => ?_) hq
  obtain ⟨s, hs, hu⟩ := List.mem_flatMap.1 hu
  rcases mem_escape hu with hu | ⟨rfl, hle⟩
  · exact hP u hu
  · exact ht u hs hle

lemma forall_mem_enclose {style : Style} (hst : style.OneLine) (depth : Nat)
    {opening closing : Char} (ho : 0x20 ≤ opening.toNat ∧ opening.toNat < 0x80)
    (hc : 0x20 ≤ closing.toNat ∧ closing.toNat < 0x80) {parts : List Text}
    (hp : ∀ t ∈ parts, ∀ s ∈ t, P s) : ∀ s ∈ style.enclose depth opening closing parts, P s := by
  have hgap : ∀ d, style.gap d = [] := by
    intro d
    unfold Style.gap
    rw [hst.indent]
  have hone : ∀ c : Char, 0x20 ≤ c.toNat ∧ c.toNat < 0x80 → ∀ s ∈ ([.char c] : Text), P s := by
    intro c h s hs
    rw [List.mem_singleton.1 hs]
    exact hP _ h
  unfold Style.enclose
  split
  · exact forall_mem_append (hone opening ho) (hone closing hc)
  · rw [hgap, hgap, List.append_nil, List.append_nil, List.append_nil]
    have hsep : ∀ s ∈ style.comma, P s := fun s hs => hP s (hst.comma s hs)
    exact forall_mem_append (forall_mem_append (hone opening ho) (forall_mem_join hsep hp))
      (hone closing hc)

end Parts

section Values

variable {style : Style}

lemma forall_mem_word (hP : Ascii P) {w : Text}
    (hw : (w.all fun s => 0x20 ≤ s.code && s.code < 0x80) = true) : ∀ s ∈ w, P s := by
  intro s hs
  have h := List.all_eq_true.1 hw s hs
  rw [Bool.and_eq_true, decide_eq_true_eq, decide_eq_true_eq] at h
  exact hP s h

mutual

/-- What holds of printable ASCII and of the symbols of the texts holds of each symbol written. -/
theorem forall_mem_writeAt (hst : style.OneLine) (hP : Ascii P) : ∀ (v : Json) (depth : Nat),
    isExact v = true → (∀ t ∈ texts v, ∀ s ∈ t, 0x20 ≤ s.code → P s) →
      ∀ s ∈ writeAt style depth v, P s
  | .null, _, _, _ => forall_mem_word hP (w := "null") (by decide)
  | .bool true, _, _, _ => forall_mem_word hP (w := "true") (by decide)
  | .bool false, _, _, _ => forall_mem_word hP (w := "false") (by decide)
  | .int n, _, _, _ => forall_mem_ofInt hP n
  | .text t, _, _, ht => forall_mem_quote hP (ht t (List.mem_singleton.2 rfl))
  | .array items, depth, hv, ht =>
    forall_mem_enclose hP hst depth (by decide) (by decide)
      (forall_mem_writeItems hst hP items (depth + 1) hv ht)
  | .object members, depth, hv, ht =>
    forall_mem_enclose hP hst depth (by decide) (by decide)
      (forall_mem_writeMembers hst hP members (depth + 1) hv ht)

theorem forall_mem_writeItems (hst : style.OneLine) (hP : Ascii P) : ∀ (items : List Json)
    (depth : Nat), areExact items = true →
      (∀ t ∈ itemTexts items, ∀ s ∈ t, 0x20 ≤ s.code → P s) →
        ∀ t ∈ writeItems style depth items, ∀ s ∈ t, P s
  | [], _, _, _ => fun t ht => by cases ht
  | v :: rest, depth, hv, htexts => by
    obtain ⟨hv, hrest⟩ := Bool.and_eq_true_iff.1 hv
    intro t ht
    rcases List.mem_cons.1 ht with rfl | ht
    · exact forall_mem_writeAt hst hP v depth hv fun u hu =>
        htexts u (List.mem_append_left _ hu)
    · exact forall_mem_writeItems hst hP rest depth hrest
        (fun u hu => htexts u (List.mem_append_right _ hu)) t ht

theorem forall_mem_writeMembers (hst : style.OneLine) (hP : Ascii P) :
    ∀ (members : List (Text × Json)) (depth : Nat), areExactMembers members = true →
      (∀ t ∈ memberTexts members, ∀ s ∈ t, 0x20 ≤ s.code → P s) →
        ∀ t ∈ writeMembers style depth members, ∀ s ∈ t, P s
  | [], _, _, _ => fun t ht => by cases ht
  | (k, v) :: rest, depth, hv, htexts => by
    obtain ⟨hv, hrest⟩ := Bool.and_eq_true_iff.1 hv
    intro t ht
    rcases List.mem_cons.1 ht with rfl | ht
    · have hk := forall_mem_quote hP (htexts k List.mem_cons_self)
      have hcolon : ∀ s ∈ style.colon, P s := fun s hs => hP s (hst.colon s hs)
      refine forall_mem_append (forall_mem_append hk hcolon) ?_
      exact forall_mem_writeAt hst hP v depth hv fun u hu =>
        htexts u (List.mem_append_left _ (List.mem_cons_of_mem _ hu))
    · exact forall_mem_writeMembers hst hP rest depth hrest
        (fun u hu => htexts u (List.mem_append_right _ hu)) t ht

end

variable {v : Json}

/-- A written value holds no control character. -/
theorem le_of_mem_write (hst : style.OneLine) (hv : isExact v = true) {s : Symbol}
    (hs : s ∈ write style v) : 0x20 ≤ s.code :=
  forall_mem_writeAt hst (fun _ h => h.1) v 0 hv (fun _ _ _ _ h => h) s hs

theorem any_isLone_write (hst : style.OneLine) (hv : isExact v = true)
    (ht : ∀ t ∈ texts v, t.any Utf8.isLone = false) :
    (write style v).any Utf8.isLone = false := by
  have hascii : Ascii fun s => ¬ Utf8.isLone s = true := by
    rintro (c | k) h
    · exact Bool.false_ne_true
    · have hcode : (Symbol.lone k).code = 0xD800 + k.val := rfl
      omega
  rw [List.any_eq_false]
  exact forall_mem_writeAt hst hascii v 0 hv fun t hm s hs _ =>
    List.any_eq_false.1 (ht t hm) s hs

end Values

end SharedVm.Json
