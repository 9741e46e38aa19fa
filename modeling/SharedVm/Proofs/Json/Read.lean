import SharedVm.Proofs.Json.Scalar

/-!
# Reading back what is written as JSON

Reading undoes writing in every style whose marks have nothing but blanks after them: a value comes
back part by part. As many steps as the text has symbols are enough, since each part leaves out at
least the mark in front of it. Numbers with a point are left out, since writing them loses how they
were made.
-/

namespace SharedVm.Json

/-- The marks between parts have nothing but blanks after them. -/
structure Style.Readable (style : Style) : Prop where
  comma : ∃ g, style.comma = .char ',' :: g ∧ ∀ s ∈ g, isGap s = true
  colon : ∃ g, style.colon = .char ':' :: g ∧ ∀ s ∈ g, isGap s = true

lemma readable_compact : compact.Readable := ⟨⟨[], rfl, by simp⟩, ⟨[], rfl, by simp⟩⟩

lemma readable_spaced : spaced.Readable :=
  ⟨⟨[.char ' '], rfl, by decide⟩, ⟨[.char ' '], rfl, by decide⟩⟩

lemma isGap_of_mem_gap {style : Style} {depth : Nat} {s : Symbol} (h : s ∈ style.gap depth) :
    isGap s = true := by
  unfold Style.gap at h
  split at h
  · cases h
  · rcases List.mem_cons.1 h with rfl | h
    · rfl
    · rw [List.eq_of_mem_replicate h]
      rfl

lemma skipGap_append {g : Text} (hg : ∀ s ∈ g, isGap s = true) (t : Text) :
    skipGap (g ++ t) = skipGap t := by
  unfold skipGap
  rw [List.dropWhile_append_of_pos hg]

lemma skipGap_cons {s : Symbol} (hs : isGap s = false) (t : Text) : skipGap (s :: t) = s :: t := by
  unfold skipGap
  rw [List.dropWhile_cons, if_neg]
  rw [hs]
  exact Bool.false_ne_true

lemma readValue_append {g : Text} (hg : ∀ s ∈ g, isGap s = true) (fuel : Nat) (t : Text) :
    readValue fuel (g ++ t) = readValue fuel t := by
  cases fuel with
  | zero => rfl
  | succ fuel => rw [readValue, readValue, skipGap_append hg]

lemma readMembers_append {g : Text} (hg : ∀ s ∈ g, isGap s = true) (fuel : Nat)
    (seen : List (Text × Json)) (t : Text) :
    readMembers fuel seen (g ++ t) = readMembers fuel seen t := by
  cases fuel with
  | zero => rfl
  | succ fuel =>
    rw [readMembers.eq_def, readMembers.eq_def]
    dsimp only
    rw [skipGap_append hg]

lemma ends_append {g t : Text} (hg : ∀ s ∈ g, isGap s = true) (ht : Ends t) : Ends (g ++ t) := by
  cases g with
  | nil => exact ht
  | cons s g' =>
    intro u hu
    obtain rfl := Option.some.inj hu
    exact .inl (hg s List.mem_cons_self)

lemma readItems_append {g : Text} (hg : ∀ s ∈ g, isGap s = true) (fuel : Nat)
    (seen : List Json) (t : Text) : readItems fuel seen (g ++ t) = readItems fuel seen t := by
  cases fuel with
  | zero => rfl
  | succ fuel =>
    rw [readItems.eq_def, readItems.eq_def]
    dsimp only
    rw [readValue_append hg]

lemma ends_cons {s : Symbol} (t : Text) (hs : s = .char ',' ∨ s = .char ']' ∨ s = .char '}') :
    Ends (s :: t) := by
  intro u hu
  obtain rfl := Option.some.inj hu
  exact .inr hs

lemma head_enclose (style : Style) (depth : Nat) (opening closing : Char) (parts : List Text) :
    ∃ t, style.enclose depth opening closing parts = .char opening :: t := by
  unfold Style.enclose
  split
  · exact ⟨_, rfl⟩
  · exact ⟨_, rfl⟩

/-- A written value begins with neither a blank nor a closing mark. -/
lemma head_writeAt {style : Style} {depth : Nat} {v : Json} (hv : isExact v = true) :
    ∃ s t, writeAt style depth v = s :: t ∧ isGap s = false ∧ s ≠ .char ']' := by
  have hdigit : ∀ d < 10, isGap (Decimal.digit d) = false ∧ Decimal.digit d ≠ .char ']' := by
    decide
  cases v with
  | null => exact ⟨_, _, rfl, by decide, by decide⟩
  | bool b =>
    cases b
    · exact ⟨_, _, rfl, by decide, by decide⟩
    · exact ⟨_, _, rfl, by decide, by decide⟩
  | int n =>
    cases n with
    | ofNat m =>
      obtain ⟨ds, hds, hd, -, hne, -⟩ := Decimal.ofNat_digits m
      cases ds with
      | nil => exact absurd rfl hne
      | cons d ds' =>
        exact ⟨_, _, hds, hdigit d (hd d List.mem_cons_self)⟩
    | negSucc m => exact ⟨_, _, rfl, by decide, by decide⟩
  | real x => cases hv
  | text t => exact ⟨_, _, rfl, by decide, by decide⟩
  | array items =>
    obtain ⟨t, ht⟩ := head_enclose style depth '[' ']' (writeItems style (depth + 1) items)
    exact ⟨_, t, by rw [writeAt, ht], by decide, by decide⟩
  | object members =>
    obtain ⟨t, ht⟩ := head_enclose style depth '{' '}' (writeMembers style (depth + 1) members)
    exact ⟨_, t, by rw [writeAt, ht], by decide, by decide⟩

lemma readValue_quote (fuel : Nat) (t rest : Text) :
    readValue (fuel + 1) (quote t ++ rest) = some (text t, rest) := by
  have hq : quote t ++ rest = .char '"' :: (t.flatMap escape ++ .char '"' :: rest) := by
    simp [quote]
  rw [hq, readValue.eq_def]
  dsimp only
  rw [skipGap_cons (by decide)]
  dsimp only
  rw [if_pos rfl, readText_flatMap_escape]
  rfl

lemma readValue_scalar {s : Symbol} {t rest : Text} {v : Json} (hg : isGap s = false)
    (hs : s ≠ .char '"' ∧ s ≠ .char '[' ∧ s ≠ .char '{')
    (hr : readScalar (s :: t) = some (v, rest)) (fuel : Nat) :
    readValue (fuel + 1) (s :: t) = some (v, rest) := by
  rw [readValue.eq_def]
  dsimp only
  rw [skipGap_cons hg]
  dsimp only
  rw [if_neg hs.1, if_neg hs.2.1, if_neg hs.2.2, hr]

lemma readValue_int (n : Int) (fuel : Nat) {rest : Text} (hr : Ends rest) :
    readValue (fuel + 1) (Decimal.ofInt n ++ rest) = some (int n, rest) := by
  have hscalar := readScalar_ofInt n hr
  have hdigit : ∀ d < 10, isGap (Decimal.digit d) = false ∧ Decimal.digit d ≠ .char '"' ∧
      Decimal.digit d ≠ .char '[' ∧ Decimal.digit d ≠ .char '{' := by
    decide
  cases n with
  | ofNat m =>
    obtain ⟨ds, hds, hd, -, hne, -⟩ := Decimal.ofNat_digits m
    cases ds with
    | nil => exact absurd rfl hne
    | cons d ds' =>
      have hm : Decimal.ofInt (.ofNat m) = Decimal.digit d :: ds'.map Decimal.digit := hds
      obtain ⟨hg, hs⟩ := hdigit d (hd d List.mem_cons_self)
      rw [hm] at hscalar ⊢
      exact readValue_scalar hg hs hscalar fuel
  | negSucc m => exact readValue_scalar (by decide) (by decide) hscalar fuel

lemma readValue_items {fuel : Nat} {t : Text} {s : Symbol} {t' : Text} (ht : skipGap t = s :: t')
    (hs : s ≠ .char ']') : readValue (fuel + 1) (.char '[' :: t) = readItems fuel [] (s :: t') := by
  rw [readValue.eq_def]
  dsimp only
  rw [skipGap_cons (by decide)]
  dsimp only
  rw [if_neg (by decide), if_pos rfl, ht]
  split
  · rename_i h
    exact absurd (List.cons.inj h).1 hs
  · rfl

lemma readValue_members {fuel : Nat} {t t' : Text} (ht : skipGap t = .char '"' :: t') :
    readValue (fuel + 1) (.char '{' :: t) = readMembers fuel [] (.char '"' :: t') := by
  rw [readValue.eq_def]
  dsimp only
  rw [skipGap_cons (by decide)]
  dsimp only
  rw [if_neg (by decide), if_neg (by decide), if_pos rfl, ht]
  rfl

lemma readItems_last {fuel : Nat} {seen : List Json} {t r rest : Text} {v : Json}
    (hv : readValue fuel t = some (v, r)) (hr : skipGap r = .char ']' :: rest) :
    readItems (fuel + 1) seen t = some (array (seen.reverse ++ [v]), rest) := by
  rw [readItems.eq_def]
  dsimp only
  rw [hv]
  dsimp only
  rw [hr, ← List.reverse_cons]
  rfl

lemma readItems_cons {fuel : Nat} {seen : List Json} {t r rest : Text} {v : Json}
    (hv : readValue fuel t = some (v, r)) (hr : skipGap r = .char ',' :: rest) :
    readItems (fuel + 1) seen t = readItems fuel (v :: seen) rest := by
  rw [readItems.eq_def]
  dsimp only
  rw [hv]
  dsimp only
  rw [hr]
  rfl

section Members

variable {fuel : Nat} {seen : List (Text × Json)} {name t r r' rest' rest : Text} {v : Json}

lemma readMembers_last (hn : readText [] t = some (name, r)) (hc : skipGap r = .char ':' :: r')
    (hv : readValue fuel r' = some (v, rest')) (hr : skipGap rest' = .char '}' :: rest) :
    readMembers (fuel + 1) seen (.char '"' :: t) =
      some (object (seen.reverse ++ [(name, v)]), rest) := by
  have hq : skipGap (.char '"' :: t) = .char '"' :: t := skipGap_cons (by decide) t
  rw [readMembers.eq_def]
  simp only [hq, hn, hc, hv, hr, List.reverse_cons]

lemma readMembers_cons (hn : readText [] t = some (name, r)) (hc : skipGap r = .char ':' :: r')
    (hv : readValue fuel r' = some (v, rest')) (hr : skipGap rest' = .char ',' :: rest) :
    readMembers (fuel + 1) seen (.char '"' :: t) = readMembers fuel ((name, v) :: seen) rest := by
  have hq : skipGap (.char '"' :: t) = .char '"' :: t := skipGap_cons (by decide) t
  rw [readMembers.eq_def]
  simp only [hq, hn, hc, hv, hr]

end Members

lemma join_cons (sep a : Text) (ts : List Text) : ∃ t, Text.join sep (a :: ts) = a ++ t := by
  cases ts with
  | nil => exact ⟨[], (List.append_nil a).symm⟩
  | cons b ts => exact ⟨sep ++ Text.join sep (b :: ts), List.append_assoc ..⟩

lemma enclose_cons (style : Style) (depth : Nat) (opening closing : Char) (part : Text)
    (parts : List Text) (rest : Text) :
    style.enclose depth opening closing (part :: parts) ++ rest =
      .char opening :: (style.gap (depth + 1) ++
        (Text.join (style.comma ++ style.gap (depth + 1)) (part :: parts) ++
          (style.gap depth ++ .char closing :: rest))) := by
  simp [Style.enclose]

lemma length_join_lt_enclose {style : Style} {depth n : Nat} {opening closing : Char} {part : Text}
    {parts : List Text}
    (h : (style.enclose depth opening closing (part :: parts)).length < n + 1) :
    (Text.join (style.comma ++ style.gap (depth + 1)) (part :: parts)).length + 1 < n := by
  simp only [Style.enclose, List.isEmpty_cons, Bool.false_eq_true, if_false, List.length_append,
    List.length_cons, List.length_nil] at h
  omega

lemma member_append {style : Style} {g : Text} (hc : style.colon = .char ':' :: g) (k w rest : Text) :
    quote k ++ style.colon ++ w ++ rest =
      .char '"' :: (k.flatMap escape ++ .char '"' :: .char ':' :: (g ++ (w ++ rest))) := by
  simp [quote, hc]

section Values

variable {style : Style}

-- No step of the reader takes less than one symbol, so the length of the text bounds the fuel.
mutual

/-- A written value is read back from the front of a text. -/
theorem readValue_writeAt (hst : style.Readable) : ∀ (v : Json) (depth fuel : Nat) (rest : Text),
    isExact v = true →
    Ends rest → (writeAt style depth v).length < fuel →
      readValue fuel (writeAt style depth v ++ rest) = some (v, rest)
  | .null, depth, fuel + 1, rest, _, _, _ =>
    readValue_scalar (by decide) (by decide) rfl fuel
  | .bool true, depth, fuel + 1, rest, _, _, _ =>
    readValue_scalar (by decide) (by decide) rfl fuel
  | .bool false, depth, fuel + 1, rest, _, _, _ =>
    readValue_scalar (by decide) (by decide) rfl fuel
  | .int n, depth, fuel + 1, rest, _, hr, _ => readValue_int n fuel hr
  | .text t, depth, fuel + 1, rest, _, _, _ => readValue_quote fuel t rest
  | .array [], depth, fuel + 1, rest, _, _, _ => rfl
  | .array (v :: items), depth, fuel + 1, rest, hv, _, hf => by
    have hg : ∀ d, ∀ s ∈ style.gap d, isGap s = true := fun _ _ => isGap_of_mem_gap
    rw [writeAt, writeItems] at hf ⊢
    obtain ⟨s, t, hs, hgs, hne⟩ := head_writeAt (Bool.and_eq_true_iff.1 hv).1
    obtain ⟨t', ht'⟩ := join_cons (style.comma ++ style.gap (depth + 1))
      (writeAt style (depth + 1) v) (writeItems style (depth + 1) items)
    have hj := readItems_join hst (v :: items) (depth + 1) fuel [] _ _ rest (List.cons_ne_nil _ _) hv
      (hg (depth + 1)) (hg depth) (length_join_lt_enclose hf)
    rw [writeItems, ht', hs, List.cons_append, List.cons_append] at hj
    rw [enclose_cons, ht', hs, List.cons_append, List.cons_append,
      readValue_items (by rw [skipGap_append (hg _), skipGap_cons hgs]) hne, hj]
    rfl
  | .object [], depth, fuel + 1, rest, _, _, _ => rfl
  | .object ((k, v) :: members), depth, fuel + 1, rest, hv, _, hf => by
    have hg : ∀ d, ∀ s ∈ style.gap d, isGap s = true := fun _ _ => isGap_of_mem_gap
    rw [writeAt, writeMembers] at hf ⊢
    obtain ⟨t', ht'⟩ := join_cons (style.comma ++ style.gap (depth + 1))
      (quote k ++ style.colon ++ writeAt style (depth + 1) v)
      (writeMembers style (depth + 1) members)
    have hk : ∃ t, quote k = .char '"' :: t := ⟨_, rfl⟩
    obtain ⟨t, ht⟩ := hk
    have hj := readMembers_join hst ((k, v) :: members) (depth + 1) fuel [] _ _ rest
      (List.cons_ne_nil _ _) hv (hg (depth + 1)) (hg depth) (length_join_lt_enclose hf)
    rw [writeMembers, ht', ht, List.cons_append, List.cons_append, List.cons_append,
      List.cons_append] at hj
    rw [enclose_cons, ht', ht, List.cons_append, List.cons_append, List.cons_append,
      List.cons_append, readValue_members (by rw [skipGap_append (hg _), skipGap_cons rfl]), hj]
    rfl

theorem readItems_join (hst : style.Readable) : ∀ (items : List Json) (depth fuel : Nat)
    (seen : List Json) (gap gap' rest : Text), items ≠ [] → areExact items = true →
    (∀ s ∈ gap, isGap s = true) → (∀ s ∈ gap', isGap s = true) →
    (Text.join (style.comma ++ gap) (writeItems style depth items)).length + 1 < fuel →
      readItems fuel seen (Text.join (style.comma ++ gap) (writeItems style depth items) ++
        (gap' ++ .char ']' :: rest)) = some (array (seen.reverse ++ items), rest)
  | [], _, _, _, _, _, _, hne, _, _, _, _ => absurd rfl hne
  | [v], depth, fuel + 1, seen, gap, gap', rest, _, he, _, hg', hf => by
    have hv : isExact v = true := by simpa [areExact] using he
    have hlen : (writeAt style depth v).length + 1 < fuel + 1 := hf
    have hend : Ends (gap' ++ .char ']' :: rest) :=
      ends_append hg' (ends_cons rest (.inr (.inl rfl)))
    refine readItems_last (readValue_writeAt hst v depth fuel _ hv hend (by omega)) ?_
    rw [skipGap_append hg', skipGap_cons (by decide)]
  | v :: u :: items, depth, fuel + 1, seen, gap, gap', rest, _, he, hg, hg', hf => by
    obtain ⟨g, hcomma, hgc⟩ := hst.comma
    obtain ⟨hv, hrest⟩ := Bool.and_eq_true_iff.1 he
    have hjoin : Text.join (style.comma ++ gap) (writeItems style depth (v :: u :: items)) =
        writeAt style depth v ++ (.char ',' :: (g ++ gap ++
          Text.join (style.comma ++ gap) (writeItems style depth (u :: items)))) := by
      simp [writeItems, Text.join, hcomma]
    have hlen := congrArg List.length hjoin
    simp only [List.length_append, List.length_cons] at hlen
    have hcg : ∀ s ∈ g ++ gap, isGap s = true := fun s hs =>
      (List.mem_append.1 hs).elim (hgc s) (hg s)
    rw [hjoin, List.append_assoc, List.cons_append,
      readItems_cons (readValue_writeAt hst v depth fuel _ hv (ends_cons _ (.inl rfl)) (by omega))
        (skipGap_cons (by decide) _),
      List.append_assoc, readItems_append hcg,
      readItems_join hst (u :: items) depth fuel (v :: seen) gap gap' rest (List.cons_ne_nil _ _) hrest
        hg hg' (by omega)]
    simp

theorem readMembers_join (hst : style.Readable) : ∀ (members : List (Text × Json)) (depth fuel : Nat)
    (seen : List (Text × Json)) (gap gap' rest : Text), members ≠ [] →
    areExactMembers members = true → (∀ s ∈ gap, isGap s = true) → (∀ s ∈ gap', isGap s = true) →
    (Text.join (style.comma ++ gap) (writeMembers style depth members)).length + 1 < fuel →
      readMembers fuel seen (Text.join (style.comma ++ gap) (writeMembers style depth members) ++
        (gap' ++ .char '}' :: rest)) = some (object (seen.reverse ++ members), rest)
  | [], _, _, _, _, _, _, hne, _, _, _, _ => absurd rfl hne
  | [(k, v)], depth, fuel + 1, seen, gap, gap', rest, _, he, _, hg', hf => by
    obtain ⟨g, hcolon, hgc⟩ := hst.colon
    have hv : isExact v = true := by simpa [areExactMembers] using he
    have hlen : (quote k ++ style.colon ++ writeAt style depth v).length + 1 < fuel + 1 := hf
    simp only [List.length_append] at hlen
    have hend : Ends (gap' ++ .char '}' :: rest) :=
      ends_append hg' (ends_cons rest (.inr (.inr rfl)))
    have hread := readValue_writeAt hst v depth fuel _ hv hend (by omega)
    rw [← readValue_append hgc] at hread
    change readMembers (fuel + 1) seen
      (quote k ++ style.colon ++ writeAt style depth v ++ (gap' ++ .char '}' :: rest)) = _
    rw [member_append hcolon, readMembers_last (readText_flatMap_escape k [] _)
      (skipGap_cons (by decide) _) hread (by rw [skipGap_append hg', skipGap_cons (by decide)])]
    rfl
  | (k, v) :: m :: members, depth, fuel + 1, seen, gap, gap', rest, _, he, hg, hg', hf => by
    obtain ⟨c, hcomma, hcc⟩ := hst.comma
    obtain ⟨g, hcolon, hgc⟩ := hst.colon
    obtain ⟨hv, hrest⟩ := Bool.and_eq_true_iff.1 he
    have hjoin : Text.join (style.comma ++ gap) (writeMembers style depth ((k, v) :: m :: members)) =
        quote k ++ style.colon ++ writeAt style depth v ++ (.char ',' :: (c ++ gap ++
          Text.join (style.comma ++ gap) (writeMembers style depth (m :: members)))) := by
      simp [writeMembers, Text.join, hcomma]
    have hlen := congrArg List.length hjoin
    simp only [List.length_append, List.length_cons] at hlen
    have hcg : ∀ s ∈ c ++ gap, isGap s = true := fun s hs =>
      (List.mem_append.1 hs).elim (hcc s) (hg s)
    rw [hjoin, List.append_assoc, List.cons_append, member_append hcolon,
      readMembers_cons (readText_flatMap_escape k [] _) (skipGap_cons (by decide) _)
        (by rw [readValue_append hgc,
          readValue_writeAt hst v depth fuel _ hv (ends_cons _ (.inl rfl)) (by omega)])
        (skipGap_cons (by decide) _),
      List.append_assoc, readMembers_append hcg,
      readMembers_join hst (m :: members) depth fuel _ gap gap' rest (List.cons_ne_nil _ _) hrest
        hg hg' (by omega)]
    simp

end

/-- Reading undoes writing. -/
theorem read?_write (hst : style.Readable) {v : Json} (hv : isExact v = true) :
    read? (write style v) = some v := by
  have h := readValue_writeAt hst v 0 ((write style v).length + 1) [] hv
    (fun s hs => by cases hs) (Nat.lt_succ_self _)
  rw [List.append_nil] at h
  unfold read?
  rw [show readValue ((write style v).length + 1) (write style v) = some (v, []) from h]
  rfl

end Values

end SharedVm.Json
