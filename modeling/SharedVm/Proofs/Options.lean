import SharedVm.Proofs.CommandLine
import SharedVm.Proofs.Decimal

/-!
# The options and the command of a launch

The words of an option are read as the option that they were written for, whatever stands behind
them, and the words behind a separator are the command, whatever they look like.
-/

namespace SharedVm.CommandLine

open Act

/-- The part of an override up to its first equals sign. -/
def overrideName (raw : Text) : Text := raw.takeWhile (· ≠ .char '=')

/-- An option that a launch may be given. -/
inductive Given where
  | interactive
  | port (n : Nat) (hn : Port.isPublishable n = true)
  | env (raw : Text) (hraw : raw.head? ≠ some dash) (hname : (overrideName raw).strip ≠ [])

namespace Given

def words : Given → List Text
  | interactive => ["-i"]
  | port n _ => ["--port", Decimal.ofNat n]
  | env raw _ _ => ["-e", raw]

def isInteractive : Given → Bool
  | interactive => true
  | _ => false

def port? : Given → Option Nat
  | port n _ => some n
  | _ => none

/-- The variable of an override, with the value behind the first equals sign. -/
def override? : Given → Option Override
  | env raw _ _ =>
    let value := if raw.contains (.char '=') then .text (raw.drop ((overrideName raw).length + 1))
      else .null
    some ((overrideName raw).strip, value)
  | _ => none

/-- How the words of an option are marked. -/
def marked : Given → List (Text × Mark)
  | interactive => [("-i", .option .interactive true none)]
  | port n _ => [("--port", .option .port false none), (Decimal.ofNat n, .plain)]
  | env raw _ _ => [("-e", .option .env true none), (raw, .plain)]

def apply (s : Settings) (g : Given) : Settings where
  port := g.port?.orElse fun _ => s.port
  interactive := s.interactive || g.isInteractive
  env := match g.override? with
    | some v => some (s.env.getD [] ++ [some v])
    | none => s.env
  retryDelay := s.retryDelay
  command := s.command

end Given

/-- How the words of a launch are marked. -/
def markedLaunch (given : List Given) (command : List Text) : List (Text × Mark) :=
  given.flatMap Given.marked ++ (("--", .separator) :: command.map fun a => (a, .plain) :
    List (Text × Mark))

/-- The words of a launch: its options, a separator, and its command. -/
def launchWords (given : List Given) (command : List Text) : List Text :=
  given.flatMap Given.words ++ ("--" :: command : List Text)

/-! ### Marks -/

lemma ne_separator {a : Text} (h : a.head? ≠ some dash) : a ≠ "--" := by
  rintro rfl
  exact h rfl

lemma mark_of_head {a : Text} (h : a.head? ≠ some dash) (p : Part) : mark p a = .ok .plain :=
  if_pos (by simp [h])

lemma marks_separator (p : Part) (rest : List Text) :
    marks p ("--" :: rest) = .ok (("--", .separator) :: rest.map fun a => (a, .plain)) := by
  rw [marks, if_pos rfl]

lemma marks_cons {p : Part} {a : Text} {m : Mark} (ha : a ≠ "--") (hm : mark p a = .ok m)
    (rest : List Text) : marks p (a :: rest) = (marks p rest).map ((a, m) :: ·) := by
  rw [marks, if_neg ha, hm]
  cases marks p rest <;> rfl

lemma marks_append {p : Part} {front : List (Text × Mark)}
    (hfront : ∀ x ∈ front, x.1 ≠ "--" ∧ mark p x.1 = .ok x.2) (rest : List Text) :
    marks p (front.map (·.1) ++ rest) = (marks p rest).map (front ++ ·) := by
  induction front with
  | nil => cases h : marks p rest <;> simp [h, Except.map]
  | cons x front ih =>
    obtain ⟨hx, hm⟩ := hfront x List.mem_cons_self
    rw [List.map_cons, List.cons_append, marks_cons hx hm,
      ih fun y hy => hfront y (List.mem_cons_of_mem _ hy)]
    cases marks p rest <;> rfl

lemma exists_marks {p : Part} {front rest : List Text} (hfront : ∀ a ∈ front, ∃ m, mark p a = .ok m)
    (hrest : ∃ ms, marks p rest = .ok ms) : ∃ ms, marks p (front ++ rest) = .ok ms := by
  induction front with
  | nil => exact hrest
  | cons a front ih =>
    obtain ⟨ms, hms⟩ := ih fun b hb => hfront b (List.mem_cons_of_mem _ hb)
    obtain ⟨m, hm⟩ := hfront a List.mem_cons_self
    rw [List.cons_append]
    by_cases ha : a = "--"
    · rw [ha]
      exact ⟨_, marks_separator p _⟩
    · rw [marks_cons ha hm, hms]
      exact ⟨_, rfl⟩

lemma map_fst_of_marks {p : Part} {args : List Text} {ms : List (Text × Mark)}
    (h : marks p args = .ok ms) : ms.map (·.1) = args := by
  induction args generalizing ms with
  | nil =>
    cases h
    rfl
  | cons a rest ih =>
    by_cases ha : a = "--"
    · rw [ha, marks_separator] at h
      cases h
      rw [ha, List.map_cons, List.map_map]
      exact congrArg _ (List.map_id' rest)
    · rw [marks, if_neg ha] at h
      cases hm : mark p a with
      | error c =>
        rw [hm] at h
        cases h
      | ok m =>
        cases hrest : marks p rest with
        | error c =>
          rw [hm, hrest] at h
          cases h
        | ok ms =>
          rw [hm, hrest] at h
          cases h
          rw [List.map_cons, ih hrest]

lemma head?_ofNat (n : Nat) : (Decimal.ofNat n).head? ≠ some dash := by
  obtain ⟨ds, hds, hlt, -, -, -⟩ := Decimal.ofNat_digits n
  rw [hds]
  cases ds with
  | nil => exact nofun
  | cons d rest =>
    have hd : ∀ d < 10, Decimal.digit d ≠ dash := by decide
    exact fun h => hd d (hlt d List.mem_cons_self) (Option.some.inj h)

namespace Given

lemma map_fst_marked (g : Given) : g.marked.map (·.1) = g.words := by cases g <;> rfl

lemma mark_of_mem_marked {g : Given} {x : Text × Mark} (hx : x ∈ g.marked) :
    x.1 ≠ "--" ∧ mark .launch x.1 = .ok x.2 := by
  have hplain : ∀ {a : Text}, a.head? ≠ some dash → a ≠ "--" ∧ mark .launch a = .ok .plain :=
    fun ha => ⟨ne_separator ha, mark_of_head ha _⟩
  cases g with
  | interactive =>
    obtain rfl := List.mem_singleton.1 hx
    exact ⟨by decide, rfl⟩
  | port n hn =>
    rcases List.mem_pair.1 hx with rfl | rfl
    · exact ⟨by decide, rfl⟩
    · exact hplain (head?_ofNat n)
  | env raw hraw hname =>
    rcases List.mem_pair.1 hx with rfl | rfl
    · exact ⟨by decide, rfl⟩
    · exact hplain hraw

/-- The whole command line knows no option of a launch, and takes none for one of its own. -/
lemma mark_whole_of_mem_words {g : Given} {a : Text} (ha : a ∈ g.words) :
    ∃ m, mark .whole a = .ok m := by
  cases g with
  | interactive =>
    obtain rfl := List.mem_singleton.1 ha
    exact ⟨.unknown, rfl⟩
  | port n hn =>
    rcases List.mem_pair.1 ha with rfl | rfl
    · exact ⟨.unknown, rfl⟩
    · exact ⟨.plain, mark_of_head (head?_ofNat n) _⟩
  | env raw hraw hname =>
    rcases List.mem_pair.1 ha with rfl | rfl
    · exact ⟨.unknown, rfl⟩
    · exact ⟨.plain, mark_of_head hraw _⟩

end Given

lemma marks_launchWords (given : List Given) (command : List Text) :
    marks .launch (launchWords given command) = .ok (markedLaunch given command) := by
  have hwords : given.flatMap Given.words = (given.flatMap Given.marked).map (·.1) := by
    rw [List.map_flatMap]
    simp only [Given.map_fst_marked]
  have hfront : ∀ x ∈ given.flatMap Given.marked, x.1 ≠ "--" ∧ mark .launch x.1 = .ok x.2 := by
    intro x hx
    obtain ⟨g, -, hx⟩ := List.mem_flatMap.1 hx
    exact Given.mark_of_mem_marked hx
  rw [launchWords, hwords, marks_append hfront, marks_separator]
  rfl

lemma exists_marks_whole (given : List Given) (command : List Text) :
    ∃ ms, marks .whole (launchWords given command) = .ok ms := by
  refine exists_marks (fun a ha => ?_) ⟨_, marks_separator .whole command⟩
  obtain ⟨g, -, ha⟩ := List.mem_flatMap.1 ha
  exact Given.mark_whole_of_mem_words ha

/-! ### Reading -/

lemma ofInt_natCast (n : Nat) : Decimal.ofInt (n : Int) = Decimal.ofNat n := rfl

lemma chosen_ofNat {n : Nat} (hn : Port.isPublishable n = true) :
    Port.chosen (Decimal.ofNat n) = .ok n := by
  have hread : Decimal.read (Decimal.ofInt n) = .ok (n : Int) :=
    Decimal.read_ofInt ((Decimal.write?_eq_some_iff n).1 (Port.write?_of_isPublishable hn))
  rw [ofInt_natCast] at hread
  unfold Port.chosen
  rw [hread]
  dsimp only
  rw [if_pos hn, Int.toNat_natCast]

lemma overrideName_append {front : Text} (h : .char '=' ∉ front) (rest : Text) :
    overrideName (front ++ rest) = front ++ overrideName rest :=
  List.takeWhile_append_of_pos fun _ hs => decide_eq_true fun he => h (he ▸ hs)

/-- What follows the name of an override is nothing, or an equals sign and the value. -/
lemma splitValue_eq (raw : Text) : splitValue raw = (overrideName raw,
    if raw.contains (.char '=') then some (raw.drop ((overrideName raw).length + 1)) else none) := by
  unfold splitValue
  dsimp only
  rw [← overrideName]
  by_cases h : .char '=' ∈ raw
  · obtain ⟨front, rest, rfl, hfront⟩ := List.eq_append_cons_of_mem h
    have hname : overrideName (front ++ .char '=' :: rest) = front :=
      (overrideName_append hfront _).trans (List.append_nil front)
    rw [hname, if_pos (by simp), List.drop_left, ← List.drop_drop, List.drop_left]
    rfl
  · have hname : overrideName raw = raw := by
      have happend := overrideName_append h []
      rw [List.append_nil] at happend
      exact happend.trans (List.append_nil raw)
    rw [hname, if_neg (by simpa using h), List.drop_length]

lemma override?_eq {raw : Text} (hname : (overrideName raw).strip ≠ []) :
    override? raw = some ((overrideName raw).strip,
      if raw.contains (.char '=') then .text (raw.drop ((overrideName raw).length + 1))
      else .null) := by
  unfold override?
  rw [splitValue_eq]
  dsimp only
  rw [if_neg (mt List.isEmpty_iff.1 hname)]
  split <;> rfl

lemma readLaunch_flag (s : Settings) (unknown : List Text) (a : Text) (short : Bool)
    (rest : List (Text × Mark)) :
    readLaunch s unknown ((a, .option .interactive short none) :: rest) =
      readLaunch { s with interactive := true } unknown rest := by
  delta readLaunch
  rfl

lemma readLaunch_value {o : Opt} {v : Text} {s s' : Settings} (ho : o.takesValue = true)
    (hs : setValue s o v = .ok s') (unknown : List Text) (a : Text) (short : Bool)
    (rest : List (Text × Mark)) :
    readLaunch s unknown ((a, .option o short none) :: (v, .plain) :: rest) =
      readLaunch s' unknown rest := by
  have hread : readLaunch s unknown ((a, .option o short none) :: (v, .plain) :: rest) =
      (complain .launch (setValue s o v)).bind fun s => readLaunch s unknown rest := by
    cases o with
    | help => cases ho
    | version => cases ho
    | interactive => cases ho
    | port | env | retryDelay =>
      delta readLaunch
      rfl
  rw [hread, hs]
  rfl

namespace Given

lemma readLaunch_marked (g : Given) (s : Settings) (rest : List (Text × Mark)) :
    readLaunch s [] (g.marked ++ rest) = readLaunch (g.apply s) [] rest := by
  cases g with
  | interactive =>
    refine (readLaunch_flag s [] "-i" true rest).trans ?_
    simp [apply, port?, override?, isInteractive]
  | port n hn =>
    refine readLaunch_value rfl ?_ [] "--port" false rest
    unfold setValue
    dsimp only
    rw [if_pos (ne_separator (head?_ofNat n)), chosen_ofNat hn]
    simp [apply, port?, override?, isInteractive]
  | env raw hraw hname =>
    refine readLaunch_value rfl ?_ [] "-e" true rest
    unfold setValue
    dsimp only
    rw [if_pos (ne_separator hraw), override?_eq hname]
    simp [apply, port?, override?, isInteractive]

end Given

lemma readLaunch_markedLaunch (given : List Given) (command : List Text) (s : Settings) :
    readLaunch s [] (markedLaunch given command) =
      .ok ({ given.foldl Given.apply s with command := "--" :: command }, []) := by
  induction given generalizing s with
  | nil =>
    have hwords : (command.map fun a => (a, Mark.plain)).map (·.1) = command := by
      rw [List.map_map]
      exact List.map_id' command
    have hread : readLaunch s [] (markedLaunch [] command) =
        .ok ({ s with command := (markedLaunch [] command).map (·.1) }, []) := by
      delta readLaunch
      rfl
    rw [hread, markedLaunch, List.flatMap_nil, List.nil_append, List.map_cons, hwords]
    rfl
  | cons g rest ih =>
    rw [markedLaunch, List.flatMap_cons, List.append_assoc, g.readLaunch_marked]
    exact ih (g.apply s)

/-! ### What is given comes out -/

/-- The launch that options and a command ask for: under the last port, and with all the overrides in
their order. -/
def launchOf (given : List Given) (command : Text) (args : List Text) : Launch (Option Override) where
  serverPort := .int ((given.filterMap Given.port?).getLast?.getD 3333 : Nat)
  command := .text command
  args := .list (args.map .text)
  overrides := (given.filterMap Given.override?).map some
  interactive := given.any Given.isInteractive
  retryDelay := .real (.finite false 0 (-1074))

lemma foldl_apply (given : List Given) (s : Settings) :
    (given.foldl Given.apply s).port = (given.filterMap Given.port?).getLast?.or s.port ∧
    (given.foldl Given.apply s).interactive = (s.interactive || given.any Given.isInteractive) ∧
    (given.foldl Given.apply s).env.getD [] =
      s.env.getD [] ++ (given.filterMap Given.override?).map some ∧
    (given.foldl Given.apply s).retryDelay = s.retryDelay := by
  induction given generalizing s with
  | nil => simp
  | cons g rest ih =>
    obtain ⟨hp, hi, he, hd⟩ := ih (g.apply s)
    rw [List.foldl_cons]
    refine ⟨hp.trans ?_, hi.trans ?_, he.trans ?_, hd⟩
    · cases g <;> simp [Given.apply, Given.port?, List.getLast?_cons]
    · simp [Given.apply, Bool.or_assoc]
    · cases g <;> simp [Given.apply, Given.override?, List.filterMap_cons]

/-- What the words of a launch are read as. -/
def settingsOf (given : List Given) (command : List Text) : Settings :=
  { given.foldl Given.apply {} with command := "--" :: command }

lemma read_launchWords (given : List Given) (command : List Text) :
    read ("launch" :: launchWords given command) = .ok (.launch (settingsOf given command)) := by
  obtain ⟨ms, hms⟩ := exists_marks_whole given command
  have hwhole : marks .whole ("launch" :: launchWords given command) =
      .ok (("launch", .plain) :: ms) := by
    rw [marks_cons (by decide) (mark_of_head (by decide) _), hms]
    rfl
  have hcommand : readMarked [] (("launch", .plain) :: ms) =
      readCommand [] "launch" (launchWords given command) := by
    rw [← map_fst_of_marks hms]
    cases ms <;> rfl
  unfold read
  rw [hwhole]
  refine hcommand.trans ?_
  unfold readCommand
  rw [if_pos rfl, marks_launchWords]
  change (readLaunch {} [] (markedLaunch given command) >>= _) = _
  rw [readLaunch_markedLaunch]
  rfl

lemma launch?_settingsOf (given : List Given) (command : Text) (args : List Text) :
    (settingsOf given (command :: args)).launch? = some (launchOf given command args) := by
  obtain ⟨hport, hinteractive, henv, hdelay⟩ := foldl_apply given {}
  have hcommand : (settingsOf given (command :: args)).commandLine = command :: args := rfl
  have hdefault : (settingsOf given (command :: args)).port =
      some ((given.filterMap Given.port?).getLast?.getD 3333) := by
    refine hport.trans ?_
    cases (given.filterMap Given.port?).getLast? <;> rfl
  unfold Settings.launch?
  rw [hcommand, hdefault, show (settingsOf given (command :: args)).retryDelay = _ from hdelay]
  dsimp only [settingsOf]
  rw [hinteractive, henv]
  rfl

/-- A launch is given exactly what stands in front of the separator, and its command is every word
behind it. -/
theorem start_verbatim (given : List Given) (command : Text) (args : List Text) :
    (∃ s, read ("launch" :: launchWords given (command :: args)) = .ok (.launch s) ∧
      s.launch? = some (launchOf given command args)) ∧
    start ("launch" :: launchWords given (command :: args)) =
      tryCatch (Except.ok <$> (launchOf given command args).run prepare)
        (fun f => if isTold f then return .error f else throw f) >>= conclude := by
  have hread := read_launchWords given (command :: args)
  have hlaunch := launch?_settingsOf given command args
  refine ⟨⟨_, hread, hlaunch⟩, ?_⟩
  unfold start
  rw [hread]
  exact beginLaunch_of_launch hlaunch

/-- The last port counts and each override is split once, while a second separator and what looks like
an option behind it are the command. -/
theorem start_verbatim_lookalikes :
    let words : List Text := ["launch", "--port", "4444", "-i", "-e", " A =1=2", "--port", "5555",
      "-e", "B", "--", "--", "-e", "--help", ""]
    let launch : Launch (Option Override) := {
      serverPort := .int 5555
      command := .text "--"
      args := .list [.text "-e", .text "--help", .text ""]
      overrides := [some ("A", .text "1=2"), some ("B", .null)]
      interactive := true
      retryDelay := .real (.finite false 0 (-1074)) }
    (∃ s, read words = .ok (.launch s) ∧ s.launch? = some launch) ∧
    start words = tryCatch (Except.ok <$> launch.run prepare)
      (fun f => if isTold f then return .error f else throw f) >>= conclude :=
  start_verbatim [.port 4444 rfl, .interactive, .env " A =1=2" (by decide) (by decide),
    .port 5555 rfl, .env "B" (by decide) (by decide)] "--" ["-e", "--help", ""]

end SharedVm.CommandLine
