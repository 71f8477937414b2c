import Mathlib.Data.List.Basic
import Mathlib.Data.List.TakeWhile
import TableScript.Proofs.CommandLine

/-!
# A switch at the end of a command line

A switch that is added at the end of an accepted command line is accepted too and changes nothing
but its own setting, unless a bare `-f` and one word stand there (`parse_append_switch`).

1. `Reading` says how words are read, one option or positional word after the other;
   `reading_of_readWords` and `Reading.readWords_eq` that this is what `readWords` does.
2. What an option takes from the words behind it does not depend on how many there are, for all
   options but one (`takes_of_readCluster`). Behind a bare `-f` the last word is left alone, and a
   word before the last one is the file (`exists_readCluster_bareFile`).
3. A bare `-f` is never itself taken by an option, so the words alone tell whether there is one
   before the last word (`Takes.endsInBareFile_iff`).
-/

namespace TableScript.Arguments

/-- An option that only turns something on. -/
inductive Switch where
  | debug
  | quiet

/-- The word that asks for a switch. -/
def Switch.word : Switch → String
  | debug => "-d"
  | quiet => "-q"

/-- The settings with a switch turned on. -/
def Switch.on (s : Switch) (a : Arguments) : Arguments :=
  match s with
  | debug => { a with debug := true }
  | quiet => { a with quietShell := true }

/-- Switches and then `f`, with no file behind it. -/
def IsBareCluster (cs : List Char) : Prop :=
  ∃ switches : List Char, cs = switches ++ ['f'] ∧ ∀ c ∈ switches, c = 'd' ∨ c = 'q'

/-- A word that asks for a configuration file and does not name it. -/
def IsBareFile (word : String) : Prop := ∃ cs, word.toList = '-' :: cs ∧ IsBareCluster cs

/-- The last two words are a bare `-f` and a word without a dash. -/
def EndsInBareFile (words : List String) : Prop :=
  ∃ before word last, words = before ++ [word, last] ∧ IsBareFile word ∧ isDashed last = false

variable {a a' b : Arguments} {positional positional' words rest rest' : List String}
  {word script : String} {cs : List Char} {fuel : Nat}

/-! ## Bare options -/

theorem isBareCluster_file : IsBareCluster ['f'] := ⟨[], rfl, fun _ h => nomatch h⟩

theorem IsBareCluster.cons {c : Char} (hc : c = 'd' ∨ c = 'q') (h : IsBareCluster cs) :
    IsBareCluster (c :: cs) := by
  obtain ⟨switches, rfl, hswitches⟩ := h
  exact ⟨c :: switches, rfl, List.forall_mem_cons.2 ⟨hc, hswitches⟩⟩

theorem IsBareFile.isDashed (h : IsBareFile word) : isDashed word = true := by
  obtain ⟨cs, hword, -⟩ := h
  simp [Arguments.isDashed, hword]

theorem IsBareFile.ne_stdin (h : IsBareFile word) : word ≠ "-" := by
  rintro rfl
  obtain ⟨cs, hword, switches, rfl, -⟩ := h
  cases switches <;> cases hword

theorem IsBareFile.not_mem_equals (h : IsBareFile word) : '=' ∉ word.toList := by
  obtain ⟨cs, hword, switches, rfl, hswitches⟩ := h
  intro hmem
  rw [hword] at hmem
  simp only [List.mem_cons, List.mem_append, List.not_mem_nil, or_false] at hmem
  obtain h | h | h := hmem
  · cases h
  · rcases hswitches _ h with h | h <;> cases h
  · cases h

theorem mem_equals_of_readMock {m : MockRule} (h : readMock word = .ok m) : '=' ∈ word.toList := by
  unfold readMock splitLast? at h
  by_contra hmem
  have hall : ∀ c ∈ word.toList.reverse, decide (c ≠ '=') = true := fun c hc =>
    decide_eq_true fun e => hmem (e ▸ List.mem_reverse.1 hc)
  rw [List.span_eq_takeWhile_dropWhile, List.dropWhile_eq_nil_iff.2 hall] at h
  cases h

theorem endsInBareFile_cons :
    EndsInBareFile (word :: rest) ↔
      (IsBareFile word ∧ ∃ last, rest = [last] ∧ isDashed last = false) ∨ EndsInBareFile rest := by
  constructor
  · rintro ⟨before, w, last, heq, hw, hlast⟩
    cases before with
    | nil =>
      obtain ⟨rfl, rfl⟩ := List.cons.inj heq
      exact .inl ⟨hw, last, rfl, hlast⟩
    | cons x before =>
      obtain ⟨rfl, rfl⟩ := List.cons.inj heq
      exact .inr ⟨before, w, last, rfl, hw, hlast⟩
  · rintro (⟨hw, last, rfl, hlast⟩ | ⟨before, w, last, rfl, hw, hlast⟩)
    · exact ⟨[], word, last, rfl, hw, hlast⟩
    · exact ⟨word :: before, w, last, rfl, hw, hlast⟩

theorem not_endsInBareFile_nil : ¬ EndsInBareFile [] := by
  rintro ⟨before, w, last, h, -⟩
  simp at h

theorem endsInBareFile_cons_of_not (h : ¬ IsBareFile word) :
    EndsInBareFile (word :: rest) ↔ EndsInBareFile rest :=
  endsInBareFile_cons.trans (or_iff_right fun hw => h hw.1)

/-! ## What a cluster takes -/

/-- A bare `f` and a single word without a dash behind it, which it leaves alone. -/
def LeavesLast (cs : List Char) (rest : List String) : Prop :=
  IsBareCluster cs ∧ ∃ last, rest = [last] ∧ isDashed last = false

/-- What is known of a cluster of options that leaves `rest'` of the words behind it. -/
structure Takes (a b : Arguments) (rest rest' : List String) (cs : List Char) : Prop where
  /-- It takes the next word or none, and never a bare `-f`. -/
  taken : rest' = rest ∨ ∃ w, rest = w :: rest' ∧ ¬ IsBareFile w
  /-- One more word at the end is left alone. -/
  append : ¬ LeavesLast cs rest → ∀ w, readCluster a (rest ++ [w]) cs = .ok (b, rest' ++ [w])

theorem Takes.none (h : ¬ LeavesLast cs rest →
    ∀ w, readCluster a (rest ++ [w]) cs = .ok (b, rest ++ [w])) : Takes a b rest rest cs :=
  ⟨.inl rfl, h⟩

/-- A switch before the other options only turns something on. -/
theorem Takes.cons {c : Char} {a₁ : Arguments} (hc : c = 'd' ∨ c = 'q')
    (hread : ∀ words, readCluster a words (c :: cs) = readCluster a₁ words cs)
    (h : Takes a₁ b rest rest' cs) : Takes a b rest rest' (c :: cs) where
  taken := h.taken
  append hlast w := (hread _).trans (h.append (fun h' => hlast ⟨h'.1.cons hc, h'.2⟩) w)

theorem readCluster_file_dashed {file : String} (h : isDashed file = true) (more : List String) :
    readCluster a (file :: more) ['f'] = .ok ({ a with config := .skip }, file :: more) := by
  cases more with
  | nil => rfl
  | cons next more => simp [readCluster, h]

theorem readCluster_file {file : String} (h : isDashed file = false) (next : String)
    (more : List String) :
    readCluster a (file :: next :: more) ['f'] =
      .ok ({ a with config := .file file }, next :: more) := by
  simp [readCluster, h]

theorem takes_of_readCluster (h : readCluster a rest cs = .ok (b, rest')) :
    Takes a b rest rest' cs := by
  fun_induction readCluster a rest cs with
  | case1 a =>
    cases h
    exact .none fun _ w => rfl
  | case2 a cs ih => exact .cons (.inl rfl) (fun words => rfl) (ih h)
  | case3 a cs ih => exact .cons (.inr rfl) (fun words => rfl) (ih h)
  | case4 a file next more hrest hfile =>
    cases h
    subst hrest
    exact .none fun _ w => readCluster_file_dashed hfile _
  | case5 a file next more hrest hfile =>
    cases h
    refine ⟨.inr ⟨file, hrest, fun hbare => hfile hbare.isDashed⟩, fun _ w => ?_⟩
    exact hrest ▸ readCluster_file (Bool.eq_false_iff.2 hfile) next (more ++ [w])
  | case6 a hfew =>
    cases h
    match rest with
    | [] => exact .none fun _ w => rfl
    | [last] =>
      refine .none fun hlast w => readCluster_file_dashed (Decidable.byContradiction fun h => ?_) _
      exact hlast ⟨isBareCluster_file, last, rfl, Bool.eq_false_iff.2 h⟩
    | file :: next :: more => exact (hfew file next more rfl).elim
  | case7 a cs hcs =>
    cases h
    exact .none fun _ w => by rw [readCluster]; exact hcs
  | case8 a word more hrest =>
    cases hm : readMock word with
    | error e => rw [hm] at h; cases h
    | ok m =>
      rw [hm] at h
      cases h
      have hbare : ¬ IsBareFile word := fun h => h.not_mem_equals (mem_equals_of_readMock hm)
      refine ⟨.inr ⟨word, hrest, hbare⟩, fun _ w => ?_⟩
      rw [hrest, List.cons_append, readCluster, hm]
      rfl
  | case9 a => cases h
  | case10 a cs hcs =>
    cases hm : readMock (String.ofList cs) with
    | error e => rw [hm] at h; cases h
    | ok m =>
      rw [hm] at h
      cases h
      refine .none fun _ w => ?_
      rw [readCluster, hm]
      · rfl
      · exact hcs
  | case11 a c => cases h

namespace Takes

variable (h : Takes a b rest rest' cs)
include h

theorem mem {w : String} (hw : w ∈ rest') : w ∈ rest := by
  obtain rfl | ⟨w, rfl, -⟩ := h.taken
  · exact hw
  · exact List.mem_cons_of_mem w hw

theorem length_le : rest'.length ≤ rest.length := by
  obtain rfl | ⟨w, rfl, -⟩ := h.taken
  · exact Nat.le_refl _
  · exact Nat.le_succ _

theorem getLast?_eq_some (hlast : rest'.getLast? = some word) : rest.getLast? = some word := by
  obtain rfl | ⟨w, rfl, -⟩ := h.taken
  · exact hlast
  · exact List.mem_getLast?_cons hlast

theorem endsInBareFile_iff : EndsInBareFile rest ↔ EndsInBareFile rest' := by
  obtain rfl | ⟨w, rfl, hw⟩ := h.taken
  · exact Iff.rfl
  · exact endsInBareFile_cons_of_not hw

end Takes

/-- A bare `f` leaves the last word alone. Before another word it takes it for the file. -/
theorem exists_readCluster_bareFile (hcs : IsBareCluster cs) {last : String}
    (hlast : isDashed last = false) (a : Arguments) :
    ∃ b : Arguments, readCluster a [last] cs = .ok ({ b with config := .skip }, [last]) ∧
      ∀ w, readCluster a [last, w] cs = .ok ({ b with config := .file last }, [w]) := by
  obtain ⟨switches, rfl, hswitches⟩ := hcs
  induction switches generalizing a with
  | nil => exact ⟨a, rfl, fun w => readCluster_file hlast w []⟩
  | cons c switches ih =>
    obtain ⟨hc, hrest⟩ := List.forall_mem_cons.1 hswitches
    rcases hc with rfl | rfl
    · exact ih { a with debug := true } hrest
    · exact ih { a with quietShell := true } hrest

/-! ## How words are read -/

/-- Words are read one option or positional word after the other: with the settings and positional
words before them, to the settings and positional words after them. -/
inductive Reading : Arguments → List String → List String → Arguments → List String → Prop
  | done {a : Arguments} {positional : List String} : Reading a positional [] a positional
  | dashes {a : Arguments} {positional rest : List String} :
    Reading a positional ("--" :: rest) a (positional ++ rest)
  | positional {a a' : Arguments} {positional positional' rest : List String} {word : String} :
    isDashed word = false ∨ word = "-" → Reading a (positional ++ [word]) rest a' positional' →
    Reading a positional (word :: rest) a' positional'
  | option {a b a' : Arguments} {positional positional' rest rest' : List String} {word : String}
    {cs : List Char} : word.toList = '-' :: cs → cs ≠ [] → cs ≠ ['-'] →
    readCluster a rest cs = .ok (b, rest') → Reading b positional rest' a' positional' →
    Reading a positional (word :: rest) a' positional'

theorem reading_of_readWords (h : readWords a positional words fuel = .ok (a', positional'))
    (hfuel : words.length ≤ fuel) : Reading a positional words a' positional' := by
  induction fuel generalizing a positional words with
  | zero =>
    obtain rfl := List.length_eq_zero_iff.1 (Nat.le_zero.1 hfuel)
    cases h
    exact .done
  | succ fuel ih =>
    match words with
    | [] =>
      cases h
      exact .done
    | word :: rest =>
      have hrest : rest.length ≤ fuel := Nat.le_of_succ_le_succ hfuel
      simp only [readWords] at h
      split at h
      case isTrue hword =>
        cases h
        exact hword ▸ .dashes
      case isFalse hlong =>
        split at h
        case isTrue hpositional => exact .positional (by simpa using hpositional) (ih h hrest)
        case isFalse hoption =>
          simp only [Bool.or_eq_true, Bool.not_eq_true', decide_eq_true_eq, not_or] at hoption
          have hdashed : isDashed word = true := Bool.not_eq_false _ ▸ hoption.1
          obtain ⟨cs, hcs⟩ := List.head?_eq_some_iff.1 (of_decide_eq_true hdashed)
          have hstdin : cs ≠ [] := by
            rintro rfl
            exact hoption.2 (String.toList_inj.1 hcs)
          have hdashes : cs ≠ ['-'] := by
            rintro rfl
            exact hlong (String.toList_inj.1 hcs)
          rw [hcs, List.drop_succ_cons, List.drop_zero] at h
          cases hcluster : readCluster a rest cs with
          | error e => rw [hcluster] at h; cases h
          | ok p =>
            obtain ⟨b, rest'⟩ := p
            rw [hcluster] at h
            have hlength := Nat.le_trans (takes_of_readCluster hcluster).length_le hrest
            exact .option hcs hstdin hdashes hcluster (ih h hlength)

theorem Reading.readWords_eq (h : Reading a positional words a' positional')
    (hfuel : words.length ≤ fuel) : readWords a positional words fuel = .ok (a', positional') := by
  induction h generalizing fuel with
  | done => cases fuel <;> rfl
  | dashes =>
    obtain ⟨more, rfl⟩ := Nat.exists_eq_add_of_lt hfuel
    simp [readWords]
  | @positional a a' positional positional' rest word hword _ ih =>
    obtain ⟨more, rfl⟩ := Nat.exists_eq_add_of_lt hfuel
    have hlong : word ≠ "--" := by
      rintro rfl
      rcases hword with h | h <;> exact absurd h (by decide)
    simp only [readWords, if_neg hlong]
    rw [if_pos (by simpa using hword)]
    exact ih (Nat.le_add_right _ _)
  | @option a b a' positional positional' rest rest' word cs hword hstdin hdashes hcluster _ ih =>
    obtain ⟨more, rfl⟩ := Nat.exists_eq_add_of_lt hfuel
    rw [readWords_cluster hword hstdin hdashes hcluster]
    exact ih (Nat.le_trans (takes_of_readCluster hcluster).length_le (Nat.le_add_right _ _))

theorem parse_of_reading (h : Reading {} [] words b [script]) :
    parse words = .ok { b with script } := by
  rw [parse, h.readWords_eq (Nat.le_refl _)]
  rfl

theorem parse_of_reading_nothing (h : Reading {} [] words b []) :
    parse words = .error .missingScript := by
  rw [parse, h.readWords_eq (Nat.le_refl _)]
  rfl

theorem reading_of_parse (h : parse words = .ok a) :
    ∃ b script, Reading {} [] words b [script] ∧ a = { b with script } := by
  unfold parse at h
  cases hread : readWords {} [] words words.length with
  | error e => rw [hread] at h; cases h
  | ok p =>
    obtain ⟨b, positional⟩ := p
    rw [hread] at h
    match positional with
    | [] | _ :: _ :: _ => cases h
    | [script] =>
      cases h
      exact ⟨b, script, reading_of_readWords hread (Nat.le_refl _), rfl⟩

/-! ## One more word -/

theorem reading_switch (s : Switch) (a : Arguments) (positional : List String) :
    Reading a positional [s.word] (s.on a) positional := by
  cases s with
  | debug => exact .option (show "-d".toList = '-' :: ['d'] from rfl) (by simp) (by simp) rfl .done
  | quiet => exact .option (show "-q".toList = '-' :: ['q'] from rfl) (by simp) (by simp) rfl .done

theorem Reading.eq_of_last (hlast : isDashed script = false)
    (h : Reading a positional [script] a' positional') :
    a' = a ∧ positional' = positional ++ [script] := by
  cases h with
  | dashes => exact absurd hlast (by decide)
  | positional _ h =>
    cases h
    exact ⟨rfl, rfl⟩
  | option hword => simp [isDashed, hword] at hlast

theorem Reading.append_switch (h : Reading a positional words a' positional')
    (hdashes : "--" ∉ words) (s : Switch) :
    (¬ EndsInBareFile words →
      Reading a positional (words ++ [s.word]) (s.on a') positional') ∧
    (EndsInBareFile words → ∃ script others b, positional' = others ++ [script] ∧
      words.getLast? = some script ∧ a'.config = .skip ∧
      Reading a positional (words ++ [s.word]) b others) := by
  induction h with
  | done => exact ⟨fun _ => reading_switch s _ _, fun h => absurd h not_endsInBareFile_nil⟩
  | dashes => exact absurd List.mem_cons_self hdashes
  | @positional a a' positional positional' rest word hword _ ih =>
    have hbare : ¬ IsBareFile word := fun h => by
      rcases hword with hword | hword
      · rw [h.isDashed] at hword
        cases hword
      · exact h.ne_stdin hword
    obtain ⟨hswitch, hlast⟩ := ih (List.not_mem_of_not_mem_cons hdashes)
    rw [endsInBareFile_cons_of_not hbare]
    refine ⟨fun hends => .positional hword (hswitch hends), fun hends => ?_⟩
    obtain ⟨script, others, b, hothers, hscript, hskip, hread⟩ := hlast hends
    exact ⟨script, others, b, hothers, List.mem_getLast?_cons hscript, hskip,
      .positional hword hread⟩
  | @option a b a' positional positional' rest rest' word cs hword hstdin hlong hcluster hrest ih =>
    by_cases hleaves : LeavesLast cs rest
    · obtain ⟨hcs, last, rfl, hlast⟩ := hleaves
      have hends : EndsInBareFile [word, last] := ⟨[], word, last, rfl, ⟨cs, hword, hcs⟩, hlast⟩
      obtain ⟨a₁, hskip, hfile⟩ := exists_readCluster_bareFile hcs hlast a
      rw [hskip] at hcluster
      cases hcluster
      obtain ⟨rfl, rfl⟩ := hrest.eq_of_last hlast
      exact ⟨fun h => absurd hends h, fun _ => ⟨last, positional, _, rfl, rfl, rfl,
        .option hword hstdin hlong (hfile s.word) (reading_switch s _ _)⟩⟩
    · have htakes := takes_of_readCluster hcluster
      have hfirst : EndsInBareFile (word :: rest) ↔ EndsInBareFile rest := by
        refine endsInBareFile_cons.trans (or_iff_right ?_)
        rintro ⟨⟨cs', hword', hcs⟩, hlast⟩
        obtain rfl : cs' = cs := (List.cons.inj (hword'.symm.trans hword)).2
        exact hleaves ⟨hcs, hlast⟩
      have happend := htakes.append hleaves s.word
      obtain ⟨hswitch, hlast⟩ := ih fun h => hdashes (List.mem_cons_of_mem _ (htakes.mem h))
      rw [hfirst, htakes.endsInBareFile_iff]
      refine ⟨fun hends => .option hword hstdin hlong happend (hswitch hends), fun hends => ?_⟩
      obtain ⟨script, others, b', hothers, hscript, hskip, hread⟩ := hlast hends
      exact ⟨script, others, b', hothers,
        List.mem_getLast?_cons (htakes.getLast?_eq_some hscript), hskip,
        .option hword hstdin hlong happend hread⟩

/-- **A switch at the end changes nothing but its setting.** An accepted command line without two
dashes is accepted with a switch behind it and gives the same settings with the switch turned on,
unless a bare `-f` and one word without a dash stand at the end. There the word is the script, and
no file is taken; with the switch behind it the word is taken for the file, and the script is
missing. -/
theorem parse_append_switch (s : Switch) (h : parse words = .ok a) (hdashes : "--" ∉ words) :
    (¬ EndsInBareFile words → parse (words ++ [s.word]) = .ok (s.on a)) ∧
    (EndsInBareFile words → a.config = .skip ∧ words.getLast? = some a.script ∧
      parse (words ++ [s.word]) = .error .missingScript) := by
  obtain ⟨b, script, hread, rfl⟩ := reading_of_parse h
  obtain ⟨hswitch, hlast⟩ := hread.append_switch hdashes s
  constructor
  · intro hends
    rw [parse_of_reading (hswitch hends)]
    cases s <;> rfl
  · intro hends
    obtain ⟨last, others, c, hothers, hscript, hskip, hread⟩ := hlast hends
    cases others with
    | nil =>
      obtain rfl := (List.cons.inj hothers).1
      exact ⟨hskip, hscript, parse_of_reading_nothing hread⟩
    | cons x others => simp at hothers

/-- The file is in a word of its own, with the script behind it, and a canned response is read from
a word that ends in `f`. -/
theorem parse_append_switch_named :
    parse ["-m", "-=f", "-qf", "my.conf", "s.json"] =
      .ok ⟨.file "my.conf", false, true, [⟨"-", "f"⟩], "s.json"⟩ ∧
    "--" ∉ ["-m", "-=f", "-qf", "my.conf", "s.json"] ∧
    parse ["-m", "-=f", "-qf", "my.conf", "s.json", "-d"] =
      .ok ⟨.file "my.conf", true, true, [⟨"-", "f"⟩], "s.json"⟩ := by
  have hparse : parse ["-m", "-=f", "-qf", "my.conf", "s.json"] =
      .ok ⟨.file "my.conf", false, true, [⟨"-", "f"⟩], "s.json"⟩ := by decide
  have hdashes : "--" ∉ ["-m", "-=f", "-qf", "my.conf", "s.json"] := by decide
  have hfile : ¬ IsBareFile "my.conf" := fun h => absurd h.isDashed (by decide)
  have hends : ¬ EndsInBareFile ["-m", "-=f", "-qf", "my.conf", "s.json"] := by
    simp [endsInBareFile_cons, not_endsInBareFile_nil, hfile]
  exact ⟨hparse, hdashes, (parse_append_switch .debug hparse hdashes).1 hends⟩

/-- A switch at the end makes a file of the script. With a script in front a word is taken for the
file even though none follows it. -/
theorem script_taken_for_file :
    parse ["-f", "s.json"] = .ok { config := .skip, script := "s.json" } ∧
    parse ["-f", "s.json", "-d"] = .error .missingScript ∧
    parse ["s.json", "-f", "my.conf", "-d"] =
      .ok { config := .file "my.conf", debug := true, script := "s.json" } := by
  decide

end TableScript.Arguments
