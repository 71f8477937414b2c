import Mathlib.Data.List.TakeDrop
import TableScript.Arguments

/-!
# Settings and their command lines

Every setting can be asked for: reading the command line that `Arguments.words` writes gives the
settings back (`parse_words`).

1. `readWords` gets as much fuel as there are words. Every word costs one of both, so `readAll`, the
   reading without fuel, has one equation per word (`readAll_cluster`, `readAll_dashes`).
2. An option with what it takes in the same word leaves the other words alone. Only `-f` on its own
   looks ahead, and takes nothing when the word that follows is an option itself.
3. A pattern may hold equals signs but a path may not, so the last one parts them
   (`splitLast?_eq`).
-/

namespace TableScript.Arguments

variable {a a' : Arguments} {positional rest rest' : List String} {word : String} {cs : List Char}

/-! ## Canned responses -/

/-- A text is parted at its last equals sign. -/
theorem splitLast?_eq {pattern path : List Char} (h : '=' ∉ path) :
    splitLast? (pattern ++ '=' :: path) = some (pattern, path) := by
  have hpath : ∀ c ∈ path.reverse, decide (c ≠ '=') = true := fun c hc =>
    decide_eq_true fun e => h (e ▸ List.mem_reverse.1 hc)
  have hreverse : (pattern ++ '=' :: path).reverse = path.reverse ++ '=' :: pattern.reverse := by
    simp
  have hspan : (pattern ++ '=' :: path).reverse.span (· ≠ '=') =
      (path.reverse, '=' :: pattern.reverse) := by
    rw [List.span_eq_takeWhile_dropWhile, hreverse, List.takeWhile_append_of_pos hpath,
      List.dropWhile_append_of_pos hpath]
    simp
  unfold splitLast?
  rw [hspan]
  simp

theorem readMock_eq (m : MockRule) (hpattern : m.pattern ≠ "") (hpath : m.path ≠ "")
    (hequals : '=' ∉ m.path.toList)
    (hword : word.toList = m.pattern.toList ++ '=' :: m.path.toList) : readMock word = .ok m := by
  have hempty : (m.pattern.toList.isEmpty || m.path.toList.isEmpty) = false := by
    simp [hpattern, hpath]
  unfold readMock
  rw [hword, splitLast?_eq hequals]
  simp only [hempty, String.ofList_toList]
  rfl

/-! ## One word -/

/-- Reads the words with as much fuel as there are words. -/
def readAll (a : Arguments) (positional words : List String) :
    Except UsageError (Arguments × List String) :=
  readWords a positional words words.length

/-- A cluster of options costs one unit of fuel, also if it takes a word. -/
theorem readWords_cluster (hword : word.toList = '-' :: cs) (hstdin : cs ≠ [])
    (hdashes : cs ≠ ['-']) (h : readCluster a rest cs = .ok (a', rest')) (fuel : Nat) :
    readWords a positional (word :: rest) (fuel + 1) = readWords a' positional rest' fuel := by
  have hne : ∀ {w : String}, w.toList ≠ '-' :: cs → word ≠ w := fun hw e => hw (e ▸ hword)
  have hlong : word ≠ "--" := hne fun e => hdashes (List.cons.inj e).2.symm
  have hshort : word ≠ "-" := hne fun e => hstdin (List.cons.inj e).2.symm
  have hdashed : isDashed word = true := by simp [isDashed, hword]
  rw [readWords]
  simp only [hlong, hshort, hdashed, hword, List.drop_succ_cons, List.drop_zero, h]
  rfl

/-- An option that takes no word after it. -/
theorem readAll_cluster (hword : word.toList = '-' :: cs) (hstdin : cs ≠ []) (hdashes : cs ≠ ['-'])
    (h : readCluster a rest cs = .ok (a', rest)) :
    readAll a positional (word :: rest) = readAll a' positional rest := by
  unfold readAll
  rw [List.length_cons, readWords_cluster hword hstdin hdashes h]

/-- Behind two dashes every word is what it is. -/
theorem readAll_dashes : readAll a positional ("--" :: rest) = .ok (a, positional ++ rest) := by
  simp [readAll, readWords]

/-! ## The options -/

theorem readAll_debug :
    readAll a positional ("-d" :: rest) = readAll { a with debug := true } positional rest :=
  readAll_cluster (show "-d".toList = '-' :: ['d'] from rfl) (by simp) (by simp) rfl

theorem readAll_quiet :
    readAll a positional ("-q" :: rest) = readAll { a with quietShell := true } positional rest :=
  readAll_cluster (show "-q".toList = '-' :: ['q'] from rfl) (by simp) (by simp) rfl

/-- Without a file in the same word, an option behind `-f` is left alone. -/
theorem readAll_skip (h : ∀ w ∈ rest.head?, isDashed w = true) :
    readAll a positional ("-f" :: rest) = readAll { a with config := .skip } positional rest := by
  refine readAll_cluster (show "-f".toList = '-' :: ['f'] from rfl) (by simp) (by simp) ?_
  match rest, h with
  | [], _ | [_], _ => rfl
  | file :: script :: more, h => simp [readCluster, h file rfl]

theorem readAll_file {path : String} (h : path ≠ "") :
    readAll a positional (("-f" ++ path) :: rest) =
      readAll { a with config := .file path } positional rest := by
  obtain ⟨c, cs, hpath⟩ := List.exists_cons_of_ne_nil (mt String.toList_eq_nil_iff.1 h)
  have hfile : String.ofList (c :: cs) = path := by rw [← hpath, String.ofList_toList]
  have hword : ("-f" ++ path).toList = '-' :: 'f' :: c :: cs := by simp [hpath]
  refine readAll_cluster hword (by simp) (by simp) ?_
  rw [readCluster, hfile]
  simp

theorem readAll_mock (m : MockRule) (hpattern : m.pattern ≠ "") (hpath : m.path ≠ "")
    (hequals : '=' ∉ m.path.toList) :
    readAll a positional (("-m" ++ m.pattern ++ "=" ++ m.path) :: rest) =
      readAll { a with mocks := a.mocks ++ [m] } positional rest := by
  obtain ⟨c, cs, hcs⟩ := List.exists_cons_of_ne_nil (mt String.toList_eq_nil_iff.1 hpattern)
  have hword : ("-m" ++ m.pattern ++ "=" ++ m.path).toList =
      '-' :: 'm' :: c :: (cs ++ '=' :: m.path.toList) := by
    simp [hcs]
  have hmock : readMock (String.ofList (c :: (cs ++ '=' :: m.path.toList))) = .ok m :=
    readMock_eq m hpattern hpath hequals (by rw [String.toList_ofList, hcs]; rfl)
  refine readAll_cluster hword (by simp) (by simp) ?_
  rw [readCluster, hmock]
  · rfl
  · simp

/-! ## The whole line -/

theorem readAll_switches (debug quiet : Bool) :
    readAll a positional
        ((if debug then ["-d"] else []) ++ (if quiet then ["-q"] else []) ++ rest) =
      readAll { a with debug := a.debug || debug, quietShell := a.quietShell || quiet }
        positional rest := by
  have hquiet : ∀ b : Arguments, readAll b positional ((if quiet then ["-q"] else []) ++ rest) =
      readAll { b with quietShell := b.quietShell || quiet } positional rest := fun b => by
    cases quiet
    · simp
    · simpa using readAll_quiet
  rw [List.append_assoc]
  cases debug
  · simpa using hquiet a
  · rw [if_pos rfl, List.singleton_append, readAll_debug, hquiet, Bool.or_true]

/-- The words of a choice of file. -/
def configWords : ConfigChoice → List String
  | .search => []
  | .skip => ["-f"]
  | .file path => ["-f" ++ path]

theorem readAll_config {c : ConfigChoice} (ha : a.config = .search) (hc : c ≠ .file "")
    (h : ∀ w ∈ rest.head?, isDashed w = true) :
    readAll a positional (configWords c ++ rest) =
      readAll { a with config := c } positional rest := by
  cases c with
  | search =>
    change readAll a positional rest = _
    rw [← ha]
  | skip => exact readAll_skip h
  | file path => exact readAll_file fun e => hc (e ▸ rfl)

/-- The words of the canned responses, in their order. -/
def mockWords (mocks : List MockRule) : List String :=
  mocks.map fun m => "-m" ++ m.pattern ++ "=" ++ m.path

theorem readAll_mocks {mocks : List MockRule}
    (h : ∀ m ∈ mocks, m.pattern ≠ "" ∧ m.path ≠ "" ∧ '=' ∉ m.path.toList) :
    readAll a positional (mockWords mocks ++ rest) =
      readAll { a with mocks := a.mocks ++ mocks } positional rest := by
  induction mocks generalizing a with
  | nil => simp [mockWords]
  | cons m mocks ih =>
    obtain ⟨hm, hmocks⟩ := List.forall_mem_cons.1 h
    rw [mockWords, List.map_cons, List.cons_append, readAll_mock m hm.1 hm.2.1 hm.2.2, ← mockWords,
      ih hmocks, List.append_assoc]
    rfl

/-- What follows the choice of file starts with a dash: a canned response or the two dashes. -/
theorem isDashed_head? (mocks : List MockRule) :
    ∀ w ∈ (mockWords mocks ++ "--" :: rest).head?, isDashed w = true := by
  cases mocks with
  | nil => rintro w ⟨⟩; decide
  | cons m mocks =>
    rintro w ⟨⟩
    simp [isDashed]

/-- **Every setting can be asked for.** The command line of some settings is accepted and gives
exactly these settings, the canned responses in their order. The file has a name, and a canned
response a pattern and a path without an equals sign; the pattern and the script may be any texts,
also such as look like options. -/
theorem parse_words (a : Arguments) (hconfig : a.config ≠ .file "")
    (hmocks : ∀ m ∈ a.mocks, m.pattern ≠ "" ∧ m.path ≠ "" ∧ '=' ∉ m.path.toList) :
    parse a.words = .ok a := by
  obtain ⟨config, debug, quiet, mocks, script⟩ := a
  have hwords : words ⟨config, debug, quiet, mocks, script⟩ =
      (if debug then ["-d"] else []) ++ (if quiet then ["-q"] else []) ++
        (configWords config ++ (mockWords mocks ++ ["--", script])) := by
    cases config <;> simp [words, configWords, mockWords]
  have hread : readAll {} [] (words ⟨config, debug, quiet, mocks, script⟩) =
      .ok (⟨config, debug, quiet, mocks, ""⟩, [script]) := by
    rw [hwords, readAll_switches, readAll_config rfl hconfig (isDashed_head? mocks),
      readAll_mocks hmocks, readAll_dashes]
    rfl
  change readAll {} [] _ >>= _ = _
  rw [hread]
  rfl

/-- A pattern of dashes and equals signs, and a script that looks like an option. -/
theorem parse_words_lookalikes :
    parse ["-d", "-q", "-f-q", "-m--=-f==mock.json", "-m-=a", "--", "-d"] =
      .ok ⟨.file "-q", true, true, [⟨"--=-f=", "mock.json"⟩, ⟨"-", "a"⟩], "-d"⟩ :=
  parse_words ⟨.file "-q", true, true, [⟨"--=-f=", "mock.json"⟩, ⟨"-", "a"⟩], "-d"⟩
    (by decide) (by decide)

end TableScript.Arguments
