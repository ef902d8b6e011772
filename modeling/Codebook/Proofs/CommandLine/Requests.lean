import Codebook.Proofs.CommandLine.Selections

/-!
# Requests for the help and the version

The help and the version are asked for by their names, or by a letter behind a single dash. A run that is
to say more may say so with the same dash, before that letter.

Reading ends at the first request that it comes to. What stands behind a request is not looked at, and it
does not matter which options are missing; but what stands in front of it must have nothing wrong.
-/

namespace Codebook.CommandLine

/-! ## Requests -/

/-- The word that asks for a text. -/
def Stop.word? : Stop → Option String
  | .help true => some "--help"
  | .version => some "--version"
  | _ => none

/-- The letter that asks for a text. -/
def Stop.letter? : Stop → Option Char
  | .help false => some 'h'
  | .version => some 'V'
  | _ => none

/-- The user asks for a text, and nothing is wrong. -/
def Stop.Asks : Stop → Prop
  | .help _ | .version => True
  | _ => False

/-- An argument that asks for a text. Before the letter that asks, the letter of verbosity may stand any
number of times. -/
inductive Request (stop : Stop) : (verbose : Nat) → (argument : String) → Prop where
  | word {text : String} (word : stop.word? = some text) : Request stop 0 text
  | letter {c : Char} (letter : stop.letter? = some c) (verbose : Nat) (behind : List Char) :
      Request stop verbose (String.ofList ('-' :: (List.replicate verbose 'v' ++ c :: behind)))

/-- An argument that asks for a text says nothing wrong. -/
theorem Request.asks {stop : Stop} {verbose : Nat} {argument : String}
    (request : Request stop verbose argument) : stop.Asks := by
  cases request with
  | word word =>
    unfold Stop.word? at word
    split at word <;> trivial
  | letter letter =>
    unfold Stop.letter? at letter
    split at letter <;> trivial

/-- Some arguments ask for a text, and all that stands in front of the request can be read. -/
inductive Given.Requested (given : Given) (stop : Stop) : List String → Prop where
  | behind {front : List String} {argument : String} {verbose : Nat} {after : Given}
      (noSeparator : "--" ∉ front)
      (read : given.read (front ++ List.replicate verbose "-v") = .ok after)
      (request : Request stop verbose argument) (rest : List String) :
      Requested given stop (front ++ argument :: rest)

/-! ## What else reading ends with -/

/-- Two steps fail at the first one, or at the second one with what the first one leads to. -/
theorem bind_eq_error_iff {ε α β : Type} {step : Except ε α} {next : α → Except ε β} {error : ε} :
    step >>= next = .error error ↔
      step = .error error ∨ ∃ result, step = .ok result ∧ next result = .error error := by
  cases step <;> simp [bind, Except.bind]

/-- Two steps are done if the first one is, and then the second one with what the first one leads to. -/
theorem bind_eq_ok_iff {ε α β : Type} {step : Except ε α} {next : α → Except ε β} {answer : β} :
    step >>= next = .ok answer ↔ ∃ result, step = .ok result ∧ next result = .ok answer := by
  cases step <;> simp [bind, Except.bind]

theorem not_asks_of_checkValue {parameter : Parameter} {value : String} {stop : Stop}
    (stopped : checkValue parameter value = .error stop) : ¬ stop.Asks := by
  simp only [checkValue] at stopped
  split at stopped
  · cases stopped
    exact id
  · split at stopped
    · cases stopped
      exact id
    · cases stopped

theorem not_asks_of_give {given : Given} {parameter : Parameter} {value : String} {stop : Stop}
    (stopped : given.give parameter value = .error stop) : ¬ stop.Asks := by
  unfold Given.give at stopped
  split at stopped
  · cases stopped
    exact id
  · rcases bind_eq_error_iff.mp stopped with checked | ⟨_, -, impossible⟩
    · exact not_asks_of_checkValue checked
    · cases impossible

theorem not_asks_of_settle {given : Given} {stop : Stop} (stopped : given.settle = .error stop) :
    ¬ stop.Asks := by
  unfold Given.settle at stopped
  split at stopped
  · cases stopped
  · cases stopped
    exact id
  · exact not_asks_of_give stopped

theorem not_asks_of_takePlain {given : Given} {argument : String} {stop : Stop}
    (stopped : given.takePlain argument = .error stop) : ¬ stop.Asks := by
  unfold Given.takePlain at stopped
  split at stopped
  · cases stopped
  · cases stopped
    exact id

/-- Turning on a switch ends reading with a text only if the switch asks for it. -/
theorem turnOn_asks {given : Given} {long : Bool} {switch : Switch} {stop : Stop} (asks : stop.Asks)
    (stopped : given.turnOn long switch = .error stop) :
    switch = .help ∧ stop = .help long ∨ switch = .version ∧ stop = .version := by
  cases switch with
  | help => exact .inl ⟨rfl, (Except.error.inj stopped).symm⟩
  | version => exact .inr ⟨rfl, (Except.error.inj stopped).symm⟩
  | strict | verbose =>
    simp only [Given.turnOn] at stopped
    split at stopped
    · cases stopped
      exact asks.elim
    · cases stopped

/-- What waits for its value does not ask for a text. -/
theorem exists_settled {α : Type} {given : Given} {next : Given → Except Stop α} {stop : Stop}
    (asks : stop.Asks) (stopped : given.settle >>= next = .error stop) :
    ∃ start, given.settle = .ok start ∧ next start = .error stop := by
  rcases bind_eq_error_iff.mp stopped with unsettled | settled
  · exact absurd asks (not_asks_of_settle unsettled)
  · exact settled

/-! ## One argument -/

/-- What one argument makes of what is given. -/
def Given.take (given : Given) (argument : String) : Except Stop Given :=
  match shapeOf argument with
  | .separator => given.settle
  | .long name value => given.chooseLong name value
  | .short letters => given.chooseShort letters
  | .plain => given.takePlain argument

/-- How an argument of a shape is spelled, unless it holds a value. -/
def Shape.Spells : Shape → List Char → Prop
  | .separator, text => text = ['-', '-']
  | .long name none, text => text = '-' :: '-' :: name.toList
  | .short letters, text => text = '-' :: letters
  | _, _ => True

theorem shapeOf_spells (argument : String) : (shapeOf argument).Spells argument.toList := by
  unfold shapeOf
  split
  · assumption
  · next rest _ spelled =>
    cases behind : rest.dropWhile (· ≠ '=') with
    | nil =>
      have whole := List.takeWhile_append_dropWhile (p := (· ≠ '=')) (l := rest)
      rw [behind, List.append_nil] at whole
      simp only [Shape.Spells, String.toList_ofList, whole, spelled]
    | cons c value => trivial
  · trivial
  · assumption
  · trivial

/-- Two dashes are the only separator. -/
theorem shapeOf_ne_separator {argument : String} (notSeparator : argument ≠ "--") :
    shapeOf argument ≠ .separator := by
  intro shape
  have spelled := shapeOf_spells argument
  rw [shape] at spelled
  exact notSeparator (String.toList_inj.mp (spelled.trans (by decide)))

theorem read_cons {argument : String} (notSeparator : argument ≠ "--") (given : Given)
    (rest : List String) :
    given.read (argument :: rest) = given.take argument >>= fun given => given.read rest := by
  simp only [Given.read, Given.take]
  cases shape : shapeOf argument with
  | separator => exact absurd shape (shapeOf_ne_separator notSeparator)
  | long | short | plain => rfl

theorem read_verbose_letter (given : Given) (rest : List String) :
    given.read ("-v" :: rest) = (do
      let given ← given.settle
      let given ← given.turnOn false .verbose
      given.read rest) := by
  have shape : shapeOf "-v" = .short ['v'] := by decide
  have choice : Choice.ofLetter? 'v' = some (.switch .verbose) := by decide
  simp [Given.read, shape, Given.chooseShort, choice]

/-- A name ends reading with a text only if it is the word that asks for it. -/
theorem chooseLong_asks {given : Given} {name : String} {value : Option String} {stop : Stop}
    (asks : stop.Asks) (stopped : given.chooseLong name value = .error stop) :
    value = none ∧ stop.word? = some ("--" ++ name) ∧ ∃ after, given.settle = .ok after := by
  unfold Given.chooseLong at stopped
  split at stopped
  · cases stopped
    exact asks.elim
  · cases stopped
    exact asks.elim
  · next switch found =>
    have named : (Choice.switch switch).name = name := by simpa using List.find?_some found
    obtain ⟨start, settled, turned⟩ := exists_settled asks stopped
    rcases turnOn_asks asks turned with ⟨rfl, rfl⟩ | ⟨rfl, rfl⟩
    · exact ⟨rfl, by rw [← named]; rfl, start, settled⟩
    · exact ⟨rfl, by rw [← named]; rfl, start, settled⟩
  · obtain ⟨start, -, refused⟩ := exists_settled asks stopped
    exact absurd asks (not_asks_of_give refused)
  · obtain ⟨start, -, impossible⟩ := exists_settled asks stopped
    cases impossible

/-- Letters end reading with a text only if the one that asks for it stands behind letters of
verbosity. -/
theorem chooseShort_asks {given : Given} {letters : List Char} {stop : Stop}
    (asks : stop.Asks) (stopped : given.chooseShort letters = .error stop) :
    ∃ verbose c behind after, letters = List.replicate verbose 'v' ++ c :: behind ∧
      stop.letter? = some c ∧ given.read (List.replicate verbose "-v") = .ok after := by
  induction letters generalizing given with
  | nil => cases stopped
  | cons c letters ih =>
    rw [Given.chooseShort] at stopped
    split at stopped
    · cases stopped
      exact asks.elim
    · next switch found =>
      have lettered : (Choice.switch switch).letter? = some c := by simpa using List.find?_some found
      obtain ⟨start, settled, stopped⟩ := exists_settled asks stopped
      rcases bind_eq_error_iff.mp stopped with turned | ⟨next, turned, stopped⟩
      · rcases turnOn_asks asks turned with ⟨rfl, rfl⟩ | ⟨rfl, rfl⟩
        · exact ⟨0, c, letters, start, rfl, lettered, settled⟩
        · exact ⟨0, c, letters, start, rfl, lettered, settled⟩
      · obtain ⟨verbose, d, behind, after, rfl, asking, read⟩ := ih stopped
        cases switch with
        | strict => cases lettered
        | help | version => cases turned
        | verbose =>
          cases lettered
          refine ⟨verbose + 1, d, behind, after, rfl, asking, ?_⟩
          rw [List.replicate_succ, read_verbose_letter, settled]
          simp only [bind, Except.bind, turned, read]
    · obtain ⟨start, -, refused⟩ := exists_settled asks stopped
      split at refused
      · cases refused
      · exact absurd asks (not_asks_of_give refused)
      · exact absurd asks (not_asks_of_give refused)

/-- One argument ends reading with a text only if it is a request. -/
theorem take_asks {given : Given} {argument : String} {stop : Stop} (asks : stop.Asks)
    (notSeparator : argument ≠ "--") (stopped : given.take argument = .error stop) :
    ∃ verbose after, Request stop verbose argument ∧
      given.read (List.replicate verbose "-v") = .ok after := by
  have spelled := shapeOf_spells argument
  unfold Given.take at stopped
  cases shape : shapeOf argument with
  | separator => exact absurd shape (shapeOf_ne_separator notSeparator)
  | long name value =>
    rw [shape] at spelled stopped
    obtain ⟨rfl, word, after, settled⟩ := chooseLong_asks asks stopped
    have text : argument = "--" ++ name := String.toList_inj.mp (by simpa [Shape.Spells] using spelled)
    exact ⟨0, after, text ▸ .word word, settled⟩
  | short letters =>
    rw [shape] at spelled stopped
    obtain ⟨verbose, c, behind, after, rfl, letter, read⟩ := chooseShort_asks asks stopped
    have text : argument =
        String.ofList ('-' :: (List.replicate verbose 'v' ++ c :: behind)) :=
      String.toList_inj.mp (by simpa [Shape.Spells] using spelled)
    exact ⟨verbose, after, text ▸ .letter letter verbose behind, read⟩
  | plain =>
    rw [shape] at stopped
    exact absurd asks (not_asks_of_takePlain stopped)

/-- A word ends reading once what waits has been settled. -/
theorem take_word {given after : Given} {text : String} {stop : Stop} (word : stop.word? = some text)
    (settled : given.settle = .ok after) : given.take text = .error stop := by
  have helpShape : shapeOf "--help" = .long "help" none := by decide
  have versionShape : shapeOf "--version" = .long "version" none := by decide
  have helpChoice : Choice.ofName? "help" = some (.switch .help) := by decide
  have versionChoice : Choice.ofName? "version" = some (.switch .version) := by decide
  unfold Stop.word? at word
  split at word
  · cases word
    simp only [Given.take, helpShape, Given.chooseLong, helpChoice, settled]
    rfl
  · cases word
    simp only [Given.take, versionShape, Given.chooseLong, versionChoice, settled]
    rfl
  · cases word

/-- A letter ends reading once what waits has been settled. -/
theorem chooseShort_letter {given after : Given} {c : Char} {stop : Stop}
    (letter : stop.letter? = some c) (settled : given.settle = .ok after) (behind : List Char) :
    given.chooseShort (c :: behind) = .error stop := by
  have helpChoice : Choice.ofLetter? 'h' = some (.switch .help) := by decide
  have versionChoice : Choice.ofLetter? 'V' = some (.switch .version) := by decide
  unfold Stop.letter? at letter
  split at letter
  · cases letter
    simp only [Given.chooseShort, helpChoice, settled]
    rfl
  · cases letter
    simp only [Given.chooseShort, versionChoice, settled]
    rfl
  · cases letter

/-- Letters of verbosity in front of a letter are read as arguments of their own would be. -/
theorem chooseShort_verbose {given after : Given} {c : Char} {verbose : Nat} {stop : Stop}
    (letter : stop.letter? = some c) (read : given.read (List.replicate verbose "-v") = .ok after)
    (behind : List Char) :
    given.chooseShort (List.replicate verbose 'v' ++ c :: behind) = .error stop := by
  induction verbose generalizing given with
  | zero => exact chooseShort_letter letter read behind
  | succ verbose ih =>
    have choice : Choice.ofLetter? 'v' = some (.switch .verbose) := by decide
    rw [List.replicate_succ, read_verbose_letter] at read
    obtain ⟨start, settled, read⟩ := bind_eq_ok_iff.mp read
    obtain ⟨next, turned, read⟩ := bind_eq_ok_iff.mp read
    rw [List.replicate_succ, List.cons_append, Given.chooseShort]
    simp only [choice, settled, bind, Except.bind, turned]
    exact ih read

theorem shapeOf_letters {c : Char} (noDash : c ≠ '-') (letters : List Char) :
    shapeOf (String.ofList ('-' :: c :: letters)) = .short (c :: letters) := by
  unfold shapeOf
  split <;> simp_all

theorem Request.shape {stop : Stop} {c : Char} (letter : stop.letter? = some c) (verbose : Nat)
    (behind : List Char) :
    shapeOf (String.ofList ('-' :: (List.replicate verbose 'v' ++ c :: behind))) =
      .short (List.replicate verbose 'v' ++ c :: behind) := by
  cases verbose with
  | zero =>
    refine shapeOf_letters ?_ behind
    rintro rfl
    unfold Stop.letter? at letter
    split at letter <;> cases letter
  | succ verbose => exact shapeOf_letters (by decide) _

/-- A request ends reading, if its letters of verbosity could be read as arguments of their own. -/
theorem Request.take {given after : Given} {stop : Stop} {verbose : Nat} {argument : String}
    (request : Request stop verbose argument)
    (read : given.read (List.replicate verbose "-v") = .ok after) :
    given.take argument = .error stop := by
  cases request with
  | word word => exact take_word word read
  | letter letter verbose behind =>
    simp only [Given.take, Request.shape letter]
    exact chooseShort_verbose letter read behind

theorem Request.not_separator {stop : Stop} {verbose : Nat} {argument : String}
    (request : Request stop verbose argument) : argument ≠ "--" := by
  cases request with
  | word word =>
    unfold Stop.word? at word
    split at word <;> cases word <;> decide
  | letter letter verbose behind =>
    intro same
    have shape := Request.shape letter verbose behind
    rw [same] at shape
    cases shape

/-! ## All arguments -/

/-- One more argument in front of a request, if it can be read. -/
theorem Given.Requested.cons {given next : Given} {stop : Stop} {argument : String}
    {arguments : List String} (notSeparator : argument ≠ "--") (taken : given.take argument = .ok next)
    (requested : next.Requested stop arguments) : given.Requested stop (argument :: arguments) := by
  cases requested with
  | @behind front _ verbose after noSeparator read request rest =>
    have readAll : given.read (argument :: front ++ List.replicate verbose "-v") = .ok after := by
      rw [List.cons_append, read_cons notSeparator, taken]
      exact read
    exact .behind (List.not_mem_cons_of_ne_of_not_mem notSeparator.symm noSeparator) readAll request rest

/-- Reading ends with a text only at a request. The induction starts from any state, since every
argument that is read changes it. -/
theorem requested_of_read {given : Given} {stop : Stop} {arguments : List String} (asks : stop.Asks)
    (stopped : given.read arguments = .error stop) : given.Requested stop arguments := by
  induction arguments generalizing given with
  | nil => exact absurd asks (not_asks_of_settle stopped)
  | cons argument rest ih =>
    by_cases separator : argument = "--"
    · have shape : shapeOf "--" = .separator := by decide
      rw [separator] at stopped
      simp only [Given.read, shape] at stopped
      split at stopped
      · exact absurd asks (not_asks_of_settle stopped)
      · cases stopped
        exact asks.elim
    rw [read_cons separator] at stopped
    rcases bind_eq_error_iff.mp stopped with taken | ⟨next, taken, stopped⟩
    · obtain ⟨verbose, after, request, read⟩ := take_asks asks separator taken
      exact .behind List.not_mem_nil read request rest
    · exact .cons separator taken (ih stopped)

/-- Reading ends at a request that it comes to. -/
theorem read_of_request {given after : Given} {stop : Stop} {front : List String} {argument : String}
    {verbose : Nat} (noSeparator : "--" ∉ front)
    (read : given.read (front ++ List.replicate verbose "-v") = .ok after)
    (request : Request stop verbose argument) (rest : List String) :
    given.read (front ++ argument :: rest) = .error stop := by
  induction front generalizing given with
  | nil =>
    rw [List.nil_append, read_cons request.not_separator, request.take read]
    rfl
  | cons first front ih =>
    have notFirst : first ≠ "--" := (List.ne_of_not_mem_cons noSeparator).symm
    rw [List.cons_append, read_cons notFirst] at read ⊢
    obtain ⟨next, taken, read⟩ := bind_eq_ok_iff.mp read
    rw [taken]
    exact ih (List.not_mem_of_not_mem_cons noSeparator) read

/-- Reading ends with a text if and only if the arguments ask for it. -/
theorem read_eq_error_iff {given : Given} {stop : Stop} {arguments : List String} (asks : stop.Asks) :
    given.read arguments = .error stop ↔ given.Requested stop arguments := by
  constructor
  · exact requested_of_read asks
  · rintro ⟨noSeparator, read, request, rest⟩
    exact read_of_request noSeparator read request rest

theorem not_asks_of_options {given : Given} {stop : Stop} (stopped : given.options = .error stop) :
    ¬ stop.Asks := by
  simp only [Given.options] at stopped
  split at stopped <;> cases stopped
  exact id

/-- A text is given instead of options if and only if the arguments ask for it. What is missing does
not matter then. -/
theorem options_asked_iff {stop : Stop} {arguments : List String} (asks : stop.Asks) :
    Options.read arguments = .error stop ↔ Given.nothing.Requested stop arguments := by
  rw [← read_eq_error_iff asks, Options.read]
  constructor
  · intro stopped
    rcases bind_eq_error_iff.mp stopped with stopped | ⟨given, -, incomplete⟩
    · exact stopped
    · exact absurd asks (not_asks_of_options incomplete)
  · intro stopped
    rw [stopped]
    rfl

/-- Whoever is given a text has asked for it, in front of any separator. -/
theorem exists_request {stop : Stop} {arguments : List String} (asks : stop.Asks)
    (stopped : Options.read arguments = .error stop) :
    ∃ front argument rest, arguments = front ++ argument :: rest ∧ "--" ∉ front ∧
      ∃ verbose, Request stop verbose argument := by
  obtain ⟨noSeparator, -, request, rest⟩ := (options_asked_iff asks).mp stopped
  exact ⟨_, _, rest, rfl, noSeparator, _, request⟩

/-! ## Requests behind selections -/

theorem Parameter.written_ne_separator (parameter : Parameter) (behind : String) :
    parameter.written ++ behind ≠ "--" := by
  intro same
  have length := congrArg (fun text => text.toList.length) same
  cases parameter <;> simp [Parameter.written] at length

theorem Selection.Written.not_separator {selection : Selection} {arguments : List String}
    (written : selection.Written arguments) : "--" ∉ arguments := by
  cases written with
  | @attached parameter value =>
    rw [List.mem_singleton, String.append_assoc]
    exact (parameter.written_ne_separator _).symm
  | @apart parameter value noDash =>
    have notName := parameter.written_ne_separator ""
    rw [String.append_empty] at notName
    have notValue : value ≠ "--" := by
      rintro rfl
      exact noDash (by decide)
    simp [notName.symm, notValue.symm]
  | strict | verbose => decide

theorem Selected.not_separator {selections : List Selection} {arguments : List String}
    (selected : Selected selections arguments) : "--" ∉ arguments := by
  induction selected with
  | nothing => exact List.not_mem_nil
  | more written _ ih => simp [written.not_separator, ih]

/-- Verbosity is selected as often as its name is written. -/
theorem Selected.verbosely {selections : List Selection} {arguments : List String}
    (selected : Selected selections arguments) (count : Nat) :
    Selected (selections ++ List.replicate count .verbose)
      (arguments ++ List.replicate count "--verbose") := by
  induction selected with
  | nothing =>
    induction count with
    | zero => exact .nothing
    | succ count ih =>
      have more := Selected.more .verbose ih
      exact more
  | more written _ ih =>
    rw [List.append_assoc]
    exact .more written ih

/-- The letter of verbosity is read as its name is, whatever stands in front of it. -/
theorem read_verbose_letters {front : List String} (noSeparator : "--" ∉ front) (given : Given)
    (count : Nat) :
    given.read (front ++ List.replicate count "-v") =
      given.read (front ++ List.replicate count "--verbose") := by
  induction front generalizing given with
  | nil =>
    simp only [List.nil_append]
    induction count generalizing given with
    | zero => rfl
    | succ count ih =>
      simp only [List.replicate_succ, read_verbose_letter, read_verbose, ih]
      rfl
  | cons first front ih =>
    have notFirst : first ≠ "--" := (List.ne_of_not_mem_cons noSeparator).symm
    simp only [List.cons_append, read_cons notFirst, ih (List.not_mem_of_not_mem_cons noSeparator)]

/-- Selections of which none is made twice are read in front of a request, and nothing is read behind
it. The letters of verbosity in the request count as selections. -/
theorem Selected.read_request {selections : List Selection} {front : List String} {stop : Stop}
    {argument : String} {verbose : Nat} (selected : Selected selections front)
    (suits : ∀ selection ∈ selections, selection.Suits)
    (once : ((selections ++ List.replicate verbose Selection.verbose).map Selection.choice).Nodup)
    (request : Request stop verbose argument) (rest : List String) :
    Options.read (front ++ argument :: rest) = .error stop := by
  have allSuit : ∀ selection ∈ selections ++ List.replicate verbose .verbose, selection.Suits := by
    intro selection member
    rcases List.mem_append.mp member with member | member
    · exact suits selection member
    · rw [List.eq_of_mem_replicate member]
      trivial
  have made := (foldlM_add_nothing_iff allSuit _).mpr ⟨once, rfl⟩
  rw [← (selected.verbosely verbose).read_nothing,
    ← read_verbose_letters selected.not_separator] at made
  rw [Options.read, read_of_request selected.not_separator made request rest]
  rfl

/-- What stands behind a request is not looked at, even in the same argument. -/
example : Options.read ["--strict", "-vhx", "?"] = .error (.help false) := rfl

end Codebook.CommandLine
