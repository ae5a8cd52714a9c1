import Mathlib.Data.List.TakeWhile
import FilterQuery.CommandLine
import FilterQuery.Proofs.Outcome

namespace FilterQuery.CommandLine

/-- What may be given on the command line. -/
inductive Given where
  | file (path : String)
  | clause (line : String)
  | verbose
deriving DecidableEq

namespace Given

def argument : Given → String
  | file path => path
  | clause line => "--where=" ++ line
  | verbose => "-v"

def path? : Given → Option String
  | file path => some path
  | clause _ | verbose => none

def line? : Given → Option String
  | clause line => some line
  | file _ | verbose => none

end Given

/-- The path can name the file: it is not empty and does not look like a flag. -/
structure NamesFile (path : String) : Prop where
  nonempty : path.isEmpty = false
  noFlag : path.toList.head? ≠ some '-'

namespace Arguments

/-- Arguments of which none is pending. -/
def known (file : Option String) (clauses : List Clause) (verbose : Bool) : Arguments :=
  ⟨file, clauses, verbose, .nothing, false⟩

/-- The arguments are known as soon as the pending one has been read, which may be the file. -/
structure Settles (arguments : Arguments) (file : Option String) (clauses : List Clause)
    (verbose : Bool) : Prop where
  settle : arguments.settle = .ok (known file clauses verbose)
  hasFile : arguments.hasFile = file.isSome
  awaitsClause : arguments.awaitsClause = false
  onlyFiles : arguments.onlyFiles = false

theorem settles_known (file : Option String) (clauses : List Clause) (verbose : Bool) :
    Settles (known file clauses verbose) file clauses verbose := ⟨rfl, rfl, rfl, rfl⟩

namespace Settles

variable {arguments : Arguments} {file : Option String} {clauses : List Clause} {verbose : Bool}
  (settles : Settles arguments file clauses verbose)

include settles

theorem read_clause (line : String) :
    arguments.read ("--where=" ++ line) = (known file clauses verbose).addClause line := by
  have chars : ("--where=" ++ line).toList = '-' :: '-' :: ("where=".toList ++ line.toList) := by
    rw [String.toList_append]
    rfl
  have attached : arguments.read ("--where=" ++ line) = arguments.readLong "where" (some line) := by
    rw [Arguments.read, settles.onlyFiles, chars]
    change arguments.readLong "where" (some (String.ofList line.toList)) = _
    rw [String.ofList_toList]
  rw [attached, readLong, settles.settle]
  rfl

theorem read_verbose (unset : verbose = false) :
    arguments.read "-v" = .ok (known file clauses true) := by
  have flag : arguments.read "-v" = arguments.readShort ['v'] := by
    rw [Arguments.read, settles.onlyFiles]
    rfl
  subst unset
  rw [flag, readShort, setVerbose, settles.settle]
  rfl

theorem exists_read_file {path : String} (names : NamesFile path) (unnamed : file = none) :
    ∃ next, arguments.read path = .ok next ∧ Settles next (some path) clauses verbose := by
  subst unnamed
  have plain : arguments.read path = arguments.readFile path := by
    have noFlag := names.noFlag
    rw [Arguments.read, settles.onlyFiles]
    cases chars : path.toList with
    | nil => simp [settles.awaitsClause]
    | cons first rest =>
        rw [chars, List.head?_cons, ne_eq, Option.some_inj] at noFlag
        simp [settles.awaitsClause, noFlag]
  refine ⟨{ known none clauses verbose with pending := .file path }, ?_, ?_, rfl, rfl, rfl⟩
  · rw [plain, readFile, settles.hasFile, settles.settle]
    rfl
  · simp [Arguments.settle, names.nonempty, known]

end Settles

theorem readAll_of_read {arguments next : Arguments} {argument : String}
    (read : arguments.read argument = .ok next) (rest : List String) :
    arguments.readAll (argument :: rest) = next.readAll rest := by
  rw [readAll, read]
  rfl

def readLines (lines : List String) : Except Halt (List Clause) :=
  lines.mapM fun line =>
    (Clause.ofLine line).mapError fun cause => .usage (.invalidClause line cause)

theorem readLines_cons_of_rejected {line : String} {cause : Failure}
    (rejected : Clause.ofLine line = .error cause) (rest : List String) :
    readLines (line :: rest) = .error (.usage (.invalidClause line cause)) := by
  rw [readLines, List.mapM_cons, rejected]
  rfl

theorem readLines_cons_of_accepted {line : String} {clause : Clause}
    (accepted : Clause.ofLine line = .ok clause) (rest : List String) :
    readLines (line :: rest) = (readLines rest).map (clause :: ·) := by
  rw [readLines, List.mapM_cons, accepted]
  change (do let values ← readLines rest; pure (clause :: values)) = _
  cases readLines rest <;> rfl

theorem readLines_of_accepted {lines : List String} {clauses : List Clause}
    (accepted : List.Forall₂ (fun line clause => Clause.ofLine line = .ok clause) lines clauses) :
    readLines lines = .ok clauses :=
  mapM_eq_ok_iff.mpr (accepted.imp fun line clause read => by rw [read]; rfl)

theorem exists_readLines_of_rejected {line : String} {cause : Failure}
    (rejected : Clause.ofLine line = .error cause) {lines : List String} (member : line ∈ lines) :
    ∃ first reason, readLines lines = .error (.usage (.invalidClause first reason)) := by
  induction lines with
  | nil => cases member
  | cons head rest ih =>
      cases outcome : Clause.ofLine head with
      | error reason => exact ⟨head, reason, readLines_cons_of_rejected outcome rest⟩
      | ok clause =>
          have behind : line ∈ rest := by
            rcases List.mem_cons.mp member with rfl | behind
            · rw [rejected] at outcome
              cases outcome
            · exact behind
          obtain ⟨first, reason, failed⟩ := ih behind
          refine ⟨first, reason, ?_⟩
          rw [readLines_cons_of_accepted outcome, failed]
          rfl

/-- The lines are read in their order, wherever the file and the flag stand among them. -/
theorem readAll_given {path? : Option String} (names : ∀ path ∈ path?, NamesFile path)
    {arguments : Arguments} {file : Option String} {clauses : List Clause}
    {verbose : Bool} (settles : Settles arguments file clauses verbose) {given : List Given}
    (files : file.toList ++ given.filterMap Given.path? = path?.toList)
    (flag : verbose.toNat + given.count .verbose ≤ 1) :
    arguments.readAll (given.map Given.argument) =
      (readLines (given.filterMap Given.line?)).bind fun more =>
        (known path? (clauses ++ more) (verbose || given.contains .verbose)).readAll [] := by
  -- The file may still be pending while more is read, so the induction carries `Settles`.
  induction given generalizing arguments file clauses verbose with
  | nil =>
      have same : file = path? := by
        cases file <;> cases path? <;> simp_all
      have done : arguments.readAll [] = (known file clauses verbose).readAll [] := by
        rw [readAll, settles.settle]
        rfl
      simpa [readLines, same, Except.bind, pure, Except.pure] using done
  | cons first rest ih =>
      rw [List.map_cons]
      cases first with
      | file path =>
          change file.toList ++ path :: rest.filterMap Given.path? = _ at files
          have named : path? = some path ∧ file = none := by
            cases file <;> cases path? <;> simp_all
          obtain ⟨named, unnamed⟩ := named
          obtain ⟨next, read, settles⟩ := settles.exists_read_file (names path named) unnamed
          have tail := ih settles (by simpa [unnamed] using files) (by simpa using flag)
          have lines : (Given.file path :: rest).filterMap Given.line? =
            rest.filterMap Given.line? := rfl
          rw [Given.argument, readAll_of_read read, tail, lines]
          simp
      | clause line =>
          have lines : (Given.clause line :: rest).filterMap Given.line? =
            line :: rest.filterMap Given.line? := rfl
          rw [Given.argument, lines]
          cases outcome : Clause.ofLine line with
          | error cause =>
              rw [readLines_cons_of_rejected outcome, readAll, settles.read_clause, addClause,
                outcome]
              rfl
          | ok clause =>
              have read : arguments.read ("--where=" ++ line) =
                  .ok (known file (clauses ++ [clause]) verbose) := by
                rw [settles.read_clause, addClause, outcome]
                rfl
              have tail := ih (settles_known file (clauses ++ [clause]) verbose) files
                (by simpa using flag)
              rw [readAll_of_read read, tail, readLines_cons_of_accepted outcome]
              cases readLines (rest.filterMap Given.line?) <;> simp [Except.bind, Except.map]
      | verbose =>
          have lines : (Given.verbose :: rest).filterMap Given.line? =
            rest.filterMap Given.line? := rfl
          rw [List.count_cons_self] at flag
          have unset : verbose = false := by
            cases verbose with
            | false => rfl
            | true => exact absurd flag (by simp)
          have last : true.toNat + rest.count .verbose ≤ 1 := by
            rw [Bool.toNat_true]
            omega
          have tail := ih (settles_known file clauses true) files last
          rw [Given.argument, readAll_of_read (settles.read_verbose unset), tail, lines]
          simp

theorem readAll_known {path? : Option String} {clauses : List Clause}
    (asked : path? ≠ none ∨ clauses ≠ []) (verbose : Bool) :
    (known path? clauses verbose).readAll [] = .ok (known path? clauses verbose) := by
  have nonempty : (known path? clauses verbose).isEmpty = false := by
    cases path? <;> cases clauses <;> simp_all [known, isEmpty]
  change (if (known path? clauses verbose).isEmpty then _ else _) = _
  rw [nonempty]
  rfl

theorem extend_append (query : Query) (first second : List Clause) :
    extend query (first ++ second) = (extend query first).bind (extend · second) := by
  rw [extend, Clause.applyAll_append, extend]
  cases outcome : (Clause.applyAll query first).failure with
  | none => rfl
  | some cause => simp [outcome, Except.bind]

theorem extend_empty (clauses : List Clause) :
    ((extend .empty clauses).map Query.filter) =
      (Document.mk clauses).filter.mapError .inapplicable := by
  rw [extend, Document.filter, Document.apply]
  cases (Clause.applyAll .empty clauses).failure <;> rfl

end Arguments

/-- The document with the clauses of the file, if one is named. -/
def documentAt (lookup : String → File.Entry) : Option String → Except Failure Document
  | none => .ok ⟨[]⟩
  | some path => Document.load lookup path

theorem Arguments.filter_known {lookup : String → File.Entry} {path? : Option String}
    {document : Document} (loaded : documentAt lookup path? = .ok document)
    (clauses : List Clause) (verbose : Bool) :
    (known path? clauses verbose).filter lookup =
      (Document.mk (document.clauses ++ clauses)).filter.mapError .inapplicable := by
  have start : (known path? clauses verbose).start lookup = extend .empty document.clauses := by
    rw [Arguments.start, known]
    cases path? with
    | none =>
        cases loaded
        rfl
    | some path =>
        rw [documentAt] at loaded
        simp only [loaded]
  rw [Arguments.filter, start, ← extend_empty, extend_append]
  cases extend .empty document.clauses with
  | error cause => rfl
  | ok query =>
    simp only [Except.bind, known, bind]
    cases extend query clauses <;> rfl

section Run

variable {lookup : String → File.Entry} {given : List String}

theorem run_of_usage {cause : UsageError}
    (failed : Arguments.empty.readAll given = .error (.usage cause)) :
    run lookup given = ⟨2, "", some (usageReport cause)⟩ := by
  simp only [run, failed]

theorem run_of_error {arguments : Arguments} {cause : RunError}
    (read : Arguments.empty.readAll given = .ok arguments)
    (failed : arguments.filter lookup = .error cause) :
    run lookup given = ⟨1, "", some (firstLine ("Error: " ++ cause.message))⟩ := by
  simp only [run, read, failed]

theorem run_of_filter {arguments : Arguments} {filter : String}
    (read : Arguments.empty.readAll given = .ok arguments)
    (applied : arguments.filter lookup = .ok filter) :
    run lookup given = ⟨0, filter ++ "\n", none⟩ := by
  simp only [run, read, applied]

end Run

theorem message_file (path : String) (cause : Failure) :
    "Error: " ++ (RunError.file path cause).message =
      "Error: Failed to load filter document " ++ path := by
  have context : "Error: " ++ "Failed to load filter document " =
    "Error: Failed to load filter document " := by decide +kernel
  change "Error: " ++ ("Failed to load filter document " ++ path) = _
  rw [← String.append_assoc, context]

/-- Neither a line feed nor a carriage return. -/
def staysOnLine (c : Char) : Bool := c != '\n' && c != '\r'

theorem firstLine_of_staysOnLine {text : String} (line : text.toList.all staysOnLine = true) :
    firstLine text = text := by
  have stays : ∀ c ∈ text.toList, c ≠ '\n' ∧ c ≠ '\r' := by
    intro c member
    simpa [staysOnLine] using List.all_eq_true.mp line c member
  have whole : text.toList.takeWhile (· != '\n') = text.toList :=
    List.takeWhile_eq_self_iff.mpr fun c member => by simpa using (stays c member).1
  have noReturn : (text.toList.getLast? == some '\r') = false := by
    rw [beq_eq_false_iff_ne]
    exact fun last => (stays '\r' (List.mem_of_getLast? last)).2 rfl
  rw [firstLine, whole, dropReturn, noReturn, if_neg Bool.false_ne_true, String.ofList_toList]

theorem firstLine_inapplicable (cause : Inapplicable) :
    firstLine ("Error: " ++ (Failure.inapplicable cause).message) =
      "Error: " ++ (Failure.inapplicable cause).message := by
  have token : cause.operator.token.toList.all staysOnLine = true := by
    cases cause.operator <;> decide
  have name : cause.kind.name.toList.all staysOnLine = true := by
    cases cause.kind <;> decide
  apply firstLine_of_staysOnLine
  change ("Error: " ++ ("Invalid operator: " ++ cause.operator.token ++ " for type " ++
    cause.kind.name)).toList.all staysOnLine = true
  simp only [String.toList_append, List.all_append, token, name, Bool.and_true]
  decide

/-- What a run reports on a file, if one is given, and on lines with clauses. -/
structure Reports (lookup : String → File.Entry) (path? : Option String) (lines : List String)
    (report : Report) : Prop where
  /-- A line that is rejected is an error in the use of the command line, whatever the file is. -/
  rejected : ∀ line ∈ lines, ∀ cause, Clause.ofLine line = .error cause →
    report.exitCode = 2 ∧ report.output = ""
  /-- A file that cannot be loaded is reported if no line is rejected. -/
  unloaded : ∀ clauses,
    List.Forall₂ (fun line clause => Clause.ofLine line = .ok clause) lines clauses →
      ∀ path ∈ path?, ∀ cause, Document.load lookup path = .error cause →
        report = ⟨1, "", some (firstLine ("Error: Failed to load filter document " ++ path))⟩
  /-- A clause that cannot be applied, of the file or of a line, is reported, and nothing is
  printed. -/
  refused : ∀ clauses,
    List.Forall₂ (fun line clause => Clause.ofLine line = .ok clause) lines clauses →
      ∀ document, documentAt lookup path? = .ok document →
        ∀ cause, (Document.mk (document.clauses ++ clauses)).filter = .error cause →
          report = ⟨1, "", some ("Error: " ++ (Failure.inapplicable cause).message)⟩
  /-- Otherwise the filter of the clauses of the file, and then those of the lines, is printed. -/
  printed : ∀ clauses,
    List.Forall₂ (fun line clause => Clause.ofLine line = .ok clause) lines clauses →
      ∀ document, documentAt lookup path? = .ok document →
        ∀ filter, (Document.mk (document.clauses ++ clauses)).filter = .ok filter →
          report = ⟨0, filter ++ "\n", none⟩

/-- A file, clauses on lines and a flag may be given in any order. -/
theorem run_given (lookup : String → File.Entry) (path? : Option String) (given : List Given)
    (names : ∀ path ∈ path?, NamesFile path)
    (files : given.filterMap Given.path? = path?.toList) (flag : given.count .verbose ≤ 1)
    (asked : path? ≠ none ∨ given.filterMap Given.line? ≠ []) :
    Reports lookup path? (given.filterMap Given.line?)
      (run lookup (given.map Given.argument)) := by
  have read : Arguments.empty.readAll (given.map Given.argument) = _ :=
    Arguments.readAll_given names (Arguments.settles_known none [] false)
      (by simpa using files) (by simpa using flag)
  have accept {clauses : List Clause} (accepted : List.Forall₂
      (fun line clause => Clause.ofLine line = .ok clause)
      (given.filterMap Given.line?) clauses) :
      ∃ verbose, Arguments.empty.readAll (given.map Given.argument) =
        .ok (Arguments.known path? clauses verbose) := by
    have nonempty : path? ≠ none ∨ clauses ≠ [] := by
      refine asked.imp_right fun lines empty => lines ?_
      rw [empty] at accepted
      exact List.forall₂_nil_right_iff.mp accepted
    rw [Arguments.readLines_of_accepted accepted] at read
    exact ⟨_, read.trans (Arguments.readAll_known nonempty _)⟩
  constructor
  case rejected =>
    intro line member cause rejected
    obtain ⟨first, reason, failed⟩ := Arguments.exists_readLines_of_rejected rejected member
    rw [failed] at read
    rw [run_of_usage read]
    exact ⟨rfl, rfl⟩
  case unloaded =>
    intro clauses accepted path named cause failed
    obtain ⟨verbose, known⟩ := accept accepted
    rw [Option.mem_def] at named
    subst named
    have filter : (Arguments.known (some path) clauses verbose).filter lookup =
        .error (.file path cause) := by
      simp only [Arguments.filter, Arguments.start, Arguments.known, failed]
      rfl
    rw [run_of_error known filter, message_file]
  case refused =>
    intro clauses accepted document loaded cause refused
    obtain ⟨verbose, known⟩ := accept accepted
    have filter := Arguments.filter_known loaded clauses verbose
    rw [refused] at filter
    rw [run_of_error known filter, ← firstLine_inapplicable]
    rfl
  case printed =>
    intro clauses accepted document loaded text applied
    obtain ⟨verbose, known⟩ := accept accepted
    have filter := Arguments.filter_known loaded clauses verbose
    rw [applied] at filter
    exact run_of_filter known filter

/-- The line stands behind the file, and the flag between them. -/
theorem run_given_price :
    Reports (fun _ => .content "\x7b\x7d".toUTF8) (some "none.json") ["price < 5"]
        (run (fun _ => .content "\x7b\x7d".toUTF8) ["none.json", "-v", "--where=price < 5"]) ∧
      run (fun _ => .content "\x7b\x7d".toUTF8) ["none.json", "-v", "--where=price < 5"] =
        ⟨0, "price < 5\n", none⟩ := by
  have names : ∀ path ∈ some "none.json", NamesFile path := by
    rintro path named
    cases named
    exact ⟨by decide, by decide⟩
  have reports := run_given (fun _ => .content "\x7b\x7d".toUTF8) (some "none.json")
    [.file "none.json", .verbose, .clause "price < 5"] names rfl (by decide) (.inl (by decide))
  have read : Clause.ofLine "price < 5" = .ok (.comparison "price" .less (.text "5")) := by
    decide +kernel
  have loaded : documentAt (fun _ => .content "\x7b\x7d".toUTF8) (some "none.json") =
      .ok ⟨[]⟩ := by
    decide +kernel
  exact ⟨reports, reports.printed _ (.cons read .nil) _ loaded "price < 5" (by decide +kernel)⟩

end FilterQuery.CommandLine
