import SysCon.Sysmodule.IniEntries

/-!
A bad line among the lines of a file: it sets the error and leaves the rest of
the parse alone, so the file has the same entries with it and without it.
-/

namespace SysCon.Ini

open CLibrary

/-- A line that is neither blank, indented, a comment nor a header, without `=` and `:`. -/
structure Malformed (line : CString) : Prop where
  oneLine : '\n' ∉ line
  noEquals : '=' ∉ line
  noColon : ':' ∉ line
  start : ∃ first rest, line = first :: rest ∧ isspace first = false ∧ first ≠ '\x00' ∧
    first ≠ ';' ∧ first ≠ '#' ∧ first ≠ '['

theorem findCharsOrComment_mem {chars : CString} {wasSpace : Bool} {s : CString} {c : Char}
    (found : (findCharsOrComment chars wasSpace s).2.head? = some c) : c ∈ s := by
  induction s generalizing wasSpace with
  | nil => simp [findCharsOrComment] at found
  | cons first rest ih =>
      rw [findCharsOrComment] at found
      by_cases stops : first ∈ chars ∨ (wasSpace ∧ first = ';')
      · rw [if_pos stops] at found
        simp only [List.head?_cons, Option.some.injEq] at found
        rw [found]
        exact List.mem_cons_self
      · rw [if_neg stops] at found
        exact List.mem_cons_of_mem _ (ih found)

theorem rstrip_cons {first : Char} (visible : isspace first = false) (rest : CString) :
    rstrip (first :: rest) = first :: rstrip rest := by
  unfold rstrip
  rw [List.reverse_cons, List.dropWhile_append]
  cases stripped : rest.reverse.dropWhile isspace with
  | nil => simp [visible]
  | cons last before => simp

theorem mem_of_mem_rstrip {c : Char} {s : CString} (member : c ∈ rstrip s) : c ∈ s := by
  unfold rstrip at member
  rw [List.mem_reverse] at member
  exact List.mem_reverse.mp ((List.dropWhile_sublist _).subset member)

section Line

variable {user : Type} {handler : Handler user} {state : ParseState user} {line : CString}

theorem parsePair_malformed (noEquals : '=' ∉ line) (noColon : ':' ∉ line) :
    parsePair handler state line = state.fail := by
  unfold parsePair
  cases split : findCharsOrComment ['=', ':'] false line with
  | mk name found =>
      have assigns : ¬(found.head? = some '=' ∨ found.head? = some ':') := by
        rintro (equals | colon)
        · exact noEquals (findCharsOrComment_mem (by rw [split]; exact equals))
        · exact noColon (findCharsOrComment_mem (by rw [split]; exact colon))
      simp only [if_neg assigns]

theorem parseLine_malformed (malformed : Malformed line) (notFirst : state.lineno ≠ 0) :
    parseLine handler state line = { state with lineno := state.lineno + 1 }.fail := by
  obtain ⟨first, rest, lineIs, visible, notNul, notSemicolon, notHash, notBracket⟩ :=
    malformed.start
  have shown : line.takeWhile (· ≠ '\x00') = first :: rest.takeWhile (· ≠ '\x00') := by
    rw [lineIs, List.takeWhile_cons_of_pos (by simpa using notNul)]
  have noBom (bytes : CString) : skipBom (state.lineno + 1) bytes = bytes := by
    rw [skipBom, if_neg (fun both => notFirst (Nat.succ.inj both.1))]
  have start : lskip (first :: rstrip (rest.takeWhile (· ≠ '\x00'))) =
      first :: rstrip (rest.takeWhile (· ≠ '\x00')) := by
    rw [lskip, List.dropWhile_cons_of_neg (by simp [visible])]
  have inside {c : Char} (member : c ∈ first :: rstrip (rest.takeWhile (· ≠ '\x00'))) :
      c ∈ line := by
    rw [lineIs]
    rcases List.mem_cons.mp member with same | later
    · exact List.mem_cons.mpr (Or.inl same)
    · exact List.mem_cons_of_mem _
        ((List.takeWhile_sublist _).subset (mem_of_mem_rstrip later))
  unfold parseLine
  simp only [shown, noBom, rstrip_cons visible, start]
  rw [if_neg (by simp [notSemicolon, notHash]), if_neg (by simp), if_neg notBracket]
  exact parsePair_malformed (fun member => malformed.noEquals (inside member))
    (fun member => malformed.noColon (inside member))

end Line

/-! Two parses that differ in the number of the line and in the error. -/

structure SameReading {user : Type} (first second : ParseState user) : Prop where
  sectionName : first.sectionName = second.sectionName
  prevName : first.prevName = second.prevName
  data : first.data = second.data
  firstStarted : first.lineno ≠ 0
  secondStarted : second.lineno ≠ 0

namespace SameReading

variable {user : Type} {handler : Handler user} {first second : ParseState user}

theorem fail (same : SameReading first second) : SameReading first.fail second.fail :=
  ⟨same.sectionName, same.prevName, same.data, same.firstStarted, same.secondStarted⟩

theorem handle (same : SameReading first second) (name value : CString) :
    SameReading (first.handle handler name value) (second.handle handler name value) := by
  unfold ParseState.handle
  rw [same.data, same.sectionName]
  cases handler second.data second.sectionName name value with
  | mk result data =>
      have stored : SameReading { first with data } { second with data } :=
        ⟨same.sectionName, same.prevName, rfl, same.firstStarted, same.secondStarted⟩
      rw [same.sectionName] at stored
      by_cases failed : result = 0
      · simp only [if_pos failed]
        exact stored.fail
      · simp only [if_neg failed]
        exact stored

theorem parseHeader (same : SameReading first second) (start : CString) :
    SameReading (Ini.parseHeader first start) (Ini.parseHeader second start) := by
  unfold Ini.parseHeader
  cases findCharsOrComment [']'] false start.tail with
  | mk header found =>
      by_cases closed : found.head? = some ']'
      · simp only [if_pos closed]
        exact ⟨rfl, rfl, same.data, same.firstStarted, same.secondStarted⟩
      · simp only [if_neg closed]
        exact same.fail

theorem parsePair (same : SameReading first second) (start : CString) :
    SameReading (Ini.parsePair handler first start) (Ini.parsePair handler second start) := by
  unfold Ini.parsePair
  cases findCharsOrComment ['=', ':'] false start with
  | mk name found =>
      by_cases assigns : found.head? = some '=' ∨ found.head? = some ':'
      · simp only [if_pos assigns]
        have named : SameReading { first with prevName := (rstrip name).take (MAX_NAME - 1) }
            { second with prevName := (rstrip name).take (MAX_NAME - 1) } :=
          ⟨same.sectionName, rfl, same.data, same.firstStarted, same.secondStarted⟩
        exact named.handle _ _
      · simp only [if_neg assigns]
        exact same.fail

theorem parseLine (same : SameReading first second) (line : CString) :
    SameReading (Ini.parseLine handler first line) (Ini.parseLine handler second line) := by
  have noBom {state : ParseState user} (started : state.lineno ≠ 0) (bytes : CString) :
      skipBom (state.lineno + 1) bytes = bytes := by
    rw [skipBom, if_neg (fun both => started (Nat.succ.inj both.1))]
  have counted : SameReading { first with lineno := first.lineno + 1 }
      { second with lineno := second.lineno + 1 } :=
    ⟨same.sectionName, same.prevName, same.data, Nat.succ_ne_zero _, Nat.succ_ne_zero _⟩
  unfold Ini.parseLine
  simp only [noBom same.firstStarted, noBom same.secondStarted]
  rw [same.prevName] at counted ⊢
  generalize rstrip (line.takeWhile (· ≠ '\x00')) = stripped
  cases lskip stripped with
  | nil => exact counted
  | cons initial rest =>
      simp only
      by_cases comment : initial = ';' ∨ initial = '#'
      · rw [if_pos comment, if_pos comment]
        exact counted
      · rw [if_neg comment, if_neg comment]
        split
        · exact counted.handle _ _
        · by_cases header : initial = '['
          · rw [if_pos header, if_pos header]
            exact counted.parseHeader _
          · rw [if_neg header, if_neg header]
            exact counted.parsePair _

theorem foldl (same : SameReading first second) (lines : List CString) :
    SameReading (lines.foldl (Ini.parseLine handler) first)
      (lines.foldl (Ini.parseLine handler) second) := by
  induction lines generalizing first second with
  | nil => exact same
  | cons line rest ih => exact ih (same.parseLine line)

end SameReading

section Progress

variable {user : Type} (handler : Handler user)

structure Counts (before after : ParseState user) : Prop where
  lineno : after.lineno = before.lineno
  error : before.error ≠ 0 → after.error = before.error

theorem Counts.fail (state : ParseState user) : Counts state state.fail :=
  ⟨rfl, fun failed => if_neg failed⟩

theorem Counts.handle (state : ParseState user) (name value : CString) :
    Counts state (state.handle handler name value) := by
  unfold ParseState.handle
  cases handler state.data state.sectionName name value with
  | mk result data =>
      by_cases failed : result = 0
      · simp only [if_pos failed]
        exact ⟨rfl, (Counts.fail { state with data }).error⟩
      · simp only [if_neg failed]
        exact ⟨rfl, fun _ => rfl⟩

theorem Counts.parseHeader (state : ParseState user) (start : CString) :
    Counts state (Ini.parseHeader state start) := by
  unfold Ini.parseHeader
  cases findCharsOrComment [']'] false start.tail with
  | mk header found =>
      by_cases closed : found.head? = some ']'
      · simp only [if_pos closed]
        exact ⟨rfl, fun _ => rfl⟩
      · simp only [if_neg closed]
        exact Counts.fail state

theorem Counts.parsePair (state : ParseState user) (start : CString) :
    Counts state (Ini.parsePair handler state start) := by
  unfold Ini.parsePair
  cases findCharsOrComment ['=', ':'] false start with
  | mk name found =>
      by_cases assigns : found.head? = some '=' ∨ found.head? = some ':'
      · simp only [if_pos assigns]
        have handled := Counts.handle handler
          { state with prevName := (rstrip name).take (MAX_NAME - 1) } (rstrip name) (valueOf found)
        exact ⟨handled.lineno, handled.error⟩
      · simp only [if_neg assigns]
        exact Counts.fail state

theorem Counts.parseLine (state : ParseState user) (line : CString) :
    Counts { state with lineno := state.lineno + 1 } (Ini.parseLine handler state line) := by
  unfold Ini.parseLine
  simp only
  generalize rstrip (skipBom (state.lineno + 1) (line.takeWhile (· ≠ '\x00'))) = stripped
  cases lskip stripped with
  | nil => exact ⟨rfl, fun _ => rfl⟩
  | cons initial rest =>
      simp only
      by_cases comment : initial = ';' ∨ initial = '#'
      · rw [if_pos comment]
        exact ⟨rfl, fun _ => rfl⟩
      · rw [if_neg comment]
        split
        · exact Counts.handle handler _ _ _
        · by_cases header : initial = '['
          · rw [if_pos header]
            exact Counts.parseHeader _ _
          · rw [if_neg header]
            exact Counts.parsePair handler _ _

theorem foldl_lineno (lines : List CString) (state : ParseState user) :
    (lines.foldl (parseLine handler) state).lineno = state.lineno + lines.length := by
  induction lines generalizing state with
  | nil => rfl
  | cons line rest ih =>
      rw [List.foldl_cons, ih, (Counts.parseLine handler state line).lineno, List.length_cons]
      simp only
      omega

theorem foldl_error (lines : List CString) {state : ParseState user} (failed : state.error ≠ 0) :
    (lines.foldl (parseLine handler) state).error = state.error := by
  induction lines generalizing state with
  | nil => rfl
  | cons line rest ih =>
      have kept := (Counts.parseLine handler state line).error failed
      rw [List.foldl_cons, ih (by rw [kept]; exact failed), kept]

end Progress

theorem recordLines_error_of_append {lines rest : List CString}
    (clean : (recordLines (lines ++ rest)).error = 0) : (recordLines lines).error = 0 := by
  by_contra failed
  have kept := foldl_error recordEntry rest failed
  unfold recordLines at clean failed kept
  rw [List.foldl_append, kept] at clean
  exact failed clean

theorem recordLines_malformed {lines : List CString} (begun : lines ≠ []) {bad : CString}
    (malformed : Malformed bad) (rest : List CString) :
    (recordLines (lines ++ bad :: rest)).data = (recordLines (lines ++ rest)).data ∧
      (recordLines (lines ++ bad :: rest)).error ≠ 0 := by
  unfold recordLines
  rw [List.foldl_append, List.foldl_append, List.foldl_cons]
  have started : (lines.foldl (parseLine recordEntry) { data := [] }).lineno ≠ 0 := by
    have filled := List.length_pos_iff.mpr begun
    rw [foldl_lineno]
    omega
  generalize lines.foldl (parseLine recordEntry) { data := [] } = state at started ⊢
  rw [parseLine_malformed malformed started]
  have same : SameReading { state with lineno := state.lineno + 1 }.fail state :=
    ⟨rfl, rfl, rfl, Nat.succ_ne_zero _, started⟩
  have failed : { state with lineno := state.lineno + 1 }.fail.error ≠ 0 := by
    simp only [ParseState.fail]
    by_cases first : state.error = 0
    · rw [if_pos first]
      exact Nat.succ_ne_zero _
    · rw [if_neg first]
      exact first
  refine ⟨(same.foldl rest).data, ?_⟩
  rw [foldl_error recordEntry rest failed]
  exact failed

end SysCon.Ini
